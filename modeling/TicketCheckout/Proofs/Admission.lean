import TicketCheckout.Proofs.Moves
import Mathlib.Data.List.Nodup

/-!
# The ledger of general admission

An offer's units sold are, all along a run, its units sold at the start plus the
general-admission units that the lines of its pending and completed orders take
(`heldUnits`), and never leave the offer's bounds (`units_sold_match_held_orders`). Placing an
order reserves its lines' units (`Reserved.stock`); completing it keeps them; failing or
cancelling it gives them back, once, since only a pending order moves (`Released.stock`).

The offers are followed as the start's offers shifted by a number of units per offer id
(`shiftSold`); in a store whose offer ids are unique, a reservation or a release shifts its one
offer (`Tables.updateOffer_shift`).
-/

namespace TicketCheckout

open Store Number

/-- Whether an order line takes general-admission units of offer `id`. -/
def OrderLine.takesUnitsOf (id : Int) (l : OrderLine) : Bool := l.seatId.isNone && l.offerId == id

/-- The general-admission units of offer `id` that lines take. -/
def unitsTaken (id : Int) (ls : List OrderLine) : Int :=
  ((ls.filter (·.takesUnitsOf id)).map (·.quantity)).sum

theorem unitsTaken_nil (id : Int) : unitsTaken id [] = 0 := rfl

theorem unitsTaken_cons (id : Int) (l : OrderLine) (ls : List OrderLine) :
    unitsTaken id (l :: ls) = (if l.takesUnitsOf id then l.quantity else 0) + unitsTaken id ls := by
  by_cases hl : l.takesUnitsOf id <;> simp [unitsTaken, hl]

namespace Store

/-- Whether an order holds what its lines reserved: it is pending or completed. -/
def OrderRow.holdsStock (o : OrderRow) : Bool :=
  o.status == OrderStatus.pending.name || o.status == OrderStatus.completed.name

/-- Whether a stored line takes general-admission units of offer `id`. -/
def LineRow.takesUnitsOf (id : Int) (l : LineRow) : Bool := l.seatId.isNone && l.offerId == id

/-- The general-admission units of offer `id` that the lines of pending and completed orders
hold. -/
def heldUnits (orders : List OrderRow) (id : Int) : Int :=
  ((((orders.filter (·.holdsStock)).flatMap (·.lines)).filter (·.takesUnitsOf id)).map
    (·.quantity)).sum

/-- The offers with `units id` more units sold of each offer `id`. -/
def shiftSold (units : Int → Int) (offers : List OfferRow) : List OfferRow :=
  offers.map fun f => { f with sold := f.sold + units f.id }

/-! ## Counting held units -/

theorem heldUnits_append (a b : List OrderRow) (id : Int) :
    heldUnits (a ++ b) id = heldUnits a id + heldUnits b id := by
  simp [heldUnits, List.filter_append, List.flatMap_append, List.sum_append]

/-- One order holds the units its lines, read as order lines, take, while it holds stock. -/
theorem heldUnits_singleton (o : OrderRow) (id : Int) :
    heldUnits [o] id = if o.holdsStock then unitsTaken id (o.lines.map LineRow.toLine) else 0 := by
  by_cases ho : o.holdsStock
  · simp only [heldUnits, List.filter_cons, ho, if_true, List.filter_nil, List.flatMap_cons,
      List.flatMap_nil, List.append_nil, unitsTaken, List.filter_map, List.map_map]
    rfl
  · simp [heldUnits, ho]

theorem heldUnits_nil (id : Int) : heldUnits [] id = 0 := rfl

theorem heldUnits_split (pre post : List OrderRow) (o o' : OrderRow) (id : Int) :
    heldUnits (pre ++ o' :: post) id =
      heldUnits (pre ++ o :: post) id - heldUnits [o] id + heldUnits [o'] id := by
  rw [show pre ++ o' :: post = pre ++ [o'] ++ post by simp,
    show pre ++ o :: post = pre ++ [o] ++ post by simp,
    heldUnits_append, heldUnits_append, heldUnits_append, heldUnits_append]
  omega

/-! ## Shifting units sold -/

theorem shiftSold_shiftSold (u v : Int → Int) (offers : List OfferRow) :
    shiftSold v (shiftSold u offers) = shiftSold (fun id => u id + v id) offers := by
  simp [shiftSold, Int.add_assoc]

theorem shiftSold_zero (offers : List OfferRow) : shiftSold (fun _ => 0) offers = offers := by
  simp [shiftSold]

/-- Every offer's units sold lie between zero and its units for sale. -/
def Tables.Bounded (st : Tables) : Prop := ∀ f ∈ st.offers, 0 ≤ f.sold ∧ f.sold ≤ f.forSale

namespace Tables

variable {st st' : Tables}

/-- In a store whose offer ids are unique, changing the units sold of the offer with an id by `q`
shifts that offer alone. -/
theorem updateOffer_shift (hk : (st.offers.map (·.id)).Nodup) {id : Int} {r : OfferRow}
    (hr : st.offer? id = some r) (q : Int) :
    (st.updateOffer { r with sold := r.sold + q }).offers =
      shiftSold (fun i => if i = id then q else 0) st.offers := by
  have hmem : r ∈ st.offers := List.mem_of_find?_eq_some hr
  have hid : r.id = id := by simpa using List.find?_some hr
  simp only [updateOffer, shiftSold]
  refine List.map_congr_left fun o ho => ?_
  by_cases hoid : o.id = id
  · obtain rfl : o = r := List.inj_on_of_nodup_map hk ho hmem (hoid.trans hid.symm)
    simp [hid]
  · have hne : (o.id == r.id) = false := by simp [hid, hoid]
    simp [hne, hoid]

/-- Replacing an offer by one within its bounds keeps every offer within its bounds. -/
theorem Bounded.updateOffer (hb : st.Bounded) {r : OfferRow} (hr : 0 ≤ r.sold ∧ r.sold ≤ r.forSale) :
    (st.updateOffer r).Bounded := by
  intro f hf
  obtain ⟨o, ho, rfl⟩ := List.mem_map.1 hf
  by_cases hor : o.id == r.id
  · simpa [hor] using hr
  · simpa [hor] using hb o ho

theorem reserve_stock (hk : (st.offers.map (·.id)).Nodup) (hb : st.Bounded) {id q : Int}
    (h : st.reserve id q = .ok st') :
    st'.offers = shiftSold (fun i => if i = id then q else 0) st.offers ∧ st'.Bounded := by
  obtain ⟨r, hr, hlow, hhigh, rfl⟩ := reserve_ok h
  exact ⟨updateOffer_shift hk hr q, hb.updateOffer ⟨hlow, hhigh⟩⟩

theorem release_stock (hk : (st.offers.map (·.id)).Nodup) (hb : st.Bounded) {id q : Int}
    (h : st.release id q = .ok st') :
    st'.offers = shiftSold (fun i => if i = id then -q else 0) st.offers ∧ st'.Bounded := by
  obtain ⟨r, hr, hlow, hhigh, rfl⟩ := release_ok h
  refine ⟨?_, hb.updateOffer ⟨hlow, hhigh⟩⟩
  rw [Int.sub_eq_add_neg]
  exact updateOffer_shift hk hr (-q)

theorem Bounded.of_offers (hb : st.Bounded) (hoffers : st'.offers = st.offers) : st'.Bounded := by
  intro f hf
  rw [hoffers] at hf
  exact hb f hf

theorem lockSeat_offers {eventId seatId tierId : Int} {expiresAt : Instant} {holder : OrderRef}
    (h : st.lockSeat eventId seatId tierId expiresAt holder = .ok st') : st'.offers = st.offers := by
  rw [(lockSeat_ok h).1]
  rfl

theorem unlockSeat_offers {eventId seatId : Int} {holder : OrderRef}
    (h : st.unlockSeat eventId seatId (some holder) = .ok st') : st'.offers = st.offers := by
  rw [unlockSeat_ok h]
  rfl

end Tables

end Store

/-- Stored lines, read back, take the general-admission units the lines took. -/
theorem unitsTaken_lineRows {ls : List OrderLine} {rows : List LineRow}
    (h : ls.mapM lineRow = .ok rows) (id : Int) :
    unitsTaken id (rows.map LineRow.toLine) = unitsTaken id ls := by
  have hrows := lineRows_forall₂ h
  clear h
  induction hrows with
  | nil => rfl
  | @cons l r ls rows hlr _ ih =>
    obtain ⟨hoffer, -, -, hseat, hquantity, -⟩ := lineRow_ok hlr
    rw [List.map_cons, unitsTaken_cons, unitsTaken_cons, ih]
    simp [OrderLine.takesUnitsOf, LineRow.toLine, hoffer, hseat, hquantity]

/-! ## What the loops of a unit of work do to the offers -/

/-- Reserving a cart sells the general-admission units its lines take, offer by offer, within
the offers' bounds. -/
theorem Reserved.stock {ref : OrderRef} {expiresAt : Instant} {lines : List CartLine}
    {st st' : Tables} {ls : List OrderLine} (h : Reserved ref expiresAt lines st ls st')
    (hk : (st.offers.map (·.id)).Nodup) (hb : st.Bounded) :
    st'.offers = shiftSold (fun id => unitsTaken id ls) st.offers ∧ st'.Bounded := by
  induction h with
  | nil st => exact ⟨(shiftSold_zero _).symm, hb⟩
  | @cons line rest st st₁ st₂ offer ls hoffer htake hrest ih =>
    -- the first line shifts its own offer, by its units when it has no seat
    have hfirst : st₁.offers = shiftSold (fun i =>
        if OrderLine.takesUnitsOf i ⟨offer.id, offer.eventId, offer.tierId, line.seatId,
          line.quantity, readAmount offer.price⟩ then line.quantity else 0) st.offers ∧
        st₁.Bounded := by
      cases hseat : line.seatId with
      | none =>
        simp only [hseat] at htake
        obtain ⟨hoffers, hb₁⟩ := Tables.reserve_stock hk hb htake
        refine ⟨hoffers.trans (congrArg (shiftSold · st.offers) (funext fun i => ?_)), hb₁⟩
        by_cases hi : i = offer.id
        · simp [OrderLine.takesUnitsOf, hi]
        · have hi' : offer.id ≠ i := fun h => hi h.symm
          simp [OrderLine.takesUnitsOf, hi, hi']
      | some seat =>
        simp only [hseat] at htake
        have hoffers := Tables.lockSeat_offers htake
        refine ⟨?_, hb.of_offers hoffers⟩
        simp [OrderLine.takesUnitsOf, hoffers, shiftSold_zero]
    have hk₁ : (st₁.offers.map (·.id)).Nodup := by
      rw [(Reserved.restock (.cons hoffer htake (.nil st₁))).offer_ids]
      exact hk
    obtain ⟨hoffers, hb₂⟩ := ih hk₁ hfirst.2
    refine ⟨?_, hb₂⟩
    rw [hoffers, hfirst.1, shiftSold_shiftSold]
    simp only [unitsTaken_cons]

/-- Giving an order's lines back returns the general-admission units they take, offer by offer,
within the offers' bounds. -/
theorem Released.stock {holder : OrderRef} {ls : List OrderLine} {st st' : Tables}
    (h : Released holder ls st st') (hk : (st.offers.map (·.id)).Nodup) (hb : st.Bounded) :
    st'.offers = shiftSold (fun id => -unitsTaken id ls) st.offers ∧ st'.Bounded := by
  induction h with
  | nil st => exact ⟨by simp [unitsTaken_nil, shiftSold_zero], hb⟩
  | @units l rest st st₁ st₂ hseat hrelease hrest ih =>
    obtain ⟨hoffers₁, hb₁⟩ := Tables.release_stock hk hb hrelease
    have hk₁ : (st₁.offers.map (·.id)).Nodup := by
      rw [(Tables.release_restock hrelease).offer_ids]
      exact hk
    obtain ⟨hoffers, hb₂⟩ := ih hk₁ hb₁
    refine ⟨?_, hb₂⟩
    rw [hoffers, hoffers₁, shiftSold_shiftSold]
    congr 1
    funext i
    rw [unitsTaken_cons]
    by_cases hi : i = l.offerId
    · simp [OrderLine.takesUnitsOf, hseat, hi]
      omega
    · have hi' : l.offerId ≠ i := fun h => hi h.symm
      simp [OrderLine.takesUnitsOf, hseat, hi, hi']
  | @unlocked l rest st st₁ st₂ seat hseat hunlock hrest ih =>
    have hoffers₁ := Tables.unlockSeat_offers hunlock
    obtain ⟨hoffers, hb₂⟩ := ih (hoffers₁ ▸ hk) (hb.of_offers hoffers₁)
    refine ⟨?_, hb₂⟩
    rw [hoffers, hoffers₁]
    simp [unitsTaken_cons, OrderLine.takesUnitsOf, hseat]
  | @skipped l rest st st₂ seat message hseat _ hrest ih =>
    obtain ⟨hoffers, hb₂⟩ := ih hk hb
    refine ⟨?_, hb₂⟩
    rw [hoffers]
    simp [unitsTaken_cons, OrderLine.takesUnitsOf, hseat]

/-! ## The ledger along a run -/

namespace Store.Tables

variable {st₀ st st' : Tables}

/-- Every offer is the offer of the start `st₀` with the general-admission units that pending
and completed orders hold sold on top of its units sold there, and lies within its bounds. -/
structure Stocked (st₀ st : Tables) : Prop where
  offers : st.offers = shiftSold (heldUnits st.orders) st₀.offers
  bounded : st.Bounded

theorem Fresh.stocked (h : st₀.Fresh) : Stocked st₀ st₀ := by
  refine ⟨?_, h.offers_bounded⟩
  have hnone : heldUnits st₀.orders = fun _ => 0 := by
    funext id
    rw [h.no_orders]
    rfl
  rw [hnone, shiftSold_zero]

theorem Stocked.of_same (hs : Stocked st₀ st) (hoffers : st'.offers = st.offers)
    (horders : st'.orders = st.orders) : Stocked st₀ st' :=
  ⟨by rw [hoffers, horders, hs.offers], hs.bounded.of_offers hoffers⟩

theorem holdsStock_withStatus (o : OrderRow) (target : OrderStatus) (now : Instant) :
    (o.withStatus target now).holdsStock = (target == .pending || target == .completed) := by
  cases target <;> rfl

theorem heldUnits_pairMoved {o : OrderRow} {p : PaymentRow} {target : OrderStatus}
    {pay : PaymentStatus} {now : Instant} (h : st.PairMoved st' o p target pay now) (id : Int) :
    heldUnits st'.orders id = heldUnits st.orders id - unitsTaken id (o.lines.map LineRow.toLine) +
      (if target == .pending || target == .completed then
        unitsTaken id (o.lines.map LineRow.toLine) else 0) := by
  obtain ⟨pre, post, hsplit, -, hst'⟩ := h.orders
  have hholds : o.holdsStock = true := by simp [OrderRow.holdsStock, h.order_pending]
  rw [hst', hsplit, heldUnits_split pre post o, heldUnits_singleton, heldUnits_singleton,
    holdsStock_withStatus, hholds, OrderRow.withStatus_lines, if_pos rfl]

/-- Every move keeps the ledger of general-admission units. -/
theorem Move.stocked (hk : st.Keyed) (hs : Stocked st₀ st) (h : Move st st') :
    Stocked st₀ st' := by
  cases h with
  | @place st₁ limits lines n expiresAt now ls userId fee currency order row payment _ hreserve
      hprice hrow _ _ _ _ =>
    obtain ⟨hoffers, hb⟩ := hreserve.stock hk.offer_ids hs.bounded
    obtain ⟨pricing, -, rfl⟩ := Order.place_ok hprice
    obtain ⟨-, -, hstatus, -, -, -, -, hlines⟩ := orderRow_ok hrow
    have hrestock := hreserve.restock
    refine ⟨?_, hb⟩
    -- the new order holds exactly the units its cart took
    have hheld : heldUnits [row] = fun id => unitsTaken id ls := by
      funext id
      rw [heldUnits_singleton, unitsTaken_lineRows hlines]
      simp [OrderRow.holdsStock, hstatus]
    show st₁.offers = shiftSold (heldUnits (st₁.orders ++ [row])) st₀.offers
    rw [hoffers, hs.offers, shiftSold_shiftSold, hrestock.orders]
    congr 1
    funext id
    rw [heldUnits_append, congrFun hheld id]
  | @complete st₁ st₂ o p now order order' first tickets hmoved _ _ hsell _ =>
    -- completing keeps what the order holds, and selling seats or storing tickets touches no
    -- offer
    have hst₂ := eq_updateSeats_fst hsell
    have hheld : heldUnits st₂.orders = heldUnits st.orders := by
      funext id
      rw [hst₂, updateSeats_fst, heldUnits_pairMoved hmoved id]
      simp
    have hoffers : st₂.offers = st.offers := by rw [hst₂, updateSeats_fst, hmoved.offers]
    refine ⟨?_, hs.bounded.of_offers hoffers⟩
    show st₂.offers = shiftSold (heldUnits st₂.orders) st₀.offers
    rw [hheld, hoffers, hs.offers]
  | @release st₁ st₂ o p target now hmoved htarget hrelease =>
    have hk₁ := hk.pairMoved hmoved
    obtain ⟨hoffers, hb⟩ := hrelease.stock hk₁.offer_ids (hs.bounded.of_offers hmoved.offers)
    refine ⟨?_, hb⟩
    have hheld : heldUnits st'.orders =
        fun id => heldUnits st.orders id + -unitsTaken id (o.lines.map LineRow.toLine) := by
      funext id
      rw [hrelease.restock.orders, heldUnits_pairMoved hmoved id]
      rcases htarget with rfl | rfl <;> simp <;> omega
    rw [hoffers, hmoved.offers, hs.offers, shiftSold_shiftSold, hheld]
  | releaseLocks now => exact hs.of_same rfl rfl

end Store.Tables

/-- Along every run from a fresh store, every offer has sold its starting units plus the
general-admission units that the lines of pending and completed orders take, and stays within
its bounds: no unit is sold twice over, lost, or given back twice. -/
theorem units_sold_match_held_orders {s₀ s : Session} (h0 : s₀.store.Fresh)
    (h : Reachable s₀ s) :
    s.store.offers = s₀.store.offers.map (fun f =>
      { f with sold := f.sold + heldUnits s.store.orders f.id }) ∧
    ∀ f ∈ s.store.offers, 0 ≤ f.sold ∧ f.sold ≤ f.forSale := by
  have hs : Tables.Stocked s₀.store s.store :=
    h.invariant h0 h0.stocked fun hk hs hm => Tables.Move.stocked hk hs hm
  exact ⟨hs.offers, hs.bounded⟩

/-- A run that places an order for two general-admission units: the offer has sold them. -/
theorem units_sold_from_one_offer :
    let s₀ := Session.start { offers := [⟨1, 1, 1, "Floor", ⟨0⟩, 10, 0⟩],
                              seats := [⟨1, 1, 1, "available", none, none⟩] } ⟨0⟩
    let rules : CheckoutRules := ⟨{}, .finite false 0 0, 15, "usd", .local⟩
    let s := ({ s₀ with now := ⟨0⟩ }.perform
      (.placeOrder rules ⟨1, .buyer⟩ [{ offerId := 1, quantity := 2 }])).2
    s₀.store.Fresh ∧ Reachable s₀ s ∧ heldUnits s.store.orders 1 = 2 ∧
      (s.store.offers = s₀.store.offers.map (fun f =>
        { f with sold := f.sold + heldUnits s.store.orders f.id }) ∧
      ∀ f ∈ s.store.offers, 0 ≤ f.sold ∧ f.sold ≤ f.forSale) :=
  have hfresh : Tables.Fresh _ := ⟨by decide, by decide, by decide, rfl, rfl, rfl⟩
  have hrun : Reachable _ _ := .step (c := .placeOrder ⟨{}, .finite false 0 0, 15, "usd", .local⟩
    ⟨1, .buyer⟩ [{ offerId := 1, quantity := 2 }]) ⟨0⟩ trivial .start
  ⟨hfresh, hrun, by decide +kernel, units_sold_match_held_orders hfresh hrun⟩

end TicketCheckout
