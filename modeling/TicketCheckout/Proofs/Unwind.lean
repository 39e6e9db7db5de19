import TicketCheckout.Proofs.Placement

/-!
# Giving an order up

A pending order that is cancelled, failed or expired is given up whole (`Tables.unwind`): the
order moves to its new status, its payment fails, the general-admission units its lines took go
back to their offers, and the rows at the places of its seat lines go back to available.

Giving back what an order holds goes through, line by line, whenever every offer has sold at
least the units the order's lines took of it and every row at the order's seat places is locked
for the order (`Tables.Unwindable`, `releaseInventory_run`): no release is refused and no seat
is skipped. With that, each of the three ways a pending order is given up commits exactly its
unwinding: a buyer's cancel (`cancelOrder_pending`), the processor's report that the payment
failed (`failPayment_pending`) and the sweep's expiry (`expireOrder_pending`).
-/

namespace TicketCheckout

open Store

namespace Store.Tables

/-- The store after the pending order `o` is given up as `target` at `now`: the order moves to
`target`, its payment fails, what its general-admission lines took goes back to their offers,
and the rows at its seat places go back to available. -/
def unwind (st : Tables) (o : OrderRow) (target : OrderStatus) (now : Instant) : Tables :=
  { st with
    orders := st.orders.map fun x => if x.ref = o.ref then x.withStatus target now else x
    payments := st.payments.map fun q => if q.order = o.ref then q.withStatus .failed else q
    offers := shiftSold (fun id => -unitsTaken id (o.lines.map LineRow.toLine)) st.offers
    seats := st.seats.map fun r => if r.place ∈ o.seatPlaces then r.free else r }

/-- What giving back the lines of order `o` needs of a store: unique offer ids and seat places,
offers within their bounds; lines with nonnegative quantities and integers that fit, each
general-admission line naming a stored offer that has sold at least the units the order's lines
take of it; seat lines at distinct places, each place holding a row locked for the order. -/
structure Unwindable (st : Tables) (o : OrderRow) : Prop where
  offer_ids : (st.offers.map (·.id)).Nodup
  bounded : st.Bounded
  seat_places : (st.seats.map SeatRow.place).Nodup
  quantities : ∀ l ∈ o.lines, 0 ≤ l.quantity
  fits : o.Fits
  offered : ∀ l ∈ o.lines, l.seatId = none → ∃ f ∈ st.offers, f.id = l.offerId
  stock : ∀ f ∈ st.offers, unitsTaken f.id (o.lines.map LineRow.toLine) ≤ f.sold
  apart : o.seatPlaces.Nodup
  held : ∀ P ∈ o.seatPlaces, ∃ r ∈ st.seats, r.place = P ∧ r.status = SeatStatus.locked.name ∧
    r.holder = some o.ref

variable {st st' : Tables}

theorem Unwindable.of_inventory {o : OrderRow} (h : st.Unwindable o)
    (hoffers : st'.offers = st.offers) (hseats : st'.seats = st.seats) : st'.Unwindable o :=
  ⟨hoffers ▸ h.offer_ids, h.bounded.of_offers hoffers, hseats ▸ h.seat_places, h.quantities,
    h.fits, hoffers ▸ h.offered, hoffers ▸ h.stock, h.apart, hseats ▸ h.held⟩

/-- Giving back units an offer has sold, staying within its bounds, takes them off its units
sold. -/
theorem release_eq (hk : (st.offers.map (·.id)).Nodup) {f : OfferRow} (hf : f ∈ st.offers)
    {q : Int} (hq : 0 ≤ q) (henough : q ≤ f.sold) (hle : f.sold ≤ f.forSale)
    (hfits : [f.id, q].all fitsInteger = true) :
    st.release f.id q = .ok (st.updateOffer { f with sold := f.sold - q }) := by
  have hfound : st.offer? f.id = some f := find?_of_mem hk hf
  have hbounds : (0 ≤ f.sold - q && f.sold - q ≤ f.forSale) = true := by
    simp only [Bool.and_eq_true, decide_eq_true_eq]
    omega
  unfold release
  rw [bindIntegers_of_fits hfits]
  simp only [bind, Except.bind, hfound]
  rw [if_pos henough]
  simp only [require, hbounds, if_true]
  rfl

/-- Unlocking, for its holder, the one row at a place that the holder has locked frees that
row. -/
theorem unlockSeat_held (hkeys : (st.seats.map SeatRow.place).Nodup) {eventId seatId : Int}
    {holder : OrderRef} (hfits : [eventId, seatId].all fitsInteger = true) {r : SeatRow}
    (hr : r ∈ st.seats) (hplace : r.place = (eventId, seatId))
    (hlocked : r.status = SeatStatus.locked.name) (hheld : r.holder = some holder) :
    st.unlockSeat eventId seatId (some holder) =
      .ok { st with seats := st.seats.map fun q =>
        if q.place = (eventId, seatId) then q.free else q } := by
  -- the guard selects the rows at the place, and the one row there is locked for the holder
  have hguard : ∀ q ∈ st.seats, (q.isAt eventId seatId && q.status == SeatStatus.locked.name &&
      q.holder == some holder) = true ↔ q.place = (eventId, seatId) := by
    intro q hq
    simp only [Bool.and_eq_true, beq_iff_eq, SeatRow.isAt_iff]
    constructor
    · exact fun h => h.1.1
    · intro hq'
      obtain rfl : q = r := List.inj_on_of_nodup_map hkeys hq hr (hq'.trans hplace.symm)
      exact ⟨⟨hq', hlocked⟩, hheld⟩
  have hcount : (st.seats.filter fun q => q.isAt eventId seatId &&
      q.status == SeatStatus.locked.name && q.holder == some holder).length ≠ 0 := by
    refine List.length_pos_iff.2 (List.ne_nil_of_mem (a := r) ?_) |>.ne'
    exact List.mem_filter.2 ⟨hr, (hguard r hr).2 hplace⟩
  unfold unlockSeat
  rw [bindIntegers_of_fits hfits]
  simp only [bind, Except.bind, updateSeats, bne_iff_ne, ne_eq, hcount, not_false_eq_true,
    if_true]
  congr 2
  exact map_guard_congr SeatRow.free hguard

/-- Settling the payment of an order, under unique keys, when it is pending settles that payment
alone. -/
theorem settleOf_pending (hk : st.Keyed) {p : PaymentRow} (hp : p ∈ st.payments)
    (hpending : p.status = PaymentStatus.pending.name) (target : PaymentStatus) :
    st.settleOf p.order target =
      ({ st with payments := st.payments.map fun q =>
          if q.order = p.order then q.withStatus target else q }, true) := by
  have hguard : ∀ q ∈ st.payments,
      (q.order == p.order && q.status == PaymentStatus.pending.name) = true ↔
        q.order = p.order := by
    intro q hq
    simp only [Bool.and_eq_true, beq_iff_eq, and_iff_left_iff_imp]
    intro horder
    obtain rfl := List.inj_on_of_nodup_map hk.payment_orders hq hp horder
    exact hpending
  have hany : st.payments.any
      (fun q => q.order == p.order && q.status == PaymentStatus.pending.name) :=
    List.any_eq_true.2 ⟨p, hp, (hguard p hp).2 rfl⟩
  simp only [settleOf, hany, if_true, Prod.mk.injEq, and_true]
  congr 1
  exact map_guard_congr (PaymentRow.withStatus target) hguard

/-- After a pending order moves, looking its reference up finds it moved. -/
theorem order?_moved (hrefs : (st.orders.map (·.ref)).Nodup) {o : OrderRow}
    (ho : o ∈ st.orders) (target : OrderStatus) (now : Instant)
    (hmoved : st'.orders = st.orders.map fun x =>
      if x.ref = o.ref then x.withStatus target now else x) :
    st'.order? o.ref = some (o.withStatus target now) := by
  refine order?_of_refs (o := o.withStatus target now) ?_ (hmoved ▸ List.mem_map.2 ⟨o, ho, if_pos rfl⟩)
  -- moving keeps every reference
  rw [hmoved, List.map_map]
  refine (List.map_congr_left fun x _ => ?_).trans rfl |>.symm ▸ hrefs
  by_cases hx : x.ref = o.ref <;> simp [hx]

theorem Unwindable.withStatus {o : OrderRow} (h : st.Unwindable o) (target : OrderStatus)
    (now : Instant) : st.Unwindable (o.withStatus target now) :=
  ⟨h.offer_ids, h.bounded, h.seat_places, h.quantities, h.fits, h.offered, h.stock, h.apart,
    h.held⟩

end Store.Tables

theorem unitsTaken_nonneg {ls : List OrderLine} (hq : ∀ l ∈ ls, 0 ≤ l.quantity) (id : Int) :
    0 ≤ unitsTaken id ls :=
  List.sum_nonneg fun x hx => by
    obtain ⟨l, hl, rfl⟩ := List.mem_map.1 hx
    exact hq l (List.mem_filter.1 hl).1

namespace Service

open Tables

variable {β : Type} {s : Session}

theorem bind_setStore (st : Tables) (k : Unit → Service β) :
    (setStore st >>= k) s = k () { s with store := st } := rfl

/-- Giving back the lines of an order goes through, line by line, when every offer has sold at
least the units the lines take of it and every place of a seat line holds one row, locked for the
order: the units go back to their offers and the rows at the seat places are freed. -/
theorem releaseInventory_run {o : Order} (hk : (s.store.offers.map (·.id)).Nodup)
    (hb : s.store.Bounded) (hkeys : (s.store.seats.map SeatRow.place).Nodup)
    (hq : ∀ l ∈ o.lines, 0 ≤ l.quantity)
    (hfits : ∀ l ∈ o.lines, ∀ n ∈ [l.offerId, l.eventId, l.quantity] ++ l.seatId.toList,
      fitsInteger n = true)
    (hoffered : ∀ l ∈ o.lines, l.seatId = none → ∃ f ∈ s.store.offers, f.id = l.offerId)
    (hstock : ∀ f ∈ s.store.offers, unitsTaken f.id o.lines ≤ f.sold)
    (hapart : (seatPlacesOf o.lines).Nodup)
    (hheld : ∀ P ∈ seatPlacesOf o.lines, ∃ r ∈ s.store.seats, r.place = P ∧
      r.status = SeatStatus.locked.name ∧ r.holder = some o.ref) :
    releaseInventory o s = .ok () { s with store := { s.store with
      offers := shiftSold (fun id => -unitsTaken id o.lines) s.store.offers
      seats := s.store.seats.map fun r => if r.place ∈ seatPlacesOf o.lines then r.free else r } } := by
  unfold releaseInventory
  -- the loop runs over the lines with the order's reference fixed
  generalize o.lines = ls at hq hfits hoffered hstock hapart hheld ⊢
  induction ls generalizing s with
  | nil => simp [unitsTaken_nil, seatPlacesOf, shiftSold_zero, pure, EStateM.pure]
  | cons l rest ih =>
    have hq' : ∀ l' ∈ rest, 0 ≤ l'.quantity := fun l' hl' => hq l' (List.mem_cons_of_mem _ hl')
    have hfits' := fun l' hl' => hfits l' (List.mem_cons_of_mem _ hl')
    simp only [List.forM]
    cases hseat : l.seatId with
    | none =>
      -- a general-admission line gives its units back to its offer
      obtain ⟨f, hf, hfid⟩ := hoffered l List.mem_cons_self hseat
      have htake : ∀ i, unitsTaken i (l :: rest) =
          (if i = f.id then l.quantity else 0) + unitsTaken i rest := by
        intro i
        rw [unitsTaken_cons]
        by_cases hi : i = f.id
        · simp [OrderLine.takesUnitsOf, hseat, hfid, hi]
        · have hi' : l.offerId ≠ i := fun h => hi (h ▸ hfid.symm)
          simp [OrderLine.takesUnitsOf, hseat, hi, hi']
      have henough : l.quantity ≤ f.sold := by
        have := hstock f hf
        rw [htake, if_pos rfl] at this
        have := unitsTaken_nonneg hq' f.id
        omega
      have hline := hfits l List.mem_cons_self
      have hrelease := release_eq hk hf (hq l List.mem_cons_self) henough (hb f hf).2
        (by simp [hfid, hline])
      have hshift : (s.store.updateOffer { f with sold := f.sold - l.quantity }).offers =
          shiftSold (fun i => if i = f.id then -l.quantity else 0) s.store.offers := by
        rw [Int.sub_eq_add_neg]
        exact updateOffer_shift hk (find?_of_mem hk hf) _
      have hrestock : Restock s.store (s.store.updateOffer { f with sold := f.sold - l.quantity }) :=
        updateOffer_restock _
      dsimp only
      rw [bind_write_run, ← hfid]
      simp only [hrelease]
      rw [ih (s := { s with store := s.store.updateOffer { f with sold := f.sold - l.quantity } })
        (by rw [hrestock.offer_ids]; exact hk)
        (hb.updateOffer (show 0 ≤ f.sold - l.quantity ∧ f.sold - l.quantity ≤ f.forSale by
          have := hb f hf; have := hq l List.mem_cons_self; omega)) hkeys hq' hfits'
        (fun l' hl' hseat' => ?offered) (fun f' hf' => ?stock) (by simpa [seatPlacesOf_cons_none hseat] using hapart)
        (by simpa [seatPlacesOf_cons_none hseat, Tables.updateOffer] using hheld)]
      · dsimp only
        rw [hshift, shiftSold_shiftSold, seatPlacesOf_cons_none hseat]
        -- the line's units and the rest's make up what all the lines took
        have hunits : (fun i => (if i = f.id then -l.quantity else 0) + -unitsTaken i rest) =
            fun id => -unitsTaken id (l :: rest) := by
          funext i
          rw [htake]
          split <;> omega
        rw [hunits]
        rfl
      case offered =>
        obtain ⟨g, hg, hgid⟩ := hoffered l' (List.mem_cons_of_mem _ hl') hseat'
        have hids : (s.store.updateOffer { f with sold := f.sold - l.quantity }).offers.map (·.id) =
            s.store.offers.map (·.id) := hrestock.offer_ids
        have hmem : g.id ∈ s.store.offers.map (·.id) := List.mem_map_of_mem hg
        rw [← hids] at hmem
        obtain ⟨g', hg', hg'id⟩ := List.mem_map.1 hmem
        exact ⟨g', hg', hg'id.trans hgid⟩
      case stock =>
        rw [hshift] at hf'
        obtain ⟨g, hg, rfl⟩ := List.mem_map.1 hf'
        have := hstock g hg
        rw [htake] at this
        dsimp only
        split at this <;> omega
    | some seat =>
      -- a seat line frees the one row at its place, which the order has locked
      have hplaces : seatPlacesOf (l :: rest) = (l.eventId, seat) :: seatPlacesOf rest :=
        seatPlacesOf_cons_some hseat rest
      obtain ⟨r, hr, hplace, hlocked, hholder⟩ := hheld _ (by rw [hplaces]; exact List.mem_cons_self)
      have hline := hfits l List.mem_cons_self
      have hunlock := unlockSeat_held hkeys (by simp [hline, hseat]) hr hplace hlocked hholder
      rw [hplaces] at hapart
      obtain ⟨hfresh, hapart'⟩ := List.nodup_cons.1 hapart
      have htake : ∀ i, unitsTaken i (l :: rest) = unitsTaken i rest := by
        intro i
        simp [unitsTaken_cons, OrderLine.takesUnitsOf, hseat]
      have hsame : (s.store.seats.map fun q => if q.place = (l.eventId, seat) then q.free else q).map
          SeatRow.place = s.store.seats.map SeatRow.place := by
        rw [List.map_map]
        exact List.map_congr_left fun q _ => by
          by_cases h : q.place = (l.eventId, seat) <;> simp [h]
      dsimp only
      rw [bind_assoc, bind_store]
      simp only [hunlock, bind_setStore]
      rw [ih (s := { s with store := { s.store with seats := s.store.seats.map fun q =>
          if q.place = (l.eventId, seat) then q.free else q } }) hk hb (by rw [hsame]; exact hkeys)
        hq' hfits'
        (fun l' hl' hseat' => hoffered l' (List.mem_cons_of_mem _ hl') hseat')
        (fun f hf => (htake f.id) ▸ hstock f hf) hapart' (fun P hP => ?held)]
      · simp only [hplaces, List.map_map, htake]
        congr 3
        refine List.map_congr_left fun q _ => ?_
        by_cases hq₀ : q.place = (l.eventId, seat)
        · simp [hq₀, hfresh]
        · simp [hq₀]
      case held =>
        obtain ⟨q, hq₀, hqP, hqlocked, hqholder⟩ := hheld P (by rw [hplaces]; exact List.mem_cons_of_mem _ hP)
        have hne : q.place ≠ (l.eventId, seat) := fun h => hfresh (h ▸ hqP ▸ hP)
        exact ⟨q, List.mem_map.2 ⟨q, hq₀, by simp [hne]⟩, hqP, hqlocked, hqholder⟩

/-- The lines of an order read back from a row that can be unwound give their units back to
their offers and free the rows at their seat places. -/
theorem releaseInventory_unwindable {o : OrderRow} (hu : s.store.Unwindable o) {order : Order}
    (hload : o.toOrder = .ok order) :
    releaseInventory order s = .ok () { s with store := { s.store with
      offers := shiftSold (fun id => -unitsTaken id (o.lines.map LineRow.toLine)) s.store.offers
      seats := s.store.seats.map fun r => if r.place ∈ o.seatPlaces then r.free else r } } := by
  obtain ⟨href, -, -, -, -, hlines⟩ := OrderRow.toOrder_ok hload
  have hrun := releaseInventory_run (o := order) hu.offer_ids hu.bounded hu.seat_places ?q ?fits
    ?offered ?stock ?apart ?held
  · rwa [hlines, OrderRow.seatPlaces_toLine] at hrun
  all_goals simp only [hlines, href, OrderRow.seatPlaces_toLine, List.mem_map]
  case q =>
    rintro _ ⟨l, hl, rfl⟩
    exact hu.quantities l hl
  case fits =>
    rintro _ ⟨l, hl, rfl⟩ n hn
    refine hu.fits.2 l hl n ?_
    simp only [LineRow.integers, LineRow.toLine, List.mem_append, List.mem_cons] at hn ⊢
    tauto
  case offered =>
    rintro _ ⟨l, hl, rfl⟩ hseat
    exact hu.offered l hl hseat
  case stock => exact hu.stock
  case apart => exact hu.apart
  case held => exact hu.held

theorem Order.moveTo_of_pending {o : Order} (h : o.status = .pending) (action : OrderAction)
    (now : Instant) :
    o.moveTo action now = .ok { o with
      status := action.target, updatedAt := now,
      completedAt := if action == .complete then some now else o.completedAt } := by
  simp [Order.moveTo, Order.isPending, h]

section Unwinding

/-! A pending order in a store with unique keys, its payment pending, whose lines can be given
back. -/

variable (hk : s.store.Keyed) {o : OrderRow} (ho : o ∈ s.store.orders)
  (hpending : o.status = OrderStatus.pending.name) (hu : s.store.Unwindable o)
  {p : PaymentRow} (hp : p ∈ s.store.payments) (hpaid : p.order = o.ref)
  (hunpaid : p.status = PaymentStatus.pending.name) {order : Order}
  (hload : o.toOrder = .ok order)

include hk ho hpending hu hp hpaid hunpaid hload

/-- The buyer's cancel of a pending order, at a supported clock, gives the order up whole and
answers with it cancelled. -/
theorem cancelOrder_pending (hnow : s.now.supported = true) {caller : Principal}
    (hcaller : caller.canAccess o.userId = true) :
    cancelOrder caller o.ref s = .ok { order with status := .cancelled, updatedAt := s.now }
      { s with store := s.store.unwind o .cancelled s.now } := by
  obtain ⟨-, huser, hstatus, -, -, -⟩ := OrderRow.toOrder_ok hload
  have horder : order.status = .pending := OrderStatus.name_inj.1 (hstatus.trans hpending)
  have hbuyer : caller.canAccess order.userId = true := huser ▸ hcaller
  have hsettle := settleOf_pending hk hp hunpaid .failed
  rw [hpaid] at hsettle
  unfold cancelOrder
  rw [bind_now hnow, unitOfWork_commit]
  simp only [bind_loadOrder?_run]
  rw [order?_of_refs hk.order_refs ho]
  simp only [hload, hbuyer, Bool.not_true, Bool.false_eq_true, ↓reduceIte]
  rw [bind_lift_of_ok (Order.moveTo_of_pending horder .cancel s.now)]
  simp only [bind_update, hsettle, Bool.not_true, Bool.false_eq_true, ↓reduceIte]
  rw [moveOrder_pending ?refs' ?mem' hpending]
  simp only [Bool.not_true, Bool.false_eq_true, ↓reduceIte]
  rw [bind_run_ok (releaseInventory_unwindable ?unwindable hload)]
  · rfl
  case unwindable => exact hu.of_inventory rfl rfl
  case refs' => exact hk.order_refs
  case mem' => exact ho

/-- The processor's report that the payment of a pending order failed, at a supported clock,
gives the order up whole, counts one failed payment, and answers with the order failed. -/
theorem failPayment_pending (hnow : s.now.supported = true) :
    failPayment p.reference s = .ok (some { order with status := .failed, updatedAt := s.now })
      { s with store := s.store.unwind o .failed s.now,
               metrics := s.metrics ++ [.payment .failed] } := by
  obtain ⟨-, -, hstatus, -, -, -⟩ := OrderRow.toOrder_ok hload
  have horder : order.status = .pending := OrderStatus.name_inj.1 (hstatus.trans hpending)
  have hsettle := settleByReference_pending hk hp hunpaid .failed
  rw [hpaid] at hsettle
  unfold failPayment
  rw [bind_now hnow, unitOfWork_commit]
  simp only [bind_update, hsettle, bind_loadOrder?_run]
  rw [order?_of_refs ?refs ?mem]
  simp only [hload]
  rw [moveOrder_pending ?refs' ?mem' hpending]
  simp only [Bool.not_true, Bool.false_eq_true, ↓reduceIte]
  rw [bind_run_ok (releaseInventory_unwindable ?unwindable hload)]
  · simp only [bind_record]
    rw [bind_lift_of_ok (Order.moveTo_of_pending horder .fail s.now)]
    rfl
  case unwindable => exact hu.of_inventory rfl rfl
  case refs' | refs => exact hk.order_refs
  case mem' | mem => exact ho

omit hload in
/-- The sweep's expiry of a pending order gives the order up whole as cancelled. -/
theorem expireOrder_pending (now : Instant) :
    expireOrder o.ref now s = .ok true { s with store := s.store.unwind o .cancelled now } := by
  have hsettle := settleOf_pending hk hp hunpaid .failed
  rw [hpaid] at hsettle
  -- the sweep gives back the lines of the order as it reads it after the move
  obtain ⟨moved, hmoved, -, -, -⟩ := OrderRow.toOrder_withStatus o .cancelled now
  unfold expireOrder
  rw [unitOfWork_commit]
  simp only [bind_update, hsettle, Bool.not_true, Bool.false_eq_true, ↓reduceIte]
  rw [moveOrder_pending ?refs' ?mem' hpending]
  simp only [Bool.not_true, Bool.false_eq_true, ↓reduceIte, bind_loadOrder?_run]
  rw [order?_moved hk.order_refs ho .cancelled now ?moved]
  simp only [hmoved]
  rw [bind_run_ok (releaseInventory_unwindable ?unwindable hmoved)]
  · rfl
  case moved => rfl
  case unwindable => exact (hu.withStatus .cancelled now).of_inventory rfl rfl
  case refs' => exact hk.order_refs
  case mem' => exact ho

end Unwinding

end Service

/-! ## In a run, every pending order can be given up -/

/-- Every line of a reserved cart names an offer of the store the reservation left. -/
theorem Reserved.offered {ref : OrderRef} {expiresAt : Instant} {lines : List CartLine}
    {st st' : Tables} {ls : List OrderLine} (h : Reserved ref expiresAt lines st ls st') :
    ∀ l ∈ ls, ∃ f ∈ st'.offers, f.id = l.offerId := by
  induction h with
  | nil => simp
  | @cons line rest st st₁ st₂ offer ls hoffer htake hrest ih =>
    intro l hl
    rcases List.mem_cons.1 hl with rfl | hl
    · -- the line's offer was found before the reservation, which keeps every offer id
      have hids : st₂.offers.map (·.id) = st.offers.map (·.id) :=
        (Reserved.cons hoffer htake hrest).restock.offer_ids
      have hmem : offer.id ∈ st₂.offers.map (·.id) := by
        rw [hids]
        exact List.mem_map_of_mem (Store.Tables.findOffer_some hoffer).1
      exact List.mem_map.1 hmem
    · exact ih l hl

/-- The stored lines of a reserved valid cart each take at least one unit and name an offer of
the store the reservation left. -/
theorem Reserved.lines_offered {ref : OrderRef} {expiresAt : Instant} {limits : CartLimits}
    {lines : List CartLine} {st st' : Tables} {ls : List OrderLine}
    (hcart : validateCart limits lines = .ok ()) (h : Reserved ref expiresAt lines st ls st')
    {rows : List LineRow} (hrows : ls.mapM lineRow = .ok rows) :
    ∀ r ∈ rows, 1 ≤ r.quantity ∧ r.offerId ∈ st'.offers.map (·.id) := by
  intro r hr
  obtain ⟨l, hl, hlr⟩ := exists_of_forall₂ (lineRows_forall₂ hrows) hr
  obtain ⟨hoffer, -, -, -, hquantity, -⟩ := lineRow_ok hlr
  obtain ⟨line, hline, hq, -⟩ :=
    exists_of_forall₂ (h.lines (P := fun _ => True) fun _ _ => trivial) hl
  refine ⟨?_, hoffer ▸ List.mem_map.2 (h.offered l hl)⟩
  rw [hquantity, hq]
  exact ((validateCart_lines hcart).2 line hline).1

/-- Units held by orders whose lines take no negative quantity are never negative. -/
theorem heldUnits_nonneg {orders : List OrderRow}
    (hq : ∀ x ∈ orders, ∀ l ∈ x.lines, 0 ≤ l.quantity) (id : Int) : 0 ≤ heldUnits orders id := by
  unfold heldUnits
  refine List.sum_nonneg fun n hn => ?_
  obtain ⟨l, hl, rfl⟩ := List.mem_map.1 hn
  obtain ⟨x, hx, hlx⟩ := List.mem_flatMap.1 (List.mem_filter.1 hl).1
  exact hq x (List.mem_filter.1 hx).1 l hlx

/-- An order that holds stock holds at least the units its own lines take. -/
theorem unitsTaken_le_heldUnits {orders : List OrderRow}
    (hq : ∀ x ∈ orders, ∀ l ∈ x.lines, 0 ≤ l.quantity) {o : OrderRow} (ho : o ∈ orders)
    (hholds : o.holdsStock = true) (id : Int) :
    unitsTaken id (o.lines.map LineRow.toLine) ≤ heldUnits orders id := by
  obtain ⟨pre, post, rfl⟩ := List.append_of_mem ho
  have hpre := heldUnits_nonneg (fun x hx => hq x (List.mem_append_left _ hx)) id
  have hpost : 0 ≤ heldUnits post id :=
    heldUnits_nonneg (fun x hx => hq x (List.mem_append_right _ (List.mem_cons_of_mem _ hx))) id
  rw [show pre ++ o :: post = pre ++ [o] ++ post by simp, heldUnits_append, heldUnits_append,
    heldUnits_singleton, if_pos hholds]
  omega

namespace Store.Tables

variable {st st' st₁ : Tables}

/-- Every line of every order takes no negative quantity and names a stored offer. -/
def LinesOffered (st : Tables) : Prop :=
  ∀ o ∈ st.orders, ∀ l ∈ o.lines, 0 ≤ l.quantity ∧ l.offerId ∈ st.offers.map (·.id)

theorem Fresh.linesOffered (h : st.Fresh) : st.LinesOffered := by
  intro o ho
  rw [h.no_orders] at ho
  cases ho

theorem LinesOffered.of_lines (h : st.LinesOffered)
    (hids : st'.offers.map (·.id) = st.offers.map (·.id))
    (horders : ∀ x ∈ st'.orders, ∃ y ∈ st.orders, x.lines = y.lines) : st'.LinesOffered := by
  intro x hx l hl
  obtain ⟨y, hy, hlines⟩ := horders x hx
  rw [hids]
  exact h y hy l (hlines ▸ hl)

theorem LinesOffered.restock (h : st.LinesOffered) (hr : Restock st st') : st'.LinesOffered :=
  h.of_lines hr.offer_ids fun x hx => ⟨x, hr.orders ▸ hx, rfl⟩

theorem LinesOffered.pairMoved (h : st.LinesOffered) {o : OrderRow} {p : PaymentRow}
    {target : OrderStatus} {pay : PaymentStatus} {now : Instant}
    (hm : st.PairMoved st₁ o p target pay now) : st₁.LinesOffered := by
  refine h.of_lines (by rw [hm.offers]) fun x hx => ?_
  rcases hm.mem_orders.1 hx with rfl | ⟨hx, -⟩
  · exact ⟨o, hm.order_mem, rfl⟩
  · exact ⟨x, hx, rfl⟩

/-- Every move keeps every line offered: a placed order's lines were reserved from offers
that exist, and no move removes an offer. -/
theorem Move.linesOffered (hl : st.LinesOffered) (h : Move st st') : st'.LinesOffered := by
  cases h with
  | @place st₁ _ _ _ _ _ _ _ _ _ _ row _ hcart hreserve hprice hrow _ _ _ _ =>
    have hl₁ := hl.restock hreserve.restock
    obtain ⟨pricing, -, rfl⟩ := Order.place_ok hprice
    obtain ⟨-, -, -, -, -, -, -, hlines⟩ := orderRow_ok hrow
    intro x hx
    rcases List.mem_append.1 hx with hx | hx
    · exact hl₁ x hx
    · rw [List.mem_singleton.1 hx]
      intro r hr
      obtain ⟨hq, hoffer⟩ := hreserve.lines_offered hcart hlines r hr
      exact ⟨by omega, hoffer⟩
  | complete hmoved _ _ hsell _ =>
    exact ((hl.pairMoved hmoved).restock (updateSeats_restock_of_eq (SeatRow.sell_place _)
      hsell)).of_lines rfl fun x hx => ⟨x, hx, rfl⟩
  | release hmoved _ hrelease => exact (hl.pairMoved hmoved).restock hrelease.restock
  | releaseLocks now => exact hl.restock (releaseExpiredLocks_restock now)

/-- What every store of a run from `st₀` keeps that lets each of its pending orders be given up:
it is consistent, its offers have sold what `st₀` had sold and what its orders hold, its orders'
integers fit, and every line of every order takes no negative quantity of a stored offer. -/
structure Sound (st₀ st : Tables) : Prop where
  consistent : st.Consistent
  stocked : Stocked st₀ st
  checked : st.Checked
  lines : st.LinesOffered

/-- Every commit keeps a store sound. -/
theorem Sound.commit {st₀ : Tables} (hs : Sound st₀ st) (hc : Commit st st') : Sound st₀ st' :=
  have hm := hc.move hs.consistent.keyed
  ⟨hs.consistent.move hm, hm.stocked hs.consistent.keyed hs.stocked, hc.checked hs.checked,
    hm.linesOffered hs.lines⟩

/-- In a sound store of a run from a store whose offers sold no negative number of units, every
pending order can be given up. -/
theorem Sound.unwindable {st₀ : Tables} (h0 : st₀.Bounded) (hs : Sound st₀ st) {o : OrderRow}
    (ho : o ∈ st.orders) (hpending : o.status = OrderStatus.pending.name) : st.Unwindable o := by
  have hk := hs.consistent.keyed
  refine ⟨hk.offer_ids, hs.stocked.bounded, hk.seat_places, fun l hl => (hs.lines o ho l hl).1,
    hs.checked.orders o ho, fun l hl _ => List.mem_map.1 (hs.lines o ho l hl).2, ?stock,
    hs.consistent.apart o ho, ?held⟩
  case stock =>
    -- an offer has sold what it had sold at the start and what the orders hold, this one's too
    intro f hf
    rw [hs.stocked.offers] at hf
    obtain ⟨g, hg, rfl⟩ := List.mem_map.1 hf
    have hheld := unitsTaken_le_heldUnits (fun x hx l hl => (hs.lines x hx l hl).1) ho
      (by simp [OrderRow.holdsStock, hpending]) g.id
    have := (h0 g hg).1
    dsimp only
    omega
  case held =>
    intro P hP
    obtain ⟨r, hr, hplace⟩ := hs.consistent.seats.seated o ho P hP
    exact ⟨r, hr, hplace, hs.consistent.seats.pending r hr o ho hpending (hplace ▸ hP)⟩

end Store.Tables

namespace Reachable

variable {s₀ s : Session}

/-- Every store of a run from a fresh store whose seeded locks belong to no order is sound. -/
theorem sound (h0 : s₀.store.Fresh)
    (hforeign : ∀ r ∈ s₀.store.seats, ∀ n, r.holder ≠ some (.placed n)) (h : Reachable s₀ s) :
    Tables.Sound s₀.store s.store :=
  Commit.chain_invariant (fun hs hc => hs.commit hc) h.commits
    ⟨Reachable.start.consistent h0 hforeign, h0.stocked, h0.checked, h0.linesOffered⟩

end Reachable

end TicketCheckout
