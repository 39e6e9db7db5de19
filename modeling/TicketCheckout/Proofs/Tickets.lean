import TicketCheckout.Proofs.Seats
import TicketCheckout.Proofs.Pricing
import TicketCheckout.Proofs.StoredCents

/-!
# Tickets follow the completed orders

Completing an order stores the tickets one issue of its tickets gives: one per unit of each line,
in line order, for the order's buyer, with the line's seat and at the line's unit price
(`Order.issueTickets_map`, `OrderRow.issued_rows`). Placing an order fixes what these tickets
will be: a valid cart gives lines of at least one unit, one for a seat line, at seats no other
line takes, priced from offers whose prices the store keeps exactly (`OrderRow.Placed`,
`OrderRow.placed_of_place`); its subtotal is then the sum of the line totals. Along a run,
every ticket belongs to a completed order, a completed order's tickets are those of one issue,
and no seat is on two tickets (`Tables.Ticketed`, kept by every move: `Tables.Move.ticketed`);
a second completion is refused, and a completion's tickets are for seats no completed order has.

Main statement: `tickets_follow_completion`.
-/

namespace TicketCheckout

open Store Number

/-- Every line of a cart that passes the checks buys at least one ticket, and a seat line exactly
one. -/
theorem checkLines_ok {seen : List (Int × Int)} {lines : List CartLine}
    (h : checkLines seen lines = .ok ()) :
    ∀ line ∈ lines, 1 ≤ line.quantity ∧ (line.seatId.isSome → line.quantity = 1) := by
  induction lines generalizing seen with
  | nil => simp
  | cons line rest ih =>
    unfold checkLines at h
    have hq : 1 ≤ line.quantity := by
      by_contra hq
      rw [if_pos (by omega)] at h
      cases h
    rw [if_neg (by omega)] at h
    rw [List.forall_mem_cons]
    cases hseat : line.seatId with
    | none =>
      rw [hseat] at h
      exact ⟨⟨hq, by simp⟩, ih h⟩
    | some seat =>
      rw [hseat] at h
      simp only at h
      split at h
      · cases h
      · split at h
        · cases h
        · rename_i hone _
          exact ⟨⟨hq, fun _ => by simpa using hone⟩, ih h⟩

/-- A cart that passes validation is not empty; every line buys at least one ticket, and a seat
line exactly one. -/
theorem validateCart_lines {limits : CartLimits} {lines : List CartLine}
    (h : validateCart limits lines = .ok ()) :
    lines ≠ [] ∧ ∀ line ∈ lines, 1 ≤ line.quantity ∧ (line.seatId.isSome → line.quantity = 1) := by
  unfold validateCart at h
  simp only at h
  split at h
  · cases h
  · rename_i hempty
    split at h
    · cases h
    · obtain ⟨u, hcheck, -⟩ := Service.exceptBind_ok h
      refine ⟨fun hnil => hempty (by simp [hnil]), checkLines_ok hcheck⟩

namespace Store.Tables

variable {P : Binary64 → Prop} {st st' : Tables}

/-- Updating an offer with a row at an allowed price keeps every price allowed. -/
theorem updateOffer_prices (hP : ∀ f ∈ st.offers, P f.price) {r : OfferRow} (hr : P r.price) :
    ∀ f ∈ (st.updateOffer r).offers, P f.price := by
  intro f hf
  obtain ⟨g, hg, rfl⟩ := List.mem_map.1 hf
  split
  · exact hr
  · exact hP g hg

theorem reserve_prices (hP : ∀ f ∈ st.offers, P f.price) {id q : Int}
    (h : st.reserve id q = .ok st') : ∀ f ∈ st'.offers, P f.price := by
  obtain ⟨r, hr, -, -, rfl⟩ := reserve_ok h
  exact updateOffer_prices hP (hP r (List.mem_of_find?_eq_some hr))

end Store.Tables

/-- Reserving a cart gives one order line per cart line, with its quantity and seat, priced at
the price of an offer of the store. -/
theorem Reserved.lines {P : Binary64 → Prop} {ref : OrderRef} {expiresAt : Instant}
    {lines : List CartLine} {st st' : Tables} {ls : List OrderLine}
    (h : Reserved ref expiresAt lines st ls st') (hP : ∀ f ∈ st.offers, P f.price) :
    List.Forall₂ (fun line l => l.quantity = line.quantity ∧ l.seatId = line.seatId ∧
      ∃ f : OfferRow, P f.price ∧ l.unitPrice = readAmount f.price) lines ls := by
  induction h with
  | nil => exact .nil
  | @cons line rest st st₁ st₂ offer ls hoffer htake hrest ih =>
    have hP₁ : ∀ f ∈ st₁.offers, P f.price := by
      cases hseat : line.seatId with
      | none =>
        simp only [hseat] at htake
        exact Tables.reserve_prices hP htake
      | some seat =>
        simp only [hseat] at htake
        rw [Tables.lockSeat_offers htake]
        exact hP
    exact .cons ⟨rfl, rfl, offer, hP offer (Tables.findOffer_some hoffer).1, rfl⟩ (ih hP₁)

/-- Issuing an order's tickets gives one ticket per unit of each line, in line order, for the
order's buyer, at the line's unit price. -/
theorem Order.issueTickets_map (o : Order) (now : Instant) (first : Nat) :
    (o.issueTickets now first).map (fun t => (t.order, t.userId, t.eventId, t.tierId, t.seatId,
      t.pricePaid)) =
      o.lines.flatMap fun l => List.replicate l.quantity.toNat
        (o.ref, o.userId, l.eventId, l.tierId, l.seatId, l.unitPrice) := by
  unfold Order.issueTickets
  simp only [List.map_map]
  -- the code a ticket gets from its position does not show in what it admits
  show List.map ((fun l : OrderLine => (o.ref, o.userId, l.eventId, l.tierId, l.seatId,
    l.unitPrice)) ∘ Prod.fst) _ = _
  rw [← List.map_map, List.map_fst_zip (by simp), List.map_flatMap]
  simp [List.map_replicate]

/-- Each ticket an order issues is for the order, at the unit price of one of its lines. -/
theorem Order.mem_issueTickets {o : Order} {now : Instant} {first : Nat} {t : Ticket}
    (ht : t ∈ o.issueTickets now first) :
    t.order = o.ref ∧ ∃ l ∈ o.lines, t.pricePaid = l.unitPrice := by
  have hmem : (t.order, t.userId, t.eventId, t.tierId, t.seatId, t.pricePaid) ∈
      (o.issueTickets now first).map (fun t => (t.order, t.userId, t.eventId, t.tierId,
        t.seatId, t.pricePaid)) := List.mem_map_of_mem ht
  rw [Order.issueTickets_map, List.mem_flatMap] at hmem
  obtain ⟨l, hl, hrep⟩ := hmem
  have heq := List.eq_of_mem_replicate hrep
  simp only [Prod.mk.injEq] at heq
  exact ⟨heq.1, l, hl, heq.2.2.2.2.2⟩

/-! ## Amounts the store keeps exactly -/

/-- An amount in cents below `2 ^ 46`: one the store keeps exactly. -/
def Number.Decimal.StoredExactly (d : Decimal) : Prop :=
  ∃ s c, d = .finite s c (-2) ∧ c < 100 * 2 ^ 46

theorem Number.Decimal.abs_signed (s : Bool) (c : Nat) : |(Decimal.signed s c : ℚ)| = c := by
  cases s <;> simp [Decimal.signed]

namespace Store

/-- An amount the store keeps exactly reads back with its value, and is again kept exactly. -/
theorem readAmount_storeAmount {d : Decimal} (hd : d.StoredExactly) {x : Binary64}
    (h : storeAmount d = .ok x) : (readAmount x).value = d.value ∧ (readAmount x).StoredExactly := by
  obtain ⟨s, c, rfl, hc⟩ := hd
  cases h
  rw [readAmount_ofDecimal_cents s hc]
  refine ⟨?_, ⟨_, c, rfl, hc⟩⟩
  rw [Decimal.value_cents, Decimal.value_cents]
  by_cases hzero : c = 0
  · subst hzero
    simp [Decimal.signed_zero]
  · have hnz : (c != 0) = true := by simpa using hzero
    simp [hnz]

/-- A finite stored number below `2 ^ 46` reads back as an amount the store keeps exactly. -/
theorem readAmount_storedExactly {x : Binary64} (hx : x.isFinite = true)
    (hbound : |(readAmount x).value| < 2 ^ 46) : (readAmount x).StoredExactly := by
  have hinf : x.isInfinite = false := by
    simp only [Binary64.isFinite, bne_iff_ne, ne_eq] at hx
    simp [Binary64.isInfinite, hx]
  unfold readAmount at hbound ⊢
  rw [hinf] at hbound ⊢
  simp only [Bool.false_eq_true, if_false, Decimal.value_cents] at hbound ⊢
  refine ⟨_, _, rfl, ?_⟩
  rw [abs_div, abs_of_pos (by norm_num : (0 : ℚ) < 100), div_lt_iff₀ (by norm_num),
    Decimal.abs_signed] at hbound
  exact_mod_cast (by linarith : ((x.scaledRound 2 : Nat) : ℚ) < 100 * 2 ^ 46)

end Store

/-! ## The tickets of an order -/

namespace Store

/-- The event and seat a ticket is for, when it is for a seat. -/
def TicketRow.seatPlace (t : TicketRow) : Option (Int × Int) :=
  t.seatId.map fun s => (t.eventId, s)

/-- What a ticket admits and what was paid for it: buyer, event, tier, seat and price. -/
def TicketRow.admission (t : TicketRow) : Int × Int × Int × Option Int × ℚ :=
  (t.userId, t.eventId, t.tierId, t.seatId, (readAmount t.pricePaid).value)

/-- What a stored line costs: its quantity times its unit price as read back. -/
def LineRow.totalValue (l : LineRow) : ℚ := l.quantity * (readAmount l.unitPrice).value

/-- The admissions an order's lines buy: one per unit of each line, in line order, for the
order's buyer and at the line's unit price. -/
def OrderRow.admissions (o : OrderRow) : List (Int × Int × Int × Option Int × ℚ) :=
  o.lines.flatMap fun l => List.replicate l.quantity.toNat
    (o.userId, l.eventId, l.tierId, l.seatId, (readAmount l.unitPrice).value)

theorem ticketRow_ok {t : Ticket} {r : TicketRow} (h : ticketRow t = .ok r) :
    r.order = t.order ∧ r.userId = t.userId ∧ r.eventId = t.eventId ∧ r.tierId = t.tierId ∧
      r.seatId = t.seatId ∧ storeAmount t.pricePaid = .ok r.pricePaid := by
  unfold ticketRow at h
  cases hp : storeAmount t.pricePaid with
  | error => simp [hp, bind, Except.bind] at h
  | ok price =>
    simp only [hp, bind, Except.bind, pure, Except.pure, Except.ok.injEq] at h
    subst h
    exact ⟨rfl, rfl, rfl, rfl, rfl, rfl⟩

theorem map_eq_of_forall₂ {α β γ : Type} {R : α → β → Prop} {l : List α} {l' : List β}
    {f : α → γ} {g : β → γ} (h : List.Forall₂ R l l') (hfg : ∀ a b, a ∈ l → R a b → f a = g b) :
    l.map f = l'.map g := by
  induction h with
  | nil => rfl
  | cons hab _ ih =>
    rw [List.map_cons, List.map_cons, hfg _ _ List.mem_cons_self hab,
      ih fun a b ha hr => hfg a b (List.mem_cons_of_mem _ ha) hr]

/-- The rows stored when an order's tickets are issued: the order's admissions, each for the
order. -/
theorem OrderRow.issued_rows {o : OrderRow} {order : Order} (href : order.ref = o.ref)
    (huser : order.userId = o.userId) (hlines : order.lines = o.lines.map LineRow.toLine)
    (hprices : ∀ l ∈ o.lines, (readAmount l.unitPrice).StoredExactly) {now : Instant}
    {first : Nat} {rows : List TicketRow}
    (h : (order.issueTickets now first).mapM ticketRow = .ok rows) :
    rows.map TicketRow.admission = o.admissions ∧ ∀ r ∈ rows, r.order = o.ref := by
  have hissue := order.issueTickets_map now first
  rw [href, huser, hlines, List.flatMap_map] at hissue
  -- each issued ticket is for the order, at the unit price of one of its lines
  have hticket : ∀ t ∈ order.issueTickets now first, t.order = o.ref ∧
      ∃ l ∈ o.lines, t.pricePaid = readAmount l.unitPrice := by
    intro t ht
    obtain ⟨horder, line, hline, hprice⟩ := Order.mem_issueTickets ht
    rw [hlines] at hline
    obtain ⟨l, hl, rfl⟩ := List.mem_map.1 hline
    exact ⟨horder.trans href, l, hl, hprice⟩
  have hrows := forall₂_of_mapM_ok h
  constructor
  · -- row by row, a stored ticket admits what its ticket admits, at the same price
    have hsame : rows.map TicketRow.admission = (order.issueTickets now first).map fun t =>
        (t.userId, t.eventId, t.tierId, t.seatId, t.pricePaid.value) := by
      refine (map_eq_of_forall₂ hrows fun t r ht hr => ?_).symm
      obtain ⟨-, huser, hevent, htier, hseat, hprice⟩ := ticketRow_ok hr
      obtain ⟨-, l, hl, hpaid⟩ := hticket t ht
      have hvalue := (readAmount_storeAmount (hpaid ▸ hprices l hl) hprice).1
      simp only [TicketRow.admission, huser, hevent, htier, hseat, hvalue]
    rw [hsame]
    show List.map ((fun a : OrderRef × Int × Int × Int × Option Int × Decimal =>
      (a.2.1, a.2.2.1, a.2.2.2.1, a.2.2.2.2.1, a.2.2.2.2.2.value)) ∘ fun t : Ticket =>
        (t.order, t.userId, t.eventId, t.tierId, t.seatId, t.pricePaid)) _ = _
    rw [← List.map_map, hissue, List.map_flatMap]
    simp [OrderRow.admissions, List.map_replicate, LineRow.toLine]
  · have horders : rows.map (·.order) = (order.issueTickets now first).map (·.order) :=
      (map_eq_of_forall₂ hrows fun t r _ hr => (ticketRow_ok hr).1.symm).symm
    intro r hr
    obtain ⟨t, ht, hrt⟩ := List.mem_map.1 (horders ▸ List.mem_map_of_mem hr :
      r.order ∈ (order.issueTickets now first).map (·.order))
    rw [← hrt]
    exact (hticket t ht).1

/-- The seat an admission is for, with its event. -/
def admissionPlace (a : Int × Int × Int × Option Int × ℚ) : Option (Int × Int) :=
  a.2.2.2.1.map fun s => (a.2.1, s)

/-- When every seat line buys one unit, the seats an order's admissions are for are its seat
places, each once. -/
theorem OrderRow.admissions_seatPlaces {o : OrderRow}
    (hsingle : ∀ l ∈ o.lines, l.seatId.isSome → l.quantity = 1) :
    o.admissions.filterMap admissionPlace = o.seatPlaces := by
  unfold OrderRow.admissions OrderRow.seatPlaces
  generalize o.lines = ls at hsingle ⊢
  induction ls with
  | nil => rfl
  | cons l rest ih =>
    rw [List.flatMap_cons, List.filterMap_append, List.filterMap_cons,
      ih fun l hl => hsingle l (List.mem_cons_of_mem _ hl)]
    cases hseat : l.seatId with
    | none =>
      -- a general-admission line's admissions are for no seat
      have hnone : (List.replicate l.quantity.toNat (o.userId, l.eventId, l.tierId, none,
          (readAmount l.unitPrice).value)).filterMap admissionPlace = [] := by
        simp [admissionPlace]
      rw [hnone, List.nil_append]
      rfl
    | some seat =>
      have hone : l.quantity = 1 := hsingle l List.mem_cons_self (by simp [hseat])
      simp [hone, admissionPlace]

theorem OrderRow.admissions_length (o : OrderRow) :
    o.admissions.length = (o.lines.map fun l => l.quantity.toNat).sum := by
  simp [OrderRow.admissions, List.length_flatMap]

/-- When every line buys at least one unit, an order's admissions cost the sum of its line
totals. -/
theorem OrderRow.admissions_sum {o : OrderRow} (hq : ∀ l ∈ o.lines, 1 ≤ l.quantity) :
    (o.admissions.map fun a => a.2.2.2.2).sum = (o.lines.map LineRow.totalValue).sum := by
  unfold OrderRow.admissions
  generalize o.lines = ls at hq ⊢
  induction ls with
  | nil => rfl
  | cons l rest ih =>
    have hcast : ((l.quantity.toNat : Nat) : ℚ) = l.quantity := by
      have := hq l List.mem_cons_self
      exact_mod_cast Int.toNat_of_nonneg (by omega)
    rw [List.flatMap_cons, List.map_append, List.sum_append,
      ih fun l hl => hq l (List.mem_cons_of_mem _ hl)]
    simp [List.map_replicate, List.sum_replicate, LineRow.totalValue, hcast]

end Store

/-! ## What placing an order fixes -/

theorem exists_of_forall₂ {α β : Type} {R : α → β → Prop} {l : List α} {l' : List β}
    (h : List.Forall₂ R l l') {b : β} (hb : b ∈ l') : ∃ a ∈ l, R a b := by
  induction h with
  | nil => simp at hb
  | @cons a b' l l' hab _ ih =>
    rcases List.mem_cons.1 hb with rfl | hb
    · exact ⟨a, List.mem_cons_self, hab⟩
    · obtain ⟨a', ha', hr⟩ := ih hb
      exact ⟨a', List.mem_cons_of_mem _ ha', hr⟩

/-- A stored amount that is finite and below `bound` in magnitude once read back. -/
def Number.Binary64.AmountBelow (bound : ℚ) (x : Binary64) : Prop :=
  x.isFinite = true ∧ |(readAmount x).value| < bound

/-- Every money value an order's pricing adds up stays below `bound` in magnitude: each line's
total, and each running total of its lines. -/
def Store.OrderRow.MoneyBelow (bound : ℚ) (o : OrderRow) : Prop :=
  (∀ l ∈ o.lines, |l.totalValue| < bound) ∧
    ∀ k, |((o.lines.take k).map LineRow.totalValue).sum| < bound

/-- What placing an order fixes about its row, which no later move changes: it has lines, each
buying at least one unit and a seat line exactly one; no two seat lines are at one place; every
unit price is kept exactly; and while its money stays below `2 ^ 46` its subtotal is the sum of
its line totals. -/
structure Store.OrderRow.Placed (o : OrderRow) : Prop where
  lines_ne : o.lines ≠ []
  quantity_pos : ∀ l ∈ o.lines, 1 ≤ l.quantity
  seat_single : ∀ l ∈ o.lines, l.seatId.isSome → l.quantity = 1
  seat_places : o.seatPlaces.Nodup
  prices : ∀ l ∈ o.lines, (readAmount l.unitPrice).StoredExactly
  subtotal : o.MoneyBelow (2 ^ 46) →
    (readAmount o.subtotal).value = (o.lines.map LineRow.totalValue).sum

theorem Store.OrderRow.Placed.withStatus {o : OrderRow} (h : o.Placed) (target : OrderStatus)
    (now : Instant) : (o.withStatus target now).Placed :=
  ⟨h.lines_ne, h.quantity_pos, h.seat_single, h.seat_places, h.prices, h.subtotal⟩

/-- The lines reserved for a valid cart from offers priced below `2 ^ 46`: there is one at
least, each buys at least one unit and a seat line exactly one, at a price kept exactly. -/
theorem Reserved.lines_placed {ref : OrderRef} {expiresAt : Instant} {limits : CartLimits}
    {lines : List CartLine} {st st' : Tables} {ls : List OrderLine}
    (hcart : validateCart limits lines = .ok ()) (h : Reserved ref expiresAt lines st ls st')
    (hprices : ∀ f ∈ st.offers, f.price.AmountBelow (2 ^ 46)) :
    ls ≠ [] ∧ ∀ l ∈ ls, 1 ≤ l.quantity ∧ (l.seatId.isSome → l.quantity = 1) ∧
      l.unitPrice.StoredExactly := by
  obtain ⟨hne, hchecked⟩ := validateCart_lines hcart
  have hls := h.lines hprices
  refine ⟨fun hnil => hne (List.forall₂_nil_right_iff.1 (hnil ▸ hls)), ?_⟩
  intro l hl
  obtain ⟨line, hline, hq, hseat, f, ⟨hfinite, hbound⟩, hprice⟩ := exists_of_forall₂ hls hl
  obtain ⟨hpos, hsingle⟩ := hchecked line hline
  refine ⟨hq ▸ hpos, fun hsome => hq ▸ hsingle (hseat ▸ hsome), ?_⟩
  rw [hprice]
  exact readAmount_storedExactly hfinite hbound

namespace Store

/-- Lines at prices kept exactly cost, once stored and read back, what they cost before, and
read back at prices kept exactly. -/
theorem storedLines_value {ls : List OrderLine} {rows : List LineRow}
    (hrows : List.Forall₂ (fun l r => lineRow l = .ok r) ls rows)
    (hprices : ∀ l ∈ ls, l.unitPrice.StoredExactly) :
    rows.map LineRow.totalValue = ls.map OrderLine.totalValue ∧
      ∀ r ∈ rows, (readAmount r.unitPrice).StoredExactly := by
  induction hrows with
  | nil => simp
  | @cons l r ls rows hlr _ ih =>
    obtain ⟨-, -, -, -, hq, hstore⟩ := lineRow_ok hlr
    obtain ⟨hvalue, hexact⟩ := readAmount_storeAmount (hprices l List.mem_cons_self) hstore
    obtain ⟨hmap, hrest⟩ := ih fun l hl => hprices l (List.mem_cons_of_mem _ hl)
    refine ⟨?_, List.forall_mem_cons.2 ⟨hexact, hrest⟩⟩
    simp [LineRow.totalValue, OrderLine.totalValue, hq, hvalue, hmap]

/-- A subtotal priced from lines at prices kept exactly, whose money stays below `2 ^ 46`, is
stored as the sum of the line totals. -/
theorem stored_subtotal {fee : Decimal} {ls : List OrderLine} {p : Pricing} {x : Binary64}
    (hp : Pricing.ofLines fee ls = .ok p) (hprices : ∀ l ∈ ls, l.unitPrice.StoredExactly)
    (hlines : ∀ l ∈ ls, |l.totalValue| < 2 ^ 46)
    (hrun : ∀ k, |((ls.take k).map OrderLine.totalValue).sum| < 2 ^ 46)
    (hstore : storeAmount p.subtotal = .ok x) :
    (readAmount x).value = (ls.map OrderLine.totalValue).sum := by
  have hsmall : (2 : ℚ) ^ 46 < 10 ^ 26 := by norm_num
  obtain ⟨s, c, hsub, hsum⟩ := Pricing.subtotal_cents hp
    (fun l hl => (hprices l hl).imp fun _ ⟨c, h, _⟩ => ⟨c, h⟩)
    (fun l hl => (hlines l hl).trans hsmall) (fun k => (hrun k).trans hsmall)
  -- the whole sum is the last running total, so the cents fit below `100 * 2 ^ 46`
  have hc : (c : ℚ) < 100 * 2 ^ 46 := by
    have htotal := hrun ls.length
    rw [List.take_length, ← hsum, abs_div, Decimal.abs_signed,
      abs_of_pos (by norm_num : (0 : ℚ) < 100), div_lt_iff₀ (by norm_num)] at htotal
    linarith
  rw [hsub] at hstore
  rw [(readAmount_storeAmount ⟨s, c, rfl, by exact_mod_cast hc⟩ hstore).1, Decimal.value_cents,
    hsum]

/-- An order placed from lines that pass the cart checks, have no two seat lines at one place
and are priced exactly is stored `Placed`. -/
theorem OrderRow.placed_of_place {ref : OrderRef} {userId : Int} {ls : List OrderLine}
    {fee : Decimal} {currency : String} {expiresAt now : Instant} {order : Order} {row : OrderRow}
    (hls : ls ≠ [] ∧ ∀ l ∈ ls, 1 ≤ l.quantity ∧ (l.seatId.isSome → l.quantity = 1) ∧
      l.unitPrice.StoredExactly)
    (hseats : (seatPlacesOf ls).Nodup)
    (hprice : Order.place ref userId ls fee currency expiresAt now = .ok order)
    (hrow : orderRow order = .ok row) : row.Placed := by
  obtain ⟨p, hp, rfl⟩ := Order.place_ok hprice
  obtain ⟨-, -, -, -, -, hsub, -, hlines⟩ := orderRow_ok hrow
  have hrows := lineRows_forall₂ hlines
  obtain ⟨hvalues, hexact⟩ := storedLines_value hrows fun l hl => (hls.2 l hl).2.2
  -- a stored line keeps the quantity and seat of the line it stores
  have hstored : ∀ r ∈ row.lines, ∃ l ∈ ls, r.quantity = l.quantity ∧ r.seatId = l.seatId := by
    intro r hr
    obtain ⟨l, hl, hlr⟩ := exists_of_forall₂ hrows hr
    obtain ⟨-, -, -, hseat, hq, -⟩ := lineRow_ok hlr
    exact ⟨l, hl, hq, hseat⟩
  refine ⟨?_, ?_, ?_, ?_, hexact, ?_⟩
  · intro hnil
    exact hls.1 (List.forall₂_nil_right_iff.1 (hnil ▸ hrows))
  · intro r hr
    obtain ⟨l, hl, hq, -⟩ := hstored r hr
    exact hq ▸ (hls.2 l hl).1
  · intro r hr hsome
    obtain ⟨l, hl, hq, hseat⟩ := hstored r hr
    exact hq ▸ (hls.2 l hl).2.1 (hseat ▸ hsome)
  · rw [OrderRow.seatPlaces_of_lines hlines]
    exact hseats
  · rintro ⟨hbelow, hrun⟩
    rw [hvalues]
    refine stored_subtotal hp (fun l hl => (hls.2 l hl).2.2) (fun l hl => ?_) (fun k => ?_) hsub
    · obtain ⟨r, hr, hrl⟩ := List.mem_map.1 (hvalues ▸ List.mem_map_of_mem hl :
        l.totalValue ∈ row.lines.map LineRow.totalValue)
      exact hrl ▸ hbelow r hr
    · rw [List.map_take, ← hvalues, ← List.map_take]
      exact hrun k

end Store

/-! ## Tickets follow the completed orders -/

theorem Order.issueTickets_congr {o o' : Order} (href : o.ref = o'.ref)
    (huser : o.userId = o'.userId) (hlines : o.lines = o'.lines) (now : Instant) (first : Nat) :
    o.issueTickets now first = o'.issueTickets now first := by
  unfold Order.issueTickets
  rw [href, huser, hlines]

/-- Moving an order changes none of the tickets it issues. -/
theorem Order.issueTickets_moveTo {o o' : Order} {action : OrderAction} {now : Instant}
    (h : o.moveTo action now = .ok o') (t : Instant) (first : Nat) :
    o'.issueTickets t first = o.issueTickets t first := by
  unfold Order.moveTo at h
  split at h
  · cases h
    rfl
  · cases h

namespace Store

theorem OrderRow.toOrder_withStatus (o : OrderRow) (target : OrderStatus) (now : Instant) :
    ∃ order, (o.withStatus target now).toOrder = .ok order ∧ order.ref = o.ref ∧
      order.userId = o.userId ∧ order.lines = o.lines.map LineRow.toLine := by
  unfold OrderRow.toOrder readStatus
  simp only [OrderRow.withStatus_status, OrderStatus.ofName?_name, bind, Except.bind, pure,
    Except.pure, Except.ok.injEq, exists_eq_left']
  exact ⟨rfl, rfl, rfl⟩

/-- The rows stored when a `Placed` order read back from its row issues its tickets: its
admissions, each for the order, and for the seats of its seat lines, each once. -/
theorem OrderRow.Placed.issued {o : OrderRow} (hplaced : o.Placed) {order : Order}
    (hload : o.toOrder = .ok order) {now : Instant} {first : Nat} {rows : List TicketRow}
    (h : (order.issueTickets now first).mapM ticketRow = .ok rows) :
    rows.map TicketRow.admission = o.admissions ∧ (∀ r ∈ rows, r.order = o.ref) ∧
      rows.filterMap TicketRow.seatPlace = o.seatPlaces := by
  obtain ⟨href, huser, -, -, -, hlines⟩ := OrderRow.toOrder_ok hload
  obtain ⟨hadmissions, hfor⟩ := OrderRow.issued_rows href huser hlines hplaced.prices h
  refine ⟨hadmissions, hfor, ?_⟩
  have hplaces : rows.filterMap TicketRow.seatPlace =
      (rows.map TicketRow.admission).filterMap admissionPlace := by
    rw [List.filterMap_map]
    rfl
  rw [hplaces, hadmissions, OrderRow.admissions_seatPlaces hplaced.seat_single]

/-- A `Placed` order buys at least one admission. -/
theorem OrderRow.Placed.admissions_ne_nil {o : OrderRow} (h : o.Placed) : o.admissions ≠ [] := by
  obtain ⟨l, hl⟩ := List.exists_mem_of_ne_nil _ h.lines_ne
  have hq := h.quantity_pos l hl
  intro hnil
  have hnone := List.flatMap_eq_nil_iff.1 hnil l hl
  simp only [List.replicate_eq_nil_iff] at hnone
  omega

namespace Tables

variable {st st' : Tables}

/-- The tickets follow the completed orders: every order is `Placed`; every ticket belongs to a
completed order, for a seat of one of its seat lines if for any; the tickets of a completed order
are those one issue of its tickets stores; and no seat is on two tickets. -/
structure Ticketed (st : Tables) : Prop where
  placed : ∀ o ∈ st.orders, o.Placed
  owned : ∀ t ∈ st.tickets, ∃ o ∈ st.orders, o.ref = t.order ∧
    o.status = OrderStatus.completed.name ∧ ∀ P, t.seatPlace = some P → P ∈ o.seatPlaces
  issued : ∀ o ∈ st.orders, o.status = OrderStatus.completed.name → ∃ order now first,
    o.toOrder = .ok order ∧ (order.issueTickets now first).mapM ticketRow = .ok (st.ticketsOf o.ref)
  seats : (st.tickets.filterMap TicketRow.seatPlace).Nodup

theorem Fresh.ticketed (h : st.Fresh) : st.Ticketed := by
  refine ⟨?_, ?_, ?_, ?_⟩ <;> simp [h.no_orders, h.no_tickets]

theorem Ticketed.order_ne (hk : st.Keyed) (ht : st.Ticketed) {o : OrderRow} (ho : o ∈ st.orders)
    (hstatus : o.status ≠ OrderStatus.completed.name) : ∀ t ∈ st.tickets, t.order ≠ o.ref := by
  intro t htk heq
  obtain ⟨o', ho', href, hcompleted, -⟩ := ht.owned t htk
  obtain rfl : o' = o := List.inj_on_of_nodup_map hk.order_refs ho' ho (href.trans heq)
  exact hstatus hcompleted

/-- Orders added pending, with no tickets, keep the tickets following the orders. -/
theorem Ticketed.add_pending (ht : st.Ticketed) {new : List OrderRow}
    (horders : st'.orders = st.orders ++ new) (htickets : st'.tickets = st.tickets)
    (hnew : ∀ o ∈ new, o.Placed ∧ o.status = OrderStatus.pending.name) : st'.Ticketed := by
  refine ⟨?_, ?_, ?_, htickets ▸ ht.seats⟩
  · intro o ho
    rw [horders, List.mem_append] at ho
    rcases ho with ho | ho
    · exact ht.placed o ho
    · exact (hnew o ho).1
  · intro t htk
    obtain ⟨o, ho, h⟩ := ht.owned t (htickets ▸ htk)
    exact ⟨o, horders ▸ List.mem_append_left _ ho, h⟩
  · intro o ho hcompleted
    rw [horders, List.mem_append] at ho
    rcases ho with ho | ho
    · have hsame : st'.ticketsOf o.ref = st.ticketsOf o.ref := by simp [ticketsOf, htickets]
      rw [hsame]
      exact ht.issued o ho hcompleted
    · rw [(hnew o ho).2] at hcompleted
      simp at hcompleted

/-! ### A pending order leaving pending -/

section PairMoved

variable {st₁ : Tables} {o : OrderRow} {p : PaymentRow} {target : OrderStatus}
  {pay : PaymentStatus} {now : Instant} {rows : List TicketRow}
  (hk : st.Keyed) (ht : st.Ticketed) (hmoved : st.PairMoved st₁ o p target pay now)
  (horders : st'.orders = st₁.orders) (htickets : st'.tickets = st.tickets ++ rows)
  (hissued : target = .completed → ∃ order t first,
    (o.withStatus target now).toOrder = .ok order ∧
      (order.issueTickets t first).mapM ticketRow = .ok rows)
  (hrows : ∀ r ∈ rows, r.order = o.ref ∧ target = .completed)
  (hplaces : (rows.filterMap TicketRow.seatPlace).Sublist o.seatPlaces)

include hk ht hmoved in
theorem Ticketed.moved_free : ∀ t ∈ st.tickets, t.order ≠ o.ref :=
  ht.order_ne hk hmoved.order_mem (by rw [hmoved.order_pending]; decide)

include ht hmoved hissued in
/-- The rows stored with the order are its own, stored only on its completion, and are for
seats of its seat lines, each once. -/
theorem Ticketed.moved_rows (hnone : target ≠ .completed → rows = []) :
    (∀ r ∈ rows, r.order = o.ref ∧ target = .completed) ∧
      (rows.filterMap TicketRow.seatPlace).Sublist o.seatPlaces := by
  by_cases htarget : target = .completed
  · obtain ⟨order, t, first, hload, hissue⟩ := hissued htarget
    obtain ⟨-, hfor, hplaces⟩ :=
      ((ht.placed o hmoved.order_mem).withStatus target now).issued hload hissue
    exact ⟨fun r hr => ⟨by simpa using hfor r hr, htarget⟩, by simp [hplaces]⟩
  · simp [hnone htarget]

include hk ht hmoved horders htickets hrows hplaces in
/-- Every ticket still belongs to a completed order, for a seat of one of its seat lines: an old
ticket to its owner, which is not the moved order, and a new one to the moved order. -/
theorem Ticketed.moved_owned : ∀ t ∈ st'.tickets, ∃ x ∈ st'.orders, x.ref = t.order ∧
    x.status = OrderStatus.completed.name ∧ ∀ P, t.seatPlace = some P → P ∈ x.seatPlaces := by
  intro t htk
  rw [htickets, List.mem_append] at htk
  rcases htk with htk | htk
  · obtain ⟨x, hx, href, hcompleted, hseat⟩ := ht.owned t htk
    have hx₁ : x ∈ st₁.orders :=
      hmoved.mem_orders.2 (.inr ⟨hx, href ▸ ht.moved_free hk hmoved t htk⟩)
    exact ⟨x, horders ▸ hx₁, href, hcompleted, hseat⟩
  · obtain ⟨hfor, hcompleted⟩ := hrows t htk
    refine ⟨o.withStatus target now, horders ▸ hmoved.mem_orders.2 (.inl rfl), by simp [hfor],
      by simp [hcompleted], fun P hP => ?_⟩
    simpa using hplaces.subset (List.mem_filterMap.2 ⟨t, htk, hP⟩)

include hk ht hmoved horders htickets hissued hrows in
/-- A completed order's tickets are still those one issue stores: the moved order's are the new
rows, and another order's are its old ones, the new rows being for the moved order. -/
theorem Ticketed.moved_issued : ∀ x ∈ st'.orders, x.status = OrderStatus.completed.name →
    ∃ order t first, x.toOrder = .ok order ∧
      (order.issueTickets t first).mapM ticketRow = .ok (st'.ticketsOf x.ref) := by
  intro x hx hcompleted
  rw [horders] at hx
  -- the tickets of an order are its old ones and the new rows that are for it
  have hof : st'.ticketsOf x.ref = st.ticketsOf x.ref ++ rows.filter (·.order == x.ref) := by
    simp [ticketsOf, htickets, List.filter_append]
  rcases hmoved.mem_orders.1 hx with rfl | ⟨hx, hne⟩
  · obtain ⟨order, t, first, hload, hissue⟩ := hissued (by simpa using hcompleted)
    have hold : st.ticketsOf o.ref = [] := by
      simpa [ticketsOf] using ht.moved_free hk hmoved
    have hall : rows.filter (·.order == o.ref) = rows := by
      simpa using fun r hr => (hrows r hr).1
    refine ⟨order, t, first, hload, ?_⟩
    simp only [OrderRow.withStatus_ref] at hof ⊢
    rw [hof, hold, hall, List.nil_append]
    exact hissue
  · have hnone : rows.filter (·.order == x.ref) = [] := by
      rw [List.filter_eq_nil_iff]
      intro r hr
      simpa [(hrows r hr).1] using fun h => hne h.symm
    rw [hof, hnone, List.append_nil]
    exact ht.issued x hx hcompleted

include hk ht hmoved htickets hplaces in
/-- No seat is on two tickets: the new rows are for seats of the moved order's seat lines, each
once, and a seat on an old ticket belongs to a completed order, which shares no seat with the
pending moved order. -/
theorem Ticketed.moved_seats (hs : st.SeatsHeld) :
    (st'.tickets.filterMap TicketRow.seatPlace).Nodup := by
  have ho := hmoved.order_mem
  have hpending := hmoved.order_pending
  rw [htickets, List.filterMap_append, List.nodup_append]
  refine ⟨ht.seats, hplaces.nodup (ht.placed o ho).seat_places, ?_⟩
  intro P hP Q hQ hPQ
  subst hPQ
  obtain ⟨t, htk, htP⟩ := List.mem_filterMap.1 hP
  obtain ⟨x, hx, -, hcompleted, hseat⟩ := ht.owned t htk
  have hsame : x = o := hs.eq_of_seatPlace hk.order_refs hx ho
    (by simp [OrderRow.holdsStock, hcompleted]) (by simp [OrderRow.holdsStock, hpending])
    (hseat P htP) (hplaces.subset hQ)
  rw [hsame, hpending] at hcompleted
  simp at hcompleted

include hk ht hmoved horders htickets hissued in
/-- A pending order leaving pending keeps the tickets following the orders, when the tickets
stored with it are those issued on its completion, and none if it does not complete. -/
theorem Ticketed.pairMoved (hs : st.SeatsHeld) (hnone : target ≠ .completed → rows = []) :
    st'.Ticketed := by
  obtain ⟨hrows, hplaces⟩ := ht.moved_rows hmoved hissued hnone
  refine ⟨?_, ht.moved_owned hk hmoved horders htickets hrows hplaces,
    ht.moved_issued hk hmoved horders htickets hissued hrows,
    ht.moved_seats hk hmoved htickets hplaces hs⟩
  intro x hx
  rw [horders] at hx
  rcases hmoved.mem_orders.1 hx with rfl | ⟨hx, -⟩
  · exact (ht.placed o hmoved.order_mem).withStatus target now
  · exact ht.placed x hx

end PairMoved

theorem Stocked.prices {P : Binary64 → Prop} {st₀ : Tables} (hs : Stocked st₀ st)
    (hP : ∀ f ∈ st₀.offers, P f.price) : ∀ f ∈ st.offers, P f.price := by
  intro f hf
  rw [hs.offers, shiftSold, List.mem_map] at hf
  obtain ⟨g, hg, rfl⟩ := hf
  exact hP g hg

/-- Every move keeps the tickets following the completed orders, while the offers are priced
below `2 ^ 46`. -/
theorem Move.ticketed (hk : st.Keyed) (hs : st.SeatsHeld)
    (hprices : ∀ f ∈ st.offers, f.price.AmountBelow (2 ^ 46)) (ht : st.Ticketed)
    (h : Move st st') : st'.Ticketed := by
  cases h with
  | @place st₁ _ _ _ _ _ _ _ _ _ _ row _ hcart hreserve hprice hrow _ _ _ _ =>
    have hrestock := hreserve.restock
    have hplaced := OrderRow.placed_of_place (hreserve.lines_placed hcart hprices)
      (hreserve.seats hk.seat_places).2.1 hprice hrow
    obtain ⟨pricing, -, rfl⟩ := Order.place_ok hprice
    obtain ⟨-, -, hstatus, -⟩ := orderRow_ok hrow
    refine ht.add_pending ?_ hrestock.tickets (List.forall_mem_singleton.2 ⟨hplaced, hstatus⟩)
    show st₁.orders ++ [row] = st.orders ++ [row]
    rw [hrestock.orders]
  | @complete st₁ st₂ o _ now order order' first tickets hmoved hload hmove hsell hrows =>
    have hst₂ := eq_updateSeats_fst hsell
    rw [updateSeats_fst] at hst₂
    subst hst₂
    obtain ⟨href, huser, -, -, -, hlines⟩ := OrderRow.toOrder_ok hload
    obtain ⟨moved, hmoved', hmref, hmuser, hmlines⟩ :=
      OrderRow.toOrder_withStatus o .completed now
    -- the moved row issues the tickets the order issued on its completion
    have hissue : (moved.issueTickets now first).mapM ticketRow = .ok tickets := by
      rw [Order.issueTickets_congr (hmref.trans href.symm) (hmuser.trans huser.symm)
        (hmlines.trans hlines.symm), ← Order.issueTickets_moveTo hmove]
      exact hrows
    refine ht.pairMoved hk hmoved rfl ?_ (fun _ => ⟨moved, now, first, hmoved', hissue⟩) hs
      (fun hne => absurd rfl hne)
    show st₁.tickets ++ tickets = st.tickets ++ tickets
    rw [hmoved.tickets]
  | release hmoved htarget hrelease =>
    have hrestock := hrelease.restock
    refine ht.pairMoved hk hmoved hrestock.orders ?_ (fun hcompleted => ?_) hs (fun _ => rfl)
    · rw [hrestock.tickets, hmoved.tickets, List.append_nil]
    · rcases htarget with rfl | rfl <;> cases hcompleted
  | releaseLocks now =>
    have hrestock : Restock st (st.releaseExpiredLocks now).1 := releaseExpiredLocks_restock now
    exact ht.add_pending (by rw [hrestock.orders, List.append_nil]) hrestock.tickets
      (List.forall_mem_nil _)

/-! ## What the tickets tell of the orders -/


theorem Ticketed.admissions (ht : st.Ticketed) {o : OrderRow} (ho : o ∈ st.orders)
    (hcompleted : o.status = OrderStatus.completed.name) :
    (st.ticketsOf o.ref).map TicketRow.admission = o.admissions := by
  obtain ⟨order, now, first, hload, hissue⟩ := ht.issued o ho hcompleted
  exact ((ht.placed o ho).issued hload hissue).1

/-- An order has tickets exactly when it is completed. -/
theorem Ticketed.ticketsOf_ne_nil_iff (hk : st.Keyed) (ht : st.Ticketed) {o : OrderRow}
    (ho : o ∈ st.orders) : st.ticketsOf o.ref ≠ [] ↔ o.status = OrderStatus.completed.name := by
  constructor
  · intro hne
    by_contra hstatus
    obtain ⟨t, htk⟩ := List.exists_mem_of_ne_nil _ hne
    obtain ⟨htk, hfor⟩ := List.mem_filter.1 htk
    exact ht.order_ne hk ho hstatus t htk (by simpa using hfor)
  · intro hcompleted hnil
    have hadmissions := ht.admissions ho hcompleted
    rw [hnil, List.map_nil] at hadmissions
    exact (ht.placed o ho).admissions_ne_nil hadmissions.symm

/-- What the tickets of a completed order cost adds up to its subtotal, while its money stays
below `2 ^ 46`. -/
theorem Ticketed.paid_sum (ht : st.Ticketed) {o : OrderRow} (ho : o ∈ st.orders)
    (hcompleted : o.status = OrderStatus.completed.name) (hmoney : o.MoneyBelow (2 ^ 46)) :
    ((st.ticketsOf o.ref).map fun t => (readAmount t.pricePaid).value).sum =
      (readAmount o.subtotal).value := by
  have hplaced := ht.placed o ho
  calc ((st.ticketsOf o.ref).map fun t => (readAmount t.pricePaid).value).sum
      = (((st.ticketsOf o.ref).map TicketRow.admission).map fun a => a.2.2.2.2).sum := by
        rw [List.map_map]
        rfl
    _ = (o.admissions.map fun a => a.2.2.2.2).sum := by rw [ht.admissions ho hcompleted]
    _ = (o.lines.map LineRow.totalValue).sum := o.admissions_sum hplaced.quantity_pos
    _ = (readAmount o.subtotal).value := (hplaced.subtotal hmoney).symm

end Tables

end Store

/-! ## Runs -/

/-- Along every run from a fresh store whose seeded locks belong to no order the run places and
whose offers are priced below `2 ^ 46`: an order has tickets exactly when it is completed; the
tickets of a completed order are those one issue of its tickets stores, one per unit bought, so
that a seat line's one ticket carries its seat and a general-admission line's tickets none, each
for the order's buyer at the line's unit price; while the order's money stays below `2 ^ 46`,
what its tickets cost adds up to its subtotal; and no seat is on two tickets. -/
theorem tickets_follow_completion {s₀ s : Session} (h0 : s₀.store.Fresh)
    (hforeign : ∀ r ∈ s₀.store.seats, ∀ n, r.holder ≠ some (.placed n))
    (hprices : ∀ f ∈ s₀.store.offers, f.price.AmountBelow (2 ^ 46)) (h : Reachable s₀ s) :
    (∀ o ∈ s.store.orders,
      (s.store.ticketsOf o.ref ≠ [] ↔ o.status = OrderStatus.completed.name)) ∧
    (∀ o ∈ s.store.orders, o.status = OrderStatus.completed.name →
      (∃ order now first, o.toOrder = .ok order ∧
        (order.issueTickets now first).mapM ticketRow = .ok (s.store.ticketsOf o.ref)) ∧
      (s.store.ticketsOf o.ref).length = (o.lines.map fun l => l.quantity.toNat).sum ∧
      (∀ l ∈ o.lines, l.seatId.isSome → l.quantity = 1) ∧
      (s.store.ticketsOf o.ref).map TicketRow.admission = o.admissions ∧
      (o.MoneyBelow (2 ^ 46) →
        ((s.store.ticketsOf o.ref).map fun t => (readAmount t.pricePaid).value).sum =
          (readAmount o.subtotal).value)) ∧
    (s.store.tickets.filterMap TicketRow.seatPlace).Nodup := by
  have hk := h.keyed h0
  -- the tickets follow the orders together with the stock and the seats, which price the lines
  -- and keep seat lines apart
  have hinv : Tables.Stocked s₀.store s.store ∧ s.store.SeatsHeld ∧ s.store.Ticketed :=
    h.invariant (I := fun st => Tables.Stocked s₀.store st ∧ st.SeatsHeld ∧ st.Ticketed) h0
      ⟨h0.stocked, h0.seatsHeld hforeign, h0.ticketed⟩
      fun hk ⟨hstock, hs, ht⟩ hm => ⟨hm.stocked hk hstock, hm.seatsHeld hk hs,
        hm.ticketed hk hs (hstock.prices hprices) ht⟩
  obtain ⟨-, -, ht⟩ := hinv
  refine ⟨fun o ho => ht.ticketsOf_ne_nil_iff hk ho, fun o ho hcompleted => ?_, ht.seats⟩
  have hadmissions := ht.admissions ho hcompleted
  refine ⟨ht.issued o ho hcompleted, ?_, (ht.placed o ho).seat_single, hadmissions,
    ht.paid_sum ho hcompleted⟩
  rw [← List.length_map (f := TicketRow.admission), hadmissions, OrderRow.admissions_length]

/-- A run that places an order for two general-admission units and a seat of a free offer and
confirms its payment: the completed order has its three tickets. -/
theorem tickets_follow_completion_from_free_offer :
    let s₀ := Session.start { offers := [⟨1, 1, 1, "Floor", ⟨0⟩, 10, 0⟩],
                              seats := [⟨1, 1, 1, "available", none, none⟩] } ⟨0⟩
    let rules : CheckoutRules := ⟨{}, .finite false 0 0, 15, "usd", .local⟩
    let s₁ := ({ s₀ with now := ⟨0⟩ }.perform (.placeOrder rules ⟨1, .buyer⟩
      [{ offerId := 1, quantity := 2 }, { offerId := 1, seatId := some 1 }])).2
    let s := ({ s₁ with now := ⟨60⟩ }.perform
      (.confirmPayment "pi_mock_000000000000000000000001")).2
    s₀.store.Fresh ∧ (∀ r ∈ s₀.store.seats, ∀ n, r.holder ≠ some (.placed n)) ∧
      (∀ f ∈ s₀.store.offers, f.price.AmountBelow (2 ^ 46)) ∧ Reachable s₀ s ∧
      (∃ o ∈ s.store.orders, o.status = OrderStatus.completed.name ∧
        (s.store.ticketsOf o.ref).length = 3) ∧
      ((∀ o ∈ s.store.orders,
        (s.store.ticketsOf o.ref ≠ [] ↔ o.status = OrderStatus.completed.name)) ∧
      (∀ o ∈ s.store.orders, o.status = OrderStatus.completed.name →
        (∃ order now first, o.toOrder = .ok order ∧
          (order.issueTickets now first).mapM ticketRow = .ok (s.store.ticketsOf o.ref)) ∧
        (s.store.ticketsOf o.ref).length = (o.lines.map fun l => l.quantity.toNat).sum ∧
        (∀ l ∈ o.lines, l.seatId.isSome → l.quantity = 1) ∧
        (s.store.ticketsOf o.ref).map TicketRow.admission = o.admissions ∧
        (o.MoneyBelow (2 ^ 46) →
          ((s.store.ticketsOf o.ref).map fun t => (readAmount t.pricePaid).value).sum =
            (readAmount o.subtotal).value)) ∧
      (s.store.tickets.filterMap TicketRow.seatPlace).Nodup) :=
  have hfresh : Tables.Fresh _ := ⟨by decide, by decide, by decide, rfl, rfl, rfl⟩
  have hforeign : ∀ r ∈ _, ∀ n, SeatRow.holder r ≠ some (.placed n) := by simp [Session.start]
  have hprices : ∀ f ∈ _, OfferRow.price f |>.AmountBelow (2 ^ 46) := by
    intro f hf
    simp only [Session.start, List.mem_singleton] at hf
    subst hf
    refine ⟨by decide, ?_⟩
    rw [show (⟨0⟩ : Binary64) = Binary64.zero false by decide, readAmount_zero,
      Decimal.value_cents, Decimal.signed_zero]
    norm_num
  have hrun : Reachable _ _ := .step (c := .confirmPayment "pi_mock_000000000000000000000001")
    ⟨60⟩ trivial (.step (c := .placeOrder ⟨{}, .finite false 0 0, 15, "usd", .local⟩ ⟨1, .buyer⟩
      [{ offerId := 1, quantity := 2 }, { offerId := 1, seatId := some 1 }]) ⟨0⟩ trivial .start)
  ⟨hfresh, hforeign, hprices, hrun, by decide +kernel,
    tickets_follow_completion hfresh hforeign hprices hrun⟩

end TicketCheckout
