import TicketCheckout.Proofs.Finality
import TicketCheckout.Proofs.Rounding

/-!
# Placing an order

What checkout does with a cart, read line by line (`Tables.admitLine`, `Tables.admitLines`):
each line finds its offer or is refused as not found; a seat line takes the seat at the offer's
event when it is there under the offer's tier and available, is refused by a domain rule when the
seat is under another tier, and as taken otherwise; a general-admission line takes its units when
that many are unsold. Each line meets the store the earlier lines left.

In a store that keeps its own constraints (`Tables.Constrained`: unique keys, units sold within
bounds, integers within 64 bits, seat statuses named), reserving the lines does what admitting
them does (`reserveLines_run`), and a cart whose lines are admitted is priced in cents, stored
and paid for (`checkout_of_admitted`), whatever the exponent of the fee per ticket. The outcome
of placing an order (`placeOrder_outcome`): the cart's rejection, the first refused line, the
gateway's failure, or the commit of exactly the admitted inventory, the order and its pending
payment; a failure leaves the store as it was.

The clock must leave room for the reservation window: a window that would end past the
supported years fails checkout with an overflow before the store is looked at
(`checkout_of_window_overflow`).
-/

namespace TicketCheckout

open Store

/-- The integers of a cart line: its offer, its quantity and its seat. -/
def CartLine.integers (line : CartLine) : List Int :=
  [line.offerId, line.quantity] ++ line.seatId.toList

namespace Store.Tables

/-- The store with the row at place `P` locked for `holder` until `expiresAt`. -/
def lockAt (st : Tables) (P : Int × Int) (expiresAt : Instant) (holder : OrderRef) : Tables :=
  { st with seats := st.seats.map fun r => if r.place = P then r.lock expiresAt holder else r }

/-- What checkout does with one cart line for order `ref`, by the rules of checkout: the line's
offer must exist; a seat line takes the seat at the offer's event when the seat is there, under
the offer's tier and available, and a seat under another tier is refused as such before its
status is looked at; a general-admission line takes its units when that many are unsold. Gives
the order line priced at the offer's price. -/
def admitLine (st : Tables) (ref : OrderRef) (expiresAt : Instant) (line : CartLine) :
    Except Failure (Tables × OrderLine) :=
  match st.offer? line.offerId with
  | none => .error (.notFound s!"Offer {line.offerId} not found")
  | some offer =>
    let l : OrderLine := ⟨offer.id, offer.eventId, offer.tierId, line.seatId, line.quantity,
      readAmount offer.price⟩
    match line.seatId with
    | some seat =>
      match st.seat? offer.eventId seat with
      | some r =>
        if r.tierId ≠ offer.tierId then
          .error (.invalid s!"Seat {seat} is not sold under ticket tier {offer.tierId}")
        else if r.status = SeatStatus.available.name then
          .ok (st.lockAt (offer.eventId, seat) expiresAt ref, l)
        else .error (.seatTaken s!"Seat {seat} is no longer available.")
      | none => .error (.seatTaken s!"Seat {seat} is no longer available.")
    | none =>
      if line.quantity ≤ offer.forSale - offer.sold then
        .ok (st.updateOffer { offer with sold := offer.sold + line.quantity }, l)
      else .error (.soldOut "Not enough tickets available for this offer.")

/-- The lines of a cart in order, each against the store the earlier ones left; the first line
refused names the failure. -/
def admitLines (st : Tables) (ref : OrderRef) (expiresAt : Instant) :
    List CartLine → Except Failure (Tables × List OrderLine)
  | [] => .ok (st, [])
  | line :: rest =>
    match st.admitLine ref expiresAt line with
    | .error e => .error e
    | .ok (st₁, l) =>
      match st₁.admitLines ref expiresAt rest with
      | .error e => .error e
      | .ok (st₂, ls) => .ok (st₂, l :: ls)

/-- What the store's own constraints keep and checkout relies on: unique keys, every offer's
units sold between zero and its units for sale, every stored offer integer within 64 bits, and
every seat's status the name of a seat status. -/
structure Constrained (st : Tables) : Prop where
  keyed : st.Keyed
  bounded : st.Bounded
  offers_fit : ∀ f ∈ st.offers, f.integers.all fitsInteger = true
  seats_named : ∀ r ∈ st.seats, ∃ status : SeatStatus, r.status = status.name

variable {st : Tables}

theorem bindIntegers_of_fits {ps : List Int} (h : ps.all fitsInteger = true) :
    bindIntegers ps = .ok () := by
  simp [bindIntegers, h]

theorem findOffer_of_fits {id : Int} (h : fitsInteger id = true) :
    st.findOffer id = .ok (st.offer? id) := by
  simp [findOffer, bindIntegers, h, bind, Except.bind, pure, Except.pure]

/-- The row at a place, in a store whose places are unique, is the only row there. -/
theorem seat?_unique (hkeys : (st.seats.map SeatRow.place).Nodup) {eventId seatId : Int}
    {r : SeatRow} (hr : st.seat? eventId seatId = some r) :
    r ∈ st.seats ∧ r.place = (eventId, seatId) ∧
      ∀ q ∈ st.seats, q.place = (eventId, seatId) → q = r := by
  have hmem := List.mem_of_find?_eq_some hr
  have hplace : r.place = (eventId, seatId) := by
    simpa [SeatRow.place] using List.find?_some hr
  exact ⟨hmem, hplace, fun q hq hq' =>
    List.inj_on_of_nodup_map hkeys hq hmem (hq'.trans hplace.symm)⟩

theorem seat?_none {eventId seatId : Int} (h : st.seat? eventId seatId = none) :
    ∀ q ∈ st.seats, q.place ≠ (eventId, seatId) := by
  intro q hq hplace
  rw [seat?, List.find?_eq_none] at h
  exact h q hq (by simpa [SeatRow.place] using hplace)

theorem seatEntity?_of_row {eventId seatId : Int} (hfits : [eventId, seatId].all fitsInteger = true)
    {r : SeatRow} (hr : st.seat? eventId seatId = some r) {status : SeatStatus}
    (hname : r.status = status.name) :
    st.seatEntity? eventId seatId =
      .ok (some ⟨r.eventId, r.seatId, r.tierId, status, r.lockExpiresAt, r.holder⟩) := by
  simp only [seatEntity?, bindIntegers_of_fits hfits, hr, SeatRow.toSeat, readStatus, hname,
    SeatStatus.ofName?_name]
  rfl

theorem seatEntity?_of_none {eventId seatId : Int}
    (hfits : [eventId, seatId].all fitsInteger = true) (h : st.seat? eventId seatId = none) :
    st.seatEntity? eventId seatId = .ok none := by
  simp only [seatEntity?, bindIntegers_of_fits hfits, h]
  rfl

theorem lockSeat_filter_nil {eventId seatId : Int} (tierId : Int)
    (h : ∀ q ∈ st.seats, q.place = (eventId, seatId) → q.tierId = tierId →
      q.status ≠ SeatStatus.available.name) :
    st.seats.filter (fun q => q.isAt eventId seatId && q.tierId == tierId &&
      q.status == SeatStatus.available.name) = [] := by
  rw [List.filter_eq_nil_iff]
  intro q hq hg
  simp only [Bool.and_eq_true, beq_iff_eq, SeatRow.isAt_iff] at hg
  exact h q hq hg.1.1 hg.1.2 hg.2

/-- Locking a seat, in a store whose places are unique and whose seat statuses are named, takes
the row at the place when it is under the tier and available; otherwise the row read back says
why: another tier, or a seat missing or taken. -/
theorem lockSeat_eq {eventId seatId tierId : Int} {expiresAt : Instant} {holder : OrderRef}
    (hkeys : (st.seats.map SeatRow.place).Nodup)
    (hnamed : ∀ r ∈ st.seats, ∃ status : SeatStatus, r.status = status.name)
    (hfits : [eventId, seatId, tierId].all fitsInteger = true) :
    st.lockSeat eventId seatId tierId expiresAt holder =
      match st.seat? eventId seatId with
      | some r =>
        if r.tierId ≠ tierId then
          .error (.invalid s!"Seat {seatId} is not sold under ticket tier {tierId}")
        else if r.status = SeatStatus.available.name then
          .ok (st.lockAt (eventId, seatId) expiresAt holder)
        else .error (.seatTaken s!"Seat {seatId} is no longer available.")
      | none => .error (.seatTaken s!"Seat {seatId} is no longer available.") := by
  have hfits₂ : [eventId, seatId].all fitsInteger = true := by
    simp only [List.all_cons, List.all_nil, Bool.and_true, Bool.and_eq_true] at hfits ⊢
    exact ⟨hfits.1, hfits.2.1⟩
  -- the update's guard holds exactly at the row at the place, under the tier and available
  have hguard : ∀ q ∈ st.seats, (q.isAt eventId seatId && q.tierId == tierId &&
      q.status == SeatStatus.available.name) = true ↔
      q.place = (eventId, seatId) ∧ q.tierId = tierId ∧ q.status = SeatStatus.available.name := by
    intro q _
    simp [SeatRow.isAt_iff, and_assoc]
  unfold lockSeat
  rw [bindIntegers_of_fits hfits]
  cases hseat : st.seat? eventId seatId with
  | none =>
    have hnone := lockSeat_filter_nil tierId fun q hq hplace =>
      absurd hplace (seat?_none hseat q hq)
    simp only [bind, Except.bind, updateSeats, hnone, List.length_nil, bne_self_eq_false,
      Bool.false_eq_true, if_false, seatEntity?_of_none hfits₂ hseat]
    rfl
  | some r =>
    obtain ⟨hr, hplace, hunique⟩ := seat?_unique hkeys hseat
    obtain ⟨status, hname⟩ := hnamed r hr
    by_cases hfree : r.tierId = tierId ∧ r.status = SeatStatus.available.name
    · -- the row is taken: the update changes it alone
      have hlen : (st.seats.filter (fun q => q.isAt eventId seatId && q.tierId == tierId &&
          q.status == SeatStatus.available.name)).length ≠ 0 := by
        rw [Ne, List.length_eq_zero_iff, List.filter_eq_nil_iff, not_forall]
        exact ⟨r, fun h => h hr ((hguard r hr).2 ⟨hplace, hfree⟩)⟩
      simp only [bind, Except.bind, updateSeats, bne_iff_ne, ne_eq, hlen, not_false_eq_true,
        if_true, hfree, not_true_eq_false, if_false]
      exact congrArg (fun seats => Except.ok { st with seats })
        (List.map_congr_left fun q hq => if_congr ((hguard q hq).trans
          ⟨fun h => h.1, fun h => hunique q hq h ▸ ⟨hplace, hfree⟩⟩) rfl rfl)
    · -- no row is taken: the row read back says why
      have hnone := lockSeat_filter_nil tierId fun q hq hplace htier hstatus =>
        hfree (hunique q hq hplace ▸ ⟨htier, hstatus⟩)
      simp only [bind, Except.bind, updateSeats, hnone, List.length_nil, bne_self_eq_false,
        Bool.false_eq_true, if_false, seatEntity?_of_row hfits₂ hseat hname, bne_iff_ne, ne_eq]
      by_cases htier : r.tierId = tierId
      · have hstatus : ¬ r.status = SeatStatus.available.name := fun h => hfree ⟨htier, h⟩
        simp only [htier, not_true_eq_false, if_false, hstatus]
        rfl
      · simp only [htier, not_false_eq_true, if_true]
        rfl

/-- In a store whose offer ids are unique and whose offers keep their bounds, reserving units
of an offer takes them when that many are unsold, and is refused otherwise. -/
theorem reserve_eq (hkeys : (st.offers.map (·.id)).Nodup) (hb : st.Bounded) {offer : OfferRow}
    (ho : offer ∈ st.offers) {quantity : Int} (hq : 0 < quantity)
    (hfits : [offer.id, quantity].all fitsInteger = true) :
    st.reserve offer.id quantity =
      if quantity ≤ offer.forSale - offer.sold then
        .ok (st.updateOffer { offer with sold := offer.sold + quantity })
      else .error (.soldOut "Not enough tickets available for this offer.") := by
  have hfound : st.offer? offer.id = some offer := find?_of_mem hkeys ho
  obtain ⟨hlow, -⟩ := hb offer ho
  unfold reserve
  rw [bindIntegers_of_fits hfits]
  simp only [bind, Except.bind, hfound]
  by_cases henough : quantity ≤ offer.forSale - offer.sold
  · have hbounds : (0 ≤ offer.sold + quantity && offer.sold + quantity ≤ offer.forSale) = true := by
      simp only [Bool.and_eq_true, decide_eq_true_eq]
      omega
    rw [if_pos (by omega), if_pos henough]
    simp only [require, hbounds, if_true]
    rfl
  · rw [if_neg (by omega), if_neg henough]

/-! ## What admitting a line keeps -/

theorem lockAt_restock (P : Int × Int) (expiresAt : Instant) (holder : OrderRef) :
    Restock st (st.lockAt P expiresAt holder) := by
  refine ⟨rfl, ?_, rfl, rfl, rfl⟩
  simp only [lockAt, List.map_map]
  refine List.map_congr_left fun r _ => ?_
  by_cases hr : r.place = P <;> simp [hr]

theorem Constrained.lockAt (hc : st.Constrained) (P : Int × Int) (expiresAt : Instant)
    (holder : OrderRef) : (st.lockAt P expiresAt holder).Constrained := by
  refine ⟨hc.keyed.restock (lockAt_restock P expiresAt holder), hc.bounded, hc.offers_fit, ?_⟩
  intro r hr
  obtain ⟨q, hq, rfl⟩ := List.mem_map.1 hr
  by_cases hP : q.place = P
  · exact ⟨.locked, by simp [hP]⟩
  · simpa [hP] using hc.seats_named q hq

theorem mem_updateOffer {r f : OfferRow} (hf : f ∈ (st.updateOffer r).offers) :
    f = r ∨ f ∈ st.offers := by
  obtain ⟨o, ho, rfl⟩ := List.mem_map.1 hf
  by_cases hor : o.id == r.id
  · simp [hor]
  · simp [hor, ho]

theorem Constrained.updateOffer (hc : st.Constrained) {r : OfferRow}
    (hr : 0 ≤ r.sold ∧ r.sold ≤ r.forSale) (hfits : r.integers.all fitsInteger = true) :
    (st.updateOffer r).Constrained :=
  ⟨hc.keyed.restock (updateOffer_restock r), hc.bounded.updateOffer hr,
    fun f hf => (mem_updateOffer hf).elim (fun h => h ▸ hfits) (hc.offers_fit f), hc.seats_named⟩

theorem fitsInteger_of_between {n m : Int} (h0 : 0 ≤ n) (hle : n ≤ m)
    (hm : fitsInteger m = true) : fitsInteger n = true := by
  simp only [fitsInteger, Bool.and_eq_true, decide_eq_true_eq] at hm ⊢
  omega

/-- What an admitted line did: it found its offer, priced the line at the offer's price, and
either locked its seat or took its units from the offer. -/
theorem admitLine_ok {ref : OrderRef} {expiresAt : Instant} {line : CartLine} {st' : Tables}
    {l : OrderLine} (h : st.admitLine ref expiresAt line = .ok (st', l)) :
    ∃ offer ∈ st.offers, l = ⟨offer.id, offer.eventId, offer.tierId, line.seatId, line.quantity,
        readAmount offer.price⟩ ∧
      ((∃ seat, line.seatId = some seat ∧ st' = st.lockAt (offer.eventId, seat) expiresAt ref) ∨
        (line.seatId = none ∧ line.quantity ≤ offer.forSale - offer.sold ∧
          st' = st.updateOffer { offer with sold := offer.sold + line.quantity })) := by
  unfold Store.Tables.admitLine at h
  cases hoffer : st.offer? line.offerId with
  | none => simp [hoffer] at h
  | some offer =>
    have ho := List.mem_of_find?_eq_some hoffer
    simp only [hoffer] at h
    cases hseat : line.seatId with
    | some seat =>
      simp only [hseat] at h
      cases hr : st.seat? offer.eventId seat with
      | none => simp [hr] at h
      | some r =>
        simp only [hr] at h
        split_ifs at h
        cases h
        exact ⟨offer, ho, rfl, .inl ⟨seat, rfl, rfl⟩⟩
    | none =>
      simp only [hseat] at h
      split_ifs at h with henough
      cases h
      exact ⟨offer, ho, rfl, .inr ⟨rfl, henough, rfl⟩⟩

theorem admitLine_restock {ref : OrderRef} {expiresAt : Instant} {line : CartLine}
    {st' : Tables} {l : OrderLine} (h : st.admitLine ref expiresAt line = .ok (st', l)) :
    Restock st st' := by
  obtain ⟨offer, -, -, ⟨seat, -, rfl⟩ | ⟨-, -, rfl⟩⟩ := admitLine_ok h
  · exact lockAt_restock _ _ _
  · exact updateOffer_restock _

theorem admitLine_prices {P : Number.Binary64 → Prop} (hP : ∀ f ∈ st.offers, P f.price)
    {ref : OrderRef} {expiresAt : Instant} {line : CartLine} {st' : Tables} {l : OrderLine}
    (h : st.admitLine ref expiresAt line = .ok (st', l)) : ∀ f ∈ st'.offers, P f.price := by
  obtain ⟨offer, ho, -, ⟨seat, -, rfl⟩ | ⟨-, -, rfl⟩⟩ := admitLine_ok h
  · exact hP
  · exact updateOffer_prices hP (hP offer ho)

/-- Admitting a line keeps the store's constraints: a lock changes a seat's status to a name,
and units taken stay within the offer's bounds. -/
theorem Constrained.admitLine (hc : st.Constrained) {ref : OrderRef} {expiresAt : Instant}
    {line : CartLine} (hq : 1 ≤ line.quantity) {st' : Tables} {l : OrderLine}
    (h : st.admitLine ref expiresAt line = .ok (st', l)) : st'.Constrained := by
  obtain ⟨offer, ho, -, ⟨seat, -, rfl⟩ | ⟨-, henough, rfl⟩⟩ := admitLine_ok h
  · exact hc.lockAt _ _ _
  · obtain ⟨hlow, -⟩ := hc.bounded offer ho
    have hofits := hc.offers_fit offer ho
    simp only [OfferRow.integers, List.all_cons, List.all_nil, Bool.and_true,
      Bool.and_eq_true] at hofits
    obtain ⟨hid, hevent, htier, hsale, -⟩ := hofits
    refine hc.updateOffer (show 0 ≤ offer.sold + line.quantity ∧
      offer.sold + line.quantity ≤ offer.forSale by omega) ?_
    simp only [OfferRow.integers, List.all_cons, List.all_nil, Bool.and_true, Bool.and_eq_true]
    exact ⟨hid, hevent, htier, hsale, fitsInteger_of_between (by omega) (by omega) hsale⟩

/-! ## Admitting a cart -/

theorem admitLines_cons_ok {ref : OrderRef} {expiresAt : Instant} {line : CartLine}
    {rest : List CartLine} {st' : Tables} {ls : List OrderLine}
    (h : st.admitLines ref expiresAt (line :: rest) = .ok (st', ls)) :
    ∃ st₁ l ls', st.admitLine ref expiresAt line = .ok (st₁, l) ∧
      st₁.admitLines ref expiresAt rest = .ok (st', ls') ∧ ls = l :: ls' := by
  simp only [admitLines] at h
  rcases h₁ : st.admitLine ref expiresAt line with e | ⟨st₁, l⟩ <;> simp only [h₁] at h
  · cases h
  · rcases h₂ : st₁.admitLines ref expiresAt rest with e | ⟨st₂, ls'⟩ <;> simp only [h₂] at h
    · cases h
    · cases h
      exact ⟨st₁, l, ls', rfl, h₂, rfl⟩

section AdmitLines

variable {ref : OrderRef} {expiresAt : Instant}

/-- Admitting a cart changes inventory alone. -/
theorem admitLines_restock {lines : List CartLine} {st' : Tables} {ls : List OrderLine}
    (h : st.admitLines ref expiresAt lines = .ok (st', ls)) : Restock st st' := by
  induction lines generalizing st ls with
  | nil =>
    cases h
    exact Restock.refl _
  | cons line rest ih =>
    obtain ⟨st₁, l, ls', h₁, h₂, -⟩ := admitLines_cons_ok h
    exact (admitLine_restock h₁).trans (ih h₂)

/-- Admitting a cart keeps the store's constraints. -/
theorem Constrained.admitLines (hc : st.Constrained) {lines : List CartLine}
    (hq : ∀ line ∈ lines, 1 ≤ line.quantity) {st' : Tables} {ls : List OrderLine}
    (h : st.admitLines ref expiresAt lines = .ok (st', ls)) : st'.Constrained := by
  induction lines generalizing st ls with
  | nil =>
    cases h
    exact hc
  | cons line rest ih =>
    obtain ⟨st₁, l, ls', h₁, h₂, -⟩ := admitLines_cons_ok h
    exact ih (hc.admitLine (hq line List.mem_cons_self) h₁)
      (fun line hl => hq line (List.mem_cons_of_mem _ hl)) h₂

/-- The order lines of an admitted cart: one per cart line, with its seat and quantity, at the
price of an offer whose integers fit and whose price has every property all the store's prices
have. -/
theorem admitLines_lines {P : Number.Binary64 → Prop} (hc : st.Constrained)
    (hP : ∀ f ∈ st.offers, P f.price) {lines : List CartLine}
    (hq : ∀ line ∈ lines, 1 ≤ line.quantity) {st' : Tables} {ls : List OrderLine}
    (h : st.admitLines ref expiresAt lines = .ok (st', ls)) :
    List.Forall₂ (fun line l => ∃ f : OfferRow, f.integers.all fitsInteger = true ∧ P f.price ∧
      l = ⟨f.id, f.eventId, f.tierId, line.seatId, line.quantity, readAmount f.price⟩)
      lines ls := by
  induction lines generalizing st ls with
  | nil =>
    cases h
    exact .nil
  | cons line rest ih =>
    obtain ⟨st₁, l, ls', h₁, h₂, rfl⟩ := admitLines_cons_ok h
    obtain ⟨offer, ho, hl, -⟩ := admitLine_ok h₁
    exact .cons ⟨offer, hc.offers_fit offer ho, hP offer ho, hl⟩
      (ih (hc.admitLine (hq line List.mem_cons_self) h₁) (admitLine_prices hP h₁)
        (fun line hl => hq line (List.mem_cons_of_mem _ hl)) h₂)

end AdmitLines

end Store.Tables

open Tables Service

variable {α β : Type} {s : Session}

theorem CartLine.fits_offerId {line : CartLine} (h : line.integers.all fitsInteger = true) :
    fitsInteger line.offerId = true := by
  simp only [CartLine.integers, List.all_append, List.all_cons, Bool.and_eq_true] at h
  exact h.1.1

/-- Reserving one line, in a store that keeps its constraints and for a line whose integers fit,
does what admitting it does; a refused line leaves the session as it was. -/
theorem reserveLine_eq (hc : s.store.Constrained) {line : CartLine}
    (hfits : line.integers.all fitsInteger = true) (hq : 1 ≤ line.quantity) (ref : OrderRef)
    (expiresAt : Instant) :
    reserveLine ref expiresAt line s = match s.store.admitLine ref expiresAt line with
      | .ok (st, l) => .ok l { s with store := st }
      | .error e => .error e s := by
  unfold reserveLine
  rw [bind_store, findOffer_of_fits (CartLine.fits_offerId hfits), bind_lift_of_ok rfl]
  unfold admitLine
  cases hoffer : s.store.offer? line.offerId with
  | none => rfl
  | some offer =>
    have ho : offer ∈ s.store.offers := List.mem_of_find?_eq_some hoffer
    have hofits := hc.offers_fit offer ho
    simp only [OfferRow.integers, List.all_cons, List.all_nil, Bool.and_true,
      Bool.and_eq_true] at hofits
    simp only [CartLine.integers, List.all_append, List.all_cons, List.all_nil, Bool.and_true,
      Bool.and_eq_true] at hfits
    cases hseat : line.seatId with
    | some seat =>
      simp only [hseat, Option.toList_some, List.all_cons, List.all_nil, Bool.and_true] at hfits ⊢
      rw [bind_write_run, lockSeat_eq hc.keyed.seat_places hc.seats_named
        (by simp [hofits.2.1, hfits.2, hofits.2.2.1])]
      cases hr : s.store.seat? offer.eventId seat with
      | none => rfl
      | some r =>
        by_cases htier : r.tierId = offer.tierId
        · by_cases hstatus : r.status = SeatStatus.available.name
          · simp only [htier, hstatus, ne_eq, not_true_eq_false, if_false, if_true]
            rfl
          · simp only [htier, hstatus, ne_eq, not_true_eq_false, if_false]
        · simp only [htier, ne_eq, not_false_eq_true, if_true]
    | none =>
      simp only
      rw [bind_write_run, reserve_eq hc.keyed.offer_ids hc.bounded ho (by omega)
        (by simp [hofits.1, hfits.1.2])]
      by_cases henough : line.quantity ≤ offer.forSale - offer.sold
      · simp only [henough, if_true]
        rfl
      · simp only [henough, if_false]

/-- Reserving a cart's lines one after another does what admitting them does, against the
store each earlier line left; a refused line stops the loop with the store the earlier lines
left. -/
theorem reserveLines_run {lines : List CartLine} (hc : s.store.Constrained)
    (hfits : ∀ line ∈ lines, line.integers.all fitsInteger = true)
    (hq : ∀ line ∈ lines, 1 ≤ line.quantity) (ref : OrderRef) (expiresAt : Instant) :
    match s.store.admitLines ref expiresAt lines with
    | .ok (st, ls) => lines.mapM (reserveLine ref expiresAt) s = .ok ls { s with store := st }
    | .error e =>
      ∃ st, lines.mapM (reserveLine ref expiresAt) s = .error e { s with store := st } := by
  induction lines generalizing s with
  | nil => rfl
  | cons line rest ih =>
    rw [List.mapM_cons]
    simp only [bind, EStateM.bind, reserveLine_eq hc (hfits line List.mem_cons_self)
      (hq line List.mem_cons_self), admitLines]
    cases hline : s.store.admitLine ref expiresAt line with
    | error e => exact ⟨s.store, rfl⟩
    | ok r =>
      obtain ⟨st₁, l⟩ := r
      -- the rest of the cart meets the store the first line left
      have hc₁ : st₁.Constrained := hc.admitLine (hq line List.mem_cons_self) hline
      have hrest := ih (s := { s with store := st₁ }) hc₁
        (fun line hl => hfits line (List.mem_cons_of_mem _ hl))
        (fun line hl => hq line (List.mem_cons_of_mem _ hl))
      simp only at hrest ⊢
      cases hlater : st₁.admitLines ref expiresAt rest with
      | error e =>
        rw [hlater] at hrest
        obtain ⟨st, hst⟩ := hrest
        exact ⟨st, by simp only [hst]⟩
      | ok r =>
        obtain ⟨st₂, ls⟩ := r
        rw [hlater] at hrest
        simp only [hrest]
        rfl

/-! ## Storing a placed order -/

theorem readAmount_cents {x : Number.Binary64} (h : x.isInfinite = false) :
    ∃ s c, readAmount x = .finite s c (-2) := by
  unfold readAmount
  simp only [h, Bool.false_eq_true, if_false]
  exact ⟨_, _, rfl⟩

theorem lineRow_of_offer (f : OfferRow) (line : CartLine) :
    ∃ r, lineRow ⟨f.id, f.eventId, f.tierId, line.seatId, line.quantity, readAmount f.price⟩ =
      .ok r ∧ r.integers = [f.id, f.eventId, f.tierId, line.quantity] ++ line.seatId.toList := by
  obtain ⟨y, hy⟩ := storeAmount_readAmount f.price
  refine ⟨⟨f.id, f.eventId, f.tierId, line.seatId, line.quantity, y⟩, ?_, rfl⟩
  simp only [lineRow, hy, bind, Except.bind, pure, Except.pure]

/-- The lines of an admitted cart can all be stored, and every integer they carry fits. -/
theorem lineRows_of_admitted {P : Number.Binary64 → Prop} {lines : List CartLine}
    {ls : List OrderLine}
    (hrel : List.Forall₂ (fun line l => ∃ f : OfferRow, f.integers.all fitsInteger = true ∧
      P f.price ∧ l = ⟨f.id, f.eventId, f.tierId, line.seatId, line.quantity, readAmount f.price⟩)
      lines ls)
    (hfits : ∀ line ∈ lines, line.integers.all fitsInteger = true) :
    ∃ rows, ls.mapM lineRow = .ok rows ∧
      (rows.flatMap LineRow.integers).all fitsInteger = true := by
  induction hrel with
  | nil => exact ⟨[], rfl, rfl⟩
  | @cons line l lines ls hl _ ih =>
    obtain ⟨f, hf, -, rfl⟩ := hl
    obtain ⟨r, hr, hints⟩ := lineRow_of_offer f line
    obtain ⟨rows, hrows, hall⟩ := ih fun line hline => hfits line (List.mem_cons_of_mem _ hline)
    refine ⟨r :: rows, ?_, ?_⟩
    · simp only [List.mapM_cons, hr, hrows, bind, Except.bind, pure, Except.pure]
    · have hline := hfits line List.mem_cons_self
      simp only [OfferRow.integers, CartLine.integers, List.all_cons, List.all_nil, List.all_append,
        Bool.and_true, Bool.and_eq_true] at hf hline
      simp only [List.flatMap_cons, List.all_append, hints, hall, List.all_cons, List.all_nil,
        hf.1, hf.2.1, hf.2.2.1, hline.1.2, hline.2, Bool.and_true]

theorem insertOrder_of_fresh (st : Tables) {r : OrderRow} (huser : fitsInteger r.userId = true)
    (hfresh : ∀ o ∈ st.orders, o.ref ≠ r.ref)
    (hlines : (r.lines.flatMap LineRow.integers).all fitsInteger = true) :
    st.insertOrder r = .ok { st with orders := st.orders ++ [r] } := by
  have hall : (st.orders.all fun o => o.ref != r.ref) = true := by
    simpa only [List.all_eq_true, bne_iff_ne, ne_eq] using hfresh
  simp only [insertOrder, bindIntegers, List.all_cons, List.all_nil, huser, hall, hlines, require,
    Bool.and_true, if_true, bind, Except.bind, pure, Except.pure]

theorem insertPayment_of_fresh (st : Tables) {r : PaymentRow}
    (hfresh : ∀ p ∈ st.payments, p.order ≠ r.order ∧ p.reference ≠ r.reference) :
    st.insertPayment r = .ok { st with payments := st.payments ++ [r] } := by
  have hall :
      (st.payments.all fun p => p.order != r.order && p.reference != r.reference) = true := by
    simpa only [List.all_eq_true, Bool.and_eq_true, bne_iff_ne, ne_eq] using hfresh
  simp only [insertPayment, hall, require, if_true, bind, Except.bind, pure, Except.pure]

/-! ## Opening the intent -/

/-- What a gateway answers a session that has drawn `tokens` random tokens: the local gateway an
intent made from the next two tokens, the processor what the client reads in its reply. -/
def Gateway.Kind.intent? (g : Gateway.Kind) (tokens : Nat) : Except Failure Gateway.PaymentIntent :=
  match g with
  | .local => .ok (Gateway.localIntent (tokens + 1))
  | .processor script => Gateway.readReply (Json.read? .strict) script.send

/-- Opening an intent answers what `intent?` says and leaves the store alone. -/
theorem openIntent_run (g : Gateway.Kind) (amount : Int) (currency : String) (s : Session) :
    ∃ s', s'.store = s.store ∧
      g.openIntent amount currency s = match g.intent? s.tokens with
        | .ok i => .ok i s'
        | .error e => .error e s' := by
  cases g with
  | «local» => exact ⟨{ s with tokens := s.tokens + 2 }, rfl, rfl⟩
  | processor script =>
    refine ⟨{ s with requests := s.requests ++ [Gateway.intentRequest script amount currency] },
      rfl, ?_⟩
    simp only [Gateway.Kind.openIntent, Gateway.Kind.intent?]
    cases Gateway.readReply (Json.read? .strict) script.send <;> rfl

/-! ## Checkout -/

theorem bind_run_ok {m : Service α} {a : α} {s' : Session} (h : m s = .ok a s')
    (k : α → Service β) : (m >>= k) s = k a s' := by
  simp only [bind, EStateM.bind, h]

theorem bind_run_error {m : Service α} {e : Failure} {s' : Session} (h : m s = .error e s')
    (k : α → Service β) : (m >>= k) s = .error e s' := by
  simp only [bind, EStateM.bind, h]

theorem bind_get (k : Session → Service β) : (get >>= k) s = k s s := rfl

section Checkout

/-! Checkout of a cart whose integers fit and whose quantities are positive, from a store that
keeps its constraints, at a clock that leaves room for the reservation window. -/

variable {rules : CheckoutRules} {buyer : Principal} {lines : List CartLine} {expiresAt : Instant}
  (hc : s.store.Constrained) (hfits : ∀ line ∈ lines, line.integers.all fitsInteger = true)
  (hq : ∀ line ∈ lines, 1 ≤ line.quantity) (hnow : s.now.supported = true)
  (hwindow : s.now.addMinutes rules.windowMinutes = some expiresAt)
include hc hfits hq hnow hwindow

/-- A cart whose lines were all admitted, priced and stored goes on to the gateway: a refusal
fails checkout with the gateway's failure, an intent commits the order with its pending
payment. -/
theorem checkout_of_admitted {st : Tables} {ls : List OrderLine}
    (hadmitted : s.store.admitLines (.placed (s.placed + 1)) expiresAt lines = .ok (st, ls))
    {order : Order}
    (horder : Order.place (.placed (s.placed + 1)) buyer.id ls rules.feePerTicket rules.currency
      expiresAt s.now = .ok order)
    {row : OrderRow} (hrow : orderRow order = .ok row)
    (hinsert : st.insertOrder row = .ok { st with orders := st.orders ++ [row] })
    {amount : Int} (hamount : minorUnits order.total = .ok amount) :
    (∀ e, rules.gateway.intent? s.tokens = .error e →
      ∃ s', checkout rules buyer lines s = .error e s') ∧
    ∀ intent reference charged, rules.gateway.intent? s.tokens = .ok intent →
      intentReference intent.id = .ok reference → storeAmount order.total = .ok charged →
      (∀ p ∈ st.payments, p.order ≠ .placed (s.placed + 1) ∧ p.reference ≠ reference) →
      ∃ s', checkout rules buyer lines s = .ok ⟨order, intent.clientSecret⟩ s' ∧
        s'.store = { st with orders := st.orders ++ [row], payments := st.payments ++
          [⟨.placed (s.placed + 1), PaymentStatus.pending.name, charged, order.currency, reference,
            s.now⟩] } := by
  have hlines := reserveLines_run hc hfits hq (.placed (s.placed + 1)) expiresAt
  rw [hadmitted] at hlines
  simp only at hlines
  have hwrite : (do let r ← orderRow order; st.insertOrder r : Except Failure Tables) =
      .ok { st with orders := st.orders ++ [row] } := by
    rw [hrow]
    exact hinsert
  obtain ⟨s₂, hs₂, hopen⟩ := openIntent_run rules.gateway amount order.currency
    { s with store := { st with orders := st.orders ++ [row] } }
  -- run every step up to the gateway
  unfold checkout
  rw [bind_now hnow]
  simp only [hwindow, pure_bind]
  unfold atomically
  simp only [bind_get, bind_run_ok hlines, bind_lift_of_ok horder, bind_write_run, hwrite,
    bind_lift_of_ok hamount]
  constructor
  · -- the gateway refuses
    intro e hintent
    rw [hintent] at hopen
    exact ⟨_, by rw [bind_run_error hopen]⟩
  · -- the gateway opens an intent
    intro intent reference charged hintent hreference hcharged hfresh
    rw [hintent] at hopen
    have hpayment := insertPayment_of_fresh { st with orders := st.orders ++ [row] }
      (r := ⟨.placed (s.placed + 1), PaymentStatus.pending.name, charged, order.currency, reference,
        s.now⟩) hfresh
    rw [bind_run_ok hopen]
    simp only [bind_lift_of_ok hcharged, bind_lift_of_ok hreference, bind_write_run, hs₂, hpayment]
    exact ⟨_, rfl, rfl⟩

/-- A cart with a refused line fails checkout with the refusal. -/
theorem checkout_of_refused {e : Failure}
    (hrefused : s.store.admitLines (.placed (s.placed + 1)) expiresAt lines = .error e) :
    ∃ s', checkout rules buyer lines s = .error e s' := by
  have hlines := reserveLines_run hc hfits hq (.placed (s.placed + 1)) expiresAt
  rw [hrefused] at hlines
  obtain ⟨st, hst⟩ := hlines
  unfold checkout
  rw [bind_now hnow]
  simp only [hwindow, pure_bind]
  unfold atomically
  simp only [bind_get, bind_run_error hst]
  exact ⟨_, rfl⟩

end Checkout

theorem bind_attempt_run {m : Service α} (k : Except Failure α → Service β) :
    (attempt m >>= k) s = match m s with
      | .ok a s' => k (.ok a) s'
      | .error e s' => k (.error e) s' := by
  unfold attempt
  cases hm : m s <;> simp only [bind, EStateM.bind, hm]

/-- Placing an order ends as validation and checkout end: a placed order is recorded as created,
a failure is passed on. -/
theorem placeOrder_run (rules : CheckoutRules) (buyer : Principal) (lines : List CartLine) :
    match (lift (validateCart rules.limits lines) >>= fun _ => checkout rules buyer lines) s with
    | .ok p s₁ =>
      placeOrder rules buyer lines s = .ok p { s₁ with metrics := s₁.metrics ++ [.order .created] }
    | .error e _ => ∃ s', placeOrder rules buyer lines s = .error e s' := by
  unfold placeOrder
  rw [bind_attempt_run]
  cases (lift (validateCart rules.limits lines) >>= fun _ => checkout rules buyer lines) s with
  | ok p s₁ => rfl
  | error e s₁ =>
    by_cases hconflict : e.isConflict = true
    · simp only [hconflict, if_true]
      exact ⟨_, rfl⟩
    · simp only [hconflict, Bool.false_eq_true, if_false]
      exact ⟨_, rfl⟩

theorem placeOrder_of_invalid {rules : CheckoutRules} {buyer : Principal} {lines : List CartLine}
    {e : Failure} (h : validateCart rules.limits lines = .error e) :
    ∃ s', placeOrder rules buyer lines s = .error e s' ∧ s'.store = s.store := by
  have hrun := placeOrder_run rules buyer lines (s := s)
  rw [h] at hrun
  obtain ⟨s', hs'⟩ := hrun
  exact ⟨s', hs', placeOrder_rollsBack rules buyer lines s e s' hs'⟩

theorem placeOrder_of_checkout_error {rules : CheckoutRules} {buyer : Principal}
    {lines : List CartLine} (hv : validateCart rules.limits lines = .ok ()) {e : Failure}
    {s₁ : Session} (h : checkout rules buyer lines s = .error e s₁) :
    ∃ s', placeOrder rules buyer lines s = .error e s' ∧ s'.store = s.store := by
  have hrun := placeOrder_run rules buyer lines (s := s)
  rw [bind_lift_of_ok hv, h] at hrun
  obtain ⟨s', hs'⟩ := hrun
  exact ⟨s', hs', placeOrder_rollsBack rules buyer lines s e s' hs'⟩

theorem placeOrder_of_checkout_ok {rules : CheckoutRules} {buyer : Principal}
    {lines : List CartLine} (hv : validateCart rules.limits lines = .ok ()) {p : Placement}
    {s₁ : Session} (h : checkout rules buyer lines s = .ok p s₁) :
    ∃ s', placeOrder rules buyer lines s = .ok p s' ∧ s'.store = s₁.store := by
  have hrun := placeOrder_run rules buyer lines (s := s)
  rw [bind_lift_of_ok hv, h] at hrun
  exact ⟨_, hrun, rfl⟩

theorem orderRow_of_cents {o : Order} {s₁ s₂ s₃ : Bool} {c₁ c₂ c₃ : Nat}
    (hsub : o.subtotal = .finite s₁ c₁ (-2)) (hfee : o.serviceFee = .finite s₂ c₂ (-2))
    (htotal : o.total = .finite s₃ c₃ (-2)) {rows : List LineRow}
    (hrows : o.lines.mapM lineRow = .ok rows) :
    ∃ row, orderRow o = .ok row ∧ row.ref = o.ref ∧ row.userId = o.userId ∧ row.lines = rows := by
  simp only [orderRow, hsub, hfee, htotal, storeAmount, hrows, bind, Except.bind, pure,
    Except.pure]
  exact ⟨_, rfl, rfl, rfl, rfl⟩

/-- The lines of an admitted cart, at finite prices, with a finite fee per ticket and sizes adding
up to at most a cent below `10 ^ 26`, make an order that can be stored under a new reference, and
whose total has minor units and can be stored. -/
theorem admitted_order_stored {rules : CheckoutRules} {buyer : Principal} {lines : List CartLine}
    {expiresAt : Instant} (hc : s.store.Constrained)
    (hprices : ∀ f ∈ s.store.offers, f.price.isInfinite = false)
    (hfits : ∀ line ∈ lines, line.integers.all fitsInteger = true)
    (hq : ∀ line ∈ lines, 1 ≤ line.quantity) (hne : lines ≠ [])
    (hbuyer : fitsInteger buyer.id = true) {sf : Bool} {cf : Nat} {ef : Int}
    (hfee : rules.feePerTicket = .finite sf cf ef)
    (hnew : ∀ o ∈ s.store.orders, o.ref ≠ .placed (s.placed + 1)) {st : Tables}
    {ls : List OrderLine}
    (hadmitted : s.store.admitLines (.placed (s.placed + 1)) expiresAt lines = .ok (st, ls))
    (hsize : (ls.map fun l => |l.totalValue|).sum +
      |rules.feePerTicket.value * ticketCount ls| + 1 / 100 ≤ 10 ^ 26) :
    ∃ order row amount charged, Order.place (.placed (s.placed + 1)) buyer.id ls
        rules.feePerTicket rules.currency expiresAt s.now = .ok order ∧
      orderRow order = .ok row ∧ st.insertOrder row = .ok { st with orders := st.orders ++ [row] } ∧
      minorUnits order.total = .ok amount ∧ storeAmount order.total = .ok charged := by
  -- the admitted lines are priced in cents at offers whose integers fit
  have hrel := admitLines_lines (P := fun x => x.isInfinite = false) hc hprices hq hadmitted
  have hne_ls : ls ≠ [] := by
    intro hnil
    rw [hnil, List.forall₂_nil_right_iff] at hrel
    exact hne hrel
  have hls_prices : ∀ l ∈ ls, ∃ s c, l.unitPrice = .finite s c (-2) := by
    intro l hl
    obtain ⟨line, -, f, -, hfinite, rfl⟩ := exists_of_forall₂ hrel hl
    exact readAmount_cents hfinite
  rw [hfee] at hsize
  obtain ⟨p, hp, ⟨s₁, c₁, hsub⟩, ⟨s₂, c₂, hservice⟩, s₃, c₃, htotal, hc₃⟩ :=
    Pricing.ofLines_in_cents hne_ls hls_prices hsize
  -- the order, its row and its amount in minor units
  let order : Order := ⟨.placed (s.placed + 1), buyer.id, p.subtotal, p.serviceFee, p.total,
    rules.currency, expiresAt, .pending, ls, s.now, s.now, none⟩
  have horder : Order.place (.placed (s.placed + 1)) buyer.id ls rules.feePerTicket rules.currency
      expiresAt s.now = .ok order := by
    simp only [Order.place, hfee, hp, bind, Except.bind, pure, Except.pure, order]
  obtain ⟨rows, hrows, hall⟩ := lineRows_of_admitted (P := fun x => x.isInfinite = false) hrel hfits
  obtain ⟨row, hrow, hrow_ref, hrow_user, hrow_lines⟩ :=
    orderRow_of_cents (o := order) hsub hservice htotal hrows
  have hinsert := insertOrder_of_fresh st (hrow_user ▸ hbuyer)
    (by rw [(admitLines_restock hadmitted).orders, hrow_ref]; exact hnew) (hrow_lines ▸ hall)
  exact ⟨order, row, _, _, horder, hrow, hinsert,
    minorUnits_cents s₃ hc₃ ▸ congrArg minorUnits htotal,
    congrArg storeAmount htotal⟩

/-! ## The outcome of placing an order -/

/-- Placing an order, from a store that keeps its constraints and prices its offers finitely, at
a clock whose reservation window ends within the supported years, with a finite fee per ticket:
a cart that validation rejects is refused with the rejection; otherwise the lines are admitted
one after another against the store the earlier ones left, and the first refused line is refused
with its failure; a cart whose lines are all admitted, and whose line totals and fees add up in
size to at most a cent below `10 ^ 26`, is priced and stored, and then fails with the gateway's
failure or commits exactly the admitted inventory, the order and its pending payment under the
intent's reference. Every failure leaves the store as it was. -/
theorem placeOrder_outcome {rules : CheckoutRules} {buyer : Principal} {lines : List CartLine}
    {expiresAt : Instant} (hc : s.store.Constrained)
    (hprices : ∀ f ∈ s.store.offers, f.price.isInfinite = false)
    (hfits : ∀ line ∈ lines, line.integers.all fitsInteger = true)
    (hbuyer : fitsInteger buyer.id = true) (hnow : s.now.supported = true)
    (hwindow : s.now.addMinutes rules.windowMinutes = some expiresAt)
    {sf : Bool} {cf : Nat} {ef : Int} (hfee : rules.feePerTicket = .finite sf cf ef)
    (hnew : ∀ o ∈ s.store.orders, o.ref ≠ .placed (s.placed + 1))
    (hnewPayment : ∀ p ∈ s.store.payments, p.order ≠ .placed (s.placed + 1)) :
    (∀ e, validateCart rules.limits lines = .error e →
      ∃ s', placeOrder rules buyer lines s = .error e s' ∧ s'.store = s.store) ∧
    (validateCart rules.limits lines = .ok () →
      (∀ e, s.store.admitLines (.placed (s.placed + 1)) expiresAt lines = .error e →
        ∃ s', placeOrder rules buyer lines s = .error e s' ∧ s'.store = s.store) ∧
      ∀ st ls, s.store.admitLines (.placed (s.placed + 1)) expiresAt lines = .ok (st, ls) →
        (ls.map fun l => |l.totalValue|).sum +
          |rules.feePerTicket.value * ticketCount ls| + 1 / 100 ≤ 10 ^ 26 →
        ∃ order row, Order.place (.placed (s.placed + 1)) buyer.id ls rules.feePerTicket
            rules.currency expiresAt s.now = .ok order ∧ orderRow order = .ok row ∧
          (∀ e, rules.gateway.intent? s.tokens = .error e →
            ∃ s', placeOrder rules buyer lines s = .error e s' ∧ s'.store = s.store) ∧
          ∀ intent reference, rules.gateway.intent? s.tokens = .ok intent →
            intentReference intent.id = .ok reference →
            (∀ p ∈ s.store.payments, p.reference ≠ reference) →
            ∃ charged s', storeAmount order.total = .ok charged ∧
              placeOrder rules buyer lines s = .ok ⟨order, intent.clientSecret⟩ s' ∧
              s'.store = { st with orders := st.orders ++ [row], payments := st.payments ++
                [⟨.placed (s.placed + 1), PaymentStatus.pending.name, charged, order.currency,
                  reference, s.now⟩] }) := by
  refine ⟨fun e hinvalid => placeOrder_of_invalid hinvalid, fun hv => ?_⟩
  obtain ⟨hne, hvalid⟩ := validateCart_lines hv
  have hq : ∀ line ∈ lines, 1 ≤ line.quantity := fun line hl => (hvalid line hl).1
  refine ⟨fun e hrefused => ?_, fun st ls hadmitted hsize => ?_⟩
  · -- a refused line
    obtain ⟨s₁, hs₁⟩ := checkout_of_refused hc hfits hq hnow hwindow hrefused
    exact placeOrder_of_checkout_error hv hs₁
  obtain ⟨order, row, amount, charged, horder, hrow, hinsert, hamount, hcharged⟩ :=
    admitted_order_stored hc hprices hfits hq hne hbuyer hfee hnew hadmitted hsize
  obtain ⟨hrefusal, hcommit⟩ := checkout_of_admitted hc hfits hq hnow hwindow hadmitted horder hrow
    hinsert hamount
  refine ⟨order, row, horder, hrow, fun e he => ?_,
    fun intent reference hintent hreference hfresh => ?_⟩
  · -- the gateway refuses
    obtain ⟨s₁, hs₁⟩ := hrefusal e he
    exact placeOrder_of_checkout_error hv hs₁
  · -- the gateway opens an intent: the payment is new by its order and its reference
    have hpayments :
        ∀ q ∈ st.payments, q.order ≠ .placed (s.placed + 1) ∧ q.reference ≠ reference := by
      rw [(admitLines_restock hadmitted).payments]
      exact fun q hq => ⟨hnewPayment q hq, hfresh q hq⟩
    obtain ⟨s₁, hs₁, hstore⟩ := hcommit intent reference charged hintent hreference hcharged
      hpayments
    obtain ⟨s', hs', hstore'⟩ := placeOrder_of_checkout_ok hv hs₁
    exact ⟨charged, s', hcharged, hs', hstore'.trans hstore⟩

theorem placeOrder_outcome_for_one_ticket :
    let s : Session :=
      Session.start { offers := [⟨1, 1, 1, "GA", ⟨4621819117588971520⟩, 5, 0⟩] } ⟨0⟩
    let rules : CheckoutRules := ⟨{}, .finite false 250 (-2), 15, "usd", .local⟩
    let lines : List CartLine := [{ offerId := 1 }]
    s.store.Constrained ∧ (∀ f ∈ s.store.offers, f.price.isInfinite = false) ∧
      (∀ line ∈ lines, line.integers.all fitsInteger = true) ∧ fitsInteger 1 = true ∧
      s.now.supported = true ∧ s.now.addMinutes rules.windowMinutes = some ⟨900⟩ ∧
      (∀ o ∈ s.store.orders, o.ref ≠ .placed (s.placed + 1)) ∧
      (∀ p ∈ s.store.payments, p.order ≠ .placed (s.placed + 1)) ∧
      (∀ e, validateCart rules.limits lines = .error e →
        ∃ s', placeOrder rules ⟨1, .buyer⟩ lines s = .error e s' ∧ s'.store = s.store) ∧
      (validateCart rules.limits lines = .ok () →
        (∀ e, s.store.admitLines (.placed (s.placed + 1)) ⟨900⟩ lines = .error e →
          ∃ s', placeOrder rules ⟨1, .buyer⟩ lines s = .error e s' ∧ s'.store = s.store) ∧
        ∀ st ls, s.store.admitLines (.placed (s.placed + 1)) ⟨900⟩ lines = .ok (st, ls) →
          (ls.map fun l => |l.totalValue|).sum +
            |rules.feePerTicket.value * ticketCount ls| + 1 / 100 ≤ 10 ^ 26 →
          ∃ order row, Order.place (.placed (s.placed + 1)) 1 ls rules.feePerTicket
              rules.currency ⟨900⟩ s.now = .ok order ∧ orderRow order = .ok row ∧
            (∀ e, rules.gateway.intent? s.tokens = .error e →
              ∃ s', placeOrder rules ⟨1, .buyer⟩ lines s = .error e s' ∧ s'.store = s.store) ∧
            ∀ intent reference, rules.gateway.intent? s.tokens = .ok intent →
              intentReference intent.id = .ok reference →
              (∀ p ∈ s.store.payments, p.reference ≠ reference) →
              ∃ charged s', storeAmount order.total = .ok charged ∧
                placeOrder rules ⟨1, .buyer⟩ lines s = .ok ⟨order, intent.clientSecret⟩ s' ∧
                s'.store = { st with orders := st.orders ++ [row], payments := st.payments ++
                  [⟨.placed (s.placed + 1), PaymentStatus.pending.name, charged, order.currency,
                    reference, s.now⟩] }) := by
  intro s rules lines
  have hc : s.store.Constrained := ⟨⟨by decide, by decide, by decide, by decide, by decide⟩,
    by simp [Tables.Bounded, s, Session.start], by decide, by simp [s, Session.start]⟩
  have hprices : ∀ f ∈ s.store.offers, f.price.isInfinite = false := by decide +kernel
  have hfits : ∀ line ∈ lines, line.integers.all fitsInteger = true := by decide
  have hnew : ∀ o ∈ s.store.orders, o.ref ≠ .placed (s.placed + 1) := by simp [s, Session.start]
  have hnewPayment : ∀ p ∈ s.store.payments, p.order ≠ .placed (s.placed + 1) := by
    simp [s, Session.start]
  exact ⟨hc, hprices, hfits, by decide, by decide, by decide, hnew, hnewPayment,
    placeOrder_outcome hc hprices hfits (by decide) (by decide) (by decide) rfl hnew hnewPayment⟩

/-- Checkout at a clock whose reservation window would end past the supported years fails with
an overflow before it looks at the store. -/
theorem checkout_of_window_overflow {rules : CheckoutRules} {buyer : Principal}
    {lines : List CartLine} (hnow : s.now.supported = true)
    (hwindow : s.now.addMinutes rules.windowMinutes = none) :
    checkout rules buyer lines s = .error .outOfRange s := by
  unfold checkout
  rw [bind_now hnow]
  simp only [hwindow]
  rfl

/-- A cart placed a quarter of an hour before the end of the supported years, with a window of a
quarter of an hour, is valid and its offer has the units, yet placing it fails with an overflow:
the reservation window cannot end. -/
theorem placement_fails_when_window_passes_supported_years :
    let s : Session := Session.start
      { offers := [⟨1, 1, 1, "GA", ⟨4621819117588971520⟩, 5, 0⟩] } ⟨253402299900⟩
    let rules : CheckoutRules := ⟨{}, .finite false 250 (-2), 15, "usd", .local⟩
    validateCart rules.limits [{ offerId := 1 }] = .ok () ∧ s.now.supported = true ∧
      s.now.addMinutes rules.windowMinutes = none ∧
      ∃ s', placeOrder rules ⟨1, .buyer⟩ [{ offerId := 1 }] s = .error .outOfRange s' ∧
        s'.store = s.store := by
  intro s rules
  have hv : validateCart rules.limits [{ offerId := 1 }] = .ok () := rfl
  have hnow : s.now.supported = true := by decide
  have hwindow : s.now.addMinutes rules.windowMinutes = none := by decide
  exact ⟨hv, hnow, hwindow,
    placeOrder_of_checkout_error hv (checkout_of_window_overflow hnow hwindow)⟩

end TicketCheckout
