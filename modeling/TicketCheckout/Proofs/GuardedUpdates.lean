import TicketCheckout.Store.Ledger
import TicketCheckout.Store.Records

/-!
# What a guarded update that succeeds did

One lemma per store operation says, from the operation's success alone, which table changed and
how, and which guard held: a settlement or an order move that reports a move found a pending
row with the key and moved exactly the pending rows with it; an insert found its keys fresh and
appended; reserving and releasing units found the offer and kept its bounds; locking found an
available seat of the tier; unlocking for a holder freed exactly the rows the holder had locked,
and refusing with a taken seat means the holder locked none; marking seats sold sold exactly
the listed seats the holder had locked.

Later proofs cite these lemmas and never unfold an operation again.
-/

namespace TicketCheckout.Store

/-- A payment row moved to `target`. -/
def PaymentRow.withStatus (target : PaymentStatus) (q : PaymentRow) : PaymentRow :=
  { q with status := target.name }

/-- An order row moved to `target` at `now`; completing it also sets its completion time. -/
def OrderRow.withStatus (target : OrderStatus) (now : Instant) (o : OrderRow) : OrderRow :=
  { o with status := target.name, updatedAt := now,
           completedAt := if target == .completed then some now else o.completedAt }

/-- The place of a seat: its event and its seat number. -/
def SeatRow.place (r : SeatRow) : Int × Int := (r.eventId, r.seatId)

/-- Places compare by their two numbers. Every test of whether a place is in a list of places
decides it through this one instance. -/
instance SeatRow.lawfulBEqPlace : LawfulBEq (Int × Int) := inferInstance

/-- A change of inventory alone: offers and seats change in place and keep their keys, and the
orders, payments and tickets stay as they are. -/
structure Tables.Restock (st st' : Tables) : Prop where
  offer_ids : st'.offers.map (·.id) = st.offers.map (·.id)
  seat_places : st'.seats.map SeatRow.place = st.seats.map SeatRow.place
  orders : st'.orders = st.orders
  payments : st'.payments = st.payments
  tickets : st'.tickets = st.tickets

/-- A seat locked for an order until `expiresAt`. -/
def SeatRow.lock (expiresAt : Instant) (holder : OrderRef) (r : SeatRow) : SeatRow :=
  { r with status := SeatStatus.locked.name, lockExpiresAt := some expiresAt, holder := some holder }

/-- A seat returned to available. -/
def SeatRow.free (r : SeatRow) : SeatRow :=
  { r with status := SeatStatus.available.name, lockExpiresAt := none, holder := none }

/-- A seat sold to an order. -/
def SeatRow.sell (holder : OrderRef) (r : SeatRow) : SeatRow :=
  { r with status := SeatStatus.sold.name, lockExpiresAt := none, holder := some holder }

variable {α : Type}

/-! ## Guards of a statement -/

theorem require_bind_ok {b : Bool} {k : Unit → Except Failure α} {x : α}
    (h : (require b >>= k) = .ok x) : b = true ∧ k () = .ok x := by
  cases b
  · cases h
  · exact ⟨rfl, h⟩

theorem bindIntegers_bind_ok {ps : List Int} {k : Unit → Except Failure α} {x : α}
    (h : (bindIntegers ps >>= k) = .ok x) : ps.all fitsInteger = true ∧ k () = .ok x := by
  unfold bindIntegers at h
  split at h
  · exact ⟨‹_›, h⟩
  · cases h

theorem bindIntegers_bind_error {ps : List Int} {k : Unit → Except Failure α} {e : Failure}
    (h : (bindIntegers ps >>= k) = .error e) : e = .outOfRange ∨ k () = .error e := by
  unfold bindIntegers at h
  split at h
  · exact .inr h
  · cases h
    exact .inl rfl

namespace Tables

variable {st st' : Tables}

/-! ## Payments and orders -/

theorem settleByReference_some {reference : String} {target : PaymentStatus} {ref : OrderRef}
    (h : st.settleByReference reference target = (st', some ref)) :
    st' = { st with payments := st.payments.map fun q =>
      if q.reference == reference && q.status == PaymentStatus.pending.name then
        q.withStatus target else q } ∧
      ∃ p ∈ st.payments, p.reference = reference ∧ p.status = PaymentStatus.pending.name ∧
        p.order = ref := by
  cases hf : st.payments.find?
      (fun p => p.reference == reference && p.status == PaymentStatus.pending.name) with
  | none => simp [settleByReference, hf] at h
  | some p =>
    simp only [settleByReference, hf, Prod.mk.injEq, Option.some.injEq] at h
    obtain ⟨rfl, rfl⟩ := h
    have hg := List.find?_some hf
    simp only [Bool.and_eq_true, beq_iff_eq] at hg
    exact ⟨rfl, p, List.mem_of_find?_eq_some hf, hg.1, hg.2, rfl⟩

theorem settleOf_true {ref : OrderRef} {target : PaymentStatus}
    (h : st.settleOf ref target = (st', true)) :
    st' = { st with payments := st.payments.map fun q =>
      if q.order == ref && q.status == PaymentStatus.pending.name then q.withStatus target
      else q } ∧
      ∃ p ∈ st.payments, p.order = ref ∧ p.status = PaymentStatus.pending.name := by
  by_cases hany : st.payments.any
      (fun p => p.order == ref && p.status == PaymentStatus.pending.name)
  · simp only [settleOf, hany, if_true, Prod.mk.injEq, and_true] at h
    subst h
    simp only [List.any_eq_true, Bool.and_eq_true, beq_iff_eq] at hany
    obtain ⟨p, hp, hg⟩ := hany
    exact ⟨rfl, p, hp, hg⟩
  · simp [settleOf, hany] at h

theorem moveOrder_true {ref : OrderRef} {target : OrderStatus} {now : Instant}
    (h : st.moveOrder ref target now = (st', true)) :
    st' = { st with orders := st.orders.map fun o =>
      if o.ref == ref && o.status == OrderStatus.pending.name then o.withStatus target now
      else o } ∧
      ∃ o ∈ st.orders, o.ref = ref ∧ o.status = OrderStatus.pending.name := by
  by_cases hany : st.orders.any
      (fun o => o.ref == ref && o.status == OrderStatus.pending.name)
  · simp only [moveOrder, hany, if_true, Prod.mk.injEq, and_true] at h
    subst h
    simp only [List.any_eq_true, Bool.and_eq_true, beq_iff_eq] at hany
    obtain ⟨o, ho, hg⟩ := hany
    exact ⟨rfl, o, ho, hg⟩
  · simp [moveOrder, hany] at h

theorem insertOrder_ok {r : OrderRow} (h : st.insertOrder r = .ok st') :
    st' = { st with orders := st.orders ++ [r] } ∧ ∀ o ∈ st.orders, o.ref ≠ r.ref := by
  obtain ⟨-, h⟩ := bindIntegers_bind_ok h
  obtain ⟨hfresh, h⟩ := require_bind_ok h
  obtain ⟨-, h⟩ := bindIntegers_bind_ok h
  cases h
  simp only [List.all_eq_true, bne_iff_ne, ne_eq] at hfresh
  exact ⟨rfl, hfresh⟩

theorem insertPayment_ok {r : PaymentRow} (h : st.insertPayment r = .ok st') :
    st' = { st with payments := st.payments ++ [r] } ∧
      ∀ p ∈ st.payments, p.order ≠ r.order ∧ p.reference ≠ r.reference := by
  obtain ⟨hfresh, h⟩ := require_bind_ok h
  cases h
  simp only [List.all_eq_true, Bool.and_eq_true, bne_iff_ne, ne_eq] at hfresh
  exact ⟨rfl, hfresh⟩

theorem insertTickets_ok {rs : List TicketRow} (h : st.insertTickets rs = .ok st') :
    st' = { st with tickets := st.tickets ++ rs } := by
  obtain ⟨-, h⟩ := bindIntegers_bind_ok h
  obtain ⟨-, h⟩ := require_bind_ok h
  cases h
  rfl

/-! ## Inventory changes -/

theorem Restock.refl (st : Tables) : Restock st st := ⟨rfl, rfl, rfl, rfl, rfl⟩

theorem Restock.trans {st₁ st₂ st₃ : Tables} (h₁ : Restock st₁ st₂) (h₂ : Restock st₂ st₃) :
    Restock st₁ st₃ :=
  ⟨h₂.offer_ids.trans h₁.offer_ids, h₂.seat_places.trans h₁.seat_places,
    h₂.orders.trans h₁.orders, h₂.payments.trans h₁.payments, h₂.tickets.trans h₁.tickets⟩

theorem updateOffer_restock (r : OfferRow) : Restock st (st.updateOffer r) := by
  refine ⟨?_, rfl, rfl, rfl, rfl⟩
  simp only [updateOffer, List.map_map]
  refine List.map_congr_left fun o _ => ?_
  by_cases ho : o.id = r.id <;> simp [ho]

theorem updateSeats_restock {p : SeatRow → Bool} {f : SeatRow → SeatRow}
    (hf : ∀ r, (f r).place = r.place) : Restock st (st.updateSeats p f).1 := by
  refine ⟨rfl, ?_, rfl, rfl, rfl⟩
  simp only [updateSeats, List.map_map]
  refine List.map_congr_left fun r _ => ?_
  by_cases hr : p r <;> simp [hr, hf]

theorem eq_updateSeats_fst {p : SeatRow → Bool} {f : SeatRow → SeatRow} {n : Nat}
    (h : st.updateSeats p f = (st', n)) : st' = (st.updateSeats p f).1 := by
  rw [h]

theorem updateSeats_restock_of_eq {p : SeatRow → Bool} {f : SeatRow → SeatRow} {n : Nat}
    (hf : ∀ r, (f r).place = r.place) (h : st.updateSeats p f = (st', n)) : Restock st st' := by
  rw [eq_updateSeats_fst h]
  exact updateSeats_restock hf

@[simp] theorem SeatRow.lock_place (e : Instant) (h : OrderRef) (r : SeatRow) :
    (r.lock e h).place = r.place := rfl

@[simp] theorem SeatRow.free_place (r : SeatRow) : r.free.place = r.place := rfl

@[simp] theorem SeatRow.sell_place (h : OrderRef) (r : SeatRow) : (r.sell h).place = r.place :=
  rfl

@[simp] theorem SeatRow.lock_status (e : Instant) (h : OrderRef) (r : SeatRow) :
    (r.lock e h).status = SeatStatus.locked.name := rfl

@[simp] theorem SeatRow.lock_holder (e : Instant) (h : OrderRef) (r : SeatRow) :
    (r.lock e h).holder = some h := rfl

@[simp] theorem SeatRow.lock_lockExpiresAt (e : Instant) (h : OrderRef) (r : SeatRow) :
    (r.lock e h).lockExpiresAt = some e := rfl

@[simp] theorem SeatRow.free_status (r : SeatRow) :
    r.free.status = SeatStatus.available.name := rfl

@[simp] theorem SeatRow.free_holder (r : SeatRow) : r.free.holder = none := rfl

@[simp] theorem SeatRow.sell_status (h : OrderRef) (r : SeatRow) :
    (r.sell h).status = SeatStatus.sold.name := rfl

@[simp] theorem SeatRow.sell_holder (h : OrderRef) (r : SeatRow) : (r.sell h).holder = some h :=
  rfl

/-! ## Offers -/

theorem findOffer_some {id : Int} {offer : OfferRow}
    (h : st.findOffer id = .ok (some offer)) : offer ∈ st.offers ∧ offer.id = id := by
  obtain ⟨-, h⟩ := bindIntegers_bind_ok h
  cases h' : st.offer? id with
  | none => simp [h', pure, Except.pure] at h
  | some r =>
    have hr : r = offer := by simpa [h', pure, Except.pure] using h
    subst hr
    exact ⟨List.mem_of_find?_eq_some h', by simpa using List.find?_some h'⟩

theorem reserve_ok {offerId quantity : Int} (h : st.reserve offerId quantity = .ok st') :
    ∃ r, st.offer? offerId = some r ∧ 0 ≤ r.sold + quantity ∧ r.sold + quantity ≤ r.forSale ∧
      st' = st.updateOffer { r with sold := r.sold + quantity } := by
  obtain ⟨-, h⟩ := bindIntegers_bind_ok h
  cases hr : st.offer? offerId with
  | none => simp [hr] at h
  | some r =>
    simp only [hr] at h
    split at h
    · obtain ⟨hb, h⟩ := require_bind_ok h
      simp only [Bool.and_eq_true, decide_eq_true_eq] at hb
      cases h
      exact ⟨r, rfl, hb.1, hb.2, rfl⟩
    · cases h

theorem release_ok {offerId quantity : Int} (h : st.release offerId quantity = .ok st') :
    ∃ r, st.offer? offerId = some r ∧ 0 ≤ r.sold - quantity ∧ r.sold - quantity ≤ r.forSale ∧
      st' = st.updateOffer { r with sold := r.sold - quantity } := by
  obtain ⟨-, h⟩ := bindIntegers_bind_ok h
  cases hr : st.offer? offerId with
  | none => simp [hr] at h
  | some r =>
    simp only [hr] at h
    split at h
    · obtain ⟨hb, h⟩ := require_bind_ok h
      simp only [Bool.and_eq_true, decide_eq_true_eq] at hb
      cases h
      exact ⟨r, rfl, hb.1, hb.2, rfl⟩
    · cases h

/-! ## Seats -/

theorem updateSeats_fst (p : SeatRow → Bool) (f : SeatRow → SeatRow) :
    (st.updateSeats p f).1 = { st with seats := st.seats.map fun r => if p r then f r else r } :=
  rfl

/-- An update whose guard selects no row leaves the store as it is. -/
theorem updateSeats_of_none {p : SeatRow → Bool} (f : SeatRow → SeatRow)
    (h : (st.seats.filter p).length = 0) : (st.updateSeats p f).1 = st := by
  have hnone : ∀ r ∈ st.seats, p r = false := by simpa using h
  rw [updateSeats_fst]
  congr 1
  calc st.seats.map (fun r => if p r then f r else r) = st.seats.map id :=
        List.map_congr_left fun r hr => by simp [hnone r hr]
    _ = st.seats := List.map_id _

theorem lockSeat_ok {eventId seatId tierId : Int} {expiresAt : Instant} {holder : OrderRef}
    (h : st.lockSeat eventId seatId tierId expiresAt holder = .ok st') :
    st' = (st.updateSeats (fun r => r.isAt eventId seatId && r.tierId == tierId &&
      r.status == SeatStatus.available.name) (SeatRow.lock expiresAt holder)).1 ∧
      ∃ r ∈ st.seats, r.isAt eventId seatId = true ∧ r.tierId = tierId ∧
        r.status = SeatStatus.available.name := by
  obtain ⟨-, h⟩ := bindIntegers_bind_ok h
  simp only [updateSeats] at h
  split at h
  · rename_i hn
    cases h
    have hsome : (st.seats.filter fun r => r.isAt eventId seatId && r.tierId == tierId &&
        r.status == SeatStatus.available.name) ≠ [] := by
      intro hnil
      simp [hnil] at hn
    obtain ⟨r, hr⟩ := List.exists_mem_of_ne_nil _ hsome
    simp only [List.mem_filter, Bool.and_eq_true, beq_iff_eq] at hr
    exact ⟨rfl, r, hr.1, hr.2.1.1, hr.2.1.2, hr.2.2⟩
  · -- no row qualified: every way on reports why, and none returns a store
    cases hs : st.seatEntity? eventId seatId with
    | error => simp [hs, bind, Except.bind] at h
    | ok seat =>
      simp only [hs, bind, Except.bind] at h
      cases seat with
      | none => cases h
      | some seat =>
        simp only at h
        split at h <;> exact nomatch h

section unlock

variable {eventId seatId : Int} {holder : OrderRef}

/-- Unlocking a seat for its holder that succeeds frees exactly the rows of the seat that the
holder has locked (none, when the seat was already available). -/
theorem unlockSeat_ok (h : st.unlockSeat eventId seatId (some holder) = .ok st') :
    st' = (st.updateSeats (fun r => r.isAt eventId seatId && r.status == SeatStatus.locked.name &&
      r.holder == some holder) SeatRow.free).1 := by
  obtain ⟨-, h⟩ := bindIntegers_bind_ok h
  simp only [updateSeats] at h
  split at h
  · cases h
    rfl
  · rename_i hn
    have hnone : (st.seats.filter fun r => r.isAt eventId seatId &&
        r.status == SeatStatus.locked.name && r.holder == some holder).length = 0 := by
      simpa using hn
    cases hs : st.seatEntity? eventId seatId with
    | error => simp [hs, bind, Except.bind] at h
    | ok seat =>
      simp only [hs, bind, Except.bind] at h
      cases seat with
      | none => exact nomatch h
      | some seat =>
        simp only at h
        split at h
        · cases h
          exact (updateSeats_of_none _ hnone).symm
        all_goals exact nomatch h

/-- Unlocking refuses a seat as taken only when the holder has locked no row of it. -/
theorem unlockSeat_seatTaken {message : String}
    (h : st.unlockSeat eventId seatId (some holder) = .error (.seatTaken message)) :
    ∀ r ∈ st.seats, r.isAt eventId seatId = true → r.status = SeatStatus.locked.name →
      r.holder ≠ some holder := by
  obtain h | h := bindIntegers_bind_error h
  · cases h
  simp only [updateSeats] at h
  split at h
  · exact nomatch h
  · rename_i hn
    intro r hr hat hlocked hheld
    have hnone : (st.seats.filter fun r => r.isAt eventId seatId &&
        r.status == SeatStatus.locked.name && r.holder == some holder).length = 0 := by
      simpa using hn
    simp only [List.length_eq_zero_iff, List.filter_eq_nil_iff] at hnone
    simp at hnone
    exact hnone r hr hat hlocked hheld

end unlock

/-- Marking seats sold that succeeds sells the listed seats the holder has locked, and counts
them. -/
theorem markSeatsSold_ok {holder : OrderRef} {seats : List (Int × Int)} {n : Nat}
    (h : st.markSeatsSold holder seats = .ok (st', n)) :
    (st', n) = st.updateSeats (fun r => seats.any (fun p => r.isAt p.1 p.2) &&
      r.status == SeatStatus.locked.name && r.holder == some holder) (SeatRow.sell holder) := by
  unfold markSeatsSold at h
  split at h
  · rename_i hempty
    cases h
    have hnone : (st.seats.filter fun r => seats.any (fun p => r.isAt p.1 p.2) &&
        r.status == SeatStatus.locked.name && r.holder == some holder).length = 0 := by
      simp [List.isEmpty_iff.1 hempty]
    exact Prod.ext (updateSeats_of_none _ hnone).symm hnone.symm
  · obtain ⟨-, h⟩ := bindIntegers_bind_ok h
    cases h
    rfl

/-! ## Every inventory operation is a change of inventory -/

theorem reserve_restock {offerId quantity : Int} (h : st.reserve offerId quantity = .ok st') :
    Restock st st' := by
  obtain ⟨r, -, -, -, rfl⟩ := reserve_ok h
  exact updateOffer_restock _

theorem release_restock {offerId quantity : Int} (h : st.release offerId quantity = .ok st') :
    Restock st st' := by
  obtain ⟨r, -, -, -, rfl⟩ := release_ok h
  exact updateOffer_restock _

theorem lockSeat_restock {eventId seatId tierId : Int} {expiresAt : Instant} {holder : OrderRef}
    (h : st.lockSeat eventId seatId tierId expiresAt holder = .ok st') : Restock st st' := by
  rw [(lockSeat_ok h).1]
  exact updateSeats_restock (SeatRow.lock_place _ _)

theorem unlockSeat_restock {eventId seatId : Int} {holder : OrderRef}
    (h : st.unlockSeat eventId seatId (some holder) = .ok st') : Restock st st' := by
  rw [unlockSeat_ok h]
  exact updateSeats_restock SeatRow.free_place

theorem markSeatsSold_restock {holder : OrderRef} {seats : List (Int × Int)} {n : Nat}
    (h : st.markSeatsSold holder seats = .ok (st', n)) : Restock st st' := by
  have hst : st' = _ := congrArg Prod.fst (markSeatsSold_ok h)
  rw [hst]
  exact updateSeats_restock (SeatRow.sell_place _)

theorem releaseExpiredLocks_restock (now : Instant) :
    Restock st (st.releaseExpiredLocks now).1 :=
  updateSeats_restock SeatRow.free_place

end Tables

end TicketCheckout.Store
