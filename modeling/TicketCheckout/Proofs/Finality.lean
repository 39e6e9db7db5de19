import TicketCheckout.Proofs.Completion
import TicketCheckout.Proofs.Rollback

/-!
# A settled payment is final

A payment leaves pending once, by the first of four exits: the report that it succeeded, the
report that it failed, the cancellation of its order, or the expiry of its order by the sweep.
Each exit reaches the payment through a guard on its pending status, by its reference or by its
order, so once the payment has left pending nothing the service does touches it or its order
again:

* a later report that the payment succeeded or failed changes nothing and returns nothing; the
  success report records a charge after expiry when the payment failed and a duplicate
  otherwise, the failure report a duplicate (`finalizePayment_not_pending`,
  `failPayment_not_pending`);
* a later cancellation of its order changes nothing and is refused: for lack of access when the
  caller is neither the buyer nor an administrator, as a domain error otherwise
  (`cancelOrder_not_pending`);
* a later sweep does not list the order, and leaves the order, its payment, the tickets and the
  rows sold to it as they are (`sweep_not_pending`, through `Tables.Swept`, what every part of
  a sweep keeps).

The order of a payment is found through two facts every run keeps: each payment belongs to a
stored order (`Tables.PaymentsOwned`), and an order and its payment leave pending together
(`Tables.Coupled`). So a success report that comes twice changes the store no more than the
first one (`finalizePayment_twice`): after the first, its payment has left pending.

Main statement: `settled_payments_are_final`.
-/

namespace TicketCheckout

open Store

namespace Store.Tables

variable {st st₁ st' : Tables}

/-! ## Every payment belongs to an order -/

/-- Every payment is the payment of a stored order. -/
def PaymentsOwned (st : Tables) : Prop := st.payments.map (·.order) ⊆ st.orders.map (·.ref)

theorem Fresh.paymentsOwned (h : st.Fresh) : st.PaymentsOwned := by
  simp [PaymentsOwned, h.no_payments]

theorem PaymentsOwned.of_keys (ho : st.PaymentsOwned)
    (horders : st'.orders.map (·.ref) = st.orders.map (·.ref))
    (hpayments : st'.payments.map (·.order) = st.payments.map (·.order)) : st'.PaymentsOwned := by
  unfold PaymentsOwned
  rw [horders, hpayments]
  exact ho

theorem PairMoved.keys {o : OrderRow} {p : PaymentRow} {target : OrderStatus}
    {pay : PaymentStatus} {now : Instant} (h : st.PairMoved st₁ o p target pay now) :
    st₁.orders.map (·.ref) = st.orders.map (·.ref) ∧
      st₁.payments.map (·.order) = st.payments.map (·.order) := by
  obtain ⟨opre, opost, hosplit, -, hst₁o⟩ := h.orders
  obtain ⟨ppre, ppost, hpsplit, hst₁p⟩ := h.payments
  exact ⟨by simp [hst₁o, hosplit], by simp [hst₁p, hpsplit]⟩

/-- Every move keeps every payment owned: a payment is placed with its order, and no move
changes a key. -/
theorem Move.paymentsOwned (ho : st.PaymentsOwned) (h : Move st st') : st'.PaymentsOwned := by
  cases h with
  | @place st₁ _ _ _ _ _ _ _ _ _ _ row payment _ hreserve hprice hrow _ _ hpayment _ =>
    have h₁ := ho.of_keys (congrArg _ hreserve.restock.orders)
      (congrArg _ hreserve.restock.payments)
    -- the new payment is the new order's
    have hnew : payment.order = row.ref := by
      obtain ⟨pricing, -, rfl⟩ := Order.place_ok hprice
      obtain ⟨href, -⟩ := orderRow_ok hrow
      rw [hpayment.1, href]
    intro r hr
    simp only [List.map_append, List.map_cons, List.map_nil, List.mem_append,
      List.mem_singleton] at hr ⊢
    rcases hr with hr | rfl
    · exact .inl (h₁ hr)
    · exact .inr hnew
  | @complete st₁ st₂ _ _ _ _ _ _ _ hmoved _ _ hsell _ =>
    obtain ⟨horders, hpayments⟩ := hmoved.keys
    have hrestock := updateSeats_restock_of_eq (SeatRow.sell_place _) hsell
    exact ho.of_keys (show st₂.orders.map _ = _ by rw [hrestock.orders, horders])
      (show st₂.payments.map _ = _ by rw [hrestock.payments, hpayments])
  | release hmoved _ hrelease =>
    obtain ⟨horders, hpayments⟩ := hmoved.keys
    exact ho.of_keys (by rw [hrelease.restock.orders, horders])
      (by rw [hrelease.restock.payments, hpayments])
  | releaseLocks now =>
    have hrestock : Restock st (st.releaseExpiredLocks now).1 := releaseExpiredLocks_restock now
    exact ho.of_keys (by rw [hrestock.orders]) (by rw [hrestock.payments])

theorem Coupled.payment (hk : st.Keyed) (hc : st.Coupled) (ho : st.PaymentsOwned)
    {p : PaymentRow} (hp : p ∈ st.payments) :
    ∃ o ∈ st.orders, o.ref = p.order ∧ (o.status, p.status) ∈ coupledStatuses := by
  obtain ⟨o, hmem, href⟩ := List.mem_map.1 (ho (List.mem_map_of_mem hp))
  obtain ⟨q, hq, hqo, -, -, hstatus⟩ := hc o hmem
  obtain rfl : q = p := List.inj_on_of_nodup_map hk.payment_orders hq hp (hqo.trans href)
  exact ⟨o, hmem, href, hstatus⟩

/-! ## What a sweep keeps -/

/-- From a store to the one a sweep leaves: every order and payment that has left pending and
every sold row is still there, as it was, and no ticket changed. -/
structure Swept (st st' : Tables) : Prop where
  settled : Settled st st'
  sold : SoldKept st st'
  tickets : st'.tickets = st.tickets

theorem Swept.refl (st : Tables) : Swept st st := ⟨Settled.refl st, SoldKept.refl st, rfl⟩

theorem Swept.trans {st₂ : Tables} (h₁ : Swept st st₁) (h₂ : Swept st₁ st₂) : Swept st st₂ :=
  ⟨h₁.settled.trans h₂.settled, h₁.sold.trans h₂.sold, h₂.tickets.trans h₁.tickets⟩

theorem mem_map_of_guard_false {α : Type} {g : α → Bool} {f : α → α} {l : List α} {x : α}
    (hx : x ∈ l) (hg : g x = false) : x ∈ l.map fun y => if g y then f y else y :=
  List.mem_map.2 ⟨x, hx, by simp [hg]⟩

/-- Failing the payment of an order moves a pending payment, or nothing. -/
theorem Swept.settleOf {ref : OrderRef} {target : PaymentStatus} {moved : Bool}
    (h : st.settleOf ref target = (st', moved)) : Swept st st' := by
  obtain rfl : st' = (st.settleOf ref target).1 := by rw [h]
  dsimp only [Tables.settleOf]
  split
  · refine ⟨⟨fun o ho _ => ho, fun p hp hsettled => mem_map_of_guard_false hp ?_⟩,
      SoldKept.refl st, rfl⟩
    simp [hsettled]
  · exact Swept.refl st

/-- Moving an order out of pending moves a pending order, or nothing. -/
theorem Swept.moveOrder {ref : OrderRef} {target : OrderStatus} {now : Instant} {moved : Bool}
    (h : st.moveOrder ref target now = (st', moved)) : Swept st st' := by
  obtain rfl : st' = (st.moveOrder ref target now).1 := by rw [h]
  dsimp only [Tables.moveOrder]
  split
  · refine ⟨⟨fun o ho hsettled => mem_map_of_guard_false ho ?_, fun p hp _ => hp⟩,
      SoldKept.refl st, rfl⟩
    simp [hsettled]
  · exact Swept.refl st

theorem Swept.releaseExpiredLocks (now : Instant) : Swept st (st.releaseExpiredLocks now).1 := by
  have hrestock : Restock st (st.releaseExpiredLocks now).1 := releaseExpiredLocks_restock now
  exact ⟨Settled.restock hrestock, fun r hr hsold => mem_map_of_guard_false hr (by simp [hsold]),
    hrestock.tickets⟩

/-- The sweep lists pending orders only. -/
theorem expiredPending_pending {now : Instant} {limit : Int} {due : List OrderRef}
    (h : st.expiredPending now limit = .ok due) :
    ∀ ref ∈ due, ∃ o ∈ st.orders, o.ref = ref ∧ o.status = OrderStatus.pending.name := by
  unfold expiredPending at h
  obtain ⟨-, h⟩ := bindIntegers_bind_ok h
  simp only [pure, Except.pure, Except.ok.injEq] at h
  subst h
  intro ref href
  -- the listed references are those of a prefix of the sorted due orders
  have hmem : ref ∈ (st.orders.filter fun o =>
      o.status == OrderStatus.pending.name && decide (o.expiresAt < now)).map (·.ref) := by
    split at href
    · simpa using href
    · simpa using List.mem_of_mem_take href
  obtain ⟨o, ho, rfl⟩ := List.mem_map.1 hmem
  obtain ⟨ho, hdue⟩ := List.mem_filter.1 ho
  simp only [Bool.and_eq_true, beq_iff_eq] at hdue
  exact ⟨o, ho, rfl, hdue.1⟩

end Store.Tables

open Tables

theorem Released.swept {holder : OrderRef} {ls : List OrderLine} {st st' : Tables}
    (h : Released holder ls st st') : Swept st st' := by
  have hrestock := h.restock
  refine ⟨Settled.restock hrestock, fun r hr hsold => ?_, hrestock.tickets⟩
  rw [h.seats]
  exact mem_map_of_guard_false hr (by simp [SeatRow.lockedFor, hsold])

theorem Store.Tables.Expired.swept {ref : OrderRef} {now : Instant} {st st' : Tables}
    (h : Expired ref now st st') : Swept st st' := by
  obtain ⟨hpay, horder, -, -, hrelease⟩ := h
  exact (Swept.settleOf hpay).trans ((Swept.moveOrder horder).trans hrelease.swept)

theorem Store.Tables.Expiries.swept {now : Instant} {refs : List OrderRef} {st st' : Tables}
    (h : Expiries now refs st st') : Swept st st' := by
  induction h with
  | nil st => exact .refl st
  | skip _ ih => exact ih
  | expire hexpired _ ih => exact hexpired.swept.trans ih

theorem named_of_coupled {a b : String} (h : (a, b) ∈ coupledStatuses) :
    (∃ os : OrderStatus, a = os.name) ∧ ∃ ps : PaymentStatus, b = ps.name := by
  simp only [coupledStatuses, List.mem_cons, Prod.mk.injEq, List.mem_nil_iff, or_false] at h
  rcases h with ⟨rfl, rfl⟩ | ⟨rfl, rfl⟩ | ⟨rfl, rfl⟩ | ⟨rfl, rfl⟩ <;>
    exact ⟨⟨_, rfl⟩, ⟨_, rfl⟩⟩

theorem PaymentRow.toPayment_of_name {p : PaymentRow} {ps : PaymentStatus}
    (h : p.status = ps.name) :
    p.toPayment = .ok ⟨p.order, ps, readAmount p.amountCharged, p.currency, p.reference,
      p.createdAt⟩ := by
  unfold PaymentRow.toPayment readStatus
  rw [h, PaymentStatus.ofName?_name]
  rfl

namespace Store.Tables

variable {st : Tables}

/-- Settling by a reference that no pending payment has changes nothing and reports no order. -/
theorem settleByReference_of_settled {reference : String}
    (h : ∀ q ∈ st.payments, q.reference = reference → q.status ≠ PaymentStatus.pending.name)
    (target : PaymentStatus) : st.settleByReference reference target = (st, none) := by
  have hnone : st.payments.find?
      (fun q => q.reference == reference && q.status == PaymentStatus.pending.name) = none := by
    rw [List.find?_eq_none]
    intro q hq
    simpa using h q hq
  dsimp only [settleByReference]
  rw [hnone]

theorem Keyed.reference_settled (hk : st.Keyed) {p : PaymentRow} (hp : p ∈ st.payments)
    (hsettled : p.status ≠ PaymentStatus.pending.name) :
    ∀ q ∈ st.payments, q.reference = p.reference → q.status ≠ PaymentStatus.pending.name := by
  intro q hq href
  obtain rfl : q = p := List.inj_on_of_nodup_map hk.payment_references hq hp href
  exact hsettled

/-- Once the order of a payment has completed, no payment with its reference is pending. -/
theorem Keyed.complete_settled (hk : st.Keyed) {p : PaymentRow} (hp : p ∈ st.payments)
    {o : OrderRow} (hpaid : p.order = o.ref) (now : Instant) (rows : List TicketRow) :
    ∀ q ∈ (st.complete o now rows).payments, q.reference = p.reference →
      q.status ≠ PaymentStatus.pending.name := by
  intro q hq href
  obtain ⟨q₀, hq₀, rfl⟩ := List.mem_map.1 hq
  by_cases hown : q₀.order = o.ref
  · simp [hown]
  · rw [if_neg hown] at href ⊢
    obtain rfl : q₀ = p := List.inj_on_of_nodup_map hk.payment_references hq₀ hp href
    exact absurd hpaid hown

end Store.Tables

/-! ## Calls on a settled payment -/

namespace Service

variable {α β : Type} {s : Session}

theorem bind_store (k : Tables → Service β) : (store >>= k) s = k s.store s := rfl

theorem bind_now_unsupported (h : s.now.supported = false) (k : Instant → Service β) :
    (Service.now >>= k) s = .error .outOfRange s := by
  simp [Service.now, h, bind, EStateM.bind, get, getThe, MonadStateOf.get, EStateM.get, fail,
    throw, throwThe, MonadExceptOf.throw, EStateM.throw]

/-- A unit of work that never commits leaves the store as it found it, whatever it returns. -/
theorem unitOfWork_store {w : Service (α × Bool)} (h : ∀ a s', w s ≠ .ok (a, true) s') :
    (callSession (unitOfWork w s)).store = s.store := by
  unfold unitOfWork
  split
  · exact absurd ‹_› (h _ _)
  · rfl
  · rfl

/-- The report that a settled payment succeeded records a charge after expiry when the payment
failed, and a duplicate otherwise. -/
theorem recordNotPending_settled {intent : String} {p : PaymentRow}
    (hp : s.store.paymentByReference? intent = some p) {ps : PaymentStatus}
    (hname : p.status = ps.name) :
    recordNotPending intent s = .ok () { s with metrics := s.metrics ++
      [.payment (if p.status = PaymentStatus.failed.name then .chargedAfterExpiry
        else .duplicate)] } := by
  unfold recordNotPending
  rw [bind_store]
  simp only [hp]
  rw [bind_lift_of_ok (PaymentRow.toPayment_of_name hname)]
  simp [hname, record, modify, modifyGet, MonadStateOf.modifyGet, EStateM.modifyGet]

end Service

open Service

variable {s : Session}

/-- The report that a payment that has left pending succeeded returns nothing and changes only
the metrics: a charge after expiry when the payment failed, a duplicate otherwise. -/
theorem finalizePayment_not_pending (hk : s.store.Keyed) {p : PaymentRow}
    (hp : p ∈ s.store.payments) {ps : PaymentStatus} (hname : p.status = ps.name)
    (hsettled : p.status ≠ PaymentStatus.pending.name) (hnow : s.now.supported = true) :
    finalizePayment p.reference s = .ok none { s with metrics := s.metrics ++
      [.payment (if p.status = PaymentStatus.failed.name then .chargedAfterExpiry
        else .duplicate)] } := by
  have hfound : s.store.paymentByReference? p.reference = some p :=
    find?_of_mem hk.payment_references hp
  unfold finalizePayment
  rw [bind_now hnow]
  unfold unitOfWork
  simp only [bind_update, settleByReference_of_settled (hk.reference_settled hp hsettled)]
  simp only [bind, EStateM.bind, recordNotPending_settled hfound hname]
  rfl

/-- The report that a payment that has left pending failed returns nothing and records a
duplicate. -/
theorem failPayment_not_pending (hk : s.store.Keyed) {p : PaymentRow}
    (hp : p ∈ s.store.payments) (hsettled : p.status ≠ PaymentStatus.pending.name)
    (hnow : s.now.supported = true) :
    failPayment p.reference s =
      .ok none { s with metrics := s.metrics ++ [.payment .duplicate] } := by
  unfold failPayment
  rw [bind_now hnow]
  unfold unitOfWork
  simp only [bind_update, settleByReference_of_settled (hk.reference_settled hp hsettled)]
  rfl

/-- Cancelling an order that has left pending is refused and changes nothing: for lack of
access when the caller is neither its buyer nor an administrator, as a domain error naming the
order's status otherwise. -/
theorem cancelOrder_not_pending (hrefs : (s.store.orders.map (·.ref)).Nodup) {o : OrderRow}
    (ho : o ∈ s.store.orders) {os : OrderStatus} (hname : o.status = os.name)
    (hsettled : o.status ≠ OrderStatus.pending.name) (hnow : s.now.supported = true)
    (caller : Principal) :
    cancelOrder caller o.ref s = .error (if caller.canAccess o.userId then
        .invalid s!"Cannot cancel order in status {o.status}"
      else .forbidden "Only the buyer can cancel this order") s := by
  obtain ⟨order, hload⟩ := OrderRow.toOrder_of_name hname
  obtain ⟨-, huser, hstatus, -⟩ := OrderRow.toOrder_ok hload
  have horder : order.status ≠ .pending := fun h => hsettled (by rw [← hstatus, h])
  unfold cancelOrder
  rw [bind_now hnow]
  unfold unitOfWork
  simp only [bind_loadOrder?_run]
  rw [order?_of_refs hrefs ho]
  simp only [hload, huser]
  -- the access check comes first; only the buyer or an administrator reaches the status
  cases hcaller : caller.canAccess o.userId
  · rfl
  · simp only [Bool.not_true, Bool.false_eq_true, ↓reduceIte]
    rw [Order.moveTo_not_pending _ _ _ horder, hstatus]
    rfl

/-- A sweep fails before it changes anything, or it does not list an order that has left
pending, and keeps the order, its settled payment, every ticket and every row held for it. -/
theorem sweep_not_pending (hk : s.store.Keyed) (hs : s.store.SeatsHeld) {o : OrderRow}
    (ho : o ∈ s.store.orders) (hsettled : o.status ≠ OrderStatus.pending.name)
    {p : PaymentRow} (hp : p ∈ s.store.payments) (hpaid : p.status ≠ PaymentStatus.pending.name)
    (now : Instant) (batchSize : Int) :
    (∃ e, sweep now batchSize s = .error e s) ∨
      ∃ due result s', s.store.expiredPending now batchSize = .ok due ∧ o.ref ∉ due ∧
        sweep now batchSize s = .ok result s' ∧ o ∈ s'.store.orders ∧ p ∈ s'.store.payments ∧
        s'.store.tickets = s.store.tickets ∧
        ∀ r ∈ s.store.seats, r.holder = some o.ref → r ∈ s'.store.seats := by
  rcases sweep_run now batchSize s with
    ⟨e, -, herr⟩ | ⟨due, st, hdue, hexpiries, result, s', hsweep, hstore⟩
  · exact .inl ⟨e, herr⟩
  have hswept : Swept s.store s'.store := by
    rw [hstore]
    exact hexpiries.swept.trans (Swept.releaseExpiredLocks now)
  -- the sweep lists pending orders only, and `o` is the one order with its reference
  have hunlisted : o.ref ∉ due := by
    intro hlisted
    obtain ⟨o', ho', href, hpending⟩ := expiredPending_pending hdue o.ref hlisted
    obtain rfl : o' = o := List.inj_on_of_nodup_map hk.order_refs ho' ho href
    exact hsettled hpending
  refine .inr ⟨due, result, s', hdue, hunlisted, hsweep, hswept.settled.orders o ho hsettled,
    hswept.settled.payments p hp hpaid, hswept.tickets, fun r hr hheld => ?_⟩
  -- a row held for an order that has left pending is sold, and sold rows stay
  obtain ⟨-, ⟨-, hpending, -⟩ | ⟨hsold, -⟩⟩ := hs.held r hr o ho hheld
  · exact absurd hpending hsettled
  · exact hswept.sold r hr hsold

theorem finalizePayment_unsupported {intent : String} (h : s.now.supported = false) :
    finalizePayment intent s = .error .outOfRange s := by
  unfold finalizePayment
  rw [bind_now_unsupported h]

/-- A success report whose reference no pending payment has leaves the store as it is, whether
it returns or fails. -/
theorem finalizePayment_store_of_settled {intent : String}
    (h : ∀ q ∈ s.store.payments, q.reference = intent → q.status ≠ PaymentStatus.pending.name) :
    (callSession (finalizePayment intent s)).store = s.store := by
  cases hnow : s.now.supported
  · rw [finalizePayment_unsupported hnow]
    rfl
  · unfold finalizePayment
    rw [bind_now hnow]
    refine unitOfWork_store fun a s' hw => ?_
    simp only [bind_update, settleByReference_of_settled h] at hw
    -- the report finds no pending payment: it records why and returns uncommitted
    cases hr : recordNotPending intent { s with store := s.store } with
    | ok u s₁ => simp [bind, EStateM.bind, hr, pure, EStateM.pure] at hw
    | error e s₁ => simp [bind, EStateM.bind, hr] at hw

/-! ## Runs -/

/-- What every store of a run from a fresh store whose seeded locks belong to no order keeps, for
settling payments: unique keys, every order coupled to its payment and every payment owned by an
order, seat rows held as the orders say, and seat lines of an order at distinct places. -/
structure Store.Tables.Consistent (st : Tables) : Prop where
  keyed : st.Keyed
  coupled : st.Coupled
  owned : st.PaymentsOwned
  seats : st.SeatsHeld
  apart : st.SeatLinesApart

/-- Every move keeps a store consistent. -/
theorem Store.Tables.Consistent.move {st st' : Tables} (hc : st.Consistent)
    (h : Tables.Move st st') : st'.Consistent :=
  ⟨h.keyed hc.keyed, h.coupled hc.keyed hc.coupled, h.paymentsOwned hc.owned,
    h.seatsHeld hc.keyed hc.seats, h.seatLinesApart hc.keyed hc.apart⟩

namespace Reachable

variable {s₀ : Session}

theorem consistent (h0 : s₀.store.Fresh)
    (hforeign : ∀ r ∈ s₀.store.seats, ∀ n, r.holder ≠ some (.placed n)) (h : Reachable s₀ s) :
    s.store.Consistent :=
  h.invariant (I := Tables.Consistent) h0
    ⟨h0.keyed, h0.coupled, h0.paymentsOwned, h0.seatsHeld hforeign, h0.seatLinesApart⟩
    fun _ hc hm => hc.move hm

/-- In a store of a run, the report that a pending payment succeeded, at a clock the service
can read, completes the payment's order. -/
theorem finalizePayment_completes (h0 : s₀.store.Fresh)
    (hforeign : ∀ r ∈ s₀.store.seats, ∀ n, r.holder ≠ some (.placed n)) (h : Reachable s₀ s)
    {p : PaymentRow} (hp : p ∈ s.store.payments) (hunpaid : p.status = PaymentStatus.pending.name)
    {now : Instant} (hnow : now.supported = true) :
    ∃ o rows, p.order = o.ref ∧ (callSession (finalizePayment p.reference
      { s with now := now })).store = s.store.complete o now rows := by
  have hcons := h.consistent h0 hforeign
  obtain ⟨o, ho, href, hstatuses⟩ := hcons.coupled.payment hcons.keyed hcons.owned hp
  have hpending := (pending_iff_of_coupled hstatuses).2 hunpaid
  obtain ⟨order, hload⟩ := OrderRow.toOrder_of_name hpending
  obtain ⟨rows, hrows⟩ := OrderRow.issueTickets_rows hload now (s.codes + 1)
  have hlocked : ∀ r ∈ s.store.seats, r.place ∈ o.seatPlaces →
      r.status = SeatStatus.locked.name ∧ r.holder = some o.ref :=
    fun r hr hP => hcons.seats.pending r hr o ho hpending hP
  have hc := h.checked h0
  have hcodes := h.codesIssued h0
  refine ⟨o, rows, href.symm, ?_⟩
  rw [finalizePayment_pending (s := { s with now := now }) hcons.keyed hc hcodes ho hpending
    (hcons.apart o ho) (hcons.seats.seated o ho) hlocked hp href.symm hunpaid hnow hload hrows]
  rfl

end Reachable

/-- Along every run, a success report that comes twice changes the store no more than the first
one: after the first, no payment with its reference is pending, or the clock cannot be read. -/
theorem finalizePayment_twice {s₀ : Session} (h0 : s₀.store.Fresh)
    (hforeign : ∀ r ∈ s₀.store.seats, ∀ n, r.holder ≠ some (.placed n)) (h : Reachable s₀ s)
    (intent : String) (now : Instant) :
    (callSession (finalizePayment intent
        (callSession (finalizePayment intent { s with now := now })))).store =
      (callSession (finalizePayment intent { s with now := now })).store := by
  by_cases hpending : ∃ p ∈ s.store.payments, p.reference = intent ∧
      p.status = PaymentStatus.pending.name
  · obtain ⟨p, hp, rfl, hunpaid⟩ := hpending
    cases hnow : now.supported
    · -- neither report can read the clock
      have hfirst : finalizePayment p.reference { s with now := now } =
          .error .outOfRange { s with now := now } := finalizePayment_unsupported hnow
      simp only [hfirst, callSession]
    · obtain ⟨o, rows, hpaid, hstore⟩ := h.finalizePayment_completes h0 hforeign hp hunpaid hnow
      refine finalizePayment_store_of_settled ?_
      rw [hstore]
      exact (h.keyed h0).complete_settled hp hpaid now rows
  · simp only [not_exists, not_and] at hpending
    have hfirst := finalizePayment_store_of_settled (s := { s with now := now }) hpending
    refine finalizePayment_store_of_settled ?_
    rw [hfirst]
    exact hpending

/-- Along every run from a fresh store whose seeded locks belong to no order the run places, a
payment that has left pending, by whichever exit, is final. Its order has left pending too, and
at any clock the service can read, none of the following changes the store: a later report that
the payment succeeded returns nothing and records a charge after expiry when the payment failed,
a duplicate otherwise; a later report that it failed returns nothing and records a duplicate; a
later cancel of its order is refused, for lack of access when the caller is neither the buyer
nor an administrator and as a domain error otherwise. A later sweep fails before it changes
anything, or does not list the order and keeps the order, the payment, every ticket and every
row held for the order. And a success report that comes twice changes the store no more than
the first one. -/
theorem settled_payments_are_final {s₀ s : Session} (h0 : s₀.store.Fresh)
    (hforeign : ∀ r ∈ s₀.store.seats, ∀ n, r.holder ≠ some (.placed n)) (h : Reachable s₀ s) :
    (∀ p ∈ s.store.payments, p.status ≠ PaymentStatus.pending.name →
      ∃ o ∈ s.store.orders, o.ref = p.order ∧ o.status ≠ OrderStatus.pending.name ∧
        (∀ now : Instant, now.supported = true →
          finalizePayment p.reference { s with now := now } =
            .ok none { s with now := now, metrics := s.metrics ++ [.payment
              (if p.status = PaymentStatus.failed.name then .chargedAfterExpiry
                else .duplicate)] } ∧
          failPayment p.reference { s with now := now } =
            .ok none { s with now := now, metrics := s.metrics ++ [.payment .duplicate] } ∧
          ∀ caller : Principal, cancelOrder caller o.ref { s with now := now } =
            .error (if caller.canAccess o.userId then
                .invalid s!"Cannot cancel order in status {o.status}"
              else .forbidden "Only the buyer can cancel this order") { s with now := now }) ∧
        ∀ (now : Instant) (batchSize : Int), (∃ e, sweep now batchSize s = .error e s) ∨
          ∃ due result s', s.store.expiredPending now batchSize = .ok due ∧ o.ref ∉ due ∧
            sweep now batchSize s = .ok result s' ∧ o ∈ s'.store.orders ∧
            p ∈ s'.store.payments ∧ s'.store.tickets = s.store.tickets ∧
            ∀ r ∈ s.store.seats, r.holder = some o.ref → r ∈ s'.store.seats) ∧
    ∀ (intent : String) (now : Instant),
      (callSession (finalizePayment intent
          (callSession (finalizePayment intent { s with now := now })))).store =
        (callSession (finalizePayment intent { s with now := now })).store := by
  have hcons := h.consistent h0 hforeign
  refine ⟨fun p hp hsettled => ?_, finalizePayment_twice h0 hforeign h⟩
  obtain ⟨o, ho, href, hstatuses⟩ := hcons.coupled.payment hcons.keyed hcons.owned hp
  -- the order left pending with its payment, and both statuses are names of statuses
  have hclosed : o.status ≠ OrderStatus.pending.name :=
    fun hpending => hsettled ((pending_iff_of_coupled hstatuses).1 hpending)
  obtain ⟨⟨os, honame⟩, ⟨ps, hpname⟩⟩ := named_of_coupled hstatuses
  refine ⟨o, ho, href, hclosed, fun now hnow => ⟨?_, ?_, fun caller => ?_⟩,
    fun now batchSize => ?_⟩
  · exact finalizePayment_not_pending (s := { s with now := now }) hcons.keyed hp hpname
      hsettled hnow
  · exact failPayment_not_pending (s := { s with now := now }) hcons.keyed hp hsettled hnow
  · exact cancelOrder_not_pending (s := { s with now := now }) hcons.keyed.order_refs ho honame
      hclosed hnow caller
  · exact sweep_not_pending hcons.keyed hcons.seats ho hclosed hp hsettled now batchSize

/-- A run that places an order for one unit and cancels it: its payment has left pending, and is
final. -/
theorem settled_payments_are_final_after_cancel :
    let s₀ := Session.start { offers := [⟨1, 1, 1, "General", ⟨0⟩, 5, 0⟩] } ⟨0⟩
    let rules : CheckoutRules := ⟨{}, .finite false 0 0, 15, "usd", .local⟩
    let s₁ := ({ s₀ with now := ⟨0⟩ }.perform
      (.placeOrder rules ⟨1, .buyer⟩ [{ offerId := 1 }])).2
    let s := ({ s₁ with now := ⟨60⟩ }.perform (.cancelOrder ⟨1, .buyer⟩ (.placed 1))).2
    s₀.store.Fresh ∧ (∀ r ∈ s₀.store.seats, ∀ n, r.holder ≠ some (.placed n)) ∧
      Reachable s₀ s ∧ (∃ p ∈ s.store.payments, p.status ≠ PaymentStatus.pending.name) ∧
      (∀ p ∈ s.store.payments, p.status ≠ PaymentStatus.pending.name →
        ∃ o ∈ s.store.orders, o.ref = p.order ∧ o.status ≠ OrderStatus.pending.name ∧
          (∀ now : Instant, now.supported = true →
            finalizePayment p.reference { s with now := now } =
              .ok none { s with now := now, metrics := s.metrics ++ [.payment
                (if p.status = PaymentStatus.failed.name then .chargedAfterExpiry
                  else .duplicate)] } ∧
            failPayment p.reference { s with now := now } =
              .ok none { s with now := now, metrics := s.metrics ++ [.payment .duplicate] } ∧
            ∀ caller : Principal, cancelOrder caller o.ref { s with now := now } =
              .error (if caller.canAccess o.userId then
                  .invalid s!"Cannot cancel order in status {o.status}"
                else .forbidden "Only the buyer can cancel this order") { s with now := now }) ∧
          ∀ (now : Instant) (batchSize : Int), (∃ e, sweep now batchSize s = .error e s) ∨
            ∃ due result s', s.store.expiredPending now batchSize = .ok due ∧ o.ref ∉ due ∧
              sweep now batchSize s = .ok result s' ∧ o ∈ s'.store.orders ∧
              p ∈ s'.store.payments ∧ s'.store.tickets = s.store.tickets ∧
              ∀ r ∈ s.store.seats, r.holder = some o.ref → r ∈ s'.store.seats) ∧
      ∀ (intent : String) (now : Instant),
        (callSession (finalizePayment intent
            (callSession (finalizePayment intent { s with now := now })))).store =
          (callSession (finalizePayment intent { s with now := now })).store :=
  have hfresh : Tables.Fresh _ := ⟨by decide, by decide, by decide, rfl, rfl, rfl⟩
  have hforeign : ∀ r ∈ _, ∀ n, SeatRow.holder r ≠ some (.placed n) := by simp [Session.start]
  have hrun : Reachable _ _ := .step (c := .cancelOrder ⟨1, .buyer⟩ (.placed 1)) ⟨60⟩ trivial
    (.step (c := .placeOrder ⟨{}, .finite false 0 0, 15, "usd", .local⟩ ⟨1, .buyer⟩
      [{ offerId := 1 }]) ⟨0⟩ trivial .start)
  ⟨hfresh, hforeign, hrun, by decide +kernel, settled_payments_are_final hfresh hforeign hrun⟩

/-- After a buyer cancels an order, a later cancel by a caller who is neither its buyer nor an
administrator is refused for lack of access, not by a domain rule. -/
theorem stranger_cancel_of_settled_order_is_forbidden :
    let s₀ := Session.start { offers := [⟨1, 1, 1, "General", ⟨0⟩, 5, 0⟩] } ⟨0⟩
    let rules : CheckoutRules := ⟨{}, .finite false 0 0, 15, "usd", .local⟩
    let s₁ := ({ s₀ with now := ⟨0⟩ }.perform
      (.placeOrder rules ⟨1, .buyer⟩ [{ offerId := 1 }])).2
    let s := ({ s₁ with now := ⟨60⟩ }.perform (.cancelOrder ⟨1, .buyer⟩ (.placed 1))).2
    Reachable s₀ s ∧
      (∃ p ∈ s.store.payments, p.order = .placed 1 ∧ p.status ≠ PaymentStatus.pending.name) ∧
      ¬ ∃ message status, cancelOrder ⟨2, .buyer⟩ (.placed 1) { s with now := ⟨120⟩ } =
        .error (.rejected message status) { s with now := ⟨120⟩ } := by
  intro s₀ rules s₁ s
  have hrun : Reachable s₀ s := .step (c := .cancelOrder ⟨1, .buyer⟩ (.placed 1)) ⟨60⟩ trivial
    (.step (c := .placeOrder rules ⟨1, .buyer⟩ [{ offerId := 1 }]) ⟨0⟩ trivial .start)
  -- the stranger is turned away before the order's status is read
  have hforbidden : (match cancelOrder ⟨2, .buyer⟩ (.placed 1) { s with now := ⟨120⟩ } with
      | .error (.forbidden _) _ => true
      | _ => false) = true := by decide +kernel
  refine ⟨hrun, by decide +kernel, ?_⟩
  rintro ⟨message, status, hcancel⟩
  rw [hcancel] at hforbidden
  cases hforbidden

end TicketCheckout
