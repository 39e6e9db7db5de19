import TicketCheckout.Proofs.Cancel

/-!
# The expiry sweep

A sweep at `now` lists the pending orders whose window closed before `now`, earliest expiry
first, and gives up as many of them as its batch size allows, each as a cancellation that fails
its payment and hands back its units and seats (`Tables.unwind`). It then frees every row whose
lock expired before `now` and whose holder is no pending order (`Tables.StaleLock`), and counts
both.

`sweep_expires_earliest_then_frees_stale_locks` states this for every store of a run from a
fresh one and every batch size within 64 bits: which orders are given up and in what order,
that every other order and payment is kept, the answer and the metrics, and that a batch
covering every expired order leaves no pending order and no lock expired. It rests on the sort
(`expiryOrder_take`), on the per-order step of `Proofs.Unwind` carried along the list
(`expireOrders_pending`), and on the run invariant `Tables.Sound`, whose held seats tie a lock
to its pending order's expiry. A batch size past 64 bits cannot be bound to the store's query,
and the sweep then fails with nothing changed (`sweep_outOfRange`).
-/

namespace TicketCheckout

open Store Service

namespace Store.Tables

variable {st : Tables} {now : Instant}

/-- The pending orders whose reservation window closed before `now`, in store order. -/
def expiredOrders (st : Tables) (now : Instant) : List OrderRow :=
  st.orders.filter fun o => o.status == OrderStatus.pending.name && decide (o.expiresAt < now)

/-- The expired orders, earliest expiry first; orders that expire together keep store order. -/
def expiryOrder (st : Tables) (now : Instant) : List OrderRow :=
  (st.expiredOrders now).mergeSort fun a b => decide (a.expiresAt ≤ b.expiresAt)

theorem mem_expiredOrders {o : OrderRow} :
    o ∈ st.expiredOrders now ↔
      o ∈ st.orders ∧ o.status = OrderStatus.pending.name ∧ o.expiresAt < now := by
  simp [expiredOrders]

/-- Within 64 bits and not negative, a batch size lists the references of the first orders in
expiry order, as many as it says. -/
theorem expiredPending_eq {batch : Int} (hbatch : 0 ≤ batch) (hfits : batch < 2 ^ 63) :
    st.expiredPending now batch = .ok (((st.expiryOrder now).take batch.toNat).map (·.ref)) := by
  have hbind : bindIntegers [batch] = .ok () := by
    simp only [bindIntegers, fitsInteger, List.all_cons, List.all_nil, Bool.and_true,
      Bool.and_eq_true, decide_eq_true_eq]
    rw [if_pos]
    constructor <;> simp [Int.pow_succ] <;> omega
  unfold expiredPending
  rw [hbind]
  simp only [bind, Except.bind, pure, Except.pure, if_neg (Int.not_lt.2 hbatch), List.map_take]
  rfl

/-- A batch size past 64 bits cannot be bound to the statement. -/
theorem expiredPending_outOfRange {batch : Int} (hbig : 2 ^ 63 ≤ batch) :
    st.expiredPending now batch = .error .outOfRange := by
  have hbind : bindIntegers [batch] = .error .outOfRange := by
    simp only [bindIntegers, fitsInteger, List.all_cons, List.all_nil, Bool.and_true,
      Bool.and_eq_true, decide_eq_true_eq]
    rw [if_neg]
    simp [Int.pow_succ]
    omega
  unfold expiredPending
  rw [hbind]
  rfl

/-- The expiry order lists the expired orders, each once, earliest expiry first. -/
theorem expiryOrder_sorted (hrefs : (st.orders.map (·.ref)).Nodup) (now : Instant) :
    (st.expiryOrder now).Perm (st.expiredOrders now) ∧ (st.expiryOrder now).Nodup ∧
      (st.expiryOrder now).Pairwise (fun a b => a.expiresAt ≤ b.expiresAt) := by
  have hperm := List.mergeSort_perm (st.expiredOrders now)
    fun a b => decide (a.expiresAt ≤ b.expiresAt)
  have hnodup : (st.expiredOrders now).Nodup :=
    (List.Nodup.of_map _ hrefs).sublist List.filter_sublist
  refine ⟨hperm, hperm.nodup_iff.2 hnodup, ?_⟩
  have hsorted := @List.pairwise_mergeSort _ (fun a b : OrderRow => decide (a.expiresAt ≤ b.expiresAt))
    (fun a b c hab hbc => by
      simp only [decide_eq_true_eq] at hab hbc ⊢
      exact Int.le_trans hab hbc)
    (fun a b => by
      simp only [Bool.or_eq_true, decide_eq_true_eq]
      exact Int.le_total _ _) (st.expiredOrders now)
  exact hsorted.imp fun h => of_decide_eq_true h

/-- The first `n` orders in expiry order are expired orders, each once, earliest expiry first,
as many as `n` says or as there are; no expired order left out expires before one taken. -/
theorem expiryOrder_take (hrefs : (st.orders.map (·.ref)).Nodup) (now : Instant) (n : Nat) :
    (∀ d ∈ (st.expiryOrder now).take n, d ∈ st.expiredOrders now) ∧
      ((st.expiryOrder now).take n).Nodup ∧
      ((st.expiryOrder now).take n).length = min n (st.expiredOrders now).length ∧
      ((st.expiryOrder now).take n).Pairwise (fun a b => a.expiresAt ≤ b.expiresAt) ∧
      ∀ o ∈ st.expiredOrders now, o ∉ (st.expiryOrder now).take n →
        ∀ d ∈ (st.expiryOrder now).take n, d.expiresAt ≤ o.expiresAt := by
  obtain ⟨hperm, hnodup, hsorted⟩ := expiryOrder_sorted hrefs now
  have htake := List.take_sublist n (st.expiryOrder now)
  refine ⟨fun d hd => hperm.subset (List.mem_of_mem_take hd), hnodup.sublist htake,
    by rw [List.length_take, hperm.length_eq], hsorted.sublist htake, ?_⟩
  -- an order left out comes after every order taken in the sorted list
  intro o ho hout d hd
  have hmem : o ∈ (st.expiryOrder now).take n ++ (st.expiryOrder now).drop n := by
    rw [List.take_append_drop]
    exact hperm.symm.subset ho
  rw [← List.take_append_drop n (st.expiryOrder now)] at hsorted
  rcases List.mem_append.1 hmem with hin | hin
  · exact absurd hin hout
  · exact (List.pairwise_append.1 hsorted).2.2 d hd o hin

/-- The store after each order of `os`, in turn, is given up as cancelled at `now`. -/
def unwindAll (st : Tables) (os : List OrderRow) (now : Instant) : Tables :=
  os.foldl (fun t o => t.unwind o .cancelled now) st

theorem map_update_cons {α : Type} (key : α → OrderRef) (g : α → α)
    (hkey : ∀ x, key (g x) = key x) (hidem : ∀ x, g (g x) = g x) (r : OrderRef)
    (rs : List OrderRef) (l : List α) :
    (l.map fun x => if key x = r then g x else x).map (fun x => if key x ∈ rs then g x else x) =
      l.map fun x => if key x ∈ r :: rs then g x else x := by
  simp only [List.map_map]
  refine List.map_congr_left fun x _ => ?_
  by_cases hr : key x = r <;> by_cases hrs : key x ∈ rs <;> simp [hr, hrs, hkey, hidem]

/-- Giving orders up cancels exactly them, all at `now`, and keeps every other order. -/
theorem unwindAll_orders (os : List OrderRow) (st : Tables) :
    (st.unwindAll os now).orders = st.orders.map fun x =>
      if x.ref ∈ os.map (·.ref) then x.withStatus .cancelled now else x := by
  induction os generalizing st with
  | nil => simp [unwindAll]
  | cons o rest ih =>
    rw [unwindAll, List.foldl_cons, ← unwindAll, ih, List.map_cons]
    exact map_update_cons (·.ref) (OrderRow.withStatus .cancelled now) (fun _ => rfl)
      (fun _ => rfl) o.ref _ st.orders

/-- Giving orders up fails exactly their payments and keeps every other payment. -/
theorem unwindAll_payments (os : List OrderRow) (st : Tables) :
    (st.unwindAll os now).payments = st.payments.map fun q =>
      if q.order ∈ os.map (·.ref) then q.withStatus .failed else q := by
  induction os generalizing st with
  | nil => simp [unwindAll]
  | cons o rest ih =>
    rw [unwindAll, List.foldl_cons, ← unwindAll, ih, List.map_cons]
    exact map_update_cons (·.order) (PaymentRow.withStatus .failed) (fun _ => rfl) (fun _ => rfl)
      o.ref _ st.payments

/-- Giving orders up cancels them and keeps every other order as it was. -/
theorem mem_unwindAll_orders {os : List OrderRow} {x : OrderRow}
    (hx : x ∈ (st.unwindAll os now).orders) :
    x.status = OrderStatus.cancelled.name ∨ (x ∈ st.orders ∧ x.ref ∉ os.map (·.ref)) := by
  rw [unwindAll_orders] at hx
  obtain ⟨y, hy, rfl⟩ := List.mem_map.1 hx
  by_cases hyo : y.ref ∈ os.map (·.ref)
  · rw [if_pos hyo]
    exact .inl rfl
  · rw [if_neg hyo]
    exact .inr ⟨hy, hyo⟩

/-- A row holds a stale lock at `now`: it is locked, its lock expired before `now`, and its
holder is no pending order of the store. -/
def StaleLock (st : Tables) (now : Instant) (r : SeatRow) : Prop :=
  r.status = SeatStatus.locked.name ∧ (∃ e, r.lockExpiresAt = some e ∧ e < now) ∧
    ∀ o ∈ st.orders, r.holder = some o.ref → o.status ≠ OrderStatus.pending.name

/-- The sweep's guard on a row says exactly that its lock is stale. -/
theorem staleGuard_iff (st : Tables) (now : Instant) (r : SeatRow) :
    (r.status == SeatStatus.locked.name && r.lockExpiresAt.any (fun e => decide (e < now)) &&
      !st.holderPending r.holder) = true ↔ st.StaleLock now r := by
  have hpending : st.holderPending r.holder = true ↔
      ∃ o ∈ st.orders, r.holder = some o.ref ∧ o.status = OrderStatus.pending.name := by
    cases hholder : r.holder with
    | none => simp [holderPending]
    | some h =>
      simp only [holderPending, List.any_eq_true, Bool.and_eq_true, beq_iff_eq,
        Option.some.injEq]
      constructor <;> rintro ⟨o, ho, href, hp⟩ <;> exact ⟨o, ho, href.symm, hp⟩
  simp only [Bool.and_eq_true, beq_iff_eq, Bool.not_eq_true', Option.any_eq_true,
    decide_eq_true_eq, StaleLock]
  rw [← Bool.not_eq_true, hpending]
  simp only [not_exists, not_and]
  constructor
  · rintro ⟨⟨hlocked, e, he, hlt⟩, hnone⟩
    exact ⟨hlocked, ⟨e, he, hlt⟩, fun o ho href hp => hnone o ho href hp⟩
  · rintro ⟨hlocked, ⟨e, he, hlt⟩, hnone⟩
    exact ⟨⟨hlocked, e, he, hlt⟩, fun o ho href hp => hnone o ho href hp⟩

instance (st : Tables) (now : Instant) : DecidablePred (st.StaleLock now) := fun r =>
  decidable_of_iff _ (staleGuard_iff st now r)

/-- Returning expired locks frees exactly the rows whose locks are stale, and counts them. -/
theorem releaseExpiredLocks_eq (st : Tables) (now : Instant) :
    st.releaseExpiredLocks now =
      ({ st with seats := st.seats.map fun r => if st.StaleLock now r then r.free else r },
        (st.seats.filter fun r => decide (st.StaleLock now r)).length) := by
  unfold releaseExpiredLocks updateSeats
  congr 2
  · exact map_guard_congr SeatRow.free fun r _ => staleGuard_iff st now r
  · refine List.filter_congr fun r _ => ?_
    rw [Bool.eq_iff_iff, decide_eq_true_iff, staleGuard_iff]

/-- The rows whose locks are stale at `now`: those a sweep frees. -/
def staleLocks (st : Tables) (now : Instant) : List SeatRow :=
  st.seats.filter fun r => decide (st.StaleLock now r)

/-- The store a sweep at `now` leaves once it gives up the orders `due`: they are given up in
turn, and then every row whose lock is stale is freed. -/
def afterSweep (st : Tables) (due : List OrderRow) (now : Instant) : Tables :=
  let st₁ := st.unwindAll due now
  { st₁ with seats := st₁.seats.map fun r => if st₁.StaleLock now r then r.free else r }

/-- Once every expired order is given up, no pending order has expired. -/
theorem unwindAll_no_expired {due : List OrderRow}
    (hall : ∀ o ∈ st.expiredOrders now, o ∈ due) :
    ∀ x ∈ (st.unwindAll due now).orders, x.status = OrderStatus.pending.name →
      now ≤ x.expiresAt := by
  intro x hx hpending
  rcases mem_unwindAll_orders hx with hcancelled | ⟨hx, hkept⟩
  · exact absurd (hcancelled.symm.trans hpending) (by decide)
  · -- a kept order that had expired would have been given up
    refine Int.not_lt.1 fun hlt => hkept ?_
    exact List.mem_map_of_mem (hall x (mem_expiredOrders.2 ⟨hx, hpending, hlt⟩))

/-- In a store whose rows follow its orders and whose pending orders have not expired, no row
is left locked past `now` once the stale locks are freed. -/
theorem no_stale_lock_left {st₁ : Tables} (hs : st₁.SeatsHeld)
    (hfresh : ∀ x ∈ st₁.orders, x.status = OrderStatus.pending.name → now ≤ x.expiresAt) :
    ∀ r ∈ (st₁.seats.map fun r => if st₁.StaleLock now r then r.free else r),
      r.status = SeatStatus.locked.name → ∀ e, r.lockExpiresAt = some e → now ≤ e := by
  intro r hr hlocked e he
  obtain ⟨r₀, hr₀, rfl⟩ := List.mem_map.1 hr
  by_cases hstale : st₁.StaleLock now r₀
  · rw [if_pos hstale, SeatRow.free_status] at hlocked
    exact absurd hlocked (by decide)
  · rw [if_neg hstale] at hlocked he
    refine Int.not_lt.1 fun hlt => hstale ⟨hlocked, ⟨e, he, hlt⟩, fun o ho hholder hpending => ?_⟩
    -- a row locked for a pending order is locked until the order expires, which is not yet
    rcases (hs.held r₀ hr₀ o ho hholder).2 with ⟨-, -, hexpiry⟩ | ⟨hsold, -⟩
    · rw [he, Option.some.injEq] at hexpiry
      exact absurd (hexpiry ▸ hlt) (Int.not_lt.2 (hfresh o ho hpending))
    · exact absurd (hlocked.symm.trans hsold) (by decide)

end Store.Tables

namespace Service

open Tables

variable {s : Session}

theorem attempt_ok {α : Type} {m : Service α} {a : α} {s' : Session} (h : m s = .ok a s') :
    attempt m s = .ok (.ok a) s' := by
  unfold attempt
  rw [h]

/-- The sweep's first pass over pending orders of a sound store, each listed once, expires them
all, one after another, and the store stays sound. -/
theorem expireOrders_pending {st₀ : Tables} (h0 : st₀.Bounded) {os : List OrderRow}
    (hs : Sound st₀ s.store)
    (hdue : ∀ o ∈ os, o ∈ s.store.orders ∧ o.status = OrderStatus.pending.name)
    (hrefs : (os.map (·.ref)).Nodup) (now : Instant) :
    expireOrders now (os.map (·.ref)) s = .ok os.length { s with store := s.store.unwindAll os now } ∧
      Sound st₀ (s.store.unwindAll os now) := by
  induction os generalizing s with
  | nil => exact ⟨rfl, hs⟩
  | cons o rest ih =>
    obtain ⟨ho, hpending⟩ := hdue o List.mem_cons_self
    -- the order's payment is pending with it, so the expiry goes through
    obtain ⟨p, hp, hpaid, -, -, hstatuses⟩ := hs.consistent.coupled o ho
    have hexpire := expireOrder_pending hs.consistent.keyed ho hpending
      (hs.unwindable h0 ho hpending) hp hpaid ((pending_iff_of_coupled hstatuses).1 hpending) now
    have hs₁ : Sound st₀ (s.store.unwind o .cancelled now) := by
      have hcommits := within_expireOrder o.ref now s
      rw [hexpire] at hcommits
      exact Commit.chain_invariant (fun h hc => h.commit hc) hcommits hs
    -- the orders still to expire are untouched by this one
    obtain ⟨hfresh, hrefs'⟩ := List.nodup_cons.1 hrefs
    have hdue₁ : ∀ x ∈ rest, x ∈ (s.store.unwind o .cancelled now).orders ∧
        x.status = OrderStatus.pending.name := by
      intro x hx
      have hne : x.ref ≠ o.ref := by
        rintro h
        exact hfresh (List.mem_map.2 ⟨x, hx, h⟩)
      exact ⟨List.mem_map.2 ⟨x, (hdue x (List.mem_cons_of_mem _ hx)).1, if_neg hne⟩,
        (hdue x (List.mem_cons_of_mem _ hx)).2⟩
    obtain ⟨hrun, hsound⟩ := ih (s := { s with store := s.store.unwind o .cancelled now }) hs₁ hdue₁
      hrefs'
    refine ⟨?_, hsound⟩
    simp only [List.map_cons, expireOrders]
    rw [bind_run_ok (attempt_ok hexpire), bind_run_ok hrun]
    rfl

/-- A sweep at a batch size within 64 bits and not negative expires the first orders in expiry
order, as many as the batch allows, one after another, and then frees the rows whose locks are
stale, counting both; the store stays sound. -/
theorem sweep_due {st₀ : Tables} (h0 : st₀.Bounded) (hs : Sound st₀ s.store) {batch : Int}
    (hbatch : 0 ≤ batch) (hfits : batch < 2 ^ 63) (now : Instant) :
    sweep now batch s = .ok
      ⟨((s.store.expiryOrder now).take batch.toNat).length,
        ((s.store.unwindAll ((s.store.expiryOrder now).take batch.toNat) now).staleLocks
          now).length⟩
      { s with store := s.store.afterSweep ((s.store.expiryOrder now).take batch.toNat) now,
               metrics := s.metrics ++
                 [.reaperRelease .expiredOrder ((s.store.expiryOrder now).take batch.toNat).length,
                  .reaperRelease .seatLock ((s.store.unwindAll
                    ((s.store.expiryOrder now).take batch.toNat) now).staleLocks now).length] } ∧
      Sound st₀ (s.store.unwindAll ((s.store.expiryOrder now).take batch.toNat) now) := by
  have hrefs := hs.consistent.keyed.order_refs
  obtain ⟨hexpired, hnodup, -⟩ := expiryOrder_take hrefs now batch.toNat
  have hdue : ∀ o ∈ (s.store.expiryOrder now).take batch.toNat,
      o ∈ s.store.orders ∧ o.status = OrderStatus.pending.name :=
    fun o ho => ⟨(mem_expiredOrders.1 (hexpired o ho)).1, (mem_expiredOrders.1 (hexpired o ho)).2.1⟩
  -- distinct orders of a store with unique references have distinct references
  have hduerefs : (((s.store.expiryOrder now).take batch.toNat).map (·.ref)).Nodup :=
    hnodup.map_on fun x hx y hy hxy => List.inj_on_of_nodup_map hrefs (hdue x hx).1 (hdue y hy).1 hxy
  obtain ⟨hrun, hsound⟩ := expireOrders_pending h0 hs hdue hduerefs now
  refine ⟨?_, hsound⟩
  unfold sweep
  rw [bind_store, bind_lift_of_ok (expiredPending_eq hbatch hfits), bind_run_ok hrun]
  simp only [bind_record, bind_update, releaseExpiredLocks_eq, List.append_assoc,
    List.singleton_append]
  rfl

theorem sweep_outOfRange {batch : Int} (hbig : 2 ^ 63 ≤ batch) (now : Instant) :
    sweep now batch s = .error .outOfRange s := by
  unfold sweep
  rw [bind_store, expiredPending_outOfRange hbig]
  rfl

/-- A sweep at `now`, on a store reached from a fresh one and with a batch size within 64 bits
and not negative, gives up the expired pending orders that expire first, each once and as many
as the batch allows, touching no other order; it then frees exactly the rows whose locks are
stale, and answers and records both counts. When the batch covers every expired order, no
pending order and no lock is left expired. -/
theorem sweep_expires_earliest_then_frees_stale_locks {s₀ s : Session} (h0 : s₀.store.Fresh)
    (hforeign : ∀ r ∈ s₀.store.seats, ∀ n, r.holder ≠ some (.placed n)) (h : Reachable s₀ s)
    (now : Instant) {batch : Int} (hbatch : 0 ≤ batch) (hfits : batch < 2 ^ 63) :
    ∃ due : List OrderRow,
      (∀ d ∈ due, d ∈ s.store.expiredOrders now) ∧ due.Nodup ∧
      due.length = min batch.toNat (s.store.expiredOrders now).length ∧
      due.Pairwise (fun a b => a.expiresAt ≤ b.expiresAt) ∧
      (∀ o ∈ s.store.expiredOrders now, o ∉ due → ∀ d ∈ due, d.expiresAt ≤ o.expiresAt) ∧
      (s.store.afterSweep due now).orders = s.store.orders.map (fun x =>
        if x.ref ∈ due.map (·.ref) then x.withStatus .cancelled now else x) ∧
      (s.store.afterSweep due now).payments = s.store.payments.map (fun q =>
        if q.order ∈ due.map (·.ref) then q.withStatus .failed else q) ∧
      sweep now batch s = .ok ⟨due.length, ((s.store.unwindAll due now).staleLocks now).length⟩
        { s with store := s.store.afterSweep due now,
                 metrics := s.metrics ++ [.reaperRelease .expiredOrder due.length,
                   .reaperRelease .seatLock ((s.store.unwindAll due now).staleLocks now).length] } ∧
      ((s.store.expiredOrders now).length ≤ batch.toNat →
        (∀ o ∈ (s.store.afterSweep due now).orders, o.status = OrderStatus.pending.name →
          now ≤ o.expiresAt) ∧
        ∀ r ∈ (s.store.afterSweep due now).seats, r.status = SeatStatus.locked.name →
          ∀ e, r.lockExpiresAt = some e → now ≤ e) := by
  have hs := h.sound h0 hforeign
  obtain ⟨hexpired, hnodup, hlength, hsorted, hlater⟩ :=
    expiryOrder_take hs.consistent.keyed.order_refs now batch.toNat
  obtain ⟨hrun, hsound⟩ := sweep_due h0.offers_bounded hs hbatch hfits now
  refine ⟨_, hexpired, hnodup, hlength, hsorted, hlater, unwindAll_orders _ _,
    unwindAll_payments _ _, hrun, fun hall => ?_⟩
  -- with the batch covering them all, every expired order is among those given up
  have hdue : ∀ o ∈ s.store.expiredOrders now, o ∈ (s.store.expiryOrder now).take batch.toNat := by
    obtain ⟨hperm, -, -⟩ := expiryOrder_sorted hs.consistent.keyed.order_refs now
    rw [List.take_of_length_le (hperm.length_eq ▸ hall)]
    exact fun o ho => hperm.symm.subset ho
  have hfresh := unwindAll_no_expired hdue
  exact ⟨hfresh, no_stale_lock_left hsound.consistent.seats hfresh⟩

end Service

/-- A sweep at a batch size of one, a thousand seconds after one seat was placed with a window
of a quarter of an hour: the order has expired and is the one given up. -/
theorem sweep_expires_earliest_then_frees_stale_locks_after_one_seat :
    let s₀ := Session.start { offers := [⟨1, 1, 1, "Floor", ⟨0⟩, 10, 0⟩],
                              seats := [⟨1, 1, 1, "available", none, none⟩] } ⟨0⟩
    let rules : CheckoutRules := ⟨{}, .finite false 0 0, 15, "usd", .local⟩
    let s := ({ s₀ with now := ⟨0⟩ }.perform
      (.placeOrder rules ⟨1, .buyer⟩ [{ offerId := 1, seatId := some 1 }])).2
    s₀.store.Fresh ∧ (∀ r ∈ s₀.store.seats, ∀ n, r.holder ≠ some (.placed n)) ∧
      Reachable s₀ s ∧ (0 : Int) ≤ 1 ∧ (1 : Int) < 2 ^ 63 ∧
      ∃ due : List OrderRow,
        (∀ d ∈ due, d ∈ s.store.expiredOrders ⟨1000⟩) ∧ due.Nodup ∧
        due.length = min (1 : Int).toNat (s.store.expiredOrders ⟨1000⟩).length ∧
        due.Pairwise (fun a b => a.expiresAt ≤ b.expiresAt) ∧
        (∀ o ∈ s.store.expiredOrders ⟨1000⟩, o ∉ due → ∀ d ∈ due, d.expiresAt ≤ o.expiresAt) ∧
        (s.store.afterSweep due ⟨1000⟩).orders = s.store.orders.map (fun x =>
          if x.ref ∈ due.map (·.ref) then x.withStatus .cancelled ⟨1000⟩ else x) ∧
        (s.store.afterSweep due ⟨1000⟩).payments = s.store.payments.map (fun q =>
          if q.order ∈ due.map (·.ref) then q.withStatus .failed else q) ∧
        sweep ⟨1000⟩ 1 s = .ok
          ⟨due.length, ((s.store.unwindAll due ⟨1000⟩).staleLocks ⟨1000⟩).length⟩
          { s with store := s.store.afterSweep due ⟨1000⟩,
                   metrics := s.metrics ++ [.reaperRelease .expiredOrder due.length,
                     .reaperRelease .seatLock
                       ((s.store.unwindAll due ⟨1000⟩).staleLocks ⟨1000⟩).length] } ∧
        ((s.store.expiredOrders ⟨1000⟩).length ≤ (1 : Int).toNat →
          (∀ o ∈ (s.store.afterSweep due ⟨1000⟩).orders, o.status = OrderStatus.pending.name →
            ⟨1000⟩ ≤ o.expiresAt) ∧
          ∀ r ∈ (s.store.afterSweep due ⟨1000⟩).seats, r.status = SeatStatus.locked.name →
            ∀ e, r.lockExpiresAt = some e → ⟨1000⟩ ≤ e) :=
  have hfresh : Tables.Fresh _ := ⟨by decide, by decide, by decide, rfl, rfl, rfl⟩
  have hforeign : ∀ r ∈ _, ∀ n, SeatRow.holder r ≠ some (.placed n) := by simp [Session.start]
  have hrun : Reachable _ _ := .step (c := .placeOrder ⟨{}, .finite false 0 0, 15, "usd", .local⟩
    ⟨1, .buyer⟩ [{ offerId := 1, seatId := some 1 }]) ⟨0⟩ trivial .start
  ⟨hfresh, hforeign, hrun, by decide, by decide,
    sweep_expires_earliest_then_frees_stale_locks hfresh hforeign hrun ⟨1000⟩ (by decide)
      (by decide)⟩

/-- One ticket is placed with a window of a quarter of an hour; a thousand seconds later its
order has expired and is still pending, yet a sweep with a batch size of `2 ^ 63` fails with an
overflow and gives nothing up. -/
theorem sweep_fails_at_batch_past_64_bits :
    let s : Session := Session.start
      { offers := [⟨1, 1, 1, "GA", ⟨4621819117588971520⟩, 5, 0⟩] } ⟨1893456000⟩
    let rules : CheckoutRules := ⟨{}, .finite false 250 (-2), 15, "usd", .local⟩
    match placeOrder rules ⟨1, .buyer⟩ [{ offerId := 1 }] s with
    | .ok _ s₁ => (s₁.store.expiredOrders ⟨1893457000⟩).length = 1 ∧
        sweep ⟨1893457000⟩ (2 ^ 63) { s₁ with now := ⟨1893457000⟩ } =
          .error .outOfRange { s₁ with now := ⟨1893457000⟩ }
    | .error _ _ => False := by
  intro s rules
  have hexpired : (match placeOrder rules ⟨1, .buyer⟩ [{ offerId := 1 }] s with
      | .ok _ s₁ => decide ((s₁.store.expiredOrders ⟨1893457000⟩).length = 1)
      | .error _ _ => false) = true := by decide +kernel
  revert hexpired
  cases placeOrder rules ⟨1, .buyer⟩ [{ offerId := 1 }] s with
  | ok p s₁ => exact fun h => ⟨of_decide_eq_true h, Service.sweep_outOfRange (le_refl _) _⟩
  | error e s' => exact fun h => Bool.false_ne_true h

end TicketCheckout
