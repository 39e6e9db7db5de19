import TicketCheckout.Proofs.Keys

/-!
# Failed calls change nothing

Every call a buyer or the card processor makes reads the store first and keeps its writes in
one unit of work: so a call that fails leaves the store exactly as it found it, whatever the
store holds. No invariant of runs is needed: orders without payments, payments without orders,
stale or foreign seat locks and status names that no status has may all be in the store.

The sweep is the one call made of several units. Every order it lists is expired in a unit of
its own, which either commits the whole expiry (the payment failed, the order cancelled, what
the order held given back: `Tables.Expired`) or drops it (`Tables.Expiries`); the release of
expired seat locks follows (`Service.sweep_run`).

Main statement: `failed_calls_leave_store`.
-/

namespace TicketCheckout

open Store

/-! ## Whole expiries -/

namespace Store.Tables

/-- The sweep's expiry of one order, as the unit of work commits it: the order's pending payment
fails, the pending order is cancelled at `now`, and what the order holds, as read back after its
move, is given back. -/
inductive Expired (ref : OrderRef) (now : Instant) : Tables → Tables → Prop
  | intro {st st₁ st₂ st₃ : Tables} {row : OrderRow} {order : Order}
      (hpay : st.settleOf ref .failed = (st₁, true))
      (horder : st₁.moveOrder ref .cancelled now = (st₂, true))
      (hrow : st₂.order? ref = some row) (hload : row.toOrder = .ok order)
      (hrelease : Released order.ref order.lines st₂ st₃) : Expired ref now st st₃

/-- What the sweep's first pass does to the store: each listed order in turn is expired whole,
or left as it is. -/
inductive Expiries (now : Instant) : List OrderRef → Tables → Tables → Prop
  | nil (st : Tables) : Expiries now [] st st
  | skip {ref : OrderRef} {rest : List OrderRef} {st st' : Tables}
      (hrest : Expiries now rest st st') : Expiries now (ref :: rest) st st'
  | expire {ref : OrderRef} {rest : List OrderRef} {st st₁ st' : Tables}
      (h : Expired ref now st st₁) (hrest : Expiries now rest st₁ st') :
      Expiries now (ref :: rest) st st'

/-- An order that has just moved is found by its reference. -/
theorem moveOrder_order?_ne_none {st st' : Tables} {ref : OrderRef} {target : OrderStatus}
    {now : Instant} (h : st.moveOrder ref target now = (st', true)) : st'.order? ref ≠ none := by
  obtain ⟨rfl, o, ho, href, hpending⟩ := moveOrder_true h
  intro hnone
  rw [order?, List.find?_eq_none] at hnone
  refine hnone (o.withStatus target now) (List.mem_map.2 ⟨o, ho, by simp [href, hpending]⟩) ?_
  simp [OrderRow.withStatus, href]

end Store.Tables

namespace Service

variable {α β : Type}

/-! ## Calls that keep the store, and calls that roll back -/

/-- The call leaves the store as it found it, whether it returns or fails: it changes the store
by no step at all. -/
def KeepsStore (m : Service α) : Prop := Within (fun _ _ => False) m

/-- A call that fails leaves the store as it found it. -/
def RollsBack (m : Service α) : Prop := ∀ s e s', m s = .error e s' → s'.store = s.store

theorem KeepsStore.store_eq {m : Service α} (h : KeepsStore m) (s : Session) :
    (callSession (m s)).store = s.store := by
  have hsteps := h s
  generalize (callSession (m s)).store = st at hsteps ⊢
  induction hsteps with
  | refl => rfl
  | tail _ hstep => exact hstep.elim

theorem KeepsStore.rollsBack {m : Service α} (h : KeepsStore m) : RollsBack m := by
  intro s e s' hm
  have hs := h.store_eq s
  rw [hm] at hs
  exact hs

/-- A call that reads only, followed by calls that roll back, rolls back. -/
theorem rollsBack_bind {x : Service α} {f : α → Service β} (hx : KeepsStore x)
    (hf : ∀ a, RollsBack (f a)) : RollsBack (x >>= f) := by
  intro s e s' h
  have hs := hx.store_eq s
  cases hr : x s with
  | ok a s₁ =>
    rw [hr] at hs
    have h₁ : f a s₁ = .error e s' := by simpa [bind, EStateM.bind, hr] using h
    exact (hf a s₁ e s' h₁).trans hs
  | error e₁ s₁ =>
    rw [hr] at hs
    simp only [bind, EStateM.bind, hr, EStateM.Result.error.injEq] at h
    rw [← h.2]
    exact hs

theorem rollsBack_unitOfWork (w : Service (α × Bool)) : RollsBack (unitOfWork w) := by
  intro s e s' h
  unfold unitOfWork at h
  split at h
  · cases h
  · cases h
  · cases h
    rfl

theorem rollsBack_atomically (w : Service α) : RollsBack (atomically w) :=
  fun s e s' h => atomically_error_store w s s' e h

/-- A call whose failure is caught and then reported fails only by reporting the caught failure,
when the report keeps the store and a return is never reported as a failure. -/
theorem rollsBack_attempt_bind {m : Service α} {g : Except Failure α → Service β}
    (hm : RollsBack m) (hok : ∀ a s e s', g (.ok a) s ≠ .error e s')
    (herr : ∀ f, KeepsStore (g (.error f))) : RollsBack (attempt m >>= g) := by
  intro s e s' h
  cases hr : m s with
  | ok a s₁ =>
    have h₁ : g (.ok a) s₁ = .error e s' := by
      simpa [bind, EStateM.bind, attempt, hr] using h
    exact absurd h₁ (hok a s₁ e s')
  | error f s₁ =>
    have h₁ : g (.error f) s₁ = .error e s' := by
      simpa [bind, EStateM.bind, attempt, hr] using h
    exact ((herr f).rollsBack s₁ e s' h₁).trans (hm s f s₁ hr)

/-! ## Each call a buyer or the processor makes rolls back -/

theorem checkout_rollsBack (rules : CheckoutRules) (buyer : Principal) (lines : List CartLine) :
    RollsBack (checkout rules buyer lines) := by
  unfold checkout
  refine rollsBack_bind within_now fun now => ?_
  split
  · exact rollsBack_bind (within_pure _) fun _ => rollsBack_atomically _
  · exact KeepsStore.rollsBack (within_fail_bind _ _)

theorem placeOrder_rollsBack (rules : CheckoutRules) (buyer : Principal) (lines : List CartLine) :
    RollsBack (placeOrder rules buyer lines) := by
  unfold placeOrder
  refine rollsBack_attempt_bind
    (rollsBack_bind (within_lift _) fun _ => checkout_rollsBack rules buyer lines) ?_ ?_
  · -- a placed order is only recorded
    intro placement s e s' h
    cases h
  · intro f
    simp only
    split
    · exact within_bind (within_record _) fun _ => within_bind (within_record _) fun _ =>
        within_fail _
    · exact within_bind (within_record _) fun _ => within_fail _

theorem finalizePayment_rollsBack (intent : String) : RollsBack (finalizePayment intent) :=
  rollsBack_bind within_now fun _ => rollsBack_unitOfWork _

theorem failPayment_rollsBack (intent : String) : RollsBack (failPayment intent) :=
  rollsBack_bind within_now fun _ => rollsBack_unitOfWork _

theorem cancelOrder_rollsBack (caller : Principal) (ref : OrderRef) :
    RollsBack (cancelOrder caller ref) :=
  rollsBack_bind within_now fun _ => rollsBack_unitOfWork _

theorem orderDetail_rollsBack (caller : Principal) (ref : OrderRef) :
    RollsBack (orderDetail caller ref) :=
  KeepsStore.rollsBack (within_orderDetail caller ref)

/-! ## The sweep expires whole orders -/

theorem attempt_run (m : Service α) (s : Session) :
    ∃ r, attempt m s = .ok r (callSession (m s)) := by
  unfold attempt
  cases m s with
  | ok a s' => exact ⟨.ok a, rfl⟩
  | error e s' => exact ⟨.error e, rfl⟩

/-- The expiry of one order commits the whole expiry or leaves the store as it was. -/
theorem expireOrder_run (ref : OrderRef) (now : Instant) (s : Session) :
    (callSession (expireOrder ref now s)).store = s.store ∨
      Tables.Expired ref now s.store (callSession (expireOrder ref now s)).store := by
  unfold expireOrder unitOfWork
  split
  · -- committed: the payment and the order moved, and the order was reloaded and released
    rename_i a s' h
    right
    simp only [bind_update] at h
    split at h
    · cases h
    rename_i hpaid
    simp only [bind_update] at h
    split at h
    · cases h
    rename_i hmoved
    rcases bind_loadOrder?_ok h with ⟨hnone, -⟩ | ⟨row, order, hrow, hload, h⟩
    · exact absurd hnone (Tables.moveOrder_order?_ne_none (moved_pair hmoved))
    obtain ⟨s₁, hrel, h⟩ := bind_releaseInventory_ok h
    cases h
    exact .intro (moved_pair hpaid) (moved_pair hmoved) hrow hload hrel
  · exact .inl rfl
  · exact .inl rfl

/-- The sweep's first pass returns, having expired each listed order whole or left it. -/
theorem expireOrders_run (now : Instant) (refs : List OrderRef) (s : Session) :
    ∃ n s', expireOrders now refs s = .ok n s' ∧ Tables.Expiries now refs s.store s'.store := by
  induction refs generalizing s with
  | nil => exact ⟨0, s, rfl, .nil _⟩
  | cons ref rest ih =>
    obtain ⟨done, hdone⟩ := attempt_run (expireOrder ref now) s
    obtain ⟨n, s', hrest, hexpiries⟩ := ih (callSession (expireOrder ref now s))
    -- the attempt at the first order returns, whatever the expiry did
    have hstep : ∃ k, expireOrders now (ref :: rest) s = .ok k s' := by
      simp only [expireOrders, bind, EStateM.bind, hdone, hrest]
      exact ⟨_, rfl⟩
    obtain ⟨k, hk⟩ := hstep
    refine ⟨k, s', hk, ?_⟩
    · rcases expireOrder_run ref now s with hsame | hexpired
      · exact .skip (hsame ▸ hexpiries)
      · exact .expire hexpired hexpiries

/-- A sweep either fails to list the expired orders, changing nothing, or expires each listed
order whole or not at all, and then returns the expired seat locks. -/
theorem sweep_run (now : Instant) (batchSize : Int) (s : Session) :
    (∃ e, s.store.expiredPending now batchSize = .error e ∧ sweep now batchSize s = .error e s) ∨
    ∃ due st, s.store.expiredPending now batchSize = .ok due ∧
      Tables.Expiries now due s.store st ∧
      ∃ r s', sweep now batchSize s = .ok r s' ∧ s'.store = (st.releaseExpiredLocks now).1 := by
  cases hdue : s.store.expiredPending now batchSize with
  | error e =>
    left
    refine ⟨e, rfl, ?_⟩
    simp [sweep, store, lift, hdue, bind, EStateM.bind, get, getThe, MonadStateOf.get,
      EStateM.get, pure, EStateM.pure, throw, throwThe, MonadExceptOf.throw, EStateM.throw]
  | ok due =>
    right
    obtain ⟨n, s₁, hrun, hexpiries⟩ := expireOrders_run now due s
    refine ⟨due, s₁.store, rfl, hexpiries, ?_⟩
    simp only [sweep, store, lift, hdue, bind, EStateM.bind, get, getThe, MonadStateOf.get,
      EStateM.get, pure, EStateM.pure, hrun]
    exact ⟨_, _, rfl, rfl⟩

end Service

open Service

/-! ## Failed calls change nothing -/

/-- Whatever the store holds, placing an order, settling a payment as succeeded or failed,
cancelling an order and looking at one leave the store as they found it when they fail; and a
sweep either fails to list the expired orders, changing nothing, or expires each listed order
whole or not at all (its payment failed, the order cancelled and what it held given back) and
then returns the expired seat locks. -/
theorem failed_calls_leave_store (s : Session) :
    (∀ rules buyer lines e s', placeOrder rules buyer lines s = .error e s' →
      s'.store = s.store) ∧
    (∀ intent e s', finalizePayment intent s = .error e s' → s'.store = s.store) ∧
    (∀ intent e s', failPayment intent s = .error e s' → s'.store = s.store) ∧
    (∀ caller ref e s', cancelOrder caller ref s = .error e s' → s'.store = s.store) ∧
    (∀ caller ref e s', orderDetail caller ref s = .error e s' → s'.store = s.store) ∧
    ∀ now batchSize,
      (∃ e, s.store.expiredPending now batchSize = .error e ∧
        sweep now batchSize s = .error e s) ∨
      ∃ due st, s.store.expiredPending now batchSize = .ok due ∧
        Tables.Expiries now due s.store st ∧
        ∃ r s', sweep now batchSize s = .ok r s' ∧ s'.store = (st.releaseExpiredLocks now).1 :=
  ⟨fun rules buyer lines => placeOrder_rollsBack rules buyer lines s,
    fun intent => finalizePayment_rollsBack intent s,
    fun intent => failPayment_rollsBack intent s,
    fun caller ref => cancelOrder_rollsBack caller ref s,
    fun caller ref => orderDetail_rollsBack caller ref s,
    fun now batchSize => sweep_run now batchSize s⟩

end TicketCheckout
