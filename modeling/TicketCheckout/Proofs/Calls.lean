import TicketCheckout.Service.Settle
import Mathlib

/-!
# What a service call does to the store

A service call runs on a session and may fail; either way it leaves a session behind
(`callSession`). Whether the store in it got there through allowed changes only is
`Service.Within step m`: from any session, the store `m` leaves is reached from the one it found
by steps of `step`, none at all included. `within_bind` composes the property, a call that only
reads or records keeps it outright (`within_of_store`), and a unit of work has it as soon as the
changes it commits have (`within_unitOfWork`, `within_atomically`): whatever it drops on failure
or without a commit never reaches the store.

The second half peels a call that returned: `bind_ok` splits a sequence at its first call, and
each primitive (`lift`, `update`, `write`, `change`, `loadOrder?`) has a lemma saying what its
return tells about the store. These are what the proofs that a use case commits only whole
changes are made of.
-/

namespace TicketCheckout

open Store

/-- The session a call leaves behind, whether it returned or failed. -/
def callSession {α : Type} : EStateM.Result Failure Session α → Session
  | .ok _ s => s
  | .error _ s => s

namespace Service

variable {α β : Type} {step : Tables → Tables → Prop}

/-- Every run of the call, from any session, changes the store by steps of `step` only. -/
def Within (step : Tables → Tables → Prop) (m : Service α) : Prop :=
  ∀ s, Relation.ReflTransGen step s.store (callSession (m s)).store

/-! ## Composing calls -/

theorem callSession_bind (x : Service α) (f : α → Service β) (s : Session) :
    callSession ((x >>= f) s) =
      match x s with
      | .ok a s₁ => callSession (f a s₁)
      | .error _ s₁ => s₁ := by
  cases hx : x s <;> simp [bind, EStateM.bind, hx, callSession]

/-- A sequence changes the store by allowed steps when each of its parts does. -/
theorem within_bind {x : Service α} {f : α → Service β} (hx : Within step x)
    (hf : ∀ a, Within step (f a)) : Within step (x >>= f) := by
  intro s
  rw [callSession_bind]
  have h := hx s
  cases hr : x s with
  | ok a s₁ =>
    rw [hr] at h
    exact h.trans (hf a s₁)
  | error e s₁ =>
    rw [hr] at h
    exact h

theorem within_of_store {m : Service α} (h : ∀ s, (callSession (m s)).store = s.store) :
    Within step m := by
  intro s
  rw [h s]

theorem within_pure (a : α) : Within step (pure a : Service α) :=
  within_of_store fun _ => rfl

theorem within_fail (e : Failure) : Within step (fail e : Service α) :=
  within_of_store fun _ => rfl

theorem within_fail_bind (e : Failure) (k : α → Service β) : Within step (fail e >>= k) :=
  within_of_store fun _ => rfl

theorem within_lift (r : Except Failure α) : Within step (lift r) :=
  within_of_store fun s => by cases r <;> rfl

theorem within_lift_bind {r : Except Failure α} {k : α → Service β}
    (hk : ∀ a, r = .ok a → Within step (k a)) : Within step (lift r >>= k) := by
  cases r with
  | error e => exact within_of_store fun _ => rfl
  | ok a => exact hk a rfl

theorem within_record (m : Metric) : Within step (record m) :=
  within_of_store fun _ => rfl

theorem within_store : Within step store :=
  within_of_store fun _ => rfl

theorem within_now : Within step Service.now := by
  apply within_of_store
  intro s
  simp only [Service.now, bind, EStateM.bind, get, getThe, MonadStateOf.get, EStateM.get]
  split <;> rfl

theorem within_map {m : Service α} {f : α → β} (hm : Within step m) : Within step (f <$> m) := by
  intro s
  have h := hm s
  cases hr : m s <;> simp_all [Functor.map, EStateM.map, callSession]

theorem within_mapM {f : α → Service β} (hf : ∀ a, Within step (f a)) (l : List α) :
    Within step (l.mapM f) := by
  induction l with
  | nil => exact within_pure []
  | cons a rest ih =>
    rw [List.mapM_cons]
    exact within_bind (hf a) fun _ => within_bind ih fun _ => within_pure _

theorem within_update {f : Tables → Tables × α}
    (hf : ∀ st, Relation.ReflTransGen step st (f st).1) : Within step (update f) :=
  fun s => hf s.store

/-- A unit of work changes the store only by what it commits. -/
theorem within_unitOfWork {w : Service (α × Bool)}
    (hw : ∀ s a s', w s = .ok (a, true) s' → Relation.ReflTransGen step s.store s'.store) :
    Within step (unitOfWork w) := by
  intro s
  unfold unitOfWork
  split
  · rename_i a s' h
    exact hw s a s' h
  · exact .refl
  · exact .refl

/-- A unit of work that commits when it returns changes the store only by what it returns
with. -/
theorem within_atomically {w : Service α}
    (hw : ∀ s a s', w s = .ok a s' → Relation.ReflTransGen step s.store s'.store) :
    Within step (atomically w) := by
  intro s
  unfold atomically
  split
  · rename_i a s' h
    exact hw s a s' h
  · exact .refl

theorem within_attempt {m : Service α} (h : Within step m) : Within step (attempt m) := by
  intro s
  have hs := h s
  unfold attempt
  cases hr : m s <;> simp_all [callSession]

/-! ## Calls that returned -/

theorem bind_ok {x : Service α} {f : α → Service β} {s s' : Session} {b : β}
    (h : (x >>= f) s = .ok b s') : ∃ a s₁, x s = .ok a s₁ ∧ f a s₁ = .ok b s' := by
  cases hx : x s with
  | ok a s₁ => exact ⟨a, s₁, rfl, by simpa [bind, EStateM.bind, hx] using h⟩
  | error e s₁ => simp [bind, EStateM.bind, hx] at h

theorem fail_ok {e : Failure} {s s' : Session} {a : α} :
    ¬ (fail e : Service α) s = .ok a s' := by
  intro h
  cases h

theorem bind_fail_ok {e : Failure} {f : α → Service β} {s s' : Session} {b : β} :
    ¬ (fail e >>= f) s = .ok b s' := by
  intro h
  cases h

theorem lift_ok {r : Except Failure α} {s s' : Session} {a : α} (h : lift r s = .ok a s') :
    r = .ok a ∧ s' = s := by
  cases r with
  | error => cases h
  | ok =>
    cases h
    exact ⟨rfl, rfl⟩

theorem bind_lift_ok {r : Except Failure α} {k : α → Service β} {s s' : Session} {b : β}
    (h : (lift r >>= k) s = .ok b s') : ∃ a, r = .ok a ∧ k a s = .ok b s' := by
  cases r with
  | error e => cases h
  | ok a => exact ⟨a, rfl, h⟩

theorem update_ok {f : Tables → Tables × α} {s s' : Session} {a : α}
    (h : update f s = .ok a s') : a = (f s.store).2 ∧ s' = { s with store := (f s.store).1 } := by
  cases h
  exact ⟨rfl, rfl⟩

theorem bind_update (f : Tables → Tables × α) (k : α → Service β) (s : Session) :
    (update f >>= k) s = k (f s.store).2 { s with store := (f s.store).1 } := rfl

theorem bind_record (m : Metric) (k : Unit → Service β) (s : Session) :
    (record m >>= k) s = k () { s with metrics := s.metrics ++ [m] } := rfl

theorem bind_takeCodes (n : Nat) (k : Nat → Service β) (s : Session) :
    (takeCodes n >>= k) s = k (s.codes + 1) { s with codes := s.codes + n } := rfl

theorem write_run (f : Tables → Except Failure Tables) (s : Session) :
    write f s = match f s.store with
      | .ok st => .ok () { s with store := st }
      | .error e => .error e s := by
  cases hf : f s.store <;>
    simp [write, store, lift, setStore, hf, bind, EStateM.bind, get, getThe, MonadStateOf.get,
      EStateM.get, modify, modifyGet, MonadStateOf.modifyGet, EStateM.modifyGet, pure,
      EStateM.pure, throw, throwThe, MonadExceptOf.throw, EStateM.throw]

theorem write_ok {f : Tables → Except Failure Tables} {s s' : Session} {u : Unit}
    (h : write f s = .ok u s') : ∃ st, f s.store = .ok st ∧ s' = { s with store := st } := by
  rw [write_run] at h
  split at h
  · cases h
    exact ⟨_, ‹_›, rfl⟩
  · cases h

theorem bind_write_ok {f : Tables → Except Failure Tables} {k : Unit → Service β}
    {s s' : Session} {b : β} (h : (write f >>= k) s = .ok b s') :
    ∃ st, f s.store = .ok st ∧ k () { s with store := st } = .ok b s' := by
  obtain ⟨_, s₁, h₁, h⟩ := bind_ok h
  obtain ⟨st, hst, rfl⟩ := write_ok h₁
  exact ⟨st, hst, h⟩

theorem change_run (f : Tables → Except Failure (Tables × α)) (s : Session) :
    change f s = match f s.store with
      | .ok (st, a) => .ok a { s with store := st }
      | .error e => .error e s := by
  cases hf : f s.store <;>
    simp [change, store, lift, setStore, hf, bind, EStateM.bind, get, getThe, MonadStateOf.get,
      EStateM.get, modify, modifyGet, MonadStateOf.modifyGet, EStateM.modifyGet, pure,
      EStateM.pure, throw, throwThe, MonadExceptOf.throw, EStateM.throw]

theorem bind_change_ok {f : Tables → Except Failure (Tables × α)} {k : α → Service β}
    {s s' : Session} {b : β} (h : (change f >>= k) s = .ok b s') :
    ∃ st a, f s.store = .ok (st, a) ∧ k a { s with store := st } = .ok b s' := by
  obtain ⟨a, s₁, h₁, h⟩ := bind_ok h
  rw [change_run] at h₁
  split at h₁
  · cases h₁
    exact ⟨_, a, ‹_›, h⟩
  · cases h₁

theorem loadOrder?_run (ref : OrderRef) (s : Session) :
    loadOrder? ref s = match s.store.order? ref with
      | some row => (match row.toOrder with
        | .ok order => .ok (some order) s
        | .error e => .error e s)
      | none => .ok none s := by
  cases hr : s.store.order? ref with
  | none =>
    simp [loadOrder?, store, hr, bind, EStateM.bind, get, getThe, MonadStateOf.get, EStateM.get,
      pure, EStateM.pure]
  | some row =>
    cases ho : row.toOrder <;>
      simp [loadOrder?, store, hr, ho, lift, bind, EStateM.bind, get, getThe, MonadStateOf.get,
        EStateM.get, pure, EStateM.pure, throw, throwThe, MonadExceptOf.throw, EStateM.throw,
        Functor.map, EStateM.map]

theorem within_loadOrder? (ref : OrderRef) : Within step (loadOrder? ref) := by
  apply within_of_store
  intro s
  rw [loadOrder?_run]
  split
  · split <;> rfl
  · rfl

/-- Loading an order that returned found the stored order and read it, or found none. -/
theorem bind_loadOrder?_ok {ref : OrderRef} {k : Option Order → Service β} {s s' : Session}
    {b : β} (h : (loadOrder? ref >>= k) s = .ok b s') :
    s.store.order? ref = none ∧ k none s = .ok b s' ∨
      ∃ row order, s.store.order? ref = some row ∧ row.toOrder = .ok order ∧
        k (some order) s = .ok b s' := by
  obtain ⟨o, s₁, h₁, h⟩ := bind_ok h
  rw [loadOrder?_run] at h₁
  split at h₁
  · rename_i row hr
    split at h₁
    · cases h₁
      exact .inr ⟨row, _, hr, ‹_›, h⟩
    · cases h₁
  · cases h₁
    exact .inl ⟨‹_›, h⟩

theorem moved_pair {p : Tables × Bool} (h : ¬(!p.2) = true) : p = (p.1, true) :=
  Prod.ext rfl (by simpa using h)

theorem exceptBind_ok {ε : Type} {x : Except ε α} {f : α → Except ε β} {b : β}
    (h : (x >>= f) = .ok b) : ∃ a, x = .ok a ∧ f a = .ok b := by
  cases x with
  | error e => cases h
  | ok a => exact ⟨a, rfl, h⟩

end Service

end TicketCheckout
