import TicketCheckout.Proofs.Atomicity
import TicketCheckout.Proofs.GuardedUpdates

/-!
# Runs of the checkout service

A run starts from a session whose store holds offers and seats but no orders, payments or
tickets (`Tables.Fresh`), and makes checkout calls one after another, each at a clock the caller
sets, forward or back, whatever each call answers (`Reachable`). The stores along a run are
linked by committed units of work (`Reachable.commits`). So a property of stores that every
`Commit` keeps holds all along a run (`Commit.chain_invariant`), and a relation between stores that
every `Commit` makes, and that composes, links any store of a run to every later one
(`Commit.chain_relate`).
-/

namespace TicketCheckout

open Store

/-- A store as a run starts it: offers, each with its units sold within its units for sale, and
seats, each under one key, but no orders, payments or tickets. -/
structure Store.Tables.Fresh (st : Tables) : Prop where
  offer_ids : (st.offers.map (·.id)).Nodup
  offers_bounded : ∀ f ∈ st.offers, 0 ≤ f.sold ∧ f.sold ≤ f.forSale
  seat_places : (st.seats.map SeatRow.place).Nodup
  no_orders : st.orders = []
  no_payments : st.payments = []
  no_tickets : st.tickets = []

/-- The sessions a run from `start` reaches: each step sets the clock to any instant and makes one
checkout call, whatever it answers. -/
inductive Reachable (start : Session) : Session → Prop
  | start : Reachable start start
  | step {s : Session} {c : Command} (now : Instant) (hc : c.IsCheckoutCall)
      (h : Reachable start s) : Reachable start ({ s with now := now }.perform c).2

namespace Reachable

variable {s₀ s s' : Session}

/-- Every store of a run follows from the first by committed units of work. -/
theorem commits (h : Reachable s₀ s) : Relation.ReflTransGen Commit s₀.store s.store := by
  induction h with
  | start => exact .refl
  | @step s c now hc _ ih => exact ih.trans (Session.perform_commits { s with now := now } hc)

/-- A run from a reached session continues the run that reached it. -/
theorem trans (h : Reachable s₀ s) (h' : Reachable s s') : Reachable s₀ s' := by
  induction h' with
  | start => exact h
  | step now hc _ ih => exact .step now hc ih

end Reachable

namespace Commit

variable {I : Tables → Prop} {st st' : Tables}

/-- A property that every commit keeps holds at the end of every chain of commits that starts
where it holds. -/
theorem chain_invariant (keep : ∀ {a b}, I a → Commit a b → I b)
    (h : Relation.ReflTransGen Commit st st') (hI : I st) : I st' := by
  induction h with
  | refl => exact hI
  | tail _ hc ih => exact keep ih hc

/-- A reflexive and transitive relation that every commit from a state with property `I` makes,
when commits keep `I`, links the ends of every chain of commits that starts where `I` holds. -/
theorem chain_relate {R : Tables → Tables → Prop} (keep : ∀ {a b}, I a → Commit a b → I b)
    (make : ∀ {a b}, I a → Commit a b → R a b) (refl : ∀ a, R a a)
    (trans : ∀ {a b c}, R a b → R b c → R a c)
    (h : Relation.ReflTransGen Commit st st') (hI : I st) : R st st' := by
  induction h with
  | refl => exact refl st
  | tail hchain hc ih => exact trans ih (make (chain_invariant keep hchain hI) hc)

end Commit

end TicketCheckout
