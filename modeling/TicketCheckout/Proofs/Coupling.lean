import TicketCheckout.Proofs.Moves
import Mathlib.Data.List.Nodup

/-!
# Orders and their payments

Every order of a run has exactly one payment, of the order's total and in its currency, and the
two statuses always go together (`coupledStatuses`): both pending, a completed order with a
succeeded payment, a cancelled or failed order with a failed payment. That holds because a
payment and its order are placed together and leave pending only together, in one unit of work
(`Tables.PairMoved`). And since only pending rows move, an order or a payment that has left
pending never changes again (`Tables.Settled`).

Main statement: `orders_coupled_to_payments`.
-/

namespace TicketCheckout

open Store

namespace Store

/-- The statuses an order and its payment may have together: both pending, a completed order with
a succeeded payment, or a cancelled or failed order with a failed payment. -/
def coupledStatuses : List (String × String) :=
  [(OrderStatus.pending.name, PaymentStatus.pending.name),
   (OrderStatus.completed.name, PaymentStatus.succeeded.name),
   (OrderStatus.cancelled.name, PaymentStatus.failed.name),
   (OrderStatus.failed.name, PaymentStatus.failed.name)]

namespace Tables

/-- Every order has a payment of its total in its currency, in a status that goes with the
order's. -/
def Coupled (st : Tables) : Prop :=
  ∀ o ∈ st.orders, ∃ p ∈ st.payments, p.order = o.ref ∧ p.amountCharged = o.total ∧
    p.currency = o.currency ∧ (o.status, p.status) ∈ coupledStatuses

variable {st st' : Tables}

theorem Coupled.restock (hc : st.Coupled) (h : Restock st st') : st'.Coupled := by
  intro o ho
  rw [h.orders] at ho
  rw [h.payments]
  exact hc o ho

/-- A pending pair that leaves pending to statuses that go together keeps every order coupled to
its payment. -/
theorem Coupled.pairMoved (hk : st.Keyed) (hc : st.Coupled) {o : OrderRow} {p : PaymentRow}
    {target : OrderStatus} {pay : PaymentStatus} {now : Instant}
    (h : st.PairMoved st' o p target pay now)
    (hpair : (target.name, pay.name) ∈ coupledStatuses) : st'.Coupled := by
  obtain ⟨pre, post, hsplit, hothers, hst'⟩ := h.orders
  obtain ⟨ppre, ppost, hpsplit, hst'p⟩ := h.payments
  have hp : p ∈ st.payments := hpsplit ▸ mem_split.2 (.inl rfl)
  intro x hx
  rw [hst', mem_split] at hx
  rcases hx with rfl | hx
  · -- the moved order goes with the moved payment
    have ho : o ∈ st.orders := hsplit ▸ mem_split.2 (.inl rfl)
    obtain ⟨q, hq, hqo, hamount, hcurrency, -⟩ := hc o ho
    obtain rfl : q = p :=
      List.inj_on_of_nodup_map hk.payment_orders hq hp (hqo.trans h.payment_order.symm)
    exact ⟨q.withStatus pay, hst'p ▸ mem_split.2 (.inl rfl), hqo, hamount, hcurrency, hpair⟩
  · -- any other order keeps its payment, which is not the one that moved
    have hx' : x ∈ st.orders := hsplit ▸ mem_split.2 (.inr hx)
    obtain ⟨q, hq, hqo, hamount, hcurrency, hstatus⟩ := hc x hx'
    have hqp : q ≠ p := by
      rintro rfl
      exact hothers x hx (hqo.symm.trans h.payment_order)
    rw [hpsplit, mem_split] at hq
    refine ⟨q, ?_, hqo, hamount, hcurrency, hstatus⟩
    rw [hst'p]
    exact mem_split.2 (.inr (hq.resolve_left hqp))

/-! ## Every move keeps orders coupled -/

/-- Every move keeps every order coupled to its payment. -/
theorem Move.coupled (hk : st.Keyed) (hc : st.Coupled) (h : Move st st') : st'.Coupled := by
  cases h with
  | place _ hreserve hprice hrow _ hcharge hpayment _ =>
    have hc₁ := hc.restock hreserve.restock
    obtain ⟨pricing, -, rfl⟩ := Order.place_ok hprice
    obtain ⟨href, -, hstatus, hcurrency, -, -, htotal, -⟩ := orderRow_ok hrow
    obtain ⟨hporder, hpstatus, hpcurrency⟩ := hpayment
    intro x hx
    rcases List.mem_append.1 hx with hx | hx
    · obtain ⟨q, hq, hcoupled⟩ := hc₁ x hx
      exact ⟨q, List.mem_append_left _ hq, hcoupled⟩
    · -- the new order, with the new payment
      rw [List.mem_singleton] at hx
      subst hx
      refine ⟨_, List.mem_append_right _ (List.mem_singleton_self _),
        hporder.trans href.symm, ?_, hpcurrency.trans hcurrency.symm, ?_⟩
      · -- both store the order's total
        exact Except.ok.inj (hcharge.symm.trans htotal)
      · rw [hstatus, hpstatus]
        simp [coupledStatuses]
  | @complete st₁ st₂ o p now order order' first tickets hmoved _ _ hsell _ =>
    have hc₁ := hc.pairMoved hk hmoved (by simp [coupledStatuses])
    have hc₂ : st₂.Coupled := hc₁.restock (updateSeats_restock_of_eq (SeatRow.sell_place _) hsell)
    exact hc₂
  | @release st₁ st₂ o p target now hmoved htarget hrelease =>
    have hpair : (target.name, PaymentStatus.failed.name) ∈ coupledStatuses := by
      rcases htarget with rfl | rfl <;> simp [coupledStatuses]
    exact (hc.pairMoved hk hmoved hpair).restock hrelease.restock
  | releaseLocks now => exact hc.restock (releaseExpiredLocks_restock now)

/-! ## Settled records stay -/

/-- From a store to a later one, every order and every payment that has left pending is still
there, as it was. -/
structure Settled (st st' : Tables) : Prop where
  orders : ∀ o ∈ st.orders, o.status ≠ OrderStatus.pending.name → o ∈ st'.orders
  payments : ∀ p ∈ st.payments, p.status ≠ PaymentStatus.pending.name → p ∈ st'.payments

theorem Settled.refl (st : Tables) : Settled st st := ⟨fun _ ho _ => ho, fun _ hp _ => hp⟩

theorem Settled.trans {st₁ st₂ st₃ : Tables} (h₁ : Settled st₁ st₂) (h₂ : Settled st₂ st₃) :
    Settled st₁ st₃ :=
  ⟨fun o ho hs => h₂.orders o (h₁.orders o ho hs) hs,
    fun p hp hs => h₂.payments p (h₁.payments p hp hs) hs⟩

theorem Settled.restock (h : Restock st st') : Settled st st' :=
  ⟨fun _ ho _ => h.orders ▸ ho, fun _ hp _ => h.payments ▸ hp⟩

/-- Only the pending pair moves, so every settled row stays. -/
theorem Settled.pairMoved {o : OrderRow} {p : PaymentRow} {target : OrderStatus}
    {pay : PaymentStatus} {now : Instant} (h : st.PairMoved st' o p target pay now) :
    Settled st st' := by
  obtain ⟨pre, post, hsplit, -, hst'⟩ := h.orders
  obtain ⟨ppre, ppost, hpsplit, hst'p⟩ := h.payments
  constructor
  · intro x hx hsettled
    rw [hsplit, mem_split] at hx
    have hx : x ∈ pre ++ post := hx.resolve_left fun he => hsettled (he ▸ h.order_pending)
    rw [hst']
    exact mem_split.2 (.inr hx)
  · intro q hq hsettled
    rw [hpsplit, mem_split] at hq
    have hq : q ∈ ppre ++ ppost := hq.resolve_left fun he => hsettled (he ▸ h.payment_pending)
    rw [hst'p]
    exact mem_split.2 (.inr hq)

/-- Every move leaves every settled order and payment as it was. -/
theorem Move.settled (h : Move st st') : Settled st st' := by
  cases h with
  | place _ hreserve _ _ _ _ _ _ =>
    have h₁ := Settled.restock hreserve.restock
    exact ⟨fun o ho hs => List.mem_append_left _ (h₁.orders o ho hs),
      fun p hp hs => List.mem_append_left _ (h₁.payments p hp hs)⟩
  | @complete st₁ st₂ o p now order order' first tickets hmoved _ _ hsell _ =>
    have h₂ : Settled st st₂ := (Settled.pairMoved hmoved).trans
      (Settled.restock (updateSeats_restock_of_eq (SeatRow.sell_place _) hsell))
    exact ⟨h₂.orders, h₂.payments⟩
  | release hmoved _ hrelease =>
    exact (Settled.pairMoved hmoved).trans (Settled.restock hrelease.restock)
  | releaseLocks now => exact Settled.restock (releaseExpiredLocks_restock now)

theorem Fresh.coupled (h : st.Fresh) : st.Coupled := by
  intro o ho
  rw [h.no_orders] at ho
  cases ho

end Tables

end Store

/-! ## Runs -/

/-- Along every run from a fresh store, every order has exactly one payment, of the order's
total and in its currency, in a status that goes with the order's; and from any store of the
run to a later one, no order or payment that has left pending changes again. -/
theorem orders_coupled_to_payments {s₀ s : Session} (h0 : s₀.store.Fresh)
    (h : Reachable s₀ s) :
    (∀ o ∈ s.store.orders, ∃ p, s.store.payments.filter (·.order == o.ref) = [p] ∧
      p.amountCharged = o.total ∧ p.currency = o.currency ∧
      (o.status, p.status) ∈ coupledStatuses) ∧
    ∀ s', Reachable s s' → s.store.Settled s'.store := by
  constructor
  · intro o ho
    have hc := h.invariant h0 h0.coupled fun hk hc hm => hm.coupled hk hc
    obtain ⟨p, hp, hpo, hamount, hcurrency, hstatus⟩ := hc o ho
    refine ⟨p, ?_, hamount, hcurrency, hstatus⟩
    rw [← hpo]
    exact filter_key_of_mem (h.keyed h0).payment_orders hp
  · intro s' h'
    exact h.relate h0 (I := fun _ => True) trivial (fun _ _ _ => trivial)
      (fun _ _ hm => hm.settled) Tables.Settled.refl Tables.Settled.trans h'

/-- A run that places an order for two general-admission units and a seat: the order it stores
has its one payment. -/
theorem orders_coupled_from_one_offer :
    let s₀ := Session.start { offers := [⟨1, 1, 1, "Floor", ⟨0⟩, 10, 0⟩],
                              seats := [⟨1, 1, 1, "available", none, none⟩] } ⟨0⟩
    let rules : CheckoutRules := ⟨{}, .finite false 0 0, 15, "usd", .local⟩
    let s := ({ s₀ with now := ⟨0⟩ }.perform (.placeOrder rules ⟨1, .buyer⟩
      [{ offerId := 1, quantity := 2 }, { offerId := 1, seatId := some 1 }])).2
    s₀.store.Fresh ∧ Reachable s₀ s ∧ s.store.orders.length = 1 ∧
      ((∀ o ∈ s.store.orders, ∃ p, s.store.payments.filter (·.order == o.ref) = [p] ∧
        p.amountCharged = o.total ∧ p.currency = o.currency ∧
        (o.status, p.status) ∈ coupledStatuses) ∧
      ∀ s', Reachable s s' → s.store.Settled s'.store) :=
  have hfresh : Tables.Fresh _ := ⟨by decide, by decide, by decide, rfl, rfl, rfl⟩
  have hrun : Reachable _ _ := .step (c := .placeOrder ⟨{}, .finite false 0 0, 15, "usd", .local⟩
    ⟨1, .buyer⟩ [{ offerId := 1, quantity := 2 }, { offerId := 1, seatId := some 1 }]) ⟨0⟩ trivial
    .start
  ⟨hfresh, hrun, by decide +kernel, orders_coupled_to_payments hfresh hrun⟩

end TicketCheckout
