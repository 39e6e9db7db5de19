import TicketCheckout.Proofs.Calls
import TicketCheckout.Service.Command
import Mathlib.Tactic.DefEqTransformations

/-!
# Checkout calls commit whole units of work

The store a checkout call leaves behind differs from the one it found by whole committed units
of work, and nothing else (`Session.perform_commits`). `Commit` lists those units as changes of
the store, each with the guards the code checked on the way: a cart placed as a pending order
with its pending payment, a payment's success completing its order, its failure failing the
order, a buyer's cancel, the sweep's expiry of one order, and the sweep's release of expired seat
locks. A payment is always moved first and its order second, and a unit that stops in between
(a failure, an early return, a refused guard) drops both moves, since the unit of work restores
the store it started from.

`Reserved` and `Released` describe the two loops inside these units: reserving a cart line by
line, and giving back what an order holds line by line, where a seat the order no longer holds is
skipped.

Invariants of runs are then proved once per `Commit` constructor, without looking at a service
call again.
-/

namespace TicketCheckout

open Store Number

/-- The reservations of a cart's lines for order `ref`, line by line: each line finds its offer,
then locks its seat until `expiresAt` or takes its units; `ls` are the order lines priced at the
offers' prices. -/
inductive Reserved (ref : OrderRef) (expiresAt : Instant) :
    List CartLine → Tables → List OrderLine → Tables → Prop
  | nil (st : Tables) : Reserved ref expiresAt [] st [] st
  | cons {line : CartLine} {rest : List CartLine} {st st₁ st₂ : Tables} {offer : OfferRow}
      {ls : List OrderLine}
      (hoffer : st.findOffer line.offerId = .ok (some offer))
      (htake : match line.seatId with
        | some seat => st.lockSeat offer.eventId seat offer.tierId expiresAt ref = .ok st₁
        | none => st.reserve offer.id line.quantity = .ok st₁)
      (hrest : Reserved ref expiresAt rest st₁ ls st₂) :
      Reserved ref expiresAt (line :: rest) st
        (⟨offer.id, offer.eventId, offer.tierId, line.seatId, line.quantity,
          readAmount offer.price⟩ :: ls) st₂

/-- What giving back the lines of order `holder` did to the store: the units of a
general-admission line are returned, the seat of a seat line is unlocked, or skipped when the
order no longer holds it. -/
inductive Released (holder : OrderRef) : List OrderLine → Tables → Tables → Prop
  | nil (st : Tables) : Released holder [] st st
  | units {l : OrderLine} {rest : List OrderLine} {st st₁ st₂ : Tables} (hseat : l.seatId = none)
      (hrelease : st.release l.offerId l.quantity = .ok st₁)
      (hrest : Released holder rest st₁ st₂) : Released holder (l :: rest) st st₂
  | unlocked {l : OrderLine} {rest : List OrderLine} {st st₁ st₂ : Tables} {seat : Int}
      (hseat : l.seatId = some seat)
      (hunlock : st.unlockSeat l.eventId seat (some holder) = .ok st₁)
      (hrest : Released holder rest st₁ st₂) : Released holder (l :: rest) st st₂
  | skipped {l : OrderLine} {rest : List OrderLine} {st st₂ : Tables} {seat : Int}
      {message : String} (hseat : l.seatId = some seat)
      (hunlock : st.unlockSeat l.eventId seat (some holder) = .error (.seatTaken message))
      (hrest : Released holder rest st st₂) : Released holder (l :: rest) st st₂

/-- One committed unit of work of the checkout service, as the change it makes to the store. -/
inductive Commit : Tables → Tables → Prop
  /-- A valid cart becomes a pending order with a pending payment. -/
  | place {st st₁ st₂ st₃ : Tables} {limits : CartLimits} {lines : List CartLine} {n : Nat}
      {expiresAt now : Instant} {ls : List OrderLine} {userId : Int} {fee : Decimal}
      {currency : String} {order : Order} {row : OrderRow} {payment : PaymentRow}
      (hcart : validateCart limits lines = .ok ())
      (hreserve : Reserved (.placed n) expiresAt lines st ls st₁)
      (hprice : Order.place (.placed n) userId ls fee currency expiresAt now = .ok order)
      (hrow : orderRow order = .ok row)
      (horder : st₁.insertOrder row = .ok st₂)
      (hcharge : storeAmount order.total = .ok payment.amountCharged)
      (hpayment : payment.order = .placed n ∧ payment.status = PaymentStatus.pending.name ∧
        payment.currency = order.currency)
      (hpay : st₂.insertPayment payment = .ok st₃) : Commit st st₃
  /-- A succeeded payment completes its pending order, sells its seats and issues its
  tickets. -/
  | complete {st st₁ st₂ st₃ st₄ : Tables} {intent : String} {ref : OrderRef} {row : OrderRow}
      {order order' : Order} {now : Instant} {first : Nat} {tickets : List TicketRow}
      (hpay : st.settleByReference intent .succeeded = (st₁, some ref))
      (hrow : st₁.order? ref = some row) (hload : row.toOrder = .ok order)
      (hmove : order.moveTo .complete now = .ok order')
      (horder : st₁.moveOrder ref .completed now = (st₂, true))
      (hseats : st₂.markSeatsSold ref (Service.orderSeats order') =
        .ok (st₃, (Service.orderSeats order').length))
      (hrows : (order'.issueTickets now first).mapM ticketRow = .ok tickets)
      (hissue : st₃.insertTickets tickets = .ok st₄) : Commit st st₄
  /-- A failed payment fails its pending order and gives back what the order held. -/
  | fail {st st₁ st₂ st₃ : Tables} {intent : String} {ref : OrderRef} {row : OrderRow}
      {order : Order} {now : Instant}
      (hpay : st.settleByReference intent .failed = (st₁, some ref))
      (hrow : st₁.order? ref = some row) (hload : row.toOrder = .ok order)
      (horder : st₁.moveOrder ref .failed now = (st₂, true))
      (hrelease : Released order.ref order.lines st₂ st₃) : Commit st st₃
  /-- A buyer cancels a pending order: its payment fails, the order is cancelled and what it held
  is given back. -/
  | cancel {st st₁ st₂ st₃ : Tables} {ref : OrderRef} {row : OrderRow} {order order' : Order}
      {now : Instant}
      (hrow : st.order? ref = some row) (hload : row.toOrder = .ok order)
      (hmove : order.moveTo .cancel now = .ok order')
      (hpay : st.settleOf ref .failed = (st₁, true))
      (horder : st₁.moveOrder ref .cancelled now = (st₂, true))
      (hrelease : Released order.ref order.lines st₂ st₃) : Commit st st₃
  /-- The sweep expires a pending order: its payment fails, the order is cancelled and what it
  held is given back. -/
  | expire {st st₁ st₂ st₃ : Tables} {ref : OrderRef} {now : Instant}
      (hpay : st.settleOf ref .failed = (st₁, true))
      (horder : st₁.moveOrder ref .cancelled now = (st₂, true))
      (hrelease : st₂.order? ref = none ∧ st₃ = st₂ ∨
        ∃ row order, st₂.order? ref = some row ∧ row.toOrder = .ok order ∧
          Released order.ref order.lines st₂ st₃) : Commit st st₃
  /-- The sweep returns expired seat locks of orders that are no longer pending. -/
  | releaseLocks (st : Tables) (now : Instant) : Commit st (st.releaseExpiredLocks now).1

namespace Service

variable {β : Type} {step : Tables → Tables → Prop}

/-! ## The loops of a unit of work -/

theorem releaseInventory_ok {o : Order} {s s' : Session} {u : Unit}
    (h : releaseInventory o s = .ok u s') : Released o.ref o.lines s.store s'.store := by
  unfold releaseInventory at h
  generalize o.lines = ls at h
  induction ls generalizing s with
  | nil =>
    cases h
    exact .nil _
  | cons l rest ih =>
    obtain ⟨_, s₁, h₁, h⟩ := bind_ok h
    have hrest := ih h
    cases hseat : l.seatId with
    | none =>
      simp only [hseat] at h₁
      obtain ⟨st, hst, rfl⟩ := write_ok h₁
      exact .units hseat hst hrest
    | some seat =>
      simp only [hseat] at h₁
      obtain ⟨st, s₂, h₂, h₁⟩ := bind_ok h₁
      cases h₂
      cases hu : s.store.unlockSeat l.eventId seat (some o.ref) with
      | ok st' =>
        simp only [hu] at h₁
        cases h₁
        exact .unlocked hseat hu hrest
      | error f =>
        cases f with
        | seatTaken m =>
          simp only [hu] at h₁
          cases h₁
          exact .skipped hseat hu hrest
        | _ => simp only [hu] at h₁; cases h₁

theorem bind_releaseInventory_ok {o : Order} {k : Unit → Service β} {s s' : Session} {b : β}
    (h : (releaseInventory o >>= k) s = .ok b s') :
    ∃ s₁, Released o.ref o.lines s.store s₁.store ∧ k () s₁ = .ok b s' := by
  obtain ⟨_, s₁, h₁, h⟩ := bind_ok h
  exact ⟨s₁, releaseInventory_ok h₁, h⟩

/-- A guarded move that reported success, as the pair it returned. -/

theorem reserveLine_ok {ref : OrderRef} {expiresAt : Instant} {line : CartLine} {s s' : Session}
    {l : OrderLine} (h : reserveLine ref expiresAt line s = .ok l s') :
    ∃ offer st, s.store.findOffer line.offerId = .ok (some offer) ∧
      (match line.seatId with
        | some seat => s.store.lockSeat offer.eventId seat offer.tierId expiresAt ref = .ok st
        | none => s.store.reserve offer.id line.quantity = .ok st) ∧
      l = ⟨offer.id, offer.eventId, offer.tierId, line.seatId, line.quantity,
        readAmount offer.price⟩ ∧ s' = { s with store := st } := by
  unfold reserveLine at h
  obtain ⟨st, s₁, h₁, h⟩ := bind_ok h
  cases h₁
  obtain ⟨found, s₂, h₂, h⟩ := bind_ok h
  obtain ⟨hfound, rfl⟩ := lift_ok h₂
  cases found with
  | none => exact absurd h fail_ok
  | some offer =>
    cases hseat : line.seatId with
    | none =>
      simp only [hseat] at h
      obtain ⟨_, s₃, h₃, h⟩ := bind_ok h
      cases h
      obtain ⟨st, hst, rfl⟩ := write_ok h₃
      exact ⟨offer, st, hfound, by simpa [hseat] using hst, rfl, rfl⟩
    | some seat =>
      simp only [hseat] at h
      obtain ⟨_, s₃, h₃, h⟩ := bind_ok h
      cases h
      obtain ⟨st, hst, rfl⟩ := write_ok h₃
      exact ⟨offer, st, hfound, by simpa [hseat] using hst, rfl, rfl⟩

theorem reserveLines_ok {ref : OrderRef} {expiresAt : Instant} {lines : List CartLine}
    {s s' : Session} {ls : List OrderLine}
    (h : lines.mapM (reserveLine ref expiresAt) s = .ok ls s') :
    Reserved ref expiresAt lines s.store ls s'.store := by
  induction lines generalizing s ls with
  | nil =>
    cases h
    exact .nil _
  | cons line rest ih =>
    rw [List.mapM_cons] at h
    obtain ⟨l, s₁, h₁, h⟩ := bind_ok h
    obtain ⟨ls', s₂, h₂, h⟩ := bind_ok h
    cases h
    obtain ⟨offer, st, hoffer, htake, rfl, rfl⟩ := reserveLine_ok h₁
    exact .cons hoffer htake (ih h₂)

theorem openIntent_ok {g : Gateway.Kind} {amount : Int} {currency : String} {s s' : Session}
    {i : Gateway.PaymentIntent} (h : g.openIntent amount currency s = .ok i s') :
    s'.store = s.store := by
  cases g with
  | «local» =>
    obtain ⟨k, s₁, h₁, h⟩ := bind_ok h
    cases h₁
    cases h
    rfl
  | processor script =>
    obtain ⟨_, s₁, h₁, h⟩ := bind_ok h
    cases h₁
    obtain ⟨_, rfl⟩ := lift_ok h
    rfl

/-! ## Each use case commits whole units -/

theorem within_finalizePayment (intent : String) : Within Commit (finalizePayment intent) := by
  unfold finalizePayment
  refine within_bind within_now fun now => within_unitOfWork ?_
  intro s a s' h
  simp only [bind_update] at h
  cases hpay : (s.store.settleByReference intent .succeeded).2 with
  | none =>
    simp only [hpay] at h
    obtain ⟨_, s₂, _, h⟩ := bind_ok h
    cases h
  | some ref =>
    simp only [hpay] at h
    rcases bind_loadOrder?_ok h with ⟨_, h⟩ | ⟨row, order, hrow, hload, h⟩
    · exact absurd h fail_ok
    simp only at h
    split at h
    · exact absurd h bind_fail_ok
    obtain ⟨order', hmove, h⟩ := bind_lift_ok h
    simp only [bind_update] at h
    split at h
    · exact absurd h bind_fail_ok
    rename_i hmoved
    obtain ⟨st₃, sold, hmark, h⟩ := bind_change_ok h
    split at h
    · simp only [bind_record] at h
      exact absurd h bind_fail_ok
    rename_i hsold
    simp only [bind_takeCodes] at h
    obtain ⟨st₄, hins, h⟩ := bind_write_ok h
    simp only [bind_record] at h
    cases h
    obtain ⟨tickets, hrows, hissue⟩ := exceptBind_ok hins
    have hsold' : sold = (orderSeats order').length := by simpa using hsold
    subst hsold'
    exact .single (.complete (Prod.ext rfl hpay) hrow hload hmove (moved_pair hmoved) hmark hrows
      hissue)

theorem within_failPayment (intent : String) : Within Commit (failPayment intent) := by
  unfold failPayment
  refine within_bind within_now fun now => within_unitOfWork ?_
  intro s a s' h
  simp only [bind_update] at h
  cases hpay : (s.store.settleByReference intent .failed).2 with
  | none =>
    simp only [hpay] at h
    obtain ⟨_, s₂, _, h⟩ := bind_ok h
    cases h
  | some ref =>
    simp only [hpay] at h
    rcases bind_loadOrder?_ok h with ⟨_, h⟩ | ⟨row, order, hrow, hload, h⟩
    · exact absurd h fail_ok
    simp only [bind_update] at h
    split at h
    · exact absurd h bind_fail_ok
    rename_i hmoved
    obtain ⟨s₁, hrel, h⟩ := bind_releaseInventory_ok h
    simp only [bind_record] at h
    obtain ⟨failed, _, h⟩ := bind_lift_ok h
    cases h
    exact .single (.fail (Prod.ext rfl hpay) hrow hload (moved_pair hmoved) hrel)

theorem within_cancelOrder (caller : Principal) (ref : OrderRef) :
    Within Commit (cancelOrder caller ref) := by
  unfold cancelOrder
  refine within_bind within_now fun now => within_unitOfWork ?_
  intro s a s' h
  rcases bind_loadOrder?_ok h with ⟨_, h⟩ | ⟨row, order, hrow, hload, h⟩
  · exact absurd h fail_ok
  simp only at h
  split at h
  · exact absurd h bind_fail_ok
  obtain ⟨cancelled, hmove, h⟩ := bind_lift_ok h
  simp only [bind_update] at h
  split at h
  · exact absurd h bind_fail_ok
  rename_i hpaid
  simp only [bind_update] at h
  split at h
  · exact absurd h bind_fail_ok
  rename_i hmoved
  obtain ⟨s₁, hrel, h⟩ := bind_releaseInventory_ok h
  cases h
  exact .single (.cancel hrow hload hmove (moved_pair hpaid) (moved_pair hmoved) hrel)

theorem within_expireOrder (ref : OrderRef) (now : Instant) :
    Within Commit (expireOrder ref now) := by
  unfold expireOrder
  refine within_unitOfWork ?_
  intro s a s' h
  simp only [bind_update] at h
  split at h
  · cases h
  rename_i hpaid
  simp only [bind_update] at h
  split at h
  · cases h
  rename_i hmoved
  rcases bind_loadOrder?_ok h with ⟨hnone, h⟩ | ⟨row, order, hrow, hload, h⟩
  · cases h
    exact .single (.expire (moved_pair hpaid) (moved_pair hmoved) (.inl ⟨hnone, rfl⟩))
  · obtain ⟨s₁, hrel, h⟩ := bind_releaseInventory_ok h
    cases h
    exact .single (.expire (moved_pair hpaid) (moved_pair hmoved)
      (.inr ⟨row, order, hrow, hload, hrel⟩))

theorem within_expireOrders (now : Instant) (refs : List OrderRef) :
    Within Commit (expireOrders now refs) := by
  induction refs with
  | nil => exact within_pure 0
  | cons ref rest ih =>
    exact within_bind (within_attempt (within_expireOrder ref now)) fun _ =>
      within_bind ih fun _ => within_pure _

theorem within_sweep (now : Instant) (batchSize : Int) : Within Commit (sweep now batchSize) :=
  within_bind within_store fun _ => within_bind (within_lift _) fun due =>
    within_bind (within_expireOrders now due) fun _ => within_bind (within_record _) fun _ =>
      within_bind (within_update fun st => .single (.releaseLocks st now)) fun _ =>
        within_bind (within_record _) fun _ => within_pure _

theorem within_checkout (rules : CheckoutRules) (buyer : Principal) (lines : List CartLine)
    (hcart : validateCart rules.limits lines = .ok ()) :
    Within Commit (checkout rules buyer lines) := by
  unfold checkout
  refine within_bind within_now fun now => ?_
  split
  · refine within_bind (within_pure _) fun expiresAt => within_atomically ?_
    intro s a s' h
    obtain ⟨_, s₀, h₀, h⟩ := bind_ok h
    cases h₀
    obtain ⟨ls, s₁, h₁, h⟩ := bind_ok h
    have hreserve := reserveLines_ok h₁
    obtain ⟨order, hprice, h⟩ := bind_lift_ok h
    obtain ⟨st₂, hins, h⟩ := bind_write_ok h
    obtain ⟨row, hrow, horder⟩ := exceptBind_ok hins
    obtain ⟨amount, _, h⟩ := bind_lift_ok h
    obtain ⟨intent, s₂, h₂, h⟩ := bind_ok h
    have hs₂ := openIntent_ok h₂
    obtain ⟨charged, hcharge, h⟩ := bind_lift_ok h
    obtain ⟨reference, _, h⟩ := bind_lift_ok h
    obtain ⟨st₃, hpay, h⟩ := bind_write_ok h
    obtain ⟨_, s₃, h₃, h⟩ := bind_ok h
    cases h₃
    obtain ⟨_, s₄, h₄, h⟩ := bind_ok h
    cases h₄
    cases h
    rw [hs₂] at hpay
    exact .single (.place hcart hreserve hprice hrow horder hcharge ⟨rfl, rfl, rfl⟩ hpay)
  · exact within_fail_bind _ _

theorem within_placeOrder (rules : CheckoutRules) (buyer : Principal) (lines : List CartLine) :
    Within Commit (placeOrder rules buyer lines) := by
  unfold placeOrder
  refine within_bind (within_attempt ?_) fun result => ?_
  · exact within_lift_bind fun _ hcart => within_checkout rules buyer lines hcart
  · cases result with
    | ok p => exact within_bind (within_record _) fun _ => within_pure _
    | error f =>
      simp only
      split
      · exact within_bind (within_record _) fun _ => within_bind (within_record _) fun _ =>
          within_fail _
      · exact within_bind (within_record _) fun _ => within_fail _

theorem within_orderDetail (caller : Principal) (ref : OrderRef) :
    Within step (orderDetail caller ref) := by
  unfold orderDetail
  refine within_bind (within_loadOrder? ref) fun found => ?_
  cases found with
  | none => exact within_fail _
  | some order =>
    simp only
    split
    · exact within_fail_bind _ _
    · refine within_bind within_store fun st => ?_
      split
      · exact within_bind (within_map (within_lift _)) fun _ =>
          within_bind (within_mapM (fun _ => within_lift _) _) fun _ => within_pure _
      · exact within_bind (within_pure _) fun _ =>
          within_bind (within_mapM (fun _ => within_lift _) _) fun _ => within_pure _

end Service

open Service

/-! ## Checkout calls -/

/-- The calls a checkout run is made of: placing an order, the processor's reports that a
payment succeeded or failed, cancelling and looking at an order through the service or the web
layer, and the expiry sweep. -/
def Command.IsCheckoutCall : Command → Prop
  | .placeOrder .. | .confirmPayment _ | .failPayment _ | .cancelOrder .. | .submitCancel ..
  | .viewOrder .. | .submitView .. | .sweep _ | .sweepQuietly _ => True
  | _ => False

theorem Command.within_run {c : Command} (hc : c.IsCheckoutCall) : Within Commit c.run := by
  cases c
  case placeOrder rules caller lines =>
    exact within_bind (within_lift _) fun _ =>
      within_bind (within_placeOrder rules caller lines) fun _ => within_lift _
  case confirmPayment intent =>
    exact within_bind (within_finalizePayment intent) fun r => by
      cases r <;> exact within_pure _
  case failPayment intent =>
    exact within_bind (within_failPayment intent) fun r => by
      cases r
      · exact within_pure _
      · exact within_lift _
  case cancelOrder caller ref =>
    exact within_bind (within_cancelOrder caller ref) fun _ => within_lift _
  case submitCancel caller ref =>
    exact within_bind (within_cancelOrder caller ref) fun _ => within_lift _
  case viewOrder caller ref =>
    exact within_bind (within_orderDetail caller ref) fun _ => within_lift _
  case submitView caller ref =>
    exact within_bind (within_orderDetail caller ref) fun _ => within_lift _
  case sweep batchSize =>
    exact within_bind within_now fun now =>
      within_bind (within_sweep now batchSize) fun _ => within_pure _
  case sweepQuietly batchSize =>
    exact within_bind within_now fun now =>
      within_bind (within_attempt (within_sweep now batchSize)) fun _ => within_pure _
  all_goals exact False.elim hc

theorem Session.perform_commits (s : Session) {c : Command} (hc : c.IsCheckoutCall) :
    Relation.ReflTransGen Commit s.store (s.perform c).2.store := by
  have h := Command.within_run hc { s.hearOf c.refs with metrics := [], requests := [] }
  cases hr : c.run { s.hearOf c.refs with metrics := [], requests := [] } <;>
    simp_all [Session.perform, callSession, Session.hearOf]

end TicketCheckout
