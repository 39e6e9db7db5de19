import TicketCheckout.Proofs.Undo

/-!
# Cancelling and looking at an order

Who may cancel or look at an order, and in which order the service checks. A caller is named by
an id and a role name; only the name `admin` makes an administrator, and any other name, a role
or not, gives no more rights than a buyer has (`Principal.canAccess_ofRoleName`).

In every store of a run, a cancel checks first that the order exists, then that the caller is an
administrator or the order's buyer, then that the order is pending, and every refusal leaves the
session as it was. A pending order that the caller may cancel is given up whole: its payment
fails with it and what it held goes back, so neither conflict the cancel guards against can
arise. A look at an order makes the first two checks in the same order, never changes anything,
and otherwise answers with the order, its payment and its tickets
(`cancel_and_view_check_in_order`). Reading the tickets back needs one more fact of runs: every
stored ticket's status is the name of a ticket status (`Tables.TicketsNamed`).
-/

namespace TicketCheckout

open Store Service

theorem TicketStatus.ofName?_name (s : TicketStatus) : TicketStatus.ofName? s.name = some s := by
  cases s <;> rfl

/-- A caller named by an id and a role name may act on what `owner` owns exactly when the name
is `admin` or the id is `owner`. -/
theorem Principal.canAccess_ofRoleName (id owner : Int) (role : String) :
    (Principal.ofRoleName id role).canAccess owner = true ↔ role = "admin" ∨ id = owner := by
  -- the name is matched against each role's name; only a match with `admin` gives it
  have hadmin : (Role.ofName? role).getD .buyer = .admin ↔ role = "admin" := by
    constructor
    · intro h
      cases hr : Role.ofName? role with
      | none => rw [hr] at h; cases h
      | some r =>
        rw [hr, Option.getD_some] at h
        subst h
        have hname : Role.admin.name = role := by simpa using List.find?_some hr
        exact hname.symm
    · rintro rfl
      rfl
  simp [Principal.ofRoleName, Principal.canAccess, Principal.isAdmin, hadmin]

namespace Store

theorem ticketRow_status {t : Ticket} {r : TicketRow} (h : ticketRow t = .ok r) :
    r.status = t.status.name := by
  unfold ticketRow at h
  cases hp : storeAmount t.pricePaid with
  | error => simp [hp, bind, Except.bind] at h
  | ok price =>
    simp only [hp, bind, Except.bind, pure, Except.pure, Except.ok.injEq] at h
    subst h
    rfl

/-- Ticket rows whose statuses are names of ticket statuses read back. -/
theorem mapM_toTicket_ok {rows : List TicketRow}
    (h : ∀ t ∈ rows, ∃ ts : TicketStatus, t.status = ts.name) :
    ∃ tickets, rows.mapM TicketRow.toTicket = .ok tickets := by
  induction rows with
  | nil => exact ⟨[], rfl⟩
  | cons t rest ih =>
    obtain ⟨ts, hts⟩ := h t List.mem_cons_self
    obtain ⟨tickets, hrest⟩ := ih fun t' ht' => h t' (List.mem_cons_of_mem _ ht')
    simp only [List.mapM_cons, TicketRow.toTicket, readStatus, hts, TicketStatus.ofName?_name,
      hrest, bind, Except.bind, pure, Except.pure]
    exact ⟨_, rfl⟩

namespace Tables

variable {st st' : Tables}

/-- Every ticket's status is the name of a ticket status. -/
def TicketsNamed (st : Tables) : Prop := ∀ t ∈ st.tickets, ∃ ts : TicketStatus, t.status = ts.name

theorem Fresh.ticketsNamed (h : st.Fresh) : st.TicketsNamed := by
  intro t ht
  rw [h.no_tickets] at ht
  cases ht

theorem TicketsNamed.of_tickets (h : st.TicketsNamed) (ht : st'.tickets = st.tickets) :
    st'.TicketsNamed :=
  fun t ht' => h t (ht ▸ ht')

/-- Every move keeps ticket statuses named: the only tickets stored are those an order issues. -/
theorem Move.ticketsNamed (h : st.TicketsNamed) (hm : Move st st') : st'.TicketsNamed := by
  cases hm with
  | place _ hreserve _ _ _ _ _ _ => exact h.of_tickets hreserve.restock.tickets
  | complete hmoved _ _ hsell hrows =>
    have h₂ := h.of_tickets
      ((updateSeats_restock_of_eq (SeatRow.sell_place _) hsell).tickets.trans hmoved.tickets)
    intro t ht
    rcases List.mem_append.1 ht with ht | ht
    · exact h₂ t ht
    · obtain ⟨i, -, hi⟩ := exists_of_forall₂ (forall₂_of_mapM_ok hrows) ht
      exact ⟨i.status, ticketRow_status hi⟩
  | release hmoved _ hrelease =>
    exact h.of_tickets (hrelease.restock.tickets.trans hmoved.tickets)
  | releaseLocks now => exact h.of_tickets (releaseExpiredLocks_restock now).tickets

end Tables

end Store

theorem Reachable.ticketsNamed {s₀ s : Session} (h0 : s₀.store.Fresh) (h : Reachable s₀ s) :
    s.store.TicketsNamed :=
  h.invariant h0 h0.ticketsNamed fun _ ht hm => hm.ticketsNamed ht


namespace Service

open Tables

variable {α β : Type} {s : Session} {caller : Principal}

/-- Lifting each step of a list walk that returns returns the same list, in the same session. -/
theorem mapM_lift_ok {f : α → Except Failure β} {l : List α} {bs : List β}
    (h : l.mapM f = .ok bs) : (l.mapM fun a => lift (f a)) s = .ok bs s := by
  induction l generalizing bs with
  | nil =>
    cases h
    rfl
  | cons a rest ih =>
    rw [List.mapM_cons] at h ⊢
    cases hf : f a with
    | error e => simp [hf, bind, Except.bind] at h
    | ok b =>
      cases hr : rest.mapM f with
      | error e => simp [hf, hr, bind, Except.bind] at h
      | ok bs' =>
        simp only [hf, hr, bind, Except.bind, pure, Except.pure, Except.ok.injEq] at h
        subst h
        exact (bind_lift_of_ok rfl _).trans ((bind_run_ok (ih hr) _).trans rfl)

section Lookup

/-! The first checks of cancelling and of looking at an order, at a supported clock. -/

variable {ref : OrderRef} (hmissing : s.store.order? ref = none)
include hmissing

theorem cancelOrder_missing (hnow : s.now.supported = true) :
    cancelOrder caller ref s = .error (.notFound "Order not found") s := by
  unfold cancelOrder
  rw [bind_now hnow]
  unfold unitOfWork
  simp only [bind_loadOrder?_run, hmissing]
  rfl

theorem orderDetail_missing : orderDetail caller ref s = .error (.notFound "Order not found") s := by
  unfold orderDetail
  simp only [bind_loadOrder?_run, hmissing]
  rfl

end Lookup

/-- A look at an order found under its reference, by a caller allowed to see it, answers with the
order, its payment and its tickets as they read back, and changes nothing. -/
theorem orderDetail_found {ref : OrderRef} {row : OrderRow} {order : Order}
    (hrow : s.store.order? ref = some row) (hload : row.toOrder = .ok order)
    (hcaller : caller.canAccess order.userId = true) {prow : PaymentRow} {payment : Payment}
    (hpay : s.store.paymentOf? ref = some prow) (hpayment : prow.toPayment = .ok payment)
    {tickets : List Ticket}
    (htickets : (s.store.ticketsOf ref).mapM TicketRow.toTicket = .ok tickets) :
    orderDetail caller ref s = .ok ⟨order, some payment, tickets⟩ s := by
  unfold orderDetail
  simp only [bind_loadOrder?_run, hrow, hload, hcaller, Bool.not_true, Bool.false_eq_true,
    ↓reduceIte, bind_store, hpay]
  rw [bind_run_ok (show (some <$> lift prow.toPayment : Service (Option Payment)) s =
    .ok (some payment) s by rw [hpayment]; rfl)]
  rw [bind_run_ok (mapM_lift_ok htickets)]
  rfl

section Access

variable {o : OrderRow} (hrefs : (s.store.orders.map (·.ref)).Nodup) (ho : o ∈ s.store.orders)
  {order : Order} (hload : o.toOrder = .ok order)
include hrefs ho hload

/-- A caller who may not act on an order is refused its cancel before its status is looked at. -/
theorem cancelOrder_forbidden (hnow : s.now.supported = true)
    (hcaller : caller.canAccess o.userId = false) :
    cancelOrder caller o.ref s = .error (.forbidden "Only the buyer can cancel this order") s := by
  obtain ⟨-, huser, -⟩ := OrderRow.toOrder_ok hload
  unfold cancelOrder
  rw [bind_now hnow]
  unfold unitOfWork
  simp only [bind_loadOrder?_run]
  rw [order?_of_refs hrefs ho]
  simp only [hload, huser, hcaller]
  rfl

theorem orderDetail_forbidden (hcaller : caller.canAccess o.userId = false) :
    orderDetail caller o.ref s = .error (.forbidden "Access denied") s := by
  obtain ⟨-, huser, -⟩ := OrderRow.toOrder_ok hload
  unfold orderDetail
  simp only [bind_loadOrder?_run]
  rw [order?_of_refs hrefs ho]
  simp only [hload, huser, hcaller]
  rfl

/-- A caller who may act on an order sees it with its payment and its tickets, read back. -/
theorem orderDetail_allowed (hpayments : (s.store.payments.map (·.order)).Nodup)
    {p : PaymentRow} (hp : p ∈ s.store.payments) (hpaid : p.order = o.ref) {payment : Payment}
    (hpayment : p.toPayment = .ok payment) {tickets : List Ticket}
    (htickets : (s.store.ticketsOf o.ref).mapM TicketRow.toTicket = .ok tickets)
    (hcaller : caller.canAccess o.userId = true) :
    orderDetail caller o.ref s = .ok ⟨order, some payment, tickets⟩ s := by
  obtain ⟨-, huser, -⟩ := OrderRow.toOrder_ok hload
  have hfound : s.store.paymentOf? o.ref = some p := by
    rw [← hpaid]
    exact find?_of_mem hpayments hp
  exact orderDetail_found (order?_of_refs hrefs ho) hload (huser ▸ hcaller) hfound hpayment
    htickets

end Access

end Service


open Tables in
/-- In every store of a run from a fresh store whose seeded locks belong to no order, at a
supported clock, a caller named by an id and any role name is answered in this order. An order
that does not exist is not found, by a cancel and by a look alike. A caller who is neither an
administrator nor the order's buyer is refused, by a cancel and by a look alike. Otherwise a cancel
of an order that is not pending is refused as a domain error naming its status, and a cancel of a
pending order gives it up whole: the order is cancelled, its payment fails and what it held goes
back. A look then answers with the order, its payment and its tickets. Every refusal, and every
look, leaves the session as it was. -/
theorem cancel_and_view_check_in_order {s₀ s : Session} (h0 : s₀.store.Fresh)
    (hforeign : ∀ r ∈ s₀.store.seats, ∀ n, r.holder ≠ some (.placed n)) (h : Reachable s₀ s)
    (hnow : s.now.supported = true) (id : Int) (role : String) (x : OrderRef) :
    ((∀ o ∈ s.store.orders, o.ref ≠ x) →
      cancelOrder (.ofRoleName id role) x s = .error (.notFound "Order not found") s ∧
      orderDetail (.ofRoleName id role) x s = .error (.notFound "Order not found") s) ∧
    ∀ o ∈ s.store.orders, o.ref = x →
      (role ≠ "admin" → id ≠ o.userId →
        cancelOrder (.ofRoleName id role) x s =
          .error (.forbidden "Only the buyer can cancel this order") s ∧
        orderDetail (.ofRoleName id role) x s = .error (.forbidden "Access denied") s) ∧
      (role = "admin" ∨ id = o.userId →
        (o.status ≠ OrderStatus.pending.name →
          cancelOrder (.ofRoleName id role) x s =
            .error (.invalid s!"Cannot cancel order in status {o.status}") s) ∧
        (o.status = OrderStatus.pending.name → ∃ order, o.toOrder = .ok order ∧
          cancelOrder (.ofRoleName id role) x s =
            .ok { order with status := .cancelled, updatedAt := s.now }
              { s with store := s.store.unwind o .cancelled s.now }) ∧
        ∃ order payment tickets, o.toOrder = .ok order ∧
          (∃ p ∈ s.store.payments, p.order = x ∧ p.toPayment = .ok payment) ∧
          (s.store.ticketsOf x).mapM TicketRow.toTicket = .ok tickets ∧
          orderDetail (.ofRoleName id role) x s = .ok ⟨order, some payment, tickets⟩ s) := by
  have hsound := h.sound h0 hforeign
  have hk := hsound.consistent.keyed
  refine ⟨fun hnone => ?missing, fun o ho href => ?found⟩
  case missing =>
    have hmissing : s.store.order? x = none :=
      List.find?_eq_none.2 fun o ho => by simpa using hnone o ho
    exact ⟨cancelOrder_missing hmissing hnow, orderDetail_missing hmissing⟩
  case found =>
    subst href
    -- the order is coupled to its payment, and both statuses are names
    obtain ⟨p, hp, hpaid, -, -, hstatuses⟩ := hsound.consistent.coupled o ho
    obtain ⟨⟨os, hname⟩, ps, hpname⟩ := named_of_coupled hstatuses
    obtain ⟨order, hload⟩ := OrderRow.toOrder_of_name hname
    obtain ⟨tickets, htickets⟩ := mapM_toTicket_ok fun t ht =>
      h.ticketsNamed h0 t (List.mem_filter.1 ht).1
    have haccess := Principal.canAccess_ofRoleName id o.userId role
    refine ⟨fun hrole hid => ?refused, fun hallowed => ⟨fun hsettled => ?settled,
      fun hpending => ?pending, ?view⟩⟩
    case refused =>
      have hcaller : (Principal.ofRoleName id role).canAccess o.userId = false := by
        rw [Bool.eq_false_iff, ne_eq, haccess]
        rintro (hadmin | hbuyer)
        exacts [hrole hadmin, hid hbuyer]
      exact ⟨cancelOrder_forbidden hk.order_refs ho hload hnow hcaller,
        orderDetail_forbidden hk.order_refs ho hload hcaller⟩
    case settled =>
      have hrun := cancelOrder_not_pending hk.order_refs ho hname hsettled hnow
        (.ofRoleName id role)
      rwa [if_pos (haccess.2 hallowed)] at hrun
    case pending =>
      -- neither guard of the cancel can fail: the payment is pending with its order
      have hunpaid := (pending_iff_of_coupled hstatuses).1 hpending
      exact ⟨order, hload, cancelOrder_pending hk ho hpending
        (hsound.unwindable h0.offers_bounded ho hpending) hp hpaid hunpaid hload hnow
        (haccess.2 hallowed)⟩
    case view =>
      have hpayment := PaymentRow.toPayment_of_name hpname
      exact ⟨order, _, tickets, hload, ⟨p, hp, hpaid, hpayment⟩, htickets,
        orderDetail_allowed hk.order_refs ho hload hk.payment_orders hp hpaid hpayment htickets
          (haccess.2 hallowed)⟩

/-- A seller who did not place the one order of a run is refused its cancel and its look. -/
theorem cancel_and_view_check_in_order_for_seller :
    let s₀ := Session.start { offers := [⟨1, 1, 1, "Floor", ⟨0⟩, 10, 0⟩],
                              seats := [⟨1, 1, 1, "available", none, none⟩] } ⟨0⟩
    let rules : CheckoutRules := ⟨{}, .finite false 0 0, 15, "usd", .local⟩
    let s := ({ s₀ with now := ⟨0⟩ }.perform
      (.placeOrder rules ⟨1, .buyer⟩ [{ offerId := 1, seatId := some 1 }])).2
    s₀.store.Fresh ∧ (∀ r ∈ s₀.store.seats, ∀ n, r.holder ≠ some (.placed n)) ∧ Reachable s₀ s ∧
      s.now.supported = true ∧
      ((∀ o ∈ s.store.orders, o.ref ≠ .placed 1) →
        cancelOrder (.ofRoleName 2 "seller") (.placed 1) s =
          .error (.notFound "Order not found") s ∧
        orderDetail (.ofRoleName 2 "seller") (.placed 1) s =
          .error (.notFound "Order not found") s) ∧
      ∀ o ∈ s.store.orders, o.ref = .placed 1 →
        ("seller" ≠ "admin" → (2 : Int) ≠ o.userId →
          cancelOrder (.ofRoleName 2 "seller") (.placed 1) s =
            .error (.forbidden "Only the buyer can cancel this order") s ∧
          orderDetail (.ofRoleName 2 "seller") (.placed 1) s =
            .error (.forbidden "Access denied") s) ∧
        ("seller" = "admin" ∨ (2 : Int) = o.userId →
          (o.status ≠ OrderStatus.pending.name →
            cancelOrder (.ofRoleName 2 "seller") (.placed 1) s =
              .error (.invalid s!"Cannot cancel order in status {o.status}") s) ∧
          (o.status = OrderStatus.pending.name → ∃ order, o.toOrder = .ok order ∧
            cancelOrder (.ofRoleName 2 "seller") (.placed 1) s =
              .ok { order with status := .cancelled, updatedAt := s.now }
                { s with store := s.store.unwind o .cancelled s.now }) ∧
          ∃ order payment tickets, o.toOrder = .ok order ∧
            (∃ p ∈ s.store.payments, p.order = .placed 1 ∧ p.toPayment = .ok payment) ∧
            (s.store.ticketsOf (.placed 1)).mapM TicketRow.toTicket = .ok tickets ∧
            orderDetail (.ofRoleName 2 "seller") (.placed 1) s =
              .ok ⟨order, some payment, tickets⟩ s) :=
  have hfresh : Tables.Fresh _ := ⟨by decide, by decide, by decide, rfl, rfl, rfl⟩
  have hforeign : ∀ r ∈ _, ∀ n, SeatRow.holder r ≠ some (.placed n) := by simp [Session.start]
  have hrun : Reachable _ _ := .step (c := .placeOrder ⟨{}, .finite false 0 0, 15, "usd", .local⟩
    ⟨1, .buyer⟩ [{ offerId := 1, seatId := some 1 }]) ⟨0⟩ trivial .start
  have hnow : Instant.supported _ = true := by decide +kernel
  ⟨hfresh, hforeign, hrun, hnow,
    cancel_and_view_check_in_order hfresh hforeign hrun hnow 2 "seller" (.placed 1)⟩

end TicketCheckout
