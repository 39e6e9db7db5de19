import TicketCheckout.Store.Tables

/-!
# Order and payment records

The guarded moves of orders and payments. An order moves only from pending: its status and its
update time change, and completing also sets its completion time. A payment moves only from
pending, found either by its reference at the processor or by its order. Expired pending orders
are listed by expiry, earliest first, in insertion order among equal expiries.

An order can also be renamed: every row that refers to it then refers to the new name.

Main statement: `moveOrder_not_pending` (an order that is not pending does not move).
-/

namespace TicketCheckout.Store

namespace Tables

/-- Moves a pending order to `target` at `now`; tells whether it moved. -/
def moveOrder (s : Tables) (ref : OrderRef) (target : OrderStatus) (now : Instant) :
    Tables × Bool :=
  let guard (o : OrderRow) : Bool := o.ref == ref && o.status == OrderStatus.pending.name
  if s.orders.any guard then
    ({ s with orders := s.orders.map fun o =>
        if guard o then
          { o with status := target.name, updatedAt := now,
                   completedAt := if target == .completed then some now else o.completedAt }
        else o }, true)
  else (s, false)

/-- Moves the pending payment with a reference to `target`; gives its order when it moved. -/
def settleByReference (s : Tables) (reference : String) (target : PaymentStatus) :
    Tables × Option OrderRef :=
  let guard (p : PaymentRow) : Bool :=
    p.reference == reference && p.status == PaymentStatus.pending.name
  match s.payments.find? guard with
  | some p =>
    ({ s with payments := s.payments.map fun q => if guard q then { q with status := target.name }
                                                  else q }, some p.order)
  | none => (s, none)

/-- Moves the pending payment of an order to `target`; tells whether it moved. -/
def settleOf (s : Tables) (ref : OrderRef) (target : PaymentStatus) : Tables × Bool :=
  let guard (p : PaymentRow) : Bool := p.order == ref && p.status == PaymentStatus.pending.name
  if s.payments.any guard then
    ({ s with payments := s.payments.map fun q => if guard q then { q with status := target.name }
                                                  else q }, true)
  else (s, false)

/-- At most `limit` pending orders whose window closed before `now`, earliest expiry first; a
negative limit means no limit, and one beyond 64 bits fails. -/
def expiredPending (s : Tables) (now : Instant) (limit : Int) : Except Failure (List OrderRef) := do
  bindIntegers [limit]
  let due := s.orders.filter fun o =>
    o.status == OrderStatus.pending.name && decide (o.expiresAt < now)
  let sorted := due.mergeSort fun a b => decide (a.expiresAt ≤ b.expiresAt)
  let refs := sorted.map (·.ref)
  pure (if limit < 0 then refs else refs.take limit.toNat)

/-- The orders the store refers to, each once: by order, seat lock, payment and ticket rows. -/
def orderRefs (s : Tables) : List OrderRef :=
  (s.orders.map (·.ref) ++ s.seats.filterMap (·.holder) ++ s.payments.map (·.order) ++
    s.tickets.map (·.order)).eraseDups

/-- Renames an order in every row that refers to it. -/
def renameOrder (s : Tables) (old new : OrderRef) : Tables :=
  let swap (r : OrderRef) : OrderRef := if r == old then new else r
  { s with
    orders := s.orders.map fun o => { o with ref := swap o.ref }
    seats := s.seats.map fun r => { r with holder := r.holder.map swap }
    payments := s.payments.map fun p => { p with order := swap p.order }
    tickets := s.tickets.map fun t => { t with order := swap t.order } }

theorem moveOrder_not_pending (s : Tables) (ref : OrderRef) (target : OrderStatus) (now : Instant)
    (h : ∀ o ∈ s.orders, o.ref = ref → o.status ≠ OrderStatus.pending.name) :
    s.moveOrder ref target now = (s, false) := by
  have : s.orders.any (fun o => o.ref == ref && o.status == OrderStatus.pending.name) = false := by
    simp only [List.any_eq_false, Bool.and_eq_true, beq_iff_eq, not_and]
    exact h
  simp [moveOrder, this]

end Tables

end TicketCheckout.Store
