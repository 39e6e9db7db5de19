import TicketCheckout.Proofs.Keys

/-!
# Commits as moves of the records

`Commit` lists the units of work as the code runs them; `Tables.Move` says what each does to a
store with unique keys, with every guard read off as a fact about the rows:

* a placed cart appends one pending order and one pending payment of that order, under keys no
  row has, after reserving its lines;
* a pending order and its pending payment leave pending together (`Tables.PairMoved`): both
  succeed, and the order's seats are sold and its tickets stored; or the payment fails, the order
  fails or is cancelled, and what its lines hold is given back;
* the sweep returns expired seat locks.

`Commit.move` proves that every commit from a store with unique keys is such a move, and
`Move.keyed` that every move keeps the keys unique. From there an invariant of runs from a fresh
store needs only one case per kind of move (`Reachable.invariant`), and so does a relation
between a store of a run and a later one (`Reachable.relate`).
-/

namespace TicketCheckout

open Store Number

@[simp] theorem OrderStatus.name_inj {a b : OrderStatus} : a.name = b.name ↔ a = b := by
  cases a <;> cases b <;> decide

@[simp] theorem PaymentStatus.name_inj {a b : PaymentStatus} : a.name = b.name ↔ a = b := by
  cases a <;> cases b <;> decide

@[simp] theorem SeatStatus.name_inj {a b : SeatStatus} : a.name = b.name ↔ a = b := by
  cases a <;> cases b <;> decide

namespace Store

/-! ## Rows and entities -/

/-- Storing an order keeps its key, buyer, status, currency and expiry, and stores its amounts
and lines. -/
theorem orderRow_ok {o : Order} {row : OrderRow} (h : orderRow o = .ok row) :
    row.ref = o.ref ∧ row.userId = o.userId ∧ row.status = o.status.name ∧
      row.currency = o.currency ∧ row.expiresAt = o.expiresAt ∧
      storeAmount o.subtotal = .ok row.subtotal ∧ storeAmount o.total = .ok row.total ∧
      o.lines.mapM lineRow = .ok row.lines := by
  unfold orderRow at h
  cases hs : storeAmount o.subtotal <;> cases hf : storeAmount o.serviceFee <;>
    cases ht : storeAmount o.total <;> cases hl : o.lines.mapM lineRow <;>
    simp only [hs, hf, ht, hl, bind, Except.bind, pure, Except.pure, reduceCtorEq] at h
  cases h
  exact ⟨rfl, rfl, rfl, rfl, rfl, rfl, rfl, rfl⟩

/-- A placed order is pending, under the reference, buyer, lines, currency and expiry it was
placed with, and priced by its lines. -/
theorem Order.place_ok {ref : OrderRef} {userId : Int} {lines : List OrderLine} {fee : Decimal}
    {currency : String} {expiresAt now : Instant} {o : Order}
    (h : Order.place ref userId lines fee currency expiresAt now = .ok o) :
    ∃ p, Pricing.ofLines fee lines = .ok p ∧
      o = { ref, userId, subtotal := p.subtotal, serviceFee := p.serviceFee, total := p.total,
            currency, expiresAt, status := .pending, lines, createdAt := now, updatedAt := now,
            completedAt := none } := by
  unfold Order.place at h
  cases hp : Pricing.ofLines fee lines with
  | error => simp [hp, bind, Except.bind] at h
  | ok p =>
    simp only [hp, bind, Except.bind, pure, Except.pure, Except.ok.injEq] at h
    exact ⟨p, rfl, h.symm⟩

/-- Storing a line keeps what it holds of the inventory, and stores its price. -/
theorem lineRow_ok {l : OrderLine} {r : LineRow} (h : lineRow l = .ok r) :
    r.offerId = l.offerId ∧ r.eventId = l.eventId ∧ r.tierId = l.tierId ∧ r.seatId = l.seatId ∧
      r.quantity = l.quantity ∧ storeAmount l.unitPrice = .ok r.unitPrice := by
  unfold lineRow at h
  cases hp : storeAmount l.unitPrice with
  | error => simp [hp, bind, Except.bind] at h
  | ok price =>
    simp only [hp, bind, Except.bind, pure, Except.pure, Except.ok.injEq] at h
    subst h
    exact ⟨rfl, rfl, rfl, rfl, rfl, rfl⟩

/-- A list mapped without failure gives each member's result, in order. -/
theorem forall₂_of_mapM_ok {α β ε : Type} {f : α → Except ε β} {l : List α} {rs : List β}
    (h : l.mapM f = .ok rs) : List.Forall₂ (fun a b => f a = .ok b) l rs := by
  induction l generalizing rs with
  | nil =>
    cases h
    exact .nil
  | cons a rest ih =>
    rw [List.mapM_cons] at h
    cases ha : f a with
    | error => simp [ha, bind, Except.bind] at h
    | ok b =>
      cases hrest : rest.mapM f with
      | error => simp [ha, hrest, bind, Except.bind] at h
      | ok bs =>
        simp only [ha, hrest, bind, Except.bind, pure, Except.pure, Except.ok.injEq] at h
        subst h
        exact .cons ha (ih hrest)

theorem lineRows_forall₂ {ls : List OrderLine} {rows : List LineRow}
    (h : ls.mapM lineRow = .ok rows) : List.Forall₂ (fun l r => lineRow l = .ok r) ls rows :=
  forall₂_of_mapM_ok h

/-- Reading an order row keeps its key, buyer, status, expiry and lines. -/
theorem OrderRow.toOrder_ok {r : OrderRow} {o : Order} (h : r.toOrder = .ok o) :
    o.ref = r.ref ∧ o.userId = r.userId ∧ o.status.name = r.status ∧ o.expiresAt = r.expiresAt ∧
      o.subtotal = readAmount r.subtotal ∧ o.lines = r.lines.map LineRow.toLine := by
  unfold OrderRow.toOrder readStatus at h
  cases hs : OrderStatus.ofName? r.status with
  | none => simp [hs, bind, Except.bind] at h
  | some s =>
    simp only [hs, bind, Except.bind, pure, Except.pure, Except.ok.injEq] at h
    subst h
    have hname := List.find?_some hs
    simp only [beq_iff_eq] at hname
    exact ⟨rfl, rfl, hname, rfl, rfl, rfl⟩

@[simp] theorem OrderRow.withStatus_ref (target : OrderStatus) (now : Instant) (o : OrderRow) :
    (o.withStatus target now).ref = o.ref := rfl

@[simp] theorem OrderRow.withStatus_lines (target : OrderStatus) (now : Instant) (o : OrderRow) :
    (o.withStatus target now).lines = o.lines := rfl

@[simp] theorem OrderRow.withStatus_status (target : OrderStatus) (now : Instant) (o : OrderRow) :
    (o.withStatus target now).status = target.name := rfl

@[simp] theorem OrderRow.withStatus_expiresAt (target : OrderStatus) (now : Instant)
    (o : OrderRow) : (o.withStatus target now).expiresAt = o.expiresAt := rfl

@[simp] theorem PaymentRow.withStatus_order (target : PaymentStatus) (q : PaymentRow) :
    (q.withStatus target).order = q.order := rfl

@[simp] theorem PaymentRow.withStatus_reference (target : PaymentStatus) (q : PaymentRow) :
    (q.withStatus target).reference = q.reference := rfl

@[simp] theorem PaymentRow.withStatus_status (target : PaymentStatus) (q : PaymentRow) :
    (q.withStatus target).status = target.name := rfl

/-! ## Moves -/

/-- A pending order `o` and its pending payment `p` leave pending together: the payment moves to
`pay` and the order to `target` at `now`; no other order or payment changes, and nothing else
does. -/
structure Tables.PairMoved (st st' : Tables) (o : OrderRow) (p : PaymentRow)
    (target : OrderStatus) (pay : PaymentStatus) (now : Instant) : Prop where
  order_pending : o.status = OrderStatus.pending.name
  payment_pending : p.status = PaymentStatus.pending.name
  payment_order : p.order = o.ref
  orders : ∃ pre post, st.orders = pre ++ o :: post ∧ (∀ x ∈ pre ++ post, x.ref ≠ o.ref) ∧
    st'.orders = pre ++ o.withStatus target now :: post
  payments : ∃ pre post, st.payments = pre ++ p :: post ∧
    st'.payments = pre ++ p.withStatus pay :: post
  offers : st'.offers = st.offers
  seats : st'.seats = st.seats
  tickets : st'.tickets = st.tickets

namespace Tables

variable {st st₁ st₂ : Tables}

/-- A payment settled out of pending, followed by the move of its order, makes the two leave
pending together. -/
theorem pairMoved_of_settled (hk : st.Keyed) {pre post : List PaymentRow} {p : PaymentRow}
    {pay : PaymentStatus} {target : OrderStatus} {now : Instant}
    (hsplit : st.payments = pre ++ p :: post) (hpending : p.status = PaymentStatus.pending.name)
    (hst₁ : st₁ = { st with payments := pre ++ p.withStatus pay :: post })
    (horder : st₁.moveOrder p.order target now = (st₂, true)) :
    ∃ o ∈ st.orders, o.ref = p.order ∧ st.PairMoved st₂ o p target pay now := by
  have hk₁ : (st₁.orders.map (·.ref)).Nodup := by
    rw [hst₁]
    exact hk.order_refs
  obtain ⟨opre, o, opost, hosplit, href, hopending, hothers, rfl⟩ := moveOrder_split hk₁ horder
  subst hst₁
  have ho : o ∈ st.orders := by
    rw [show st.orders = opre ++ o :: opost from hosplit]
    exact List.mem_append_right _ List.mem_cons_self
  refine ⟨o, ho, href, hopending, hpending, href.symm, ?_, ⟨pre, post, hsplit, rfl⟩, rfl, rfl,
    rfl⟩
  exact ⟨opre, opost, hosplit, href ▸ hothers, rfl⟩

/-- Pairs that leave pending keep every key unique. -/
theorem Keyed.pairMoved (hk : st.Keyed) {o : OrderRow} {p : PaymentRow} {target : OrderStatus}
    {pay : PaymentStatus} {now : Instant} (h : st.PairMoved st₁ o p target pay now) :
    st₁.Keyed := by
  obtain ⟨opre, opost, hosplit, -, hst₁o⟩ := h.orders
  obtain ⟨ppre, ppost, hpsplit, hst₁p⟩ := h.payments
  have horders : st₁.orders.map (·.ref) = st.orders.map (·.ref) := by
    simp [hst₁o, hosplit]
  have horders' : st₁.payments.map (·.order) = st.payments.map (·.order) := by
    simp [hst₁p, hpsplit]
  have hreferences : st₁.payments.map (·.reference) = st.payments.map (·.reference) := by
    simp [hst₁p, hpsplit]
  exact ⟨h.offers ▸ hk.offer_ids, h.seats ▸ hk.seat_places, horders ▸ hk.order_refs,
    horders' ▸ hk.payment_orders, hreferences ▸ hk.payment_references⟩

/-- What a commit from a store with unique keys does, with what it found on the way. -/
inductive Move : Tables → Tables → Prop
  /-- A valid cart's lines are reserved for a new order, which is stored pending, with its pending
  payment, under keys no row has yet. -/
  | place {st st₁ : Tables} {limits : CartLimits} {lines : List CartLine} {n : Nat}
      {expiresAt now : Instant} {ls : List OrderLine} {userId : Int} {fee : Decimal}
      {currency : String} {order : Order} {row : OrderRow} {payment : PaymentRow}
      (hcart : validateCart limits lines = .ok ())
      (hreserve : Reserved (.placed n) expiresAt lines st ls st₁)
      (hprice : Order.place (.placed n) userId ls fee currency expiresAt now = .ok order)
      (hrow : orderRow order = .ok row)
      (hfresh : ∀ o ∈ st₁.orders, o.ref ≠ row.ref)
      (hcharge : storeAmount order.total = .ok payment.amountCharged)
      (hpayment : payment.order = .placed n ∧ payment.status = PaymentStatus.pending.name ∧
        payment.currency = order.currency)
      (hpfresh : ∀ q ∈ st₁.payments, q.order ≠ payment.order ∧ q.reference ≠ payment.reference) :
      Move st { st₁ with orders := st₁.orders ++ [row], payments := st₁.payments ++ [payment] }
  /-- A pending order and its payment succeed together; the seat lines the order holds are
  sold, one row each, and the order's tickets are stored. -/
  | complete {st st₁ st₂ : Tables} {o : OrderRow} {p : PaymentRow} {now : Instant}
      {order order' : Order} {first : Nat} {tickets : List TicketRow}
      (hmoved : st.PairMoved st₁ o p .completed .succeeded now)
      (hload : o.toOrder = .ok order) (hmove : order.moveTo .complete now = .ok order')
      (hsell : st₁.updateSeats (fun r => (Service.orderSeats order').any (fun q => r.isAt q.1 q.2) &&
          r.status == SeatStatus.locked.name && r.holder == some o.ref) (SeatRow.sell o.ref) =
        (st₂, (Service.orderSeats order').length))
      (hrows : (order'.issueTickets now first).mapM ticketRow = .ok tickets) :
      Move st { st₂ with tickets := st₂.tickets ++ tickets }
  /-- A pending order fails or is cancelled together with its payment, and gives back what its
  lines hold. -/
  | release {st st₁ st₂ : Tables} {o : OrderRow} {p : PaymentRow} {target : OrderStatus}
      {now : Instant} (hmoved : st.PairMoved st₁ o p target .failed now)
      (htarget : target = .failed ∨ target = .cancelled)
      (hrelease : Released o.ref (o.lines.map LineRow.toLine) st₁ st₂) : Move st st₂
  /-- Expired seat locks of orders that are not pending are returned. -/
  | releaseLocks (st : Tables) (now : Instant) : Move st (st.releaseExpiredLocks now).1

end Tables

end Store

namespace Store.Tables

variable {α κ : Type} {st st' : Tables}

/-- A row appended under a fresh key keeps the keys unique. -/
theorem nodup_map_append {key : α → κ} {l : List α} {x : α} (hl : (l.map key).Nodup)
    (hx : ∀ y ∈ l, key y ≠ key x) : ((l ++ [x]).map key).Nodup := by
  rw [List.map_append, List.nodup_append]
  refine ⟨hl, by simp, ?_⟩
  intro a ha b hb
  obtain ⟨y, hy, rfl⟩ := List.mem_map.1 ha
  rw [List.map_singleton, List.mem_singleton] at hb
  exact hb ▸ hx y hy

/-- Every move keeps the keys unique. -/
theorem Move.keyed (hk : st.Keyed) (h : Move st st') : st'.Keyed := by
  cases h with
  | place _ hreserve _ _ hfresh _ _ hpfresh =>
    have hk₁ := hk.restock hreserve.restock
    exact ⟨hk₁.offer_ids, hk₁.seat_places, nodup_map_append hk₁.order_refs hfresh,
      nodup_map_append hk₁.payment_orders fun q hq => (hpfresh q hq).1,
      nodup_map_append hk₁.payment_references fun q hq => (hpfresh q hq).2⟩
  | complete hmoved _ _ hsell _ =>
    have hk₂ := (hk.pairMoved hmoved).restock
      (updateSeats_restock_of_eq (SeatRow.sell_place _) hsell)
    exact ⟨hk₂.offer_ids, hk₂.seat_places, hk₂.order_refs, hk₂.payment_orders,
      hk₂.payment_references⟩
  | release hmoved _ hrelease => exact (hk.pairMoved hmoved).restock hrelease.restock
  | releaseLocks now => exact hk.restock (releaseExpiredLocks_restock now)

end Store.Tables

open Tables in
/-- Every commit from a store with unique keys is a `Move`. -/
theorem Commit.move {st st' : Tables} (hk : st.Keyed) (h : Commit st st') : Move st st' := by
  cases h with
  | place hcart hreserve hprice hrow horder hcharge hpayment hpay =>
    obtain ⟨rfl, hfresh⟩ := insertOrder_ok horder
    obtain ⟨rfl, hpfresh⟩ := insertPayment_ok hpay
    exact .place hcart hreserve hprice hrow hfresh hcharge hpayment hpfresh
  | complete hpay hrow hload hmove horder hseats hrows hissue =>
    obtain ⟨ppre, p, ppost, hsplit, -, hpending, rfl, hst₁⟩ :=
      settleByReference_split hk.payment_references hpay
    obtain ⟨o, ho, href, hmoved⟩ := pairMoved_of_settled hk hsplit hpending hst₁ horder
    -- the row the unit of work loaded is the order that moved
    rw [hst₁, ← href] at hrow
    obtain rfl := Option.some.inj (hrow.symm.trans (hk.order?_of_mem ho))
    rw [← href] at hseats
    obtain ⟨rfl⟩ := insertTickets_ok hissue
    exact .complete hmoved hload hmove (markSeatsSold_ok hseats).symm hrows
  | fail hpay hrow hload horder hrelease =>
    obtain ⟨ppre, p, ppost, hsplit, -, hpending, rfl, hst₁⟩ :=
      settleByReference_split hk.payment_references hpay
    obtain ⟨o, ho, href, hmoved⟩ := pairMoved_of_settled hk hsplit hpending hst₁ horder
    rw [hst₁, ← href] at hrow
    obtain rfl := Option.some.inj (hrow.symm.trans (hk.order?_of_mem ho))
    obtain ⟨horef, -, -, -, -, hlines⟩ := OrderRow.toOrder_ok hload
    rw [horef, hlines] at hrelease
    exact .release hmoved (.inl rfl) hrelease
  | cancel hrow hload hmove hpay horder hrelease =>
    obtain ⟨ppre, p, ppost, hsplit, rfl, hpending, hst₁⟩ := settleOf_split hk.payment_orders hpay
    obtain ⟨o, ho, href, hmoved⟩ := pairMoved_of_settled hk hsplit hpending hst₁ horder
    rw [← href] at hrow
    obtain rfl := Option.some.inj (hrow.symm.trans (hk.order?_of_mem ho))
    obtain ⟨horef, -, -, -, -, hlines⟩ := OrderRow.toOrder_ok hload
    rw [horef, hlines] at hrelease
    exact .release hmoved (.inr rfl) hrelease
  | expire hpay horder hrelease =>
    obtain ⟨ppre, p, ppost, hsplit, rfl, hpending, hst₁⟩ := settleOf_split hk.payment_orders hpay
    obtain ⟨o, ho, href, hmoved⟩ := pairMoved_of_settled hk hsplit hpending hst₁ horder
    -- the sweep reloads the order after its move: it finds the moved row
    have hfound : _ = some (o.withStatus .cancelled _) :=
      (hk.pairMoved hmoved).order?_of_mem (by
        obtain ⟨pre, post, -, -, hst₂⟩ := hmoved.orders
        rw [hst₂]
        exact List.mem_append_right _ List.mem_cons_self)
    rw [OrderRow.withStatus_ref, href] at hfound
    rcases hrelease with ⟨hnone, -⟩ | ⟨row, order, hrow, hload, hrelease⟩
    · rw [hfound] at hnone
      cases hnone
    · obtain rfl := Option.some.inj (hrow.symm.trans hfound)
      obtain ⟨horef, -, -, -, -, hlines⟩ := OrderRow.toOrder_ok hload
      rw [horef, hlines, OrderRow.withStatus_ref, OrderRow.withStatus_lines] at hrelease
      exact .release hmoved (.inr rfl) hrelease
  | releaseLocks now => exact .releaseLocks _ now

/-! ## Runs as moves -/

namespace Reachable

variable {s₀ s s' : Session}

/-- Every store of a run from a fresh store has unique keys. -/
theorem keyed (h0 : s₀.store.Fresh) (h : Reachable s₀ s) : s.store.Keyed :=
  Commit.chain_invariant (fun hk hc => (hc.move hk).keyed hk) h.commits h0.keyed

/-- A property of stores that holds of the fresh store a run starts from, and that every move
from a store with unique keys keeps, holds all along the run. -/
theorem invariant {I : Tables → Prop} (h0 : s₀.store.Fresh) (hI : I s₀.store)
    (keep : ∀ {a b}, a.Keyed → I a → Tables.Move a b → I b) (h : Reachable s₀ s) :
    I s.store :=
  (Commit.chain_invariant (I := fun st => st.Keyed ∧ I st)
    (fun hki hc => ⟨(hc.move hki.1).keyed hki.1, keep hki.1 hki.2 (hc.move hki.1)⟩)
    h.commits ⟨h0.keyed, hI⟩).2

/-- A reflexive and transitive relation that every move makes from a store of a run links each
store of the run to every later one. -/
theorem relate {I : Tables → Prop} {R : Tables → Tables → Prop} (h0 : s₀.store.Fresh)
    (hI : I s₀.store) (keep : ∀ {a b}, a.Keyed → I a → Tables.Move a b → I b)
    (make : ∀ {a b}, a.Keyed → I a → Tables.Move a b → R a b) (refl : ∀ a, R a a)
    (trans : ∀ {a b c}, R a b → R b c → R a c) (h : Reachable s₀ s) (h' : Reachable s s') :
    R s.store s'.store :=
  Commit.chain_relate (I := fun st => st.Keyed ∧ I st)
    (fun hki hc => ⟨(hc.move hki.1).keyed hki.1, keep hki.1 hki.2 (hc.move hki.1)⟩)
    (fun hki hc => make hki.1 hki.2 (hc.move hki.1)) refl trans h'.commits
    ⟨h.keyed h0, h.invariant h0 hI keep⟩

end Reachable

end TicketCheckout
