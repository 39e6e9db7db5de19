import TicketCheckout.Proofs.Sweep

/-!
# Reading a placed order back

The store keeps an amount as a binary64 number and gives it back with two decimals. An amount in
cents below `2 ^ 46` in magnitude comes back with its digits, but a zero loses its sign
(`Decimal.unsignZero`): a negative zero is stored as the number zero. So an order reads back as
`Order.asStored`, the order with the sign of every zero amount dropped, which is the order itself
unless one of its amounts is a negative zero (`Order.asStored_eq_self`), and which has the same
values in any case (`Decimal.value_unsignZero`).

Main statement: `placed_order_reads_back`. Right after an order is placed, its buyer's look at it
finds it as stored, with its pending payment charging its total and no tickets; and once the
success of that payment is reported, the look lists exactly the tickets the report issued, in
the order they were issued. The second half holds of any order found with its pending payment
and no tickets yet (`finalized_order_lists_issued_tickets`): the report moves the order and the
payment in place, under their keys (`find?_map_ite`), and appends the ticket rows, which read
back as the tickets (`ticketRows_toTicket`).
-/

namespace TicketCheckout

open Number Store

/-! ## Amounts as the store gives them back -/

namespace Number.Decimal

/-- An amount with the sign of a zero dropped: what the store gives back for an amount it keeps
exactly. -/
def unsignZero : Decimal → Decimal
  | .finite s c e => .finite (s && c != 0) c e
  | d => d

/-- Dropping the sign of a zero keeps the value. -/
theorem value_unsignZero (d : Decimal) : d.unsignZero.value = d.value := by
  cases d with
  | finite s c e =>
    by_cases hc : c = 0
    · subst hc
      simp [unsignZero, value, signed_zero]
    · have hkeep : (s && c != 0) = s := by simp [hc]
      simp only [unsignZero, hkeep]
  | infinite => rfl
  | nan => rfl

/-- Only a negative zero loses anything. -/
theorem unsignZero_eq_self {d : Decimal} (h : ∀ e, d ≠ .finite true 0 e) : d.unsignZero = d := by
  cases d with
  | finite s c e =>
    cases s
    · rfl
    · have hc : c ≠ 0 := fun hc => h e (by rw [hc])
      simp [unsignZero, hc]
  | infinite => rfl
  | nan => rfl

instance (d : Decimal) : Decidable d.StoredExactly :=
  match d with
  | .finite s c e =>
    if h : e = -2 ∧ c < 100 * 2 ^ 46 then isTrue ⟨s, c, by rw [h.1], h.2⟩
    else isFalse fun ⟨_, _, heq, hc⟩ => by
      cases heq
      exact h ⟨rfl, hc⟩
  | .infinite _ => isFalse fun ⟨_, _, heq, _⟩ => nomatch heq
  | .nan .. => isFalse fun ⟨_, _, heq, _⟩ => nomatch heq

theorem readAmount_of_storedExactly {d : Decimal} (hd : d.StoredExactly) {x : Binary64}
    (h : storeAmount d = .ok x) : readAmount x = d.unsignZero := by
  obtain ⟨s, c, rfl, hc⟩ := hd
  cases h
  exact readAmount_ofDecimal_cents s hc

theorem StoredExactly.unsignZero {d : Decimal} (hd : d.StoredExactly) :
    d.unsignZero.StoredExactly := by
  obtain ⟨s, c, rfl, hc⟩ := hd
  exact ⟨_, c, rfl, hc⟩

@[simp] theorem unsignZero_unsignZero (d : Decimal) : d.unsignZero.unsignZero = d.unsignZero := by
  cases d with
  | finite s c e => simp [unsignZero]
  | infinite => rfl
  | nan => rfl

theorem readAmount_of_unsignZero {d : Decimal} (hd : d.StoredExactly) {x : Binary64}
    (h : storeAmount d.unsignZero = .ok x) : readAmount x = d.unsignZero :=
  (readAmount_of_storedExactly hd.unsignZero h).trans (unsignZero_unsignZero d)

end Number.Decimal

open Number.Decimal

/-- An order line as the store gives it back. -/
def OrderLine.asStored (l : OrderLine) : OrderLine := { l with unitPrice := l.unitPrice.unsignZero }

/-- An order as the store gives it back: its amounts without the sign of a zero. -/
def Order.asStored (o : Order) : Order :=
  { o with subtotal := o.subtotal.unsignZero, serviceFee := o.serviceFee.unsignZero,
           total := o.total.unsignZero, lines := o.lines.map OrderLine.asStored }

/-- Every amount of an order is in cents and below `2 ^ 46` in magnitude: the store keeps each
of them exactly. -/
def Order.AmountsExact (o : Order) : Prop :=
  o.subtotal.StoredExactly ∧ o.serviceFee.StoredExactly ∧ o.total.StoredExactly ∧
    ∀ l ∈ o.lines, l.unitPrice.StoredExactly

instance (o : Order) : Decidable o.AmountsExact := by
  unfold Order.AmountsExact
  infer_instance

/-- An order none of whose amounts is a negative zero reads back as itself. -/
theorem Order.asStored_eq_self {o : Order}
    (h : ∀ e, o.subtotal ≠ .finite true 0 e ∧ o.serviceFee ≠ .finite true 0 e ∧
      o.total ≠ .finite true 0 e ∧ ∀ l ∈ o.lines, l.unitPrice ≠ .finite true 0 e) :
    o.asStored = o := by
  have hlines : o.lines.map OrderLine.asStored = o.lines := by
    conv_rhs => rw [← List.map_id o.lines]
    refine List.map_congr_left fun l hl => ?_
    simp only [OrderLine.asStored, unsignZero_eq_self fun e => (h e).2.2.2 l hl, id]
  simp only [Order.asStored, hlines, unsignZero_eq_self fun e => (h e).1,
    unsignZero_eq_self fun e => (h e).2.1, unsignZero_eq_self fun e => (h e).2.2.1]

/-! ## Rows read back -/

theorem lineRow_toLine {l : OrderLine} (hl : l.unitPrice.StoredExactly) {r : LineRow}
    (h : lineRow l = .ok r) : r.toLine = l.asStored := by
  obtain ⟨hoffer, hevent, htier, hseat, hq, hprice⟩ := lineRow_ok h
  simp only [LineRow.toLine, OrderLine.asStored, hoffer, hevent, htier, hseat, hq,
    readAmount_of_storedExactly hl hprice]

/-- Lines whose prices the store keeps exactly read back as stored, in order. -/
theorem lineRows_toLine {ls : List OrderLine} (hls : ∀ l ∈ ls, l.unitPrice.StoredExactly)
    {rows : List LineRow} (h : ls.mapM lineRow = .ok rows) :
    rows.map LineRow.toLine = ls.map OrderLine.asStored := by
  have hrel := forall₂_of_mapM_ok h
  clear h
  induction hrel with
  | nil => rfl
  | @cons l r ls rows hlr _ ih =>
    simp only [List.map_cons, lineRow_toLine (hls l List.mem_cons_self) hlr,
      ih fun l hl => hls l (List.mem_cons_of_mem _ hl)]

/-- An order whose amounts the store keeps exactly reads back as stored. -/
theorem orderRow_toOrder {o : Order} (ho : o.AmountsExact) {row : OrderRow}
    (h : orderRow o = .ok row) : row.toOrder = .ok o.asStored := by
  obtain ⟨⟨s₁, c₁, hsub, hc₁⟩, ⟨s₂, c₂, hfee, hc₂⟩, ⟨s₃, c₃, htotal, hc₃⟩, hprices⟩ := ho
  unfold orderRow at h
  cases hlines : o.lines.mapM lineRow with
  | error e => simp [hsub, hfee, htotal, storeAmount, hlines, bind, Except.bind] at h
  | ok rows =>
    simp only [hsub, hfee, htotal, storeAmount, hlines, bind, Except.bind, pure, Except.pure,
      Except.ok.injEq] at h
    subst h
    simp only [OrderRow.toOrder, readStatus, OrderStatus.ofName?_name,
      readAmount_ofDecimal_cents _ hc₁, readAmount_ofDecimal_cents _ hc₂,
      readAmount_ofDecimal_cents _ hc₃, lineRows_toLine hprices hlines, Order.asStored, hsub,
      hfee, htotal, unsignZero, bind, Except.bind, pure, Except.pure]

/-- A ticket whose price comes back as it is reads back from its row. -/
theorem ticketRow_toTicket {t : Ticket} {r : TicketRow} (h : ticketRow t = .ok r)
    (hprice : ∀ x, storeAmount t.pricePaid = .ok x → readAmount x = t.pricePaid) :
    r.toTicket = .ok t := by
  unfold ticketRow at h
  cases hp : storeAmount t.pricePaid with
  | error => simp [hp, bind, Except.bind] at h
  | ok x =>
    simp only [hp, bind, Except.bind, pure, Except.pure, Except.ok.injEq] at h
    subst h
    simp only [TicketRow.toTicket, readStatus, TicketStatus.ofName?_name, hprice x hp, bind,
      Except.bind, pure, Except.pure]

/-- Tickets whose prices come back as they are read back from their rows, in order. -/
theorem ticketRows_toTicket {tickets : List Ticket} {rows : List TicketRow}
    (hrows : tickets.mapM ticketRow = .ok rows)
    (hprices : ∀ t ∈ tickets, ∀ x, storeAmount t.pricePaid = .ok x → readAmount x = t.pricePaid) :
    rows.mapM TicketRow.toTicket = .ok tickets := by
  have hrel := forall₂_of_mapM_ok hrows
  clear hrows
  induction hrel with
  | nil => rfl
  | @cons t r ts rs htr _ ih =>
    rw [List.mapM_cons, ticketRow_toTicket htr (hprices t List.mem_cons_self),
      ih fun t' ht' => hprices t' (List.mem_cons_of_mem _ ht')]
    rfl

/-- The tickets an order issues as the store gives it back, when the store keeps its amounts
exactly, are priced at amounts that come back from the store as they are. -/
theorem Order.issued_prices_read_back {o : Order} (ho : o.AmountsExact) {now : Instant}
    {first : Nat} :
    ∀ t ∈ o.asStored.issueTickets now first, ∀ x, storeAmount t.pricePaid = .ok x →
      readAmount x = t.pricePaid := by
  intro t ht x hx
  obtain ⟨-, l, hl, hprice⟩ := Order.mem_issueTickets ht
  obtain ⟨line, hline, rfl⟩ := List.mem_map.1 hl
  rw [hprice] at hx ⊢
  exact readAmount_of_unsignZero (ho.2.2.2 line hline) hx

/-- Looking up by a key in rows of which a guard moved some, each keeping its key, finds the row
found before, moved or not. -/
theorem find?_map_ite {α κ : Type} [BEq κ] {key : α → κ} {g : α → Bool} {f : α → α}
    (hf : ∀ a, key (f a) = key a) {l : List α} {k : κ} {a : α}
    (h : l.find? (fun a => key a == k) = some a) :
    ∃ b, (l.map fun a => if g a then f a else a).find? (fun a => key a == k) = some b ∧
      (b = f a ∨ b = a) := by
  have hkey : ∀ a, key (if g a then f a else a) = key a := fun a => by
    split
    · exact hf a
    · rfl
  have hsame : ((fun a => key a == k) ∘ fun a => if g a then f a else a) = fun a => key a == k :=
    funext fun a => by simp only [Function.comp, hkey]
  refine ⟨if g a then f a else a, by rw [List.find?_map, hsame, h, Option.map_some], ?_⟩
  split
  · exact .inl rfl
  · exact .inr rfl

/-! ## Completing an order -/

namespace Service

variable {s : Session}

/-- A unit of work that returned ran its work to a return, and kept the store it left only when
the work said so. -/
theorem unitOfWork_ok {α : Type} {w : Service (α × Bool)} {s' : Session} {a : α}
    (h : unitOfWork w s = .ok a s') :
    ∃ flag s₁, w s = .ok (a, flag) s₁ ∧ s' = if flag then s₁ else { s₁ with store := s.store } := by
  unfold unitOfWork at h
  split at h
  · cases h
    exact ⟨true, _, ‹_›, rfl⟩
  · cases h
    exact ⟨false, _, ‹_›, rfl⟩
  · cases h

/-- A report of success that issued tickets completed the order of the pending payment it found:
each step, and the store it left. -/
theorem finalizePayment_some {intent : String} {s' : Session} {tickets : List Ticket}
    (h : finalizePayment intent s = .ok (some tickets) s') :
    ∃ (st₁ st₂ st₃ : Tables) (ref : OrderRef) (row : OrderRow) (order order' : Order)
      (sold first : Nat) (rows : List TicketRow),
      s.store.settleByReference intent .succeeded = (st₁, some ref) ∧
      st₁.order? ref = some row ∧ row.toOrder = .ok order ∧
      order.moveTo .complete s.now = .ok order' ∧
      st₁.moveOrder ref .completed s.now = (st₂, true) ∧
      st₂.markSeatsSold ref (orderSeats order') = .ok (st₃, sold) ∧
      tickets = order'.issueTickets s.now first ∧ tickets.mapM ticketRow = .ok rows ∧
      st₃.insertTickets rows = .ok s'.store := by
  unfold finalizePayment at h
  obtain ⟨now, s₀, h₀, h⟩ := bind_ok h
  obtain ⟨rfl, rfl, -⟩ := now_ok h₀
  obtain ⟨flag, s₁, hwork, rfl⟩ := unitOfWork_ok h
  -- the work answers with tickets only on the path that completes the order
  simp only [bind_update] at hwork
  cases hpay : (s₀.store.settleByReference intent .succeeded).2 with
  | none =>
    simp only [hpay] at hwork
    obtain ⟨_, s₂, _, hwork⟩ := bind_ok hwork
    cases hwork
  | some ref =>
    simp only [hpay] at hwork
    rcases bind_loadOrder?_ok hwork with ⟨_, hwork⟩ | ⟨row, order, hrow, hload, hwork⟩
    · exact absurd hwork fail_ok
    simp only at hwork
    split at hwork
    · exact absurd hwork bind_fail_ok
    obtain ⟨order', hmove, hwork⟩ := bind_lift_ok hwork
    simp only [bind_update] at hwork
    split at hwork
    · exact absurd hwork bind_fail_ok
    rename_i hmoved
    obtain ⟨st₃, sold, hmark, hwork⟩ := bind_change_ok hwork
    split at hwork
    · simp only [bind_record] at hwork
      exact absurd hwork bind_fail_ok
    simp only [bind_takeCodes] at hwork
    obtain ⟨st₄, hins, hwork⟩ := bind_write_ok hwork
    simp only [bind_record] at hwork
    cases hwork
    obtain ⟨rows, hrows, hissue⟩ := exceptBind_ok hins
    exact ⟨_, _, st₃, ref, row, order, order', sold, s₀.codes + 1, rows, Prod.ext rfl hpay, hrow,
      hload, hmove, moved_pair hmoved, hmark, rfl, hrows, hissue⟩

end Service

/-! ## A completed order, looked at -/

section Completed

open Service Tables

variable {s₁ s₂ : Session} {caller : Principal} {ref : OrderRef}

/-- A report that the pending payment of an order succeeded, when no other payment has its
reference and no ticket is stored for the order yet, leaves the order where a look finds it with
exactly the tickets the report issued, in the order they were issued, provided their prices come
back from the store as they are. -/
theorem finalized_order_lists_issued_tickets {row : OrderRow} {order : Order}
    (hfound : s₁.store.order? ref = some row) (hload : row.toOrder = .ok order)
    (hcaller : caller.canAccess order.userId = true)
    (hprices : ∀ first, ∀ t ∈ order.issueTickets s₁.now first, ∀ x,
      storeAmount t.pricePaid = .ok x → readAmount x = t.pricePaid)
    {pay : PaymentRow} (hpaid : s₁.store.paymentOf? ref = some pay) (hpo : pay.order = ref)
    (hps : pay.status = PaymentStatus.pending.name)
    (hreference : ∀ q ∈ s₁.store.payments, q.reference = pay.reference → q = pay)
    (hnone : s₁.store.ticketsOf ref = []) {tickets : List Ticket}
    (hfinal : finalizePayment pay.reference s₁ = .ok (some tickets) s₂) :
    ∃ order₂ paid, orderDetail caller ref s₂ = .ok ⟨order₂, paid, tickets⟩ s₂ := by
  obtain ⟨st₁, st₂, st₃, ref', row', order₁, order', _, first, rows, hsettle, hrow', hload',
    hmove, hmoved, hmark, rfl, hrows, hins⟩ := finalizePayment_some hfinal
  obtain ⟨hst₁, q, hq, hqref, -, hqorder⟩ := settleByReference_some hsettle
  -- the payment settled is this one, as no other payment has its reference
  have hsettled : pay = q := (hreference q hq hqref).symm
  subst hsettled
  have hsameRef : ref = ref' := hpo.symm.trans hqorder
  subst hsameRef
  -- so the order completed is the one found
  have hsameRow : row = row' := by
    have horders : st₁.order? ref = s₁.store.order? ref := by rw [hst₁]; rfl
    rw [horders, hfound] at hrow'
    exact Option.some.inj hrow'
  subst hsameRow
  have hsameOrder : order = order₁ := Except.ok.inj (hload.symm.trans hload')
  subst hsameOrder
  rw [Order.issueTickets_moveTo hmove] at hrows ⊢
  obtain ⟨hst₂, -⟩ := moveOrder_true hmoved
  have hrestock := markSeatsSold_restock hmark
  have hs₂ := insertTickets_ok hins
  -- the order and its payment are found moved or as they were, and read back either way
  obtain ⟨row₂, hfound₂, hrow₂⟩ : ∃ row₂, s₂.store.order? ref = some row₂ ∧
      (row₂ = row.withStatus .completed s₁.now ∨ row₂ = row) := by
    simp only [order?, hs₂, hrestock.orders, hst₂, hst₁]
    exact find?_map_ite (OrderRow.withStatus_ref _ _) hfound
  obtain ⟨prow₂, hpaid₂, hprow₂⟩ : ∃ prow₂, s₂.store.paymentOf? ref = some prow₂ ∧
      (prow₂ = pay.withStatus .succeeded ∨ prow₂ = pay) := by
    simp only [paymentOf?, hs₂, hrestock.payments, hst₂, hst₁]
    exact find?_map_ite (PaymentRow.withStatus_order _) hpaid
  obtain ⟨hrref, huser, -⟩ := OrderRow.toOrder_ok hload
  obtain ⟨order₂, hload₂, huser₂⟩ : ∃ order₂, row₂.toOrder = .ok order₂ ∧
      order₂.userId = order.userId := by
    rcases hrow₂ with rfl | rfl
    · obtain ⟨order₂, hload₂, -, huser₂, -⟩ := OrderRow.toOrder_withStatus row .completed s₁.now
      exact ⟨order₂, hload₂, huser₂.trans huser.symm⟩
    · exact ⟨order, hload, rfl⟩
  obtain ⟨paid, hpayment₂⟩ : ∃ paid, prow₂.toPayment = .ok paid := by
    rcases hprow₂ with rfl | rfl
    · exact ⟨_, PaymentRow.toPayment_of_name (PaymentRow.withStatus_status _ _)⟩
    · exact ⟨_, PaymentRow.toPayment_of_name hps⟩
  -- the order's tickets are the rows just stored, none being stored for it before
  have hkey : row.ref = ref := by simpa using List.find?_some hfound
  have hfor : ∀ r ∈ rows, r.order = ref := by
    intro r hr
    obtain ⟨t, ht, htr⟩ := exists_of_forall₂ (forall₂_of_mapM_ok hrows) hr
    exact (ticketRow_ok htr).1.trans ((Order.mem_issueTickets ht).1.trans (hrref.trans hkey))
  have htickets₂ : s₂.store.ticketsOf ref = rows := by
    simp only [ticketsOf] at hnone
    simp only [ticketsOf, hs₂, hrestock.tickets, hst₂, hst₁, List.filter_append, hnone,
      List.nil_append]
    exact List.filter_eq_self.2 fun r hr => by simpa using hfor r hr
  refine ⟨order₂, some paid, orderDetail_found hfound₂ hload₂ (huser₂ ▸ hcaller) hpaid₂
    hpayment₂ ?_⟩
  rw [htickets₂]
  exact ticketRows_toTicket hrows (hprices first)

end Completed

/-! ## A placed order, looked at -/

section Placed

open Service Tables

variable {rules : CheckoutRules} {buyer : Principal} {lines : List CartLine} {s s₁ : Session}
  {p : Placement}

/-- A placement appends the order's row and its pending payment's row to tables holding the
tickets there were, each row under a key no earlier row has. -/
theorem placeOrder_stored (h : placeOrder rules buyer lines s = .ok p s₁) :
    ∃ (st : Tables) (row : OrderRow) (pay : PaymentRow),
      s₁.store = { st with orders := st.orders ++ [row], payments := st.payments ++ [pay] } ∧
      st.tickets = s.store.tickets ∧ orderRow p.order = .ok row ∧
      (∀ o ∈ st.orders, o.ref ≠ row.ref) ∧
      (∀ q ∈ st.payments, q.order ≠ pay.order ∧ q.reference ≠ pay.reference) ∧
      pay.order = p.order.ref ∧ pay.status = PaymentStatus.pending.name ∧
      storeAmount p.order.total = .ok pay.amountCharged := by
  obtain ⟨-, s₂, hcheckout, hstore⟩ := placeOrder_ok h
  obtain ⟨_, _, st, row, pay, hreserved, hplaced, hrow, hins, hamount, ⟨hpo, hps, -⟩, hpay⟩ :=
    checkout_placed hcheckout
  obtain ⟨-, hfresh⟩ := insertOrder_ok hins
  obtain ⟨hs₂, hpfresh⟩ := insertPayment_ok hpay
  obtain ⟨_, -, horder⟩ := Order.place_ok hplaced
  have href : p.order.ref = .placed (s.placed + 1) := by rw [horder]
  exact ⟨st, row, pay, hstore.trans hs₂, hreserved.restock.tickets, hrow, hfresh, hpfresh,
    hpo.trans href.symm, hps, hamount⟩

/-- Right after an order is placed, under a reference no stored ticket is for, a caller allowed to
see it finds the order as the store gives it back, its pending payment charging its total, and no
tickets, when the store keeps the order's amounts exactly. Once the success of that payment is
reported and tickets are issued, the look lists exactly those tickets, in the order they were
issued. -/
theorem placed_order_reads_back (hplace : placeOrder rules buyer lines s = .ok p s₁)
    (hexact : p.order.AmountsExact) (hnew : ∀ t ∈ s.store.tickets, t.order ≠ p.order.ref)
    {caller : Principal} (hcaller : caller.canAccess p.order.userId = true) :
    ∃ payment : Payment,
      orderDetail caller p.order.ref s₁ = .ok ⟨p.order.asStored, some payment, []⟩ s₁ ∧
      payment.order = p.order.ref ∧ payment.status = .pending ∧
      payment.amountCharged = p.order.asStored.total ∧
      ∀ tickets s₂, finalizePayment payment.reference s₁ = .ok (some tickets) s₂ →
        ∃ order paid, orderDetail caller p.order.ref s₂ = .ok ⟨order, paid, tickets⟩ s₂ := by
  obtain ⟨st, row, pay, hs₁, hkept, hrow, hfresh, hpfresh, hpo, hps, hamount⟩ :=
    placeOrder_stored hplace
  obtain ⟨hrref, -⟩ := orderRow_ok hrow
  have hload := orderRow_toOrder hexact hrow
  -- the new rows are the last ones, under keys no earlier row has, and no ticket is for them
  have hfound : s₁.store.order? p.order.ref = some row := by
    rw [hs₁, ← hrref]
    exact find?_split hfresh
  have hpaid : s₁.store.paymentOf? p.order.ref = some pay := by
    rw [hs₁, ← hpo]
    exact find?_split fun q hq => (hpfresh q hq).1
  have hnone : s₁.store.ticketsOf p.order.ref = [] := by
    simp only [ticketsOf, hs₁, hkept, List.filter_eq_nil_iff, beq_iff_eq]
    exact hnew
  have hreference : ∀ q ∈ s₁.store.payments, q.reference = pay.reference → q = pay := by
    intro q hq hqref
    rw [hs₁] at hq
    rcases List.mem_append.1 hq with hold | hlast
    · exact absurd hqref (hpfresh q hold).2
    · exact List.mem_singleton.1 hlast
  refine ⟨_, orderDetail_found hfound hload hcaller hpaid (PaymentRow.toPayment_of_name hps)
    (by rw [hnone]; rfl), hpo, rfl, readAmount_of_storedExactly hexact.2.2.1 hamount, ?_⟩
  intro tickets s₂ hfinal
  exact finalized_order_lists_issued_tickets hfound hload hcaller
    (fun _ => Order.issued_prices_read_back hexact) hpaid hpo hps hreference hnone hfinal

/-- A ticket at 10.00 with a fee of 2.50, placed by its buyer and looked at. -/
theorem placed_ticket_reads_back :
    let s : Session := Session.start
      { offers := [⟨1, 1, 1, "GA", ⟨4621819117588971520⟩, 5, 0⟩] } ⟨1893456000⟩
    let rules : CheckoutRules := ⟨{}, .finite false 250 (-2), 15, "usd", .local⟩
    match placeOrder rules ⟨1, .buyer⟩ [{ offerId := 1 }] s with
    | .ok p s₁ =>
      p.order.AmountsExact ∧ (∀ t ∈ s.store.tickets, t.order ≠ p.order.ref) ∧
        Principal.canAccess ⟨1, .buyer⟩ p.order.userId = true ∧
        ∃ payment : Payment,
          orderDetail ⟨1, .buyer⟩ p.order.ref s₁ = .ok ⟨p.order.asStored, some payment, []⟩ s₁ ∧
          payment.order = p.order.ref ∧ payment.status = .pending ∧
          payment.amountCharged = p.order.asStored.total ∧
          ∀ tickets s₂, finalizePayment payment.reference s₁ = .ok (some tickets) s₂ →
            ∃ order paid, orderDetail ⟨1, .buyer⟩ p.order.ref s₂ = .ok ⟨order, paid, tickets⟩ s₂
    | .error _ _ => False := by
  intro s rules
  have hready : (match placeOrder rules ⟨1, .buyer⟩ [{ offerId := 1 }] s with
      | .ok p _ => decide p.order.AmountsExact &&
          decide (∀ t ∈ s.store.tickets, t.order ≠ p.order.ref) &&
          Principal.canAccess ⟨1, .buyer⟩ p.order.userId
      | .error _ _ => false) = true := by decide +kernel
  revert hready
  cases hplace : placeOrder rules ⟨1, .buyer⟩ [{ offerId := 1 }] s with
  | ok p s₁ =>
    intro h
    simp only [Bool.and_eq_true, decide_eq_true_eq] at h
    exact ⟨h.1.1, h.1.2, h.2, placed_order_reads_back hplace h.1.1 h.1.2 h.2⟩
  | error e s' => exact fun h => Bool.false_ne_true h

/-- A fee of minus zero is charged as `-0.00`, but the look at the order placed right after finds
a fee of `0.00`: the order found is not the order placed. -/
theorem negative_zero_fee_reads_back_unsigned :
    let s : Session := Session.start
      { offers := [⟨1, 1, 1, "GA", ⟨4621819117588971520⟩, 5, 0⟩] } ⟨1893456000⟩
    let rules : CheckoutRules := ⟨{}, .finite true 0 (-2), 15, "usd", .local⟩
    match placeOrder rules ⟨1, .buyer⟩ [{ offerId := 1 }] s with
    | .ok p s₁ =>
      p.order.serviceFee.toText = "-0.00" ∧
        match orderDetail ⟨1, .buyer⟩ p.order.ref s₁ with
        | .ok detail _ => detail.order.serviceFee.toText = "0.00" ∧ detail.order ≠ p.order
        | .error _ _ => False
    | .error _ _ => False := by
  intro s rules
  have hdiffer : (match placeOrder rules ⟨1, .buyer⟩ [{ offerId := 1 }] s with
      | .ok p s₁ => decide (p.order.serviceFee.toText = "-0.00") &&
          match orderDetail ⟨1, .buyer⟩ p.order.ref s₁ with
          | .ok detail _ => decide (detail.order.serviceFee.toText = "0.00") &&
              decide (detail.order.serviceFee ≠ p.order.serviceFee)
          | .error _ _ => false
      | .error _ _ => false) = true := by decide +kernel
  revert hdiffer
  cases placeOrder rules ⟨1, .buyer⟩ [{ offerId := 1 }] s with
  | ok p s₁ =>
    dsimp only
    cases orderDetail ⟨1, .buyer⟩ p.order.ref s₁ with
    | ok detail _ =>
      intro h
      simp only [Bool.and_eq_true, decide_eq_true_eq] at h
      obtain ⟨hplaced, hfound, hdiffer⟩ := h
      exact ⟨hplaced, hfound, fun hsame => hdiffer (by rw [hsame])⟩
    | error e _ => simp
  | error e s' => exact fun h => Bool.false_ne_true h

end Placed

end TicketCheckout
