import TicketCheckout.Proofs.Codes
import TicketCheckout.Proofs.Coupling

/-!
# A paid order always completes

While an order is pending, the report that its payment succeeded completes it, at any clock the
service can read, also once the order's reservation window has closed: nothing between placing
the order and its payment can make the completion fail. The order is completed at the current
instant, its payment succeeded, the rows at the places of its seat lines go from locked for it to
sold to it, and the tickets of one issue of the order are stored and returned
(`Tables.complete`).

Each guarded step of the completion finds what it needs in a store of a run. The payment is
found by its reference, which is unique, and it is pending with its order (`Tables.Coupled`); the
order moves because it is pending; every row at its seat places is locked for it
(`Tables.SeatsHeld`), one row per place, so the sale counts as many rows as the order has seat
lines; and the tickets' rows are stored because their integers are those of the order, which fit,
and their codes are drawn past every stored code (`Session.CodesIssued`).

Main statement: `paid_orders_complete`.
-/

namespace TicketCheckout

open Store

namespace Store

theorem map_guard_congr {α : Type} {l : List α} {g : α → Bool} {P : α → Prop} [DecidablePred P]
    (f : α → α) (h : ∀ y ∈ l, g y = true ↔ P y) :
    l.map (fun y => if g y then f y else y) = l.map fun y => if P y then f y else y :=
  List.map_congr_left fun y hy => if_congr (h y hy) rfl rfl

/-- The store after a pending order completes at `now` with the ticket rows `rows`: the order is
completed, its payment succeeded, the rows at the places of its seat lines are sold to it, and
the ticket rows are stored. -/
def Tables.complete (st : Tables) (o : OrderRow) (now : Instant) (rows : List TicketRow) :
    Tables :=
  { st with
    orders := st.orders.map fun x => if x.ref = o.ref then x.withStatus .completed now else x
    payments := st.payments.map fun q => if q.order = o.ref then q.withStatus .succeeded else q
    seats := st.seats.map fun r => if r.place ∈ o.seatPlaces then r.sell o.ref else r
    tickets := st.tickets ++ rows }

namespace Tables

variable {st : Tables}

/-- Settling by the reference of a pending payment, under unique keys, moves that payment and
reports its order. -/
theorem settleByReference_pending (hk : st.Keyed) {p : PaymentRow} (hp : p ∈ st.payments)
    (hpending : p.status = PaymentStatus.pending.name) (target : PaymentStatus) :
    st.settleByReference p.reference target =
      ({ st with payments := st.payments.map fun q =>
          if q.order = p.order then q.withStatus target else q }, some p.order) := by
  -- the payments the guard selects are those of `p`'s order: `p` alone
  have hguard : ∀ q ∈ st.payments,
      (q.reference == p.reference && q.status == PaymentStatus.pending.name) = true ↔
        q.order = p.order := by
    intro q hq
    simp only [Bool.and_eq_true, beq_iff_eq]
    constructor
    · rintro ⟨href, -⟩
      rw [List.inj_on_of_nodup_map hk.payment_references hq hp href]
    · intro horder
      obtain rfl := List.inj_on_of_nodup_map hk.payment_orders hq hp horder
      exact ⟨rfl, hpending⟩
  cases hf : st.payments.find?
      (fun q => q.reference == p.reference && q.status == PaymentStatus.pending.name) with
  | none => exact absurd (List.find?_eq_none.1 hf p hp) (by simp [hpending])
  | some q =>
    have hselected := List.find?_some hf
    have hq := (hguard q (List.mem_of_find?_eq_some hf)).1 hselected
    simp only [settleByReference, hf, hq, Prod.mk.injEq, and_true]
    congr 1
    exact map_guard_congr (PaymentRow.withStatus target) hguard

theorem order?_of_refs (hrefs : (st.orders.map (·.ref)).Nodup) {o : OrderRow}
    (ho : o ∈ st.orders) : st.order? o.ref = some o :=
  find?_of_mem hrefs ho

/-- Moving a pending order, under unique keys, moves that order alone. -/
theorem moveOrder_pending (hrefs : (st.orders.map (·.ref)).Nodup) {o : OrderRow}
    (ho : o ∈ st.orders)
    (hpending : o.status = OrderStatus.pending.name) (target : OrderStatus) (now : Instant) :
    st.moveOrder o.ref target now =
      ({ st with orders := st.orders.map fun x =>
          if x.ref = o.ref then x.withStatus target now else x }, true) := by
  have hguard : ∀ x ∈ st.orders,
      (x.ref == o.ref && x.status == OrderStatus.pending.name) = true ↔ x.ref = o.ref := by
    intro x hx
    simp only [Bool.and_eq_true, beq_iff_eq, and_iff_left_iff_imp]
    intro href
    rw [List.inj_on_of_nodup_map hrefs hx ho href]
    exact hpending
  have hany : st.orders.any (fun x => x.ref == o.ref && x.status == OrderStatus.pending.name) :=
    List.any_eq_true.2 ⟨o, ho, (hguard o ho).2 rfl⟩
  simp only [moveOrder, hany, if_true, Prod.mk.injEq, and_true]
  congr 1
  exact map_guard_congr (OrderRow.withStatus target now) hguard

/-- Selling the seats at `places`, each the place of one row and all locked for `holder`, sells
exactly the rows there and counts one row per place. -/
theorem markSeatsSold_held (hkeys : (st.seats.map SeatRow.place).Nodup) {holder : OrderRef}
    {places : List (Int × Int)} (hplaces : places.Nodup)
    (hfits : ∀ P ∈ places, fitsInteger P.1 = true ∧ fitsInteger P.2 = true)
    (hseated : ∀ P ∈ places, ∃ r ∈ st.seats, r.place = P)
    (hlocked : ∀ r ∈ st.seats, r.place ∈ places →
      r.status = SeatStatus.locked.name ∧ r.holder = some holder) :
    st.markSeatsSold holder places =
      .ok ({ st with seats := st.seats.map fun r => if r.place ∈ places then r.sell holder else r },
        places.length) := by
  have hguard : ∀ r ∈ st.seats, r.lockedFor holder places = true ↔ r.place ∈ places := by
    intro r hr
    rw [SeatRow.lockedFor_iff]
    exact ⟨fun h => h.1, fun hP => ⟨hP, hlocked r hr hP⟩⟩
  -- the rows sold stand at the places, one at each
  have hcount : (st.seats.filter (SeatRow.lockedFor holder places)).length = places.length := by
    have hnodup : ((st.seats.filter (SeatRow.lockedFor holder places)).map SeatRow.place).Nodup :=
      (List.filter_sublist.map SeatRow.place).nodup hkeys
    have hperm := (List.perm_ext_iff_of_nodup hnodup hplaces).2 fun P => by
      constructor
      · intro hP
        obtain ⟨r, hr, rfl⟩ := List.mem_map.1 hP
        obtain ⟨hr, hfor⟩ := List.mem_filter.1 hr
        exact (hguard r hr).1 hfor
      · intro hP
        obtain ⟨r, hr, rfl⟩ := hseated P hP
        exact List.mem_map_of_mem (List.mem_filter.2 ⟨hr, (hguard r hr).2 hP⟩)
    simpa using hperm.length_eq
  unfold markSeatsSold
  split
  · -- an order without seat lines sells nothing
    rename_i hempty
    have hnil := List.isEmpty_iff.1 hempty
    subst hnil
    simp
  · have hbind : bindIntegers (places.flatMap fun P => [P.1, P.2]) = .ok () := by
      simp only [bindIntegers, List.all_flatMap, List.all_cons, List.all_nil, Bool.and_true,
        List.all_eq_true, Bool.and_eq_true]
      rw [if_pos fun P hP => hfits P hP]
    simp only [hbind, bind, Except.bind, pure, Except.pure, updateSeats, Except.ok.injEq,
      Prod.mk.injEq]
    exact ⟨congrArg (fun seats => { st with seats }) (map_guard_congr (SeatRow.sell holder) hguard),
      hcount⟩

/-- Storing ticket rows whose integers fit and whose codes are distinct and new adds them. -/
theorem insertTickets_fresh {rows : List TicketRow}
    (hfits : ∀ r ∈ rows, ∀ n ∈ r.integers, fitsInteger n = true)
    (hcodes : (st.tickets.map (·.code) ++ rows.map (·.code)).Nodup) :
    st.insertTickets rows = .ok { st with tickets := st.tickets ++ rows } := by
  have hbind : bindIntegers (rows.flatMap TicketRow.integers) = .ok () := by
    simp only [bindIntegers, List.all_flatMap, List.all_eq_true]
    rw [if_pos fun r hr => hfits r hr]
  simp only [insertTickets, hbind, eraseDups_of_nodup hcodes, beq_self_eq_true, require,
    bind, Except.bind, if_true, pure, Except.pure]

/-- The codes of the tickets issued from `drawn + 1` are distinct, and new to a store whose codes
are distinct and were all drawn by `drawn`. -/
theorem issued_codes_fresh (hcodes : (st.tickets.map (·.code)).Nodup) {drawn : Nat}
    (hdrawn : ∀ t ∈ st.tickets, ∃ k, k ≤ drawn ∧ t.code = redemptionCode k) {order : Order}
    {now : Instant} {rows : List TicketRow}
    (hrows : (order.issueTickets now (drawn + 1)).mapM ticketRow = .ok rows) :
    (st.tickets.map (·.code) ++ rows.map (·.code)).Nodup := by
  rw [ticketRows_codes hrows, Order.issueTickets_codes]
  refine List.nodup_append.2 ⟨hcodes, List.nodup_range.map fun i j hij => ?_, ?_⟩
  · have hnum := redemptionCode_inj hij
    omega
  · -- a stored code was drawn by `drawn`, an issued one after it
    intro c hc c' hc' hsame
    obtain ⟨t, ht, rfl⟩ := List.mem_map.1 hc
    obtain ⟨i, -, rfl⟩ := List.mem_map.1 hc'
    obtain ⟨k, hk, hcode⟩ := hdrawn t ht
    have hnum := redemptionCode_inj (hcode.symm.trans hsame)
    omega

end Tables

end Store

/-! ## The tickets of a stored order -/

/-- Every ticket a stored order issues is for one of its lines: for its buyer, at the line's
event, tier and seat, and at the line's unit price as the store reads it back. -/
theorem OrderRow.mem_issueTickets {o : OrderRow} {order : Order} (hload : o.toOrder = .ok order)
    {now : Instant} {first : Nat} {t : Ticket} (ht : t ∈ order.issueTickets now first) :
    ∃ l ∈ o.lines, t.userId = o.userId ∧ t.eventId = l.eventId ∧ t.tierId = l.tierId ∧
      t.seatId = l.seatId ∧ t.pricePaid = readAmount l.unitPrice := by
  obtain ⟨-, huser, -, -, -, hlines⟩ := OrderRow.toOrder_ok hload
  have hmem := List.mem_map_of_mem (f := fun t : Ticket =>
    (t.order, t.userId, t.eventId, t.tierId, t.seatId, t.pricePaid)) ht
  rw [Order.issueTickets_map, hlines, List.flatMap_map, List.mem_flatMap] at hmem
  obtain ⟨l, hl, hrep⟩ := hmem
  have heq := List.eq_of_mem_replicate hrep
  simp only [LineRow.toLine, Prod.mk.injEq] at heq
  exact ⟨l, hl, heq.2.1.trans huser, heq.2.2.1, heq.2.2.2.1, heq.2.2.2.2.1, heq.2.2.2.2.2⟩

theorem storeAmount_readAmount (x : Number.Binary64) : ∃ y, storeAmount (readAmount x) = .ok y := by
  unfold readAmount
  split <;> exact ⟨_, rfl⟩

theorem mapM_ticketRow_ok : ∀ ts : List Ticket, (∀ t ∈ ts, ∃ x, t.pricePaid = readAmount x) →
    ∃ rows, ts.mapM ticketRow = .ok rows
  | [], _ => ⟨[], rfl⟩
  | t :: rest, hts => by
    obtain ⟨x, hx⟩ := hts t List.mem_cons_self
    obtain ⟨price, hprice⟩ := storeAmount_readAmount x
    obtain ⟨r, hr⟩ : ∃ r, ticketRow t = .ok r := ⟨_, by rw [ticketRow, hx, hprice]; rfl⟩
    obtain ⟨rows, hrows⟩ := mapM_ticketRow_ok rest fun t' ht' => hts t' (List.mem_cons_of_mem _ ht')
    exact ⟨r :: rows, by simp [List.mapM_cons, hr, hrows, bind, Except.bind, pure, Except.pure]⟩

theorem OrderRow.issueTickets_rows {o : OrderRow} {order : Order} (hload : o.toOrder = .ok order)
    (now : Instant) (first : Nat) : ∃ rows, (order.issueTickets now first).mapM ticketRow = .ok rows :=
  mapM_ticketRow_ok _ fun _ ht =>
    have ⟨_, _, _, _, _, _, hprice⟩ := OrderRow.mem_issueTickets hload ht
    ⟨_, hprice⟩

/-- The places of an order's seat lines are pairs of its integers. -/
theorem OrderRow.Fits.seatPlaces {o : OrderRow} (hfits : o.Fits) :
    ∀ P ∈ o.seatPlaces, fitsInteger P.1 = true ∧ fitsInteger P.2 = true := by
  intro P hP
  obtain ⟨l, hl, hplace⟩ := List.mem_filterMap.1 hP
  obtain ⟨seat, hseat, rfl⟩ := Option.map_eq_some_iff.1 hplace
  exact ⟨hfits.2 l hl _ (by simp [LineRow.integers]),
    hfits.2 l hl _ (by simp [LineRow.integers, hseat])⟩

/-- The integers of the rows of an order's tickets are integers of the order. -/
theorem OrderRow.Fits.issued {o : OrderRow} (hfits : o.Fits) {order : Order}
    (hload : o.toOrder = .ok order) {now : Instant} {first : Nat} {rows : List TicketRow}
    (hrows : (order.issueTickets now first).mapM ticketRow = .ok rows) :
    ∀ r ∈ rows, ∀ n ∈ r.integers, fitsInteger n = true := by
  intro r hr n hn
  obtain ⟨t, ht, htr⟩ := exists_of_forall₂ (forall₂_of_mapM_ok hrows) hr
  obtain ⟨-, huser, hevent, htier, hseat, -⟩ := ticketRow_ok htr
  obtain ⟨l, hl, huser', hevent', htier', hseat', -⟩ := OrderRow.mem_issueTickets hload ht
  have hline := hfits.2 l hl
  simp only [TicketRow.integers, List.mem_append, List.mem_cons, List.mem_nil_iff, or_false,
    Option.mem_toList] at hn
  rcases hn with (rfl | rfl | rfl) | hseatn
  · rw [huser, huser']
    exact hfits.1
  · rw [hevent, hevent']
    exact hline _ (by simp [LineRow.integers])
  · rw [htier, htier']
    exact hline _ (by simp [LineRow.integers])
  · rw [hseat, hseat'] at hseatn
    exact hline _ (by simp [LineRow.integers, hseatn])

/-! ## Steps of a call that go through -/

namespace Service

variable {α β : Type} {s : Session}

theorem bind_now (h : s.now.supported = true) (k : Instant → Service β) :
    (Service.now >>= k) s = k s.now s := by
  simp [Service.now, h, bind, EStateM.bind, get, getThe, MonadStateOf.get, EStateM.get, pure,
    EStateM.pure]

theorem unitOfWork_commit {w : Service (α × Bool)} {s' : Session} {a : α}
    (h : w s = .ok (a, true) s') : unitOfWork w s = .ok a s' := by
  unfold unitOfWork
  rw [h]

theorem bind_loadOrder?_run (ref : OrderRef) (k : Option Order → Service β) :
    (loadOrder? ref >>= k) s = match s.store.order? ref with
      | some row => (match row.toOrder with
        | .ok order => k (some order) s
        | .error e => .error e s)
      | none => k none s := by
  cases hrow : s.store.order? ref with
  | none => simp only [bind, EStateM.bind, loadOrder?_run, hrow]
  | some row =>
    cases hload : row.toOrder <;> simp only [bind, EStateM.bind, loadOrder?_run, hrow, hload]

theorem bind_lift_of_ok {r : Except Failure α} {a : α} (h : r = .ok a) (k : α → Service β) :
    (lift r >>= k) s = k a s := by
  subst h
  rfl

theorem bind_change_run (f : Tables → Except Failure (Tables × α)) (k : α → Service β) :
    (change f >>= k) s = match f s.store with
      | .ok (st, a) => k a { s with store := st }
      | .error e => .error e s := by
  rcases hf : f s.store with e | ⟨st, a⟩ <;> simp only [bind, EStateM.bind, change_run, hf]

theorem bind_write_run (f : Tables → Except Failure Tables) (k : Unit → Service β) :
    (write f >>= k) s = match f s.store with
      | .ok st => k () { s with store := st }
      | .error e => .error e s := by
  cases hf : f s.store <;> simp only [bind, EStateM.bind, write_run, hf]

theorem bind_write_tickets {ts : List Ticket} {rows : List TicketRow} {st : Tables}
    (hrows : ts.mapM ticketRow = .ok rows) (hins : s.store.insertTickets rows = .ok st)
    (k : Unit → Service β) :
    (write (fun st => do st.insertTickets (← ts.mapM ticketRow)) >>= k) s =
      k () { s with store := st } := by
  rw [bind_write_run]
  simp only [hrows, bind, Except.bind, hins]

end Service

open Service Tables

/-- The report that the payment of a pending order succeeded completes the order, when the clock
can be read, the order's rows at its seat places are all locked for it, and its tickets are
stored with codes after every stored one. -/
theorem finalizePayment_pending {s : Session} (hk : s.store.Keyed) (hc : s.store.Checked)
    (hcodes : s.CodesIssued) {o : OrderRow} (ho : o ∈ s.store.orders)
    (hpending : o.status = OrderStatus.pending.name) (hplaces : o.seatPlaces.Nodup)
    (hseated : ∀ P ∈ o.seatPlaces, ∃ r ∈ s.store.seats, r.place = P)
    (hlocked : ∀ r ∈ s.store.seats, r.place ∈ o.seatPlaces →
      r.status = SeatStatus.locked.name ∧ r.holder = some o.ref)
    {p : PaymentRow} (hp : p ∈ s.store.payments) (hpaid : p.order = o.ref)
    (hunpaid : p.status = PaymentStatus.pending.name) (hnow : s.now.supported = true)
    {order : Order} (hload : o.toOrder = .ok order) {rows : List TicketRow}
    (hrows : (order.issueTickets s.now (s.codes + 1)).mapM ticketRow = .ok rows) :
    finalizePayment p.reference s = .ok (some (order.issueTickets s.now (s.codes + 1)))
      { s with store := s.store.complete o s.now rows,
               codes := s.codes + (order.issueTickets s.now (s.codes + 1)).length,
               metrics := s.metrics ++ [.payment .completed] } := by
  obtain ⟨-, -, hstatus, -, -, -⟩ := OrderRow.toOrder_ok hload
  have horder : order.status = .pending := OrderStatus.name_inj.1 (hstatus.trans hpending)
  have hready : order.isPending = true := by simp [Order.isPending, horder]
  obtain ⟨order', hmove, -, -⟩ := order.moveTo_pending .complete s.now horder
  have hsettle := settleByReference_pending hk hp hunpaid .succeeded
  rw [hpaid] at hsettle
  unfold finalizePayment
  rw [bind_now hnow, unitOfWork_commit]
  simp only [bind_update, hsettle, bind_loadOrder?_run]
  rw [order?_of_refs ?refs ?mem]
  simp only [hload, hready, Bool.not_true, Bool.false_eq_true, ↓reduceIte]
  rw [bind_lift_of_ok hmove]
  simp only [bind_update]
  rw [moveOrder_pending ?refs' ?mem' hpending]
  simp only [Bool.not_true, Bool.false_eq_true, ↓reduceIte, bind_change_run,
    OrderRow.orderSeats_of_moveTo hload hmove]
  rw [markSeatsSold_held ?keys hplaces ?fits ?seated ?locked]
  simp only [bne_self_eq_false, Bool.false_eq_true, ↓reduceIte, bind_takeCodes,
    Order.issueTickets_moveTo hmove]
  rw [bind_write_tickets hrows (insertTickets_fresh ?rowFits ?codes)]
  simp only [bind_record]
  -- one code per unit of the order's lines was drawn: one per ticket
  rw [Order.length_issueTickets, Order.moveTo_lines hmove]
  rfl
  case rowFits => exact OrderRow.Fits.issued (hc.orders o ho) hload hrows
  case codes => exact issued_codes_fresh hc.codes hcodes hrows
  case keys => exact hk.seat_places
  case fits => exact OrderRow.Fits.seatPlaces (hc.orders o ho)
  case seated => exact hseated
  case locked => exact hlocked
  case refs' | refs => exact hk.order_refs
  case mem' | mem => exact ho

/-! ## What the completion finds in a store of a run -/

theorem pending_iff_of_coupled {a b : String} (h : (a, b) ∈ coupledStatuses) :
    a = OrderStatus.pending.name ↔ b = PaymentStatus.pending.name := by
  simp only [coupledStatuses, List.mem_cons, Prod.mk.injEq, List.mem_nil_iff, or_false] at h
  rcases h with ⟨rfl, rfl⟩ | ⟨rfl, rfl⟩ | ⟨rfl, rfl⟩ | ⟨rfl, rfl⟩ <;> simp

theorem OrderRow.toOrder_of_name {o : OrderRow} {os : OrderStatus} (h : o.status = os.name) :
    ∃ order, o.toOrder = .ok order := by
  unfold OrderRow.toOrder readStatus
  rw [h, OrderStatus.ofName?_name]
  exact ⟨_, rfl⟩

namespace Store.Tables

variable {st st₁ st' : Tables}

/-- No order has two seat lines at one place. -/
def SeatLinesApart (st : Tables) : Prop := ∀ o ∈ st.orders, o.seatPlaces.Nodup

theorem Fresh.seatLinesApart (h : st.Fresh) : st.SeatLinesApart := by
  intro o ho
  rw [h.no_orders] at ho
  cases ho

theorem SeatLinesApart.of_orders (ha : st.SeatLinesApart) (h : st'.orders = st.orders) :
    st'.SeatLinesApart :=
  fun o ho => ha o (h ▸ ho)

theorem SeatLinesApart.pairMoved (ha : st.SeatLinesApart) {o : OrderRow} {p : PaymentRow}
    {target : OrderStatus} {pay : PaymentStatus} {now : Instant}
    (h : st.PairMoved st₁ o p target pay now) : st₁.SeatLinesApart := by
  intro x hx
  rcases h.mem_orders.1 hx with rfl | ⟨hx, -⟩
  · exact ha o h.order_mem
  · exact ha x hx

/-- Every move keeps the seat lines of every order apart: a new order's seat lines lock one
seat each, and no move changes the lines of an order. -/
theorem Move.seatLinesApart (hk : st.Keyed) (ha : st.SeatLinesApart) (h : Move st st') :
    st'.SeatLinesApart := by
  cases h with
  | @place st₁ _ _ _ _ _ _ _ _ _ _ row _ _ hreserve hprice hrow _ _ _ _ =>
    -- the reservation locked one available row per seat line, so no place twice
    have hnew : row.seatPlaces.Nodup := by
      obtain ⟨pricing, -, rfl⟩ := Order.place_ok hprice
      obtain ⟨-, -, -, -, -, -, -, hlines⟩ := orderRow_ok hrow
      rw [OrderRow.seatPlaces_of_lines hlines]
      exact (hreserve.seats hk.seat_places).2.1
    have ha₁ := ha.of_orders hreserve.restock.orders
    intro x hx
    rcases List.mem_append.1 hx with hx | hx
    · exact ha₁ x hx
    · rw [List.mem_singleton.1 hx]
      exact hnew
  | complete hmoved _ _ hsell _ =>
    exact (ha.pairMoved hmoved).of_orders
      (updateSeats_restock_of_eq (SeatRow.sell_place _) hsell).orders
  | release hmoved _ hrelease => exact (ha.pairMoved hmoved).of_orders hrelease.restock.orders
  | releaseLocks now => exact ha.of_orders (releaseExpiredLocks_restock now).orders

end Store.Tables

/-! ## Runs -/

/-- Along every run from a fresh store whose seeded locks belong to no order the run places,
every pending order has a pending payment and holds the rows at its seat places locked; and the
report that the payment succeeded, at any clock the service can read, also past the order's
expiry, completes the order: it returns the tickets of one issue of the order, numbered after
the codes drawn so far, commits the completed store (`Tables.complete`), draws one code per
ticket and records the completion. -/
theorem paid_orders_complete {s₀ s : Session} (h0 : s₀.store.Fresh)
    (hforeign : ∀ r ∈ s₀.store.seats, ∀ n, r.holder ≠ some (.placed n)) (h : Reachable s₀ s) :
    ∀ o ∈ s.store.orders, o.status = OrderStatus.pending.name →
      ∃ p ∈ s.store.payments, p.order = o.ref ∧ p.status = PaymentStatus.pending.name ∧
        (∀ r ∈ s.store.seats, r.place ∈ o.seatPlaces →
          r.status = SeatStatus.locked.name ∧ r.holder = some o.ref) ∧
        ∃ order, o.toOrder = .ok order ∧ ∀ now : Instant, now.supported = true →
          ∃ rows, (order.issueTickets now (s.codes + 1)).mapM ticketRow = .ok rows ∧
            finalizePayment p.reference { s with now := now } =
              .ok (some (order.issueTickets now (s.codes + 1)))
                { s with now := now, store := s.store.complete o now rows,
                         codes := s.codes + (order.issueTickets now (s.codes + 1)).length,
                         metrics := s.metrics ++ [.payment .completed] } := by
  have hk := h.keyed h0
  -- the payments, the seats and the seat lines follow the orders all along the run
  have hinv : s.store.Coupled ∧ s.store.SeatsHeld ∧ s.store.SeatLinesApart :=
    h.invariant (I := fun st => st.Coupled ∧ st.SeatsHeld ∧ st.SeatLinesApart) h0
      ⟨h0.coupled, h0.seatsHeld hforeign, h0.seatLinesApart⟩
      fun hk ⟨hc, hs, ha⟩ hm => ⟨hm.coupled hk hc, hm.seatsHeld hk hs, hm.seatLinesApart hk ha⟩
  obtain ⟨hcoupled, hs, ha⟩ := hinv
  intro o ho hpending
  obtain ⟨p, hp, hpaid, -, -, hstatuses⟩ := hcoupled o ho
  have hunpaid := (pending_iff_of_coupled hstatuses).1 hpending
  have hlocked : ∀ r ∈ s.store.seats, r.place ∈ o.seatPlaces →
      r.status = SeatStatus.locked.name ∧ r.holder = some o.ref :=
    fun r hr hP => hs.pending r hr o ho hpending hP
  obtain ⟨order, hload⟩ := OrderRow.toOrder_of_name hpending
  refine ⟨p, hp, hpaid, hunpaid, hlocked, order, hload, fun now hnow => ?_⟩
  obtain ⟨rows, hrows⟩ := OrderRow.issueTickets_rows hload now (s.codes + 1)
  have hc := h.checked h0
  have hcodes := h.codesIssued h0
  exact ⟨rows, hrows, finalizePayment_pending (s := { s with now := now }) hk hc hcodes ho hpending
    (ha o ho) (hs.seated o ho) hlocked hp hpaid hunpaid hnow hload hrows⟩

/-- A run that places one order for a seat: the order is pending, and its payment completes it. -/
theorem paid_orders_complete_after_seat_order :
    let s₀ := Session.start { offers := [⟨1, 1, 1, "Floor", ⟨0⟩, 10, 0⟩],
                              seats := [⟨1, 1, 1, "available", none, none⟩] } ⟨0⟩
    let rules : CheckoutRules := ⟨{}, .finite false 0 0, 15, "usd", .local⟩
    let s := ({ s₀ with now := ⟨0⟩ }.perform
      (.placeOrder rules ⟨1, .buyer⟩ [{ offerId := 1, seatId := some 1 }])).2
    s₀.store.Fresh ∧ (∀ r ∈ s₀.store.seats, ∀ n, r.holder ≠ some (.placed n)) ∧ Reachable s₀ s ∧
      (∃ o ∈ s.store.orders, o.status = OrderStatus.pending.name) ∧
      ∀ o ∈ s.store.orders, o.status = OrderStatus.pending.name →
        ∃ p ∈ s.store.payments, p.order = o.ref ∧ p.status = PaymentStatus.pending.name ∧
          (∀ r ∈ s.store.seats, r.place ∈ o.seatPlaces →
            r.status = SeatStatus.locked.name ∧ r.holder = some o.ref) ∧
          ∃ order, o.toOrder = .ok order ∧ ∀ now : Instant, now.supported = true →
            ∃ rows, (order.issueTickets now (s.codes + 1)).mapM ticketRow = .ok rows ∧
              finalizePayment p.reference { s with now := now } =
                .ok (some (order.issueTickets now (s.codes + 1)))
                  { s with now := now, store := s.store.complete o now rows,
                           codes := s.codes + (order.issueTickets now (s.codes + 1)).length,
                           metrics := s.metrics ++ [.payment .completed] } :=
  have hfresh : Tables.Fresh _ := ⟨by decide, by decide, by decide, rfl, rfl, rfl⟩
  have hforeign : ∀ r ∈ _, ∀ n, SeatRow.holder r ≠ some (.placed n) := by simp [Session.start]
  have hrun : Reachable _ _ := .step (c := .placeOrder ⟨{}, .finite false 0 0, 15, "usd", .local⟩
    ⟨1, .buyer⟩ [{ offerId := 1, seatId := some 1 }]) ⟨0⟩ trivial .start
  ⟨hfresh, hforeign, hrun, by decide +kernel, paid_orders_complete hfresh hforeign hrun⟩

end TicketCheckout
