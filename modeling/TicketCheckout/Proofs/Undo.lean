import TicketCheckout.Proofs.Unwind

/-!
# Giving an order up as soon as it is placed

Placing an order reserves its cart line by line; giving the order up gives its lines back line
by line. When the order is given up right after it was placed, by its buyer's cancel or by the
processor's report that its payment failed, at whatever clock that call sees, the two loops
cancel out: the offers and the seats are exactly those of the store before the order
(`placed_order_given_up_restores_inventory`), as long as every available seat of that store had
no lock and no holder. All that is left of the order is the order itself, cancelled or failed,
and its failed payment (`Tables.Traces`).

The argument has three steps. A placement that returned committed the reservation of its cart,
the order's row and its pending payment (`placeOrder_ok`, `checkout_placed`). The order is then
pending, and everything it took can be given back (`Tables.Unwindable.placed`). Giving it back
undoes the reservation, offer by offer and seat by seat (`Tables.unwind_placed`).
-/

namespace TicketCheckout

open Store Service

namespace Store

theorem SeatRow.free_lock {r : SeatRow} (havailable : r.status = SeatStatus.available.name)
    (hexpiry : r.lockExpiresAt = none) (hholder : r.holder = none) (e : Instant)
    (holder : OrderRef) : (r.lock e holder).free = r := by
  cases r
  simp_all [SeatRow.lock, SeatRow.free]

namespace Tables

/-- What is left of an order placed under `ref` and given up as `target`, against the store `σ`
it was placed in: the same offers, seats and tickets, one more order, under `ref` and moved to
`target`, and one more payment, for it and failed. -/
structure Traces (σ st : Tables) (ref : OrderRef) (target : OrderStatus) : Prop where
  offers : st.offers = σ.offers
  seats : st.seats = σ.seats
  tickets : st.tickets = σ.tickets
  order : ∃ row : OrderRow, st.orders = σ.orders ++ [row] ∧ row.ref = ref ∧
    row.status = target.name
  payment : ∃ q : PaymentRow, st.payments = σ.payments ++ [q] ∧ q.order = ref ∧
    q.status = PaymentStatus.failed.name

section Placed

/-! A store `σ` with unique keys and offers within their bounds, in which a cart was reserved
for a new order `row`, stored with its payment `pay`. -/

variable {σ st₁ : Tables} {ref : OrderRef} {expiresAt : Instant} {lines : List CartLine}
  {ls : List OrderLine} {row : OrderRow} {pay : PaymentRow}
  (hk : σ.Keyed) (hb : σ.Bounded) (hreserve : Reserved ref expiresAt lines σ ls st₁)
  (hlines : ls.mapM lineRow = .ok row.lines) (href : row.ref = ref)
include hk hb hreserve hlines href

/-- An order just placed holds what its cart took: each offer has sold at least the units the
order's lines take of it, and each seat place of the order holds a row locked for it. -/
theorem Unwindable.placed {limits : CartLimits} (hcart : validateCart limits lines = .ok ())
    (hfits : row.Fits) :
    ({ st₁ with orders := st₁.orders ++ [row], payments := st₁.payments ++ [pay] } :
      Tables).Unwindable row := by
  have hrestock := hreserve.restock
  obtain ⟨hoffers, hbounded⟩ := hreserve.stock hk.offer_ids hb
  obtain ⟨hseats, hapart, havailable⟩ := hreserve.seats hk.seat_places
  have hplaces : row.seatPlaces = seatPlacesOf ls := OrderRow.seatPlaces_of_lines hlines
  have hrows := hreserve.lines_offered hcart hlines
  refine ⟨(hk.restock hrestock).offer_ids, hbounded, (hk.restock hrestock).seat_places,
    fun r hr => by have := (hrows r hr).1; omega, hfits,
    fun r hr _ => List.mem_map.1 (hrows r hr).2, ?stock, hplaces ▸ hapart, ?held⟩
  case stock =>
    intro f hf
    rw [unitsTaken_lineRows hlines]
    simp only [hoffers, shiftSold, List.mem_map] at hf
    obtain ⟨g, hg, rfl⟩ := hf
    have := (hb g hg).1
    dsimp only
    omega
  case held =>
    intro P hP
    rw [hplaces] at hP
    obtain ⟨r, hr, hplace, -⟩ := havailable P hP
    refine ⟨r.lock expiresAt ref, ?_, hplace, rfl, by rw [href]; rfl⟩
    rw [hseats]
    exact List.mem_map.2 ⟨r, hr, by rw [if_pos (hplace ▸ hP)]⟩

/-- Giving up an order just placed undoes its reservation: the offers, seats and tickets are
those of the store it was placed in, when every available seat there had no lock and no
holder, and the order and its payment are all that is left of it. -/
theorem unwind_placed
    (havailable : ∀ r ∈ σ.seats, r.status = SeatStatus.available.name →
      r.lockExpiresAt = none ∧ r.holder = none)
    (hfresh : ∀ o ∈ st₁.orders, o.ref ≠ row.ref) (hpaid : pay.order = ref)
    (hpfresh : ∀ q ∈ st₁.payments, q.order ≠ pay.order) (target : OrderStatus) (now : Instant) :
    Traces σ (({ st₁ with orders := st₁.orders ++ [row], payments := st₁.payments ++ [pay] } :
      Tables).unwind row target now) ref target := by
  have hrestock := hreserve.restock
  obtain ⟨hoffers, -⟩ := hreserve.stock hk.offer_ids hb
  obtain ⟨hseats, -, hreserved⟩ := hreserve.seats hk.seat_places
  have hplaces : row.seatPlaces = seatPlacesOf ls := OrderRow.seatPlaces_of_lines hlines
  refine ⟨?offers, ?seats, hrestock.tickets, ⟨row.withStatus target now, ?orders, href, rfl⟩,
    ⟨pay.withStatus .failed, ?payments, hpaid, rfl⟩⟩
  case offers =>
    -- the units the lines took and the units they give back add up to nothing
    have hzero : (fun id => unitsTaken id ls + -unitsTaken id (row.lines.map LineRow.toLine)) =
        fun _ => 0 := by
      funext id
      rw [unitsTaken_lineRows hlines]
      omega
    simp only [unwind]
    rw [hoffers, shiftSold_shiftSold, hzero, shiftSold_zero]
  case seats =>
    simp only [unwind]
    rw [hseats, List.map_map, hplaces]
    conv_rhs => rw [← List.map_id σ.seats]
    refine List.map_congr_left fun r hr => ?_
    by_cases hP : r.place ∈ seatPlacesOf ls
    · -- the one row at a reserved place was available, with no lock
      obtain ⟨r', hr', hplace, hfree⟩ := hreserved _ hP
      obtain rfl : r' = r := List.inj_on_of_nodup_map hk.seat_places hr' hr hplace
      obtain ⟨hexpiry, hholder⟩ := havailable r' hr' hfree
      simp [hP, SeatRow.free_lock hfree hexpiry hholder]
    · simp [hP]
  case orders =>
    simp only [unwind, List.map_append, List.map_singleton, hrestock.orders]
    congr 1
    conv_rhs => rw [← List.map_id σ.orders]
    refine List.map_congr_left fun x hx => if_neg ?_
    exact hfresh x (hrestock.orders ▸ hx)
  case payments =>
    have hown : pay.order = row.ref := hpaid.trans href.symm
    simp only [unwind, List.map_append, List.map_singleton, hown, if_pos, hrestock.payments]
    congr 1
    conv_rhs => rw [← List.map_id σ.payments]
    refine List.map_congr_left fun q hq => if_neg ?_
    rw [href, ← hpaid]
    exact hpfresh q (hrestock.payments ▸ hq)

end Placed

end Tables

end Store

namespace Service

variable {rules : CheckoutRules} {buyer : Principal} {lines : List CartLine}


/-- A clock read that returned read the session's clock, which is within the supported years. -/
theorem now_ok {s s' : Session} {t : Instant} (h : Service.now s = .ok t s') :
    t = s.now ∧ s' = s ∧ s.now.supported = true := by
  simp only [Service.now, bind, EStateM.bind, get, getThe, MonadStateOf.get, EStateM.get] at h
  split at h
  · cases h
    exact ⟨rfl, rfl, by assumption⟩
  · cases h

/-- A checkout that returned committed the reservation of its cart for the next order, the
order's row and its pending payment, in that order. -/
theorem checkout_placed {s s' : Session} {p : Placement}
    (h : checkout rules buyer lines s = .ok p s') :
    ∃ expiresAt ls st₁ row payment,
      Reserved (.placed (s.placed + 1)) expiresAt lines s.store ls st₁ ∧
      Order.place (.placed (s.placed + 1)) buyer.id ls rules.feePerTicket rules.currency expiresAt
        s.now = .ok p.order ∧ orderRow p.order = .ok row ∧
      st₁.insertOrder row = .ok { st₁ with orders := st₁.orders ++ [row] } ∧
      storeAmount p.order.total = .ok payment.amountCharged ∧
      (payment.order = .placed (s.placed + 1) ∧ payment.status = PaymentStatus.pending.name ∧
        payment.currency = p.order.currency) ∧
      ({ st₁ with orders := st₁.orders ++ [row] } : Tables).insertPayment payment = .ok s'.store := by
  unfold checkout at h
  obtain ⟨now, s₀, h₀, h⟩ := bind_ok h
  obtain ⟨rfl, rfl, -⟩ := now_ok h₀
  dsimp only at h
  cases hwindow : s₀.now.addMinutes rules.windowMinutes with
  | none =>
    simp only [hwindow] at h
    exact absurd h bind_fail_ok
  | some expiresAt =>
    simp only [hwindow, pure_bind] at h
    unfold atomically at h
    split at h
    case h_2 => cases h
    rename_i a s₂ hbody
    cases h
    obtain ⟨_, s₃, h₃, hbody⟩ := bind_ok hbody
    cases h₃
    obtain ⟨ls, s₁, h₁, hbody⟩ := bind_ok hbody
    have hreserve := reserveLines_ok h₁
    obtain ⟨order, hprice, hbody⟩ := bind_lift_ok hbody
    obtain ⟨st₂, hins, hbody⟩ := bind_write_ok hbody
    obtain ⟨row, hrow, horder⟩ := exceptBind_ok hins
    obtain ⟨amount, _, hbody⟩ := bind_lift_ok hbody
    obtain ⟨intent, s₂, h₂, hbody⟩ := bind_ok hbody
    have hs₂ := openIntent_ok h₂
    obtain ⟨charged, hcharge, hbody⟩ := bind_lift_ok hbody
    obtain ⟨reference, _, hbody⟩ := bind_lift_ok hbody
    obtain ⟨st₃, hpay, hbody⟩ := bind_write_ok hbody
    obtain ⟨_, s₃, h₃, hbody⟩ := bind_ok hbody
    cases h₃
    obtain ⟨_, s₄, h₄, hbody⟩ := bind_ok hbody
    cases h₄
    cases hbody
    obtain ⟨rfl, -⟩ := Tables.insertOrder_ok horder
    rw [hs₂] at hpay
    exact ⟨expiresAt, ls, s₁.store, row, _, hreserve, hprice, hrow, horder, hcharge,
      ⟨rfl, rfl, rfl⟩, hpay⟩


/-- A placement that returned passed validation and a checkout that returned, and kept the store
the checkout left. -/
theorem placeOrder_ok {s s' : Session} {p : Placement}
    (h : placeOrder rules buyer lines s = .ok p s') :
    validateCart rules.limits lines = .ok () ∧
      ∃ s₁, checkout rules buyer lines s = .ok p s₁ ∧ s'.store = s₁.store := by
  have hrun := placeOrder_run rules buyer lines (s := s)
  cases hv : validateCart rules.limits lines with
  | error e =>
    rw [hv] at hrun
    obtain ⟨s₁, hs₁⟩ := hrun
    rw [h] at hs₁
    cases hs₁
  | ok u =>
    rw [bind_lift_of_ok hv] at hrun
    cases hc : checkout rules buyer lines s with
    | ok p' s₁ =>
      rw [hc] at hrun
      rw [h] at hrun
      cases hrun
      exact ⟨rfl, s₁, rfl, rfl⟩
    | error e s₁ =>
      rw [hc] at hrun
      obtain ⟨s₂, hs₂⟩ := hrun
      rw [h] at hs₂
      cases hs₂

end Service

open Tables in
/-- An order given up right after it was placed, by its buyer's cancel or by the report that its
payment failed, at any supported clock, is given up without fail and leaves the offers and the
seats exactly as they were before it was placed, from a store with unique keys, offers within
their bounds and no lock on an available seat; the order, cancelled or failed, and its failed
payment are all that is left of it. -/
theorem placed_order_given_up_restores_inventory {s : Session} (hk : s.store.Keyed)
    (hb : s.store.Bounded)
    (havailable : ∀ r ∈ s.store.seats, r.status = SeatStatus.available.name →
      r.lockExpiresAt = none ∧ r.holder = none)
    {rules : CheckoutRules} {buyer : Principal} {lines : List CartLine} {p : Placement}
    {s₁ : Session} (hplace : placeOrder rules buyer lines s = .ok p s₁) {t : Instant}
    (ht : t.supported = true) :
    (∃ cancelled s₂, cancelOrder buyer p.order.ref { s₁ with now := t } = .ok cancelled s₂ ∧
      cancelled.status = .cancelled ∧ s.store.Traces s₂.store p.order.ref .cancelled) ∧
    ∀ q ∈ s₁.store.payments, q.order = p.order.ref →
      ∃ failed s₂, failPayment q.reference { s₁ with now := t } = .ok (some failed) s₂ ∧
        failed.status = .failed ∧ s.store.Traces s₂.store p.order.ref .failed := by
  obtain ⟨hv, s', hcheckout, hstore⟩ := placeOrder_ok hplace
  obtain ⟨expiresAt, ls, st₁, row, pay, hreserve, hprice, hrow, horder, hcharge, hpayment, hpay⟩ :=
    checkout_placed hcheckout
  obtain ⟨-, hfresh⟩ := insertOrder_ok horder
  obtain ⟨hst, hpfresh⟩ := insertPayment_ok hpay
  -- the placement committed the reservation, the order's row and its pending payment
  have hs₁ : s₁.store =
      { st₁ with orders := st₁.orders ++ [row], payments := st₁.payments ++ [pay] } :=
    hstore.trans hst
  have hk₁ : s₁.store.Keyed :=
    (hs₁ ▸ Move.place hv hreserve hprice hrow hfresh hcharge hpayment hpfresh).keyed hk
  obtain ⟨href, huser, hstatus, -, -, -, -, hlines⟩ := orderRow_ok hrow
  obtain ⟨pricing, -, hplaced⟩ := Order.place_ok hprice
  rw [hplaced] at hlines hstatus huser href
  dsimp only at hlines hstatus huser href
  have hpending : row.status = OrderStatus.pending.name := hstatus
  have hu : s₁.store.Unwindable row :=
    hs₁ ▸ Unwindable.placed hk hb hreserve hlines href hv (insertOrder_fits horder)
  have hrow_mem : row ∈ s₁.store.orders := by simp [hs₁]
  have hpay_mem : pay ∈ s₁.store.payments := by simp [hs₁]
  have hpaid : pay.order = row.ref := hpayment.1.trans href.symm
  have htraces := unwind_placed hk hb hreserve hlines href havailable hfresh hpayment.1
    fun q hq => (hpfresh q hq).1
  have hpref : p.order.ref = row.ref := by rw [hplaced, href]
  obtain ⟨order, hload⟩ := OrderRow.toOrder_of_name hpending
  refine ⟨?cancel, fun q hq hqo => ?fail⟩
  case cancel =>
    -- the buyer may cancel the order it placed
    have hcaller : buyer.canAccess row.userId = true := by
      rw [huser]
      exact Principal.canAccess_self buyer
    rw [hpref]
    refine ⟨_, _, cancelOrder_pending (s := { s₁ with now := t }) hk₁ hrow_mem hpending hu
      hpay_mem hpaid hpayment.2.1 hload ht hcaller, rfl, ?_⟩
    rw [← href] at htraces
    exact hs₁ ▸ htraces .cancelled t
  case fail =>
    -- the payment of the order is the one stored with it
    obtain rfl : q = pay := List.inj_on_of_nodup_map hk₁.payment_orders hq hpay_mem
      (hqo.trans (hpref.trans hpaid.symm))
    rw [hpref]
    refine ⟨_, _, failPayment_pending (s := { s₁ with now := t }) hk₁ hrow_mem hpending hu
      hq hpaid hpayment.2.1 hload ht, rfl, ?_⟩
    rw [← href] at htraces
    exact hs₁ ▸ htraces .failed t

/-- A cart of one seat and two general-admission units, placed and given up at once. -/
theorem seat_and_units_given_up_restore_inventory :
    let s : Session := Session.start
      { offers := [⟨1, 1, 1, "Floor", ⟨0⟩, 10, 0⟩, ⟨2, 1, 2, "General", ⟨0⟩, 5, 1⟩],
        seats := [⟨1, 1, 1, "available", none, none⟩, ⟨1, 2, 1, "available", none, none⟩] } ⟨0⟩
    let rules : CheckoutRules := ⟨{}, .finite false 0 0, 15, "usd", .local⟩
    let lines : List CartLine := [{ offerId := 1, seatId := some 1 }, { offerId := 2, quantity := 2 }]
    s.store.Keyed ∧ s.store.Bounded ∧
      (∀ r ∈ s.store.seats, r.status = SeatStatus.available.name →
        r.lockExpiresAt = none ∧ r.holder = none) ∧ Instant.supported ⟨60⟩ = true ∧
      match placeOrder rules ⟨1, .buyer⟩ lines s with
      | .ok p s₁ =>
        (∃ cancelled s₂, cancelOrder ⟨1, .buyer⟩ p.order.ref { s₁ with now := ⟨60⟩ } =
            .ok cancelled s₂ ∧ cancelled.status = .cancelled ∧
          s.store.Traces s₂.store p.order.ref .cancelled) ∧
        ∀ q ∈ s₁.store.payments, q.order = p.order.ref →
          ∃ failed s₂, failPayment q.reference { s₁ with now := ⟨60⟩ } = .ok (some failed) s₂ ∧
            failed.status = .failed ∧ s.store.Traces s₂.store p.order.ref .failed
      | .error _ _ => False := by
  intro s rules lines
  have hk : s.store.Keyed := ⟨by decide, by decide, by decide, by decide, by decide⟩
  have hb : s.store.Bounded := by simp [Tables.Bounded, s, Session.start]
  have havailable : ∀ r ∈ s.store.seats, r.status = SeatStatus.available.name →
      r.lockExpiresAt = none ∧ r.holder = none := by
    simp [s, Session.start]
  have hplaced : (match placeOrder rules ⟨1, .buyer⟩ lines s with
      | .ok _ _ => true
      | .error _ _ => false) = true := by decide +kernel
  refine ⟨hk, hb, havailable, by decide, ?_⟩
  revert hplaced
  cases hplace : placeOrder rules ⟨1, .buyer⟩ lines s with
  | ok p s₁ => exact fun _ => placed_order_given_up_restores_inventory hk hb havailable hplace rfl
  | error e s' => exact fun h => Bool.false_ne_true h

end TicketCheckout
