import TicketCheckout.Proofs.Admission
import Mathlib.Data.List.Nodup

/-!
# Seats follow the orders

Along a run, a seat row is locked for an order exactly while the order is pending with a seat
line at the row's place, with the lock running until the order's expiry, and it is sold to the
order exactly once the order is completed (`Tables.SeatsHeld`, kept by every move:
`Tables.Move.seatsHeld`). Placing an order locks the one available row at each place of its seat
lines (`Reserved.seats`); completing it sells the rows locked for it, and failing or cancelling
it frees them (`Released.seats`); the sweep of expired locks skips every lock of a pending order.
No move touches a sold row (`Tables.Move.soldKept`).

Main statement: `seats_follow_orders`.
-/

namespace TicketCheckout

open Store Number

/-- The places of the seat lines among order lines, in line order. -/
def seatPlacesOf (ls : List OrderLine) : List (Int × Int) :=
  ls.filterMap fun l => l.seatId.map fun s => (l.eventId, s)

theorem seatPlacesOf_cons_none {l : OrderLine} (h : l.seatId = none) (ls : List OrderLine) :
    seatPlacesOf (l :: ls) = seatPlacesOf ls := by
  simp [seatPlacesOf, h]

theorem seatPlacesOf_cons_some {l : OrderLine} {seat : Int} (h : l.seatId = some seat)
    (ls : List OrderLine) : seatPlacesOf (l :: ls) = (l.eventId, seat) :: seatPlacesOf ls := by
  simp [seatPlacesOf, h]

namespace Store

/-- The places of an order's seat lines, in line order. -/
def OrderRow.seatPlaces (o : OrderRow) : List (Int × Int) :=
  o.lines.filterMap fun l => l.seatId.map fun s => (l.eventId, s)

/-- Whether a row is locked for `holder` at one of `places`: the rows that selling or giving back
an order's seats touch. -/
def SeatRow.lockedFor (holder : OrderRef) (places : List (Int × Int)) (r : SeatRow) : Bool :=
  (places.any fun p => r.isAt p.1 p.2) && r.status == SeatStatus.locked.name &&
    r.holder == some holder

theorem SeatRow.isAt_iff (r : SeatRow) (eventId seatId : Int) :
    r.isAt eventId seatId = true ↔ r.place = (eventId, seatId) := by
  simp [SeatRow.isAt, SeatRow.place]

theorem SeatRow.lockedFor_iff (holder : OrderRef) (places : List (Int × Int)) (r : SeatRow) :
    r.lockedFor holder places = true ↔
      r.place ∈ places ∧ r.status = SeatStatus.locked.name ∧ r.holder = some holder := by
  simp only [SeatRow.lockedFor, Bool.and_eq_true, List.any_eq_true, isAt_iff, beq_iff_eq]
  constructor
  · rintro ⟨⟨⟨p, hp, hplace⟩, hlocked⟩, hholder⟩
    exact ⟨hplace ▸ hp, hlocked, hholder⟩
  · rintro ⟨hp, hlocked, hholder⟩
    exact ⟨⟨⟨r.place, hp, rfl⟩, hlocked⟩, hholder⟩

@[simp] theorem OrderRow.seatPlaces_withStatus (target : OrderStatus) (now : Instant)
    (o : OrderRow) : (o.withStatus target now).seatPlaces = o.seatPlaces := rfl

theorem OrderRow.seatPlaces_toLine (o : OrderRow) :
    seatPlacesOf (o.lines.map LineRow.toLine) = o.seatPlaces := by
  simp [seatPlacesOf, OrderRow.seatPlaces, List.filterMap_map, Function.comp_def, LineRow.toLine]

theorem mem_map_guarded {g : SeatRow → Bool} {f : SeatRow → SeatRow} {l : List SeatRow}
    {r' : SeatRow} :
    r' ∈ l.map (fun r => if g r then f r else r) ↔
      ∃ r ∈ l, (g r = true ∧ r' = f r) ∨ (g r = false ∧ r' = r) := by
  simp only [List.mem_map]
  constructor
  · rintro ⟨r, hr, rfl⟩
    refine ⟨r, hr, ?_⟩
    cases hg : g r <;> simp
  · rintro ⟨r, hr, ⟨hg, rfl⟩ | ⟨hg, rfl⟩⟩
    · exact ⟨r, hr, by simp [hg]⟩
    · exact ⟨r', hr, by simp [hg]⟩

/-! ## What placing and giving back do to the seats -/

/-- In a store whose seat places are unique, locking a seat that succeeds locks the one row at
its place, which was available. -/
theorem Tables.lockSeat_place {st st' : Tables} (hk : (st.seats.map SeatRow.place).Nodup)
    {eventId seatId tierId : Int} {expiresAt : Instant} {holder : OrderRef}
    (h : st.lockSeat eventId seatId tierId expiresAt holder = .ok st') :
    st'.seats = st.seats.map (fun r => if r.place = (eventId, seatId) then r.lock expiresAt holder
      else r) ∧
      ∃ r ∈ st.seats, r.place = (eventId, seatId) ∧ r.status = SeatStatus.available.name := by
  obtain ⟨rfl, r₀, hr₀, hat, htier, havailable⟩ := Tables.lockSeat_ok h
  rw [SeatRow.isAt_iff] at hat
  refine ⟨List.map_congr_left fun r hr => ?_, r₀, hr₀, hat, havailable⟩
  by_cases hplace : r.place = (eventId, seatId)
  · -- the one row at the place is the available row of the tier
    obtain rfl : r = r₀ := List.inj_on_of_nodup_map hk hr hr₀ (hplace.trans hat.symm)
    simp [hplace, SeatRow.isAt_iff, htier, havailable]
  · have hnot : r.isAt eventId seatId = false :=
      Bool.eq_false_iff.2 fun hat => hplace ((SeatRow.isAt_iff _ _ _).1 hat)
    simp [hplace, hnot]

end Store

/-- Reserving a cart locks, for the order, the one row at each place of its seat lines, each
available before and each place once; no other seat changes. -/
theorem Reserved.seats {ref : OrderRef} {expiresAt : Instant} {lines : List CartLine}
    {st st' : Tables} {ls : List OrderLine} (h : Reserved ref expiresAt lines st ls st')
    (hk : (st.seats.map SeatRow.place).Nodup) :
    st'.seats = st.seats.map (fun r => if r.place ∈ seatPlacesOf ls then r.lock expiresAt ref
      else r) ∧ (seatPlacesOf ls).Nodup ∧
      ∀ P ∈ seatPlacesOf ls, ∃ r ∈ st.seats, r.place = P ∧
        r.status = SeatStatus.available.name := by
  induction h with
  | nil st => exact ⟨by simp [seatPlacesOf], by simp [seatPlacesOf], by simp [seatPlacesOf]⟩
  | @cons line rest st st₁ st₂ offer ls hoffer htake hrest ih =>
    have hk₁ : (st₁.seats.map SeatRow.place).Nodup := by
      rw [(Reserved.restock (.cons hoffer htake (.nil st₁))).seat_places]
      exact hk
    obtain ⟨hseats, hnodup, havailable⟩ := ih hk₁
    cases hseat : line.seatId with
    | none =>
      -- a general-admission line touches no seat
      simp only [hseat] at htake
      obtain ⟨r, -, -, -, rfl⟩ := Tables.reserve_ok htake
      rw [seatPlacesOf_cons_none rfl]
      exact ⟨hseats, hnodup, havailable⟩
    | some seat =>
      simp only [hseat] at htake
      obtain ⟨hlocked, r₀, hr₀, hplace₀, havailable₀⟩ := Tables.lockSeat_place hk htake
      -- the seat's row is locked after the first line, so no later line names its place
      have hfresh : (offer.eventId, seat) ∉ seatPlacesOf ls := by
        intro hmem
        obtain ⟨r₁, hr₁, hplace₁, havailable₁⟩ := havailable _ hmem
        rw [hlocked] at hr₁
        obtain ⟨r, -, hr⟩ := List.mem_map.1 hr₁
        by_cases hr' : r.place = (offer.eventId, seat)
        · rw [if_pos hr'] at hr
          subst hr
          simp at havailable₁
        · rw [if_neg hr'] at hr
          subst hr
          exact hr' hplace₁
      rw [seatPlacesOf_cons_some rfl]
      refine ⟨?_, List.nodup_cons.2 ⟨hfresh, hnodup⟩, ?_⟩
      · rw [hseats, hlocked, List.map_map]
        refine List.map_congr_left fun r _ => ?_
        by_cases hr : r.place = (offer.eventId, seat)
        · simp [hr, hfresh, SeatRow.lock]
        · simp [hr]
      · intro P hP
        rcases List.mem_cons.1 hP with rfl | hP
        · exact ⟨r₀, hr₀, hplace₀, havailable₀⟩
        · obtain ⟨r₁, hr₁, hplace₁, havailable₁⟩ := havailable P hP
          rw [hlocked] at hr₁
          obtain ⟨r, hr, hr'⟩ := List.mem_map.1 hr₁
          have hne : r.place ≠ (offer.eventId, seat) := by
            intro he
            rw [if_pos he] at hr'
            subst hr'
            simp at havailable₁
          rw [if_neg hne] at hr'
          subst hr'
          exact ⟨r, hr, hplace₁, havailable₁⟩

/-- Giving an order's lines back frees exactly the rows the order has locked at the places of its
seat lines; no other seat changes. -/
theorem Released.seats {holder : OrderRef} {ls : List OrderLine} {st st' : Tables}
    (h : Released holder ls st st') :
    st'.seats = st.seats.map fun r => if r.lockedFor holder (seatPlacesOf ls) then r.free else r := by
  induction h with
  | nil st =>
    have hnone : ∀ r : SeatRow, r.lockedFor holder (seatPlacesOf []) = false := by
      intro r
      simp [SeatRow.lockedFor, seatPlacesOf]
    simp [hnone]
  | @units l rest st st₁ st₂ hseat hrelease hrest ih =>
    obtain ⟨r, -, -, -, rfl⟩ := Tables.release_ok hrelease
    rw [ih, seatPlacesOf_cons_none hseat]
    rfl
  | @unlocked l rest st st₁ st₂ seat hseat hunlock hrest ih =>
    rw [ih, Tables.unlockSeat_ok hunlock, Tables.updateSeats_fst, List.map_map,
      seatPlacesOf_cons_some hseat]
    refine List.map_congr_left fun r _ => ?_
    -- a freed row is no longer locked, so the later lines leave it free
    by_cases hr : (r.isAt l.eventId seat && r.status == SeatStatus.locked.name &&
        r.holder == some holder) = true
    · have hfree : r.free.lockedFor holder (seatPlacesOf rest) = false := by
        simp [SeatRow.lockedFor]
      have hnow : r.lockedFor holder ((l.eventId, seat) :: seatPlacesOf rest) = true := by
        simp only [Bool.and_eq_true, beq_iff_eq] at hr
        simp [SeatRow.lockedFor, hr]
      simp only [Function.comp_apply]
      rw [if_pos hr, if_neg (by simp [hfree]), if_pos hnow]
    · have hnow : r.lockedFor holder ((l.eventId, seat) :: seatPlacesOf rest) =
          r.lockedFor holder (seatPlacesOf rest) := by
        simp only [Bool.and_eq_true, beq_iff_eq, not_and] at hr
        by_cases hat : r.isAt l.eventId seat = true
        · by_cases hlocked : r.status = SeatStatus.locked.name
          · have hother : (r.holder == some holder) = false := by simpa using hr ⟨hat, hlocked⟩
            simp [SeatRow.lockedFor, hother]
          · have hunlocked : (r.status == SeatStatus.locked.name) = false := by simpa using hlocked
            simp [SeatRow.lockedFor, hunlocked]
        · simp [SeatRow.lockedFor, hat]
      simp only [Function.comp_apply]
      rw [if_neg hr, hnow]
  | @skipped l rest st st₂ seat message hseat hunlock hrest ih =>
    have htaken := Tables.unlockSeat_seatTaken hunlock
    rw [ih, seatPlacesOf_cons_some hseat]
    refine List.map_congr_left fun r hr => ?_
    -- the holder has no lock at the skipped place, so naming it changes nothing
    have hsame : r.lockedFor holder ((l.eventId, seat) :: seatPlacesOf rest) =
        r.lockedFor holder (seatPlacesOf rest) := by
      by_cases hat : r.isAt l.eventId seat = true
      · by_cases hlocked : r.status = SeatStatus.locked.name
        · have hother : (r.holder == some holder) = false := by
            simpa using htaken r hr hat hlocked
          simp [SeatRow.lockedFor, hother]
        · have hunlocked : (r.status == SeatStatus.locked.name) = false := by simpa using hlocked
          simp [SeatRow.lockedFor, hunlocked]
      · simp [SeatRow.lockedFor, hat]
    simp [hsame]

theorem Order.moveTo_lines {o o' : Order} {action : OrderAction} {now : Instant}
    (h : o.moveTo action now = .ok o') : o'.lines = o.lines := by
  unfold Order.moveTo at h
  split at h
  · cases h
    rfl
  · cases h

namespace Store

/-- Stored lines keep the places of the seat lines. -/
theorem OrderRow.seatPlaces_of_lines {ls : List OrderLine} {o : OrderRow}
    (h : ls.mapM lineRow = .ok o.lines) : o.seatPlaces = seatPlacesOf ls := by
  unfold OrderRow.seatPlaces
  have hrows := lineRows_forall₂ h
  clear h
  generalize o.lines = rows at hrows ⊢
  induction hrows with
  | nil => rfl
  | @cons l r ls rows hlr _ ih =>
    obtain ⟨-, hevent, -, hseat, -, -⟩ := lineRow_ok hlr
    cases hl : l.seatId with
    | none => simp [hseat, hl, ih, seatPlacesOf_cons_none hl]
    | some seat => simp [hseat, hl, hevent, ih, seatPlacesOf_cons_some hl]

theorem OrderRow.orderSeats_of_moveTo {o : OrderRow} {order order' : Order}
    {action : OrderAction} {now : Instant} (hload : o.toOrder = .ok order)
    (hmove : order.moveTo action now = .ok order') : Service.orderSeats order' = o.seatPlaces := by
  obtain ⟨-, -, -, -, -, hlines⟩ := OrderRow.toOrder_ok hload
  rw [← OrderRow.seatPlaces_toLine, ← hlines, ← Order.moveTo_lines hmove]
  rfl

end Store

/-! ## Seats follow the orders -/

namespace Store.Tables

variable {st st' : Tables}

/-- After a pending pair leaves pending, the orders are the moved order and the others, which
keep their rows. -/
theorem PairMoved.mem_orders {st₁ : Tables} {o : OrderRow} {p : PaymentRow} {target : OrderStatus}
    {pay : PaymentStatus} {now : Instant} (h : st.PairMoved st₁ o p target pay now)
    {x : OrderRow} : x ∈ st₁.orders ↔ x = o.withStatus target now ∨ (x ∈ st.orders ∧ x.ref ≠ o.ref) := by
  obtain ⟨pre, post, hsplit, hothers, hst₁⟩ := h.orders
  rw [hst₁, mem_split, hsplit, mem_split]
  constructor
  · rintro (rfl | hx)
    · exact .inl rfl
    · exact .inr ⟨.inr hx, hothers x hx⟩
  · rintro (rfl | ⟨rfl | hx, hne⟩)
    · exact .inl rfl
    · exact absurd rfl hne
    · exact .inr hx

theorem PairMoved.order_mem {st₁ : Tables} {o : OrderRow} {p : PaymentRow}
    {target : OrderStatus} {pay : PaymentStatus} {now : Instant}
    (h : st.PairMoved st₁ o p target pay now) : o ∈ st.orders := by
  obtain ⟨pre, post, hsplit, -, -⟩ := h.orders
  rw [hsplit]
  exact mem_split.2 (.inl rfl)

/-- The seat rows follow the orders of the run. A row held for an order of the run belongs to an
order of the store; a row held for an order of the store is at a place of one of its seat lines,
and is locked until the order's expiry while the order is pending, or sold once it is completed;
a pending order holds every row at its seat places locked, a completed one sold; and every seat
line has a row at its place. -/
structure SeatsHeld (st : Tables) : Prop where
  holders : ∀ r ∈ st.seats, ∀ n, r.holder = some (.placed n) → ∃ o ∈ st.orders, o.ref = .placed n
  held : ∀ r ∈ st.seats, ∀ o ∈ st.orders, r.holder = some o.ref →
    r.place ∈ o.seatPlaces ∧
      (r.status = SeatStatus.locked.name ∧ o.status = OrderStatus.pending.name ∧
        r.lockExpiresAt = some o.expiresAt ∨
       r.status = SeatStatus.sold.name ∧ o.status = OrderStatus.completed.name)
  pending : ∀ r ∈ st.seats, ∀ o ∈ st.orders, o.status = OrderStatus.pending.name →
    r.place ∈ o.seatPlaces → r.status = SeatStatus.locked.name ∧ r.holder = some o.ref
  completed : ∀ r ∈ st.seats, ∀ o ∈ st.orders, o.status = OrderStatus.completed.name →
    r.place ∈ o.seatPlaces → r.status = SeatStatus.sold.name ∧ r.holder = some o.ref
  seated : ∀ o ∈ st.orders, ∀ P ∈ o.seatPlaces, ∃ r ∈ st.seats, r.place = P

theorem Fresh.seatsHeld (h : st.Fresh)
    (hforeign : ∀ r ∈ st.seats, ∀ n, r.holder ≠ some (.placed n)) : st.SeatsHeld := by
  refine ⟨fun r hr n hn => absurd hn (hforeign r hr n), ?_, ?_, ?_, ?_⟩ <;>
    simp [h.no_orders]

theorem holderPending_of_pending {o : OrderRow} (ho : o ∈ st.orders)
    (hpending : o.status = OrderStatus.pending.name) : st.holderPending (some o.ref) = true := by
  simp only [holderPending, List.any_eq_true, Bool.and_eq_true, beq_iff_eq]
  exact ⟨o, ho, rfl, hpending⟩

/-- Releasing expired locks never touches a lock of a pending order, nor a sold seat. -/
theorem SeatsHeld.releaseLocks (hs : st.SeatsHeld) (now : Instant) :
    (st.releaseExpiredLocks now).1.SeatsHeld := by
  have hmem : ∀ {r'}, r' ∈ (st.releaseExpiredLocks now).1.seats → ∃ r ∈ st.seats,
      (r.status = SeatStatus.locked.name ∧ st.holderPending r.holder = false ∧ r' = r.free) ∨
        r' = r := by
    intro r' hr'
    obtain ⟨r, hr, ⟨hg, rfl⟩ | ⟨-, rfl⟩⟩ := mem_map_guarded.1 hr'
    · simp only [Bool.and_eq_true, beq_iff_eq, Bool.not_eq_true'] at hg
      exact ⟨r, hr, .inl ⟨hg.1.1, hg.2, rfl⟩⟩
    · exact ⟨_, hr, .inr rfl⟩
  constructor
  · intro r' hr' n hn
    obtain ⟨r, hr, ⟨-, -, rfl⟩ | rfl⟩ := hmem hr'
    · simp at hn
    · exact hs.holders _ hr n hn
  · intro r' hr' o ho hn
    obtain ⟨r, hr, ⟨-, -, rfl⟩ | rfl⟩ := hmem hr'
    · simp at hn
    · exact hs.held _ hr o ho hn
  · intro r' hr' o ho hpending hplace
    obtain ⟨r, hr, ⟨-, hfree, rfl⟩ | rfl⟩ := hmem hr'
    · -- a row held for a pending order is not released
      obtain ⟨-, hholder⟩ := hs.pending r hr o ho hpending hplace
      rw [hholder, holderPending_of_pending (show o ∈ st.orders from ho) hpending] at hfree
      cases hfree
    · exact hs.pending _ hr o ho hpending hplace
  · intro r' hr' o ho hcompleted hplace
    obtain ⟨r, hr, ⟨hlocked, -, rfl⟩ | rfl⟩ := hmem hr'
    · obtain ⟨hsold, -⟩ := hs.completed r hr o ho hcompleted hplace
      rw [hsold] at hlocked
      simp at hlocked
    · exact hs.completed _ hr o ho hcompleted hplace
  · intro o ho P hP
    obtain ⟨r, hr, rfl⟩ := hs.seated o ho P hP
    by_cases hg : (r.status == SeatStatus.locked.name &&
        r.lockExpiresAt.any (fun e => decide (e < now)) && !st.holderPending r.holder) = true
    · exact ⟨r.free, List.mem_map.2 ⟨r, hr, by rw [if_pos hg]; rfl⟩, rfl⟩
    · exact ⟨r, List.mem_map.2 ⟨r, hr, by rw [if_neg hg]⟩, rfl⟩

/-- Placing an order locks its seats for it alone: they were available, and no seat was held for
its reference before. -/
theorem SeatsHeld.place (hk : st.Keyed) (hs : st.SeatsHeld) {n : Nat} {expiresAt : Instant}
    {lines : List CartLine} {ls : List OrderLine} {st₁ : Tables}
    (hreserve : Reserved (.placed n) expiresAt lines st ls st₁) {row : OrderRow}
    (href : row.ref = .placed n) (hpending : row.status = OrderStatus.pending.name)
    (hexpiry : row.expiresAt = expiresAt) (hplaces : row.seatPlaces = seatPlacesOf ls)
    (hfresh : ∀ o ∈ st₁.orders, o.ref ≠ row.ref) (payments : List PaymentRow) :
    ({ st₁ with orders := st₁.orders ++ [row], payments }).SeatsHeld := by
  obtain ⟨hseats, -, havailable⟩ := hreserve.seats hk.seat_places
  have hrestock := hreserve.restock
  rw [hrestock.orders] at hfresh
  -- the one row at a place of the cart was available
  have hfree : ∀ r ∈ st.seats, r.place ∈ seatPlacesOf ls → r.status = SeatStatus.available.name := by
    intro r hr hP
    obtain ⟨r₀, hr₀, hplace₀, havailable₀⟩ := havailable _ hP
    obtain rfl : r = r₀ := List.inj_on_of_nodup_map hk.seat_places hr hr₀ (hplace₀ ▸ rfl)
    exact havailable₀
  -- no seat was held for the new order's reference
  have hnew : ∀ r ∈ st.seats, r.holder ≠ some row.ref := by
    intro r hr hheld
    rw [href] at hheld
    obtain ⟨o, ho, horef⟩ := hs.holders r hr n hheld
    exact hfresh o ho (horef.trans href.symm)
  have hmem : ∀ {r'}, r' ∈ st₁.seats → ∃ r ∈ st.seats,
      (r.place ∈ seatPlacesOf ls ∧ r' = r.lock expiresAt (.placed n)) ∨
        (r.place ∉ seatPlacesOf ls ∧ r' = r) := by
    intro r' hr'
    rw [hseats] at hr'
    obtain ⟨r, hr, rfl⟩ := List.mem_map.1 hr'
    by_cases hP : r.place ∈ seatPlacesOf ls
    · exact ⟨r, hr, .inl ⟨hP, if_pos hP⟩⟩
    · exact ⟨r, hr, .inr ⟨hP, if_neg hP⟩⟩
  have horders : ∀ {x}, x ∈ st₁.orders ++ [row] ↔ x ∈ st.orders ∨ x = row := by
    intro x
    rw [hrestock.orders, List.mem_append, List.mem_singleton]
  constructor
  · intro r' hr' k hk'
    obtain ⟨r, hr, ⟨-, rfl⟩ | ⟨-, rfl⟩⟩ := hmem hr'
    · exact ⟨row, horders.2 (.inr rfl), by simpa [href] using hk'⟩
    · obtain ⟨o, ho, horef⟩ := hs.holders _ hr k hk'
      exact ⟨o, horders.2 (.inl ho), horef⟩
  · intro r' hr' o ho hheld
    obtain ⟨r, hr, ⟨hP, rfl⟩ | ⟨hP, rfl⟩⟩ := hmem hr'
    · -- a seat locked now is held for the new order
      have ho' : o = row := by
        rcases horders.1 ho with ho | rfl
        · exact absurd (by simpa [href] using hheld.symm) (hfresh o ho)
        · rfl
      subst ho'
      refine ⟨hplaces ▸ hP, .inl ⟨rfl, hpending, ?_⟩⟩
      simp [hexpiry]
    · rcases horders.1 ho with ho | rfl
      · exact hs.held _ hr o ho hheld
      · exact absurd hheld (hnew _ hr)
  · intro r' hr' o ho hpending' hP'
    obtain ⟨r, hr, ⟨hP, rfl⟩ | ⟨hP, rfl⟩⟩ := hmem hr'
    · rcases horders.1 ho with ho | rfl
      · -- an older pending order held this row locked, yet it was available
        have hlocked := (hs.pending r hr o ho hpending' (by simpa using hP')).1
        simp [hfree r hr hP] at hlocked
      · simp [href]
    · rcases horders.1 ho with ho | rfl
      · exact hs.pending _ hr o ho hpending' hP'
      · exact absurd (hplaces ▸ hP') hP
  · intro r' hr' o ho hcompleted hP'
    have ho : o ∈ st.orders := by
      rcases horders.1 ho with ho | rfl
      · exact ho
      · simp [hpending] at hcompleted
    obtain ⟨r, hr, ⟨hP, rfl⟩ | ⟨-, rfl⟩⟩ := hmem hr'
    · have hsold := (hs.completed r hr o ho hcompleted (by simpa using hP')).1
      simp [hfree r hr hP] at hsold
    · exact hs.completed _ hr o ho hcompleted hP'
  · -- every row keeps its place
    have himage : ∀ r ∈ st.seats, ∃ r' ∈ st₁.seats, r'.place = r.place := by
      intro r hr
      rw [hseats]
      refine ⟨_, List.mem_map.2 ⟨r, hr, rfl⟩, ?_⟩
      split <;> simp
    intro o ho P hP
    rcases horders.1 ho with ho | rfl
    · obtain ⟨r, hr, rfl⟩ := hs.seated o ho P hP
      exact himage r hr
    · obtain ⟨r, hr, rfl, -⟩ := havailable P (hplaces ▸ hP)
      exact himage r hr

/-- While an order is pending, the rows it holds are exactly the rows at its seat places, all
locked for it. -/
theorem SeatsHeld.lockedFor_iff (hs : st.SeatsHeld) {o : OrderRow} (ho : o ∈ st.orders)
    (hpending : o.status = OrderStatus.pending.name) {r : SeatRow} (hr : r ∈ st.seats) :
    r.lockedFor o.ref o.seatPlaces = true ↔ r.place ∈ o.seatPlaces := by
  rw [SeatRow.lockedFor_iff]
  constructor
  · exact fun h => h.1
  · intro hP
    exact ⟨hP, hs.pending r hr o ho hpending hP⟩

/-- A pending order that completes sells the rows it holds, and one that fails or is cancelled
frees them: either way the seats keep following the orders. -/
theorem SeatsHeld.pairMoved (hs : st.SeatsHeld) {st₁ : Tables} {o : OrderRow} {p : PaymentRow}
    {target : OrderStatus} {pay : PaymentStatus} {now : Instant}
    (hmoved : st.PairMoved st₁ o p target pay now) {f : SeatRow → SeatRow}
    (hf : target = .completed ∧ f = SeatRow.sell o.ref ∨
      (target = .failed ∨ target = .cancelled) ∧ f = SeatRow.free)
    (hseats : st'.seats = st₁.seats.map fun r => if r.lockedFor o.ref o.seatPlaces then f r else r)
    (horders : st'.orders = st₁.orders) : st'.SeatsHeld := by
  have ho := hmoved.order_mem
  have hpending := hmoved.order_pending
  -- what the changed rows become
  have hplace : ∀ r, (f r).place = r.place := by
    rcases hf with ⟨-, rfl⟩ | ⟨-, rfl⟩ <;> simp
  have hsettled : target.name ≠ OrderStatus.pending.name := by
    rcases hf with ⟨rfl, -⟩ | ⟨rfl | rfl, -⟩ <;> simp
  have hsold : ∀ r h, (f r).holder = some h →
      h = o.ref ∧ target = .completed ∧ (f r).status = SeatStatus.sold.name := by
    rcases hf with ⟨rfl, rfl⟩ | ⟨-, rfl⟩
    · intro r h hh
      simp only [SeatRow.sell_holder, Option.some.injEq] at hh
      exact ⟨hh.symm, rfl, by simp⟩
    · simp
  have hsell : target = .completed → ∀ r, (f r).status = SeatStatus.sold.name ∧
      (f r).holder = some o.ref := by
    rcases hf with ⟨-, rfl⟩ | ⟨rfl | rfl, -⟩ <;> simp
  have hmem : ∀ {r'}, r' ∈ st'.seats → ∃ r ∈ st.seats,
      (r.place ∈ o.seatPlaces ∧ r' = f r) ∨ (r.lockedFor o.ref o.seatPlaces = false ∧ r' = r) := by
    intro r' hr'
    rw [hseats, hmoved.seats] at hr'
    obtain ⟨r, hr, ⟨hg, rfl⟩ | ⟨hg, rfl⟩⟩ := mem_map_guarded.1 hr'
    · exact ⟨r, hr, .inl ⟨(SeatRow.lockedFor_iff _ _ _).1 hg |>.1, rfl⟩⟩
    · exact ⟨r', hr, .inr ⟨hg, rfl⟩⟩
  -- an unchanged row at a place of the order would have been held for it
  have hkept : ∀ r ∈ st.seats, r.lockedFor o.ref o.seatPlaces = false → r.place ∉ o.seatPlaces :=
    fun r hr hg hP => by simp [(hs.lockedFor_iff ho hpending hr).2 hP] at hg
  have horder : ∀ {x}, x ∈ st'.orders ↔
      x = o.withStatus target now ∨ (x ∈ st.orders ∧ x.ref ≠ o.ref) := by
    intro x
    rw [horders, hmoved.mem_orders]
  constructor
  · intro r' hr' n hn
    -- the order of a held row is still there, perhaps moved
    have hthere : ∀ x ∈ st.orders, ∃ y ∈ st'.orders, y.ref = x.ref := by
      intro x hx
      by_cases hxo : x.ref = o.ref
      · exact ⟨_, horder.2 (.inl rfl), hxo.symm ▸ rfl⟩
      · exact ⟨x, horder.2 (.inr ⟨hx, hxo⟩), rfl⟩
    obtain ⟨r, hr, ⟨-, rfl⟩ | ⟨-, rfl⟩⟩ := hmem hr'
    · obtain ⟨hno, -⟩ := hsold r _ hn
      obtain ⟨y, hy, hyref⟩ := hthere o ho
      exact ⟨y, hy, hyref.trans hno.symm⟩
    · obtain ⟨x, hx, hxref⟩ := hs.holders r' hr n hn
      obtain ⟨y, hy, hyref⟩ := hthere x hx
      exact ⟨y, hy, hyref.trans hxref⟩
  · intro r' hr' x hx hheld
    obtain ⟨r, hr, ⟨hP, rfl⟩ | ⟨hg, rfl⟩⟩ := hmem hr'
    · obtain ⟨hxref, hcompleted, hsold'⟩ := hsold r _ hheld
      rcases horder.1 hx with rfl | ⟨-, hne⟩
      · refine ⟨by simpa [hplace] using hP, .inr ⟨hsold', by simp [hcompleted]⟩⟩
      · exact absurd hxref hne
    · rcases horder.1 hx with rfl | ⟨hx, -⟩
      · exact absurd (hs.held r' hr o ho hheld).1 (hkept r' hr hg)
      · exact hs.held r' hr x hx hheld
  · intro r' hr' x hx hxpending hP'
    rcases horder.1 hx with rfl | ⟨hx, hne⟩
    · exact absurd hxpending hsettled
    · obtain ⟨r, hr, ⟨hP, rfl⟩ | ⟨-, rfl⟩⟩ := hmem hr'
      · -- a row at places of two pending orders is held for both
        have hxheld := (hs.pending r hr x hx hxpending (by simpa [hplace] using hP')).2
        have hoheld := (hs.pending r hr o ho hpending hP).2
        exact absurd (Option.some.inj (hxheld.symm.trans hoheld)) hne
      · exact hs.pending r' hr x hx hxpending hP'
  · intro r' hr' x hx hcompleted hP'
    obtain ⟨r, hr, ⟨hP, rfl⟩ | ⟨hg, rfl⟩⟩ := hmem hr'
    · rcases horder.1 hx with rfl | ⟨hx, hne⟩
      · have htarget : target = .completed := by simpa using hcompleted
        exact hsell htarget r
      · have hxheld := (hs.completed r hr x hx hcompleted (by simpa [hplace] using hP')).2
        have hoheld := (hs.pending r hr o ho hpending hP).2
        exact absurd (Option.some.inj (hxheld.symm.trans hoheld)) hne
    · rcases horder.1 hx with rfl | ⟨hx, -⟩
      · exact absurd (by simpa using hP') (hkept r' hr hg)
      · exact hs.completed r' hr x hx hcompleted hP'
  · have himage : ∀ r ∈ st.seats, ∃ r' ∈ st'.seats, r'.place = r.place := by
      intro r hr
      rw [hseats, hmoved.seats]
      refine ⟨_, List.mem_map.2 ⟨r, hr, rfl⟩, ?_⟩
      split
      · exact hplace r
      · rfl
    intro x hx P hP
    rcases horder.1 hx with rfl | ⟨hx, -⟩
    · obtain ⟨r, hr, rfl⟩ := hs.seated o ho P (by simpa using hP)
      exact himage r hr
    · obtain ⟨r, hr, rfl⟩ := hs.seated x hx P hP
      exact himage r hr

/-- Every move keeps the seats following the orders. -/
theorem Move.seatsHeld (hk : st.Keyed) (hs : st.SeatsHeld) (h : Move st st') : st'.SeatsHeld := by
  cases h with
  | place _ hreserve hprice hrow hfresh _ _ _ =>
    obtain ⟨pricing, -, rfl⟩ := Order.place_ok hprice
    obtain ⟨href, -, hstatus, -, hexpiry, -, -, hlines⟩ := orderRow_ok hrow
    exact hs.place hk hreserve href hstatus hexpiry (OrderRow.seatPlaces_of_lines hlines) hfresh _
  | complete hmoved hload hmove hsell _ =>
    -- the rows sold are those locked for the order at its seat places
    have hst₂ := eq_updateSeats_fst hsell
    rw [OrderRow.orderSeats_of_moveTo hload hmove, updateSeats_fst] at hst₂
    exact hs.pairMoved hmoved (.inl ⟨rfl, rfl⟩) (by rw [hst₂]; rfl) (by rw [hst₂])
  | release hmoved htarget hrelease =>
    have hseats := hrelease.seats
    rw [OrderRow.seatPlaces_toLine] at hseats
    exact hs.pairMoved hmoved (.inr ⟨htarget, rfl⟩) hseats hrelease.restock.orders
  | releaseLocks now => exact hs.releaseLocks now

/-! ## What the seats tell of the orders -/

section Consequences

variable (hs : st.SeatsHeld) {r : SeatRow} {o : OrderRow} (hr : r ∈ st.seats) (ho : o ∈ st.orders)
include hs hr ho

/-- A row is locked for an order exactly when the order is pending with a seat line at the row's
place. -/
theorem SeatsHeld.locked_iff :
    r.status = SeatStatus.locked.name ∧ r.holder = some o.ref ↔
      o.status = OrderStatus.pending.name ∧ r.place ∈ o.seatPlaces := by
  constructor
  · rintro ⟨hlocked, hheld⟩
    obtain ⟨hP, ⟨-, hpending, -⟩ | ⟨hsold, -⟩⟩ := hs.held r hr o ho hheld
    · exact ⟨hpending, hP⟩
    · simp [hsold] at hlocked
  · rintro ⟨hpending, hP⟩
    exact hs.pending r hr o ho hpending hP

/-- A row is sold to an order exactly when the order is completed with a seat line at the row's
place. -/
theorem SeatsHeld.sold_iff :
    r.status = SeatStatus.sold.name ∧ r.holder = some o.ref ↔
      o.status = OrderStatus.completed.name ∧ r.place ∈ o.seatPlaces := by
  constructor
  · rintro ⟨hsold, hheld⟩
    obtain ⟨hP, ⟨hlocked, -, -⟩ | ⟨-, hcompleted⟩⟩ := hs.held r hr o ho hheld
    · simp [hsold] at hlocked
    · exact ⟨hcompleted, hP⟩
  · rintro ⟨hcompleted, hP⟩
    exact hs.completed r hr o ho hcompleted hP

theorem SeatsHeld.lockExpiresAt (hlocked : r.status = SeatStatus.locked.name)
    (hheld : r.holder = some o.ref) : r.lockExpiresAt = some o.expiresAt := by
  obtain ⟨-, ⟨-, -, hexpiry⟩ | ⟨hsold, -⟩⟩ := hs.held r hr o ho hheld
  · exact hexpiry
  · simp [hsold] at hlocked

theorem SeatsHeld.mem_releaseExpiredLocks (hheld : r.holder = some o.ref) (now : Instant) :
    r ∈ (st.releaseExpiredLocks now).1.seats := by
  refine List.mem_map.2 ⟨r, hr, ?_⟩
  obtain ⟨-, ⟨-, hpending, -⟩ | ⟨hsold, -⟩⟩ := hs.held r hr o ho hheld
  · simp [hheld, holderPending_of_pending ho hpending]
  · simp [hsold]

theorem SeatsHeld.holder_of_holdsStock (hholds : o.holdsStock = true)
    (hP : r.place ∈ o.seatPlaces) : r.holder = some o.ref := by
  simp only [OrderRow.holdsStock, Bool.or_eq_true, beq_iff_eq] at hholds
  rcases hholds with hpending | hcompleted
  · exact (hs.pending r hr o ho hpending hP).2
  · exact (hs.completed r hr o ho hcompleted hP).2

end Consequences

theorem SeatsHeld.eq_of_seatPlace (hs : st.SeatsHeld) (hrefs : (st.orders.map (·.ref)).Nodup)
    {o₁ o₂ : OrderRow} (h₁ : o₁ ∈ st.orders) (h₂ : o₂ ∈ st.orders) (hholds₁ : o₁.holdsStock = true)
    (hholds₂ : o₂.holdsStock = true) {P : Int × Int} (hP₁ : P ∈ o₁.seatPlaces)
    (hP₂ : P ∈ o₂.seatPlaces) : o₁ = o₂ := by
  obtain ⟨r, hr, rfl⟩ := hs.seated o₁ h₁ P hP₁
  have hheld₁ := hs.holder_of_holdsStock hr h₁ hholds₁ hP₁
  have hheld₂ := hs.holder_of_holdsStock hr h₂ hholds₂ hP₂
  exact List.inj_on_of_nodup_map hrefs h₁ h₂ (Option.some.inj (hheld₁.symm.trans hheld₂))

/-! ## Sold seats stay sold -/

/-- From a store to a later one, every sold row is still there, as it was. -/
def SoldKept (st st' : Tables) : Prop :=
  ∀ r ∈ st.seats, r.status = SeatStatus.sold.name → r ∈ st'.seats

theorem SoldKept.refl (st : Tables) : SoldKept st st := fun _ hr _ => hr

theorem SoldKept.trans {st₁ st₂ st₃ : Tables} (h₁ : SoldKept st₁ st₂) (h₂ : SoldKept st₂ st₃) :
    SoldKept st₁ st₃ :=
  fun r hr hsold => h₂ r (h₁ r hr hsold) hsold

/-- No move touches a sold row: selling, freeing and releasing take locked rows only, and placing
takes available ones. -/
theorem Move.soldKept (hk : st.Keyed) (h : Move st st') : SoldKept st st' := by
  intro r hr hsold
  have hunlocked : (r.status == SeatStatus.locked.name) = false := by simp [hsold]
  cases h with
  | @place st₁ _ _ _ _ _ ls _ _ _ _ _ _ _ hreserve _ _ _ _ _ _ =>
    obtain ⟨hseats, -, havailable⟩ := hreserve.seats hk.seat_places
    -- the one row at a place of the cart was available, so it is not this one
    have hP : r.place ∉ seatPlacesOf ls := by
      intro hP
      obtain ⟨r₀, hr₀, hplace₀, havailable₀⟩ := havailable _ hP
      obtain rfl : r = r₀ := List.inj_on_of_nodup_map hk.seat_places hr hr₀ hplace₀.symm
      simp [hsold] at havailable₀
    show r ∈ st₁.seats
    rw [hseats]
    exact List.mem_map.2 ⟨r, hr, if_neg hP⟩
  | @complete _ st₂ _ _ _ _ _ _ _ hmoved _ _ hsell _ =>
    show r ∈ st₂.seats
    rw [eq_updateSeats_fst hsell, updateSeats_fst, hmoved.seats]
    exact List.mem_map.2 ⟨r, hr, by simp [hunlocked]⟩
  | release hmoved _ hrelease =>
    rw [hrelease.seats, hmoved.seats]
    exact List.mem_map.2 ⟨r, hr, by simp [SeatRow.lockedFor, hunlocked]⟩
  | releaseLocks now =>
    exact List.mem_map.2 ⟨r, hr, by simp [hunlocked]⟩

end Store.Tables

/-! ## Runs -/

/-- Along every run from a fresh store whose seeded locks belong to no order the run places, the
seats follow the orders: a row is locked for an order exactly when the order is pending with a seat
line at the row's place, and then until the order's expiry; it is sold to an order exactly when
the order is completed with a seat line there; releasing expired locks keeps every row held for an
order; no two pending or completed orders have a seat line at one place; and a sold row stays as
it is. -/
theorem seats_follow_orders {s₀ s : Session} (h0 : s₀.store.Fresh)
    (hforeign : ∀ r ∈ s₀.store.seats, ∀ n, r.holder ≠ some (.placed n)) (h : Reachable s₀ s) :
    (∀ r ∈ s.store.seats, ∀ o ∈ s.store.orders,
      (r.status = SeatStatus.locked.name ∧ r.holder = some o.ref ↔
        o.status = OrderStatus.pending.name ∧ r.place ∈ o.seatPlaces) ∧
      (r.status = SeatStatus.locked.name → r.holder = some o.ref →
        r.lockExpiresAt = some o.expiresAt) ∧
      (r.status = SeatStatus.sold.name ∧ r.holder = some o.ref ↔
        o.status = OrderStatus.completed.name ∧ r.place ∈ o.seatPlaces) ∧
      ∀ now, r.holder = some o.ref → r ∈ (s.store.releaseExpiredLocks now).1.seats) ∧
    (∀ o₁ ∈ s.store.orders, ∀ o₂ ∈ s.store.orders, o₁.holdsStock = true →
      o₂.holdsStock = true → ∀ P ∈ o₁.seatPlaces, P ∈ o₂.seatPlaces → o₁ = o₂) ∧
    ∀ s', Reachable s s' → s.store.SoldKept s'.store := by
  have hs : s.store.SeatsHeld :=
    h.invariant h0 (h0.seatsHeld hforeign) fun hk hs hm => hm.seatsHeld hk hs
  refine ⟨?_, ?_, ?_⟩
  · intro r hr o ho
    exact ⟨hs.locked_iff hr ho, hs.lockExpiresAt hr ho, hs.sold_iff hr ho,
      fun now hheld => hs.mem_releaseExpiredLocks hr ho hheld now⟩
  · intro o₁ h₁ o₂ h₂ hholds₁ hholds₂ P hP₁ hP₂
    exact hs.eq_of_seatPlace (h.keyed h0).order_refs h₁ h₂ hholds₁ hholds₂ hP₁ hP₂
  · intro s' h'
    exact h.relate h0 (I := fun _ => True) trivial (fun _ _ _ => trivial)
      (fun hk _ hm => hm.soldKept hk) Tables.SoldKept.refl Tables.SoldKept.trans h'

/-- A run from a store with a seat locked by an order of its own that places an order for the
other seat: that seat is locked for the new order. -/
theorem seats_follow_orders_from_seeded_lock :
    let s₀ := Session.start { offers := [⟨1, 1, 1, "Floor", ⟨0⟩, 10, 0⟩],
                              seats := [⟨1, 1, 1, "available", none, none⟩,
                                        ⟨1, 2, 1, "locked", some ⟨5⟩, some (.named "seed")⟩] } ⟨0⟩
    let rules : CheckoutRules := ⟨{}, .finite false 0 0, 15, "usd", .local⟩
    let s := ({ s₀ with now := ⟨0⟩ }.perform
      (.placeOrder rules ⟨1, .buyer⟩ [{ offerId := 1, seatId := some 1 }])).2
    s₀.store.Fresh ∧ (∀ r ∈ s₀.store.seats, ∀ n, r.holder ≠ some (.placed n)) ∧
      Reachable s₀ s ∧
      (∃ r ∈ s.store.seats, r.status = SeatStatus.locked.name ∧ r.holder = some (.placed 1)) ∧
      ((∀ r ∈ s.store.seats, ∀ o ∈ s.store.orders,
        (r.status = SeatStatus.locked.name ∧ r.holder = some o.ref ↔
          o.status = OrderStatus.pending.name ∧ r.place ∈ o.seatPlaces) ∧
        (r.status = SeatStatus.locked.name → r.holder = some o.ref →
          r.lockExpiresAt = some o.expiresAt) ∧
        (r.status = SeatStatus.sold.name ∧ r.holder = some o.ref ↔
          o.status = OrderStatus.completed.name ∧ r.place ∈ o.seatPlaces) ∧
        ∀ now, r.holder = some o.ref → r ∈ (s.store.releaseExpiredLocks now).1.seats) ∧
      (∀ o₁ ∈ s.store.orders, ∀ o₂ ∈ s.store.orders, o₁.holdsStock = true →
        o₂.holdsStock = true → ∀ P ∈ o₁.seatPlaces, P ∈ o₂.seatPlaces → o₁ = o₂) ∧
      ∀ s', Reachable s s' → s.store.SoldKept s'.store) :=
  have hfresh : Tables.Fresh _ := ⟨by decide, by decide, by decide, rfl, rfl, rfl⟩
  have hforeign : ∀ r ∈ _, ∀ n, SeatRow.holder r ≠ some (.placed n) := by simp [Session.start]
  have hrun : Reachable _ _ := .step (c := .placeOrder ⟨{}, .finite false 0 0, 15, "usd", .local⟩
    ⟨1, .buyer⟩ [{ offerId := 1, seatId := some 1 }]) ⟨0⟩ trivial .start
  ⟨hfresh, hforeign, hrun, by decide +kernel, seats_follow_orders hfresh hforeign hrun⟩

end TicketCheckout
