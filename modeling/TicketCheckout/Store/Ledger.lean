import TicketCheckout.Store.Tables

/-!
# The inventory ledger

Every change of inventory is one guarded update: the guard says in which state the rows must be
for the change to apply, and when no row qualifies the ledger reads the row back to say why.

* Reserving general admission takes units of an offer when enough are unsold; releasing gives
  units back when that many are sold. Either fails when the result would leave the offer's
  bounds.
* Locking a seat takes an available seat of the right tier for an order until an expiry;
  unlocking returns a locked seat (held by the given order, if one is given) to available.
* Marking seats sold turns the listed seats that the order still holds into sold seats.
* Every statement first binds its integers (`bindIntegers`), so an id or a quantity beyond 64
  bits fails with an overflow before any guard is looked at.
* Releasing expired locks returns every locked seat whose lock has expired to available,
  unless it is held by a pending order: those wait for the order's own expiry.

Main statement: `reserve_sold` (a reservation that succeeds adds the units to the offer).
-/

namespace TicketCheckout.Store

/-- Whether a row is the seat of an event. -/
def SeatRow.isAt (r : SeatRow) (eventId seatId : Int) : Bool :=
  r.eventId == eventId && r.seatId == seatId

namespace Tables

/-- Replaces the offer with the given id. -/
def updateOffer (s : Tables) (r : OfferRow) : Tables :=
  { s with offers := s.offers.map fun o => if o.id == r.id then r else o }

/-- Applies `f` to every seat satisfying `p`, and counts them. -/
def updateSeats (s : Tables) (p : SeatRow → Bool) (f : SeatRow → SeatRow) : Tables × Nat :=
  ({ s with seats := s.seats.map fun r => if p r then f r else r }, (s.seats.filter p).length)

/-- Takes `quantity` units of general admission from an offer. -/
def reserve (s : Tables) (offerId quantity : Int) : Except Failure Tables := do
  bindIntegers [offerId, quantity]
  match s.offer? offerId with
  | some r =>
    if r.forSale - r.sold ≥ quantity then do
      let r' := { r with sold := r.sold + quantity }
      require (0 ≤ r'.sold && r'.sold ≤ r'.forSale)
      pure (s.updateOffer r')
    else .error (.soldOut "Not enough tickets available for this offer.")
  | none => .error (.soldOut "Not enough tickets available for this offer.")

/-- Gives `quantity` units of general admission back to an offer. -/
def release (s : Tables) (offerId quantity : Int) : Except Failure Tables := do
  bindIntegers [offerId, quantity]
  let refused : Failure := .invalid s!"Cannot release {quantity} tickets of offer {offerId}"
  match s.offer? offerId with
  | some r =>
    if r.sold ≥ quantity then do
      let r' := { r with sold := r.sold - quantity }
      require (0 ≤ r'.sold && r'.sold ≤ r'.forSale)
      pure (s.updateOffer r')
    else .error refused
  | none => .error refused

/-- The seat of an event as an entity, if there is one. -/
def seatEntity? (s : Tables) (eventId seatId : Int) : Except Failure (Option Seat) := do
  bindIntegers [eventId, seatId]
  match s.seat? eventId seatId with
  | some r => r.toSeat.map some
  | none => .ok none

/-- Locks an available seat of a tier for an order until `expiresAt`. -/
def lockSeat (s : Tables) (eventId seatId tierId : Int) (expiresAt : Instant) (holder : OrderRef) :
    Except Failure Tables := do
  bindIntegers [eventId, seatId, tierId]
  let guard (r : SeatRow) : Bool :=
    r.isAt eventId seatId && r.tierId == tierId && r.status == SeatStatus.available.name
  let (s', n) := s.updateSeats guard fun r =>
    { r with status := SeatStatus.locked.name, lockExpiresAt := some expiresAt,
             holder := some holder }
  if n != 0 then return s'
  match ← s.seatEntity? eventId seatId with
  | some seat =>
    if seat.tierId != tierId then
      throw (.invalid s!"Seat {seatId} is not sold under ticket tier {tierId}")
    else throw (.seatTaken s!"Seat {seatId} is no longer available.")
  | none => throw (.seatTaken s!"Seat {seatId} is no longer available.")

/-- Returns a locked seat to available; with a holder given, only a seat that holder holds. An
available seat is left as it is. -/
def unlockSeat (s : Tables) (eventId seatId : Int) (holder : Option OrderRef) :
    Except Failure Tables := do
  bindIntegers [eventId, seatId]
  let guard (r : SeatRow) : Bool :=
    r.isAt eventId seatId && r.status == SeatStatus.locked.name &&
      (match holder with
        | some h => r.holder == some h
        | none => true)
  let (s', n) := s.updateSeats guard fun r =>
    { r with status := SeatStatus.available.name, lockExpiresAt := none, holder := none }
  if n != 0 then return s'
  match ← s.seatEntity? eventId seatId with
  | none => throw (.notFound s!"Seat {seatId} not found for event {eventId}")
  | some seat =>
    match seat.status with
    | .available => return s
    | .locked => throw (.seatTaken s!"Seat {seatId} is locked by another order.")
    | st => throw (.seatTaken s!"Seat {seatId} is {st.name} and cannot be unlocked.")

/-- Marks the listed seats that `holder` still holds as sold; gives how many rows changed. -/
def markSeatsSold (s : Tables) (holder : OrderRef) (seats : List (Int × Int)) :
    Except Failure (Tables × Nat) :=
  if seats.isEmpty then .ok (s, 0)
  else do
    bindIntegers (seats.flatMap fun p => [p.1, p.2])
    pure <| s.updateSeats
      (fun r => seats.any (fun p => r.isAt p.1 p.2) &&
        r.status == SeatStatus.locked.name && r.holder == some holder)
      (fun r => { r with status := SeatStatus.sold.name, lockExpiresAt := none,
                         holder := some holder })

/-- Whether an order with the reference exists and is pending. -/
def holderPending (s : Tables) (holder : Option OrderRef) : Bool :=
  match holder with
  | some h => s.orders.any fun o => o.ref == h && o.status == OrderStatus.pending.name
  | none => false

/-- Returns every expired lock not held by a pending order to available; gives how many. -/
def releaseExpiredLocks (s : Tables) (now : Instant) : Tables × Nat :=
  s.updateSeats
    (fun r => r.status == SeatStatus.locked.name &&
      r.lockExpiresAt.any (fun e => decide (e < now)) && !s.holderPending r.holder)
    (fun r => { r with status := SeatStatus.available.name, lockExpiresAt := none, holder := none })

theorem reserve_sold (s s' : Tables) (offerId quantity : Int) (r : OfferRow)
    (hr : s.offer? offerId = some r) (h : s.reserve offerId quantity = .ok s') :
    s' = s.updateOffer { r with sold := r.sold + quantity } := by
  unfold reserve bindIntegers at h
  by_cases hb : [offerId, quantity].all fitsInteger = true
  · by_cases hq : r.forSale - r.sold ≥ quantity
    · simp only [hb, hq, hr, require, if_true, bind, Except.bind] at h
      split at h <;> first | (cases h; rfl) | cases h
    · simp [hb, hq, hr, bind, Except.bind] at h
  · simp [hb, bind, Except.bind] at h

end Tables

end TicketCheckout.Store
