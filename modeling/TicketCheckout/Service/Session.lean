import TicketCheckout.Gateway.Basic
import TicketCheckout.Json.Reader
import TicketCheckout.Store.Ledger
import TicketCheckout.Store.Records

/-!
# Service sessions

The state a run of the checkout service carries from call to call: the store, the clock, the
counters behind random tokens, ticket codes and order references, the metrics recorded so far,
the requests sent to the card processor and the order references heard of. A service call is a computation over a session
that may fail (`Service`).

A unit of work (`atomically`) either keeps all its writes to the store or, when it fails, none:
the store goes back to what it was before. A unit of work that must commit explicitly
(`unitOfWork`) also drops its writes when it returns without committing. Everything else it
did stays done: tokens drawn, metrics recorded and requests sent cannot be taken back.

Main statement: `atomically_error_store` (a failed unit of work leaves the store unchanged).
-/

namespace TicketCheckout

/-- How an attempt to place an order ended, for metrics. -/
inductive OrderOutcome where
  | created
  | conflict
  | invalid
  | gatewayError
  | error
  deriving DecidableEq, Repr

/-- How a payment event ended, for metrics. -/
inductive PaymentOutcome where
  | completed
  | duplicate
  | chargedAfterExpiry
  | seatConflict
  | failed
  deriving DecidableEq, Repr

/-- Which inventory a conflict was over. -/
inductive ConflictKind where
  | seat
  | generalAdmission
  deriving DecidableEq, Repr

/-- What an expiry sweep released. -/
inductive ReleaseKind where
  | expiredOrder
  | seatLock
  deriving DecidableEq, Repr

/-- One recorded metric. -/
inductive Metric where
  | order (outcome : OrderOutcome)
  | inventoryConflict (kind : ConflictKind)
  | payment (outcome : PaymentOutcome)
  | reaperRelease (kind : ReleaseKind) (count : Nat)

/-- The state of a run of the service; see the module comment. -/
structure Session where
  store : Store.Tables
  now : Instant
  /-- Random tokens drawn so far. -/
  tokens : Nat := 0
  /-- Tickets issued so far. -/
  codes : Nat := 0
  /-- Orders placed so far. -/
  placed : Nat := 0
  /-- Metrics recorded so far, oldest first. -/
  metrics : List Metric := []
  /-- Requests sent to the card processor, oldest first. -/
  requests : List Gateway.Request := []
  /-- The order references heard of so far, each once, oldest first: those named by the
  starting store or by a command, placed orders once placed, unreported ones once numbered. -/
  known : List OrderRef := []

/-- A session that starts on a store at an instant; it has heard of the orders the store refers
to. -/
def Session.start (store : Store.Tables) (now : Instant) : Session :=
  { store, now, known := store.orderRefs }

/-- The session after hearing of order references: those it did not know join the end. -/
def Session.hearOf (s : Session) (refs : List OrderRef) : Session :=
  { s with known := refs.foldl (fun k r => if k.contains r then k else k ++ [r]) s.known }

/-- A call of the service. -/
abbrev Service := EStateM Failure Session

namespace Service

/-- Fails with `f`. -/
def fail {α : Type} (f : Failure) : Service α := throw f

/-- The result of a pure computation that may fail. -/
def lift {α : Type} (r : Except Failure α) : Service α :=
  match r with
  | .ok a => pure a
  | .error f => throw f

/-- The current instant; a clock past the supported years cannot be read as one. -/
def now : Service Instant := do
  let t := (← get).now
  if t.supported then pure t else fail .outOfRange

/-- The current time as seconds since the epoch, which a clock past the supported years still
has. -/
def epochSeconds : Service Int := do return (← get).now.seconds

/-- The store. -/
def store : Service Store.Tables := do return (← get).store

/-- Replaces the store. -/
def setStore (s : Store.Tables) : Service Unit := modify fun ss => { ss with store := s }

/-- Runs a store update that may fail. -/
def write (f : Store.Tables → Except Failure Store.Tables) : Service Unit := do
  setStore (← lift (f (← store)))

/-- Runs a store update with a result. -/
def update {α : Type} (f : Store.Tables → Store.Tables × α) : Service α := do
  let (s, a) := f (← store)
  setStore s
  pure a

/-- Runs a store update with a result that may fail. -/
def change {α : Type} (f : Store.Tables → Except Failure (Store.Tables × α)) : Service α := do
  let (s, a) ← lift (f (← store))
  setStore s
  pure a

/-- Hears of an order reference. -/
def hear (r : OrderRef) : Service Unit := modify (·.hearOf [r])

/-- Records a metric. -/
def record (m : Metric) : Service Unit := modify fun s => { s with metrics := s.metrics ++ [m] }

/-- Draws `n` random tokens; gives the number of the first. -/
def drawTokens (n : Nat) : Service Nat :=
  modifyGet fun s => (s.tokens + 1, { s with tokens := s.tokens + n })

/-- Takes `n` ticket codes; gives the number of the first. -/
def takeCodes (n : Nat) : Service Nat :=
  modifyGet fun s => (s.codes + 1, { s with codes := s.codes + n })

/-- Records a request sent to the card processor. -/
def send (r : Gateway.Request) : Service Unit :=
  modify fun s => { s with requests := s.requests ++ [r] }

end Service

/-- Runs a unit of work: on failure the store is restored; see the module comment. -/
def atomically {α : Type} (work : Service α) : Service α := fun s =>
  match work s with
  | .ok a s' => .ok a s'
  | .error e s' => .error e { s' with store := s.store }

/-- Runs a unit of work that keeps its writes only when it commits: `work` gives its result and
whether it committed. A failure, or a return without commit, restores the store. -/
def unitOfWork {α : Type} (work : Service (α × Bool)) : Service α := fun s =>
  match work s with
  | .ok (a, true) s' => .ok a s'
  | .ok (a, false) s' => .ok a { s' with store := s.store }
  | .error e s' => .error e { s' with store := s.store }

/-- Runs a call and catches its failure. -/
def attempt {α : Type} (work : Service α) : Service (Except Failure α) := fun s =>
  match work s with
  | .ok a s' => .ok (.ok a) s'
  | .error e s' => .ok (.error e) s'

theorem atomically_error_store {α : Type} (work : Service α) (s s' : Session) (e : Failure)
    (h : atomically work s = .error e s') : s'.store = s.store := by
  unfold atomically at h
  split at h
  · cases h
  · cases h
    rfl

/-- Opens a payment intent with a gateway. The local gateway draws two tokens; the processor
is sent a request, and its reply is read with the strict JSON reader. -/
def Gateway.Kind.openIntent (g : Gateway.Kind) (amount : Int) (currency : String) :
    Service Gateway.PaymentIntent :=
  match g with
  | .local => do
    let k ← Service.drawTokens 2
    pure (Gateway.localIntent k)
  | .processor script => do
    Service.send (Gateway.intentRequest script amount currency)
    Service.lift (Gateway.readReply (Json.read? .strict) script.send)

end TicketCheckout
