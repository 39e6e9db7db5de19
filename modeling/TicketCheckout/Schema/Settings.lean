import TicketCheckout.Schema.Lax

/-!
# Service settings

The settings the service starts with, each with a default, given as named JSON values. Names
match in any case of letters: a value given under a setting's own name is taken, and otherwise
the first one given under the name in another case (`givenValue?`). Every declared setting that
is given is validated by its kind (`Schema.Lax`), and all refused values are reported together,
in declaration order; names that no setting has are ignored.

The allowed origins for cross-site requests are a list of texts. A text not starting with `[`
is read as a comma-separated list with blanks trimmed from each entry; a list is taken as it is
and each entry must be a text; anything else, and a text starting with `[`, means no origins.

The database address is the one given, if it is a nonempty text, and otherwise is built from the
server, user, password, the number the server listens on, and the database name. Its
synchronous form drops the driver markers `+asyncpg` and `+aiosqlite`.
-/

namespace TicketCheckout.Schema

open Number

/-- The kinds of setting values. -/
inductive SettingKind where
  | text
  | optionalText
  | whole
  | real
  | flag
  | amount
  | choice (options : List String)
  | origins

/-- The gateway modes. -/
def gatewayModes : List String := ["mock", "stripe"]

/-- The declared settings with their kinds, in declaration order. -/
def declaredSettings : List (String × SettingKind) :=
  [("PROJECT_NAME", .text), ("VERSION", .text), ("DEBUG", .flag), ("LOG_LEVEL", .optionalText),
   ("LOG_TO_FILE", .flag), ("LOG_FILE_RETENTION", .text), ("POSTGRES_SERVER", .text),
   ("POSTGRES_USER", .text), ("POSTGRES_PASSWORD", .text), ("POSTGRES_DB", .text),
   ("POSTGRES_PORT", .whole), ("DATABASE_URL", .optionalText), ("DB_POOL_SIZE", .whole),
   ("DB_POOL_MAX_OVERFLOW", .whole), ("DB_POOL_TIMEOUT", .whole), ("DB_POOL_RECYCLE", .whole),
   ("DB_POOL_PRE_PING", .flag), ("SECRET_KEY", .text), ("ALGORITHM", .text),
   ("AUTH_COOKIE_NAME", .text), ("BACKEND_CORS_ORIGINS", .origins), ("CURRENCY", .text),
   ("SERVICE_FEE_PER_TICKET", .amount), ("RESERVATION_WINDOW_MINUTES", .whole),
   ("CHECKOUT_MAX_ITEMS", .whole), ("CHECKOUT_MAX_TICKETS", .whole),
   ("LOCK_REAPER_ENABLED", .flag), ("LOCK_REAPER_INTERVAL_SECONDS", .real),
   ("LOCK_REAPER_BATCH_SIZE", .whole), ("PAYMENT_GATEWAY_MODE", .choice gatewayModes),
   ("PAYMENT_GATEWAY_BASE_URL", .text), ("PAYMENT_GATEWAY_SECRET_KEY", .text),
   ("PAYMENT_GATEWAY_TIMEOUT_SECONDS", .real), ("PAYMENT_WEBHOOK_SECRET", .text),
   ("PAYMENT_WEBHOOK_TOLERANCE_SECONDS", .whole)]

/-- The allowed origins a value stands for, before each entry is checked; see the module
comment. -/
def originEntries (v : Json) : List Json :=
  match v with
  | .str s =>
    if s.startsWith "[" then []
    else (s.splitOn ",").map fun part => .str (Text.trimBlanks part)
  | .arr items => items
  | _ => []

/-- The problems of a setting's value. -/
def SettingKind.issues (k : SettingKind) (name : String) (v : Json) : List FieldIssue :=
  let here := [FieldStep.name name]
  match k with
  | .text => issuesAt here (toText v)
  | .optionalText => issuesAt here (toOptionalText v)
  | .whole => issuesAt here (toInt v)
  | .real => issuesAt here (checkFloat v)
  | .flag => issuesAt here (toBool v)
  | .amount => issuesAt here (toDecimal v)
  | .choice options => issuesAt here (toChoice options v)
  | .origins =>
    ((originEntries v).zip (List.range (originEntries v).length)).flatMap fun (e, i) =>
      issuesAt (here ++ [.index i]) (toText e)

/-- The value given for a setting; see the module comment. -/
def givenValue? (given : List (String × Json)) (name : String) : Option Json :=
  match given.lookup name with
  | some v => some v
  | none => (given.find? fun (k, _) => k.toUpper == name).map (·.2)

/-- The settings the service runs with. -/
structure Settings where
  debug : Bool := true
  postgresServer : String := "localhost"
  postgresUser : String := "py_arch_lab"
  postgresPassword : String := "py_arch_lab"
  postgresDb : String := "ticketing_checkout_db"
  /-- The number the database server listens on. -/
  postgresListener : Int := 5432
  databaseUrl : Option String := none
  corsOrigins : List String := []
  currency : String := "usd"
  feePerTicket : Decimal := .finite false 250 (-2)
  windowMinutes : Int := 15
  maxItems : Int := 20
  maxTickets : Int := 10
  gatewayMode : String := "mock"

namespace Settings

/-- The value of a setting, read with `read`, or `default` when it is not given. -/
def pick {α : Type} (given : List (String × Json)) (name : String) (default : α)
    (read : Json → Except Rule α) : α :=
  match givenValue? given name with
  | some v => match read v with
    | .ok a => a
    | .error _ => default
  | none => default

/-- Settings from named values; fails with every refused value. -/
def ofFields (given : List (String × Json)) : Except (List FieldIssue) Settings :=
  let issues := declaredSettings.flatMap fun (name, kind) =>
    match givenValue? given name with
    | some v => kind.issues name v
    | none => []
  if !issues.isEmpty then .error issues
  else
    let d : Settings := {}
    .ok {
      debug := pick given "DEBUG" d.debug toBool
      postgresServer := pick given "POSTGRES_SERVER" d.postgresServer toText
      postgresUser := pick given "POSTGRES_USER" d.postgresUser toText
      postgresPassword := pick given "POSTGRES_PASSWORD" d.postgresPassword toText
      postgresDb := pick given "POSTGRES_DB" d.postgresDb toText
      postgresListener := pick given "POSTGRES_PORT" d.postgresListener toInt
      databaseUrl := pick given "DATABASE_URL" d.databaseUrl toOptionalText
      corsOrigins := pick given "BACKEND_CORS_ORIGINS" d.corsOrigins fun v =>
        (originEntries v).mapM toText
      currency := pick given "CURRENCY" d.currency toText
      feePerTicket := pick given "SERVICE_FEE_PER_TICKET" d.feePerTicket toDecimal
      windowMinutes := pick given "RESERVATION_WINDOW_MINUTES" d.windowMinutes toInt
      maxItems := pick given "CHECKOUT_MAX_ITEMS" d.maxItems toInt
      maxTickets := pick given "CHECKOUT_MAX_TICKETS" d.maxTickets toInt
      gatewayMode := pick given "PAYMENT_GATEWAY_MODE" d.gatewayMode (toChoice gatewayModes) }

example : (match givenValue? [("DEBUG", .bool true), ("debug", .bool false)] "DEBUG" with
    | some (.bool b) => b
    | _ => false) = true := by decide +kernel
example : (givenValue? [("Debug", .str "off")] "DEBUG").isSome = true := by decide +kernel

/-- The database address built from its parts. -/
def builtAddress (s : Settings) : String :=
  "postgresql+asyncpg://" ++ s.postgresUser ++ ":" ++ s.postgresPassword ++ "@" ++
    s.postgresServer ++ ":" ++ toString s.postgresListener ++ "/" ++ s.postgresDb

/-- The database address; see the module comment. -/
def databaseAddress (s : Settings) : String :=
  match s.databaseUrl with
  | some url => if url.isEmpty then s.builtAddress else url
  | none => s.builtAddress

/-- The database address for synchronous drivers. -/
def syncDatabaseAddress (s : Settings) : String :=
  (s.databaseAddress.replace "+asyncpg" "").replace "+aiosqlite" ""

/-- The settings that shape a deployment, by their names. -/
def summary (s : Settings) : Json :=
  .obj [("BACKEND_CORS_ORIGINS", .arr (s.corsOrigins.map .str)),
    ("CHECKOUT_MAX_ITEMS", .int s.maxItems), ("CHECKOUT_MAX_TICKETS", .int s.maxTickets),
    ("DATABASE_URL_ASYNC", .str s.databaseAddress),
    ("DATABASE_URL_SYNC", .str s.syncDatabaseAddress),
    ("DEBUG", .bool s.debug), ("PAYMENT_GATEWAY_MODE", .str s.gatewayMode),
    ("RESERVATION_WINDOW_MINUTES", .int s.windowMinutes),
    ("SERVICE_FEE_PER_TICKET", .str s.feePerTicket.toText)]

end Settings

end TicketCheckout.Schema
