/-!
# Instants

An instant is a whole number of seconds since 1970-01-01T00:00:00 UTC. Reservation windows are
counted in minutes. Instants are written in ISO 8601 with seconds and the UTC offset, either
as `+00:00` or as `Z` (`InstantStyle`). The calendar is the proleptic Gregorian one; the
service handles years 1 to 9999 only, and moving an instant outside them fails
(`Instant.addMinutes`, `Instant.shift?`).

Main statement: `addMinutes_ok` (inside the supported years a move is plain addition).
-/

namespace TicketCheckout

/-- Seconds since 1970-01-01T00:00:00 UTC. -/
structure Instant where
  seconds : Int
  deriving DecidableEq, Repr, Inhabited

/-- How the UTC offset of an instant is written. -/
inductive InstantStyle where
  /-- `+00:00` -/
  | offset
  /-- `Z` -/
  | zulu
  deriving DecidableEq, Repr

namespace Instant

instance : LT Instant := ⟨fun a b => a.seconds < b.seconds⟩

instance (a b : Instant) : Decidable (a < b) := inferInstanceAs (Decidable (a.seconds < b.seconds))

instance : LE Instant := ⟨fun a b => a.seconds ≤ b.seconds⟩

instance (a b : Instant) : Decidable (a ≤ b) :=
  inferInstanceAs (Decidable (a.seconds ≤ b.seconds))

/-- The first supported second, 0001-01-01T00:00:00. -/
def earliest : Int := -62135596800

/-- The second after the last supported one, 10000-01-01T00:00:00. -/
def beyondLatest : Int := 253402300800

/-- Whether an instant lies in the years 1 to 9999. -/
def supported (t : Instant) : Bool := earliest ≤ t.seconds && t.seconds < beyondLatest

/-- The instant `minutes` later (earlier for a negative count), if it is supported. -/
def addMinutes (t : Instant) (minutes : Int) : Option Instant :=
  let u : Instant := ⟨t.seconds + 60 * minutes⟩
  if u.supported then some u else none

/-- The instant `s` seconds later. -/
def addSeconds (t : Instant) (s : Int) : Instant := ⟨t.seconds + s⟩

/-- The instant `s` seconds later (earlier for a negative count), if it is supported. -/
def shift? (t : Instant) (s : Int) : Option Instant :=
  let u := t.addSeconds s
  if u.supported then some u else none

/-- Year, month and day of a day count since 1970-01-01, in the proleptic Gregorian calendar
(counted in eras of 400 years, each starting on a 1 March). -/
def civilDate (days : Int) : Int × Nat × Nat :=
  let z := days + 719468
  let era := z / 146097
  let doe := z - era * 146097
  let yoe := (doe - doe / 1460 + doe / 36524 - doe / 146096) / 365
  let doy := doe - (365 * yoe + yoe / 4 - yoe / 100)
  let mp := (5 * doy + 2) / 153
  let d := doy - (153 * mp + 2) / 5 + 1
  let m := if mp < 10 then mp + 3 else mp - 9
  let y := yoe + era * 400 + (if m ≤ 2 then 1 else 0)
  (y, m.toNat, d.toNat)

/-- `n` in decimal, padded on the left with zeros to `width` digits. -/
def padded (n : Nat) (width : Nat) : String :=
  let ds := Nat.toDigits 10 n
  String.ofList (List.replicate (width - ds.length) '0' ++ ds)

/-- The ISO 8601 text of an instant, with the offset written in the given style. -/
def isoText (style : InstantStyle) (t : Instant) : String :=
  let days := t.seconds / 86400
  let secs := (t.seconds % 86400).toNat
  let (y, m, d) := civilDate days
  let year := if y < 0 then "-" ++ padded y.natAbs 4 else padded y.toNat 4
  year ++ "-" ++ padded m 2 ++ "-" ++ padded d 2 ++ "T" ++ padded (secs / 3600) 2 ++ ":" ++
    padded (secs / 60 % 60) 2 ++ ":" ++ padded (secs % 60) 2 ++
    (match style with
      | .offset => "+00:00"
      | .zulu => "Z")

theorem addMinutes_ok (t : Instant) (minutes : Int)
    (h : (⟨t.seconds + 60 * minutes⟩ : Instant).supported = true) :
    t.addMinutes minutes = some ⟨t.seconds + 60 * minutes⟩ := by
  simp [addMinutes, h]

example : isoText .offset ⟨1893456900⟩ = "2030-01-01T00:15:00+00:00" := by decide
example : isoText .zulu ⟨1893455999⟩ = "2029-12-31T23:59:59Z" := by decide
example : isoText .offset ⟨951782400⟩ = "2000-02-29T00:00:00+00:00" := by decide

end Instant

end TicketCheckout
