import TicketCheckout.Text.Blank
import TicketCheckout.Text.DecimalDigit
import TicketCheckout.Text.WordChar

/-!
# Levels of access-log lines

An access line of the web server carries the request line in double quotes, then the status
code: `"GET /health HTTP/1.1" 200`, possibly with a dash between (`"GET / HTTP/1.1" - 200`).
The level of the line follows the status: `critical` from 500, `warning` from 400, `success`
from 200, `info` below. A line without such a request line and status has no level.

In detail a request line is a quote, capital ASCII letters, a space, a run of non-blank
characters, a space, `HTTP/`, digits and points, and a quote; then blanks, optionally a dash
and blanks, and exactly three digits that end a word. Digits of any script count. The first
request line in the text that is followed by a status decides.
-/

namespace TicketCheckout.Log

/-- The level of a logged line. -/
inductive Level where
  | info
  | success
  | warning
  | critical
  deriving DecidableEq, Repr

/-- The level's name as log lines show it. -/
def Level.name : Level → String
  | .info => "INFO"
  | .success => "SUCCESS"
  | .warning => "WARNING"
  | .critical => "CRITICAL"

/-- The level of a response status. -/
def Level.ofStatus (status : Nat) : Level :=
  if status ≥ 500 then .critical
  else if status ≥ 400 then .warning
  else if status ≥ 200 then .success
  else .info

/-- Splits off a nonempty run of characters with a property. -/
def spanNonempty (p : Char → Bool) (cs : List Char) : Option (List Char × List Char) :=
  match cs.takeWhile p with
  | [] => none
  | run => some (run, cs.dropWhile p)

/-- Whether a character is a capital ASCII letter. -/
def isCapital (c : Char) : Bool := 'A' ≤ c && c ≤ 'Z'

/-- Three digits that end a word, and their value. -/
def statusDigits? : List Char → Option Nat
  | a :: b :: c :: rest => do
    let va ← Text.digitValue? a
    let vb ← Text.digitValue? b
    let vc ← Text.digitValue? c
    if rest.head?.any Text.isWordChar then none else pure (100 * va + 10 * vb + vc)
  | _ => none

/-- The status after the closing quote of a request line: blanks, an optional dash with
blanks after it, and the status digits. -/
def statusAfterRequest? (cs : List Char) : Option Nat := do
  let (_, rest) ← spanNonempty Text.isBlank cs
  match rest with
  | '-' :: more =>
    match spanNonempty Text.isBlank more with
    | some (_, digits) => statusDigits? digits
    | none => none
  | _ => statusDigits? rest

/-- The status of a request line that starts right here, at its opening quote. -/
def statusAt? (cs : List Char) : Option Nat := do
  let rest ← match cs with
    | '"' :: rest => some rest
    | _ => none
  let (_, rest) ← spanNonempty isCapital rest
  let rest ← match rest with
    | ' ' :: rest => some rest
    | _ => none
  let (_, rest) ← spanNonempty (!Text.isBlank ·) rest
  let rest ← match rest with
    | ' ' :: 'H' :: 'T' :: 'T' :: 'P' :: '/' :: rest => some rest
    | _ => none
  let (_, rest) ← spanNonempty (fun c => Text.isDecimalDigit c || c == '.') rest
  let rest ← match rest with
    | '"' :: rest => some rest
    | _ => none
  statusAfterRequest? rest

/-- The status of the first request line in a text that has one. -/
def findStatus? : List Char → Option Nat
  | [] => none
  | c :: rest =>
    match statusAt? (c :: rest) with
    | some s => some s
    | none => findStatus? rest

/-- The level of an access line, if it is one. -/
def accessLevel? (line : String) : Option Level :=
  (findStatus? line.toList).map Level.ofStatus

example : accessLevel? "\"GET /health HTTP/1.1\" - 200 - 3ms" = some .success := by decide +kernel
example : accessLevel? "\"GET / HTTP/1.1\" 200x" = none := by decide +kernel

end TicketCheckout.Log
