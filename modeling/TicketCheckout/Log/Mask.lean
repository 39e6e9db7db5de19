import TicketCheckout.Json.Display
import TicketCheckout.Text.Blank
import TicketCheckout.Text.WordChar

/-!
# Masking credentials in log text

A log line must not show a credential. A *credential assignment* in a text is one of the
sensitive names (`sensitiveNames`), starting at a word boundary, then a separator (`=`, or an
optional single quote, a colon and any blanks), then a value: text in single or double quotes
up to the closing quote, or else a run of characters other than blanks, commas and closing
parentheses. Masking replaces each value, scanning from the left without overlaps, by the
quoted mask `'********'` and keeps name and separator.

A value is masked through its display text (`Json.display`); when nothing was replaced the
value itself is kept, and a value without a display text fails as its text does. Structured
masking walks objects and arrays, replaces the value of a member with a sensitive name by the
mask, and can cut long display texts (`truncate`, at `maxContentLength` characters).
-/

namespace TicketCheckout.Log

/-- The member names whose values are credentials. -/
def sensitiveNames : List String :=
  ["authorization", "card_number", "client_secret", "password", "signature", "token"]

/-- What stands for a masked value. -/
def maskText : String := "********"

/-- The separator after a name: `=`, or an optional single quote, a colon and blanks. Gives
the separator and the rest. -/
def readSeparator : List Char → Option (List Char × List Char)
  | '=' :: rest => some (['='], rest)
  | '\'' :: ':' :: rest =>
    some ('\'' :: ':' :: rest.takeWhile Text.isBlank, rest.dropWhile Text.isBlank)
  | ':' :: rest => some (':' :: rest.takeWhile Text.isBlank, rest.dropWhile Text.isBlank)
  | _ => none

/-- Whether a character ends an unquoted value. -/
def endsValue (c : Char) : Bool := Text.isBlank c || c == ',' || c == ')'

/-- The text after a credential value, which is never empty: a quoted text up to its closing
quote, else the longest run of characters that do not end a value. -/
def afterValue? (cs : List Char) : Option (List Char) :=
  let run : Option (List Char) :=
    match cs.takeWhile (!endsValue ·) with
    | [] => none
    | _ => some (cs.dropWhile (!endsValue ·))
  match cs with
  | q :: rest =>
    if q == '\'' || q == '"' then
      match rest.dropWhile (· != q) with
      | _ :: after => some after
      | [] => run
    else run
  | [] => none

/-- A credential assignment at the front of `cs`, where `before` is the character in front of
it: the masked text and how many characters the assignment took. -/
def assignmentAt (before : Option Char) (cs : List Char) : Option (List Char × Nat) :=
  if before.any Text.isWordChar then none else
  match sensitiveNames.find? (fun name => name.toList.isPrefixOf cs) with
  | none => none
  | some name =>
    let afterName := cs.drop name.length
    match readSeparator afterName with
    | none => none
    | some (sep, rest) =>
      match afterValue? rest with
      | none => none
      | some after =>
        some (name.toList ++ sep ++ ('\'' :: maskText.toList ++ ['\'']), cs.length - after.length)

/-- Masks every credential assignment, scanning from the left; `before` is the character in
front of the text. -/
def maskChars (before : Option Char) (cs : List Char) : List Char :=
  match cs with
  | [] => []
  | c :: rest =>
    match assignmentAt before (c :: rest) with
    | some (masked, taken) =>
      if _h : 0 < taken then
        masked ++ maskChars ((c :: rest).take taken).getLast? ((c :: rest).drop taken)
      else c :: maskChars (some c) rest
    | none => c :: maskChars (some c) rest
termination_by cs.length
decreasing_by
  all_goals simp_wf
  all_goals omega

/-- Masks the credential assignments of a text. -/
def maskString (s : String) : String := String.ofList (maskChars none s.toList)

/-- Masks a value through its display text, keeping the value when nothing changed. -/
def maskValue (v : Json) : Except Failure Json := do
  let text ← v.display
  let masked := maskString text
  pure (if masked == text then v else .str masked)

/-- The longest display text that is logged whole. -/
def maxContentLength : Nat := 1000

/-- Cuts a value whose display text is too long to its first `maxContentLength` characters
and a note of how many were dropped. -/
def truncate (v : Json) : Except Failure Json := do
  let cs := (← v.display).toList
  if cs.length ≤ maxContentLength then pure v
  else
    pure (.str (String.ofList (cs.take maxContentLength) ++ "...<truncated " ++
      toString (cs.length - maxContentLength) ++ " chars>"))

/-- The value logged for a member `key`: the mask when the key names a credential. A key that
is an array or an object cannot be looked up. -/
def memberValue? (key v : Json) : Option Json :=
  match key with
  | .str k => some (if sensitiveNames.contains k then .str maskText else v)
  | .arr _ => none
  | .obj _ => none
  | _ => some v

/-- Masks a leaf value for a log line, truncating it with `cut`. -/
def maskLeaf (cut : Bool) (v : Json) : Except Failure Json := do
  let masked ← maskValue v
  if cut then truncate masked else pure masked

mutual

/-- Masks a value for a log line: members with sensitive names get the mask, other leaves are
masked through their text, and with `cut` every level is truncated. -/
def maskTree (cut : Bool) : Json → Except Failure Json
  | .obj members => do
    let v := Json.obj (← maskMembers cut members)
    if cut then truncate v else pure v
  | .arr items => do
    let v := Json.arr (← maskItems cut items)
    if cut then truncate v else pure v
  | v => maskLeaf cut v

/-- `maskTree` on array items. -/
def maskItems (cut : Bool) : List Json → Except Failure (List Json)
  | [] => pure []
  | v :: rest => do
    let v' ← maskTree cut v
    pure (v' :: (← maskItems cut rest))

/-- `maskTree` on object members, after masking sensitive names. -/
def maskMembers (cut : Bool) : List (String × Json) → Except Failure (List (String × Json))
  | [] => pure []
  | (k, v) :: rest => do
    let v' ← if sensitiveNames.contains k then maskLeaf cut (.str maskText) else maskTree cut v
    pure ((k, v') :: (← maskMembers cut rest))

end

example : maskString "token='abc'" = "token='********'" := by decide +kernel
example : maskString "mytoken='abc'" = "mytoken='abc'" := by decide +kernel
example : maskString "token=a b" = "token='********' b" := by decide +kernel

end TicketCheckout.Log
