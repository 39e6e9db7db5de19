import TicketCheckout.Checkout.Failure
import TicketCheckout.Number.FloatText
import TicketCheckout.Text.Hex
import TicketCheckout.Text.IntLiteral
import TicketCheckout.Text.Printable

/-!
# Display text of values

The text a log line shows for a value. Text stands as it is at the top; inside a container it
is quoted, with single quotes unless it holds a single quote and no double quote. Quoted text
escapes the backslash, the chosen quote, tab, newline and carriage return by a backslash and a
letter, other controls as `\xhh`, and non-printable characters beyond ASCII as `\xhh`,
`\uhhhh` or `\Uhhhhhhhh` by size. Containers are `[a, b]` and `{'k': v}`; the constants are
`True`, `False` and `None`; numbers use `FloatStyle.repr`.

Python writes no integer of more than `maxIntDigits` digits as text: `str` of a value holding one
fails with a bad value (`display`), and so does the JSON writer, which also refuses a number
that is not finite, whichever of the two it meets first (`writeFault?`).
-/

namespace TicketCheckout.Json

/-- The escape of a character by its code point in `width` hexadecimal digits after `mark`. -/
def hexEscape (mark : Char) (n width : Nat) : List Char :=
  '\\' :: mark :: Text.hexDigits n width

/-- One character of quoted text, with `q` the quote in use. -/
def displayChar (q : Char) (c : Char) : List Char :=
  let n := c.toNat
  if c == q || c == '\\' then ['\\', c]
  else if c == '\t' then ['\\', 't']
  else if c == '\n' then ['\\', 'n']
  else if c == '\r' then ['\\', 'r']
  else if n < 0x20 || n == 0x7F then hexEscape 'x' n 2
  else if n < 0x7F || Text.isPrintable c then [c]
  else if n ≤ 0xFF then hexEscape 'x' n 2
  else if n ≤ 0xFFFF then hexEscape 'u' n 4
  else hexEscape 'U' n 8

/-- Quoted text; see the module comment for the choice of quote. -/
def quoted (s : String) : String :=
  let cs := s.toList
  let q := if cs.contains '\'' && !cs.contains '"' then '"' else '\''
  String.ofList (q :: cs.flatMap (displayChar q) ++ [q])

mutual

/-- The text of a value inside a container: text is quoted. -/
def nested : Json → String
  | .null => "None"
  | .bool b => if b then "True" else "False"
  | .int n => toString n
  | .num x => Number.Binary64.toText Number.FloatStyle.repr x
  | .str s => quoted s
  | .arr items => "[" ++ nestedItems items ++ "]"
  | .obj members => "\x7b" ++ nestedMembers members ++ "\x7d"

/-- Array items, separated by a comma and a space. -/
def nestedItems : List Json → String
  | [] => ""
  | [v] => nested v
  | v :: rest => nested v ++ ", " ++ nestedItems rest

/-- Object members as `'k': v`, separated by a comma and a space. -/
def nestedMembers : List (String × Json) → String
  | [] => ""
  | [(k, v)] => quoted k ++ ": " ++ nested v
  | (k, v) :: rest => quoted k ++ ": " ++ nested v ++ ", " ++ nestedMembers rest

end

/-- Whether Python writes an integer as text: it has at most `maxIntDigits` digits. -/
def intWritable (n : Int) : Bool := decide ((Nat.toDigits 10 n.natAbs).length ≤ Text.maxIntDigits)

/-- The failure of writing an integer of more than `maxIntDigits` digits as text. -/
def intLimitFailure : Failure :=
  .badValue ("Exceeds the limit (" ++ toString Text.maxIntDigits ++
    " digits) for integer string conversion; " ++
    "use sys.set_int_max_str_digits() to increase the limit")

mutual

/-- Whether every integer in a value can be written as text. -/
def writable : Json → Bool
  | .int n => intWritable n
  | .arr items => writableItems items
  | .obj members => writableMembers members
  | _ => true

/-- Whether every integer in the items can be written as text. -/
def writableItems : List Json → Bool
  | [] => true
  | v :: rest => writable v && writableItems rest

/-- Whether every integer in the members' values can be written as text. -/
def writableMembers : List (String × Json) → Bool
  | [] => true
  | (_, v) :: rest => writable v && writableMembers rest

end

/-- The display text of a value (Python's `str`): text as it is, anything else as inside a
container; a value with an integer that cannot be written fails. -/
def display (v : Json) : Except Failure String :=
  if v.writable then
    match v with
    | .str s => .ok s
    | v => .ok (nested v)
  else .error intLimitFailure

mutual

/-- The first value the JSON writer refuses, in writing order: a number that is not finite, or
an integer that cannot be written. -/
def writeFault? : Json → Option Failure
  | .int n => if intWritable n then none else some intLimitFailure
  | .num x =>
    if x.isFinite then none else some (.badValue "Out of range float values are not JSON compliant")
  | .arr items => writeFaultItems? items
  | .obj members => writeFaultMembers? members
  | _ => none

/-- The first value the JSON writer refuses in the items. -/
def writeFaultItems? : List Json → Option Failure
  | [] => none
  | v :: rest => (writeFault? v).or (writeFaultItems? rest)

/-- The first value the JSON writer refuses in the members' values. -/
def writeFaultMembers? : List (String × Json) → Option Failure
  | [] => none
  | (_, v) :: rest => (writeFault? v).or (writeFaultMembers? rest)

end

example : (display (.obj [("token", .str "a")])).toOption = some "\x7b'token': 'a'\x7d" := by
  decide +kernel
example : quoted "it's" = "\"it's\"" := by decide +kernel

end TicketCheckout.Json
