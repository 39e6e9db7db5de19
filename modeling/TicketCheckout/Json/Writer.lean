import TicketCheckout.Json.Basic
import TicketCheckout.Number.FloatText
import TicketCheckout.Text.Hex

/-!
# Writing JSON

The text of a JSON value. Members keep their order; integers are written in full and binary64
numbers in their shortest form (`FloatStyle.json`). A `WriteStyle` says what separates items
and keys from values, and whether text outside printable ASCII is escaped. Quotes, backslashes
and control characters are always escaped, the common controls by their short escapes
(`\n`, `\t`, ...), the others as `\u00XX`; escaped characters beyond the basic plane are
written as surrogate pairs.
-/

namespace TicketCheckout.Json

/-- Separators and escaping of written JSON. -/
structure WriteStyle where
  /-- Between the items of an array or the members of an object. -/
  itemSep : String
  /-- Between a key and its value. -/
  keySep : String
  /-- Every character outside printable ASCII is written as an escape. -/
  asciiOnly : Bool

namespace WriteStyle

/-- No spaces; characters other than controls written as they are. -/
def compact : WriteStyle := ⟨",", ":", false⟩

/-- No spaces; every character outside printable ASCII escaped. -/
def compactAscii : WriteStyle := ⟨",", ":", true⟩

end WriteStyle

/-- A `\u` escape with four lowercase hexadecimal digits. -/
def unitEscape (u : Nat) : List Char := '\\' :: 'u' :: Text.hexDigits u 4

/-- The escaped form of one character inside a string. -/
def escapeChar (style : WriteStyle) (c : Char) : List Char :=
  let n := c.toNat
  if c == '"' then ['\\', '"']
  else if c == '\\' then ['\\', '\\']
  else if c == '\n' then ['\\', 'n']
  else if c == '\r' then ['\\', 'r']
  else if c == '\t' then ['\\', 't']
  else if n == 8 then ['\\', 'b']
  else if n == 12 then ['\\', 'f']
  else if n < 0x20 then unitEscape n
  else if style.asciiOnly && n > 0x7E then
    if n < 0x10000 then unitEscape n
    else
      let m := n - 0x10000
      unitEscape (0xD800 + m / 0x400) ++ unitEscape (0xDC00 + m % 0x400)
  else [c]

/-- A string literal with its quotes. -/
def quote (style : WriteStyle) (s : String) : String :=
  String.ofList ('"' :: s.toList.flatMap (escapeChar style) ++ ['"'])

mutual

/-- The text of a value. -/
def write (style : WriteStyle) : Json → String
  | .null => "null"
  | .bool b => if b then "true" else "false"
  | .int n => toString n
  | .num x => Number.Binary64.toText Number.FloatStyle.json x
  | .str s => quote style s
  | .arr items => "[" ++ writeItems style items ++ "]"
  | .obj members => "\x7b" ++ writeMembers style members ++ "\x7d"

/-- The text of array items with their separators. -/
def writeItems (style : WriteStyle) : List Json → String
  | [] => ""
  | [v] => write style v
  | v :: rest => write style v ++ style.itemSep ++ writeItems style rest

/-- The text of object members with their separators. -/
def writeMembers (style : WriteStyle) : List (String × Json) → String
  | [] => ""
  | [(k, v)] => quote style k ++ style.keySep ++ write style v
  | (k, v) :: rest =>
    quote style k ++ style.keySep ++ write style v ++ style.itemSep ++ writeMembers style rest

end

example : write .compact (.obj [("a", .arr [.int 1, .null])]) = "\x7b\"a\":[1,null]\x7d" := by
  decide +kernel

end TicketCheckout.Json
