import TicketCheckout.Checkout.Failure
import TicketCheckout.Number.DecimalText
import TicketCheckout.Number.FloatText
import TicketCheckout.Text.Blank

/-!
# Lenient field values

How a declared field of a request or of the settings takes a JSON value: besides values of its
own type it accepts the neighbouring forms that stand for one unambiguously, and it names the
rule that a refused value breaks (`int_parsing`, `string_type`, ...); those names are part of the
answer to an invalid request.

* A whole number takes an integer, a truth value (one or zero), a binary64 number without a
  fractional part strictly between `-2^63` and `2^63`, and a text holding an integer literal,
  with `White_Space` around it. A literal in the strict form, an optional minus sign and the
  digits of a JSON integer (no leading zero) maybe followed by a point and one or more zeros,
  may have at most 4300 digits, and more are too large (`int_parsing_size`). Any other literal
  has an optional sign and ASCII digits, which underscores may separate one at a time but
  never at either end, and leading zeros; it is refused as unreadable (`int_parsing`) when it
  has more than 4300 digits from the first nonzero one, and a point is not allowed in it.
* A truth value takes a truth value, the numbers zero and one (a binary64 number only when it
  would make a whole number), and the texts `0`, `off`, `f`, `false`, `n`, `no` and `1`, `on`,
  `t`, `true`, `y`, `yes`, in any case of letters.
* A decimal takes a text that reads as a decimal number, an integer, and a binary64 number by
  its shortest text; it must be finite.
* A binary64 number takes numbers, truth values, and a text that is a binary64 literal once
  its `White_Space` is trimmed (an optional sign, then `inf`, `infinity` or `nan` in any case,
  or digits with an optional point and exponent), or, untrimmed, once its separating
  underscores are removed.
* A text takes only a text.
-/

namespace TicketCheckout.Schema

open Number

/-- The name of the rule a refused field value breaks. -/
abbrev Rule := String

/-- Reads an optional sign followed by one or more ASCII digits. -/
def readPlainInt (cs : List Char) : Option Int :=
  let (negative, ds) : Bool × List Char := match cs with
    | '-' :: ds => (true, ds)
    | '+' :: ds => (false, ds)
    | ds => (false, ds)
  if !ds.isEmpty && ds.all Char.isDigit then
    let n : Int := Text.asciiDigitsValue ds
    some (if negative then -n else n)
  else none

/-- Reads an optional minus sign followed by the digits of a JSON integer: `0`, or digits that
do not start with a zero. -/
def readStrictInt (cs : List Char) : Option Int :=
  match cs with
  | '+' :: _ | '0' :: _ :: _ | '-' :: '0' :: _ :: _ => none
  | _ => readPlainInt cs

/-- The part of a number text before a point and one or more zeros, if it ends so. -/
def dropZeroFraction (cs : List Char) : Option (List Char) :=
  let whole := cs.takeWhile (· != '.')
  match cs.drop whole.length with
  | '.' :: '0' :: zeros => if zeros.all (· == '0') then some whole else none
  | _ => none

/-- Whether a text has two underscores in a row. -/
def hasDoubleUnderscore : List Char → Bool
  | '_' :: '_' :: _ => true
  | _ :: rest => hasDoubleUnderscore rest
  | [] => false

/-- A text with its separating underscores removed: none when an underscore starts or ends it
or follows another. -/
def stripUnderscores (cs : List Char) : Option (List Char) :=
  if cs.head? == some '_' || cs.getLast? == some '_' || hasDoubleUnderscore cs then none
  else some (cs.filter (· != '_'))

/-- The most digits a whole number read from text may have, counted from its first nonzero
digit. -/
def maxIntTextDigits : Nat := 4300

/-- Whether a whole number has more digits than a text may give. -/
def tooManyDigits (n : Int) : Bool := (toString n.natAbs).length > maxIntTextDigits

/-- A whole number from its text; see the module comment. -/
def intOfText (s : String) : Except Rule Int :=
  let trimmed := Text.trimWhiteSpaceChars s.toList
  match readStrictInt ((dropZeroFraction trimmed).getD trimmed) with
  | some n => if tooManyDigits n then .error "int_parsing_size" else .ok n
  | none =>
    match (stripUnderscores trimmed).bind readPlainInt with
    | some n => if tooManyDigits n then .error "int_parsing" else .ok n
    | none => .error "int_parsing"

/-- A whole number from a binary64 number without a fractional part. -/
def intOfFloat (x : Binary64) : Except Rule Int :=
  if !x.isFinite then .error "finite_number"
  else if !x.isIntegral then .error "int_from_float"
  else if -Int.pow 2 63 < x.truncate && x.truncate < Int.pow 2 63 then .ok x.truncate
  else .error "int_parsing_size"

/-- A whole number field; see the module comment. -/
def toInt (v : Json) : Except Rule Int :=
  match v with
  | .int n => .ok n
  | .bool b => .ok (if b then 1 else 0)
  | .num x => intOfFloat x
  | .str s => intOfText s
  | .null | .arr _ | .obj _ => .error "int_type"

/-- The texts that stand for false. -/
def falseTexts : List String := ["0", "off", "f", "false", "n", "no"]

/-- The texts that stand for true. -/
def trueTexts : List String := ["1", "on", "t", "true", "y", "yes"]

/-- A truth value from a whole number. -/
def boolOfInt (n : Int) : Except Rule Bool :=
  if n == 0 then .ok false else if n == 1 then .ok true else .error "bool_parsing"

/-- A truth value field; see the module comment. -/
def toBool (v : Json) : Except Rule Bool :=
  match v with
  | .bool b => .ok b
  | .int n => boolOfInt n
  | .num x => match intOfFloat x with
    | .ok n => boolOfInt n
    | .error _ => .error "bool_type"
  | .str s =>
    let low := String.ofList (s.toList.map Char.toLower)
    if falseTexts.contains low then .ok false
    else if trueTexts.contains low then .ok true
    else .error "bool_parsing"
  | .null | .arr _ | .obj _ => .error "bool_type"

/-- A decimal field; see the module comment. -/
def toDecimal (v : Json) : Except Rule Decimal := do
  let d ← match v with
    | .str s => match Decimal.ofText? s with
      | some d => pure d
      | none => throw "decimal_parsing"
    | .int n => pure (Decimal.ofInt n)
    | .num x => match Decimal.ofText? (Binary64.toText .repr x) with
      | some d => pure d
      | none => throw "decimal_parsing"
    | .bool _ | .null | .arr _ | .obj _ => throw "decimal_type"
  if d.isFinite then pure d else throw "finite_number"

/-- Whether a text is a binary64 literal; see the module comment. -/
def isFloatLiteral (cs : List Char) : Bool :=
  let body := match cs with
    | '-' :: r | '+' :: r => r
    | r => r
  if ["inf", "infinity", "nan"].contains (String.ofList (body.map Char.toLower)) then true
  else
    let whole := body.takeWhile Char.isDigit
    let rest := body.drop whole.length
    let (fraction, rest) : List Char × List Char := match rest with
      | '.' :: r =>
        let f := r.takeWhile Char.isDigit
        (f, r.drop f.length)
      | r => ([], r)
    let exponentOk := match rest with
      | [] => true
      | e :: r =>
        let digits := match r with
          | '-' :: t | '+' :: t => t
          | t => t
        (e == 'e' || e == 'E') && !digits.isEmpty && digits.all Char.isDigit
    (!whole.isEmpty || !fraction.isEmpty) && exponentOk

/-- A binary64 field; see the module comment. Only whether it validates matters here. -/
def checkFloat (v : Json) : Except Rule Unit :=
  match v with
  | .int _ | .num _ | .bool _ => .ok ()
  | .str s =>
    if isFloatLiteral (Text.trimWhiteSpaceChars s.toList) then .ok ()
    else if (stripUnderscores s.toList).any isFloatLiteral then .ok ()
    else .error "float_parsing"
  | .null | .arr _ | .obj _ => .error "float_type"

/-- A text field. -/
def toText (v : Json) : Except Rule String :=
  match v with
  | .str s => .ok s
  | _ => .error "string_type"

/-- A text field that may be null. -/
def toOptionalText (v : Json) : Except Rule (Option String) :=
  match v with
  | .null => .ok none
  | .str s => .ok (some s)
  | _ => .error "string_type"

/-- A text field restricted to a list of choices. -/
def toChoice (choices : List String) (v : Json) : Except Rule String :=
  match v with
  | .str s => if choices.contains s then .ok s else .error "literal_error"
  | _ => .error "literal_error"

/-- The issues of a field value at a path: none, or the rule it breaks. -/
def issuesAt {α : Type} (path : List FieldStep) (r : Except Rule α) : List FieldIssue :=
  match r with
  | .ok _ => []
  | .error rule => [⟨path, rule⟩]

example : (intOfText "3.00").toOption = some 3 := by decide +kernel
example : (intOfText "-1_0").toOption = some (-10) := by decide +kernel
example : (intOfText "1__0").toOption = none := by decide +kernel
example : (toBool (.str "YES")).toOption = some true := by decide +kernel

end TicketCheckout.Schema
