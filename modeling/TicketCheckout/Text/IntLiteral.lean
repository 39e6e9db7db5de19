import TicketCheckout.Text.Blank
import TicketCheckout.Text.DecimalDigit

/-!
# Integer literals

The text form of an integer that the service accepts wherever a number arrives as text (a
timestamp in a signature header, a user id in a token): optional white space, an optional sign,
then decimal digits of any script, where a single low line may separate two digits, then
optional white space. Leading zeros are allowed, but at most `maxIntDigits` digits in all.
`readInt? "  +0_42 "` is `some 42`.
-/

namespace TicketCheckout.Text

/-- The most digits an integer literal may have, leading zeros included. -/
def maxIntDigits : Nat := 4300

/-- Reads digits with single low lines between them, most significant first, adding to `acc`
and counting them in `count`. Fails on anything else, on a low line that does not stand between
two digits, on an empty digit string (`sawDigit` records whether a digit came before), and on
more than `maxIntDigits` digits. -/
def readDigitRun (acc count : Nat) (sawDigit : Bool) : List Char → Option Nat
  | [] => if sawDigit && count ≤ maxIntDigits then some acc else none
  | '_' :: c :: rest =>
    if sawDigit then
      match digitValue? c with
      | some d => readDigitRun (10 * acc + d) (count + 1) true rest
      | none => none
    else none
  | c :: rest =>
    match digitValue? c with
    | some d => readDigitRun (10 * acc + d) (count + 1) true rest
    | none => none

/-- The value of a signed digit run without surrounding blanks. -/
def readSignedDigits (cs : List Char) : Option Int :=
  match cs with
  | '-' :: rest => (readDigitRun 0 0 false rest).map fun n => -(n : Int)
  | '+' :: rest => (readDigitRun 0 0 false rest).map fun n => (n : Int)
  | _ => (readDigitRun 0 0 false cs).map fun n => (n : Int)

/-- The integer written by a text, or `none` when the text is not an integer literal. -/
def readInt? (s : String) : Option Int := readSignedDigits (trimWhiteSpaceChars s.toList)

example : readInt? "  +0_42 " = some 42 := by decide
example : readInt? "1__0" = none := by decide
example : readInt? "-" = none := by decide
example : readInt? "\x1c8" = none := by decide

end TicketCheckout.Text
