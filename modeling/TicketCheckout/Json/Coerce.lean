import TicketCheckout.Checkout.Failure
import TicketCheckout.Text.IntLiteral

/-!
# Whole numbers from values

The whole number a value stands for where the service needs one from loosely typed data (a
user id or a time claim in a token): an integer as it is, a truth value as one or zero, a
finite binary64 number cut toward zero, a text that is an integer literal (`Text.readInt?`).
A text that is no literal and a not-a-number value are bad values, an infinity is out of range,
and null, arrays and objects are of the wrong type.
-/

namespace TicketCheckout.Json

/-- The whole number a value stands for; see the module comment. -/
def wholeNumber (v : Json) : Except Failure Int :=
  match v with
  | .int n => .ok n
  | .bool b => .ok (if b then 1 else 0)
  | .num x =>
    if x.isNaN then .error (.badValue "")
    else if x.isInfinite then .error .outOfRange
    else .ok x.truncate
  | .str s =>
    match Text.readInt? s with
    | some n => .ok n
    | none => .error (.badValue "")
  | .null | .arr _ | .obj _ => .error .wrongType

example : (wholeNumber (.str "4_2")).toOption = some 42 := by decide +kernel

end TicketCheckout.Json
