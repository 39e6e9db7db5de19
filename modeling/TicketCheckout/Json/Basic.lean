import TicketCheckout.Number.Binary64

/-!
# JSON values

The values that requests, webhook bodies and token claims carry. Integers keep every digit and
are told apart from binary64 numbers, as the service's readers do: `2` and `2.0` are different
values. An object lists its members in text order, each key once.

The accessors here are the ones the service needs: the value of a member, and the kind of a
value for messages.
-/

namespace TicketCheckout

/-- A JSON value: integers of any size beside binary64 numbers; an object's members in text
order, with distinct keys. -/
inductive Json where
  | null
  | bool (b : Bool)
  | int (n : Int)
  | num (x : Number.Binary64)
  | str (s : String)
  | arr (items : List Json)
  | obj (members : List (String × Json))
  deriving Inhabited

namespace Json

/-- The value of the member named `key` of an object; nothing for a missing member or a value
that is not an object. -/
def get? (v : Json) (key : String) : Option Json :=
  match v with
  | .obj members => members.lookup key
  | _ => none

/-- Whether an object has a member named `key`. -/
def has (v : Json) (key : String) : Bool := (v.get? key).isSome

/-- The text of a string value. -/
def str? : Json → Option String
  | .str s => some s
  | _ => none

/-- The integer of an integer value. -/
def int? : Json → Option Int
  | .int n => some n
  | _ => none

/-- The items of an array value. -/
def arr? : Json → Option (List Json)
  | .arr items => some items
  | _ => none

/-- The members of an object value. -/
def obj? : Json → Option (List (String × Json))
  | .obj members => some members
  | _ => none

/-- Whether the value is null. -/
def isNull : Json → Bool
  | .null => true
  | _ => false

/-- Whether the value is an object. -/
def isObj : Json → Bool
  | .obj _ => true
  | _ => false

/-- Sets the member `key` of a member list: in place when it is there, else at the end. -/
def setMember (members : List (String × Json)) (key : String) (v : Json) :
    List (String × Json) :=
  if members.any (·.1 == key) then members.map fun m => if m.1 == key then (key, v) else m
  else members ++ [(key, v)]

/-- An object built from members that may repeat a key: a key keeps the place of its first
occurrence and the value of its last. -/
def objOfPairs (pairs : List (String × Json)) : Json :=
  .obj (pairs.foldl (fun acc m => setMember acc m.1 m.2) [])

/-- Truth in the sense of the service's dynamic checks: null, false, zero, empty text and empty
containers are false. -/
def truthy : Json → Bool
  | .null => false
  | .bool b => b
  | .int n => n != 0
  | .num x => !x.isZero
  | .str s => !s.isEmpty
  | .arr items => !items.isEmpty
  | .obj members => !members.isEmpty

theorem get?_obj (members : List (String × Json)) (key : String) :
    (Json.obj members).get? key = members.lookup key := rfl

end Json

end TicketCheckout
