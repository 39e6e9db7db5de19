import TicketCheckout.Checkout.Cart
import TicketCheckout.Schema.Lax

/-!
# Order requests

The body of a request to place an order: an object whose `items` member is a list of cart
lines, each an object with a whole `offer_id`, a whole `quantity` of at least one (one when
absent) and an optional whole `seat_id`. Values are taken leniently (`Schema.Lax`). Every
refused value is reported, with its path, in the order of the items and of the fields; other
members are ignored.
-/

namespace TicketCheckout.Schema

/-- A required field of an object at a path. -/
def required {α : Type} (members : List (String × Json)) (path : List FieldStep) (name : String)
    (read : Json → Except Rule α) : Except (List FieldIssue) α :=
  match members.lookup name with
  | none => .error [⟨path ++ [.name name], "missing"⟩]
  | some v => match read v with
    | .ok a => .ok a
    | .error rule => .error [⟨path ++ [.name name], rule⟩]

/-- An optional field of an object at a path, `default` when absent. -/
def optional {α : Type} (members : List (String × Json)) (path : List FieldStep) (name : String)
    (default : α) (read : Json → Except Rule α) : Except (List FieldIssue) α :=
  match members.lookup name with
  | none => .ok default
  | some v => match read v with
    | .ok a => .ok a
    | .error rule => .error [⟨path ++ [.name name], rule⟩]

/-- The issues of a result. -/
def issuesOf {α : Type} (r : Except (List FieldIssue) α) : List FieldIssue :=
  match r with
  | .ok _ => []
  | .error issues => issues

/-- A quantity: a whole number of at least one. -/
def toQuantity (v : Json) : Except Rule Int := do
  let n ← toInt v
  if n < 1 then throw "greater_than_equal" else pure n

/-- A seat number, or null for none. -/
def toSeat (v : Json) : Except Rule (Option Int) :=
  match v with
  | .null => .ok none
  | v => (toInt v).map some

/-- A cart line of a request at a path. -/
def cartLineAt (path : List FieldStep) (v : Json) : Except (List FieldIssue) CartLine :=
  match v with
  | .obj members =>
    let offer := required members path "offer_id" toInt
    let quantity := optional members path "quantity" 1 toQuantity
    let seat := optional members path "seat_id" none toSeat
    match offer, quantity, seat with
    | .ok o, .ok q, .ok s => .ok ⟨o, q, s⟩
    | _, _, _ => .error (issuesOf offer ++ issuesOf quantity ++ issuesOf seat)
  | _ => .error [⟨path, "model_type"⟩]

/-- The cart lines of an order request; see the module comment. -/
def orderRequest (body : Json) : Except (List FieldIssue) (List CartLine) :=
  match body with
  | .obj members =>
    let here := [FieldStep.name "items"]
    match members.lookup "items" with
    | none => .error [⟨here, "missing"⟩]
    | some (.arr items) =>
      let lines := (items.zip (List.range items.length)).map fun (v, i) =>
        cartLineAt (here ++ [FieldStep.index i]) v
      match lines.mapM id with
      | .ok ls => .ok ls
      | .error _ => .error (lines.flatMap issuesOf)
    | some _ => .error [⟨here, "list_type"⟩]
  | _ => .error [⟨[], "model_type"⟩]

end TicketCheckout.Schema
