/-!
# Principals

The authenticated caller: a user id and a role. An administrator may see and cancel any order;
anyone else only their own.
-/

namespace TicketCheckout

/-- The roles a caller can hold. -/
inductive Role where
  | buyer
  | seller
  | admin
  deriving DecidableEq, Repr

namespace Role

/-- The role's name in credentials. -/
def name : Role → String
  | .buyer => "buyer"
  | .seller => "seller"
  | .admin => "admin"

/-- The role with a name; names are matched exactly. -/
def ofName? (s : String) : Option Role := [Role.buyer, .seller, .admin].find? (·.name == s)

end Role

/-- An authenticated caller. -/
structure Principal where
  id : Int
  role : Role := .buyer
  deriving DecidableEq, Repr

namespace Principal

/-- A caller named by id and role name; a name that is no role gives no more rights than a
buyer has. -/
def ofRoleName (id : Int) (roleName : String) : Principal :=
  ⟨id, (Role.ofName? roleName).getD .buyer⟩

/-- Whether the caller is an administrator. -/
def isAdmin (p : Principal) : Bool := p.role == .admin

/-- Whether the caller may act on something owned by `owner`. -/
def canAccess (p : Principal) (owner : Int) : Bool := p.isAdmin || p.id == owner

theorem canAccess_self (p : Principal) : p.canAccess p.id = true := by
  simp [canAccess]

end Principal

end TicketCheckout
