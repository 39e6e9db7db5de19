import TicketCheckout.Auth.Token
import TicketCheckout.Checkout.Principal

/-!
# Credentials

Who is calling. A request carries its token in the session cookie or, failing that, in an
`Authorization` header of the form `Bearer <token>` (the word in any case). Tokens are read by a
decoder (`TokenDecoder`; the service's is `TokenSettings.decode`), which gives the claims of a
validly signed token that has not expired. The claims name the user by `user_id`, or by `sub`
when there is no `user_id`, and the role by `role` (a buyer when absent). A user whose
`is_active` claim is false is refused; a user id without a whole number or a role that is not
one of the roles makes the token invalid.
-/

namespace TicketCheckout.Auth

/-- What reads tokens: the claims of a token, or the failure that refuses it. -/
abbrev TokenDecoder := String → Except Failure (List (String × Json))

/-- The caller a token names, with `decode` reading it; see the module comment. -/
def authenticate (decode : TokenDecoder) (token : Option String) : Except Failure Principal := do
  let token ← match token with
    | some t => if t.isEmpty then throw (.unauthenticated "Not authenticated") else pure t
    | none => throw (.unauthenticated "Not authenticated")
  let claims ← decode token
  let userId := (claims.lookup "user_id").getD ((claims.lookup "sub").getD .null)
  let role := (claims.lookup "role").getD (.str Role.buyer.name)
  if let some (.bool false) := claims.lookup "is_active" then
    throw (.unauthenticated "User is inactive")
  let id ← match Json.wholeNumber userId with
    | .ok n => pure n
    | .error (.badValue _) | .error .wrongType => throw invalidToken
    | .error f => throw f
  match role.str?.bind Role.ofName? with
  | some r => pure ⟨id, r⟩
  | none => throw invalidToken

/-- The token of a request: the cookie when it is not empty, else the rest of a bearer
header with blanks trimmed. -/
def requestToken (cookie authorization : Option String) : Option String :=
  match cookie with
  | some c => if c.isEmpty then bearer else some c
  | none => bearer
where
  /-- The token of a bearer header. -/
  bearer : Option String :=
    match authorization with
    | some h =>
      let cs := h.toList
      if (cs.take 7).map Char.toLower == "bearer ".toList then
        some (Text.trimBlanks (String.ofList (cs.drop 7)))
      else none
    | none => none

/-- The caller of a request; see the module comment. -/
def currentPrincipal (decode : TokenDecoder) (cookie authorization : Option String) :
    Except Failure Principal :=
  authenticate decode (requestToken cookie authorization)

end TicketCheckout.Auth
