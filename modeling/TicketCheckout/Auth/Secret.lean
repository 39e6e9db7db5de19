import TicketCheckout.Json.Bytes
import TicketCheckout.Text.Utf8

/-!
# Token secrets

A token is signed with a shared secret, and only a secret of that kind can sign: an HMAC key is
just bytes, so a reader must not take key material of another scheme for one, or a token signed
with a public key could pass as signed with a secret. A secret is refused when it is empty or
when it looks like such material:

* a PEM block: a `BEGIN` boundary for one of the PEM labels, a body of at least one character
  and no dash, and the `END` boundary of the same label, where a boundary is four dashes, a dash
  or a space, the word and the label, a dash or a space, and four dashes; the body cannot hold
  a boundary, so a block is found without looking back;
* an SSH key: it starts with one of the SSH key types (the type of an SSH certificate starts
  with one too);
* a JSON web key: it is a JSON text (read as token claims are, `Json.Dialect.lenient`) with an
  object that has a `kty` member somewhere in it. A text that is not JSON is no web key, even
  when it names `kty`.
-/

namespace TicketCheckout.Auth

/-- The labels of PEM blocks. -/
def pemLabels : List String :=
  ["CERTIFICATE", "TRUSTED CERTIFICATE", "PRIVATE KEY", "PUBLIC KEY", "ENCRYPTED PRIVATE KEY",
    "OPENSSH PRIVATE KEY", "DSA PRIVATE KEY", "RSA PRIVATE KEY", "RSA PUBLIC KEY",
    "EC PRIVATE KEY", "DH PARAMETERS", "NEW CERTIFICATE REQUEST", "CERTIFICATE REQUEST",
    "SSH2 PUBLIC KEY", "SSH2 ENCRYPTED PRIVATE KEY", "X509 CRL"]

/-- Whether a character may stand next to the dashes of a boundary. -/
def isBoundaryMark (c : Char) : Bool := c == '-' || c == ' '

/-- The text after a PEM boundary `word label` at the start of `cs`, if one starts there. -/
def boundaryAt? (word label : String) (cs : List Char) : Option (List Char) :=
  match cs with
  | '-' :: '-' :: '-' :: '-' :: d :: rest =>
    let head := (word ++ " " ++ label).toList
    if isBoundaryMark d && head.isPrefixOf rest then
      match rest.drop head.length with
      | d' :: '-' :: '-' :: '-' :: '-' :: more => if isBoundaryMark d' then some more else none
      | _ => none
    else none
  | _ => none

/-- The text after the first PEM boundary `word label` in `cs`. -/
def findBoundary? (word label : String) : List Char → Option (List Char)
  | [] => none
  | c :: rest =>
    match boundaryAt? word label (c :: rest) with
    | some more => some more
    | none => findBoundary? word label rest

/-- Whether a PEM block for `label` starts at the start of `cs`: its `BEGIN` boundary, a body of
at least one character and no dash, and its `END` boundary. -/
def pemBlockAt (label : String) (cs : List Char) : Bool :=
  match boundaryAt? "BEGIN" label cs with
  | some rest =>
    let body := rest.takeWhile (· != '-')
    !body.isEmpty && (boundaryAt? "END" label (rest.drop body.length)).isSome
  | none => false

/-- Whether a text holds a PEM block anywhere; see the module comment. -/
def hasPemBlock : List Char → Bool
  | [] => false
  | c :: rest => pemLabels.any (fun label => pemBlockAt label (c :: rest)) || hasPemBlock rest

/-- The SSH key types. -/
def sshKeyTypes : List String :=
  ["ssh-ed25519", "ssh-rsa", "ssh-dss", "ecdsa-sha2-nistp256", "ecdsa-sha2-nistp384",
    "ecdsa-sha2-nistp521"]

/-- Whether a text looks like an SSH key; see the module comment. -/
def hasSshKey (cs : List Char) : Bool :=
  sshKeyTypes.any fun t => t.toList.isPrefixOf cs

/-- The member name that marks a JSON web key. -/
def keyTypeMember : String := "kty"

mutual

/-- Whether a JSON value holds, at any depth, an object with a member named `kty`. -/
def holdsWebKey : Json → Bool
  | .arr items => itemsHoldWebKey items
  | .obj members => members.any (·.1 == keyTypeMember) || membersHoldWebKey members
  | _ => false

/-- Whether one of the items holds a web key object. -/
def itemsHoldWebKey : List Json → Bool
  | [] => false
  | v :: rest => holdsWebKey v || itemsHoldWebKey rest

/-- Whether one of the members' values holds a web key object. -/
def membersHoldWebKey : List (String × Json) → Bool
  | [] => false
  | (_, v) :: rest => holdsWebKey v || membersHoldWebKey rest

end

/-- Whether a secret is the JSON text of a web key; see the module comment. -/
def isWebKey (secret : String) : Bool :=
  (Json.readBytes? .lenient (Text.utf8Bytes secret)).any holdsWebKey

/-- Whether a secret can sign tokens; see the module comment. -/
def suitable (secret : String) : Bool :=
  let cs := secret.toList
  !cs.isEmpty && !hasPemBlock cs && !hasSshKey cs && !isWebKey secret

example : suitable "unit_test_secret_0123456789abcdef" = true := by decide +kernel
example : suitable "x-----BEGIN CERTIFICATE-----y-----END CERTIFICATE-----z" = false := by
  decide +kernel
example : suitable "[1,\x7b\"kty\":null\x7d]" = false := by decide +kernel

end TicketCheckout.Auth
