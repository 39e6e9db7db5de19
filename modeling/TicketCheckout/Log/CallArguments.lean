import TicketCheckout.Json.Basic

/-!
# Arguments of logged calls

Every logged service call passes its arguments through `normalize` before the call itself, so
that a call with stray arguments still reaches the function. A function's parameters are
described by a `Signature`: the names of its positional parameters (the first `positionalOnly`
of them can only be given by position), the default values of the last ones, whether it takes
extra positional (`varPositional`) or extra keyword (`varKeyword`) arguments, and its
keyword-only parameters.

Normalizing a call works in two steps.

* Without extra keyword arguments, keyword arguments that name neither a positional nor a
  keyword-only parameter are dropped.
* Without extra positional arguments, the positional parameters not given by keyword are
  counted: a call passes between as many positional arguments as those of them whose default
  is missing or null, and as many as there are of them. Outside that range the positional
  arguments are cut to the larger bound. When every positional parameter is given by keyword,
  no positional argument is kept.

`Signature.binds` says when a call is a valid call of the function: the rule that decides
whether the function accepts the arguments at all.
-/

namespace TicketCheckout.Log

/-- The parameters of a function; see the module comment. -/
structure Signature where
  positional : List String
  /-- How many of the first positional parameters can only be given by position. -/
  positionalOnly : Nat := 0
  /-- Default values of the last positional parameters. -/
  defaults : List Json := []
  varPositional : Bool := false
  varKeyword : Bool := false
  /-- Keyword-only parameters, each with whether it has a default. -/
  keywordOnly : List (String × Bool) := []

/-- A call: positional arguments and keyword arguments. -/
structure Call where
  args : List Json
  kwargs : List (String × Json)

namespace Signature

/-- The default of each positional parameter, in order: null for one without a default. -/
def paddedDefaults (sig : Signature) : List Json :=
  List.replicate (sig.positional.length - sig.defaults.length) .null ++ sig.defaults

/-- The names a keyword argument may take without extra keyword arguments. -/
def keywordNames (sig : Signature) : List String :=
  sig.positional ++ sig.keywordOnly.map (·.1)

/-- Keeps the keyword arguments the function names, unless it takes extra ones. -/
def keepKeywords (sig : Signature) (kwargs : List (String × Json)) : List (String × Json) :=
  if sig.varKeyword then kwargs else kwargs.filter fun (k, _) => sig.keywordNames.contains k

/-- The positional parameters that no keyword argument gives, with their defaults. -/
def openPositional (sig : Signature) (kwargs : List (String × Json)) : List (String × Json) :=
  (sig.positional.zip sig.paddedDefaults).filter fun (k, _) => !(kwargs.any (·.1 == k))

/-- Cuts the positional arguments to the range the open parameters allow; see the module
comment. -/
def keepPositional (sig : Signature) (args : List Json) (kwargs : List (String × Json)) :
    List Json :=
  if sig.varPositional then args
  else
    let rest := sig.openPositional kwargs
    if rest.isEmpty then []
    else
      let most := rest.length
      let least := (rest.filter fun (_, d) => d.isNull).length
      if least ≤ args.length && args.length ≤ most then args else args.take most

end Signature

/-- Normalizes a call for a signature; see the module comment. -/
def normalize (sig : Signature) (c : Call) : Call :=
  let kwargs := sig.keepKeywords c.kwargs
  ⟨sig.keepPositional c.args kwargs, kwargs⟩

namespace Signature

/-- Whether the keyword argument `k` is accepted by a call with `given` positional arguments:
it names a parameter that may be given by keyword and was not given by position, or it is
taken as an extra keyword argument. -/
def acceptsKeyword (sig : Signature) (given : Nat) (k : String) : Bool :=
  match sig.positional.idxOf? k with
  | some i =>
    if i < sig.positionalOnly then sig.varKeyword
    else given ≤ i
  | none => sig.keywordOnly.any (·.1 == k) || sig.varKeyword

/-- Whether a call binds to the signature: not too many positional arguments, distinct
keyword arguments each accepted, and every parameter without a default given. -/
def binds (sig : Signature) (c : Call) : Bool :=
  let given := c.args.length
  let keys := c.kwargs.map (·.1)
  let firstDefault := sig.positional.length - sig.defaults.length
  (given ≤ sig.positional.length || sig.varPositional) &&
    keys.eraseDups.length == keys.length &&
    keys.all (sig.acceptsKeyword given) &&
    ((sig.positional.zip (List.range sig.positional.length)).all fun (k, i) =>
      i < given || firstDefault ≤ i || (sig.positionalOnly ≤ i && keys.contains k)) &&
    sig.keywordOnly.all fun (k, hasDefault) => hasDefault || keys.contains k

end Signature

example : ((normalize ⟨[], 0, [], false, false, [("offer_id", false)]⟩
    ⟨[], [("offer_id", .int 1), ("stray", .bool true)]⟩).kwargs.map (·.1)) = ["offer_id"] := by
  decide +kernel

end TicketCheckout.Log
