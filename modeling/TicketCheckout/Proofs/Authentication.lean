import TicketCheckout.Auth.Credentials
import TicketCheckout.Proofs.ProcessorReplies

/-!
# Who a request authenticates as

Tokens are read by a decoder passed to `authenticate`, which stands for the token library: it
gives the claims of a validly signed token that has not expired, and otherwise refuses the caller
(`OnlyRefuses`). The service's decoder (`TokenSettings.decode`) is such a decoder
(`readToken_onlyRefuses`): every check of the token and of its registered claims refuses as an
invalid or an expired token. The reading is a chain of `do` blocks with join points, and the
refusals are followed through it with the combinators of `OnlyRefuses`, one join point at a time.

The user id claim (`userIdClaim`: `user_id`, else `sub`) is read as a whole number
(`Json.wholeNumber`), which stands for more than integers and integer texts (`Json.StandsFor`): a
truth value stands for one or zero and a finite binary64 number for its value cut toward zero.
A NaN, a text that is no integer, null, a list or an object make the token invalid, but an
infinity is out of range and is passed on as such (`infinite_user_id_overflows`).

Main statement: `currentPrincipal_names_token_user`, for every decoder that only refuses. A
request is authenticated with its cookie when that is not empty, else with the token of a bearer
header (`requestToken_eq_some_iff`); it authenticates as the user its user id claim stands for,
with the role its role claim names, when its token decodes and the user is not inactive
(`authenticate_eq_ok_iff`); every failure refuses the caller, but for a user id claim that is an
infinity (`authenticate_eq_error`).
-/
namespace TicketCheckout

/-- The role of a name is the role with that name. -/
theorem Role.ofName?_eq_some_iff {s : String} {r : Role} :
    Role.ofName? s = some r ↔ s = r.name := by
  constructor
  · intro h
    have hname : (r.name == s) = true := List.find?_some (p := fun r : Role => r.name == s) h
    exact (beq_iff_eq.1 hname).symm
  · rintro rfl
    cases r <;> rfl

theorem Number.Binary64.isFinite_iff {x : Number.Binary64} :
    x.isFinite = true ↔ x.isNaN = false ∧ x.isInfinite = false := by
  unfold Number.Binary64.isFinite Number.Binary64.isNaN Number.Binary64.isInfinite
  generalize x.biased = e
  generalize x.fraction = f
  by_cases he : e = 0x7FF <;> by_cases hf : f = 0 <;> simp [he, hf]

namespace Json

/-- The whole numbers values stand for where a whole number is wanted. -/
inductive StandsFor : Json → Int → Prop
  | int (n : Int) : StandsFor (.int n) n
  /-- A truth value stands for one or zero. -/
  | bool (b : Bool) : StandsFor (.bool b) (if b then 1 else 0)
  /-- A finite number stands for its value cut toward zero. -/
  | num {x : Number.Binary64} (hx : x.isFinite = true) : StandsFor (.num x) x.truncate
  | str {s : String} {n : Int} (hs : Text.readInt? s = some n) : StandsFor (.str s) n

/-- A value gives a whole number exactly when it stands for it. -/
theorem wholeNumber_eq_ok_iff {v : Json} {n : Int} : wholeNumber v = .ok n ↔ StandsFor v n := by
  constructor
  · intro h
    cases v with
    | int m => obtain rfl := Except.ok.inj h; exact .int m
    | bool b => obtain rfl := Except.ok.inj h; exact .bool b
    | num x =>
      simp only [wholeNumber] at h
      split_ifs at h with hnan hinf
      obtain rfl := Except.ok.inj h
      exact .num (Number.Binary64.isFinite_iff.2 ⟨by simpa using hnan, by simpa using hinf⟩)
    | str s =>
      simp only [wholeNumber] at h
      split at h
      · obtain rfl := Except.ok.inj h
        exact .str ‹_›
      · cases h
    | null | arr _ | obj _ => cases h
  · rintro (m | b | hx | hs)
    · rfl
    · rfl
    · obtain ⟨hnan, hinf⟩ := Number.Binary64.isFinite_iff.1 hx
      simp [wholeNumber, hnan, hinf]
    · simp [wholeNumber, hs]

/-- A value gives no whole number as a bad value, as a value of the wrong type, or, for an
infinity, as out of range. -/
theorem wholeNumber_eq_error {v : Json} {f : Failure} (h : wholeNumber v = .error f) :
    f = .badValue "" ∨ f = .wrongType ∨
      f = .outOfRange ∧ ∃ x, v = .num x ∧ x.isInfinite = true := by
  cases v with
  | num x =>
    simp only [wholeNumber] at h
    split_ifs at h with hnan hinf
    · exact .inl (Except.error.inj h).symm
    · exact .inr (.inr ⟨(Except.error.inj h).symm, x, rfl, hinf⟩)
  | str s =>
    simp only [wholeNumber] at h
    split at h
    · cases h
    · exact .inl (Except.error.inj h).symm
  | int _ | bool _ => cases h
  | null | arr _ | obj _ => exact .inr (.inl (Except.error.inj h).symm)

end Json

namespace Auth

/-- A failure that refuses the caller. -/
def Refusal (f : Failure) : Prop := ∃ m, f = .unauthenticated m

/-- Every failure of a computation refuses the caller. -/
def OnlyRefuses (x : Except Failure α) : Prop := ∀ f, x = .error f → Refusal f

namespace OnlyRefuses

theorem pure (a : α) : OnlyRefuses (Pure.pure a : Except Failure α) := fun _ h => nomatch h

theorem refuse (m : String) : OnlyRefuses (throw (.unauthenticated m) : Except Failure α) :=
  fun _ h => ⟨m, (Except.error.inj h).symm⟩

theorem refuse_bind (m : String) (k : α → Except Failure β) :
    OnlyRefuses (throw (.unauthenticated m) >>= k) :=
  fun _ h => ⟨m, (Except.error.inj h).symm⟩

theorem bind {x : Except Failure α} {k : α → Except Failure β} (hx : OnlyRefuses x)
    (hk : ∀ a, OnlyRefuses (k a)) : OnlyRefuses (x >>= k) := by
  intro f h
  cases hxe : x with
  | error e =>
    rw [hxe] at h
    obtain rfl : e = f := Except.error.inj (h : (Except.error e : Except Failure β) = .error f)
    exact hx e hxe
  | ok a =>
    rw [hxe] at h
    exact hk a f h

theorem check {c : Prop} [Decidable c] {j : Unit → Except Failure α} (m : String)
    (hj : ∀ r, OnlyRefuses (j r)) :
    OnlyRefuses (if c then throw (.unauthenticated m) >>= j else j ()) := by
  split
  · exact refuse_bind m j
  · exact hj ()

end OnlyRefuses

theorem notAfter_onlyRefuses (claims : List (String × Json)) (key : String) (now : Int) :
    OnlyRefuses (notAfter claims key now) := by
  unfold notAfter
  repeat' split
  all_goals first | exact OnlyRefuses.pure () | exact OnlyRefuses.refuse _

/-- Checking the registered claims fails only by refusing the caller. -/
theorem checkClaims_onlyRefuses (claims : List (String × Json)) (now : Int) :
    OnlyRefuses (checkClaims claims now) := by
  unfold checkClaims
  refine (notAfter_onlyRefuses _ _ _).bind fun _ => (notAfter_onlyRefuses _ _ _).bind fun _ => ?_
  extract_lets jti sub aud
  -- the checks after the expiry, from the last: each refuses or goes on to the next
  have hjti : ∀ r, OnlyRefuses (jti r) := fun _ => by
    unfold jti
    split
    · exact OnlyRefuses.refuse _
    · exact OnlyRefuses.pure ()
  clear_value jti
  have hsub : ∀ r, OnlyRefuses (sub r) := fun _ => .check _ hjti
  clear_value sub
  have haud : ∀ r, OnlyRefuses (aud r) := fun _ => .check _ hsub
  clear_value aud
  split
  · exact haud ()
  · split
    · exact .check _ haud
    · exact OnlyRefuses.refuse_bind _ aud

/-- Reading a token fails only by refusing the caller. -/
theorem readToken_onlyRefuses (token key allowed : String) (now : Int) :
    OnlyRefuses (readToken token key allowed now) := by
  unfold readToken
  -- each join point of the `do` block is named, shown to only refuse, and then kept abstract
  extract_lets parts
  have hparts : ∀ r, OnlyRefuses (parts r) := fun _ => by
    unfold parts
    -- the three segments decode, or the token is refused
    split; on_goal 2 => exact OnlyRefuses.refuse _
    split; on_goal 2 => exact OnlyRefuses.refuse _
    split; on_goal 2 => exact OnlyRefuses.refuse _
    split; on_goal 2 => exact OnlyRefuses.refuse _
    split; on_goal 2 => exact OnlyRefuses.refuse _
    -- the steps after the header check, from the last: the claims, the algorithm, its name
    extract_lets claims signed named
    have hclaims : ∀ r, OnlyRefuses (claims r) := fun _ => by
      unfold claims
      split
      · exact (checkClaims_onlyRefuses _ _).bind fun _ => OnlyRefuses.pure _
      · exact OnlyRefuses.refuse _
    clear_value claims
    have hsigned : ∀ alg, OnlyRefuses (signed alg) := fun _ => by
      unfold signed
      split
      · exact .check _ fun _ => .check _ hclaims
      · exact OnlyRefuses.refuse _
    clear_value signed
    have hnamed : ∀ r, OnlyRefuses (named r) := fun _ => by
      unfold named
      split
      · split
        · exact hsigned _
        · exact OnlyRefuses.refuse_bind _ signed
      · exact OnlyRefuses.refuse_bind _ signed
    clear_value named
    exact .check _ hnamed
  clear_value parts
  -- the secret is checked first
  exact .check _ hparts

theorem TokenSettings.decode_onlyRefuses (settings : TokenSettings) (token : String) :
    OnlyRefuses (settings.decode token) :=
  readToken_onlyRefuses _ _ _ _

/-- The claim that names the user: `user_id`, else `sub`. -/
def userIdClaim (claims : List (String × Json)) : Json :=
  (claims.lookup "user_id").getD ((claims.lookup "sub").getD .null)

/-- The claim that names the role, a buyer's by default. -/
def roleClaim (claims : List (String × Json)) : Json :=
  (claims.lookup "role").getD (.str Role.buyer.name)

@[simp] theorem ok_bind {a : α} {k : α → Except Failure β} : (Except.ok a >>= k) = k a := rfl

theorem throw_bind_ne_ok {e : Failure} {k : α → Except Failure β} {b : β} :
    (throw e >>= k) ≠ .ok b :=
  nofun

/-- A role claim names a role exactly when it is that role's name. -/
theorem roleClaim_eq {claims : List (String × Json)} {r : Role} :
    (roleClaim claims).str?.bind Role.ofName? = some r ↔ roleClaim claims = .str r.name := by
  rw [Option.bind_eq_some_iff]
  constructor
  · rintro ⟨s, hs, hname⟩
    rw [Json.str?_eq_some_iff.1 hs, Role.ofName?_eq_some_iff.1 hname]
  · intro h
    exact ⟨r.name, by rw [h]; rfl, Role.ofName?_eq_some_iff.2 rfl⟩

/-- Who a token authenticates as: a token that is given and not empty, that reads, whose user is
not inactive, whose user id claim stands for the id and whose role claim names the role. -/
theorem authenticate_eq_ok_iff {decode : TokenDecoder} {token : Option String} {p : Principal} :
    authenticate decode token = .ok p ↔
      ∃ t claims, token = some t ∧ t ≠ "" ∧ decode t = .ok claims ∧
        claims.lookup "is_active" ≠ some (.bool false) ∧
        Json.StandsFor (userIdClaim claims) p.id ∧ roleClaim claims = .str p.role.name := by
  constructor
  · intro h
    unfold authenticate at h
    rcases token with _ | t
    · exact absurd h throw_bind_ne_ok
    by_cases ht : t.isEmpty = true
    · simp only [ht, if_true] at h
      exact absurd h throw_bind_ne_ok
    simp only [ht, Bool.false_eq_true, if_false, pure_bind] at h
    cases hread : decode t with
    | error e =>
      rw [hread] at h
      exact absurd h throw_bind_ne_ok
    | ok claims =>
    simp only [hread, ok_bind] at h
    split at h
    · exact absurd h throw_bind_ne_ok
    · rename_i hactive
      split at h
      · rename_i id hid
        split at h
        · rename_i r hr
          obtain rfl := Except.ok.inj h
          exact ⟨t, claims, rfl, String.isEmpty_eq_false_iff.1 (by simpa using ht), hread, hactive,
            Json.wholeNumber_eq_ok_iff.1 hid, roleClaim_eq.1 hr⟩
        · cases h
      all_goals exact absurd h throw_bind_ne_ok
  · rintro ⟨t, claims, rfl, ht, hread, hactive, hid, hrole⟩
    have hwhole : Json.wholeNumber (userIdClaim claims) = .ok p.id :=
      Json.wholeNumber_eq_ok_iff.2 hid
    have hname : (roleClaim claims).str?.bind Role.ofName? = some p.role := roleClaim_eq.2 hrole
    unfold authenticate
    -- the inactive branch is left out by `hactive`
    simp only [String.isEmpty_eq_false_iff.2 ht, Bool.false_eq_true, if_false, pure_bind, hread,
      ok_bind]
    unfold userIdClaim at hwhole
    unfold roleClaim at hname
    simp only [hwhole, hname]
    rfl

theorem throw_bind_eq_error {e f : Failure} {k : α → Except Failure β}
    (h : (throw e >>= k) = .error f) : f = e :=
  (Except.error.inj h).symm

/-- With a decoder that only refuses, authenticating fails only by refusing the caller, or, for a
token that decodes but whose user id claim is an infinite number, as out of range. -/
theorem authenticate_eq_error {decode : TokenDecoder} (hdecode : ∀ t, OnlyRefuses (decode t))
    {token : Option String} {f : Failure} (h : authenticate decode token = .error f) :
    Refusal f ∨ f = .outOfRange ∧ ∃ t claims x, token = some t ∧ decode t = .ok claims ∧
      userIdClaim claims = .num x ∧ x.isInfinite = true := by
  unfold authenticate at h
  rcases token with _ | t
  · exact .inl ⟨_, throw_bind_eq_error h⟩
  by_cases ht : t.isEmpty = true
  · simp only [ht, if_true] at h
    exact .inl ⟨_, throw_bind_eq_error h⟩
  simp only [ht, Bool.false_eq_true, if_false, pure_bind] at h
  cases hread : decode t with
  | error e =>
    rw [hread] at h
    obtain rfl := throw_bind_eq_error h
    exact .inl (hdecode t f hread)
  | ok claims =>
  simp only [hread, ok_bind] at h
  split at h
  · exact .inl ⟨_, throw_bind_eq_error h⟩
  · split at h
    · split at h
      · cases h
      · exact .inl ⟨_, (Except.error.inj h).symm⟩
    · exact .inl ⟨_, throw_bind_eq_error h⟩
    · exact .inl ⟨_, throw_bind_eq_error h⟩
    · -- any other failure of the user id is passed on: only an infinity is left
      rename_i e hbad hwrong hwhole
      obtain rfl := throw_bind_eq_error h
      rcases Json.wholeNumber_eq_error hwhole with rfl | rfl | ⟨rfl, x, hx, hinf⟩
      · exact absurd rfl (hbad "")
      · exact absurd rfl hwrong
      · exact .inr ⟨rfl, t, claims, x, rfl, hread, hx, hinf⟩

/-- A bearer header and the token it carries: the header starts with `bearer ` in any case, and
the token is what follows with blanks trimmed. -/
def BearerToken (header token : String) : Prop :=
  (header.toList.take 7).map Char.toLower = "bearer ".toList ∧
    token = Text.trimBlanks (String.ofList (header.toList.drop 7))

theorem requestToken_bearer_eq_some_iff {authorization : Option String} {t : String} :
    requestToken.bearer authorization = some t ↔
      ∃ h, authorization = some h ∧ BearerToken h t := by
  unfold requestToken.bearer BearerToken
  rcases authorization with _ | h
  · simp
  · dsimp only
    split_ifs with hprefix
    · constructor
      · intro ht
        exact ⟨h, rfl, beq_iff_eq.1 hprefix, (Option.some.inj ht).symm⟩
      · rintro ⟨_, hh, -, rfl⟩
        obtain rfl := Option.some.inj hh
        rfl
    · constructor
      · nofun
      · rintro ⟨_, hh, hp, -⟩
        obtain rfl := Option.some.inj hh
        exact absurd (beq_iff_eq.2 hp) hprefix

/-- The token of a request: a cookie that is not empty, else the token of a bearer header. -/
theorem requestToken_eq_some_iff {cookie authorization : Option String} {t : String} :
    requestToken cookie authorization = some t ↔
      cookie = some t ∧ t ≠ "" ∨
        (cookie = none ∨ cookie = some "") ∧ ∃ h, authorization = some h ∧ BearerToken h t := by
  unfold requestToken
  rcases cookie with _ | c
  · simp [requestToken_bearer_eq_some_iff]
  · by_cases hc : c = ""
    · subst hc
      simp [requestToken_bearer_eq_some_iff]
    · dsimp only
      rw [if_neg (by simpa using hc)]
      simp only [Option.some.injEq, reduceCtorEq, hc, false_and, or_false]
      constructor
      · rintro rfl
        exact ⟨rfl, hc⟩
      · rintro ⟨rfl, -⟩
        rfl

/-- Who a request authenticates as, for every decoder that only refuses and every cookie and
authorization header: the token is the cookie when that is not empty, else the token of a bearer
header; the caller is the user its user id claim stands for, with the role its role claim names,
when the token decodes and the user is not inactive; and every failure refuses the caller, but
for a user id claim that is an infinity. -/
theorem currentPrincipal_names_token_user (decode : TokenDecoder)
    (hdecode : ∀ t, OnlyRefuses (decode t)) (cookie authorization : Option String) :
    (∀ t, requestToken cookie authorization = some t ↔
      cookie = some t ∧ t ≠ "" ∨
        (cookie = none ∨ cookie = some "") ∧ ∃ h, authorization = some h ∧ BearerToken h t) ∧
    (∀ p, currentPrincipal decode cookie authorization = .ok p ↔
      ∃ t claims, requestToken cookie authorization = some t ∧ t ≠ "" ∧ decode t = .ok claims ∧
        claims.lookup "is_active" ≠ some (.bool false) ∧
        Json.StandsFor (userIdClaim claims) p.id ∧ roleClaim claims = .str p.role.name) ∧
    (∀ f, currentPrincipal decode cookie authorization = .error f →
      Refusal f ∨ f = .outOfRange ∧ ∃ t claims x, requestToken cookie authorization = some t ∧
        decode t = .ok claims ∧ userIdClaim claims = .num x ∧ x.isInfinite = true) :=
  ⟨fun _ => requestToken_eq_some_iff, fun _ => authenticate_eq_ok_iff,
    fun _ => authenticate_eq_error hdecode⟩

/-- The statement for the service's decoder, with a secret, the one algorithm the service allows
and a clock, for a request with a cookie and no header. -/
theorem currentPrincipal_names_token_user_of_service_decoder :
    let settings : TokenSettings := ⟨"unit_test_secret_0123456789abcdef", "HS256", 1893456000⟩
    (∀ t, OnlyRefuses (settings.decode t)) ∧
    (∀ t, requestToken (some "tok") none = some t ↔
      some "tok" = some t ∧ t ≠ "" ∨
        (some "tok" = none ∨ some "tok" = some "") ∧ ∃ h, none = some h ∧ BearerToken h t) ∧
    (∀ p, currentPrincipal settings.decode (some "tok") none = .ok p ↔
      ∃ t claims, requestToken (some "tok") none = some t ∧ t ≠ "" ∧
        settings.decode t = .ok claims ∧ claims.lookup "is_active" ≠ some (.bool false) ∧
        Json.StandsFor (userIdClaim claims) p.id ∧ roleClaim claims = .str p.role.name) ∧
    (∀ f, currentPrincipal settings.decode (some "tok") none = .error f →
      Refusal f ∨ f = .outOfRange ∧ ∃ t claims x, requestToken (some "tok") none = some t ∧
        settings.decode t = .ok claims ∧ userIdClaim claims = .num x ∧ x.isInfinite = true) :=
  ⟨TokenSettings.decode_onlyRefuses _,
    currentPrincipal_names_token_user _ (TokenSettings.decode_onlyRefuses _) _ _⟩

/-- A token whose user id claim is an infinite number is not refused: turning the claim into a
whole number overflows, and the overflow is passed on. -/
theorem infinite_user_id_overflows :
    authenticate (fun _ => .ok [("user_id", .num (Number.Binary64.infinity false))]) (some "t") =
      .error .outOfRange :=
  rfl

end TicketCheckout.Auth
