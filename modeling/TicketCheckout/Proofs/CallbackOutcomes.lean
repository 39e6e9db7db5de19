import TicketCheckout.Webhook.Event
import TicketCheckout.Proofs.CallbackSignatures

/-!
# How a callback ends

Receiving a callback (`Webhook.receive`) verifies it against the clock and handles the event.
`receive_ends_as_received` says how that can end (`Received`): a callback that fails
verification, is of a type other than a succeeded or failed payment, or carries no intent id
ends in the session it started from; a succeeded or failed payment ends as the settlement of its
intent does.

The failures on the way are of few kinds. Verification fails with a signature failure, or with
`wrongType` when a signature outside ASCII meets the comparison, or with `outOfRange` when the
timestamp is too large for binary64 (`verify_error`). Finding the intent fails with the missing
id refusal, or with `missingAttribute` when `data` is a nonempty value other than an object
(`intentId_error`).
-/

namespace TicketCheckout.Webhook

open Text

/-! ## Failures of verification -/

/-- A header that does not read fails with a signature failure. -/
theorem Header.read_error {text : String} {f : Failure} (h : Header.read text = .error f) :
    ∃ m, f = .badSignature m := by
  unfold Header.read at h
  rw [readFields_eq] at h
  by_cases hall : (timestampValues (Header.fields text)).all fun v => (readInt? v).isSome
  · rw [if_pos hall] at h
    generalize ((timestampValues (Header.fields text)).filterMap readInt?).getLast?.or none
      = last at h
    generalize [] ++ signatureValues (Header.fields text) = found at h
    rcases last with _ | t <;> rcases found with _ | ⟨sig, found⟩
    case some.cons => exact nomatch h
    all_goals exact ⟨_, (Except.error.inj h).symm⟩
  · rw [if_neg hall] at h
    exact ⟨_, (Except.error.inj h).symm⟩

/-- Measuring time fails only for a timestamp too large for binary64. -/
theorem withinTolerance_error {now : Seconds} {timestamp : Int} {tolerance : Seconds}
    {f : Failure} (h : withinTolerance now timestamp tolerance = .error f) : f = .outOfRange := by
  unfold withinTolerance at h
  cases now with
  | whole n => exact nomatch h
  | real x =>
    simp only at h
    -- only the conversion of the timestamp throws; every other branch returns
    split_ifs at h
    all_goals first
      | exact (Except.error.inj h).symm
      | exact nomatch h

/-- Comparing signatures fails only on a signature outside ASCII. -/
theorem anyMatches_error {expected : String} {sigs : List String} {f : Failure}
    (h : anyMatches expected sigs = .error f) : f = .wrongType := by
  induction sigs with
  | nil => exact nomatch h
  | cons sig rest ih =>
    unfold anyMatches at h
    split_ifs at h
    · exact (Except.error.inj h).symm
    · exact ih h

/-- Verification fails with a signature failure, with `wrongType` when a signature outside
ASCII is compared, or with `outOfRange` when the timestamp is too large for binary64. -/
theorem verify_error {loads : List UInt8 → Option Json} {secret : List UInt8}
    {tolerance : Seconds} {body : List UInt8} {header : Option String} {now : Seconds} {f : Failure}
    (h : verify loads secret tolerance body header now = .error f) :
    (∃ m, f = .badSignature m) ∨ f = .wrongType ∨ f = .outOfRange := by
  unfold verify at h
  -- the checks in their order, each failing in its own way
  rcases header with _ | text
  · exact .inl ⟨_, (Except.error.inj h).symm⟩
  by_cases hempty : text.isEmpty = true
  · simp only [hempty, if_true] at h
    exact .inl ⟨_, (Except.error.inj h).symm⟩
  simp only [hempty, Bool.false_eq_true, if_false, pure_bind] at h
  cases hread : Header.read text with
  | error e =>
    rw [hread] at h
    obtain rfl : e = f := Except.error.inj h
    exact .inl (Header.read_error hread)
  | ok header =>
  rw [hread] at h
  simp only [bind, Except.bind] at h
  cases htol : withinTolerance now header.timestamp tolerance with
  | error e =>
    rw [htol] at h
    obtain rfl : e = f := Except.error.inj h
    exact .inr (.inr (withinTolerance_error htol))
  | ok within =>
  rw [htol] at h
  cases within
  · exact .inl ⟨_, (Except.error.inj h).symm⟩
  cases hany : anyMatches (digest secret header.timestamp body) header.signatures with
  | error e =>
    rw [hany] at h
    obtain rfl : e = f := Except.error.inj h
    exact .inr (.inl (anyMatches_error hany))
  | ok found =>
  rw [hany] at h
  cases found
  · exact .inl ⟨_, (Except.error.inj h).symm⟩
  generalize loads body = decoded at h
  rcases decoded with _ | ⟨_ | _ | _ | _ | _ | _ | members⟩
  case some.obj => exact nomatch h
  all_goals exact .inl ⟨_, (Except.error.inj h).symm⟩

/-! ## Failures of finding the intent -/

/-- Finding the intent fails with the missing id refusal, or with `missingAttribute` when
`data` is a nonempty value other than an object. -/
theorem intentId_error {event : List (String × Json)} {f : Failure}
    (h : intentId event = .error f) :
    f = .invalid "Webhook event carries no payment intent id" ∨ f = .missingAttribute := by
  unfold intentId at h
  simp only [pure_bind] at h
  split at h
  on_goal 2 =>
    split_ifs at h
    -- a nonempty `data` other than an object has no members to look up
    on_goal 1 => exact .inr (Except.error.inj h).symm
  -- otherwise the members are looked up, and only a missing id fails
  all_goals
    left
    split at h
    · split_ifs at h
      · exact (Except.error.inj h).symm
      · exact nomatch h
    · exact (Except.error.inj h).symm

/-- A list as `data` is nonempty and no object: the lookup fails before the id is reached. -/
example : intentId [("type", .str succeededType), ("data", .arr [.int 1])] =
    .error .missingAttribute := rfl

/-! ## Receiving a callback -/

/-- How receiving a callback in session `s` can end. The clock reading it is verified against is
the session's epoch seconds as a binary64 number. -/
inductive Received (secret : List UInt8) (tolerance : Seconds) (body : List UInt8)
    (header : Option String) (s : Session) : EStateM.Result Failure Session Bool → Prop
  /-- Verification failed, in one of its ways; nothing changed. -/
  | unverified {f : Failure}
      (hverify : verify readBody secret tolerance body header (.real (.ofInt s.now.seconds)) =
        .error f)
      (hkind : (∃ m, f = .badSignature m) ∨ f = .wrongType ∨ f = .outOfRange) :
      Received secret tolerance body header s (.error f s)
  /-- An event of another type is acknowledged as not handled; nothing changed. -/
  | ignored {event : List (String × Json)}
      (hverify : verify readBody secret tolerance body header (.real (.ofInt s.now.seconds)) =
        .ok event)
      (hsucceeded : event.lookup "type" ≠ some (.str succeededType))
      (hfailed : event.lookup "type" ≠ some (.str failedType)) :
      Received secret tolerance body header s (.ok false s)
  /-- A settlement event without an intent id fails, in one of two ways; nothing changed. -/
  | noIntent {event : List (String × Json)} {f : Failure}
      (hverify : verify readBody secret tolerance body header (.real (.ofInt s.now.seconds)) =
        .ok event)
      (htype : event.lookup "type" = some (.str succeededType) ∨
        event.lookup "type" = some (.str failedType))
      (hintent : intentId event = .error f)
      (hkind : f = .invalid "Webhook event carries no payment intent id" ∨
        f = .missingAttribute) :
      Received secret tolerance body header s (.error f s)
  /-- A succeeded payment settles its intent as a success. -/
  | succeeded {event : List (String × Json)} {intent : String}
      (hverify : verify readBody secret tolerance body header (.real (.ofInt s.now.seconds)) =
        .ok event)
      (htype : event.lookup "type" = some (.str succeededType))
      (hintent : intentId event = .ok intent) :
      Received secret tolerance body header s ((Option.isSome <$> Service.finalizePayment intent) s)
  /-- A failed payment settles its intent as a failure. -/
  | failed {event : List (String × Json)} {intent : String}
      (hverify : verify readBody secret tolerance body header (.real (.ofInt s.now.seconds)) =
        .ok event)
      (htype : event.lookup "type" = some (.str failedType))
      (hintent : intentId event = .ok intent) :
      Received secret tolerance body header s ((Option.isSome <$> Service.failPayment intent) s)

/-- Receiving a callback ends in one of the ways `Received` lists. -/
theorem receive_ends_as_received (secret : List UInt8) (tolerance : Seconds)
    (body : List UInt8) (header : Option String) (s : Session) :
    Received secret tolerance body header s (receive secret tolerance body header s) := by
  have hrun : receive secret tolerance body header s =
      (Service.lift (verify readBody secret tolerance body header
        (.real (.ofInt s.now.seconds))) >>= handle) s := rfl
  rw [hrun]
  cases hverify : verify readBody secret tolerance body header (.real (.ofInt s.now.seconds)) with
  | error f => exact .unverified hverify (verify_error hverify)
  | ok event =>
  show Received secret tolerance body header s (handle event s)
  unfold handle
  rcases htype : event.lookup "type" with _ | ⟨_ | _ | _ | _ | t | _ | _⟩
  case some.str =>
    dsimp only
    by_cases hs : t = succeededType
    · subst hs
      simp only [beq_self_eq_true, if_true]
      cases hintent : intentId event with
      | error f => exact .noIntent hverify (.inl htype) hintent (intentId_error hintent)
      | ok intent => exact .succeeded hverify htype hintent
    have hs' : (t == succeededType) = false := by simpa using hs
    simp only [hs', Bool.false_eq_true, if_false]
    by_cases hf : t = failedType
    · subst hf
      simp only [beq_self_eq_true, if_true]
      cases hintent : intentId event with
      | error f => exact .noIntent hverify (.inr htype) hintent (intentId_error hintent)
      | ok intent => exact .failed hverify htype hintent
    have hf' : (t == failedType) = false := by simpa using hf
    simp only [hf', Bool.false_eq_true, if_false]
    exact .ignored hverify (by simpa [htype] using hs) (by simpa [htype] using hf)
  -- a missing type, or one that is not text, is ignored
  all_goals exact .ignored hverify (by simp [htype]) (by simp [htype])

end TicketCheckout.Webhook
