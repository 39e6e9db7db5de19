import TicketCheckout.Webhook.Signature
import TicketCheckout.Proofs.Codes
import Mathlib.Data.List.TakeWhile

/-!
# What signature verification accepts

A callback passes verification (`Webhook.verify`) exactly when its signature header is not
empty, every `t` field holds an integer literal, a `t` field and a nonempty `v1` field are
present, the last timestamp lies within the tolerance of the current time as the verifier
measures it (`withinTolerance`), one of the `v1` values is the signature of the body at that
timestamp, and the body is a JSON object, which is then the event. The header is read through
its fields (`Webhook.Header.fields`): the `t` values (`Header.timestampTexts`) and the nonempty
`v1` values (`Header.signatureTexts`) in order; `readFields_eq` says that the loop over the
fields keeps the last timestamp and collects the signatures.

The measure of time is exact for a whole number of seconds (`withinTolerance_whole`). For a
binary64 current time the difference is a binary64 subtraction, rounded: near `10 ^ 16` seconds
binary64 numbers are two apart, and a timestamp 301 seconds away is accepted under a tolerance
of 300 (`binary64_clock_accepts_beyond_tolerance`).

Signing and verifying agree: the header `sign` writes for an integer timestamp of at most
`maxIntDigits` digits is read back as that timestamp with that one signature (`Header.read_sign`),
because a printed integer reads back (`Text.readInt?_toString`) and neither it nor the
hexadecimal signature holds a comma or a blank.

Main statement: `verify_accepts_exactly_signed_objects`.
-/

namespace TicketCheckout

/-! ## Characters of printed numbers -/

namespace Text

theorem isBlank_of_visible {c : Char} (h1 : 33 ≤ c.toNat) (h2 : c.toNat ≤ 126) :
    isBlank c = false := by
  simp only [isBlank, Bool.or_eq_false_iff, Bool.and_eq_false_iff, decide_eq_false_iff_not,
    beq_eq_false_iff_ne, Nat.not_le]
  omega

theorem trimBlankChars_of_visible {cs : List Char}
    (h : ∀ c ∈ cs, 33 ≤ c.toNat ∧ c.toNat ≤ 126) : trimBlankChars cs = cs := by
  have hb : ∀ c ∈ cs, isBlank c = false := fun c hc => isBlank_of_visible (h c hc).1 (h c hc).2
  have hkeep : ∀ l : List Char, (∀ c ∈ l, isBlank c = false) → l.dropWhile isBlank = l :=
    fun l hl => List.dropWhile_eq_self_iff.2 fun hlen => by simp [hl _ (List.getElem_mem hlen)]
  unfold trimBlankChars dropBlanks
  rw [hkeep cs hb, hkeep cs.reverse (by simpa using hb), List.reverse_reverse]

theorem trimWhiteSpaceChars_of_visible {cs : List Char}
    (h : ∀ c ∈ cs, 33 ≤ c.toNat ∧ c.toNat ≤ 126) : trimWhiteSpaceChars cs = cs := by
  have hb : ∀ c ∈ cs, isWhiteSpace c = false := fun c hc => by
    simp [isWhiteSpace, isBlank_of_visible (h c hc).1 (h c hc).2]
  have hkeep : ∀ l : List Char, (∀ c ∈ l, isWhiteSpace c = false) →
      l.dropWhile isWhiteSpace = l :=
    fun l hl => List.dropWhile_eq_self_iff.2 fun hlen => by simp [hl _ (List.getElem_mem hlen)]
  unfold trimWhiteSpaceChars
  rw [hkeep cs hb, hkeep cs.reverse (by simpa using hb), List.reverse_reverse]

/-- An ASCII digit is a digit of the first run, the ASCII one. -/
theorem digitValue?_of_isDigit {c : Char} (h : c.isDigit = true) :
    digitValue? c = some (c.toNat - 48) := by
  have hc : 48 ≤ c.toNat ∧ c.toNat ≤ 57 := by simpa using Char.isDigit_iff_toNat.1 h
  simp only [digitValue?, digitZeros]
  rw [List.find?_cons_of_pos (by simp only [Bool.and_eq_true, decide_eq_true_eq]; omega)]
  rfl

/-- A run of ASCII digits reads as its value, appended to what was read before, while the
digits are few enough. -/
theorem readDigitRun_digits {ds : List Char} (hds : ∀ c ∈ ds, c.isDigit = true)
    {acc count : Nat} {saw : Bool} (hsaw : saw = true ∨ ds ≠ [])
    (hlen : count + ds.length ≤ maxIntDigits) :
    readDigitRun acc count saw ds = some (Nat.ofDigitChars 10 ds acc) := by
  induction ds generalizing acc count saw with
  | nil =>
    simp only [ne_eq, not_true_eq_false, or_false] at hsaw
    simp only [readDigitRun, hsaw, Bool.true_and, decide_eq_true_eq, Nat.ofDigitChars_nil]
    simpa using hlen
  | cons c rest ih =>
    have hc := hds c List.mem_cons_self
    have hne : c ≠ '_' := by
      rintro rfl
      simp at hc
    rw [readDigitRun.eq_def]
    split
    · rename_i heq
      cases heq
    · rename_i heq
      exact absurd (List.cons.inj heq).1 hne
    · -- a digit that is not a low line: its value joins the number
      rename_i heq
      obtain ⟨rfl, rfl⟩ := List.cons.inj heq
      have hrest := @ih (fun c' hc' => hds c' (List.mem_cons_of_mem c hc'))
        (10 * acc + (c.toNat - 48)) (count + 1) true (.inl rfl)
        (by simp only [List.length_cons] at hlen; omega)
      rw [digitValue?_of_isDigit hc]
      dsimp only
      rw [hrest, Nat.ofDigitChars_cons]
      rfl

theorem toString_int_chars (n : Int) :
    ∀ c ∈ (toString n).toList, c = '-' ∨ c.isDigit = true := by
  intro c hc
  rw [Int.toString_eq_repr, Int.repr_eq_if] at hc
  split at hc
  · exact .inr (Nat.isDigit_of_mem_toDigits (b := 10) (by decide) (by decide) (by simpa using hc))
  · simp only [String.toList_append, Nat.toList_repr, List.mem_append] at hc
    rcases hc with hc | hc
    · exact .inl (by simpa using hc)
    · exact .inr (Nat.isDigit_of_mem_toDigits (b := 10) (by decide) (by decide) hc)

theorem toString_int_visible (n : Int) :
    ∀ c ∈ (toString n).toList, 45 ≤ c.toNat ∧ c.toNat ≤ 57 := by
  intro c hc
  rcases toString_int_chars n c hc with rfl | hdigit
  · decide
  · have := Char.isDigit_iff_toNat.1 hdigit
    simp only [Char.reduceToNat] at this
    omega

theorem readDigitRun_toDigits {m : Nat} (hm : m < 10 ^ maxIntDigits) :
    readDigitRun 0 0 false (Nat.toDigits 10 m) = some m := by
  rw [readDigitRun_digits
    (fun c hc => Nat.isDigit_of_mem_toDigits (b := 10) (by decide) (by decide) hc)
    (.inr Nat.toDigits_ne_nil)
    (by rw [Nat.zero_add]; exact (Nat.length_toDigits_le_iff (by decide) (by decide)).2 hm),
    Nat.ofDigitChars_ten_toDigits]

/-- A printed integer of at most `maxIntDigits` digits reads back as itself. -/
theorem readInt?_toString {n : Int} (h : n.natAbs < 10 ^ maxIntDigits) :
    readInt? (toString n) = some n := by
  unfold readInt?
  rw [trimWhiteSpaceChars_of_visible fun c hc =>
    have := toString_int_visible n c hc
    ⟨by omega, by omega⟩]
  rw [Int.toString_eq_repr, Int.repr_eq_if]
  split
  · -- no sign: the digits start at once
    rename_i hpos
    have hm : n.toNat < 10 ^ maxIntDigits := by omega
    rw [Nat.toList_repr]
    obtain ⟨d, ds, hds⟩ := List.exists_cons_of_ne_nil (Nat.toDigits_ne_nil (n := n.toNat) (b := 10))
    have hd : 48 ≤ d.toNat ∧ d.toNat ≤ 57 := by
      simpa using Char.isDigit_iff_toNat.1
        (Nat.isDigit_of_mem_toDigits (b := 10) (by decide) (by decide) (hds ▸ List.mem_cons_self))
    have hrun := readDigitRun_toDigits hm
    rw [hds] at hrun ⊢
    unfold readSignedDigits
    split
    · rename_i heq
      cases heq
      simp only [Char.reduceToNat] at hd
      omega
    · rename_i heq
      cases heq
      simp only [Char.reduceToNat] at hd
      omega
    · rw [hrun]
      simp [Int.toNat_of_nonneg hpos]
  · -- a minus sign, then the digits of the magnitude
    rename_i hneg
    have habs : (-n).toNat = n.natAbs := by omega
    have hchars : ("-" ++ (-n).toNat.repr).toList = '-' :: Nat.toDigits 10 (-n).toNat := by
      simp [Nat.toList_repr]
    rw [hchars]
    simp only [readSignedDigits, habs, readDigitRun_toDigits h]
    show some (-(n.natAbs : Int)) = some n
    rw [Int.ofNat_natAbs_of_nonpos (by omega), Int.neg_neg]

/-- The characters of hexadecimal text are digits or the letters `a` to `f`. -/
theorem hexOfBytes_visible (bytes : List UInt8) :
    ∀ c ∈ (hexOfBytes bytes).toList, 48 ≤ c.toNat ∧ c.toNat ≤ 102 := by
  have hdigit : ∀ k : Fin 16, 48 ≤ (hexDigit k).toNat ∧ (hexDigit k).toNat ≤ 102 := by decide
  have hdigits : ∀ n w, ∀ c ∈ hexDigits n w, 48 ≤ c.toNat ∧ c.toNat ≤ 102 := by
    intro n w
    induction w generalizing n with
    | zero => simp [hexDigits]
    | succ w ih =>
      intro c hc
      simp only [hexDigits, List.mem_append, List.mem_singleton] at hc
      rcases hc with hc | rfl
      · exact ih _ c hc
      · exact hdigit ⟨n % 16, Nat.mod_lt n (by decide)⟩
  intro c hc
  simp only [hexOfBytes, String.toList_ofList, List.mem_flatMap] at hc
  obtain ⟨b, -, hc⟩ := hc
  exact hdigits _ _ c hc

theorem length_hexOfBytes (bytes : List UInt8) :
    (hexOfBytes bytes).toList.length = 2 * bytes.length := by
  simp only [hexOfBytes, String.toList_ofList, List.length_flatMap, length_hexDigits]
  simp [List.sum_replicate, Nat.mul_comm]

end Text

/-! ## Digest lengths -/

namespace Digest

theorem size_sha256Block (hv : Array UInt32) (block : Array UInt8) :
    (sha256Block hv block).size = 8 := by
  simp [sha256Block]

/-- SHA-256 gives 32 bytes. -/
theorem length_sha256 (msg : List UInt8) : (sha256 msg).length = 32 := by
  have hfold : ∀ (l : List (Array UInt8)) (hv : Array UInt32), hv.size = 8 →
      (l.foldl sha256Block hv).size = 8 := by
    intro l
    induction l with
    | nil => exact fun _ h => h
    | cons b rest ih => exact fun hv _ => ih _ (size_sha256Block hv b)
  have hsize := hfold (chunks 64 (padMessage msg 64 8)) sha256Initial rfl
  simp only [sha256, wordsToBytes32, List.length_flatMap, List.length_cons, List.length_nil]
  simp [hsize]

end Digest

namespace Webhook

open Text

theorem length_digest (secret : List UInt8) (timestamp : Int) (body : List UInt8) :
    (digest secret timestamp body).toList.length = 64 := by
  rw [digest, length_hexOfBytes, Digest.hmac, Digest.HashFunction.sha256]
  simp only [Digest.length_sha256]

/-! ## Splitting a header -/

theorem mem_of_mem_splitOn {a : Char} :
    ∀ {l part : List Char}, part ∈ l.splitOn a → ∀ c ∈ part, c ∈ l
  | [], part, hpart, c, hc => by simp_all
  | x :: xs, part, hpart, c, hc => by
    rw [List.splitOn_cons_eq_if_modifyHead] at hpart
    split at hpart
    · rcases List.mem_cons.1 hpart with rfl | hpart
      · cases hc
      · exact List.mem_cons_of_mem x (mem_of_mem_splitOn hpart c hc)
    · obtain ⟨first, rest, hsplit⟩ := List.exists_cons_of_ne_nil (List.splitOn_ne_nil a xs)
      rw [hsplit, List.modifyHead_cons] at hpart
      rcases List.mem_cons.1 hpart with rfl | hpart
      · rcases List.mem_cons.1 hc with rfl | hc
        · exact List.mem_cons_self
        · exact List.mem_cons_of_mem x
            (mem_of_mem_splitOn (hsplit ▸ List.mem_cons_self) c hc)
      · exact List.mem_cons_of_mem x
          (mem_of_mem_splitOn (hsplit ▸ List.mem_cons_of_mem first hpart) c hc)

theorem mem_of_mem_splitField_value {field : List Char} {c : Char}
    (hc : c ∈ (splitField field).2.toList) : c ∈ field := by
  simp only [splitField, String.toList_ofList] at hc
  have hdrop := (List.drop_sublist 1 _).subset hc
  have htrim := (List.dropWhile_sublist _).subset hdrop
  unfold trimBlankChars dropBlanks at htrim
  rw [List.mem_reverse] at htrim
  have := (List.dropWhile_sublist _).subset htrim
  rw [List.mem_reverse] at this
  exact (List.dropWhile_sublist _).subset this

/-! ## Reading the fields -/

/-- The values of the `t` fields, in order. -/
def timestampValues (fields : List (String × String)) : List String :=
  fields.filterMap fun f => if f.1 = "t" then some f.2 else none

/-- The nonempty values of the `v1` fields, in order. -/
def signatureValues (fields : List (String × String)) : List String :=
  fields.filterMap fun f => if f.1 = "v1" ∧ f.2 ≠ "" then some f.2 else none

/-- The signatures of an ASCII header are ASCII. -/
theorem signatureValues_ascii {text : String} (hascii : ∀ c ∈ text.toList, c.toNat < 128) :
    ∀ sig ∈ signatureValues (Header.fields text), ∀ c ∈ sig.toList, c.toNat < 128 := by
  intro sig hsig c hc
  simp only [signatureValues, Header.fields, List.filterMap_map, List.mem_filterMap,
    Function.comp, Option.ite_none_right_eq_some, Option.some.injEq] at hsig
  obtain ⟨field, hfield, -, rfl⟩ := hsig
  exact hascii c (mem_of_mem_splitOn hfield c (mem_of_mem_splitField_value hc))

private theorem getLast?_cons_or {α : Type} (a : α) (l : List α) (t : Option α) :
    (a :: l).getLast?.or t = l.getLast?.or (some a) := by
  cases l with
  | nil => rfl
  | cons b l => rw [List.getLast?_cons_cons, List.getLast?_eq_some_getLast (List.cons_ne_nil b l)]; rfl

/-- Reading the fields in one pass: every timestamp must read, the last one is kept (or the one
given when there is none), and the nonempty signatures are collected in order. -/
theorem readFields_eq (fields : List (String × String)) (t : Option Int) (sigs : List String) :
    readFields fields t sigs =
      if (timestampValues fields).all fun v => (readInt? v).isSome then
        .ok (((timestampValues fields).filterMap readInt?).getLast?.or t,
          sigs ++ signatureValues fields)
      else .error (.badSignature "Malformed payment signature timestamp") := by
  induction fields generalizing t sigs with
  | nil => simp [readFields, timestampValues, signatureValues]
  | cons field rest ih =>
    obtain ⟨key, value⟩ := field
    by_cases hkey : key = "t"
    · -- a timestamp must read, and it becomes the latest one
      subst hkey
      have hts : timestampValues (("t", value) :: rest) = value :: timestampValues rest := by
        simp [timestampValues]
      have hsv : signatureValues (("t", value) :: rest) = signatureValues rest := by
        simp [signatureValues]
      rw [hts, hsv]
      cases hread : readInt? value with
      | none => simp [readFields, hread]
      | some n =>
        simp only [readFields, beq_self_eq_true, if_true, hread, ih, List.all_cons,
          Option.isSome_some, Bool.true_and, List.filterMap_cons, getLast?_cons_or]
    · -- any other field leaves the timestamp alone
      have hts : timestampValues ((key, value) :: rest) = timestampValues rest := by
        simp [timestampValues, hkey]
      have hkey' : (key == "t") = false := by simpa using hkey
      rw [hts]
      by_cases hsig : key = "v1" ∧ value ≠ ""
      · have hsv : signatureValues ((key, value) :: rest) = value :: signatureValues rest := by
          simp [signatureValues, hsig]
        have hcond : (key == "v1" && !value.isEmpty) = true := by
          simpa [String.isEmpty_iff] using hsig
        simp only [readFields, hkey', hcond, ih, hsv, Bool.false_eq_true, if_false, if_true,
          List.append_assoc, List.singleton_append]
      · have hsv : signatureValues ((key, value) :: rest) = signatureValues rest := by
          simp [signatureValues, hsig]
        have hcond : (key == "v1" && !value.isEmpty) = false := by
          simpa [String.isEmpty_iff] using hsig
        simp only [readFields, hkey', hcond, ih, hsv, Bool.false_eq_true, if_false]

/-- The last of a list of values that all read is read from the last value. -/
private theorem getLast?_filterMap_readInt? {l : List String}
    (h : ∀ v ∈ l, (readInt? v).isSome) :
    (l.filterMap readInt?).getLast? = l.getLast?.bind readInt? := by
  induction l with
  | nil => rfl
  | cons v rest ih =>
    obtain ⟨n, hn⟩ := Option.isSome_iff_exists.1 (h v List.mem_cons_self)
    have ih := ih fun w hw => h w (List.mem_cons_of_mem v hw)
    cases rest with
    | nil => simp [hn]
    | cons w rest =>
      obtain ⟨m, hm⟩ := Option.isSome_iff_exists.1 (h w (by simp))
      simp only [List.filterMap_cons, hn, hm] at ih ⊢
      simpa using ih

/-- A header reads exactly when its timestamps all read and it has a timestamp and a nonempty
signature; it reads as the last timestamp and the nonempty signatures. -/
theorem Header.read_eq_ok (text : String) (timestamp : Int) (signatures : List String) :
    Header.read text = .ok ⟨timestamp, signatures⟩ ↔
      (∀ v ∈ timestampValues (Header.fields text), (readInt? v).isSome) ∧
      (timestampValues (Header.fields text)).getLast?.bind readInt? = some timestamp ∧
      signatures = signatureValues (Header.fields text) ∧ signatures ≠ [] := by
  unfold Header.read
  rw [readFields_eq]
  by_cases hall : (timestampValues (Header.fields text)).all fun v => (readInt? v).isSome
  · have hall' := List.all_eq_true.1 hall
    rw [if_pos hall, ← getLast?_filterMap_readInt? hall']
    simp only [Option.or_none, List.nil_append]
    generalize ((timestampValues (Header.fields text)).filterMap readInt?).getLast? = last
    generalize signatureValues (Header.fields text) = found
    rcases last with _ | t <;> rcases found with _ | ⟨sig, found⟩
    -- only a timestamp together with a signature makes a header
    case some.cons =>
      constructor
      · rintro ⟨⟩
        exact ⟨hall', rfl, rfl, List.cons_ne_nil _ _⟩
      · rintro ⟨-, ⟨⟩, rfl, -⟩
        rfl
    all_goals
      refine ⟨nofun, ?_⟩
      simp
  · rw [if_neg hall]
    simp only [List.all_eq_true] at hall
    exact ⟨nofun, fun h => (hall h.1).elim⟩

/-! ## Comparing signatures -/

/-- Among ASCII signatures, the comparison answers whether the expected one is present. -/
theorem anyMatches_ascii (expected : String) {sigs : List String}
    (hascii : ∀ sig ∈ sigs, ∀ c ∈ sig.toList, c.toNat < 128) :
    anyMatches expected sigs = .ok (decide (expected ∈ sigs)) := by
  induction sigs with
  | nil => simp [anyMatches]
  | cons sig rest ih =>
    have hsig : (sig.toList.all fun c => decide (c.toNat < 128)) = true := by
      simpa using hascii sig List.mem_cons_self
    rw [anyMatches, hsig, ih fun s hs => hascii s (List.mem_cons_of_mem sig hs)]
    by_cases heq : sig = expected
    · simp [heq]
    · simp [heq, Ne.symm heq]

/-! ## Measuring time -/

/-- Whole numbers compare as exact ratios as they compare as integers. -/
theorem wholeRatio_compare_gt (a b : Int) :
    ((wholeRatio a).compare (wholeRatio b) == .gt) = decide (b < a) := by
  have hz : ∀ n : Int, (n.natAbs == 0) = decide (n = 0) := fun n => by
    rw [Bool.eq_iff_iff, beq_iff_eq, decide_eq_true_iff, Int.natAbs_eq_zero]
  unfold Number.Ratio.compare wholeRatio Number.compareFractions
  simp only [Nat.mul_one, hz]
  rw [Bool.eq_iff_iff]
  -- the comparison looks at zeros first, then at signs, then at magnitudes
  by_cases ha0 : a = 0 <;> by_cases hb0 : b = 0 <;> by_cases ha : a < 0 <;> by_cases hb : b < 0 <;>
    simp [ha0, hb0, ha, hb, Nat.compare_eq_gt] <;> omega

theorem withinTolerance_whole (now timestamp tolerance : Int) :
    withinTolerance (.whole now) timestamp (.whole tolerance) =
      .ok (decide (((now - timestamp).natAbs : Int) ≤ tolerance)) := by
  simp only [withinTolerance, pure_bind, exceeds, Option.all_some, wholeRatio_compare_gt,
    ← decide_not, Int.not_lt]
  rfl

/-! ## Signed headers -/

theorem splitField_key_value {key value : List Char} (hkey : '=' ∉ key)
    (hvisible : ∀ c ∈ key ++ '=' :: value, 33 ≤ c.toNat ∧ c.toNat ≤ 126) :
    splitField (key ++ '=' :: value) = (String.ofList key, String.ofList value) := by
  have hne : ∀ c ∈ key, (c != '=') = true := fun c hc => by
    simpa using fun h : c = '=' => hkey (h ▸ hc)
  simp [splitField, trimBlankChars_of_visible hvisible, List.takeWhile_append_of_pos hne,
    List.dropWhile_append_of_pos hne]

/-- The fields of a signed header are its timestamp and its signature. -/
theorem Header.fields_sign (secret : List UInt8) (timestamp : Int) (body : List UInt8) :
    Header.fields (sign secret timestamp body) =
      [("t", toString timestamp), ("v1", digest secret timestamp body)] := by
  have ht := toString_int_visible timestamp
  have hd : ∀ c ∈ (digest secret timestamp body).toList, 48 ≤ c.toNat ∧ c.toNat ≤ 102 :=
    hexOfBytes_visible _
  -- both fields are visible text whose characters start at `-`, after the comma
  have htfield : ∀ c ∈ ['t'] ++ '=' :: (toString timestamp).toList,
      45 ≤ c.toNat ∧ c.toNat ≤ 126 := by
    intro c hc
    simp only [List.cons_append, List.nil_append, List.mem_cons] at hc
    rcases hc with rfl | rfl | hc
    · decide
    · decide
    · have := ht c hc
      omega
  have hvfield : ∀ c ∈ ['v', '1'] ++ '=' :: (digest secret timestamp body).toList,
      45 ≤ c.toNat ∧ c.toNat ≤ 126 := by
    intro c hc
    simp only [List.cons_append, List.nil_append, List.mem_cons] at hc
    rcases hc with rfl | rfl | rfl | hc
    · decide
    · decide
    · decide
    · have := hd c hc
      omega
  have hnocomma : ∀ cs : List Char, (∀ c ∈ cs, 45 ≤ c.toNat ∧ c.toNat ≤ 126) → ',' ∉ cs :=
    fun cs h hc => absurd (h ',' hc).1 (by decide)
  have hvisible : ∀ cs : List Char, (∀ c ∈ cs, 45 ≤ c.toNat ∧ c.toNat ≤ 126) →
      ∀ c ∈ cs, 33 ≤ c.toNat ∧ c.toNat ≤ 126 :=
    fun cs h c hc => ⟨by have := (h c hc).1; omega, (h c hc).2⟩
  have htext : (sign secret timestamp body).toList =
      (['t'] ++ '=' :: (toString timestamp).toList) ++
        ',' :: (['v', '1'] ++ '=' :: (digest secret timestamp body).toList) := by
    simp [sign]
  rw [Header.fields, htext, List.splitOn_append_cons_self_of_not_mem (hnocomma _ htfield),
    List.splitOn_eq_singleton (hnocomma _ hvfield), List.map_cons, List.map_cons, List.map_nil,
    splitField_key_value (by decide) (hvisible _ htfield),
    splitField_key_value (by decide) (hvisible _ hvfield), String.ofList_toList,
    String.ofList_toList]

/-- A signed header reads as its timestamp and its one signature, when the timestamp has at
most `maxIntDigits` digits. -/
theorem Header.read_sign (secret : List UInt8) {timestamp : Int} (body : List UInt8)
    (hdigits : timestamp.natAbs < 10 ^ maxIntDigits) :
    Header.read (sign secret timestamp body) = .ok ⟨timestamp, [digest secret timestamp body]⟩ := by
  have hsig : digest secret timestamp body ≠ "" := fun h => by
    simpa [h] using length_digest secret timestamp body
  -- the printed timestamp, as the simplifier writes it
  have hread : readInt? timestamp.repr = some timestamp := by
    simpa using readInt?_toString hdigits
  rw [Header.read_eq_ok, Header.fields_sign]
  simp [timestampValues, signatureValues, hread, hsig]

/-! ## Verification -/

/-- Verification step by step: the header is not empty and reads, its timestamp is within the
tolerance, one of its signatures matches, and the body is a JSON object. -/
theorem verify_ok_iff (loads : List UInt8 → Option Json) (secret : List UInt8)
    (tolerance : Seconds) (body : List UInt8) (text : String) (now : Seconds)
    (event : List (String × Json)) :
    verify loads secret tolerance body (some text) now = .ok event ↔
      text ≠ "" ∧ ∃ header, Header.read text = .ok header ∧
        withinTolerance now header.timestamp tolerance = .ok true ∧
        anyMatches (digest secret header.timestamp body) header.signatures = .ok true ∧
        loads body = some (.obj event) := by
  by_cases hempty : text = ""
  · subst hempty
    exact ⟨nofun, fun h => (h.1 rfl).elim⟩
  have hne : text.isEmpty = false := by simpa [String.isEmpty_iff] using hempty
  simp only [verify, hne, Bool.false_eq_true, if_false, pure_bind, ne_eq, hempty,
    not_false_eq_true, true_and]
  cases hread : Header.read text with
  | error e => exact ⟨nofun, fun ⟨_, h, _⟩ => nomatch h⟩
  | ok header =>
    simp only [bind, Except.bind, Except.ok.injEq, exists_eq_left']
    cases htol : withinTolerance now header.timestamp tolerance with
    | error e => exact ⟨nofun, fun h => nomatch h.1⟩
    | ok within =>
    cases within
    · -- the timestamp is out of tolerance
      exact ⟨nofun, fun h => nomatch h.1⟩
    cases hany : anyMatches (digest secret header.timestamp body) header.signatures with
    | error e => exact ⟨nofun, fun h => nomatch h.2.1⟩
    | ok found =>
    cases found
    · -- no signature matches
      exact ⟨nofun, fun h => nomatch h.2.1⟩
    simp only [true_and]
    generalize loads body = decoded
    rcases decoded with _ | ⟨_ | _ | _ | _ | _ | _ | members⟩
    case some.obj => simp [pure, Except.pure]
    all_goals exact ⟨nofun, nofun⟩

/-- A callback signed at an integer timestamp of at most `maxIntDigits` digits, whose body is a
JSON object, passes verification whenever the timestamp is within the tolerance. -/
theorem verify_sign (loads : List UInt8 → Option Json) (secret : List UInt8)
    (tolerance : Seconds) (body : List UInt8) (now : Seconds) {timestamp : Int}
    {event : List (String × Json)} (hdigits : timestamp.natAbs < 10 ^ maxIntDigits)
    (htime : withinTolerance now timestamp tolerance = .ok true)
    (hbody : loads body = some (.obj event)) :
    verify loads secret tolerance body (some (sign secret timestamp body)) now = .ok event := by
  have hnonempty : sign secret timestamp body ≠ "" := fun h => by
    simpa [sign] using congrArg String.toList h
  have hascii : ∀ sig ∈ [digest secret timestamp body], ∀ c ∈ sig.toList, c.toNat < 128 := by
    simp only [List.mem_singleton, forall_eq]
    exact fun c hc => by have := hexOfBytes_visible _ c hc; omega
  refine (verify_ok_iff ..).2 ⟨hnonempty, _, Header.read_sign secret body hdigits, htime, ?_, hbody⟩
  rw [anyMatches_ascii _ hascii]
  simp

/-- What verification asks of a callback whose signature header is `text`, read off the
header's fields: `timestamp` is the header's timestamp and `event` the body. -/
structure Accepted (loads : List UInt8 → Option Json) (secret : List UInt8) (tolerance : Seconds)
    (body : List UInt8) (text : String) (now : Seconds) (timestamp : Int)
    (event : List (String × Json)) : Prop where
  nonempty : text ≠ ""
  timestamps_read : ∀ v ∈ timestampValues (Header.fields text), (readInt? v).isSome
  last_timestamp : (timestampValues (Header.fields text)).getLast?.bind readInt? = some timestamp
  has_signature : signatureValues (Header.fields text) ≠ []
  in_tolerance : withinTolerance now timestamp tolerance = .ok true
  signature_matches : digest secret timestamp body ∈ signatureValues (Header.fields text)
  json_object : loads body = some (.obj event)

/-- Verification of an ASCII header accepts exactly the callbacks that meet `Accepted`, and
gives their body; with a whole clock and a whole tolerance, a timestamp is within the tolerance
exactly when its distance to the clock is at most the tolerance; and a callback signed at a
timestamp of at most `maxIntDigits` digits passes whenever its body is a JSON object and the
timestamp is within the tolerance. -/
theorem verify_accepts_exactly_signed_objects (loads : List UInt8 → Option Json)
    (secret : List UInt8) (tolerance : Seconds) (body : List UInt8) (text : String)
    (now : Seconds) (hascii : ∀ c ∈ text.toList, c.toNat < 128) :
    (∀ event, verify loads secret tolerance body (some text) now = .ok event ↔
      ∃ timestamp, Accepted loads secret tolerance body text now timestamp event) ∧
    (∀ n t : Int, now = .whole n → tolerance = .whole t → ∀ timestamp : Int,
      withinTolerance now timestamp tolerance = .ok true ↔ |n - timestamp| ≤ t) ∧
    ∀ (timestamp : Int) (event : List (String × Json)),
      timestamp.natAbs < 10 ^ maxIntDigits →
      withinTolerance now timestamp tolerance = .ok true →
      loads body = some (.obj event) →
      verify loads secret tolerance body (some (sign secret timestamp body)) now = .ok event := by
  have hsigs := signatureValues_ascii hascii
  refine ⟨fun event => ?_, fun n t hn ht timestamp => ?_,
    fun _ _ hdigits htime hbody => verify_sign _ _ _ _ _ hdigits htime hbody⟩
  swap
  · -- a whole clock measures the distance exactly
    subst hn ht
    rw [withinTolerance_whole]
    simp
  rw [verify_ok_iff]
  constructor
  · rintro ⟨hnonempty, ⟨timestamp, signatures⟩, hread, htime, hany, hbody⟩
    obtain ⟨hall, hlast, rfl, hsome⟩ := (Header.read_eq_ok ..).1 hread
    rw [anyMatches_ascii _ hsigs] at hany
    exact ⟨timestamp, hnonempty, hall, hlast, hsome, htime, by simpa using hany, hbody⟩
  · rintro ⟨timestamp, hnonempty, hall, hlast, hsome, htime, hmem, hbody⟩
    refine ⟨hnonempty, ⟨timestamp, signatureValues (Header.fields text)⟩,
      (Header.read_eq_ok ..).2 ⟨hall, hlast, rfl, hsome⟩, htime, ?_, hbody⟩
    rw [anyMatches_ascii _ hsigs]
    simpa using hmem

/-- The statement at a header of two fields, a whole clock and an empty body. -/
theorem verify_accepts_exactly_signed_objects_at_zero :
    (∀ c ∈ "t=0,v1=00".toList, c.toNat < 128) ∧
    ((∀ event, verify readBody [] (.whole 300) [] (some "t=0,v1=00") (.whole 0) = .ok event ↔
      ∃ timestamp, Accepted readBody [] (.whole 300) [] "t=0,v1=00" (.whole 0) timestamp event) ∧
    (∀ n t : Int, Seconds.whole 0 = .whole n → Seconds.whole 300 = .whole t → ∀ timestamp : Int,
      withinTolerance (.whole 0) timestamp (.whole 300) = .ok true ↔ |n - timestamp| ≤ t) ∧
    ∀ (timestamp : Int) (event : List (String × Json)),
      timestamp.natAbs < 10 ^ maxIntDigits →
      withinTolerance (.whole 0) timestamp (.whole 300) = .ok true →
      readBody [] = some (.obj event) →
      verify readBody [] (.whole 300) [] (some (sign [] timestamp [])) (.whole 0) = .ok event) :=
  ⟨by simp, verify_accepts_exactly_signed_objects readBody [] (.whole 300) [] "t=0,v1=00"
    (.whole 0) (by simp)⟩

private theorem eq_ok_of_toOption {x : Except Failure Bool} {b : Bool}
    (h : x.toOption = some b) : x = .ok b := by
  cases x <;> simp_all [Except.toOption]

private theorem eq_some_empty_obj {x : Option Json}
    (h : x.map (fun j => match j with | .obj [] => true | _ => false) = some true) :
    x = some (.obj []) := by
  rcases x with _ | ⟨_ | _ | _ | _ | _ | _ | _ | _⟩ <;> simp_all

/-- With a binary64 clock the distance is rounded: binary64 numbers near `10 ^ 16` are two apart,
and a callback signed 301 seconds before the clock reading `10 ^ 16` passes a tolerance of 300
seconds. -/
theorem binary64_clock_accepts_beyond_tolerance :
    Number.Binary64.ofInt (10 ^ 16) = ⟨0x4341C37937E08000⟩ ∧
    verify readBody (utf8Bytes "whsec_test") (.whole 300) (utf8Bytes "{}")
      (some (sign (utf8Bytes "whsec_test") 9999999999999699 (utf8Bytes "{}")))
      (.real (Number.Binary64.ofInt (10 ^ 16))) = .ok [] ∧
    300 < ((10 ^ 16 : Int) - 9999999999999699).natAbs := by
  have hnow : Number.Binary64.ofInt (10 ^ 16) = ⟨0x4341C37937E08000⟩ := by decide +kernel
  have htime : withinTolerance (.real ⟨0x4341C37937E08000⟩) 9999999999999699 (.whole 300) =
      .ok true :=
    eq_ok_of_toOption (by decide +kernel)
  have hbody : readBody (utf8Bytes "{}") = some (.obj []) :=
    eq_some_empty_obj (by decide +kernel)
  refine ⟨hnow, ?_, by decide⟩
  rw [hnow]
  exact verify_sign _ _ _ _ _ (by decide +kernel) htime hbody

end Webhook

end TicketCheckout
