import TicketCheckout.Log.CallArguments
import TicketCheckout.Proofs.ReadBack

/-!
# Normalizing the arguments of a logged call

What `normalize` does to a call, for every signature (`normalize_eq`): it keeps the keyword
arguments that name a parameter, or all of them when the function takes extra keyword
arguments; and it keeps as many positional arguments as there are positional parameters that no
keyword argument names, or all of them when the function takes extra positional arguments. The
range check between the required and the possible number of positional arguments changes nothing
beyond that cut, since a cut to the larger bound keeps a shorter list whole.

A call that binds to the signature loses nothing (`normalize_of_binds`) when none of its keyword
arguments carries the name of a positional-only parameter. The first positional parameters, as
many as the call passes by position, are then named by no keyword argument
(`not_named_of_mem_take`), so the cut keeps every positional argument. Such a keyword argument
can only bind as an extra keyword argument, and then the parameter of that name counts as given
by keyword: a signature read from a full argument spec, which records no positional-only
parameters, never meets this case (`normalize_drops_only_unbound_arguments`).
-/

namespace TicketCheckout.Log

namespace Signature

/-- The positional parameters that no keyword argument names. -/
def unnamedPositional (sig : Signature) (kwargs : List (String × Json)) : List String :=
  sig.positional.filter fun p => !(kwargs.any (·.1 == p))

theorem length_filter_zip {names : List String} {values : List Json}
    (h : names.length ≤ values.length) (P : String → Bool) :
    ((names.zip values).filter fun kv => P kv.1).length = (names.filter P).length := by
  induction names generalizing values with
  | nil => simp
  | cons k names ih =>
    rcases values with _ | ⟨d, values⟩
    · simp at h
    · have hrest := @ih values (by simpa using h)
      by_cases hk : P k <;> simp [hk, hrest]

theorem length_openPositional (sig : Signature) (kwargs : List (String × Json)) :
    (sig.openPositional kwargs).length = (sig.unnamedPositional kwargs).length := by
  have hpadded : sig.positional.length ≤ sig.paddedDefaults.length := by
    simp only [paddedDefaults, List.length_append, List.length_replicate]
    omega
  exact length_filter_zip hpadded fun p => !(kwargs.any (·.1 == p))

/-- Without extra positional arguments, the positional arguments are cut to the number of
parameters that no keyword argument names. -/
theorem keepPositional_eq (sig : Signature) (args : List Json) (kwargs : List (String × Json)) :
    sig.keepPositional args kwargs =
      if sig.varPositional then args else args.take (sig.unnamedPositional kwargs).length := by
  rw [← length_openPositional]
  unfold keepPositional
  dsimp only
  split_ifs with hv hempty hrange
  · rfl
  · rw [List.isEmpty_iff.1 hempty, List.length_nil, List.take_zero]
  · -- within the range the arguments are at most as many as the cut keeps
    simp only [Bool.and_eq_true, decide_eq_true_eq] at hrange
    exact (List.take_of_length_le hrange.2).symm
  · rfl

/-- Keeping the keyword arguments that name parameters keeps every one that names a positional
parameter. -/
theorem unnamedPositional_keepKeywords (sig : Signature) (kwargs : List (String × Json)) :
    sig.unnamedPositional (sig.keepKeywords kwargs) = sig.unnamedPositional kwargs := by
  unfold keepKeywords
  split_ifs
  · rfl
  · unfold unnamedPositional
    apply List.filter_congr
    intro p hp
    have hnamed : ∀ kv : String × Json, kv.1 = p → sig.keywordNames.contains kv.1 = true := by
      rintro kv rfl
      simp [keywordNames, hp]
    rw [Bool.not_inj_iff, List.any_filter, Bool.eq_iff_iff]
    simp only [List.any_eq_true, Bool.and_eq_true, beq_iff_eq]
    constructor
    · rintro ⟨kv, hkv, -, h⟩
      exact ⟨kv, hkv, h⟩
    · rintro ⟨kv, hkv, h⟩
      exact ⟨kv, hkv, hnamed kv h, h⟩

/-! ## Calls that bind -/

variable {sig : Signature} {c : Call}

/-- Without extra keyword arguments, an accepted keyword argument names a parameter. -/
theorem mem_keywordNames_of_acceptsKeyword {given : Nat} {k : String}
    (h : sig.acceptsKeyword given k = true) (hvk : sig.varKeyword = false) :
    k ∈ sig.keywordNames := by
  unfold acceptsKeyword at h
  split at h
  · rename_i i hi
    obtain ⟨hil, hget, -⟩ := List.idxOf?_eq_some_iff.1 hi
    exact List.mem_append_left _ (hget ▸ List.getElem_mem hil)
  · rw [hvk, Bool.or_false, List.any_eq_true] at h
    obtain ⟨kv, hkv, hk⟩ := h
    rw [beq_iff_eq] at hk
    exact List.mem_append_right _ (List.mem_map.2 ⟨kv, hkv, hk⟩)

/-- An accepted keyword argument that names no positional-only parameter names none of the
parameters given by position. -/
theorem not_named_of_mem_take {given : Nat} {k : String}
    (haccept : sig.acceptsKeyword given k = true)
    (honly : k ∉ sig.positional.take sig.positionalOnly) : k ∉ sig.positional.take given := by
  intro hk
  obtain ⟨m, hm, rfl⟩ := List.mem_take_iff_getElem.1 hk
  -- the first parameter of that name decides
  obtain ⟨i, hi⟩ : ∃ i, sig.positional.idxOf? sig.positional[m] = some i :=
    Option.isSome_iff_exists.1 (List.isSome_idxOf?.2 (List.getElem_mem _))
  obtain ⟨hil, hget, hfirst⟩ := List.idxOf?_eq_some_iff.1 hi
  have him : i ≤ m := by
    by_contra hlt
    exact hfirst m (by omega) rfl
  unfold acceptsKeyword at haccept
  rw [hi] at haccept
  dsimp only at haccept
  split_ifs at haccept with hpos
  · -- a positional-only parameter
    exact honly (hget ▸ List.mem_take_iff_getElem.2 ⟨i, by omega, rfl⟩)
  · -- a parameter given by keyword is not given by position
    have hgiven : given ≤ i := by simpa using haccept
    omega

/-- The parts of a binding call that normalizing looks at: not too many positional arguments,
and every keyword argument accepted. -/
theorem binds_accepts (hc : sig.binds c = true) :
    (c.args.length ≤ sig.positional.length ∨ sig.varPositional = true) ∧
      ∀ kv ∈ c.kwargs, sig.acceptsKeyword c.args.length kv.1 = true := by
  unfold binds at hc
  simp only [Bool.and_eq_true, Bool.or_eq_true, decide_eq_true_eq, List.all_eq_true,
    List.mem_map] at hc
  obtain ⟨⟨⟨⟨hgiven, -⟩, haccept⟩, -⟩, -⟩ := hc
  exact ⟨hgiven, fun kv hkv => haccept kv.1 ⟨kv, hkv, rfl⟩⟩

/-- The positional arguments of a binding call, none of whose keyword arguments names a
positional-only parameter, are at most as many as the positional parameters no keyword argument
names. -/
theorem length_args_le (hc : sig.binds c = true) (hv : sig.varPositional = false)
    (honly : ∀ kv ∈ c.kwargs, kv.1 ∉ sig.positional.take sig.positionalOnly) :
    c.args.length ≤ (sig.unnamedPositional c.kwargs).length := by
  obtain ⟨hgiven, haccept⟩ := binds_accepts hc
  rw [hv] at hgiven
  simp only [Bool.false_eq_true, or_false] at hgiven
  -- the parameters given by position are named by no keyword argument
  have htake : (sig.positional.take c.args.length).filter
      (fun p => !(c.kwargs.any (·.1 == p))) = sig.positional.take c.args.length := by
    rw [List.filter_eq_self]
    intro p hp
    simp only [Bool.not_eq_eq_eq_not, Bool.not_true, List.any_eq_false, beq_iff_eq]
    rintro kv hkv rfl
    exact not_named_of_mem_take (haccept kv hkv) (honly kv hkv) hp
  calc c.args.length = (sig.positional.take c.args.length).length := by
        rw [List.length_take]
        omega
    _ = ((sig.positional.take c.args.length).filter
          (fun p => !(c.kwargs.any (·.1 == p)))).length := by rw [htake]
    _ ≤ (sig.unnamedPositional c.kwargs).length :=
        ((List.take_sublist _ _).filter _).length_le

end Signature

theorem normalize_eq (sig : Signature) (c : Call) :
    normalize sig c =
      ⟨if sig.varPositional then c.args
        else c.args.take (sig.unnamedPositional c.kwargs).length,
       if sig.varKeyword then c.kwargs
        else c.kwargs.filter fun kv => sig.keywordNames.contains kv.1⟩ := by
  simp only [normalize, Signature.keepPositional_eq, Signature.unnamedPositional_keepKeywords]
  rfl

/-- A call that binds, none of whose keyword arguments names a positional-only parameter, is
passed on whole. -/
theorem normalize_of_binds {sig : Signature} {c : Call} (hc : sig.binds c = true)
    (honly : ∀ kv ∈ c.kwargs, kv.1 ∉ sig.positional.take sig.positionalOnly) :
    normalize sig c = c := by
  rw [normalize_eq]
  obtain ⟨args, kwargs⟩ := c
  congr 1
  · split_ifs with hv
    · rfl
    · exact List.take_of_length_le
        (Signature.length_args_le hc (Bool.eq_false_iff.2 hv) honly)
  · split_ifs with hvk
    · rfl
    · rw [List.filter_eq_self]
      intro kv hkv
      have hname := Signature.mem_keywordNames_of_acceptsKeyword
        ((Signature.binds_accepts hc).2 kv hkv) (Bool.eq_false_iff.2 hvk)
      simpa using hname

/-- The case the hypothesis leaves out: a keyword argument bound as an extra keyword argument
under the name of a positional-only parameter hides that parameter's positional argument. -/
example : (Signature.mk ["a"] 1 [] false true []).binds ⟨[.int 1], [("a", .int 2)]⟩ = true ∧
    normalize ⟨["a"], 1, [], false, true, []⟩ ⟨[.int 1], [("a", .int 2)]⟩ =
      ⟨[], [("a", .int 2)]⟩ :=
  ⟨by decide, rfl⟩

/-- Normalizing drops only what a call cannot bind: keyword arguments that name no parameter,
unless the function takes extra keyword arguments, and positional arguments beyond the positional
parameters that no keyword argument names, unless it takes extra positional arguments. A call
that binds to a signature read from a full argument spec, which has no positional-only
parameters, is passed on whole. -/
theorem normalize_drops_only_unbound_arguments (sig : Signature) (c : Call) :
    normalize sig c =
      ⟨if sig.varPositional then c.args
        else c.args.take (sig.unnamedPositional c.kwargs).length,
       if sig.varKeyword then c.kwargs
        else c.kwargs.filter fun kv => sig.keywordNames.contains kv.1⟩ ∧
    (sig.positionalOnly = 0 → sig.binds c = true → normalize sig c = c) :=
  ⟨normalize_eq sig c, fun hnone hc => normalize_of_binds hc (by simp [hnone])⟩

/-- A call of a method with a default and a keyword-only parameter, passing the receiver and the
offer by position and the user by keyword, binds and is passed on whole. -/
theorem normalize_passes_offer_call :
    let sig : Signature :=
      { positional := ["self", "offer_id", "quantity"], defaults := [.int 1],
        keywordOnly := [("user", false)] }
    let c : Call := ⟨[.str "service", .int 7], [("user", .int 1)]⟩
    sig.positionalOnly = 0 ∧ sig.binds c = true ∧ normalize sig c = c := by
  intro sig c
  have hc : sig.binds c = true := by decide
  exact ⟨rfl, hc, (normalize_drops_only_unbound_arguments sig c).2 rfl hc⟩

end TicketCheckout.Log
