import TicketCheckout.Log.Mask
import TicketCheckout.Proofs.ReadBack

/-!
# Masked text is a fixed point of masking

Masking (`maskChars`) scans a text from the left for credential assignments and rewrites the
value of each. The scan is described here as a cut of the text into pieces (`pieces`): single
characters outside any assignment, and the assignments themselves (`Assignment`: a sensitive
name, its separator and its value). The pieces spell the text (`flatMap_text_pieces`), and
masking writes each assignment with the quoted mask in place of its value
(`maskChars_eq_flatMap`).

Main statement (`pieces_maskChars`): scanning the masked text finds the same pieces, each
assignment now with the mask as its value. Two facts carry it. The masked form of an assignment
reads back as that assignment, whatever follows it (`parse?_mask`); and a character at which no
assignment starts still starts none once the text after it is masked (`parse?_none_masked`),
because an assignment that starts in front of a masked one ends, at the latest, at the first
character of the masked one's name (`Opens.of_append`).

From it: masking is idempotent, every assignment in a masked text carries the mask, a value is
kept exactly when masking leaves its display text alone, and masking fails only on a value with
an integer too long to write as text (`maskValue_idempotent`).
-/

namespace TicketCheckout.Log

/-- The value of a masked assignment: the mask in single quotes. -/
def quotedMask : List Char := '\'' :: maskText.toList ++ ['\'']

/-- What `readSeparator` takes after a name: `=`, or a colon, maybe after a single quote,
followed by blanks. -/
def Separator (sep : List Char) : Prop :=
  sep = ['='] ∨ ∃ blanks, (∀ c ∈ blanks, Text.isBlank c = true) ∧
    (sep = ':' :: blanks ∨ sep = '\'' :: ':' :: blanks)

/-- The characters a separator is made of. -/
def isSeparatorChar (c : Char) : Bool := c == '=' || c == ':' || c == '\'' || Text.isBlank c

/-- A credential assignment found in a text. -/
structure Assignment where
  name : String
  sep : List Char
  value : List Char
  deriving DecidableEq

namespace Assignment

/-- The characters of the assignment. -/
def text (a : Assignment) : List Char := a.name.toList ++ a.sep ++ a.value

/-- The assignment with the mask as its value. -/
def mask (a : Assignment) : Assignment := { a with value := quotedMask }

/-- The assignment at the front of `cs`, read as `assignmentAt` reads it, and the text after it;
`before` is the character in front of `cs`. -/
def parse? (before : Option Char) (cs : List Char) : Option (Assignment × List Char) :=
  if before.any Text.isWordChar then none else
  match sensitiveNames.find? (fun name => name.toList.isPrefixOf cs) with
  | none => none
  | some name =>
    match readSeparator (cs.drop name.length) with
    | none => none
    | some (sep, rest) =>
      match afterValue? rest with
      | none => none
      | some after => some (⟨name, sep, rest.take (rest.length - after.length)⟩, after)

end Assignment

/-- An assignment opens at the front of `cs`: a sensitive name, a separator, and a character
that may start a value. -/
def Opens (cs : List Char) : Prop :=
  ∃ name ∈ sensitiveNames, ∃ sep x r, Separator sep ∧ endsValue x = false ∧
    cs = name.toList ++ sep ++ x :: r

/-! ## The sensitive names -/

theorem sensitiveNames_prefix_free :
    ∀ x ∈ sensitiveNames, ∀ y ∈ sensitiveNames, x.toList <+: y.toList → x = y := by
  decide

theorem isWordChar_of_mem_name :
    ∀ name ∈ sensitiveNames, ∀ c ∈ name.toList, Text.isWordChar c = true := by
  simp only [sensitiveNames, List.mem_cons, List.not_mem_nil, or_false]
  rintro name (rfl | rfl | rfl | rfl | rfl | rfl) <;> simp <;> decide

theorem name_head :
    ∀ name ∈ sensitiveNames, ∃ w ∈ name.toList.head?,
      endsValue w = false ∧ isSeparatorChar w = false := by
  simp only [sensitiveNames, List.mem_cons, List.not_mem_nil, or_false]
  rintro name (rfl | rfl | rfl | rfl | rfl | rfl) <;> simp <;> decide

/-- A text that starts with a sensitive name finds that name first. -/
theorem find?_sensitiveNames {name : String} (hname : name ∈ sensitiveNames) {cs : List Char}
    (hcs : name.toList <+: cs) :
    sensitiveNames.find? (fun n => n.toList.isPrefixOf cs) = some name := by
  obtain ⟨y, hy⟩ : ∃ y, sensitiveNames.find? (fun n => n.toList.isPrefixOf cs) = some y :=
    Option.isSome_iff_exists.1 (List.find?_isSome.2 ⟨name, hname, by simpa using hcs⟩)
  have hy_mem := List.mem_of_find?_eq_some hy
  have hy_pre : y.toList <+: cs := by simpa using List.find?_some hy
  rw [hy]
  rcases List.prefix_or_prefix_of_prefix hy_pre hcs with h | h
  · rw [sensitiveNames_prefix_free y hy_mem name hname h]
  · rw [sensitiveNames_prefix_free name hname y hy_mem h]

/-! ## Separators and values -/

theorem isSeparatorChar_of_mem {sep : List Char} (hsep : Separator sep) :
    ∀ c ∈ sep, isSeparatorChar c = true := by
  rcases hsep with rfl | ⟨blanks, hblanks, rfl | rfl⟩ <;> intro c hc <;>
    simp only [List.mem_cons, List.not_mem_nil, or_false] at hc
  · rw [hc]
    rfl
  · rcases hc with rfl | hc
    · rfl
    · simp [isSeparatorChar, hblanks c hc]
  · rcases hc with rfl | rfl | hc
    · rfl
    · rfl
    · simp [isSeparatorChar, hblanks c hc]

theorem readSeparator_eq_some {xs sep rest : List Char} (h : readSeparator xs = some (sep, rest)) :
    xs = sep ++ rest ∧ Separator sep := by
  unfold readSeparator at h
  split at h <;> simp only [Option.some.injEq, Prod.mk.injEq, reduceCtorEq] at h <;>
    obtain ⟨rfl, rfl⟩ := h
  · exact ⟨rfl, .inl rfl⟩
  · exact ⟨by simp, .inr ⟨_, fun c hc => List.mem_takeWhile_imp hc, .inr rfl⟩⟩
  · exact ⟨by simp, .inr ⟨_, fun c hc => List.mem_takeWhile_imp hc, .inl rfl⟩⟩

/-- A separator is read back in front of any character that is not blank. -/
theorem readSeparator_append {sep : List Char} (hsep : Separator sep) {x : Char}
    (hx : Text.isBlank x = false) (r : List Char) :
    readSeparator (sep ++ x :: r) = some (sep, x :: r) := by
  rcases hsep with rfl | ⟨blanks, hblanks, rfl | rfl⟩
  · rfl
  · simp [readSeparator, List.takeWhile_append_of_pos hblanks,
      List.dropWhile_append_of_pos hblanks, hx]
  · simp [readSeparator, List.takeWhile_append_of_pos hblanks,
      List.dropWhile_append_of_pos hblanks, hx]

/-- The run of characters that do not end a value. -/
theorem run_eq_some {cs after : List Char}
    (h : (match cs.takeWhile (!endsValue ·) with
      | [] => none
      | _ => some (cs.dropWhile (!endsValue ·))) = some after) :
    ∃ x v, cs = x :: v ++ after ∧ endsValue x = false ∧ after.head?.all endsValue = true := by
  generalize ht : cs.takeWhile (!endsValue ·) = t at h
  rcases t with _ | ⟨x, v⟩
  · exact nomatch h
  · simp only [Option.some.injEq] at h
    subst h
    have hmem : x ∈ cs.takeWhile (!endsValue ·) := ht ▸ List.mem_cons_self
    have hx := List.mem_takeWhile_imp hmem
    refine ⟨x, v, by rw [← ht, List.takeWhile_append_dropWhile], by simpa using hx, ?_⟩
    have hhead := List.head?_dropWhile_not (!endsValue ·) cs
    cases hd : (cs.dropWhile (!endsValue ·)).head? with
    | none => rfl
    | some y =>
      rw [hd] at hhead
      simpa using hhead

theorem afterValue?_eq_some {cs after : List Char} (h : afterValue? cs = some after) :
    ∃ x v, cs = x :: v ++ after ∧ endsValue x = false ∧
      ((x :: v).getLast?.any Text.isWordChar = false ∨ after.head?.all endsValue = true) := by
  unfold afterValue? at h
  rcases cs with _ | ⟨q, rest⟩
  · exact nomatch h
  simp only at h
  split_ifs at h with hq
  · split at h
    · -- a quoted value, up to its closing quote
      rename_i q' after' hdrop
      simp only [Option.some.injEq] at h
      subst h
      have hhead := List.head?_dropWhile_not (· != q) rest
      rw [hdrop] at hhead
      have hq' : q' = q := by simpa using hhead
      subst hq'
      have hquote : q' = '\'' ∨ q' = '"' := by simpa using hq
      refine ⟨q', rest.takeWhile (· != q') ++ [q'], ?_, ?_, .inl ?_⟩
      · have hsplit : rest = rest.takeWhile (· != q') ++ q' :: after' := by
          rw [← hdrop, List.takeWhile_append_dropWhile]
        nth_rewrite 1 [hsplit]
        simp
      · rcases hquote with rfl | rfl <;> rfl
      · have hlast : (q' :: (rest.takeWhile (· != q') ++ [q'])).getLast? = some q' :=
          List.getLast?_eq_some_iff.2 ⟨q' :: rest.takeWhile (· != q'), rfl⟩
        rw [hlast]
        rcases hquote with rfl | rfl <;> decide
    · obtain ⟨x, v, hcs, hx, hafter⟩ := run_eq_some h
      exact ⟨x, v, hcs, hx, .inr hafter⟩
  · obtain ⟨x, v, hcs, hx, hafter⟩ := run_eq_some h
    exact ⟨x, v, hcs, hx, .inr hafter⟩

theorem afterValue?_isSome {x : Char} (hx : endsValue x = false) (r : List Char) :
    (afterValue? (x :: r)).isSome := by
  have hrun : (match (x :: r).takeWhile (!endsValue ·) with
      | [] => none
      | _ => some ((x :: r).dropWhile (!endsValue ·))).isSome := by
    simp [hx]
  unfold afterValue?
  simp only
  split_ifs
  · split
    · rfl
    · exact hrun
  · exact hrun

theorem afterValue?_quotedMask (X : List Char) : afterValue? (quotedMask ++ X) = some X := by
  simp [afterValue?, quotedMask, maskText]

/-! ## Reading one assignment -/

namespace Assignment

theorem text_ne_nil_of_value {a : Assignment} {x : Char} {v : List Char}
    (hv : a.value = x :: v) : a.text ≠ [] := by
  simp [text, hv]

theorem getLast?_text {a : Assignment} {x : Char} {v : List Char} (hv : a.value = x :: v) :
    a.text.getLast? = a.value.getLast? := by
  simp [text, hv, List.getLast?_cons]

theorem getLast?_mask_text (a : Assignment) : a.mask.text.getLast? = some '\'' := by
  simp [text, mask, quotedMask, List.getLast?_cons]

/-- What an assignment read from a text is made of. -/
theorem parse?_eq_some {before : Option Char} {cs after : List Char} {a : Assignment}
    (h : parse? before cs = some (a, after)) :
    before.any Text.isWordChar = false ∧ a.name ∈ sensitiveNames ∧ Separator a.sep ∧
      cs = a.text ++ after ∧ ∃ x v, a.value = x :: v ∧ endsValue x = false ∧
        (a.value.getLast?.any Text.isWordChar = false ∨ after.head?.all endsValue = true) := by
  unfold parse? at h
  split_ifs at h with hb
  split at h
  · exact nomatch h
  rename_i name hfind
  split at h
  · exact nomatch h
  rename_i sep rest hsep
  split at h
  · exact nomatch h
  rename_i after' hafter
  simp only [Option.some.injEq, Prod.mk.injEq] at h
  obtain ⟨rfl, rfl⟩ := h
  obtain ⟨t, rfl⟩ : name.toList <+: cs := by simpa using List.find?_some hfind
  rw [← String.length_toList, List.drop_left] at hsep
  obtain ⟨rfl, hsepOk⟩ := readSeparator_eq_some hsep
  obtain ⟨x, v, rfl, hx, hend⟩ := afterValue?_eq_some hafter
  have hvalue : (x :: v ++ after').take ((x :: v ++ after').length - after'.length) = x :: v := by
    rw [List.length_append, Nat.add_sub_cancel, List.take_left]
  refine ⟨by simpa using hb, List.mem_of_find?_eq_some hfind, hsepOk, ?_, x, v, hvalue, hx, ?_⟩
  · simp only [text]
    rw [hvalue]
    simp
  · rw [hvalue]
    exact hend

theorem parse?_congr {b₁ b₂ : Option Char} (h : b₁.any Text.isWordChar = b₂.any Text.isWordChar)
    (cs : List Char) : parse? b₁ cs = parse? b₂ cs := by
  unfold parse?
  rw [h]

theorem parse?_after_lt {before : Option Char} {cs after : List Char} {a : Assignment}
    (h : parse? before cs = some (a, after)) : after.length < cs.length := by
  obtain ⟨-, -, -, hcs, x, v, hv, -⟩ := parse?_eq_some h
  have hne := text_ne_nil_of_value hv
  have hpos : 0 < a.text.length := List.length_pos_iff.2 hne
  rw [hcs, List.length_append]
  omega

/-- An assignment is read exactly where one opens, behind a character that is not a word
character. -/
theorem parse?_isSome_iff {before : Option Char} {cs : List Char} :
    (parse? before cs).isSome ↔ before.any Text.isWordChar = false ∧ Opens cs := by
  constructor
  · intro h
    obtain ⟨⟨a, after⟩, hp⟩ := Option.isSome_iff_exists.1 h
    obtain ⟨hb, hname, hsep, hcs, x, v, hv, hx, -⟩ := parse?_eq_some hp
    refine ⟨hb, a.name, hname, a.sep, x, v ++ after, hsep, hx, ?_⟩
    rw [hcs, text, hv]
    simp
  · rintro ⟨hb, name, hname, sep, x, r, hsep, hx, rfl⟩
    have hblank : Text.isBlank x = false := by
      simp only [endsValue, Bool.or_eq_false_iff] at hx
      exact hx.1.1
    obtain ⟨after, hafter⟩ := Option.isSome_iff_exists.1 (afterValue?_isSome hx r)
    have hdrop : (name.toList ++ sep ++ x :: r).drop name.length = sep ++ x :: r := by
      rw [← String.length_toList, List.append_assoc, List.drop_left]
    unfold parse?
    rw [if_neg (by simp [hb]), find?_sensitiveNames hname ⟨sep ++ x :: r, by simp⟩]
    dsimp only
    rw [hdrop, readSeparator_append hsep hblank]
    dsimp only
    rw [hafter]
    rfl

/-- The masked form of an assignment reads back as the masked assignment, whatever follows. -/
theorem parse?_mask {before : Option Char} {a : Assignment}
    (hb : before.any Text.isWordChar = false) (hname : a.name ∈ sensitiveNames)
    (hsep : Separator a.sep) (X : List Char) :
    parse? before (a.mask.text ++ X) = some (a.mask, X) := by
  have htext : a.mask.text ++ X = a.name.toList ++ (a.sep ++ '\'' :: (quotedMask.tail ++ X)) := by
    simp [text, mask, quotedMask]
  have hdrop : (a.mask.text ++ X).drop a.name.length = a.sep ++ '\'' :: (quotedMask.tail ++ X) := by
    rw [htext, ← String.length_toList, List.drop_left]
  unfold parse?
  rw [if_neg (by simp [hb]), find?_sensitiveNames hname ⟨_, htext.symm⟩]
  dsimp only
  rw [hdrop, readSeparator_append hsep (by decide)]
  dsimp only
  rw [show '\'' :: (quotedMask.tail ++ X) = quotedMask ++ X by simp [quotedMask],
    afterValue?_quotedMask]
  simp [mask]

end Assignment

/-! ## Where an assignment can open -/

theorem exists_name_cons {name : String} (hname : name ∈ sensitiveNames) :
    ∃ w rest, name.toList = w :: rest ∧ endsValue w = false ∧ isSeparatorChar w = false := by
  obtain ⟨w, hw, hend, hsep⟩ := name_head name hname
  obtain ⟨rest, hrest⟩ := List.head?_eq_some_iff.1 hw
  exact ⟨w, rest, hrest, hend, hsep⟩

/-- No assignment opens at a character that ends a value. -/
theorem not_opens_of_endsValue {e : Char} (he : endsValue e = true) (z : List Char) :
    ¬ Opens (e :: z) := by
  rintro ⟨name, hname, sep, x, r, -, -, heq⟩
  obtain ⟨w, rest, hw, hwend, -⟩ := exists_name_cons hname
  rw [hw] at heq
  obtain ⟨rfl, -⟩ := List.cons_eq_cons.1 heq
  rw [he] at hwend
  contradiction

/-- An assignment that opens in front of the first character `w` of a name, behind a character
that is not a word character, takes `w` at most: it opens whatever follows `w`. -/
theorem Opens.of_append {pre y y' : List Char} {e w : Char} (hpre : pre.getLast? = some e)
    (he : Text.isWordChar e = false) (hw : isSeparatorChar w = false)
    (h : Opens (pre ++ w :: y)) : Opens (pre ++ w :: y') := by
  obtain ⟨name, hname, sep, x, r, hsep, hx, heq⟩ := h
  rw [List.append_assoc] at heq
  rcases List.append_eq_append_iff.1 heq with ⟨a', hname_eq, -⟩ | ⟨c', hpre_eq, hrest⟩
  · -- the name would take `e`, which is not a word character
    have he_mem : e ∈ name.toList := hname_eq ▸ List.mem_append_left _ (List.mem_of_getLast? hpre)
    rw [isWordChar_of_mem_name name hname e he_mem] at he
    contradiction
  rcases List.append_eq_append_iff.1 hrest with ⟨a'', rfl, hx'⟩ | ⟨c'', rfl, hw'⟩
  · -- the separator ends in front of `w`; the value starts at `w` or before it
    rcases a'' with _ | ⟨z, zs⟩
    · obtain ⟨rfl, -⟩ := List.cons_eq_cons.1 hx'
      exact ⟨name, hname, sep, x, y', hsep, hx, by simp [hpre_eq]⟩
    · obtain ⟨rfl, -⟩ := List.cons_eq_cons.1 hx'
      exact ⟨name, hname, sep, x, zs ++ w :: y', hsep, hx, by simp [hpre_eq]⟩
  · rcases c'' with _ | ⟨d, ds⟩
    · -- the separator ends right in front of `w`, which starts the value
      obtain ⟨rfl, -⟩ := List.cons_eq_cons.1 hw'
      exact ⟨name, hname, c', w, y', by simpa using hsep, hx, by simp [hpre_eq]⟩
    · -- `w` would belong to the separator
      obtain ⟨rfl, -⟩ := List.cons_eq_cons.1 hw'
      have hsepw := isSeparatorChar_of_mem hsep w (by simp)
      rw [hw] at hsepw
      contradiction

/-! ## Pieces of a text -/

/-- A piece of a scanned text: a character outside any assignment, or an assignment. -/
inductive Piece where
  | plain (c : Char)
  | assignment (a : Assignment)
  deriving DecidableEq

namespace Piece

/-- The characters of a piece. -/
def text : Piece → List Char
  | plain c => [c]
  | assignment a => a.text

/-- The piece with a masked value, if it is an assignment. -/
def mask : Piece → Piece
  | plain c => plain c
  | assignment a => assignment a.mask

/-- The assignment a piece is, if it is one. -/
def assignment? : Piece → Option Assignment
  | plain _ => none
  | assignment a => some a

@[simp] theorem mask_plain (c : Char) : (plain c).mask = plain c := rfl

@[simp] theorem mask_assignment (a : Assignment) : (assignment a).mask = assignment a.mask := rfl

@[simp] theorem text_plain (c : Char) : (plain c).text = [c] := rfl

@[simp] theorem text_assignment (a : Assignment) : (assignment a).text = a.text := rfl

@[simp] theorem mask_mask (p : Piece) : p.mask.mask = p.mask := by
  cases p <;> rfl

end Piece

/-- The pieces of a text, scanning from the left as masking does: an assignment where one is
read, else a single character; `before` is the character in front of the text. -/
def pieces (before : Option Char) (cs : List Char) : List Piece :=
  match cs with
  | [] => []
  | c :: rest =>
    match _h : Assignment.parse? before (c :: rest) with
    | some (a, after) => .assignment a :: pieces a.text.getLast? after
    | none => .plain c :: pieces (some c) rest
termination_by cs.length
decreasing_by
  · exact Assignment.parse?_after_lt _h
  · simp

/-- The assignments found scanning a text from the left. -/
def assignments (before : Option Char) (cs : List Char) : List Assignment :=
  (pieces before cs).filterMap Piece.assignment?

theorem pieces_nil (before : Option Char) : pieces before [] = [] := by
  rw [pieces]

theorem pieces_of_parse? {before : Option Char} {cs after : List Char} {a : Assignment}
    (h : Assignment.parse? before cs = some (a, after)) :
    pieces before cs = .assignment a :: pieces a.text.getLast? after := by
  rcases cs with _ | ⟨c, rest⟩
  · obtain ⟨-, -, -, hcs, x, v, hv, -⟩ := Assignment.parse?_eq_some h
    have hne := Assignment.text_ne_nil_of_value hv
    simp [hne] at hcs
  · rw [pieces]
    split <;> simp_all

theorem pieces_of_parse?_none {before : Option Char} {c : Char} {rest : List Char}
    (h : Assignment.parse? before (c :: rest) = none) :
    pieces before (c :: rest) = .plain c :: pieces (some c) rest := by
  rw [pieces]
  split <;> simp_all

theorem assignmentAt_eq (before : Option Char) (cs : List Char) :
    assignmentAt before cs =
      (Assignment.parse? before cs).map fun r => (r.1.mask.text, cs.length - r.2.length) := by
  unfold assignmentAt Assignment.parse?
  repeat' split
  all_goals simp_all [Assignment.mask, Assignment.text, quotedMask]

/-- The character in front of a text decides its pieces only by being a word character. -/
theorem pieces_congr {b₁ b₂ : Option Char} (h : b₁.any Text.isWordChar = b₂.any Text.isWordChar)
    (cs : List Char) : pieces b₁ cs = pieces b₂ cs := by
  rcases cs with _ | ⟨c, rest⟩
  · rw [pieces_nil, pieces_nil]
  · have hp₂ := Assignment.parse?_congr h (c :: rest)
    cases hp : Assignment.parse? b₁ (c :: rest) with
    | none =>
      have hq : Assignment.parse? b₂ (c :: rest) = none := hp₂ ▸ hp
      rw [pieces_of_parse?_none hp, pieces_of_parse?_none hq]
    | some r =>
      obtain ⟨a, after⟩ := r
      have hq : Assignment.parse? b₂ (c :: rest) = some (a, after) := hp₂ ▸ hp
      rw [pieces_of_parse? hp, pieces_of_parse? hq]

theorem pieces_of_endsValue {e : Char} (he : endsValue e = true) (before : Option Char)
    (z : List Char) : pieces before (e :: z) = .plain e :: pieces (some e) z := by
  apply pieces_of_parse?_none
  rw [← Option.not_isSome_iff_eq_none, Assignment.parse?_isSome_iff]
  exact fun h => not_opens_of_endsValue he z h.2

/-- The pieces spell the text. -/
theorem flatMap_text_pieces (before : Option Char) (cs : List Char) :
    (pieces before cs).flatMap Piece.text = cs := by
  fun_induction pieces before cs with
  | case1 => rfl
  | case2 b c rest a after h ih =>
    obtain ⟨-, -, -, hcs, -⟩ := Assignment.parse?_eq_some h
    simp [Piece.text, ih, hcs]
  | case3 b c rest h ih => simp [Piece.text, ih]

/-- The first character of a masked text is the text's own. -/
theorem head?_flatMap_mask (before : Option Char) (cs : List Char) :
    ((pieces before cs).flatMap (·.mask.text)).head? = cs.head? := by
  rcases cs with _ | ⟨c, rest⟩
  · simp [pieces_nil]
  · cases hp : Assignment.parse? before (c :: rest) with
    | none => simp [pieces_of_parse?_none hp]
    | some r =>
      obtain ⟨a, after⟩ := r
      obtain ⟨-, hname, -, hcs, -⟩ := Assignment.parse?_eq_some hp
      obtain ⟨w, nt, hw, -⟩ := exists_name_cons hname
      rw [pieces_of_parse? hp, hcs]
      simp [Assignment.text, Assignment.mask, hw]

/-- Two characters in front of a text give it the same pieces when both or neither are word
characters, or when the text is empty or starts with a character that ends a value. -/
theorem pieces_front_congr {b₁ b₂ : Option Char} {X : List Char}
    (h : b₁.any Text.isWordChar = b₂.any Text.isWordChar ∨ X.head?.all endsValue = true) :
    pieces b₁ X = pieces b₂ X := by
  rcases h with h | h
  · exact pieces_congr h X
  · rcases X with _ | ⟨e, z⟩
    · rw [pieces_nil, pieces_nil]
    · have he : endsValue e = true := by simpa using h
      rw [pieces_of_endsValue he, pieces_of_endsValue he]

/-- Masking writes every piece with its value masked. -/
theorem maskChars_eq_flatMap (before : Option Char) (cs : List Char) :
    maskChars before cs = (pieces before cs).flatMap (·.mask.text) := by
  fun_induction pieces before cs with
  | case1 b =>
    rw [maskChars]
    rfl
  | case2 b c rest a after h ih =>
    obtain ⟨-, -, -, hcs, x, v, hv, -⟩ := Assignment.parse?_eq_some h
    have hpos : 0 < a.text.length :=
      List.length_pos_iff.2 (Assignment.text_ne_nil_of_value hv)
    have htaken : (c :: rest).length - after.length = a.text.length := by
      rw [hcs, List.length_append]
      omega
    rw [maskChars, assignmentAt_eq, h]
    simp only [Option.map_some, htaken, dif_pos hpos]
    rw [hcs, List.take_left, List.drop_left, ih]
    simp
  | case3 b c rest h ih =>
    rw [maskChars, assignmentAt_eq, h]
    simp [ih]

/-! ## Scanning a masked text -/

/-- Masking the text after a nonempty prefix opens no assignment at the front of the prefix that
was not open before. The induction runs over the pieces of the text after the prefix, whose last
character stands in front of them. -/
theorem Opens.of_masked {before : Option Char} {rest : List Char} :
    ∀ {pre : List Char}, pre.getLast? = before → pre ≠ [] →
      Opens (pre ++ (pieces before rest).flatMap (·.mask.text)) → Opens (pre ++ rest) := by
  fun_induction pieces before rest with
  | case1 b =>
    intro pre _ _ h
    simpa using h
  | case2 b c rest a after h ih =>
    intro pre hlast hne hopen
    obtain ⟨hb, hname, -, hcs, -⟩ := Assignment.parse?_eq_some h
    obtain ⟨e, he⟩ : ∃ e, pre.getLast? = some e :=
      Option.isSome_iff_exists.1 (List.getLast?_isSome.2 hne)
    have hword : Text.isWordChar e = false := by
      rw [← hlast, he] at hb
      simpa using hb
    -- the masked assignment starts with its name, whose first character no separator takes
    obtain ⟨w, nt, hw, -, hwsep⟩ := exists_name_cons hname
    have hmasked : Opens (pre ++ w :: (nt ++ a.sep ++ quotedMask ++
        (pieces a.text.getLast? after).flatMap (·.mask.text))) := by
      simpa [Assignment.text, Assignment.mask, hw] using hopen
    have hopened : Opens (pre ++ w :: (nt ++ a.sep ++ a.value ++ after)) :=
      Opens.of_append he hword hwsep hmasked
    rw [hcs]
    simpa [Assignment.text, hw] using hopened
  | case3 b c rest h ih =>
    intro pre hlast hne hopen
    have hopened := @ih (pre ++ [c]) (by simp) (by simp) (by simpa using hopen)
    simpa using hopened

/-- A character at which no assignment is read still starts none once the text after it is
masked. -/
theorem parse?_none_masked {before : Option Char} {c : Char} {rest : List Char}
    (h : Assignment.parse? before (c :: rest) = none) :
    Assignment.parse? before (c :: (pieces (some c) rest).flatMap (·.mask.text)) = none := by
  rw [← Option.not_isSome_iff_eq_none, Assignment.parse?_isSome_iff]
  rintro ⟨hb, hopen⟩
  have hopened : Opens (c :: rest) := by
    simpa using @Opens.of_masked _ _ [c] rfl (by simp) hopen
  have hsome := Assignment.parse?_isSome_iff.2 ⟨hb, hopened⟩
  rw [h] at hsome
  contradiction

/-- Scanning a masked text finds the pieces of the text, each assignment with its value
masked. -/
theorem pieces_flatMap_mask (before : Option Char) (cs : List Char) :
    pieces before ((pieces before cs).flatMap (·.mask.text)) = (pieces before cs).map Piece.mask := by
  fun_induction pieces before cs with
  | case1 b => simp [pieces_nil]
  | case2 b c rest a after h ih =>
    obtain ⟨hb, hname, hsep, -, x, v, hv, -, hend⟩ := Assignment.parse?_eq_some h
    simp only [List.flatMap_cons, List.map_cons, Piece.mask_assignment, Piece.text_assignment]
    rw [pieces_of_parse? (Assignment.parse?_mask hb hname hsep _), ← ih]
    congr 1
    -- in front of the rest: the mask's closing quote, where the value ended in a character
    -- that is not a word character or in front of one that ends a value
    rw [Assignment.getLast?_mask_text]
    apply pieces_front_congr
    rcases hend with hend | hend
    · left
      rw [Assignment.getLast?_text hv, hend]
      rfl
    · right
      rw [head?_flatMap_mask]
      exact hend
  | case3 b c rest h ih =>
    simp only [List.flatMap_cons, List.map_cons, Piece.mask_plain, Piece.text_plain,
      List.singleton_append]
    rw [pieces_of_parse?_none (parse?_none_masked h), ih]

theorem pieces_maskChars (before : Option Char) (cs : List Char) :
    pieces before (maskChars before cs) = (pieces before cs).map Piece.mask := by
  rw [maskChars_eq_flatMap]
  exact pieces_flatMap_mask before cs

/-- Masking a masked text changes nothing. -/
theorem maskChars_idempotent (before : Option Char) (cs : List Char) :
    maskChars before (maskChars before cs) = maskChars before cs := by
  have hmasked : ((pieces before cs).map Piece.mask).flatMap (·.mask.text) =
      (pieces before cs).flatMap (·.mask.text) := by
    simp [List.flatMap_map]
  rw [maskChars_eq_flatMap before (maskChars before cs), pieces_maskChars, hmasked,
    ← maskChars_eq_flatMap]

/-- Every assignment found in a masked text has the mask as its value. -/
theorem value_of_mem_assignments_maskChars {before : Option Char} {cs : List Char}
    {a : Assignment} (ha : a ∈ assignments before (maskChars before cs)) :
    a.value = quotedMask := by
  rw [assignments, pieces_maskChars, List.mem_filterMap] at ha
  obtain ⟨p, hp, hpa⟩ := ha
  obtain ⟨q, -, rfl⟩ := List.mem_map.1 hp
  cases q with
  | plain c => exact nomatch hpa
  | assignment b =>
    obtain rfl : b.mask = a := Option.some.inj hpa
    rfl

/-! ## Masking values -/

theorem maskString_maskString (s : String) : maskString (maskString s) = maskString s := by
  simp only [maskString, String.toList_ofList, maskChars_idempotent]

theorem display_of_not_writable {v : Json} (h : v.writable = false) :
    v.display = .error Json.intLimitFailure := by
  simp [Json.display, h]

theorem display_of_writable {v : Json} (h : v.writable = true) : ∃ text, v.display = .ok text := by
  unfold Json.display
  rw [if_pos h]
  split <;> exact ⟨_, rfl⟩

theorem display_str (s : String) : (Json.str s).display = .ok s := by
  simp [Json.display, Json.writable]

theorem maskValue_of_display {v : Json} {text : String} (h : v.display = .ok text) :
    maskValue v = .ok (if maskString text = text then v else .str (maskString text)) := by
  simp [maskValue, h]

theorem maskValue_of_display_error {v : Json} {e : Failure} (h : v.display = .error e) :
    maskValue v = .error e := by
  simp [maskValue, h]

/-- The display text of a masked value is the masked display text of the value. -/
theorem display_of_maskValue {v m : Json} (h : maskValue v = .ok m) :
    ∃ text, v.display = .ok text ∧ m.display = .ok (maskString text) := by
  cases hv : v.display with
  | error e =>
    rw [maskValue_of_display_error hv] at h
    cases h
  | ok text =>
    refine ⟨text, rfl, ?_⟩
    rw [maskValue_of_display hv] at h
    obtain rfl := Except.ok.inj h
    split_ifs with hmask
    · rw [hv, hmask]
    · exact display_str _

theorem maskValue_maskValue {v m : Json} (h : maskValue v = .ok m) : maskValue m = .ok m := by
  obtain ⟨text, -, hm⟩ := display_of_maskValue h
  rw [maskValue_of_display hm, maskString_maskString, if_pos rfl]

theorem maskValue_bind_maskValue (v : Json) : (maskValue v >>= maskValue) = maskValue v := by
  cases h : maskValue v with
  | error e => rfl
  | ok m => exact maskValue_maskValue h

theorem maskValue_eq_self_iff (v : Json) :
    maskValue v = .ok v ↔ ∃ text, v.display = .ok text ∧ maskString text = text := by
  constructor
  · intro h
    obtain ⟨text, hv, hm⟩ := display_of_maskValue h
    rw [hv] at hm
    exact ⟨text, hv, (Except.ok.inj hm).symm⟩
  · rintro ⟨text, hv, hmask⟩
    rw [maskValue_of_display hv, if_pos hmask]

theorem maskValue_eq_error_iff (v : Json) :
    maskValue v = .error Json.intLimitFailure ↔ v.writable = false := by
  cases hw : v.writable with
  | false => simp [maskValue_of_display_error (display_of_not_writable hw)]
  | true =>
    obtain ⟨text, hv⟩ := display_of_writable hw
    simp [maskValue_of_display hv]

/-- Masking a value is idempotent, failing again exactly as it failed; every credential
assignment found scanning the display text of a masked value from the left has the quoted mask
as its value; a value is kept exactly when masking leaves its display text unchanged; and
masking fails exactly when the value holds an integer too long to write as text. -/
theorem maskValue_idempotent (v : Json) :
    (maskValue v >>= maskValue) = maskValue v ∧
      (∀ m, maskValue v = .ok m → ∃ text, m.display = .ok text ∧
        ∀ a ∈ assignments none text.toList, a.value = quotedMask) ∧
      (maskValue v = .ok v ↔ ∃ text, v.display = .ok text ∧ maskString text = text) ∧
      (maskValue v = .error Json.intLimitFailure ↔ v.writable = false) := by
  refine ⟨maskValue_bind_maskValue v, fun m hm => ?_, maskValue_eq_self_iff v,
    maskValue_eq_error_iff v⟩
  obtain ⟨text, -, hdisplay⟩ := display_of_maskValue hm
  refine ⟨_, hdisplay, fun a ha => ?_⟩
  rw [maskString, String.toList_ofList] at ha
  exact value_of_mem_assignments_maskChars ha

end TicketCheckout.Log
