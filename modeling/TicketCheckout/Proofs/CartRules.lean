import TicketCheckout.Checkout.Cart
import TicketCheckout.Proofs.Placement

/-!
# Which rule refuses a cart

`validateCart` is read here against a statement of the cart rules that names no loop. A cart is
admitted (`CartLimits.Admits`) when it is not empty, has at most the allowed number of lines,
every line buys at least one ticket and a seat line exactly one, no seat of an offer is asked for
by two lines (`LinesValid`), and its tickets add up to at most the limit. Any other cart is
refused for the first rule it breaks (`CartRefusal`): emptiness, then the number of lines, then
the lines in order, each by its own rules against the seats of the lines before it
(`CartLine.fault`: its quantity, a seat line's single ticket, a seat asked for already), and last
the ticket total.

The loop over the lines keeps the seats of the lines it passed. One step of it is
`checkLines_cons`; a run of it from the seats of a valid prefix passes exactly the lines that
extend the prefix validly (`checkLines_ok_iff`) and otherwise stops at the first faulty line
(`checkLines_error_iff`).

Main statement: `validateCart_refuses_first_broken_rule`.
-/

namespace TicketCheckout

/-- The seats that the seat lines among `lines` ask for, as offer and seat, in order. -/
def seatKeys (lines : List CartLine) : List (Int × Int) :=
  lines.filterMap fun l => l.seatId.map fun seat => (l.offerId, seat)

@[simp] theorem seatKeys_nil : seatKeys [] = [] := rfl

@[simp] theorem seatKeys_append (a b : List CartLine) :
    seatKeys (a ++ b) = seatKeys a ++ seatKeys b := List.filterMap_append

namespace CartLine

/-- What is wrong with a line when the seats `taken` are asked for by earlier lines: a quantity
below one, a seat line that does not buy exactly one ticket, or a seat already asked for. -/
def fault (taken : List (Int × Int)) (line : CartLine) : Option Failure :=
  if line.quantity < 1 then some (.invalid "Item quantity must be at least 1")
  else match line.seatId with
    | none => none
    | some seat =>
      if line.quantity ≠ 1 then some (.invalid "A seat item must have quantity 1")
      else if (line.offerId, seat) ∈ taken then
        some (.invalid s!"Seat {seat} is listed more than once")
      else none

theorem fault_congr {taken taken' : List (Int × Int)} (h : ∀ k, k ∈ taken ↔ k ∈ taken')
    (line : CartLine) : line.fault taken = line.fault taken' := by
  unfold fault
  cases line.seatId <;> simp only [h]

/-- A line is without fault when it buys at least one ticket, exactly one if it is a seat line,
and its seat is not taken. -/
theorem fault_eq_none_iff {taken : List (Int × Int)} {line : CartLine} :
    line.fault taken = none ↔ 1 ≤ line.quantity ∧ (line.isSeat = true → line.quantity = 1) ∧
      ∀ k ∈ seatKeys [line], k ∉ taken := by
  unfold fault
  by_cases hq : line.quantity < 1
  · simp only [hq, if_true, reduceCtorEq, false_iff, not_and]
    omega
  · rw [if_neg hq]
    cases hseat : line.seatId with
    | none => simp [isSeat, seatKeys, hseat]; omega
    | some seat =>
      simp only [isSeat, hseat, Option.isSome_some, forall_const, seatKeys, List.filterMap_cons,
        Option.map_some, List.filterMap_nil, List.mem_singleton, forall_eq]
      split_ifs <;> simp_all

end CartLine

/-! ## Lines that keep the rules -/

/-- Every line keeps the rules for single lines: at least one ticket, exactly one for a seat
line, and no seat asked for by two lines. -/
structure LinesValid (lines : List CartLine) : Prop where
  quantities : ∀ l ∈ lines, 1 ≤ l.quantity
  seat_singles : ∀ l ∈ lines, l.isSeat = true → l.quantity = 1
  seats_apart : (seatKeys lines).Nodup

theorem LinesValid.nil : LinesValid [] := ⟨by simp, by simp, by simp⟩

theorem LinesValid.of_append {a b : List CartLine} (h : LinesValid (a ++ b)) : LinesValid a :=
  ⟨fun l hl => h.quantities l (List.mem_append_left b hl),
    fun l hl => h.seat_singles l (List.mem_append_left b hl),
    (seatKeys_append a b ▸ h.seats_apart).of_append_left⟩

/-- A valid prefix stays valid with one more line exactly when that line has no fault against
the prefix's seats. -/
theorem LinesValid.append_singleton_iff {pre : List CartLine} {line : CartLine} :
    LinesValid (pre ++ [line]) ↔ LinesValid pre ∧ line.fault (seatKeys pre) = none := by
  rw [CartLine.fault_eq_none_iff]
  constructor
  · intro h
    have hnodup := seatKeys_append pre [line] ▸ h.seats_apart
    refine ⟨h.of_append, h.quantities line (by simp), h.seat_singles line (by simp), ?_⟩
    intro k hk hpre
    exact List.disjoint_of_nodup_append hnodup hpre hk
  · rintro ⟨hpre, hq, hone, hfree⟩
    refine ⟨?_, ?_, ?_⟩
    · intro l hl
      rcases List.mem_append.1 hl with hl | hl
      · exact hpre.quantities l hl
      · rw [List.mem_singleton.1 hl]
        exact hq
    · intro l hl
      rcases List.mem_append.1 hl with hl | hl
      · exact hpre.seat_singles l hl
      · rw [List.mem_singleton.1 hl]
        exact hone
    · rw [seatKeys_append, List.nodup_append]
      refine ⟨hpre.seats_apart, ?_, fun k hk k' hk' hkk => hfree k' hk' (hkk ▸ hk)⟩
      cases hseat : line.seatId <;> simp [seatKeys, hseat]

/-! ## The loop over the lines -/

/-- One step of the loop: a line with a fault stops it with that fault; otherwise its seat joins
the seats taken. -/
theorem checkLines_cons (seen : List (Int × Int)) (line : CartLine) (rest : List CartLine) :
    checkLines seen (line :: rest) = match line.fault seen with
      | some e => .error e
      | none => checkLines (seatKeys [line] ++ seen) rest := by
  conv_lhs => unfold checkLines
  unfold CartLine.fault
  by_cases hq : line.quantity < 1
  · simp only [hq, if_true]
  · simp only [hq, if_false]
    cases hseat : line.seatId with
    | none => simp [seatKeys, hseat]
    | some seat =>
      simp only [bne_iff_ne, ne_eq, List.contains_iff_mem]
      split_ifs <;> simp [seatKeys, hseat]

section Run

variable {pre : List CartLine} {seen : List (Int × Int)}

/-- From the seats of a valid prefix, the loop passes the rest exactly when prefix and rest make
valid lines. -/
theorem checkLines_ok_iff (hpre : LinesValid pre) (hseen : ∀ k, k ∈ seen ↔ k ∈ seatKeys pre)
    (rest : List CartLine) : checkLines seen rest = .ok () ↔ LinesValid (pre ++ rest) := by
  induction rest generalizing pre seen with
  | nil => simpa [checkLines] using hpre
  | cons line rest ih =>
    rw [checkLines_cons, CartLine.fault_congr hseen]
    cases hfault : line.fault (seatKeys pre) with
    | some e =>
      -- the faulty line already breaks the prefix it ends
      simp only [reduceCtorEq, false_iff]
      intro hvalid
      have := (LinesValid.append_singleton_iff.1
        (LinesValid.of_append (b := rest) (by simpa using hvalid))).2
      rw [hfault] at this
      cases this
    | none =>
      have hpre' : LinesValid (pre ++ [line]) := LinesValid.append_singleton_iff.2 ⟨hpre, hfault⟩
      rw [ih hpre' fun k => by simp [hseen, or_comm], List.append_assoc, List.singleton_append]

/-- From the seats of a valid prefix, the loop stops with a fault exactly at the first line of
the rest that has that fault against the seats before it. -/
theorem checkLines_error_iff (hpre : LinesValid pre) (hseen : ∀ k, k ∈ seen ↔ k ∈ seatKeys pre)
    (rest : List CartLine) (e : Failure) :
    checkLines seen rest = .error e ↔ ∃ mid line post, rest = mid ++ line :: post ∧
      LinesValid (pre ++ mid) ∧ line.fault (seatKeys (pre ++ mid)) = some e := by
  induction rest generalizing pre seen with
  | nil => simp [checkLines]
  | cons line rest ih =>
    rw [checkLines_cons, CartLine.fault_congr hseen]
    cases hfault : line.fault (seatKeys pre) with
    | some e' =>
      constructor
      · -- the first line is the faulty one
        intro h
        cases h
        exact ⟨[], line, rest, rfl, by simpa using hpre, by simpa using hfault⟩
      · -- no later line can be first: every line before it would have to be valid
        rintro ⟨mid, l, post, hsplit, hvalid, hl⟩
        cases mid with
        | nil =>
          obtain ⟨rfl, rfl⟩ := List.cons.inj hsplit
          rw [List.append_nil, hfault] at hl
          exact congrArg Except.error (Option.some.inj hl)
        | cons m mid =>
          obtain ⟨rfl, -⟩ := List.cons.inj hsplit
          have := (LinesValid.append_singleton_iff.1
            (LinesValid.of_append (b := mid) (by simpa using hvalid))).2
          rw [hfault] at this
          cases this
    | none =>
      have hpre' : LinesValid (pre ++ [line]) := LinesValid.append_singleton_iff.2 ⟨hpre, hfault⟩
      simp only
      rw [ih hpre' fun k => by simp [hseen, or_comm]]
      constructor
      · rintro ⟨mid, l, post, rfl, hvalid, hl⟩
        exact ⟨line :: mid, l, post, rfl, by simpa using hvalid, by simpa using hl⟩
      · rintro ⟨mid, l, post, hsplit, hvalid, hl⟩
        cases mid with
        | nil =>
          -- the first line has no fault, so it cannot be where the loop stops
          obtain ⟨rfl, rfl⟩ := List.cons.inj hsplit
          rw [List.append_nil, hfault] at hl
          cases hl
        | cons m mid =>
          obtain ⟨rfl, rfl⟩ := List.cons.inj hsplit
          exact ⟨mid, l, post, rfl, by simpa using hvalid, by simpa using hl⟩

end Run

/-! ## The whole check -/

theorem ticketTotal_eq_sum (quantities : List Int) : ticketTotal quantities = quantities.sum :=
  List.sum_eq_foldl.symm

/-- The check of a cart, rule by rule: emptiness, the number of lines, the lines in order, the
ticket total. -/
theorem validateCart_eq (limits : CartLimits) (lines : List CartLine) :
    validateCart limits lines =
      if lines = [] then .error (.invalid "Order must contain at least one item")
      else if limits.maxItems < lines.length then
        .error (.invalid s!"Order cannot contain more than {limits.maxItems} items")
      else match checkLines [] lines with
        | .error e => .error e
        | .ok () =>
          if limits.maxTickets < (lines.map (·.quantity)).sum then
            .error (.invalid s!"Maximum {limits.maxTickets} tickets per order")
          else .ok () := by
  unfold validateCart
  rw [ticketTotal_eq_sum]
  by_cases hempty : lines = []
  · subst hempty
    rfl
  · have hne : lines.isEmpty = false := List.isEmpty_eq_false_iff.2 hempty
    simp only [hne, if_neg hempty, Bool.false_eq_true, if_false, gt_iff_lt]
    split_ifs <;> cases checkLines [] lines <;> rfl

/-- A cart that checkout takes under the limits. -/
structure CartLimits.Admits (limits : CartLimits) (lines : List CartLine) : Prop where
  nonempty : lines ≠ []
  few_lines : (lines.length : Int) ≤ limits.maxItems
  valid : LinesValid lines
  few_tickets : (lines.map (·.quantity)).sum ≤ limits.maxTickets

/-- The refusal a cart gets: the first rule it breaks, in the order emptiness, number of lines,
the lines one by one, ticket total. -/
inductive CartRefusal (limits : CartLimits) (lines : List CartLine) : Failure → Prop
  | empty (h : lines = []) :
      CartRefusal limits lines (.invalid "Order must contain at least one item")
  | tooManyLines (hne : lines ≠ []) (hmany : limits.maxItems < lines.length) :
      CartRefusal limits lines (.invalid s!"Order cannot contain more than {limits.maxItems} items")
  | line {pre post : List CartLine} {line : CartLine} {e : Failure}
      (hfew : (lines.length : Int) ≤ limits.maxItems) (hsplit : lines = pre ++ line :: post)
      (hpre : LinesValid pre) (hfault : line.fault (seatKeys pre) = some e) :
      CartRefusal limits lines e
  | tooManyTickets (hne : lines ≠ []) (hfew : (lines.length : Int) ≤ limits.maxItems)
      (hvalid : LinesValid lines) (hmany : limits.maxTickets < (lines.map (·.quantity)).sum) :
      CartRefusal limits lines (.invalid s!"Maximum {limits.maxTickets} tickets per order")

theorem checkLines_nil_ok_iff (lines : List CartLine) :
    checkLines [] lines = .ok () ↔ LinesValid lines := by
  simpa using checkLines_ok_iff LinesValid.nil (by simp) lines

theorem checkLines_nil_error_iff (lines : List CartLine) (e : Failure) :
    checkLines [] lines = .error e ↔ ∃ pre line post, lines = pre ++ line :: post ∧
      LinesValid pre ∧ line.fault (seatKeys pre) = some e := by
  simpa using checkLines_error_iff LinesValid.nil (by simp) lines e

/-- Whatever the check of a cart answers, the rules say the same: a cart it admits keeps every
rule, and a cart it refuses is refused for the first rule it breaks. -/
theorem validateCart_sound (limits : CartLimits) (lines : List CartLine) :
    match validateCart limits lines with
    | .ok () => limits.Admits lines
    | .error e => CartRefusal limits lines e := by
  rw [validateCart_eq]
  -- one case per rule, in the order the check tries them
  by_cases hempty : lines = []
  · rw [if_pos hempty]
    exact .empty hempty
  by_cases hmany : limits.maxItems < lines.length
  · rw [if_neg hempty, if_pos hmany]
    exact .tooManyLines hempty hmany
  rw [if_neg hempty, if_neg hmany]
  rcases hcheck : checkLines [] lines with e | ⟨⟩
  · obtain ⟨pre, line, post, hsplit, hpre, hfault⟩ := (checkLines_nil_error_iff lines e).1 hcheck
    exact .line (by omega) hsplit hpre hfault
  have hvalid := (checkLines_nil_ok_iff lines).1 hcheck
  by_cases htickets : limits.maxTickets < (lines.map (·.quantity)).sum
  · rw [if_pos htickets]
    exact .tooManyTickets hempty (by omega) hvalid htickets
  · rw [if_neg htickets]
    exact ⟨hempty, by omega, hvalid, by omega⟩

theorem validateCart_of_admits {limits : CartLimits} {lines : List CartLine}
    (h : limits.Admits lines) : validateCart limits lines = .ok () := by
  rw [validateCart_eq, if_neg h.nonempty, if_neg (by have := h.few_lines; omega),
    (checkLines_nil_ok_iff lines).2 h.valid]
  simp only
  rw [if_neg (by have := h.few_tickets; omega)]

/-- A cart is refused for the first rule it breaks. -/
theorem validateCart_of_refusal {limits : CartLimits} {lines : List CartLine} {e : Failure}
    (h : CartRefusal limits lines e) : validateCart limits lines = .error e := by
  rw [validateCart_eq]
  cases h with
  | empty hempty => rw [if_pos hempty]
  | tooManyLines hne hmany => rw [if_neg hne, if_pos hmany]
  | line hfew hsplit hpre hfault =>
    rw [if_neg (by simp [hsplit]), if_neg (by omega),
      (checkLines_nil_error_iff lines e).2 ⟨_, _, _, hsplit, hpre, hfault⟩]
  | tooManyTickets hne hfew hvalid hmany =>
    rw [if_neg hne, if_neg (by omega), (checkLines_nil_ok_iff lines).2 hvalid]
    simp only
    rw [if_pos hmany]

/-- The check of a cart admits exactly the carts that keep every rule, and refuses every other
cart for the first rule it breaks: emptiness, then the number of lines, then the lines in order
(a quantity below one, a seat line not buying exactly one ticket, a seat asked for by an earlier
line), then the ticket total. -/
theorem validateCart_refuses_first_broken_rule (limits : CartLimits) (lines : List CartLine) :
    (validateCart limits lines = .ok () ↔ limits.Admits lines) ∧
      ∀ e, validateCart limits lines = .error e ↔ CartRefusal limits lines e := by
  have hsound := validateCart_sound limits lines
  refine ⟨⟨fun h => ?admitted, validateCart_of_admits⟩,
    fun e => ⟨fun h => ?refused, validateCart_of_refusal⟩⟩
  case admitted =>
    rw [h] at hsound
    exact hsound
  case refused =>
    rw [h] at hsound
    exact hsound

/-- A seat asked for twice is found before a later line's quantity of zero. -/
example : validateCart {} [{ offerId := 1, seatId := some 7 }, { offerId := 1, seatId := some 7 },
    { offerId := 1, quantity := 0 }] = .error (.invalid "Seat 7 is listed more than once") := rfl

end TicketCheckout
