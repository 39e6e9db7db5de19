import TicketCheckout.Text.IdnaData
import TicketCheckout.Text.Normalization
import TicketCheckout.Text.Punycode
import TicketCheckout.Text.WordChar

/-!
# Internationalized domain names

The ASCII form of a domain name written in any script (IDNA 2008, RFC 5891), the form a host
name that is not ASCII takes before it can be looked up; a name that has none is refused.

A name is cut into labels at its dots (the ASCII full stop and the ideographic, full-width and
half-width ones); a final empty label marks a trailing dot and is kept as such. Each label then:

* if it is ASCII, must be a valid label once its letters are lowered, and an ASCII label that
  starts with `xn--` must be the ACE prefix followed by Punycode text that does not end with a
  hyphen and decodes to a valid label;
* otherwise must be a valid label, and becomes `xn--` followed by its Punycode text.

A label is valid (`labelAllowed`) when it is nonempty, in Normalization Form C, free of hyphens
at either end and in both its third and fourth places, does not start with a mark, holds only
allowed code points (`allowance`: always, or a joiner or another contextual code point whose
rule holds), and keeps the bidirectional rule (RFC 5893) when it holds a right-to-left code
point. An ASCII form of a label may have at most 63 characters, and the whole name at most 253
(254 with its trailing dot); the name given may have at most 254 code points.
-/

namespace TicketCheckout.Text.Idna

/-- How a code point may appear in a label. -/
inductive Allowance where
  /-- Anywhere (PVALID). -/
  | always
  /-- A zero-width joiner or non-joiner, under `joinerAllowed` (CONTEXTJ). -/
  | joiner
  /-- Under `otherAllowed` (CONTEXTO). -/
  | contextual
  /-- Never. -/
  | never
  deriving DecidableEq

/-- How a code point may appear in a label. -/
def allowance (n : Nat) : Allowance :=
  if inRanges pvalidRanges n then .always
  else if inRanges contextJRanges n then .joiner
  else if inRanges contextORanges n then .contextual
  else .never

/-- The bidirectional class of an allowed code point. -/
def direction (n : Nat) : Direction :=
  match directionRuns.find? fun r => r.1 ≤ n && n ≤ r.2.1 with
  | some (_, _, d) => d
  | none => .left

/-- The joining type of an allowed code point, if it joins. -/
def joining? (n : Nat) : Option Joining :=
  (joiningRuns.find? fun r => r.1 ≤ n && n ≤ r.2.1).map (·.2.2)

/-- Whether the first code point that is not transparent joins in one of the given ways. -/
def joinsAs (types : List Joining) : List Nat → Bool
  | [] => false
  | n :: rest =>
    match joining? n with
    | some .transparent => joinsAs types rest
    | some t => types.contains t
    | none => false

/-- The rule of a joiner `c` with the code points `before` it (nearest first) and `after` it: a
virama (combining class 9) before either joiner; or, for the non-joiner, a left or dual joining
code point before it and a right or dual joining one after it, past transparent ones. -/
def joinerAllowed (before : List Nat) (c : Nat) (after : List Nat) : Bool :=
  let viramaBefore := match before with
    | b :: _ => combiningClass b == 9
    | [] => false
  if c == 0x200C then
    viramaBefore || (joinsAs [.left, .dual] before && joinsAs [.right, .dual] after)
  else c == 0x200D && viramaBefore

/-- The rule of another contextual code point `c` in `label`, with the code points `before` it
(nearest first) and `after` it: the middle dot between two `l`; the Greek numeral sign before a
Greek letter; the Hebrew geresh and gershayim after a Hebrew letter; the katakana middle dot in
a label with some Hiragana, Katakana or Han; Arabic-Indic digits not mixed with extended ones,
nor the reverse. -/
def otherAllowed (label before : List Nat) (c : Nat) (after : List Nat) : Bool :=
  if c == 0xB7 then before.head? == some 0x6C && after.head? == some 0x6C
  else if c == 0x375 then after.head?.any (inRanges greekRanges)
  else if c == 0x5F3 || c == 0x5F4 then before.head?.any (inRanges hebrewRanges)
  else if c == 0x30FB then
    label.any fun n => n != 0x30FB &&
      (inRanges hiraganaRanges n || inRanges katakanaRanges n || inRanges hanRanges n)
  else if 0x660 ≤ c && c ≤ 0x669 then !label.any fun n => 0x6F0 ≤ n && n ≤ 0x6F9
  else if 0x6F0 ≤ c && c ≤ 0x6F9 then !label.any fun n => 0x660 ≤ n && n ≤ 0x669
  else false

/-- Whether every code point of a label is allowed where it stands; `before` holds the code
points already passed, nearest first. -/
def codePointsAllowed (label : List Nat) : List Nat → List Nat → Bool
  | _, [] => true
  | before, c :: after =>
    (match allowance c with
      | .always => true
      | .joiner => joinerAllowed before c after
      | .contextual => otherAllowed label before c after
      | .never => false) && codePointsAllowed label (c :: before) after

/-- The bidirectional classes a right-to-left label may hold. -/
def rightToLeftClasses : List Direction :=
  [.right, .arabicLetter, .arabicNumber, .europeanNumber, .europeanSeparator, .commonSeparator,
    .europeanTerminator, .otherNeutral, .boundaryNeutral, .nonspacingMark]

/-- The bidirectional classes a left-to-right label may hold. -/
def leftToRightClasses : List Direction :=
  [.left, .europeanNumber, .europeanSeparator, .commonSeparator, .europeanTerminator,
    .otherNeutral, .boundaryNeutral, .nonspacingMark]

/-- The bidirectional rule (RFC 5893), checked only for a label with a right-to-left code point:
it starts right-to-left and holds only right-to-left classes, ends (before its final marks) in
a letter or a number and does not mix the two kinds of digits; or it starts left-to-right, holds
only left-to-right classes and ends in a letter or a European digit. -/
def bidiAllowed (label : List Nat) : Bool :=
  let ds := label.map direction
  let ending := (ds.reverse.dropWhile (· == .nonspacingMark)).head?
  if !ds.any fun d => d == .right || d == .arabicLetter || d == .arabicNumber then true
  else match ds.head? with
    | some .right | some .arabicLetter =>
      ds.all rightToLeftClasses.contains &&
        ending.any [.right, .arabicLetter, .europeanNumber, .arabicNumber].contains &&
        !(ds.contains .arabicNumber && ds.contains .europeanNumber)
    | some .left =>
      ds.all leftToRightClasses.contains && ending.any [.left, .europeanNumber].contains
    | _ => false

/-- Whether a label has no hyphen at either end and not one in both its third and fourth
places. -/
def hyphensAllowed (label : List Nat) : Bool :=
  (label.drop 2).take 2 != [0x2D, 0x2D] && label.head? != some 0x2D && label.getLast? != some 0x2D

/-- Whether a label is valid; see the module comment. -/
def labelAllowed (label : List Nat) : Bool :=
  !label.isEmpty && label.length ≤ 254 && isComposedForm label && hyphensAllowed label &&
    !label.head?.any (inRanges markRanges) && codePointsAllowed label [] label &&
    bidiAllowed label

/-- An ASCII code point with its letter lowered. -/
def lowerAscii (n : Nat) : Nat := if 0x41 ≤ n && n ≤ 0x5A then n + 32 else n

/-- The code points of the ACE prefix `xn--`. -/
def acePrefix : List Nat := [0x78, 0x6E, 0x2D, 0x2D]

/-- Whether an ASCII label is valid; see the module comment. -/
def asciiLabelAllowed (label : List Nat) : Bool :=
  let low := label.map lowerAscii
  if acePrefix.isPrefixOf low then
    let rest := low.drop 4
    !rest.isEmpty && rest.getLast? != some 0x2D &&
      (Punycode.decode (rest.map Char.ofNat)).any labelAllowed
  else labelAllowed low

/-- The ASCII form of a label; see the module comment. -/
def labelToAscii? (label : List Nat) : Option (List Char) :=
  if label.all (· < 0x80) then
    if asciiLabelAllowed label && label.length ≤ 63 then some (label.map Char.ofNat) else none
  else if labelAllowed label then
    let ace := acePrefix.map Char.ofNat ++ Punycode.encode label
    if ace.length ≤ 63 then some ace else none
  else none

/-- Whether a code point separates labels. -/
def isDot (n : Nat) : Bool := n == 0x2E || n == 0x3002 || n == 0xFF0E || n == 0xFF61

/-- The labels of a name between its dots; there is one more than there are dots. -/
def splitLabels : List Nat → List (List Nat)
  | [] => [[]]
  | n :: rest =>
    match isDot n, splitLabels rest with
    | true, parts => [] :: parts
    | false, p :: ps => (n :: p) :: ps
    | false, [] => [[n]]

/-- The ASCII form of a domain name given by its code points; see the module comment. -/
def toAscii? (name : List Nat) : Option String := do
  if name.length > 254 then none
  let labels := splitLabels name
  if labels == [[]] then none
  let trailingDot := labels.getLast? == some []
  let parts ← (if trailingDot then labels.dropLast else labels).mapM labelToAscii?
  let ascii := String.intercalate "." (parts.map String.ofList) ++ (if trailingDot then "." else "")
  if ascii.length ≤ (if trailingDot then 254 else 253) then some ascii else none

example : toAscii? [0xE4, 0xF6, 0x2E, 0x74] = some "xn--4ca0b.t" := by decide +kernel
example : toAscii? [0x61, 0x200D, 0x62] = none := by decide +kernel
example : toAscii? [0x61, 0x2E, 0x2E, 0x62] = none := by decide +kernel

end TicketCheckout.Text.Idna
