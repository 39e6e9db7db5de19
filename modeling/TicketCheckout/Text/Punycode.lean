/-!
# Punycode

The bootstring encoding of RFC 3492 with the parameters of Punycode (base 36, thresholds 1 to
26, skew 38, damping 700, initial bias 72, initial code point 128). It writes a text of any code
points with the letters, digits and hyphen of ASCII: first the ASCII code points of the text in
order, then a hyphen if there were any, then for each larger code point in increasing order the
positions it takes, as the differences between successive insertion states written as
variable-length numbers in base 36.

Decoding takes the text after the last hyphen as the numbers (letters in either case) and the
text before it as the ASCII code points, and inserts the decoded code points one by one. It
fails on a number cut short, on a character that is no digit, and on a code point beyond
U+10FFFF; a decoded code point may be a surrogate, so code points are naturals here.

Every loop has a measure: `adaptLoop` divides its value by 35, `encodeDigits` decreases the
number it writes, `encodeLoop` walks the sorted list of large code points, and decoding walks
the input with one step of fuel per character, each number taking at least one.
-/

namespace TicketCheckout.Text.Punycode

/-- The character of a digit value below 36: `a` to `z`, then `0` to `9`. -/
def digitChar (d : Nat) : Char :=
  if d < 26 then Char.ofNat (0x61 + d) else Char.ofNat (0x30 + d - 26)

/-- The value of a digit: `A` to `Z` or `a` to `z` for 0 to 25, `0` to `9` for 26 to 35. -/
def digitValue? (c : Char) : Option Nat :=
  let n := c.toNat
  if 0x41 ≤ n && n ≤ 0x5A then some (n - 0x41)
  else if 0x61 ≤ n && n ≤ 0x7A then some (n - 0x61)
  else if 0x30 ≤ n && n ≤ 0x39 then some (n - 0x30 + 26)
  else none

/-- The threshold of the digit at weight position `k` (a multiple of 36) under a bias: `k` less
the bias, kept between 1 and 26. -/
def threshold (k bias : Nat) : Nat :=
  if k ≤ bias then 1 else if bias + 26 ≤ k then 26 else k - bias

theorem threshold_pos (k bias : Nat) : 1 ≤ threshold k bias := by
  unfold threshold
  split
  · omega
  · split <;> omega

theorem threshold_le (k bias : Nat) : threshold k bias ≤ 26 := by
  unfold threshold
  split
  · omega
  · split <;> omega

/-- Divides a difference by 35 until it is at most 455, counting 36 per division. -/
def adaptLoop (delta k : Nat) : Nat × Nat :=
  if 455 < delta then adaptLoop (delta / 35) (k + 36) else (delta, k)
termination_by delta
decreasing_by omega

/-- The bias after a difference, with `numPoints` code points written so far. -/
def adapt (delta numPoints : Nat) (first : Bool) : Nat :=
  let d := if first then delta / 700 else delta / 2
  let (d, k) := adaptLoop (d + d / numPoints) 0
  k + 36 * d / (d + 38)

/-- Writes a number as digits, least significant first, from weight position `k`. -/
def encodeDigits (bias k q : Nat) : List Char :=
  let t := threshold k bias
  if q < t then [digitChar q]
  else digitChar (t + (q - t) % (36 - t)) :: encodeDigits bias (k + 36) ((q - t) / (36 - t))
termination_by q
decreasing_by
  have h1 := threshold_pos k bias
  have h2 := threshold_le k bias
  calc (q - threshold k bias) / (36 - threshold k bias)
      ≤ q - threshold k bias := Nat.div_le_self _ _
    _ < q := by omega

/-- The state of encoding: the digits written, the difference, the bias and how many code
points are placed. -/
structure EncodeState where
  out : List Char
  delta : Nat
  bias : Nat
  placed : Nat

/-- Passes one code point of the input while inserting the code point `m`; `basic` counts the
ASCII code points. -/
def passCodePoint (basic m : Nat) (st : EncodeState) (c : Nat) : EncodeState :=
  if c < m then { st with delta := st.delta + 1 }
  else if c == m then
    { out := st.out ++ encodeDigits st.bias 36 st.delta, delta := 0,
      bias := adapt st.delta (st.placed + 1) (st.placed == basic), placed := st.placed + 1 }
  else st

/-- Inserts the large code points in increasing order; `n` is the next code point to consider. -/
def encodeLoop (input : List Nat) (basic : Nat) : List Nat → Nat → EncodeState → EncodeState
  | [], _, st => st
  | m :: rest, n, st =>
    let st := { st with delta := st.delta + (m - n) * (st.placed + 1) }
    let st := input.foldl (passCodePoint basic m) st
    encodeLoop input basic rest (m + 1) { st with delta := st.delta + 1 }

/-- Inserts a natural into an increasing list without repeats. -/
def insertSorted (x : Nat) : List Nat → List Nat
  | [] => [x]
  | y :: ys => if x < y then x :: y :: ys else if x == y then y :: ys else y :: insertSorted x ys

/-- The distinct naturals of a list in increasing order. -/
def sortedDistinct : List Nat → List Nat
  | [] => []
  | x :: xs => insertSorted x (sortedDistinct xs)

/-- The Punycode text of code points; see the module comment. -/
def encode (input : List Nat) : List Char :=
  let basic := (input.filter (· < 0x80)).map Char.ofNat
  let large := sortedDistinct (input.filter (0x80 ≤ ·))
  let st := encodeLoop input basic.length large 0x80 ⟨[], 0, 72, basic.length⟩
  basic ++ (if basic.isEmpty then [] else ['-']) ++ st.out

/-- Reads one number from weight position `k` with weight `w`, adding to `acc`; gives it and the
characters after it. -/
def decodeDigits (bias : Nat) : List Char → Nat → Nat → Nat → Option (Nat × List Char)
  | [], _, _, _ => none
  | c :: rest, k, w, acc => do
    let d ← digitValue? c
    let t := threshold k bias
    if d < t then some (acc + d * w, rest)
    else decodeDigits bias rest (k + 36) (w * (36 - t)) (acc + d * w)

/-- Decodes the numbers of `ext` into `out`: `n` is the code point and `i` the position reached,
`first` marks the first number; `fuel` bounds the numbers read. -/
def decodeLoop (bias n i : Nat) (first : Bool) (out : List Nat) :
    (fuel : Nat) → List Char → Option (List Nat)
  | _, [] => some out
  | 0, _ :: _ => none
  | fuel + 1, c :: cs => do
    let (delta, rest) ← decodeDigits bias (c :: cs) 36 1 0
    let len := out.length + 1
    let pos := i + delta
    let n := n + pos / len
    if n > 0x10FFFF then none
    else
      let pos := pos % len
      let out := out.take pos ++ n :: out.drop pos
      decodeLoop (adapt delta out.length first) n (pos + 1) false out fuel rest

/-- Decodes a Punycode text into code points; see the module comment. -/
def decode (s : List Char) : Option (List Nat) :=
  let rev := s.reverse
  let ext := (rev.takeWhile (· != '-')).reverse
  let base := if ext.length == s.length then [] else s.take (s.length - ext.length - 1)
  decodeLoop 72 0x80 0 true (base.map Char.toNat) ext.length ext

example : encode [0x62, 0xFC, 0x63, 0x68, 0x65, 0x72] = "bcher-kva".toList := by
  decide +kernel
example : decode "bcher-kva".toList = some [0x62, 0xFC, 0x63, 0x68, 0x65, 0x72] := by
  decide +kernel
example : decode "99999999".toList = none := by decide +kernel

end TicketCheckout.Text.Punycode
