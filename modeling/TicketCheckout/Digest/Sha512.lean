import TicketCheckout.Digest.Sha256

/-!
# SHA-512 and SHA-384

The SHA-512 digest (FIPS 180-4) works like SHA-256 on 64-bit words, 128-byte blocks and 80
rounds. SHA-384 runs the same function from another initial value and keeps the first six
words.
-/

namespace TicketCheckout.Digest

/-- The round constants: the first 64 bits of the fractional parts of the cube roots of the
first 80 primes. -/
def sha512Rounds : Array UInt64 := #[
  0x428a2f98d728ae22, 0x7137449123ef65cd, 0xb5c0fbcfec4d3b2f, 0xe9b5dba58189dbbc,
  0x3956c25bf348b538, 0x59f111f1b605d019, 0x923f82a4af194f9b, 0xab1c5ed5da6d8118,
  0xd807aa98a3030242, 0x12835b0145706fbe, 0x243185be4ee4b28c, 0x550c7dc3d5ffb4e2,
  0x72be5d74f27b896f, 0x80deb1fe3b1696b1, 0x9bdc06a725c71235, 0xc19bf174cf692694,
  0xe49b69c19ef14ad2, 0xefbe4786384f25e3, 0x0fc19dc68b8cd5b5, 0x240ca1cc77ac9c65,
  0x2de92c6f592b0275, 0x4a7484aa6ea6e483, 0x5cb0a9dcbd41fbd4, 0x76f988da831153b5,
  0x983e5152ee66dfab, 0xa831c66d2db43210, 0xb00327c898fb213f, 0xbf597fc7beef0ee4,
  0xc6e00bf33da88fc2, 0xd5a79147930aa725, 0x06ca6351e003826f, 0x142929670a0e6e70,
  0x27b70a8546d22ffc, 0x2e1b21385c26c926, 0x4d2c6dfc5ac42aed, 0x53380d139d95b3df,
  0x650a73548baf63de, 0x766a0abb3c77b2a8, 0x81c2c92e47edaee6, 0x92722c851482353b,
  0xa2bfe8a14cf10364, 0xa81a664bbc423001, 0xc24b8b70d0f89791, 0xc76c51a30654be30,
  0xd192e819d6ef5218, 0xd69906245565a910, 0xf40e35855771202a, 0x106aa07032bbd1b8,
  0x19a4c116b8d2d0c8, 0x1e376c085141ab53, 0x2748774cdf8eeb99, 0x34b0bcb5e19b48a8,
  0x391c0cb3c5c95a63, 0x4ed8aa4ae3418acb, 0x5b9cca4f7763e373, 0x682e6ff3d6b2b8a3,
  0x748f82ee5defb2fc, 0x78a5636f43172f60, 0x84c87814a1f0ab72, 0x8cc702081a6439ec,
  0x90befffa23631e28, 0xa4506cebde82bde9, 0xbef9a3f7b2c67915, 0xc67178f2e372532b,
  0xca273eceea26619c, 0xd186b8c721c0c207, 0xeada7dd6cde0eb1e, 0xf57d4f7fee6ed178,
  0x06f067aa72176fba, 0x0a637dc5a2c898a6, 0x113f9804bef90dae, 0x1b710b35131c471b,
  0x28db77f523047d84, 0x32caab7b40c72493, 0x3c9ebe0a15c9bebc, 0x431d67c49c100d4c,
  0x4cc5d4becb3e42b6, 0x597f299cfc657e2a, 0x5fcb6fab3ad6faec, 0x6c44198c4a475817]

/-- The SHA-512 initial value: square roots of the first eight primes. -/
def sha512Initial : Array UInt64 := #[
  0x6a09e667f3bcc908, 0xbb67ae8584caa73b, 0x3c6ef372fe94f82b, 0xa54ff53a5f1d36f1,
  0x510e527fade682d1, 0x9b05688c2b3e6c1f, 0x1f83d9abfb41bd6b, 0x5be0cd19137e2179]

/-- The SHA-384 initial value: square roots of the ninth to sixteenth primes. -/
def sha384Initial : Array UInt64 := #[
  0xcbbb9d5dc1059ed8, 0x629a292a367cd507, 0x9159015a3070dd17, 0x152fecd8f70e5939,
  0x67332667ffc00b31, 0x8eb44a8768581511, 0xdb0c2e0d64f98fa7, 0x47b5481dbefa4fa4]

/-- Rotates a 64-bit word right by `n` bits, `0 < n < 64`. -/
def rotr64 (x : UInt64) (n : UInt64) : UInt64 := (x >>> n) ||| (x <<< (64 - n))

/-- The big-endian 64-bit word of eight bytes of a block starting at `i`. -/
def word64At (block : Array UInt8) (i : Nat) : UInt64 :=
  (List.range 8).foldl (fun acc j => acc <<< 8 ||| (block.getD (i + j) 0).toUInt64) 0

/-- The 80-word message schedule of a 128-byte block. -/
def sha512Schedule (block : Array UInt8) : Array UInt64 :=
  let first := (List.range 16).toArray.map fun i => word64At block (8 * i)
  (List.range 64).foldl (fun w j =>
    let i := j + 16
    let a := w.getD (i - 15) 0
    let b := w.getD (i - 2) 0
    let s0 := rotr64 a 1 ^^^ rotr64 a 8 ^^^ (a >>> 7)
    let s1 := rotr64 b 19 ^^^ rotr64 b 61 ^^^ (b >>> 6)
    w.push (w.getD (i - 16) 0 + s0 + w.getD (i - 7) 0 + s1)) first

/-- One round of the 64-bit compression function. -/
def sha512Round (v : Array UInt64) (k w : UInt64) : Array UInt64 :=
  let a := v.getD 0 0
  let b := v.getD 1 0
  let c := v.getD 2 0
  let d := v.getD 3 0
  let e := v.getD 4 0
  let f := v.getD 5 0
  let g := v.getD 6 0
  let h := v.getD 7 0
  let s1 := rotr64 e 14 ^^^ rotr64 e 18 ^^^ rotr64 e 41
  let ch := (e &&& f) ^^^ (~~~e &&& g)
  let t1 := h + s1 + ch + k + w
  let s0 := rotr64 a 28 ^^^ rotr64 a 34 ^^^ rotr64 a 39
  let maj := (a &&& b) ^^^ (a &&& c) ^^^ (b &&& c)
  let t2 := s0 + maj
  #[t1 + t2, a, b, c, d + t1, e, f, g]

/-- The hash value after one more 128-byte block. -/
def sha512Block (hv : Array UInt64) (block : Array UInt8) : Array UInt64 :=
  let w := sha512Schedule block
  let v := (List.range 80).foldl (fun v i => sha512Round v (sha512Rounds.getD i 0) (w.getD i 0)) hv
  (List.range 8).toArray.map fun i => hv.getD i 0 + v.getD i 0

/-- The big-endian bytes of 64-bit words. -/
def wordsToBytes64 (ws : List UInt64) : List UInt8 :=
  ws.flatMap fun (x : UInt64) =>
    (List.range 8).reverse.map fun i => (x >>> (8 * i).toUInt64).toUInt8

/-- The final 64-bit words from an initial value. -/
def sha512Words (init : Array UInt64) (msg : List UInt8) : List UInt64 :=
  ((chunks 128 (padMessage msg 128 16)).foldl sha512Block init).toList

/-- The 64-byte SHA-512 digest of a byte string. -/
def sha512 (msg : List UInt8) : List UInt8 := wordsToBytes64 (sha512Words sha512Initial msg)

/-- The 48-byte SHA-384 digest of a byte string. -/
def sha384 (msg : List UInt8) : List UInt8 :=
  wordsToBytes64 ((sha512Words sha384Initial msg).take 6)

end TicketCheckout.Digest
