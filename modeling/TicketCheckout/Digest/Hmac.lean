import TicketCheckout.Digest.Sha512

/-!
# HMAC

The keyed digest of RFC 2104 over the SHA-2 functions: a key longer than a block is hashed
first, the key is padded with zeros to a block, and the digest of the message is taken under
the inner pad (bytes xor 0x36) and then under the outer pad (bytes xor 0x5c).
-/

namespace TicketCheckout.Digest

/-- A hash function of the SHA-2 family with its block size in bytes. -/
structure HashFunction where
  digest : List UInt8 → List UInt8
  blockBytes : Nat

/-- SHA-256 with its 64-byte block. -/
def HashFunction.sha256 : HashFunction := ⟨Digest.sha256, 64⟩

/-- SHA-384 with its 128-byte block. -/
def HashFunction.sha384 : HashFunction := ⟨Digest.sha384, 128⟩

/-- SHA-512 with its 128-byte block. -/
def HashFunction.sha512 : HashFunction := ⟨Digest.sha512, 128⟩

/-- The keyed digest of a message. -/
def hmac (hf : HashFunction) (key msg : List UInt8) : List UInt8 :=
  let k := if key.length > hf.blockBytes then hf.digest key else key
  let block := k ++ List.replicate (hf.blockBytes - k.length) 0
  let inner := hf.digest (block.map (· ^^^ 0x36) ++ msg)
  hf.digest (block.map (· ^^^ 0x5c) ++ inner)

end TicketCheckout.Digest
