import NvidiaConverge.Library.Sha256

/-!
# HMAC-SHA-256

`hmac.new(key, message, hashlib.sha256).hexdigest()`.
-/

namespace Sha256

/-- The big-endian bytes of a number, given by their shifts. -/
def bigEndian (shifts : List Nat) (value : Nat) : List UInt8 :=
  shifts.map fun shift => UInt8.ofNat (value >>> shift)

/-- `hashlib.sha256(data).digest()`: the hash as 32 bytes, each word in big-endian order. -/
def digest (bytes : List UInt8) : List UInt8 :=
  let s := hash bytes
  [s.a, s.b, s.c, s.d, s.e, s.f, s.g, s.h].flatMap fun word =>
    bigEndian [24, 16, 8, 0] word.toNat

/-- The key, hashed when it is longer than a block, and filled up to one. -/
def blockKey (key : List UInt8) : List UInt8 :=
  let key := if 64 < key.length then digest key else key
  key ++ List.replicate (64 - key.length) 0

/-- `hmac.new(key, message, hashlib.sha256).hexdigest()`. -/
def hmac (key message : List UInt8) : String :=
  hexdigest ((blockKey key).map (· ^^^ 0x5c) ++
    digest ((blockKey key).map (· ^^^ 0x36) ++ message))

/-- A message authentication code is a digest. -/
theorem is_digest_hmac (key message : List UInt8) : isDigest (hmac key message) = true :=
  is_digest_hexdigest _

example : hmac (List.replicate 20 0x0b) [72, 105, 32, 84, 104, 101, 114, 101] =
    "b0344c61d8db38535ca8afceaf0bf12b881dc200c9833da726e9376c2e32cff7" := by
  decide +kernel

end Sha256
