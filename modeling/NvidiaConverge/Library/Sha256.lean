import NvidiaConverge.Library.Text

/-!
# SHA-256

The hash of a byte string and its lowercase hexadecimal digest, as `hashlib` computes them.
-/

namespace Sha256

/-- The round constants: the cube roots of the first 64 primes. -/
def roundConstants : List UInt32 :=
  [0x428a2f98, 0x71374491, 0xb5c0fbcf, 0xe9b5dba5, 0x3956c25b, 0x59f111f1, 0x923f82a4, 0xab1c5ed5,
   0xd807aa98, 0x12835b01, 0x243185be, 0x550c7dc3, 0x72be5d74, 0x80deb1fe, 0x9bdc06a7, 0xc19bf174,
   0xe49b69c1, 0xefbe4786, 0x0fc19dc6, 0x240ca1cc, 0x2de92c6f, 0x4a7484aa, 0x5cb0a9dc, 0x76f988da,
   0x983e5152, 0xa831c66d, 0xb00327c8, 0xbf597fc7, 0xc6e00bf3, 0xd5a79147, 0x06ca6351, 0x14292967,
   0x27b70a85, 0x2e1b2138, 0x4d2c6dfc, 0x53380d13, 0x650a7354, 0x766a0abb, 0x81c2c92e, 0x92722c85,
   0xa2bfe8a1, 0xa81a664b, 0xc24b8b70, 0xc76c51a3, 0xd192e819, 0xd6990624, 0xf40e3585, 0x106aa070,
   0x19a4c116, 0x1e376c08, 0x2748774c, 0x34b0bcb5, 0x391c0cb3, 0x4ed8aa4a, 0x5b9cca4f, 0x682e6ff3,
   0x748f82ee, 0x78a5636f, 0x84c87814, 0x8cc70208, 0x90befffa, 0xa4506ceb, 0xbef9a3f7, 0xc67178f2]

/-- The hash of eight words that is carried from block to block. -/
structure State where
  a : UInt32
  b : UInt32
  c : UInt32
  d : UInt32
  e : UInt32
  f : UInt32
  g : UInt32
  h : UInt32

/-- The initial hash: the square roots of the first eight primes. -/
def initial : State where
  a := 0x6a09e667
  b := 0xbb67ae85
  c := 0x3c6ef372
  d := 0xa54ff53a
  e := 0x510e527f
  f := 0x9b05688c
  g := 0x1f83d9ab
  h := 0x5be0cd19

/-- The rotation of a word to the right. -/
def rotateRight (x n : UInt32) : UInt32 :=
  (x >>> n) ||| (x <<< (32 - n))

/-- The function `σ₀` of the message schedule. -/
def smallSigma0 (x : UInt32) : UInt32 :=
  rotateRight x 7 ^^^ rotateRight x 18 ^^^ (x >>> 3)

/-- The function `σ₁` of the message schedule. -/
def smallSigma1 (x : UInt32) : UInt32 :=
  rotateRight x 17 ^^^ rotateRight x 19 ^^^ (x >>> 10)

/-- The next word of the schedule, whose latest words come first. -/
def scheduleWord (schedule : List UInt32) : UInt32 :=
  smallSigma1 (schedule.getD 1 0) + schedule.getD 6 0 + smallSigma0 (schedule.getD 14 0) +
    schedule.getD 15 0

/-- The schedule with a number of further words, the newest first. -/
def extendSchedule : Nat → List UInt32 → List UInt32
  | 0, schedule => schedule
  | n + 1, schedule => extendSchedule n (scheduleWord schedule :: schedule)

/-- One round of the compression with its constant and its schedule word. -/
def round (s : State) (constant word : UInt32) : State :=
  let sum1 := rotateRight s.e 6 ^^^ rotateRight s.e 11 ^^^ rotateRight s.e 25
  let choice := (s.e &&& s.f) ^^^ ((~~~ s.e) &&& s.g)
  let t1 := s.h + sum1 + choice + constant + word
  let sum0 := rotateRight s.a 2 ^^^ rotateRight s.a 13 ^^^ rotateRight s.a 22
  let majority := (s.a &&& s.b) ^^^ (s.a &&& s.c) ^^^ (s.b &&& s.c)
  { a := t1 + (sum0 + majority), b := s.a, c := s.b, d := s.c, e := s.d + t1, f := s.e,
    g := s.f, h := s.g }

/-- The sum of two hash states, word by word. -/
def State.add (s t : State) : State where
  a := s.a + t.a
  b := s.b + t.b
  c := s.c + t.c
  d := s.d + t.d
  e := s.e + t.e
  f := s.f + t.f
  g := s.g + t.g
  h := s.h + t.h

/-- The state behind the sixty-four rounds on one block of sixteen words. -/
def compress (s : State) (block : List UInt32) : State :=
  let schedule := (extendSchedule 48 block.reverse).reverse
  s.add ((roundConstants.zip schedule).foldl (fun s (constant, word) => round s constant word) s)

/-- The big-endian words of a byte string whose length is a multiple of four. -/
def words : List UInt8 → List UInt32
  | a :: b :: c :: d :: rest =>
      ((a.toUInt32 <<< 24) ||| (b.toUInt32 <<< 16) ||| (c.toUInt32 <<< 8) ||| d.toUInt32) ::
        words rest
  | _ => []

/-- The padding after a message of a given number of bytes. -/
def padding (length : Nat) : List UInt8 :=
  (0x80 : UInt8) :: List.replicate ((119 - length % 64) % 64) (0 : UInt8) ++
    ([56, 48, 40, 32, 24, 16, 8, 0] : List Nat).map fun shift =>
      UInt8.ofNat ((8 * length) >>> shift)

/-- The state behind the blocks of a message, one after the other. -/
def compressBlocks : Nat → State → List UInt32 → State
  | 0, s, _ => s
  | blocks + 1, s, message => compressBlocks blocks (compress s (message.take 16)) (message.drop 16)

/-- The hash state of a byte string, padded and cut into blocks. -/
def hash (bytes : List UInt8) : State :=
  let message := words (bytes ++ padding bytes.length)
  compressBlocks (message.length / 16) initial message

/-- The eight lowercase hexadecimal digits of a word. -/
def hexWord (word : UInt32) : List Char :=
  ([28, 24, 20, 16, 12, 8, 4, 0] : List Nat).map fun shift =>
    Nat.digitChar (word.toNat >>> shift % 16)

/-- `hashlib.sha256(data).hexdigest()`: the hash as 64 hexadecimal digits. -/
def hexdigest (bytes : List UInt8) : String :=
  let s := hash bytes
  String.ofList ([s.a, s.b, s.c, s.d, s.e, s.f, s.g, s.h].flatMap hexWord)

/-- The character is a lowercase hexadecimal digit. -/
def isHexDigit (c : Char) : Bool :=
  ('0' ≤ c && c ≤ '9') || ('a' ≤ c && c ≤ 'f')

/-- `re.fullmatch(r"[a-f0-9]{64}", text)`: the text has the form of a hash. -/
def isDigest (text : String) : Bool :=
  text.toList.length == 64 && text.toList.all isHexDigit

/-- A digest is 64 lowercase hexadecimal digits. -/
theorem is_digest_hexdigest (bytes : List UInt8) : isDigest (hexdigest bytes) = true := by
  have hdigit : ∀ n : Nat, isHexDigit (Nat.digitChar (n % 16)) = true := by
    intro n
    have hall : ∀ k : Fin 16, isHexDigit (Nat.digitChar k) = true := by decide
    exact hall ⟨n % 16, Nat.mod_lt _ (by omega)⟩
  simp [isDigest, hexdigest, hexWord, hdigit]

/-- A hash is printed in 64 characters. -/
theorem length_hexdigest (bytes : List UInt8) : (hexdigest bytes).toList.length = 64 := by
  have hdigest := is_digest_hexdigest bytes
  simp only [isDigest, Bool.and_eq_true, beq_iff_eq] at hdigest
  exact hdigest.1

example : hexdigest [97, 98, 99] =
    "ba7816bf8f01cfea414140de5dae2223b00361a396177a9cb410ff61f20015ad" := by
  decide +kernel

end Sha256
