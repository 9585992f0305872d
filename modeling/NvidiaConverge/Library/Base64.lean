import NvidiaConverge.Library.Text

/-!
# Base64

The standard alphabet with padding, as `base64.b64encode` and
`base64.b64decode(..., validate=True)` use it. `decode_encode` is the round trip.
-/

namespace Base64

/-- The 64 digits of the standard alphabet, in the order of their values. -/
def alphabet : List Char :=
  "ABCDEFGHIJKLMNOPQRSTUVWXYZabcdefghijklmnopqrstuvwxyz0123456789+/".toList

/-- The digit that stands for a value below 64. -/
def digit (n : Nat) : Char :=
  alphabet.getD n 'A'

/-- The value that a digit stands for; the padding and other characters have none. -/
def value? (c : Char) : Option Nat :=
  alphabet.findIdx? (· == c)

/-- `b64encode`: three bytes become four digits, and a shorter last group is padded with `=`. -/
def encode : List UInt8 → List Char
  | [] => []
  | [a] => [digit (a.toNat / 4), digit (a.toNat % 4 * 16), '=', '=']
  | [a, b] =>
      [digit (a.toNat / 4), digit (a.toNat % 4 * 16 + b.toNat / 16), digit (b.toNat % 16 * 4), '=']
  | a :: b :: c :: rest =>
      digit (a.toNat / 4) :: digit (a.toNat % 4 * 16 + b.toNat / 16) ::
        digit (b.toNat % 16 * 4 + c.toNat / 64) :: digit (c.toNat % 64) :: encode rest

/-- The first byte of a group: its first digit and the two high bits of the second. -/
def firstByte (w x : Nat) : UInt8 :=
  UInt8.ofNat (w * 4 + x / 16)

/-- The second byte of a group: four bits of the second digit and four of the third. -/
def secondByte (x y : Nat) : UInt8 :=
  UInt8.ofNat (x % 16 * 16 + y / 4)

/-- The third byte of a group: the two low bits of the third digit and the fourth. -/
def thirdByte (y z : Nat) : UInt8 :=
  UInt8.ofNat (y % 4 * 64 + z)

/-- `b64decode(..., validate=True)`: groups of four digits, the last one padded. -/
def decode : List Char → Option (List UInt8)
  | [] => some []
  | a :: b :: c :: d :: rest => do
      let w ← value? a
      let x ← value? b
      if d = '=' then
        if rest ≠ [] then none
        else if c = '=' then some [firstByte w x]
        else do
          let y ← value? c
          some [firstByte w x, secondByte x y]
      else do
        let y ← value? c
        let z ← value? d
        let bytes ← decode rest
        some (firstByte w x :: secondByte x y :: thirdByte y z :: bytes)
  | _ => none

/-- A digit below 64 has the value that it was written for, and it is no padding. -/
theorem value_digit {n : Nat} (h : n < 64) : value? (digit n) = some n ∧ digit n ≠ '=' := by
  have hall : ∀ k : Fin 64, value? (digit k) = some k.val ∧ digit k ≠ '=' := by decide +kernel
  exact hall ⟨n, h⟩

/-- A byte is recovered from the number that its parts are recombined to. -/
theorem byte_of_parts {a : UInt8} {n : Nat} (h : n = a.toNat) : UInt8.ofNat n = a := by
  rw [h, UInt8.ofNat_toNat]

/-- Every byte string is decoded from its encoding, so that encoding loses nothing. -/
theorem decode_encode (bytes : List UInt8) : decode (encode bytes) = some bytes := by
  induction bytes using encode.induct with
  | case1 => rfl
  | case2 a =>
      have ha := a.toNat_lt
      have hw := value_digit (n := a.toNat / 4) (by omega)
      have hx := value_digit (n := a.toNat % 4 * 16) (by omega)
      have hfirst : firstByte (a.toNat / 4) (a.toNat % 4 * 16) = a :=
        byte_of_parts (by omega)
      simp [encode, decode, hw, hx, hfirst]
  | case3 a b =>
      have ha := a.toNat_lt
      have hb := b.toNat_lt
      have hw := value_digit (n := a.toNat / 4) (by omega)
      have hx := value_digit (n := a.toNat % 4 * 16 + b.toNat / 16) (by omega)
      have hy := value_digit (n := b.toNat % 16 * 4) (by omega)
      have hfirst : firstByte (a.toNat / 4) (a.toNat % 4 * 16 + b.toNat / 16) = a :=
        byte_of_parts (by omega)
      have hsecond : secondByte (a.toNat % 4 * 16 + b.toNat / 16) (b.toNat % 16 * 4) = b :=
        byte_of_parts (by omega)
      simp [encode, decode, hw, hx, hy, hfirst, hsecond]
  | case4 a b c rest ih =>
      have ha := a.toNat_lt
      have hb := b.toNat_lt
      have hc := c.toNat_lt
      have hw := value_digit (n := a.toNat / 4) (by omega)
      have hx := value_digit (n := a.toNat % 4 * 16 + b.toNat / 16) (by omega)
      have hy := value_digit (n := b.toNat % 16 * 4 + c.toNat / 64) (by omega)
      have hz := value_digit (n := c.toNat % 64) (by omega)
      have hfirst : firstByte (a.toNat / 4) (a.toNat % 4 * 16 + b.toNat / 16) = a :=
        byte_of_parts (by omega)
      have hsecond : secondByte (a.toNat % 4 * 16 + b.toNat / 16)
          (b.toNat % 16 * 4 + c.toNat / 64) = b := byte_of_parts (by omega)
      have hthird : thirdByte (b.toNat % 16 * 4 + c.toNat / 64) (c.toNat % 64) = c :=
        byte_of_parts (by omega)
      simp [encode, decode, hw, hx, hy, hz, hfirst, hsecond, hthird, ih]

/-- Only the empty byte string has an empty encoding. -/
theorem encode_eq_nil {bytes : List UInt8} : encode bytes = [] ↔ bytes = [] := by
  constructor
  · intro h
    have hback := decode_encode bytes
    rw [h] at hback
    exact (Option.some.inj hback).symm
  · rintro rfl
    rfl

end Base64
