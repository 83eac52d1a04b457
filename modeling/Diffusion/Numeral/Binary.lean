/-!
The bit patterns of binary floating point, read as exact numbers.
-/

namespace Diffusion.Numeral

/-- A binary interchange format by the widths of its two fields. -/
structure BinaryFormat where
  fractionBits : Nat
  exponentBits : Nat

def binary32 : BinaryFormat := ⟨23, 8⟩

def binary64 : BinaryFormat := ⟨52, 11⟩

/-- A bit pattern as a number: a sign with `significand * 2 ^ exponent`, an infinity, or none. -/
inductive BinaryValue where
  | nan
  | infinite (negative : Bool)
  /-- The flag tells that the next smaller magnitude is only half as far as the next larger one,
  as it is above every power of two but the smallest. -/
  | finite (negative : Bool) (significand : Nat) (exponent : Int) (closeBelow : Bool)
deriving DecidableEq, Repr

namespace BinaryFormat

variable (f : BinaryFormat)

/-- The offset of stored exponents. -/
def bias : Nat := Nat.pow 2 (f.exponentBits - 1) - 1

/-- The exponent field of infinities and of what is no number. -/
def topExponent : Nat := Nat.pow 2 f.exponentBits - 1

/-- Reads a bit pattern. A zero exponent field means that no leading one is implied. -/
def decode (bits : Nat) : BinaryValue :=
  let fraction := bits % Nat.pow 2 f.fractionBits
  let stored := bits / Nat.pow 2 f.fractionBits % Nat.pow 2 f.exponentBits
  let negative := bits / Nat.pow 2 (f.fractionBits + f.exponentBits) % 2 == 1
  if stored = f.topExponent then
    if fraction = 0 then .infinite negative else .nan
  else if stored = 0 then
    .finite negative fraction (1 - (f.bias + f.fractionBits : Nat)) false
  else
    .finite negative (Nat.pow 2 f.fractionBits + fraction)
      (stored - (f.bias + f.fractionBits : Nat)) (fraction == 0 && stored != 1)

end BinaryFormat

def decode32 (x : Float32) : BinaryValue := binary32.decode x.toBits.toNat

def decode64 (x : Float) : BinaryValue := binary64.decode x.toBits.toNat

/-- The integer part toward zero, clamped to the range of 64 signed bits. What is no number
counts as 0. -/
def BinaryValue.truncate : BinaryValue → Int
  | .nan => 0
  | .infinite negative => if negative then lowest else highest
  | .finite negative significand exponent _ =>
    let magnitude :=
      if exponent < 0 then significand / Nat.pow 2 exponent.natAbs
      else significand * Nat.pow 2 exponent.natAbs
    if negative then max (-(magnitude : Int)) lowest else min magnitude highest
where
  lowest : Int := -0x8000000000000000
  highest : Int := 0x7fffffffffffffff

/-- Whether the bits stand for a number, infinities left out. -/
def BinaryValue.isFinite : BinaryValue → Bool
  | .finite .. => true
  | _ => false

end Diffusion.Numeral
