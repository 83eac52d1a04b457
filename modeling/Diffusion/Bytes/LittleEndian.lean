/-!
Words as bytes, least significant first.
-/

namespace Diffusion.Bytes

def littleEndian : Nat → Nat → List UInt8
  | 0, _ => []
  | width + 1, n => UInt8.ofNat (n % 256) :: littleEndian width (n / 256)

/-- The number that bytes stand for. -/
def ofLittleEndian : List UInt8 → Nat
  | [] => 0
  | b :: rest => b.toNat + 256 * ofLittleEndian rest

theorem ofLittleEndian_littleEndian (width n : Nat) (fits : n < Nat.pow 256 width) :
    ofLittleEndian (littleEndian width n) = n := by
  induction width generalizing n with
  | zero =>
      have : n = 0 := by simpa using fits
      simp [littleEndian, ofLittleEndian, this]
  | succ width ih =>
      have smaller : n / 256 < Nat.pow 256 width :=
        Nat.div_lt_of_lt_mul (by rwa [Nat.pow_eq, Nat.pow_succ, Nat.mul_comm] at fits)
      have low : (UInt8.ofNat (n % 256)).toNat = n % 256 := by simp
      simp only [littleEndian, ofLittleEndian, low, ih _ smaller]
      omega

end Diffusion.Bytes
