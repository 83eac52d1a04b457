import Diffusion.Numeral.Token

/-!
Decimal digits are read back as the number that they were written for.
-/

namespace Diffusion.Numeral

theorem natOfDigits?_toDigits (n : Nat) : natOfDigits? (Nat.toDigits 10 n) = some n := by
  have nonempty : (Nat.toDigits 10 n).isEmpty = false := by
    simp [List.isEmpty_eq_false_iff, Nat.toDigits_ne_nil]
  have digits : (Nat.toDigits 10 n).any (fun c => !c.isDigit) = false := by
    rw [List.any_eq_false]
    intro c member
    simp [Nat.isDigit_of_mem_toDigits (by decide) (by decide) member]
  rw [natOfDigits?, nonempty, digits]
  exact congrArg some Nat.ofDigitChars_ten_toDigits

theorem head?_toDigits {n : Nat} {c : Char} (first : (Nat.toDigits 10 n).head? = some c) :
    c ≠ '-' ∧ c ≠ '+' := by
  have digit := Nat.isDigit_of_mem_toDigits (by decide) (by decide) (List.mem_of_head? first)
  constructor
  · rintro rfl
    exact absurd digit (by decide)
  · rintro rfl
    exact absurd digit (by decide)

theorem head?_toDigits_ne_zero {n : Nat} (positive : 0 < n) :
    (Nat.toDigits 10 n).head? ≠ some '0' := by
  induction n using Nat.strongRecOn with
  | ind n ih =>
      by_cases small : n < 10
      · have cases : ∀ k : Fin 10, 0 < k.val → (some k.val.digitChar) ≠ some '0' := by decide
        rw [Nat.toDigits_of_lt_base small]
        exact cases ⟨n, small⟩ positive
      · rw [Nat.toDigits_of_base_le (by decide) (Nat.le_of_not_lt small), List.head?_append,
          Option.or_of_isSome (by simp [Nat.toDigits_ne_nil])]
        exact ih (n / 10) (by omega) (by omega)

/-- The digits of a whole number, after a sign if it is negative. -/
def integerText (n : Int) : String :=
  String.ofList (if n < 0 then '-' :: Nat.toDigits 10 n.natAbs else Nat.toDigits 10 n.natAbs)

theorem integer?_integerText (n : Int) : integer? (integerText n) = some n := by
  rw [integer?, integerText, String.toList_ofList]
  by_cases negative : n < 0
  · rw [if_pos negative]
    simp only [natOfDigits?_toDigits, Option.map_some, Option.some.injEq]
    simp only [Int.ofNat_eq_natCast]
    omega
  · rw [if_neg negative]
    split
    · rename_i digits written
      exact absurd rfl (head?_toDigits (n := n.natAbs) (by rw [written]; rfl)).1
    · rename_i digits written
      exact absurd rfl (head?_toDigits (n := n.natAbs) (by rw [written]; rfl)).2
    · rw [natOfDigits?_toDigits]
      simp only [Option.map_some, Option.some.injEq, Int.ofNat_eq_natCast]
      omega

end Diffusion.Numeral
