import Diffusion.Error
import Diffusion.Json.Decode
import Diffusion.Proofs.Numeral.Digits
import Mathlib.Data.List.TakeWhile

/-!
Words in JSON.

A numeral of a word is read back, wherever one is expected and by whom: as a word, and as a float
where values are kept until their kind is known. Main statements: `asWord?_nat` and
`isReadable_nat`.
-/

namespace Diffusion

open Halt (wordLimit)

namespace Numeral

theorem wordOfToken?_toDigits {n : Nat} (small : n < wordLimit) :
    wordOfToken? (String.ofList (Nat.toDigits 10 n)) = some n := by
  have word : n < UInt64.size := small
  rw [wordOfToken?, String.toList_ofList, natOfDigits?_toDigits, Option.filter_some,
    if_pos (decide_eq_true word)]

theorem unsigned?_toString {n bound : Nat} (small : n < bound) :
    unsigned? bound (toString n) = some n := by
  have digits : (toString n).toList = Nat.toDigits 10 n := String.toList_ofList
  unfold unsigned?
  rw [digits]
  split
  · rename_i rest written
    exact absurd rfl (head?_toDigits (n := n) (by rw [written]; rfl)).2
  · dsimp only
    rw [natOfDigits?_toDigits, Option.filter_some, if_pos (decide_eq_true small)]

/-! ### As a float -/

/-- What a row of digits adds to a number before it. -/
def continued (n : Nat) (digits : List Char) : Nat :=
  digits.foldl (fun n c => 10 * n + (c.toNat - '0'.toNat)) n

theorem le_continued (n : Nat) (digits : List Char) : n ≤ continued n digits := by
  induction digits generalizing n with
  | nil => exact Nat.le_refl n
  | cons c rest ih =>
      have longer : n ≤ 10 * n + (c.toNat - '0'.toNat) := by omega
      exact Nat.le_trans longer (ih _)

theorem appendDigits_of_fits {n : Nat} {digits : List Char}
    (fits : continued n digits < UInt64.size) :
    appendDigits n digits = (continued n digits, []) := by
  induction digits generalizing n with
  | nil => rfl
  | cons c rest ih =>
      have room : 10 * n + (c.toNat - '0'.toNat) < UInt64.size :=
        Nat.lt_of_le_of_lt (le_continued _ rest) fits
      rw [appendDigits, if_pos room, ih fits]
      rfl

theorem continued_toDigits (n : Nat) : continued 0 (Nat.toDigits 10 n) = n :=
  Nat.ofDigitChars_ten_toDigits

theorem rounded_le (n : Nat) : ScaledWord.rounded n ≤ 2 * n := by
  by_cases zero : n = 0
  · subst zero
    decide
  · have unitLe : Nat.pow 2 (n.log2 + 1 - ScaledWord.precision) ≤ n :=
      Nat.le_trans (Nat.pow_le_pow_right (by decide) (by unfold ScaledWord.precision; omega))
        (Nat.log2_self_le zero)
    have below := Nat.div_mul_le_self n (Nat.pow 2 (n.log2 + 1 - ScaledWord.precision))
    unfold ScaledWord.rounded
    dsimp only
    split
    · omega
    · rw [Nat.add_mul, Nat.one_mul]
      omega

theorem fits_of_word {n : Nat} (small : n < wordLimit) (negative : Bool) :
    (ScaledWord.mk negative n 0).fits = true := by
  have one : ScaledWord.rounded (Nat.pow 10 (0 : Int).natAbs) = 1 := by decide
  have bound : ∀ places, 67 ≤ places →
      ScaledWord.rounded (ScaledWord.rounded n * 1) < Nat.pow 2 places := by
    intro places enough
    have outer := rounded_le (ScaledWord.rounded n * 1)
    have inner := rounded_le n
    have limit : 4 * wordLimit < Nat.pow 2 67 := by decide
    have large : Nat.pow 2 67 ≤ Nat.pow 2 places := Nat.pow_le_pow_right (by decide) enough
    omega
  rw [ScaledWord.fits, one, decide_eq_true (bound 1024 (by decide))]
  simp

theorem floatOfToken?_toDigits {n : Nat} (small : n < wordLimit) :
    (floatOfToken? (String.ofList (Nat.toDigits 10 n))).isSome = true := by
  have digits : ∀ c ∈ Nat.toDigits 10 n, c.isDigit = true := fun c member =>
    Nat.isDigit_of_mem_toDigits (by decide) (by decide) member
  have parts : decimalParts? (Nat.toDigits 10 n) = some ⟨Nat.toDigits 10 n, [], 0⟩ := by
    rw [decimalParts?, List.takeWhile_eq_self_iff.mpr digits, List.dropWhile_eq_nil_iff.mpr digits]
    rfl
  have word : ScaledWord.ofParts false ⟨Nat.toDigits 10 n, [], 0⟩ = ⟨false, n, 0⟩ := by
    have fits : continued 0 (Nat.toDigits 10 n) < UInt64.size := by
      rw [continued_toDigits]
      exact small
    have all := appendDigits_of_fits fits
    rw [continued_toDigits] at all
    rw [ScaledWord.ofParts, all]
    rfl
  unfold floatOfToken?
  rw [String.toList_ofList]
  split
  rename_i negative unsigned split
  split at split
  · rename_i rest written
    exact absurd rfl (head?_toDigits (n := n) (by rw [written]; rfl)).1
  · cases split
    rw [parts, Option.bind_eq_bind, Option.bind_some, word, ScaledWord.toFloat?,
      if_pos (fits_of_word small false)]
    rfl

end Numeral

namespace Json

theorem asWord?_nat {n : Nat} (small : n < wordLimit) : asWord? (nat n) = some n :=
  Numeral.wordOfToken?_toDigits small

theorem isReadable_nat {n : Nat} (small : n < wordLimit) (room : Nat) :
    (nat n).isReadable room = true :=
  Numeral.floatOfToken?_toDigits small

theorem areReadable_map {α : Type} {write : α → Json} {xs : List α} {room : Nat}
    (each : ∀ x ∈ xs, (write x).isReadable room = true) :
    areReadable room (xs.map write) = true := by
  induction xs with
  | nil => rfl
  | cons x rest ih =>
      rw [List.map_cons, areReadable, each x List.mem_cons_self,
        ih fun y member => each y (List.mem_cons_of_mem x member)]
      rfl

/-- A list is read back if all its items are. -/
theorem asList?_map_of_each {α : Type} {write : α → Json} {read : Json → Option α} {become : α → α}
    {xs : List α} (each : ∀ x ∈ xs, read (write x) = some (become x)) :
    asList? read (.array (xs.map write)) = some (xs.map become) := by
  induction xs with
  | nil => rfl
  | cons x rest ih =>
      have later := ih fun y member => each y (List.mem_cons_of_mem x member)
      rw [asList?] at later ⊢
      rw [List.map_cons, List.mapM_cons, each x List.mem_cons_self, later]
      rfl

theorem asList?_map {α : Type} {write : α → Json} {read : Json → Option α} {xs : List α}
    (each : ∀ x ∈ xs, read (write x) = some x) :
    asList? read (.array (xs.map write)) = some xs := by
  have same : ∀ x ∈ xs, read (write x) = some (id x) := each
  rw [asList?_map_of_each same, List.map_id]

end Json

end Diffusion
