import Diffusion.Arithmetic.Machine
import Diffusion.Proofs.Json.Numerals

/-!
Machine floats in JSON.

The decimal of a float is laid out as a numeral, positional or with an exponent, and every numeral
that stands for a finite number is read as a float of either size. It need not be the float that was
written. Main statements: `machine_writesNumerals` and `machine_readsNumerals`.
-/

namespace Diffusion

namespace Json

variable {whole digits rest : List Char}

theorem readDigits_append_of_all (nonempty : digits ≠ []) (all : ∀ c ∈ digits, c.isDigit = true)
    (stops : ∀ c ∈ rest.head?, c.isDigit = false) :
    readDigits (digits ++ rest) = some (digits, rest) := by
  have none : rest.takeWhile Char.isDigit = [] ∧ rest.dropWhile Char.isDigit = rest := by
    cases rest with
    | nil => exact ⟨rfl, rfl⟩
    | cons c more => simp [stops c rfl]
  rw [readDigits, List.takeWhile_append_of_pos all, List.dropWhile_append_of_pos all, none.1,
    none.2, List.append_nil, if_neg (by simpa using nonempty)]

/-- A zero alone, or digits that start with another one. -/
def IsWhole (cs : List Char) : Prop :=
  cs = ['0'] ∨ cs ≠ [] ∧ (∀ c ∈ cs, c.isDigit = true) ∧ cs.head? ≠ some '0'

theorem IsWhole.read (shape : IsWhole whole) (stops : ∀ c ∈ rest.head?, c.isDigit = false) :
    readWhole (whole ++ rest) = some (whole, rest) := by
  rcases shape with rfl | ⟨nonempty, all, first⟩
  · rfl
  · have read := readDigits_append_of_all nonempty all stops
    unfold readWhole
    split
    · rename_i more written
      have zero : (whole ++ rest).head? = some '0' := by rw [written]; rfl
      rw [List.head?_append, Option.or_of_isSome (by simpa using nonempty)] at zero
      exact absurd zero first
    · exact read

/-- A whole part, with a point and digits if there are any, and with an exponent if there is one. -/
theorem readUnsigned_of_parts (fraction exponent : List Char) (shape : IsWhole whole)
    (point : fraction = [] ∨ ∃ digits, fraction = '.' :: digits ∧ digits ≠ [] ∧
      ∀ c ∈ digits, c.isDigit = true)
    (power : exponent = [] ∨ ∃ sign digits, exponent = 'e' :: sign :: digits ∧
      (sign = '+' ∨ sign = '-') ∧ digits ≠ [] ∧ ∀ c ∈ digits, c.isDigit = true) :
    readUnsigned (whole ++ (fraction ++ exponent)) =
      some (whole ++ fraction ++ exponent, []) := by
  have stopsPower : ∀ c ∈ exponent.head?, c.isDigit = false := by
    rcases power with rfl | ⟨sign, digits, rfl, -⟩
    · simp
    · simp
  have stopsPoint : ∀ c ∈ (fraction ++ exponent).head?, c.isDigit = false := by
    rcases point with rfl | ⟨digits, rfl, -⟩
    · exact stopsPower
    · simp
  have readsPoint : readFraction (fraction ++ exponent) = some (fraction, exponent) := by
    rcases point with rfl | ⟨digits, rfl, nonempty, all⟩
    · rcases power with rfl | ⟨sign, digits, rfl, -⟩ <;> rfl
    · rw [List.cons_append, readFraction, readDigits_append_of_all nonempty all stopsPower]
      rfl
  have readsPower : readExponent exponent = some (exponent, []) := by
    rcases power with rfl | ⟨sign, digits, rfl, either, nonempty, all⟩
    · rfl
    · have read := readDigits_of_all nonempty all
      rcases either with rfl | rfl <;> simp [readExponent, read]
  rw [readUnsigned, shape.read stopsPoint]
  change (readFraction (fraction ++ exponent)).bind _ = _
  rw [readsPoint]
  change (readExponent exponent).bind _ = _
  rw [readsPower]
  rfl

theorem isNumeral_of_unsigned {text : String} (negative : Bool)
    (read : readUnsigned text.toList = some (text.toList, [])) :
    IsNumeral ((if negative then "-" else "") ++ text) := by
  unfold IsNumeral
  cases negative with
  | true =>
      have written : ((if true then "-" else "") ++ text).toList = '-' :: text.toList := by simp
      rw [written]
      change (readUnsigned text.toList).map _ = _
      rw [read]
      rfl
  | false =>
      rw [if_neg Bool.false_ne_true, String.empty_append]
      unfold readNumeral
      split
      · rename_i more written
        rw [written] at read
        simp [readUnsigned, readWhole, readDigits] at read
      · exact read

end Json

namespace Numeral

open Json (IsWhole IsNumeral readUnsigned_of_parts isNumeral_of_unsigned)

theorem isDigit_toDigits (n : Nat) : ∀ c ∈ Nat.toDigits 10 n, c.isDigit = true :=
  fun _ member => Nat.isDigit_of_mem_toDigits (by decide) (by decide) member

theorem isWhole_of_prefix {n k : Nat} (positive : 0 < n) (more : List Char)
    (digits : ∀ c ∈ more, c.isDigit = true) :
    IsWhole ((Nat.toDigits 10 n ++ more).take (k + 1)) := by
  refine .inr ⟨by simp [Nat.toDigits_ne_nil], fun c member => ?_, ?_⟩
  · rcases List.mem_append.mp (List.mem_of_mem_take member) with own | other
    · exact isDigit_toDigits n c own
    · exact digits c other
  · rw [List.head?_take, if_neg (by omega), List.head?_append,
      Option.or_of_isSome (by simp [Nat.toDigits_ne_nil])]
    exact head?_toDigits_ne_zero positive

theorem isWhole_toDigits_append {n zeros : Nat} (whole : n = 0 → zeros = 0) :
    IsWhole (Nat.toDigits 10 n ++ List.replicate zeros '0') := by
  rcases Nat.eq_zero_or_pos n with rfl | positive
  · rw [whole rfl]
    exact .inl rfl
  · have all := isWhole_of_prefix (k := (Nat.toDigits 10 n).length + zeros) positive
      (List.replicate zeros '0') fun c member => by
        rw [List.eq_of_mem_replicate member]
        rfl
    rwa [List.take_of_length_le (by simp)] at all

/-- Enough zeros before the digits of a number leave at least one digit before its point. -/
theorem isWhole_padded {n places : Nat} (fractional : 0 < places) {padded : List Char}
    (padding : padded =
      List.replicate (places + 1 - (Nat.toDigits 10 n).length) '0' ++ Nat.toDigits 10 n) :
    IsWhole (padded.take (padded.length - places)) := by
  by_cases short : (Nat.toDigits 10 n).length ≤ places
  · have length : padded.length - places = 1 := by
      rw [padding, List.length_append, List.length_replicate]
      omega
    have first : places + 1 - (Nat.toDigits 10 n).length =
        (places - (Nat.toDigits 10 n).length) + 1 := by omega
    rw [length, padding, first]
    exact .inl rfl
  · have none : places + 1 - (Nat.toDigits 10 n).length = 0 := by omega
    rw [none, List.replicate_zero, List.nil_append] at padding
    have positive : 0 < n := by
      rcases Nat.eq_zero_or_pos n with rfl | positive
      · have one : (Nat.toDigits 10 0).length = 1 := rfl
        omega
      · exact positive
    have some : padded.length - places = (padded.length - places - 1) + 1 := by
      rw [padding]
      omega
    have all := isWhole_of_prefix (k := padded.length - places - 1) positive [] (by simp)
    rwa [List.append_nil, ← padding, ← some] at all

namespace Decimal

variable {d : Decimal}

theorem readUnsigned_positional (whole : d.digits = 0 → d.exponent ≤ 0) :
    Json.readUnsigned (d.positional ".0").toList = some ((d.positional ".0").toList, []) := by
  unfold positional
  by_cases integral : 0 ≤ d.exponent
  · rw [if_pos integral]
    have shape : IsWhole (Nat.toDigits 10 d.digits ++ List.replicate d.exponent.natAbs '0') :=
      isWhole_toDigits_append fun zero => by
        have small := whole zero
        omega
    have read := readUnsigned_of_parts ['.', '0'] [] shape (.inr ⟨['0'], rfl, by simp, by simp⟩)
      (.inl rfl)
    simpa using read
  · rw [if_neg integral]
    have fractional : 0 < d.exponent.natAbs := by omega
    obtain ⟨padded, padding⟩ : ∃ padded, padded =
      List.replicate (d.exponent.natAbs + 1 - (Nat.toDigits 10 d.digits).length) '0' ++
        Nat.toDigits 10 d.digits := ⟨_, rfl⟩
    have long : d.exponent.natAbs < padded.length := by
      rw [padding, List.length_append, List.length_replicate]
      omega
    have all : ∀ c ∈ padded, c.isDigit = true := by
      intro c member
      rw [padding] at member
      rcases List.mem_append.mp member with zero | own
      · rw [List.eq_of_mem_replicate zero]
        rfl
      · exact isDigit_toDigits _ c own
    have read := readUnsigned_of_parts _ [] (isWhole_padded fractional padding)
      (.inr ⟨padded.drop (padded.length - d.exponent.natAbs), rfl, by simp; omega,
        fun c member => all c (List.mem_of_mem_drop member)⟩) (.inl rfl)
    simp only [← padding]
    simpa using read

theorem readUnsigned_scientific :
    Json.readUnsigned (d.scientific true).toList = some ((d.scientific true).toList, []) := by
  have shape : IsWhole ((Nat.toDigits 10 d.digits).take 1) := by
    rcases Nat.eq_zero_or_pos d.digits with zero | positive
    · rw [zero]
      exact .inl rfl
    · have first := isWhole_of_prefix (k := 0) positive [] (by simp)
      rwa [List.append_nil] at first
  obtain ⟨fraction, parted⟩ : ∃ fraction, fraction = (Nat.toDigits 10 d.digits).drop 1 := ⟨_, rfl⟩
  have point : (if fraction.isEmpty then "" else "." ++ String.ofList fraction).toList = [] ∨
      ∃ digits, (if fraction.isEmpty then "" else "." ++ String.ofList fraction).toList =
        '.' :: digits ∧ digits ≠ [] ∧ ∀ c ∈ digits, c.isDigit = true := by
    cases fraction with
    | nil => exact .inl rfl
    | cons c more =>
        refine .inr ⟨c :: more, by simp, by simp, fun x member => ?_⟩
        rw [parted] at member
        exact isDigit_toDigits _ x (List.mem_of_mem_drop member)
  have read (sign : Char) (n : Nat) (either : sign = '+' ∨ sign = '-') :=
    readUnsigned_of_parts _ ('e' :: sign :: Nat.toDigits 10 n) shape point
      (.inr ⟨sign, Nat.toDigits 10 n, rfl, either, Nat.toDigits_ne_nil, isDigit_toDigits n⟩)
  unfold scientific
  simp only [← parted, if_true]
  by_cases negative : (if d.digits = 0 then 0 else d.leading) < 0
  · rw [if_pos negative]
    simpa [digitText] using read '-' _ (.inr rfl)
  · rw [if_neg negative]
    simpa [digitText] using read '+' _ (.inl rfl)

end Decimal

/-! ### Shortest decimals -/

namespace Interval

variable {i : Interval} {tie : Tie} {place : Int} {n : Nat}

theorem scale_pos (i : Interval) (place : Int) : 0 < (i.scale place).1 := by
  have powers (base : Nat) (positive : 0 < base) (e : Int) :
      0 < (if e < 0 then (1, Nat.pow base e.natAbs) else (Nat.pow base e.natAbs, 1)).1 := by
    split
    · exact Nat.one_pos
    · exact Nat.pow_pos positive
  exact Nat.mul_pos (powers 2 (by decide) i.unit) (powers 10 (by decide) (-place))

/-- An interval above zero has no grid point at zero. -/
theorem pos_of_gridPoint? (above : 0 < i.low) (point : i.gridPoint? tie place = some n) :
    0 < n := by
  have start : 0 < i.low * (i.scale place).1 := Nat.mul_pos above (i.scale_pos place)
  have notAt : ¬ i.low * (i.scale place).1 ≤ 0 * (i.scale place).2 := by
    rwa [Nat.zero_mul, Nat.not_le]
  have notAbove : ¬ i.low * (i.scale place).1 < 0 * (i.scale place).2 :=
    fun less => notAt (Nat.le_of_lt less)
  refine Nat.pos_of_ne_zero fun zero => ?_
  subst zero
  unfold gridPoint? at point
  dsimp only at point
  split at point
  · rename_i inside _
    split at point
    · simp only [Option.some.inj point, notAt, notAbove, decide_false, Bool.false_and, ite_self,
        Bool.false_eq_true] at inside
    · exact Nat.succ_ne_zero _ (Option.some.inj point)
  · rename_i inside _
    simp only [Option.some.inj point, notAt, notAbove, decide_false, Bool.false_and, ite_self,
      Bool.false_eq_true] at inside
  · exact Nat.succ_ne_zero _ (Option.some.inj point)
  · cases point

/-- Only at its last grid does a search come back without digits. -/
theorem search_exponent (above : 0 < i.low) (fuel : Nat)
    (none : (i.search tie fuel place).digits = 0) :
    (i.search tie fuel place).exponent = place - fuel := by
  induction fuel generalizing place with
  | zero => simp [search]
  | succ fuel ih =>
      unfold search at none ⊢
      split
      · rename_i digits point
        simp only [point] at none
        exact absurd none (pos_of_gridPoint? above point).ne'
      · rename_i missing
        simp only [missing] at none
        rw [ih none]
        omega

end Interval

theorem shortest_exponent {tie : Tie} {significand : Nat} {exponent : Int} {closeBelow : Bool}
    (none : (shortest tie significand exponent closeBelow).digits = 0) :
    (shortest tie significand exponent closeBelow).exponent ≤ 0 := by
  unfold shortest at none ⊢
  split
  · exact Int.le_refl 0
  · rename_i nonzero
    rw [if_neg nonzero] at none
    have above : 0 < (Interval.around significand exponent closeBelow).low := by
      simp only [Interval.around]
      split <;> omega
    rw [Interval.search_exponent above _ none]
    omega

theorem isNumeral_of_json? {tie : Tie} {least most : Int} {value : BinaryValue} {s : String}
    (written : (value.shortest tie).json? least most = some s) : IsNumeral s := by
  cases value with
  | nan => cases written
  | infinite negative => cases written
  | finite negative significand exponent closeBelow =>
      simp only [BinaryValue.shortest, DecimalValue.json?, Option.some.injEq] at written
      subst written
      apply isNumeral_of_unsigned negative
      split
      · exact Decimal.readUnsigned_positional shortest_exponent
      · exact Decimal.readUnsigned_scientific

end Numeral

theorem machine_writesNumerals : machine.WritesNumerals :=
  ⟨fun _ _ => Numeral.isNumeral_of_json?, fun _ _ => Numeral.isNumeral_of_json?⟩

/-- A finite numeral is read as some element and some coefficient. -/
theorem machine_readsNumerals : machine.ReadsNumerals := by
  constructor
  · intro x finite
    obtain ⟨wide, read⟩ := Option.isSome_iff_exists.mp finite
    obtain ⟨s, written, token⟩ := Option.bind_eq_some_iff.mp read
    have reads : (Numeral.float32OfToken? s).isSome = true := by
      unfold Numeral.float32OfToken?
      split
      · rfl
      · rw [token]
        rfl
    rw [Arithmetic.reread?, written]
    exact reads
  · intro x finite
    exact finite

end Diffusion
