import Diffusion.Arithmetic
import Diffusion.Json.Read
import Diffusion.Numeral.Token
import Diffusion.Proofs.Numeral.Digits
import Mathlib.Data.List.TakeWhile

/-!
Numerals of JSON.

A reader of numerals takes as many characters as belong to one, so what it reads of a text depends
on the character after it. Main statement: `readNumeral_append`, by which it reads the same where a
character follows that no numeral goes on with.
-/

namespace Diffusion.Json

/-- Whether a numeral may go on with a character. -/
def goesOn (c : Char) : Bool := c.isDigit || c == '.' || c == 'e' || c == 'E'

/-- What follows a numeral does not go on with it. -/
def Delimited (rest : List Char) : Prop := ∀ c ∈ rest.head?, goesOn c = false

/-- A text that is read as a numeral to its end. -/
def IsNumeral (token : String) : Prop := readNumeral token.toList = some (token.toList, [])

variable {cs token left rest : List Char}

theorem delimited_cons {c : Char} (stops : goesOn c = false) : Delimited (c :: rest) := by
  simpa [Delimited] using stops

theorem Delimited.ne_cons {c : Char} (delimited : Delimited rest) (continues : goesOn c = true)
    (more : List Char) : rest ≠ c :: more := by
  rintro rfl
  have stops := delimited c rfl
  rw [continues] at stops
  cases stops

theorem Delimited.head_not_digit (delimited : Delimited rest) :
    ∀ c ∈ rest.head?, c.isDigit = false := by
  intro c first
  have stops := delimited c first
  simp only [goesOn, Bool.or_eq_false_iff] at stops
  exact stops.1.1.1

theorem takeWhile_digits_append (delimited : Delimited rest) :
    (cs ++ rest).takeWhile Char.isDigit = cs.takeWhile Char.isDigit := by
  have none : rest.takeWhile Char.isDigit = [] := by
    cases rest with
    | nil => rfl
    | cons c more =>
        have other := delimited.head_not_digit c rfl
        simp [other]
  rw [List.takeWhile_append, none, List.append_nil]
  split
  · rename_i all
    exact ((List.takeWhile_prefix _).eq_of_length all).symm
  · rfl

theorem dropWhile_digits_append (delimited : Delimited rest) :
    (cs ++ rest).dropWhile Char.isDigit = cs.dropWhile Char.isDigit ++ rest := by
  have split : (cs ++ rest).takeWhile Char.isDigit ++ (cs ++ rest).dropWhile Char.isDigit =
      cs.takeWhile Char.isDigit ++ (cs.dropWhile Char.isDigit ++ rest) := by
    rw [List.takeWhile_append_dropWhile, ← List.append_assoc, List.takeWhile_append_dropWhile]
  rw [takeWhile_digits_append delimited] at split
  exact List.append_cancel_left split

theorem readDigits_append (delimited : Delimited rest) (read : readDigits cs = some (token, left)) :
    readDigits (cs ++ rest) = some (token, left ++ rest) := by
  unfold readDigits at read ⊢
  rw [takeWhile_digits_append delimited, dropWhile_digits_append delimited]
  by_cases empty : (cs.takeWhile Char.isDigit).isEmpty
  · simp [empty] at read
  · simp only [empty, Bool.false_eq_true, if_false, Option.some.injEq, Prod.mk.injEq] at read ⊢
    exact ⟨read.1, by rw [read.2]⟩

/-- A mark put before what a reader reads does not change how far it reads. -/
theorem marked_append {reader : List Char → Option (List Char × List Char)}
    (mark : List Char → List Char)
    (further : ∀ {token left}, reader cs = some (token, left) →
      reader (cs ++ rest) = some (token, left ++ rest))
    (read : (reader cs).map (fun (digits, left) => (mark digits, left)) = some (token, left)) :
    (reader (cs ++ rest)).map (fun (digits, left) => (mark digits, left)) =
      some (token, left ++ rest) := by
  obtain ⟨_, digitsRead, same⟩ := Option.map_eq_some_iff.mp read
  cases same
  rw [further digitsRead, Option.map_some]

theorem readWhole_append (delimited : Delimited rest) (read : readWhole cs = some (token, left)) :
    readWhole (cs ++ rest) = some (token, left ++ rest) := by
  cases cs with
  | nil => simp [readWhole, readDigits] at read
  | cons c more =>
      by_cases zero : c = '0'
      · subst zero
        simp only [readWhole, Option.some.injEq, Prod.mk.injEq] at read
        obtain ⟨rfl, rfl⟩ := read
        rfl
      · have same : ∀ after, readWhole (c :: after) = readDigits (c :: after) := by
          intro after
          simp [readWhole, zero]
        rw [same] at read
        rw [List.cons_append, same, ← List.cons_append]
        exact readDigits_append delimited read

theorem readFraction_append (delimited : Delimited rest)
    (read : readFraction cs = some (token, left)) :
    readFraction (cs ++ rest) = some (token, left ++ rest) := by
  have same : ∀ after, (∀ more, after ≠ '.' :: more) → readFraction after = some ([], after) := by
    intro after other
    unfold readFraction
    split
    · exact absurd rfl (other _)
    · rfl
  cases cs with
  | nil =>
      rw [same [] (by simp), Option.some.injEq, Prod.mk.injEq] at read
      obtain ⟨rfl, rfl⟩ := read
      exact same rest (delimited.ne_cons rfl)
  | cons c more =>
      by_cases point : c = '.'
      · subst point
        exact marked_append ('.' :: ·) (readDigits_append delimited) read
      · have others : ∀ after suffix, c :: after ≠ '.' :: suffix := by simp [point]
        rw [same _ (others _), Option.some.injEq, Prod.mk.injEq] at read
        obtain ⟨rfl, rfl⟩ := read
        rw [List.cons_append]
        exact same _ (others _)

theorem readExponent_append (delimited : Delimited rest)
    (read : readExponent cs = some (token, left)) :
    readExponent (cs ++ rest) = some (token, left ++ rest) := by
  cases cs with
  | nil =>
      simp only [readExponent, Option.some.injEq, Prod.mk.injEq] at read
      obtain ⟨rfl, rfl⟩ := read
      cases rest with
      | nil => rfl
      | cons c more =>
          have other : ¬ (c = 'e' ∨ c = 'E') := by
            rintro (rfl | rfl)
            · exact delimited.ne_cons rfl more rfl
            · exact delimited.ne_cons rfl more rfl
          simp [readExponent, other]
  | cons mark more =>
      by_cases marks : mark = 'e' ∨ mark = 'E'
      · cases more with
        | nil => simp [readExponent, marks, readDigits] at read
        | cons c after =>
            by_cases signed : c = '+' ∨ c = '-'
            · have same : ∀ digits, readExponent (mark :: c :: digits) =
                  (readDigits digits).map fun (digits, left) => (mark :: c :: digits, left) := by
                intro digits
                rcases signed with rfl | rfl <;> simp [readExponent, marks]
              rw [same] at read
              rw [List.cons_append, List.cons_append, same]
              exact marked_append (mark :: c :: ·) (readDigits_append delimited) read
            · have same : ∀ digits, readExponent (mark :: c :: digits) =
                  (readDigits (c :: digits)).map fun (digits, left) => (mark :: digits, left) := by
                intro digits
                simp only [not_or] at signed
                simp [readExponent, marks, signed]
              rw [same] at read
              rw [List.cons_append, List.cons_append, same, ← List.cons_append]
              exact marked_append (mark :: ·) (readDigits_append delimited) read
      · simp only [readExponent, marks, if_false, List.cons_append, Option.some.injEq,
          Prod.mk.injEq] at read ⊢
        obtain ⟨rfl, rfl⟩ := read
        exact ⟨rfl, rfl⟩

theorem readUnsigned_append (delimited : Delimited rest)
    (read : readUnsigned cs = some (token, left)) :
    readUnsigned (cs ++ rest) = some (token, left ++ rest) := by
  simp only [readUnsigned, Option.bind_eq_bind, Option.bind_eq_some_iff, Option.pure_def,
    Option.some.injEq, Prod.exists, Prod.mk.injEq] at read ⊢
  obtain ⟨whole, afterWhole, wholeRead, fraction, afterFraction, fractionRead, exponent, after,
    exponentRead, rfl, rfl⟩ := read
  exact ⟨_, _, readWhole_append delimited wholeRead, _, _,
    readFraction_append delimited fractionRead, _, _, readExponent_append delimited exponentRead,
    rfl, rfl⟩

theorem readNumeral_append (delimited : Delimited rest)
    (read : readNumeral cs = some (token, left)) :
    readNumeral (cs ++ rest) = some (token, left ++ rest) := by
  cases cs with
  | nil => simp [readNumeral, readUnsigned, readWhole, readDigits] at read
  | cons c more =>
      by_cases sign : c = '-'
      · subst sign
        exact marked_append ('-' :: ·) (readUnsigned_append delimited) read
      · have same : ∀ after, readNumeral (c :: after) = readUnsigned (c :: after) := by
          intro after
          simp [readNumeral, sign]
        rw [same] at read
        rw [List.cons_append, same, ← List.cons_append]
        exact readUnsigned_append delimited read

theorem IsNumeral.read {token : String} (numeral : IsNumeral token) (delimited : Delimited rest) :
    readNumeral (token.toList ++ rest) = some (token.toList, rest) := by
  simpa using readNumeral_append delimited numeral

theorem IsNumeral.exists_head {token : String} (numeral : IsNumeral token) :
    ∃ c more, token.toList = c :: more ∧ (c = '-' ∨ c.isDigit = true) := by
  unfold IsNumeral at numeral
  cases written : token.toList with
  | nil =>
      rw [written] at numeral
      simp [readNumeral, readUnsigned, readWhole, readDigits] at numeral
  | cons c more =>
      refine ⟨c, more, rfl, ?_⟩
      by_cases sign : c = '-'
      · exact .inl sign
      · by_cases zero : c = '0'
        · exact .inr (zero ▸ rfl)
        · by_cases digit : c.isDigit
          · exact .inr digit
          · rw [written] at numeral
            simp [readNumeral, sign, readUnsigned, readWhole, zero, readDigits, digit] at numeral

/-! ### Whole numbers -/

theorem readDigits_of_all (nonempty : cs ≠ []) (digits : ∀ c ∈ cs, c.isDigit = true) :
    readDigits cs = some (cs, []) := by
  have all : cs.takeWhile Char.isDigit = cs := List.takeWhile_eq_self_iff.mpr digits
  have none : cs.dropWhile Char.isDigit = [] := List.dropWhile_eq_nil_iff.mpr digits
  simp [readDigits, all, none, nonempty]

theorem readUnsigned_toDigits (n : Nat) :
    readUnsigned (Nat.toDigits 10 n) = some (Nat.toDigits 10 n, []) := by
  have whole : readWhole (Nat.toDigits 10 n) = some (Nat.toDigits 10 n, []) := by
    by_cases zero : n = 0
    · subst zero
      rfl
    · have digits := readDigits_of_all Nat.toDigits_ne_nil fun c member =>
        Nat.isDigit_of_mem_toDigits (b := 10) (n := n) (by decide) (by decide) member
      have first := Numeral.head?_toDigits_ne_zero (Nat.pos_of_ne_zero zero)
      unfold readWhole
      split
      · rename_i written
        rw [written] at first
        exact absurd rfl first
      · exact digits
  simp [readUnsigned, whole, readFraction, readExponent]

theorem isNumeral_toDigits (n : Nat) : IsNumeral (String.ofList (Nat.toDigits 10 n)) := by
  unfold IsNumeral
  rw [String.toList_ofList]
  unfold readNumeral
  split
  · rename_i written
    exact absurd rfl (Numeral.head?_toDigits (n := n) (by rw [written]; rfl)).1
  · exact readUnsigned_toDigits n

theorem isNumeral_integerText (n : Int) : IsNumeral (Numeral.integerText n) := by
  unfold Numeral.integerText
  split
  · simp [IsNumeral, readNumeral, readUnsigned_toDigits]
  · exact isNumeral_toDigits _

end Diffusion.Json

namespace Diffusion

/-- Whether there is a numeral, and it stands for a finite number. -/
def Numeral.isFinite (numeral? : Option String) : Bool :=
  (numeral?.bind Numeral.floatOfToken?).isSome

namespace Arithmetic

variable (A : Arithmetic)

/-- Numbers are written in JSON as numerals. -/
def WritesNumerals : Prop :=
  (∀ (x : A.Elem) (s : String), A.text.json? x = some s → Json.IsNumeral s) ∧
    ∀ (x : A.Wide) (s : String), A.text.wideJson? x = some s → Json.IsNumeral s

/-- An element as it comes back through JSON, if it has a numeral and that can be read. -/
def reread? (x : A.Elem) : Option A.Elem := (A.text.json? x).bind A.text.ofJson?

def rereadWide? (x : A.Wide) : Option A.Wide := (A.text.wideJson? x).bind A.text.wideOfJson?

/-- Finite numerals can be read, though maybe not as the number that was written. -/
def ReadsNumerals : Prop :=
  (∀ x, Numeral.isFinite (A.text.json? x) = true → (A.reread? x).isSome) ∧
    ∀ x, Numeral.isFinite (A.text.wideJson? x) = true → (A.rereadWide? x).isSome

/-- An element that comes back through JSON is the one that was written, also out of a wide
field, from which it has to be narrowed. -/
def KeepsElements : Prop :=
  (∀ x y, A.reread? x = some y → y = x) ∧
    ∀ x y, A.rereadWide? (A.widen x) = some y → A.narrow y = x

/-- What JSON can write of a number, it reads back as that number. -/
def ReadsBack : Prop :=
  (∀ (x : A.Elem) (s : String), A.text.json? x = some s → A.text.ofJson? s = some x) ∧
    ∀ (x : A.Wide) (s : String), A.text.wideJson? x = some s → A.text.wideOfJson? s = some x

namespace ReadsBack

variable {A} (back : A.ReadsBack)

include back

theorem eq_of_reread? {x y : A.Elem} (came : A.reread? x = some y) : y = x := by
  obtain ⟨s, written, read⟩ := Option.bind_eq_some_iff.mp came
  exact Option.some.inj (read.symm.trans (back.1 x s written))

theorem eq_of_rereadWide? {x y : A.Wide} (came : A.rereadWide? x = some y) : y = x := by
  obtain ⟨s, written, read⟩ := Option.bind_eq_some_iff.mp came
  exact Option.some.inj (read.symm.trans (back.2 x s written))

theorem keepsElements (widens : A.WidensExactly) : A.KeepsElements :=
  ⟨fun _ _ => back.eq_of_reread?, fun x _ came => (back.eq_of_rereadWide? came).symm ▸ widens x⟩

theorem readsNumerals : A.ReadsNumerals := by
  constructor
  · intro x finite
    cases written : A.text.json? x with
    | none => simp [written, Numeral.isFinite] at finite
    | some s => simp [reread?, written, back.1 x s written]
  · intro x finite
    cases written : A.text.wideJson? x with
    | none => simp [written, Numeral.isFinite] at finite
    | some s => simp [rereadWide?, written, back.2 x s written]

end ReadsBack

end Arithmetic

end Diffusion
