import Diffusion.Arithmetic.Machine
import Diffusion.Program.Listing
import Diffusion.Proofs.Numeral.Digits
import Mathlib.Data.List.Basic
import Mathlib.Data.List.Forall2
import Mathlib.Data.List.TakeWhile

/-!
What can be read off a listing.

Whatever is written into a listing ends where a character follows that cannot be part of it, so it
is found again in front of any other text: that is what the names `_append_inj` say. Main statement:
`Program.listing_eq_iff`, by which two programs of one listing differ at most in the names of their
inputs and in numbers that read the same.
-/

namespace Diffusion

variable {A : Arithmetic} {s t : List Char}

/-! ### Words and rows of words -/

section Words

variable {p : Char → Bool} {u v : List Char} {c d : Char}

theorem takeWhile_word (word : ∀ c ∈ u, p c = true) (stops : p c = false) :
    (u ++ c :: s).takeWhile p = u := by
  rw [List.takeWhile_append_of_pos word, List.takeWhile_cons_of_neg (by simp [stops]),
    List.append_nil]

theorem word_append_inj (first : ∀ c ∈ u, p c = true) (second : ∀ c ∈ v, p c = true)
    (stops : p c = false) (stopsToo : p d = false) (same : u ++ c :: s = v ++ d :: t) :
    u = v ∧ c :: s = d :: t := by
  have words : u = v := by
    rw [← takeWhile_word first stops, same, takeWhile_word second stopsToo]
  subst words
  exact ⟨rfl, List.append_cancel_left same⟩

theorem digits_append_inj {m n : Nat} (stops : c.isDigit = false) (stopsToo : d.isDigit = false)
    (same : Nat.toDigits 10 m ++ c :: s = Nat.toDigits 10 n ++ d :: t) :
    m = n ∧ c :: s = d :: t := by
  have all : ∀ n : Nat, ∀ c ∈ Nat.toDigits 10 n, c.isDigit = true := fun n c member =>
    Nat.isDigit_of_mem_toDigits (by decide) (by decide) member
  obtain ⟨digits, rest⟩ := word_append_inj (all m) (all n) stops stopsToo same
  have read := congrArg Numeral.natOfDigits? digits
  rw [Numeral.natOfDigits?_toDigits, Numeral.natOfDigits?_toDigits] at read
  exact ⟨Option.some.inj read, rest⟩

theorem digits_append_ne {n : Nat} (other : c.isDigit = false) :
    Nat.toDigits 10 n ++ s ≠ c :: t := by
  intro same
  have nonempty : Nat.toDigits 10 n ≠ [] := Nat.toDigits_ne_nil
  obtain ⟨first, rest, digits⟩ := List.exists_cons_of_ne_nil nonempty
  have digit : first.isDigit = true :=
    Nat.isDigit_of_mem_toDigits (by decide) (by decide) (digits ▸ List.mem_cons_self)
  rw [digits, List.cons_append, List.cons.injEq] at same
  rw [same.1, other] at digit
  cases digit

end Words

/-- Rows that are each found again are all found again in front of a text that starts no row. -/
theorem rows_append_inj {α : Type} {alike : α → α → Prop} {write : Nat → α → String}
    {xs ys : List α}
    (reads : ∀ k x y s t, (write k x).toList ++ s = (write k y).toList ++ t → alike x y ∧ s = t)
    (ends : ∀ k x more, (write k x).toList ++ more ≠ s)
    (endsToo : ∀ k x more, (write k x).toList ++ more ≠ t)
    (same : (String.join (xs.mapIdx write)).toList ++ s =
      (String.join (ys.mapIdx write)).toList ++ t) :
    List.Forall₂ alike xs ys ∧ s = t := by
  -- The rows are numbered, so their writer changes from row to row.
  induction xs generalizing ys write with
  | nil =>
      cases ys with
      | nil => simpa using same
      | cons y ys =>
          simp only [List.mapIdx_nil, List.mapIdx_cons, String.join_nil, String.join_cons,
            String.toList_empty, String.toList_append, List.nil_append, List.append_assoc] at same
          exact absurd same.symm (ends 0 y _)
  | cons x xs ih =>
      cases ys with
      | nil =>
          simp only [List.mapIdx_nil, List.mapIdx_cons, String.join_nil, String.join_cons,
            String.toList_empty, String.toList_append, List.nil_append, List.append_assoc] at same
          exact absurd same (endsToo 0 x _)
      | cons y ys =>
          simp only [List.mapIdx_cons, String.join_cons, String.toList_append,
            List.append_assoc] at same
          obtain ⟨first, rest⟩ := reads 0 x y _ _ same
          obtain ⟨others, left⟩ := ih (fun k => reads (k + 1)) (fun k => ends (k + 1))
            (fun k => endsToo (k + 1)) rest
          exact ⟨.cons first others, left⟩

theorem map_mapIdx {α β γ : Type} (f : Nat → α → β) (g : β → γ) (xs : List α) :
    (xs.mapIdx f).map g = xs.mapIdx fun k x => g (f k x) := by
  induction xs generalizing f with
  | nil => rfl
  | cons x xs ih => rw [List.mapIdx_cons, List.map_cons, ih, List.mapIdx_cons]

theorem mapIdx_eq_of_forall₂ {α β : Type} {alike : α → α → Prop} {write : Nat → α → β}
    {xs ys : List α} (rows : List.Forall₂ alike xs ys)
    (agree : ∀ k x y, alike x y → write k x = write k y) :
    xs.mapIdx write = ys.mapIdx write := by
  induction rows generalizing write with
  | nil => rfl
  | cons first _ ih =>
      rw [List.mapIdx_cons, List.mapIdx_cons, agree 0 _ _ first, ih fun k => agree (k + 1)]

theorem intercalate_cons (separator first : String) (rest : List String) :
    separator.intercalate (first :: rest) = first ++ String.join (rest.map (separator ++ ·)) := by
  induction rest generalizing first with
  | nil => simp
  | cons second rest ih =>
      rw [String.intercalate_cons_cons, ih, List.map_cons, String.join_cons, String.append_assoc,
        String.append_assoc]

/-! ### Numbers -/

/-- Whether a character may stand in a number that is written with an exponent. -/
def inNumber (c : Char) : Bool := c != ' ' && c != '}'

/-- No number with an exponent holds what ends it in a listing. -/
structure Arithmetic.WritesWords (A : Arithmetic) : Prop where
  elem : ∀ x : A.Elem, ∀ c ∈ (A.text.exponential x).toList, inNumber c = true
  wide : ∀ x : A.Wide, ∀ c ∈ (A.text.wideExponential x).toList, inNumber c = true

namespace Numeral

theorem inNumber_digits (n : Nat) : ∀ c ∈ Nat.toDigits 10 n, inNumber c = true := by
  intro c member
  have digit : c.isDigit = true := Nat.isDigit_of_mem_toDigits (by decide) (by decide) member
  rw [inNumber, Bool.and_eq_true, bne_iff_ne, bne_iff_ne]
  constructor <;>
  · rintro rfl
    cases digit

theorem inNumber_word {word : String} (all : word.toList.all inNumber = true) :
    ∀ c ∈ word.toList, inNumber c = true := List.all_eq_true.mp all

theorem inNumber_scientific (d : Decimal) :
    ∀ c ∈ (d.scientific false).toList, inNumber c = true := by
  intro c member
  unfold Decimal.scientific digitText at member
  dsimp only at member
  simp only [String.toList_append, List.mem_append, or_assoc, String.toList_ofList] at member
  rcases member with leading | point | mark | sign | exponent
  · exact inNumber_digits _ c (List.mem_of_mem_take leading)
  · split at point
    · simp at point
    · simp only [String.toList_append, String.toList_ofList, List.mem_append] at point
      rcases point with point | fraction
      · exact inNumber_word (by decide) c point
      · exact inNumber_digits _ c (List.mem_of_mem_drop fraction)
  · exact inNumber_word (by decide) c mark
  · simp only [Bool.false_eq_true, if_false] at sign
    split_ifs at sign <;> exact inNumber_word (by decide) c sign
  · exact inNumber_digits _ c exponent

theorem inNumber_exponential (v : DecimalValue) :
    ∀ c ∈ v.exponential.toList, inNumber c = true := by
  have sign : ∀ negative : Bool, ∀ c ∈ (if negative then "-" else "").toList,
      inNumber c = true := by
    intro negative
    cases negative <;> exact inNumber_word (by decide)
  intro c member
  cases v with
  | nan => exact inNumber_word (by decide) c member
  | infinite negative =>
      unfold DecimalValue.exponential DecimalValue.layOut at member
      simp only [String.toList_append, List.mem_append] at member
      rcases member with mark | name
      · exact sign negative c mark
      · exact inNumber_word (by decide) c name
  | finite negative magnitude =>
      unfold DecimalValue.exponential DecimalValue.layOut at member
      simp only [String.toList_append, List.mem_append] at member
      rcases member with mark | digits
      · exact sign negative c mark
      · exact inNumber_scientific magnitude c digits

end Numeral

theorem machine_writesWords : machine.WritesWords :=
  ⟨fun _ => Numeral.inNumber_exponential _, fun _ => Numeral.inNumber_exponential _⟩

namespace Program

theorem tensorType_append_inj {a b : Shape}
    (same : (tensorType a).toList ++ s = (tensorType b).toList ++ t) : a = b ∧ s = t := by
  have rows : ∀ (s : Shape) (f : Nat → String), s.map f = s.mapIdx fun _ => f := by
    intro s f
    simp [List.mapIdx_eq_zipIdx_map, ← Function.comp_def f Prod.fst, ← List.map_map]
  have reads : ∀ (m n : Nat) (s t : List Char), (toString m ++ "x").toList ++ s =
      (toString n ++ "x").toList ++ t → m = n ∧ s = t := by
    intro m n s t row
    simp at row
    obtain ⟨extent, more⟩ := digits_append_inj (by decide) (by decide) row
    exact ⟨extent, (List.cons.inj more).2⟩
  have ends : ∀ (n : Nat) (s t : List Char),
      (toString n ++ "x").toList ++ s ≠ "f32>".toList ++ t := by
    intro n s t
    simpa using digits_append_ne (by decide)
  simp only [tensorType, rows, String.toList_append, List.append_assoc,
    List.append_cancel_left_eq] at same
  obtain ⟨extents, rest⟩ := rows_append_inj (fun _ => reads) (fun _ n more => ends n more s)
    (fun _ n more => ends n more t) same
  exact ⟨List.forall₂_eq_eq_eq ▸ extents, List.append_cancel_left rest⟩

theorem resultType_append_inj {p q : Program A}
    (same : p.resultType.toList ++ s = q.resultType.toList ++ t) : s = t := by
  unfold resultType at same
  cases result : p.outputShape? with
  | none =>
      cases result' : q.outputShape? with
      | none =>
          rw [result, result'] at same
          exact List.append_cancel_left same
      | some b => simp [result, result', tensorType] at same
  | some a =>
      cases result' : q.outputShape? with
      | none => simp [result, result', tensorType] at same
      | some b =>
          rw [result, result'] at same
          exact (tensorType_append_inj same).2

theorem valueName_append_inj {n v w : Nat} {c d : Char} (stops : c.isDigit = false)
    (stopsToo : d.isDigit = false)
    (same : (valueName n v).toList ++ c :: s = (valueName n w).toList ++ d :: t) :
    v = w ∧ c :: s = d :: t := by
  unfold valueName at same
  split at same <;> split at same <;> simp [toString] at same
  · exact digits_append_inj stops stopsToo same
  · exact absurd same.symm (digits_append_ne (by decide))
  · exact absurd same (digits_append_ne (by decide))
  · obtain ⟨position, rest⟩ := digits_append_inj stops stopsToo same
    exact ⟨by omega, rest⟩

end Program

/-! ### Operations -/

/-- Two operations are alike if they are equal but for numbers that are written the same. -/
inductive Op.Matches : Op A → Op A → Prop
  | scale {input : Nat} {x y : A.Wide}
      (factor : A.text.wideExponential x = A.text.wideExponential y) :
      Matches (.scale input x) (.scale input y)
  | add (lhs rhs : Nat) : Matches (.add lhs rhs) (.add lhs rhs)
  | sub (lhs rhs : Nat) : Matches (.sub lhs rhs) (.sub lhs rhs)
  | concat (lhs rhs : Nat) : Matches (.concat lhs rhs) (.concat lhs rhs)
  | slice (input : Nat) (half : Half) : Matches (.slice input half) (.slice input half)
  | noise (like : Nat) (seed : UInt64) : Matches (.noise like seed) (.noise like seed)
  | unet {sample conditioning : Nat} {x y : A.Elem}
      (timestep : A.text.exponential x = A.text.exponential y) :
      Matches (.unet sample conditioning x) (.unet sample conditioning y)

namespace Program

theorem opText_eq (n : Nat) (globals : List ParameterGlobal) (op : Op A) :
    ∃ c more, c.isAlpha = false ∧
      (opText n globals op).toList = "sched.".toList ++ (op.mnemonic.toList ++ c :: more) := by
  unfold opText
  cases op with
  | unet => exact ⟨'(', _, by decide, by simp [Op.mnemonic]; rfl⟩
  | _ => exact ⟨' ', _, by decide, by simp [Op.mnemonic]; rfl⟩

theorem mnemonic_append_inj {n : Nat} {globals : List ParameterGlobal} {op op' : Op A}
    (same : (opText n globals op).toList ++ s = (opText n globals op').toList ++ t) :
    op.mnemonic = op'.mnemonic := by
  obtain ⟨c, more, stops, text⟩ := opText_eq n globals op
  obtain ⟨d, more', stopsToo, text'⟩ := opText_eq n globals op'
  have letters : ∀ op : Op A, ∀ c ∈ op.mnemonic.toList, c.isAlpha = true := by
    intro op
    cases op <;> simp [Op.mnemonic]
  rw [text, text'] at same
  simp only [List.append_assoc, List.append_cancel_left_eq, List.cons_append] at same
  exact String.toList_injective (word_append_inj (letters op) (letters op') stops stopsToo same).1

/-- The two operands of an operation, in front of whatever ends the second one's name. -/
theorem operands_append_inj {n lhs rhs lhs' rhs' : Nat} {c d : Char} (stops : c.isDigit = false)
    (stopsToo : d.isDigit = false)
    (same : (valueName n lhs).toList ++ ',' :: ' ' :: ((valueName n rhs).toList ++ c :: s) =
      (valueName n lhs').toList ++ ',' :: ' ' :: ((valueName n rhs').toList ++ d :: t)) :
    lhs = lhs' ∧ rhs = rhs' ∧ c :: s = d :: t := by
  obtain ⟨first, same⟩ := valueName_append_inj (by decide) (by decide) same
  simp only [List.cons.injEq, true_and] at same
  exact ⟨first, valueName_append_inj stops stopsToo same⟩

theorem opText_append_inj (words : A.WritesWords) {n : Nat} {globals : List ParameterGlobal}
    {op op' : Op A}
    (same : (opText n globals op).toList ++ ' ' :: s = (opText n globals op').toList ++ ' ' :: t) :
    op.Matches op' ∧ s = t := by
  have kinds := mnemonic_append_inj same
  unfold opText at same
  cases op <;> cases op' <;> simp [Op.mnemonic] at kinds <;> simp [toString] at same
  case scale.scale x _ y =>
    obtain ⟨rfl, factor⟩ := valueName_append_inj (by decide) (by decide) same
    simp only [List.cons.injEq, true_and] at factor
    obtain ⟨factors, rest⟩ :=
      word_append_inj (words.wide x) (words.wide y) (by decide) (by decide) factor
    exact ⟨.scale (String.toList_injective factors), (List.cons.inj rest).2⟩
  case add.add =>
    obtain ⟨rfl, rfl, rest⟩ := operands_append_inj (by decide) (by decide) same
    exact ⟨.add _ _, (List.cons.inj rest).2⟩
  case sub.sub =>
    obtain ⟨rfl, rfl, rest⟩ := operands_append_inj (by decide) (by decide) same
    exact ⟨.sub _ _, (List.cons.inj rest).2⟩
  case concat.concat =>
    obtain ⟨rfl, rfl, rest⟩ := operands_append_inj (by decide) (by decide) same
    exact ⟨.concat _ _, by simpa using rest⟩
  case slice.slice half _ half' =>
    obtain ⟨rfl, rest⟩ := valueName_append_inj (by decide) (by decide) same
    cases half <;> cases half' <;> simp [Half.text] at rest
    all_goals exact ⟨.slice _ _, rest⟩
  case noise.noise =>
    obtain ⟨rfl, seed⟩ := valueName_append_inj (by decide) (by decide) same
    simp only [List.cons.injEq, true_and] at seed
    obtain ⟨seeds, rest⟩ := digits_append_inj (by decide) (by decide) seed
    cases UInt64.toNat_inj.mp seeds
    exact ⟨.noise _ _, (List.cons.inj rest).2⟩
  case unet.unet x _ _ y =>
    obtain ⟨rfl, rfl, timestep⟩ := operands_append_inj (by decide) (by decide) same
    simp only [List.cons.injEq, true_and] at timestep
    obtain ⟨timesteps, rest⟩ :=
      word_append_inj (words.elem x) (words.elem y) (by decide) (by decide) timestep
    exact ⟨.unet (String.toList_injective timesteps), by simpa using rest⟩

theorem opText_eq_of_matches {op op' : Op A} (alike : op.Matches op') (n : Nat)
    (globals : List ParameterGlobal) : opText n globals op = opText n globals op' := by
  unfold opText
  cases alike with
  | scale factor => simp only [factor]
  | unet timestep => simp only [timestep]
  | _ => rfl

/-! ### Lines -/

/-- An input in the head of the function. -/
def argumentText (position : Nat) (input : ProgramInput) : String :=
  s!"%arg{position}: " ++ tensorType input.shape

theorem argumentText_append_inj {k : Nat} {x y : ProgramInput}
    (same : (argumentText k x).toList ++ s = (argumentText k y).toList ++ t) :
    x.shape = y.shape ∧ s = t := by
  simp only [argumentText, String.toList_append, List.append_assoc,
    List.append_cancel_left_eq] at same
  exact tensorType_append_inj same

theorem arguments_append_inj {xs ys : List ProgramInput}
    (same : (", ".intercalate (xs.mapIdx argumentText)).toList ++ ')' :: s =
      (", ".intercalate (ys.mapIdx argumentText)).toList ++ ')' :: t) :
    List.Forall₂ (fun x y => x.shape = y.shape) xs ys ∧ s = t := by
  have some_ne_none : ∀ (x : ProgramInput) (xs : List ProgramInput) (s t : List Char),
      (", ".intercalate ((x :: xs).mapIdx argumentText)).toList ++ s ≠ ')' :: t := by
    intro x xs s t
    simp [List.mapIdx_cons, intercalate_cons, argumentText, toString]
  cases xs with
  | nil =>
      cases ys with
      | nil => exact ⟨.nil, by simpa using same⟩
      | cons y ys => exact absurd (by simpa using same.symm) (some_ne_none y ys _ s)
  | cons x xs =>
      cases ys with
      | nil => exact absurd (by simpa using same) (some_ne_none x xs _ t)
      | cons y ys =>
          simp only [List.mapIdx_cons, intercalate_cons, map_mapIdx, String.toList_append,
            List.append_assoc] at same
          obtain ⟨first, more⟩ := argumentText_append_inj same
          have reads : ∀ k (x y : ProgramInput) (s t : List Char),
              (", " ++ argumentText (k + 1) x).toList ++ s =
                (", " ++ argumentText (k + 1) y).toList ++ t → x.shape = y.shape ∧ s = t := by
            intro k x y s t row
            simp only [String.toList_append, List.append_assoc, List.append_cancel_left_eq] at row
            exact argumentText_append_inj row
          have ends : ∀ k (x : ProgramInput) (more t : List Char),
              (", " ++ argumentText (k + 1) x).toList ++ more ≠ ')' :: t := by
            intro k x more t
            simp
          obtain ⟨others, rest⟩ := rows_append_inj reads (fun k x more => ends k x more s)
            (fun k x more => ends k x more t) more
          exact ⟨.cons first others, (List.cons.inj rest).2⟩

theorem instructionLine_toList (n k : Nat) (globals : List ParameterGlobal) (i : Instruction A) :
    (instructionLine n globals i k).toList =
      "    %".toList ++ (Nat.toDigits 10 k ++ (" = ".toList ++ ((opText n globals i.op).toList ++
        ' ' :: (": ".toList ++ ((tensorType i.shape).toList ++ ['\n']))))) := by
  simp [instructionLine, toString]

theorem instructionLine_append_inj (words : A.WritesWords) {n k : Nat}
    {globals : List ParameterGlobal} {i j : Instruction A}
    (same : (instructionLine n globals i k).toList ++ s =
      (instructionLine n globals j k).toList ++ t) :
    (i.op.Matches j.op ∧ i.shape = j.shape) ∧ s = t := by
  simp only [instructionLine_toList, List.append_assoc, List.cons_append,
    List.append_cancel_left_eq] at same
  obtain ⟨ops, shape⟩ := opText_append_inj words same
  obtain ⟨shapes, rest⟩ := tensorType_append_inj (List.append_cancel_left shape)
  exact ⟨⟨ops, shapes⟩, (List.cons.inj rest).2⟩

/-! ### Programs -/

/-- Two programs are alike if they are equal but for the names of their inputs and for numbers that
are written the same. -/
structure Matches (p q : Program A) : Prop where
  inputs : List.Forall₂ (fun x y => x.shape = y.shape) p.inputs.toList q.inputs.toList
  instructions : List.Forall₂ (fun i j => i.op.Matches j.op ∧ i.shape = j.shape)
    p.instructions.toList q.instructions.toList
  output : p.output = q.output

variable {p q : Program A} {stage : String} {globals : List ParameterGlobal}
  {storage : ParameterStorage}

/-- What a listing holds after the head of the function. -/
def bodyText (p : Program A) (globals : List ParameterGlobal) : List Char :=
  (String.join (p.instructions.toList.mapIdx fun position i =>
    instructionLine p.inputs.size globals i position)).toList ++
  ("    return ".toList ++ ((valueName p.inputs.size p.output).toList ++
    ' ' :: (": ".toList ++ (p.resultType.toList ++ "\n  \x7d\n\x7d\n".toList))))

theorem listing_toList (stage : String) (globals : List ParameterGlobal)
    (storage : ParameterStorage) : ∃ opening : List Char, ∀ p : Program A,
    (p.listing stage globals storage).toList = opening ++
      ((", ".intercalate (p.inputs.toList.mapIdx argumentText)).toList ++
        ')' :: (" -> ".toList ++ (p.resultType.toList ++
          (" \x7b\n".toList ++ bodyText p globals)))) := by
  refine ⟨("module @compiled_scheduler attributes \x7bsched.stage = \"" ++ stage ++
    "\"\x7d \x7b\n" ++ String.join (globals.map (globalLine storage)) ++
    (if globals.isEmpty then "" else "\n") ++ "  func.func @main(").toList, fun p => ?_⟩
  unfold listing signatureLine bodyText argumentText
  simp

theorem matches_of_bodyText_eq (words : A.WritesWords) (sizes : p.inputs.size = q.inputs.size)
    (same : bodyText p globals = bodyText q globals) :
    List.Forall₂ (fun i j => i.op.Matches j.op ∧ i.shape = j.shape)
      p.instructions.toList q.instructions.toList ∧ p.output = q.output := by
  have ends : ∀ k (i : Instruction A) (more t : List Char),
      (instructionLine q.inputs.size globals i k).toList ++ more ≠ "    return ".toList ++ t := by
    intro k i more t
    simp [instructionLine_toList]
  unfold bodyText at same
  rw [sizes] at same
  have reads : ∀ k (i j : Instruction A) (s t : List Char),
      (instructionLine q.inputs.size globals i k).toList ++ s =
        (instructionLine q.inputs.size globals j k).toList ++ t →
      (i.op.Matches j.op ∧ i.shape = j.shape) ∧ s = t :=
    fun _ _ _ _ _ => instructionLine_append_inj words
  obtain ⟨instructions, closing⟩ := rows_append_inj reads
    (fun k i more => ends k i more _) (fun k i more => ends k i more _) same
  have output := valueName_append_inj (by decide) (by decide) (List.append_cancel_left closing)
  exact ⟨instructions, output.1⟩

theorem matches_of_listing_eq (words : A.WritesWords)
    (same : p.listing stage globals storage = q.listing stage globals storage) : p.Matches q := by
  obtain ⟨opening, text⟩ := listing_toList (A := A) stage globals storage
  have texts := congrArg String.toList same
  rw [text, text, List.append_cancel_left_eq] at texts
  obtain ⟨inputs, head⟩ := arguments_append_inj texts
  have bodies := List.append_cancel_left (resultType_append_inj (List.append_cancel_left head))
  obtain ⟨instructions, output⟩ := matches_of_bodyText_eq words inputs.length_eq bodies
  exact ⟨inputs, instructions, output⟩

namespace Matches

theorem valueShape?_eq (alike : p.Matches q) (value : Nat) :
    p.valueShape? value = q.valueShape? value := by
  have sizes : p.inputs.size = q.inputs.size := alike.inputs.length_eq
  have inputs : p.inputs.toList.map (·.shape) = q.inputs.toList.map (·.shape) := by
    simpa [← List.forall₂_eq_eq_eq] using alike.inputs
  have instructions :
      p.instructions.toList.map (·.shape) = q.instructions.toList.map (·.shape) := by
    simpa [← List.forall₂_eq_eq_eq] using alike.instructions.imp fun _ _ both => both.2
  simp only [valueShape?, sizes, ← Array.getElem?_toList, ← List.getElem?_map, inputs,
    instructions]

theorem resultType_eq (alike : p.Matches q) : p.resultType = q.resultType := by
  rw [resultType, resultType, outputShape?, outputShape?, alike.output, alike.valueShape?_eq]

theorem bodyText_eq (alike : p.Matches q) : bodyText p globals = bodyText q globals := by
  have sizes : p.inputs.size = q.inputs.size := alike.inputs.length_eq
  have lines : p.instructions.toList.mapIdx
        (fun position i => instructionLine q.inputs.size globals i position) =
      q.instructions.toList.mapIdx
        (fun position i => instructionLine q.inputs.size globals i position) :=
    mapIdx_eq_of_forall₂ alike.instructions fun k i j both => by
      unfold instructionLine
      rw [opText_eq_of_matches both.1, both.2]
  unfold bodyText
  rw [sizes, lines, alike.output, alike.resultType_eq]

theorem listing_eq (alike : p.Matches q) :
    p.listing stage globals storage = q.listing stage globals storage := by
  obtain ⟨opening, text⟩ := listing_toList (A := A) stage globals storage
  have arguments : p.inputs.toList.mapIdx argumentText = q.inputs.toList.mapIdx argumentText :=
    mapIdx_eq_of_forall₂ alike.inputs fun k x y shapes => by
      unfold argumentText
      rw [shapes]
  apply String.toList_injective
  rw [text, text, arguments, alike.resultType_eq, alike.bodyText_eq]

end Matches

theorem listing_eq_iff {p q : Program machine} {stage : String} {globals : List ParameterGlobal}
    {storage : ParameterStorage} :
    p.listing stage globals storage = q.listing stage globals storage ↔ p.Matches q :=
  ⟨matches_of_listing_eq machine_writesWords, Matches.listing_eq⟩

end Program

end Diffusion
