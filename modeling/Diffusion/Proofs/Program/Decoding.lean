import Diffusion.Proofs.Json.Words
import Diffusion.Proofs.Program.Encoding
import Diffusion.Proofs.Program.Typing

/-!
Which programs are read back from their text.

A number is read back if JSON has a finite numeral for it. A program in which all numbers are like
that, and all ids and extents are words, is read back; one with any other number is refused. Main
statements: `decode_encode_of_written` and `decode_encode_of_unwritten`, and `reread_eq_self_iff`
for when what comes back is what was written.
-/

namespace Diffusion

open Halt (wordLimit)
open Json

namespace Json

variable {α : Type} {write : α → Json} {read : Json → Option α}

theorem isReadable_ofNumeral {numeral? : Option String}
    (finite : Numeral.isFinite numeral? = true) (room : Nat) :
    (ofNumeral? numeral?).isReadable room = true := by
  cases numeral? with
  | none => rfl
  | some s => exact finite

/-- What has no finite numeral is either null, which is no number, or not readable. -/
theorem unreadable_ofNumeral {numeral? : Option String} (readToken : String → Option α)
    (infinite : Numeral.isFinite numeral? = false) (room : Nat) :
    numeral?.bind readToken = none ∨ (ofNumeral? numeral?).isReadable room = false := by
  cases numeral? with
  | none => exact .inl rfl
  | some s => exact .inr infinite

theorem isReadable_object_eq_false {room : Nat} {fields : List (String × Json)}
    {field : String × Json} (member : field ∈ fields)
    (unreadable : field.2.isReadable room = false) :
    (object fields).isReadable (room + 1) = false := by
  have inside : areReadableFields room fields = false := by
    induction fields with
    | nil => cases member
    | cons first rest ih =>
        rw [areReadableFields]
        rcases List.mem_cons.mp member with same | later
        · rw [← same, unreadable, Bool.false_and]
        · rw [ih later, Bool.and_false]
  rw [isReadable, Nat.add_sub_cancel, inside, Bool.and_false]

theorem asList?_map_eq_none {xs : List α} {x : α} (member : x ∈ xs)
    (fails : read (write x) = none) : asList? read (.array (xs.map write)) = none := by
  induction xs with
  | nil => cases member
  | cons first rest ih =>
      rw [asList?, List.map_cons, List.mapM_cons]
      rcases List.mem_cons.mp member with same | later
      · rw [← same, fails]
        rfl
      · have none := ih later
        rw [asList?] at none
        rw [none]
        cases read (write first) <;> rfl

end Json

theorem Shape.ofJson?_toJson {s : Shape} (words : ∀ n ∈ s, n < wordLimit) :
    ofJson? s.toJson = some s :=
  asList?_map fun n member => asWord?_nat (words n member)

variable {A : Arithmetic}

namespace Op

/-- Whether the number in an operation, if there is one, has a finite numeral. -/
def Written : Op A → Prop
  | scale _ factor => Numeral.isFinite (A.text.wideJson? factor) = true
  | unet _ _ timestep => Numeral.isFinite (A.text.json? timestep) = true
  | _ => True

instance : (op : Op A) → Decidable op.Written
  | scale _ factor =>
    inferInstanceAs (Decidable (Numeral.isFinite (A.text.wideJson? factor) = true))
  | unet _ _ timestep =>
    inferInstanceAs (Decidable (Numeral.isFinite (A.text.json? timestep) = true))
  | noise .. | slice .. | add .. | sub .. | concat .. => inferInstanceAs (Decidable True)

theorem isReadable_toJson {op : Op A} (written : op.Written)
    (words : ∀ v ∈ op.operands, v < wordLimit) (room : Nat) :
    op.toJson.isReadable (room + 1) = true := by
  have operand : ∀ v ∈ op.operands, (nat v).isReadable room = true :=
    fun v member => isReadable_nat (words v member) room
  cases op with
  | scale input factor =>
      have number : (ofNumeral? (A.text.wideJson? factor)).isReadable room = true :=
        isReadable_ofNumeral written room
      simp only [operands, List.forall_mem_cons] at operand
      simp [toJson, fieldsJson, isReadable, areReadableFields, operand, number]
  | unet sample conditioning timestep =>
      have number : (ofNumeral? (A.text.json? timestep)).isReadable room = true :=
        isReadable_ofNumeral written room
      simp only [operands, List.forall_mem_cons] at operand
      simp [toJson, fieldsJson, isReadable, areReadableFields, operand, number]
  | noise like seed =>
      have word := isReadable_nat seed.toNat_lt room
      simp only [operands, List.forall_mem_cons] at operand
      simp [toJson, fieldsJson, isReadable, areReadableFields, operand, word]
  | slice | add | sub | concat =>
      simp only [operands, List.forall_mem_cons] at operand
      simp [toJson, fieldsJson, isReadable, areReadableFields, operand]

theorem ofJson?_of_written (readable : A.ReadsNumerals) {op : Op A} (written : op.Written)
    (words : ∀ v ∈ op.operands, v < wordLimit) : ofJson? op.toJson = some op.reread := by
  have operand : ∀ v ∈ op.operands, asWord? (.nat v) = some v :=
    fun v member => asWord?_nat (words v member)
  have readable' : op.toJson.isReadable (maxNesting - 3) = true :=
    isReadable_toJson written words (maxNesting - 4)
  rw [ofJson?_toJson, if_pos readable']
  cases op with
  | scale input factor =>
      obtain ⟨f, came⟩ := Option.isSome_iff_exists.mp (readable.2 factor written)
      rw [reassembled?, operand input (by simp [operands]), came, reread, came]
      rfl
  | noise like seed =>
      rw [reassembled?, operand like (by simp [operands]), asWord?_nat seed.toNat_lt]
      exact congrArg (fun seed => some (noise like seed)) UInt64.ofNat_toNat
  | slice input half =>
      rw [reassembled?, operand input (by simp [operands])]
      cases half <;> rfl
  | add lhs rhs | sub lhs rhs | concat lhs rhs =>
      rw [reassembled?, operand lhs (by simp [operands]), operand rhs (by simp [operands])]
      rfl
  | unet sample conditioning timestep =>
      obtain ⟨t, came⟩ := Option.isSome_iff_exists.mp (readable.1 timestep written)
      rw [reassembled?, operand sample (by simp [operands]),
        operand conditioning (by simp [operands]), came, reread, came]
      rfl

theorem ofJson?_of_unwritten {op : Op A} (unwritten : ¬ op.Written) :
    (ofJson? op.toJson : Option (Op A)) = none := by
  have refused : ∀ field ∈ op.fieldsJson, field.2.isReadable (maxNesting - 4) = false →
      (ofJson? op.toJson : Option (Op A)) = none := by
    intro field member unreadable
    have whole : op.toJson.isReadable (maxNesting - 3) = false :=
      isReadable_object_eq_false (List.mem_cons_of_mem _ member) unreadable
    rw [ofJson?_toJson, if_neg (by rw [whole]; nofun)]
  cases op with
  | scale input factor =>
      rcases unreadable_ofNumeral A.text.wideOfJson?
        (Bool.eq_false_iff.mpr unwritten) (maxNesting - 4) with lost | unreadable
      · have lost : A.rereadWide? factor = none := lost
        rw [ofJson?_toJson, reassembled?, lost]
        cases asWord? (.nat input) <;> simp
      · exact refused ("factor", .ofNumeral? (A.text.wideJson? factor)) (by simp [fieldsJson])
          unreadable
  | unet sample conditioning timestep =>
      rcases unreadable_ofNumeral A.text.ofJson?
        (Bool.eq_false_iff.mpr unwritten) (maxNesting - 4) with lost | unreadable
      · have lost : A.reread? timestep = none := lost
        rw [ofJson?_toJson, reassembled?, lost]
        cases asWord? (.nat sample) <;> cases asWord? (.nat conditioning) <;> simp
      · exact refused ("timestep", .ofNumeral? (A.text.json? timestep)) (by simp [fieldsJson])
          unreadable
  | noise | slice | add | sub | concat => exact absurd trivial unwritten

/-- Whether the number in an operation, if there is one and it comes back through JSON, comes back
unchanged. -/
def ReadsBack : Op A → Prop
  | scale _ factor => ∀ f, A.rereadWide? factor = some f → f = factor
  | unet _ _ timestep => ∀ t, A.reread? timestep = some t → t = timestep
  | _ => True

theorem getD_eq_self_iff {α : Type} {x? : Option α} {x : α} :
    x?.getD x = x ↔ ∀ y, x? = some y → y = x := by
  cases x? <;> simp

theorem reread_eq_self_iff {op : Op A} : op.reread = op ↔ op.ReadsBack := by
  cases op with
  | scale input factor => simp [reread, ReadsBack, getD_eq_self_iff]
  | unet sample conditioning timestep => simp [reread, ReadsBack, getD_eq_self_iff]
  | noise | slice | add | sub | concat => exact iff_of_true rfl trivial

end Op

namespace Instruction

theorem ofJson?_of_written (readable : A.ReadsNumerals) {i : Instruction A}
    (written : i.op.Written) (operands : ∀ v ∈ i.op.operands, v < wordLimit)
    (extents : ∀ n ∈ i.shape, n < wordLimit) : ofJson? i.toJson = some i.reread := by
  rw [ofJson?_toJson, Op.ofJson?_of_written readable written operands,
    Shape.ofJson?_toJson extents]
  rfl

theorem ofJson?_of_unwritten {i : Instruction A} (unwritten : ¬ i.op.Written) :
    (ofJson? i.toJson : Option (Instruction A)) = none := by
  rw [ofJson?_toJson, Op.ofJson?_of_unwritten unwritten]
  rfl

end Instruction

namespace Program

/-- Whether all numbers of a program have finite numerals. -/
def Written (p : Program A) : Prop := ∀ i ∈ p.instructions, i.op.Written

instance (p : Program A) : Decidable p.Written :=
  inferInstanceAs (Decidable (∀ i ∈ p.instructions, i.op.Written))

/-- Whether the ids and the extents of a program are words. -/
structure Words (p : Program A) : Prop where
  ids : p.numValues ≤ wordLimit
  extents : ∀ s ∈ p.shapes, ∀ n ∈ s, n < wordLimit

/-- Whether the numbers in the text of a program are words, whether or not the program has a value
for each id that it names. -/
structure NamesWords (p : Program A) : Prop where
  operands : ∀ i ∈ p.instructions, ∀ v ∈ i.op.operands, v < wordLimit
  output : p.output < wordLimit
  extents : ∀ s ∈ p.shapes, ∀ n ∈ s, n < wordLimit

variable {p : Program A}

/-- A checked program names no ids but its own. -/
theorem WellTyped.namesWords (typed : p.WellTyped) (words : p.Words) : p.NamesWords := by
  refine ⟨fun i member v reads => ?_, Nat.lt_of_lt_of_le typed.output words.ids, words.extents⟩
  obtain ⟨index, found⟩ := Array.mem_iff_getElem?.mp member
  have earlier := typed.ordered index i found v reads
  have inside := (Array.getElem?_eq_some_iff.mp found).1
  have ids := words.ids
  rw [numValues] at ids
  omega

theorem ofJson?_of_written (readable : A.ReadsNumerals) (names : p.NamesWords)
    (written : p.Written) : ofJson? p.toJson = some p.reread := by
  have inputs : asList? ProgramInput.ofJson? (.array (p.inputs.toList.map ProgramInput.toJson)) =
      some p.inputs.toList := by
    refine asList?_map fun input member => ?_
    have shape : input.shape ∈ p.shapes :=
      List.mem_append_left _ (List.mem_map_of_mem member)
    rw [ProgramInput.ofJson?_toJson, Shape.ofJson?_toJson (names.extents _ shape)]
    rfl
  have instructions : asList? Instruction.ofJson?
      (.array (p.instructions.toList.map Instruction.toJson)) =
        some (p.instructions.toList.map Instruction.reread) := by
    refine asList?_map_of_each fun i member => ?_
    have shape : i.shape ∈ p.shapes := List.mem_append_right _ (List.mem_map_of_mem member)
    have inside : i ∈ p.instructions := Array.mem_toList_iff.mp member
    exact Instruction.ofJson?_of_written readable (written i inside) (names.operands i inside)
      (names.extents _ shape)
  rw [ofJson?_toJson, inputs, instructions, asWord?_nat names.output,
    ← Array.toList_map]
  rfl

theorem ofJson?_of_unwritten (unwritten : ¬ p.Written) :
    (ofJson? p.toJson : Option (Program A)) = none := by
  simp only [Written, not_forall] at unwritten
  obtain ⟨i, member, fails⟩ := unwritten
  have instructions : (asList? Instruction.ofJson?
      (.array (p.instructions.toList.map Instruction.toJson)) : Option (List (Instruction A))) =
        none :=
    asList?_map_eq_none (Array.mem_toList_iff.mpr member)
      (Instruction.ofJson?_of_unwritten fails)
  rw [ofJson?_toJson, instructions]
  cases asList? ProgramInput.ofJson? (.array (p.inputs.toList.map ProgramInput.toJson)) <;> rfl

/-- A program is read back from its text, checked or not, if its numbers have finite numerals. -/
theorem decode_encode_of_written (readable : A.ReadsNumerals) (numerals : A.WritesNumerals)
    (names : p.NamesWords) (written : p.Written) : decode p.encode = .ok p.reread := by
  rw [decode, parse?_encode numerals, Option.bind_some,
    ofJson?_of_written readable names written]

theorem decode_encode_of_unwritten (numerals : A.WritesNumerals) (unwritten : ¬ p.Written) :
    (decode p.encode : Except Error (Program A)) =
      .error (.malformedProgram "the text is no program") := by
  rw [decode, parse?_encode numerals, Option.bind_some, ofJson?_of_unwritten unwritten]

/-- Whether every number of a program that comes back through JSON comes back unchanged. -/
def ReadsBack (p : Program A) : Prop := ∀ i ∈ p.instructions, i.op.ReadsBack

/-- What comes back of a program is the program exactly if each of its numbers comes back
unchanged. -/
theorem reread_eq_self_iff : p.reread = p ↔ p.ReadsBack := by
  have instructions : p.reread = p ↔ p.instructions.map Instruction.reread = p.instructions :=
    ⟨fun same => congrArg Program.instructions same,
      fun same => congrArg (fun is => ({ p with instructions := is } : Program A)) same⟩
  have each : ∀ i : Instruction A, i.reread = i ↔ i.op.ReadsBack := fun i =>
    ⟨fun same => Op.reread_eq_self_iff.mp (congrArg Instruction.op same),
      fun back => congrArg (fun op => ({ i with op } : Instruction A))
        (Op.reread_eq_self_iff.mpr back)⟩
  have unchanged : p.instructions.map Instruction.reread = p.instructions.map id ↔ p.ReadsBack :=
    Array.map_inj_left.trans (forall₂_congr fun i _ => each i)
  rw [instructions, ← unchanged, Array.map_id]

theorem readsBack (back : A.ReadsBack) (p : Program A) : p.ReadsBack := by
  intro i _
  cases i.op with
  | scale input factor => exact fun f => back.eq_of_rereadWide?
  | unet sample conditioning timestep => exact fun t => back.eq_of_reread?
  | noise | slice | add | sub | concat => trivial

end Program

end Diffusion
