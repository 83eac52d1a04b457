import Diffusion.Program.Encoding
import Diffusion.Proofs.Json.Reading

/-!
Programs read back from their text.

Reading what was written of a program may fail, as for a number that JSON has no numeral for or for
an id beyond a word. Otherwise it answers with the program that was written, but for its numbers,
each of which is what its numeral is read as. Main statement: `decode_encode`.
-/

namespace Diffusion

namespace Json

/-- What is read of a written value, if anything, is what becomes of the value. -/
def Restores {α : Type} (write : α → Json) (read : Json → Option α) (become : α → α) : Prop :=
  ∀ x y, read (write x) = some y → y = become x

/-- What is read of a written value, if anything, is that value. -/
def Faithful {α : Type} (write : α → Json) (read : Json → Option α) : Prop :=
  ∀ x y, read (write x) = some y → y = x

variable {α : Type} {write : α → Json} {read : Json → Option α}

theorem Restores.asList? {become : α → α} (restores : Restores write read become) :
    Restores (fun xs : List α => .array (xs.map write)) (asList? read) (List.map become) := by
  intro xs
  induction xs with
  | nil =>
      intro ys decoded
      cases decoded
      rfl
  | cons x xs ih =>
      intro ys decoded
      simp only [Json.asList?, List.map_cons, List.mapM_cons, Option.bind_eq_bind,
        Option.bind_eq_some_iff, Option.pure_def, Option.some.injEq] at decoded
      obtain ⟨y, first, others, rest, rfl⟩ := decoded
      rw [restores x y first, ih others rest, List.map_cons]

theorem Faithful.asList? (faithful : Faithful write read) :
    Faithful (fun xs : List α => .array (xs.map write)) (asList? read) := fun xs ys decoded =>
  (Restores.asList? faithful xs ys decoded).trans (List.map_id xs)

theorem faithful_nat : Faithful nat asWord? := by
  intro n m decoded
  change ((Numeral.natOfDigits? (String.ofList (Nat.toDigits 10 n)).toList).filter _) = some m
    at decoded
  rw [String.toList_ofList, Numeral.natOfDigits?_toDigits] at decoded
  exact (Option.some.inj (Option.filter_eq_some_iff.mp decoded).1).symm

theorem asNumber?_ofNumeral (read : String → Option α) (numeral? : Option String) :
    asNumber? read (ofNumeral? numeral?) = numeral?.bind read := by
  cases numeral? <;> rfl

theorem isWritable_ofNumeral {numeral? : α → Option String}
    (numerals : ∀ x s, numeral? x = some s → IsNumeral s) (x : α) :
    (ofNumeral? (numeral? x)).IsWritable := by
  cases written : numeral? x with
  | none => trivial
  | some s => exact numerals x s written

end Json

open Json

theorem Shape.faithful : Faithful toJson ofJson? := faithful_nat.asList?

theorem Shape.isWritable_toJson (s : Shape) : s.toJson.IsWritable :=
  areWritable_map fun n _ => isWritable_nat n

theorem Half.faithful : Faithful (fun half : Half => .string half.text) ofJson? := by
  intro half other decoded
  cases half <;>
  · change some _ = some other at decoded
    exact (Option.some.inj decoded).symm

namespace ProgramInput

theorem ofJson?_toJson (input : ProgramInput) :
    ofJson? input.toJson =
      (Shape.ofJson? input.shape.toJson).bind fun shape => some ⟨input.name, shape⟩ := rfl

theorem faithful : Faithful toJson ofJson? := by
  intro input other decoded
  rw [ofJson?_toJson, Option.bind_eq_some_iff] at decoded
  obtain ⟨shape, shapeRead, ⟨⟩⟩ := decoded
  rw [Shape.faithful _ _ shapeRead]

theorem isWritable_toJson (input : ProgramInput) : input.toJson.IsWritable :=
  ⟨trivial, input.shape.isWritable_toJson, trivial⟩

end ProgramInput

variable {A : Arithmetic}

namespace Op

theorem kind?_toJson (op : Op A) :
    kind? op.toJson = some (op.mnemonic, .object op.fieldsJson) := by
  cases op <;> rfl

/-- The operation put together again from its fields, each as it is read. -/
def reassembled? : Op A → Option (Op A)
  | scale input factor => do return scale (← asWord? (.nat input)) (← A.rereadWide? factor)
  | add lhs rhs => do return add (← asWord? (.nat lhs)) (← asWord? (.nat rhs))
  | sub lhs rhs => do return sub (← asWord? (.nat lhs)) (← asWord? (.nat rhs))
  | concat lhs rhs => do return concat (← asWord? (.nat lhs)) (← asWord? (.nat rhs))
  | slice input half => do
    return slice (← asWord? (.nat input)) (← Half.ofJson? (.string half.text))
  | noise like seed => do
    return noise (← asWord? (.nat like)) (.ofNat (← asWord? (.nat seed.toNat)))
  | unet sample conditioning timestep => do
    let s ← asWord? (.nat sample)
    let c ← asWord? (.nat conditioning)
    return unet s c (← A.reread? timestep)

theorem ofJson?_toJson (op : Op A) :
    ofJson? op.toJson =
      if op.toJson.isReadable (maxNesting - 3) then op.reassembled? else none := by
  rw [ofJson?, kind?_toJson]
  refine if_congr Iff.rfl ?_ rfl
  cases op with
  | scale input factor =>
      rw [reassembled?, Arithmetic.rereadWide?, ← asNumber?_ofNumeral]
      rfl
  | unet sample conditioning timestep =>
      rw [reassembled?, Arithmetic.reread?, ← asNumber?_ofNumeral]
      rfl
  | add | sub | concat | slice | noise => rfl

/-- The operation with its number, if it has one, as that comes back through JSON. -/
def reread : Op A → Op A
  | scale input factor => scale input ((A.rereadWide? factor).getD factor)
  | unet sample conditioning timestep =>
    unet sample conditioning ((A.reread? timestep).getD timestep)
  | op => op

theorem reread_eq_of_reassembled? {op other : Op A} (whole : op.reassembled? = some other) :
    other = op.reread := by
  cases op with
  | scale input factor =>
      obtain ⟨i, inputRead, rest⟩ := Option.bind_eq_some_iff.mp whole
      obtain ⟨f, came, ⟨⟩⟩ := Option.bind_eq_some_iff.mp rest
      rw [faithful_nat _ _ inputRead, reread, came, Option.getD_some]
  | add lhs rhs | sub lhs rhs | concat lhs rhs =>
      obtain ⟨l, lhsRead, rest⟩ := Option.bind_eq_some_iff.mp whole
      obtain ⟨r, rhsRead, ⟨⟩⟩ := Option.bind_eq_some_iff.mp rest
      rw [faithful_nat _ _ lhsRead, faithful_nat _ _ rhsRead]
      rfl
  | slice input half =>
      obtain ⟨i, inputRead, rest⟩ := Option.bind_eq_some_iff.mp whole
      obtain ⟨h, halfRead, ⟨⟩⟩ := Option.bind_eq_some_iff.mp rest
      rw [faithful_nat _ _ inputRead, Half.faithful _ _ halfRead]
      rfl
  | noise like seed =>
      obtain ⟨l, likeRead, rest⟩ := Option.bind_eq_some_iff.mp whole
      obtain ⟨s, seedRead, ⟨⟩⟩ := Option.bind_eq_some_iff.mp rest
      rw [faithful_nat _ _ likeRead, faithful_nat _ _ seedRead, UInt64.ofNat_toNat]
      rfl
  | unet sample conditioning timestep =>
      obtain ⟨s, sampleRead, rest⟩ := Option.bind_eq_some_iff.mp whole
      obtain ⟨c, conditioningRead, rest⟩ := Option.bind_eq_some_iff.mp rest
      obtain ⟨t, came, ⟨⟩⟩ := Option.bind_eq_some_iff.mp rest
      rw [faithful_nat _ _ sampleRead, faithful_nat _ _ conditioningRead, reread, came,
        Option.getD_some]

theorem restores : Restores toJson (ofJson? (A := A)) reread := by
  intro op other decoded
  rw [ofJson?_toJson] at decoded
  split at decoded
  · exact reread_eq_of_reassembled? decoded
  · cases decoded

theorem isWritable_toJson (numerals : A.WritesNumerals) (op : Op A) : op.toJson.IsWritable := by
  have element : ∀ x, (ofNumeral? (A.text.json? x)).IsWritable := isWritable_ofNumeral numerals.1
  have wide : ∀ x, (ofNumeral? (A.text.wideJson? x)).IsWritable := isWritable_ofNumeral numerals.2
  refine ⟨trivial, ?_⟩
  cases op with
  | scale input factor => exact ⟨isWritable_nat _, wide factor, trivial⟩
  | noise like seed => exact ⟨isWritable_nat _, isWritable_nat _, trivial⟩
  | slice input half => exact ⟨isWritable_nat _, trivial, trivial⟩
  | add lhs rhs | sub lhs rhs | concat lhs rhs =>
      exact ⟨isWritable_nat _, isWritable_nat _, trivial⟩
  | unet sample conditioning timestep =>
      exact ⟨isWritable_nat _, isWritable_nat _, element timestep, trivial⟩

end Op

namespace Instruction

theorem ofJson?_toJson (i : Instruction A) :
    (ofJson? i.toJson : Option (Instruction A)) =
      (Op.ofJson? i.op.toJson).bind fun op =>
        (Shape.ofJson? i.shape.toJson).bind fun shape => some ⟨op, shape⟩ := rfl

def reread (i : Instruction A) : Instruction A := { i with op := i.op.reread }

theorem restores : Restores toJson (ofJson? (A := A)) reread := by
  intro i other decoded
  simp only [ofJson?_toJson, Option.bind_eq_some_iff] at decoded
  obtain ⟨op, opRead, shape, shapeRead, ⟨⟩⟩ := decoded
  rw [Op.restores _ _ opRead, Shape.faithful _ _ shapeRead]
  rfl

theorem isWritable_toJson (numerals : A.WritesNumerals) (i : Instruction A) :
    i.toJson.IsWritable :=
  ⟨i.op.isWritable_toJson numerals, i.shape.isWritable_toJson, trivial⟩

end Instruction

namespace Program

theorem ofJson?_toJson (p : Program A) :
    (ofJson? p.toJson : Option (Program A)) =
      (asList? ProgramInput.ofJson? (.array (p.inputs.toList.map ProgramInput.toJson))).bind
        fun inputs =>
          (asList? Instruction.ofJson? (.array (p.instructions.toList.map Instruction.toJson))).bind
            fun instructions =>
              (asWord? (.nat p.output)).bind fun output =>
                some ⟨inputs.toArray, instructions.toArray, output⟩ := rfl

/-- The program with its numbers as they come back through JSON. -/
def reread (p : Program A) : Program A :=
  { p with instructions := p.instructions.map Instruction.reread }

theorem restores : Restores toJson (ofJson? (A := A)) reread := by
  intro p q decoded
  simp only [ofJson?_toJson, Option.bind_eq_some_iff] at decoded
  obtain ⟨inputs, inputsRead, instructions, instructionsRead, output, outputRead, ⟨⟩⟩ := decoded
  rw [ProgramInput.faithful.asList? _ _ inputsRead,
    Instruction.restores.asList? _ _ instructionsRead, faithful_nat _ _ outputRead, reread,
    ← Array.toList_map]

theorem isWritable_toJson (numerals : A.WritesNumerals) (p : Program A) : p.toJson.IsWritable :=
  ⟨areWritable_map fun input _ => input.isWritable_toJson,
    areWritable_map fun i _ => i.isWritable_toJson numerals, isWritable_nat p.output, trivial⟩

theorem parse?_encode (numerals : A.WritesNumerals) (p : Program A) :
    parse? p.encode = some p.toJson := by
  have read := parse?_text (isWritable_toJson numerals p) fun _ none => absurd none List.not_mem_nil
  rwa [String.ofList_nil, String.append_empty] at read

/-- A program that is read back from its text is the program that was written, with its numbers as
they come back. -/
theorem decode_encode (numerals : A.WritesNumerals) {p q : Program A}
    (decoded : decode p.encode = .ok q) : q = p.reread := by
  unfold decode at decoded
  rw [parse?_encode numerals, Option.bind_some] at decoded
  split at decoded
  · rename_i read
    rw [← Except.ok.inj decoded]
    exact restores p _ read
  · cases decoded

theorem decode_encode_of_isSome (numerals : A.WritesNumerals) {p : Program A}
    (stands : (ofJson? p.toJson : Option (Program A)).isSome) :
    decode p.encode = .ok p.reread := by
  obtain ⟨q, read⟩ := Option.isSome_iff_exists.mp stands
  rw [decode, parse?_encode numerals, Option.bind_some, read, restores p q read]

end Program

end Diffusion
