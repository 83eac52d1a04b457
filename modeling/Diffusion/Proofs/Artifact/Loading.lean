import Diffusion.Proofs.Artifact.Parsing
import Diffusion.Proofs.Parameters.Archive
import Diffusion.Proofs.Program.Counting
import Diffusion.Proofs.Program.Decoding
import Diffusion.Proofs.Trace.Guidance

/-!
Which artifacts can be loaded.

Everything that the compiler writes into an artifact is read back, but for programs with a number
that JSON has no finite numeral for: such a program passes every check of the compiler and its
artifact none of the loader's. Main statement: `parse_of_compile`.
-/

namespace Diffusion

open Halt (wordLimit)

theorem Device.ofJson?_text (d : Device) : ofJson? (.string d.text) = some d := by
  cases d <;> rfl

namespace TargetSpec

theorem ofJson?_toJson {t : TargetSpec} (word : t.maxAllocation < wordLimit) :
    ofJson? t.toJson = some t := by
  have triple : Json.asOptional? Json.asString? (.ofOption .string t.triple) = some t.triple := by
    cases t.triple <;> rfl
  change (Device.ofJson? (.string t.device.text)).bind (fun device =>
    (Json.asOptional? Json.asString? (.ofOption .string t.triple)).bind fun triple =>
      (Json.asWord? (.nat t.maxAllocation)).bind fun ceiling =>
        some (⟨device, triple, ceiling⟩ : TargetSpec)) = _
  rw [Device.ofJson?_text, triple, Json.asWord?_nat word]
  rfl

theorem parse?_text {t : TargetSpec} (word : t.maxAllocation < wordLimit) :
    (Json.parse? t.toJson.text).bind ofJson? = some t := by
  have triple : (Json.ofOption Json.string t.triple).IsWritable := by
    cases t.triple <;> trivial
  have writable : t.toJson.IsWritable := ⟨trivial, triple, Json.isWritable_nat _, trivial⟩
  have read := Json.parse?_text writable fun _ none => absurd none List.not_mem_nil
  rw [String.ofList_nil, String.append_empty] at read
  rw [read, Option.bind_some, ofJson?_toJson word]

end TargetSpec

namespace Manifest

variable {A : Arithmetic}

/-- Whether the numbers in the texts of a manifest are words: those of its program, the ceiling, the
peak, and the sizes of its weights. -/
structure Words (m : Manifest A) : Prop where
  program : m.program.NamesWords
  ceiling : m.target.maxAllocation < wordLimit
  peak : m.peakBytes < wordLimit
  sizes : ∀ e ∈ m.weights, e.size < wordLimit

/-- A manifest with a checked program is read back, if the program has finite numerals. -/
theorem ofTexts_of_written (readable : A.ReadsNumerals) (numerals : A.WritesNumerals)
    {m : Manifest A} (valid : m.program.Valid)
    (keys : ∀ e ∈ m.weights, e.key ∈ Parameters.allowedKeys) (words : m.Words)
    (written : m.program.Written) : ofTexts m.toTexts = .ok m.reread :=
  ofTexts_toTexts (Program.decode_encode_of_written readable numerals words.program written) valid
    (ParameterEntry.decodeAll?_encodeAll words.sizes) (ParameterEntry.checkKeys_eq_ok_iff.mpr keys)
    (TargetSpec.parse?_text words.ceiling) (Numeral.unsigned?_toString words.peak)

theorem ofTexts_of_unwritten (numerals : A.WritesNumerals) {m : Manifest A}
    (unwritten : ¬ m.program.Written) :
    (ofTexts m.toTexts : Except Halt (Manifest A)) =
      Halt.fail (.malformedProgram "the text is no program") := by
  have formatText : field m.toTexts "format" = .ok format := rfl
  have programText : field m.toTexts "program" = .ok m.program.encode := rfl
  unfold ofTexts
  simp only [formatText, programText, Program.decode_encode_of_unwritten numerals unwritten,
    Halt.ofResult, Except.mapError, bind, Except.bind, ne_eq, not_true_eq_false, if_false]
  rfl

end Manifest

namespace Artifact

variable {A : Arithmetic}

/-- Whether the numbers of a request are words: the ids and extents of its program, the ceiling, and
the bytes of its parameters. -/
structure Request.Words (r : Request A) : Prop where
  program : r.program.Words
  ceiling : r.target.maxAllocation < wordLimit
  parameters : r.parameters.totalBytes < wordLimit

/-- The parameters that are inside the artifact of a request. -/
def Request.held? (r : Request A) : Option Parameters :=
  match r.weightsMode with
  | .inside => some r.parameters
  | .outside => none

theorem peak_lt_of_ok {p : Program A} (typed : p.WellTyped) {peak : Nat}
    (counted : p.peakLiveBytes = .ok peak) : peak < wordLimit := by
  have counts := Program.peakLiveBytes_counts typed
  by_cases countable : p.Countable
  · rw [counts.exact countable] at counted
    cases counted
    exact countable.2
  · rw [counts.overflows countable] at counted
    cases counted

theorem mem_stored {r : Request A} {b : String × ByteArray} (member : b ∈ r.inside) :
    ∃ blob ∈ r.parameters.blobs, b = (Parameters.storageName blob.1, blob.2) := by
  unfold Request.inside at member
  split at member
  · obtain ⟨blob, found, rfl⟩ := List.mem_map.mp member
    exact ⟨blob, found, rfl⟩
  · cases member

theorem sizeOf_inside_le (r : Request A) :
    Container.sizeOf r.inside ≤ r.parameters.totalBytes := by
  rw [Request.inside]
  split
  · exact Nat.le_of_eq r.parameters.sizeOf_stored
  · exact Nat.zero_le _

theorem nodup_inside {r : Request A}
    (keys : ∀ b ∈ r.parameters.blobs, b.1 ∈ Parameters.allowedKeys) :
    (r.inside.map (·.1)).Nodup := by
  unfold Request.inside
  split
  · exact Parameters.nodup_stored keys
  · exact List.nodup_nil

/-- Nothing but the length of the header keeps an accepted request from being compiled. -/
theorem exists_compile {r : Request A} {m : Manifest A}
    (keys : ∀ b ∈ r.parameters.blobs, b.1 ∈ Parameters.allowedKeys) (checked : manifestOf r = .ok m)
    (short : (Container.headerOf r.inside m.toTexts).size ≤ Container.maxHeader) :
    ∃ bytes, compile r = .ok ⟨m, bytes⟩ := by
  have fits := Nat.lt_of_le_of_lt short (show Container.maxHeader < wordLimit by decide)
  have wrote := Container.write_eq_ok_iff.mpr ⟨nodup_inside keys, fits, rfl⟩
  exact ⟨_, Halt.bind_eq_ok_iff.mpr ⟨m, checked, Halt.bind_eq_ok_iff.mpr ⟨_, wrote, rfl⟩⟩⟩

theorem sum_layOut_inside_le {r : Request A}
    (keys : ∀ b ∈ r.parameters.blobs, b.1 ∈ Parameters.allowedKeys) (words : r.Words) :
    ((Container.layOut 0 (r.inside.mergeSort fun a b => decide (a.1 ≤ b.1))).map fun tensor =>
      6 * tensor.1.length + tensor.2.toJson.lengthBound + 4).sum ≤ 2000 := by
  unfold Request.inside
  split
  · exact Parameters.sum_layOut_stored_le keys words.parameters
  · rw [List.mergeSort_nil]
    exact Nat.zero_le _

/-- The header of an artifact is hardly longer than the texts of its program and its target. -/
theorem short_of_lengths {r : Request A} {m : Manifest A} (checked : manifestOf r = .ok m)
    (keys : ∀ b ∈ r.parameters.blobs, b.1 ∈ Parameters.allowedKeys) (words : r.Words)
    (texts : r.program.encode.length + r.target.toJson.text.length ≤ 1000000) :
    (Container.headerOf r.inside m.toTexts).size ≤ Container.maxHeader := by
  have bound := m.size_headerOf_toTexts_le r.inside
  have creator : Manifest.creator.length ≤ 100 := by decide +kernel
  have mode : m.weightsMode.text.length ≤ 100 := by cases m.weightsMode <;> decide +kernel
  have tensors := sum_layOut_inside_le keys words
  have entries := Parameters.length_encodeAll_le keys words.parameters
  obtain ⟨valid, peak, counted, rfl⟩ := manifestOf_eq_ok checked
  have digits := Json.lengthBound_nat_le
    (peak_lt_of_ok (r.program.valid_iff_wellTyped.mp valid) counted)
  have peakLength : (toString peak).length = (Json.nat peak).lengthBound := rfl
  dsimp only at *
  rw [Container.maxHeader]
  omega

theorem key_of_mem_entries {p : Parameters} (keys : ∀ b ∈ p.blobs, b.1 ∈ Parameters.allowedKeys)
    {e : ParameterEntry} (member : e ∈ p.entries) : e.key ∈ Parameters.allowedKeys := by
  obtain ⟨b, found, rfl⟩ := List.mem_map.mp member
  exact keys b found

theorem Request.Words.manifest {r : Request A} (words : r.Words) {m : Manifest A}
    (checked : manifestOf r = .ok m) : m.Words := by
  obtain ⟨valid, peak, counted, rfl⟩ := manifestOf_eq_ok checked
  have typed := r.program.valid_iff_wellTyped.mp valid
  refine ⟨typed.namesWords words.program, words.ceiling, peak_lt_of_ok typed counted, ?_⟩
  intro e member
  obtain ⟨b, found, rfl⟩ := List.mem_map.mp member
  exact Nat.lt_of_le_of_lt (Parameters.size_le_totalBytes found) words.parameters

theorem restored_of_written (readable : A.ReadsNumerals) (numerals : A.WritesNumerals)
    {r : Request A} (keys : ∀ b ∈ r.parameters.blobs, b.1 ∈ Parameters.allowedKeys)
    (words : r.Words) (written : r.program.Written) {m : Manifest A}
    (checked : manifestOf r = .ok m) : Manifest.ofTexts m.toTexts = .ok m.reread := by
  have wordsToo := words.manifest checked
  obtain ⟨valid, peak, counted, rfl⟩ := manifestOf_eq_ok checked
  exact Manifest.ofTexts_of_written readable numerals valid (fun _ => key_of_mem_entries keys)
    wordsToo written

section

variable {r : Request A} (keys : ∀ b ∈ r.parameters.blobs, b.1 ∈ Parameters.allowedKeys)
  (words : r.Words) {artifact : Artifact A} (compiled : compile r = .ok artifact)
  (short : (Container.headerOf r.inside artifact.manifest.toTexts).size ≤ Container.maxHeader)

include compiled in
theorem manifestOf_of_compile : manifestOf r = .ok artifact.manifest := by
  obtain ⟨m, checked, packed⟩ := Halt.bind_eq_ok_iff.mp compiled
  obtain ⟨bytes, -, ⟨⟩⟩ := Halt.bind_eq_ok_iff.mp packed
  exact checked

include keys words compiled short

/-- The container of an artifact is read back with all that is in it. -/
theorem exists_container : ∃ c, Container.read artifact.bytes = .ok c ∧
    c.metadata = some artifact.manifest.toTexts ∧
    ∀ name data, (name, data) ∈ r.inside → c.tensor name = .ok data := by
  obtain ⟨m, checked, packed⟩ := Halt.bind_eq_ok_iff.mp compiled
  obtain ⟨bytes, wrote, ⟨⟩⟩ := Halt.bind_eq_ok_iff.mp packed
  refine Container.read_write wrote ?_ ?_ short
  · intro b member
    obtain ⟨blob, found, rfl⟩ := mem_stored member
    exact Parameters.storageName_ne_metadataKey (keys blob found)
  · exact Nat.lt_of_le_of_lt (sizeOf_inside_le r) words.parameters

theorem parse_of_restored
    (restored : Manifest.ofTexts artifact.manifest.toTexts = .ok artifact.manifest.reread) :
    parse artifact.bytes = .ok (artifact.manifest.reread, r.held?) := by
  obtain ⟨c, reads, texts, tensors⟩ := exists_container keys words compiled short
  obtain ⟨-, peak, -, made⟩ := manifestOf_eq_ok (manifestOf_of_compile compiled)
  have entries : artifact.manifest.reread.weights = r.parameters.entries := by rw [made]; rfl
  have sameMode : artifact.manifest.reread.weightsMode = r.weightsMode := by rw [made]; rfl
  rw [parse_of_read reads texts, restored, Halt.bind_ok, sameMode, entries, Request.held?]
  cases mode : r.weightsMode with
  | inside =>
      have stored : r.inside = r.parameters.stored := by rw [Request.inside, mode]
      rw [stored] at tensors
      dsimp only
      rw [Parameters.ofContainer_entries keys tensors]
      rfl
  | outside => rfl

theorem parse_of_refused {h : Halt}
    (refused : (Manifest.ofTexts artifact.manifest.toTexts : Except Halt (Manifest A)) = .error h) :
    parse (A := A) artifact.bytes = .error h := by
  obtain ⟨c, reads, texts, -⟩ := exists_container keys words compiled short
  rw [parse_of_read reads texts, refused]
  rfl

theorem parse_of_unwritten (numerals : A.WritesNumerals) (unwritten : ¬ r.program.Written) :
    parse (A := A) artifact.bytes = Halt.fail (.malformedProgram "the text is no program") := by
  obtain ⟨-, peak, -, made⟩ := manifestOf_eq_ok (manifestOf_of_compile compiled)
  have program : artifact.manifest.program = r.program := by rw [made]
  exact parse_of_refused keys words compiled short
    (Manifest.ofTexts_of_unwritten numerals (program ▸ unwritten))

end

/-- The manifest of a request comes back unchanged exactly if each number of its program does. -/
theorem reread_manifest_eq_self_iff {r : Request A} {m : Manifest A}
    (checked : manifestOf r = .ok m) : m.reread = m ↔ r.program.ReadsBack := by
  obtain ⟨-, peak, -, rfl⟩ := manifestOf_eq_ok checked
  rw [← Program.reread_eq_self_iff]
  exact ⟨fun same => congrArg Manifest.program same,
    fun same => congrArg (fun p => ({ program := p, .. } : Manifest A)) same⟩

/-- What has to have a finite numeral for the program of a traced loop to be read back includes the
guidance. -/
theorem finite_guidance_of_written {scheduler : Scheduler A Value} {shapes : InputShapes}
    {guidance : A.Elem} {p : Program A}
    (traced : (Trace.sample scheduler shapes guidance).program = .ok p) (written : p.Written) :
    Numeral.isFinite (A.text.wideJson? (A.widen guidance)) = true := by
  obtain ⟨i, member, v, scales⟩ := Trace.exists_scale_guidance traced
  have finite := written i member
  rwa [scales] at finite

/-- An artifact can be loaded exactly if all numbers of its program have finite numerals. Then all
of it is read back, unchanged if its numbers are, and otherwise the program is refused, whatever the
compiler accepted. In particular the artifact of a traced loop is refused if its guidance has no
finite numeral. -/
theorem parse_of_compile (readable : A.ReadsNumerals) (numerals : A.WritesNumerals) {r : Request A}
    (keys : ∀ b ∈ r.parameters.blobs, b.1 ∈ Parameters.allowedKeys) (words : r.Words)
    {artifact : Artifact A} (compiled : compile r = .ok artifact)
    (short : (Container.headerOf r.inside artifact.manifest.toTexts).size ≤ Container.maxHeader) :
    let refused := Halt.fail (.malformedProgram "the text is no program")
    (r.program.Written → parse artifact.bytes = .ok (artifact.manifest.reread, r.held?)) ∧
      (artifact.manifest.reread = artifact.manifest ↔ r.program.ReadsBack) ∧
      (¬ r.program.Written → parse (A := A) artifact.bytes = refused) ∧
      ∀ (scheduler : Scheduler A Value) (shapes : InputShapes) (guidance : A.Elem),
        (Trace.sample scheduler shapes guidance).program = .ok r.program →
        Numeral.isFinite (A.text.wideJson? (A.widen guidance)) = false →
          parse (A := A) artifact.bytes = refused := by
  have refuses := parse_of_unwritten keys words compiled short numerals
  have checked := manifestOf_of_compile compiled
  refine ⟨fun written => ?_, reread_manifest_eq_self_iff checked, refuses,
    fun scheduler shapes guidance traced infinite => ?_⟩
  · exact parse_of_restored keys words compiled short
      (restored_of_written readable numerals keys words written checked)
  · refine refuses fun written => ?_
    rw [finite_guidance_of_written traced written] at infinite
    cases infinite

/-! ### Numbers without a numeral -/

/-- Whole numbers with numerals for those below a million only. The others are like the infinite
numbers of an arithmetic that rounds. -/
@[reducible] def capped : Arithmetic :=
  let numeral? (x : Int) := if x.natAbs < 1000000 then some (Numeral.integerText x) else none
  { whole with text := { wholeText with json? := numeral?, wideJson? := numeral? } }

theorem of_cappedNumeral {x : Int} {s : String}
    (written : (if x.natAbs < 1000000 then some (Numeral.integerText x) else none) = some s) :
    Numeral.integerText x = s := by
  split at written
  · exact Option.some.inj written
  · cases written

theorem capped_readsBack : capped.ReadsBack := by
  constructor <;>
  · intro x s written
    rw [← of_cappedNumeral written]
    exact Numeral.integer?_integerText x

theorem capped_writesNumerals : capped.WritesNumerals := by
  constructor <;>
  · intro x s written
    rw [← of_cappedNumeral written]
    exact Json.isNumeral_integerText x

def cappedNoiseless : ScheduleConfig capped := { noiseless with }

def smallGraph : Parameters :=
  ⟨[(Parameters.graphKey, ⟨#[1, 2, 3]⟩)], List.pairwise_singleton _ _⟩

/-- A loop of one step without noise, with that network, wherever it is kept. -/
theorem exists_within_capped {guidance : Int} (either : guidance ∈ [2, 1000000]) :
    ∃ (scheduler : Scheduler capped Value) (p : Program capped) (peak : Nat),
      Scheduler.planned .ddim cappedNoiseless 0 1 = .ok scheduler ∧
      (Trace.sample scheduler ⟨1, 8, 8, 1⟩ guidance).program = .ok p ∧
      p.Valid ∧ p.peakLiveBytes = .ok peak ∧ peak ≤ TargetSpec.default.maxAllocation ∧
      (p.Written ↔ guidance < 1000000) ∧
      (∀ mode, Request.Words ⟨p, .default, smallGraph, mode⟩) ∧
      ∀ mode m, manifestOf ⟨p, .default, smallGraph, mode⟩ = .ok m →
        (Container.headerOf (Request.inside ⟨p, .default, smallGraph, mode⟩) m.toTexts).size ≤
          Container.maxHeader := by
  have computed : ∀ guidance ∈ [2, 1000000], (do
      let scheduler ← Scheduler.planned .ddim cappedNoiseless 0 1
      let p ← (Trace.sample scheduler ⟨1, 8, 8, 1⟩ (guidance : Int)).program
      p.validate
      let peak ← p.peakLiveBytes
      return decide ((p.Written ↔ guidance < 1000000) ∧ p.numValues ≤ wordLimit ∧
        (∀ s ∈ p.shapes, ∀ n ∈ s, n < wordLimit) ∧ (p.toJson.write []).length ≤ 2000 ∧
          peak ≤ TargetSpec.default.maxAllocation) : Except Halt Bool).toOption = some true := by
    decide +kernel
  obtain ⟨scheduler, planned, rest⟩ :=
    Halt.bind_eq_ok_iff.mp (Halt.toOption_eq_some_iff.mp (computed guidance either))
  obtain ⟨p, traced, rest⟩ := Halt.bind_eq_ok_iff.mp rest
  obtain ⟨_, valid, rest⟩ := Halt.bind_eq_ok_iff.mp rest
  obtain ⟨peak, counted, measured⟩ := Halt.bind_eq_ok_iff.mp rest
  obtain ⟨written, ids, extents, text, within⟩ := of_decide_eq_true (Except.ok.inj measured)
  have texts : p.encode.length + TargetSpec.default.toJson.text.length ≤ 1000000 := by
    have target : (TargetSpec.default.toJson.write []).length ≤ 1000 := by decide +kernel
    rw [Program.encode, Json.text, Json.text, String.length_ofList, String.length_ofList]
    omega
  have keys : ∀ b ∈ smallGraph.blobs, b.1 ∈ Parameters.allowedKeys := by decide
  have ceiling : TargetSpec.default.maxAllocation < wordLimit := by decide
  have parameters : smallGraph.totalBytes < wordLimit := by decide
  have words : ∀ mode, Request.Words ⟨p, .default, smallGraph, mode⟩ :=
    fun _ => ⟨⟨ids, extents⟩, ceiling, parameters⟩
  exact ⟨scheduler, p, peak, planned, traced, valid, counted, within, written, words,
    fun mode m checked => short_of_lengths checked keys (words mode) texts⟩

/-- That loop with the network inside the artifact. -/
theorem exists_compile_capped {guidance : Int} (either : guidance ∈ [2, 1000000]) :
    ∃ (scheduler : Scheduler capped Value) (p : Program capped) (artifact : Artifact capped),
      let r : Request capped := ⟨p, .default, smallGraph, .inside⟩
      Scheduler.planned .ddim cappedNoiseless 0 1 = .ok scheduler ∧
      (Trace.sample scheduler ⟨1, 8, 8, 1⟩ guidance).program = .ok p ∧
      compile r = .ok artifact ∧ r.Words ∧ (p.Written ↔ guidance < 1000000) ∧
      (Container.headerOf r.inside artifact.manifest.toTexts).size ≤ Container.maxHeader := by
  obtain ⟨scheduler, p, peak, planned, traced, valid, counted, within, written, words, short⟩ :=
    exists_within_capped either
  have keys : ∀ b ∈ smallGraph.blobs, b.1 ∈ Parameters.allowedKeys := by decide
  have checked : manifestOf ⟨p, .default, smallGraph, .inside⟩ = .ok _ :=
    manifestOf_of_within valid counted within
  obtain ⟨bytes, compiled⟩ := exists_compile keys checked (short .inside _ checked)
  exact ⟨scheduler, p, _, planned, traced, compiled, words .inside, written,
    short .inside _ checked⟩

theorem parse_of_compile_capped : ∃ (p : Program capped) (artifact : Artifact capped),
    p.Written ∧ compile ⟨p, .default, smallGraph, .inside⟩ = .ok artifact ∧
      parse artifact.bytes = .ok (artifact.manifest, some smallGraph) := by
  obtain ⟨-, p, artifact, -, -, compiled, words, finite, short⟩ :=
    exists_compile_capped (show 2 ∈ [2, 1000000] by decide)
  have written := finite.mpr (by decide)
  have keys : ∀ b ∈ smallGraph.blobs, b.1 ∈ Parameters.allowedKeys := by decide
  obtain ⟨loads, unchanged, -⟩ := parse_of_compile capped_readsBack.readsNumerals
    capped_writesNumerals keys words compiled short
  have parsed := loads written
  rw [unchanged.mpr (p.readsBack capped_readsBack)] at parsed
  exact ⟨p, artifact, written, compiled, parsed⟩

/-- A loop whose guidance has no numeral is compiled, and its artifact cannot be loaded. -/
theorem parse_endlessGuidance :
    ∃ (scheduler : Scheduler capped Value) (p : Program capped) (artifact : Artifact capped),
      Scheduler.planned .ddim cappedNoiseless 0 1 = .ok scheduler ∧
      (Trace.sample scheduler ⟨1, 8, 8, 1⟩ (1000000 : Int)).program = .ok p ∧
      compile ⟨p, .default, smallGraph, .inside⟩ = .ok artifact ∧
      parse (A := capped) artifact.bytes =
        Halt.fail (.malformedProgram "the text is no program") := by
  obtain ⟨scheduler, p, artifact, planned, traced, compiled, words, finite, short⟩ :=
    exists_compile_capped (show 1000000 ∈ [2, 1000000] by decide)
  have keys : ∀ b ∈ smallGraph.blobs, b.1 ∈ Parameters.allowedKeys := by decide
  refine ⟨scheduler, p, artifact, planned, traced, compiled,
    parse_of_unwritten keys words compiled short capped_writesNumerals fun written => ?_⟩
  exact absurd (finite.mp written) (by decide)

end Artifact

end Diffusion
