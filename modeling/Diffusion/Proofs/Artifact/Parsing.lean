import Diffusion.Artifact
import Diffusion.Proofs.Container.Texts
import Diffusion.Proofs.Program.Rereading

/-!
Artifacts read back.

Main statement: `program_of_parse`, by which an artifact that is read holds the program that it was
compiled from, with its numbers as they come back, wherever its parameters are.
-/

namespace Diffusion

namespace Manifest

variable {A : Arithmetic}

theorem program_of_ofTexts {texts : List (String × String)} {m : Manifest A}
    (reads : ofTexts texts = .ok m) :
    (∃ text, Container.text? texts "program" = some text ∧
      Program.decode text = .ok m.program) ∧ m.program.Valid := by
  obtain ⟨found, -, rest⟩ := Halt.bind_eq_ok_iff.mp reads
  dsimp only at rest
  split at rest
  · obtain ⟨_, impossible, -⟩ := Halt.bind_eq_ok_iff.mp rest
    cases impossible
  obtain ⟨program, decodes, rest⟩ := Halt.bind_eq_ok_iff.mp rest
  obtain ⟨_, valid, rest⟩ := Halt.bind_eq_ok_iff.mp rest
  obtain ⟨weights, -, rest⟩ := Halt.bind_eq_ok_iff.mp rest
  obtain ⟨-, -, rest⟩ := Halt.bind_eq_ok_iff.mp rest
  obtain ⟨target, -, rest⟩ := Halt.bind_eq_ok_iff.mp (Halt.ofResult_eq_ok_iff.mp rest)
  obtain ⟨peak, -, rest⟩ := Halt.bind_eq_ok_iff.mp rest
  obtain ⟨mode, -, same⟩ := Halt.bind_eq_ok_iff.mp rest
  cases same
  obtain ⟨text, named, decoded⟩ := Halt.bind_eq_ok_iff.mp (Halt.ofResult_eq_ok_iff.mp decodes)
  refine ⟨⟨text, ?_, decoded⟩, Halt.mapError_eq_ok_iff.mp valid⟩
  unfold field at named
  split at named
  · rename_i written
    cases named
    exact written
  · cases named

/-- The manifest with the numbers of its program as they come back through JSON. -/
def reread (m : Manifest A) : Manifest A := { m with program := m.program.reread }

/-- A manifest is read back if each of its parts is. -/
theorem ofTexts_toTexts {m : Manifest A}
    (program : Program.decode m.program.encode = .ok m.program.reread) (valid : m.program.Valid)
    (weights : ParameterEntry.decodeAll? (ParameterEntry.encodeAll m.weights) = some m.weights)
    (keys : ParameterEntry.checkKeys m.weights = .ok ())
    (target : (Json.parse? m.target.toJson.text).bind TargetSpec.ofJson? = some m.target)
    (peak : Numeral.unsigned? Halt.wordLimit (toString m.peakBytes) = some m.peakBytes) :
    ofTexts m.toTexts = .ok m.reread := by
  have formatText : field m.toTexts "format" = .ok format := rfl
  have programText : field m.toTexts "program" = .ok m.program.encode := rfl
  have weightsText : field m.toTexts "weights" = .ok (ParameterEntry.encodeAll m.weights) := rfl
  have targetText : field m.toTexts "target" = .ok m.target.toJson.text := rfl
  have peakText : field m.toTexts "peak_bytes" = .ok (toString m.peakBytes) := rfl
  have modeText : field m.toTexts "weights_mode" = .ok m.weightsMode.text := rfl
  have creatorText : Container.text? m.toTexts "created_by" = some m.createdBy := rfl
  have validated : Halt.mapError .invalidProgram m.program.reread.validate = .ok () :=
    Halt.mapError_eq_ok_iff.mpr (Program.valid_reread valid)
  unfold ofTexts
  simp only [formatText, programText, weightsText, targetText, peakText, modeText, creatorText,
    decoded, program, validated, weights, keys, target, peak, WeightsMode.parse?_text,
    Halt.ofResult, Except.mapError, bind, Except.bind, pure, Except.pure, ne_eq, not_true_eq_false,
    if_false, Option.getD_some, reread]

/-- A container with a manifest has a header that is about as long as the parts of the manifest and
the names of the tensors. -/
theorem size_headerOf_toTexts_le (m : Manifest A) (blobs : List (String × ByteArray)) :
    (Container.headerOf blobs m.toTexts).size ≤
      24 * (m.program.encode.length + m.target.toJson.text.length +
        (toString m.peakBytes).length + (ParameterEntry.encodeAll m.weights).length +
          m.weightsMode.text.length + m.createdBy.length) +
        4 * ((Container.layOut 0 (blobs.mergeSort fun a b => decide (a.1 ≤ b.1))).map fun tensor =>
          6 * tensor.1.length + tensor.2.toJson.lengthBound + 4).sum + 3000 := by
  have named : ["format", "program", "target", "peak_bytes", "weights", "weights_mode",
      "created_by"].map String.length = [6, 7, 6, 10, 7, 12, 10] := by
    decide +kernel
  have formatLength : format.length = 28 := by decide +kernel
  simp only [List.map_cons, List.map_nil, List.cons.injEq, and_true] at named
  obtain ⟨formatName, program, target, peak, weights, mode, creator⟩ := named
  have bound := Container.size_headerOf_le blobs m.toTexts
  simp only [toTexts, List.map_cons, List.map_nil, List.sum_cons, List.sum_nil, formatName, program,
    target, peak, weights, mode, creator, formatLength] at bound
  simp only [toTexts]
  omega

theorem size_textHeader_toTexts_le (m : Manifest A) :
    (Container.textHeader m.toTexts).size ≤
      24 * (m.program.encode.length + m.target.toJson.text.length +
        (toString m.peakBytes).length + (ParameterEntry.encodeAll m.weights).length +
          m.weightsMode.text.length + m.createdBy.length) + 3000 := by
  have bound := m.size_headerOf_toTexts_le []
  rwa [Container.headerOf_nil, List.mergeSort_nil] at bound

end Manifest

namespace Artifact

variable {A : Arithmetic}

theorem manifestOf_eq_ok {r : Request A} {m : Manifest A} (checked : manifestOf r = .ok m) :
    r.program.Valid ∧ ∃ peakBytes, r.program.peakLiveBytes = .ok peakBytes ∧ m = {
      program := r.program
      target := r.target
      peakBytes
      weights := r.parameters.entries
      weightsMode := r.weightsMode
      createdBy := Manifest.creator } := by
  obtain ⟨_, valid, rest⟩ := Halt.bind_eq_ok_iff.mp checked
  obtain ⟨peakBytes, peak, rest⟩ := Halt.bind_eq_ok_iff.mp rest
  dsimp only at rest
  split at rest
  · cases rest
  · cases rest
    exact ⟨valid, peakBytes, peak, rfl⟩

theorem manifestOf_of_within {r : Request A} {peakBytes : Nat} (valid : r.program.Valid)
    (counted : r.program.peakLiveBytes = .ok peakBytes)
    (within : peakBytes ≤ r.target.maxAllocation) :
    manifestOf r = .ok {
      program := r.program
      target := r.target
      peakBytes
      weights := r.parameters.entries
      weightsMode := r.weightsMode
      createdBy := Manifest.creator } := by
  refine Halt.bind_eq_ok_iff.mpr ⟨(), valid, Halt.bind_eq_ok_iff.mpr ⟨peakBytes, counted, ?_⟩⟩
  dsimp only
  rw [if_neg (Nat.not_lt.mpr within)]
  rfl

theorem parse_of_read {bytes : ByteArray} {c : Container} {texts : List (String × String)}
    (reads : Container.read bytes = .ok c) (held : c.metadata = some texts) :
    parse (A := A) bytes = (do
      let manifest ← Manifest.ofTexts texts
      match manifest.weightsMode with
      | .inside =>
        let parameters ← Halt.ofResult (Parameters.ofContainer c manifest.weights)
        return (manifest, some parameters)
      | .outside => return (manifest, none)) := by
  have opened : Halt.ofResult ((Container.read bytes).mapError .notAnArtifact) = .ok c := by
    rw [reads]
    rfl
  rw [parse, opened, Halt.bind_ok]
  obtain ⟨metadata, tensors, data⟩ := c
  obtain rfl : metadata = some texts := held
  rfl

theorem parse_eq_ok_iff {bytes : ByteArray} {m : Manifest A} {inside : Option Parameters} :
    parse bytes = .ok (m, inside) ↔
      ∃ c texts, Container.read bytes = .ok c ∧ c.metadata = some texts ∧
        Manifest.ofTexts texts = .ok m ∧
        match m.weightsMode with
        | .inside => ∃ p, Parameters.ofContainer c m.weights = .ok p ∧ inside = some p
        | .outside => inside = none := by
  constructor
  · intro parsed
    cases reads : Container.read bytes with
    | error fault =>
        simp [parse, reads, Except.mapError, Halt.ofResult, bind, Except.bind] at parsed
    | ok c =>
        cases held : c.metadata with
        | none =>
            obtain ⟨metadata, tensors, data⟩ := c
            obtain rfl : metadata = none := held
            simp [parse, reads, Except.mapError, Halt.ofResult, Halt.fail, bind,
              Except.bind] at parsed
        | some texts =>
            rw [parse_of_read reads held] at parsed
            obtain ⟨found, manifest, rest⟩ := Halt.bind_eq_ok_iff.mp parsed
            refine ⟨c, texts, rfl, held, ?_⟩
            cases mode : found.weightsMode with
            | inside =>
                rw [mode] at rest
                obtain ⟨p, blobs, same⟩ := Halt.bind_eq_ok_iff.mp rest
                cases same
                rw [mode]
                exact ⟨manifest, p, Halt.ofResult_eq_ok_iff.mp blobs, rfl⟩
            | outside =>
                rw [mode] at rest
                cases rest
                rw [mode]
                exact ⟨manifest, rfl⟩
  · rintro ⟨c, texts, reads, held, manifest, rest⟩
    rw [parse_of_read reads held, manifest, Halt.bind_ok]
    cases mode : m.weightsMode with
    | inside =>
        rw [mode] at rest
        obtain ⟨p, blobs, rfl⟩ := rest
        rw [blobs]
        rfl
    | outside =>
        rw [mode] at rest
        obtain rfl := rest
        rfl

/-- An artifact that is read holds the program that it was compiled from, with its numbers as they
come back. -/
theorem program_of_parse (numerals : A.WritesNumerals) {r : Request A} {artifact : Artifact A}
    {m : Manifest A} {inside : Option Parameters} (compiled : compile r = .ok artifact)
    (parsed : parse artifact.bytes = .ok (m, inside)) : m.program = r.program.reread := by
  obtain ⟨manifest, checked, packed⟩ := Halt.bind_eq_ok_iff.mp compiled
  obtain ⟨bytes, written, ⟨⟩⟩ := Halt.bind_eq_ok_iff.mp packed
  obtain ⟨container, texts, reads, held, manifestRead, -⟩ := parse_eq_ok_iff.mp parsed
  cases (Container.metadata_of_read written reads).symm.trans held
  obtain ⟨⟨text, named, decoded⟩, -⟩ := Manifest.program_of_ofTexts manifestRead
  have encoded : Container.text? manifest.toTexts "program" = some manifest.program.encode := rfl
  rw [encoded] at named
  cases named
  have restored := Program.decode_encode numerals decoded
  obtain ⟨-, peakBytes, -, rfl⟩ := manifestOf_eq_ok checked
  exact restored

/-- A request with nothing to put inside is compiled, and its artifact is read back, if its manifest
can be and is not too long. -/
theorem compile_of_nothing_inside {r : Request A} {m : Manifest A}
    (checked : manifestOf r = .ok m) (nothing : r.parameters.blobs = [])
    (small : (Container.textHeader m.toTexts).size ≤ Container.maxHeader)
    (restored : Manifest.ofTexts m.toTexts = .ok m.reread) :
    ∃ artifact inside, compile r = .ok artifact ∧ parse artifact.bytes = .ok (m.reread, inside) ∧
      (m.weightsMode = .inside → inside = some .empty) := by
  have fits : (Container.textHeader m.toTexts).size < Halt.wordLimit :=
    Nat.lt_of_le_of_lt small (by decide)
  have apart : r.inside = [] := by
    unfold Request.inside Parameters.stored
    rw [nothing]
    split <;> rfl
  have written : Container.write r.inside m.toTexts =
      .ok (Container.frame (Container.textHeader m.toTexts) .empty) := by
    rw [apart]
    exact Container.write_nil fits
  have compiled : compile r = .ok ⟨m, Container.frame (Container.textHeader m.toTexts) .empty⟩ :=
    Halt.bind_eq_ok_iff.mpr ⟨m, checked, Halt.bind_eq_ok_iff.mpr ⟨_, written, rfl⟩⟩
  obtain ⟨container, reads, texts⟩ := Container.read_textHeader small
  have unweighted : m.weights = [] := by
    obtain ⟨-, peakBytes, -, rfl⟩ := manifestOf_eq_ok checked
    rw [Parameters.entries, nothing, List.map_nil]
  have parsed := parse_of_read (A := A) reads texts
  have sameMode : m.reread.weightsMode = m.weightsMode := rfl
  have sameWeights : m.reread.weights = m.weights := rfl
  rw [restored, Halt.bind_ok, sameMode, sameWeights] at parsed
  cases mode : m.weightsMode with
  | inside =>
      refine ⟨_, some .empty, compiled, ?_, fun _ => rfl⟩
      rw [parsed, mode, unweighted]
      rfl
  | outside =>
      refine ⟨_, none, compiled, ?_, nofun⟩
      rw [parsed, mode]
      rfl

end Artifact

end Diffusion
