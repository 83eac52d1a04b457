import Diffusion.Proofs.Arithmetic.Numerals
import Diffusion.Proofs.Artifact.Provenance
import Diffusion.Proofs.Parameters.Archive

/-!
Parameters inside an artifact and parameters in an archive.

Both ways of keeping them load the same, with the numbers of the program as they come back through
JSON. If they come back unchanged, it is the program that was compiled, but machine floats need not.
An archive in which a blob is not what the artifact notes of it is refused, unless other bytes have
the same fingerprint. Main statement: `inside_outside_load`.
-/

namespace Diffusion

open Halt (wordLimit)

/-- Whether a file is a container in which a tensor has these bytes. -/
def World.Keeps (w : World) (file name : String) (bytes : ByteArray) : Prop :=
  ∃ c, w.Holds file c ∧ c.tensor name = .ok bytes

theorem Parameters.of_writeArchive_ok {p : Parameters} {file : String} {before after : World}
    {entries : List ParameterEntry} {packed : ByteArray} (made : p.archive = .ok packed)
    (ran : (p.writeArchive World.host file).run before = (.ok entries, after)) :
    entries = p.entries ∧ after.tree.read after.directory file = .ok packed := by
  obtain ⟨_, _, -, packs⟩ := Job.of_bind_ok ran
  obtain ⟨bytes, _, archived, writes⟩ := Job.of_bind_ok packs
  obtain ⟨answered, rfl⟩ := Job.of_ofExcept_ok archived
  cases made.symm.trans answered
  obtain ⟨_, between, written, logs⟩ := Job.of_bind_ok writes
  have read := World.read_write (Job.of_file_ok written)
  obtain ⟨_, _, logged, same⟩ := Job.of_bind_ok logs
  cases same
  cases logged
  exact ⟨rfl, read⟩

/-- An archive without a blob that the artifact notes is refused, or it has other bytes of the same
size with the same fingerprint in the place of the blob. -/
theorem LoadedArtifact.load_of_lost {A : Arithmetic} {w : World} {path file : String}
    {device : Device} {bytes : ByteArray} {m : Manifest A}
    (found : w.tree.read w.directory path = .ok bytes)
    (parsed : Artifact.parse bytes = .ok (m, none)) (fits : m.target.device = device) {b : Blob}
    (noted : .ofBlob b ∈ m.weights)
    (lost : ¬ w.Keeps file (Parameters.storageName b.1) b.2) :
    (∃ e, e.code = .artifactInvalid ∧
      (load (A := A) World.host path device (some file)).run w = (.error (.error e), w)) ∨
    ∃ other, w.Keeps file (Parameters.storageName b.1) other ∧ other ≠ b.2 ∧
      other.size = b.2.size ∧ Bytes.fingerprint other = Bytes.fingerprint b.2 := by
  rcases run_load_archive found parsed fits file with ⟨e, kind, ran, -⟩ | ⟨q, c, holds, given, -⟩
  · exact .inl ⟨e, kind, ran⟩
  · obtain ⟨other, verified⟩ := (Parameters.accepted_of_ofContainer given).verified _ noted
    obtain ⟨kept, notes⟩ := Parameters.blobOf_eq_ok_iff.mp verified
    refine .inr ⟨other, ⟨c, holds, kept⟩, ?_, notes.size, notes.sha256⟩
    rintro rfl
    exact lost ⟨c, holds, kept⟩

namespace Artifact

variable {A : Arithmetic}

/-- A request that passes all checks is compiled, and its artifact is read back. -/
theorem exists_parse (readable : A.ReadsNumerals) (numerals : A.WritesNumerals)
    {r : Request A} {m : Manifest A} (checked : manifestOf r = .ok m) (written : r.program.Written)
    (keys : ∀ b ∈ r.parameters.blobs, b.1 ∈ Parameters.allowedKeys) (words : r.Words)
    (short : (Container.headerOf r.inside m.toTexts).size ≤ Container.maxHeader) :
    ∃ artifact, compile r = .ok artifact ∧ artifact.manifest = m ∧
      parse artifact.bytes = .ok (m.reread, r.held?) := by
  obtain ⟨bytes, compiled⟩ := exists_compile keys checked short
  have restored := restored_of_written readable numerals keys words written checked
  exact ⟨_, compiled, rfl, parse_of_restored keys words compiled short restored⟩

/-- A compiled program loads the same with its parameters inside the artifact, whatever archive is
named, and with its parameters in the archive that is written of them: as the program whose numbers
are those that come back through JSON. This is the program that was compiled exactly if its numbers
come back unchanged. An archive that does not keep one of the blobs is refused, or it has other
bytes with the fingerprint of that blob. -/
theorem inside_outside_load (readable : A.ReadsNumerals) (numerals : A.WritesNumerals)
    {p : Program A} {target : TargetSpec} {parameters : Parameters} {peak : Nat} (valid : p.Valid)
    (counted : p.peakLiveBytes = .ok peak) (within : peak ≤ target.maxAllocation)
    (written : p.Written) (keys : ∀ b ∈ parameters.blobs, b.1 ∈ Parameters.allowedKeys)
    (words : ∀ mode, Request.Words ⟨p, target, parameters, mode⟩)
    (short : ∀ mode m, manifestOf ⟨p, target, parameters, mode⟩ = .ok m →
      (Container.headerOf (Request.inside ⟨p, target, parameters, mode⟩) m.toTexts).size ≤
        Container.maxHeader) :
    ∃ inner outer packed,
      compile ⟨p, target, parameters, .inside⟩ = .ok inner ∧ inner.manifest.program = p ∧
      compile ⟨p, target, parameters, .outside⟩ = .ok outer ∧ outer.manifest.program = p ∧
      parameters.archive = .ok packed ∧ (p.reread = p ↔ p.ReadsBack) ∧
      (∀ file before after entries,
        (parameters.writeArchive World.host file).run before = (.ok entries, after) →
          entries = outer.manifest.weights ∧
            after.tree.read after.directory file = .ok packed) ∧
      (∀ w path archive, w.tree.read w.directory path = .ok inner.bytes →
        LoadedArtifact.Loads w path target.device archive
          ⟨inner.manifest.reread, parameters, target.device⟩) ∧
      (∀ w path file, w.tree.read w.directory path = .ok outer.bytes →
        w.tree.read w.directory file = .ok packed →
          LoadedArtifact.Loads w path target.device (some file)
            ⟨outer.manifest.reread, parameters, target.device⟩) ∧
      ∀ w path file, w.tree.read w.directory path = .ok outer.bytes →
        ∀ b ∈ parameters.blobs, ¬ w.Keeps file (Parameters.storageName b.1) b.2 →
          (∃ e, e.code = .artifactInvalid ∧
            (LoadedArtifact.load (A := A) World.host path target.device (some file)).run w =
              (.error (.error e), w)) ∨
          ∃ other, w.Keeps file (Parameters.storageName b.1) other ∧ other ≠ b.2 ∧
            other.size = b.2.size ∧ Bytes.fingerprint other = Bytes.fingerprint b.2 := by
  have checked : ∀ mode, manifestOf ⟨p, target, parameters, mode⟩ = .ok _ :=
    fun mode => manifestOf_of_within valid counted within
  have restored := fun mode => exists_parse readable numerals (checked mode) written keys
    (words mode) (short mode _ (checked mode))
  obtain ⟨inner, innerMade, innerSays, innerParsed⟩ := restored .inside
  obtain ⟨outer, outerMade, outerSays, outerParsed⟩ := restored .outside
  obtain ⟨packed, c, made, reads, tensors⟩ :=
    Parameters.exists_archive keys (words .outside).parameters
  rw [← innerSays] at innerParsed
  rw [← outerSays] at outerParsed
  have weights : outer.manifest.weights = parameters.entries := by rw [outerSays]
  have innerFits : inner.manifest.target.device = target.device := by rw [innerSays]
  have outerFits : outer.manifest.target.device = target.device := by rw [outerSays]
  refine ⟨inner, outer, packed, innerMade, by rw [innerSays], outerMade, by rw [outerSays], made,
    p.reread_eq_self_iff, fun file before after entries ran => ?_, fun w path archive found => ?_,
    fun w path file found there => ?_, fun w path file found b member lost => ?_⟩
  · rw [weights]
    exact Parameters.of_writeArchive_ok made ran
  · exact LoadedArtifact.loads_of_parsed found innerParsed innerFits
  · have blobs : Parameters.ofContainer c outer.manifest.reread.weights = .ok parameters := by
      rw [Manifest.reread, weights]
      exact Parameters.ofContainer_entries keys tensors
    exact LoadedArtifact.loads_of_archive found outerParsed outerFits ⟨packed, there, reads⟩ blobs
  · have noted : ParameterEntry.ofBlob b ∈ outer.manifest.reread.weights := by
      rw [Manifest.reread, weights]
      exact List.mem_map_of_mem member
    exact LoadedArtifact.load_of_lost found outerParsed outerFits noted lost

/-! ### A factor that does not come back -/

/-- A program that multiplies by a factor whose numeral is read as the float next to it. -/
def scaledOnce : Program machine :=
  ⟨#[⟨"x", [1]⟩], #[⟨.scale 0 (1.0004276037216187 : Float), [1]⟩], 1⟩

theorem not_readsBack_scaledOnce : ¬ scaledOnce.ReadsBack := by
  have other : machine.text.wideJson? 1.0004276037216187 = some "1.0004276037216187" ∧
      machine.text.wideOfJson? "1.0004276037216187" = some (1.0004276037216189 : Float) ∧
        (1.0004276037216189 : Float) ≠ 1.0004276037216187 := by
    decide +kernel
  intro back
  refine other.2.2 (back ⟨.scale 0 1.0004276037216187, [1]⟩ (by simp [scaledOnce]) _ ?_)
  rw [Arithmetic.rereadWide?, other.1]
  exact other.2.1

/-- Nothing keeps that program from being compiled. -/
theorem scaledOnce_within :
    scaledOnce.Valid ∧ scaledOnce.peakLiveBytes = .ok 8 ∧ scaledOnce.Written ∧
      (∀ mode, Request.Words ⟨scaledOnce, .default, smallGraph, mode⟩) ∧
      ∀ mode m, manifestOf ⟨scaledOnce, .default, smallGraph, mode⟩ = .ok m →
        (Container.headerOf (Request.inside ⟨scaledOnce, .default, smallGraph, mode⟩)
          m.toTexts).size ≤ Container.maxHeader := by
  have valid : scaledOnce.Valid := Halt.toOption_eq_some_iff.mp (by decide +kernel)
  have counted : scaledOnce.peakLiveBytes = .ok 8 :=
    Halt.toOption_eq_some_iff.mp (by decide +kernel)
  have program : scaledOnce.Words := ⟨by decide, by decide⟩
  have ceiling : TargetSpec.default.maxAllocation < wordLimit := by decide
  have parameters : smallGraph.totalBytes < wordLimit := by decide
  have words : ∀ mode, Request.Words ⟨scaledOnce, .default, smallGraph, mode⟩ :=
    fun _ => ⟨program, ceiling, parameters⟩
  have texts : scaledOnce.encode.length + TargetSpec.default.toJson.text.length ≤ 1000000 := by
    have lengths : (scaledOnce.toJson.write []).length ≤ 1000 ∧
        (TargetSpec.default.toJson.write []).length ≤ 1000 := by decide +kernel
    rw [Program.encode, Json.text, Json.text, String.length_ofList, String.length_ofList]
    omega
  have keys : ∀ b ∈ smallGraph.blobs, b.1 ∈ Parameters.allowedKeys := by decide
  exact ⟨valid, counted, by decide +kernel, words,
    fun mode m checked => short_of_lengths checked keys (words mode) texts⟩

theorem inside_outside_load_scaledOnce :
    ∃ (inner outer : Artifact machine) (packed : ByteArray),
      compile ⟨scaledOnce, .default, smallGraph, .inside⟩ = .ok inner ∧
      compile ⟨scaledOnce, .default, smallGraph, .outside⟩ = .ok outer ∧
      smallGraph.archive = .ok packed ∧
      LoadedArtifact.Loads (World.ofFiles [("a", inner.bytes)]) "a" .cpu none
        ⟨inner.manifest.reread, smallGraph, .cpu⟩ ∧
      LoadedArtifact.Loads (World.ofFiles [("a", outer.bytes), ("w", packed)]) "a" .cpu (some "w")
        ⟨outer.manifest.reread, smallGraph, .cpu⟩ ∧
      inner.manifest.reread.program = outer.manifest.reread.program ∧
      inner.manifest.reread.program ≠ scaledOnce ∧
      ∃ e, e.code = .artifactInvalid ∧
        (LoadedArtifact.load (A := machine) World.host "a" .cpu (some "")).run
          (World.ofFiles [("a", outer.bytes)]) =
            (.error (.error e), World.ofFiles [("a", outer.bytes)]) := by
  obtain ⟨valid, counted, written, words, short⟩ := scaledOnce_within
  have keys : ∀ b ∈ smallGraph.blobs, b.1 ∈ Parameters.allowedKeys := by decide
  obtain ⟨inner, outer, packed, innerMade, innerSays, outerMade, outerSays, made, back, -, inside,
    outside, lost⟩ := inside_outside_load machine_readsNumerals machine_writesNumerals valid counted
      (show 8 ≤ TargetSpec.default.maxAllocation by decide) written keys words short
  refine ⟨inner, outer, packed, innerMade, outerMade, made, ?_, ?_, ?_, ?_, ?_⟩
  · exact inside _ "a" none (World.read_letter (by simp) rfl)
  · exact outside _ "a" "w" (World.read_letter (by simp) rfl) (World.read_letter (by simp) rfl)
  · rw [Manifest.reread, Manifest.reread, innerSays, outerSays]
  · rw [Manifest.reread, innerSays]
    exact fun same => not_readsBack_scaledOnce (back.mp same)
  · have missing : ¬ (World.ofFiles [("a", outer.bytes)]).Keeps ""
        (Parameters.storageName Parameters.graphKey) ⟨#[1, 2, 3]⟩ := by
      rintro ⟨_, ⟨_, nothing, -⟩, -⟩
      cases nothing
    rcases lost _ "a" "" (World.read_letter (by simp) rfl) _ (List.mem_singleton_self _)
      missing with refused | ⟨_, ⟨_, ⟨_, nothing, -⟩, -⟩, -⟩
    · exact refused
    · cases nothing

/-- That program is compiled, and another one is loaded. -/
theorem load_scaledOnce : scaledOnce.Valid ∧ scaledOnce.Written ∧
    ∃ (artifact : Artifact machine) (loaded : LoadedArtifact machine),
      compile ⟨scaledOnce, .default, smallGraph, .inside⟩ = .ok artifact ∧
      LoadedArtifact.Loads (World.ofFiles [("a", artifact.bytes)]) "a" .cpu none loaded ∧
      loaded.manifest.program ≠ scaledOnce := by
  obtain ⟨valid, counted, written, words, short⟩ := scaledOnce_within
  have keys : ∀ b ∈ smallGraph.blobs, b.1 ∈ Parameters.allowedKeys := by decide
  have checked : manifestOf ⟨scaledOnce, .default, smallGraph, .inside⟩ = .ok _ :=
    manifestOf_of_within valid counted (show 8 ≤ TargetSpec.default.maxAllocation by decide)
  obtain ⟨artifact, compiled, -, parsed⟩ := exists_parse machine_readsNumerals
    machine_writesNumerals checked written keys (words .inside) (short .inside _ checked)
  refine ⟨valid, written, artifact, _, compiled,
    LoadedArtifact.loads_of_parsed (World.read_letter (by simp) rfl) parsed rfl, fun same => ?_⟩
  exact not_readsBack_scaledOnce (Program.reread_eq_self_iff.mp same)

end Artifact

end Diffusion
