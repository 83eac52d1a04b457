import Diffusion.Proofs.Artifact.Loading

/-!
Programs, manifests and artifacts read back from what is written of them.

A program comes back from its text whether or not it is checked, a manifest once its program is,
and an artifact with all that the compiler put into it. Numbers must have finite numerals in all
three, and be read back as what they are. Main statement: `round_trip`.
-/

namespace Diffusion.Artifact

variable {A : Arithmetic}

theorem parse_of_inside (readable : A.ReadsNumerals) (numerals : A.WritesNumerals) {r : Request A}
    (inside : r.weightsMode = .inside)
    (keys : ∀ b ∈ r.parameters.blobs, b.1 ∈ Parameters.allowedKeys) (words : r.Words)
    (written : r.program.Written) {artifact : Artifact A} (compiled : compile r = .ok artifact)
    (short : (Container.headerOf r.inside artifact.manifest.toTexts).size ≤ Container.maxHeader) :
    parse artifact.bytes = .ok (artifact.manifest.reread, some r.parameters) := by
  have restored := restored_of_written readable numerals keys words written
    (manifestOf_of_compile compiled)
  have held : r.held? = some r.parameters := by rw [Request.held?, inside]
  rw [parse_of_restored keys words compiled short restored, held]

/-- What is written comes back, if its numbers do: a program from its text, a manifest from its
texts if its program is checked and its weights have keys of a network, and from an artifact with
its parameters inside the manifest and the parameters of the request. -/
theorem round_trip (readable : A.ReadsNumerals) (numerals : A.WritesNumerals) :
    (∀ p : Program A, p.NamesWords → p.Written → p.ReadsBack →
      Program.decode p.encode = .ok p) ∧
    (∀ m : Manifest A, m.program.Valid → (∀ e ∈ m.weights, e.key ∈ Parameters.allowedKeys) →
      m.Words → m.program.Written → m.program.ReadsBack → Manifest.ofTexts m.toTexts = .ok m) ∧
    ∀ (r : Request A) (artifact : Artifact A), r.weightsMode = .inside →
      (∀ b ∈ r.parameters.blobs, b.1 ∈ Parameters.allowedKeys) → r.Words → r.program.Written →
      r.program.ReadsBack → compile r = .ok artifact →
      (Container.headerOf r.inside artifact.manifest.toTexts).size ≤ Container.maxHeader →
        parse artifact.bytes = .ok (artifact.manifest, some r.parameters) := by
  refine ⟨fun p names written back => ?_, fun m valid keys words written back => ?_,
    fun r artifact inside keys words written back compiled short => ?_⟩
  · rw [Program.decode_encode_of_written readable numerals names written,
      Program.reread_eq_self_iff.mpr back]
  · rw [Manifest.ofTexts_of_written readable numerals valid keys words written, Manifest.reread,
      Program.reread_eq_self_iff.mpr back]
  · rw [parse_of_inside readable numerals inside keys words written compiled short,
      (reread_manifest_eq_self_iff (manifestOf_of_compile compiled)).mpr back]

/-! ### A program with every operation -/

/-- Each operation once, on ids that have no values. -/
def everyOp : Program capped where
  inputs := #[⟨"a \"name\"\n", [2, 0]⟩, ⟨"", []⟩]
  instructions :=
    #[⟨.scale 9 (-3 : Int), [2]⟩, ⟨.add 0 70, []⟩, ⟨.sub 70 0, []⟩, ⟨.concat 1 1, [0]⟩,
      ⟨.slice 8 .second, [5, 5]⟩, ⟨.noise 2 18446744073709551615, [1]⟩, ⟨.unet 3 4 (999 : Int), []⟩]
  output := 100

/-- A manifest that the compiler does not write. -/
def foreignManifest : Manifest capped where
  program := ⟨#[⟨"x", [1, 4]⟩], #[], 0⟩
  target := ⟨.metal, some "arm64", 7⟩
  peakBytes := 123
  weights := [⟨Parameters.graphKey, "elsewhere", 4, "no digest"⟩]
  weightsMode := .outside
  createdBy := ""

theorem round_trip_capped :
    Program.decode everyOp.encode = .ok everyOp ∧
    Manifest.ofTexts foreignManifest.toTexts = .ok foreignManifest ∧
    ∃ (p : Program capped) (artifact : Artifact capped),
      compile ⟨p, .default, smallGraph, .inside⟩ = .ok artifact ∧
      parse artifact.bytes = .ok (artifact.manifest, some smallGraph) := by
  have back := Program.readsBack capped_readsBack
  obtain ⟨ofProgram, ofManifest, ofArtifact⟩ :=
    round_trip capped_readsBack.readsNumerals capped_writesNumerals
  refine ⟨ofProgram everyOp ?_ (by decide +kernel) (back _),
    ofManifest foreignManifest rfl ?_ ?_ ?_ (back _), ?_⟩
  · exact ⟨by decide, by decide, by decide⟩
  · decide
  · exact ⟨⟨by decide, by decide, by decide⟩, by decide, by decide, by decide⟩
  · decide
  · obtain ⟨-, p, artifact, -, -, compiled, words, finite, short⟩ :=
      exists_compile_capped (show 2 ∈ [2, 1000000] by decide)
    have keys : ∀ b ∈ smallGraph.blobs, b.1 ∈ Parameters.allowedKeys := by decide
    exact ⟨p, artifact, compiled,
      ofArtifact _ artifact rfl keys words (finite.mpr (by decide)) (back p) compiled short⟩

end Diffusion.Artifact
