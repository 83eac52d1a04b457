import Diffusion.Proofs.Export.Steps
import Diffusion.Proofs.Program.Lowering
import Diffusion.Proofs.Program.NormalForm
import Diffusion.Proofs.Program.Rereading
import Diffusion.Proofs.Trace.Guidance

/-!
Exporting a loop and running it from its artifact.

On the way from the settings to the tensor that a loaded artifact answers with, the loop is traced,
lowered, written as JSON into the header of a container, read back, checked and interpreted. Each
of these steps has its law; here they are put one after another. What is read back need not be the
program that was written, but it computes the same. Main statement: `invoke_exported`.
-/

namespace Diffusion.Export

/-- Exporting and running is sampling. An export that ends with an artifact writes a file from
which, as long as it reads as it was written, whatever is loaded has the meaning of the loop: on
inputs of the exported shapes, with every network that is a function, where the loop of the same
settings ends with a tensor, the artifact answers with that tensor. Of the numbers in the artifact
it is enough that the elements among them come back. -/
theorem invoke_exported {A : Arithmetic} (widens : A.WidensExactly) (unique : A.OneIsUnique)
    (neutral : A.OneIsNeutral) (keeps : A.KeepsElements) (numerals : A.WritesNumerals)
    {config : ExportConfig A} {tool : ToolConfig} {parameters : Parameters}
    {before after : World} {outcome : Outcome} (binary : config.compileTo = .binary)
    (exported : (withParameters World.host config tool parameters).run before =
      (.ok outcome, after)) :
    ∃ path id shapes, outcome.artifactPath = some path ∧
      SchedulerId.lookup config.sampling.schedulerId = .ok id ∧
      shapesOf config.sampling (ModelSpec.resolve config.sampling.model) = .ok shapes ∧
      ∀ {later left : World} {device : Device} {archive : Option String}
        {loaded : LoadedArtifact A},
        later.tree.read later.directory path = after.tree.read after.directory path →
        (LoadedArtifact.load World.host path device archive).run later = (.ok loaded, left) →
        ∀ {ν : Type} (network : Network A ν) (run : RunConfig A)
          (latents conditioning v : Tensor A.Elem) (start start' : ν) (w : World),
          network.Functional → run.sampling = config.sampling →
          latents.shape = shapes.latent → shapes.conditioning = .ok conditioning.shape →
          (((Run.reference World.host run id network [latents, conditioning]).run.run start).run
            w).1.1 = .ok v →
          ((loaded.invoke network [latents, conditioning]).runOn start').1 = .ok v := by
  obtain ⟨id, shapes, tracing, whole, r, artifact, path, looked, shaped, planned, traced, lowered,
    compiled, named, written⟩ := of_withParameters_ok binary exported
  refine ⟨path, id, shapes, named, looked, shaped, ?_⟩
  intro later left device archive loaded unchanged loads ν network run latents conditioning v start
    start' w functional same latentShape conditioningShape answered
  have program : loaded.manifest.program = r.program.reread := by
    obtain ⟨bytes, inside, found, parsed⟩ := LoadedArtifact.of_load_ok loads
    rw [unchanged, written] at found
    cases found
    exact Artifact.program_of_parse numerals compiled parsed
  have executed : ((whole.execute (Backend.eager (some network)) [latents, conditioning]).runOn
      start).1 = .ok v := by
    rw [Run.reference_answer, same] at answered
    obtain ⟨scheduler, plannedToo, looped⟩ := Halt.bind_eq_ok_iff.mp answered
    rw [Trace.execute_eq_looped widens (some network) ?_ traced latentShape conditioningShape]
    · exact looped
    intro world
    obtain ⟨other, plannedAgain, related⟩ :=
      (shadow widens (some network)).relatedSchedulers_planned (w := world) planned
    cases plannedToo.symm.trans plannedAgain
    exact related
  obtain ⟨_, _, _, _, -, -, valid⟩ := Trace.program_eq_ok conditioningShape traced
  have answers := Program.execute_of_lower unique (Backend.functional_eager functional)
    (fun x _ => congrArg Except.ok (x.scale_one neutral)) valid lowered executed
  have exact := Program.exact_of_lower (Program.valid_iff_wellTyped _ |>.mp valid) lowered
    (Trace.exact_of_program traced)
  rw [LoadedArtifact.invoke, program, Program.execute_reread widens keeps _ exact]
  exact answers start'

/-! ### An export of one step -/

theorem plannedScheduler_whole {τ : Type} (sampling : SamplingConfig whole) (id : SchedulerId)
    (model : ModelSpec) :
    plannedScheduler (τ := τ) sampling id model = (do
      let (planned, scheduler) := (Scheduler.plan sampling.steps).runOn
        (.ofSchedule id (wholeSchedule model.predictionType) sampling.seed)
      planned
      return scheduler) := by
  unfold plannedScheduler Scheduler.create
  rw [ofConfig_stableDiffusion]
  rfl

/-- An export of one step with a small image into the working directory. -/
def oneStep : ExportConfig whole where
  sampling := {
    SamplingConfig.default whole with
    schedulerId := "DDIM"
    steps := 1
    height := 8
    width := 8
    guidance := (2 : Int) }
  compileTo := .binary
  externalWeights := none
  externalWeightPath := none
  target := .default
  upload := false
  outputDir := ""

/-- What is computed of the loop of that export: its program, the bytes it needs, and how long they
are in text. -/
theorem oneStep_compiles : ∃ scheduler traced p, ∃ m : Manifest whole,
    plannedScheduler oneStep.sampling .ddim (ModelSpec.resolve oneStep.sampling.model) =
      .ok scheduler ∧
    (Trace.sample scheduler ⟨1, 8, 8, 768⟩ oneStep.sampling.guidance).program = .ok traced ∧
    traced.lower = .ok p ∧ Artifact.manifestOf ⟨p, oneStep.target, .empty, .inside⟩ = .ok m ∧
    (Program.ofJson? p.toJson : Option (Program whole)).isSome ∧
    (p.toJson.write []).length ≤ 2000 ∧
    Numeral.unsigned? Halt.wordLimit (toString m.peakBytes) = some m.peakBytes ∧
    (toString m.peakBytes).length ≤ 20 := by
  have computed : (do
      let scheduler ←
        plannedScheduler oneStep.sampling .ddim (ModelSpec.resolve oneStep.sampling.model)
      let traced ← (Trace.sample scheduler ⟨1, 8, 8, 768⟩ oneStep.sampling.guidance).program
      let p ← traced.lower
      let m ← Artifact.manifestOf ⟨p, oneStep.target, .empty, .inside⟩
      return decide ((Program.ofJson? p.toJson : Option (Program whole)).isSome ∧
        (p.toJson.write []).length ≤ 2000 ∧
        Numeral.unsigned? Halt.wordLimit (toString m.peakBytes) = some m.peakBytes ∧
        (toString m.peakBytes).length ≤ 20) : Except Halt Bool).toOption = some true := by
    rw [plannedScheduler_whole]
    decide +kernel
  obtain ⟨scheduler, planned, rest⟩ :=
    Halt.bind_eq_ok_iff.mp (Halt.toOption_eq_some_iff.mp computed)
  obtain ⟨traced, recorded, rest⟩ := Halt.bind_eq_ok_iff.mp rest
  obtain ⟨p, lowered, rest⟩ := Halt.bind_eq_ok_iff.mp rest
  obtain ⟨m, checked, measured⟩ := Halt.bind_eq_ok_iff.mp rest
  exact ⟨scheduler, traced, p, m, planned, recorded, lowered, checked,
    of_decide_eq_true (Except.ok.inj measured)⟩

theorem oneStep_artifact {p : Program whole} {m : Manifest whole}
    (checked : Artifact.manifestOf ⟨p, oneStep.target, .empty, .inside⟩ = .ok m)
    (stands : (Program.ofJson? p.toJson : Option (Program whole)).isSome)
    (short : (p.toJson.write []).length ≤ 2000)
    (peak : Numeral.unsigned? Halt.wordLimit (toString m.peakBytes) = some m.peakBytes)
    (peakShort : (toString m.peakBytes).length ≤ 20) :
    ∃ artifact, Artifact.compile ⟨p, oneStep.target, .empty, .inside⟩ = .ok artifact ∧
      Artifact.parse artifact.bytes = .ok (m, some .empty) := by
  obtain ⟨valid, peakBytes, -, same⟩ := Artifact.manifestOf_eq_ok checked
  have program : m.program = p := congrArg Manifest.program same
  have target : m.target = oneStep.target := congrArg Manifest.target same
  have weights : m.weights = [] := congrArg Manifest.weights same
  have mode : m.weightsMode = .inside := congrArg Manifest.weightsMode same
  have creator : m.createdBy = Manifest.creator := congrArg Manifest.createdBy same
  have lengths : oneStep.target.toJson.text.length + (ParameterEntry.encodeAll []).length +
      WeightsMode.inside.text.length + Manifest.creator.length ≤ 1000 := by
    decide +kernel
  have small : (Container.textHeader m.toTexts).size ≤ Container.maxHeader := by
    have bound := m.size_textHeader_toTexts_le
    have encoded : p.encode.length ≤ 2000 := by
      rw [Program.encode, Json.text, String.length_ofList]
      exact short
    rw [program, target, weights, mode, creator] at bound
    rw [Container.maxHeader]
    omega
  have unchanged : m.reread = m := by
    rw [Manifest.reread, Program.reread_eq_self_iff.mpr (m.program.readsBack whole_readsBack)]
  have restored : Manifest.ofTexts m.toTexts = .ok m.reread := by
    refine Manifest.ofTexts_toTexts ?_ ?_ ?_ ?_ ?_ peak
    · rw [program]
      exact Program.decode_encode_of_isSome whole_writesNumerals stands
    · rw [program]
      exact valid
    · rw [weights]
      decide +kernel
    · rw [weights]
      rfl
    · rw [target]
      decide +kernel
  obtain ⟨artifact, inside, compiled, parsed, empty⟩ :=
    Artifact.compile_of_nothing_inside checked rfl small restored
  cases empty mode
  rw [unchanged] at parsed
  exact ⟨artifact, compiled, parsed⟩

/-- The files of that export can be written into an empty directory. -/
theorem oneStep_writable (listing packed : ByteArray) :
    let name := ModelSpec.safeName oneStep.sampling.model "-scheduler"
    ∃ tree, (World.fresh []).tree.write [] (Path.join "" (name ++ ".mlir")) listing = .ok tree ∧
      ∃ tree', tree.write [] (Path.join "" (name ++ ".artifact")) packed = .ok tree' := by
  intro name
  have listingPath : Path.join "" (name ++ ".mlir") = "stable_diffusion_v1_4_scheduler.mlir" := by
    decide +kernel
  have packedPath :
      Path.join "" (name ++ ".artifact") = "stable_diffusion_v1_4_scheduler.artifact" := by
    decide +kernel
  have plain : ∀ file ∈ ["stable_diffusion_v1_4_scheduler.mlir",
      "stable_diffusion_v1_4_scheduler.artifact"], Path.fault? file = none ∧
        FileTree.names file = [file] ∧ (file ≠ "." ∧ file ≠ "..") ∧ file.endsWith "/" = false ∧
          file.utf8ByteSize ≤ Path.mostNameBytes ∧ FileTree.start [] file = [] := by
    decide +kernel
  have writes : ∀ file ∈ ["stable_diffusion_v1_4_scheduler.mlir",
      "stable_diffusion_v1_4_scheduler.artifact"], ∀ (t : FileTree) bytes,
        t.find? [file] ≠ some .directory →
          t.write [] file bytes = .ok (t.put [file] (.file bytes)) := by
    intro file among t bytes free
    obtain ⟨sound, named, proper, closed, short, start⟩ := plain file among
    have written : t.write [] file bytes =
        .ok (t.put (FileTree.start [] file ++ [file]) (.file bytes)) :=
      FileTree.write_name bytes sound named proper closed short (by rw [start]; rfl)
        (by rw [start]; exact free)
    rwa [start] at written
  rw [listingPath, packedPath]
  refine ⟨_, writes _ (by simp) _ _ nofun, _, writes _ (by simp) _ _ ?_⟩
  rw [FileTree.find?_put_of_ne (by decide +kernel)]
  exact nofun

def echo : Network whole Unit := .ofFunction fun sample _ _ => .ok sample

def oneStepRun (path : String) : RunConfig whole where
  sampling := oneStep.sampling
  artifactPath := path
  externalWeightPath := none
  device := .cpu
  compare := true

theorem oneStep_reference (path : String) (w : World) : ∃ v : Tensor Int,
    (((Run.reference World.host (oneStepRun path) .ddim echo
      [Tensor.fill [1, 4, 1, 1] 3, Tensor.fill [2, 77, 768] 0]).run.run ()).run w).1.1 = .ok v ∧
      v.data.toList = [3, 3, 3, 3] := by
  have computed : ((do
      let scheduler ← plannedScheduler oneStep.sampling .ddim
        (ModelSpec.resolve oneStep.sampling.model)
      (Sampling.outcome (Backend.eager (some echo)) oneStep.sampling.guidance
        (Tensor.fill [1, 4, 1, 1] 3) (Tensor.fill [2, 77, 768] 0) () scheduler).answer :
          Except Halt (Tensor Int)).toOption.map fun t : Tensor Int => t.data.toList) =
      some [3, 3, 3, 3] := by
    rw [plannedScheduler_whole]
    decide +kernel
  obtain ⟨v, answered, data⟩ := Option.map_eq_some_iff.mp computed
  refine ⟨v, ?_, data⟩
  rw [Run.reference_answer]
  exact Halt.toOption_eq_some_iff.mp answered

/-- That export, with no parameters, writes an artifact that answers like the loop. -/
theorem invoke_exported_oneStep :
    ∃ outcome after path loaded left, ∃ v : Tensor Int,
      (withParameters World.host oneStep .empty .empty).run (.fresh []) = (.ok outcome, after) ∧
      outcome.artifactPath = some path ∧
      (LoadedArtifact.load World.host path .cpu none).run after = (.ok loaded, left) ∧
      (((Run.reference World.host (oneStepRun path) .ddim echo
        [Tensor.fill [1, 4, 1, 1] 3, Tensor.fill [2, 77, 768] 0]).run.run ()).run left).1.1 =
          .ok v ∧
      v.data.toList = [3, 3, 3, 3] ∧
      ((loaded.invoke echo [Tensor.fill [1, 4, 1, 1] 3, Tensor.fill [2, 77, 768] 0]).runOn ()).1 =
        .ok v := by
  obtain ⟨scheduler, traced, p, m, planned, recorded, lowered, checked, stands, short, peak,
    peakShort⟩ := oneStep_compiles
  obtain ⟨artifact, compiled, parsed⟩ := oneStep_artifact checked stands short peak peakShort
  have looks : SchedulerId.lookup oneStep.sampling.schedulerId = .ok .ddim := by
    have known : SchedulerId.parse? oneStep.sampling.schedulerId = some .ddim := by
      decide +kernel
    rw [SchedulerId.lookup, known]
  have sizes : shapesOf oneStep.sampling (ModelSpec.resolve oneStep.sampling.model) =
      .ok ⟨1, 8, 8, 768⟩ := by
    rfl
  obtain ⟨outcome, path, after, exported, named, read⟩ : ∃ outcome path after,
      (withParameters World.host oneStep .empty .empty).run (.fresh []) = (.ok outcome, after) ∧
      outcome.artifactPath = some path ∧
      after.tree.read after.directory path = .ok artifact.bytes :=
    exists_withParameters rfl rfl rfl rfl looks sizes planned recorded lowered compiled
      (oneStep_writable · artifact.bytes)
  have device : m.target.device = .cpu := by
    obtain ⟨-, peakBytes, -, rfl⟩ := Artifact.manifestOf_eq_ok checked
    rfl
  obtain ⟨loaded, left, loads⟩ : ∃ (loaded : LoadedArtifact whole) (left : World),
      (LoadedArtifact.load World.host path m.target.device none).run after = (.ok loaded, left) :=
    LoadedArtifact.exists_load read parsed
  rw [device] at loads
  obtain ⟨v, answered, data⟩ := oneStep_reference path left
  refine ⟨outcome, after, path, loaded, left, v, exported, named, loads, answered, data, ?_⟩
  obtain ⟨path', id, shapes, named', looked, shaped, answers⟩ :=
    invoke_exported whole_widensExactly whole_oneIsUnique whole_oneIsNeutral
      (whole_readsBack.keepsElements whole_widensExactly) whole_writesNumerals rfl exported
  cases named.symm.trans named'
  cases looks.symm.trans looked
  cases sizes.symm.trans shaped
  exact answers rfl loads echo (oneStepRun path) _ _ v () () left
    (Network.functional_ofFunction _) rfl rfl rfl answered

end Diffusion.Export
