import Diffusion.Proofs.Artifact.Provenance
import Diffusion.Run

/-!
What exports and runs do, step by step.

A program that ended well is taken apart into its steps, and steps that end well are put together
to a program. Main statements: `of_withParameters_ok` and `exists_withParameters`, for exports to an
artifact, and `reference_answer`, for the loop that a run is compared with.
-/

namespace Diffusion

namespace Export

variable {A : Arithmetic}

/-! ### What an export went through -/

theorem of_buildProgram_ok {config : ExportConfig A} {id : SchedulerId} {model : ModelSpec}
    {shapes : InputShapes} {before after : World} {p : Program A}
    (binary : config.compileTo = .binary)
    (built : (buildProgram World.host config id model shapes).run before = (.ok p, after)) :
    ∃ scheduler whole, plannedScheduler config.sampling id model = .ok scheduler ∧
      (Trace.sample scheduler shapes config.sampling.guidance).program = .ok whole ∧
      whole.lower = .ok p := by
  obtain ⟨scheduler, _, planned, rest⟩ := Job.of_bind_ok built
  obtain ⟨_, _, -, rest⟩ := Job.of_bind_ok rest
  obtain ⟨whole, _, traced, rest⟩ := Job.of_bind_ok rest
  rw [binary] at rest
  obtain ⟨lowered, _, lowers, rest⟩ := Job.of_bind_ok rest
  obtain ⟨_, _, -, rest⟩ := Job.of_bind_ok rest
  obtain ⟨_, _, same, rest⟩ := Job.of_bind_ok rest
  cases same
  obtain ⟨_, _, -, same⟩ := Job.of_bind_ok rest
  cases same
  exact ⟨scheduler, whole, (Job.of_ofExcept_ok planned).1, (Job.of_ofExcept_ok traced).1,
    (Job.of_ofExcept_ok lowers).1⟩

theorem of_writeArtifact_ok {r : Artifact.Request A} {path : String} {before after : World}
    (wrote : (writeArtifact World.host r path).run before = (.ok (), after)) :
    ∃ artifact, Artifact.compile r = .ok artifact ∧
      after.tree.read after.directory path = .ok artifact.bytes := by
  obtain ⟨_, _, -, rest⟩ := Job.of_bind_ok wrote
  obtain ⟨artifact, _, compiled, rest⟩ := Job.of_bind_ok rest
  obtain ⟨_, between, written, logged⟩ := Job.of_bind_ok rest
  have read := World.read_write (Job.of_file_ok written)
  cases logged
  exact ⟨artifact, (Job.of_ofExcept_ok compiled).1, read⟩

theorem of_artifact_step {r : Artifact.Request A} {path : String} {record : Option String → Outcome}
    (named : ∀ path, (record path).artifactPath = path) {before after : World} {outcome : Outcome}
    (ran : (do
      writeArtifact World.host r path
      let artifactPath ← pure (some path)
      return record artifactPath : Job (StateM World) Outcome).run before =
        (.ok outcome, after)) :
    outcome.artifactPath = some path ∧ ∃ artifact, Artifact.compile r = .ok artifact ∧
      after.tree.read after.directory path = .ok artifact.bytes := by
  obtain ⟨_, _, wrote, rest⟩ := Job.of_bind_ok ran
  obtain ⟨_, _, ⟨⟩, ⟨⟩⟩ := Job.of_bind_ok rest
  exact ⟨named _, of_writeArtifact_ok wrote⟩

/-- What an export that ended with an artifact went through. -/
theorem of_withParameters_ok {config : ExportConfig A} {tool : ToolConfig}
    {parameters : Parameters} {before after : World} {outcome : Outcome}
    (binary : config.compileTo = .binary)
    (exported : (withParameters World.host config tool parameters).run before =
      (.ok outcome, after)) :
    let sampling := config.sampling
    let model := ModelSpec.resolve sampling.model
    ∃ id shapes scheduler whole r artifact path,
      SchedulerId.lookup sampling.schedulerId = .ok id ∧ shapesOf sampling model = .ok shapes ∧
      plannedScheduler sampling id model = .ok scheduler ∧
      (Trace.sample scheduler shapes sampling.guidance).program = .ok whole ∧
      whole.lower = .ok (Artifact.Request.program r) ∧ Artifact.compile r = .ok artifact ∧
      outcome.artifactPath = some path ∧
      after.tree.read after.directory path = .ok artifact.bytes := by
  intro sampling model
  obtain ⟨id, _, looked, rest⟩ := Job.of_bind_ok exported
  obtain ⟨shapes, _, shaped, rest⟩ := Job.of_bind_ok rest
  obtain ⟨program, _, built, rest⟩ := Job.of_bind_ok rest
  obtain ⟨scheduler, whole, planned, traced, lowered⟩ := of_buildProgram_ok binary built
  obtain ⟨_, _, -, rest⟩ := Job.of_bind_ok rest
  obtain ⟨weights, _, -, rest⟩ := Job.of_bind_ok rest
  obtain ⟨_, _, -, rest⟩ := Job.of_bind_ok rest
  obtain ⟨_, _, -, rest⟩ := Job.of_bind_ok rest
  rw [binary] at rest
  let r : Artifact.Request A := {
    program
    target := config.target
    parameters
    weightsMode := if weights.isSome then .outside else .inside }
  have written : ∃ path, outcome.artifactPath = some path ∧
      ∃ artifact, Artifact.compile r = .ok artifact ∧
        after.tree.read after.directory path = .ok artifact.bytes := by
    dsimp only at rest
    split at rest
    · obtain ⟨_, _, -, rest⟩ := Job.of_bind_ok rest
      exact ⟨_, of_artifact_step (fun _ => rfl) rest⟩
    · exact ⟨_, of_artifact_step (fun _ => rfl) rest⟩
  obtain ⟨path, named, artifact, compiled, read⟩ := written
  exact ⟨id, shapes, scheduler, whole, r, artifact, path, (Job.of_ofResult_ok looked).1,
    (Job.of_ofResult_ok shaped).1, planned, traced, lowered, compiled, named, read⟩

/-! ### Exports that end well -/

theorem run_logAll (events : List Event) (w : World) :
    ∃ logged, (logAll World.host events).run w = (.ok (), { w with events := logged }) := by
  induction events generalizing w with
  | nil => exact ⟨w.events, rfl⟩
  | cons event rest ih =>
      obtain ⟨logged, ran⟩ := ih { w with events := w.events.push event }
      exact ⟨logged, ran⟩

theorem run_buildProgram {config : ExportConfig A} {id : SchedulerId} {model : ModelSpec}
    {shapes : InputShapes} {scheduler : Scheduler A Value} {whole p : Program A}
    (binary : config.compileTo = .binary)
    (planned : plannedScheduler config.sampling id model = .ok scheduler)
    (traced : (Trace.sample scheduler shapes config.sampling.guidance).program = .ok whole)
    (lowered : whole.lower = .ok p) (w : World) :
    ∃ logged, (buildProgram World.host config id model shapes).run w =
      (.ok p, { w with events := logged }) := by
  obtain ⟨logged, logs⟩ :=
    run_logAll (Trace.sample scheduler shapes config.sampling.guidance).events w
  unfold buildProgram
  rw [planned, Job.ofExcept_ok_bind]
  dsimp only
  rw [Job.run_bind_ok logs, traced, Job.ofExcept_ok_bind, binary]
  dsimp only
  rw [lowered, Job.ofExcept_ok_bind]
  exact ⟨_, rfl⟩

theorem run_writeArtifact {r : Artifact.Request A} {path : String} {artifact : Artifact A}
    {w : World} {tree : FileTree} (compiled : Artifact.compile r = .ok artifact)
    (written : w.tree.write w.directory path artifact.bytes = .ok tree) :
    ∃ logged, (writeArtifact World.host r path).run w =
      (.ok (), { w with tree, events := logged }) := by
  obtain ⟨logged, logs⟩ := run_logAll (Artifact.compileEvents r) w
  have did : World.host.write path artifact.bytes { w with events := logged } =
      (.ok (), { w with tree, events := logged }) := by
    rw [World.write_run]
    dsimp only
    rw [written]
  unfold writeArtifact
  rw [Job.run_bind_ok logs, compiled, Job.ofExcept_ok_bind,
    Job.run_bind_ok (Job.run_file_ok did)]
  exact ⟨_, rfl⟩

/-- An export into the working directory, with parameters inside the artifact, ends well if the loop
can be traced, lowered and compiled and both files can be written. -/
theorem exists_withParameters {config : ExportConfig A} {tool : ToolConfig}
    {parameters : Parameters} {id : SchedulerId} {shapes : InputShapes}
    {scheduler : Scheduler A Value} {whole p : Program A} {artifact : Artifact A} {w : World}
    (binary : config.compileTo = .binary) (within : config.externalWeights = none)
    (kept : config.upload = false) (here : config.outputDir = "")
    (looked : SchedulerId.lookup config.sampling.schedulerId = .ok id)
    (shaped : shapesOf config.sampling (ModelSpec.resolve config.sampling.model) = .ok shapes)
    (planned : plannedScheduler config.sampling id (ModelSpec.resolve config.sampling.model) =
      .ok scheduler)
    (traced : (Trace.sample scheduler shapes config.sampling.guidance).program = .ok whole)
    (lowered : whole.lower = .ok p)
    (compiled : Artifact.compile ⟨p, config.target, parameters, .inside⟩ = .ok artifact)
    (writable : let name := ModelSpec.safeName config.sampling.model "-scheduler"
      ∀ listing, ∃ tree,
        w.tree.write w.directory (Path.join "" (name ++ ".mlir")) listing = .ok tree ∧
        ∃ tree', tree.write w.directory (Path.join "" (name ++ ".artifact")) artifact.bytes =
          .ok tree') :
    ∃ outcome path after,
      (withParameters World.host config tool parameters).run w = (.ok outcome, after) ∧
      outcome.artifactPath = some path ∧
      after.tree.read after.directory path = .ok artifact.bytes := by
  obtain ⟨logged, built⟩ := run_buildProgram binary planned traced lowered w
  have made : (World.host.makeDirectories "") { w with events := logged } =
      (.ok (), { w with events := logged }) := by
    rw [Host.makeDirectories_empty]
    rfl
  have lookedUp : (Job.ofResult (SchedulerId.lookup config.sampling.schedulerId) :
      Job (StateM World) _) = Job.ofExcept (.ok id) := by
    rw [looked]
    rfl
  have sized : (Job.ofResult (shapesOf config.sampling (ModelSpec.resolve config.sampling.model)) :
      Job (StateM World) _) = Job.ofExcept (.ok shapes) := by
    rw [shaped]
    rfl
  unfold withParameters
  rw [lookedUp, Job.ofExcept_ok_bind]
  dsimp only
  rw [sized, Job.ofExcept_ok_bind, Job.run_bind_ok built, here,
    Job.run_bind_ok (Job.run_file_ok made)]
  unfold writeWeights
  rw [within, kept, binary]
  let name := ModelSpec.safeName config.sampling.model "-scheduler"
  let listing := (p.listing CompileStage.binary.text (globalsOf parameters) .embedded).toUTF8
  obtain ⟨tree, listed, tree', packed⟩ := writable listing
  have wrote : World.host.write (Path.join "" (name ++ ".mlir")) listing
      { w with events := logged } = (.ok (), { w with tree, events := logged }) := by
    rw [World.write_run]
    dsimp only
    rw [listed]
  change ∃ outcome path after, ExceptT.run
    (Job.file (World.host.write (Path.join "" (name ++ ".mlir")) listing) _ >>= _) _ = _ ∧ _
  rw [Job.run_bind_ok (Job.run_file_ok wrote)]
  let printed : World := { w with
    tree
    events := logged
    lines := w.lines.push ("Saved to " ++ Path.join "" (name ++ ".mlir")) }
  obtain ⟨logged', ran⟩ := run_writeArtifact (w := printed) compiled packed
  change ∃ outcome path after, ExceptT.run (writeArtifact World.host
    ⟨p, config.target, parameters, .inside⟩ (Path.join "" (name ++ ".artifact")) >>= _) printed =
      _ ∧ _
  rw [Job.run_bind_ok ran]
  exact ⟨_, _, _, rfl, rfl, FileTree.read_write packed⟩

end Export

namespace Run

variable {A : Arithmetic} {ν : Type}

theorem run_bind_ok {α β : Type} {x : Job (StateT ν (StateM World)) α}
    {f : α → Job (StateT ν (StateM World)) β} {s between : ν} {w after : World} {a : α}
    (first : (x.run.run s).run w = ((.ok a, between), after)) :
    ((x >>= f).run.run s).run w = ((f a).run.run between).run after := by
  change (ExceptT.bindCont f ((x.run.run s).run w).1.1).run ((x.run.run s).run w).1.2
    ((x.run.run s).run w).2 = _
  rw [first]
  rfl

theorem logAll_run (events : List Event) (state : ν) (w : World) :
    ∃ logged, ((Export.logAll (World.host.withState ν) events).run.run state).run w =
      ((.ok (), state), logged) := by
  induction events generalizing w with
  | nil => exact ⟨w, rfl⟩
  | cons event rest ih =>
      obtain ⟨logged, ran⟩ := ih { w with events := w.events.push event }
      exact ⟨logged, ran⟩

/-- The loop that a run is compared with ends as the loop on the planned scheduler ends. -/
theorem reference_answer (config : RunConfig A) (id : SchedulerId) (network : Network A ν)
    (latents conditioning : Tensor A.Elem) (start : ν) (w : World) :
    (((reference World.host config id network [latents, conditioning]).run.run start).run w).1.1 =
      (do
        let scheduler ← Export.plannedScheduler config.sampling id
          (ModelSpec.resolve config.sampling.model)
        (Sampling.outcome (Backend.eager (some network)) config.sampling.guidance latents
          conditioning start scheduler).answer) := by
  unfold reference
  dsimp only
  cases planned : Export.plannedScheduler (τ := Tensor A.Elem) config.sampling id
      (ModelSpec.resolve config.sampling.model) with
  | error h => rfl
  | ok scheduler =>
      let ran := Sampling.outcome (Backend.eager (some network)) config.sampling.guidance latents
        conditioning start scheduler
      let events := Sampling.events (A := A) scheduler.timesteps ran.completed fun step total =>
        [.referenceStep step total]
      obtain ⟨logged, logs⟩ := logAll_run events ran.backend w
      change (((Export.logAll (World.host.withState ν) events >>= fun _ =>
        Job.ofExcept ran.answer).run.run ran.backend).run w).1.1 = ran.answer
      rw [run_bind_ok logs]
      rfl

end Run

end Diffusion
