import Diffusion.Parameters.Store
import Diffusion.Proofs.Files.Becoming
import Diffusion.Proofs.Parameters.Archive

/-!
Parameters that are unpacked into a directory and loaded from it.

Main statement: `unpack_spares`, by which nothing but the two files of a network is written, whether
or not all of them are, only parameters with keys of a network are unpacked, and what was unpacked
where nothing was is loaded again as it was.
-/

namespace Diffusion

open FileTree (placeOf Passes enter)

namespace Job

theorem keeps_file {P : World → Prop} {α : Type} {x : StateM World (Except FileFault α)}
    (error : FileFault → Error) (keeps : ∀ w, P w → P (x w).2) :
    Action.Keeps P (file x error) := by
  intro w holds
  have kept := keeps w holds
  change P ((file x error).run w).2
  rcases did : x w with ⟨fault | a, after⟩
  · rw [run_file_error did]
    rwa [did] at kept
  · rw [run_file_ok did]
    rwa [did] at kept

theorem keeps_forM {σ α : Type} {P : σ → Prop} {f : α → Job (StateM σ) Unit} {xs : List α}
    (each : ∀ x ∈ xs, Action.Keeps P (f x)) : Action.Keeps P (xs.forM f) := by
  induction xs with
  | nil => exact Action.keeps_pure ()
  | cons x rest ih =>
      obtain ⟨first, others⟩ := List.forall_mem_cons.mp each
      exact first.bind fun _ => ih others

end Job

namespace Parameters

variable {p : Parameters} {directory : String} {home place : Place} {start w after : World}
  {made written : Place → Prop}

/-! ### Where the files of a network are -/

/-- The place of a file of a network, seen from the directory of its model. -/
def fileIn (home : Place) (directory file : String) : Place :=
  placeOf home directory ++ ["unet", file]

theorem names_graphKey : FileTree.names graphKey = ["unet", "model.onnx"] := by rfl

theorem names_tensorsKey : FileTree.names tensorsKey = ["unet", "weights.pb"] := by rfl

theorem relative_of_allowed {key : String} (allowed : key ∈ allowedKeys) :
    Path.isAbsolute key = false := by
  rw [Bool.eq_false_iff, ne_eq, Path.isAbsolute_iff]
  rcases List.mem_pair.mp allowed with rfl | rfl <;> decide

theorem placeOf_graph (home : Place) (directory : String) :
    placeOf home (Path.join directory graphKey) = fileIn home directory "model.onnx" := by
  rw [FileTree.placeOf_join (relative_of_allowed (by decide)), names_graphKey]
  simp [fileIn, enter]

theorem placeOf_tensors (home : Place) (directory : String) :
    placeOf home (Path.join directory tensorsKey) = fileIn home directory "weights.pb" := by
  rw [FileTree.placeOf_join (relative_of_allowed (by decide)), names_tensorsKey]
  simp [fileIn, enter]

/-- On the way to a file of a network lie the places on the way to its directory, and one more. -/
theorem passes_file {key : String} (allowed : key ∈ allowedKeys)
    (passes : Passes home (Path.join directory key) place) :
    Passes home directory place ∨ place = placeOf home directory ++ ["unet"] ∨
      place = placeOf home (Path.join directory key) := by
  obtain ⟨file, parts⟩ : ∃ file, FileTree.names key = ["unet", file] := by
    rcases List.mem_pair.mp allowed with rfl | rfl
    · exact ⟨_, names_graphKey⟩
    · exact ⟨_, names_tensorsKey⟩
  have relative := relative_of_allowed allowed
  obtain ⟨front, inside, leads⟩ := passes
  rw [FileTree.start_join relative] at leads
  have two : FileTree.names (Path.join directory key) =
      (FileTree.names directory ++ ["unet"]) ++ [file] := by
    rw [FileTree.names_join relative, parts, List.append_assoc, List.singleton_append]
  rw [two] at inside
  rcases List.prefix_concat_iff.mp inside with rfl | shorter
  · rw [← two, ← FileTree.start_join relative, ← placeOf] at leads
    exact .inr (.inr leads.symm)
  · rcases List.prefix_concat_iff.mp shorter with rfl | within
    · rw [List.foldl_append, ← placeOf] at leads
      exact .inr (.inl (by simpa [enter] using leads.symm))
    · exact .inl ⟨front, within, leads⟩

/-! ### What unpacking changes -/

theorem keeps_makeParent {path : String}
    (kind : ∀ place, Passes start.directory path place → made place) :
    Action.Keeps (start.Becomes made written) (makeParent World.host path) := by
  unfold makeParent
  split
  · rename_i parent above
    exact Job.keeps_file _ fun w becomes => becomes.makeDirectories fun place passes =>
      kind place (FileTree.passes_of_parent? above passes)
  · exact Action.keeps_pure ()

theorem keeps_unpackBlob {b : Blob}
    (onWay : b.1 ∈ allowedKeys → ∀ place,
      Passes start.directory (Path.join directory b.1) place → made place)
    (there : b.1 ∈ allowedKeys → written (placeOf start.directory (Path.join directory b.1))) :
    Action.Keeps (start.Becomes made written) (unpackBlob World.host directory b) := by
  unfold unpackBlob
  split
  · rename_i allowed
    have key := List.contains_iff_mem.mp allowed
    exact (keeps_makeParent (onWay key)).bind fun _ =>
      Job.keeps_file _ fun w becomes => becomes.write (there key)
  · exact fun _ becomes => becomes

theorem of_unpackBlob_ok {b : Blob}
    (unpacked : (unpackBlob World.host directory b).run w = (.ok (), after)) :
    b.1 ∈ allowedKeys ∧
      after.tree.read after.directory (Path.join directory b.1) = .ok b.2 := by
  unfold unpackBlob at unpacked
  split at unpacked
  · rename_i allowed
    obtain ⟨_, between, -, wrote⟩ := Job.of_bind_ok unpacked
    exact ⟨List.contains_iff_mem.mp allowed, World.read_write (Job.of_file_ok wrote)⟩
  · cases unpacked

theorem allowed_of_forM_ok {blobs : List Blob}
    (unpacked : (blobs.forM (unpackBlob World.host directory)).run w = (.ok (), after)) :
    ∀ b ∈ blobs, b.1 ∈ allowedKeys := by
  induction blobs generalizing w with
  | nil => nofun
  | cons b rest ih =>
      obtain ⟨_, between, first, others⟩ := Job.of_bind_ok unpacked
      exact List.forall_mem_cons.mpr ⟨(of_unpackBlob_ok first).1, ih others⟩

/-- Parameters with a graph and no other keys than a network may have are the graph, alone or with
its tensors. -/
theorem blobs_of_allowed (keys : ∀ b ∈ p.blobs, b.1 ∈ allowedKeys)
    (graph : ∃ b ∈ p.blobs, b.1 = graphKey) :
    ∃ g, p.blobs = [(graphKey, g)] ∨ ∃ t, p.blobs = [(graphKey, g), (tensorsKey, t)] := by
  have few := length_blobs_le keys
  have sorted := p.sorted
  revert keys graph few sorted
  rcases p.blobs with _ | ⟨⟨key, g⟩, _ | ⟨⟨key', t⟩, _ | _⟩⟩
  · rintro - ⟨b, absent, -⟩
    cases absent
  · rintro - ⟨b, only, named⟩ - -
    cases List.mem_singleton.mp only
    exact ⟨g, .inl (by rw [show key = graphKey from named])⟩
  · intro keys _ _ sorted
    have below : key < key' := by simpa using sorted
    have first : key ∈ allowedKeys := keys _ List.mem_cons_self
    have second : key' ∈ allowedKeys := keys _ (List.mem_cons_of_mem _ List.mem_cons_self)
    have order : ∀ k ∈ allowedKeys, ∀ k' ∈ allowedKeys,
        k < k' → k = graphKey ∧ k' = tensorsKey := by
      decide
    obtain ⟨rfl, rfl⟩ := order key first key' second below
    exact ⟨g, .inr ⟨t, rfl⟩⟩
  · rintro - - few -
    simp at few

/-! ### Loading -/

theorem run_loadBlob {key : String} {bytes : ByteArray}
    (found : w.tree.read w.directory (Path.join directory key) = .ok bytes) (p : Parameters) :
    (loadBlob World.host directory key p).run w =
      (.ok (p.insert key bytes),
        { w with events := w.events.push (.blobLoaded key bytes.size) }) := by
  have read : World.host.read (Path.join directory key) w = (.ok bytes, w) := by
    rw [World.read_run, found]
  rw [loadBlob, Job.run_bind_ok (Job.run_file_ok read)]
  rfl

/-- The graph that is there is loaded, and what else of a network is there. -/
theorem run_loadModel {g : ByteArray}
    (found : w.tree.read w.directory (Path.join directory graphKey) = .ok g) :
    let loaded := { w with events := w.events.push (.blobLoaded graphKey g.size) }
    (loadModel World.host directory).run w =
      if w.tree.holds w.directory (Path.join directory tensorsKey) then
        (loadBlob World.host directory tensorsKey (empty.insert graphKey g)).run loaded
      else (.ok (empty.insert graphKey g), loaded) := by
  intro loaded
  rw [loadModel, Job.run_bind_ok (World.holds_run _ w), FileTree.holds_of_read found, if_pos rfl,
    Job.run_bind_ok (run_loadBlob found empty), Job.run_bind_ok (World.holds_run _ _)]
  split <;> rfl

/-! ### Unpacking and loading -/

theorem becomes_of_unpackBlob {b : Blob}
    (unpacked : (unpackBlob World.host directory b).run w = (.ok (), after)) :
    w.Becomes (Passes w.directory (Path.join directory b.1))
      (· = placeOf w.directory (Path.join directory b.1)) after := by
  have keeps : Action.Keeps (w.Becomes (Passes w.directory (Path.join directory b.1))
      (· = placeOf w.directory (Path.join directory b.1))) (unpackBlob World.host directory b) :=
    keeps_unpackBlob (fun _ _ passes => passes) fun _ => rfl
  have becomes := keeps w (.refl w)
  rwa [show (Action.runOn (unpackBlob World.host directory b) w).2 = after from
    congrArg Prod.snd unpacked] at becomes

/-- A graph that was unpacked alone is loaded alone, unless something else is at the place of the
tensors. -/
theorem loadModel_of_graph {g : ByteArray}
    (unpacked : (unpackBlob World.host directory (graphKey, g)).run w = (.ok (), after))
    (free : w.tree.find? (fileIn w.directory directory "weights.pb") = none)
    (aside : ¬ Passes w.directory directory (fileIn w.directory directory "weights.pb")) :
    ∃ final, (loadModel World.host directory).run after =
      (.ok (empty.insert graphKey g), final) := by
  have becomes := becomes_of_unpackBlob unpacked
  have other : fileIn w.directory directory "weights.pb" ≠
      placeOf w.directory (Path.join directory graphKey) := by
    rw [placeOf_graph]
    simp [fileIn]
  have nothing : after.tree.find? (fileIn w.directory directory "weights.pb") = none := by
    rcases becomes.tree (fileIn w.directory directory "weights.pb") with
      same | ⟨passes, -, -⟩ | ⟨written, -, -⟩
    · exact same.trans free
    · rcases passes_file List.mem_cons_self passes with onWay | directory | file
      · exact absurd onWay aside
      · simp [fileIn] at directory
      · exact absurd file other
    · exact absurd written other
  have absent : after.tree.holds after.directory (Path.join directory tensorsKey) = false := by
    apply FileTree.holds_eq_false
    rwa [becomes.directory_eq, placeOf_tensors]
  rw [run_loadModel (of_unpackBlob_ok unpacked).2, absent]
  exact ⟨_, rfl⟩

/-- A graph and tensors that were unpacked are loaded. -/
theorem loadModel_of_both {g t : ByteArray} {between : World}
    (graph : (unpackBlob World.host directory (graphKey, g)).run w = (.ok (), between))
    (tensors : (unpackBlob World.host directory (tensorsKey, t)).run between = (.ok (), after)) :
    ∃ final, (loadModel World.host directory).run after =
      (.ok ((empty.insert graphKey g).insert tensorsKey t), final) := by
  have becomes := becomes_of_unpackBlob tensors
  have apart : ¬ placeOf between.directory (Path.join directory graphKey) =
      placeOf between.directory (Path.join directory tensorsKey) := by
    rw [placeOf_graph, placeOf_tensors]
    simp [fileIn]
  have found : after.tree.read after.directory (Path.join directory graphKey) = .ok g := by
    rw [becomes.directory_eq]
    exact becomes.tree.read_eq_ok apart (of_unpackBlob_ok graph).2
  have foundToo : after.tree.read after.directory (Path.join directory tensorsKey) = .ok t :=
    (of_unpackBlob_ok tensors).2
  let loaded : World := { after with events := after.events.push (.blobLoaded graphKey g.size) }
  have still : loaded.tree.read loaded.directory (Path.join directory tensorsKey) = .ok t :=
    foundToo
  rw [run_loadModel found, FileTree.holds_of_read foundToo, if_pos rfl]
  exact ⟨_, run_loadBlob still _⟩

/-- Unpacking writes the two files of a network in the directory of its model and nothing else,
whether or not it succeeds. It succeeds for no other keys, and what was unpacked where no tensors
were is loaded again. -/
theorem unpack_spares (p : Parameters) (directory : String) (w : World) :
    let ran := (p.unpack World.host directory).run w
    let graph := fileIn w.directory directory "model.onnx"
    let tensors := fileIn w.directory directory "weights.pb"
    ran.2 = { w with tree := ran.2.tree } ∧
    (∀ place, place ≠ graph → place ≠ tensors →
      ran.2.tree.find? place = w.tree.find? place ∨
        (Passes w.directory directory place ∨ place = placeOf w.directory directory ++ ["unet"]) ∧
          w.tree.find? place = none ∧ ran.2.tree.find? place = some .directory) ∧
    (ran.1 = .ok () → ∀ b ∈ p.blobs, b.1 ∈ allowedKeys) ∧
    (ran.1 = .ok () → (∃ b ∈ p.blobs, b.1 = graphKey) →
      ((∃ b ∈ p.blobs, b.1 = tensorsKey) ∨
        w.tree.find? tensors = none ∧ ¬ Passes w.directory directory tensors) →
      ∃ final, (loadModel World.host directory).run ran.2 = (.ok p, final)) := by
  intro ran graph tensors
  have becomes : w.Becomes
      (fun place => ∃ key ∈ allowedKeys, Passes w.directory (Path.join directory key) place)
      (fun place => ∃ key ∈ allowedKeys, place = placeOf w.directory (Path.join directory key))
      ran.2 :=
    Job.keeps_forM (fun b _ => keeps_unpackBlob (fun allowed _ passes => ⟨b.1, allowed, passes⟩)
      fun allowed => ⟨b.1, allowed, rfl⟩) w (.refl w)
  have file : ∀ key ∈ allowedKeys, placeOf w.directory (Path.join directory key) = graph ∨
      placeOf w.directory (Path.join directory key) = tensors := by
    intro key allowed
    rcases List.mem_pair.mp allowed with rfl | rfl
    · exact .inl (placeOf_graph _ _)
    · exact .inr (placeOf_tensors _ _)
  refine ⟨becomes.rest, fun place notGraph notTensors => ?_, fun done => ?_,
    fun done held free => ?_⟩
  · rcases becomes.tree place with same | ⟨⟨key, allowed, passes⟩, made⟩ | ⟨⟨key, allowed, here⟩, -⟩
    · exact .inl same
    · have there : place ≠ placeOf w.directory (Path.join directory key) := by
        rcases file key allowed with same | same <;> rw [same] <;> assumption
      exact .inr ⟨(passes_file allowed passes).imp_right (·.resolve_right there), made⟩
    · rcases file key allowed with same | same
      · exact absurd (here.trans same) notGraph
      · exact absurd (here.trans same) notTensors
  · exact allowed_of_forM_ok (Prod.ext done rfl : ran = (.ok (), ran.2))
  · have unpacked : (p.unpack World.host directory).run w = (.ok (), ran.2) := Prod.ext done rfl
    obtain ⟨g, alone | ⟨t, both⟩⟩ := blobs_of_allowed (allowed_of_forM_ok unpacked) held
    · rw [unpack, alone] at unpacked
      obtain ⟨_, between, first, last⟩ := Job.of_bind_ok unpacked
      have same : ran.2 = between := (congrArg Prod.snd last).symm
      have missing : ¬ ∃ b ∈ p.blobs, b.1 = tensorsKey := by
        rw [alone]
        rintro ⟨b, only, named⟩
        cases List.mem_singleton.mp only
        exact absurd (show graphKey = tensorsKey from named) (by decide)
      obtain ⟨nothing, aside⟩ := free.resolve_left missing
      rw [same, ← ofList_blobs p, alone]
      exact loadModel_of_graph first nothing aside
    · rw [unpack, both] at unpacked
      obtain ⟨_, between, first, others⟩ := Job.of_bind_ok unpacked
      obtain ⟨_, final, second, last⟩ := Job.of_bind_ok others
      have same : ran.2 = final := (congrArg Prod.snd last).symm
      rw [same, ← ofList_blobs p, both]
      exact loadModel_of_both first second

/-- A graph of three bytes without tensors. -/
def shortGraph : Parameters := empty.insert graphKey ⟨#[1, 2, 3]⟩

/-- What comes of unpacking it where nothing is yet. -/
def unpacking (directory : String) : Except Halt Unit × World :=
  (shortGraph.unpack World.host directory).run (.fresh [])

/-- A graph that is unpacked into a directory that is still to be made. -/
theorem unpack_spares_shortGraph :
    (unpacking "m").1 = .ok () ∧
      ∃ final, (loadModel World.host "m").run (unpacking "m").2 = (.ok shortGraph, final) := by
  have done : (unpacking "m").1 = .ok () := Halt.toOption_eq_some_iff.mp (by decide +kernel)
  refine ⟨done, ?_⟩
  exact (unpack_spares shortGraph "m" (.fresh [])).2.2.2 done ⟨_, List.mem_singleton_self _, rfl⟩
    (.inr ⟨Option.isNone_iff_eq_none.mp (by decide +kernel), by decide +kernel⟩)

/-- On the way to this directory another one is made where tensors would be, and there the loading
ends. -/
theorem unpack_throughTensors :
    (World.fresh []).tree.entries = [] ∧ (unpacking "unet/weights.pb/../..").1 = .ok () ∧
      ¬ ∃ final, (loadModel World.host "unet/weights.pb/../..").run
        (unpacking "unet/weights.pb/../..").2 = (.ok shortGraph, final) := by
  have ends : (unpacking "unet/weights.pb/../..").1.toOption = some () ∧
      ((loadModel World.host "unet/weights.pb/../..").run
        (unpacking "unet/weights.pb/../..").2).1.toOption.isSome = false := by
    decide +kernel
  refine ⟨rfl, Halt.toOption_eq_some_iff.mp ends.1, ?_⟩
  rintro ⟨final, loaded⟩
  have failed := ends.2
  rw [loaded] at failed
  cases failed

end Parameters

end Diffusion
