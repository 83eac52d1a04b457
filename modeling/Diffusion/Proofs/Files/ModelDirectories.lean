import Diffusion.ModelFiles
import Diffusion.Proofs.Parameters.Unpacked

/-!
Where models are kept, and when one is taken for another.

The directory of a model is named by the last segment of its identifier, with underscores for
hyphens, so much of an identifier does not count. Main statement: `ModelSpec.directories_apart`, by
which two models are kept apart as far as these names are, and the graph that was put there for one
model is taken for the other as soon as their directories are one place.
-/

namespace Diffusion

namespace ModelFiles

variable {w : World} {directory : String}

theorem missing_run (directory : String) (w : World) :
    (missing World.host directory).run w =
      (.ok (if w.tree.holds w.directory (Path.join directory Parameters.graphKey) then []
        else [Parameters.graphKey]), w) := by
  rw [missing, required, List.filterM, List.filterAuxM, bind_assoc, bind_assoc,
    Job.run_bind_ok (World.holds_run _ w)]
  cases w.tree.holds w.directory (Path.join directory Parameters.graphKey) <;> rfl

/-- The graph that is there is left alone, and nothing is asked for. -/
theorem ensure_of_there (model : ModelSpec) (token : Option String)
    (there : w.tree.holds w.directory (Path.join directory Parameters.graphKey) = true) :
    (ensure World.host model token directory).run w =
      (.ok (), { w with events := w.events.push (.modelPresent directory) }) := by
  have none := missing_run directory w
  rw [if_pos there] at none
  rw [ensure, Job.run_bind_ok none]
  rfl

theorem request_fails (model : ModelSpec) (token : Option String) (directory file : String)
    (w : World) :
    ∃ h after, (request World.host model token directory file).run w = (.error h, after) := by
  have refused (w : World) : ∃ h after, (if (token.map isHeaderText).getD true then
      Job.fail (.transferUnavailable (model.fileUrl file))
      else Job.fail (.requestRefused (model.fileUrl file)) : Job (StateM World) Unit).run w =
        (.error h, after) := by
    split <;> exact ⟨_, _, rfl⟩
  unfold request
  dsimp only
  split
  · rename_i parent _
    rcases made : (Job.file (World.host.makeDirectories parent) (.downloadDirectory parent) :
      Job (StateM World) Unit).run w with ⟨h | _, after⟩
    · exact ⟨h, after, Job.run_bind_error made⟩
    · rw [Job.run_bind_ok made]
      exact refused after
  · exact refused w

/-- Without the graph something is asked for, and nothing is transferred here. -/
theorem ensure_of_absent (model : ModelSpec) (token : Option String)
    (absent : w.tree.holds w.directory (Path.join directory Parameters.graphKey) = false) :
    ∃ h after, (ensure World.host model token directory).run w = (.error h, after) := by
  let logged : World := { w with events := w.events.push (.downloading model.id directory) }
  have one := missing_run directory w
  have still := missing_run directory logged
  have log : (Job.call (World.host.log (.downloading model.id directory)) :
      Job (StateM World) Unit).run w = (.ok (), logged) := rfl
  rw [if_neg (by simp [absent])] at one
  rw [if_neg (by simp [logged, absent])] at still
  rw [ensure, Job.run_bind_ok one, if_neg (by simp), Job.run_bind_ok log, Job.run_bind_ok still]
  obtain ⟨h, after, failed⟩ := request_fails model token directory Parameters.graphKey logged
  refine ⟨h, after, ?_⟩
  rw [List.forIn_cons, bind_assoc]
  exact Job.run_bind_error (Job.run_bind_error failed)

end ModelFiles

namespace ModelSpec

open FileTree (placeOf)

variable {cwd : Place} {root a b id name : String}

/-! ### Names of directories -/

theorem no_slash_safeName (id : String) : '/' ∉ (safeName id "").toList := by
  have last : '/' ∉ (lastSegment id).toList := by
    intro member
    rw [lastSegment, String.toList_ofList, List.mem_reverse] at member
    simpa using List.all_eq_true.mp List.all_takeWhile _ member
  rw [safeName, String.append_empty, replaceChar, String.toList_map]
  intro member
  obtain ⟨c, inside, slash⟩ := List.mem_map.mp member
  split at slash
  · cases slash
  · rw [slash] at inside
    exact last inside

theorem relative_safeName (id : String) : Path.isAbsolute (safeName id "") = false := by
  rw [Bool.eq_false_iff, ne_eq, Path.isAbsolute_iff]
  exact fun first => no_slash_safeName id (List.mem_of_head? first)

theorem directory_eq_iff :
    (resolve a).directory root = (resolve b).directory root ↔ safeName a "" = safeName b "" := by
  refine ⟨fun same => ?_, congrArg (Path.join root)⟩
  have joined : Path.join root (safeName a "") = Path.join root (safeName b "") := same
  unfold Path.join at joined
  rw [relative_safeName, relative_safeName] at joined
  split at joined
  · exact joined
  · split at joined <;> exact (String.append_right_inj _).mp joined

/-- A name that leads from a directory to one inside it. -/
def IsPlain (name : String) : Prop := name ≠ "" ∧ name ≠ "." ∧ name ≠ ".."

theorem placeOf_directory (cwd : Place) (root id : String) :
    placeOf cwd ((resolve id).directory root) =
      if safeName id "" = "" then placeOf cwd root
      else FileTree.enter (placeOf cwd root) (safeName id "") := by
  change placeOf cwd (Path.join root (safeName id "")) = _
  rw [FileTree.placeOf_join (relative_safeName id),
    FileTree.names_of_no_slash (no_slash_safeName id)]
  simp only [String.isEmpty_iff]
  split <;> rfl

theorem placeOf_directory_of_plain (plain : IsPlain (safeName id "")) :
    placeOf cwd ((resolve id).directory root) = placeOf cwd root ++ [safeName id ""] := by
  rw [placeOf_directory, if_neg plain.1, FileTree.enter, if_neg plain.2.1, if_neg plain.2.2]

theorem length_placeOf_directory_le (odd : ¬ IsPlain (safeName id "")) :
    (placeOf cwd ((resolve id).directory root)).length ≤ (placeOf cwd root).length := by
  rw [placeOf_directory]
  by_cases empty : safeName id "" = ""
  · exact Nat.le_of_eq (congrArg List.length (if_pos empty))
  · rw [if_neg empty, FileTree.enter]
    by_cases dot : safeName id "" = "."
    · exact Nat.le_of_eq (congrArg List.length (if_pos dot))
    · have dots : safeName id "" = ".." := by
        by_contra other
        exact odd ⟨empty, dot, other⟩
      rw [if_neg dot, if_pos dots, List.length_dropLast]
      exact Nat.sub_le _ _

/-- A place inside another one. -/
def Inside (place above : Place) : Prop := above <+: place ∧ above.length < place.length

theorem inside_iff :
    Inside (placeOf cwd ((resolve id).directory root)) (placeOf cwd root) ↔
      IsPlain (safeName id "") := by
  constructor
  · intro inside
    by_contra odd
    exact absurd inside.2 (Nat.not_lt.mpr (length_placeOf_directory_le odd))
  · intro plain
    rw [placeOf_directory_of_plain plain]
    exact ⟨List.prefix_append _ _, by simp⟩

theorem placeOf_eq_iff (plain : IsPlain (safeName a "")) :
    placeOf cwd ((resolve a).directory root) = placeOf cwd ((resolve b).directory root) ↔
      safeName a "" = safeName b "" := by
  refine ⟨fun same => ?_, fun same => congrArg (placeOf cwd) (directory_eq_iff.mpr same)⟩
  by_cases other : IsPlain (safeName b "")
  · rw [placeOf_directory_of_plain plain, placeOf_directory_of_plain other] at same
    simpa using same
  · have short : (placeOf cwd ((resolve b).directory root)).length ≤ (placeOf cwd root).length :=
      length_placeOf_directory_le other
    rw [← same, placeOf_directory_of_plain plain] at short
    rw [List.length_append, List.length_singleton] at short
    omega

/-! ### Graphs that are there -/

/-- Where the graph of a model is kept. -/
def graphPath (root id : String) : String :=
  Path.join ((resolve id).directory root) Parameters.graphKey

theorem placeOf_graphPath (cwd : Place) (root id : String) :
    placeOf cwd (graphPath root id) =
      placeOf cwd ((resolve id).directory root) ++ ["unet", "model.onnx"] :=
  Parameters.placeOf_graph cwd ((resolve id).directory root)

/-- The second machine is the first one after a graph was put where that of a model is kept. -/
def Caches (root id : String) (w w' : World) : Prop :=
  ∃ bytes, World.host.write (graphPath root id) bytes w = (.ok (), w')

/-- Making sure of the files of a model takes what is there for its own, and asks for nothing. -/
def TakesCached (root id : String) (token : Option String) (w : World) : Prop :=
  let directory := (resolve id).directory root
  (ModelFiles.ensure World.host (resolve id) token directory).run w =
    (.ok (), { w with events := w.events.push (.modelPresent directory) })

theorem takesCached_iff {token : Option String} {w : World} :
    TakesCached root id token w ↔ w.tree.holds w.directory (graphPath root id) = true := by
  constructor
  · intro takes
    by_contra absent
    obtain ⟨h, after, failed⟩ :=
      ModelFiles.ensure_of_absent (resolve id) token (Bool.eq_false_iff.mpr absent)
    cases failed.symm.trans takes
  · exact ModelFiles.ensure_of_there (resolve id) token

variable {token : Option String} {w w' : World}

theorem tree_of_caches (caches : Caches root id w w') :
    w'.directory = w.directory ∧
      ∃ bytes, w.tree.write w.directory (graphPath root id) bytes = .ok w'.tree := by
  obtain ⟨bytes, ran⟩ := caches
  rw [World.write_run] at ran
  split at ran
  · rename_i tree written
    cases ran
    exact ⟨rfl, bytes, written⟩
  · cases ran

/-- A graph that was put there for one model is taken for all of the same directory. -/
theorem takesCached_of_same (caches : Caches root a w w')
    (same : safeName a "" = safeName b "") : TakesCached root b token w' := by
  obtain ⟨here, bytes, written⟩ := tree_of_caches caches
  have path : graphPath root a = graphPath root b :=
    congrArg (Path.join · Parameters.graphKey) (directory_eq_iff.mpr same)
  rw [takesCached_iff, here, ← path]
  exact FileTree.holds_written written

/-- It is taken for no model that had none and whose directory is another place. -/
theorem placeOf_eq_of_takesCached (caches : Caches root a w w')
    (lacks : w.tree.holds w.directory (graphPath root b) = false)
    (takes : TakesCached root b token w') :
    placeOf w.directory ((resolve a).directory root) =
      placeOf w.directory ((resolve b).directory root) := by
  obtain ⟨here, bytes, written⟩ := tree_of_caches caches
  rw [takesCached_iff, here] at takes
  by_contra other
  have apart : placeOf w.directory (graphPath root b) ≠ placeOf w.directory (graphPath root a) := by
    rw [placeOf_graphPath, placeOf_graphPath]
    exact fun same => other (List.append_cancel_right same).symm
  rw [FileTree.holds_of_apart written apart, lacks] at takes
  cases takes

/-- Two models have one directory exactly if they have one name for files. The directory of a model
is inside the root exactly if that name is neither empty nor made of dots, and then it is no place
of a model of another name. A graph that is put there for one model is taken for all models of the
same name, and for others only if their directories are one place all the same. -/
theorem directories_apart (root a b : String) :
    ((resolve a).directory root = (resolve b).directory root ↔
      safeName a "" = safeName b "") ∧
    ∀ w : World,
      let place id := placeOf w.directory ((resolve id).directory root)
      (Inside (place a) (placeOf w.directory root) ↔ IsPlain (safeName a "")) ∧
      (IsPlain (safeName a "") → (place a = place b ↔ safeName a "" = safeName b "")) ∧
      ∀ w' token, Caches root a w w' →
        (safeName a "" = safeName b "" → TakesCached root b token w') ∧
        (w.tree.holds w.directory (graphPath root b) = false → TakesCached root b token w' →
          place a = place b) :=
  ⟨directory_eq_iff, fun _ => ⟨inside_iff, placeOf_eq_iff, fun _ _ caches =>
    ⟨takesCached_of_same caches, placeOf_eq_of_takesCached caches⟩⟩⟩

/-- A machine with a directory for the files of a model, and no file. -/
def emptyStore : World :=
  { World.fresh [] with tree := FileTree.empty.reaching [] ["models", "x", "unet"] }

theorem exists_caches : ∃ w', Caches "models" "a/x" emptyStore w' := by
  have fits : (emptyStore.tree.write emptyStore.directory (graphPath "models" "a/x")
      .empty).toOption.isSome = true := by decide +kernel
  cases written : emptyStore.tree.write emptyStore.directory (graphPath "models" "a/x") .empty with
  | error fault =>
      rw [written] at fits
      cases fits
  | ok tree => exact ⟨{ emptyStore with tree }, .empty, by rw [World.write_run, written]⟩

/-- The graph of one model is there, and is not taken for a model of another name. -/
theorem directories_apart_twoNames :
    ∃ w', Caches "models" "a/x" emptyStore w' ∧ ¬ TakesCached "models" "b/y" none w' ∧
      Inside (placeOf [] ((resolve "a/x").directory "models")) (placeOf [] "models") := by
  obtain ⟨w', caches⟩ := exists_caches
  have plain : IsPlain (safeName "a/x" "") := by unfold IsPlain; decide +kernel
  have differ : safeName "a/x" "" ≠ safeName "b/y" "" := by decide +kernel
  have lacks : emptyStore.tree.holds emptyStore.directory (graphPath "models" "b/y") = false := by
    decide +kernel
  obtain ⟨inside, places, cached⟩ := (directories_apart "models" "a/x" "b/y").2 emptyStore
  refine ⟨w', caches, fun takes => ?_, inside.mpr plain⟩
  exact differ ((places plain).mp ((cached w' none caches).2 lacks takes))

/-- Two models of different owners share a directory, so that the graph of the one is taken for the
other, which had none. A hyphen and an underscore are not told apart either, and two dots as the
last segment lead out of the root. -/
theorem directories_shared :
    "a/x" ≠ "b/x" ∧ (resolve "a/x").directory "models" = (resolve "b/x").directory "models" ∧
      (∃ w', Caches "models" "a/x" emptyStore w' ∧
        emptyStore.tree.holds emptyStore.directory (graphPath "models" "b/x") = false ∧
        TakesCached "models" "b/x" none w') ∧
      (resolve "a-b").directory "models" = (resolve "a_b").directory "models" ∧
      ¬ Inside (placeOf [] ((resolve "a/..").directory "models")) (placeOf [] "models") := by
  obtain ⟨w', caches⟩ := exists_caches
  have same : safeName "a/x" "" = safeName "b/x" "" := by decide +kernel
  have hyphen : safeName "a-b" "" = "a_b" := by decide +kernel
  have underscore : safeName "a_b" "" = "a_b" := by decide +kernel
  have lacks : emptyStore.tree.holds emptyStore.directory (graphPath "models" "b/x") = false := by
    decide +kernel
  refine ⟨by decide, directory_eq_iff.mpr same,
    ⟨w', caches, lacks, takesCached_of_same caches same⟩,
    directory_eq_iff.mpr (hyphen.trans underscore.symm), ?_⟩
  have outside : (placeOf [] ((resolve "a/..").directory "models")).length = 0 := by decide +kernel
  intro inside
  have deeper := inside.2
  omega

end ModelSpec

end Diffusion
