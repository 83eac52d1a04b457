import Diffusion.Proofs.Action.Keeping
import Diffusion.Proofs.Files.Host
import Diffusion.Proofs.Files.Places
import Mathlib.Data.List.Infix

/-!
What programs may change of a tree of files.

A tree becomes another one when directories are made where there was nothing and files are put where
there was no directory, each at places of a given kind, and everything else stays. Main statement:
`World.Becomes.makeDirectories`, by which the directories that lead along a path are made at places
that the path passes.
-/

namespace Diffusion

open FileTree (names segments start placeOf enter)

namespace Path

/-! ### The path without its last part -/

theorem names_ofList_slash (front back : List Char) :
    names (String.ofList (front ++ '/' :: back)) =
      names (String.ofList front) ++ names (String.ofList back) := by
  simp [names, FileTree.segments_append_slash]

theorem names_dropEnd (cs : List Char) :
    names (String.ofList (dropEnd cs).reverse) <+: names (String.ofList cs.reverse) := by
  induction cs using dropEnd.induct with
  | case1 => exact List.prefix_refl _
  | case2 rest last ih =>
      rw [dropEnd, List.reverse_cons, names_ofList_slash]
      · exact ih.trans (List.prefix_append _ _)
      · exact last
  | case3 rest ih =>
      have slash := names_ofList_slash rest.reverse []
      rw [List.reverse_cons, slash] at ih
      rw [dropEnd, List.reverse_cons, List.reverse_cons, List.append_assoc]
      refine ih.trans ?_
      have dot := names_ofList_slash rest.reverse ['.']
      rw [List.cons_append, List.nil_append, dot]
      exact List.prefix_append_right_inj _ |>.mpr (List.nil_prefix)
  | case4 cs root slash dot =>
      rw [dropEnd] <;> first | exact List.prefix_refl _ | assumption

theorem getLast?_dropEnd (cs : List Char) :
    (dropEnd cs).getLast? = some '/' ↔ cs.getLast? = some '/' := by
  induction cs using dropEnd.induct with
  | case1 => rfl
  | case2 rest last ih =>
      obtain ⟨c, cs, rfl⟩ := List.exists_cons_of_ne_nil last
      rw [dropEnd, ih, List.getLast?_cons_cons]
      exact last
  | case3 rest ih => rw [dropEnd, ih, List.getLast?_cons_cons]
  | case4 cs root slash dot =>
      rw [dropEnd] <;> first | rfl | assumption

/-- A path loses its last name up to the slash before it, or altogether. -/
theorem dropWhile_eq (cs : List Char) :
    cs.dropWhile (· ≠ '/') = [] ∧ '/' ∉ cs ∨
      ∃ word rest, cs.dropWhile (· ≠ '/') = '/' :: rest ∧ cs = word ++ '/' :: rest := by
  have parts := List.takeWhile_append_dropWhile (p := fun c => decide (c ≠ '/')) (l := cs)
  cases dropped : cs.dropWhile (· ≠ '/') with
  | nil =>
      refine .inl ⟨rfl, fun member => ?_⟩
      rw [dropped, List.append_nil] at parts
      rw [← parts] at member
      simpa using List.all_eq_true.mp List.all_takeWhile _ member
  | cons c rest =>
      have more : cs.dropWhile (fun c => decide (c ≠ '/')) ≠ [] := dropped ▸ List.cons_ne_nil _ _
      have stops := List.head_dropWhile_not (fun c => decide (c ≠ '/')) more
      simp only [dropped, List.head_cons, decide_eq_false_iff_not, not_not] at stops
      subst stops
      exact .inr ⟨_, rest, rfl, (dropped ▸ parts).symm⟩

theorem parent?_eq_some {path parent : String} (found : parent? path = some parent) :
    names parent <+: names path ∧ isAbsolute parent = isAbsolute path := by
  have absolute : ∀ cs : List Char, isAbsolute (String.ofList cs.reverse) = true ↔
      cs.getLast? = some '/' := by
    intro cs
    rw [isAbsolute_iff, String.toList_ofList, List.head?_reverse]
  obtain ⟨cs, rfl⟩ : ∃ cs : List Char, path = String.ofList cs.reverse :=
    ⟨path.toList.reverse, by simp⟩
  unfold parent? at found
  rw [String.toList_ofList, List.reverse_reverse] at found
  have trimmed := names_dropEnd cs
  have rooted := getLast?_dropEnd cs
  generalize dropEnd cs = ends at found trimmed rooted
  split at found
  · cases found
  · cases found
  · cases found
    rw [Bool.eq_iff_iff, absolute, absolute, getLast?_dropEnd, ← rooted]
    rcases dropWhile_eq ends with ⟨nothing, bare⟩ | ⟨word, rest, dropped, rfl⟩
    · rw [nothing]
      refine ⟨List.nil_prefix, nofun, fun last => ?_⟩
      exact absurd (List.mem_of_getLast? last) bare
    · rw [dropped]
      refine ⟨(names_dropEnd _).trans (.trans ?_ trimmed), ?_⟩
      · rw [List.reverse_cons, List.reverse_append, List.reverse_cons, List.append_assoc,
          List.singleton_append, names_ofList_slash, names_ofList_slash]
        exact (List.prefix_append_right_inj _).mpr List.nil_prefix
      · rw [List.getLast?_append_cons]

end Path

namespace FileTree

variable {t t' t'' : FileTree} {made written : Place → Prop} {home place above : Place}
  {path : String}

/-- A tree becomes another one: directories are made where nothing was, files are put where no
directory was, and the rest stays. -/
def Becomes (made written : Place → Prop) (t t' : FileTree) : Prop :=
  ∀ place, t'.find? place = t.find? place ∨
    (made place ∧ t.find? place = none ∧ t'.find? place = some .directory) ∨
    (written place ∧ t.find? place ≠ some .directory ∧ ∃ bytes, t'.find? place = some (.file bytes))

namespace Becomes

theorem refl (t : FileTree) : t.Becomes made written t := fun _ => .inl rfl

theorem trans (first : t.Becomes made written t') (second : t'.Becomes made written t'') :
    t.Becomes made written t'' := by
  intro place
  rcases first place with same | ⟨kind, nothing, directory⟩ | ⟨kind, free, bytes, file⟩
  · rw [← same]
    exact second place
  · rcases second place with same | ⟨_, missing, _⟩ | ⟨_, other, _⟩
    · exact .inr (.inl ⟨kind, nothing, same.trans directory⟩)
    · simp [directory] at missing
    · exact absurd directory other
  · rcases second place with same | ⟨_, missing, _⟩ | ⟨_, _, replaced⟩
    · exact .inr (.inr ⟨kind, free, bytes, same.trans file⟩)
    · simp [file] at missing
    · exact .inr (.inr ⟨kind, free, replaced⟩)

/-- What is there stays, where no file is put. -/
theorem find?_eq {entry : FileEntry} (becomes : t.Becomes made written t')
    (kept : written place → entry = .directory) (found : t.find? place = some entry) :
    t'.find? place = some entry := by
  rcases becomes place with same | ⟨_, nothing, _⟩ | ⟨kind, free, _⟩
  · exact same.trans found
  · simp [found] at nothing
  · rw [kept kind] at found
    exact absurd found free

theorem follow_eq_ok {names : List String} (becomes : t.Becomes made written t')
    (followed : t.follow place names = .ok above) : t'.follow place names = .ok above := by
  induction names generalizing place with
  | nil => exact followed
  | cons name rest ih =>
      obtain ⟨directory, short, continued⟩ := follow_cons_eq_ok_iff.mp followed
      exact follow_cons_eq_ok_iff.mpr
        ⟨becomes.find?_eq (fun _ => rfl) directory, short, ih continued⟩

theorem locate_eq_ok (becomes : t.Becomes made written t')
    (located : t.locate home path = .ok place) : t'.locate home path = .ok place := by
  unfold locate at *
  split at located
  · cases located
  · exact becomes.follow_eq_ok located

end Becomes

theorem read_eq_ok_iff {bytes : ByteArray} :
    t.read home path = .ok bytes ↔
      ∃ place, t.locate home path = .ok place ∧ t.find? place = some (.file bytes) := by
  unfold read
  rw [Halt.bind_eq_ok_iff]
  refine exists_congr fun place => and_congr_right fun _ => ?_
  cases found : t.find? place with
  | none => exact ⟨nofun, nofun⟩
  | some entry =>
      cases entry with
      | directory => exact ⟨nofun, nofun⟩
      | file other =>
          simp only [Option.some.injEq, FileEntry.file.injEq]
          exact Except.ok.injEq other bytes ▸ Iff.rfl

theorem holds_of_read {bytes : ByteArray} (found : t.read home path = .ok bytes) :
    t.holds home path = true := by
  obtain ⟨place, located, file⟩ := read_eq_ok_iff.mp found
  exact holds_eq_true_iff.mpr ⟨place, located, by rw [file]; rfl⟩

/-- Nothing is found under a path of a place that holds nothing. -/
theorem holds_eq_false (nothing : t.find? (placeOf home path) = none) :
    t.holds home path = false := by
  rw [Bool.eq_false_iff, ne_eq, holds_eq_true_iff]
  rintro ⟨place, located, found⟩
  rw [FileTree.locate_eq_ok located, nothing] at found
  cases found

/-- A file is read as before, where none is put. -/
theorem Becomes.read_eq_ok {bytes : ByteArray} (becomes : t.Becomes made written t')
    (kept : ¬ written (placeOf home path)) (found : t.read home path = .ok bytes) :
    t'.read home path = .ok bytes := by
  obtain ⟨place, located, file⟩ := read_eq_ok_iff.mp found
  rw [← FileTree.locate_eq_ok located] at kept
  exact read_eq_ok_iff.mpr ⟨place, becomes.locate_eq_ok located,
    becomes.find?_eq (fun kind => absurd kind kept) file⟩

/-! ### Places on the way -/

/-- The names of a path lead past a place, or to it. -/
def Passes (home : Place) (path : String) (place : Place) : Prop :=
  ∃ front, front <+: names path ∧ front.foldl enter (start home path) = place

instance (home : Place) (path : String) (place : Place) : Decidable (Passes home path place) :=
  decidable_of_iff (∃ front ∈ (names path).inits, front.foldl enter (start home path) = place)
    (by simp [Passes, List.mem_inits])

theorem passes_placeOf (home : Place) (path : String) : Passes home path (placeOf home path) :=
  ⟨_, List.prefix_refl _, rfl⟩

theorem passes_of_parent? {parent : String} (above : Path.parent? path = some parent)
    (passes : Passes home parent place) : Passes home path place := by
  obtain ⟨shorter, absolute⟩ := Path.parent?_eq_some above
  obtain ⟨front, inside, leads⟩ := passes
  refine ⟨front, inside.trans shorter, ?_⟩
  rwa [start, ← absolute, ← start]

end FileTree

namespace World

open FileTree (Passes)

variable {made written : Place → Prop} {start w after : World} {path : String}

/-- A machine of which only the tree changes. -/
structure Becomes (made written : Place → Prop) (w after : World) : Prop where
  tree : w.tree.Becomes made written after.tree
  rest : after = { w with tree := after.tree }

theorem makeDirectory_run (path : String) (w : World) :
    host.makeDirectory path w =
      match w.tree.makeDirectory w.directory path with
      | .ok tree => ((.ok (), { w with tree }) : Except FileFault Unit × World)
      | .error fault => (.error fault, w) := by
  simp only [host, bind, StateT.bind, get, getThe, MonadStateOf.get, StateT.get, pure]
  cases w.tree.makeDirectory w.directory path <;> rfl

theorem bind_run {α β : Type} (x : StateM World α) (f : α → StateM World β) (w : World) :
    (x >>= f) w = f (x w).1 (x w).2 := rfl

namespace Becomes

theorem refl (w : World) : w.Becomes made written w := ⟨.refl w.tree, rfl⟩

theorem directory_eq (becomes : start.Becomes made written w) : w.directory = start.directory := by
  rw [becomes.rest]

theorem setTree {tree : FileTree} (becomes : start.Becomes made written w)
    (next : w.tree.Becomes made written tree) :
    start.Becomes made written { w with tree } :=
  ⟨becomes.tree.trans next, by rw [becomes.rest]⟩

theorem makeDirectory (becomes : start.Becomes made written w)
    (kind : made (FileTree.placeOf start.directory path)) :
    start.Becomes made written (host.makeDirectory path w).2 := by
  rw [makeDirectory_run]
  split
  · rename_i tree done
    obtain ⟨target, named, nothing, followed, rfl⟩ := FileTree.makeDirectory_eq_ok done
    have place := FileTree.follow_eq_ok followed
    rw [becomes.directory_eq] at place
    refine becomes.setTree fun other => ?_
    by_cases same : other = target
    · subst same
      rw [FileTree.find?_put_self named]
      exact .inr (.inl ⟨place ▸ kind, nothing, rfl⟩)
    · exact .inl (FileTree.find?_put_of_ne same)
  · exact becomes

theorem write {bytes : ByteArray} (becomes : start.Becomes made written w)
    (kind : written (FileTree.placeOf start.directory path)) :
    start.Becomes made written (host.write path bytes w).2 := by
  rw [write_run]
  split
  · rename_i tree done
    obtain ⟨target, named, free, -, -, followed, rfl⟩ := FileTree.write_eq_ok done
    have place := FileTree.follow_eq_ok followed
    rw [becomes.directory_eq] at place
    refine becomes.setTree fun other => ?_
    by_cases same : other = target
    · subst same
      rw [FileTree.find?_put_self named]
      exact .inr (.inr ⟨place ▸ kind, free, bytes, rfl⟩)
    · exact .inl (FileTree.find?_put_of_ne same)
  · exact becomes

/-- Looking whether a directory is there changes nothing. -/
theorem settled_run (path : String) (answer : Except FileFault Unit) (w : World) :
    (Host.makeLeading.settled host path answer w).2 = w := by
  have looked : (host.isDirectory path w).2 = w := rfl
  unfold Host.makeLeading.settled
  split
  · rw [if_pos rfl, bind_run]
    cases (host.isDirectory path w).1 <;> exact looked
  · rfl

theorem makeLeading (becomes : start.Becomes made written w) (depth : Nat)
    (kind : ∀ place, Passes start.directory path place → made place) :
    start.Becomes made written (host.makeLeading depth path w).2 := by
  induction depth generalizing path w with
  | zero => exact becomes
  | succ depth ih =>
      have here := kind _ (FileTree.passes_placeOf start.directory path)
      rw [Host.makeLeading]
      cases above : Path.parent? path with
      | none => exact becomes
      | some parent =>
          have tried := becomes.makeDirectory here
          have led := ih tried fun place passes =>
            kind place (FileTree.passes_of_parent? above passes)
          dsimp only
          rw [bind_run]
          rcases (host.makeDirectory path w).1 with fault | done
          · cases fault with
            | notFound =>
                dsimp only
                rw [bind_run]
                rcases (host.makeLeading depth parent (host.makeDirectory path w).2).1 with _ | _
                · exact led
                · dsimp only
                  rw [bind_run, settled_run]
                  exact led.makeDirectory here
            | _ =>
                rw [settled_run]
                exact tried
          · rw [settled_run]
            exact tried

theorem makeDirectories (becomes : start.Becomes made written w)
    (kind : ∀ place, Passes start.directory path place → made place) :
    start.Becomes made written (host.makeDirectories path w).2 :=
  becomes.makeLeading _ kind

end Becomes
end World

end Diffusion
