import Diffusion.Files.Tree
import Diffusion.Proofs.Action
import Mathlib.Data.List.Basic

/-!
A file that was written is read back under the path that it was written to.

Writing changes one place, which is no directory before, so every path that leads through
directories leads to the same place afterwards. Main statement: `read_write`.
-/

namespace Diffusion.FileTree

variable {t : FileTree} {place target : Place} {entry : FileEntry}

theorem entries_put :
    (t.put target entry).entries = t.entries.filter (fun e => e.1 ≠ target) ++ [(target, entry)] :=
  rfl

@[simp] theorem find?_put_self (named : target ≠ []) :
    (t.put target entry).find? target = some entry := by
  have others : ∀ e ∈ t.entries.filter (fun e => e.1 ≠ target), e.1 ≠ target := by
    intro e member
    simpa using (List.mem_filter.mp member).2
  have absent : (t.entries.filter (fun e => e.1 ≠ target)).lookup target = none := by
    rw [List.lookup_eq_none_iff]
    intro e member
    simpa using (others e member).symm
  simp only [find?, entries_put, List.isEmpty_iff, named, if_false, List.lookup_append, absent]
  simp

theorem find?_put_of_ne (apart : place ≠ target) :
    (t.put target entry).find? place = t.find? place := by
  have others : ∀ entries : List (Place × FileEntry),
      (entries.filter fun e => e.1 ≠ target).lookup place = entries.lookup place := by
    intro entries
    induction entries with
    | nil => rfl
    | cons first rest ih =>
        obtain ⟨other, found⟩ := first
        by_cases same : other = target
        · have different : (place == other) = false := by simpa [same] using apart
          rw [List.filter_cons_of_neg (by simpa using same), ih, List.lookup_cons, different]
        · rw [List.filter_cons_of_pos (by simpa using same), List.lookup_cons, ih,
            ← List.lookup_cons]
  have last : ([(target, entry)] : List (Place × FileEntry)).lookup place = none := by
    simpa using apart
  simp only [find?, entries_put, List.lookup_append, others, last, Option.or_none]

theorem follow_append (names more : List String) :
    t.follow place (names ++ more) = t.follow place names >>= (t.follow · more) := by
  induction names generalizing place with
  | nil => rfl
  | cons name rest ih =>
      simp only [List.cons_append, follow]
      split
      · rfl
      · rfl
      · split
        · rfl
        · exact ih

theorem follow_cons_eq_ok_iff {name : String} {rest : List String} {above : Place} :
    t.follow place (name :: rest) = .ok above ↔
      t.find? place = some .directory ∧ name.utf8ByteSize ≤ Path.mostNameBytes ∧
        t.follow (enter place name) rest = .ok above := by
  rw [follow]
  split
  · rename_i found
    simp [found]
  · rename_i found
    simp [found]
  · rename_i found
    split
    · rename_i long
      have tooLong : ¬ name.utf8ByteSize ≤ Path.mostNameBytes := by omega
      simp [tooLong]
    · rename_i short
      have fits : name.utf8ByteSize ≤ Path.mostNameBytes := by omega
      simp [found, fits]

/-- Names lead through the same directories after a place that was none of them has changed. -/
theorem follow_put {names : List String} {above : Place}
    (followed : t.follow place names = .ok above) (apart : t.find? target ≠ some .directory) :
    (t.put target entry).follow place names = .ok above := by
  induction names generalizing place with
  | nil => exact followed
  | cons name rest ih =>
      obtain ⟨directory, short, continued⟩ := follow_cons_eq_ok_iff.mp followed
      have other : place ≠ target := by
        rintro rfl
        exact apart directory
      exact follow_cons_eq_ok_iff.mpr
        ⟨(find?_put_of_ne other).trans directory, short, ih continued⟩

theorem lastName_eq_ok {directory above : Place} {path : String} {name : Option String}
    (found : t.lastName directory path = .ok (above, name)) :
    Path.fault? path = none ∧
      t.follow (start directory path) ((names path).dropLast ++ ["."]) = .ok above ∧
      name = (names path).getLast?.filter fun name => name ≠ "." ∧ name ≠ ".." := by
  unfold lastName at found
  dsimp only at found
  split at found
  · cases found
  · rename_i sound
    obtain ⟨above', reached, ⟨⟩⟩ := Halt.bind_eq_ok_iff.mp found
    exact ⟨Option.eq_none_iff_forall_ne_some.mpr sound, reached, rfl⟩

/-- The last name of a path leads to the place of the path. -/
theorem follow_lastName {directory above target : Place} {path name : String}
    (found : t.lastName directory path = .ok (above, some name))
    (entered : t.follow above [name] = .ok target) :
    target ≠ [] ∧ t.follow (start directory path) (names path) = .ok target := by
  obtain ⟨-, reached, chosen⟩ := lastName_eq_ok found
  obtain ⟨ends, plain⟩ := Option.filter_eq_some_iff.mp chosen.symm
  obtain ⟨-, -, same⟩ := follow_cons_eq_ok_iff.mp entered
  have dots : ¬ name = "." ∧ ¬ name = ".." := by simpa using plain
  rw [enter, if_neg dots.1, if_neg dots.2, follow] at same
  cases same
  rw [follow_append] at reached
  obtain ⟨above', sofar, stayed⟩ := Halt.bind_eq_ok_iff.mp reached
  obtain ⟨-, -, same⟩ := follow_cons_eq_ok_iff.mp stayed
  cases same
  refine ⟨by simp, ?_⟩
  rw [← List.dropLast_append_getLast? name ends, follow_append, sofar]
  exact entered

/-- What writing a file does: its path leads through directories to a place that is none, and only
that place changes. -/
theorem write_eq_ok {directory : Place} {path : String} {bytes : ByteArray} {after : FileTree}
    (written : t.write directory path bytes = .ok after) :
    ∃ target, target ≠ [] ∧ t.find? target ≠ some .directory ∧ Path.fault? path = none ∧
      path.endsWith "/" = false ∧ t.follow (start directory path) (names path) = .ok target ∧
      after = t.put target (.file bytes) := by
  obtain ⟨⟨above, last⟩, found, rest⟩ := Halt.bind_eq_ok_iff.mp written
  dsimp only at rest
  split at rest
  · cases rest
  · rename_i name chosen
    obtain ⟨target, entered, rest⟩ := Halt.bind_eq_ok_iff.mp rest
    obtain ⟨rfl, closed⟩ := Option.filter_eq_some_iff.mp chosen
    obtain ⟨named, followed⟩ := follow_lastName found entered
    have fileName : path.endsWith "/" = false := by simpa using closed
    split at rest
    · cases rest
    · rename_i apart
      cases rest
      exact ⟨target, named, apart, (lastName_eq_ok found).1, fileName, followed, rfl⟩

/-- What making a directory does: there was nothing at its place, and only that place changes. -/
theorem makeDirectory_eq_ok {directory : Place} {path : String} {after : FileTree}
    (done : t.makeDirectory directory path = .ok after) :
    ∃ target, target ≠ [] ∧ t.find? target = none ∧
      t.follow (start directory path) (names path) = .ok target ∧
      after = t.put target .directory := by
  obtain ⟨⟨above, last⟩, found, rest⟩ := Halt.bind_eq_ok_iff.mp done
  dsimp only at rest
  split at rest
  · cases rest
  · obtain ⟨target, entered, rest⟩ := Halt.bind_eq_ok_iff.mp rest
    obtain ⟨named, followed⟩ := follow_lastName found entered
    split at rest
    · cases rest
    · rename_i nothing
      cases rest
      exact ⟨target, named, by simpa using nothing, followed, rfl⟩

theorem follow_name {place : Place} {name : String} (plain : name ≠ "." ∧ name ≠ "..")
    (short : name.utf8ByteSize ≤ Path.mostNameBytes) (inside : t.find? place = some .directory) :
    t.follow place [name] = .ok (place ++ [name]) :=
  follow_cons_eq_ok_iff.mpr ⟨inside, short, by rw [enter, if_neg plain.1, if_neg plain.2]; rfl⟩

/-- A file can be written under a plain name in the directory where its path starts. -/
theorem write_name {directory : Place} {path name : String} (bytes : ByteArray)
    (sound : Path.fault? path = none) (named : names path = [name])
    (plain : name ≠ "." ∧ name ≠ "..") (closed : path.endsWith "/" = false)
    (short : name.utf8ByteSize ≤ Path.mostNameBytes)
    (inside : t.find? (start directory path) = some .directory)
    (free : t.find? (start directory path ++ [name]) ≠ some .directory) :
    t.write directory path bytes =
      .ok (t.put (start directory path ++ [name]) (.file bytes)) := by
  have entered := follow_name plain short inside
  have stayed : t.follow (start directory path) ["."] = .ok (start directory path) :=
    follow_cons_eq_ok_iff.mpr ⟨inside, by decide, rfl⟩
  have last : t.lastName directory path = .ok (start directory path, some name) := by
    unfold lastName
    rw [sound, named]
    refine Halt.bind_eq_ok_iff.mpr ⟨_, stayed, ?_⟩
    simp [plain, pure, Except.pure]
  refine Halt.bind_eq_ok_iff.mpr ⟨_, last, ?_⟩
  simp only [closed, Bool.not_false, Option.filter, if_true]
  refine Halt.bind_eq_ok_iff.mpr ⟨_, entered, ?_⟩
  split
  · exact absurd ‹_› free
  · rfl

/-- A file that is there under a plain name is read, from the directory where its path starts. -/
theorem read_name {directory : Place} {path name : String} {bytes : ByteArray}
    (sound : Path.fault? path = none) (named : names path = [name])
    (plain : name ≠ "." ∧ name ≠ "..") (closed : path.endsWith "/" = false)
    (short : name.utf8ByteSize ≤ Path.mostNameBytes)
    (inside : t.find? (start directory path) = some .directory)
    (there : t.find? (start directory path ++ [name]) = some (.file bytes)) :
    t.read directory path = .ok bytes := by
  have entered := follow_name plain short inside
  have located : t.locate directory path = .ok (start directory path ++ [name]) := by
    rw [locate, sound, named]
    simpa [closed] using entered
  rw [read, located]
  dsimp only [bind, Except.bind]
  rw [there]
  rfl

theorem read_write {directory : Place} {path : String} {bytes : ByteArray} {after : FileTree}
    (written : t.write directory path bytes = .ok after) :
    after.read directory path = .ok bytes := by
  obtain ⟨target, named, apart, sound, fileName, followed, rfl⟩ := write_eq_ok written
  have located : (t.put target (.file bytes)).locate directory path = .ok target := by
    rw [locate, sound]
    simpa [fileName] using follow_put followed apart
  rw [read, located]
  dsimp only [bind, Except.bind]
  rw [find?_put_self named]
  rfl

end Diffusion.FileTree
