import Diffusion.Proofs.Files.Tree

/-!
Where a path leads, whatever files there are.

There are no links in a tree, so the names of a path alone decide on its place. Main statements:
`locate_eq_ok`, by which a path that leads anywhere leads there, and `holds_written` and
`holds_of_apart`, by which a file that is written is there under its path, and nothing changes under
the paths of other places.
-/

namespace Diffusion

namespace Path

theorem isAbsolute_iff {path : String} : isAbsolute path = true ↔ path.toList.head? = some '/' := by
  rw [isAbsolute, String.startsWith_string_iff]
  cases path.toList <;> simp [eq_comm]

theorem exists_of_endsWith {path : String} (ends : path.endsWith "/" = true) :
    ∃ front, path = front ++ "/" := by
  rw [String.endsWith_eq_endsWith_toSlice, String.Slice.endsWith_string_iff] at ends
  obtain ⟨front, same⟩ := ends
  refine ⟨String.ofList front, String.ext ?_⟩
  simpa using same.symm

theorem isAbsolute_append {root path : String} (named : root.isEmpty = false) :
    isAbsolute (root ++ path) = isAbsolute root := by
  rw [Bool.eq_iff_iff, isAbsolute_iff, isAbsolute_iff, String.toList_append]
  cases parts : root.toList with
  | nil => simp_all
  | cons c rest => rfl

end Path

namespace FileTree

variable {t : FileTree} {place above target directory : Place} {root path : String}

/-! ### Names -/

theorem segments_ne_nil (cs : List Char) : segments cs ≠ [] := by
  cases cs with
  | nil => exact List.cons_ne_nil _ _
  | cons c rest =>
      rw [segments]
      split
      · exact List.cons_ne_nil _ _
      · split <;> exact List.cons_ne_nil _ _

theorem segments_append_slash (cs more : List Char) :
    segments (cs ++ '/' :: more) = segments cs ++ segments more := by
  induction cs with
  | nil => rfl
  | cons c rest ih =>
      rw [List.cons_append, segments, segments, ih]
      obtain ⟨first, others, parts⟩ := List.exists_cons_of_ne_nil (segments_ne_nil rest)
      rw [parts]
      split <;> rfl

theorem segments_of_no_slash {cs : List Char} (whole : '/' ∉ cs) : segments cs = [cs] := by
  induction cs with
  | nil => rfl
  | cons c rest ih =>
      obtain ⟨here, later⟩ := not_or.mp (List.mem_cons.not.mp whole)
      rw [segments, if_neg (Ne.symm here), ih later]

theorem names_append_slash (front back : String) :
    names (front ++ "/" ++ back) = names front ++ names back := by
  have split : (front ++ "/" ++ back).toList = front.toList ++ '/' :: back.toList := by simp
  rw [names, split, segments_append_slash, List.filter_append, List.map_append, ← names, ← names]

theorem names_of_no_slash (whole : '/' ∉ path.toList) :
    names path = if path.isEmpty then [] else [path] := by
  rw [names, segments_of_no_slash whole]
  by_cases empty : path.isEmpty
  · simp_all
  · simp_all

theorem names_join (relative : Path.isAbsolute path = false) :
    names (Path.join root path) = names root ++ names path := by
  unfold Path.join
  split
  · rename_i alone
    obtain rfl : root = "" := by simpa [relative] using alone
    rfl
  · split
    · rename_i ends
      obtain ⟨front, rfl⟩ := Path.exists_of_endsWith ends
      have bare : names (front ++ "/") = names front := by
        have closed := names_append_slash front ""
        rwa [String.append_empty, show names "" = [] from rfl, List.append_nil] at closed
      rw [names_append_slash, bare]
    · exact names_append_slash root path

theorem start_join (relative : Path.isAbsolute path = false) :
    start directory (Path.join root path) = start directory root := by
  unfold Path.join
  split
  · rename_i alone
    obtain rfl : root = "" := by simpa [relative] using alone
    rw [start, relative]
    rfl
  · rename_i both
    have named : root.isEmpty = false := by simpa [relative] using both
    split
    · rw [start, Path.isAbsolute_append named, start]
    · rw [start, String.append_assoc, Path.isAbsolute_append named, start]

/-! ### Places -/

/-- The place that the names of a path lead to. -/
def placeOf (directory : Place) (path : String) : Place :=
  (names path).foldl enter (start directory path)

theorem placeOf_join (relative : Path.isAbsolute path = false) :
    placeOf directory (Path.join root path) =
      (names path).foldl enter (placeOf directory root) := by
  rw [placeOf, names_join relative, start_join relative, List.foldl_append, placeOf]

theorem follow_eq_ok {names : List String} (followed : t.follow place names = .ok above) :
    above = names.foldl enter place := by
  induction names generalizing place with
  | nil => cases followed; rfl
  | cons name rest ih => exact ih (follow_cons_eq_ok_iff.mp followed).2.2

theorem locate_eq_ok (located : t.locate directory path = .ok place) :
    place = placeOf directory path := by
  unfold locate at located
  split at located
  · cases located
  · rw [follow_eq_ok located, List.foldl_append, placeOf]
    split <;> rfl

/-! ### Files that are written -/

section Written

variable {bytes : ByteArray} (named : target ≠ []) (free : t.find? target ≠ some .directory)

include named free

/-- Names lead to the same places after a file was put where no directory was. -/
theorem follow_put_iff {names : List String} :
    (t.put target (.file bytes)).follow place names = .ok above ↔
      t.follow place names = .ok above := by
  refine ⟨fun followed => ?_, fun followed => follow_put followed free⟩
  induction names generalizing place with
  | nil => exact followed
  | cons name rest ih =>
      obtain ⟨inside, short, continued⟩ := follow_cons_eq_ok_iff.mp followed
      have other : place ≠ target := by
        rintro rfl
        rw [find?_put_self named] at inside
        cases inside
      rw [find?_put_of_ne other] at inside
      exact follow_cons_eq_ok_iff.mpr ⟨inside, short, ih continued⟩

theorem locate_put_iff :
    (t.put target (.file bytes)).locate directory path = .ok place ↔
      t.locate directory path = .ok place := by
  unfold locate
  split
  · rfl
  · exact follow_put_iff named free

end Written

theorem holds_eq_true_iff :
    t.holds directory path = true ↔
      ∃ place, t.locate directory path = .ok place ∧ (t.find? place).isSome = true := by
  unfold holds
  cases t.locate directory path with
  | error fault => exact ⟨nofun, nofun⟩
  | ok place => simp

variable {after : FileTree} {bytes : ByteArray} {other : String}

theorem holds_written (written : t.write directory path bytes = .ok after) :
    after.holds directory path = true := by
  obtain ⟨target, named, free, sound, fileName, followed, rfl⟩ := write_eq_ok written
  refine holds_eq_true_iff.mpr ⟨target, (locate_put_iff named free).mpr ?_, ?_⟩
  · rw [locate, sound]
    simpa [fileName] using followed
  · rw [find?_put_self named]
    rfl

/-- Writing a file changes nothing under paths of other places. -/
theorem holds_of_apart (written : t.write directory path bytes = .ok after)
    (apart : placeOf directory other ≠ placeOf directory path) :
    after.holds directory other = t.holds directory other := by
  obtain ⟨target, named, free, -, -, followed, rfl⟩ := write_eq_ok written
  rw [Bool.eq_iff_iff, holds_eq_true_iff, holds_eq_true_iff]
  refine exists_congr fun place => ?_
  rw [locate_put_iff named free]
  refine and_congr_right fun located => ?_
  have elsewhere : place ≠ target := by
    rw [locate_eq_ok located, follow_eq_ok followed]
    exact apart
  rw [find?_put_of_ne elsewhere]

end FileTree

end Diffusion
