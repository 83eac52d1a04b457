import Diffusion.Files.Host
import Diffusion.Proofs.Files.Tree

/-!
Programs on a machine that is a value.

A program that ends well went well at every step, so what it did is found by taking its steps
apart. Main statement: `World.read_write`, by which a file that was written is there afterwards.
-/

namespace Diffusion

namespace Job

variable {σ α β : Type} {before after : σ}

theorem of_bind_ok {x : Job (StateM σ) α} {f : α → Job (StateM σ) β} {b : β}
    (chain : (x >>= f).run before = (.ok b, after)) :
    ∃ a between, x.run before = (.ok a, between) ∧ (f a).run between = (.ok b, after) :=
  Action.of_bind_ok chain

theorem run_bind_ok {x : Job (StateM σ) α} {f : α → Job (StateM σ) β} {between : σ} {a : α}
    (first : x.run before = (.ok a, between)) : (x >>= f).run before = (f a).run between :=
  Action.runOn_bind_ok first

theorem run_file_ok {x : StateM σ (Except FileFault α)} {error : FileFault → Error} {a : α}
    (did : x before = (.ok a, after)) : (file x error).run before = (.ok a, after) := by
  have asked : (call x : Job (StateM σ) _).run before = (.ok (x before).1, (x before).2) := rfl
  rw [did] at asked
  exact run_bind_ok asked

theorem run_bind_error {x : Job (StateM σ) α} {f : α → Job (StateM σ) β} {between : σ} {h : Halt}
    (first : x.run before = (.error h, between)) : (x >>= f).run before = (.error h, between) :=
  Action.runOn_bind_error first

theorem run_file_error {x : StateM σ (Except FileFault α)} {error : FileFault → Error}
    {fault : FileFault} (did : x before = (.error fault, after)) :
    (file x error).run before = (.error (.error (error fault)), after) := by
  have asked : (call x : Job (StateM σ) _).run before = (.ok (x before).1, (x before).2) := rfl
  rw [did] at asked
  exact run_bind_ok asked

theorem ofExcept_ok_bind (a : α) (f : α → Job (StateM σ) β) : ofExcept (.ok a) >>= f = f a := rfl

theorem of_ofExcept_ok {r : Except Halt α} {a : α}
    (ran : (ofExcept r : Job (StateM σ) α).run before = (.ok a, after)) :
    r = .ok a ∧ after = before := by
  cases ran
  exact ⟨rfl, rfl⟩

theorem of_ofResult_ok {r : Except Error α} {a : α}
    (ran : (ofResult r : Job (StateM σ) α).run before = (.ok a, after)) :
    r = .ok a ∧ after = before := by
  obtain ⟨answered, same⟩ := of_ofExcept_ok ran
  exact ⟨Halt.ofResult_eq_ok_iff.mp answered, same⟩

theorem of_file_ok {x : StateM σ (Except FileFault α)} {error : FileFault → Error} {a : α}
    (ran : (file x error).run before = (.ok a, after)) : x before = (.ok a, after) := by
  obtain ⟨answer, between, asked, answered⟩ := of_bind_ok ran
  have did : x before = (answer, between) := by
    have called : (call x : Job (StateM σ) _).run before = (.ok (x before).1, (x before).2) := rfl
    rw [called] at asked
    cases asked
    rfl
  cases answer with
  | error fault => cases answered
  | ok a' =>
      cases answered
      exact did

end Job

/-- The empty path leads through no directory that could be missing. -/
theorem Host.makeDirectories_empty {m : Type → Type} [Monad m] (host : Host m) :
    host.makeDirectories "" = return .ok () := by
  have alone : Path.parent? "" = none := by decide
  have one : "".length + 1 = 1 := rfl
  rw [makeDirectories, one, makeLeading, alone]

namespace World

theorem read_run (path : String) (w : World) :
    host.read path w = (w.tree.read w.directory path, w) := rfl

theorem holds_run (path : String) (w : World) :
    (Job.call (host.holds path) : Job (StateM World) Bool).run w =
      (.ok (w.tree.holds w.directory path), w) := rfl

theorem write_run (path : String) (bytes : ByteArray) (w : World) :
    host.write path bytes w =
      match w.tree.write w.directory path bytes with
      | .ok tree => ((.ok (), { w with tree }) : Except FileFault Unit × World)
      | .error fault => (.error fault, w) := by
  simp only [host, bind, StateT.bind, get, getThe, MonadStateOf.get, StateT.get, pure]
  cases w.tree.write w.directory path bytes <;> rfl

theorem read_write {path : String} {bytes : ByteArray} {before after : World}
    (written : host.write path bytes before = (.ok (), after)) :
    after.tree.read after.directory path = .ok bytes := by
  rw [write_run] at written
  split at written
  · rename_i tree placed
    cases written
    exact FileTree.read_write placed
  · cases written

/-- A machine with nothing but files in its root. -/
def ofFiles (files : List (String × ByteArray)) : World :=
  { fresh [] with tree := ⟨files.map fun file => ([file.1], .file file.2)⟩ }

theorem lookup_files {files : List (String × ByteArray)} {name : String} {bytes : ByteArray}
    (found : files.lookup name = some bytes) :
    (files.map fun file => (([file.1] : Place), FileEntry.file file.2)).lookup [name] =
      some (.file bytes) := by
  induction files with
  | nil => cases found
  | cons first rest ih =>
      obtain ⟨other, data⟩ := first
      have alike : (([name] : Place) == [other]) = (name == other) := by simp
      rw [List.lookup_cons] at found
      rw [List.map_cons, List.lookup_cons, alike]
      split at found
      · cases found
        rfl
      · exact ih found

theorem read_ofFiles {files : List (String × ByteArray)} {name : String} {bytes : ByteArray}
    (found : files.lookup name = some bytes) (sound : Path.fault? name = none)
    (named : FileTree.names name = [name]) (plain : name ≠ "." ∧ name ≠ "..")
    (relative : Path.isAbsolute name = false) (closed : name.endsWith "/" = false)
    (short : name.utf8ByteSize ≤ Path.mostNameBytes) :
    (ofFiles files).tree.read (ofFiles files).directory name = .ok bytes := by
  have start : FileTree.start (ofFiles files).directory name = [] := by
    rw [FileTree.start, relative]
    rfl
  refine FileTree.read_name sound named plain closed short ?_ ?_
  · rw [start]
    rfl
  · rw [start]
    exact lookup_files found

theorem read_letter {files : List (String × ByteArray)} {name : String} {bytes : ByteArray}
    (letter : name ∈ ["a", "w"]) (found : files.lookup name = some bytes) :
    (ofFiles files).tree.read (ofFiles files).directory name = .ok bytes := by
  have plain : ∀ name ∈ ["a", "w"], Path.fault? name = none ∧ FileTree.names name = [name] ∧
      (name ≠ "." ∧ name ≠ "..") ∧ Path.isAbsolute name = false ∧ name.endsWith "/" = false ∧
        name.utf8ByteSize ≤ Path.mostNameBytes := by
    decide +kernel
  obtain ⟨sound, named, proper, relative, closed, short⟩ := plain name letter
  exact read_ofFiles found sound named proper relative closed short

end World

end Diffusion
