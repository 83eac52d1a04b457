import Diffusion.Proofs.Program.Counting
import Diffusion.Proofs.Program.Observation
import Diffusion.Proofs.Program.Soundness

/-!
The bytes that a replay holds.

`Holds` ties the values of a replay to the ones that are live: those that were released are gone and
all others are there, in the shapes declared. Main statement: `peak_of_execute`, by which the peak
that is counted beforehand is the largest number of bytes that any run holds.
-/

namespace Diffusion.Program

open Halt (wordLimit)

variable {A : Arithmetic} {σ τ : Type} {p : Program A} {B : Backend A σ τ}

def heldBytes (B : Backend A σ τ) (held : Array (Option τ)) : Nat :=
  (held.toList.map fun entry => (entry.map fun x => (B.shape x).bytes).getD 0).sum

/-- After some releases and with some results stored: what was released is gone, and everything
else is there. -/
structure Holds (p : Program A) (B : Backend A σ τ) (released stored : Nat)
    (held : Array (Option τ)) : Prop where
  size_eq : held.size = p.inputs.size + stored
  gone : ∀ v < held.size, p.Released released v → held[v]? = some none
  there : ∀ v < held.size, ¬ p.Released released v →
    ∃ x, held[v]? = some (some x) ∧ p.valueShape? v = some (B.shape x)

theorem Holds.heldBytes_eq {released stored : Nat} {held : Array (Option τ)}
    (holds : p.Holds B released stored held) : heldBytes B held = p.bytesWith released stored := by
  have entries : (held.toList.map fun entry => (entry.map fun x => (B.shape x).bytes).getD 0) =
      (List.range (p.inputs.size + stored)).map fun v =>
        if ¬ p.Released released v then p.bytesOf v else 0 := by
    apply List.ext_getElem
    · simp [holds.size_eq]
    · intro v inside _
      rw [List.length_map, Array.length_toList] at inside
      have entry := Array.getElem?_eq_getElem inside
      simp only [List.getElem_map, Array.getElem_toList, List.getElem_range]
      by_cases released : p.Released released v
      · rw [holds.gone v inside released, Option.some.injEq] at entry
        rw [← entry, if_neg (not_not_intro released)]
        rfl
      · obtain ⟨x, found, shape⟩ := holds.there v inside released
        rw [found, Option.some.injEq] at entry
        rw [← entry, if_pos released, bytesOf, shape]
        rfl
  rw [heldBytes, entries, bytesWith, Finset.sum_filter]
  rfl

theorem holds_start {inputs : List τ}
    (shapes : inputs.map B.shape = p.inputs.toList.map (·.shape)) :
    p.Holds B 0 0 (inputs.map some).toArray := by
  have count : inputs.length = p.inputs.size := by simpa using congrArg List.length shapes
  refine ⟨by simpa using count, fun v _ released => absurd released (p.released_zero v), ?_⟩
  intro v inside _
  rw [List.size_toArray, List.length_map] at inside
  refine ⟨inputs[v], by simp [inside], ?_⟩
  rw [p.valueShape?_input (count ▸ inside)]
  have declared := congrArg (·[v]?) shapes
  simpa [inside, count ▸ inside] using declared.symm

theorem Holds.push {index : Nat} {i : Instruction A} {held : Array (Option τ)} {result : τ}
    (holds : p.Holds B index index held) (typed : p.WellTyped)
    (found : p.instructions[index]? = some i) (shape : B.shape result = i.shape) :
    p.Holds B index (index + 1) (held.push (some result)) := by
  have earlier : ∀ v < held.size, (held.push (some result))[v]? = held[v]? := by
    intro v inside
    rw [Array.getElem?_push, if_neg (Nat.ne_of_lt inside)]
  refine ⟨by rw [Array.size_push, holds.size_eq, Nat.add_assoc], ?_, ?_⟩
  · intro v _ released
    have inside : v < held.size := holds.size_eq ▸ released.lt typed
    rw [earlier v inside]
    exact holds.gone v inside released
  · intro v inside alive
    rw [Array.size_push] at inside
    rcases Nat.lt_succ_iff_lt_or_eq.mp inside with older | newest
    · rw [earlier v older]
      exact holds.there v older alive
    · refine ⟨result, by rw [newest, Array.getElem?_push, if_pos rfl], ?_⟩
      rw [newest, holds.size_eq, p.valueShape?_instruction found, shape]

theorem Holds.release {index stored : Nat} {i : Instruction A} {values kept : Array (Option τ)}
    (holds : p.Holds B index stored values) (room : values.size ≤ p.numValues)
    (found : p.instructions[index]? = some i) (size : kept.size = values.size)
    (entries : ∀ v, kept[v]? =
      if v ∈ i.op.operands ∧ p.lastUses[v]? = some (some index) ∧ v ≠ p.output then some none
      else values[v]?) :
    p.Holds B (index + 1) stored kept := by
  have drops : ∀ v < values.size, kept[v]? = if p.Dies index v then some none else values[v]? := by
    intro v inside
    rw [entries v, p.getElem?_lastUses (Nat.lt_of_lt_of_le inside room)]
    refine if_congr ⟨fun all => ⟨Option.some.inj all.2.1, all.2.2⟩, fun dies => ?_⟩ rfl rfl
    exact ⟨dies.operand found, congrArg some dies.1, dies.2⟩
  refine ⟨size.trans holds.size_eq, ?_, ?_⟩
  · intro v inside released
    rw [size] at inside
    rw [drops v inside]
    split
    · rfl
    · rename_i lives
      exact holds.gone v inside ((p.released_succ.mp released).resolve_right lives)
  · intro v inside alive
    rw [size] at inside
    rw [released_succ, not_or] at alive
    rw [drops v inside, if_neg alive.2]
    exact holds.there v inside alive.1

theorem shape_of_performDeclared {values : Array (Option τ)} {value : Nat} {i : Instruction A}
    {s after : σ} {result : τ}
    (performed : (performDeclared B values value i).runOn s = (.ok result, after)) :
    B.shape result = i.shape := by
  obtain ⟨produced, between, -, checked⟩ := Action.of_bind_ok performed
  split at checked
  · rename_i same
    cases checked
    exact same
  · cases checked

/-- The moments of a replay hold the live bytes. -/
theorem replayWatched_bytes (typed : p.WellTyped) (index : Nat) (is : List (Instruction A))
    (suffix : ∀ k, is[k]? = p.instructions[index + k]?) {held : Array (Option τ)}
    (holds : p.Holds B index index held) {s : σ} {seen : List (Array (Option τ))}
    {values : Array (Option τ)} {after : σ × List (Array (Option τ))}
    (ran : (p.replayWatched B p.lastUses index is held).runOn (s, seen) = (.ok values, after)) :
    ∃ new, after.2 = seen ++ new ∧
      new.map (heldBytes B) = (List.range' (index + 1) is.length).map p.liveBytes := by
  -- Between two instructions the releases have caught up with the results, so `Holds` has the same
  -- index twice; only right after a result is stored is it ahead.
  induction is generalizing index held s seen with
  | nil =>
      cases ran
      exact ⟨[], (List.append_nil seen).symm, rfl⟩
  | cons i rest ih =>
      have found : p.instructions[index]? = some i := (suffix 0).symm
      have inside : index < p.instructions.size := (Array.getElem?_eq_some_iff.mp found).1
      rw [runOn_replayWatched_cons] at ran
      rcases performed : (performDeclared B held (p.inputs.size + index) i).runOn s with
        ⟨h | result, between⟩
      · rw [performed] at ran
        cases ran
      · have shape := shape_of_performDeclared performed
        have stored := holds.push typed found shape
        have room : (held.push (some result)).size ≤ p.numValues := by
          rw [stored.size_eq, numValues]
          omega
        obtain ⟨kept, released, size, entries⟩ :=
          release_spec p.output index (held.push (some result)) (p.size_lastUses.symm ▸ room)
            fun v member => by
              rw [stored.size_eq]
              exact Nat.lt_succ_of_lt (typed.ordered index i found v member)
        rw [performed] at ran
        dsimp only at ran
        rw [released] at ran
        have next : ∀ k, rest[k]? = p.instructions[index + 1 + k]? := fun k => by
          rw [← List.getElem?_cons_succ, suffix, Nat.add_right_comm, Nat.add_assoc]
        obtain ⟨new, noted, bytes⟩ :=
          ih (index + 1) next (stored.release room found size entries) ran
        refine ⟨held.push (some result) :: new, ?_, ?_⟩
        · rw [noted, List.append_assoc, List.singleton_append]
        · rw [List.map_cons, stored.heldBytes_eq, bytes, List.length_cons, List.range'_succ,
            List.map_cons]
          rfl

/-- The moments of a successful run hold the live bytes, whatever the backend. -/
theorem moments_bytes (valid : p.Valid) {inputs : List τ} {s after : σ} {x : τ}
    (ran : (p.execute B inputs).runOn s = (.ok x, after)) :
    (p.moments B inputs s).map (heldBytes B) =
      (List.range (p.instructions.size + 1)).map p.liveBytes := by
  have typed := p.valid_iff_wellTyped.mp valid
  obtain ⟨_, between, checked, rest⟩ := Action.of_bind_ok ran
  obtain ⟨accepted, rfl⟩ := Prod.mk.inj checked
  obtain ⟨values, final, replayed, -⟩ := Action.of_bind_ok rest
  have start := holds_start (p.checkInputs_eq_ok_iff.mp accepted)
  obtain ⟨new, watched⟩ :=
    p.replayWatched_annotates B p.lastUses 0 p.instructions.toList (inputs.map some).toArray s
  have ended := watched [(inputs.map some).toArray]
  rw [replayed] at ended
  obtain ⟨later, noted, bytes⟩ :=
    replayWatched_bytes typed 0 p.instructions.toList (by simp) start ended
  rw [p.moments_of_accepted B accepted, ended]
  dsimp only at noted ⊢
  rw [noted, List.map_append, bytes, List.map_singleton, start.heldBytes_eq, Array.length_toList,
    List.range_eq_range', List.range'_succ]
  rfl

/-- The peak that is counted beforehand is the peak of every run that succeeds: the most bytes held
at its start and each time that it has stored a result. The count goes through the bytes that are
held at each of these moments, in order, and takes no value off twice. -/
theorem peak_of_execute (valid : p.Valid) {total : Nat} (counted : p.totalValueBytes = .ok total)
    {inputs : List τ} {s after : σ} {x : τ} (ran : (p.execute B inputs).runOn s = (.ok x, after)) :
    let start := (inputs.map some).toArray
    let moments := p.moments B inputs s
    let held := moments.map (heldBytes B)
    (moments[0]? = some start ∧ ∀ k values, moments[k + 1]? = some values ↔
        p.Stores B p.lastUses 0 p.instructions.toList start s k values) ∧
      ∃ peak taken, p.peakLiveBytes = .ok peak ∧ held.max? = some peak ∧
        p.tally = .ok (held, taken) ∧ taken.Nodup := by
  intro start moments held
  have typed := p.valid_iff_wellTyped.mp valid
  have bytes : held = _ := moments_bytes valid ran
  have countable := countable_of_totalValueBytes counted
  obtain ⟨_, _, checked, -⟩ := Action.of_bind_ok ran
  have accepted := (Prod.mk.inj checked).1
  refine ⟨moments_spec accepted s, p.peakBytes, p.takenFrom 0 p.instructions.toList, ?_, ?_, ?_,
    nodup_takenFrom 0 _⟩
  · exact (peakLiveBytes_counts typed).exact countable
  · rw [bytes, max?_liveBytes]
  · rw [bytes]
    exact (tally_counts typed).exact countable

theorem peak_of_execute_doubled :
    let B := Backend.eager (some (Network.ofFunction fun sample _ _ => .ok sample))
    let held := (doubled.moments B [.fill [2] 5] ()).map (heldBytes B)
    held = [8, 24, 32, 24] ∧ ∃ peak taken, doubled.peakLiveBytes = .ok peak ∧
      held.max? = some peak ∧ doubled.tally = .ok (held, taken) ∧ taken.Nodup := by
  have counted : doubled.totalValueBytes = .ok 40 := rfl
  exact ⟨by decide, (peak_of_execute (p := doubled) (x := .fill [2] 5) rfl counted rfl).2⟩

end Diffusion.Program
