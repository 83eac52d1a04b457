import Diffusion.Proofs.Arithmetic.Whole
import Diffusion.Proofs.Sampling.Overheard
import Diffusion.Proofs.Scheduler.Failing

/-!
Halves of a batch, row by row.

A batch is split where the rows of one half end and those of the other begin, whatever a row holds.
Main statement: `Sampling.halves_of_batches`, by which concatenating and splitting undo each other,
and a guided prediction is made of the first rows that the network answers with and of the second.
-/

namespace Diffusion

namespace Shape

theorem stack?_of_half {s half : Shape} (halved : half? s = some half) :
    stack? half half = some s := by
  cases s with
  | nil => cases halved
  | cons n rest =>
      unfold half? at halved
      dsimp only at halved
      split at halved
      · cases halved
      · cases halved
        rw [stack?_self, Nat.mul_div_cancel' (by omega)]

/-- Batches of one shape that hold something can be laid after another and split again. -/
theorem stack_and_half {s t rest : Shape} {n : Nat} (inhabited : 0 < n) (first : s = n :: rest)
    (second : t = n :: rest) :
    stack? s t = some (2 * n :: rest) ∧ half? (2 * n :: rest) = some s := by
  rw [first, second]
  exact ⟨stack?_self n rest, half?_double inhabited rest⟩

end Shape

namespace Tensor

variable {α β : Type} {a b u v x : Tensor α}

/-- The extent of the batch. A scalar has no batch. -/
def rows (a : Tensor α) : Nat := a.shape.headD 0

/-- What a batch holds at one of its places. -/
def row (a : Tensor α) (i : Nat) : Array α :=
  let size := Shape.volume a.shape.tail
  a.data.extract (i * size) ((i + 1) * size)

/-- Two batches are the first and the second rows of a batch. -/
structure Halves (x u v : Tensor α) : Prop where
  shape : Shape.half? x.shape = some u.shape
  same : v.shape = u.shape
  first : ∀ i < u.rows, u.row i = x.row i
  second : ∀ i < u.rows, v.row i = x.row (u.rows + i)

theorem Halves.rows_eq (halves : x.Halves u v) : x.rows = 2 * u.rows := by
  have shape := halves.shape
  unfold Shape.half? at shape
  split at shape
  · cases shape
  · rename_i n rest whole
    split at shape
    · cases shape
    · rw [rows, rows, whole, ← Option.some.inj shape, List.headD_cons, List.headD_cons]
      omega

/-- The shape of a batch that has halves. -/
theorem shape_of_half {s : Shape} (halved : Shape.half? x.shape = some s) :
    x.shape.tail = s.tail ∧ s.volume = s.headD 0 * Shape.volume s.tail := by
  cases shape : x.shape with
  | nil =>
      rw [shape] at halved
      cases halved
  | cons n rest =>
      rw [shape] at halved
      unfold Shape.half? at halved
      dsimp only at halved
      split at halved
      · cases halved
      · cases halved
        exact ⟨rfl, rfl⟩

theorem row_firstHalf {s : Shape} (halved : Shape.half? x.shape = some s) {i : Nat}
    (inside : i < s.headD 0) : (x.firstHalf halved).row i = x.row i := by
  obtain ⟨tail, volume⟩ := shape_of_half halved
  have ends : (i + 1) * Shape.volume s.tail ≤ s.volume := by
    rw [volume]
    exact Nat.mul_le_mul_right _ inside
  simp only [row, firstHalf, tail, Array.extract_extract, Nat.zero_add]
  rw [Nat.min_eq_left ends]

theorem row_secondHalf {s : Shape} (halved : Shape.half? x.shape = some s) {i : Nat}
    (inside : i < s.headD 0) : (x.secondHalf halved).row i = x.row (s.headD 0 + i) := by
  obtain ⟨tail, volume⟩ := shape_of_half halved
  have ends : (i + 1) * Shape.volume s.tail ≤ s.volume := by
    rw [volume]
    exact Nat.mul_le_mul_right _ inside
  simp only [row, secondHalf, tail, Array.extract_extract, Nat.add_mul, Nat.add_assoc, ← volume]
  rw [Nat.min_eq_left (by rw [← Nat.add_mul]; omega)]

theorem halves_of_half {s : Shape} (halved : Shape.half? x.shape = some s) :
    x.Halves (x.firstHalf halved) (x.secondHalf halved) where
  shape := halved
  same := rfl
  first _ inside := row_firstHalf halved inside
  second _ inside := row_secondHalf halved inside

theorem stack_halves {s : Shape} (halved : Shape.half? x.shape = some s) :
    (x.firstHalf halved).stack (x.secondHalf halved) (Shape.stack?_of_half halved) = x := by
  apply ext
  · rfl
  · change x.data.extract 0 s.volume ++ x.data.extract s.volume (s.volume + s.volume) = x.data
    rw [Array.extract_append_extract, Nat.zero_min, Nat.max_eq_right (Nat.le_add_left _ _),
      ← Shape.volume_half halved, ← x.size_eq, Array.extract_size]

theorem row_map (f : α → β) (a : Tensor α) (i : Nat) : (a.map f).row i = (a.row i).map f :=
  Array.map_extract.symm

theorem Halves.map (halves : x.Halves u v) (f : α → β) : (x.map f).Halves (u.map f) (v.map f) where
  shape := halves.shape
  same := halves.same
  first i inside := by rw [row_map, row_map, halves.first i inside]
  second i inside := by rw [row_map, row_map, halves.second i inside]; rfl

end Tensor

section

variable {A : Arithmetic} {ν : Type} {network : Option (Network A ν)}

namespace Tensor

variable {a b u v x : Tensor A.Elem}

theorem split_stack {s : Shape} (stacked : Shape.stack? a.shape b.shape = some s)
    (halved : Shape.half? s = some a.shape) (same : a.shape = b.shape) :
    (a.stack b stacked).split = .ok (a, b) := by
  cases b with
  | mk shape data size =>
      dsimp only at same
      subst same
      rw [split_halved (a := a.stack ⟨_, data, size⟩ stacked) halved,
        firstHalf_stack stacked halved, secondHalf_stack stacked halved rfl]

theorem halves_of_split (cut : x.split = .ok (u, v)) : x.Halves u v := by
  cases halved : Shape.half? x.shape with
  | none => cases (split_unsplittable halved).symm.trans cut
  | some s =>
      cases (split_halved halved).symm.trans cut
      exact halves_of_half halved

theorem halves_of_concat {n : Nat} {rest : Shape} (inhabited : 0 < n) (first : a.shape = n :: rest)
    (second : b.shape = n :: rest) (laid : a.concat b = .ok x) : x.Halves a b := by
  obtain ⟨stacked, halved⟩ := Shape.stack_and_half inhabited first second
  rw [concat_stacked stacked] at laid
  split at laid
  · cases laid
    exact halves_of_split (split_stack stacked halved (first.trans second.symm))
  · cases laid

end Tensor

namespace Backend

/-- A batch that is laid after another one of its shape is split into the two. -/
theorem runOn_concat_split {a b : Tensor A.Elem} {n : Nat} {rest : Shape} (inhabited : 0 < n)
    (first : a.shape = n :: rest) (second : b.shape = n :: rest) (state : ν) :
    ((eager network).concat a b >>= (eager network).split).runOn state =
      (if Shape.span (2 * n :: rest) < spanLimit then .ok (a, b)
        else .error (.error .stackTooLarge), state) := by
  obtain ⟨stacked, halved⟩ := Shape.stack_and_half inhabited first second
  have laid : ((eager network).concat a b).runOn state = _ := runOn_concat stacked state
  split
  · rename_i fits
    rw [if_pos fits] at laid
    rw [Action.runOn_bind_ok laid]
    change (reported (a.stack b stacked).split).runOn state = _
    rw [Tensor.split_stack stacked halved (first.trans second.symm)]
    rfl
  · rename_i large
    rw [if_neg large] at laid
    exact Action.runOn_bind_error laid

theorem of_split {x u v : Tensor A.Elem} {state after : ν}
    (cut : ((eager network).split x).runOn state = (.ok (u, v), after)) :
    x.Halves u v ∧ (x.shape.span < spanLimit →
      ((eager network).concat u v).runOn state = (.ok x, state)) := by
  cases halved : Shape.half? x.shape with
  | none => cases (runOn_split_unsplittable halved state).symm.trans cut
  | some s =>
      cases (runOn_split halved state).symm.trans cut
      refine ⟨Tensor.halves_of_half halved, fun fits => ?_⟩
      have stacked : Shape.stack? (x.firstHalf halved).shape (x.secondHalf halved).shape =
        some x.shape := Shape.stack?_of_half halved
      rw [runOn_concat stacked, if_pos fits]
      exact congrArg (fun whole => (Except.ok whole, state)) (Tensor.stack_halves halved)

/-- An answer that comes through was asked for with as many rows of conditioning as of samples. -/
theorem rows_of_callNetwork {sample conditioning noise : Tensor A.Elem} {timestep : A.Elem}
    {state after : ν} (called : (callNetwork network sample timestep conditioning).runOn state =
      (.ok noise, after)) : conditioning.rows = sample.rows := by
  unfold callNetwork at called
  split at called
  · cases called
  · split at called
    · cases called
    · rename_i _ _ agree
      simp [Tensor.rows, List.headD_eq_head?_getD, Decidable.not_not.mp agree]

end Backend

namespace Scheduler

/-- What a scheduler gives the network is the sample with every element mapped alike. -/
theorem exists_map_of_scaleInput {scheduler left : Scheduler A (Tensor A.Elem)}
    {sample input : Tensor A.Elem} {timestep : A.Elem} {state after : ν}
    (scaled : (scaleInput (.eager network) sample timestep).runOn (state, scheduler) =
      (.ok input, after, left)) : ∃ f : A.Elem → A.Elem, input = sample.map f := by
  have tracked : ∀ {track rest : SigmaTrack A},
      (SigmaTrack.scaleInput (.eager network) sample timestep).runOn (state, track) =
        (.ok input, after, rest) → ∃ f : A.Elem → A.Elem, input = sample.map f := by
    intro track rest ran
    rw [SigmaTrack.runOn_scaleInput] at ran
    split at ran
    · cases ran
    · split at ran
      · cases ran
      · cases ran
        exact ⟨_, rfl⟩
  cases scheduler with
  | pndm | ddim | ddpm =>
      cases scaled
      exact ⟨fun x => x, by simp [Tensor.map]⟩
  | euler s =>
      obtain ⟨rest, ran, -⟩ := of_inside (fun track => euler ⟨track⟩)
        (SigmaTrack.scaleInput (.eager network) sample timestep) scaled
      exact tracked ran
  | eulerAncestral s =>
      obtain ⟨rest, ran, -⟩ := of_inside (fun track => eulerAncestral { s with track })
        (SigmaTrack.scaleInput (.eager network) sample timestep) scaled
      exact tracked ran
  | linearMultistep s =>
      let onTrack := SigmaTrack.scaleInput (.eager network) sample timestep
      obtain ⟨rest, ran, -⟩ := of_inside linearMultistep (LinearMultistep.onTrack onTrack) scaled
      have within : (LinearMultistep.onTrack onTrack).runOn (state, s) =
        ((onTrack.runOn (state, s.track)).1, (onTrack.runOn (state, s.track)).2.1,
          { s with track := (onTrack.runOn (state, s.track)).2.2 }) := rfl
      rcases inner : onTrack.runOn (state, s.track) with ⟨answer, w, track⟩
      rw [within, inner] at ran
      cases ran
      exact tracked inner

end Scheduler

namespace Sampling

variable {latents conditioning double input prediction : Tensor A.Elem}
  {scheduler left : Scheduler A (Tensor A.Elem)} {timestep : A.Elem} {state between after : ν}

/-- A round that is answered guides by the halves of the answer. -/
theorem runOn_predictGuided {n : Nat} {rest : Shape} (inhabited : 0 < n)
    (shape : latents.shape = n :: rest) (laid : latents.concat latents = .ok double)
    (scaled : (Scheduler.scaleInput (.eager network) double timestep).runOn (state, scheduler) =
      (.ok input, between, left))
    (answered : (Backend.callNetwork network input timestep conditioning).runOn between =
      (.ok prediction, after)) (guidance : A.Elem) :
    ∃ u v, prediction.Halves u v ∧ u.shape = latents.shape ∧
      (predictGuided (.eager network) guidance conditioning latents timestep).runOn
        (state, scheduler) =
      (Action.onFirst ((Backend.eager network).guide u v guidance)).runOn (after, left) := by
  have halves := Tensor.halves_of_concat inhabited shape shape laid
  obtain ⟨f, rfl⟩ := Scheduler.exists_map_of_scaleInput scaled
  have halved : Shape.half? prediction.shape = some latents.shape := by
    rw [Backend.shape_of_callNetwork answered]
    exact halves.shape
  refine ⟨_, _, Tensor.halves_of_half halved, rfl, ?_⟩
  have doubled : ((Backend.eager network).concat latents latents).runOn state =
      (.ok double, state) := by
    change (Backend.reported (latents.concat latents)).runOn state = _
    rw [laid]
    rfl
  have asked : ((Backend.eager network).predict (double.map f) timestep conditioning).runOn
      between = (.ok prediction, after) := answered
  rw [predictGuided, Action.runOn_onFirst_bind, doubled]
  dsimp only
  rw [Action.runOn_bind_ok scaled, Action.runOn_onFirst_bind, asked]
  dsimp only
  rw [Action.runOn_onFirst_bind, Backend.runOn_split halved]

/-- Concatenating and splitting undo each other wherever the concatenation has a layout, and the
halves that guide are the first and the second rows of the network's answer. -/
theorem halves_of_batches (network : Option (Network A ν)) :
    (∀ (a b : Tensor A.Elem) (n : Nat) (rest : Shape) (state : ν), 0 < n →
      a.shape = n :: rest → b.shape = n :: rest →
      ((Backend.eager network).concat a b >>= (Backend.eager network).split).runOn state =
        (if Shape.span (2 * n :: rest) < spanLimit then .ok (a, b)
          else .error (.error .stackTooLarge), state)) ∧
    (∀ (x u v : Tensor A.Elem) (state after : ν),
      ((Backend.eager network).split x).runOn state = (.ok (u, v), after) →
      x.Halves u v ∧ (x.shape.span < spanLimit →
        ((Backend.eager network).concat u v).runOn state = (.ok x, state))) ∧
    (∀ (latents conditioning double input prediction : Tensor A.Elem) (n : Nat) (rest : Shape)
      (scheduler left : Scheduler A (Tensor A.Elem)) (timestep guidance : A.Elem)
      (state between after : ν), 0 < n → latents.shape = n :: rest →
      latents.concat latents = .ok double →
      (Scheduler.scaleInput (.eager network) double timestep).runOn (state, scheduler) =
        (.ok input, between, left) →
      (Backend.callNetwork network input timestep conditioning).runOn between =
        (.ok prediction, after) →
      conditioning.rows = 2 * n ∧
      (∃ f, input.Halves (latents.map f) (latents.map f)) ∧
      ∃ u v, prediction.Halves u v ∧ u.shape = latents.shape ∧
        (predictGuided (.eager network) guidance conditioning latents timestep).runOn
          (state, scheduler) =
        (Action.onFirst ((Backend.eager network).guide u v guidance)).runOn (after, left)) := by
  refine ⟨fun a b n rest state inhabited first second => ?_, fun x u v state after cut => ?_,
    fun latents conditioning double input prediction n rest scheduler left timestep guidance state
      between after inhabited shape laid scaled answered => ?_⟩
  · exact Backend.runOn_concat_split inhabited first second state
  · obtain ⟨halves, laid⟩ := Backend.of_split cut
    exact ⟨halves, laid⟩
  · have halves := Tensor.halves_of_concat inhabited shape shape laid
    obtain ⟨f, rfl⟩ := Scheduler.exists_map_of_scaleInput scaled
    refine ⟨?_, ⟨f, halves.map f⟩,
      runOn_predictGuided inhabited shape laid scaled answered guidance⟩
    rw [Backend.rows_of_callNetwork answered]
    exact halves.rows_eq.trans (by rw [Tensor.rows, shape, List.headD_cons])

end Sampling

end

namespace Sampling

/-- The network that answers with the conditioning. -/
def conditional : Network whole Unit := .ofFunction fun _ _ conditioning => .ok conditioning

/-- Latents of one row, with two rows of conditioning. -/
theorem halves_of_batches_conditional :
    let latents : Tensor whole.Elem := ⟨[1, 2], #[5, 6], rfl⟩
    let conditioning : Tensor whole.Elem := ⟨[2, 2], #[1, 2, 3, 4], rfl⟩
    let scheduler : Scheduler whole (Tensor whole.Elem) :=
      .ddim (.unplanned (wholeSchedule .epsilon))
    let B := Backend.eager (some conditional)
    (B.concat latents latents >>= B.split).runOn () = (.ok (latents, latents), ()) ∧
    (B.concat ⟨[1, 2], #[1, 2], rfl⟩ ⟨[1, 2], #[3, 4], rfl⟩).runOn () = (.ok conditioning, ()) ∧
    ∃ u v, conditioning.Halves u v ∧ u.shape = [1, 2] ∧
      (predictGuided B (2 : Int) conditioning latents (7 : Int)).runOn ((), scheduler) =
        (Action.onFirst (B.guide u v (2 : Int))).runOn ((), scheduler) := by
  intro latents conditioning scheduler B
  let double : Tensor whole.Elem := ⟨[2, 2], #[5, 6, 5, 6], rfl⟩
  obtain ⟨stacked, cut, guided⟩ := halves_of_batches (some conditional)
  obtain ⟨-, -, halves⟩ := guided latents conditioning double double conditioning 1 [2] scheduler
    scheduler (7 : Int) (2 : Int) () () () (by decide) rfl rfl rfl rfl
  exact ⟨stacked latents latents 1 [2] () (by decide) rfl rfl,
    (cut conditioning _ _ () () rfl).2 (by decide), halves⟩

/-- Batches of `2 ^ 62` empty rows have a layout, and both after another have none. -/
theorem concat_manyRows :
    let a : Tensor whole.Elem := .fill [0x4000000000000000, 0] 0
    let B : Backend whole Unit (Tensor whole.Elem) := .eager none
    a.shape.span < spanLimit ∧ 0 < a.rows ∧
      (B.concat a a >>= B.split).runOn () ≠ (.ok (a, a), ()) := by
  intro a B
  refine ⟨by decide, by decide, ?_⟩
  have shape : a.shape = 0x4000000000000000 :: [0] := rfl
  have ran : (B.concat a a >>= B.split).runOn () = _ :=
    Backend.runOn_concat_split (by decide) shape shape ()
  rw [ran, if_neg (by decide)]
  nofun

end Sampling

end Diffusion
