import Diffusion.Proofs.Backend.Elementwise
import Diffusion.Proofs.Scheduler.ChangeOfVariables
import Diffusion.Proofs.Scheduler.History

/-!
The pseudo numerical method as the implicit one.

The one carries a sample to the next cumulative alpha by a closed formula in the noise, the other
takes the noise out of it and adds it back. In exact numbers that is the same, if the implicit
method is given what the pseudo numerical one makes of the outputs it remembers. Main statement:
`pndm_eq_ddim`.
-/

namespace Diffusion

/-! ### Calls that return the same -/

namespace Action

variable {σ ρ α β : Type} {x y : Action σ α}

/-- Two calls return the same, if they return, and they leave the same state. How they fail is not
compared. -/
def SameAnswers (x y : Action σ α) : Prop :=
  ∀ w, (x.runOn w).1.toOption = (y.runOn w).1.toOption ∧ (x.runOn w).2 = (y.runOn w).2

theorem SameAnswers.refl (x : Action σ α) : SameAnswers x x := fun _ => ⟨rfl, rfl⟩

theorem SameAnswers.bind (first : SameAnswers x y) {f g : α → Action σ β}
    (next : ∀ a, SameAnswers (f a) (g a)) : SameAnswers (x >>= f) (y >>= g) := by
  intro w
  obtain ⟨answer, state⟩ := first w
  rw [runOn_bind, runOn_bind]
  rcases ran : x.runOn w with ⟨_ | a, after⟩ <;> rcases ran' : y.runOn w with ⟨_ | b, after'⟩ <;>
    rw [ran, ran'] at answer state <;> cases answer <;> cases state
  · exact ⟨rfl, rfl⟩
  · exact next a after

/-- A call that fails in every state and changes none. -/
def Fails (x : Action σ α) : Prop := ∀ w, ∃ h, x.runOn w = (.error h, w)

theorem Fails.bind (fails : x.Fails) (f : α → Action σ β) : (x >>= f).Fails := by
  intro w
  obtain ⟨h, failed⟩ := fails w
  exact ⟨h, runOn_bind_error failed⟩

theorem sameAnswers_of_fails (left : x.Fails) (right : y.Fails) : SameAnswers x y := by
  intro w
  obtain ⟨_, failed⟩ := left w
  obtain ⟨_, failed'⟩ := right w
  rw [failed, failed']
  exact ⟨rfl, rfl⟩

theorem runOn_threaded_answer (x : Action (σ × ρ) α) (r : ρ) (w : σ) :
    (x.threaded r >>= fun a => pure a.1).runOn w = ((x.runOn (w, r)).1, (x.runOn (w, r)).2.1) := by
  rw [runOn_bind, runOn_threaded]
  rcases x.runOn (w, r) with ⟨_ | _, _, _⟩ <;> rfl

theorem SameAnswers.of_threaded {κ : Type} {x : Action (σ × ρ) α} {y : Action (σ × κ) α} {r : ρ}
    {k : κ}
    (same : SameAnswers (x.threaded r >>= fun a => pure a.1) (y.threaded k >>= fun a => pure a.1))
    (w : σ) :
    (x.runOn (w, r)).1.toOption = (y.runOn (w, k)).1.toOption ∧
      (x.runOn (w, r)).2.1 = (y.runOn (w, k)).2.1 := by
  have compared := same w
  rw [runOn_threaded_answer, runOn_threaded_answer] at compared
  exact compared

theorem SameAnswers.returns {κ : Type} {P : α → Prop} {x : Action (σ × ρ) α}
    {y : Action (σ × κ) α} {r : ρ} {k : κ}
    (same : SameAnswers (x.threaded r >>= fun a => pure a.1) (y.threaded k >>= fun a => pure a.1))
    (yields : (y.threaded k >>= fun a => pure a.1).Yields P) (w : σ) :
    ∃ a, (x.runOn (w, r)).1 = .ok a ∧ (y.runOn (w, k)).1 = .ok a := by
  obtain ⟨a, returned, -⟩ := yields
  have answered : (y.runOn (w, k)).1 = .ok a := by
    have ran := runOn_threaded_answer y k w
    rw [returned] at ran
    exact (congrArg Prod.fst ran).symm
  refine ⟨a, ?_, answered⟩
  have compared := (same.of_threaded w).1
  rw [answered] at compared
  exact Halt.toOption_eq_some_iff.mp compared

end Action

/-! ### One step -/

section Numbers

variable {a : ℝ} (positive : 0 < a) (proper : a < 1) (predicts : PredictionType) (u v : ℝ)

include positive proper

theorem cleanPart_eq :
    cleanPart predicts a u v = (u - √(1 - a) * noisePart predicts a u v) / √a := by
  have root : 0 < √a := Real.sqrt_pos.mpr positive
  have whole : √a * √a + √(1 - a) * √(1 - a) = 1 := by
    rw [Real.mul_self_sqrt positive.le, Real.mul_self_sqrt (sub_nonneg.mpr proper.le)]
    ring
  cases predicts with
  | epsilon =>
      rw [cleanPart, noisePart]
      field_simp
      ring
  | vPrediction =>
      rw [cleanPart, noisePart]
      field_simp
      linear_combination u * whole

/-- The closed formula for the step from one cumulative alpha to another. -/
theorem transfer_eq {a' : ℝ} (positive' : 0 < a') (most : a' ≤ 1) :
    u * √(a' / a) +
        noisePart predicts a u v * (-(a' - a) / (a * √(1 - a') + √(a * (1 - a) * a'))) =
      cleanPart predicts a u v * √a' + noisePart predicts a u v * √(1 - a') := by
  have rest : 0 < 1 - a := sub_pos.mpr proper
  have root : 0 < √a := Real.sqrt_pos.mpr positive
  have noisy : 0 < √(1 - a) := Real.sqrt_pos.mpr rest
  have root' : 0 < √a' := Real.sqrt_pos.mpr positive'
  have noisy' : 0 ≤ √(1 - a') := Real.sqrt_nonneg _
  have square : √a * √a = a := Real.mul_self_sqrt positive.le
  have square' : √a' * √a' = a' := Real.mul_self_sqrt positive'.le
  have noise : √(1 - a) * √(1 - a) = 1 - a := Real.mul_self_sqrt rest.le
  have noise' : √(1 - a') * √(1 - a') = 1 - a' := Real.mul_self_sqrt (sub_nonneg.mpr most)
  have denominator : a * √(1 - a') + √(a * (1 - a) * a') =
      √a * (√a * √(1 - a') + √(1 - a) * √a') := by
    rw [Real.sqrt_mul (mul_nonneg positive.le rest.le), Real.sqrt_mul positive.le]
    linear_combination -√(1 - a') * square
  have nonzero : √a * √(1 - a') + √(1 - a) * √a' ≠ 0 := by positivity
  -- What the formula divides is a difference of squares, of which it leaves one factor.
  have weight : -(a' - a) / (a * √(1 - a') + √(a * (1 - a) * a')) =
      √(1 - a') - √(1 - a) * √a' / √a := by
    rw [denominator]
    field_simp
    linear_combination -(1 - a') * square - √a * √a * noise' + √a' * √a' * noise +
      (1 - a) * square'
  rw [weight, cleanPart_eq positive proper, Real.sqrt_div' _ positive.le]
  field_simp
  ring

end Numbers

variable {A : Arithmetic} {σ τ ν : Type} {conventions : Conventions}
  {network : Option (Network (exact conventions) ν)} {x e : Tensor ℝ}

theorem Backend.weightedPair_mismatched {network : Option (Network A ν)} {y z : Tensor A.Elem}
    (c d : A.Elem) (differ : z.shape ≠ y.shape) :
    ((eager network).weightedSum [(c, y), (d, z)]).Fails := fun w =>
  runOn_weightedSum_mismatched ⟨(d, z), List.mem_singleton_self _, differ⟩ w

theorem Pndm.noiseOf_exact (predicts : PredictionType) (a : ℝ) (same : x.shape = e.shape) :
    noiseOf (A := exact conventions) (Backend.eager network) predicts a e x =
      pure (x.zipWith (noisePart predicts a) e same) := by
  have left := Tensor.eq_zipWith_left same
  have right := Tensor.eq_zipWith_right same
  cases predicts with
  | epsilon => exact congrArg pure right
  | vPrediction =>
      have noise : (fun u v : ℝ => v * √a + u * √(((1 : Nat) : ℝ) - a)) =
          noisePart .vPrediction a := by
        funext u v
        rw [Nat.cast_one, noisePart]
      unfold noiseOf
      simp only
      rw [Backend.weightedPair_zipWith _ _ right left, ← noise]
      rfl

section

variable {a a' : ℝ} (positive : 0 < a) (proper : a < 1) (positive' : 0 < a') (most : a' ≤ 1)

include positive proper positive' most

theorem Pndm.transfer_exact (predicts : PredictionType) (same : x.shape = e.shape) :
    transfer (A := exact conventions) (Backend.eager network) predicts a a' e x =
      Ddim.between (Backend.eager network) predicts a a' e x := by
  have left := Tensor.eq_zipWith_left same
  have formula : (fun u v : ℝ => u * √(a' / a) + noisePart predicts a u v *
      (-(a' - a) / (a * √(((1 : Nat) : ℝ) - a') + √(a * (((1 : Nat) : ℝ) - a) * a')))) =
      fun u v => cleanPart predicts a u v * √a' + noisePart predicts a u v * √(1 - a') := by
    funext u v
    rw [Nat.cast_one, transfer_eq positive proper predicts u v positive' most]
  unfold transfer
  rw [noiseOf_exact _ _ same, pure_bind, Backend.weightedPair_zipWith _ _ left rfl,
    Ddim.between_exact _ _ _ same, ← formula]
  rfl

/-- On tensors of two shapes both methods fail, each at the first sum that it computes. -/
theorem Pndm.transfer_sameAnswers (predicts : PredictionType) (e x : Tensor ℝ) :
    Action.SameAnswers (transfer (A := exact conventions) (Backend.eager network) predicts a a' e x)
      (Ddim.between (Backend.eager network) predicts a a' e x) := by
  by_cases same : x.shape = e.shape
  · rw [transfer_exact positive proper positive' most _ same]
    exact .refl _
  · have differ : e.shape ≠ x.shape := Ne.symm same
    apply Action.sameAnswers_of_fails
    · cases predicts with
      | epsilon => exact Backend.weightedPair_mismatched _ _ differ
      | vPrediction => exact (Backend.weightedPair_mismatched _ _ same).bind _
    · cases predicts with
      | epsilon | vPrediction => exact ((Backend.weightedPair_mismatched _ _ differ).bind _).bind _

end

/-! ### Combinations -/

theorem Tensor.scale_one_exact (e : Tensor ℝ) : scale (A := exact conventions) e (1 : ℝ) = e :=
  map_id_of mul_one e

theorem AdamsBashforth.sum_eq_one {weights : List ℝ} (some : 0 < weights.length)
    (proper : AdamsBashforth weights) : weights.sum = 1 := by
  have constant := proper 0 some
  have entries : (weights.mapIdx fun k weight => weight * (-(k : ℝ)) ^ 0) = weights := by
    apply List.ext_getElem
    · simp
    · intro k _ _
      simp
  rw [entries] at constant
  rw [constant]
  norm_num

namespace Backend

theorem addTerms_alike (start : ℝ) (coefficients : List ℝ) (e : Tensor ℝ) :
    (eager (A := exact conventions) network).addTerms
        (Tensor.scale (A := exact conventions) e start) (coefficients.map (·, e)) =
      pure (Tensor.scale (A := exact conventions) e (start + coefficients.sum)) := by
  induction coefficients generalizing start with
  | nil => simp [addTerms]
  | cons c rest ih =>
      have added : (eager (A := exact conventions) network).add
          (Tensor.scale (A := exact conventions) e start)
          (Tensor.scale (A := exact conventions) e c) =
          pure (Tensor.scale (A := exact conventions) e (start + c)) := by
        have left := Tensor.map_eq_zipWith (· * start) (rfl : e.shape = e.shape)
        have right := Tensor.map_eq_zipWith (· * c) (rfl : e.shape = e.shape)
        have both := Tensor.map_eq_zipWith (· * (start + c)) (rfl : e.shape = e.shape)
        change reported (Tensor.combine _ _ (e.map _) (e.map _)) = pure (e.map _)
        rw [left, right, both, Tensor.combine_zipWith]
        simp only [mul_add]
        rfl
      have scaled : (eager (A := exact conventions) network).scale e c =
        pure (Tensor.scale (A := exact conventions) e c) := rfl
      rw [List.map_cons, addTerms, scaled, pure_bind, added, pure_bind, ih, List.sum_cons,
        add_assoc]

theorem weightedSum_alike {coefficients : List ℝ} (some : coefficients ≠ []) (e : Tensor ℝ) :
    (eager (A := exact conventions) network).weightedSum (coefficients.map (·, e)) =
      pure (Tensor.scale (A := exact conventions) e coefficients.sum) := by
  cases coefficients with
  | nil => exact absurd rfl some
  | cons c rest =>
      have scaled : (eager (A := exact conventions) network).scale e c =
        pure (Tensor.scale (A := exact conventions) e c) := rfl
      rw [List.map_cons, weightedSum, scaled, pure_bind, addTerms_alike, List.sum_cons]

end Backend

namespace Pndm

/-- In exact numbers a single output counts as itself times one. -/
theorem combined_exact {outputs : List (Tensor ℝ)} (some : outputs ≠ []) :
    combined (A := exact conventions) (Backend.eager network) outputs =
      (Backend.eager network).weightedSum
        ((weights (exact conventions) outputs.length).zip outputs) := by
  match outputs with
  | [] => exact absurd rfl some
  | [e] =>
      have one : Tensor.scale (A := exact conventions) e ((1 : Nat) : ℝ) = e := by
        rw [Nat.cast_one, Tensor.scale_one_exact]
      exact congrArg pure one.symm
  | _ :: _ :: _ => rfl

theorem combined_alike {outputs : List (Tensor ℝ)} (some : outputs ≠ [])
    (few : outputs.length ≤ memory) (alike : ∀ y ∈ outputs, y = e) :
    combined (A := exact conventions) (Backend.eager network) outputs = pure e := by
  have positive := List.length_pos_iff.mpr some
  have length := length_weights (A := exact conventions) positive few
  have proper := weights_adamsBashforth conventions positive few
  have paired : (weights (exact conventions) outputs.length).zip outputs =
      (weights (exact conventions) outputs.length).map (·, e) := by
    apply List.ext_getElem
    · rw [List.length_zip, List.length_map, length, Nat.min_self]
    · intro k inside _
      rw [List.getElem_zip, List.getElem_map, alike _ (List.getElem_mem _)]
  have counted : 0 < (weights (exact conventions) outputs.length).length := by
    rw [length]
    exact positive
  rw [combined_exact some, paired, Backend.weightedSum_alike (List.length_pos_iff.mp counted),
    proper.sum_eq_one counted, Tensor.scale_one_exact]

end Pndm

/-! ### Passes -/

namespace NoiseSchedule

variable {s : NoiseSchedule (exact conventions)}

theorem Decays.finalAlpha_inside (decays : s.Decays) :
    0 < (s.finalAlpha : ℝ) ∧ (s.finalAlpha : ℝ) ≤ 1 := by
  cases one : s.config.setAlphaToOne with
  | true =>
      rw [finalAlpha_eq_one one]
      exact ⟨one_pos, le_rfl⟩
  | false =>
      have first : (s.finalAlpha : ℝ) = s.clampedAlpha 0 := by
        rw [finalAlpha, one]
        rfl
      rw [first]
      exact ⟨(decays.inside 0).1, (decays.inside 0).2.le⟩

theorem Decays.alphaProd_inside (decays : s.Decays) (timestep : Int) :
    0 < (s.alphaProd timestep s.finalAlpha : ℝ) ∧ (s.alphaProd timestep s.finalAlpha : ℝ) ≤ 1 := by
  unfold alphaProd
  split
  · exact decays.finalAlpha_inside
  · exact ⟨(decays.inside _).1, (decays.inside _).2.le⟩

end NoiseSchedule

theorem Timeline.next_of_plan {line planned : Timeline (exact conventions)} {steps : Nat}
    {timestep : ℝ} (accepted : line.plan steps = .ok planned)
    (room : line.schedule.config.numTrainTimesteps < NoiseSchedule.tableLimit)
    (member : timestep ∈ planned.timesteps) :
    ∃ t : Nat, wholePart timestep = t ∧
      planned.next t = .ok ((t : Int) - line.schedule.stepRatio steps) := by
  obtain ⟨timesteps, led, rfl⟩ := Timeline.of_plan accepted
  obtain ⟨k, found⟩ := List.mem_iff_getElem?.mp member
  obtain ⟨-, rfl⟩ := NoiseSchedule.getElem?_leadingTimesteps led found
  exact ⟨_, NoiseSchedule.wholePart_leading ⟨timesteps, led⟩ room,
    NoiseSchedule.next_passLine room _⟩

section

variable {line pass : Timeline (exact conventions)} {steps : Nat} {timestep : ℝ}
  (room : line.schedule.config.numTrainTimesteps < NoiseSchedule.tableLimit)
  (accepted : line.plan steps = .ok pass)

include room accepted

theorem ddim_advance_yields (member : timestep ∈ pass.timesteps) {output sample : Tensor ℝ}
    (same : output.shape = sample.shape) :
    ((Ddim.mk pass).advance (Backend.eager network) output timestep sample).Yields
      (·.shape = sample.shape) := by
  obtain ⟨t, here, next⟩ := Timeline.next_of_plan accepted room member
  have back : (Backend.elementwise network sample.shape).Bears
      (pass.next ((exact conventions).truncate timestep)) :=
    .inr ⟨_, (congrArg pass.next here).trans next⟩
  exact (Contract.drawn_ddim_advance _ (w := ()) back same rfl).imp fun _ drawn => drawn.fits

variable (decays : line.schedule.Decays)

include decays

/-- The step by the outputs remembered is the implicit step by their combination. -/
theorem Pndm.advance_sameAnswers (network : Option (Network (exact conventions) ν))
    (member : timestep ∈ pass.timesteps) (outputs : List (Tensor ℝ)) (sample : Tensor ℝ) :
    Action.SameAnswers
      ((Pndm.mk pass outputs).advance (Backend.eager network) timestep sample)
      (combined (Backend.eager network) outputs >>= fun output =>
        (Ddim.mk pass).advance (Backend.eager network) output timestep sample) := by
  obtain ⟨t, here, next⟩ := Timeline.next_of_plan accepted room member
  obtain ⟨timesteps, led, rfl⟩ := Timeline.of_plan accepted
  have now : ∀ final : ℝ, (line.schedule.alphaProd t final : ℝ) = line.schedule.clampedAlpha t :=
    fun final => NoiseSchedule.alphaProd_natCast t final
  obtain ⟨positive, proper⟩ := decays.inside t
  obtain ⟨positive', most⟩ :=
    decays.alphaProd_inside ((t : Int) - line.schedule.stepRatio steps)
  rw [Pndm.advance_eq_between _ here next, Pndm.between_eq_bind]
  refine (Action.SameAnswers.refl _).bind fun output => ?_
  rw [Ddim.advance_eq_between _ here next]
  dsimp only
  rw [now]
  exact Pndm.transfer_sameAnswers positive proper positive' most _ output sample

end

namespace Scheduler

/-- Steps through timesteps with one and the same output of the network, and collects the samples
on the way. -/
def samples (B : Backend A σ τ) (output : τ) :
    List A.Elem → τ → Action (σ × Scheduler A τ) (List τ)
  | [], _ => pure []
  | timestep :: rest, sample => do
    let previous ← step B output timestep sample
    let later ← samples B output rest previous
    return previous :: later

/-- A step by a sum of weighted outputs. -/
def stepBy (B : Backend A σ τ) (terms : List (A.Elem × τ)) (timestep : A.Elem) (sample : τ) :
    Action (σ × Scheduler A τ) τ := do
  let combination ← Action.onFirst (B.weightedSum terms)
  step B combination timestep sample

theorem threaded_samples (B : Backend A σ τ) (output : τ) (timestep : A.Elem)
    (rest : List A.Elem) (sample : τ) (s : Scheduler A τ) :
    (samples B output (timestep :: rest) sample).threaded s = (do
      let (previous, s) ← (step B output timestep sample).threaded s
      let (later, s) ← (samples B output rest previous).threaded s
      return (previous :: later, s)) := by
  simp only [samples, Action.threaded_bind, Action.threaded_pure]

theorem answer_step_pndm (B : Backend A σ τ) (output : τ) (timestep : A.Elem) (sample : τ)
    (s : Pndm A τ) :
    (step B output timestep sample).threaded (pndm s) = (do
      let previous ← (s.remember output).advance B timestep sample
      return (previous, pndm (s.remember output))) := by
  simp only [threaded_step_pndm, Pndm.threaded_step, bind_assoc, pure_bind]

theorem answer_step_ddim (B : Backend A σ τ) (output : τ) (timestep : A.Elem) (sample : τ)
    (s : Ddim A) :
    (step B output timestep sample).threaded (ddim s) = (do
      let previous ← s.advance B output timestep sample
      return (previous, ddim s)) := by
  simp only [threaded_step_ddim, Ddim.threaded_step, bind_assoc, pure_bind]

theorem answer_stepBy (B : Backend A σ τ) (terms : List (A.Elem × τ)) (timestep : A.Elem)
    (sample : τ) (s : Ddim A) :
    (stepBy B terms timestep sample).threaded (ddim s) = (do
      let combination ← B.weightedSum terms
      let previous ← s.advance B combination timestep sample
      return (previous, ddim s)) := by
  simp only [stepBy, Action.threaded_bind, Action.threaded_onFirst, answer_step_ddim, bind_assoc,
    pure_bind]

variable {line pass : Timeline (exact conventions)} {steps : Nat} {timestep : ℝ}
  (room : line.schedule.config.numTrainTimesteps < NoiseSchedule.tableLimit)
  (accepted : line.plan steps = .ok pass)

include room accepted

theorem stepBy_yields (member : timestep ∈ pass.timesteps) {output sample : Tensor ℝ}
    {history : List (Tensor ℝ)}
    (same : ∀ y ∈ (output :: history).take Pndm.memory, y.shape = sample.shape) :
    let newest := (output :: history).take Pndm.memory
    ((stepBy (Backend.eager network)
        ((Pndm.weights (exact conventions) newest.length).zip newest) timestep sample).threaded
      (ddim ⟨pass⟩) >>= fun a => pure a.1).Yields (·.shape = sample.shape) := by
  intro newest
  have combination : (Pndm.combined (Backend.eager network) newest).Yields
      (·.shape = sample.shape) :=
    (Contract.drawn_combined (Backend.elementwise network sample.shape) (w := ()) same).imp
      fun _ drawn => drawn.fits
  have some : newest ≠ [] := List.cons_ne_nil _ _
  rw [Pndm.combined_exact some] at combination
  rw [answer_stepBy]
  simp only [bind_assoc, pure_bind, bind_pure]
  exact combination.bind fun _ shape => ddim_advance_yields room accepted member shape

theorem samples_yield {rest : List ℝ} (part : rest ⊆ pass.timesteps) {output sample : Tensor ℝ}
    (same : output.shape = sample.shape) :
    ((samples (Backend.eager network) output rest sample).threaded (ddim ⟨pass⟩) >>=
      fun a => pure a.1).Yields fun results => ∀ y ∈ results, y.shape = sample.shape := by
  induction rest generalizing sample with
  | nil => exact Action.yields_pure nofun
  | cons timestep rest ih =>
      obtain ⟨here, later⟩ := List.cons_subset.mp part
      rw [threaded_samples, answer_step_ddim]
      simp only [bind_assoc, pure_bind]
      refine (ddim_advance_yields room accepted here same).bind fun previous shape => ?_
      have grown (results : List (Tensor ℝ)) (shapes : ∀ y ∈ results, y.shape = previous.shape) :
          (pure (previous :: results) : Action ν (List (Tensor ℝ))).Yields
            fun results => ∀ y ∈ results, y.shape = sample.shape :=
        Action.yields_pure
          (List.forall_mem_cons.mpr ⟨shape, fun y listed => (shapes y listed).trans shape⟩)
      have others := (ih later (same.trans shape.symm)).bind grown
      simp only [bind_assoc, pure_bind] at others
      exact others

variable (decays : line.schedule.Decays) (network : Option (Network (exact conventions) ν))

include decays

theorem step_sameAnswers (member : timestep ∈ pass.timesteps) (output : Tensor ℝ)
    (history : List (Tensor ℝ)) (sample : Tensor ℝ) :
    let newest := (output :: history).take Pndm.memory
    Action.SameAnswers
      ((step (Backend.eager network) output timestep sample).threaded (pndm ⟨pass, history⟩) >>=
        fun a => pure a.1)
      ((stepBy (Backend.eager network)
          ((Pndm.weights (exact conventions) newest.length).zip newest) timestep sample).threaded
        (ddim ⟨pass⟩) >>= fun a => pure a.1) := by
  intro newest
  have stepped := Pndm.advance_sameAnswers room accepted decays network member newest sample
  have some : newest ≠ [] := List.cons_ne_nil _ _
  rw [Pndm.combined_exact some] at stepped
  rw [answer_step_pndm, answer_stepBy]
  simp only [bind_assoc, pure_bind, bind_pure]
  exact stepped

theorem samples_sameAnswers {rest : List ℝ} (part : rest ⊆ pass.timesteps) {output : Tensor ℝ}
    {outputs : List (Tensor ℝ)} (alike : ∀ y ∈ outputs, y = output) (sample : Tensor ℝ) :
    Action.SameAnswers
      ((samples (Backend.eager network) output rest sample).threaded (pndm ⟨pass, outputs⟩) >>=
        fun a => pure a.1)
      ((samples (Backend.eager network) output rest sample).threaded (ddim ⟨pass⟩) >>=
        fun a => pure a.1) := by
  induction rest generalizing outputs sample with
  | nil => exact .refl _
  | cons timestep rest ih =>
      obtain ⟨here, later⟩ := List.cons_subset.mp part
      -- What is remembered stays made of one output, so its combination is that output.
      let newest := (output :: outputs).take Pndm.memory
      have alike' : ∀ y ∈ newest, y = output := fun y member =>
        (List.mem_cons.mp (List.mem_of_mem_take member)).elim (fun own => own) (alike y)
      have combined : Pndm.combined (Backend.eager network) newest = pure output :=
        Pndm.combined_alike (List.cons_ne_nil _ _) (List.length_take_le _ _) alike'
      have first := Pndm.advance_sameAnswers room accepted decays network here newest
        sample
      rw [combined, pure_bind] at first
      rw [threaded_samples, threaded_samples, answer_step_pndm, answer_step_ddim]
      simp only [bind_assoc, pure_bind]
      refine first.bind fun previous => ?_
      have others := (ih later alike' previous).bind (fun samples =>
        Action.SameAnswers.refl (pure (previous :: samples)))
      simp only [bind_assoc, pure_bind] at others
      exact others

end Scheduler

/-- In exact numbers a step of the pseudo numerical method, whatever outputs it remembers, is the
step of the implicit method from the same sample by the Adams-Bashforth combination of the newest
four. If tensors of different shapes are given, both fail. With one output all along, both methods
go through the same samples. -/
theorem pndm_eq_ddim {config : ScheduleConfig (exact conventions)} {seed seed' : UInt64}
    {steps : Nat} {pndm : Pndm (exact conventions) (Tensor ℝ)} {ddim : Ddim (exact conventions)}
    (betas : ∀ beta : ℝ, beta ∈ NoiseSchedule.betasOf config → 0 < beta ∧ beta < 1)
    (left : Scheduler.planned .pndm config seed steps = .ok (.pndm pndm))
    (right : Scheduler.planned (τ := Tensor ℝ) .ddim config seed' steps = .ok (.ddim ddim))
    (network : Option (Network (exact conventions) ν)) (start : ν) (output sample : Tensor ℝ) :
    let B := Backend.eager network
    ddim.line = pndm.line ∧
      (∀ (history : List (Tensor ℝ)), ∀ timestep ∈ pndm.line.timesteps,
        let newest := (output :: history).take 4
        ∃ weights : List ℝ, weights.length = newest.length ∧ AdamsBashforth weights ∧
          let stepped := (Scheduler.step B output timestep sample).runOn
            (start, .pndm { pndm with outputs := history })
          let implicit := (Scheduler.stepBy B (weights.zip newest) timestep sample).runOn
            (start, .ddim ddim)
          stepped.1.toOption = implicit.1.toOption ∧ stepped.2.1 = implicit.2.1 ∧
            ((∀ y ∈ newest, y.shape = sample.shape) →
              ∃ result, stepped.1 = .ok result ∧ implicit.1 = .ok result)) ∧
      let passed := (Scheduler.samples B output pndm.line.timesteps sample).runOn
        (start, .pndm pndm)
      let implicit := (Scheduler.samples B output pndm.line.timesteps sample).runOn
        (start, .ddim ddim)
      passed.1.toOption = implicit.1.toOption ∧ passed.2.1 = implicit.2.1 ∧
        (output.shape = sample.shape →
          ∃ results, passed.1 = .ok results ∧ implicit.1 = .ok results) := by
  intro B
  obtain ⟨schedule, scheduled, ran⟩ := Scheduler.planned_eq_ok_iff.mp left
  obtain ⟨schedule', scheduled', ran'⟩ := Scheduler.planned_eq_ok_iff.mp right
  cases scheduled.symm.trans scheduled'
  have decays := NoiseSchedule.decays_of_ofConfig scheduled betas
  obtain ⟨rfl, room⟩ := NoiseSchedule.config_of_ofConfig scheduled
  cases Scheduler.plans_of_ok ran with
  | @pndm _ line accepted =>
    cases Scheduler.plans_of_ok ran' with
    | @ddim _ line' accepted' =>
      cases accepted.symm.trans accepted'
      refine ⟨rfl, ?_, ?_⟩
      · intro history timestep member newest
        have some : 0 < newest.length := Nat.succ_pos _
        have few : newest.length ≤ Pndm.memory := List.length_take_le _ _
        refine ⟨Pndm.weights (exact conventions) newest.length, Pndm.length_weights some few,
          Pndm.weights_adamsBashforth conventions some few, ?_⟩
        have same := Scheduler.step_sameAnswers room accepted decays network member output history
          sample
        obtain ⟨answer, state⟩ := same.of_threaded start
        exact ⟨answer, state, fun fit =>
          same.returns (Scheduler.stepBy_yields room accepted member fit) start⟩
      · have same := Scheduler.samples_sameAnswers room accepted decays network
          (List.Subset.refl _) (List.forall_mem_nil (· = output)) sample
        obtain ⟨answer, state⟩ := same.of_threaded start
        exact ⟨answer, state, fun fit =>
          same.returns (Scheduler.samples_yield room accepted (List.Subset.refl _) fit) start⟩

/-- The second step of a pass of two, and a whole pass. -/
theorem pndm_eq_ddim_quarters :
    ∃ (pndm : Pndm (exact .silent) (Tensor ℝ)) (ddim : Ddim (exact .silent)),
      Scheduler.planned .pndm quarters 0 2 = .ok (.pndm pndm) ∧
      Scheduler.planned (τ := Tensor ℝ) .ddim quarters 0 2 = .ok (.ddim ddim) ∧
      let B := Backend.eager (none : Option (Network (exact .silent) Unit))
      let older : Tensor ℝ := .fill [1] 2
      let output : Tensor ℝ := .fill [1] 3
      let sample : Tensor ℝ := .fill [1] 1
      let last : ℝ := ((1 : Nat) : ℝ)
      (∃ (weights : List ℝ) (result : Tensor ℝ), weights.length = 2 ∧ AdamsBashforth weights ∧
        ((Scheduler.step B output last sample).runOn
          ((), .pndm { pndm with outputs := [older] })).1 = .ok result ∧
        ((Scheduler.stepBy B (weights.zip [output, older]) last sample).runOn
          ((), .ddim ddim)).1 = .ok result) ∧
      ∃ results : List (Tensor ℝ),
        ((Scheduler.samples B output pndm.line.timesteps sample).runOn ((), .pndm pndm)).1 =
          .ok results ∧
        ((Scheduler.samples B output pndm.line.timesteps sample).runOn ((), .ddim ddim)).1 =
          .ok results := by
  obtain ⟨pndm, left, timesteps⟩ : ∃ pndm : Pndm (exact .silent) (Tensor ℝ),
      Scheduler.planned .pndm quarters 0 2 = .ok (.pndm pndm) ∧
        pndm.line.timesteps = [((2 : Nat) : ℝ), ((1 : Nat) : ℝ)] := ⟨_, rfl, rfl⟩
  obtain ⟨ddim, right⟩ : ∃ ddim : Ddim (exact .silent),
      Scheduler.planned (τ := Tensor ℝ) .ddim quarters 0 2 = .ok (.ddim ddim) := ⟨_, rfl⟩
  refine ⟨pndm, ddim, left, right, ?_⟩
  intro B older output sample last
  obtain ⟨-, steps, -, -, passes⟩ := pndm_eq_ddim betas_quarters left right none () output sample
  have member : last ∈ pndm.line.timesteps := by
    rw [timesteps]
    exact List.mem_cons_of_mem _ List.mem_cons_self
  obtain ⟨weights, length, proper, -, -, returns⟩ := steps [older] last member
  obtain ⟨result, stepped, implicit⟩ := returns fun y listed => by
    rcases List.mem_cons.mp listed with rfl | listed
    · rfl
    · cases List.mem_singleton.mp listed
      rfl
  exact ⟨⟨weights, result, length, proper, stepped, implicit⟩, passes rfl⟩

end Diffusion
