import Diffusion.Proofs.Backend.Coupling
import Diffusion.Proofs.Scheduler.Steps

/-!
Schedulers over the corresponding tensors of two backends.

Schedulers correspond when they are in the same state of the same kind and the tensors that they
remember correspond. Main statements: `couples_scaleInput` and `couples_step`, by which what they
do next corresponds as well.
-/

namespace Diffusion

namespace Coupling

variable {A : Arithmetic} {σ₁ τ₁ σ₂ τ₂ : Type} {B₁ : Backend A σ₁ τ₁} {B₂ : Backend A σ₂ τ₂}
  (C : Coupling B₁ B₂) {w w' : C.World}

/-- Schedulers of one kind and state that remember corresponding tensors. -/
inductive RelatedSchedulers (w : C.World) : Scheduler A τ₁ → Scheduler A τ₂ → Prop where
  | pndm {line : Timeline A} {outputs₁ : List τ₁} {outputs₂ : List τ₂}
      (remembered : List.Forall₂ (C.Related w) outputs₁ outputs₂) :
      RelatedSchedulers w (.pndm ⟨line, outputs₁⟩) (.pndm ⟨line, outputs₂⟩)
  | ddim (s : Ddim A) : RelatedSchedulers w (.ddim s) (.ddim s)
  | ddpm (s : Ddpm A) : RelatedSchedulers w (.ddpm s) (.ddpm s)
  | euler (s : Euler A) : RelatedSchedulers w (.euler s) (.euler s)
  | eulerAncestral (s : EulerAncestral A) :
      RelatedSchedulers w (.eulerAncestral s) (.eulerAncestral s)
  | linearMultistep {track : SigmaTrack A} {derivatives₁ : List τ₁} {derivatives₂ : List τ₂}
      (remembered : List.Forall₂ (C.Related w) derivatives₁ derivatives₂) :
      RelatedSchedulers w (.linearMultistep ⟨track, derivatives₁⟩)
        (.linearMultistep ⟨track, derivatives₂⟩)

def RelatedSteps (w : C.World) (a : τ₁ × Scheduler A τ₁) (b : τ₂ × Scheduler A τ₂) : Prop :=
  C.Related w a.1 b.1 ∧ C.RelatedSchedulers w a.2 b.2

variable {C}

theorem RelatedSchedulers.of_leads {s₁ : Scheduler A τ₁} {s₂ : Scheduler A τ₂}
    (leads : C.Leads w w') (related : C.RelatedSchedulers w s₁ s₂) :
    C.RelatedSchedulers w' s₁ s₂ := by
  cases related with
  | pndm remembered => exact .pndm (forall₂_of_leads leads remembered)
  | ddim s => exact .ddim s
  | ddpm s => exact .ddpm s
  | euler s => exact .euler s
  | eulerAncestral s => exact .eulerAncestral s
  | linearMultistep remembered => exact .linearMultistep (forall₂_of_leads leads remembered)

theorem RelatedSchedulers.timesteps_eq {s₁ : Scheduler A τ₁} {s₂ : Scheduler A τ₂}
    (related : C.RelatedSchedulers w s₁ s₂) : s₁.timesteps = s₂.timesteps := by
  cases related <;> rfl

theorem RelatedSchedulers.initialDeviation_eq {s₁ : Scheduler A τ₁} {s₂ : Scheduler A τ₂}
    (related : C.RelatedSchedulers w s₁ s₂) : s₁.initialDeviation = s₂.initialDeviation := by
  cases related <;> rfl

variable (C) {output₁ sample₁ : τ₁} {output₂ sample₂ : τ₂}

/-! ### Updates over cumulative alphas -/

theorem couples_cleanAndNoise (predicts : PredictionType) (alpha : A.Wide)
    (outputs : C.Related w output₁ output₂) (samples : C.Related w sample₁ sample₂) :
    C.Couples w (cleanAndNoise B₁ predicts alpha output₁ sample₁)
      (cleanAndNoise B₂ predicts alpha output₂ sample₂)
      fun w a b => C.Related w a.1 b.1 ∧ C.Related w a.2 b.2 := by
  cases predicts with
  | epsilon =>
      refine C.couples_map (C.couples_weightedPair _ _ samples outputs) ?_
      intro w' clean₁ clean₂ leads cleans
      exact ⟨cleans, C.related_of_leads leads outputs⟩
  | vPrediction =>
      refine C.couples_bind (C.couples_weightedPair _ _ samples outputs) ?_
      intro w' clean₁ clean₂ leads cleans
      refine C.couples_map (C.couples_weightedPair _ _ (C.related_of_leads leads outputs)
        (C.related_of_leads leads samples)) ?_
      intro w'' noise₁ noise₂ later noises
      exact ⟨C.related_of_leads later cleans, noises⟩

theorem couples_ddim_advance (s : Ddim A) (timestep : A.Elem)
    (outputs : C.Related w output₁ output₂) (samples : C.Related w sample₁ sample₂) :
    C.Couples w (s.advance B₁ output₁ timestep sample₁) (s.advance B₂ output₂ timestep sample₂)
      C.Related := by
  refine C.couples_ofExcept_bind _ fun next _ => ?_
  refine C.couples_bind (C.couples_cleanAndNoise _ _ outputs samples) ?_
  rintro w' ⟨clean₁, noise₁⟩ ⟨clean₂, noise₂⟩ leads ⟨cleans, noises⟩
  exact C.couples_weightedPair _ _ cleans noises

theorem couples_addNoise (seed : UInt64) (deviation : A.Elem) {mean₁ : τ₁} {mean₂ : τ₂}
    (means : C.Related w mean₁ mean₂) (samples : C.Related w sample₁ sample₂) :
    C.Couples w (Ddpm.addNoise B₁ seed deviation mean₁ sample₁)
      (Ddpm.addNoise B₂ seed deviation mean₂ sample₂) C.Related := by
  refine C.couples_bind (C.couples_noise seed samples) fun w₁ _ _ leads₁ noises => ?_
  refine C.couples_bind (C.couples_scale deviation noises) fun w₂ _ _ leads₂ scaled => ?_
  exact C.couples_add (C.related_of_leads leads₂ (C.related_of_leads leads₁ means)) scaled

theorem couples_ddpm_advance (s : Ddpm A) (timestep : A.Elem)
    (outputs : C.Related w output₁ output₂) (samples : C.Related w sample₁ sample₂) :
    C.Couples w (s.advance B₁ output₁ timestep sample₁) (s.advance B₂ output₂ timestep sample₂)
      C.Related := by
  refine C.couples_ofExcept_bind _ fun next _ => ?_
  refine C.couples_bind (C.couples_cleanAndNoise _ _ outputs samples) ?_
  rintro w₁ ⟨clean₁, _⟩ ⟨clean₂, _⟩ leads₁ ⟨cleans, -⟩
  have samples := C.related_of_leads leads₁ samples
  refine C.couples_bind (C.couples_weightedPair _ _ cleans samples) ?_
  intro w₂ mean₁ mean₂ leads₂ means
  split
  · exact C.couples_addNoise _ _ means (C.related_of_leads leads₂ samples)
  · exact C.couples_pure means

theorem couples_combined {outputs₁ : List τ₁} {outputs₂ : List τ₂}
    (outputs : List.Forall₂ (C.Related w) outputs₁ outputs₂) :
    C.Couples w (Pndm.combined B₁ outputs₁) (Pndm.combined B₂ outputs₂) C.Related := by
  cases outputs with
  | nil => exact C.couples_weightedSum .nil
  | cons first rest =>
      cases rest with
      | nil => exact C.couples_pure first
      | cons second rest =>
          have all := List.Forall₂.cons first (.cons second rest)
          change C.Couples w (B₁.weightedSum ((Pndm.weights A (List.length _)).zip _))
            (B₂.weightedSum ((Pndm.weights A (List.length _)).zip _)) C.Related
          rw [all.length_eq]
          exact C.couples_weightedSum (.zip all)

theorem couples_noiseOf (predicts : PredictionType) (alpha : A.Wide)
    (outputs : C.Related w output₁ output₂) (samples : C.Related w sample₁ sample₂) :
    C.Couples w (Pndm.noiseOf B₁ predicts alpha output₁ sample₁)
      (Pndm.noiseOf B₂ predicts alpha output₂ sample₂) C.Related := by
  cases predicts with
  | epsilon => exact C.couples_pure outputs
  | vPrediction => exact C.couples_weightedPair _ _ outputs samples

theorem couples_pndm_advance {line : Timeline A} {outputs₁ : List τ₁} {outputs₂ : List τ₂}
    (timestep : A.Elem) (outputs : List.Forall₂ (C.Related w) outputs₁ outputs₂)
    (samples : C.Related w sample₁ sample₂) :
    C.Couples w (Pndm.advance B₁ ⟨line, outputs₁⟩ timestep sample₁)
      (Pndm.advance B₂ ⟨line, outputs₂⟩ timestep sample₂) C.Related := by
  refine C.couples_ofExcept_bind _ fun next _ => ?_
  refine C.couples_bind (C.couples_combined outputs) fun w₁ _ _ leads₁ combined => ?_
  have samples := C.related_of_leads leads₁ samples
  refine C.couples_bind (C.couples_noiseOf _ _ combined samples) fun w₂ _ _ leads₂ noises => ?_
  exact C.couples_weightedPair _ _ (C.related_of_leads leads₂ samples) noises

/-! ### Updates over sigmas -/

theorem couples_cleanSample (predicts : PredictionType) (sigma : A.Wide)
    (outputs : C.Related w output₁ output₂) (samples : C.Related w sample₁ sample₂) :
    C.Couples w (SigmaTrack.cleanSample B₁ predicts sigma output₁ sample₁)
      (SigmaTrack.cleanSample B₂ predicts sigma output₂ sample₂) C.Related := by
  cases predicts with
  | epsilon => exact C.couples_weightedPair _ _ samples outputs
  | vPrediction => exact C.couples_weightedPair _ _ outputs samples

theorem couples_derivative (track : SigmaTrack A) (sigma : A.Wide)
    (outputs : C.Related w output₁ output₂) (samples : C.Related w sample₁ sample₂) :
    C.Couples w (track.derivative B₁ sigma output₁ sample₁)
      (track.derivative B₂ sigma output₂ sample₂) C.Related := by
  refine C.couples_bind (C.couples_cleanSample _ _ outputs samples) fun w₁ _ _ leads₁ cleans => ?_
  refine C.couples_bind (C.couples_sub (C.related_of_leads leads₁ samples) cleans)
    fun w₂ _ _ _ distances => ?_
  exact C.couples_scale _ distances

theorem couples_euler_advance (track : SigmaTrack A) (i : Nat)
    (outputs : C.Related w output₁ output₂) (samples : C.Related w sample₁ sample₂) :
    C.Couples w (Euler.advance B₁ track i output₁ sample₁)
      (Euler.advance B₂ track i output₂ sample₂) C.Related := by
  refine C.couples_ofExcept_bind _ fun sigma _ => ?_
  refine C.couples_ofExcept_bind _ fun sigmaNext _ => ?_
  refine C.couples_bind (C.couples_derivative _ _ outputs samples)
    fun w₁ _ _ leads derivatives => ?_
  exact C.couples_weightedPair _ _ (C.related_of_leads leads samples) derivatives

theorem couples_eulerAncestral_advance (seed : UInt64) (track : SigmaTrack A) (i : Nat)
    (outputs : C.Related w output₁ output₂) (samples : C.Related w sample₁ sample₂) :
    C.Couples w (EulerAncestral.advance B₁ seed track i output₁ sample₁)
      (EulerAncestral.advance B₂ seed track i output₂ sample₂) C.Related := by
  refine C.couples_ofExcept_bind _ fun sigma _ => ?_
  refine C.couples_ofExcept_bind _ fun sigmaNext _ => ?_
  refine C.couples_bind (C.couples_derivative _ _ outputs samples)
    fun w₁ _ _ leads₁ derivatives => ?_
  have samples := C.related_of_leads leads₁ samples
  refine C.couples_bind (C.couples_weightedPair _ _ samples derivatives) ?_
  intro w₂ lowered₁ lowered₂ leads₂ lowered
  have samples := C.related_of_leads leads₂ samples
  split
  · refine C.couples_bind (C.couples_noise _ samples) fun w₃ _ _ leads₃ noises => ?_
    refine C.couples_bind (C.couples_scale _ noises) fun w₄ _ _ leads₄ scaled => ?_
    exact C.couples_add (C.related_of_leads leads₄ (C.related_of_leads leads₃ lowered)) scaled
  · exact C.couples_pure lowered

theorem couples_linearMultistep_advance {track : SigmaTrack A} {derivatives₁ : List τ₁}
    {derivatives₂ : List τ₂} (i : Nat)
    (derivatives : List.Forall₂ (C.Related w) derivatives₁ derivatives₂)
    (samples : C.Related w sample₁ sample₂) :
    C.Couples w (LinearMultistep.advance B₁ ⟨track, derivatives₁⟩ i sample₁)
      (LinearMultistep.advance B₂ ⟨track, derivatives₂⟩ i sample₂) C.Related := by
  unfold LinearMultistep.advance
  rw [derivatives.length_eq]
  refine C.couples_ofExcept_bind _ fun weights _ => ?_
  exact C.couples_weightedSum (.cons samples (.zip derivatives))

/-! ### Whole schedulers -/

theorem couples_scaleInput_track (track : SigmaTrack A) (timestep : A.Elem)
    (samples : C.Related w sample₁ sample₂) :
    C.Couples w ((SigmaTrack.scaleInput B₁ sample₁ timestep).threaded track)
      ((SigmaTrack.scaleInput B₂ sample₂ timestep).threaded track)
      fun w a b => C.Related w a.1 b.1 ∧ a.2 = b.2 := by
  rw [SigmaTrack.threaded_scaleInput, SigmaTrack.threaded_scaleInput]
  refine C.couples_ofExcept_bind _ fun located _ => ?_
  refine C.couples_ofExcept_bind _ fun sigma _ => ?_
  refine C.couples_map (C.couples_scale _ samples) ?_
  intro w' scaled₁ scaled₂ _ scaled
  exact ⟨scaled, rfl⟩

theorem couples_scaleInput {s₁ : Scheduler A τ₁} {s₂ : Scheduler A τ₂} (timestep : A.Elem)
    (schedulers : C.RelatedSchedulers w s₁ s₂) (samples : C.Related w sample₁ sample₂) :
    C.Couples w ((Scheduler.scaleInput B₁ sample₁ timestep).threaded s₁)
      ((Scheduler.scaleInput B₂ sample₂ timestep).threaded s₂) C.RelatedSteps := by
  cases schedulers with
  | pndm remembered => exact C.couples_pure ⟨samples, .pndm remembered⟩
  | ddim s => exact C.couples_pure ⟨samples, .ddim s⟩
  | ddpm s => exact C.couples_pure ⟨samples, .ddpm s⟩
  | euler s =>
      rw [Scheduler.threaded_scaleInput_euler, Scheduler.threaded_scaleInput_euler]
      refine C.couples_bind (C.couples_scaleInput_track s.track timestep samples) ?_
      rintro w' ⟨scaled₁, track⟩ ⟨scaled₂, _⟩ _ ⟨scaled, rfl⟩
      exact C.couples_pure ⟨scaled, .euler _⟩
  | eulerAncestral s =>
      rw [Scheduler.threaded_scaleInput_eulerAncestral,
        Scheduler.threaded_scaleInput_eulerAncestral]
      refine C.couples_bind (C.couples_scaleInput_track s.track timestep samples) ?_
      rintro w' ⟨scaled₁, track⟩ ⟨scaled₂, _⟩ _ ⟨scaled, rfl⟩
      exact C.couples_pure ⟨scaled, .eulerAncestral _⟩
  | @linearMultistep track _ _ remembered =>
      rw [Scheduler.threaded_scaleInput_linearMultistep,
        Scheduler.threaded_scaleInput_linearMultistep]
      refine C.couples_bind (C.couples_scaleInput_track track timestep samples) ?_
      rintro w' ⟨scaled₁, track⟩ ⟨scaled₂, _⟩ leads ⟨scaled, rfl⟩
      exact C.couples_pure ⟨scaled, .linearMultistep (forall₂_of_leads leads remembered)⟩

theorem forall₂_remember {x : τ₁} {y : τ₂} {xs : List τ₁} {ys : List τ₂} (memory : Nat)
    (newest : C.Related w x y) (older : List.Forall₂ (C.Related w) xs ys) :
    List.Forall₂ (C.Related w) ((x :: xs).take memory) ((y :: ys).take memory) :=
  List.forall₂_take memory (.cons newest older)

/-- Corresponding schedulers carry corresponding samples to the next timestep alike. -/
theorem couples_step {s₁ : Scheduler A τ₁} {s₂ : Scheduler A τ₂} (timestep : A.Elem)
    (schedulers : C.RelatedSchedulers w s₁ s₂) (outputs : C.Related w output₁ output₂)
    (samples : C.Related w sample₁ sample₂) :
    C.Couples w ((Scheduler.step B₁ output₁ timestep sample₁).threaded s₁)
      ((Scheduler.step B₂ output₂ timestep sample₂).threaded s₂) C.RelatedSteps := by
  cases schedulers with
  | pndm remembered =>
      have remembered := C.forall₂_remember Pndm.memory outputs remembered
      simp only [Scheduler.threaded_step_pndm, Pndm.threaded_step, bind_assoc, pure_bind]
      refine C.couples_map (C.couples_pndm_advance timestep remembered samples) ?_
      intro w' previous₁ previous₂ leads previous
      exact ⟨previous, .pndm (forall₂_of_leads leads remembered)⟩
  | ddim s =>
      simp only [Scheduler.threaded_step_ddim, Ddim.threaded_step, bind_assoc, pure_bind]
      refine C.couples_map (C.couples_ddim_advance s timestep outputs samples) ?_
      intro w' previous₁ previous₂ _ previous
      exact ⟨previous, .ddim _⟩
  | ddpm s =>
      simp only [Scheduler.threaded_step_ddpm, Ddpm.threaded_step, bind_assoc, pure_bind]
      refine C.couples_map (C.couples_ddpm_advance s timestep outputs samples) ?_
      intro w' previous₁ previous₂ _ previous
      exact ⟨previous, .ddpm _⟩
  | euler s =>
      simp only [Scheduler.threaded_step_euler, Euler.threaded_step, bind_assoc, pure_bind]
      refine C.couples_ofExcept_bind _ fun located _ => ?_
      refine C.couples_map (C.couples_euler_advance _ _ outputs samples) ?_
      intro w' previous₁ previous₂ _ previous
      exact ⟨previous, .euler _⟩
  | eulerAncestral s =>
      simp only [Scheduler.threaded_step_eulerAncestral, EulerAncestral.threaded_step, bind_assoc,
        pure_bind]
      refine C.couples_ofExcept_bind _ fun located _ => ?_
      refine C.couples_map (C.couples_eulerAncestral_advance _ _ _ outputs samples) ?_
      intro w' previous₁ previous₂ _ previous
      exact ⟨previous, .eulerAncestral _⟩
  | linearMultistep remembered =>
      simp only [Scheduler.threaded_step_linearMultistep, LinearMultistep.threaded_step,
        bind_assoc, pure_bind]
      refine C.couples_ofExcept_bind _ fun located _ => ?_
      refine C.couples_ofExcept_bind _ fun sigma _ => ?_
      refine C.couples_bind (C.couples_derivative _ _ outputs samples) ?_
      intro w₁ derivative₁ derivative₂ leads₁ derivatives
      have remembered := C.forall₂_remember LinearMultistep.memory derivatives
        (forall₂_of_leads leads₁ remembered)
      refine C.couples_map (C.couples_linearMultistep_advance _ remembered
        (C.related_of_leads leads₁ samples)) ?_
      intro w₂ previous₁ previous₂ leads₂ previous
      exact ⟨previous, .linearMultistep (forall₂_of_leads leads₂ remembered)⟩

end Coupling

end Diffusion
