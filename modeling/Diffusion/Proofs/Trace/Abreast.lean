import Diffusion.Proofs.Backend.Calls
import Diffusion.Proofs.Scheduler.Reseeded

/-!
Two recordings of one loop, side by side.

The loop looks at shapes only to refuse them. Two passes that are both accepted therefore record the
same operations on the same values, however much their shapes differ; if one of them draws its noise
from other seeds, the recordings differ in these seeds besides. Main statement:
`abreast_run`.
-/

namespace Diffusion

variable {A : Arithmetic} {σ τ α β γ δ : Type}

/-- The operation with another seed in place of the one that it draws noise from. -/
def Op.reseed (f : UInt64 → UInt64) : Op A → Op A
  | noise like seed => noise like (f seed)
  | op => op

@[simp] theorem Op.reseed_id (op : Op A) : op.reseed id = op := by
  cases op <;> rfl

namespace Backend

namespace Call

def reseed {η : Type} (f : UInt64 → UInt64) : Call A η → Call A η
  | noise x seed => noise x (f seed)
  | call => call

theorem ops_reseed (f : UInt64 → UInt64) (call : Call A Nat) :
    (call.reseed f).ops = call.ops.map (Op.reseed f) := by
  cases call <;> rfl

theorem of_make_tracer {call : Call A Value} {values : List Value} {r r' : Recording A}
    (made : (call.make (tracer A)).runOn r = (.ok values, r')) :
    ∃ s, values = r.nextValues ((call.map (·.id)).ops.map fun _ => s) ∧
      r' = r.extended ((call.map (·.id)).ops.map fun op => ⟨op, s⟩) := by
  rw [runOn_make_tracer] at made
  cases accepted : (call.map (·.shape)).verdict with
  | error h =>
      rw [accepted] at made
      cases made
  | ok shapes =>
      obtain ⟨s, rfl⟩ := exists_shape_of_verdict (·.id) accepted
      rw [accepted] at made
      cases made
      refine ⟨s, rfl, ?_⟩
      rw [List.zipWith_map_right, List.zipWith_self]

end Call

end Backend

namespace Recording

/-- Recordings of the same operations on inputs of the same names, apart from shapes and from the
seeds of noise. -/
structure Alike (f : UInt64 → UInt64) (r r' : Recording A) : Prop where
  names : r'.inputs.map (·.name) = r.inputs.map (·.name)
  ops : r'.instructions.map (·.op) = r.instructions.map (·.op.reseed f)

variable {f : UInt64 → UInt64} {r r' : Recording A}

theorem Alike.numValues_eq (alike : Alike f r r') : r'.numValues = r.numValues := by
  have inputs := congrArg Array.size alike.names
  have instructions := congrArg Array.size alike.ops
  simp only [Array.size_map] at inputs instructions
  simp only [numValues, inputs, instructions]

theorem Alike.extended (alike : Alike f r r') (ops : List (Op A)) (s s' : Shape) :
    Alike f (r.extended (ops.map fun op => ⟨op, s⟩))
      (r'.extended ((ops.map (Op.reseed f)).map fun op => ⟨op, s'⟩)) := by
  refine ⟨alike.names, ?_⟩
  simp [Recording.extended, alike.ops, Function.comp_def]

theorem ids_nextValues_eq (same : r'.numValues = r.numValues) {shapes shapes' : List Shape}
    (length : shapes'.length = shapes.length) :
    (r'.nextValues shapes').map (·.id) = (r.nextValues shapes).map (·.id) := by
  apply List.ext_getElem <;> simp [nextValues, same, length]

/-- Calls that, where both succeed, record alike and return what is related. -/
def Abreast (f : UInt64 → UInt64) (x : Action (Recording A) α) (y : Action (Recording A) β)
    (R : α → β → Prop) : Prop :=
  ∀ r r' a b s s', Alike f r r' → x.runOn r = (.ok a, s) → y.runOn r' = (.ok b, s') →
    Alike f s s' ∧ R a b

theorem abreast_pure {a : α} {b : β} {R : α → β → Prop} (related : R a b) :
    Abreast f (pure a : Action (Recording A) α) (pure b) R := by
  intro r r' _ _ _ _ alike ran ran'
  cases ran
  cases ran'
  exact ⟨alike, related⟩

theorem abreast_ofExcept (x : Except Halt α) (y : Except Halt β) :
    Abreast (A := A) f (Action.ofExcept x) (Action.ofExcept y) fun _ _ => True := by
  intro r r' _ _ _ _ alike ran ran'
  cases ran
  cases ran'
  exact ⟨alike, trivial⟩

theorem abreast_halt (h : Halt) {R : α → β → Prop} :
    Abreast (A := A) f (Action.ofExcept (.error h)) (Action.ofExcept (.error h)) R := by
  intro r r' _ _ _ _ _ ran
  cases ran

theorem abreast_bind {x : Action (Recording A) α} {y : Action (Recording A) β}
    {g : α → Action (Recording A) γ} {h : β → Action (Recording A) δ} {R : α → β → Prop}
    {S : γ → δ → Prop} (first : Abreast f x y R) (next : ∀ a b, R a b → Abreast f (g a) (h b) S) :
    Abreast f (x >>= g) (y >>= h) S := by
  intro r r' c d s s' alike ran ran'
  obtain ⟨a, between, answered, continued⟩ := Action.of_bind_ok ran
  obtain ⟨b, between', answered', continued'⟩ := Action.of_bind_ok ran'
  obtain ⟨still, related⟩ := first r r' a b between between' alike answered answered'
  exact next a b related between between' c d s s' still continued continued'

/-- Calls of one operation on the same values, of whatever shapes, record alike and are answered
with the same values. -/
theorem abreast_call (call call' : Backend.Call A Value) {x : Action (Recording A) α}
    {y : Action (Recording A) β} (values : α → List Value) (values' : β → List Value)
    (same : call'.map (·.id) = (call.map (·.id)).reseed f)
    (calls : call.make (.tracer A) = x >>= fun a => pure (values a))
    (calls' : call'.make (.tracer A) = y >>= fun b => pure (values' b)) :
    Abreast f x y fun a b => (values' b).map (·.id) = (values a).map (·.id) := by
  intro r r' a b s s' alike ran ran'
  have made : (call.make (.tracer A)).runOn r = (.ok (values a), s) := by
    rw [calls, Action.runOn_bind_ok ran, Action.runOn_pure]
  have made' : (call'.make (.tracer A)).runOn r' = (.ok (values' b), s') := by
    rw [calls', Action.runOn_bind_ok ran', Action.runOn_pure]
  obtain ⟨shape, answered, rfl⟩ := Backend.Call.of_make_tracer made
  obtain ⟨shape', answered', rfl⟩ := Backend.Call.of_make_tracer made'
  dsimp only
  rw [answered, answered', same, Backend.Call.ops_reseed]
  exact ⟨alike.extended _ shape shape', ids_nextValues_eq alike.numValues_eq (by simp)⟩

theorem abreast_single (call call' : Backend.Call A Value) {x y : Action (Recording A) Value}
    (same : call'.map (·.id) = (call.map (·.id)).reseed f)
    (calls : call.make (.tracer A) = x >>= fun v => pure [v])
    (calls' : call'.make (.tracer A) = y >>= fun v => pure [v]) :
    Abreast f x y fun v v' => v.id = v'.id := by
  intro r r' v v' s s' alike ran ran'
  obtain ⟨still, ids⟩ :=
    abreast_call call call' (fun v => [v]) (fun v => [v]) same calls calls' r r' v v' s s' alike
      ran ran'
  exact ⟨still, (List.cons.inj ids).1.symm⟩

end Recording

open Recording

/-- The recording backend and the one that draws its noise from other seeds. Values correspond by
their ids alone. -/
def abreast (A : Arithmetic) (f : UInt64 → UInt64) :
    Coupling (Backend.tracer A) ((Backend.tracer A).reseeding f) where
  World := Unit
  Leads _ _ := True
  Related _ v v' := v.id = v'.id
  Couples _ x y R := Abreast f x y (R ())
  related_of_leads _ same := same
  couples_pure related := abreast_pure related
  couples_halt h := abreast_halt h
  couples_bind first next := abreast_bind first fun a b related => next () a b trivial related
  couples_scale {_ x y} factor same :=
    abreast_single (.scale x factor) (.scale y factor)
      (by simp [Backend.Call.map, Backend.Call.reseed, same]) rfl rfl
  couples_add {_ x y x' y'} same same' :=
    abreast_single (.add x x') (.add y y')
      (by simp [Backend.Call.map, Backend.Call.reseed, same, same']) rfl rfl
  couples_sub {_ x y x' y'} same same' :=
    abreast_single (.sub x x') (.sub y y')
      (by simp [Backend.Call.map, Backend.Call.reseed, same, same']) rfl rfl
  couples_concat {_ x y x' y'} same same' :=
    abreast_single (.concat x x') (.concat y y')
      (by simp [Backend.Call.map, Backend.Call.reseed, same, same']) rfl rfl
  couples_split {_ x y} same := by
    intro r r' a b s s' alike ran ran'
    obtain ⟨still, ids⟩ := abreast_call (.split x) (.split y)
      (fun halves => [halves.1, halves.2]) (fun halves => [halves.1, halves.2])
      (by simp [Backend.Call.map, Backend.Call.reseed, same]) rfl rfl r r' a b s s' alike ran ran'
    simp only [List.map_cons, List.cons.injEq] at ids
    exact ⟨still, ids.1.symm, ids.2.1.symm⟩
  couples_noise {_ x y} seed same :=
    abreast_single (.noise x seed) (.noise y (f seed))
      (by simp [Backend.Call.map, Backend.Call.reseed, same]) rfl rfl
  couples_predict {_ x y x' y'} timestep same same' :=
    abreast_single (.predict x timestep x') (.predict y timestep y')
      (by simp [Backend.Call.map, Backend.Call.reseed, same, same']) rfl rfl

variable {f : UInt64 → UInt64} {s₁ s₂ : Scheduler A Value}

theorem relatedSchedulers_abreast (scheduler : Scheduler A Value) :
    (abreast A f).RelatedSchedulers () scheduler scheduler := by
  have all : ∀ values : List Value, List.Forall₂ ((abreast A f).Related ()) values values :=
    fun values => List.forall₂_same.mpr fun _ _ => rfl
  cases scheduler with
  | pndm s => exact .pndm (all s.outputs)
  | ddim s => exact .ddim s
  | ddpm s => exact .ddpm s
  | euler s => exact .euler s
  | eulerAncestral s => exact .eulerAncestral s
  | linearMultistep s => exact .linearMultistep (all s.derivatives)

/-- Two runs of the loop record alike. Their inputs may have different shapes, of which the loop
only asks whether they are accepted. -/
theorem abreast_run (guidance : A.Elem) (scheduler : Scheduler A Value)
    {latents latents' conditioning conditioning' : Value} (sameLatents : latents.id = latents'.id)
    (sameConditioning : conditioning.id = conditioning'.id) :
    Abreast f
      (((Sampling.run (.tracer A) guidance latents conditioning).threaded 0).threaded scheduler)
      (((Sampling.run ((Backend.tracer A).reseeding f) guidance latents' conditioning').threaded
        0).threaded scheduler) ((abreast A f).RelatedRuns ()) := by
  rw [Sampling.threaded_run, Sampling.threaded_run]
  split
  · exact (abreast A f).couples_fail (w := ()) _
  · apply abreast_bind (abreast_ofExcept _ _)
    intro _ _ _
    apply abreast_bind
      ((abreast A f).couples_scale (w := ()) scheduler.initialDeviation sameLatents)
    intro noisy noisy' same
    exact (abreast A f).couples_denoiseAll (w := ()) guidance _ 0
      (relatedSchedulers_abreast scheduler) sameConditioning same

end Diffusion
