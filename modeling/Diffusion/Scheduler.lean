import Diffusion.Scheduler.Denoising
import Diffusion.Scheduler.Euler
import Diffusion.Scheduler.Id
import Diffusion.Scheduler.LinearMultistep
import Diffusion.Scheduler.Pndm

/-!
Schedulers of every kind behind one interface: plan a pass, scale the input of the network, and
step a sample by the network's output.

A scheduler is written against a backend, so the same steps compute tensors or record programs.
-/

namespace Diffusion

/-- A scheduler over tensors `τ`, in the middle of a pass or before one. -/
inductive Scheduler (A : Arithmetic) (τ : Type) where
  | pndm (s : Pndm A τ)
  | ddim (s : Ddim A)
  | ddpm (s : Ddpm A)
  | euler (s : Euler A)
  | eulerAncestral (s : EulerAncestral A)
  | linearMultistep (s : LinearMultistep A τ)

namespace Scheduler

variable {A : Arithmetic} {σ τ α S : Type}

/-- A new scheduler of a kind. Only the stochastic kinds look at the seed. -/
def ofSchedule (id : SchedulerId) (schedule : NoiseSchedule A) (seed : UInt64) : Scheduler A τ :=
  match id with
  | .pndm => pndm (.unplanned schedule)
  | .ddim => ddim (.unplanned schedule)
  | .ddpm => ddpm (.unplanned schedule seed)
  | .eulerDiscrete => euler (.unplanned schedule)
  | .eulerAncestralDiscrete => eulerAncestral (.unplanned schedule seed)
  | .lmsDiscrete => linearMultistep (.unplanned schedule)

/-- A new scheduler of a kind for a training configuration. -/
def create (id : SchedulerId) (config : ScheduleConfig A) (seed : UInt64) :
    Except Halt (Scheduler A τ) := do
  return ofSchedule id (← NoiseSchedule.ofConfig config) seed

def id : Scheduler A τ → SchedulerId
  | pndm _ => .pndm
  | ddim _ => .ddim
  | ddpm _ => .ddpm
  | euler _ => .eulerDiscrete
  | eulerAncestral _ => .eulerAncestralDiscrete
  | linearMultistep _ => .lmsDiscrete

/-- The timesteps of the pass, in the order in which they are visited. -/
def timesteps : Scheduler A τ → List A.Elem
  | pndm s => s.line.timesteps
  | ddim s => s.line.timesteps
  | ddpm s => s.line.timesteps
  | euler s => s.track.timesteps
  | eulerAncestral s => s.track.timesteps
  | linearMultistep s => s.track.timesteps

/-- The deviation of the noise that a pass starts from. -/
def initialDeviation : Scheduler A τ → A.Elem
  | pndm _ | ddim _ | ddpm _ => 1
  | euler s => s.track.initialDeviation
  | eulerAncestral s => s.track.initialDeviation
  | linearMultistep s => s.track.initialDeviation

def remembered? : Scheduler A τ → Option Nat
  | pndm s => some s.outputs.length
  | _ => none

/-- Replaces the state by a planned one, or keeps it when the plan is refused. -/
def replan (wrap : S → Scheduler A τ) (s : S) (planned : Except Halt S) :
    Except Halt Unit × Scheduler A τ :=
  match planned with
  | .ok planned => (.ok (), wrap planned)
  | .error halt => (.error halt, wrap s)

/-- Plans a pass of a number of steps. -/
def plan (steps : Nat) : Action (Scheduler A τ) Unit
  | pndm s => replan pndm s (s.plan steps)
  | ddim s => replan ddim s (s.plan steps)
  | ddpm s => replan ddpm s (s.plan steps)
  | euler s => replan euler s (s.plan steps)
  | eulerAncestral s => replan eulerAncestral s (s.plan steps)
  | linearMultistep s =>
    let (planned, s) := s.plan steps
    replan linearMultistep s planned

/-- Runs a call on a part of a scheduler, which `wrap` puts back. -/
def inside (wrap : S → Scheduler A τ) (x : Action (σ × S) α) (w : σ) (s : S) :
    Except Halt α × σ × Scheduler A τ :=
  let (answer, w, s) := x.runOn (w, s)
  (answer, w, wrap s)

/-- Scales the sample that the network is given at a timestep. -/
def scaleInput (B : Backend A σ τ) (sample : τ) (timestep : A.Elem) :
    Action (σ × Scheduler A τ) τ
  | (w, euler s) =>
    inside (fun track => euler ⟨track⟩) (SigmaTrack.scaleInput B sample timestep) w s.track
  | (w, eulerAncestral s) =>
    inside (fun track => eulerAncestral { s with track })
      (SigmaTrack.scaleInput B sample timestep) w s.track
  | (w, linearMultistep s) =>
    inside linearMultistep
      (LinearMultistep.onTrack (SigmaTrack.scaleInput B sample timestep)) w s
  | (w, s) => (.ok sample, w, s)

/-- Carries a sample from a timestep to the next by the output of the network. -/
def step (B : Backend A σ τ) (output : τ) (timestep : A.Elem) (sample : τ) :
    Action (σ × Scheduler A τ) τ
  | (w, pndm s) => inside pndm (Pndm.step B output timestep sample) w s
  | (w, ddim s) => inside ddim (Ddim.step B output timestep sample) w s
  | (w, ddpm s) => inside ddpm (Ddpm.step B output timestep sample) w s
  | (w, euler s) =>
    inside (fun track => euler ⟨track⟩) (Euler.step B output timestep sample) w s.track
  | (w, eulerAncestral s) =>
    inside (fun track => eulerAncestral { s with track })
      (EulerAncestral.step B s.seed output timestep sample) w s.track
  | (w, linearMultistep s) =>
    inside linearMultistep (LinearMultistep.step B output timestep sample) w s

end Scheduler

end Diffusion
