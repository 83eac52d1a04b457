import Diffusion.Proofs.Export.Parity
import Diffusion.Proofs.Program.Footprint

/-!
The ceiling on live bytes.

A program that needs more than the ceiling allows is never compiled. What it is told depends on
whether the bytes can be counted in words: main statement `compile_above_ceiling`.
-/

namespace Diffusion.Artifact

variable {A : Arithmetic}

/-- Above the ceiling compilation reports the peak if it can be counted, and otherwise the count
overflows before anything is compared with the ceiling. -/
theorem compile_above_ceiling (r : Request A) (valid : r.program.Valid)
    (above : r.target.maxAllocation < r.program.peakBytes) :
    (r.program.Countable →
      compile r =
        Halt.fail (.allocationLimit r.program.peakBytes r.target.maxAllocation)) ∧
      (¬ r.program.Countable → compile r = .error .overflow) := by
  have counts := Program.peakLiveBytes_counts (r.program.valid_iff_wellTyped.mp valid)
  have checked : r.program.validate = .ok () := valid
  constructor
  · intro countable
    rw [compile, manifestOf, checked, Halt.bind_ok, counts.exact countable, Halt.bind_ok,
      if_pos above]
    rfl
  · intro large
    rw [compile, manifestOf, checked, Halt.bind_ok, counts.overflows large]
    rfl

/-- Under a ceiling of 31 bytes, one byte short of what the program needs. -/
theorem compile_above_ceiling_doubled :
    let r : Request whole := ⟨Program.doubled, ⟨.cpu, none, 31⟩, .empty, .outside⟩
    r.program.Valid ∧ r.target.maxAllocation < r.program.peakBytes ∧
      compile r = Halt.fail (.allocationLimit r.program.peakBytes r.target.maxAllocation) := by
  intro r
  have above : r.target.maxAllocation < r.program.peakBytes := by decide
  have countable : r.program.Countable :=
    Program.countable_of_totalValueBytes (show Program.doubled.totalValueBytes = .ok 40 from rfl)
  exact ⟨rfl, above, (compile_above_ceiling r rfl above).1 countable⟩

/-- The largest square image that the options can ask for. -/
def hugeImage : SamplingConfig whole := {
  SamplingConfig.default whole with
  schedulerId := "DDIM"
  steps := 1
  height := 4294967288
  width := 4294967288
  guidance := (2 : Int) }

def overflowed {α : Type} : Except Halt α → Bool
  | .error .overflow => true
  | _ => false

/-- Its loop is traced and checked, and needs far more than the default ceiling, but that is not
what is reported. -/
theorem compile_hugeImage : ∃ shapes scheduler p,
    Export.shapesOf hugeImage (ModelSpec.resolve hugeImage.model) = .ok shapes ∧
    Export.plannedScheduler hugeImage .ddim (ModelSpec.resolve hugeImage.model) = .ok scheduler ∧
    (Trace.sample scheduler shapes hugeImage.guidance).program = .ok p ∧ p.Valid ∧
    TargetSpec.default.maxAllocation < p.peakBytes ∧
    compile ⟨p, .default, .empty, .outside⟩ ≠
      Halt.fail (.allocationLimit p.peakBytes TargetSpec.default.maxAllocation) := by
  have computed : (do
      let scheduler ←
        Export.plannedScheduler hugeImage .ddim (ModelSpec.resolve hugeImage.model)
      let p ← (Trace.sample scheduler ⟨1, 4294967288, 4294967288, 768⟩ hugeImage.guidance).program
      p.validate
      return decide (TargetSpec.default.maxAllocation < p.peakBytes) &&
        overflowed (compile ⟨p, .default, .empty, .outside⟩) : Except Halt Bool).toOption =
          some true := by
    rw [Export.plannedScheduler_whole]
    decide +kernel
  obtain ⟨scheduler, planned, rest⟩ :=
    Halt.bind_eq_ok_iff.mp (Halt.toOption_eq_some_iff.mp computed)
  obtain ⟨p, traced, rest⟩ := Halt.bind_eq_ok_iff.mp rest
  obtain ⟨_, valid, rest⟩ := Halt.bind_eq_ok_iff.mp rest
  have both := Bool.and_eq_true_iff.mp (Except.ok.inj rest)
  refine ⟨⟨1, 4294967288, 4294967288, 768⟩, scheduler, p, rfl, planned, traced, valid,
    of_decide_eq_true both.1, fun reported => ?_⟩
  rw [reported] at both
  exact Bool.false_ne_true both.2

end Diffusion.Artifact
