import Diffusion.Json.Decode
import Diffusion.Schedule

/-!
Training configurations as JSON.
-/

namespace Diffusion

namespace PredictionType

def all : List PredictionType := [epsilon, vPrediction]

def text : PredictionType → String
  | epsilon => "epsilon"
  | vPrediction => "v_prediction"

def ofJson? : Json → Option PredictionType := Json.asMember? all text

end PredictionType

namespace BetaSpacing

def all : List BetaSpacing := [linear, scaledLinear]

def text : BetaSpacing → String
  | linear => "linear"
  | scaledLinear => "scaled_linear"

def ofJson? : Json → Option BetaSpacing := Json.asMember? all text

end BetaSpacing

namespace ScheduleConfig

variable {A : Arithmetic}

def toJson (c : ScheduleConfig A) : Json :=
  .object
    [("num_train_timesteps", .nat c.numTrainTimesteps),
     ("beta_start", .ofNumeral? (A.text.wideJson? c.betaStart)),
     ("beta_end", .ofNumeral? (A.text.wideJson? c.betaEnd)),
     ("beta_schedule", .string c.betaSpacing.text),
     ("steps_offset", .nat c.stepsOffset),
     ("set_alpha_to_one", .bool c.setAlphaToOne),
     ("prediction_type", .string c.predictionType.text)]

def ofJson? (j : Json) : Option (ScheduleConfig A) := do
  let r ← j.asRecord?
    ["num_train_timesteps", "beta_start", "beta_end", "beta_schedule", "steps_offset",
     "set_alpha_to_one", "prediction_type"]
  return {
    numTrainTimesteps := ← r.required? "num_train_timesteps" Json.asWord?
    betaStart := ← r.required? "beta_start" (Json.asNumber? A.text.wideOfJson?)
    betaEnd := ← r.required? "beta_end" (Json.asNumber? A.text.wideOfJson?)
    betaSpacing := ← r.required? "beta_schedule" BetaSpacing.ofJson?
    stepsOffset := ← r.required? "steps_offset" Json.asWord?
    setAlphaToOne := ← r.required? "set_alpha_to_one" Json.asBool?
    predictionType := ← r.required? "prediction_type" PredictionType.ofJson? }

end ScheduleConfig

end Diffusion
