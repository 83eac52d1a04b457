import Diffusion.Error
import Diffusion.Text.Caseless

/-!
The registered sampling algorithms and their names.
-/

namespace Diffusion

inductive SchedulerId where
  | pndm
  | ddim
  | ddpm
  | eulerDiscrete
  | eulerAncestralDiscrete
  | lmsDiscrete
deriving DecidableEq, Repr

namespace SchedulerId

def all : List SchedulerId :=
  [pndm, ddim, ddpm, eulerDiscrete, eulerAncestralDiscrete, lmsDiscrete]

def text : SchedulerId → String
  | pndm => "PNDM"
  | ddim => "DDIM"
  | ddpm => "DDPM"
  | eulerDiscrete => "EulerDiscrete"
  | eulerAncestralDiscrete => "EulerAncestralDiscrete"
  | lmsDiscrete => "LMSDiscrete"

/-- The names that stand for an algorithm, in small letters. -/
def names : SchedulerId → List String
  | pndm => ["pndm"]
  | ddim => ["ddim"]
  | ddpm => ["ddpm"]
  | eulerDiscrete => ["eulerdiscrete", "euler"]
  | eulerAncestralDiscrete => ["eulerancestraldiscrete", "euler_a"]
  | lmsDiscrete => ["lmsdiscrete", "lms"]

/-- The algorithm of a name. Case does not count, and the word "scheduler" may follow it. -/
def parse? (name : String) : Option SchedulerId :=
  let plain := Text.caseless (Text.trimmed name)
  let stem := (plain.dropSuffix "scheduler").toString
  all.find? fun id => id.names.contains stem

/-- The algorithm of a name; an unknown name is answered with the known ones. -/
def lookup (name : String) : Except Error SchedulerId :=
  match parse? name with
  | some id => .ok id
  | none => .error (.unknownScheduler name (all.map text))

/-- Whether the algorithm draws fresh noise while stepping. -/
def isStochastic : SchedulerId → Bool
  | ddpm | eulerAncestralDiscrete => true
  | _ => false

end SchedulerId

end Diffusion
