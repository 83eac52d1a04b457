import Diffusion.Files.Path
import Diffusion.Numeral.Read
import Diffusion.Target

/-!
Settings of the tool itself, which come from the environment.
-/

namespace Diffusion

/-- An environment: the variables that are set. -/
abbrev Environment := String → Option String

/-- The variables that the tool looks at. -/
def Environment.names : List String :=
  ["SD_AOT_MODEL_PATH", "SD_AOT_THREADS", "SD_AOT_BLOB_URL", "SD_AOT_DEVICE", "XDG_CACHE_HOME",
   "HOME"]

/-- Settings that hold for every call of the tool. -/
structure ToolConfig where
  /-- Where models are kept. -/
  modelPath : Option String
  /-- Threads of a network session. -/
  threads : Option Nat
  /-- The blob container that receives listings. -/
  blobUrl : Option String
  /-- The device where the command line names none. -/
  device : Option Device
deriving DecidableEq, Repr

namespace ToolConfig

def empty : ToolConfig := ⟨none, none, none, none⟩

/-- A count of threads: a positive number of 32 bits. -/
def threads? (text : String) : Option Nat := (Numeral.unsigned? UInt32.size text).filter (0 < ·)

/-- A URL without the blanks around it, if anything is left. -/
def url? (text : String) : Option String :=
  if (Text.trimmed text).isEmpty then none else some (Text.trimmed text)

/-- The settings of an environment. What cannot be read counts as not set. -/
def ofEnvironment (environment : Environment) : ToolConfig where
  modelPath := environment "SD_AOT_MODEL_PATH"
  threads := (environment "SD_AOT_THREADS").bind threads?
  blobUrl := (environment "SD_AOT_BLOB_URL").bind url?
  device := (environment "SD_AOT_DEVICE").bind Device.parse?

/-- The most threads a session may have. -/
def maxThreads : Nat := 256

/-- What is wrong with a count of threads. -/
def threadsProblem? (threads : Nat) : Option String :=
  if threads = 0 then some "threads must be > 0"
  else if maxThreads < threads then some s!"threads too high: {threads} (max {maxThreads})"
  else none

/-- What is wrong with a URL. -/
def urlProblem? (url : String) : Option String :=
  if url.startsWith "https://" ∨ url.startsWith "http://" then none
  else some ("blob url must be http(s): " ++ url)

/-- What is wrong with the settings, the threads first. -/
def problem? (t : ToolConfig) : Option String :=
  (t.threads.bind threadsProblem?).or (t.blobUrl.bind urlProblem?)

/-- The home of the user who is there on every machine. -/
def superuserHome : String := "/root"

/-- The home of the user. Without one in the environment it is the superuser's. -/
def home (environment : Environment) : String :=
  ((environment "HOME").filter (!·.isEmpty)).getD superuserHome

/-- The directory of cached data: the one that is set, if it is absolute, or one of the user. -/
def cacheDirectory (environment : Environment) : String :=
  ((environment "XDG_CACHE_HOME").filter Path.isAbsolute).getD
    (Path.join (home environment) ".cache")

/-- Where models are kept: where the settings say, else in the cache. -/
def modelRoot (t : ToolConfig) (environment : Environment) : String :=
  t.modelPath.getD
    (Path.join (Path.join (cacheDirectory environment) "sd-scheduler-aot") "models")

def toJson (t : ToolConfig) : Json :=
  .object
    [("model_path", .ofOption .string t.modelPath), ("threads", .ofOption .nat t.threads),
     ("blob_url", .ofOption .string t.blobUrl),
     ("device", .ofOption (fun device => .string device.text) t.device)]

/-- A number of 32 bits. -/
def asThreads? (j : Json) : Option Nat := j.asWord?.filter (· < UInt32.size)

def ofJson? (j : Json) : Option ToolConfig := do
  let r ← j.asRecord? ["model_path", "threads", "blob_url", "device"]
  let modelPath ← r.optional? "model_path" Json.asString?
  let threads ← r.optional? "threads" asThreads?
  let blobUrl ← r.optional? "blob_url" Json.asString?
  return ⟨modelPath, threads, blobUrl, ← r.optional? "device" Device.ofJson?⟩

end ToolConfig

end Diffusion
