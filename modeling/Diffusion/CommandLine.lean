import Diffusion.CommandLine.Setting

/-!
Command lines: a command, then its settings.

The arguments are read from left to right. A setting that awaits its value takes the next plain
argument, and it is made when the next setting or the end is met; an argument that is not known at
all is refused before that. Two hyphens end the settings.
-/

namespace Diffusion.CommandLine

/-- An argument by its form. -/
inductive Argument where
  /-- Two hyphens. -/
  | separator
  /-- Two hyphens and a name, perhaps with a value after an equals sign. -/
  | named (name : String) (value : Option String)
  /-- A hyphen and letters. -/
  | letters (first : Char)
  | plain (text : String)
deriving DecidableEq, Repr

def Argument.ofText (text : String) : Argument :=
  match text.toList with
  | ['-', '-'] => separator
  | '-' :: '-' :: rest =>
    match rest.dropWhile (· ≠ '=') with
    | [] => named (String.ofList rest) none
    | _ :: value => named (String.ofList (rest.takeWhile (· ≠ '='))) (some (String.ofList value))
  | '-' :: first :: _ => letters first
  | _ => plain text

inductive Command (A : Arithmetic) where
  | exporting (options : Options A)
  | running (artifactPath : String) (options : Options A)

/-- A setting that awaits its value or has just got it. -/
structure Pending where
  setting : Setting
  value : Option String

variable {A : Arithmetic}

/-- Makes the setting that is pending, if there is one. -/
def settle (o : Options A) : Option Pending → Except Refusal (Options A)
  | none => .ok o
  | some ⟨s, some value⟩ => o.assign s value
  | some ⟨s, none⟩ => .error (.missingValue s)

def readSettings (known : List Setting) :
    List String → Options A → Option Pending → Except Refusal (Options A)
  | [], o, pending => settle o pending
  | argument :: rest, o, pending =>
    match Argument.ofText argument with
    | .separator =>
      match rest with
      | [] => settle o pending
      | extra :: _ => .error (.unknownArgument extra)
    | .named name value =>
      match Setting.find? known name, value with
      | none, _ => .error (.unknownArgument argument)
      | some s, none => do
        let o ← settle o pending
        if s.isSwitch then readSettings known rest (← o.assign s "") none
        else readSettings known rest o (some ⟨s, none⟩)
      | some s, some value =>
        if s.isSwitch then .error (.valueForSwitch name)
        else do
          let o ← settle o pending
          readSettings known rest (← o.assign s value) none
    | .letters 'h' => do
      let _ ← settle o pending
      throw .help
    | .letters _ => .error (.unknownArgument argument)
    | .plain text =>
      match pending with
      | some ⟨s, none⟩ => readSettings known rest o (some ⟨s, some text⟩)
      | _ => .error (.unknownArgument argument)

def commandNames : List String := ["export", "run", "help"]

/-- What becomes of a request for help on a command. -/
def helpOn : List String → Refusal
  | [] => .help
  | [name] => if commandNames.contains name then .help else .unknownCommand name
  | name :: below :: _ => .unknownCommand (if commandNames.contains name then below else name)

/-- What becomes of arguments that should have begun with a command. -/
def refuseFirst (argument : String) (rest : List String) : Refusal :=
  match Argument.ofText argument with
  | .separator =>
    match rest with
    | [] => .nothingAsked
    | name :: _ =>
      if commandNames.contains name then .unknownArgument name else .unknownCommand name
  | .named "help" none => .help
  | .named "version" none => .version
  | .named name (some _) =>
    if ["help", "version"].contains name then .valueForSwitch name else .unknownArgument argument
  | .named _ none => .unknownArgument argument
  | .letters 'h' => .help
  | .letters 'V' => .version
  | .letters _ => .unknownArgument argument
  | .plain name => .unknownCommand name

def parse : List String → Except Refusal (Command A)
  | [] => .error .nothingAsked
  | "export" :: arguments => do
    return .exporting (← readSettings Setting.ofExport arguments (.default A) none)
  | "run" :: arguments => do
    let options ← readSettings Setting.ofRun arguments (.default A) none
    match options.artifactPath with
    | some path => return .running path options
    | none => throw (.missingSetting .artifactPath)
  | "help" :: names => .error (helpOn names)
  | argument :: rest => .error (refuseFirst argument rest)

end Diffusion.CommandLine
