/-
  TunnelSession.Console.Arguments

  The arguments of the two programs: options with or without a value, and for the
  client a word for the task.
-/
import TunnelSession.Daemon.Kind
import TunnelSession.Text.Blank

namespace TunnelSession.Console

/-- An option. One without a placeholder takes no value. -/
structure OptionForm where
  /-- The name with its dashes. -/
  name : String
  placeholder : Option String := none
  deriving DecidableEq, Repr

/-- An option as messages show it. -/
def OptionForm.shown (f : OptionForm) : String :=
  match f.placeholder with
  | some p => s!"{f.name} <{p}>"
  | none => f.name

/-- Why arguments are refused. -/
inductive ArgumentError
  | unexpected (argument : String)
  | unknownTask (word : String)
  | missingValue (form : OptionForm)
  | needlessValue (value : String) (form : OptionForm)
  | repeated (form : OptionForm)
  | invalidValue (value : String) (form : OptionForm) (why : String)
  deriving DecidableEq, Repr

def ArgumentError.message : ArgumentError → String
  | .unexpected argument => s!"unexpected argument '{argument}' found"
  | .unknownTask word => s!"unrecognized subcommand '{word}'"
  | .missingValue form => s!"a value is required for '{form.shown}' but none was supplied"
  | .needlessValue value form =>
    s!"unexpected value '{value}' for '{form.shown}' found; no more were expected"
  | .repeated form => s!"the argument '{form.shown}' cannot be used multiple times"
  | .invalidValue value form why => s!"invalid value '{value}' for '{form.shown}': {why}"

/-! ## Options -/

/-- Whether an argument is an option by its look. A lone dash is none. -/
def isOption (argument : String) : Bool :=
  argument.toList.head? == some '-' && argument != "-"

/-- The name of an option and the value after its equals sign. A single dash goes with
    one letter. -/
def splitOption (argument : String) : String × Option String :=
  match argument.toList with
  | '-' :: c :: _ =>
    if c = '-' then
      match argument.toList.span (· != '=') with
      | (name, _ :: value) => (String.ofList name, some (String.ofList value))
      | (name, []) => (String.ofList name, none)
    else (String.ofList ['-', c], none)
  | _ => (argument, none)

/-- The options that were given, with their values, the latest first. -/
abbrev Given := List (String × String)

/-- Takes note of an option, unless it was given before. -/
def give (given : Given) (form : OptionForm) (value : String) : Except ArgumentError Given :=
  if (given.lookup form.name).isSome then .error (.repeated form)
  else if form.placeholder.isSome ∧ value.isEmpty then .error (.missingValue form)
  else .ok ((form.name, value) :: given)

/-- Reads options up to the first word. -/
def readOptions (forms : List OptionForm) (given : Given) :
    List String → Except ArgumentError (Given × List String)
  | [] => .ok (given, [])
  | argument :: rest =>
    if !isOption argument then .ok (given, argument :: rest)
    else
      let (name, value) := splitOption argument
      match forms.find? (·.name == name) with
      | none => .error (.unexpected name)
      | some form =>
        match form.placeholder, value with
        | none, some v => .error (.needlessValue v form)
        | none, none => do readOptions forms (← give given form "") rest
        | some _, some v => do readOptions forms (← give given form v) rest
        | some _, none =>
          match rest with
          | [] => .error (.missingValue form)
          | v :: rest =>
            if !isOption v then do readOptions forms (← give given form v) rest
            else if forms.any (·.name == (splitOption v).1) then .error (.missingValue form)
            else .error (.unexpected (splitOption v).1)

/-- Refuses words where none are expected. -/
def noWords : List String → Except ArgumentError Unit
  | [] => .ok ()
  | word :: _ => .error (.unexpected word)

/-! ## The two programs -/

def configForm : OptionForm := ⟨"--config", some "CONFIG"⟩
def forceForm : OptionForm := ⟨"--force", none⟩
def socketForm : OptionForm := ⟨"--socket", some "SOCKET"⟩
def backendForm : OptionForm := ⟨"--backend", some "BACKEND"⟩

/-- What the client is to do. -/
inductive Task
  | run
  | init (force : Bool)
  | keygen
  | scores
  deriving DecidableEq, Repr

/-- The arguments of the client. -/
structure ClientArguments where
  task : Task := .run
  config : Option String := none
  deriving DecidableEq, Repr

/-- The task with a name, and the options that may follow it. -/
def taskForm? : String → Option ((Given → Task) × List OptionForm)
  | "run" => some (fun _ => .run, [configForm])
  | "init" =>
    some (fun given => .init (given.lookup forceForm.name).isSome, [forceForm, configForm])
  | "keygen" => some (fun _ => .keygen, [configForm])
  | "scores" => some (fun _ => .scores, [configForm])
  | _ => none

/-- Reads the arguments of the client. The settings may be named before or after the
    task; the later one counts. -/
def ClientArguments.read (arguments : List String) : Except ArgumentError ClientArguments := do
  let (early, rest) ← readOptions [configForm] [] arguments
  match rest with
  | [] => .ok { config := early.lookup configForm.name }
  | word :: rest =>
    match taskForm? word with
    | none => .error (.unknownTask word)
    | some (task, forms) =>
      let (late, rest) ← readOptions forms [] rest
      noWords rest
      .ok ⟨task late, late.lookup configForm.name <|> early.lookup configForm.name⟩

/-- The arguments of the daemon. -/
structure DaemonArguments where
  config : String := "/etc/hopvpn/daemon.toml"
  socket : Option String := none
  backend : Option Daemon.BackendKind := none
  deriving DecidableEq, Repr

/-- Reads the arguments of the daemon. -/
def DaemonArguments.read (arguments : List String) : Except ArgumentError DaemonArguments := do
  let (given, rest) ← readOptions [configForm, socketForm, backendForm] [] arguments
  noWords rest
  let backend ← match given.lookup backendForm.name with
    | none => .ok none
    | some name =>
      match Daemon.BackendKind.ofName? name with
      | some kind => .ok (some kind)
      | none => .error (.invalidValue name backendForm ("Unsupported backend: " ++ name))
  .ok {
    config := (given.lookup configForm.name).getD "/etc/hopvpn/daemon.toml"
    socket := given.lookup socketForm.name
    backend := backend }

end TunnelSession.Console
