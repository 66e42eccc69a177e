/-
The arguments of the command line: one of three actions with its options,
and a settings file that may be named before or after the action.
-/
import RemapSynth.Text.Numeral
import RemapSynth.Width

namespace RemapSynth.Command

inductive Action
  | generate (samples : String) (baseline : Option String) (out : String)
      (candidates : Option Nat)
  | check (program : String) (samples : Option String)
  | calibrate
  deriving Repr, DecidableEq

/-- What the arguments ask for. -/
inductive Invocation
  | run (settings : Option String) (action : Action)
  | version
  | help
  /-- The arguments make no sense. -/
  | unclear
  deriving Repr, DecidableEq

/-- Where results go when nothing else is said. -/
def usualOut : String := "vrl-forge-out"

/-- The options and the operands of a command line. -/
structure Operands where
  options : List (String × String) := []
  positions : List String := []
  deriving Repr

/-- Whether an argument looks like an option and not like a value. -/
def looksLikeOption (argument : List Char) : Bool :=
  argument.head? == some '-' && argument.length > 1

/-- An option with its value behind an equals sign. -/
def inlineOption (argument : List Char) : List Char × Option (List Char) :=
  match argument.span (· ≠ '=') with
  | (name, _ :: value) => (name, some value)
  | (name, []) => (name, none)

/-- One more option; each may be given once. -/
def Operands.add? (o : Operands) (name value : String) : Option Operands :=
  if o.options.any (·.1 == name) then none
  else some { o with options := o.options ++ [(name, value)] }

/-- What is left of reading an action's arguments. -/
inductive Scan
  | operands (o : Operands)
  | help
  | unclear

/-- The arguments of an action whose options are `known`. -/
def scanArguments (known : List String) : Operands → List String → Scan
  | o, [] => .operands o
  | o, argument :: rest =>
    let s := argument.toList
    if argument == "--" then .operands { o with positions := o.positions ++ rest }
    else if argument == "--help" || ['-', 'h'].isPrefixOf s then .help
    else if !looksLikeOption s then
      scanArguments known { o with positions := o.positions ++ [argument] } rest
    else
      let (name, inside) := inlineOption s
      let name := String.ofList name
      if !known.contains name then .unclear
      else
        match inside, rest with
        | some value, rest =>
          match o.add? name (.ofList value) with
          | some o => scanArguments known o rest
          | none => .unclear
        | none, value :: rest =>
          if looksLikeOption value.toList then .unclear
          else
            match o.add? name value with
            | some o => scanArguments known o rest
            | none => .unclear
        | none, [] => .unclear

def settingsOption : String := "--config"

def Operands.get? (o : Operands) (name : String) : Option String :=
  (o.options.find? (·.1 == name)).map (·.2)

/-- Whether no path among the operands is empty. -/
def Operands.hasPaths (o : Operands) : Bool :=
  o.options.all (fun (_, value) => value != "") && o.positions.all (· != "")

def actionOptions : List (String × List String) :=
  [("generate", ["--samples", "--baseline", "--out", "--candidates"]), ("check", ["--samples"]),
    ("calibrate", [])]

/-- The action of a name with its operands. -/
def actionOf? (name : String) (o : Operands) : Option Action :=
  match name, o.positions with
  | "generate", [] => do
    let samples ← o.get? "--samples"
    let candidates ←
      match o.get? "--candidates" with
      | none => some none
      | some value => (Chars.readUpTo? Width.maxWord value.toList).map some
    return .generate samples (o.get? "--baseline") ((o.get? "--out").getD usualOut) candidates
  | "check", [program] => some (.check program (o.get? "--samples"))
  | "calibrate", [] => some .calibrate
  | _, _ => none

/-- What the arguments behind an action's name ask for. -/
def readAction (settings : Option String) (name : String) (known arguments : List String) :
    Invocation :=
  match scanArguments (settingsOption :: known) {} arguments with
  | .help => .help
  | .unclear => .unclear
  | .operands o =>
    if !o.hasPaths then .unclear
    else
      match actionOf? name o with
      | some action => .run ((o.get? settingsOption).orElse fun _ => settings) action
      | none => .unclear

def readHelp : List String → Invocation
  | [] => .help
  | name :: _ => if (actionOptions.map (·.1)).contains name then .help else .unclear

/-- What the arguments ask for, `settings` being named before them. -/
def readFrom (settings : Option String) : List String → Invocation
  | [] => .unclear
  | argument :: rest =>
    let s := argument.toList
    if argument == "--version" || ['-', 'V'].isPrefixOf s then .version
    else if argument == "--help" || ['-', 'h'].isPrefixOf s then .help
    else if argument == "help" then readHelp rest
    else
      match actionOptions.find? (·.1 == argument), inlineOption s, rest with
      | some (name, known), _, rest => readAction settings name known rest
      | none, (name, some value), rest =>
        if String.ofList name == settingsOption && settings.isNone && !value.isEmpty then
          readFrom (some (.ofList value)) rest
        else .unclear
      | none, (name, none), value :: rest =>
        if String.ofList name == settingsOption && settings.isNone && value != "" &&
            !looksLikeOption value.toList then
          readFrom (some value) rest
        else .unclear
      | none, _, [] => .unclear

/-- What the arguments ask for. -/
def Invocation.read (arguments : List String) : Invocation := readFrom none arguments

end RemapSynth.Command
