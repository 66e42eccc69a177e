/-
Settings, samples and results in files.
-/
import RemapSynth.Command.Machine
import RemapSynth.Selection.Report
import RemapSynth.Settings.Document
import RemapSynth.Policy.Check

namespace RemapSynth.Command

def joinPath (directory name : String) : String :=
  if Text.endsWith directory "/" then directory ++ name else directory ++ "/" ++ name

/-- The last part of a path and what comes before it. -/
def splitName (path : List Char) : List Char × List Char :=
  let name := (path.reverse.takeWhile (· ≠ '/')).reverse
  (path.take (path.length - name.length), name)

/-- A file name without what follows its last dot; a dot in front does not count. -/
def stem (name : List Char) : List Char :=
  match name.reverse.dropWhile (· ≠ '.') with
  | [] | [_] => name
  | _ :: rest => rest.reverse

/-- Where a settings file that cannot be read as one is kept. -/
def corruptPath (path : String) : String :=
  let (directory, name) := splitName path.toList
  .ofList (directory ++ stem name ++ ".toml.corrupt".toList)

/-- The settings file of the user: in the directory for settings, or in its usual place at home. -/
def userSettings : Course (Option String) :=
  .ask (.environment "XDG_CONFIG_HOME") fun directory =>
    match directory.filter fun d => Text.startsWith d "/" with
    | some directory => .done (some (joinPath directory "vrl-forge/config.toml"))
    | none =>
      .ask (.environment "HOME") fun home =>
        .done ((home.filter (· != "")).map fun home =>
          joinPath home ".config/vrl-forge/config.toml")

/-- The settings in a file. One that is no settings file is put aside, so that it is not lost, and
the usual settings are taken; also where there is no file that can be read. -/
def settingsAt (path : String) : Course Settings :=
  .ask (.readFile path) fun answer =>
    match answer with
    | .error _ => .done {}
    | .ok text =>
      match Settings.ofDocument? text with
      | some settings => .done settings
      | none =>
        .ask (.rename path (corruptPath path)) fun moved =>
          match moved with
          | .ok _ => .done {}
          | .error _ => .ask (.writeFile (corruptPath path) text) fun _ => .done {}

/-- The settings in a named file, or else in the user's. -/
def loadSettings (path : Option String) : Course Settings :=
  match path with
  | some path => settingsAt path
  | none =>
    userSettings.bind fun path =>
      match path with
      | some path => settingsAt path
      | none => .done {}

def saveSettings (s : Settings) (path : String) : Attempt Unit :=
  let directory := String.ofList (splitName path.toList).1.dropLast
  .ask (.createDirectory directory) fun made =>
    match made with
    | .error cause => giveUp ⟨"Failed to create " ++ directory, [cause]⟩
    | .ok _ =>
      match s.toDocument? with
      | none => giveUp ⟨"Failed to serialize config", []⟩
      | some text =>
        .ask (.writeFile path text) fun written =>
          match written with
          | .ok _ => succeed ()
          | .error cause => giveUp ⟨"Failed to write " ++ path, [cause]⟩

def loadSamples (path : String) : Attempt (List Sample) :=
  (readText ("Failed to read samples from " ++ path) path).andThen fun content =>
    succeed (Sample.ofContent content)

/-- The samples in a file that must hold some. -/
def requireSamples (path : String) : Attempt (List Sample) :=
  (loadSamples path).andThen fun samples =>
    if samples.isEmpty then giveUp ⟨path ++ " contains no events", []⟩ else succeed samples

/-- The reserved fields in a file. -/
def loadReserved (path : String) : Course (Except Policy.ListFault (List String)) :=
  .ask (.readFile path) fun answer =>
    match answer with
    | .ok content => .done (Policy.readTable content)
    | .error _ => .done (.error .unreadable)

/-- The validator of some settings. -/
def makeValidator (s : Settings.Validation) : Course Validator :=
  match s.reservedFieldsTable with
  | none => .done (.make s none s.checkerEnabled s.runnerEnabled)
  | some path =>
    (loadReserved path).map fun table => .make s (some table) s.checkerEnabled s.runnerEnabled

/-- Writes files into a directory, telling of each; their paths. -/
def writeFiles (directory : String) : List (String × String) → Attempt (List String)
  | [] => succeed []
  | (name, text) :: files =>
    let path := joinPath directory name
    .ask (.writeFile path text) fun written =>
      match written with
      | .error cause => giveUp ⟨"Failed to write " ++ path, [cause]⟩
      | .ok _ => (writeFiles directory files).andThen fun paths => succeed (path :: paths)

/-- Writes the files of an outcome into a directory, which is made when it is not there; their
paths. -/
def writeOutcome (directory : String) (o : Selection.Outcome) : Attempt (List String) :=
  .ask (.createDirectory directory) fun made =>
    match made with
    | .error cause => giveUp ⟨"Failed to create output directory " ++ directory, [cause]⟩
    | .ok _ => .ask .now fun time => writeFiles directory (Selection.files time o)

end RemapSynth.Command
