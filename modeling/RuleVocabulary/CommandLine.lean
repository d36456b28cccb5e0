import RuleVocabulary.Loader
import RuleVocabulary.Settings.Sources
import RuleVocabulary.Vocabulary.Json

/-!
# The command line

The first argument names a package header, the others name mapping files, whose extension is
`dsl`, and archives. The vocabulary built from them is printed as JSON together with the messages.
The exit code tells whether that worked: 0 if so, 1 if not, and then nothing is printed, and 2 if
there are no arguments. What the command line answers depends on the files that it can read, on
the environment variables, and on how settings are read, and on nothing else (`answerBy`).
-/

set_option autoImplicit false

namespace RuleVocabulary.CommandLine

open Text (Utf8.decode?)

/-- The name of the settings file, without an extension. -/
def settingsName : String := "suggestion-loader"

/-- How the command line is used. -/
def usage : String :=
  "usage: suggestion-loader <header-file> [archive | mapping.dsl ...]"

/-- What a command line ends with. -/
structure Answer where
  exitCode : UInt32
  /-- The bytes on the standard output. -/
  output : List UInt8
  /-- The text on the standard error output. -/
  complaint : String
deriving DecidableEq, Repr

/-! ## Reading -/

/-- The bytes of a file. -/
def readBytes (directory : Directory) (path : String) : Except Fault (List UInt8) :=
  match directory path with
  | some bytes => .ok bytes
  | none => .error (.io ("cannot read " ++ path))

/-- The text of a file. -/
def readText (directory : Directory) (path : String) : Except Fault String := do
  match Utf8.decode? (← readBytes directory path) with
  | some text => return text
  | none => .error (.io (path ++ " does not contain valid text"))

/-- Whether an argument names a mapping file. -/
def isMapping (argument : String) : Bool :=
  Directory.extension? argument = some "dsl"

/-- What arguments name, each kind in order. -/
structure Inputs where
  archives : List Archive
  mappings : List Mapping.File

namespace Inputs

/-- Nothing is named. -/
def none : Inputs := ⟨[], []⟩

/-- Adds an archive. -/
def addArchive (inputs : Inputs) (archive : Archive) : Inputs :=
  { inputs with archives := inputs.archives ++ [archive] }

/-- Adds a mapping file. -/
def addMapping (inputs : Inputs) (file : Mapping.File) : Inputs :=
  { inputs with mappings := inputs.mappings ++ [file] }

end Inputs

/-- Reads the mapping file that an argument names. -/
def readMapping (directory : Directory) (argument : String) : Except Fault Mapping.File :=
  (readText directory argument).map Mapping.File.ofText

/-- Reads the archive that an argument names, labelled by it. -/
def readArchive (directory : Directory) (argument : String) : Except Fault Archive :=
  (readBytes directory argument).map (⟨argument, ·⟩)

/-- Reads what an argument names, and adds it. -/
def readInput (directory : Directory) (inputs : Inputs) (argument : String) :
    Except Fault Inputs :=
  if isMapping argument then (readMapping directory argument).map inputs.addMapping
  else (readArchive directory argument).map inputs.addArchive

/-- Reads what arguments name, up to the first that names nothing readable. -/
def readInputs (directory : Directory) (arguments : List String) : Except Fault Inputs :=
  arguments.foldlM (readInput directory) .none

/-! ## Building -/

/-- What a build yields, as JSON. -/
def outcomeJson (outcome : Outcome) : Json.Value :=
  .object [("model", outcome.vocabulary.json), ("errors", .strings outcome.messages)]

/-- What is printed for the outcome of a build. -/
def shown (outcome : Outcome) : List UInt8 :=
  (outcomeJson outcome).pretty ++ [0x0A]

/-- Builds a vocabulary from what the arguments name, with a new loader. -/
def build (reader : Settings.Reader) (directory : Directory) (environment : Environment)
    (header : String) (arguments : List String) : Except Fault Outcome := do
  let settings ← reader.load directory environment settingsName
  let text ← readText directory header
  let inputs ← readInputs directory arguments
  ((Loader.ofSettings settings).build text inputs.archives inputs.mappings).1

/-- What the command line answers where settings are read by the given reader. -/
def answerBy (reader : Settings.Reader) (directory : Directory) (environment : Environment) :
    (arguments : List String) → Answer
  | [] => ⟨2, [], usage ++ "\n"⟩
  | header :: arguments =>
    match build reader directory environment header arguments with
    | .ok outcome => ⟨0, shown outcome, ""⟩
    | .error fault => ⟨1, [], fault.message ++ "\n"⟩

/-- What the command line answers. -/
def answer : Directory → Environment → (arguments : List String) → Answer :=
  answerBy .plain

end RuleVocabulary.CommandLine
