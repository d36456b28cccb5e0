import RuleVocabulary.Directory
import RuleVocabulary.Fault
import RuleVocabulary.Json.Datum
import RuleVocabulary.Settings.Basic
import RuleVocabulary.Settings.Environment
import RuleVocabulary.Toml.Document
import RuleVocabulary.Yaml.Document

/-!
# Where settings come from

Settings are chosen in a file and in environment variables, which go before the file. What is
chosen nowhere keeps its default, and what is no setting is passed over. The extension of the file
tells its format. A file that is not there is no fault; one that breaks its format is, and so
is a choice that cannot be what the setting has to be.

Some things are left to the reader of settings (`Reader`): what files hold in formats that are not
read here, which extension is tried first, and in which order the members of a source are met.
-/

set_option autoImplicit false

namespace RuleVocabulary.Settings

/-! ## The file -/

/-- The formats of settings files that are not read here. -/
inductive Format.Foreign where
  | ini
  | ron
  | json5
deriving DecidableEq, Repr

/-- The formats of settings files. -/
inductive Format where
  | toml
  | json
  | yaml
  | foreign (format : Format.Foreign)
deriving DecidableEq, Repr

/-- The extensions of settings files. -/
def Format.extensions : List (String × Format) :=
  [("toml", toml), ("json", json), ("yaml", yaml), ("yml", yaml), ("ini", foreign .ini),
    ("ron", foreign .ron), ("json5", foreign .json5)]

/-- The sources of settings. -/
inductive Source where
  | file
  | environment
deriving DecidableEq, Repr

/-- What is left open of how settings are read. -/
structure Reader where
  /-- The members of the table that a text in a foreign format holds. -/
  foreign? : Format.Foreign → String → Option (List (String × Datum))
  /-- The extensions of settings files, as they are tried one after the other. -/
  extensions : List (String × Format)
  extensions_perm : extensions.Perm Format.extensions
  /-- The members of a source, as they are met one after the other. -/
  order : Source → List (String × Datum) → List (String × Datum)
  order_perm : ∀ source members, (order source members).Perm members

/-- A file without the mark that some editors put before the text. -/
def withoutMark : List UInt8 → List UInt8
  | 0xEF :: 0xBB :: 0xBF :: rest => rest
  | bytes => bytes

namespace Reader

/-- The reader that knows no foreign formats and keeps every order. -/
def plain : Reader where
  foreign? _ _ := none
  extensions := Format.extensions
  extensions_perm := .refl _
  order _ members := members
  order_perm _ _ := .refl _

/-- The members of the table that a file holds. -/
def members? (reader : Reader) (format : Format) (bytes : List UInt8) :
    Option (List (String × Datum)) :=
  let text := Text.Utf8.decodeLossy bytes
  match format with
  | .toml => Toml.members? text
  | .yaml => Yaml.members? text
  | .json =>
    match Json.datum? (Text.Utf8.encode text) with
    | some (.table members) => some members
    | _ => none
  | .foreign format => reader.foreign? format text

/-- The settings file of the given name. The name may have an extension already; only a file of
just that name counts then. -/
def file? (reader : Reader) (directory : Directory) (name : String) :
    Option (Format × List UInt8) :=
  match directory name with
  | some bytes =>
    ((Directory.extension? name).bind (Format.extensions.lookup ·)).map (·, bytes)
  | none =>
    reader.extensions.findSome? fun entry =>
      (directory (name ++ "." ++ entry.1)).map (entry.2, ·)

/-- What the settings file of the given name chooses. -/
def fileData (reader : Reader) (directory : Directory) (name : String) :
    Except Fault (List (String × Datum)) :=
  match reader.file? directory name with
  | none => .ok []
  | some (format, bytes) =>
    match reader.members? format (withoutMark bytes) with
    | some members => .ok (Table.collect members)
    | none => .error (.config (name ++ " cannot be read"))

end Reader

/-! ## The choices -/

/-- The choice that was made for a setting, or its default. -/
def choice {α : Type} (chosen : String → Option Datum) (name : String)
    (value? : Datum → Option α) (default : α) : Except Fault α :=
  match chosen name with
  | none => .ok default
  | some datum =>
    match value? datum with
    | some value => .ok value
    | none => .error (.config ("invalid value for " ++ name))

/-- The settings that choices make. -/
def ofChoices (chosen : String → Option Datum) : Except Fault Settings := do
  return {
    defaultNamespace := ← choice chosen "default_namespace" Datum.text? default.defaultNamespace
    primitiveTypes := ← choice chosen "primitive_types" Datum.texts? default.primitiveTypes
    ignoredMembers := ← choice chosen "ignored_members" Datum.texts? default.ignoredMembers
    resourceSuffix := ←
      choice chosen "type_resource_suffix" Datum.text? default.resourceSuffix }

/-- The settings that a file and environment variables choose. -/
def Reader.load (reader : Reader) (directory : Directory) (environment : Environment)
    (name : String) : Except Fault Settings := do
  let file ← reader.fileData directory name
  let met := reader.order .file file ++ reader.order .environment (environmentData environment)
  ofChoices ((Datum.assignAll met (.table [])).members.lookup ·)

/-- The settings that the plain reader loads. -/
def load : Directory → Environment → (name : String) → Except Fault Settings :=
  Reader.plain.load

end RuleVocabulary.Settings
