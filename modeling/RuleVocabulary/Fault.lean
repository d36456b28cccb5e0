/-!
# Faults

Every way in which reading, looking up or building can fail. Two kinds of fault are fatal: they
abort a build, because nothing that follows could be trusted. All others become messages beside
the vocabulary that is built (`Fault.isFatal`).
-/

set_option autoImplicit false

namespace RuleVocabulary

/-- A failure, by its cause. -/
inductive Fault where
  /-- The settings cannot be read. -/
  | config (detail : String)
  /-- A package header cannot be read at all. -/
  | parse (detail : String) (line column : Option Nat)
  /-- An archive cannot be read. -/
  | archiveRead (detail : String)
  /-- The stored descriptor of a type cannot be used. -/
  | descriptor (name detail : String)
  /-- The fields of a type cannot be listed. -/
  | introspection (detail : String)
  /-- A file cannot be read. -/
  | io (detail : String)
  /-- A JSON text cannot be read. -/
  | json (detail : String)
deriving DecidableEq, Repr

namespace Fault

/-- The text shown for a fault. -/
def message : Fault → String
  | config detail => "Config error: " ++ detail
  | parse detail _ _ => "Serious error, unable to validate package: " ++ detail
  | archiveRead detail => "Archive read error: " ++ detail
  | descriptor name detail => "Malformed type descriptor for " ++ name ++ ": " ++ detail
  | introspection detail => detail
  | io detail => "I/O error: " ++ detail
  | json detail => "Serialization error: " ++ detail

/-- Whether a fault aborts a build. -/
def isFatal : Fault → Bool
  | parse .. | archiveRead _ => true
  | _ => false

end Fault

end RuleVocabulary
