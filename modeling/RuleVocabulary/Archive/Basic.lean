import RuleVocabulary.Fault
import RuleVocabulary.Archive.Gzip
import RuleVocabulary.Archive.Tar

/-!
# Archives

An archive comes with a label and is expanded into its entries, after decompression where its
first bytes call for it. It is expanded as a whole or not at all.
-/

set_option autoImplicit false

namespace RuleVocabulary

/-- The bytes of an archive, and a label to tell it by. -/
structure Archive where
  label : String
  bytes : List UInt8
deriving DecidableEq, Repr

namespace Archive

/-- An archive that nobody labelled. -/
def ofBytes (bytes : List UInt8) : Archive := ⟨"archive", bytes⟩

/-- Whether the archive is compressed. -/
def isCompressed (archive : Archive) : Bool :=
  Gzip.isCompressed archive.bytes

/-- What the archive's reader reads from. -/
def supply (archive : Archive) : Supply :=
  if archive.isCompressed then Gzip.contents archive.bytes else .ofBytes archive.bytes

/-- The entries of the archive. -/
def expand (archive : Archive) : Except Fault (List Entry) :=
  match entries archive.supply with
  | .ok entries => .ok entries
  | .error fault => .error (.archiveRead (archive.label ++ ": " ++ fault.message))

end Archive

end RuleVocabulary
