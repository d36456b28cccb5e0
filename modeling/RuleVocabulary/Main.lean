import RuleVocabulary.CommandLine

/-!
# The program

Reads the files and the environment variables that the command line may ask for, and prints what it
answers.
-/

set_option autoImplicit false

namespace RuleVocabulary.Program

/-- The bytes of a file, if it can be read. -/
def readFile? (path : String) : IO (Option (List UInt8)) := do
  try
    return some (← IO.FS.readBinFile path).toList
  catch _ =>
    return none

/-- The directory in which the given paths can be read, as far as they can. -/
def readDirectory (paths : List String) : IO Directory := do
  let files ← paths.filterMapM fun path => return (← readFile? path).map (path, ·)
  return fun path => files.lookup path

/-- The environment variables of this process. -/
def readEnvironment : IO Environment := do
  let block := (← readFile? "/proc/self/environ").getD []
  return (Text.Utf8.decodeLossy block).splitOn "\x00" |>.map fun entry =>
    let name := entry.toList.takeWhile (· ≠ '=')
    (String.ofList name, String.ofList (entry.toList.drop (name.length + 1)))

end RuleVocabulary.Program

section

open RuleVocabulary RuleVocabulary.Program

/-- Answers a command line. -/
def main (arguments : List String) : IO UInt32 := do
  let name := CommandLine.settingsName
  let settingsFiles := Settings.Format.extensions.map fun (extension, _) => name ++ "." ++ extension
  let directory ← readDirectory (name :: settingsFiles ++ arguments)
  let answer := CommandLine.answer directory (← readEnvironment) arguments
  (← IO.getStdout).write ⟨answer.output.toArray⟩
  IO.eprint answer.complaint
  return answer.exitCode

end
