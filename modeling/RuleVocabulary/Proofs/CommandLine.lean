import Mathlib.Data.List.Forall2
import RuleVocabulary.CommandLine
import RuleVocabulary.Proofs.Answer
import RuleVocabulary.Proofs.Outcome
import RuleVocabulary.Proofs.Settings
import RuleVocabulary.Proofs.Text.Utf8

/-!
# What a command line depends on

The arguments behind the header are read in order, each into the list of its kind, up to the first
that names nothing readable. So which fault is met depends on how the kinds are mixed, but what has
been read in the end does not: it is one archive for each argument of the one kind and one mapping
file for each of the other, in order (`readInputs_eq_ok_iff`).

How settings are read is left open where the sources of settings do not tell it. So two command
lines are compared by two readers, which load the same settings, if any. That is so for one reader
and itself, and for any two that agree on foreign formats where the sources are settled.

Main statement: the exit code and the output are the same then for all arguments with the same
archives and the same mapping files. The code is 0 exactly if the settings load, everything named
can be read and the build of it comes out well. Then the one text that shows the outcome is printed,
its messages included, and the outcome can be read from it; else the code is 1 and nothing is
printed (`mixing_inputs_changes_nothing`).
-/

set_option autoImplicit false

namespace RuleVocabulary.CommandLine

open Text

variable {directory : Directory}

/-! ## What can be read -/

/-- Whether a file holds a text, in its encoding. -/
def HoldsText (directory : Directory) (path text : String) : Prop :=
  directory path = some (Utf8.encode text)

/-- Whether an argument names an archive. -/
def HoldsArchive (directory : Directory) (argument : String) (archive : Archive) : Prop :=
  archive.label = argument ∧ directory argument = some archive.bytes

/-- Whether an argument names a mapping file. -/
def HoldsMapping (directory : Directory) (argument : String) (file : Mapping.File) : Prop :=
  ∃ text, HoldsText directory argument text ∧ file = .ofText text

/-- Whether arguments name inputs: of each kind one for each argument of that kind, in order. -/
structure Names (directory : Directory) (arguments : List String) (inputs : Inputs) : Prop where
  archives : List.Forall₂ (HoldsArchive directory) (arguments.filter (!isMapping ·))
    inputs.archives
  mappings : List.Forall₂ (HoldsMapping directory) (arguments.filter isMapping) inputs.mappings

theorem readBytes_eq_ok_iff {path : String} {bytes : List UInt8} :
    readBytes directory path = .ok bytes ↔ directory path = some bytes := by
  unfold readBytes
  split
  · rename_i found
    rw [found, Except.ok.injEq, Option.some.injEq]
  · rename_i missing
    rw [missing]
    exact iff_of_false nofun nofun

theorem readText_eq_ok_iff {path text : String} :
    readText directory path = .ok text ↔ HoldsText directory path text := by
  constructor
  · intro done
    obtain ⟨bytes, found, read⟩ := bind_eq_ok_iff.mp done
    rw [HoldsText, readBytes_eq_ok_iff.mp found]
    cases decoded : Utf8.decode? bytes with
    | none =>
        rw [decoded] at read
        cases read
    | some other =>
        rw [decoded] at read
        obtain rfl := Except.ok.inj read
        exact congrArg some (Utf8.decode?_eq_some_iff.mp decoded)
  · intro held
    refine bind_eq_ok_iff.mpr ⟨Utf8.encode text, readBytes_eq_ok_iff.mpr held, ?_⟩
    rw [Utf8.decode?_encode]
    rfl

theorem readMapping_eq_ok_iff {argument : String} {file : Mapping.File} :
    readMapping directory argument = .ok file ↔ HoldsMapping directory argument file := by
  simp only [readMapping, map_eq_ok_iff, readText_eq_ok_iff, HoldsMapping, eq_comm (a := file)]

theorem readArchive_eq_ok_iff {argument : String} {archive : Archive} :
    readArchive directory argument = .ok archive ↔ HoldsArchive directory argument archive := by
  rw [readArchive, map_eq_ok_iff, HoldsArchive]
  constructor
  · rintro ⟨bytes, found, rfl⟩
    exact ⟨rfl, readBytes_eq_ok_iff.mp found⟩
  · rintro ⟨rfl, held⟩
    exact ⟨archive.bytes, readBytes_eq_ok_iff.mpr held, rfl⟩

/-! ## Reading all arguments -/

theorem readInput_of_mapping {argument : String} (kind : isMapping argument = true)
    {before after : Inputs} :
    readInput directory before argument = .ok after ↔
      ∃ file, HoldsMapping directory argument file ∧ before.addMapping file = after := by
  simp only [readInput, kind, ↓reduceIte, map_eq_ok_iff, readMapping_eq_ok_iff]

theorem readInput_of_archive {argument : String} (kind : isMapping argument = false)
    {before after : Inputs} :
    readInput directory before argument = .ok after ↔
      ∃ archive, HoldsArchive directory argument archive ∧ before.addArchive archive = after := by
  simp only [readInput, kind, Bool.false_eq_true, ↓reduceIte, map_eq_ok_iff, readArchive_eq_ok_iff]

theorem names_cons_of_mapping {argument : String} (kind : isMapping argument = true)
    {arguments : List String} {inputs : Inputs} :
    Names directory (argument :: arguments) inputs ↔
      ∃ file rest, HoldsMapping directory argument file ∧ Names directory arguments rest ∧
        inputs = ⟨rest.archives, file :: rest.mappings⟩ := by
  have archives : (argument :: arguments).filter (!isMapping ·) =
      arguments.filter (!isMapping ·) := by
    simp [kind]
  have mappings : (argument :: arguments).filter isMapping =
      argument :: arguments.filter isMapping := by
    simp [kind]
  constructor
  · rintro ⟨first, second⟩
    rw [archives] at first
    rw [mappings, List.forall₂_cons_left_iff] at second
    obtain ⟨file, files, held, others, listed⟩ := second
    refine ⟨file, ⟨inputs.archives, files⟩, held, ⟨first, others⟩, ?_⟩
    rw [← listed]
  · rintro ⟨file, rest, held, named, rfl⟩
    refine ⟨?_, ?_⟩
    · rw [archives]
      exact named.archives
    · rw [mappings]
      exact .cons held named.mappings

theorem names_cons_of_archive {argument : String} (kind : isMapping argument = false)
    {arguments : List String} {inputs : Inputs} :
    Names directory (argument :: arguments) inputs ↔
      ∃ archive rest, HoldsArchive directory argument archive ∧ Names directory arguments rest ∧
        inputs = ⟨archive :: rest.archives, rest.mappings⟩ := by
  have archives : (argument :: arguments).filter (!isMapping ·) =
      argument :: arguments.filter (!isMapping ·) := by
    simp [kind]
  have mappings : (argument :: arguments).filter isMapping = arguments.filter isMapping := by
    simp [kind]
  constructor
  · rintro ⟨first, second⟩
    rw [mappings] at second
    rw [archives, List.forall₂_cons_left_iff] at first
    obtain ⟨archive, more, held, others, listed⟩ := first
    refine ⟨archive, ⟨more, inputs.mappings⟩, held, ⟨others, second⟩, ?_⟩
    rw [← listed]
  · rintro ⟨archive, rest, held, named, rfl⟩
    refine ⟨?_, ?_⟩
    · rw [archives]
      exact .cons held named.archives
    · rw [mappings]
      exact named.mappings

/-- Inputs that are read behind others go behind those of their kind. -/
theorem foldlM_readInput_eq_ok_iff {arguments : List String} {before after : Inputs} :
    arguments.foldlM (readInput directory) before = .ok after ↔
      ∃ inputs, Names directory arguments inputs ∧
        after = ⟨before.archives ++ inputs.archives, before.mappings ++ inputs.mappings⟩ := by
  induction arguments generalizing before with
  | nil =>
      constructor
      · intro done
        obtain rfl := Except.ok.inj done
        exact ⟨.none, ⟨.nil, .nil⟩, by simp [Inputs.none]⟩
      · rintro ⟨⟨archives, mappings⟩, named, rfl⟩
        obtain rfl := List.forall₂_nil_left_iff.mp named.archives
        obtain rfl := List.forall₂_nil_left_iff.mp named.mappings
        simp only [List.append_nil]
        rfl
  | cons argument arguments ih =>
      rw [List.foldlM_cons, bind_eq_ok_iff]
      cases kind : isMapping argument with
      | true =>
          simp only [readInput_of_mapping kind, ih, names_cons_of_mapping kind]
          constructor
          · rintro ⟨_, ⟨file, held, rfl⟩, rest, named, rfl⟩
            refine ⟨_, ⟨file, rest, held, named, rfl⟩, ?_⟩
            simp only [Inputs.addMapping, List.append_assoc, List.cons_append, List.nil_append]
          · rintro ⟨_, ⟨file, rest, held, named, rfl⟩, rfl⟩
            refine ⟨_, ⟨file, held, rfl⟩, rest, named, ?_⟩
            simp only [Inputs.addMapping, List.append_assoc, List.cons_append, List.nil_append]
      | false =>
          simp only [readInput_of_archive kind, ih, names_cons_of_archive kind]
          constructor
          · rintro ⟨_, ⟨archive, held, rfl⟩, rest, named, rfl⟩
            refine ⟨_, ⟨archive, rest, held, named, rfl⟩, ?_⟩
            simp only [Inputs.addArchive, List.append_assoc, List.cons_append, List.nil_append]
          · rintro ⟨_, ⟨archive, rest, held, named, rfl⟩, rfl⟩
            refine ⟨_, ⟨archive, held, rfl⟩, rest, named, ?_⟩
            simp only [Inputs.addArchive, List.append_assoc, List.cons_append, List.nil_append]

/-- **What is read of arguments is what they name, sorted by kind.** -/
theorem readInputs_eq_ok_iff {arguments : List String} {inputs : Inputs} :
    readInputs directory arguments = .ok inputs ↔ Names directory arguments inputs := by
  rw [readInputs, foldlM_readInput_eq_ok_iff]
  constructor
  · rintro ⟨others, named, rfl⟩
    exact named
  · intro named
    exact ⟨inputs, named, rfl⟩

/-- What arguments name depends on the arguments of each kind only. -/
theorem names_congr {arguments others : List String} {inputs : Inputs}
    (archives : others.filter (!isMapping ·) = arguments.filter (!isMapping ·))
    (mappings : others.filter isMapping = arguments.filter isMapping) :
    Names directory others inputs ↔ Names directory arguments inputs := by
  constructor
  · rintro ⟨first, second⟩
    exact ⟨archives ▸ first, mappings ▸ second⟩
  · rintro ⟨first, second⟩
    exact ⟨archives ▸ first, mappings ▸ second⟩

/-! ## Building -/

open Settings (Reader LoadsAlike Settled)

variable {reader : Reader} {environment : Environment} {header : String}
  {arguments : List String} {outcome : Outcome}

/-- Whether a command line comes out well: the settings load, everything named can be read, and a
new loader makes the outcome of it. -/
def ComesOut (reader : Reader) (directory : Directory) (environment : Environment)
    (header : String) (arguments : List String) (outcome : Outcome) : Prop :=
  ∃ settings text inputs, reader.load directory environment settingsName = .ok settings ∧
    HoldsText directory header text ∧ Names directory arguments inputs ∧
    ((Loader.ofSettings settings).build text inputs.archives inputs.mappings).1 = .ok outcome

theorem build_eq_ok_iff :
    build reader directory environment header arguments = .ok outcome ↔
      ComesOut reader directory environment header arguments outcome := by
  simp only [build, bind_eq_ok_iff, readText_eq_ok_iff, readInputs_eq_ok_iff, ComesOut]
  constructor
  · rintro ⟨settings, loaded, text, held, inputs, named, built⟩
    exact ⟨settings, text, inputs, loaded, held, named, built⟩
  · rintro ⟨settings, text, inputs, loaded, held, named, built⟩
    exact ⟨settings, loaded, text, held, inputs, named, built⟩

/-- What comes out depends on the settings that are loaded, and on the arguments of each kind. -/
theorem comesOut_congr {other : Reader} {others : List String}
    (alike : LoadsAlike reader other directory environment settingsName)
    (archives : others.filter (!isMapping ·) = arguments.filter (!isMapping ·))
    (mappings : others.filter isMapping = arguments.filter isMapping) :
    ComesOut other directory environment header others outcome ↔
      ComesOut reader directory environment header arguments outcome := by
  simp only [ComesOut, alike _, names_congr archives mappings]

theorem answerBy_of_comesOut
    (well : ComesOut reader directory environment header arguments outcome) :
    answerBy reader directory environment (header :: arguments) = ⟨0, shown outcome, ""⟩ := by
  rw [answerBy, build_eq_ok_iff.mpr well]

theorem answerBy_of_failure
    (failed : ∀ outcome, ¬ ComesOut reader directory environment header arguments outcome) :
    (answerBy reader directory environment (header :: arguments)).exitCode = 1 ∧
      (answerBy reader directory environment (header :: arguments)).output = [] := by
  rw [answerBy]
  cases built : build reader directory environment header arguments with
  | error fault => exact ⟨rfl, rfl⟩
  | ok outcome => exact absurd (build_eq_ok_iff.mp built) (failed outcome)

/-- Command lines that come out with the same outcomes have the same exit code and output. -/
theorem answerBy_congr {other : Reader} {others : List String}
    (same : ∀ outcome, ComesOut other directory environment header others outcome ↔
      ComesOut reader directory environment header arguments outcome) :
    (answerBy other directory environment (header :: others)).exitCode =
        (answerBy reader directory environment (header :: arguments)).exitCode ∧
      (answerBy other directory environment (header :: others)).output =
        (answerBy reader directory environment (header :: arguments)).output := by
  by_cases well : ∃ outcome, ComesOut reader directory environment header arguments outcome
  · obtain ⟨outcome, well⟩ := well
    rw [answerBy_of_comesOut well, answerBy_of_comesOut ((same outcome).mpr well)]
    exact ⟨rfl, rfl⟩
  · have failed := not_exists.mp well
    obtain ⟨code, output⟩ := answerBy_of_failure failed
    obtain ⟨otherCode, otherOutput⟩ :=
      answerBy_of_failure fun outcome => mt (same outcome).mp (failed outcome)
    exact ⟨otherCode.trans code.symm, otherOutput.trans output.symm⟩

/-- **A command line depends on its inputs and not on how they are mixed.** Arguments with the same
archives and the same mapping files, each in order, have the same exit code and output, whichever of
the readers that load the same settings reads these. Where the sources of settings are settled, all
readers are such that agree on foreign formats. The code is 0 exactly if the settings load, the
header and everything else named can be read, and the build of it by a new loader comes out well,
whatever its messages are. Then the output is the one text that shows the outcome, and a line feed,
and a reader of JSON finds the outcome in it. Else the code is 1 and there is no output. -/
theorem mixing_inputs_changes_nothing (reader : Reader) (directory : Directory)
    (environment : Environment) (header : String) (arguments : List String) :
    let answered := answerBy reader directory environment (header :: arguments)
    (∀ other, LoadsAlike reader other directory environment settingsName →
      ∀ others, others.filter (!isMapping ·) = arguments.filter (!isMapping ·) →
        others.filter isMapping = arguments.filter isMapping →
          (answerBy other directory environment (header :: others)).exitCode = answered.exitCode ∧
            (answerBy other directory environment (header :: others)).output = answered.output) ∧
    LoadsAlike reader reader directory environment settingsName ∧
    (Settled reader directory environment settingsName → ∀ other : Reader,
      other.foreign? = reader.foreign? →
        LoadsAlike reader other directory environment settingsName) ∧
    (answered.exitCode = 0 ↔
      ∃ outcome, ComesOut reader directory environment header arguments outcome) ∧
    (∀ outcome, ComesOut reader directory environment header arguments outcome →
      (∃ text, answered.output = text ++ [0x0A] ∧
        ∀ other, Json.Pretty 0 outcome.datum other ↔ other = text) ∧
      Json.datum? answered.output = some outcome.datum) ∧
    (∀ outcome other : Outcome, outcome.datum = other.datum → outcome = other) ∧
    (answered.exitCode ≠ 0 → answered.exitCode = 1 ∧ answered.output = []) := by
  intro answered
  refine ⟨?_, fun _ => .rfl, ?_, ?_, ?_, ?_, ?_⟩
  · intro other alike others archives mappings
    exact answerBy_congr fun outcome => comesOut_congr alike archives mappings
  · intro settled other foreign
    exact Settings.loadsAlike_of_settled foreign settled
  · constructor
    · intro code
      by_contra failed
      have other := (answerBy_of_failure (not_exists.mp failed)).1
      rw [show answered.exitCode = 1 from other] at code
      cases code
    · rintro ⟨outcome, well⟩
      simp only [answered, answerBy_of_comesOut well]
  · intro outcome well
    simp only [answered, answerBy_of_comesOut well]
    exact ⟨shown_eq outcome, datum?_shown outcome⟩
  · intro outcome other same
    exact Outcome.datum_injective same
  · intro code
    refine answerBy_of_failure ?_
    intro outcome well
    simp only [answered, answerBy_of_comesOut well, ne_eq, not_true_eq_false] at code

/-! ## Inputs in another order -/

/-- A directory with settings in a foreign format, a header that names a type, an empty archive and
two mapping files. -/
def desk : Directory := fun path =>
  [("suggestion-loader.ini", Utf8.encode "default_namespace=model"),
    ("package.txt", Utf8.encode "template T\n String x\nend"),
    ("types.tar", []),
    ("first.dsl", Utf8.encode "[when]a=b"),
    ("second.dsl", Utf8.encode "[then]c=d")].lookup path

/-- An environment with one setting. -/
def deskEnvironment : Environment :=
  [("SUGGEST_TYPE_RESOURCE_SUFFIX", ".json")]

/-- A reader that takes a foreign text for one line: a name, a sign and a text. -/
def lineReader : Reader :=
  { Reader.plain with
    foreign? := fun _ text =>
      let name := text.toList.takeWhile (· ≠ '=')
      some [(String.ofList name, .text (String.ofList (text.toList.drop (name.length + 1))))] }

theorem settled_desk : Settled lineReader desk deskEnvironment settingsName := by
  have read : (lineReader.fileData desk settingsName).map (·.map Prod.fst) =
      .ok ["default_namespace"] := by
    decide +kernel
  have named : (Settings.environmentData deskEnvironment).map Prod.fst =
      ["type_resource_suffix"] := by
    decide +kernel
  have one : Settings.OneFile desk settingsName := fun _ => by decide +kernel
  refine ⟨one, fun members chosen => ?_, ?_⟩
  · rw [(Settings.fileData_eq_ok_iff one).mpr chosen] at read
    have names : members.map Prod.fst = ["default_namespace"] := Except.ok.inj read
    exact Settings.direct_of_names (by rw [names]; decide)
  · exact Settings.direct_of_names (by rw [named]; decide)

theorem messages_of_desk :
    (build lineReader desk deskEnvironment "package.txt"
        ["types.tar", "first.dsl", "second.dsl"]).map Outcome.messages =
      .ok ["Fact template field type not found: String"] := by
  decide +kernel

/-- The archive may stand before or behind the mapping files, and settings may be met in any order.
The answer is the same, and the message in it does not make it a failure. -/
theorem archive_may_come_later :
    ∃ (outcome : Outcome) (text : List UInt8),
      outcome.messages = ["Fact template field type not found: String"] ∧
      Json.Pretty 0 outcome.datum text ∧
      Json.datum? (text ++ [0x0A]) = some outcome.datum ∧
      ∀ other ∈ [lineReader, lineReader.reversed],
        ∀ arguments ∈ [["types.tar", "first.dsl", "second.dsl"],
          ["first.dsl", "types.tar", "second.dsl"], ["first.dsl", "second.dsl", "types.tar"]],
          let answered := answerBy other desk deskEnvironment ("package.txt" :: arguments)
          answered.exitCode = 0 ∧ answered.output = text ++ [0x0A] := by
  obtain ⟨same, -, alike, zero, printed, -⟩ := mixing_inputs_changes_nothing lineReader desk
    deskEnvironment "package.txt" ["types.tar", "first.dsl", "second.dsl"]
  obtain ⟨outcome, built, messages⟩ := map_eq_ok_iff.mp messages_of_desk
  have well := build_eq_ok_iff.mp built
  obtain ⟨⟨text, output, only⟩, read⟩ := printed outcome well
  refine ⟨outcome, text, messages, (only text).mpr rfl, output ▸ read, ?_⟩
  intro other reads arguments member
  have foreign : other.foreign? = lineReader.foreign? := by
    rcases List.mem_pair.mp reads with rfl | rfl <;> rfl
  obtain ⟨code, bytes⟩ := same other (alike settled_desk other foreign) arguments
    (by revert arguments; decide) (by revert arguments; decide)
  exact ⟨code.trans (zero.mpr ⟨outcome, well⟩), bytes.trans output⟩

end RuleVocabulary.CommandLine
