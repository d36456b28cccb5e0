import Mathlib.Data.List.TakeWhile
import RuleVocabulary.Proofs.Answer
import RuleVocabulary.Proofs.Table
import RuleVocabulary.Settings.Sources

/-!
# What loading settings makes of their sources

**Names and paths.** The names in a source are paths, and every path begins with a member
(`exists_path_eq_cons`). So a setting is changed by the names that enter it and by no others, and
where only its own name enters it, it is what the source has under that name (`lookup_assignAll`).

**The file.** Settings are read from a file with one of the extensions, or from one of the very name
(`SettingsFile`). If there is at most one with an extension, what is loaded of it is what it holds,
whichever extension is tried first (`fileData_eq_ok_iff`).

**Settled sources.** Sources are settled if there is at most one settings file, and if no name in
them enters a setting but the setting's own name (`Settled`). Then each setting is what the last
variable for it chooses, else what the file chooses, else its default
(`load_eq_ok_iff_of_settled`), and all readers that agree on foreign formats load the same
(`loadsAlike_of_settled`). The condition is needed: where names collide, the order counts in which
they are met (`order_counts`).
-/

set_option autoImplicit false

namespace RuleVocabulary

/-! ## Names that enter a member -/

namespace Datum

/-- Every path begins with a member. -/
theorem exists_path_eq_cons (name : String) :
    ∃ first rest, path name = .member first :: rest := by
  unfold path
  cases read : steps? ('.' :: name.toList) with
  | none => exact ⟨name, [], rfl⟩
  | some steps =>
      rw [steps?] at read
      split at read
      · cases read
      · obtain ⟨rest, -, rfl⟩ := Option.map_eq_some_iff.mp read
        exact ⟨_, rest, rfl⟩

/-- A name without any other characters stands for itself. -/
theorem path_of_isNameChar {name : String} (plain : ∀ c ∈ name.toList, isNameChar c = true) :
    path name = [.member name] := by
  rw [path, steps?, List.takeWhile_eq_self_iff.mpr plain, List.dropWhile_eq_nil_iff.mpr plain,
    steps?]
  split
  · rfl
  · simp

/-- Whether a name stands for a member of a table or for something in it. -/
def Enters (name target : String) : Prop :=
  (path name).head? = some (.member target)

theorem assignAll_cons (member : String × Datum) (members : List (String × Datum))
    (old : Datum) :
    assignAll (member :: members) old = assignAll members (assign member.2 (path member.1) old) :=
  rfl

theorem assignAll_append (members others : List (String × Datum)) (old : Datum) :
    assignAll (members ++ others) old = assignAll others (assignAll members old) :=
  List.foldl_append

/-- A member that is entered by its own name alone is what stands under that name. -/
theorem lookup_assignAll {target : String} (own : path target = [.member target])
    {members : List (String × Datum)} (distinct : (members.map Prod.fst).Nodup)
    (direct : ∀ member ∈ members, Enters member.1 target → member.1 = target) (old : Datum) :
    (assignAll members old).members.lookup target =
      (members.lookup target).or (old.members.lookup target) := by
  induction members generalizing old with
  | nil => rfl
  | cons member members ih =>
      obtain ⟨name, datum⟩ := member
      rw [List.map_cons, List.nodup_cons] at distinct
      rw [assignAll_cons, ih distinct.2 fun member inside => direct member (.tail _ inside)]
      by_cases same : name = target
      · subst same
        -- names are distinct, so nothing behind this member replaces it
        have single : members.lookup name = none := by
          rw [List.lookup_eq_none_iff]
          intro member inside
          rw [bne_iff_ne]
          rintro rfl
          exact distinct.1 (List.mem_map.mpr ⟨member, inside, rfl⟩)
        rw [single, own, lookup_assign_member, List.lookup_cons_self]
        rfl
      · -- the path leads elsewhere, because only the target's own name enters the target
        obtain ⟨first, rest, steps⟩ := exists_path_eq_cons name
        have other : target ≠ first := by
          rintro rfl
          exact same (direct _ (.head _) (by rw [Enters, steps]; rfl))
        rw [steps, lookup_assign_of_ne other, List.lookup_cons, beq_false_of_ne (Ne.symm same)]

end Datum

namespace Settings

/-! ## Choices -/

/-- The names of the settings. -/
def names : List String :=
  ["default_namespace", "primitive_types", "ignored_members", "type_resource_suffix"]

theorem choice_eq_ok_iff {α : Type} {chosen : String → Option Datum} {name : String}
    {value? : Datum → Option α} {default value : α} :
    choice chosen name value? default = .ok value ↔
      (chosen name).elim (some default) value? = some value := by
  unfold choice
  cases chosen name with
  | none => simp
  | some datum => cases read : value? datum <;> simp [read]

/-- Whether settings are what was chosen, and the default ones where nothing was. -/
structure Chosen (chosen : String → Option Datum) (settings : Settings) : Prop where
  defaultNamespace : (chosen "default_namespace").elim (some default.defaultNamespace)
    Datum.text? = some settings.defaultNamespace
  primitiveTypes : (chosen "primitive_types").elim (some default.primitiveTypes)
    Datum.texts? = some settings.primitiveTypes
  ignoredMembers : (chosen "ignored_members").elim (some default.ignoredMembers)
    Datum.texts? = some settings.ignoredMembers
  resourceSuffix : (chosen "type_resource_suffix").elim (some default.resourceSuffix)
    Datum.text? = some settings.resourceSuffix

theorem ofChoices_eq_ok_iff {chosen : String → Option Datum} {settings : Settings} :
    ofChoices chosen = .ok settings ↔ Chosen chosen settings := by
  simp only [ofChoices, bind_eq_ok_iff, choice_eq_ok_iff]
  constructor
  · rintro ⟨_, space, _, primitive, _, ignored, _, suffix, made⟩
    obtain rfl := Except.ok.inj made
    exact ⟨space, primitive, ignored, suffix⟩
  · rintro ⟨space, primitive, ignored, suffix⟩
    exact ⟨_, space, _, primitive, _, ignored, _, suffix, rfl⟩

/-- Only the choices for settings count. -/
theorem chosen_congr {chosen other : String → Option Datum} {settings : Settings}
    (same : ∀ setting ∈ names, chosen setting = other setting) :
    Chosen chosen settings ↔ Chosen other settings := by
  have space := same "default_namespace" (by decide)
  have primitive := same "primitive_types" (by decide)
  have ignored := same "ignored_members" (by decide)
  have suffix := same "type_resource_suffix" (by decide)
  constructor
  · rintro ⟨first, second, third, fourth⟩
    exact ⟨space ▸ first, primitive ▸ second, ignored ▸ third, suffix ▸ fourth⟩
  · rintro ⟨first, second, third, fourth⟩
    exact ⟨space ▸ first, primitive ▸ second, ignored ▸ third, suffix ▸ fourth⟩

/-! ## Variables -/

theorem nodup_environmentData (environment : Environment) :
    ((environmentData environment).map Prod.fst).Nodup :=
  Table.nodup_collect _

/-- What an environment sets a target to. Of the variables with that target the last one counts. -/
def variableFor? (environment : Environment) (target : String) : Option Datum :=
  ((environment.filter (variableTarget? ·.1 = some target)).getLast?).map
    (variableDatum target ·.2)

theorem lookup_environmentData (environment : Environment) (target : String) :
    (environmentData environment).lookup target = variableFor? environment target := by
  rw [environmentData, Table.lookup_collect, variableFor?]
  induction environment using List.reverseRecOn with
  | nil => rfl
  | append_singleton environment entry ih =>
      simp only [List.filterMap_append, List.filter_append]
      cases found : variableTarget? entry.1 with
      | none => simpa [variableMember?, found] using ih
      | some other =>
          by_cases same : other = target
          · subst same
            simp [variableMember?, found]
          · simpa [variableMember?, found, same] using ih

/-! ## Direct sources -/

theorem path_of_mem_names {setting : String} (known : setting ∈ names) :
    Datum.path setting = [.member setting] := by
  have plain : (names.all fun setting => setting.toList.all Datum.isNameChar) = true := by
    decide +kernel
  exact Datum.path_of_isNameChar (List.all_eq_true.mp (List.all_eq_true.mp plain setting known))

/-- Whether only its own name enters a setting. -/
def Direct (members : List (String × Datum)) : Prop :=
  ∀ member ∈ members, ∀ setting ∈ names, Datum.Enters member.1 setting → member.1 = setting

/-- Names of settings enter no setting but their own. -/
theorem direct_of_names {members : List (String × Datum)}
    (known : ∀ name ∈ members.map Prod.fst, name ∈ names) : Direct members := by
  intro member inside setting _ enters
  rw [Datum.Enters, path_of_mem_names (known _ (List.mem_map_of_mem inside))] at enters
  exact Datum.Step.member.inj (Option.some.inj enters)

/-! ## The file -/

/-- Whether there is at most one file with the name of settings and an extension. It does not
matter if there is a file of just that name. -/
def OneFile (directory : Directory) (name : String) : Prop :=
  directory name = none → ∀ first ∈ Format.extensions, ∀ second ∈ Format.extensions,
    (directory (name ++ "." ++ first.1)).isSome → (directory (name ++ "." ++ second.1)).isSome →
      first = second

/-- Whether a file, or none, is the one that settings are read from: a file of the very name if
there is one, and else one with an extension, which tells its format. -/
inductive SettingsFile (directory : Directory) (name : String) :
    Option (Format × List UInt8) → Prop where
  | missing (absent : directory name = none)
      (nowhere : ∀ entry ∈ Format.extensions, directory (name ++ "." ++ entry.1) = none) :
      SettingsFile directory name none
  | extended {entry : String × Format} {bytes : List UInt8} (absent : directory name = none)
      (known : entry ∈ Format.extensions)
      (held : directory (name ++ "." ++ entry.1) = some bytes) :
      SettingsFile directory name (some (entry.2, bytes))
  | named {bytes : List UInt8} (held : directory name = some bytes) :
      SettingsFile directory name
        (((Directory.extension? name).bind (Format.extensions.lookup ·)).map (·, bytes))

/-- Whether members are what a file holds, the last ones of each name. No file holds nothing. -/
def FileMembers (reader : Reader) :
    Option (Format × List UInt8) → List (String × Datum) → Prop
  | none, members => members = []
  | some (format, bytes), members =>
    ∃ read, reader.members? format (withoutMark bytes) = some read ∧ members = Table.collect read

/-- Whether members are what the settings file of a name chooses. -/
def FileChooses (reader : Reader) (directory : Directory) (name : String)
    (members : List (String × Datum)) : Prop :=
  ∃ file, SettingsFile directory name file ∧ FileMembers reader file members

section Files

variable {reader other : Reader} {directory : Directory} {name : String}

/-- A file is found where the rule allows it, whichever extension is tried first. -/
theorem settingsFile_file? (reader : Reader) (directory : Directory) (name : String) :
    SettingsFile directory name (reader.file? directory name) := by
  unfold Reader.file?
  cases held : directory name with
  | some bytes => exact .named held
  | none =>
      show SettingsFile directory name (reader.extensions.findSome? _)
      cases found : reader.extensions.findSome? fun entry =>
          (directory (name ++ "." ++ entry.1)).map (entry.2, ·) with
      | none =>
          refine .missing held fun entry known => ?_
          have nothing := List.findSome?_eq_none_iff.mp found entry
            (reader.extensions_perm.mem_iff.mpr known)
          exact Option.map_eq_none_iff.mp nothing
      | some file =>
          obtain ⟨entry, tried, gives⟩ := List.exists_of_findSome?_eq_some found
          obtain ⟨bytes, there, rfl⟩ := Option.map_eq_some_iff.mp gives
          exact .extended held (reader.extensions_perm.mem_iff.mp tried) there

/-- The rule allows one file if there is one at most with an extension. -/
theorem SettingsFile.unique (one : OneFile directory name)
    {file another : Option (Format × List UInt8)} (here : SettingsFile directory name file)
    (there : SettingsFile directory name another) : file = another := by
  cases here with
  | missing absent nowhere =>
      cases there with
      | missing => rfl
      | extended _ known held => cases (nowhere _ known).symm.trans held
      | named held => cases absent.symm.trans held
  | @extended entry bytes absent known held =>
      cases there with
      | missing _ nowhere => cases (nowhere _ known).symm.trans held
      | @extended other more _ alsoKnown alsoHeld =>
          obtain rfl := one absent _ known _ alsoKnown (by rw [held]; rfl) (by rw [alsoHeld]; rfl)
          rw [Option.some.inj (held.symm.trans alsoHeld)]
      | named held => cases absent.symm.trans held
  | named held =>
      cases there with
      | missing absent => cases absent.symm.trans held
      | extended absent => cases absent.symm.trans held
      | named alsoHeld => rw [Option.some.inj (held.symm.trans alsoHeld)]

/-- What is loaded of the file is what it chooses. -/
theorem fileData_eq_ok_iff (one : OneFile directory name) {members : List (String × Datum)} :
    reader.fileData directory name = .ok members ↔ FileChooses reader directory name members := by
  have file := settingsFile_file? reader directory name
  have only : FileChooses reader directory name members ↔
      FileMembers reader (reader.file? directory name) members := by
    constructor
    · rintro ⟨another, allowed, chosen⟩
      rwa [file.unique one allowed]
    · intro chosen
      exact ⟨_, file, chosen⟩
  rw [only, Reader.fileData]
  cases reader.file? directory name with
  | none =>
      show Except.ok [] = Except.ok members ↔ members = []
      rw [Except.ok.injEq, eq_comm]
  | some found =>
      obtain ⟨format, bytes⟩ := found
      simp only [FileMembers]
      cases reader.members? format (withoutMark bytes) with
      | none => exact iff_of_false nofun nofun
      | some read => simp [eq_comm]

theorem nodup_of_fileChooses {members : List (String × Datum)}
    (chosen : FileChooses reader directory name members) : (members.map Prod.fst).Nodup := by
  obtain ⟨file, -, held⟩ := chosen
  cases file with
  | none =>
      rw [show members = [] from held]
      exact List.nodup_nil
  | some file =>
      obtain ⟨read, -, rfl⟩ := held
      exact Table.nodup_collect read

/-- Readers that agree on foreign formats find the same in a file. -/
theorem fileChooses_congr (foreign : other.foreign? = reader.foreign?)
    {members : List (String × Datum)} :
    FileChooses other directory name members ↔ FileChooses reader directory name members := by
  have read : other.members? = reader.members? := by
    funext format bytes
    cases format <;> simp only [Reader.members?, foreign]
  refine exists_congr fun file => and_congr_right fun _ => ?_
  cases file with
  | none => rfl
  | some file => simp only [FileMembers, read]

end Files

/-! ## Settled sources -/

/-- Whether no order is left open that the sources of settings depend on. -/
structure Settled (reader : Reader) (directory : Directory) (environment : Environment)
    (name : String) : Prop where
  oneFile : OneFile directory name
  direct_file : ∀ members, FileChooses reader directory name members → Direct members
  direct_environment : Direct (environmentData environment)

/-- Whether two readers load the same settings, if any. -/
def LoadsAlike (reader other : Reader) (directory : Directory) (environment : Environment)
    (name : String) : Prop :=
  ∀ settings, other.load directory environment name = .ok settings ↔
    reader.load directory environment name = .ok settings

/-- What is chosen for a setting by an environment or else by a file. -/
def environmentFirst (file : List (String × Datum)) (environment : Environment)
    (setting : String) : Option Datum :=
  (variableFor? environment setting).or (file.lookup setting)

section Loading

variable {reader other : Reader} {directory : Directory} {environment : Environment}
  {name : String}

/-- What is met of a source, in any order, sets a setting to what the source has under its name. -/
theorem lookup_assignAll_order (reader : Reader) (source : Source)
    {members : List (String × Datum)} (distinct : (members.map Prod.fst).Nodup)
    (direct : Direct members) {setting : String} (known : setting ∈ names) (old : Datum) :
    (Datum.assignAll (reader.order source members) old).members.lookup setting =
      (members.lookup setting).or (old.members.lookup setting) := by
  have perm := reader.order_perm source members
  rw [Datum.lookup_assignAll (path_of_mem_names known) ((perm.map Prod.fst).nodup_iff.mpr distinct)
    (fun member met => direct member (perm.mem_iff.mp met) setting known),
    Table.lookup_perm perm distinct]

/-- What is met of both sources sets a setting to what the environment chooses, else the file. -/
theorem lookup_met (reader : Reader) {file : List (String × Datum)}
    (distinct : (file.map Prod.fst).Nodup) (direct : Direct file)
    (direct_environment : Direct (environmentData environment)) {setting : String}
    (known : setting ∈ names) :
    (Datum.assignAll
        (reader.order .file file ++ reader.order .environment (environmentData environment))
        (.table [])).members.lookup setting =
      environmentFirst file environment setting := by
  rw [Datum.assignAll_append,
    lookup_assignAll_order reader .environment (nodup_environmentData environment)
      direct_environment known,
    lookup_assignAll_order reader .file distinct direct known, lookup_environmentData,
    environmentFirst]
  simp [Datum.members]

/-- **Settled sources make one choice.** Each setting is what the environment chooses, else what the
file chooses, else its default. -/
theorem load_eq_ok_iff_of_settled (settled : Settled reader directory environment name)
    {settings : Settings} :
    reader.load directory environment name = .ok settings ↔
      ∃ file, FileChooses reader directory name file ∧
        Chosen (environmentFirst file environment) settings := by
  simp only [Reader.load, bind_eq_ok_iff, fileData_eq_ok_iff settled.oneFile, ofChoices_eq_ok_iff]
  refine exists_congr fun file => and_congr_right fun chosen => ?_
  exact chosen_congr fun setting known => lookup_met reader (nodup_of_fileChooses chosen)
    (settled.direct_file file chosen) settled.direct_environment known

/-- **The order does not count where sources are settled.** Readers that agree on foreign formats
load the same from them. -/
theorem loadsAlike_of_settled (foreign : other.foreign? = reader.foreign?)
    (settled : Settled reader directory environment name) :
    LoadsAlike reader other directory environment name := by
  have alsoSettled : Settled other directory environment name :=
    ⟨settled.oneFile,
      fun members chosen => settled.direct_file members ((fileChooses_congr foreign).mp chosen),
      settled.direct_environment⟩
  intro settings
  rw [load_eq_ok_iff_of_settled settled, load_eq_ok_iff_of_settled alsoSettled]
  exact exists_congr fun file => and_congr_left fun _ => fileChooses_congr foreign

end Loading

/-- A reader that meets everything in the opposite order. -/
def Reader.reversed (reader : Reader) : Reader where
  foreign? := reader.foreign?
  extensions := reader.extensions.reverse
  extensions_perm := (List.reverse_perm _).trans reader.extensions_perm
  order source members := (reader.order source members).reverse
  order_perm source members := (List.reverse_perm _).trans (reader.order_perm source members)

/-- Variables for a setting and for something in it. -/
def colliding : Environment :=
  [("SUGGEST_DEFAULT_NAMESPACE", "a"), ("SUGGEST_DEFAULT_NAMESPACE.X", "b")]

/-- Where one name stands for a setting and another enters it, the order counts: what comes later
replaces what came before, and nothing is loaded if that is no text. -/
theorem order_counts : ¬ LoadsAlike .plain Reader.plain.reversed .empty colliding "settings" := by
  intro alike
  have fails : load .empty colliding "settings" =
      .error (.config "invalid value for default_namespace") := by
    decide +kernel
  have loads : Reader.plain.reversed.load .empty colliding "settings" =
      .ok { default with defaultNamespace := "a" } := by
    decide +kernel
  cases fails.symm.trans ((alike _).mp loads)

end Settings

end RuleVocabulary
