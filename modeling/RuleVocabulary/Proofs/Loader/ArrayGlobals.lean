import RuleVocabulary.Proofs.ArrayNames
import RuleVocabulary.Proofs.Header.Canonical
import RuleVocabulary.Proofs.Header.Concatenation
import RuleVocabulary.Proofs.Loader.Alike
import RuleVocabulary.Proofs.Loader.Bindings
import RuleVocabulary.Proofs.Loader.History
import RuleVocabulary.Proofs.Registry.Changes

/-!
# Globals that hold arrays

The fields of an array are those of the universal base, so they can be listed whenever the array is
known (`Registry.exists_typeFields_array_iff`), and archives are reached for by an array where they
are by its elements (`Loader.searched_array`). All the same a global of an array may be reported
where one of its elements is not. Imports qualify a name as a whole, and no import has a name with
brackets (`Header.lastNamed?_array`), so the elements are looked up as they are written. Fields that
are known of the elements are not known of the array either.

Main statement: a global of an array goes without a message if fields of that array are known or its
elements are known by the very name that is written. It does so whenever a global of the elements
does, unless they are known through an import, or by fields that were entered before
(`Loader.array_global_is_admitted_iff`).
-/

set_option autoImplicit false

namespace RuleVocabulary

/-! ## Names of arrays in a header -/

theorem Name.short_append_brackets (name : String) : short (name ++ "[]") = short name ++ "[]" := by
  rw [← String.toList_inj, String.toList_append, short, short, String.toList_ofList,
    String.toList_ofList, String.toList_append, shortChars, List.reverse_append]
  simp [shortChars]

theorem Name.short_subset (name : String) : (short name).toList ⊆ name.toList := by
  intro c member
  rw [short, String.toList_ofList, shortChars, List.mem_reverse] at member
  exact List.mem_reverse.mp ((List.takeWhile_sublist _).subset member)

namespace Header

/-- The arrays of a type. -/
def TypeName.array (type : TypeName) : TypeName :=
  { type with dimensions := type.dimensions + 1 }

theorem TypeName.text_array (type : TypeName) : type.array.text = type.text ++ "[]" := by
  rw [← String.toList_inj, String.toList_append]
  simp [TypeName.text, TypeName.chars, TypeName.others, TypeName.array, List.replicate_succ']

/-- What a word can hold is no blank. -/
theorem isBlank_of_isWordPart {c : Char} (part : isWordPart c = true) :
    Text.isBlank c = false := by
  have upper : c.isUpper = true → 65 ≤ c.toNat ∧ c.toNat ≤ 90 := fun is =>
    of_decide_eq_true is
  have lower : c.isLower = true → 97 ≤ c.toNat ∧ c.toNat ≤ 122 := fun is =>
    (Bool.and_eq_true_iff.mp is).imp of_decide_eq_true of_decide_eq_true
  have digit : c.isDigit = true → 48 ≤ c.toNat ∧ c.toNat ≤ 57 := fun is =>
    (Bool.and_eq_true_iff.mp is).imp of_decide_eq_true of_decide_eq_true
  have visible : 36 ≤ c.toNat ∧ c.toNat ≤ 122 := by
    simp only [isWordPart, Char.isAlphanum, Bool.or_eq_true, decide_eq_true_eq] at part
    rcases part with ((letter | number) | rfl) | rfl
    · rcases Bool.or_eq_true_iff.mp letter with large | small
      · have range := upper large
        omega
      · have range := lower small
        omega
    · have range := digit number
      omega
    · decide
    · decide
  simp only [Text.isBlank, Bool.or_eq_false_iff, Bool.and_eq_false_iff, decide_eq_false_iff_not,
    beq_eq_false_iff_ne]
  omega

theorem Word.endsSolid_chars (word : Word) : Text.EndsSolid word.chars := fun c last =>
  isBlank_of_isWordPart (word.isWordPart_of_mem c (List.mem_of_getLast? last))

theorem Word.endsSolid_dotted (words : List Word) : Text.EndsSolid (Word.dotted words) := by
  induction words with
  | nil => exact nofun
  | cons word words ih =>
      exact .append (.append (Text.endsSolid_concat [] rfl) word.endsSolid_chars) ih

/-- The name of a type does not end with a blank. -/
theorem TypeName.endsSolid_text (type : TypeName) : Text.EndsSolid type.text.toList := by
  have brackets : Text.EndsSolid (List.replicate type.dimensions ['[', ']']).flatten := by
    have solid := Name.endsSolid_dimensions type.dimensions
    rwa [Name.dimensions, String.toList_ofList] at solid
  rw [TypeName.text, String.toList_ofList]
  exact .append type.first.endsSolid_chars (.append (Word.endsSolid_dotted type.more) brackets)

/-- No bracket is in the name that an import has. -/
theorem QualifiedName.bracket_not_mem (name : QualifiedName) : ']' ∉ name.text.toList := by
  have solid : ∀ word : Word, ']' ∉ word.chars := by
    intro word member
    have part := word.isWordPart_of_mem ']' member
    cases part
  rw [QualifiedName.text, String.toList_ofList, QualifiedName.chars, QualifiedName.others]
  simp only [List.mem_append, Word.dotted, List.mem_flatMap, List.mem_cons, not_or]
  refine ⟨solid _, ?_, ?_⟩
  · rintro ⟨word, -, dot | inside⟩
    · cases dot
    · exact solid word inside
  · split <;> simp

/-- No type is imported under the name of an array. -/
theorem lastNamed?_array {package : Package} (lexical : package.Lexical) (name : String) :
    Imports.lastNamed? package.imports (name ++ "[]") = none := by
  rw [Imports.lastNamed?, List.find?_eq_none]
  intro target member named
  obtain ⟨written, rfl⟩ := lexical.imports target (List.mem_reverse.mp member)
  obtain ⟨-, short⟩ : _ ∧ Name.short written.text = name ++ "[]" := by
    simpa [Imports.names] using named
  refine written.bracket_not_mem (Name.short_subset written.text ?_)
  rw [short, String.toList_append]
  exact List.mem_append_right _ (by decide)

/-! ## One global more in a header -/

theorem ofText_global (type : TypeName) :
    Reading.ofText ("global " ++ type.text ++ " g;") =
      .ok ⟨⟨none, [], [], [⟨"g", type.text⟩], []⟩, []⟩ := by
  have lexical : (⟨none, [], [], [⟨"g", type.text⟩], []⟩ : Package).Lexical := by
    refine ⟨nofun, nofun, nofun, ?_, nofun⟩
    intro global member
    obtain rfl := List.mem_singleton.mp member
    exact ⟨type, ⟨'g', [], rfl, nofun⟩, rfl⟩
  have read := reading_canonical_of_lexical lexical false
  have canonical : (⟨none, [], [], [⟨"g", type.text⟩], []⟩ : Package).canonical false =
      "global " ++ type.text ++ " g;" := by
    rw [← String.toList_inj]
    simp [Package.canonical, Package.canonicalParts, Global.canonical, spaced, closing]
  rwa [canonical] at read

/-- A header without problems, with one global more on a line of its own. -/
theorem ofText_withGlobal {header : String} {package : Package}
    (read : Reading.ofText header = .ok ⟨package, []⟩) (type : TypeName) :
    Reading.ofText (header ++ "\n;\nglobal " ++ type.text ++ " g;") =
      .ok ⟨package.withGlobal ⟨"g", type.text⟩, []⟩ := by
  obtain ⟨problems, joined, lower⟩ := reading_joined read rfl (ofText_global type)
  cases lower
  have text : header ++ "\n;\nglobal " ++ type.text ++ " g;" =
      header ++ "\n;\n" ++ ("global " ++ type.text ++ " g;") := by
    rw [← String.toList_inj]
    simp
  have both : package.followedBy ⟨none, [], [], [⟨"g", type.text⟩], []⟩ =
      package.withGlobal ⟨"g", type.text⟩ := by
    simp [Package.followedBy, Package.withGlobal]
  rw [Reading.ofText, text, toList_joined, joined, both]

end Header

/-! ## Fields of arrays -/

namespace Registry

variable {registry : Registry}

/-- The universal base is known as the table of ambient types has it. -/
def Based (registry : Registry) : Prop :=
  registry.ambient[universalBase]? = some Ambient.base

theorem based_changed (settings : Settings) (changes : List Change) :
    ((ofSettings settings).changed changes).Based := by
  rw [Based, (reflects_changed settings changes).ambient, List.find?_append]
  rfl

theorem Based.lookup (based : registry.Based) :
    registry.lookup universalBase = .ok (some Ambient.base) := by
  rw [lookup_plain (by decide), lookupPlain, based]

/-- The fields of an array are those of the universal base, and can always be listed. -/
theorem exists_fields_array (based : registry.Based) (settings : Settings) (name : String) :
    ∃ fields, Inspection.fields registry settings (.bare (name ++ "[]") .array) = .ok fields := by
  have base : ∀ fuel, ∃ after, Inspection.survey registry (fuel + 1) [name ++ "[]"] Ambient.base
      ⟨[], []⟩ = .ok after := by
    intro fuel
    have new : Ambient.base.name ∉ [name ++ "[]"] := fun same =>
      Name.append_brackets_ne_universalBase name (List.mem_singleton.mp same).symm
    rw [Inspection.survey_succ, if_neg new, if_neg List.not_mem_nil]
    exact ⟨_, rfl⟩
  have array : ∀ fuel, ∃ after, Inspection.survey registry (fuel + 2) []
      (.bare (name ++ "[]") .array) ⟨[], []⟩ = .ok after := by
    intro fuel
    obtain ⟨after, surveyed⟩ := base fuel
    have inherited : Inspection.surveyParent registry (fuel + 1) [] (.bare (name ++ "[]") .array)
        ⟨[], []⟩ universalBase = .ok after := by
      rw [Inspection.surveyParent, Inspection.parent, based.lookup]
      exact surveyed
    have own : Inspection.surveyOwn (.bare (name ++ "[]") .array) ⟨[], []⟩ = ⟨[], []⟩ := rfl
    rw [Inspection.survey_succ, if_neg List.not_mem_nil, if_neg List.not_mem_nil,
      Descriptor.allSupertypes_array, own, List.foldlM_cons, inherited]
    exact ⟨_, rfl⟩
  obtain ⟨after, surveyed⟩ := array (registry.ambient.size + registry.resources.size + 1)
  rw [Inspection.fields, show registry.height = _ + 2 from rfl, surveyed]
  exact ⟨_, rfl⟩

theorem exists_typeFields_array_iff (based : registry.Based) {settings : Settings} {name : String}
    (solid : Text.EndsSolid name.toList) :
    (∃ found, Loader.typeFields registry settings (name ++ "[]") = .ok (some found)) ↔
      ∃ type, registry.lookup name = .ok (some type) := by
  obtain ⟨fields, listed⟩ := exists_fields_array based settings name
  rw [Loader.typeFields, lookup_append_brackets solid]
  rcases registry.lookup name with fault | _ | type
  · simp [Except.map]
  · simp [Except.map]
  · simp [Except.map, listed]

end Registry

namespace Loader

variable {loader : Loader} {archives : List Archive} {name : String}

/-- A search reaches for the archives where it finds nothing, whatever it looks for. -/
theorem searched_congr {find other : Registry → Except Fault (Option Descriptor)}
    (alike : find loader.registry = .ok none ↔ other loader.registry = .ok none) :
    loader.searched archives find = loader.searched archives other := by
  by_cases miss : find loader.registry = .ok none
  · rw [searched_of_miss miss, searched_of_miss (alike.mp miss)]
  · rw [searched_of_hit miss, searched_of_hit (alike.not.mp miss)]

/-- A search for an array reaches for the archives where one for its elements does. -/
theorem searched_array (solid : Text.EndsSolid name.toList) :
    loader.searched archives (·.lookup (name ++ "[]")) =
      loader.searched archives (·.lookup name) :=
  searched_congr (Registry.lookup_append_brackets_eq_none_iff solid)

/-- A loader knows the universal base for ever, whatever registry it begins with. -/
theorem based_after (settings stored : Settings) (changes : List Registry.Change)
    (calls : List Call) :
    (after ⟨settings, (Registry.ofSettings stored).changed changes, .fresh, .empty⟩
      calls).registry.Based := by
  have same := congrArg Registry.ambient (clear_after ⟨settings,
    (Registry.ofSettings stored).changed changes, .fresh, .empty⟩ calls)
  simp only [Registry.clear] at same
  rw [Registry.Based, same]
  exact Registry.based_changed stored changes

theorem based_of_advance {after : Loader} (advance : Advance archives loader after)
    (based : loader.registry.Based) : after.registry.Based := by
  have same := congrArg Registry.ambient (clear_of_advance advance)
  simp only [Registry.clear] at same
  rwa [Registry.Based, same]

theorem based_of_searched {after : Loader} {find : Registry → Except Fault (Option Descriptor)}
    (done : loader.searched archives find = .ok after) (based : loader.registry.Based) :
    after.registry.Based := by
  rcases searched_cases done with rfl | ⟨-, -, entries, -, rfl⟩
  · exact based
  · exact based

/-- A type is loaded if the registry that the search for it leaves knows it. -/
theorem exists_loadType_iff (archives : List Archive) (name : String) {progress : Progress}
    (same : progress.loader.cleared = loader.cleared) :
    (∃ type, (loadType archives name progress).1 = .ok (some type)) ↔
      ∃ after type, loader.searched archives (·.lookup name) = .ok after ∧
        after.registry.lookup name = .ok (some type) := by
  rw [loadType, search_eq, eq_drafted_of_cleared same, searched_drafted]
  cases loader.searched archives (·.lookup name) with
  | error fault => simp [Except.map]
  | ok after =>
      have kept : (after.drafted progress.loader.draft).registry = after.registry := rfl
      rcases looked : after.registry.lookup name with fault | _ | type
      · simp [Except.map, kept, looked]
      · simp [Except.map, kept, looked]
      · simp [Except.map, kept, looked]

/-! ## One global more -/

/-- Whether a header is built with one more global of the given type, without a message more. -/
def Admits (loader : Loader) (header : String) (archives : List Archive)
    (files : List Mapping.File) (typeName : String) : Prop :=
  ∃ outcome more, (loader.build header archives files).1 = .ok outcome ∧
    (loader.build (header ++ "\n;\nglobal " ++ typeName ++ " g;") archives files).1 = .ok more ∧
    more.messages.length ≤ outcome.messages.length

section Admitted

variable {header : String} {package : Header.Package} {files : List Mapping.File}
  {final : Progress}

theorem declared_of_clear (read : Header.Reading.ofText header = .ok ⟨package, []⟩) :
    declared header = .ok ⟨package, []⟩ := by
  by_cases blank : Text.trim header.toList = []
  · obtain rfl := Header.package_of_blank blank read
    exact declared_of_blank blank
  · rw [declared_of_written blank, read]

/-- One global more is admitted if it can be entered behind the others and reports nothing. -/
theorem admits_iff_enters (read : Header.Reading.ofText header = .ok ⟨package, []⟩)
    (done : entered loader archives ⟨package, []⟩ = (.ok (), final)) (type : Header.TypeName) :
    loader.Admits header archives files type.text ↔
      ∃ after, enterGlobal (packageScope loader.settings package) archives ⟨"g", type.text⟩ final =
          (.ok (), after) ∧
        globalReport (packageScope loader.settings package) ⟨final, ⟨"g", type.text⟩, after⟩ =
          [] := by
  have plain := build_of_entered (declared_of_clear read) done files
  have longer := declared_of_clear (Header.ofText_withGlobal read type)
  have entering := entered_withGlobal done ⟨"g", type.text⟩
  rw [← enterGlobal_eq] at entering
  constructor
  · rintro ⟨outcome, more, built, bound, fewer⟩
    rw [plain] at built
    cases built
    obtain ⟨reading, after, again, entered, rfl⟩ := entered_of_build bound
    rw [longer] at again
    cases again
    rw [entering] at entered
    refine ⟨after, entered, ?_⟩
    simp only [messages_of_enterGlobal _ _ _ entered, List.length_append] at fewer
    exact List.eq_nil_of_length_eq_zero (by omega)
  · rintro ⟨after, entered, silent⟩
    refine ⟨_, _, congrArg Prod.fst plain,
      congrArg Prod.fst (build_of_entered longer (entering.trans entered) files), ?_⟩
    simp only [messages_of_enterGlobal _ _ _ entered, silent, List.append_nil, le_refl]

/-- One global more is admitted if fields are known under the name of its type, or it is found and
its fields can be listed. -/
theorem admits_iff (read : Header.Reading.ofText header = .ok ⟨package, []⟩)
    (done : entered loader archives ⟨package, []⟩ = (.ok (), final)) (files : List Mapping.File)
    {type : Header.TypeName} {name : String}
    (named : (Imports.lastNamed? package.imports type.text).getD type.text = name) :
    loader.Admits header archives files type.text ↔
      final.vocabulary.hasFields (Name.short name) = true ∨
        ∃ after found, final.loader.searched archives (·.lookup name) = .ok after ∧
          typeFields after.registry after.settings name = .ok (some found) := by
  have qualified : (packageScope loader.settings package).qualify type.text = name := by
    rw [Scope.qualify, packageScope, Imports.qualified?_ofTargets, named]
  have short : Item.globalType (packageScope loader.settings package) ⟨"g", type.text⟩ =
      Name.short name := congrArg Name.short qualified
  simp only [admits_iff_enters read done, globalReport_eq_nil_iff, enterGlobal_eq, short, qualified]
  by_cases known : final.vocabulary.hasFields (Name.short name) = true
  · have unsought : (Item.bound ⟨"g", type.text⟩).find? (packageScope loader.settings package)
        final.loader.draft = none := if_pos (by rwa [short])
    exact iff_of_true ⟨_, enterItem_of_unsought unsought, .inl known⟩ (.inl known)
  · have find : (Item.bound ⟨"g", type.text⟩).find? (packageScope loader.settings package)
        final.loader.draft = some (·.lookup name) := by
      rw [Item.find?, short, qualified]
      exact if_neg known
    have sought : searchedFor (packageScope loader.settings package) archives final.loader
        (.bound ⟨"g", type.text⟩) = final.loader.searched archives (·.lookup name) := by
      simp only [searchedFor, find]
    simp only [or_iff_right known]
    constructor
    · rintro ⟨after, entered, found, listed⟩
      obtain ⟨left, searched, rfl⟩ := enterItem_eq_ok entered
      exact ⟨left, found, sought.symm.trans searched, listed⟩
    · rintro ⟨left, found, searched, listed⟩
      have entered : enterItem (packageScope loader.settings package) archives
          (.bound ⟨"g", type.text⟩) final = (.ok (), { final with loader := left }.add
            ((Item.bound ⟨"g", type.text⟩).contribution (packageScope loader.settings package)
              left)) := by
        rw [enterItem, sought, searched]
      exact ⟨_, entered, found, listed⟩

end Admitted

/-- An array is found with its fields where its elements are found. -/
theorem exists_array_iff (based : loader.registry.Based) (solid : Text.EndsSolid name.toList) :
    (∃ after found, loader.searched archives (·.lookup (name ++ "[]")) = .ok after ∧
        typeFields after.registry after.settings (name ++ "[]") = .ok (some found)) ↔
      ∃ after type, loader.searched archives (·.lookup name) = .ok after ∧
        after.registry.lookup name = .ok (some type) := by
  rw [searched_array solid]
  simp only [exists_and_left]
  refine exists_congr fun after => and_congr_right fun searched => ?_
  exact Registry.exists_typeFields_array_iff (based_of_searched searched based) solid

/-- **Globals of arrays.** A header without problems, of whatever loader, admits a global of an
array if fields are known under the short name of the array, or the registry or the archives know
the elements by the name that is written. It does so whenever it admits a global of the elements,
unless they are known by an import of their name, or by fields that were entered before. -/
theorem array_global_is_admitted_iff (settings stored : Settings) (changes : List Registry.Change)
    (calls : List Call) (header : String) (archives : List Archive) (files : List Mapping.File)
    (type : Header.TypeName) :
    let loader : Loader :=
      after ⟨settings, (Registry.ofSettings stored).changed changes, .fresh, .empty⟩ calls
    ∀ package outcome left, Header.Reading.ofText header = .ok ⟨package, []⟩ →
      loader.build header archives files = (.ok outcome, left) →
      (loader.Admits header archives files (type.text ++ "[]") ↔
        outcome.vocabulary.hasFields (Name.short type.text ++ "[]") = true ∨
          ∃ found, (loadType archives type.text (.start left)).1 = .ok (some found)) ∧
      (loader.Admits header archives files type.text →
        (Imports.lastNamed? package.imports type.text).getD type.text = type.text →
        outcome.vocabulary.hasFields (Name.short type.text) = false →
        loader.Admits header archives files (type.text ++ "[]")) := by
  intro loader package outcome left read built
  obtain ⟨reading, final, clear, done, -⟩ := entered_of_build (congrArg Prod.fst built)
  rw [declared_of_clear read] at clear
  cases clear
  have plain := build_of_entered (declared_of_clear read) done files
  rw [built] at plain
  cases plain
  have solid := type.endsSolid_text
  have based : final.loader.registry.Based := by
    have advance := @advance_entered archives loader ⟨package, []⟩
    rw [done] at advance
    exact based_of_advance advance (based_after settings stored changes calls)
  have fields : ∀ name, (enterSentences files final.vocabulary).hasFields name =
      final.vocabulary.hasFields name := by
    intro name
    rw [enterSentences_eq]
    rfl
  have loaded := @exists_loadType_iff final.loader archives type.text
    (.start (final.edit (enterSentences files)).loader) rfl
  have unnamed : (Imports.lastNamed? package.imports type.array.text).getD type.array.text =
      type.text ++ "[]" := by
    rw [Header.TypeName.text_array, Header.lastNamed?_array (Header.lexical_of_reading read)]
    rfl
  have array := admits_iff read done files unnamed
  rw [Header.TypeName.text_array, Name.short_append_brackets, exists_array_iff based solid] at array
  rw [fields, fields, array, loaded]
  refine ⟨Iff.rfl, fun admitted asWritten unknown => .inr ?_⟩
  rw [admits_iff read done files asWritten] at admitted
  obtain known | ⟨after, found, searched, listed⟩ := admitted
  · rw [unknown] at known
    cases known
  · rw [typeFields] at listed
    rcases looked : after.registry.lookup type.text with fault | _ | known
    · simp [looked] at listed
    · simp [looked] at listed
    · exact ⟨after, known, searched, looked⟩

/-- A type that is known by its import. A global of it is admitted, and one of its arrays is not. -/
theorem array_of_imported_type_is_reported :
    let loader : Loader := after ⟨.default, (Registry.ofSettings .default).changed
      [.define ⟨"a.T", .classType, [], [⟨"x", "int"⟩]⟩], .fresh, .empty⟩ []
    loader.Admits "import a.T;" [] [] "T" ∧ ¬ loader.Admits "import a.T;" [] [] "T[]" ∧
      (loader.build "import a.T;\n;\nglobal T[] g;" [] []).1.map Outcome.messages =
        .ok ["Class not found: T[]"] := by
  intro loader
  let type : Header.TypeName := ⟨⟨'T', [], rfl, nofun⟩, [], 0⟩
  have read : Header.Reading.ofText "import a.T;" = .ok ⟨⟨none, ["a.T"], [], [], []⟩, []⟩ := by
    decide +kernel
  obtain ⟨silent, bound, missing, reported⟩ :
      (loader.build "import a.T;" [] []).1.map
          (fun outcome => (outcome.messages, outcome.vocabulary.hasFields "T[]")) =
        .ok ([], false) ∧
      (loader.build "import a.T;\n;\nglobal T g;" [] []).1.map Outcome.messages = .ok [] ∧
      (loadType [] "T" (.start (loader.build "import a.T;" [] []).2)).1 = .ok none ∧
      (loader.build "import a.T;\n;\nglobal T[] g;" [] []).1.map Outcome.messages =
        .ok ["Class not found: T[]"] := by
    decide +kernel
  rcases built : loader.build "import a.T;" [] [] with ⟨fault | outcome, left⟩
  · rw [built] at silent
    cases silent
  · rw [built] at silent missing
    have unknown : outcome.vocabulary.hasFields (Name.short "T" ++ "[]") = false :=
      congrArg Prod.snd (Except.ok.inj silent)
    have arrays := (array_global_is_admitted_iff .default .default
      [.define ⟨"a.T", .classType, [], [⟨"x", "int"⟩]⟩] [] "import a.T;" [] [] type
      _ outcome left read built).1
    have text : type.text = "T" := rfl
    rw [text] at arrays
    refine ⟨?_, ?_, reported⟩
    · cases again : (loader.build "import a.T;\n;\nglobal T g;" [] []).1 with
      | error fault =>
          rw [again] at bound
          cases bound
      | ok more =>
          rw [again] at bound
          have fewer : more.messages.length ≤ outcome.messages.length := by
            rw [show more.messages = [] from Except.ok.inj bound]
            exact Nat.zero_le _
          exact ⟨outcome, more, by rw [built], again, fewer⟩
    · intro admitted
      rcases arrays.mp admitted with known | ⟨found, loaded⟩
      · rw [unknown] at known
        cases known
      · rw [missing] at loaded
        cases loaded

end Loader

end RuleVocabulary
