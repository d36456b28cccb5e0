import RuleVocabulary.Proofs.Header.Blank
import RuleVocabulary.Proofs.Imports
import RuleVocabulary.Proofs.Loader.Account
import RuleVocabulary.Proofs.Loader.Frame
import RuleVocabulary.Proofs.Loader.Listing

/-!
# Bindings of globals

Every global of a header is bound, to the type of its last declaration (`globalType?_of_build`). A
global without a message has fields behind it, and fields that are known stay
(`exists_fields_of_globals`). Once fields are known under the name of a global's type, the global
is bound and nothing else happens: the type is not looked for again (`enterItem_of_memoized`).

Main statement: globals are always bound, and one more of a type with fields changes nothing but
its own binding (`globals_always_bound`).
-/

set_option autoImplicit false

namespace RuleVocabulary

namespace Header.Package

/-- The short name of a global's type, which the last import of its name qualifies. -/
def boundType (package : Package) (global : Global) : String :=
  Name.short ((Imports.lastNamed? package.imports global.typeName).getD global.typeName)

/-- The global that is declared last under an identifier. -/
def lastGlobal? (package : Package) (identifier : String) : Option Global :=
  package.globals.reverse.find? (·.identifier = identifier)

/-- A package with one more global. -/
def withGlobal (package : Package) (global : Global) : Package :=
  { package with globals := package.globals ++ [global] }

theorem exists_lastGlobal?_iff (package : Package) (identifier : String) :
    (∃ global, package.lastGlobal? identifier = some global) ↔
      identifier ∈ package.globals.map Global.identifier := by
  rw [← Option.isSome_iff_exists, lastGlobal?, List.find?_isSome, List.mem_map]
  simp only [List.mem_reverse, decide_eq_true_eq]

end Header.Package

namespace Loader

variable {scope : Scope} {archives : List Archive}

theorem globalType_packageScope (settings : Settings) (package : Header.Package)
    (global : Header.Global) :
    Item.globalType (packageScope settings package) global = package.boundType global := by
  rw [Item.globalType, Scope.qualify, packageScope, Imports.qualified?_ofTargets]
  rfl

/-! ## Who is bound to what -/

/-- Of several bindings of an identifier the last one counts. -/
theorem globalType?_ofEdits_bindings (scope : Scope) (globals : List Header.Global)
    (identifier : String) :
    (Vocabulary.ofEdits (bindings scope globals)).globalType? identifier =
      (globals.reverse.find? (·.identifier = identifier)).map (Item.globalType scope) := by
  induction globals using List.reverseRecOn with
  | nil => simp [bindings, Vocabulary.ofEdits, Vocabulary.globalType?, Vocabulary.empty]
  | append_singleton globals global ih =>
      have bound : Vocabulary.ofEdits (bindings scope (globals ++ [global])) =
          (Vocabulary.ofEdits (bindings scope globals)).bindGlobal global.identifier
            (Item.globalType scope global) := by
        rw [bindings, List.map_append, Vocabulary.ofEdits, List.foldl_append]
        rfl
      rw [bound, Vocabulary.globalType?_bindGlobal, List.reverse_concat, List.find?_cons]
      by_cases same : global.identifier = identifier
      · simp only [same, ↓reduceIte, decide_true, Option.map_some]
      · simp only [same, ↓reduceIte, decide_false]
        exact ih

/-- **Each identifier is bound to the type of its last declaration.** -/
theorem globalType?_of_entered {loader : Loader} {reading : Header.Reading} {after : Progress}
    (done : entered loader archives reading = (.ok (), after)) (files : List Mapping.File)
    (identifier : String) :
    (enterSentences files after.vocabulary).globalType? identifier =
      (reading.package.lastGlobal? identifier).map reading.package.boundType := by
  have same : (enterSentences files after.vocabulary).globalType? identifier =
      after.vocabulary.untyped.globalType? identifier := by
    rw [enterSentences_eq]
    rfl
  rw [same, untyped_of_entered done, globalType?_ofEdits_bindings,
    funext (globalType_packageScope loader.settings reading.package)]
  rfl

/-! ## Fields behind globals -/

/-- A global without a message has fields behind it. -/
theorem exists_fields_of_enterGlobal {global : Header.Global} {before after : Progress}
    (done : enterGlobal scope archives global before = (.ok (), after))
    (silent : after.messages = before.messages) :
    ∃ names, after.vocabulary.fields? (Item.globalType scope global) = some names := by
  have reported := messages_of_enterGlobal global before after done
  rw [silent, List.self_eq_append_right, globalReport_eq_nil_iff] at reported
  have entered := (memoized_of_enterGlobal done).fields (Item.globalType scope global)
  rw [Vocabulary.fields?, entered]
  rcases reported with known | ⟨⟨type, fields⟩, found⟩
  · obtain ⟨names, listed⟩ := (Vocabulary.hasFields_iff ..).mp known
    rw [Vocabulary.fields?] at listed
    exact ⟨names, by rw [listed, Option.some_or]⟩
  · have one : globalListing? scope global after =
        some ⟨Item.globalType scope global, fields.map InspectedField.name⟩ := by
      unfold globalListing? listing?
      have found : typeFields after.loader.registry after.loader.settings
          (scope.qualify global.typeName) = .ok (some (type, fields)) := found
      rw [found]
      rfl
    rw [one, Option.toList_some, Listing.first?_singleton, if_pos rfl]
    rw [← Option.isSome_iff_exists, Option.isSome_or, Option.isSome_some, Bool.or_true]

/-- Fields that are known stay while globals are entered. -/
theorem fields?_of_globals {globals : List Header.Global} {between final : Progress}
    (done : forEach (enterGlobal scope archives) globals between = (.ok (), final))
    {type : String} {names : List String} (known : between.vocabulary.fields? type = some names) :
    final.vocabulary.fields? type = some names := by
  obtain ⟨edits, memoized⟩ := memoized_of_globals done
  exact memoized.enters.kept type names known

/-- **The fields behind a global without a message are known in the end.** -/
theorem exists_fields_of_globals {globals : List Header.Global} {between final : Progress}
    (done : forEach (enterGlobal scope archives) globals between = (.ok (), final)) :
    ∀ passage ∈ passages (enterGlobal scope archives) globals between,
      passage.after.messages = passage.before.messages →
        ∃ names, final.vocabulary.fields? (Item.globalType scope passage.element) =
          some names := by
  induction globals generalizing between with
  | nil => exact nofun
  | cons global globals ih =>
      rw [forEach_cons] at done
      split at done
      · cases done
      · rename_i after stepped
        rw [passages, stepped, List.forall_mem_cons]
        refine ⟨?_, ih done⟩
        intro silent
        obtain ⟨names, known⟩ := exists_fields_of_enterGlobal stepped silent
        exact ⟨names, fields?_of_globals done known⟩

/-! ## One global more -/

/-- A global whose type has fields is bound, and its type is not looked for. -/
theorem enterItem_of_memoized {global : Header.Global} {progress : Progress} {names : List String}
    (known : progress.vocabulary.fields? (Item.globalType scope global) = some names) :
    enterItem scope archives (.bound global) progress =
      (.ok (), progress.edit (·.bindGlobal global.identifier (Item.globalType scope global))) := by
  have listed : progress.loader.draft.hasFields (Item.globalType scope global) = true :=
    (Vocabulary.hasFields_iff ..).mpr ⟨names, known⟩
  have unsought : (Item.bound global).find? scope progress.loader.draft = none := if_pos listed
  rw [enterItem_of_unsought unsought]
  simp only [Item.contribution, if_pos listed, Progress.add, List.append_nil, List.nil_append]
  rfl

/-- A package with one global more is entered as it is without it, and then the global is. -/
theorem entered_withGlobal {loader : Loader} {reading : Header.Reading} {after : Progress}
    (done : entered loader archives reading = (.ok (), after)) (global : Header.Global) :
    entered loader archives { reading with package := reading.package.withGlobal global } =
      enterItem (packageScope loader.settings reading.package) archives (.bound global) after := by
  have items : Item.ofPackage (reading.package.withGlobal global) =
      Item.ofPackage reading.package ++ [.bound global] := by
    rw [Item.ofPackage, Item.ofPackage, List.append_assoc, ← List.map_singleton, ← List.map_append]
    rfl
  have begins : entered loader archives
        { reading with package := reading.package.withGlobal global } =
      forEach (enterItem (packageScope loader.settings reading.package) archives)
        (Item.ofPackage reading.package ++ [.bound global]) (begun loader reading) := by
    rw [← items]
    rfl
  have first : forEach (enterItem (packageScope loader.settings reading.package) archives)
      (Item.ofPackage reading.package) (begun loader reading) = (.ok (), after) := done
  rw [begins, forEach_append, first]
  simp only [forEach_cons]
  rcases enterItem (packageScope loader.settings reading.package) archives (.bound global) after
    with ⟨fault | done, final⟩
  · rfl
  · rfl

/-- A header that declares a global is not blank. -/
theorem written_of_global {header : String} {package : Header.Package} {global : Header.Global}
    {problems : List Header.Problem}
    (read : Header.Reading.ofText header = .ok ⟨package.withGlobal global, problems⟩) :
    Text.trim header.toList ≠ [] := by
  intro blank
  have nothing := congrArg Header.Package.globals (Header.package_of_blank blank read)
  simp [Header.Package.withGlobal] at nothing

/-- **Globals are always bound.** Exactly the identifiers of a header's globals are bound, each to
the type of its last declaration, whether the type is found or not. A global that adds no message
has fields behind it. One global more, of a type with fields, changes nothing but its own binding,
and leaves the registry and the expander as they are without it. -/
theorem globals_always_bound (loader : Loader) (header : String) (archives : List Archive)
    (files : List Mapping.File) (outcome : Outcome) (written : Text.trim header.toList ≠ [])
    (built : (loader.build header archives files).1 = .ok outcome) :
    ∃ reading, Header.Reading.ofText header = .ok reading ∧
      let package := reading.package
      (∀ identifier, (∃ type, outcome.vocabulary.globalType? identifier = some type) ↔
        identifier ∈ package.globals.map Header.Global.identifier) ∧
      (∀ identifier, outcome.vocabulary.globalType? identifier =
        (package.lastGlobal? identifier).map package.boundType) ∧
      (∀ passage ∈ globalPassages archives package (begun loader reading),
        passage.after.messages = passage.before.messages →
          ∃ names, outcome.vocabulary.fields? (package.boundType passage.element) =
            some names) ∧
      ∀ longer global names,
        Header.Reading.ofText longer =
          .ok { reading with package := package.withGlobal global } →
        outcome.vocabulary.fields? (package.boundType global) = some names →
          let bound := outcome.vocabulary.bindGlobal global.identifier (package.boundType global)
          loader.build longer archives files =
            (.ok ⟨bound, outcome.messages⟩,
              { (loader.build header archives files).2 with draft := bound }) := by
  obtain ⟨reading, final, read, done, rfl⟩ := entered_of_build built
  have left := build_of_entered read done files
  rw [declared_of_written written] at read
  have types := globalType_packageScope loader.settings reading.package
  have fields : ∀ type, (enterSentences files final.vocabulary).fields? type =
      final.vocabulary.fields? type := by
    intro type
    rw [enterSentences_eq]
    rfl
  refine ⟨reading, read, ?_, ?_, ?_, ?_⟩
  · intro identifier
    rw [globalType?_of_entered done files]
    simp only [Option.map_eq_some_iff, exists_comm (α := String), exists_and_left, exists_eq',
      and_true]
    exact reading.package.exists_lastGlobal?_iff identifier
  · exact globalType?_of_entered done files
  · intro passage member silent
    obtain ⟨-, -, globals⟩ := stages_of_entered done
    rw [fields, ← types]
    exact exists_fields_of_globals globals passage member silent
  · intro longer global names again known bound
    rw [fields, ← types] at known
    have entering := entered_withGlobal done global
    rw [enterItem_of_memoized known, types] at entering
    have more := declared_of_written (written_of_global again)
    rw [again] at more
    have changed : enterSentences files (final.vocabulary.bindGlobal global.identifier
        (reading.package.boundType global)) = bound := by
      simp only [bound, enterSentences_eq]
      rfl
    rw [build_of_entered more entering files, left]
    simp only [Progress.edit, Progress.vocabulary] at changed ⊢
    rw [changed]

/-- A header with one global, whose type is imported. -/
def onceBound : String :=
  "import java.lang.String;\nglobal String a;"

/-- The header with one more global of the same type. -/
def twiceBound : String :=
  "import java.lang.String;\nglobal String a;\nglobal String b;"

theorem readings_of_bound :
    Header.Reading.ofText onceBound =
        .ok ⟨⟨none, ["java.lang.String"], [], [⟨"a", "String"⟩], []⟩, []⟩ ∧
      Header.Reading.ofText twiceBound =
        .ok ⟨⟨none, ["java.lang.String"], [], [⟨"a", "String"⟩, ⟨"b", "String"⟩], []⟩, []⟩ := by
  decide +kernel

/-- The second global is bound beside the first one, and is all that the second header adds. -/
theorem second_global_adds_its_binding :
    ∃ outcome, ((ofSettings .default).build onceBound [] []).1 = .ok outcome ∧
      outcome.vocabulary.globalType? "a" = some "String" ∧
      outcome.vocabulary.fields? "String" = some [] ∧
      ((ofSettings .default).build twiceBound [] []).1 =
        .ok ⟨outcome.vocabulary.bindGlobal "b" "String", outcome.messages⟩ := by
  have fields : ((ofSettings .default).build onceBound [] []).1.map
      (·.vocabulary.fields? "String") = .ok (some []) := by
    decide +kernel
  cases built : ((ofSettings .default).build onceBound [] []).1 with
  | error fault =>
      rw [built] at fields
      cases fields
  | ok outcome =>
      rw [built] at fields
      have known : outcome.vocabulary.fields? "String" = some [] := Except.ok.inj fields
      obtain ⟨once, twice⟩ := readings_of_bound
      obtain ⟨reading, read, -, types, -, more⟩ :=
        globals_always_bound (ofSettings .default) onceBound [] [] outcome (by decide) built
      obtain rfl := Except.ok.inj (once.symm.trans read)
      refine ⟨outcome, rfl, types "a", known, ?_⟩
      exact congrArg Prod.fst (more twiceBound ⟨"b", "String"⟩ [] twice known)

end Loader

end RuleVocabulary
