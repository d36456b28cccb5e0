import RuleVocabulary.Proofs.Loader.Comparison
import RuleVocabulary.Proofs.Loader.History

/-!
# Building twice

The same build is made twice in a row. Once the first one has ended well, so does the second one,
with the same fact types, fields, globals and sentences. Categories and messages may differ. If the
first build expands archives, the second one resolves the early fields of templates in a registry
that knows more, and a name may stand for another type there: a candidate that counts before the one
found at first may have been registered, or one that cannot be read.

Main statement: the outcomes are equal if each early field is reported alike and either has the same
category, or its category is entered again behind it (`repeated_build_agrees_iff`).
-/

set_option autoImplicit false

namespace RuleVocabulary.Loader

variable {archives : List Archive} {entries : List Archive.Entry} {loader left : Loader}

/-! ## Two builds -/

/-- **A package entered from before an expansion and past it.** -/
theorem compares_package (unexpanded : Unexpanded archives entries loader) (scope : Scope)
    (package : Header.Package) {first second : Progress}
    (ahead : first.loader.cleared = loader.cleared)
    (past : second.loader.cleared = (loader.withEntries entries).cleared)
    (begins : first.vocabulary = .empty ∧ second.vocabulary = .empty)
    (same : first.messages = second.messages) :
    ∃ after done,
      forEach (enterItem scope archives) (Item.ofPackage package) first = (.ok (), after) ∧
      forEach (enterItem scope archives) (Item.ofPackage package) second = (.ok (), done) ∧
      after.vocabulary.uncategorized = done.vocabulary.uncategorized ∧
      (after.messages = done.messages ↔
        ∀ early ∈ earlyFields scope loader.registry (Item.ofDeclarations package),
          early.ReportedAlike scope loader.registry second.loader.registry) ∧
      ∀ key, Agree key after done ↔ EnteredByGlobal done.vocabulary key ∨
        ∀ early ∈ earlyFields scope loader.registry (Item.ofDeclarations package),
          early.key = key → early.SortedAlike scope loader.registry second.loader.registry ∨
            EntersField early.later key := by
  have alike : first.vocabulary.uncategorized = second.vocabulary.uncategorized := by
    rw [begins.1, begins.2]
  have fewer : first.messages.Sublist second.messages := same ▸ List.Sublist.refl _
  have agree : ∀ key, Agree key first second := by
    intro key
    rw [Agree, begins.1, begins.2]
  have registry : second.loader.registry = (loader.withEntries entries).registry :=
    registry_of_cleared past
  have spent : second.loader.expander.expanded = true := by
    rw [expander_of_cleared past]
    rfl
  -- The declarations, and behind them the globals.
  obtain ⟨amid, entered, around, compares⟩ := @compares_forEach scope archives entries loader
    unexpanded first second ahead past alike fewer (Item.ofDeclarations package)
    fun _ => declared_of_ofDeclarations
  have plain : ∀ item ∈ package.globals.map Item.bound, ∀ type field,
      item ≠ .templateField type field := by
    rintro item member type field rfl
    obtain ⟨global, -, same⟩ := List.mem_map.mp member
    cases same
  obtain ⟨after, finished, -, vocabulary, messages⟩ := @forEach_around scope archives entries
    loader unexpanded amid
    (second.add (course scope second.loader (Item.ofDeclarations package))) around past
    compares.alike (package.globals.map Item.bound) plain
  have decided := @decides_globals_iff scope
    (second.add (course scope second.loader (Item.ofDeclarations package))).loader
    (factTypes_iff_hasFields begins.2 package) package.globals
  have taken : forEach (enterItem scope archives) (Item.ofDeclarations package) second =
      (.ok (), second.add (course scope second.loader (Item.ofDeclarations package))) :=
    forEach_of_spent _ (.inl spent)
  have still : (second.add (course scope second.loader
      (Item.ofDeclarations package))).loader.expander.expanded = true := spent
  generalize second.add (course scope second.loader (Item.ofDeclarations package)) = declared at *
  refine ⟨after, declared.add (course scope declared.loader (package.globals.map .bound)),
    ?_, ?_, ?_, ?_, ?_⟩
  · rw [Item.ofPackage, forEach_append, entered]
    exact finished
  · rw [Item.ofPackage, forEach_append, taken]
    exact forEach_of_spent _ (.inl still)
  · rw [vocabulary]
    exact Vocabulary.uncategorized_foldl compares.alike _
  · rw [messages, registry]
    exact (List.append_left_inj _).trans (compares.messages.trans (and_iff_right same))
  · intro key
    have last : Agree key after
          (declared.add (course scope declared.loader (package.globals.map .bound))) ↔
        Agree key amid declared ∨ ∃ edit ∈
          (course scope declared.loader (package.globals.map .bound)).edits,
            edit.Decides key := by
      rw [← agree_add_iff, Agree, Agree, vocabulary]
    rw [last, decided, or_comm, compares.categories, and_iff_right (.inl (agree key)), registry]
    refine or_congr_right (forall₂_congr fun early member => ?_)
    rw [decided_templates_iff fun _ later => ofTemplate_of_later member later]

/-! ## Sentences -/

theorem uncategorized_enterSentences (files : List Mapping.File) (vocabulary : Vocabulary) :
    (enterSentences files vocabulary).uncategorized =
      enterSentences files vocabulary.uncategorized := by
  rw [enterSentences_eq, enterSentences_eq]
  rfl

/-! ## The same build twice -/

/-- What the outcome of a second build has in common with the outcome of the first one, given the
registries that they begin with. -/
structure Repeats (scope : Scope) (before after : Registry) (package : Header.Package)
    (outcome again : Outcome) : Prop where
  alike : again.vocabulary.uncategorized = outcome.vocabulary.uncategorized
  messages : again.messages = outcome.messages ↔
    ∀ early ∈ earlyFields scope before (Item.ofDeclarations package),
      early.ReportedAlike scope before after
  vocabulary : again.vocabulary = outcome.vocabulary ↔
    ∀ early ∈ earlyFields scope before (Item.ofDeclarations package),
      early.SortedAlike scope before after ∨ EntersField early.later early.key ∨
        EnteredByGlobal outcome.vocabulary early.key

theorem Repeats.refl (scope : Scope) (registry : Registry) (package : Header.Package)
    (outcome : Outcome) : Repeats scope registry registry package outcome outcome where
  alike := rfl
  messages := iff_of_true rfl fun _ _ => rfl
  vocabulary := iff_of_true rfl fun _ _ => .inl rfl

/-- A build that expands archives, and the same build past the expansion. -/
theorem repeats_of_expanded (unexpanded : Unexpanded archives entries loader)
    (past : left.cleared = (loader.withEntries entries).cleared) {header : String}
    {files : List Mapping.File} {reading : Header.Reading} {outcome : Outcome}
    (read : declared header = .ok reading)
    (built : (loader.build header archives files).1 = .ok outcome) :
    ∃ again, (left.build header archives files).1 = .ok again ∧
      Repeats (packageScope loader.settings reading.package) loader.registry left.registry
        reading.package outcome again := by
  have settings : left.settings = loader.settings :=
    @settings_of_cleared left (loader.withEntries entries) past
  obtain ⟨after, done, first, second, alike, messages, categories⟩ :=
    @compares_package archives entries loader unexpanded
      (packageScope loader.settings reading.package) reading.package (begun loader reading)
      (begun left reading) rfl past ⟨rfl, rfl⟩ rfl
  have further : entered left archives reading = (.ok (), done) := by
    rw [entered, settings]
    exact second
  rw [build_of_entered read first] at built
  cases built
  have same : (enterSentences files done.vocabulary).uncategorized =
      (enterSentences files after.vocabulary).uncategorized := by
    rw [uncategorized_enterSentences, uncategorized_enterSentences, alike]
  have agree : ∀ key, (enterSentences files done.vocabulary).categoryUnder? key =
      (enterSentences files after.vocabulary).categoryUnder? key ↔ Agree key after done := by
    intro key
    rw [Vocabulary.categoryUnder?, Vocabulary.categoryUnder?, (frame_enterSentences files _).2.2,
      (frame_enterSentences files _).2.2]
    exact eq_comm
  have globals : ∀ key, EnteredByGlobal (enterSentences files after.vocabulary) key ↔
      EnteredByGlobal done.vocabulary key := by
    intro key
    rw [EnteredByGlobal, (frame_enterSentences files _).1, (frame_enterSentences files _).2.1]
    exact enteredByGlobal_congr alike key
  refine ⟨_, congrArg Prod.fst (build_of_entered read further files), same,
    eq_comm.trans messages, ?_⟩
  rw [Vocabulary.eq_iff_uncategorized, and_iff_right same]
  simp only [agree, categories, globals]
  constructor
  · intro sorted early member
    rcases sorted early.key with entered | others
    · exact .inr (.inr entered)
    · exact (others early member rfl).imp_right .inl
  · intro sorted key
    by_cases entered : EnteredByGlobal done.vocabulary key
    · exact .inl entered
    · refine .inr fun early member own => ?_
      subst own
      exact (sorted early member).imp_right fun later => later.resolve_right entered

/-- **What becomes of a build that is made again.** It ends well again, with the same fact types,
fields, globals and sentences. It has the same messages if each field of a template that came before
the first missing type is reported alike in the registry that the first build has left, and the same
categories if each of these fields has the same category there, or the category is entered again
behind it. -/
theorem repeated_build_agrees_iff (settings : Settings) (calls : List Call) (header : String)
    (archives : List Archive) (files : List Mapping.File) (outcome : Outcome)
    (built : (((ofSettings settings).after calls).build header archives files).1 = .ok outcome) :
    let loader := (ofSettings settings).after calls
    let left := (loader.build header archives files).2
    ∃ reading again, declared header = .ok reading ∧
      (left.build header archives files).1 = .ok again ∧
      Repeats (packageScope settings reading.package) loader.registry left.registry
        reading.package outcome again := by
  intro loader left
  have kept : loader.settings = settings := settings_after _ calls
  cases read : declared header with
  | error fault =>
      rw [build_eq, read] at built
      cases built
  | ok reading =>
      have advance : Advance archives loader left := advance_build loader header archives files
      cases advance with
      | kept same =>
          refine ⟨reading, outcome, rfl, ?_, ?_⟩
          · rw [build_of_cleared same]
            exact built
          · rw [registry_of_cleared same]
            exact .refl ..
      | expanded entries fresh given opened past =>
          have registry : loader.registry = .ofSettings settings :=
            registry_of_unexpanded rfl (Registry.resources_ofSettings settings) fresh
          have unexpanded : Unexpanded archives entries loader := by
            refine ⟨fresh, given, opened, ?_, ?_⟩
            · rw [registry]
              exact Registry.resources_ofSettings settings
            · rw [registry]
              exact Registry.closed_ofSettings settings
          obtain ⟨again, rebuilt, repeats⟩ := repeats_of_expanded unexpanded past read built
          rw [kept] at repeats
          exact ⟨reading, again, rfl, rebuilt, repeats⟩

/-! ## A name that comes to stand for another type -/

/-- A text in a field of the given width, filled up with zero bytes. -/
def padded (width : Nat) (text : String) : List UInt8 :=
  let bytes := text.toList.map fun c => UInt8.ofNat c.toNat
  bytes ++ List.replicate (width - bytes.length) 0

/-- An archive with a type of its own by the short name `String`. -/
def shadowing : Archive where
  label := "archive"
  bytes := padded 124 "a/String.type.json" ++ padded 24 "00000000023" ++ padded 364 "004764" ++
    padded 512 "\x7b\"name\":\"a.String\"\x7d"

/-- A template whose second field makes a build expand archives. Its first field stands for a type
of the default namespace up to then. -/
def shadowed : String :=
  "import a.*;\ntemplate T\n String x\n Missing y\nend"

/-- What a build answers, and what it answers when it is made again. -/
def twice (loader : Loader) (header : String) (archives : List Archive)
    (files : List Mapping.File) : Except Fault Outcome × Except Fault Outcome :=
  match loader.build header archives files with
  | (first, left) => (first, (left.build header archives files).1)

theorem twice_eq (loader : Loader) (header : String) (archives : List Archive)
    (files : List Mapping.File) :
    loader.twice header archives files =
      ((loader.build header archives files).1,
        ((loader.build header archives files).2.build header archives files).1) := by
  unfold twice
  split
  rename_i first left built
  rw [built]

theorem shadowed_sorts_anew :
    ((ofSettings .default).twice shadowed [shadowing] []).map
        (·.map (·.vocabulary.categoryUnder? "T.x")) (·.map (·.vocabulary.categoryUnder? "T.x")) =
      (.ok (some .string), .ok (some .unknown)) := by
  decide +kernel

/-- Made again, the build finds the shadowing type, and sorts the field anew. -/
theorem shadowed_field_is_not_sorted_alike :
    ∃ reading early, declared shadowed = .ok reading ∧
      early ∈ earlyFields (packageScope .default reading.package) (ofSettings .default).registry
        (Item.ofDeclarations reading.package) ∧
      ¬ early.SortedAlike (packageScope .default reading.package) (ofSettings .default).registry
        ((ofSettings .default).build shadowed [shadowing] []).2.registry := by
  have categories := shadowed_sorts_anew
  rw [twice_eq, Prod.map_apply, Prod.mk.injEq] at categories
  obtain ⟨first, second⟩ := categories
  cases built : ((ofSettings .default).build shadowed [shadowing] []).1 with
  | error fault =>
      rw [built] at first
      cases first
  | ok outcome =>
      have repeated := repeated_build_agrees_iff .default [] shadowed [shadowing] [] outcome built
      simp only [after_nil] at repeated
      obtain ⟨reading, again, read, rebuilt, repeats⟩ := repeated
      by_contra alike
      have equal : again.vocabulary = outcome.vocabulary := by
        refine repeats.vocabulary.mpr fun early member => .inl ?_
        by_contra differs
        exact alike ⟨reading, early, read, member, differs⟩
      rw [built] at first
      rw [rebuilt] at second
      simp only [Except.map, equal] at first second
      rw [first] at second
      cases second

end RuleVocabulary.Loader
