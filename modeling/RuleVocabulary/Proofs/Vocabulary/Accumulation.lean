import Mathlib.Data.List.DropRight
import Mathlib.Logic.Relation
import RuleVocabulary.Proofs.Imports
import RuleVocabulary.Proofs.Vocabulary.Draft

/-!
# What edits add up to

An edit writes one value: a name or a sentence to a list, or the entry of a key to a table
(`Edit.Target`). What a vocabulary holds at a target is told by the values that were written there
since everything was last taken back (`view_ofEdits`), by one of three rules: of equal fact types
the first is kept, of the entries of a key the last, and of sentences all (`AddsUp`). The values
written to other targets make no difference, so edits of different targets may change places
(`ofEdits_of_swapped`).

Main statement: what is built of a draft is what its edits add up to, in whatever order the entries
of its hash tables are met, and edits that changed places with neighbours of other targets build the
same (`drafts_add_up`).
-/

set_option autoImplicit false

namespace RuleVocabulary.Vocabulary

/-! ## Targets -/

namespace Edit

/-- Where an edit may write: to a list, or to the entry of a key. -/
inductive Target where
  | factTypes
  | fields (type : String)
  | fieldType (key : String)
  | global (identifier : String)
  | conditions
  | actions
deriving DecidableEq

/-- What may be written to a target. -/
abbrev Target.Value : Target → Type
  | .factTypes => String
  | .fields _ => List String
  | .fieldType _ => Category
  | .global _ => String
  | .conditions => String
  | .actions => String

/-- What an edit writes, and where. Taking everything back writes nothing. -/
def write? : Edit → Option (Σ target : Target, target.Value)
  | .factType name => some ⟨.factTypes, name⟩
  | .fields type names => some ⟨.fields type, names⟩
  | .fieldType key category => some ⟨.fieldType key, category⟩
  | .global identifier type => some ⟨.global identifier, type⟩
  | .condition sentence => some ⟨.conditions, sentence⟩
  | .action sentence => some ⟨.actions, sentence⟩
  | .reset => none

/-- Where an edit writes. -/
def target? (edit : Edit) : Option Target :=
  edit.write?.map Sigma.fst

/-- What an edit writes to a target. -/
def at? (edit : Edit) (target : Target) : Option target.Value :=
  edit.write?.bind fun write => if same : write.1 = target then some (same ▸ write.2) else none

/-- Whether two edits write to different targets. -/
def Apart (first second : Edit) : Prop :=
  ∃ target other, first.target? = some target ∧ second.target? = some other ∧ target ≠ other

/-- An edit writes its value to its target, and nothing to the others. -/
theorem at?_of_write? {edit : Edit} {target : Target} {value : target.Value}
    (writes : edit.write? = some ⟨target, value⟩) (other : Target) :
    edit.at? other = if same : target = other then some (same ▸ value) else none := by
  rw [at?, writes, Option.bind_some]

theorem at?_eq_none_of_target? {edit : Edit} {target other : Target}
    (writes : edit.target? = some other) (differ : other ≠ target) : edit.at? target = none := by
  obtain ⟨⟨_, value⟩, written, rfl⟩ := Option.map_eq_some_iff.mp writes
  rw [at?_of_write? written, dif_neg differ]

theorem Apart.at?_eq_none {first second : Edit} (apart : Apart first second) (target : Target) :
    first.at? target = none ∨ second.at? target = none := by
  obtain ⟨one, other, here, there, differ⟩ := apart
  by_cases same : one = target
  · exact .inr (at?_eq_none_of_target? there (same ▸ differ.symm))
  · exact .inl (at?_eq_none_of_target? here same)

theorem Apart.symm {first second : Edit} (apart : Apart first second) : Apart second first := by
  obtain ⟨one, other, here, there, differ⟩ := apart
  exact ⟨other, one, there, here, differ.symm⟩

theorem Apart.ne_reset {first second : Edit} (apart : Apart first second) :
    first ≠ .reset ∧ second ≠ .reset := by
  obtain ⟨one, other, here, there, -⟩ := apart
  constructor
  · rintro rfl
    cases here
  · rintro rfl
    cases there

end Edit

/-- What edits write to a target, in order. -/
def written (edits : List Edit) (target : Edit.Target) : List target.Value :=
  edits.filterMap (·.at? target)

theorem written_append (edits more : List Edit) (target : Edit.Target) :
    written (edits ++ more) target = written edits target ++ written more target :=
  List.filterMap_append

/-- The edits behind the last one that takes everything back. -/
def standing (edits : List Edit) : List Edit :=
  edits.rtakeWhile (· ≠ .reset)

theorem standing_concat_reset (edits : List Edit) : standing (edits ++ [.reset]) = [] :=
  List.rtakeWhile_concat_neg _ _ _ (by simp)

theorem standing_concat {edit : Edit} (kept : edit ≠ .reset) (edits : List Edit) :
    standing (edits ++ [edit]) = standing edits ++ [edit] :=
  List.rtakeWhile_concat_pos _ _ _ (by simpa using kept)

theorem ofEdits_append (edits more : List Edit) :
    ofEdits (edits ++ more) = more.foldl edit (ofEdits edits) :=
  List.foldl_append

/-! ## What one edit puts where -/

section Edits

variable {edit : Edit} (kept : edit ≠ .reset) (vocabulary : Vocabulary)

include kept

theorem factTypes_edit_of_ne_reset :
    (vocabulary.edit edit).factTypes =
      (edit.at? .factTypes).elim vocabulary.factTypes fun name =>
        if name ∈ vocabulary.factTypes then vocabulary.factTypes
        else vocabulary.factTypes ++ [name] := by
  cases edit with
  | factType name => exact congrArg factTypes (addFactType_eq vocabulary name)
  | reset => exact absurd rfl kept
  | _ => rfl

theorem fields?_edit_of_ne_reset (type : String) :
    (vocabulary.edit edit).fields? type =
      (edit.at? (.fields type)).elim (vocabulary.fields? type) some := by
  cases edit with
  | fields set names =>
      rw [Vocabulary.edit, fields?_setFields, Edit.at?_of_write? rfl]
      by_cases same : set = type
      · subst same
        simp
      · simp [same]
  | factType name =>
      rw [Vocabulary.edit, addFactType_eq]
      rfl
  | reset => exact absurd rfl kept
  | _ => rfl

theorem categoryUnder?_edit_of_ne_reset (key : String) :
    (vocabulary.edit edit).categoryUnder? key =
      (edit.at? (.fieldType key)).elim (vocabulary.categoryUnder? key) some := by
  cases edit with
  | fieldType decided category =>
      rw [Vocabulary.edit, categoryUnder?_setFieldType, Edit.at?_of_write? rfl]
      by_cases same : decided = key
      · subst same
        simp
      · simp [same]
  | factType name =>
      rw [Vocabulary.edit, addFactType_eq]
      rfl
  | reset => exact absurd rfl kept
  | _ => rfl

theorem globalType?_edit_of_ne_reset (identifier : String) :
    (vocabulary.edit edit).globalType? identifier =
      (edit.at? (.global identifier)).elim (vocabulary.globalType? identifier) some := by
  cases edit with
  | global bound type =>
      rw [Vocabulary.edit, globalType?_bindGlobal, Edit.at?_of_write? rfl]
      by_cases same : bound = identifier
      · subst same
        simp
      · simp [same]
  | factType name =>
      rw [Vocabulary.edit, addFactType_eq]
      rfl
  | reset => exact absurd rfl kept
  | _ => rfl

theorem conditionSentences_edit_of_ne_reset :
    (vocabulary.edit edit).conditionSentences =
      (edit.at? .conditions).elim vocabulary.conditionSentences fun sentence =>
        vocabulary.conditionSentences ++ [sentence] := by
  cases edit with
  | factType name =>
      rw [Vocabulary.edit, addFactType_eq]
      rfl
  | reset => exact absurd rfl kept
  | _ => rfl

theorem actionSentences_edit_of_ne_reset :
    (vocabulary.edit edit).actionSentences =
      (edit.at? .actions).elim vocabulary.actionSentences fun sentence =>
        vocabulary.actionSentences ++ [sentence] := by
  cases edit with
  | factType name =>
      rw [Vocabulary.edit, addFactType_eq]
      rfl
  | reset => exact absurd rfl kept
  | _ => rfl

end Edits

/-! ## The three rules -/

/-- What is seen of a vocabulary at a target is told by the values that were written there since
everything was last taken back, one after the other. -/
theorem view_ofEdits {β : Type} (view : Vocabulary → β) (target : Edit.Target)
    (put : β → target.Value → β)
    (step : ∀ {edit : Edit}, edit ≠ .reset → ∀ vocabulary : Vocabulary,
      view (vocabulary.edit edit) =
        (edit.at? target).elim (view vocabulary) (put (view vocabulary)))
    (edits : List Edit) :
    view (ofEdits edits) = (written (standing edits) target).foldl put (view empty) := by
  induction edits using List.reverseRecOn with
  | nil => rfl
  | append_singleton edits edit ih =>
      have last : ofEdits (edits ++ [edit]) = (ofEdits edits).edit edit :=
        ofEdits_append edits [edit]
      by_cases kept : edit = .reset
      · subst kept
        rw [last, standing_concat_reset]
        rfl
      · rw [last, step kept, ih, standing_concat kept, written_append, List.foldl_append]
        cases value : edit.at? target with
        | none => simp [written, value]
        | some value => simp [written, value]

/-- The first of equal names is kept. -/
theorem foldl_listed (names : List String) :
    names.foldl (fun kept name => if name ∈ kept then kept else kept ++ [name]) [] =
      names.eraseDups := by
  induction names using List.reverseRecOn with
  | nil => rfl
  | append_singleton names name ih =>
      rw [List.foldl_concat, ih, eraseDups_concat]
      simp only [List.mem_eraseDups]

/-- The last value is kept. -/
theorem foldl_overwritten {α : Type} (values : List α) :
    values.foldl (fun _ value => some value) none = values.getLast? := by
  induction values using List.reverseRecOn with
  | nil => rfl
  | append_singleton values value ih => rw [List.foldl_concat, List.getLast?_concat]

/-- All values are kept. -/
theorem foldl_added {α : Type} (values : List α) :
    values.foldl (fun kept value => kept ++ [value]) [] = values := by
  induction values using List.reverseRecOn with
  | nil => rfl
  | append_singleton values value ih => rw [List.foldl_concat, ih]

/-- Whether a vocabulary holds what edits add up to: the fact types where they were listed first,
the last entry of each key and no other entries, and all sentences. -/
structure AddsUp (edits : List Edit) (vocabulary : Vocabulary) : Prop where
  factTypes : vocabulary.factTypes = (written edits .factTypes).eraseDups
  fields : ∀ type, vocabulary.fields? type = (written edits (.fields type)).getLast?
  fieldTypes : ∀ key, vocabulary.categoryUnder? key = (written edits (.fieldType key)).getLast?
  globals : ∀ identifier,
    vocabulary.globalType? identifier = (written edits (.global identifier)).getLast?
  conditionSentences : vocabulary.conditionSentences = written edits .conditions
  actionSentences : vocabulary.actionSentences = written edits .actions

theorem addsUp_ofEdits (edits : List Edit) : AddsUp (standing edits) (ofEdits edits) where
  factTypes := by
    rw [← foldl_listed]
    exact view_ofEdits Vocabulary.factTypes .factTypes
      (fun kept name => if name ∈ kept then kept else kept ++ [name])
      factTypes_edit_of_ne_reset edits
  fields type := by
    rw [← foldl_overwritten]
    exact view_ofEdits (fields? · type) (.fields type) (fun _ names => some names)
      (fun kept vocabulary => fields?_edit_of_ne_reset kept vocabulary type) edits
  fieldTypes key := by
    rw [← foldl_overwritten]
    exact view_ofEdits (categoryUnder? · key) (.fieldType key) (fun _ category => some category)
      (fun kept vocabulary => categoryUnder?_edit_of_ne_reset kept vocabulary key) edits
  globals identifier := by
    rw [← foldl_overwritten]
    exact view_ofEdits (globalType? · identifier) (.global identifier) (fun _ type => some type)
      (fun kept vocabulary => globalType?_edit_of_ne_reset kept vocabulary identifier) edits
  conditionSentences := by
    rw [← foldl_added (written _ _)]
    exact view_ofEdits Vocabulary.conditionSentences .conditions
      (fun kept sentence => kept ++ [sentence]) conditionSentences_edit_of_ne_reset edits
  actionSentences := by
    rw [← foldl_added (written _ _)]
    exact view_ofEdits Vocabulary.actionSentences .actions
      (fun kept sentence => kept ++ [sentence]) actionSentences_edit_of_ne_reset edits

variable {edits others : List Edit} {first second : Vocabulary}

/-- There is one vocabulary that edits add up to. -/
theorem AddsUp.unique (here : AddsUp edits first) (there : AddsUp edits second) :
    first = second := by
  have fields : first.fields = second.fields :=
    Std.ExtTreeMap.ext_getElem? fun type => (here.fields type).trans (there.fields type).symm
  have fieldTypes : first.fieldTypes = second.fieldTypes :=
    Std.ExtTreeMap.ext_getElem? fun key => (here.fieldTypes key).trans (there.fieldTypes key).symm
  have globals : first.globals = second.globals :=
    Std.ExtTreeMap.ext_getElem? fun identifier =>
      (here.globals identifier).trans (there.globals identifier).symm
  have factTypes := here.factTypes.trans there.factTypes.symm
  have conditions := here.conditionSentences.trans there.conditionSentences.symm
  have actions := here.actionSentences.trans there.actionSentences.symm
  cases first
  cases second
  simp only [mk.injEq]
  exact ⟨factTypes, fields, fieldTypes, globals, conditions, actions⟩

/-- Only what is written to each target matters. -/
theorem AddsUp.of_written (same : ∀ target, written others target = written edits target)
    (added : AddsUp edits first) : AddsUp others first where
  factTypes := by rw [same, added.factTypes]
  fields type := by rw [same, added.fields]
  fieldTypes key := by rw [same, added.fieldTypes]
  globals identifier := by rw [same, added.globals]
  conditionSentences := by rw [same, added.conditionSentences]
  actionSentences := by rw [same, added.actionSentences]

/-! ## Edits that change places -/

/-- Whether two neighbours that write to different targets have changed places. -/
inductive Swapped : List Edit → List Edit → Prop where
  | swap (before : List Edit) {one other : Edit} (apart : Edit.Apart one other)
      (after : List Edit) :
      Swapped (before ++ one :: other :: after) (before ++ other :: one :: after)

theorem standing_swapped {one other : Edit} (apart : Edit.Apart one other) (before : List Edit) :
    standing (before ++ [one, other]) = standing before ++ [one, other] := by
  rw [List.append_cons, standing_concat apart.ne_reset.2, standing_concat apart.ne_reset.1,
    List.append_assoc]
  rfl

/-- Neighbours that write to different targets may change places. -/
theorem ofEdits_of_swapped (swapped : Swapped edits others) : ofEdits others = ofEdits edits := by
  obtain @⟨before, one, other, apart, after⟩ := swapped
  have same : ∀ target, written (standing before ++ [one, other]) target =
      written (standing before ++ [other, one]) target := by
    intro target
    rw [written_append, written_append]
    rcases apart.at?_eq_none target with nothing | nothing <;>
      simp [written, List.filterMap_cons, nothing]
  have here := addsUp_ofEdits (before ++ [one, other])
  have there := addsUp_ofEdits (before ++ [other, one])
  rw [standing_swapped apart] at here
  rw [standing_swapped apart.symm] at there
  have met : ofEdits (before ++ [other, one]) = ofEdits (before ++ [one, other]) :=
    (there.of_written same).unique here
  calc
    ofEdits (before ++ other :: one :: after) = ofEdits ((before ++ [other, one]) ++ after) := by
      rw [List.append_assoc]
      rfl
    _ = ofEdits ((before ++ [one, other]) ++ after) := by
      rw [ofEdits_append, met, ← ofEdits_append]
    _ = ofEdits (before ++ one :: other :: after) := by
      rw [List.append_assoc]
      rfl

theorem ofEdits_of_swaps (swaps : Relation.ReflTransGen Swapped edits others) :
    ofEdits others = ofEdits edits := by
  induction swaps with
  | refl => rfl
  | tail _ swapped ih => exact (ofEdits_of_swapped swapped).trans ih

/-- **Drafts add up.** Every sequence of edits makes a draft. What is built of it is the vocabulary
that the edits add up to since everything was last taken back, in whatever order the entries of its
tables are met. Edits among which neighbours that write to different targets have changed places,
any number of times, build the same. -/
theorem drafts_add_up (edits : List Edit) :
    (∃ draft, Draft.Run edits draft) ∧
      ∀ draft, Draft.Run edits draft →
        draft.build = ofEdits edits ∧
        AddsUp (standing edits) draft.build ∧
        ∀ others, Relation.ReflTransGen Swapped edits others →
          ∀ other, Draft.Run others other → other.build = draft.build := by
  refine ⟨Draft.exists_run edits, fun draft run => ?_⟩
  have built := Draft.build_of_run run
  refine ⟨built, ?_, ?_⟩
  · rw [built]
    exact addsUp_ofEdits edits
  · intro others swaps other made
    calc
      other.build = ofEdits others := Draft.build_of_run made
      _ = ofEdits edits := ofEdits_of_swaps swaps
      _ = draft.build := built.symm

/-- A global that is bound twice and a type that is listed twice, behind a type that is taken back.
The bindings change places with types that are listed next to them. -/
theorem drafts_add_up_to_last_binding :
    let edits : List Edit :=
      [.factType "Old", .reset, .global "g" "Order", .factType "Order", .condition "one",
        .global "g" "Item", .factType "Item", .factType "Order", .condition "one"]
    let others : List Edit :=
      [.factType "Old", .reset, .factType "Order", .global "g" "Order", .condition "one",
        .factType "Item", .global "g" "Item", .factType "Order", .condition "one"]
    ∃ draft other, Draft.Run edits draft ∧ Draft.Run others other ∧
      draft.build.factTypes = ["Order", "Item"] ∧
      draft.build.globalType? "g" = some "Item" ∧
      draft.build.globalType? "Old" = none ∧
      draft.build.conditionSentences = ["one", "one"] ∧
      other.build = draft.build := by
  intro edits others
  obtain ⟨⟨draft, run⟩, adds⟩ := drafts_add_up edits
  obtain ⟨⟨other, made⟩, -⟩ := drafts_add_up others
  obtain ⟨-, added, swapped⟩ := adds draft run
  have once : Swapped edits _ :=
    .swap [.factType "Old", .reset] ⟨_, _, rfl, rfl, by decide⟩ _
  have twice : Swapped _ others :=
    .swap [.factType "Old", .reset, .factType "Order", .global "g" "Order", .condition "one"]
      ⟨_, _, rfl, rfl, by decide⟩ _
  refine ⟨draft, other, run, made, ?_, ?_, ?_, ?_, ?_⟩
  · exact added.factTypes.trans (by decide)
  · exact added.globals "g"
  · exact added.globals "Old"
  · exact added.conditionSentences
  · exact swapped others (.tail (.single once) twice) other made

end RuleVocabulary.Vocabulary
