import Mathlib.Data.List.Induction
import Mathlib.Data.List.Nodup
import RuleVocabulary.Proofs.Vocabulary

/-!
# Drafts

A vocabulary is drafted in hash tables. No key has two entries there, and the entries are met in an
order that says nothing: it may be another one after each change.

Collecting the entries in the order of their keys takes that order away
(`HashTable.sorted_of_put`). So whatever the orders have been on the way, a draft is built as the
vocabulary that its edits make (`Draft.build_of_run`).
-/

set_option autoImplicit false

namespace RuleVocabulary

/-! ## Hash tables -/

/-- A hash table. Its entries stand in the order in which they are met. -/
structure HashTable (α : Type) where
  entries : List (String × α)
  distinct : (entries.map Prod.fst).Nodup

namespace HashTable

variable {α : Type}

/-- The hash table without entries. -/
def empty : HashTable α := ⟨[], List.nodup_nil⟩

/-- Whether a hash table may come out where a value is put under a key. In which order the entries
are met afterwards is left open. -/
def Put (key : String) (value : α) (before after : HashTable α) : Prop :=
  after.entries.Perm ((key, value) :: before.entries.filter (·.1 ≠ key))

/-- The entries of a hash table, collected in the order of their keys. -/
def sorted (table : HashTable α) : Std.ExtTreeMap String α compare :=
  .ofList table.entries compare

theorem sorted_empty : (empty : HashTable α).sorted = ∅ :=
  Std.ExtTreeMap.ofList_nil

/-- A value can be put under any key. -/
theorem exists_put (key : String) (value : α) (before : HashTable α) :
    ∃ after, Put key value before after := by
  have fresh : key ∉ (before.entries.filter (·.1 ≠ key)).map Prod.fst := by
    rintro member
    obtain ⟨entry, kept, same⟩ := List.mem_map.mp member
    exact of_decide_eq_true (List.mem_filter.mp kept).2 same
  have distinct : ((before.entries.filter (·.1 ≠ key)).map Prod.fst).Nodup :=
    before.distinct.sublist (List.filter_sublist.map Prod.fst)
  exact ⟨⟨(key, value) :: before.entries.filter (·.1 ≠ key), List.nodup_cons.mpr ⟨fresh, distinct⟩⟩,
    .refl _⟩

/-- What is collected under a key is the value of its entry, wherever that is met. -/
theorem getElem?_sorted_eq_some_iff (table : HashTable α) (key : String) (value : α) :
    table.sorted[key]? = some value ↔ (key, value) ∈ table.entries := by
  have apart : table.entries.Pairwise fun first second => ¬compare first.1 second.1 = .eq := by
    have distinct := List.pairwise_map.mp table.distinct
    exact distinct.imp fun differ same => differ (Std.compare_eq_iff_eq.mp same)
  have collected : ∀ value, (key, value) ∈ table.entries → table.sorted[key]? = some value :=
    fun _ member => Std.ExtTreeMap.getElem?_ofList_of_mem Std.ReflCmp.compare_self apart member
  refine ⟨fun found => ?_, collected value⟩
  by_cases known : key ∈ table.entries.map Prod.fst
  · obtain ⟨⟨_, entered⟩, member, rfl⟩ := List.mem_map.mp known
    rw [collected entered member] at found
    exact Option.some.inj found ▸ member
  · have missing : table.sorted[key]? = none :=
      Std.ExtTreeMap.getElem?_ofList_of_contains_eq_false (by simpa using known)
    rw [missing] at found
    cases found

/-- Where a value is put under a key, it is collected there, and all else as before. -/
theorem sorted_of_put {key : String} {value : α} {before after : HashTable α}
    (put : Put key value before after) : after.sorted = before.sorted.insert key value := by
  refine Std.ExtTreeMap.ext_getElem? fun other => Option.ext fun found => ?_
  rw [getElem?_sorted_eq_some_iff, put.mem_iff, List.mem_cons, List.mem_filter,
    ← getElem?_sorted_eq_some_iff, Std.ExtTreeMap.getElem?_insert]
  by_cases same : key = other
  · subst same
    simp [eq_comm]
  · simp [same, Ne.symm same]

end HashTable

/-! ## Drafts and their edits -/

namespace Vocabulary

/-- A vocabulary in the making. -/
structure Draft where
  factTypes : List String
  fields : HashTable (List String)
  fieldTypes : HashTable Category
  globals : HashTable String
  conditionSentences : List String
  actionSentences : List String

namespace Draft

/-- The draft of nothing. -/
def empty : Draft := ⟨[], .empty, .empty, .empty, [], []⟩

/-- The vocabulary that is built of a draft. -/
def build (draft : Draft) : Vocabulary where
  factTypes := draft.factTypes
  fields := draft.fields.sorted
  fieldTypes := draft.fieldTypes.sorted
  globals := draft.globals.sorted
  conditionSentences := draft.conditionSentences
  actionSentences := draft.actionSentences

/-- What an edit may make of a draft. -/
inductive Edited : Edit → Draft → Draft → Prop where
  | known {name : String} {draft : Draft} (listed : name ∈ draft.factTypes) :
      Edited (.factType name) draft draft
  | factType {name : String} {draft : Draft} (new : name ∉ draft.factTypes) :
      Edited (.factType name) draft { draft with factTypes := draft.factTypes ++ [name] }
  | fields {type : String} {names : List String} {draft : Draft} {table : HashTable (List String)}
      (put : draft.fields.Put type names table) :
      Edited (.fields type names) draft { draft with fields := table }
  | fieldType {key : String} {category : Category} {draft : Draft} {table : HashTable Category}
      (put : draft.fieldTypes.Put key category table) :
      Edited (.fieldType key category) draft { draft with fieldTypes := table }
  | global {identifier type : String} {draft : Draft} {table : HashTable String}
      (put : draft.globals.Put identifier type table) :
      Edited (.global identifier type) draft { draft with globals := table }
  | condition (sentence : String) (draft : Draft) :
      Edited (.condition sentence) draft
        { draft with conditionSentences := draft.conditionSentences ++ [sentence] }
  | action (sentence : String) (draft : Draft) :
      Edited (.action sentence) draft
        { draft with actionSentences := draft.actionSentences ++ [sentence] }
  | reset (draft : Draft) : Edited .reset draft empty

/-- The drafts that a sequence of edits may make. -/
inductive Run : List Edit → Draft → Prop where
  | none : Run [] empty
  | more {edits : List Edit} {edit : Edit} {before after : Draft} (run : Run edits before)
      (edited : Edited edit before after) : Run (edits ++ [edit]) after

/-- Every edit can be made. -/
theorem exists_edited (edit : Edit) (before : Draft) : ∃ after, Edited edit before after := by
  cases edit with
  | factType name =>
      by_cases listed : name ∈ before.factTypes
      · exact ⟨_, .known listed⟩
      · exact ⟨_, .factType listed⟩
  | fields type names =>
      obtain ⟨_, put⟩ := before.fields.exists_put type names
      exact ⟨_, .fields put⟩
  | fieldType key category =>
      obtain ⟨_, put⟩ := before.fieldTypes.exists_put key category
      exact ⟨_, .fieldType put⟩
  | global identifier type =>
      obtain ⟨_, put⟩ := before.globals.exists_put identifier type
      exact ⟨_, .global put⟩
  | condition sentence => exact ⟨_, .condition sentence before⟩
  | action sentence => exact ⟨_, .action sentence before⟩
  | reset => exact ⟨_, .reset before⟩

theorem exists_run (edits : List Edit) : ∃ draft, Run edits draft := by
  induction edits using List.reverseRecOn with
  | nil => exact ⟨_, .none⟩
  | append_singleton edits edit ih =>
      obtain ⟨before, run⟩ := ih
      obtain ⟨after, edited⟩ := exists_edited edit before
      exact ⟨after, .more run edited⟩

theorem build_empty : empty.build = Vocabulary.empty := by
  simp only [build, empty, HashTable.sorted_empty, Vocabulary.empty]

/-- An edited draft is built as the edited vocabulary. -/
theorem build_of_edited {edit : Edit} {before after : Draft} (edited : Edited edit before after) :
    after.build = before.build.edit edit := by
  cases edited with
  | known listed => exact (if_pos listed).symm
  | factType new => exact (if_neg new).symm
  | fields put => simp only [build, Vocabulary.edit, setFields, HashTable.sorted_of_put put]
  | fieldType put => simp only [build, Vocabulary.edit, setFieldType, HashTable.sorted_of_put put]
  | global put => simp only [build, Vocabulary.edit, bindGlobal, HashTable.sorted_of_put put]
  | condition sentence => rfl
  | action sentence => rfl
  | reset => exact build_empty

/-- **A draft is built as the vocabulary of its edits**, in whatever order the entries of its tables
are met on the way and in the end. -/
theorem build_of_run {edits : List Edit} {draft : Draft} (run : Run edits draft) :
    draft.build = ofEdits edits := by
  induction run with
  | none => exact build_empty
  | @more edits edit before after run edited ih =>
      calc
        after.build = before.build.edit edit := build_of_edited edited
        _ = (ofEdits edits).edit edit := by rw [ih]
        _ = ofEdits (edits ++ [edit]) := by rw [ofEdits, ofEdits, List.foldl_concat]

end Draft

end Vocabulary

end RuleVocabulary
