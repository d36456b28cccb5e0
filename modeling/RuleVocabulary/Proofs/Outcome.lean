import Mathlib.Data.List.Basic
import RuleVocabulary.CommandLine
import RuleVocabulary.Proofs.Json.Pretty

/-!
# What is shown of an outcome

An outcome is a table of two members, its vocabulary and its messages (`Outcome.datum`). The names
in each table of the vocabulary ascend, and lists keep their order.

Main statements: what is printed for an outcome is the one text that shows this table, with a line
feed behind it (`shown_eq`), and a reader of JSON finds this table in it (`datum?_shown`). Nothing
of an outcome is lost on the way, so outcomes for which the same is printed are equal
(`shown_injective`).
-/

set_option autoImplicit false

namespace RuleVocabulary

/-! ## Outcomes as data -/

namespace Datum

/-- A list of texts. -/
def texts (texts : List String) : Datum :=
  .list (texts.map .text)

/-- The entries of a table, by ascending keys. -/
def entries {α : Type} (value : α → Datum) (table : Std.ExtTreeMap String α compare) : Datum :=
  .table (table.toList.map fun entry => (entry.1, value entry.2))

end Datum

/-- A vocabulary as a datum. -/
def Vocabulary.datum (vocabulary : Vocabulary) : Datum :=
  .table [
    ("fact_types", .texts vocabulary.factTypes),
    ("fields", .entries .texts vocabulary.fields),
    ("field_types", .entries (fun category => .text category.label) vocabulary.fieldTypes),
    ("globals", .entries .text vocabulary.globals),
    ("condition_sentences", .texts vocabulary.conditionSentences),
    ("action_sentences", .texts vocabulary.actionSentences)]

/-- An outcome as a datum. -/
def Outcome.datum (outcome : Outcome) : Datum :=
  .table [("model", outcome.vocabulary.datum), ("errors", .texts outcome.messages)]

/-! ## Nothing is lost -/

namespace Datum

theorem texts_injective : Function.Injective texts := by
  intro first second same
  exact List.map_injective_iff.mpr (fun _ _ => Datum.text.inj) (Datum.list.inj same)

theorem entries_injective {α : Type} {value : α → Datum} (injective : Function.Injective value) :
    Function.Injective (entries value) := by
  intro first second same
  have each : Function.Injective fun entry : String × α => (entry.1, value entry.2) := by
    intro entry other equal
    exact Prod.ext (Prod.mk.inj equal).1 (injective (Prod.mk.inj equal).2)
  exact Std.ExtTreeMap.toList_inj.mp (List.map_injective_iff.mpr each (Datum.table.inj same))

end Datum

theorem Category.label_injective : Function.Injective label := by
  intro first second same
  cases first <;> cases second <;> first | rfl | exact absurd same (by decide)

theorem Vocabulary.datum_injective : Function.Injective datum := by
  intro first second same
  have labels : Function.Injective fun category : Category => Datum.text category.label :=
    fun _ _ equal => Category.label_injective (Datum.text.inj equal)
  simp only [datum, Datum.table.injEq, List.cons.injEq, Prod.mk.injEq, true_and, and_true] at same
  obtain ⟨factTypes, fields, fieldTypes, globals, conditions, actions⟩ := same
  cases first
  cases second
  simp only [mk.injEq]
  exact ⟨Datum.texts_injective factTypes,
    Datum.entries_injective Datum.texts_injective fields,
    Datum.entries_injective labels fieldTypes,
    Datum.entries_injective (fun _ _ => Datum.text.inj) globals,
    Datum.texts_injective conditions, Datum.texts_injective actions⟩

/-- **Different outcomes are different data.** -/
theorem Outcome.datum_injective : Function.Injective datum := by
  intro first second same
  simp only [datum, Datum.table.injEq, List.cons.injEq, Prod.mk.injEq, true_and, and_true] at same
  cases first
  cases second
  simp only [mk.injEq]
  exact ⟨Vocabulary.datum_injective same.1, Datum.texts_injective same.2⟩

/-! ## What is written -/

theorem Json.Value.datum_strings (texts : List String) :
    (strings texts).datum = .texts texts := by
  rw [strings, datum, Datum.texts, List.map_map]
  refine congrArg Datum.list (List.map_congr_left fun text _ => ?_)
  rw [Function.comp, datum]

theorem Vocabulary.datum_tableJson {α : Type} {write : α → Json.Value} {value : α → Datum}
    (each : ∀ entry, (write entry).datum = value entry)
    (table : Std.ExtTreeMap String α compare) :
    (tableJson write table).datum = .entries value table := by
  rw [tableJson, Json.Value.datum, Datum.entries, List.map_map]
  refine congrArg Datum.table (List.map_congr_left fun entry _ => ?_)
  rw [Function.comp, each]

theorem Json.Value.datum_string (text : String) : (string text).datum = .text text := by
  rw [datum]

theorem Vocabulary.datum_json (vocabulary : Vocabulary) :
    vocabulary.json.datum = vocabulary.datum := by
  simp only [json, Json.Value.datum, List.map_cons, List.map_nil, Json.Value.datum_strings,
    datum_tableJson Json.Value.datum_strings,
    datum_tableJson fun category : Category => Json.Value.datum_string category.label,
    datum_tableJson Json.Value.datum_string, datum]

/-! ## What can be read -/

namespace Json

theorem readable_texts (depth : Nat) (texts : List String) :
    Readable (depth + 1) (.texts texts) := by
  refine .list fun element member => ?_
  obtain ⟨text, -, rfl⟩ := List.mem_map.mp member
  exact .text text

/-- The keys of a table are distinct. -/
theorem readable_entries {α : Type} {value : α → Datum} {depth : Nat}
    (each : ∀ entry, Readable depth (value entry))
    (table : Std.ExtTreeMap String α compare) : Readable (depth + 1) (.entries value table) := by
  refine .table ?_ fun member inside => ?_
  · rw [List.map_map]
    have distinct := table.distinct_keys_toList
    exact List.pairwise_map.mpr (distinct.imp fun differ same =>
      differ (Std.compare_eq_iff_eq.mpr same))
  · obtain ⟨entry, -, rfl⟩ := List.mem_map.mp inside
    exact each entry.2

theorem readable_vocabulary (depth : Nat) (vocabulary : Vocabulary) :
    Readable (depth + 3) vocabulary.datum := by
  refine .table (by simp) ?_
  simp only [List.forall_mem_cons, List.not_mem_nil, false_implies, implies_true, and_true]
  exact ⟨readable_texts _ _, readable_entries (readable_texts depth) _,
    readable_entries (fun category => .text (Category.label category)) _,
    readable_entries .text _, readable_texts _ _, readable_texts _ _⟩

theorem readable_outcome (outcome : Outcome) : Readable depthLimit outcome.datum := by
  refine .table (by simp) ?_
  simp only [List.forall_mem_cons, List.not_mem_nil, false_implies, implies_true, and_true]
  exact ⟨readable_vocabulary _ _, readable_texts _ _⟩

end Json

/-! ## What is printed -/

namespace CommandLine

theorem datum_outcomeJson (outcome : Outcome) : (outcomeJson outcome).datum = outcome.datum := by
  simp only [outcomeJson, Json.Value.datum, List.map_cons, List.map_nil,
    Json.Value.datum_strings, Vocabulary.datum_json, Outcome.datum]

/-- **What is printed for an outcome is the one text that shows it**, and a line feed. -/
theorem shown_eq (outcome : Outcome) :
    ∃ text, shown outcome = text ++ [0x0A] ∧
      ∀ other, Json.Pretty 0 outcome.datum other ↔ other = text := by
  refine ⟨(outcomeJson outcome).pretty, rfl, fun other => ?_⟩
  rw [← datum_outcomeJson]
  exact Json.Value.pretty_datum_iff

/-- **A reader finds the outcome in what is printed.** -/
theorem datum?_shown (outcome : Outcome) :
    Json.datum? (shown outcome) = some outcome.datum := by
  obtain ⟨text, printed, only⟩ := shown_eq outcome
  rw [printed]
  exact Json.datum?_of_pretty ((only text).mpr rfl) (Json.readable_outcome outcome)

/-- Outcomes for which the same is printed are equal. -/
theorem shown_injective : Function.Injective shown := by
  intro first second same
  have read := datum?_shown first
  rw [same, datum?_shown second] at read
  exact (Outcome.datum_injective (Option.some.inj read)).symm

end CommandLine

end RuleVocabulary
