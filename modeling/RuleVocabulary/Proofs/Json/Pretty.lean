import Mathlib.Data.List.Basic
import RuleVocabulary.Json.Datum
import RuleVocabulary.Json.Value
import RuleVocabulary.Proofs.Json.Items
import RuleVocabulary.Proofs.Table

/-!
# Pretty JSON

The rules of the format are a relation between data and texts (`Pretty`): a text is quoted, and a
list or a table has each of its items on a line of its own, two blanks deeper than its brackets,
unless it is empty.

**Written values.** What is written of a value is the one text that the rules allow for its datum
(`pretty_datum_iff`).

**Reading back.** A text that the rules allow is read back as the datum it was made of
(`readDatum_of_pretty`), if no table in it has a name twice and no more lists and tables are nested
than a reader takes (`Readable`). Where a name stands twice, the reader keeps one of the members.
-/

set_option autoImplicit false

namespace RuleVocabulary.Json

open Value (newLine)

/-! ## The format -/

/-- An item on a line of its own, two blanks deeper for each level. -/
def line (level : Nat) (item : List UInt8) : List UInt8 :=
  0x0A :: (List.replicate (2 * level) 0x20 ++ item)

/-- What stands between the brackets of a list or a table that begins at a level: the lines of the
items, with commas between them, and the line of the closing bracket. -/
def between (level : Nat) : List (List UInt8) → List UInt8
  | [] => []
  | items => [0x2C].intercalate (items.map (line (level + 1))) ++ line level []

/-- Whether a text shows a datum, made of texts, lists and tables, by the rules of the format. The
text begins at a level. The items of a list, and the members of a table, come in parts with their
texts. -/
inductive Pretty : (level : Nat) → Datum → List UInt8 → Prop where
  | text {level : Nat} (text : String) : Pretty level (.text text) (quote text)
  | list {level : Nat} {elements : List Datum} {parts : List (Datum × List UInt8)}
      (each : parts.map Prod.fst = elements)
      (laid : ∀ part ∈ parts, Pretty (level + 1) part.1 part.2) :
      Pretty level (.list elements) (0x5B :: between level (parts.map Prod.snd) ++ [0x5D])
  | table {level : Nat} {members : List (String × Datum)}
      {parts : List ((String × Datum) × List UInt8)} (each : parts.map Prod.fst = members)
      (laid : ∀ part ∈ parts, Pretty (level + 1) part.1.2 part.2) :
      Pretty level (.table members)
        (0x7B :: between level
          (parts.map fun part => quote part.1.1 ++ 0x3A :: 0x20 :: part.2) ++ [0x7D])

/-- Parts are told by what they belong to if each has one text. -/
theorem eq_of_map_fst {α β : Type} (laid : α → β → Prop) {parts others : List (α × β)}
    (unique : ∀ part ∈ parts, ∀ text, laid part.1 text → part.2 = text)
    (there : ∀ part ∈ others, laid part.1 part.2)
    (same : parts.map Prod.fst = others.map Prod.fst) : parts = others := by
  induction parts generalizing others with
  | nil => exact (List.map_eq_nil_iff.mp same.symm).symm
  | cons part parts ih =>
      cases others with
      | nil => cases same
      | cons other others =>
          obtain ⟨first, rest⟩ := List.cons.inj same
          have text := unique part (.head _) other.2 (first ▸ there other (.head _))
          rw [Prod.ext first text, ih (fun part member => unique part (.tail _ member))
            (fun part member => there part (.tail _ member)) rest]

/-- The rules allow one text for a datum. -/
theorem Pretty.unique {level : Nat} {datum : Datum} {text other : List UInt8}
    (here : Pretty level datum text) (there : Pretty level datum other) : text = other := by
  induction here generalizing other with
  | text text =>
      cases there
      rfl
  | @list level elements parts each laid ih =>
      cases there with
      | list alsoEach alsoLaid =>
          have same := eq_of_map_fst (Pretty (level + 1)) (fun part member _ => ih part member)
            alsoLaid (each.trans alsoEach.symm)
          rw [same]
  | @table level members parts each laid ih =>
      cases there with
      | table alsoEach alsoLaid =>
          have same := eq_of_map_fst (fun member text => Pretty (level + 1) member.2 text)
            (fun part member _ => ih part member) alsoLaid (each.trans alsoEach.symm)
          rw [same]

/-! ## Written values -/

theorem intercalate_cons (separator first : List UInt8) (items : List (List UInt8)) :
    separator.intercalate (first :: items) = first ++ items.flatMap (separator ++ ·) := by
  induction items generalizing first with
  | nil => simp [List.intercalate_singleton]
  | cons next items ih =>
      rw [List.intercalate_cons_cons, ih, List.flatMap_cons, List.append_assoc, List.append_assoc]

/-- Lines are items with a gap in front. -/
theorem between_eq_inside (level : Nat) (items : List (List UInt8)) :
    between level items = inside (newLine (level + 1)) (newLine level) items := by
  cases items with
  | nil => rfl
  | cons item items =>
      rw [between, List.map_cons, intercalate_cons, List.flatMap_map, inside, behindFirst]
      · simp [line, newLine]
      · simp

namespace Value

theorem sizeOf_lt_of_element {elements : List Value} {element : Value}
    (inside : element ∈ elements) : sizeOf element < sizeOf (array elements) := by
  have smaller := List.sizeOf_lt_of_mem inside
  rw [array.sizeOf_spec]
  omega

theorem sizeOf_lt_of_member {members : List (String × Value)} {member : String × Value}
    (inside : member ∈ members) : sizeOf member.2 < sizeOf (object members) := by
  have smaller := List.sizeOf_lt_of_mem inside
  obtain ⟨key, value⟩ := member
  rw [Prod.mk.sizeOf_spec] at smaller
  rw [object.sizeOf_spec]
  show sizeOf value < _
  omega

/-- The datum that a value is. -/
def datum : Value → Datum
  | .string text => .text text
  | .array elements => .list (elements.map datum)
  | .object members => .table (members.map fun member => (member.1, datum member.2))
termination_by value => value
decreasing_by
  · exact sizeOf_lt_of_element ‹_ ∈ elements›
  · exact sizeOf_lt_of_member ‹_ ∈ members›

theorem prettyElements_eq_behindFirst (level : Nat) (elements : List Value) :
    prettyElements level elements =
      behindFirst (newLine level) (elements.map (prettyAt level)) := by
  induction elements with
  | nil => rfl
  | cons element elements ih =>
      rw [prettyElements, ih]
      simp [behindFirst]

/-- A member on a line of its own. -/
def prettyMember (level : Nat) (member : String × Value) : List UInt8 :=
  quote member.1 ++ 0x3A :: 0x20 :: prettyAt level member.2

theorem prettyMembers_eq_behindFirst (level : Nat) (members : List (String × Value)) :
    prettyMembers level members =
      behindFirst (newLine level) (members.map (prettyMember level)) := by
  induction members with
  | nil => rfl
  | cons member members ih =>
      rw [prettyMembers, ih]
      simp [behindFirst, prettyMember]

theorem prettyAt_array (level : Nat) (elements : List Value) :
    prettyAt level (.array elements) =
      0x5B :: between level (elements.map (prettyAt (level + 1))) ++ [0x5D] := by
  rw [between_eq_inside]
  cases elements with
  | nil => rfl
  | cons element elements => simp [prettyAt, prettyElements_eq_behindFirst, inside]

theorem prettyAt_object (level : Nat) (members : List (String × Value)) :
    prettyAt level (.object members) =
      0x7B :: between level (members.map (prettyMember (level + 1))) ++ [0x7D] := by
  rw [between_eq_inside]
  cases members with
  | nil => rfl
  | cons member members => simp [prettyAt, prettyMembers_eq_behindFirst, inside, prettyMember]

/-- What is written of a value shows its datum. -/
theorem pretty_prettyAt (level : Nat) (value : Value) :
    Pretty level value.datum (prettyAt level value) := by
  match value with
  | .string text =>
      rw [datum, prettyAt]
      exact .text text
  | .array elements =>
      let part (element : Value) := (element.datum, prettyAt (level + 1) element)
      have texts : elements.map (prettyAt (level + 1)) = (elements.map part).map Prod.snd := by
        rw [List.map_map]
        rfl
      rw [datum, prettyAt_array, texts]
      refine .list (by rw [List.map_map]; rfl) ?_
      intro _ member
      obtain ⟨element, inside, rfl⟩ := List.mem_map.mp member
      exact pretty_prettyAt (level + 1) element
  | .object members =>
      let part (member : String × Value) :=
        ((member.1, member.2.datum), prettyAt (level + 1) member.2)
      have texts : members.map (prettyMember (level + 1)) =
          (members.map part).map fun part => quote part.1.1 ++ 0x3A :: 0x20 :: part.2 := by
        rw [List.map_map]
        rfl
      rw [datum, prettyAt_object, texts]
      refine .table (by rw [List.map_map]; rfl) ?_
      intro _ member
      obtain ⟨⟨key, value⟩, inside, rfl⟩ := List.mem_map.mp member
      exact pretty_prettyAt (level + 1) value
termination_by value
decreasing_by
  · exact sizeOf_lt_of_element inside
  · exact sizeOf_lt_of_member inside

/-- **What is written of a value is the one text that shows its datum.** -/
theorem pretty_datum_iff {value : Value} {text : List UInt8} :
    Pretty 0 value.datum text ↔ text = value.pretty := by
  constructor
  · intro laid
    exact laid.unique (pretty_prettyAt 0 value)
  · rintro rfl
    exact pretty_prettyAt 0 value

end Value

/-! ## Reading back -/

/-- Whether a datum can be read: it is made of texts, lists and tables that are nested no deeper
than the given depth, and no table has a name twice. -/
inductive Readable : (depth : Nat) → Datum → Prop where
  | text {depth : Nat} (text : String) : Readable depth (.text text)
  | list {depth : Nat} {elements : List Datum}
      (each : ∀ element ∈ elements, Readable depth element) :
      Readable (depth + 1) (.list elements)
  | table {depth : Nat} {members : List (String × Datum)}
      (distinct : (members.map Prod.fst).Nodup)
      (each : ∀ member ∈ members, Readable depth member.2) :
      Readable (depth + 1) (.table members)

theorem blank_newLine (level : Nat) : Blank (newLine level) := by
  intro byte member
  rcases List.mem_cons.mp member with rfl | blank
  · decide
  · rw [List.eq_of_mem_replicate blank]
    decide

/-- A shown datum begins with a quote, a bracket or a brace. -/
theorem exists_cons_of_pretty {level : Nat} {datum : Datum} {text : List UInt8}
    (laid : Pretty level datum text) :
    ∃ byte rest, text = byte :: rest ∧ isBlank byte = false ∧ byte ≠ 0x5D := by
  cases laid with
  | text text => exact ⟨0x22, _, by rw [quote, List.cons_append], by decide⟩
  | list => exact ⟨0x5B, _, by rw [List.cons_append], by decide⟩
  | table => exact ⟨0x7B, _, by rw [List.cons_append], by decide⟩

theorem readDatum_string (depth : Nat) (text : String) (rest : List UInt8) :
    readDatum depth (quote text ++ rest) = .ok (.text text, rest) := by
  rw [quote_append, readDatum.eq_def, skipBlank_cons (by decide)]
  show (readString _).map _ = _
  rw [readString_quote]
  rfl

theorem readDatum_bracket (depth : Nat) (rest : List UInt8) :
    readDatum (depth + 1) (0x5B :: rest) =
      (readElements (readDatum depth) (enoughFuel rest) true rest).map fun read =>
        (.list read.1, read.2) := by
  rw [readDatum.eq_def, skipBlank_cons (by decide)]
  rfl

theorem readDatum_brace (depth : Nat) (rest : List UInt8) :
    readDatum (depth + 1) (0x7B :: rest) =
      (readMembers (readMember (readDatum depth)) (enoughFuel rest) true [] rest).map fun read =>
        (.table read.1, read.2) := by
  rw [readDatum.eq_def, skipBlank_cons (by decide)]
  rfl

/-- A blank in front of a value is passed. -/
theorem readDatum_blank (depth : Nat) (text : List UInt8) :
    readDatum depth (0x20 :: text) = readDatum depth text := by
  rw [readDatum.eq_def, readDatum.eq_def]
  rfl

/-- Members with new names are read back, and each is put behind the others. -/
theorem membersReadBack_of_pretty {depth : Nat} {parts : List ((String × Datum) × List UInt8)}
    (reads : ∀ part ∈ parts, ∀ rest,
      readDatum depth (0x20 :: (part.2 ++ rest)) = .ok (part.1.2, rest))
    {before : List (String × Datum)}
    (distinct : ((before ++ parts.map Prod.fst).map Prod.fst).Nodup) :
    MembersReadBack (readMember (readDatum depth)) (0x20 :: ·) before
      (parts.map fun part => (part.1.1, part.2)) (before ++ parts.map Prod.fst) := by
  induction parts generalizing before with
  | nil => simpa using .nil
  | cons part parts ih =>
      obtain ⟨⟨name, datum⟩, text⟩ := part
      simp only [List.map_cons] at distinct ⊢
      rw [List.append_cons] at distinct ⊢
      have fresh : name ∉ before.map Prod.fst := by
        rw [List.map_append, List.map_append] at distinct
        exact fun known => (List.disjoint_of_nodup_append (List.nodup_append.mp distinct).1) known
          (.head _)
      refine .cons (before ++ [(name, datum)]) ?_
        (ih (fun part member => reads part (.tail _ member)) distinct)
      -- a new name is put behind the others, so the members keep their order
      intro rest
      rw [readMember, skipColon, skipBlank_cons (by decide)]
      simp only [↓reduceIte, List.cons_append]
      rw [reads _ (.head _), Except.map, Table.put_of_fresh fresh]

/-- **What shows a datum is read back as that datum**, and what stands behind it is left. -/
theorem readDatum_of_pretty {level : Nat} {datum : Datum} {text : List UInt8}
    (laid : Pretty level datum text) {depth : Nat} (readable : Readable depth datum)
    (rest : List UInt8) : readDatum depth (text ++ rest) = .ok (datum, rest) := by
  induction laid generalizing depth rest with
  | text text => exact readDatum_string depth text rest
  | @list level elements parts each laid ih =>
      cases readable with
      | @list depth _ readable =>
      subst each
      have back : ∀ part ∈ parts, ReadsBack (readDatum depth) part.1 part.2 := fun part member =>
        ⟨exists_cons_of_pretty (laid part member),
          ih part member (readable part.1 (List.mem_map_of_mem member))⟩
      rw [List.cons_append, List.cons_append, List.append_assoc, List.singleton_append,
        readDatum_bracket, between_eq_inside,
        readElements_inside (blank_newLine _) (blank_newLine _) parts back]
      rfl
  | @table level members parts each laid ih =>
      cases readable with
      | @table depth _ distinct readable =>
      subst each
      have reads : ∀ part ∈ parts, ∀ rest,
          readDatum depth (0x20 :: (part.2 ++ rest)) = .ok (part.1.2, rest) := by
        intro part member rest
        rw [readDatum_blank]
        exact ih part member (readable part.1 (List.mem_map_of_mem member)) rest
      have back : MembersReadBack (readMember (readDatum depth)) (0x20 :: ·) []
          (parts.map fun part => (part.1.1, part.2)) ([] ++ parts.map Prod.fst) :=
        membersReadBack_of_pretty reads distinct
      have texts : (parts.map fun part => quote part.1.1 ++ 0x3A :: 0x20 :: part.2) =
          (parts.map fun part => (part.1.1, part.2)).map (memberText (0x20 :: ·)) := by
        rw [List.map_map]
        rfl
      rw [List.cons_append, List.cons_append, List.append_assoc, List.singleton_append,
        readDatum_brace, between_eq_inside, texts,
        readMembers_inside (blank_newLine _) (blank_newLine _) back]
      rfl

/-- **A text that shows a datum holds that datum**, where a line feed ends it. -/
theorem datum?_of_pretty {datum : Datum} {text : List UInt8} (laid : Pretty 0 datum text)
    (readable : Readable depthLimit datum) : datum? (text ++ [0x0A]) = some datum := by
  rw [datum?, readWholeText, readDatum_of_pretty laid readable]
  rfl

end RuleVocabulary.Json
