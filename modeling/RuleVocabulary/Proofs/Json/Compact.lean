import RuleVocabulary.Descriptor.Json
import RuleVocabulary.Proofs.Json.Items

/-!
# Compact JSON is read back

Compact lists and objects are items with commas between them and without gaps
(`compactElements_eq_inside`, `compactMembers_eq_inside`). So what is written compactly is read
back: texts (`readText_compact`), lists of what is read back (`readList_compact`), and objects
whose members are read back one after the other (`readMembers_compact`).
-/

set_option autoImplicit false

namespace RuleVocabulary.Json

/-- A written text is read back. -/
theorem readText_compact (wanted text : String) (rest : List UInt8) :
    readText wanted ((Value.string text).compact ++ rest) = .ok (text, rest) := by
  rw [Value.compact, quote_append, readText, skipBlank_cons (by decide)]
  exact readString_quote text rest

/-! ## Lists -/

/-- A written value begins with a quote, a bracket or a brace. -/
theorem exists_compact_cons (value : Value) :
    ∃ byte rest, value.compact = byte :: rest ∧ isBlank byte = false ∧ byte ≠ 0x5D := by
  cases value with
  | string text => exact ⟨0x22, _, by rw [Value.compact, quote, List.cons_append], by decide⟩
  | array elements => exact ⟨0x5B, _, by rw [Value.compact, List.cons_append], by decide⟩
  | object members => exact ⟨0x7B, _, by rw [Value.compact, List.cons_append], by decide⟩

theorem compactElements_eq_inside (elements : List Value) :
    Value.compactElements elements = inside [] [] (elements.map Value.compact) := by
  cases elements with
  | nil => rfl
  | cons element elements =>
      induction elements generalizing element with
      | nil => simp [Value.compactElements, inside, behindFirst]
      | cons next elements ih =>
          rw [Value.compactElements, ih next]
          · simp [inside, behindFirst]
          · simp

/-- **A written list is read back** if its elements are. -/
theorem readList_compact {α : Type} {element : List UInt8 → Read α} {write : α → Value}
    (reads : ∀ value rest, element ((write value).compact ++ rest) = .ok (value, rest))
    (values : List α) (rest : List UInt8) :
    readList element ((Value.array (values.map write)).compact ++ rest) = .ok (values, rest) := by
  let parts := values.map fun value => (value, (write value).compact)
  have back : ∀ part ∈ parts, ReadsBack element part.1 part.2 := by
    intro part member
    obtain ⟨value, -, rfl⟩ := List.mem_map.mp member
    exact ⟨exists_compact_cons _, reads value⟩
  have texts : (values.map write).map Value.compact = parts.map Prod.snd := by
    simp only [parts, List.map_map, Function.comp_def]
  have named : parts.map Prod.fst = values := by
    simp only [parts, List.map_map, Function.comp_def, List.map_id']
  rw [Value.compact, List.cons_append, List.cons_append, List.append_assoc, List.singleton_append,
    compactElements_eq_inside, texts, readList, skipBlank_cons (by decide)]
  exact (readElements_inside blank_nil blank_nil parts back rest).trans (by rw [named])

/-! ## Objects -/

theorem compactMembers_eq_inside (members : List (String × Value)) :
    Value.compactMembers members = inside [] [] (members.map (memberText Value.compact)) := by
  cases members with
  | nil => rfl
  | cons member members =>
      obtain ⟨key, value⟩ := member
      induction members generalizing key value with
      | nil => simp [Value.compactMembers, inside, behindFirst, memberText]
      | cons next members ih =>
          obtain ⟨nextKey, nextValue⟩ := next
          rw [Value.compactMembers, ih]
          · simp [inside, behindFirst, memberText]
          · simp

section Objects

variable {σ : Type} {member : String → σ → List UInt8 → Read σ}

/-- **A written object is read back** if its members are. -/
theorem readMembers_compact {state last : σ} {members : List (String × Value)}
    (back : MembersReadBack member Value.compact state members last) (rest : List UInt8) :
    readMembers member (enoughFuel (Value.compactMembers members ++ 0x7D :: rest)) true state
      (Value.compactMembers members ++ 0x7D :: rest) = .ok (last, rest) := by
  rw [compactMembers_eq_inside]
  exact readMembers_inside blank_nil blank_nil back rest

/-- A member that was not read before is read back if its value is. -/
theorem readOnce_compact {α : Type} (key : String) {read : List UInt8 → Read α} {value : Value}
    {result : α} (reads : ∀ rest, read (value.compact ++ rest) = .ok (result, rest))
    (store : α → σ) (rest : List UInt8) :
    readOnce key none read store (0x3A :: (value.compact ++ rest)) =
      .ok (store result, rest) := by
  rw [readOnce, skipColon, skipBlank_cons (by decide)]
  simp [reads, Except.map]

end Objects

end RuleVocabulary.Json
