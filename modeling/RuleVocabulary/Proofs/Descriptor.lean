import RuleVocabulary.Proofs.Json.Compact
import RuleVocabulary.Proofs.Registry.Lookup

/-!
# Stored descriptors are read back

A descriptor is stored with all its members, and reading the stored bytes gives it back, whatever
text its names hold (`ofJson_stored`). It is read member by member: the name and the supertypes are
texts, the kind is one of four labels, and each field is an object again.

Main statement: a registry that holds the stored bytes of a descriptor under the path of its name
finds that descriptor, unless the name is ambient or that of an array (`stored_type_is_found`).
-/

set_option autoImplicit false

namespace RuleVocabulary

open Json

/-- A written record is read from its members. -/
theorem Json.readRecord_compact {α : Type} (wanted : String)
    (fromMembers fromList : List UInt8 → Read α) (members : List (String × Value))
    (rest : List UInt8) :
    readRecord wanted fromMembers fromList ((Value.object members).compact ++ rest) =
      fromMembers (Value.compactMembers members ++ 0x7D :: rest) := by
  rw [Value.compact, List.cons_append, List.cons_append, List.append_assoc, List.singleton_append,
    readRecord, skipBlank_cons (by decide)]
  rfl

namespace FieldDeclaration

/-- A stored field is read back. -/
theorem read_compact (field : FieldDeclaration) (rest : List UInt8) :
    read (field.toJson.compact ++ rest) = .ok (field, rest) := by
  have back : MembersReadBack readMember Value.compact ⟨none, none⟩
      [("name", .string field.name), ("type", .string field.typeName)]
      ⟨some field.name, some field.typeName⟩ := by
    refine .cons ⟨some field.name, none⟩ (fun rest => ?_) (.cons _ (fun rest => ?_) .nil)
    · rw [readMember, if_pos rfl]
      exact readOnce_compact "name" (readText_compact "a string" field.name) _ rest
    · rw [readMember, if_neg (by decide), if_pos rfl]
      exact readOnce_compact "type" (readText_compact "a string" field.typeName) _ rest
  rw [read, toJson, readRecord_compact, readMembers, readMembers_compact back rest]

end FieldDeclaration

namespace Kind

/-- A stored kind is read back. -/
theorem read_compact (kind : Kind) (rest : List UInt8) :
    read ((Value.string kind.label).compact ++ rest) = .ok (kind, rest) := by
  have label := readText_compact "variant identifier" kind.label rest
  rw [Value.compact, quote_append] at label ⊢
  rw [read, skipBlank_cons (by decide)]
  show readLabel (0x22 :: _) = _
  rw [readLabel, label]
  simp only [ofLabel?_label]

end Kind

namespace Descriptor

/-- A descriptor that is written as a part of a text is read back. -/
theorem read_compact (descriptor : Descriptor) (rest : List UInt8) :
    read (descriptor.toJson.compact ++ rest) = .ok (descriptor, rest) := by
  have back : MembersReadBack readMember Value.compact ⟨none, none, none, none⟩
      [("name", .string descriptor.name), ("kind", .string descriptor.kind.label),
        ("supertypes", Value.strings descriptor.supertypes),
        ("fields", .array (descriptor.fields.map FieldDeclaration.toJson))]
      ⟨some descriptor.name, some descriptor.kind, some descriptor.supertypes,
        some descriptor.fields⟩ := by
    refine .cons ⟨some descriptor.name, none, none, none⟩ (fun rest => ?_)
      (.cons ⟨some descriptor.name, some descriptor.kind, none, none⟩ (fun rest => ?_)
        (.cons ⟨some descriptor.name, some descriptor.kind, some descriptor.supertypes, none⟩
          (fun rest => ?_) (.cons _ (fun rest => ?_) .nil)))
    · rw [readMember, if_pos rfl]
      exact readOnce_compact "name" (readText_compact "a string" descriptor.name) _ rest
    · rw [readMember, if_neg (by decide), if_pos rfl]
      exact readOnce_compact "kind" (Kind.read_compact descriptor.kind) _ rest
    · rw [readMember, if_neg (by decide), if_neg (by decide), if_pos rfl]
      exact readOnce_compact "supertypes"
        (readList_compact (readText_compact "a string") descriptor.supertypes) _ rest
    · rw [readMember, if_neg (by decide), if_neg (by decide), if_neg (by decide), if_pos rfl]
      exact readOnce_compact "fields"
        (readList_compact FieldDeclaration.read_compact descriptor.fields) _ rest
  rw [read, toJson, readRecord_compact, readMembers, readMembers_compact back rest]
  rfl

/-- **A stored descriptor is read back.** -/
theorem ofJson_stored (descriptor : Descriptor) : ofJson descriptor.stored = .ok descriptor := by
  have read := read_compact descriptor []
  rw [List.append_nil] at read
  rw [ofJson, stored, readWholeText, read]
  rfl

end Descriptor

namespace Registry

/-- **Descriptors survive being stored.** Reading the bytes of a stored descriptor gives it back,
so a registry finds it that holds these bytes under the path of its name, unless another meaning of
the name comes first: a definition, or that of an array. -/
theorem stored_type_is_found :
    (∀ descriptor : Descriptor, Descriptor.ofJson descriptor.stored = .ok descriptor) ∧
    ∀ (registry : Registry) (descriptor : Descriptor),
      registry.isAmbient descriptor.name = false →
      (∀ element, descriptor.name ≠ element ++ "[]") →
      registry.resources[registry.resourcePath descriptor.name]? = some descriptor.stored →
      registry.lookup descriptor.name = .ok (some descriptor) := by
  refine ⟨Descriptor.ofJson_stored, ?_⟩
  intro registry descriptor unambient plain stored
  have unknown : registry.ambient[descriptor.name]? = none := by
    rw [isAmbient, Std.ExtTreeMap.contains_eq_isSome_getElem?] at unambient
    exact Option.isNone_iff_eq_none.mp (Option.isSome_eq_false_iff.mp unambient)
  have read : readDescriptor descriptor.name descriptor.stored = .ok descriptor := by
    rw [readDescriptor, Descriptor.ofJson_stored]
    exact if_pos rfl
  rw [lookup_plain (Name.element?_eq_none_iff.mpr plain), lookupPlain, unknown]
  simp only [stored, read, Except.map]

/-- A type is found whose names hold quotes, a backslash, control characters and other letters. -/
theorem quoted_type_is_found :
    let type : Descriptor := ⟨"a.\"Größe\"", .interface, ["b\\\n"], [⟨"\t\x07", "int[]"⟩]⟩
    let registry := (Registry.empty ".type.json").register
      [⟨"a/\"Größe\".type.json", type.stored⟩]
    Descriptor.ofJson type.stored = .ok type ∧ registry.lookup type.name = .ok (some type) := by
  intro type registry
  have unambient : registry.isAmbient type.name = false := Std.ExtTreeMap.contains_empty
  have path : registry.resourcePath type.name = "a/\"Größe\".type.json" := by decide
  have registered : registry.resources[registry.resourcePath type.name]? = some type.stored := by
    rw [path]
    exact Std.ExtTreeMap.getElem?_insert_self
  exact ⟨stored_type_is_found.1 type, stored_type_is_found.2 registry type unambient
    (Name.element?_eq_none_iff.mp (by decide)) registered⟩

end Registry

end RuleVocabulary
