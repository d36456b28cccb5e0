import Mathlib.Data.List.Induction
import Mathlib.Data.List.Nodup
import RuleVocabulary.Datum.Basic

/-!
# Members of tables

A table that is collected member by member has no name twice (`nodup_collect`), and under each name
the value that was put there last (`lookup_collect`). With distinct names a lookup finds exactly
what is a member (`lookup_eq_some_iff_mem`), so the order of the members does not matter to it
(`lookup_perm`).
-/

set_option autoImplicit false

namespace RuleVocabulary.Table

variable {α : Type} {name : String} {members others : List (String × α)}

/-- The names stay where they are, and a new one comes behind them. -/
theorem names_put (name : String) (value : α) (members : List (String × α)) :
    (put name value members).map Prod.fst =
      if name ∈ members.map Prod.fst then members.map Prod.fst
      else members.map Prod.fst ++ [name] := by
  induction members with
  | nil => simp [put]
  | cons member members ih =>
      by_cases same : member.1 = name
      · simp [put, same]
      · simp only [put, if_neg same, List.map_cons, ih, List.mem_cons, Ne.symm same, false_or]
        split <;> rfl

/-- A member with a new name comes behind the others. -/
theorem put_of_fresh (fresh : name ∉ members.map Prod.fst) (value : α) :
    put name value members = members ++ [(name, value)] := by
  induction members with
  | nil => rfl
  | cons member members ih =>
      rw [List.map_cons, List.mem_cons, not_or] at fresh
      rw [put, if_neg (Ne.symm fresh.1), ih fresh.2, List.cons_append]

theorem nodup_put (distinct : (members.map Prod.fst).Nodup) (value : α) :
    ((put name value members).map Prod.fst).Nodup := by
  rw [names_put]
  split
  · exact distinct
  · rename_i fresh
    exact distinct.append (List.nodup_singleton name) (by simpa using fresh)

theorem collect_concat (members : List (String × α)) (member : String × α) :
    collect (members ++ [member]) = put member.1 member.2 (collect members) :=
  List.foldl_concat _ _ _ _

/-- No name is collected twice. -/
theorem nodup_collect (members : List (String × α)) : ((collect members).map Prod.fst).Nodup := by
  induction members using List.reverseRecOn with
  | nil => exact List.nodup_nil
  | append_singleton members member ih =>
      rw [collect_concat]
      exact nodup_put ih member.2

/-- Of several members with one name the last one counts. -/
theorem lookup_collect (members : List (String × α)) (name : String) :
    (collect members).lookup name = ((members.filter (·.1 = name)).getLast?).map Prod.snd := by
  induction members using List.reverseRecOn with
  | nil => rfl
  | append_singleton members member ih =>
      rw [collect_concat, List.filter_append]
      by_cases same : member.1 = name
      · subst same
        simp [lookup_put_self]
      · rw [lookup_put_of_ne (Ne.symm same), ih]
        simp [same]

theorem lookup_eq_some_iff_mem (distinct : (members.map Prod.fst).Nodup) {value : α} :
    members.lookup name = some value ↔ (name, value) ∈ members := by
  induction members with
  | nil => simp
  | cons member members ih =>
      obtain ⟨key, first⟩ := member
      rw [List.map_cons, List.nodup_cons] at distinct
      by_cases same : name = key
      · subst same
        have single : (name, value) ∉ members := by
          intro second
          exact distinct.1 (List.mem_map.mpr ⟨_, second, rfl⟩)
        simp [single, eq_comm]
      · have unequal : (name == key) = false := beq_false_of_ne same
        simp [List.lookup_cons, unequal, same, ih distinct.2]

/-- **The order of members with distinct names does not matter.** -/
theorem lookup_perm (perm : members.Perm others) (distinct : (others.map Prod.fst).Nodup)
    (name : String) : members.lookup name = others.lookup name := by
  have unordered : (members.map Prod.fst).Nodup := (perm.map Prod.fst).nodup_iff.mpr distinct
  refine Option.ext fun value => ?_
  rw [lookup_eq_some_iff_mem unordered, lookup_eq_some_iff_mem distinct, perm.mem_iff]

end RuleVocabulary.Table
