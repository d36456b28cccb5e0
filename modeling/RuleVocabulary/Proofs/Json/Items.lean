import RuleVocabulary.Json.Reader

/-!
# Lists and objects are read item by item

What stands between brackets are items with commas between them. There may be a gap of blanks in
front of each item, and another one in front of the closing bracket (`inside`).

A reader reads back what is written if it returns the value and exactly what stands behind it,
whatever that is (`ReadsBack`). If elements are read back, so are lists of them
(`readElements_inside`). If members are, one after the other, so are objects
(`readMembers_inside`). The bound on the number of elements or members is never reached, because
each of them takes at least one byte.
-/

set_option autoImplicit false

namespace RuleVocabulary.Json

/-! ## Gaps -/

/-- Whether there are no bytes but blanks. -/
def Blank (gap : List UInt8) : Prop :=
  ∀ byte ∈ gap, isBlank byte = true

theorem blank_nil : Blank [] := by
  intro byte member
  cases member

theorem skipBlank_cons {byte : UInt8} (solid : isBlank byte = false) (rest : List UInt8) :
    skipBlank (byte :: rest) = byte :: rest := by
  rw [skipBlank, List.dropWhile_cons_of_neg]
  simp [solid]

/-- A gap is passed. -/
theorem skipBlank_gap {gap : List UInt8} (blank : Blank gap) {byte : UInt8}
    (solid : isBlank byte = false) (rest : List UInt8) :
    skipBlank (gap ++ byte :: rest) = byte :: rest := by
  rw [skipBlank, List.dropWhile_append_of_pos blank]
  exact skipBlank_cons solid rest

/-! ## What stands between brackets -/

/-- The items behind the first one, each with a comma and a gap in front. -/
def behindFirst (gap : List UInt8) (items : List (List UInt8)) : List UInt8 :=
  items.flatMap fun item => 0x2C :: (gap ++ item)

/-- The items between brackets, with their gaps. -/
def inside (gap ending : List UInt8) : List (List UInt8) → List UInt8
  | [] => []
  | item :: items => gap ++ (item ++ (behindFirst gap items ++ ending))

theorem behindFirst_cons (gap item : List UInt8) (items : List (List UInt8)) (rest : List UInt8) :
    behindFirst gap (item :: items) ++ rest =
      0x2C :: (gap ++ (item ++ (behindFirst gap items ++ rest))) := by
  simp [behindFirst]

theorem inside_cons (gap ending item : List UInt8) (items : List (List UInt8))
    (rest : List UInt8) :
    inside gap ending (item :: items) ++ rest =
      gap ++ (item ++ (behindFirst gap items ++ (ending ++ rest))) := by
  simp [inside]

theorem length_le_behindFirst (gap : List UInt8) (items : List (List UInt8)) :
    items.length ≤ (behindFirst gap items).length := by
  induction items with
  | nil => exact Nat.zero_le _
  | cons item items ih =>
      have written := congrArg List.length (behindFirst_cons gap item items [])
      simp only [List.append_nil, List.length_cons, List.length_append] at written ⊢
      omega

/-! ## Lists -/

section Lists

variable {α : Type} {element : List UInt8 → Read α} {gap ending : List UInt8}

/-- Whether a value is read back from its text, which can be told from a bracket or a blank. -/
structure ReadsBack (element : List UInt8 → Read α) (value : α) (text : List UInt8) : Prop where
  begins : ∃ byte rest, text = byte :: rest ∧ isBlank byte = false ∧ byte ≠ 0x5D
  reads : ∀ rest, element (text ++ rest) = .ok (value, rest)

theorem nextElement_first (blank : Blank gap) {value : α} {text : List UInt8}
    (back : ReadsBack element value text) (rest : List UInt8) :
    nextElement true (gap ++ (text ++ rest)) = .ok (some (text ++ rest)) := by
  obtain ⟨byte, behind, rfl, solid, no⟩ := back.begins
  rw [nextElement, List.cons_append, skipBlank_gap blank solid]
  simp [no]

theorem nextElement_later (blank : Blank gap) {value : α} {text : List UInt8}
    (back : ReadsBack element value text) (rest : List UInt8) :
    nextElement false (0x2C :: (gap ++ (text ++ rest))) = .ok (some (text ++ rest)) := by
  obtain ⟨byte, behind, rfl, solid, no⟩ := back.begins
  rw [nextElement, skipBlank_cons (by decide), List.cons_append]
  simp [skipBlank_gap blank solid, no]

theorem readElements_end (blank : Blank ending) (fuel : Nat) (first : Bool)
    (rest : List UInt8) :
    readElements element (fuel + 1) first (ending ++ 0x5D :: rest) = .ok ([], rest) := by
  have bracket := skipBlank_gap blank (show isBlank 0x5D = false by decide) rest
  have finished : nextElement first (ending ++ 0x5D :: rest) = .ok none := by
    rw [nextElement, bracket]
    rfl
  rw [readElements, finished]
  simp [behindBracket, bracket]

/-- The elements behind the first one are read back. -/
theorem readElements_behindFirst (blank : Blank gap) (last : Blank ending)
    (parts : List (α × List UInt8)) (back : ∀ part ∈ parts, ReadsBack element part.1 part.2)
    (rest : List UInt8) {fuel : Nat} (enough : parts.length < fuel) :
    readElements element fuel false
      (behindFirst gap (parts.map Prod.snd) ++ (ending ++ 0x5D :: rest)) =
        .ok (parts.map Prod.fst, rest) := by
  induction parts generalizing fuel with
  | nil =>
      obtain ⟨fuel, rfl⟩ := Nat.exists_eq_add_of_lt enough
      exact readElements_end last (0 + fuel) false rest
  | cons part parts ih =>
      obtain ⟨fuel, rfl⟩ := Nat.exists_eq_add_of_lt (Nat.zero_lt_of_lt enough)
      have here := back part (.head _)
      rw [List.length_cons] at enough
      rw [List.map_cons, behindFirst_cons, readElements, nextElement_later blank here]
      simp only [here.reads]
      rw [ih (fun part member => back part (.tail _ member)) (by omega)]
      rfl

/-- **A written list is read back** if its elements are. -/
theorem readElements_inside (blank : Blank gap) (last : Blank ending)
    (parts : List (α × List UInt8)) (back : ∀ part ∈ parts, ReadsBack element part.1 part.2)
    (rest : List UInt8) :
    readElements element (enoughFuel (inside gap ending (parts.map Prod.snd) ++ 0x5D :: rest)) true
      (inside gap ending (parts.map Prod.snd) ++ 0x5D :: rest) =
        .ok (parts.map Prod.fst, rest) := by
  cases parts with
  | nil => exact readElements_end blank_nil _ true rest
  | cons part parts =>
      have here := back part (.head _)
      have short := length_le_behindFirst gap (parts.map Prod.snd)
      rw [List.length_map] at short
      rw [List.map_cons, inside_cons, enoughFuel, readElements, nextElement_first blank here]
      simp only [here.reads]
      rw [readElements_behindFirst blank last parts
        (fun part member => back part (.tail _ member)) rest]
      · rfl
      · simp only [List.length_append]
        omega

end Lists

/-! ## Objects -/

section Objects

variable {σ β : Type} {member : String → σ → List UInt8 → Read σ} {write : β → List UInt8}
  {gap ending : List UInt8}

theorem quote_append (text : String) (rest : List UInt8) :
    quote text ++ rest = 0x22 :: ((quote text).tail ++ rest) := by
  simp [quote]

/-- A member as it is written, given how values are written behind the colon. -/
def memberText (write : β → List UInt8) (entry : String × β) : List UInt8 :=
  quote entry.1 ++ 0x3A :: write entry.2

theorem memberText_append (entry : String × β) (rest : List UInt8) :
    memberText write entry ++ rest =
      0x22 :: ((quote entry.1).tail ++ 0x3A :: (write entry.2 ++ rest)) := by
  rw [memberText, List.append_assoc, quote_append]
  rfl

/-- The members of an object are read back one after the other, each from the state that the one
before it has left. -/
inductive MembersReadBack (member : String → σ → List UInt8 → Read σ) (write : β → List UInt8) :
    σ → List (String × β) → σ → Prop where
  | nil {state : σ} : MembersReadBack member write state [] state
  | cons {state last : σ} (next : σ) {key : String} {value : β} {members : List (String × β)}
      (reads : ∀ rest, member key state (0x3A :: (write value ++ rest)) = .ok (next, rest))
      (others : MembersReadBack member write next members last) :
      MembersReadBack member write state ((key, value) :: members) last

theorem nextMember_first (blank : Blank gap) (entry : String × β) (rest : List UInt8) :
    nextMember true (gap ++ (memberText write entry ++ rest)) =
      .ok (some ((quote entry.1).tail ++ (0x3A :: (write entry.2 ++ rest)))) := by
  rw [memberText_append, nextMember, skipBlank_gap blank (by decide)]
  rfl

theorem nextMember_later (blank : Blank gap) (entry : String × β) (rest : List UInt8) :
    nextMember false (0x2C :: (gap ++ (memberText write entry ++ rest))) =
      .ok (some ((quote entry.1).tail ++ (0x3A :: (write entry.2 ++ rest)))) := by
  rw [memberText_append, nextMember, skipBlank_cons (by decide)]
  simp [skipBlank_gap blank (show isBlank 0x22 = false by decide)]

theorem readMembers_end (blank : Blank ending) (fuel : Nat) (first : Bool) (state : σ)
    (rest : List UInt8) :
    readMembers member (fuel + 1) first state (ending ++ 0x7D :: rest) = .ok (state, rest) := by
  have brace := skipBlank_gap blank (show isBlank 0x7D = false by decide) rest
  have finished : nextMember first (ending ++ 0x7D :: rest) = .ok none := by
    rw [nextMember, brace]
    rfl
  rw [readMembers, finished]
  simp [behindBracket, brace]

/-- The members behind the first one are read back. -/
theorem readMembers_behindFirst (blank : Blank gap) (ends : Blank ending) {state last : σ}
    {members : List (String × β)} (back : MembersReadBack member write state members last)
    (rest : List UInt8) {fuel : Nat} (enough : members.length < fuel) :
    readMembers member fuel false state
      (behindFirst gap (members.map (memberText write)) ++ (ending ++ 0x7D :: rest)) =
        .ok (last, rest) := by
  induction back generalizing fuel with
  | nil =>
      obtain ⟨fuel, rfl⟩ := Nat.exists_eq_add_of_lt enough
      exact readMembers_end ends (0 + fuel) false _ rest
  | @cons state last next key value members reads others ih =>
      obtain ⟨fuel, rfl⟩ := Nat.exists_eq_add_of_lt (Nat.zero_lt_of_lt enough)
      rw [List.length_cons] at enough
      rw [List.map_cons, behindFirst_cons, readMembers, nextMember_later blank]
      simp only [readString_quote, reads]
      rw [ih (by omega)]

/-- **A written object is read back** if its members are. -/
theorem readMembers_inside (blank : Blank gap) (ends : Blank ending) {state last : σ}
    {members : List (String × β)} (back : MembersReadBack member write state members last)
    (rest : List UInt8) :
    readMembers member
      (enoughFuel (inside gap ending (members.map (memberText write)) ++ 0x7D :: rest)) true state
      (inside gap ending (members.map (memberText write)) ++ 0x7D :: rest) = .ok (last, rest) := by
  cases back with
  | nil => exact readMembers_end blank_nil _ true state rest
  | @cons _ _ next key value members reads others =>
      have short := length_le_behindFirst gap (members.map (memberText write))
      rw [List.length_map] at short
      rw [List.map_cons, inside_cons, enoughFuel, readMembers, nextMember_first blank]
      simp only [readString_quote, reads]
      rw [readMembers_behindFirst blank ends others rest]
      simp only [List.length_append]
      omega

end Objects

end RuleVocabulary.Json
