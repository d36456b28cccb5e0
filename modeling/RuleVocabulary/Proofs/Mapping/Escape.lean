import RuleVocabulary.Proofs.Mapping.ReadBack

/-!
# Escaped equals signs

The key of an entry ends at an equals sign, and one that stands directly behind a backslash is meant
to belong to the key. A sign that is not escaped is bare. If the text behind the blocks of a line
has a bare sign, the key ends at the first one (`CutAtBareSign`). If it has none, the last escaped
sign ends the key all the same (`CutAtLastSign`), and if it has no equals sign at all, the metadata
block is read as a part of the key and cut itself.

Main statement: the escapes of a line are honoured exactly if there is a bare sign behind its
blocks, or no equals sign behind the tag (`escapes_are_honoured_iff`).
-/

set_option autoImplicit false

namespace RuleVocabulary.Mapping

variable {text key value : List Char}

/-! ## Bare signs -/

/-- A text with an equals sign that does not stand directly behind a backslash. -/
def HasBareSign (text : List Char) : Prop :=
  ∃ key value, text = key ++ '=' :: value ∧ key.getLast? ≠ some '\\'

/-- A text is cut at its first bare equals sign. -/
structure CutAtBareSign (text key value : List Char) : Prop where
  whole : text = key ++ '=' :: value
  bare : key.getLast? ≠ some '\\'
  first : ¬ HasBareSign key

/-- A text that has no bare equals sign is cut at its last one. -/
structure CutAtLastSign (text key value : List Char) : Prop where
  whole : text = key ++ '=' :: value
  escaped : ¬ HasBareSign text
  last : '=' ∉ value

theorem HasBareSign.mem (bare : HasBareSign text) : '=' ∈ text := by
  obtain ⟨key, value, rfl, -⟩ := bare
  exact List.mem_append_right _ (List.mem_cons_self ..)

theorem CutAtBareSign.hasBareSign (cut : CutAtBareSign text key value) : HasBareSign text :=
  ⟨key, value, cut.whole, cut.bare⟩

/-- A text is cut in one way at equals signs neither of which stands behind the other one. -/
theorem cut_unique {other behind : List Char} (same : key ++ '=' :: value = other ++ '=' :: behind)
    (notLater : ∀ between, other ≠ key ++ '=' :: between)
    (notEarlier : ∀ between, key ≠ other ++ '=' :: between) : key = other ∧ value = behind := by
  rcases List.append_eq_append_iff.mp same with ⟨between, longer, tail⟩ | ⟨between, longer, tail⟩
  · cases between with
    | nil => exact ⟨by rw [longer, List.append_nil], (List.cons.inj tail).2⟩
    | cons c between =>
        obtain ⟨rfl, -⟩ := List.cons.inj tail
        exact absurd longer (notLater between)
  · cases between with
    | nil => exact ⟨by rw [longer, List.append_nil], (List.cons.inj tail).2.symm⟩
    | cons c between =>
        obtain ⟨rfl, -⟩ := List.cons.inj tail
        exact absurd longer (notEarlier between)

theorem CutAtBareSign.unique {other behind : List Char} (cut : CutAtBareSign text key value)
    (again : CutAtBareSign text other behind) : key = other ∧ value = behind := by
  refine cut_unique (cut.whole.symm.trans again.whole) ?_ ?_
  · exact fun between longer => again.first ⟨key, between, longer, cut.bare⟩
  · exact fun between longer => cut.first ⟨other, between, longer, again.bare⟩

theorem CutAtLastSign.unique {other behind : List Char} (cut : CutAtLastSign text key value)
    (again : CutAtLastSign text other behind) : key = other ∧ value = behind := by
  have same := cut.whole.symm.trans again.whole
  refine cut_unique same ?_ ?_
  · rintro between rfl
    rw [List.append_assoc, List.append_cancel_left_eq] at same
    exact cut.last (by rw [(List.cons.inj same).2]; simp)
  · rintro between rfl
    rw [List.append_assoc, List.append_cancel_left_eq] at same
    exact again.last (by rw [← (List.cons.inj same).2]; simp)

/-! ## Signs behind a first character -/

theorem getLast?_cons_ne_iff {c d : Char} {rest : List Char} :
    (c :: rest).getLast? ≠ some d ↔ rest.getLast? ≠ some d ∧ (rest = [] → c ≠ d) := by
  cases rest with
  | nil => simp
  | cons e rest => simp [List.getLast?_cons_cons]

/-- A character in front that neither is an equals sign nor escapes one makes no difference. -/
theorem hasBareSign_cons {c : Char} {rest : List Char} (other : c ≠ '=')
    (plain : ∀ behind, c = '\\' → rest ≠ '=' :: behind) :
    HasBareSign (c :: rest) ↔ HasBareSign rest := by
  constructor
  · rintro ⟨key, value, whole, bare⟩
    cases key with
    | nil => exact absurd (List.cons.inj whole).1 other
    | cons d key =>
        exact ⟨key, value, (List.cons.inj whole).2, (getLast?_cons_ne_iff.mp bare).1⟩
  · rintro ⟨key, value, rfl, bare⟩
    refine ⟨c :: key, value, rfl, getLast?_cons_ne_iff.mpr ⟨bare, ?_⟩⟩
    rintro rfl escapes
    exact plain value escapes rfl

/-- An escaped sign in front makes no difference. -/
theorem hasBareSign_escaped (rest : List Char) :
    HasBareSign ('\\' :: '=' :: rest) ↔ HasBareSign rest := by
  constructor
  · rintro ⟨_ | ⟨c, _ | ⟨d, inner⟩⟩, value, whole, bare⟩
    · cases whole
    · obtain ⟨rfl, -⟩ := List.cons.inj whole
      exact absurd rfl bare
    · obtain ⟨-, whole⟩ := List.cons.inj whole
      have inside := (getLast?_cons_ne_iff.mp bare).1
      exact ⟨inner, value, (List.cons.inj whole).2, (getLast?_cons_ne_iff.mp inside).1⟩
  · rintro ⟨key, value, rfl, bare⟩
    refine ⟨'\\' :: '=' :: key, value, rfl, ?_⟩
    rw [getLast?_cons_ne_iff, getLast?_cons_ne_iff]
    exact ⟨⟨bare, fun _ => by decide⟩, fun none => by cases none⟩

theorem CutAtBareSign.cons {c : Char} {rest : List Char} (cut : CutAtBareSign rest key value)
    (other : c ≠ '=') (plain : ∀ behind, c = '\\' → rest ≠ '=' :: behind) :
    CutAtBareSign (c :: rest) (c :: key) value := by
  obtain ⟨rfl, bare, first⟩ := cut
  refine ⟨rfl, getLast?_cons_ne_iff.mpr ⟨bare, ?_⟩, ?_⟩
  · rintro rfl escapes
    exact plain value escapes rfl
  · rw [hasBareSign_cons other]
    · exact first
    · rintro behind escapes rfl
      exact plain _ escapes rfl

theorem CutAtBareSign.escaped {rest : List Char} (cut : CutAtBareSign rest key value) :
    CutAtBareSign ('\\' :: '=' :: rest) ('\\' :: '=' :: key) value := by
  obtain ⟨rfl, bare, first⟩ := cut
  refine ⟨rfl, ?_, (hasBareSign_escaped key).not.mpr first⟩
  rw [getLast?_cons_ne_iff, getLast?_cons_ne_iff]
  exact ⟨⟨bare, fun _ => by decide⟩, fun none => by cases none⟩

/-! ## Where a key is cut -/

theorem cutAtEquals_eq_none_iff (text : List Char) : cutAtEquals text = none ↔ '=' ∉ text := by
  fun_induction cutAtEquals text with
  | case1 => simp
  | case2 rest key value cut ih => simp
  | case3 rest cut ih => simp
  | case4 rest plain => simp
  | case5 c rest plain other key value cut ih =>
      rw [cut] at ih
      simpa [Ne.symm other] using ih
  | case6 c rest plain other cut ih =>
      rw [cut] at ih
      simpa [Ne.symm other] using ih

/-- **A key ends at the first bare sign, and if there is none, at the last sign.** -/
theorem cut_of_cutAtEquals (cut : cutAtEquals text = some (key, value)) :
    CutAtBareSign text key value ∨ CutAtLastSign text key value := by
  fun_induction cutAtEquals text generalizing key value with
  | case1 => cases cut
  | case2 rest inner behind found ih =>
      obtain ⟨rfl, rfl⟩ := Prod.mk.inj (Option.some.inj cut)
      rcases ih found with bare | ⟨whole, escaped, last⟩
      · exact .inl bare.escaped
      · exact .inr ⟨by rw [whole]; rfl, (hasBareSign_escaped rest).not.mpr escaped, last⟩
  | case3 rest found ih =>
      obtain ⟨rfl, rfl⟩ := Prod.mk.inj (Option.some.inj cut)
      have none := (cutAtEquals_eq_none_iff rest).mp found
      exact .inr ⟨rfl, (hasBareSign_escaped rest).not.mpr fun bare => none bare.mem, none⟩
  | case4 rest plain =>
      obtain ⟨rfl, rfl⟩ := Prod.mk.inj (Option.some.inj cut)
      exact .inl ⟨rfl, by simp, fun bare => List.not_mem_nil bare.mem⟩
  | case5 c rest plain other inner behind found ih =>
      obtain ⟨rfl, rfl⟩ := Prod.mk.inj (Option.some.inj cut)
      rcases ih found with bare | ⟨whole, escaped, last⟩
      · exact .inl (bare.cons other plain)
      · exact .inr ⟨by rw [whole]; rfl, (hasBareSign_cons other plain).not.mpr escaped, last⟩
  | case6 => cases cut

theorem exists_cutAtEquals (signed : '=' ∈ text) :
    ∃ key value, cutAtEquals text = some (key, value) := by
  cases found : cutAtEquals text with
  | none => exact absurd signed ((cutAtEquals_eq_none_iff text).mp found)
  | some parts => exact ⟨parts.1, parts.2, rfl⟩

/-- A text with a bare sign is cut at the first one. -/
theorem cutAtEquals_of_bare (cut : CutAtBareSign text key value) :
    cutAtEquals text = some (key, value) := by
  obtain ⟨inner, behind, found⟩ := exists_cutAtEquals cut.hasBareSign.mem
  rcases cut_of_cutAtEquals found with bare | last
  · obtain ⟨rfl, rfl⟩ := bare.unique cut
    exact found
  · exact absurd cut.hasBareSign last.escaped

/-- A text without bare signs is cut at the last sign. -/
theorem cutAtEquals_of_last (cut : CutAtLastSign text key value) :
    cutAtEquals text = some (key, value) := by
  have signed : '=' ∈ text := by
    rw [cut.whole]
    exact List.mem_append_right _ (List.mem_cons_self ..)
  obtain ⟨inner, behind, found⟩ := exists_cutAtEquals signed
  rcases cut_of_cutAtEquals found with bare | last
  · exact absurd bare.hasBareSign cut.escaped
  · obtain ⟨rfl, rfl⟩ := last.unique cut
    exact found

theorem HasBareSign.exists_cut (bare : HasBareSign text) :
    ∃ key value, CutAtBareSign text key value := by
  obtain ⟨key, value, found⟩ := exists_cutAtEquals bare.mem
  rcases cut_of_cutAtEquals found with cut | last
  · exact ⟨key, value, cut⟩
  · exact absurd bare last.escaped

theorem hasBareSign_iff :
    HasBareSign text ↔ ∃ parts ∈ cutAtEquals text, parts.1.getLast? ≠ some '\\' := by
  constructor
  · intro bare
    obtain ⟨key, value, cut⟩ := bare.exists_cut
    exact ⟨(key, value), cutAtEquals_of_bare cut, cut.bare⟩
  · rintro ⟨⟨key, value⟩, found, bare⟩
    rcases cut_of_cutAtEquals found with cut | cut
    · exact cut.hasBareSign
    · exact ⟨key, value, cut.whole, bare⟩

instance (text : List Char) : Decidable (HasBareSign text) :=
  decidable_of_iff _ hasBareSign_iff.symm

/-! ## Blocks -/

theorem of_block? {inside rest : List Char} (found : block? text = some (inside, rest)) :
    text = '[' :: (inside ++ ']' :: rest) ∧ ']' ∉ inside := by
  unfold block? at found
  split at found
  · rename_i behind
    split at found
    · rename_i c behind' closed
      obtain ⟨rfl, rfl⟩ := Prod.mk.inj (Option.some.inj found)
      have stops := List.head?_dropWhile_not (· ≠ ']') behind
      rw [closed] at stops
      obtain rfl : c = ']' := by simpa using stops
      refine ⟨?_, fun member => ?_⟩
      · rw [← closed, List.takeWhile_append_dropWhile]
      · have kept := List.all_eq_true.mp List.all_takeWhile _ member
        simp at kept
    · cases found
  · cases found

/-- A text is split into the metadata in the block at its front and what stands behind the block.
Without a block there are no metadata. -/
inductive SplitAtBlock : (text metadata rest : List Char) → Prop where
  | block {metadata rest : List Char} (inside : ']' ∉ metadata) :
      SplitAtBlock ('[' :: (metadata ++ ']' :: rest)) metadata rest
  | plain {text : List Char} (open' : ∀ metadata rest, text ≠ '[' :: (metadata ++ ']' :: rest)) :
      SplitAtBlock text [] text

theorem SplitAtBlock.mem_of_mem {metadata rest : List Char}
    (split : SplitAtBlock text metadata rest) {c : Char} (member : c ∈ rest) : c ∈ text := by
  cases split with
  | block inside =>
      exact List.mem_cons_of_mem _ (List.mem_append_right _ (List.mem_cons_of_mem _ member))
  | plain open' => exact member

/-- The parts behind a tag, told by where the text is split. -/
theorem partsBehind?_eq {metadata rest : List Char} (split : SplitAtBlock text metadata rest)
    (tag : List Char) :
    partsBehind? tag text =
      ((cutAtEquals rest).map fun (key, value) => ⟨tag, metadata, key, value⟩).or
        ((cutAtEquals text).map fun (key, value) => ⟨tag, [], key, value⟩) := by
  cases split with
  | block inside =>
      rw [partsBehind?, block?_of_not_mem inside]
      rfl
  | plain open' =>
      have none : block? text = none := by
        cases found : block? text with
        | none => rfl
        | some parts => exact absurd (of_block? found).1 (open' _ _)
      rw [partsBehind?, none, Option.or_self]
      rfl

/-! ## Lines with a known section -/

section Line

variable {line tag behind metadata rest : List Char} {kind : Section}

/-- What a line with a known section is read as, told by the parts behind its tag. -/
theorem read_of_begins (begins : Text.trim line = '[' :: (tag ++ ']' :: behind))
    (named : Section.ofTag? (String.ofList tag) = some kind) :
    (∀ metadata key value, partsBehind? tag behind = some ⟨tag, metadata, key, value⟩ →
      Line.read line =
        .entry ⟨kind, trimmed metadata, trimmed (unescape key), trimmed value⟩) ∧
    (partsBehind? tag behind = none →
      Line.read line = .broken (.unrecognized (trimmed line))) := by
  have tagged := Section.not_mem_of_ofTag? named
  rw [String.toList_ofList] at tagged
  refine ⟨fun metadata key value parts => ?_, fun none => ?_⟩
  · simp only [Line.read, begins, parts?, block?_of_not_mem tagged, Option.bind_some, parts, named]
    rfl
  · simp only [Line.read, begins, parts?, block?_of_not_mem tagged, Option.bind_some, none, trimmed]
    rfl

variable (begins : Text.trim line = '[' :: (tag ++ ']' :: behind))
  (named : Section.ofTag? (String.ofList tag) = some kind)
  (split : SplitAtBlock behind metadata rest)

include begins named split

theorem read_of_cut (cut : cutAtEquals rest = some (key, value)) :
    Line.read line =
      .entry ⟨kind, trimmed metadata, trimmed (unescape key), trimmed value⟩ := by
  refine (read_of_begins begins named).1 metadata key value ?_
  rw [partsBehind?_eq split, cut]
  rfl

/-- Without an equals sign behind the block, the block belongs to the key. -/
theorem read_of_unsigned_rest (unsigned : '=' ∉ rest)
    (cut : cutAtEquals behind = some (key, value)) :
    Line.read line = .entry ⟨kind, "", trimmed (unescape key), trimmed value⟩ := by
  refine (read_of_begins begins named).1 [] key value ?_
  rw [partsBehind?_eq split, (cutAtEquals_eq_none_iff rest).mpr unsigned, cut]
  rfl

theorem read_of_unsigned (unsigned : '=' ∉ behind) :
    Line.read line = .broken (.unrecognized (trimmed line)) := by
  have unsignedRest : '=' ∉ rest := fun member => unsigned (split.mem_of_mem member)
  refine (read_of_begins begins named).2 ?_
  rw [partsBehind?_eq split, (cutAtEquals_eq_none_iff rest).mpr unsignedRest,
    (cutAtEquals_eq_none_iff behind).mpr unsigned]
  rfl

/-- A line with an equals sign anywhere behind its tag is an entry. -/
theorem exists_entry (signed : '=' ∈ behind) : ∃ entry, Line.read line = .entry entry := by
  by_cases signedRest : '=' ∈ rest
  · obtain ⟨key, value, cut⟩ := exists_cutAtEquals signedRest
    exact ⟨_, read_of_cut begins named split cut⟩
  · obtain ⟨key, value, cut⟩ := exists_cutAtEquals signed
    exact ⟨_, read_of_unsigned_rest begins named split signedRest cut⟩

omit begins named split

/-- The escapes of a line are honoured: if it is an entry, its key ends at the first bare sign of
the given text, and if there is none, the line is not recognized. -/
structure HonoursEscapes (line rest : List Char) : Prop where
  accepted : ∀ entry, Line.read line = .entry entry → ∃ key value,
    CutAtBareSign rest key value ∧ entry.key = trimmed (unescape key) ∧ entry.value = trimmed value
  refused : ¬ HasBareSign rest → Line.read line = .broken (.unrecognized (trimmed line))

include begins named split

theorem honoursEscapes_of_bare (bare : HasBareSign rest) : HonoursEscapes line rest := by
  obtain ⟨key, value, cut⟩ := bare.exists_cut
  refine ⟨fun entry read => ⟨key, value, cut, ?_⟩, fun escaped => absurd bare escaped⟩
  rw [read_of_cut begins named split (cutAtEquals_of_bare cut)] at read
  cases read
  exact ⟨rfl, rfl⟩

theorem honoursEscapes_of_unsigned (unsigned : '=' ∉ behind) : HonoursEscapes line rest := by
  have refused := read_of_unsigned begins named split unsigned
  refine ⟨fun entry read => ?_, fun _ => refused⟩
  rw [refused] at read
  cases read

theorem not_honoursEscapes (escaped : ¬ HasBareSign rest) (signed : '=' ∈ behind) :
    ¬ HonoursEscapes line rest := by
  intro honours
  obtain ⟨entry, read⟩ := exists_entry begins named split signed
  have complaint := honours.refused escaped
  rw [read] at complaint
  cases complaint

end Line

/-- **The escapes of a line with a known section are honoured exactly if there is a bare sign
behind its blocks, or no equals sign behind its tag.** With a bare sign the key ends at the first
one. Without any equals sign the line is not recognized. If all signs behind the blocks are escaped,
the last one ends the key all the same; and if there is no sign behind the metadata block, but one
in it, the block is read as a part of the key, which ends at a sign inside the block. -/
theorem escapes_are_honoured_iff (line tag behind metadata rest : List Char) (kind : Section)
    (begins : Text.trim line = '[' :: (tag ++ ']' :: behind))
    (named : Section.ofTag? (String.ofList tag) = some kind)
    (split : SplitAtBlock behind metadata rest) :
    (HonoursEscapes line rest ↔ HasBareSign rest ∨ '=' ∉ behind) ∧
    (∀ key value, CutAtBareSign rest key value → Line.read line =
      .entry ⟨kind, trimmed metadata, trimmed (unescape key), trimmed value⟩) ∧
    ('=' ∉ behind → Line.read line = .broken (.unrecognized (trimmed line))) ∧
    (∀ key value, CutAtLastSign rest key value → Line.read line =
      .entry ⟨kind, trimmed metadata, trimmed (unescape key), trimmed value⟩) ∧
    ('=' ∉ rest → ∀ key value, CutAtBareSign behind key value ∨ CutAtLastSign behind key value →
      Line.read line = .entry ⟨kind, "", trimmed (unescape key), trimmed value⟩) := by
  refine ⟨⟨fun honours => ?_, ?_⟩, ?_, read_of_unsigned begins named split, ?_, ?_⟩
  · by_contra neither
    obtain ⟨escaped, signed⟩ := not_or.mp neither
    exact not_honoursEscapes begins named split escaped (not_not.mp signed) honours
  · rintro (bare | unsigned)
    · exact honoursEscapes_of_bare begins named split bare
    · exact honoursEscapes_of_unsigned begins named split unsigned
  · exact fun key value cut => read_of_cut begins named split (cutAtEquals_of_bare cut)
  · exact fun key value cut => read_of_cut begins named split (cutAtEquals_of_last cut)
  · rintro unsigned key value (cut | cut)
    · exact read_of_unsigned_rest begins named split unsigned (cutAtEquals_of_bare cut)
    · exact read_of_unsigned_rest begins named split unsigned (cutAtEquals_of_last cut)

/-- The only sign of the first line is escaped, and ends its key; the second line has a bare sign
behind its blocks, and ends its key there. -/
theorem escaped_sign_ends_key :
    Line.read "[when]a\\=b".toList = .entry ⟨.condition, "", "a\\", "b"⟩ ∧
      ¬ HonoursEscapes "[when]a\\=b".toList "a\\=b".toList ∧
      Line.read "[then][x=y]a\\=b = c".toList = .entry ⟨.consequence, "x=y", "a=b", "c"⟩ ∧
      HonoursEscapes "[then][x=y]a\\=b = c".toList "a\\=b = c".toList := by
  have escaped : ¬ HasBareSign "a\\=b".toList := by decide
  have plain : SplitAtBlock "a\\=b".toList [] "a\\=b".toList :=
    .plain fun metadata rest same => absurd (List.cons.inj same).1 (by decide)
  have block : SplitAtBlock "[x=y]a\\=b = c".toList "x=y".toList "a\\=b = c".toList :=
    @SplitAtBlock.block "x=y".toList _ (by decide)
  obtain ⟨dishonoured, -, -, last, -⟩ := escapes_are_honoured_iff "[when]a\\=b".toList
    "when".toList "a\\=b".toList [] "a\\=b".toList .condition (by decide) (by decide) plain
  obtain ⟨honoured, first, -⟩ := escapes_are_honoured_iff "[then][x=y]a\\=b = c".toList
    "then".toList "[x=y]a\\=b = c".toList "x=y".toList "a\\=b = c".toList .consequence
    (by decide) (by decide) block
  have cut : CutAtBareSign "a\\=b = c".toList "a\\=b ".toList " c".toList :=
    ⟨rfl, by decide, by decide⟩
  refine ⟨last ['a', '\\'] ['b'] ⟨rfl, escaped, by decide⟩, ?_, first _ _ cut, ?_⟩
  · rw [dishonoured]
    exact not_or.mpr ⟨escaped, by decide⟩
  · exact honoured.mpr (.inl cut.hasBareSign)

end RuleVocabulary.Mapping
