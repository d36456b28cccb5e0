import Mathlib.Data.List.Basic
import RuleVocabulary.Mapping.File

/-!
# Mapping files are read as they were written

An entry is written on a line of its own, with a tag of its section, its metadata in a second
block, and a backslash before each equals sign of its key. In an escaped key each equals sign has a
backslash before it, and as the key itself does not end in a backslash, the sign that ends it has
none. So the line is cut where the key ends (`cutAtEquals_escape`), whatever brackets, comment marks
and backslashes the key holds.

Main statement: a file of such lines is read without problems as exactly its entries, in order
(`entries_of_lines`). A key that ends in a backslash has to be left out: it escapes the sign behind
it as soon as the value holds another one.
-/

set_option autoImplicit false

namespace RuleVocabulary

/-! ## Trimmed texts -/

namespace Text

/-- A text without blanks at its ends. -/
structure IsTrimmed (text : List Char) : Prop where
  first : ∀ c ∈ text.head?, isBlank c = false
  last : ∀ c ∈ text.getLast?, isBlank c = false

theorem isTrimmed_iff {text : List Char} :
    IsTrimmed text ↔ text.head?.any isBlank = false ∧ text.getLast?.any isBlank = false := by
  rw [Option.any_eq_false, Option.any_eq_false]
  constructor
  · rintro ⟨first, last⟩
    exact ⟨first, last⟩
  · rintro ⟨first, last⟩
    exact ⟨first, last⟩

instance (text : List Char) : Decidable (IsTrimmed text) :=
  decidable_of_iff _ isTrimmed_iff.symm

theorem IsTrimmed.trim_eq {text : List Char} (trimmed : IsTrimmed text) : trim text = text :=
  trim_eq_self trimmed.first trimmed.last

/-- Trimming takes away blanks only. -/
theorem mem_trim {text : List Char} {c : Char} (member : c ∈ text) (solid : isBlank c = false) :
    c ∈ trim text := by
  have kept : ∀ {text : List Char}, c ∈ text → c ∈ text.dropWhile isBlank := by
    intro text member
    rw [← List.takeWhile_append_dropWhile (p := isBlank) (l := text), List.mem_append] at member
    rcases member with front | behind
    · have blank := List.all_eq_true.mp List.all_takeWhile c front
      rw [solid] at blank
      cases blank
    · exact behind
  rw [trim, trimEnd, dropEndWhile, List.mem_reverse]
  exact kept (List.mem_reverse.mpr (kept member))

end Text

namespace Mapping

/-! ## Lines -/

theorem cutLines_break (rest : List Char) : cutLines ('\n' :: rest) = [] :: cutLines rest := by
  rw [cutLines, if_pos rfl]

theorem cutLines_of_cons {c : Char} (inLine : c ≠ '\n') {rest line : List Char}
    {lines : List (List Char)} (cut : cutLines rest = line :: lines) :
    cutLines (c :: rest) = (c :: line) :: lines := by
  rw [cutLines, if_neg inLine, cut]

theorem exists_cutLines_eq_cons (text : List Char) :
    ∃ line lines, cutLines text = line :: lines := by
  induction text with
  | nil => exact ⟨[], [], rfl⟩
  | cons c rest ih =>
      by_cases break' : c = '\n'
      · subst break'
        exact ⟨[], _, cutLines_break rest⟩
      · obtain ⟨line, lines, cut⟩ := ih
        exact ⟨_, _, cutLines_of_cons break' cut⟩

/-- Two texts with a line feed between them have the lines of both. -/
theorem cutLines_append (first second : List Char) :
    cutLines (first ++ '\n' :: second) = cutLines first ++ cutLines second := by
  induction first with
  | nil => exact cutLines_break second
  | cons c rest ih =>
      by_cases break' : c = '\n'
      · subst break'
        rw [List.cons_append, cutLines_break, cutLines_break, ih, List.cons_append]
      · obtain ⟨line, lines, cut⟩ := exists_cutLines_eq_cons rest
        rw [cut] at ih
        rw [List.cons_append, cutLines_of_cons break' ih, cutLines_of_cons break' cut]
        rfl

theorem cutLines_of_not_mem {line : List Char} (oneLine : '\n' ∉ line) :
    cutLines line = [line] := by
  induction line with
  | nil => rfl
  | cons c rest ih =>
      have inLine : c ≠ '\n' := by
        rintro rfl
        exact oneLine (List.mem_cons_self ..)
      exact cutLines_of_cons inLine (ih fun later => oneLine (List.mem_cons_of_mem _ later))

/-- Lines that are joined by line feeds are cut apart again. -/
theorem cutLines_intercalate {lines : List (List Char)} (some' : lines ≠ [])
    (oneLine : ∀ line ∈ lines, '\n' ∉ line) :
    cutLines (['\n'].intercalate lines) = lines := by
  induction lines with
  | nil => exact absurd rfl some'
  | cons line lines ih =>
      have single := cutLines_of_not_mem (oneLine line (List.mem_cons_self ..))
      cases lines with
      | nil => rwa [List.intercalate_singleton]
      | cons next lines =>
          rw [List.intercalate_cons_cons, List.append_assoc, List.singleton_append,
            cutLines_append, single, List.singleton_append,
            ih (List.cons_ne_nil _ _) fun one member => oneLine one (List.mem_cons_of_mem _ member)]

/-! ## Keys -/

/-- A key with a backslash before each of its equals signs. -/
def escape (key : List Char) : List Char :=
  key.flatMap fun c => if c = '=' then ['\\', '='] else [c]

theorem escape_cons_of_ne {c : Char} (other : c ≠ '=') (key : List Char) :
    escape (c :: key) = c :: escape key := by
  rw [escape, List.flatMap_cons, if_neg other]
  rfl

/-- No escaped key begins with an equals sign. -/
theorem head?_escape_cons_ne (c : Char) (key tail : List Char) :
    (escape (c :: key) ++ tail).head? ≠ some '=' := by
  by_cases equals : c = '='
  · subst equals
    exact fun same => absurd (Option.some.inj same) (by decide)
  · rw [escape_cons_of_ne equals]
    exact fun same => equals (Option.some.inj same)

theorem unescape_escape (key : List Char) : unescape (escape key) = key := by
  induction key with
  | nil => rfl
  | cons c key ih =>
      by_cases equals : c = '='
      · subst equals
        exact congrArg ('=' :: ·) ih
      · rw [escape_cons_of_ne equals, unescape]
        · rw [ih]
        · rintro rest rfl cut
          cases key with
          | nil => cases cut
          | cons d key =>
              refine head?_escape_cons_ne d key [] ?_
              rw [List.append_nil, cut]
              rfl

/-- An equals sign behind a backslash does not end a key if another one does. -/
theorem cutAtEquals_escaped {text key value : List Char}
    (cut : cutAtEquals text = some (key, value)) :
    cutAtEquals ('\\' :: '=' :: text) = some ('\\' :: '=' :: key, value) := by
  rw [cutAtEquals, cut]

/-- Any other character in front belongs to the key. -/
theorem cutAtEquals_cons {c : Char} {text key value : List Char} (other : c ≠ '=')
    (plain : c = '\\' → text.head? ≠ some '=') (cut : cutAtEquals text = some (key, value)) :
    cutAtEquals (c :: text) = some (c :: key, value) := by
  rw [cutAtEquals, if_neg other, cut]
  rintro rest rfl rfl
  exact plain rfl rfl

/-- **An escaped key is cut off where it ends.** -/
theorem cutAtEquals_escape {key : List Char} (ends : key.getLast? ≠ some '\\')
    (value : List Char) :
    cutAtEquals (escape key ++ '=' :: value) = some (escape key, value) := by
  induction key with
  | nil => rfl
  | cons c key ih =>
      have cut := ih fun last => ends (by rw [List.getLast?_cons, last]; rfl)
      by_cases equals : c = '='
      · subst equals
        exact cutAtEquals_escaped cut
      · rw [escape_cons_of_ne equals]
        refine cutAtEquals_cons equals ?_ cut
        -- a backslash is not the last character, and what follows it is not a bare equals sign
        rintro rfl
        cases key with
        | nil => exact absurd rfl ends
        | cons d key => exact head?_escape_cons_ne d key _

/-! ## Blocks -/

theorem block?_of_not_mem {inside : List Char} (plain : ']' ∉ inside) (rest : List Char) :
    block? ('[' :: (inside ++ ']' :: rest)) = some (inside, rest) := by
  have stays : ∀ c ∈ inside, decide (c ≠ ']') = true := by
    intro c member
    refine decide_eq_true ?_
    rintro rfl
    exact plain member
  have front : (inside ++ ']' :: rest).takeWhile (· ≠ ']') = inside := by
    rw [List.takeWhile_append_of_pos stays]
    simp
  have behind : (inside ++ ']' :: rest).dropWhile (· ≠ ']') = ']' :: rest := by
    rw [List.dropWhile_append_of_pos stays]
    simp
  simp only [block?, behind, front]

/-- A tag holds no bracket. -/
theorem Section.not_mem_of_ofTag? {tag : String} {kind : Section}
    (named : Section.ofTag? tag = some kind) : ']' ∉ tag.toList := by
  intro member
  have kept := List.mem_map_of_mem (f := Section.lowered) (Text.mem_trim member (by decide))
  have found := List.find?_some named
  rw [List.contains_iff_mem] at found
  have plain : ∀ name ∈ kind.tags, ']' ∉ name.toList := by
    cases kind <;> decide
  refine plain _ found ?_
  rwa [String.toList_ofList]

/-! ## Entries -/

/-- How an entry is written behind a tag of its section. -/
def Entry.line (entry : Entry) (tag : String) : String :=
  "[" ++ tag ++ "][" ++ entry.metadata ++ "]" ++ String.ofList (escape entry.key.toList) ++ "=" ++
    entry.value

/-- What makes an entry one that can be written, with a tag of its section: all of it stands on one
line, its parts are trimmed, the metadata do not end their block, and the key does not escape the
equals sign behind it. -/
structure Entry.Writable (entry : Entry) (tag : String) : Prop where
  named : Section.ofTag? tag = some entry.kind
  oneLine : ∀ part ∈ [tag, entry.metadata, entry.key, entry.value], '\n' ∉ part.toList
  trimmed : ∀ part ∈ [entry.metadata, entry.key, entry.value], Text.IsTrimmed part.toList
  metadata : ']' ∉ entry.metadata.toList
  key : entry.key.toList.getLast? ≠ some '\\'

instance (entry : Entry) (tag : String) : Decidable (entry.Writable tag) :=
  decidable_of_iff (Section.ofTag? tag = some entry.kind ∧
      (∀ part ∈ [tag, entry.metadata, entry.key, entry.value], '\n' ∉ part.toList) ∧
      (∀ part ∈ [entry.metadata, entry.key, entry.value], Text.IsTrimmed part.toList) ∧
      ']' ∉ entry.metadata.toList ∧ entry.key.toList.getLast? ≠ some '\\')
    ⟨fun ⟨named, oneLine, trimmed, metadata, key⟩ => ⟨named, oneLine, trimmed, metadata, key⟩,
      fun ⟨named, oneLine, trimmed, metadata, key⟩ => ⟨named, oneLine, trimmed, metadata, key⟩⟩

namespace Entry

variable {entry : Entry} {tag : String}

/-- The characters of a written entry. -/
theorem toList_line (entry : Entry) (tag : String) :
    (entry.line tag).toList = '[' :: (tag.toList ++ ']' :: '[' :: (entry.metadata.toList ++ ']' ::
      (escape entry.key.toList ++ '=' :: entry.value.toList))) := by
  simp [line]

/-- A written entry is cut into its parts. -/
theorem parts?_line (writable : entry.Writable tag) :
    parts? (entry.line tag).toList = some ⟨tag.toList, entry.metadata.toList,
      escape entry.key.toList, entry.value.toList⟩ := by
  have tagged := Section.not_mem_of_ofTag? writable.named
  simp only [toList_line, parts?, partsBehind?, block?_of_not_mem tagged,
    block?_of_not_mem writable.metadata, cutAtEquals_escape writable.key, Option.bind_some,
    Option.map_some, Option.some_or]

/-- A written entry begins with a bracket, and ends with its value or an equals sign. -/
theorem isTrimmed_line (writable : entry.Writable tag) :
    Text.IsTrimmed (entry.line tag).toList where
  first := by
    rw [toList_line]
    rintro c first
    obtain rfl := Option.some.inj first
    decide
  last := by
    rintro c last
    have value := writable.trimmed entry.value (by simp)
    have ending :
        (entry.line tag).toList.getLast? = some (entry.value.toList.getLast?.getD '=') := by
      rw [toList_line]
      simp [List.getLast?_cons, List.getLast?_append]
    rw [ending] at last
    obtain rfl := Option.some.inj last
    cases ends : entry.value.toList.getLast? with
    | none => decide
    | some d => exact value.last d ends

theorem not_mem_line (writable : entry.Writable tag) : '\n' ∉ (entry.line tag).toList := by
  have parts := writable.oneLine
  have key : '\n' ∉ escape entry.key.toList := by
    intro member
    obtain ⟨c, inKey, own⟩ := List.mem_flatMap.mp member
    split at own
    · simp at own
    · obtain rfl := List.mem_singleton.mp own
      exact parts entry.key (by simp) inKey
  simp only [List.mem_cons, List.not_mem_nil, or_false, forall_eq_or_imp, forall_eq] at parts
  obtain ⟨inTag, inMetadata, -, inValue⟩ := parts
  simp [toList_line, inTag, inMetadata, inValue, key]

theorem trimmed_eq {text : String} (trimmed : Text.IsTrimmed text.toList) :
    Mapping.trimmed text.toList = text := by
  rw [Mapping.trimmed, trimmed.trim_eq, String.ofList_toList]

/-- **A written entry is read as that entry.** -/
theorem read_line (writable : entry.Writable tag) :
    Line.read (entry.line tag).toList = .entry entry := by
  have solid : ((entry.line tag).toList.isEmpty || isComment (entry.line tag).toList) = false := by
    rw [toList_line]
    rfl
  have metadata := trimmed_eq (writable.trimmed entry.metadata (by simp))
  have key := trimmed_eq (writable.trimmed entry.key (by simp))
  have value := trimmed_eq (writable.trimmed entry.value (by simp))
  simp only [Line.read, (isTrimmed_line writable).trim_eq, solid, parts?_line writable,
    String.ofList_toList, writable.named, unescape_escape, metadata, key, value]
  rfl

end Entry

/-! ## Files -/

theorem File.ofLines_entries (first : Nat) (entries : List Entry) :
    ofLines first (entries.map Line.entry) = ofEntries entries := by
  have problems : ((entries.map Line.entry).zipIdx first).filterMap problem? = [] := by
    rw [List.filterMap_eq_nil_iff]
    intro line member
    obtain ⟨entry, -, same⟩ := List.mem_map.mp (List.fst_mem_of_mem_zipIdx member)
    obtain ⟨one, number⟩ := line
    obtain rfl : Line.entry entry = one := same
    rfl
  have kept : (entries.map Line.entry).filterMap entry? = entries := by
    rw [List.filterMap_map]
    exact List.filterMap_some
  rw [ofLines, problems, kept, ofEntries]

/-- **A file is read as it was written**: with all its entries in order, and without problems. -/
theorem entries_of_lines (written : List (String × Entry))
    (writable : ∀ one ∈ written, one.2.Writable one.1) :
    File.ofText ("\n".intercalate (written.map fun one => one.2.line one.1)) =
      ⟨written.map Prod.snd, []⟩ := by
  cases written with
  | nil => rfl
  | cons first others =>
      have cut : cutLines ("\n".intercalate
            ((first :: others).map fun one => one.2.line one.1)).toList =
          (first :: others).map fun one => (one.2.line one.1).toList := by
        rw [String.toList_intercalate, List.map_map]
        refine cutLines_intercalate (List.cons_ne_nil _ _) ?_
        intro line member
        obtain ⟨one, listed, rfl⟩ := List.mem_map.mp member
        exact Entry.not_mem_line (writable one listed)
      have read : ((first :: others).map fun one => (one.2.line one.1).toList).map Line.read =
          ((first :: others).map Prod.snd).map Line.entry := by
        rw [List.map_map, List.map_map]
        refine List.map_congr_left fun one member => ?_
        rw [Function.comp_apply, Function.comp_apply, Entry.read_line (writable one member)]
      rw [File.ofText, cut, read, File.ofLines_entries, File.ofEntries]

/-- Entries whose keys hold a backslash before an equals sign, and what looks like a block. -/
def escapedKeys : List (String × Entry) :=
  [("when", ⟨.condition, "Order", "a\\=b [c] = # d", "x = [y]"⟩), (" * ", ⟨.any, "", "[e]", ""⟩)]

/-- These entries, as they are written and read back. -/
theorem entries_of_escaped_keys :
    (∀ one ∈ escapedKeys, one.2.Writable one.1) ∧
      File.ofText "[when][Order]a\\\\=b [c] \\= # d=x = [y]\n[ * ][][e]=" =
        ⟨escapedKeys.map Prod.snd, []⟩ := by
  have writable : ∀ one ∈ escapedKeys, one.2.Writable one.1 := by decide +kernel
  have text : "\n".intercalate (escapedKeys.map fun one => one.2.line one.1) =
      "[when][Order]a\\\\=b [c] \\= # d=x = [y]\n[ * ][][e]=" := by decide +kernel
  have read := entries_of_lines escapedKeys writable
  rw [text] at read
  exact ⟨writable, read⟩

/-- Behind a key that ends in a backslash, the value is cut at its own equals sign. -/
example : File.ofText (Entry.line ⟨.any, "", "a\\", "b=c"⟩ "*") =
    ⟨[⟨.any, "", "a=b", "c"⟩], []⟩ := by
  decide +kernel

end Mapping

end RuleVocabulary
