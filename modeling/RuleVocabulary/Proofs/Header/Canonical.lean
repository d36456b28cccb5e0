import Mathlib.Data.Set.List
import RuleVocabulary.Proofs.Header.Lexical

/-!
# Headers have a canonical form

A package is written as a header of one line: its name, its imports, its imports of functions, its
globals and its templates, in this order, with one space between any two tokens and a semicolon
behind every declaration and every field (`Package.canonical`). The semicolon may follow at once or
be set apart like the other tokens.

The canonical form of a package is read without problems, and what is read is the package again,
provided that its names are well formed (`reading_canonical_of_lexical`). That is needed, as no
header at all is read as any other package (`lexical_iff_exists_reading`).

Main statement: whatever a header was, with or without problems, what was read of it has only
well-formed names and is read again from its canonical form (`reading_is_normalized`).
-/

set_option autoImplicit false

namespace RuleVocabulary.Header

/-! ## Canonical forms -/

/-- The semicolon behind a declaration, set apart by a space or not. -/
def closing (apart : Bool) : String :=
  if apart then " ;" else ";"

/-- Parts of a header with one space between any two of them. -/
def spaced (parts : List String) : String :=
  " ".intercalate parts

def Global.canonical (apart : Bool) (global : Global) : String :=
  spaced ["global", global.typeName, global.identifier] ++ closing apart

def TemplateField.canonical (apart : Bool) (field : TemplateField) : String :=
  spaced [field.typeName, field.name] ++ closing apart

/-- The name of a template always stands between quotes. -/
def Template.canonical (apart : Bool) (template : Template) : String :=
  spaced (["template", "\"" ++ template.name ++ "\""] ++
    template.fields.map (·.canonical apart) ++ ["end"]) ++ closing apart

namespace Package

/-- The declarations of a package one by one, as its canonical form has them. -/
def canonicalParts (apart : Bool) (package : Package) : List String :=
  package.name.toList.map (fun name => spaced ["package", name] ++ closing apart) ++
    package.imports.map (fun target => spaced ["import", target] ++ closing apart) ++
    package.functionImports.map
      (fun target => spaced ["import", "function", target] ++ closing apart) ++
    package.globals.map (·.canonical apart) ++ package.templates.map (·.canonical apart)

def canonical (apart : Bool) (package : Package) : String :=
  spaced (package.canonicalParts apart)

end Package

/-! ## Tokens in a canonical form -/

theorem Lays.append {tokens more : List Token} {text further : List Char}
    (laid : Lays tokens text) (behind : Lays more further) :
    Lays (tokens ++ more) (text ++ further) := by
  induction laid with
  | none => exact behind
  | gap gap token _ ih =>
      rw [List.append_assoc, List.append_assoc]
      exact .gap gap token ih
  | semicolon _ ih => exact .semicolon ih

/-- A single space. -/
def Gap.space : Gap where
  first := ' '
  blank := rfl
  others := []

/-- Tokens that stand in a text which has a space before it. -/
def Written (tokens : List Token) (text : String) : Prop :=
  Lays tokens (' ' :: text.toList)

theorem written_token (token : Token) {text : String} (same : text.toList = token.chars) :
    Written [token] text := by
  have laid := Lays.gap Gap.space token .none
  rwa [List.append_nil, ← same] at laid

theorem Written.closed {tokens : List Token} {text : String} (written : Written tokens text)
    (apart : Bool) : Written (tokens ++ [.semicolon]) (text ++ closing apart) := by
  have semicolon : Lays [.semicolon] (closing apart).toList := by
    cases apart with
    | false => exact .semicolon .none
    | true => exact .gap Gap.space .semicolon .none
  rw [Written, String.toList_append, ← List.cons_append]
  exact written.append semicolon

theorem written_spaced {tokens : List (List Token)} {parts : List String}
    (each : List.Forall₂ Written tokens parts) (some : parts ≠ []) :
    Written tokens.flatten (spaced parts) := by
  rw [Written, spaced, String.toList_intercalate]
  induction each with
  | nil => exact absurd rfl some
  | @cons _ part _ _ first others ih =>
      rw [List.flatten_cons, List.map_cons]
      cases others with
      | nil => rwa [List.flatten_nil, List.append_nil, List.map_nil, List.intercalate_singleton]
      | cons second others =>
          have behind := ih (List.cons_ne_nil _ _)
          rw [List.map_cons, List.intercalate_cons_cons, List.append_assoc, ← List.cons_append]
          exact first.append behind

theorem written_word (word : Word) : Written [.word word] word.text :=
  written_token _ String.toList_ofList

theorem written_type (type : TypeName) : Written [.type type] type.text :=
  written_token _ String.toList_ofList

theorem written_name (name : QualifiedName) : Written [.name name] name.text :=
  written_token _ String.toList_ofList

theorem written_quoted (quoted : QuotedText) :
    Written [.quoted quoted] ("\"" ++ quoted.text ++ "\"") := by
  have inside : quoted.text.toList = quoted.inside := String.toList_ofList
  refine written_token _ ?_
  rw [String.toList_append, String.toList_append, inside]
  rfl

theorem written_field (field : Field) (apart : Bool) :
    Written field.tokens (field.declared.canonical apart) :=
  (written_spaced (.cons (written_type field.type) (.cons (written_word field.name) .nil))
    (List.cons_ne_nil _ _)).closed apart

/-! ## Declarations in a canonical form -/

section Declarations

variable (apart : Bool)

theorem written_package (name : QualifiedName) :
    Written (Declaration.package name).tokens (spaced ["package", name.text] ++ closing apart) :=
  (written_spaced (.cons (written_token (.keyword .packageWord) rfl)
    (.cons (written_name name) .nil)) (List.cons_ne_nil _ _)).closed apart

theorem written_typeImport (target : QualifiedName) :
    Written (Declaration.typeImport target).tokens
      (spaced ["import", target.text] ++ closing apart) :=
  (written_spaced (.cons (written_token (.keyword .importWord) rfl)
    (.cons (written_name target) .nil)) (List.cons_ne_nil _ _)).closed apart

theorem written_functionImport (target : QualifiedName) :
    Written (Declaration.functionImport target).tokens
      (spaced ["import", "function", target.text] ++ closing apart) :=
  (written_spaced (.cons (written_token (.keyword .importWord) rfl)
    (.cons (written_token (.keyword .functionWord) rfl) (.cons (written_name target) .nil)))
    (List.cons_ne_nil _ _)).closed apart

theorem written_global (type : TypeName) (name : Word) :
    Written (Declaration.global type name).tokens
      ((⟨name.text, type.text⟩ : Global).canonical apart) :=
  (written_spaced (.cons (written_token (.keyword .globalWord) rfl)
    (.cons (written_type type) (.cons (written_word name) .nil)))
    (List.cons_ne_nil _ _)).closed apart

/-- The tokens of a template, part by part up to its semicolon. -/
def templateParts (name : QuotedText) (fields : List Field) : List (List Token) :=
  [[.keyword .templateWord], [.quoted name]] ++ fields.map Field.tokens ++ [[.keyword .endWord]]

theorem written_template (name : QuotedText) (fields : List Field) :
    Written (Declaration.template (.inl name) fields).tokens
      ((⟨name.text, fields.map Field.declared⟩ : Template).canonical apart) := by
  have each : List.Forall₂ Written (templateParts name fields)
      (["template", "\"" ++ name.text ++ "\""] ++
        (fields.map Field.declared).map (·.canonical apart) ++ ["end"]) := by
    refine List.rel_append (List.rel_append ?_ ?_) ?_
    · exact .cons (written_token _ rfl) (.cons (written_quoted name) .nil)
    · rw [List.map_map, List.forall₂_map_left_iff, List.forall₂_map_right_iff, List.forall₂_same]
      exact fun field _ => written_field field apart
    · exact .cons (written_token _ rfl) .nil
  have tokens : (Declaration.template (.inl name) fields).tokens =
      (templateParts name fields).flatten ++ [.semicolon] := by
    simp [Declaration.tokens, templateParts, List.flatMap]
  rw [tokens]
  exact (written_spaced each (List.append_ne_nil_of_right_ne_nil _ (List.cons_ne_nil _ _))).closed
    apart

end Declarations

/-! ## Packages in a canonical form -/

/-- All that a package says, in names that are known to be well formed. -/
structure Wording where
  name : Option QualifiedName
  imports : List QualifiedName
  functionImports : List QualifiedName
  globals : List (TypeName × Word)
  templates : List (QuotedText × List Field)

theorem written_map {α : Type} {tokens : α → List Token} {text : α → String}
    (each : ∀ source, Written (tokens source) (text source)) (sources : List α) :
    List.Forall₂ Written (sources.map tokens) (sources.map text) := by
  rw [List.forall₂_map_left_iff, List.forall₂_map_right_iff, List.forall₂_same]
  exact fun source _ => each source

namespace Wording

variable (wording : Wording)

def package : Package where
  name := wording.name.map QualifiedName.text
  imports := wording.imports.map QualifiedName.text
  functionImports := wording.functionImports.map QualifiedName.text
  globals := wording.globals.map fun (type, name) => ⟨name.text, type.text⟩
  templates := wording.templates.map fun (name, fields) => ⟨name.text, fields.map Field.declared⟩

/-- The declarations in the order of the canonical form. -/
def declarations : List Declaration :=
  wording.name.toList.map .package ++ wording.imports.map .typeImport ++
    wording.functionImports.map .functionImport ++
    wording.globals.map (fun (type, name) => .global type name) ++
    wording.templates.map (fun (name, fields) => .template (.inl name) fields)

theorem ofDeclarations_declarations :
    Package.ofDeclarations wording.declarations = wording.package := by
  have nothing : ∀ {α β : Type} (sources : List α),
      sources.filterMap (fun _ => (none : Option β)) = [] :=
    fun sources => List.filterMap_eq_nil_iff.mpr fun _ _ => rfl
  simp only [Package.ofDeclarations, declarations, package, List.filterMap_append,
    List.filterMap_map, Function.comp_def, Declaration.packageName?, Declaration.typeImport?,
    Declaration.functionImport?, Declaration.global?, Declaration.template?, nothing,
    List.filterMap_eq_map', List.append_nil, List.nil_append]
  cases wording.name <;> rfl

theorem written_declarations (apart : Bool) :
    List.Forall₂ Written (wording.declarations.map Declaration.tokens)
      (wording.package.canonicalParts apart) := by
  have name : List.Forall₂ Written
      ((wording.name.toList.map Declaration.package).map Declaration.tokens)
      ((wording.name.map QualifiedName.text).toList.map
        (fun name => spaced ["package", name] ++ closing apart)) := by
    cases wording.name with
    | none => exact .nil
    | some name => exact .cons (written_package apart name) .nil
  rw [declarations, package, Package.canonicalParts]
  simp only [List.map_append]
  refine List.rel_append (List.rel_append (List.rel_append (List.rel_append name ?_) ?_) ?_) ?_
  · simp only [List.map_map]
    exact written_map (written_typeImport apart) wording.imports
  · simp only [List.map_map]
    exact written_map (written_functionImport apart) wording.functionImports
  · simp only [List.map_map]
    exact written_map (fun (type, name) => written_global apart type name) wording.globals
  · simp only [List.map_map]
    exact written_map (fun (name, fields) => written_template apart name fields) wording.templates

end Wording

/-- What is true of each member of a list is true of all of them at once. -/
theorem exists_map_eq {α β : Type} {f : α → β} {members : List β}
    (each : ∀ member ∈ members, ∃ source, f source = member) :
    ∃ sources : List α, sources.map f = members :=
  (Set.ext_iff.mp (Set.range_list_map f) members).mpr each

theorem Package.Lexical.exists_wording {package : Package} (lexical : package.Lexical) :
    ∃ wording : Wording, wording.package = package := by
  obtain ⟨name?, imports, functionImports, globals, templates⟩ := package
  have named : ∃ name : Option QualifiedName, name.map QualifiedName.text = name? := by
    cases name? with
    | none => exact ⟨none, rfl⟩
    | some name =>
        obtain ⟨written, rfl⟩ := lexical.name name rfl
        exact ⟨some written, rfl⟩
  have declared : ∃ sources : List (TypeName × Word),
      sources.map (fun (type, name) => (⟨name.text, type.text⟩ : Global)) = globals := by
    refine exists_map_eq fun global member => ?_
    obtain ⟨type, name, same⟩ := lexical.globals global member
    exact ⟨(type, name), same⟩
  have told : ∃ sources : List (QuotedText × List Field), sources.map
      (fun (name, fields) => (⟨name.text, fields.map Field.declared⟩ : Template)) = templates := by
    refine exists_map_eq fun template member => ?_
    obtain ⟨name, fields, same⟩ := lexical.templates template member
    exact ⟨(name, fields), same⟩
  obtain ⟨name, rfl⟩ := named
  obtain ⟨imports, rfl⟩ := exists_map_eq lexical.imports
  obtain ⟨functionImports, rfl⟩ := exists_map_eq lexical.functionImports
  obtain ⟨globals, rfl⟩ := declared
  obtain ⟨templates, rfl⟩ := told
  exact ⟨⟨name, imports, functionImports, globals, templates⟩, rfl⟩

/-! ## Canonical forms are read back -/

/-- Behind the gap in front of them, parts that are written stand one behind the other. -/
theorem exists_laid {tokens : List (List Token)} {parts : List String}
    (each : List.Forall₂ Written tokens parts) :
    ∃ behind, skipGap (spaced parts).toList = skipGap behind ∧ Lays tokens.flatten behind := by
  by_cases none : parts = []
  · subst none
    cases each
    exact ⟨[], rfl, .none⟩
  · exact ⟨_, (skipGap_blank rfl _).symm, written_spaced each none⟩

theorem ofChars_of_laid {declarations : List Declaration} {text behind : List Char}
    (same : skipGap text = skipGap behind)
    (laid : Lays (declarations.flatMap Declaration.tokens) behind) :
    Reading.ofChars text = .ok ⟨Package.ofDeclarations declarations, []⟩ := by
  obtain ⟨located, outlined, statements⟩ := outline_laid laid
  rw [← outline_congr same] at outlined
  have quiet : ∀ one ∈ located, one.statement.complaint? = none := by
    intro one member
    refine complaint?_statements declarations one.statement ?_
    rw [← statements]
    exact List.mem_map_of_mem member
  refine Reading.ofChars_eq_ok_iff.mpr ⟨located, outlined, ?_⟩
  rw [statements, ofStatements_statements, problems_eq_nil_iff.mpr quiet]

/-- **A package with well-formed names is read back from its canonical form**, and there is nothing
to complain about. -/
theorem reading_canonical_of_lexical {package : Package} (lexical : package.Lexical)
    (apart : Bool) : Reading.ofText (package.canonical apart) = .ok ⟨package, []⟩ := by
  obtain ⟨wording, rfl⟩ := lexical.exists_wording
  obtain ⟨behind, same, laid⟩ := exists_laid (wording.written_declarations apart)
  have read := ofChars_of_laid same laid
  rwa [wording.ofDeclarations_declarations] at read

/-- **The packages that are read from headers are those with well-formed names.** -/
theorem lexical_iff_exists_reading {package : Package} :
    package.Lexical ↔ ∃ header problems, Reading.ofText header = .ok ⟨package, problems⟩ := by
  constructor
  · intro lexical
    exact ⟨package.canonical false, [], reading_canonical_of_lexical lexical false⟩
  · rintro ⟨header, problems, read⟩
    exact lexical_of_reading read

/-- A package that is called by no name is not read back. -/
example : Reading.ofText ((⟨some "no name", [], [], [], []⟩ : Package).canonical false) ≠
    .ok ⟨⟨some "no name", [], [], [], []⟩, []⟩ := by
  decide +kernel

/-- **What has been read is normalized.** Whatever the header was, and whatever was wrong with it,
all names of the package are well formed, and its canonical form is read without problems as the
same package. -/
theorem reading_is_normalized {header : String} {reading : Reading}
    (read : Reading.ofText header = .ok reading) :
    reading.package.Lexical ∧ ∀ apart,
      Reading.ofText (reading.package.canonical apart) = .ok ⟨reading.package, []⟩ :=
  ⟨lexical_of_reading read, reading_canonical_of_lexical (lexical_of_reading read)⟩

/-- A header in fragments: a dot that is left over, keywords as names, a global without a
semicolon and a template without its `end`. -/
def fragments : String :=
  "package a.b.\nimport function.*\nglobal end[] import # none\ntemplate end T\n x import c"

/-- What is understood of it. -/
def fragmentsPackage : Package where
  name := some "a.b"
  imports := ["function.*", "c"]
  functionImports := []
  globals := [⟨"import", "end[]"⟩]
  templates := [⟨"end", [⟨"x", "T"⟩]⟩]

def fragmentsProblems : List Problem :=
  [⟨"line 1:12 unrecognized statement in package header: '.'", ⟨1, 12⟩⟩,
    ⟨"line 4:1 template 'end' is missing its 'end' keyword", ⟨4, 1⟩⟩]

theorem fragments_are_normalized :
    Reading.ofText fragments = .ok ⟨fragmentsPackage, fragmentsProblems⟩ ∧
      fragmentsPackage.canonical false = "package a.b; import function.*; import c; " ++
        "global end[] import; template \"end\" T x; end;" ∧
      fragmentsPackage.Lexical ∧ ∀ apart,
        Reading.ofText (fragmentsPackage.canonical apart) = .ok ⟨fragmentsPackage, []⟩ := by
  have read : Reading.ofText fragments = .ok ⟨fragmentsPackage, fragmentsProblems⟩ := by
    decide +kernel
  exact ⟨read, by decide +kernel, reading_is_normalized read⟩

end RuleVocabulary.Header
