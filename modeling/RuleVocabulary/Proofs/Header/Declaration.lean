import RuleVocabulary.Header.Package
import RuleVocabulary.Proofs.Header.Word

/-!
# Headers as they are written

A header that declares something is a sequence of declarations, each of them a sequence of tokens,
with gaps between the tokens. Names, types, quoted strings and gaps carry the proofs that they are
well formed, and a token the proof that no part of it is skipped as a gap. So whatever can be built
here can be written (`layOut`), and it says what it declares (`Package.ofDeclarations`).

A gap begins with a blank. That keeps a name from running into what follows it, and a comment from
being taken for part of a token.
-/

set_option autoImplicit false

namespace RuleVocabulary.Header

/-! ## Names -/

/-- A letter, an underscore or a dollar sign, and any number of these or digits behind it. Keywords
are words as well. -/
structure Word where
  first : Char
  others : List Char
  starts : isWordStart first = true
  goesOn : ∀ c ∈ others, isWordPart c = true

namespace Word

def chars (word : Word) : List Char :=
  word.first :: word.others

def text (word : Word) : String :=
  String.ofList word.chars

/-- Words with a dot before each. -/
def dotted (words : List Word) : List Char :=
  words.flatMap fun word => '.' :: word.chars

end Word

/-- Words joined by dots, and perhaps `.*` behind them. -/
structure QualifiedName where
  first : Word
  more : List Word
  isWildcard : Bool

namespace QualifiedName

/-- What follows the first word. -/
def others (name : QualifiedName) : List Char :=
  Word.dotted name.more ++ if name.isWildcard then ['.', '*'] else []

def chars (name : QualifiedName) : List Char :=
  name.first.chars ++ name.others

def text (name : QualifiedName) : String :=
  String.ofList name.chars

end QualifiedName

/-- Words joined by dots, and a number of empty brackets behind them. -/
structure TypeName where
  first : Word
  more : List Word
  dimensions : Nat

namespace TypeName

/-- What follows the first word. -/
def others (type : TypeName) : List Char :=
  Word.dotted type.more ++ (List.replicate type.dimensions ['[', ']']).flatten

def chars (type : TypeName) : List Char :=
  type.first.chars ++ type.others

def text (type : TypeName) : String :=
  String.ofList type.chars

end TypeName

/-- What stands between two quotes, on one line. -/
structure QuotedText where
  inside : List Char
  quotable : ∀ c ∈ inside, isQuotable c = true

namespace QuotedText

def chars (quoted : QuotedText) : List Char :=
  '"' :: quoted.inside ++ ['"']

def text (quoted : QuotedText) : String :=
  String.ofList quoted.inside

end QuotedText

/-! ## Declarations -/

/-- A field of a template. Its type does not begin with a keyword that ends a template early. -/
structure Field where
  type : TypeName
  name : Word
  free : ∀ keyword ∈ Keyword.reserved, type.first.chars ≠ keyword.spelling

/-- The field as a template has it. -/
def Field.declared (field : Field) : TemplateField :=
  ⟨field.name.text, field.type.text⟩

/-- What a header declares one by one. A template is called by a word or a quoted string, and a
directive is given a quoted string or a name. -/
inductive Declaration where
  | package (name : QualifiedName)
  | typeImport (target : QualifiedName)
  | functionImport (target : QualifiedName)
  | global (type : TypeName) (name : Word)
  | directive (keyword : Keyword) (isDirective : keyword = .expanderWord ∨ keyword = .dialectWord)
      (argument : QuotedText ⊕ QualifiedName)
  | template (name : QuotedText ⊕ Word) (fields : List Field)

namespace Declaration

def packageName? : Declaration → Option String
  | package name => some name.text
  | _ => none

def typeImport? : Declaration → Option String
  | typeImport target => some target.text
  | _ => none

def functionImport? : Declaration → Option String
  | functionImport target => some target.text
  | _ => none

def global? : Declaration → Option Global
  | global type name => some ⟨name.text, type.text⟩
  | _ => none

def template? : Declaration → Option Template
  | template name fields =>
    some ⟨name.elim QuotedText.text Word.text, fields.map Field.declared⟩
  | _ => none

end Declaration

/-- What a sequence of declarations declares: the name given last, and all the others in order. -/
def Package.ofDeclarations (declarations : List Declaration) : Package where
  name := (declarations.filterMap Declaration.packageName?).getLast?
  imports := declarations.filterMap Declaration.typeImport?
  functionImports := declarations.filterMap Declaration.functionImport?
  globals := declarations.filterMap Declaration.global?
  templates := declarations.filterMap Declaration.template?

/-! ## Tokens -/

/-- Some characters of which none can be skipped, whatever follows them. -/
structure Token where
  chars : List Char
  solid : ∀ rest, skipGap (chars ++ rest) = chars ++ rest

theorem isGapBlank_of_isWordStart {c : Char} (starts : isWordStart c = true) :
    isGapBlank c = false := by
  by_contra blank
  rw [Bool.not_eq_false] at blank
  have outside := isWordPart_of_isGapBlank blank
  rw [isWordPart_of_isWordStart starts] at outside
  cases outside

theorem Word.solid (word : Word) (rest : List Char) :
    skipGap (word.chars ++ rest) = word.chars ++ rest := by
  refine skipGap_eq_self (isGapBlank_of_isWordStart word.starts) ?_ ?_ (word.others ++ rest)
  · intro hash
    have starts := word.starts
    rw [hash] at starts
    cases starts
  · intro slash
    have starts := word.starts
    rw [slash] at starts
    cases starts

namespace Token

def semicolon : Token where
  chars := [';']
  solid := skipGap_eq_self rfl (by decide) (by decide)

def keyword (keyword : Keyword) : Token where
  chars := keyword.spelling
  solid rest := by cases keyword <;> exact skipGap_eq_self rfl (by decide) (by decide) _

def word (word : Word) : Token where
  chars := word.chars
  solid := word.solid

def name (name : QualifiedName) : Token where
  chars := name.chars
  solid rest := by rw [QualifiedName.chars, List.append_assoc, Word.solid]

def type (type : TypeName) : Token where
  chars := type.chars
  solid rest := by rw [TypeName.chars, List.append_assoc, Word.solid]

def quoted (quoted : QuotedText) : Token where
  chars := quoted.chars
  solid rest := skipGap_eq_self rfl (by decide) (by decide) _

end Token

/-- The tokens of a field. -/
def Field.tokens (field : Field) : List Token :=
  [.type field.type, .word field.name, .semicolon]

/-- The tokens of a declaration. A semicolon closes it. -/
def Declaration.tokens : Declaration → List Token
  | package name => [.keyword .packageWord, .name name, .semicolon]
  | typeImport target => [.keyword .importWord, .name target, .semicolon]
  | functionImport target =>
    [.keyword .importWord, .keyword .functionWord, .name target, .semicolon]
  | global type name => [.keyword .globalWord, .type type, .word name, .semicolon]
  | directive keyword _ argument =>
    [.keyword keyword, argument.elim .quoted .name, .semicolon]
  | template name fields =>
    .keyword .templateWord :: name.elim .quoted .word ::
      (fields.flatMap Field.tokens ++ [.keyword .endWord, .semicolon])

/-! ## Layout -/

/-- A blank, and any number of blanks and comments behind it. -/
structure Gap where
  first : Char
  blank : isGapBlank first = true
  others : List Filler

def Gap.chars (gap : Gap) : List Char :=
  gap.first :: gap.others.flatMap Filler.chars

/-- Tokens with a gap before each of them. -/
def gapped (gaps : Nat → Gap) : List Token → List Char
  | [] => []
  | token :: tokens => (gaps 0).chars ++ (token.chars ++ gapped (fun n => gaps (n + 1)) tokens)

/-- Tokens with a gap between any two of them. -/
def layOut (gaps : Nat → Gap) : List Token → List Char
  | [] => []
  | token :: tokens => token.chars ++ gapped gaps tokens

theorem skipGap_fillers (fillers : List Filler) (rest : List Char) :
    skipGap (fillers.flatMap Filler.chars ++ rest) = skipGap rest := by
  induction fillers with
  | nil => rfl
  | cons filler fillers ih =>
      rw [List.flatMap_cons, List.append_assoc, skipGap_filler, ih]

theorem skipGap_gap (gap : Gap) (rest : List Char) :
    skipGap (gap.chars ++ rest) = skipGap rest := by
  rw [Gap.chars, List.cons_append, skipGap_blank gap.blank, skipGap_fillers]

/-- A text in which tokens stand one behind the other, each behind a gap. A semicolon needs none. -/
inductive Lays : List Token → List Char → Prop where
  | none : Lays [] []
  | gap (gap : Gap) (token : Token) {tokens : List Token} {text : List Char}
      (behind : Lays tokens text) : Lays (token :: tokens) (gap.chars ++ (token.chars ++ text))
  | semicolon {tokens : List Token} {text : List Char} (behind : Lays tokens text) :
      Lays (.semicolon :: tokens) (';' :: text)

theorem lays_gapped (gaps : Nat → Gap) (tokens : List Token) :
    Lays tokens (gapped gaps tokens) := by
  induction tokens generalizing gaps with
  | nil => exact .none
  | cons token tokens ih => exact .gap (gaps 0) token (ih _)

/-- A text that is empty, or begins with what no name goes on with: a blank or a semicolon. -/
def EndsName (tail : List Char) : Prop :=
  ∀ c ∈ tail.head?, isGapBlank c = true ∨ c = ';'

namespace Lays

variable {token : Token} {tokens : List Token} {text : List Char}

/-- **Behind its gap, a token is all there.** -/
theorem exists_behind (laid : Lays (token :: tokens) text) :
    ∃ rest, skipGap text = token.chars ++ rest ∧ Lays tokens rest := by
  cases laid with
  | gap gap token behind => exact ⟨_, by rw [skipGap_gap, token.solid], behind⟩
  | semicolon behind => exact ⟨_, Token.semicolon.solid _, behind⟩

theorem endsName (laid : Lays tokens text) : EndsName text := by
  intro c first
  cases laid with
  | none => cases first
  | gap gap _ _ =>
      obtain rfl := Option.some.inj first
      exact .inl gap.blank
  | semicolon _ => exact .inr (Option.some.inj first).symm

theorem skipSemicolon (laid : Lays (.semicolon :: tokens) text) :
    Lays tokens (Header.skipSemicolon text) := by
  obtain ⟨rest, same, behind⟩ := laid.exists_behind
  rwa [skipSemicolon_of_semicolon same]

end Lays

/-- A gap in front of the first token makes no difference. -/
theorem skipGap_layOut (gap : Gap) (gaps : Nat → Gap) (tokens : List Token) :
    skipGap (layOut gaps tokens) = skipGap (gapped (fun n => Nat.casesOn n gap gaps) tokens) := by
  cases tokens with
  | nil => rfl
  | cons token tokens => rw [gapped, skipGap_gap, layOut]

end RuleVocabulary.Header
