import RuleVocabulary.Proofs.Header.Blank
import RuleVocabulary.Proofs.Loader.Account
import RuleVocabulary.Proofs.Loader.Imported
import RuleVocabulary.Proofs.Loader.Repetition

/-!
# The order of imports

Imports that are reordered give the same names and keep builds alike, and the rest of the package
keeps them so (`alike_entered`). So the order of imports does not matter to a build beyond what
they shadow: the order of packages, and of the imports of one short name.

Main statement: builds with reordered imports end alike (`reordered_imports_end_alike`). One thing
does come between them: a blank header is not read, so its problems are not reported. Of two headers
with the same problems one may be blank and the other one not (`blank_header_hides_problems`).
-/

set_option autoImplicit false

namespace RuleVocabulary

/-- A package with other imports. -/
def Header.Package.withImports (package : Package) (imports : List String) : Package :=
  { package with imports := imports }

namespace Loader

variable {archives : List Archive}

/-! ## Packages -/

/-- The items of a package behind its imports. -/
def behindImports (package : Header.Package) : List Item :=
  package.templates.flatMap Item.ofTemplate ++ package.globals.map .bound

theorem ofPackage_eq (package : Header.Package) :
    Item.ofPackage package = (singles package.imports).map .imported ++ behindImports package :=
  List.append_assoc ..

/-- **Packages with reordered imports are entered alike**, or end with the same fault. -/
theorem alike_entered {loader : Loader} (ready : Ready loader) (reading : Header.Reading)
    {imports : List String} (reordered : Imports.Reordered reading.package.imports imports) :
    let one := entered loader archives reading
    let other := entered loader archives { reading with
      package := reading.package.withImports imports }
    other.1 = one.1 ∧ other.2.loader.cleared = one.2.loader.cleared ∧
      (one.1 = .ok () → one.2.Alike other.2) := by
  intro one other
  have scope : packageScope loader.settings (reading.package.withImports imports) =
      packageScope loader.settings reading.package :=
    congrArg (Scope.mk · loader.settings) (Imports.ofTargets_of_reordered reordered)
  have first : one = forEach (enterItem (packageScope loader.settings reading.package) archives)
      ((singles reading.package.imports).map .imported ++ behindImports reading.package)
      (begun loader reading) := by
    rw [← ofPackage_eq]
    rfl
  have second : other = forEach (enterItem (packageScope loader.settings reading.package) archives)
      ((singles imports).map .imported ++ behindImports reading.package)
      (begun loader reading) := by
    rw [← scope]
    exact congrArg (forEach _ · _) (ofPackage_eq (reading.package.withImports imports))
  rw [forEach_append] at first second
  have perm : (singles imports).Perm (singles reading.package.imports) := reordered.perm.filter _
  cases opens : (begun loader reading).loader.opened archives (singles reading.package.imports) with
  | error fault =>
      have reopens := (opened_of_perm perm _ _).trans opens
      obtain ⟨left, failed⟩ := @forEach_imported_of_refused
        (packageScope loader.settings reading.package) archives _ _ _ opens
      obtain ⟨right, likewise⟩ := @forEach_imported_of_refused
        (packageScope loader.settings reading.package) archives _ _ _ reopens
      rw [failed] at first
      rw [likewise] at second
      rw [first, second]
      exact ⟨rfl, rfl, nofun⟩
  | ok after =>
      have reopens := (opened_of_perm perm _ _).trans opens
      rw [forEach_imported ready opens] at first
      rw [forEach_imported ready reopens] at second
      have different : after.draft.factTypes.Nodup := by
        rw [draft_of_opened opens]
        exact List.nodup_nil
      have alike := @alike_imported _ _ reordered
        (packageScope loader.settings reading.package)
        { begun loader reading with loader := after } different after
      obtain ⟨answer, left⟩ := alike_forEach
        (fun item _ _ alike => @alike_enterItem (packageScope loader.settings reading.package)
          archives _ _ alike item) alike (behindImports reading.package)
      rw [first, second]
      exact ⟨answer, left.loader, fun _ => left⟩

/-! ## Builds -/

theorem alike_enterSentences (files : List Mapping.File) {first second : Vocabulary}
    (alike : first.Alike second) :
    (enterSentences files first).Alike (enterSentences files second) := by
  rw [enterSentences_eq, enterSentences_eq]
  exact ⟨alike.factTypes, alike.fields, alike.fieldTypes, alike.globals,
    congrArg (· ++ sentencesOf .condition files) alike.conditionSentences,
    congrArg (· ++ sentencesOf .consequence files) alike.actionSentences⟩

/-- The messages about a header that a build leaves out, since it does not read a blank one. -/
def unreported (header : String) (reading : Header.Reading) : List String :=
  if Text.trim header.toList = [] then reading.problems.map Header.Problem.message else []

/-- How two builds end alike that leave out the given messages: with the same fault, or with
vocabularies that are alike and, counting what they leave out, with the same messages in some order.
They leave the same registry and the same expander. -/
structure EndsAlike (hidden others : List String) (built rebuilt : Except Fault Outcome × Loader) :
    Prop where
  registry : rebuilt.2.registry = built.2.registry
  expander : rebuilt.2.expander = built.2.expander
  answers : (∃ fault, built.1 = .error fault ∧ rebuilt.1 = .error fault) ∨
    ∃ outcome changed, built.1 = .ok outcome ∧ rebuilt.1 = .ok changed ∧
      outcome.vocabulary.Alike changed.vocabulary ∧
      (others ++ changed.messages).Perm (hidden ++ outcome.messages)

/-- Builds end alike if they enter the same items but for the order of imports. -/
theorem endsAlike_of_declared {loader : Loader} (ready : Ready loader) {header other : String}
    {reading : Header.Reading} {imports : List String} (read : declared header = .ok reading)
    (again : declared other = .ok { reading with package := reading.package.withImports imports })
    (reordered : Imports.Reordered reading.package.imports imports) (archives : List Archive)
    (files : List Mapping.File) :
    EndsAlike [] [] (loader.build header archives files) (loader.build other archives files) := by
  obtain ⟨answer, left, alike⟩ := @alike_entered archives loader ready reading imports reordered
  rw [build_eq, build_eq, read, again]
  simp only
  generalize entered loader archives reading = one at *
  generalize entered loader archives _ = another at *
  obtain ⟨_, final⟩ := another
  obtain ⟨fault | done, after⟩ := one
  · obtain rfl := answer
    exact ⟨registry_of_cleared left, expander_of_cleared left, .inl ⟨fault, rfl, rfl⟩⟩
  · obtain rfl := answer
    have close := alike rfl
    exact ⟨registry_of_cleared left, expander_of_cleared left, .inr ⟨_, _, rfl, rfl,
      alike_enterSentences files close.vocabulary, close.messages⟩⟩

/-- Of a header that declares nothing a build reports the problems, unless it is blank. -/
theorem declared_of_nothing {header : String} {problems : List Header.Problem}
    (read : Header.Reading.ofText header = .ok ⟨⟨none, [], [], [], []⟩, problems⟩) :
    declared header = .ok ⟨⟨none, [], [], [], []⟩,
      if Text.trim header.toList = [] then [] else problems⟩ := by
  by_cases blank : Text.trim header.toList = []
  · rw [declared_of_blank blank, if_pos blank]
  · rw [declared_of_written blank, read, if_neg blank]

/-- With what a build leaves out, all problems of a header that declares nothing are told. -/
theorem unreported_append (header : String) (package : Header.Package)
    (problems : List Header.Problem) :
    unreported header ⟨package, problems⟩ ++
        (if Text.trim header.toList = [] then [] else problems).map Header.Problem.message =
      problems.map Header.Problem.message := by
  unfold unreported
  split
  · exact List.append_nil _
  · rfl

/-- **The order of imports does not matter beyond what they shadow.** Take a loader in whatever
state a run of builds and resets has left it, and two headers that declare the same, with the same
problems, except that the imports of the second one are reordered. Builds with them end alike. If
both headers are blank or neither is, they leave out the same messages, so they report the same ones
in some order. -/
theorem reordered_imports_end_alike (settings : Settings) (calls : List Call)
    (header other : String) (archives : List Archive) (files : List Mapping.File)
    (reading : Header.Reading) (imports : List String)
    (read : Header.Reading.ofText header = .ok reading)
    (again : Header.Reading.ofText other =
      .ok { reading with package := reading.package.withImports imports })
    (reordered : Imports.Reordered reading.package.imports imports) :
    let loader := (ofSettings settings).after calls
    EndsAlike (unreported header reading) (unreported other reading)
      (loader.build header archives files) (loader.build other archives files) := by
  intro loader
  by_cases blank : Text.trim header.toList = [] ∨ Text.trim other.toList = []
  · -- Neither header declares anything.
    obtain ⟨package, problems⟩ := reading
    have nothing : package = ⟨none, [], [], [], []⟩ ∧ imports = [] := by
      rcases blank with blank | blank
      · obtain rfl := Header.package_of_blank blank read
        exact ⟨rfl, List.perm_nil.mp reordered.perm⟩
      · have empty := Header.package_of_blank blank again
        obtain ⟨name, own, functions, globals, templates⟩ := package
        simp only [Header.Package.withImports, Header.Package.mk.injEq] at empty
        obtain ⟨rfl, rfl, rfl, rfl, rfl⟩ := empty
        obtain rfl : own = [] := List.nil_perm.mp reordered.perm
        exact ⟨rfl, rfl⟩
    obtain ⟨rfl, rfl⟩ := nothing
    rw [build_of_nothing (declared_of_nothing read), build_of_nothing (declared_of_nothing again)]
    refine ⟨rfl, rfl, .inr ⟨_, _, rfl, rfl, .refl _, ?_⟩⟩
    simp only [unreported_append]
    exact .refl _
  · rw [not_or] at blank
    rw [← declared_of_written blank.1] at read
    rw [← declared_of_written blank.2] at again
    rw [unreported, unreported, if_neg blank.1, if_neg blank.2]
    exact endsAlike_of_declared (ready_after settings calls) read again reordered archives files

/-- Imports of a type that is known from the start, of one that is nowhere, and of one from an
archive. -/
def listed : List String := ["java.util.Date", "a.Gone", "a.String"]

/-- The same imports in another order. The archive is expanded for the first of them. -/
def relisted : List String := ["a.String", "java.util.Date", "a.Gone"]

theorem reordered_relisted : Imports.Reordered listed relisted where
  perm := by decide
  packages := by decide
  named := by
    intro name
    by_cases moved : "String" = name
    · subst moved
      decide
    · have other : Imports.names name "a.String" = false := by
        rw [Imports.names, show Name.short "a.String" = "String" by decide,
          decide_eq_false moved, Bool.and_false]
      simp only [listed, relisted, List.filter_cons, other, Bool.false_eq_true, ↓reduceIte,
        List.filter_nil]

/-- Both orders list the two types that are found, each in its own order. -/
theorem relisted_imports_end_alike :
    ∃ outcome changed,
      ((ofSettings .default).build "import java.util.Date;\nimport a.Gone;\nimport a.String;"
        [shadowing] []).1 = .ok outcome ∧
      ((ofSettings .default).build "import a.String;\nimport java.util.Date;\nimport a.Gone;"
        [shadowing] []).1 = .ok changed ∧
      outcome.vocabulary.Alike changed.vocabulary ∧
      changed.messages.Perm outcome.messages ∧
      outcome.vocabulary.factTypes = ["Date", "String"] := by
  have factTypes : ((ofSettings .default).build
        "import java.util.Date;\nimport a.Gone;\nimport a.String;" [shadowing] []).1.map
      (·.vocabulary.factTypes) = .ok ["Date", "String"] := by
    decide +kernel
  have read : Header.Reading.ofText "import java.util.Date;\nimport a.Gone;\nimport a.String;" =
      .ok ⟨⟨none, listed, [], [], []⟩, []⟩ := by
    decide +kernel
  have again : Header.Reading.ofText "import a.String;\nimport java.util.Date;\nimport a.Gone;" =
      .ok ⟨⟨none, relisted, [], [], []⟩, []⟩ := by
    decide +kernel
  have alike := reordered_imports_end_alike .default [] _ _ [shadowing] [] _ relisted read again
    reordered_relisted
  simp only [after_nil] at alike
  rcases alike.answers with ⟨fault, failed, -⟩ | ⟨outcome, changed, built, rebuilt, same, perm⟩
  · rw [failed] at factTypes
    cases factTypes
  · rw [built] at factTypes
    rw [unreported, unreported, if_neg (by decide), if_neg (by decide)] at perm
    exact ⟨outcome, changed, built, rebuilt, same, perm, Except.ok.inj factTypes⟩

/-- **A blank header hides its problems.** Two headers are read in the same way, with one problem
each. The first one is blank, and a build does not report its problem. -/
theorem blank_header_hides_problems :
    ∃ reading outcome changed,
      Header.Reading.ofText "\x0c" = .ok reading ∧ Header.Reading.ofText "\x0c\n;" = .ok reading ∧
      ((ofSettings .default).build "\x0c" [] []).1 = .ok outcome ∧
      ((ofSettings .default).build "\x0c\n;" [] []).1 = .ok changed ∧
      ¬ changed.messages.Perm outcome.messages := by
  refine ⟨⟨⟨none, [], [], [], []⟩,
      [⟨"line 1:1 unrecognized statement in package header: ''", ⟨1, 1⟩⟩]⟩,
    ⟨.empty, []⟩, ⟨.empty, ["line 1:1 unrecognized statement in package header: ''"]⟩, ?_⟩
  decide +kernel

end Loader

end RuleVocabulary
