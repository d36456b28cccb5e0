import RuleVocabulary.Proofs.Loader.Course

/-!
# Builds that leave archives alone

An item whose type is not known contributes a message that says so (`reportsMiss_of_missing`), and
messages are never taken back (`Spared.of_add`). So items that take their course without such a
message have found every type they look for, and take the same course whatever archives there are
(`forEach_of_spared`).

Main statement: archives matter only on a miss of a loader that has not expanded any
(`archives_matter_only_on_a_miss`).
-/

set_option autoImplicit false

namespace RuleVocabulary.Loader

/-! ## Messages about missing types -/

/-- Whether a message begins as one about a type that is not known. -/
def ReportsMiss (message : String) : Prop :=
  "Class not found:".toList <+: message.toList ∨
    "Fact template field type not found:".toList <+: message.toList

instance : DecidablePred ReportsMiss := fun _ => inferInstanceAs (Decidable (_ ∨ _))

theorem reportsMiss_of_class (name : String) : ReportsMiss ("Class not found: " ++ name) := by
  refine .inl ?_
  simp

theorem reportsMiss_of_field (name : String) :
    ReportsMiss ("Fact template field type not found: " ++ name) := by
  refine .inr ?_
  simp

variable {scope : Scope} {archives : List Archive}

theorem messages_typeContribution_of_miss {registry : Registry} {settings : Settings}
    {name introduction : String} {edits : Descriptor → List InspectedField → List Vocabulary.Edit}
    (miss : registry.lookup name = .ok none) :
    (typeContribution registry settings name introduction edits).messages =
      ["Class not found: " ++ name] := by
  simp only [typeContribution, typeFields, miss]

/-- An item whose type is not known says so. -/
theorem reportsMiss_of_missing {loader : Loader} {item : Item}
    (missing : item.Missing scope loader) :
    ∃ message ∈ (item.contribution scope loader).messages, ReportsMiss message := by
  obtain ⟨find, sought, miss⟩ := missing
  cases item with
  | imported target =>
      obtain rfl := Option.some.inj sought
      refine ⟨_, ?_, reportsMiss_of_class target⟩
      rw [Item.contribution, messages_typeContribution_of_miss miss]
      exact List.mem_singleton_self _
  | templateBegun name => exact absurd sought (Option.some_ne_none find).symm
  | templateField type field =>
      obtain rfl := Option.some.inj sought
      refine ⟨_, ?_, reportsMiss_of_field field.typeName⟩
      simp only [Item.contribution, fieldMessages, miss]
      exact List.mem_singleton_self _
  | templateEnded name fields => exact absurd sought (Option.some_ne_none find).symm
  | bound global =>
      rw [Item.find?] at sought
      split at sought
      · exact absurd sought (Option.some_ne_none find).symm
      · rename_i unknown
        obtain rfl := Option.some.inj sought
        refine ⟨_, ?_, reportsMiss_of_class (scope.qualify global.typeName)⟩
        simp only [Item.contribution, if_neg unknown]
        rw [messages_typeContribution_of_miss miss]
        exact List.mem_singleton_self _

/-! ## Sequences of items -/

/-- A build that has no use for archives: they were expanded before, or nothing is missing. -/
def Spared (progress : Progress) : Prop :=
  progress.loader.expander.expanded = true ∨
    ∀ message ∈ progress.messages, ¬ ReportsMiss message

/-- Messages are never taken back. -/
theorem Spared.of_add {progress : Progress} {contribution : Contribution}
    (spared : Spared (progress.add contribution)) : Spared progress := by
  rcases spared with before | silent
  · exact .inl before
  · exact .inr fun message member => silent message (List.mem_append_left _ member)

/-- Archives are out of reach for an item that says of no type that it is missing. -/
theorem enterItem_of_spared {item : Item} {progress : Progress}
    (spared : Spared (progress.add (item.contribution scope progress.loader))) :
    enterItem scope archives item progress =
      (.ok (), progress.add (item.contribution scope progress.loader)) := by
  rcases spared with before | silent
  · exact enterItem_of_spent item (.inl before)
  · refine enterItem_of_known fun missing => ?_
    obtain ⟨message, member, reports⟩ := reportsMiss_of_missing missing
    exact silent message (List.mem_append_right _ member) reports

/-- Items that take their course without a message about a missing type do so whatever archives
there are. -/
theorem forEach_of_spared {items : List Item} {progress : Progress}
    (spared : Spared (progress.add (course scope progress.loader items))) :
    forEach (enterItem scope archives) items progress =
      (.ok (), progress.add (course scope progress.loader items)) := by
  induction items generalizing progress with
  | nil =>
      rw [course, add_nil]
      rfl
  | cons item items ih =>
      rw [← add_course_cons] at spared ⊢
      rw [forEach_cons, enterItem_of_spared spared.of_add]
      exact ih spared

/-! ## Builds -/

/-- What a build enters that has no archives. -/
def unarchived (loader : Loader) (reading : Header.Reading) : Progress :=
  (begun loader reading).add
    (course (packageScope loader.settings reading.package) loader.cleared
      (Item.ofPackage reading.package))

theorem entered_of_unarchived (loader : Loader) (reading : Header.Reading) :
    entered loader [] reading = (.ok (), unarchived loader reading) :=
  forEach_of_spent _ (.inr rfl)

/-- **Archives matter only on a miss of a loader that has not expanded any.** If its archives are
expanded, or a build without archives fails, or ends without a message about a missing type, then
archives change neither what the build answers nor the loader it leaves, whatever is in them. -/
theorem archives_matter_only_on_a_miss (loader : Loader) (header : String)
    (archives : List Archive) (files : List Mapping.File)
    (spared : loader.expander.expanded = true ∨
      (∃ fault, (loader.build header [] files).1 = .error fault) ∨
      ∃ outcome, (loader.build header [] files).1 = .ok outcome ∧
        ∀ message ∈ outcome.messages, ¬ ReportsMiss message) :
    loader.build header archives files = loader.build header [] files := by
  cases read : declared header with
  | error fault => rw [build_eq, build_eq, read]
  | ok reading =>
      have plain := build_of_entered read (entered_of_unarchived loader reading) files
      have untouched : Spared (unarchived loader reading) := by
        rcases spared with before | ⟨fault, failed⟩ | ⟨outcome, done, silent⟩
        · exact .inl before
        · rw [plain] at failed
          cases failed
        · rw [plain] at done
          cases done
          exact .inr silent
      have same : entered loader archives reading = (.ok (), unarchived loader reading) :=
        forEach_of_spared untouched
      rw [plain, build_of_entered read same files]

/-- An archive that is cut short is not read where nothing is missing. -/
theorem torn_archive_is_left_alone :
    ((ofSettings .default).build "import java.lang.String;\ntemplate T\n String name\nend"
        [⟨"torn", [1]⟩] []).1.map
      (fun outcome => (outcome.messages, outcome.vocabulary.categoryUnder? "T.name")) =
        .ok ([], some .string) := by
  have without :
      ((ofSettings .default).build "import java.lang.String;\ntemplate T\n String name\nend"
          [] []).1.map
        (fun outcome => (outcome.messages, outcome.vocabulary.categoryUnder? "T.name")) =
          .ok ([], some .string) := by
    decide +kernel
  rw [archives_matter_only_on_a_miss]
  · exact without
  · cases built : ((ofSettings .default).build
        "import java.lang.String;\ntemplate T\n String name\nend" [] []).1 with
    | error fault =>
        rw [built] at without
        cases without
    | ok outcome =>
        rw [built] at without
        refine .inr (.inr ⟨outcome, rfl, fun message member => ?_⟩)
        rw [(Prod.mk.inj (Except.ok.inj without)).1] at member
        cases member

end RuleVocabulary.Loader
