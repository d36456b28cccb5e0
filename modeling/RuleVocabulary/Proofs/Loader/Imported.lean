import RuleVocabulary.Proofs.Loader.Alike
import RuleVocabulary.Proofs.Loader.Expansion
import RuleVocabulary.Proofs.Loader.Frame
import RuleVocabulary.Proofs.Loader.History

/-!
# Imports, entered at one go

Where one of several imported types is missing, a build expands its archives when it comes to that
import. It might as well expand them first: what an import contributes that was found before is not
changed by the expansion. So imports are entered as if the archives were opened once for all of
them (`forEach_imported`), and whether they are opened does not depend on the order of the imports
(`opened_of_perm`).

What all of them contribute then does depend on the order. But an import touches no entry that
belongs to another short name, so imports whose order is kept for each short name make vocabularies
alike (`alike_imported`).
-/

set_option autoImplicit false

namespace RuleVocabulary.Loader

variable {scope : Scope} {archives : List Archive}

/-! ## Loaders that are ready -/

/-- A loader that has expanded its archives, or has registered nothing and knows all that its types
refer to. -/
def Ready (loader : Loader) : Prop :=
  loader.expander.expanded = true ∨ loader.registry.resources = ∅ ∧ loader.registry.Closed

/-- In every run of a loader that begins with the ambient types, it is ready. -/
theorem ready_after (settings : Settings) (calls : List Call) :
    Ready ((ofSettings settings).after calls) := by
  cases expanded : ((ofSettings settings).after calls).expander.expanded with
  | true => exact .inl expanded
  | false =>
      have registry : ((ofSettings settings).after calls).registry = .ofSettings settings :=
        registry_of_unexpanded rfl (Registry.resources_ofSettings settings) expanded
      refine .inr ⟨?_, ?_⟩
      · rw [registry]
        exact Registry.resources_ofSettings settings
      · rw [registry]
        exact Registry.closed_ofSettings settings

/-! ## Archives that are opened for imports -/

theorem missing_imported_iff {loader : Loader} {target : String} :
    (Item.imported target).Missing scope loader ↔ loader.registry.lookup target = .ok none := by
  constructor
  · rintro ⟨find, sought, miss⟩
    obtain rfl := Option.some.inj sought
    exact miss
  · intro miss
    exact ⟨_, rfl, miss⟩

/-- The loader with its archives expanded, if one of several types is missing. -/
def opened (loader : Loader) (archives : List Archive) (targets : List String) :
    Except Fault Loader :=
  if ∃ target ∈ targets, loader.registry.lookup target = .ok none then loader.expanded archives
  else .ok loader

theorem opened_of_perm {targets others : List String} (perm : others.Perm targets)
    (loader : Loader) (archives : List Archive) :
    loader.opened archives others = loader.opened archives targets := by
  simp only [opened, perm.mem_iff]

theorem opened_drafted (loader : Loader) (draft : Vocabulary) (archives : List Archive)
    (targets : List String) :
    (loader.drafted draft).opened archives targets =
      (loader.opened archives targets).map (·.drafted draft) := by
  have registry : (loader.drafted draft).registry = loader.registry := rfl
  unfold opened
  rw [registry]
  split
  · exact expanded_drafted loader draft archives
  · rfl

theorem opened_nil (loader : Loader) (archives : List Archive) :
    loader.opened archives [] = .ok loader :=
  if_neg fun ⟨_, member, _⟩ => List.not_mem_nil member

theorem opened_cons_of_known {loader : Loader} {target : String}
    (known : loader.registry.lookup target ≠ .ok none) (targets : List String) :
    loader.opened archives (target :: targets) = loader.opened archives targets := by
  simp only [opened, List.mem_cons, exists_eq_or_imp, known, false_or]

theorem opened_cons_of_missing {loader : Loader} {target : String}
    (missing : loader.registry.lookup target = .ok none) (targets : List String) :
    loader.opened archives (target :: targets) = loader.expanded archives :=
  if_pos ⟨target, List.mem_cons_self .., missing⟩

/-- Once archives are expanded they are out of reach. -/
theorem spent_of_expanded {loader after : Loader} (done : loader.expanded archives = .ok after) :
    after.expander.expanded = true ∨ archives = [] := by
  rcases expanded_cases done with ⟨rfl, spent⟩ | ⟨-, -, entries, -, rfl⟩
  · exact spent
  · exact .inl rfl

theorem Ready.of_expanded {loader after : Loader} (ready : Ready loader)
    (done : loader.expanded archives = .ok after) : Ready after := by
  rcases expanded_cases done with ⟨rfl, -⟩ | ⟨-, -, entries, -, rfl⟩
  · exact ready
  · exact .inl rfl

theorem draft_of_opened {loader after : Loader} {targets : List String}
    (opens : loader.opened archives targets = .ok after) : after.draft = loader.draft := by
  unfold opened at opens
  split at opens
  · rcases expanded_cases opens with ⟨rfl, -⟩ | ⟨-, -, entries, -, rfl⟩
    · rfl
    · rfl
  · cases opens
    rfl

/-- **An import that was found before contributes the same once archives are opened.** -/
theorem contribution_of_opened {loader after : Loader} (ready : Ready loader)
    {targets : List String} (opens : loader.opened archives targets = .ok after) {target : String}
    (known : loader.registry.lookup target ≠ .ok none) :
    (Item.imported target).contribution scope loader =
      (Item.imported target).contribution scope after := by
  unfold opened at opens
  split at opens
  · rcases expanded_cases opens with ⟨rfl, -⟩ | ⟨fresh, given, entries, read, rfl⟩
    · rfl
    · have unread : loader.expander.expanded ≠ true := by
        rw [fresh]
        exact Bool.false_ne_true
      obtain ⟨bare, closed⟩ := ready.resolve_left unread
      have unexpanded : Unexpanded archives entries loader := ⟨fresh, given, read, bare, closed⟩
      have found : ¬ (Item.imported target).Missing scope loader :=
        mt missing_imported_iff.mp known
      exact (contribution_of_known unexpanded rfl rfl rfl found nofun).symm
  · cases opens
    rfl

/-! ## Imports, entered -/

/-- What several imports contribute, given the loader with its archives opened for them. -/
def imported (scope : Scope) (loader : Loader) (targets : List String) : Contribution where
  edits := targets.flatMap fun target => ((Item.imported target).contribution scope loader).edits
  messages :=
    targets.flatMap fun target => ((Item.imported target).contribution scope loader).messages

theorem add_imported_cons (progress : Progress) (loader : Loader) (target : String)
    (targets : List String) :
    (progress.add ((Item.imported target).contribution scope loader)).add
        (imported scope loader targets) =
      progress.add (imported scope loader (target :: targets)) := by
  rw [add_add]
  rfl

/-- The first of several imports opens the archives, or is found and leaves them to the others. In
both cases it contributes what it contributes in the end. -/
theorem searchedFor_of_opened {loader after : Loader} (ready : Ready loader) {target : String}
    {targets : List String} (opens : loader.opened archives (target :: targets) = .ok after) :
    ∃ between, searchedFor scope archives loader (.imported target) = .ok between ∧
      Ready between ∧ between.opened archives targets = .ok after ∧
      (Item.imported target).contribution scope between =
        (Item.imported target).contribution scope after := by
  by_cases miss : loader.registry.lookup target = .ok none
  · rw [opened_cons_of_missing miss] at opens
    have missing := (@missing_imported_iff scope loader target).mpr miss
    refine ⟨after, ?_, ready.of_expanded opens, ?_, rfl⟩
    · rw [searchedFor_of_missing missing]
      exact opens
    · unfold opened
      split
      · exact expanded_of_spent (spent_of_expanded opens)
      · rfl
  · rw [opened_cons_of_known miss] at opens
    have known := mt (@missing_imported_iff scope loader target).mp miss
    exact ⟨loader, searchedFor_of_known known, ready, opens,
      contribution_of_opened ready opens miss⟩

/-- **Imports are entered as if the archives were opened at once**, for all that are missing. -/
theorem forEach_imported {progress : Progress} (ready : Ready progress.loader)
    {targets : List String} {after : Loader}
    (opens : progress.loader.opened archives targets = .ok after) :
    forEach (enterItem scope archives) (targets.map .imported) progress =
      (.ok (), { progress with loader := after }.add (imported scope after targets)) := by
  induction targets generalizing progress after with
  | nil =>
      rw [opened_nil] at opens
      cases opens
      exact congrArg _ (add_nil progress).symm
  | cons target targets ih =>
      obtain ⟨between, searched, readied, later, contributed⟩ :=
        @searchedFor_of_opened scope archives _ _ ready _ _ opens
      let own := (Item.imported target).contribution scope after
      let next : Progress := { progress with loader := between }.add own
      let draft := own.edits.foldl Vocabulary.edit between.draft
      have entered : enterItem scope archives (.imported target) progress = (.ok (), next) := by
        simp only [enterItem, searched, contributed, next, own]
      have further : next.loader.opened archives targets = .ok (after.drafted draft) := by
        rw [show next.loader = between.drafted draft from rfl, opened_drafted, later]
        rfl
      have same : ({ next with loader := after.drafted draft } : Progress) =
          { progress with loader := after }.add own := by
        simp only [Progress.add, drafted, draft_of_opened later, next, draft]
      rw [List.map_cons, forEach_cons, entered, ← add_imported_cons, ← same]
      exact @ih next readied (after.drafted draft) further

/-- Where the archives that are to be opened cannot be read, imports end with the fault, and the
registry and the expander are left as they were. -/
theorem forEach_imported_of_refused {progress : Progress} {targets : List String} {fault : Fault}
    (refused : progress.loader.opened archives targets = .error fault) :
    ∃ contribution, forEach (enterItem scope archives) (targets.map .imported) progress =
      (.error fault, progress.add contribution) := by
  induction targets generalizing progress with
  | nil =>
      rw [opened_nil] at refused
      cases refused
  | cons target targets ih =>
      rw [List.map_cons, forEach_cons]
      by_cases miss : progress.loader.registry.lookup target = .ok none
      · rw [opened_cons_of_missing miss] at refused
        have missing := (@missing_imported_iff scope progress.loader target).mpr miss
        refine ⟨⟨[], []⟩, ?_⟩
        simp only [enterItem, searchedFor_of_missing missing, refused, add_nil]
      · rw [opened_cons_of_known miss] at refused
        have known := mt (@missing_imported_iff scope progress.loader target).mp miss
        let own := (Item.imported target).contribution scope progress.loader
        have further : (progress.add own).loader.opened archives targets = .error fault := by
          rw [show (progress.add own).loader = progress.loader.drafted _ from rfl, opened_drafted,
            refused]
          rfl
        obtain ⟨rest, failed⟩ := ih further
        refine ⟨⟨own.edits ++ rest.edits, own.messages ++ rest.messages⟩, ?_⟩
        rw [enterItem_of_known known, ← add_add]
        exact failed

/-! ## Imports in another order -/

/-- What passes a filter among all that several elements give comes from the elements that give
anything to pass. -/
theorem filter_flatMap_of_source {α β : Type} {gives : α → List β} {passes : β → Bool}
    {source : α → Bool} (idle : ∀ element, source element = false →
      (gives element).filter passes = []) (elements : List α) :
    (elements.flatMap gives).filter passes =
      (elements.filter source).flatMap fun element => (gives element).filter passes := by
  induction elements with
  | nil => rfl
  | cons element elements ih =>
      rw [List.flatMap_cons, List.filter_append, ih]
      cases sourced : source element with
      | true => rw [List.filter_cons_of_pos sourced, List.flatMap_cons]
      | false =>
          rw [List.filter_cons_of_neg (by simp [sourced]), idle element sourced, List.nil_append]

/-- The type to whose fields a key belongs, if the name of the type is short. -/
def keyType (key : String) : String :=
  String.ofList (key.toList.takeWhile (· ≠ '.'))

theorem keyType_fieldKey (target field : String) :
    keyType (Vocabulary.fieldKey (Name.short target) field) = Name.short target := by
  have letters : (Vocabulary.fieldKey (Name.short target) field).toList =
      (Name.short target).toList ++ '.' :: field.toList := by
    simp [Vocabulary.fieldKey, Name.join]
  have short : ∀ c ∈ (Name.short target).toList, decide (c ≠ '.') = true := by
    intro c member
    rw [Name.short, String.toList_ofList] at member
    rw [decide_eq_true_eq]
    rintro rfl
    exact Name.dot_not_mem_short target.toList member
  rw [keyType, letters, List.takeWhile_append_of_pos short, List.takeWhile_cons_of_neg (by simp),
    List.append_nil, String.ofList_toList]

/-- The edits of an import concern the type of its short name. -/
theorem imported_edit_cases {loader : Loader} {target : String} {edit : Vocabulary.Edit}
    (made : edit ∈ ((Item.imported target).contribution scope loader).edits) :
    (∃ names, edit = .fields (Name.short target) names) ∨
      (∃ field category,
        edit = .fieldType (Vocabulary.fieldKey (Name.short target) field) category) ∨
      edit = .factType (Name.short target) := by
  rcases @edits_imported scope loader target with silent | ⟨fields, entered⟩
  · rw [silent] at made
    cases made
  · rw [entered, List.mem_append, List.mem_singleton, fieldEdits, List.mem_cons, List.mem_map]
      at made
    rcases made with (rfl | ⟨field, -, rfl⟩) | rfl
    · exact .inl ⟨_, rfl⟩
    · exact .inr (.inl ⟨_, _, rfl⟩)
    · exact .inr (.inr rfl)

/-- An import sets the fields of the type of its short name, and no others. -/
theorem filter_sets_of_imported (loader : Loader) {target type : String}
    (other : Name.short target ≠ type) :
    ((Item.imported target).contribution scope loader).edits.filter (Vocabulary.Edit.Sets type) =
      [] := by
  rw [List.filter_eq_nil_iff]
  intro edit made
  rw [decide_eq_true_eq]
  rcases imported_edit_cases made with ⟨names, rfl⟩ | ⟨field, category, rfl⟩ | rfl
  · exact other
  · exact id
  · exact id

/-- An import decides keys that belong to the type of its short name, and no others. -/
theorem filter_decides_of_imported (loader : Loader) {target key : String}
    (other : Name.short target ≠ keyType key) :
    ((Item.imported target).contribution scope loader).edits.filter
      (Vocabulary.Edit.Decides key) = [] := by
  rw [List.filter_eq_nil_iff]
  intro edit made
  rw [decide_eq_true_eq]
  rcases imported_edit_cases made with ⟨names, rfl⟩ | ⟨field, category, rfl⟩ | rfl
  · exact id
  · rintro rfl
    exact other (keyType_fieldKey target field).symm
  · exact id

/-- The single types that are imported. -/
def singles (targets : List String) : List String :=
  targets.filter (!Name.isWildcard ·)

theorem filter_singles (targets : List String) (name : String) :
    (singles targets).filter (Name.short · = name) = targets.filter (Imports.names name) := by
  rw [singles, List.filter_filter]
  refine List.filter_congr fun target _ => ?_
  rw [Imports.names, Bool.and_comm]

/-- **The edits of reordered imports are reordered**, and those of each entry keep their order. -/
theorem reordered_imported {targets others : List String}
    (reordered : Imports.Reordered targets others) (scope : Scope) (loader : Loader) :
    Vocabulary.Reordered (imported scope loader (singles targets)).edits
      (imported scope loader (singles others)).edits where
  perm := (reordered.perm.filter _).flatMap_right _
  concern := by
    intro edit member
    obtain ⟨target, -, made⟩ := List.mem_flatMap.mp member
    obtain ⟨edits, concern, same⟩ := @exists_edits_eq scope loader (.imported target)
    rw [same, Item.bindings, List.append_nil] at made
    exact concern edit made
  sets := by
    intro type
    have source : ∀ target, decide (Name.short target = type) = false →
        ((Item.imported target).contribution scope loader).edits.filter
          (Vocabulary.Edit.Sets type) = [] :=
      fun target other => filter_sets_of_imported loader (of_decide_eq_false other)
    simp only [imported, filter_flatMap_of_source source, filter_singles, reordered.named]
  decides := by
    intro key
    have source : ∀ target, decide (Name.short target = keyType key) = false →
        ((Item.imported target).contribution scope loader).edits.filter
          (Vocabulary.Edit.Decides key) = [] :=
      fun target other => filter_decides_of_imported loader (of_decide_eq_false other)
    simp only [imported, filter_flatMap_of_source source, filter_singles, reordered.named]

/-- **Reordered imports keep builds alike.** -/
theorem alike_imported {targets others : List String}
    (reordered : Imports.Reordered targets others) (scope : Scope) {progress : Progress}
    (different : progress.vocabulary.factTypes.Nodup) (loader : Loader) :
    (progress.add (imported scope loader (singles targets))).Alike
      (progress.add (imported scope loader (singles others))) where
  loader := rfl
  vocabulary := Vocabulary.alike_of_reordered (reordered_imported reordered scope loader) different
  messages := ((reordered.perm.filter _).flatMap_right _).append_left progress.messages

end RuleVocabulary.Loader
