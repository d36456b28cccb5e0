import RuleVocabulary.Proofs.Inspection.Memory

/-!
# Which declaration of a field is used

A field is listed with the declaration of the first type in the order of a walk that declares its
name. The walk comes to that type along a line of supertypes on which no type declares the name
(`Passes.exists_line`), so the declaration used is more derived than all others on that line.

It need not be more derived than those off the line. Where two lines lead to one type, the walk
comes to it along the first of them, before it meets what the other passes through; a type there
may declare the name anew and is not heard. Main statement: the declaration used is the most
derived one exactly if no type that the walk meets behind its own inherits from that one and
declares the name as well, which is certain where only one line leads to that type
(`declaration_is_most_derived_iff`). The condition can fail (`redeclared_field_is_not_heard`).
-/

set_option autoImplicit false

namespace RuleVocabulary.Inspection

variable {registry : Registry}

/-- No other type that is a given type or above it, and inherits from the source of a declaration,
declares the name itself. -/
def MostDerived (registry : Registry) (type source : Descriptor) (name : String) : Prop :=
  ∀ other, other ≠ source → registry.Above type other → registry.StrictlyAbove other source →
    ¬ Declared other.fields name

/-! ## First declarations -/

/-- Of the declarations of a name the first one is kept. -/
theorem find?_of_mem_firstDeclarations {declarations : List FieldDeclaration}
    {declaration : FieldDeclaration} (kept : declaration ∈ firstDeclarations declarations) :
    declarations.find? (·.name = declaration.name) = some declaration := by
  induction size : declarations.length using Nat.strongRecOn generalizing declarations with
  | _ size ih =>
      cases declarations with
      | nil => cases kept
      | cons field declarations =>
          rw [firstDeclarations, List.eraseDupsBy_cons] at kept
          rcases List.mem_cons.mp kept with rfl | later
          · simp
          · have found := ih _ (by
              rw [← size, List.length_cons]
              exact Nat.lt_succ_of_le (List.length_filter_le ..)) later rfl
            have passed := List.of_mem_filter (List.mem_of_find?_eq_some found)
            have other : declaration.name ≠ field.name := by
              intro same
              simp [same] at passed
            rw [List.find?_filter] at found
            rw [List.find?_cons_of_neg (by simpa using other.symm), ← found]
            congr 1
            funext second
            by_cases same : second.name = declaration.name
            · simp [same, other]
            · simp [same]

theorem not_declared_iff {declarations : List FieldDeclaration} {name : String} :
    ¬ Declared declarations name ↔ declarations.find? (·.name = name) = none := by
  simp [Declared, List.find?_eq_none]

/-- A field is shown with the declaration of the first type met that declares it. -/
theorem exists_source_of_mem_shown {settings : Settings} {visits : List Descriptor}
    {field : InspectedField} (member : field ∈ shown registry settings visits) :
    ∃ before source behind declaration, visits = before ++ source :: behind ∧
      (∀ earlier ∈ before, ¬ Declared earlier.fields field.name) ∧
      source.fields.find? (·.name = field.name) = some declaration ∧
      field.declaredType = declaredType? registry declaration := by
  obtain ⟨declaration, kept, rfl⟩ := List.mem_map.mp member
  have found := find?_of_mem_firstDeclarations (List.mem_of_mem_filter kept)
  rw [List.find?_flatMap] at found
  obtain ⟨before, source, behind, split, first, earlier⟩ := List.findSome?_eq_some_iff.mp found
  refine ⟨before, source, behind, declaration, split, ?_, first, rfl⟩
  intro type member
  exact not_declared_iff.mpr (earlier type member)

/-! ## The line to a type -/

/-- The types on a line of supertypes that leads from the first type to the second one, the first
one among them and the second one not. -/
inductive Leads (registry : Registry) : Descriptor → List Descriptor → Descriptor → Prop where
  | here {type : Descriptor} : Leads registry type [] type
  | up {type parent source : Descriptor} {line : List Descriptor}
      (inherits : registry.Inherits type parent) (on : Leads registry parent line source) :
      Leads registry type (type :: line) source

theorem Leads.above {type source : Descriptor} {line : List Descriptor}
    (leads : Leads registry type line source) : registry.Above type source := by
  induction leads with
  | here => exact .refl
  | up inherits _ ih => exact .head inherits ih

theorem exists_line_of_above {type source : Descriptor} (above : registry.Above type source) :
    ∃ line, Leads registry type line source := by
  induction above using Relation.ReflTransGen.head_induction_on with
  | refl => exact ⟨[], .here⟩
  | head inherits _ ih =>
      obtain ⟨line, on⟩ := ih
      exact ⟨_, .up inherits on⟩

/-- What stands between two types stands on a line from one to the other. -/
theorem exists_line_through {type other source : Descriptor} (below : registry.Above type other)
    (above : registry.StrictlyAbove other source) :
    ∃ line, Leads registry type line source ∧ other ∈ line := by
  induction below using Relation.ReflTransGen.head_induction_on with
  | refl =>
      obtain ⟨parent, inherits, rest⟩ := Relation.TransGen.head'_iff.mp above
      obtain ⟨line, on⟩ := exists_line_of_above rest
      exact ⟨other :: line, .up inherits on, List.mem_cons_self ..⟩
  | head inherits _ ih =>
      obtain ⟨line, on, member⟩ := ih
      exact ⟨_, .up inherits on, List.mem_cons_of_mem _ member⟩

/-- A walk comes to each type that it meets along a line of types met before. -/
theorem Passes.exists_line {path supertypes : List String} {type source : Descriptor}
    {visits before behind : List Descriptor}
    (passes : Passes registry path type supertypes visits)
    (listed : supertypes ⊆ type.allSupertypes) (split : visits = before ++ source :: behind) :
    ∃ line, Leads registry type line source ∧ line ⊆ type :: before := by
  induction passes generalizing before behind with
  | done => simp at split
  | @next path others type found supertype above beside known new up on ihUp ihOn =>
      have inherits := inherits_of_parent (listed (List.mem_cons_self ..)) known
      cases before with
      | nil =>
          obtain ⟨rfl, -⟩ := List.cons.inj split
          exact ⟨[type], .up inherits .here, List.Subset.refl _⟩
      | cons first before =>
          obtain ⟨rfl, rest⟩ := List.cons.inj split
          rcases List.append_eq_append_iff.mp rest with
            ⟨inner, rfl, later⟩ | ⟨inner, earlier, later⟩
          · obtain ⟨line, leads, part⟩ := ihOn (List.subset_of_cons_subset listed) later
            refine ⟨line, leads, ?_⟩
            intro passed member
            rcases List.mem_cons.mp (part member) with rfl | met
            · exact List.mem_cons_self ..
            · simp [met]
          · cases inner with
            | nil =>
                have alone : beside = [] ++ source :: behind := later.symm
                obtain ⟨line, leads, part⟩ := ihOn (List.subset_of_cons_subset listed) alone
                refine ⟨line, leads, ?_⟩
                intro passed member
                rcases List.mem_singleton.mp (part member) with rfl
                exact List.mem_cons_self ..
            | cons middle inner =>
                obtain ⟨rfl, -⟩ := List.cons.inj later
                obtain ⟨line, leads, part⟩ := ihUp (List.Subset.refl _) earlier
                exact ⟨type :: line, .up inherits leads, List.cons_subset_cons _ part⟩

/-- A walk from a type comes to each type that it meets along a line of types met before. -/
theorem Walks.exists_line {type source : Descriptor} {before behind : List Descriptor}
    (walks : Walks registry type (.ok (before ++ source :: behind))) :
    ∃ line, Leads registry type line source ∧ line ⊆ before := by
  generalize split : before ++ source :: behind = visits at walks
  cases walks with
  | passes up =>
      cases before with
      | nil =>
          obtain ⟨rfl, -⟩ := List.cons.inj split
          exact ⟨[], .here, List.nil_subset _⟩
      | cons first before =>
          obtain ⟨rfl, rest⟩ := List.cons.inj split
          exact up.exists_line (List.Subset.refl _) rest.symm

/-- A walk that passes meets exactly the type and all that is above. -/
theorem Walks.mem_iff {type other : Descriptor} {visits : List Descriptor}
    (walks : Walks registry type (.ok visits)) : other ∈ visits ↔ registry.Above type other := by
  constructor
  · intro member
    obtain ⟨before, behind, rfl⟩ := List.append_of_mem member
    obtain ⟨line, leads, -⟩ := walks.exists_line
    exact leads.above
  · intro above
    cases walks with
    | passes up =>
        rcases Relation.reflTransGen_iff_eq_or_transGen.mp above with rfl | strictly
        · exact List.mem_cons_self ..
        · exact List.mem_cons_of_mem _ (up.mem_of_strictlyAbove strictly)

theorem Walks.acyclic {type : Descriptor} {visits : List Descriptor}
    (walks : Walks registry type (.ok visits)) : registry.Acyclic type := by
  cases walks with
  | passes up => exact up.acyclic

/-! ## When the declaration used is the most derived one -/

/-- The source of a declaration used is the most derived one exactly if nothing met behind it is
more derived. -/
theorem mostDerived_iff {type source : Descriptor} {before behind : List Descriptor}
    {name : String} (walks : Walks registry type (.ok (before ++ source :: behind)))
    (first : ∀ earlier ∈ before, ¬ Declared earlier.fields name) :
    MostDerived registry type source name ↔ ∀ other ∈ behind,
      registry.StrictlyAbove other source → ¬ Declared other.fields name := by
  constructor
  · intro most other member above
    have below : registry.Above type other := walks.mem_iff.mp (by simp [member])
    refine most other ?_ below above
    rintro rfl
    exact walks.acyclic other below above
  · intro behindIt other different below above
    rcases List.mem_append.mp (walks.mem_iff.mpr below) with earlier | later
    · exact first other earlier
    · rcases List.mem_cons.mp later with same | member
      · exact absurd same different
      · exact behindIt other member above

/-- Where only one line leads to the source of a declaration, nothing is more derived. -/
theorem mostDerived_of_one_line {type source : Descriptor} {before behind : List Descriptor}
    {name : String} (walks : Walks registry type (.ok (before ++ source :: behind)))
    (first : ∀ earlier ∈ before, ¬ Declared earlier.fields name)
    (one : ∀ line other, Leads registry type line source → Leads registry type other source →
      line = other) : MostDerived registry type source name := by
  intro other _ below above
  obtain ⟨line, leads, part⟩ := walks.exists_line
  obtain ⟨through, on, member⟩ := exists_line_through below above
  rw [one through line on leads] at member
  exact first other (part member)

/-- **Which declaration of a field is used, and when it is the most derived one.** A field is listed
with the declaration of the first type in a walk that declares its name, and no type on the line
along which the walk comes to it does. Its declaration is the most derived one exactly if no type
met behind it inherits from it and declares the name too; with one line to it there is none. -/
theorem declaration_is_most_derived_iff (registry : Registry) (settings : Settings) (name : String)
    (type : Descriptor) (listed : List InspectedField)
    (looked : registry.lookup name = .ok (some type))
    (inspected : fields registry settings type = .ok listed) :
    ∃ visits, Walks registry type (.ok visits) ∧
      ∀ field ∈ listed, ∃ before source behind declaration,
        visits = before ++ source :: behind ∧
        (∀ earlier ∈ before, ¬ Declared earlier.fields field.name) ∧
        source.fields.find? (·.name = field.name) = some declaration ∧
        field.declaredType = declaredType? registry declaration ∧
        (∃ line, Leads registry type line source ∧
          ∀ passed ∈ line, ¬ Declared passed.fields field.name) ∧
        (MostDerived registry type source field.name ↔ ∀ other ∈ behind,
          registry.StrictlyAbove other source → ¬ Declared other.fields field.name) ∧
        ((∀ line other, Leads registry type line source → Leads registry type other source →
          line = other) → MostDerived registry type source field.name) := by
  have known : registry.lookup type.name = .ok (some type) := by
    rwa [Registry.name_of_lookup looked]
  obtain ⟨outcome, walks, same⟩ := exists_walks_fields settings known
  rw [inspected] at same
  cases outcome with
  | error fault => cases same
  | ok visits =>
      rw [Except.map, Except.ok.injEq] at same
      refine ⟨visits, walks, ?_⟩
      intro field member
      rw [same] at member
      obtain ⟨before, source, behind, declaration, rfl, first, found, resolved⟩ :=
        exists_source_of_mem_shown member
      obtain ⟨line, leads, part⟩ := walks.exists_line
      exact ⟨before, source, behind, declaration, rfl, first, found, resolved,
        ⟨line, leads, fun passed on => first passed (part on)⟩, mostDerived_iff walks first,
        mostDerived_of_one_line walks first⟩

theorem declaredType?_of_lookup {field : FieldDeclaration} {found : Option Descriptor}
    (looked : registry.lookup field.typeName = .ok found) :
    declaredType? registry field = found := by
  rw [declaredType?, looked]

namespace Fork

/-- The field of the shared supertype is listed with the type that this one declares. -/
theorem fields_both : fields forked .default both = .ok [⟨"mark",
    some (Ambient.ambientClass stringType ["java.lang.CharSequence", comparableType])⟩] := by
  obtain ⟨outcome, walks, same⟩ := exists_walks_fields .default
    (show forked.lookup both.name = .ok (some both) from lookup_both)
  have once : (firstDeclarations ([both, left, top, right, top, Ambient.base].flatMap
      Descriptor.fields)).filter (!Settings.default.isIgnored ·.name) =
        [⟨"mark", stringType⟩] := by decide
  have string : forked.lookup stringType = .ok (some (Ambient.ambientClass stringType
      ["java.lang.CharSequence", comparableType])) := lookup_forked (by decide) (by decide)
  rw [same, ← (walks_unique walks _).mp walks_both, Except.map, shown, once, List.map_singleton,
    declaredType?_of_lookup string]

end Fork

/-- The walk comes to the shared supertype along the first line, and the type on the second one that
declares its field anew is not heard. -/
theorem redeclared_field_is_not_heard :
    fields Fork.forked .default Fork.both = .ok [⟨"mark", some (Ambient.ambientClass stringType
        ["java.lang.CharSequence", comparableType])⟩] ∧
      Fork.forked.StrictlyAbove Fork.right Fork.top ∧ Declared Fork.right.fields "mark" ∧
      ¬ MostDerived Fork.forked Fork.both Fork.top "mark" := by
  have above : Fork.forked.StrictlyAbove Fork.right Fork.top :=
    .single ⟨"a.Top", by decide, Fork.lookup_forked (by decide) (by decide)⟩
  have declared : Declared Fork.right.fields "mark" := ⟨⟨"mark", "int"⟩, by decide, rfl⟩
  refine ⟨Fork.fields_both, above, declared, ?_⟩
  obtain ⟨visits, walks, each⟩ := declaration_is_most_derived_iff Fork.forked .default "a.Both"
    Fork.both _ Fork.lookup_both Fork.fields_both
  obtain ⟨before, source, behind, declaration, split, first, found, -, -, most, -⟩ :=
    each _ (List.mem_singleton_self _)
  rw [← Except.ok.inj ((walks_unique walks _).mp Fork.walks_both)] at split
  -- The source is the shared supertype, as the two types before it declare nothing.
  cases before with
  | nil =>
      obtain ⟨rfl, -⟩ := List.cons.inj split
      cases found
  | cons one before =>
      obtain ⟨rfl, rest⟩ := List.cons.inj split
      cases before with
      | nil =>
          obtain ⟨rfl, -⟩ := List.cons.inj rest
          cases found
      | cons two before =>
          obtain ⟨rfl, last⟩ := List.cons.inj rest
          cases before with
          | nil =>
              obtain ⟨rfl, rfl⟩ := List.cons.inj last
              intro mostDerived
              exact most.mp mostDerived Fork.right (List.mem_cons_self ..) above declared
          | cons three before =>
              obtain ⟨rfl, -⟩ := List.cons.inj last
              exact absurd ⟨⟨"mark", stringType⟩, by decide, rfl⟩ (first Fork.top (by simp))

end RuleVocabulary.Inspection
