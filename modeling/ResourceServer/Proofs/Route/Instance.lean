import ResourceServer.Proofs.Record
import ResourceServer.Proofs.Route.Display
import ResourceServer.Proofs.Route.OnlyRoute

namespace ResourceServer

/-!
# Names as instances of templates

A template with values for its variables spells elements, and so it spells
names: each variable stands for its value, letter for letter, and each literal
for itself in any case of its ASCII letters. Matching is the inverse of this. A
matcher fits exactly the names that begin with what its template spells, and it
finds the values again, because no variable occurs twice and so none is given a
second value.
-/

namespace Segment

/-- The segment stands for an element when its variables have these values. -/
inductive Spells (values : Record String) : Segment → String → Prop where
  | literal
      {text element : String}
      (sameFold : Text.fold text = Text.fold element) :
      Spells values (.literal text) element
  | placeholder
      {name element : String}
      (isValue : values.get? name = some element) :
      Spells values (.placeholder name) element

/-- The element that the segment is replaced by; without a value it is empty. -/
def fill (values : Record String) : Segment → String
  | .literal text => text
  | .placeholder name => (values.get? name).getD ""

end Segment

namespace Template

/-- The elements of the template with each variable replaced by its value. -/
def fill
    (template : Template)
    (values : Record String) : List String :=
  template.segments.map (Segment.fill values)

/-- The segments stand for the elements, one for one. -/
def Spells
    (template : Template)
    (values : Record String)
    (elements : List String) : Prop :=
  List.Forall₂ (Segment.Spells values) template.segments elements

/-- A value for each variable of the template, and for nothing else. -/
structure Assigns
    (template : Template)
    (values : Record String) : Prop where
  sorted : values.Sorted
  isKey : ∀ name, name ∈ values.keys ↔ name ∈ template.variableNames

/--
The segments are the elements of the template's name, those in braces being the
variables; no segment is empty, none has braces in it and no variable occurs
twice.
-/
structure WellFormed (template : Template) : Prop where
  areElements :
    template.name.elements = template.segments.map Segment.element
  unbraced : ∀ segment ∈ template.segments, segment.Unbraced
  distinct : template.variableNames.Nodup

theorem wellFormed_of_parse
    {pattern : String}
    {template : Template}
    (isParsed : parse pattern = .ok template) :
    Name.parse pattern = .ok template.name ∧ template.WellFormed := by
  obtain ⟨isNamed, areRead⟩ := parse_eq_ok_iff.mp isParsed
  obtain ⟨-, distinct, -⟩ := readSegments_eq_ok_iff.mp areRead
  obtain ⟨areElements, unbraced⟩ := elements_of_parse isParsed
  exact ⟨isNamed, areElements, unbraced, distinct⟩

variable
  {template : Template}
  {values : Record String}

/-- Each variable of the template has a value. -/
theorem Assigns.exists_value
    (assigns : template.Assigns values)
    {name : String}
    (isIn : .placeholder name ∈ template.segments) :
    ∃ value, values.get? name = some value := by
  have isVariable : name ∈ template.variableNames :=
    List.mem_filterMap.mpr ⟨.placeholder name, isIn, rfl⟩
  have isKey := (assigns.isKey name).mpr isVariable
  cases found : values.get? name with
  | none =>
      exact absurd isKey (Record.get?_eq_none_iff.mp found)
  | some value =>
      exact ⟨value, rfl⟩

/-- A template stands for itself with its variables replaced by their values. -/
theorem spells_fill
    (assigns : template.Assigns values) :
    template.Spells values (template.fill values) := by
  refine List.forall₂_map_right_iff.mpr (List.forall₂_same.mpr ?_)
  intro segment isIn
  cases segment with
  | literal text =>
      exact .literal rfl
  | placeholder name =>
      obtain ⟨value, isValue⟩ := assigns.exists_value isIn
      refine .placeholder ?_
      rw [Segment.fill, isValue, Option.getD_some]

/-- With values that are not empty the template is replaced by a name. -/
theorem fill_ne_empty
    (wellFormed : template.WellFormed)
    (assigns : template.Assigns values)
    (noneEmpty : ∀ pair ∈ values, pair.2 ≠ "") :
    ∀ element ∈ template.fill values, element ≠ "" := by
  intro element isFilled
  obtain ⟨segment, isIn, rfl⟩ := List.mem_map.mp isFilled
  cases segment with
  | literal text =>
      exact (wellFormed.unbraced _ isIn).notEmpty
  | placeholder name =>
      obtain ⟨value, isValue⟩ := assigns.exists_value isIn
      rw [Segment.fill, isValue, Option.getD_some]
      exact noneEmpty (name, value) (assigns.sorted.get?_eq_some_iff.mp isValue)

end Template

/-- The front of a name is there if the name is long enough. -/
theorem Name.head_of_le
    {name : Name}
    {count : Nat}
    (within : count ≤ name.size) :
    name.head count = .ok (name.slice 0 count) :=
  if_neg (by omega)

namespace Matcher

/-! ## The elements that segments bind -/

/-- The variables of segments are bound in their order. -/
theorem map_fst_bindings
    {segments : List Segment}
    {elements : List String}
    (longEnough : segments.length ≤ elements.length) :
    (bindings segments elements).map Prod.fst =
      segments.filterMap Segment.name? := by
  induction segments generalizing elements with
  | nil =>
      rfl
  | cons segment segments inductionHypothesis =>
      cases elements with
      | nil =>
          cases longEnough
      | cons element elements =>
          have restBound :=
            inductionHypothesis (Nat.le_of_succ_le_succ longEnough)
          cases segment with
          | literal text =>
              exact restBound
          | placeholder name =>
              exact congrArg (List.cons name) restBound

/--
Segments stand for the first elements with exactly the values that these
elements bind, if the literals stand for theirs.
-/
theorem spells_take_iff
    {values : Record String}
    {segments : List Segment}
    {elements : List String}
    (longEnough : segments.length ≤ elements.length) :
    List.Forall₂ (Segment.Spells values) segments
        (elements.take segments.length) ↔
      acceptsAll segments elements = true ∧
        ∀ pair ∈ bindings segments elements,
          values.get? pair.1 = some pair.2 := by
  induction segments generalizing elements with
  | nil =>
      simp [acceptsAll, bindings]
  | cons segment segments inductionHypothesis =>
      cases elements with
      | nil =>
          cases longEnough
      | cons element elements =>
          rw [List.length_cons, List.take_succ_cons, List.forall₂_cons,
            inductionHypothesis (Nat.le_of_succ_le_succ longEnough),
            acceptsAll, Bool.and_eq_true]
          cases segment with
          | literal text =>
              rw [bindings, and_assoc]
              refine and_congr_left fun _ => ⟨?_, ?_⟩
              · rintro ⟨sameFold⟩
                exact beq_iff_eq.mpr sameFold
              · intro accepted
                exact .literal (beq_iff_eq.mp accepted)
          | placeholder name =>
              rw [bindings, List.forall_mem_cons]
              constructor
              · rintro ⟨_ | isValue, accepted, agree⟩
                exact ⟨⟨rfl, accepted⟩, isValue, agree⟩
              · rintro ⟨⟨-, accepted⟩, isValue, agree⟩
                exact ⟨.placeholder isValue, accepted, agree⟩

/-! ## Names that a matcher fits -/

/--
The name begins with the template, each variable replaced by its value, and
under `equals` there is no more of it.
-/
structure Instance
    (matcher : Matcher)
    (name : Name)
    (fit : Fit) : Prop where
  consumed : fit.consumed = matcher.template.size
  within : fit.consumed ≤ name.size
  whole : matcher.mode = .equals → fit.consumed = name.size
  assigns : matcher.template.Assigns fit.variableValues
  spells :
    ∃ head,
      name.head fit.consumed = .ok head ∧
        matcher.template.Spells fit.variableValues head.elements

variable
  {matcher : Matcher}
  {name : Name}

theorem spells_head_iff
    {values : Record String}
    (within : matcher.template.size ≤ name.size) :
    (∃ head,
        name.head matcher.template.size = .ok head ∧
          matcher.template.Spells values head.elements) ↔
      acceptsAll matcher.template.segments name.elements = true ∧
        ∀ pair ∈ bindings matcher.template.segments name.elements,
          values.get? pair.1 = some pair.2 := by
  rw [Name.head_of_le within, ← spells_take_iff within]
  constructor
  · rintro ⟨head, isHead, spells⟩
    cases isHead
    exact spells
  · intro spells
    exact ⟨_, rfl, spells⟩

/-- A matcher binds all its variables, each of them once. -/
theorem assigns_fit
    (wellFormed : matcher.template.WellFormed)
    (within : matcher.template.size ≤ name.size) :
    matcher.template.Assigns (matcher.fit name).variableValues ∧
      ∀ pair ∈ bindings matcher.template.segments name.elements,
        (matcher.fit name).variableValues.get? pair.1 = some pair.2 := by
  have areVariables := map_fst_bindings within
  refine ⟨⟨Record.sorted_ofList _, fun variableName => ?_⟩, ?_⟩
  · rw [fit, Record.mem_keys_ofList, areVariables]
    exact Iff.rfl
  · rintro ⟨variableName, value⟩ isBound
    refine Record.get?_ofList_of_nodup ?_ isBound
    rw [areVariables]
    exact wellFormed.distinct

/-- The fits of a matcher are the instances of its template. -/
theorem fit?_eq_some_iff_instance
    (wellFormed : matcher.template.WellFormed)
    {fit : Fit} :
    matcher.fit? name = some fit ↔ matcher.Instance name fit := by
  rw [fit?_eq_some_iff]
  constructor
  · rintro ⟨⟨sizeFits, accepted⟩, rfl⟩
    obtain ⟨within, whole⟩ := sizeFits_iff.mp sizeFits
    obtain ⟨assigns, agree⟩ := assigns_fit wellFormed within
    exact {
      consumed := rfl
      within := within
      whole := whole
      assigns := assigns
      spells := (spells_head_iff within).mpr ⟨accepted, agree⟩
    }
  · obtain ⟨consumed, values⟩ := fit
    rintro ⟨rfl, within, whole, assigns, spells⟩
    obtain ⟨accepted, agree⟩ := (spells_head_iff within).mp spells
    have sizeFits := sizeFits_iff.mpr ⟨within, whole⟩
    -- A record with these keys and these values is the one that is built.
    have sameValues : (matcher.fit name).variableValues = values := by
      refine assigns.sorted.ofList_eq agree fun variableName isKey => ?_
      rw [map_fst_bindings within]
      exact (assigns.isKey variableName).mp isKey
    exact ⟨⟨sizeFits, accepted⟩, congrArg (Fit.mk _) sameValues⟩

/-- What a template is replaced by fits, with the values that it is replaced by. -/
theorem instance_fill
    {values : Record String}
    {filled suffix : Name}
    (assigns : matcher.template.Assigns values)
    (isFilled : filled.elements = matcher.template.fill values)
    (whole : matcher.mode = .equals → suffix = Name.empty) :
    matcher.Instance (filled ++ suffix) ⟨matcher.template.size, values⟩ := by
  have sameSize : filled.size = matcher.template.size := by
    rw [Name.size, isFilled, Template.fill, List.length_map]
    rfl
  have isLonger : (filled ++ suffix).size = filled.size + suffix.size :=
    List.length_append
  have within : matcher.template.size ≤ (filled ++ suffix).size := by
    omega
  refine ⟨rfl, within, ?_, assigns, _, Name.head_of_le within, ?_⟩
  · intro isEquals
    rw [isLonger, sameSize, whole isEquals]
    rfl
  · have isFront :
        (filled.elements ++ suffix.elements).take matcher.template.size =
          filled.elements := by
      rw [← sameSize]
      exact List.take_left
    show matcher.template.Spells values
      ((filled.elements ++ suffix.elements).take matcher.template.size)
    rw [isFront, isFilled]
    exact Template.spells_fill assigns

/--
The segments of a pattern are the elements of the name that it reads as, without
braces, and no variable occurs twice. A matcher for it fits exactly the names
that begin with the pattern, each variable replaced by its value, and under
`equals` end there as well; the values are those that it reports. And whatever
values that are not empty the variables are replaced by, with whatever behind,
the matcher fits the name and reports these values.
-/
theorem matching_inverts_filling
    {pattern : String}
    {template : Template}
    (isParsed : Template.parse pattern = .ok template)
    (mode : Mode) :
    (Name.parse pattern = .ok template.name ∧ template.WellFormed) ∧
      (∀ name fit,
        (Matcher.mk mode template).fit? name = some fit ↔
          (Matcher.mk mode template).Instance name fit) ∧
        ∀ values,
          template.Assigns values →
          (∀ pair ∈ values, pair.2 ≠ "") →
          ∀ suffix : Name,
            (mode = .equals → suffix = Name.empty) →
            ∃ filled : Name,
              filled.elements = template.fill values ∧
                (Matcher.mk mode template).fit? (filled ++ suffix) =
                  some ⟨template.size, values⟩ := by
  obtain ⟨isNamed, wellFormed⟩ := Template.wellFormed_of_parse isParsed
  refine ⟨⟨isNamed, wellFormed⟩, ?_, ?_⟩
  · intro name fit
    exact fit?_eq_some_iff_instance wellFormed
  · intro values assigns noneEmpty suffix whole
    let filled : Name :=
      ⟨template.fill values, Template.fill_ne_empty wellFormed assigns noneEmpty⟩
    refine ⟨filled, rfl, (fit?_eq_some_iff_instance wellFormed).mpr ?_⟩
    exact instance_fill assigns rfl whole

/-- A literal stands for other letters, and a variable for a text with a slash. -/
theorem matching_inverts_filling_of_users :
    let template : Template :=
      ⟨⟨["users", "{id}"], by decide⟩,
        [.literal "users", .placeholder "id"]⟩
    let matcher : Matcher := ⟨.startsWith, template⟩
    let name : Name := ⟨["Users", "a/b", "devices"], by decide⟩
    Template.parse "users/{id}" = .ok template ∧
      matcher.Instance name ⟨2, [("id", "a/b")]⟩ ∧
        ∃ filled : Name,
          filled.elements = ["users", "a/b"] ∧
            (Matcher.mk .equals template).fit? (filled ++ Name.empty) =
              some ⟨2, [("id", "a/b")]⟩ := by
  intro template matcher name
  have isParsed : Template.parse "users/{id}" = .ok template := by
    decide +kernel
  have assigns : template.Assigns [("id", "a/b")] :=
    ⟨by decide, fun _ => Iff.rfl⟩
  obtain ⟨-, fits, -⟩ := matching_inverts_filling isParsed .startsWith
  obtain ⟨-, -, fills⟩ := matching_inverts_filling isParsed .equals
  refine ⟨isParsed, (fits name _).mp (by decide +kernel), ?_⟩
  exact fills _ assigns (by decide) Name.empty fun _ => rfl

end Matcher

end ResourceServer
