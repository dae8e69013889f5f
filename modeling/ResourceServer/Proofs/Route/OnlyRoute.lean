import ResourceServer.Proofs.Route.Delivery

namespace ResourceServer

/-!
# Tables of one route

A table of a single route selects it for every name that the route fits and no
route for any other name. So a router with such a table hands every request on
that the route fits, without the front of its name, and refuses all others.
-/

namespace Table

variable
  {α : Type u}
  {matcher : Matcher}
  {name : Name}

/-- The only route of a table is selected where it fits. -/
theorem select_only_of_fits
    {fit : Fit}
    (target : α)
    (fits : matcher.fit? name = some fit) :
    ((empty : Table α).insert matcher target).select name =
      .ok ⟨⟨1, matcher, target⟩, fit⟩ := by
  simp only [select, leaders?, candidates, insert, empty, List.nil_append,
    List.filterMap_cons, List.filterMap_nil, Binding.select?, fits,
    Option.map_some, List.foldl_cons, List.foldl_nil, Leaders.challenge]

/-- Where the only route does not fit, no route is found. -/
theorem select_only_of_not_fits
    (target : α)
    (fitsNot : matcher.fit? name = none) :
    ((empty : Table α).insert matcher target).select name =
      .error (.routeNotFound name.display) := by
  simp only [select, leaders?, candidates, insert, empty, List.nil_append,
    List.filterMap_cons, List.filterMap_nil, Binding.select?, fitsNot,
    Option.map_none, List.foldl_nil]

end Table

namespace Template

/-- The segments stand for the first elements of a name. -/
def Covers
    (template : Template)
    (name : Name) : Prop :=
  template.size ≤ name.size ∧
    Matcher.acceptsAll template.segments name.elements = true

instance (template : Template) (name : Name) :
    Decidable (template.Covers name) :=
  inferInstanceAs (Decidable (_ ∧ _))

/-- What is left of a name behind the elements that the segments stand for. -/
def forwarded
    (template : Template)
    (name : Name) : Name :=
  name.slice template.size name.size

theorem elements_forwarded
    (template : Template)
    (name : Name) :
    (template.forwarded name).elements =
      name.elements.drop template.size := by
  show (name.elements.take name.size).drop template.size = _
  rw [Name.size, List.take_length]

/-- A template that covers a name splits it there. -/
theorem exists_fit_of_covers
    {template : Template}
    {name : Name}
    (covers : template.Covers name) :
    ∃ fit,
      (Matcher.mk .startsWith template).fit? name = some fit ∧
        fit.split name =
          .ok (name.slice 0 template.size, template.forwarded name) := by
  have fits :
      (Matcher.mk .startsWith template).sizeFits name = true ∧
        Matcher.acceptsAll template.segments name.elements = true :=
    ⟨decide_eq_true covers.1, covers.2⟩
  rw [Matcher.fit?, if_pos fits]
  exact ⟨_, rfl, Fit.split_of_le covers.1⟩

/-- A template that does not cover a name does not fit at its beginning. -/
theorem fit?_of_not_covers
    {template : Template}
    {name : Name}
    (coversNot : ¬ template.Covers name) :
    (Matcher.mk .startsWith template).fit? name = none := by
  refine if_neg ?_
  rintro ⟨hasSize, accepted⟩
  exact coversNot ⟨of_decide_eq_true hasSize, accepted⟩

end Template

namespace Matcher

/-- The segments stand for the elements, as many as the mode asks for. -/
def Accepts
    (matcher : Matcher)
    (name : Name) : Prop :=
  matcher.sizeFits name = true ∧
    acceptsAll matcher.template.segments name.elements = true

instance (matcher : Matcher) (name : Name) :
    Decidable (matcher.Accepts name) :=
  inferInstanceAs (Decidable (_ ∧ _))

variable
  {matcher : Matcher}
  {name : Name}

/-- How a matcher fits the names that it accepts. -/
def fit
    (matcher : Matcher)
    (name : Name) : Fit where
  consumed := matcher.template.size
  variableValues :=
    Record.ofList (bindings matcher.template.segments name.elements)

theorem fit?_of_accepts
    (accepts : matcher.Accepts name) :
    matcher.fit? name = some (matcher.fit name) :=
  if_pos accepts

theorem fit?_of_not_accepts
    (acceptsNot : ¬ matcher.Accepts name) :
    matcher.fit? name = none :=
  if_neg acceptsNot

/-- The sizes fit when the name is as long as the template, or longer for a prefix. -/
theorem sizeFits_iff :
    matcher.sizeFits name = true ↔
      matcher.template.size ≤ name.size ∧
        (matcher.mode = .equals → matcher.template.size = name.size) := by
  unfold sizeFits
  cases matcher.mode with
  | equals =>
      rw [beq_iff_eq]
      constructor
      · intro sameSize
        exact ⟨Nat.le_of_eq sameSize.symm, fun _ => sameSize.symm⟩
      · rintro ⟨-, sameSize⟩
        exact (sameSize rfl).symm
  | startsWith =>
      simp

/-- A matcher fits the names that it accepts, each of them in one way. -/
theorem fit?_eq_some_iff
    {fit : Fit} :
    matcher.fit? name = some fit ↔
      matcher.Accepts name ∧ matcher.fit name = fit := by
  by_cases accepts : matcher.Accepts name
  · rw [fit?_of_accepts accepts, Option.some.injEq]
    exact (and_iff_right accepts).symm
  · rw [fit?_of_not_accepts accepts]
    simp [accepts]

theorem isSome_fit?_iff :
    (matcher.fit? name).isSome = true ↔ matcher.Accepts name := by
  by_cases accepts : matcher.Accepts name
  · simp [fit?_of_accepts accepts, accepts]
  · simp [fit?_of_not_accepts accepts, accepts]

/-- The step of a name through a router that selects this matcher's route. -/
def hop
    (matcher : Matcher)
    (name : Name) : Hop :=
  (matcher.fit name).hop
    (name.slice 0 matcher.template.size)
    (matcher.template.forwarded name)

end Matcher

namespace Handler

variable
  {α : Type}
  {matcher : Matcher}
  {ids : IdSupply}
  {context : Context}
  {request : Request}

/-- The router whose only route leads to a handler. -/
def behind
    (matcher : Matcher)
    (handler : Handler α) :
    Handler α :=
  .router (Table.empty.insert matcher handler)

/-- What the only route accepts is delivered behind it, with its hop in the context. -/
theorem deliver_behind_of_accepts
    (accepts : matcher.Accepts request.name)
    (handler : Handler α) :
    (behind matcher handler).deliver ids context request =
      handler.deliver ids.advance
        (context.push ids.next (.router (matcher.hop request.name)))
        (request.withName (matcher.template.forwarded request.name)) := by
  have fits := Matcher.fit?_of_accepts accepts
  exact
    deliver_of_select_ok
      (Table.select_only_of_fits handler fits)
      (Fit.split_of_le (Matcher.consumed_le_of_fit? fits))

/-- What the only route does not accept is delivered nowhere. -/
theorem deliver_behind_of_not_accepts
    (acceptsNot : ¬ matcher.Accepts request.name)
    (handler : Handler α) :
    (behind matcher handler).deliver ids context request =
      .error (.routeNotFound request.name.display) :=
  deliver_of_select_error
    (Table.select_only_of_not_fits handler
      (Matcher.fit?_of_not_accepts acceptsNot))

end Handler

end ResourceServer
