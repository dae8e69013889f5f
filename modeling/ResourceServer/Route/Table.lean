import ResourceServer.Route.Matcher

namespace ResourceServer

/-!
# Route tables

A table holds routes in the order in which they were added. Each route has a
number of its own, which is never used again. A name selects the one best
route that fits it; when several are equally good the table refuses to guess,
and when none fits it falls back on its default route.
-/

/-- A matcher and what it leads to. -/
structure Binding (α : Type u) where
  id : Nat
  matcher : Matcher
  target : α

/-- Routes, in the order in which they were added. -/
structure Table (α : Type u) where
  bindings : List (Binding α)
  /-- The route of names that no other route fits. -/
  fallback : Option (Binding α)
  /-- The number of the next route. -/
  nextId : Nat

/-- A route and how it fits a name. -/
structure Selection (α : Type u) where
  binding : Binding α
  fit : Fit

namespace Binding

variable {α : Type u}

/-- The number of the route as it is shown. -/
def label (binding : Binding α) : String :=
  s!"route-{binding.id}"

/-- How the route fits a name, if it does. -/
def select? (binding : Binding α) (name : Name) : Option (Selection α) :=
  (binding.matcher.fit? name).map fun fit => ⟨binding, fit⟩

/-- The route as it is described for inspection. -/
def describe (binding : Binding α) : String :=
  let mode :=
    match binding.matcher.mode with
    | .equals => "Equals"
    | .startsWith => "StartsWith"
  "RouteBinding \x7b id: RouteId(" ++ toString binding.id ++ "), mode: " ++
    mode ++ ", pattern: " ++ Text.quoted binding.matcher.template.display ++
    " \x7d"

end Binding

namespace Table

variable {α : Type u}

/-- The table without routes. -/
def empty : Table α := ⟨[], none, 1⟩

instance : Inhabited (Table α) := ⟨empty⟩

/-- The table with one more route, whose number is the next one. -/
def insert (table : Table α) (matcher : Matcher) (target : α) : Table α :=
  {
    table with
    bindings := table.bindings ++ [⟨table.nextId, matcher, target⟩]
    nextId := table.nextId + 1
  }

/-- Add a route for a pattern; a pattern that is refused changes nothing. -/
def add
    (table : Table α)
    (mode : Mode)
    (pattern : String)
    (target : α) :
    Except Template.Fault (Table α) :=
  (Matcher.parse mode pattern).map fun matcher => table.insert matcher target

/-- The table without the routes of a template, in whatever mode. -/
def remove (table : Table α) (template : Template) : Table α :=
  {
    table with
    bindings :=
      table.bindings.filter fun binding =>
        !binding.matcher.template.same template
  }

/-- The table without the route of a number. -/
def removeId (table : Table α) (id : Nat) : Table α :=
  { table with bindings := table.bindings.filter fun binding => binding.id != id }

/-- The table with this default route, which takes the next number. -/
def setFallback (table : Table α) (target : α) : Table α :=
  {
    table with
    fallback := some ⟨table.nextId, ⟨.startsWith, Template.empty⟩, target⟩
    nextId := table.nextId + 1
  }

/-- The table without a default route. -/
def clearFallback (table : Table α) : Table α :=
  { table with fallback := none }

/-- Add a route for a pattern, and tell its number. -/
def register
    (table : Table α)
    (mode : Mode)
    (pattern : String)
    (target : α) :
    Except Template.Fault (Nat × Table α) :=
  (table.add mode pattern target).map fun changed => (table.nextId, changed)

/-- Remove the routes of a pattern, and tell how many there were. -/
def unregister
    (table : Table α)
    (pattern : String) :
    Except Template.Fault (Nat × Table α) :=
  (Template.parse pattern).map fun template =>
    let kept := table.remove template
    (table.bindings.length - kept.bindings.length, kept)

/-- Remove the route of a number, and tell whether there was one. -/
def unregisterId (table : Table α) (id : Nat) : Bool × Table α :=
  let kept := table.removeId id
  (0 < table.bindings.length - kept.bindings.length, kept)

/-- The routes that fit a name, in order. -/
def candidates (table : Table α) (name : Name) : List (Selection α) :=
  table.bindings.filterMap (·.select? name)

/-- The best route seen so far, and those after it that are as good. -/
structure Leaders (α : Type u) where
  best : Selection α
  tied : List (Selection α)

/-- Hold one more route against the best ones seen so far. -/
def Leaders.challenge
    (leaders : Option (Leaders α))
    (challenger : Selection α) :
    Option (Leaders α) :=
  match leaders with
  | none => some ⟨challenger, []⟩
  | some leaders =>
      match challenger.binding.matcher.rank leaders.best.binding.matcher with
      | .gt => some ⟨challenger, []⟩
      | .eq => some { leaders with tied := leaders.tied ++ [challenger] }
      | .lt => some leaders

/-- The best routes that fit a name, the one added first leading. -/
def leaders? (table : Table α) (name : Name) : Option (Leaders α) :=
  (table.candidates name).foldl Leaders.challenge none

/-- The route of a name. -/
def select (table : Table α) (name : Name) : Except Failure (Selection α) :=
  match table.leaders? name with
  | some ⟨best, []⟩ => .ok best
  | some ⟨best, tied⟩ =>
      .error
        (.routeAmbiguous name.display
          ((best :: tied).map (·.binding.matcher.display)))
  | none =>
      match table.fallback with
      | some binding => .ok ⟨binding, ⟨0, []⟩⟩
      | none => .error (.routeNotFound name.display)

/-- The table as it is described for inspection. -/
def describe (table : Table α) : String :=
  "Router \x7b routes: [" ++
    String.intercalate ", " (table.bindings.map Binding.describe) ++
    "], has_default_route: " ++
    (if table.fallback.isSome then "true" else "false") ++ " \x7d"

/-- A best route fits the name and is in the table. -/
theorem leaders?_mem
    {table : Table α}
    {name : Name}
    {leaders : Leaders α}
    (found : table.leaders? name = some leaders) :
    leaders.best ∈ table.candidates name := by
  have invariant :
      ∀ (challengers seen : List (Selection α))
        (start : Option (Leaders α)),
        (∀ leaders, start = some leaders → leaders.best ∈ seen) →
        ∀ leaders,
          challengers.foldl Leaders.challenge start = some leaders →
          leaders.best ∈ seen ++ challengers := by
    intro challengers
    induction challengers with
    | nil =>
        intro seen start holds leaders finished
        simpa using holds leaders finished
    | cons challenger rest inductionHypothesis =>
        intro seen start holds leaders finished
        have next :=
          inductionHypothesis (seen ++ [challenger])
            (Leaders.challenge start challenger)
            (by
              intro leaders challenged
              unfold Leaders.challenge at challenged
              split at challenged
              · simp only [Option.some.injEq] at challenged
                subst challenged
                simp
              · rename_i previous
                split at challenged
                · simp only [Option.some.injEq] at challenged
                  subst challenged
                  simp
                · simp only [Option.some.injEq] at challenged
                  subst challenged
                  exact List.mem_append_left _ (holds previous rfl)
                · simp only [Option.some.injEq] at challenged
                  subst challenged
                  exact List.mem_append_left _ (holds previous rfl))
            leaders finished
        simpa using next
  simpa using
    invariant (table.candidates name) [] none (by simp) leaders found

/-- A selected route is in the table, or it is the default route. -/
theorem select_mem
    {table : Table α}
    {name : Name}
    {selection : Selection α}
    (selected : table.select name = .ok selection) :
    selection.binding ∈ table.bindings ∨
      table.fallback = some selection.binding := by
  unfold select at selected
  split at selected
  · rename_i best found
    simp only [Except.ok.injEq] at selected
    subst selected
    have isCandidate := leaders?_mem found
    simp only [candidates, List.mem_filterMap, Binding.select?,
      Option.map_eq_some_iff] at isCandidate
    obtain ⟨binding, isIn, fit, _, rfl⟩ := isCandidate
    exact .inl isIn
  · simp at selected
  · split at selected
    · rename_i binding isFallback
      simp only [Except.ok.injEq] at selected
      subst selected
      exact .inr isFallback
    · simp at selected

end Table

end ResourceServer
