import ResourceServer.Proofs.Http.Mount

namespace ResourceServer

/-!
# Paths of resources under a template

Under a template of `k` segments the names of `k + 1` elements are those of
resources: the template covers all but the last element, which is the id. A
request for a resource arrives with the id as its name, and one that creates it
with no name at all.
-/

namespace Matcher

/-- Only as many elements count as there are segments. -/
theorem acceptsAll_append
    {segments : List Segment}
    {front : List String}
    (enough : segments.length ≤ front.length)
    (rest : List String) :
    acceptsAll segments (front ++ rest) = acceptsAll segments front := by
  induction segments generalizing front with
  | nil =>
      simp only [acceptsAll]
  | cons segment segments inductionHypothesis =>
      cases front with
      | nil =>
          exact absurd enough (by simp)
      | cons element front =>
          have enoughStill : segments.length ≤ front.length :=
            Nat.le_of_succ_le_succ enough
          rw [List.cons_append, acceptsAll, acceptsAll,
            inductionHypothesis enoughStill]

end Matcher

namespace Template

variable
  {template : Template}
  {named parent : Name}
  {path id : String}

/-- The path of a resource: one element follows what the template covers. -/
structure Addresses
    (template : Template)
    (path : String)
    (named : Name)
    (id : String) : Prop where
  rooted : path.toList.head? = some '/'
  reads : Name.parse path = .ok named
  covers : template.Covers named
  size : named.size = template.size + 1
  leaf : named.leaf? = some id

/-- The id of the resource that a path is of, if it is one of a resource. -/
def instance?
    (template : Template)
    (path : String) : Option String :=
  match Name.parse path with
  | .ok named =>
      if path.toList.head? = some '/' ∧ template.Covers named ∧
          named.size = template.size + 1 then
        named.leaf?
      else
        none
  | .error _ => none

theorem instance?_eq_some_iff :
    template.instance? path = some id ↔
      ∃ named, template.Addresses path named id := by
  unfold instance?
  constructor
  · intro isInstance
    split at isInstance
    · rename_i named reads
      split at isInstance
      · rename_i allowed
        exact
          ⟨named, allowed.1, reads, allowed.2.1, allowed.2.2, isInstance⟩
      · cases isInstance
    · cases isInstance
  · rintro ⟨named, addresses⟩
    rw [addresses.reads]
    have allowed := And.intro addresses.rooted
      (And.intro addresses.covers addresses.size)
    simp only [if_pos allowed]
    exact addresses.leaf

/-- Just of the names of resources one element is forwarded, their id. -/
theorem forwarded_eq_singleton_iff :
    (template.forwarded named).elements = [id] ↔
      named.size = template.size + 1 ∧ named.leaf? = some id := by
  rw [elements_forwarded, Name.leaf?, Name.size]
  constructor
  · intro isId
    have divided := List.take_append_drop template.size named.elements
    have restLength := congrArg List.length isId
    rw [List.length_drop, List.length_singleton] at restLength
    rw [isId] at divided
    refine ⟨by omega, ?_⟩
    rw [← divided]
    exact List.getLast?_concat
  · rintro ⟨size, leaf⟩
    obtain ⟨front, isFront⟩ := List.getLast?_eq_some_iff.mp leaf
    rw [isFront, List.length_append, List.length_singleton] at size
    rw [isFront]
    exact List.drop_left' (Nat.succ_inj.mp size)

theorem instance?_of_forwarded
    (rooted : path.toList.head? = some '/')
    (reads : Name.parse path = .ok named)
    (covers : template.Covers named)
    (isId : (template.forwarded named).elements = [id]) :
    template.instance? path = some id := by
  obtain ⟨size, leaf⟩ := forwarded_eq_singleton_iff.mp isId
  exact
    instance?_eq_some_iff.mpr ⟨named, rooted, reads, covers, size, leaf⟩

/-- A resource is created in the collection that its path continues. -/
theorem instance?_of_parent
    (rooted : path.toList.head? = some '/')
    (reads : Name.parse path = .ok named)
    (isParent : named.parent? = some parent)
    (isLeaf : named.leaf? = some id)
    (covers : template.Covers parent)
    (whole : (template.forwarded parent).elements = []) :
    template.instance? path = some id := by
  have divided := Name.elements_of_parent? isParent isLeaf
  have parentSize : parent.size = template.size := by
    rw [elements_forwarded, List.drop_eq_nil_iff] at whole
    exact Nat.le_antisymm whole covers.1
  have size : named.size = template.size + 1 := by
    rw [Name.size, divided, List.length_append, ← parentSize]
    rfl
  have accepted :
      Matcher.acceptsAll template.segments named.elements = true := by
    rw [divided, Matcher.acceptsAll_append (Nat.le_of_eq parentSize.symm)]
    exact covers.2
  exact
    instance?_eq_some_iff.mpr
      ⟨named, rooted, reads, ⟨by omega, accepted⟩, size, isLeaf⟩

namespace Addresses

theorem forwarded
    (addresses : template.Addresses path named id) :
    (template.forwarded named).elements = [id] :=
  forwarded_eq_singleton_iff.mpr ⟨addresses.size, addresses.leaf⟩

/-- The collection of a resource is what the template covers of its path. -/
theorem exists_parent
    (addresses : template.Addresses path named id) :
    ∃ parent,
      named.parent? = some parent ∧
        template.Covers parent ∧
        (template.forwarded parent).elements = [] := by
  have notEmpty : named.isEmpty = false := by
    rw [Name.isEmpty, List.isEmpty_eq_false_iff]
    intro isNil
    have size := addresses.size
    rw [Name.size, isNil] at size
    cases size
  have isParent :
      named.parent? = some (named.slice 0 (named.size - 1)) := by
    rw [Name.parent?, notEmpty]
    rfl
  have divided := Name.elements_of_parent? isParent addresses.leaf
  generalize named.slice 0 (named.size - 1) = parent at isParent divided
  have parentSize : parent.size = template.size := by
    have size := addresses.size
    rw [Name.size, divided, List.length_append] at size
    exact Nat.succ_inj.mp size
  have accepted := addresses.covers.2
  rw [divided, Matcher.acceptsAll_append (Nat.le_of_eq parentSize.symm)]
    at accepted
  refine
    ⟨parent, isParent, ⟨Nat.le_of_eq parentSize.symm, accepted⟩, ?_⟩
  rw [elements_forwarded, List.drop_eq_nil_iff]
  exact Nat.le_of_eq parentSize

end Addresses

end Template

end ResourceServer
