import ResourceServer.Proofs.Name.Grammar
import ResourceServer.Route.Template

namespace ResourceServer

/-!
# Patterns joined by a slash

A path is read piece by piece between its slashes, and a pattern segment by
segment; neither depends on the pieces around, except that no variable may occur
twice. So two patterns that have no variable in common and no slash at their
ends read, with a slash between them, as the segments of the one and then those
of the other.
-/

namespace Template

/-- A pattern is a name whose elements can be read as segments. -/
theorem parse_eq_ok_iff
    {pattern : String}
    {template : Template} :
    parse pattern = .ok template ↔
      Name.parse pattern = .ok template.name ∧
        readSegments pattern [] template.name.elements =
          .ok template.segments := by
  obtain ⟨name, segments⟩ := template
  unfold parse
  cases isNamed : Name.parse pattern with
  | error fault =>
      simp only [reduceCtorEq, false_and]
  | ok found =>
      dsimp only
      constructor
      · intro isParsed
        cases areRead : readSegments pattern [] found.elements with
        | error fault =>
            rw [areRead] at isParsed
            cases isParsed
        | ok read =>
            rw [areRead] at isParsed
            cases isParsed
            exact ⟨rfl, areRead⟩
      · rintro ⟨isFound, areRead⟩
        cases isFound
        rw [areRead]
        rfl

/-- What an element is read as does not depend on the pattern it stands in. -/
theorem readSegment_of_pattern
    {pattern element : String}
    {segment : Segment}
    (readsAs : readSegment pattern element = .ok segment)
    (other : String) :
    readSegment other element = .ok segment := by
  unfold readSegment at readsAs ⊢
  split at readsAs
  · split at readsAs
    · cases readsAs
    · rename_i isName
      rw [if_neg isName]
      exact readsAs
  · split at readsAs
    · cases readsAs
    · rename_i isLiteral
      rw [if_neg isLiteral]
      exact readsAs

/--
Segments are read one by one, if no variable occurs twice.

The variables in `bound` must not occur either.
-/
theorem readSegments_eq_ok_iff
    {pattern : String}
    {bound elements : List String}
    {segments : List Segment} :
    readSegments pattern bound elements = .ok segments ↔
      List.Forall₂
          (fun element segment => readSegment pattern element = .ok segment)
          elements segments ∧
        (segments.filterMap Segment.name?).Nodup ∧
        bound.Disjoint (segments.filterMap Segment.name?) := by
  induction elements generalizing bound segments with
  | nil =>
      cases segments with
      | nil =>
          simp [readSegments]
      | cons segment rest =>
          simp [readSegments]
  | cons element rest inductionHypothesis =>
      rw [List.forall₂_cons_left_iff]
      cases isRead : readSegment pattern element with
      | error fault =>
          simp [readSegments, isRead]
      | ok segment =>
          cases segment with
          | literal text =>
              simp only [readSegments, isRead, Name.map_eq_ok_iff,
                inductionHypothesis]
              constructor
              · rintro ⟨others, ⟨areRead, distinct, apart⟩, rfl⟩
                exact ⟨⟨_, others, rfl, areRead, rfl⟩, distinct, apart⟩
              · rintro ⟨⟨_, others, isFirst, areRead, rfl⟩, distinct, apart⟩
                cases isFirst
                exact ⟨others, ⟨areRead, distinct, apart⟩, rfl⟩
          | placeholder name =>
              by_cases isBound : name ∈ bound
              · have isTwice : bound.contains name = true :=
                  List.contains_iff_mem.mpr isBound
                simp only [readSegments, isRead, isTwice, if_true]
                constructor
                · intro isOk
                  cases isOk
                · rintro ⟨⟨_, others, isFirst, -, rfl⟩, -, apart⟩
                  cases isFirst
                  exact absurd List.mem_cons_self (apart isBound)
              · have isNew : bound.contains name = false := by
                  rw [← Bool.not_eq_true, List.contains_iff_mem]
                  exact isBound
                simp only [readSegments, isRead, isNew, Bool.false_eq_true,
                  if_false, Name.map_eq_ok_iff, inductionHypothesis]
                constructor
                · rintro ⟨others, ⟨areRead, distinct, apart⟩, rfl⟩
                  rw [List.disjoint_cons_left] at apart
                  refine
                    ⟨⟨_, others, rfl, areRead, rfl⟩,
                      List.nodup_cons.mpr ⟨apart.1, distinct⟩, ?_⟩
                  exact List.disjoint_cons_right.mpr ⟨isBound, apart.2⟩
                · rintro ⟨⟨_, others, isFirst, areRead, rfl⟩, distinct, apart⟩
                  cases isFirst
                  obtain ⟨isFresh, restDistinct⟩ := List.nodup_cons.mp distinct
                  have restApart := (List.disjoint_cons_right.mp apart).2
                  exact
                    ⟨others,
                      ⟨areRead, restDistinct,
                        List.disjoint_cons_left.mpr ⟨isFresh, restApart⟩⟩,
                      rfl⟩

/-- The segments of one template and then those of another. -/
def append (left right : Template) : Template :=
  ⟨left.name ++ right.name, left.segments ++ right.segments⟩

instance : Append Template := ⟨append⟩

/-- Two patterns with a slash between them read as both, one after the other. -/
theorem parse_join
    {front back : String}
    {left right : Template}
    (frontBare : Name.Bare front)
    (backBare : Name.Bare back)
    (frontReads : parse front = .ok left)
    (backReads : parse back = .ok right)
    (apart : left.variableNames.Disjoint right.variableNames) :
    parse (front ++ "/" ++ back) = .ok (left ++ right) := by
  obtain ⟨frontNamed, frontRead⟩ := parse_eq_ok_iff.mp frontReads
  obtain ⟨backNamed, backRead⟩ := parse_eq_ok_iff.mp backReads
  obtain ⟨frontEach, frontDistinct, -⟩ := readSegments_eq_ok_iff.mp frontRead
  obtain ⟨backEach, backDistinct, -⟩ := readSegments_eq_ok_iff.mp backRead
  have isNamed :
      Name.parse (front ++ "/" ++ back) = .ok (left.name ++ right.name) :=
    (Name.parse_join_eq_ok_iff frontBare backBare).mpr
      ⟨left.name, right.name, frontNamed, backNamed, rfl⟩
  refine parse_eq_ok_iff.mpr
    ⟨isNamed,
      readSegments_eq_ok_iff.mpr ⟨?_, ?_, List.disjoint_nil_left _⟩⟩
  · refine List.rel_append (frontEach.imp ?_) (backEach.imp ?_)
    · intro element segment readsAs
      exact readSegment_of_pattern readsAs _
    · intro element segment readsAs
      exact readSegment_of_pattern readsAs _
  · show ((left.segments ++ right.segments).filterMap Segment.name?).Nodup
    rw [List.filterMap_append]
    refine List.nodup_append.mpr ⟨frontDistinct, backDistinct, ?_⟩
    intro name inFront other inBack isSame
    subst isSame
    exact apart inFront inBack

end Template

end ResourceServer
