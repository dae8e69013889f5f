import ResourceServer.Proofs.Http.Finishing

namespace ResourceServer.Incoming

open Protocol

/-!
# Two readings of the layout

How an answer is laid out is read twice: from the query alone, for a failure that
occurs before the request is understood, and with the request, for all else. The
first takes any pair that says so, the second the last one. They differ where the
bare name is given, which means true to the second alone, and where two spellings
of the name contradict each other.
-/

/-- What the query says about the layout, without the case of letters. -/
def layouts (incoming : Incoming) : List String :=
  (incoming.given .prettyPrint).map fun pair => Text.fold pair.2

variable
  {incoming : Incoming}
  {adapted : Adapted}

/-- What the last word of a query about the layout is read as. -/
inductive Reading : Option String → Bool → Prop where
  | absent : Reading none false
  | bare : Reading (some "") true
  | asked : Reading (some "true") true
  | declined : Reading (some "false") false

theorem Reading.of_truth
    {name value : String}
    {isTrue : Bool}
    (reads : truth name value = .ok isTrue) :
    Reading (some (Text.fold value)) isTrue := by
  unfold truth at reads
  split at reads
  · rename_i isWord
    cases reads
    exact isWord ▸ .asked
  · rename_i isWord
    cases reads
    exact isWord ▸ .bare
  · rename_i isWord
    cases reads
    exact isWord ▸ .declined
  · cases reads

/-- The query alone asks for a layout if any pair of it does. -/
theorem wantsPrettyPrint_iff :
    incoming.wantsPrettyPrint = true ↔ "true" ∈ incoming.layouts := by
  have isFolded : Text.fold "true" = "true" := by
    decide +kernel
  simp only [wantsPrettyPrint, layouts, given, Text.sameFold, isFolded,
    List.any_eq_true, Bool.and_eq_true, beq_iff_eq, List.mem_map,
    List.mem_filter, and_assoc]

/-- With the request the last word about the layout is read. -/
theorem reading_of_adapt
    (isAdapted : incoming.adapt = .ok adapted) :
    Reading incoming.layouts.getLast? adapted.prettyPrint := by
  obtain ⟨draft, finishes⟩ := finishes_of_adapt isAdapted
  have isSettled := finishes.prettyPrint_eq
  rw [layouts, List.getLast?_map]
  cases isLast : (incoming.given .prettyPrint).getLast? with
  | none =>
      rw [isLast] at isSettled
      rw [isSettled]
      exact .absent
  | some pair =>
      rw [isLast] at isSettled
      exact .of_truth isSettled

/--
Both readings of the layout agree unless the last pair is without a value and no
pair says true, or the last pair says false and another one says true.
-/
theorem layouts_agree_iff
    (isAdapted : incoming.adapt = .ok adapted) :
    (incoming.wantsPrettyPrint = true ↔ "true" ∈ incoming.layouts) ∧
      (adapted.prettyPrint = true ↔
        incoming.layouts.getLast? = some "true" ∨
          incoming.layouts.getLast? = some "") ∧
      (incoming.wantsPrettyPrint = adapted.prettyPrint ↔
        (incoming.layouts.getLast? = some "" → "true" ∈ incoming.layouts) ∧
          (incoming.layouts.getLast? = some "false" →
            "true" ∉ incoming.layouts)) := by
  have reading := reading_of_adapt isAdapted
  refine ⟨wantsPrettyPrint_iff, ?_⟩
  rw [Bool.eq_iff_iff (a := incoming.wantsPrettyPrint), wantsPrettyPrint_iff]
  -- Both readings depend on the words alone, the second on the last of them.
  generalize incoming.layouts = words at reading ⊢
  generalize isLast : words.getLast? = last at reading ⊢
  generalize adapted.prettyPrint = pretty at reading ⊢
  cases reading with
  | absent =>
      cases List.getLast?_eq_none_iff.mp isLast
      simp
  | bare =>
      simp
  | asked =>
      simp [List.mem_of_getLast? isLast]
  | declined =>
      simp

/-- To read a user with these parameters. -/
def readUser (query : List (String × String)) : Incoming :=
  ⟨"GET", "/users/1", query, ⟨[]⟩, []⟩

/-- Both readings find that the answer is to be indented. -/
theorem layouts_agree_on_capitals :
    let incoming := readUser [("_PRETTYPRINT", "TRUE")]
    ∃ adapted,
      incoming.adapt = .ok adapted ∧
        adapted.prettyPrint = true ∧
        incoming.wantsPrettyPrint = adapted.prettyPrint := by
  intro incoming
  have isAdapted :
      incoming.adapt =
        .ok ⟨⟨⟨["users", "1"], by decide⟩, [], [], .read⟩, true⟩ := by
    decide +kernel
  obtain ⟨-, -, agree⟩ := layouts_agree_iff isAdapted
  exact ⟨_, isAdapted, rfl, agree.mpr (by decide +kernel)⟩

/-- They differ on the bare name and on two spellings that disagree. -/
theorem layouts_differ :
    (readUser [("_prettyPrint", "")]).adapt =
        .ok ⟨⟨⟨["users", "1"], by decide⟩, [], [], .read⟩, true⟩ ∧
      (readUser [("_prettyPrint", "")]).wantsPrettyPrint = false ∧
      (readUser [("_prettyPrint", "true"), ("_PRETTYPRINT", "false")]).adapt =
        .ok ⟨⟨⟨["users", "1"], by decide⟩, [], [], .read⟩, false⟩ ∧
      (readUser
        [("_prettyPrint", "true"), ("_PRETTYPRINT", "false")]).wantsPrettyPrint =
          true := by
  decide +kernel

end ResourceServer.Incoming
