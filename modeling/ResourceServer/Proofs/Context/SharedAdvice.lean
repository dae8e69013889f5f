import ResourceServer.Context.Forest

namespace ResourceServer

/-!
# Advice in shared frames

Contexts share their outer frames, and advice is the one thing in a frame that
changes. Advice goes into the own frame of a context and nowhere else: a context
whose own frame is no advice frame may read what is further out, but it cannot
add to it. So while contexts grow and put advice in any order, what a frame
keeps under a name only ever gains values at its end.
-/

namespace Advice

/-- All characters lie between the space and the tilde. -/
def IsPrintable (text : String) : Prop :=
  ∀ char ∈ text.toList, 0x20 ≤ char.toNat ∧ char.toNat ≤ 0x7E

/-- No withheld name is the name, whatever the case of its letters. -/
def Allows (advice : Advice) (name : String) : Prop :=
  ∀ withheld ∈ advice.restricted, Text.fold withheld ≠ Text.fold name

/-- The later advice has one more value, the last one under its name. -/
structure Appends
    (earlier : Advice)
    (name value : String)
    (later : Advice) : Prop where
  restricted : later.restricted = earlier.restricted
  appended : later.under name = earlier.under name ++ [value]
  elsewhere : ∀ other, other ≠ name → later.under other = earlier.under other

/-- The later advice has all values of the earlier one, in their places. -/
structure Extends
    (later earlier : Advice) : Prop where
  restricted : later.restricted = earlier.restricted
  kept : ∀ name, earlier.under name <+: later.under name

theorem isLegal_iff
    {text : String} :
    isLegal text = true ↔ IsPrintable text := by
  simp only [isLegal, IsPrintable, List.all_eq_true, Bool.and_eq_true,
    decide_eq_true_eq]

/-- The check of a name is that the advice allows it. -/
theorem isRestricted_eq_false_iff
    {advice : Advice}
    {name : String} :
    advice.isRestricted name = false ↔ advice.Allows name := by
  simp only [isRestricted, Allows, Text.sameFold, List.any_eq_false, beq_iff_eq]

/-- What is put under a name comes last, and other names are left alone. -/
theorem appends_insert
    (advice : Advice)
    (name value : String) :
    advice.Appends name value
      {
        advice with
        values := advice.values.insert name (advice.under name ++ [value])
      } where
  restricted := rfl
  appended := by
    simp only [under, Record.get?_insert_self, Option.getD_some]
  elsewhere := by
    intro other different
    simp only [under, Record.get?_insert_of_ne _ _ different.symm]

/-- Advice is taken just where its name is allowed and it can be printed. -/
theorem put_succeeds_iff
    {advice : Advice}
    {name value : String} :
    (∃ advised, advice.put name value = .ok advised) ↔
      advice.Allows name ∧ IsPrintable name ∧ IsPrintable value := by
  rw [← isRestricted_eq_false_iff, ← isLegal_iff, ← isLegal_iff, put]
  cases advice.isRestricted name <;> cases isLegal name <;>
    cases isLegal value <;> simp

/-- A value that was put is appended under its name. -/
theorem put_eq_ok
    {advice advised : Advice}
    {name value : String}
    (isPut : advice.put name value = .ok advised) :
    advice.Appends name value advised := by
  unfold put at isPut
  split at isPut
  · cases isPut
  · split at isPut
    · cases isPut
    · cases isPut
      exact advice.appends_insert name value

theorem put_eq_error
    {advice : Advice}
    {name value : String}
    {failure : Failure}
    (refused : advice.put name value = .error failure) :
    ∃ reason, failure = .invalidArgument reason := by
  unfold put at refused
  split at refused
  · cases refused
    exact ⟨_, rfl⟩
  · split at refused
    · cases refused
      exact ⟨_, rfl⟩
    · cases refused

namespace Extends

theorem refl
    (advice : Advice) :
    advice.Extends advice :=
  ⟨rfl, fun _ => List.prefix_rfl⟩

theorem trans
    {first second third : Advice}
    (latter : third.Extends second)
    (former : second.Extends first) :
    third.Extends first :=
  ⟨latter.restricted.trans former.restricted,
    fun name => (former.kept name).trans (latter.kept name)⟩

/-- Appending a value extends the advice. -/
theorem of_appends
    {earlier later : Advice}
    {name value : String}
    (appends : earlier.Appends name value later) :
    later.Extends earlier where
  restricted := appends.restricted
  kept := by
    intro other
    by_cases same : other = name
    · subst same
      rw [appends.appended]
      exact List.prefix_append _ _
    · exact appends.elsewhere other same ▸ List.prefix_rfl

end Extends

end Advice

namespace Context

/-- Some frame of the chain is an advice frame. -/
def HasAdvice (context : Context) : Prop :=
  ∃ node ∈ context.nodes, ∃ advice, node.frame = .advice advice

/-- A context has advice when one of its frames is an advice frame. -/
theorem hasHolding_advice_iff
    {context : Context} :
    context.hasHolding .advice = true ↔ context.HasAdvice := by
  have holds_iff :
      ∀ frame : Frame,
        frame.holds .advice = true ↔ ∃ advice, frame = .advice advice := by
    intro frame
    cases frame <;> simp [Frame.holds]
  simp only [hasHolding, HasAdvice, List.any_eq_true, holds_iff]

/-- Advice that a context puts goes into its own frame. -/
theorem putAdvice_eq_ok
    {context advised : Context}
    {name value : String}
    (isPut : context.putAdvice name value = .ok advised) :
    ∃ advice grown,
      context.own.frame = .advice advice ∧
        advice.Appends name value grown ∧
        advised.own = { context.own with frame := .advice grown } := by
  unfold putAdvice at isPut
  split at isPut
  · rename_i advice isOwn
    cases added : advice.put name value with
    | error failure =>
        rw [added] at isPut
        cases isPut
    | ok grown =>
        rw [added] at isPut
        cases isPut
        exact ⟨advice, grown, isOwn, Advice.put_eq_ok added, rfl⟩
  · split at isPut
    · cases isPut
    · cases isPut

/-- A context takes advice when its own frame allows the name and both texts are
printable. -/
theorem putAdvice_succeeds_iff
    {context : Context}
    {name value : String} :
    (∃ advised, context.putAdvice name value = .ok advised) ↔
      ∃ advice,
        context.own.frame = .advice advice ∧
          advice.Allows name ∧
          Advice.IsPrintable name ∧
          Advice.IsPrintable value := by
  constructor
  · rintro ⟨advised, isPut⟩
    unfold putAdvice at isPut
    split at isPut
    · rename_i advice isOwn
      cases added : advice.put name value with
      | error failure =>
          rw [added] at isPut
          cases isPut
      | ok grown =>
          exact ⟨advice, isOwn, Advice.put_succeeds_iff.mp ⟨grown, added⟩⟩
    · split at isPut
      · cases isPut
      · cases isPut
  · rintro ⟨advice, isOwn, allowed⟩
    obtain ⟨grown, added⟩ := Advice.put_succeeds_iff.mpr allowed
    rw [putAdvice, isOwn]
    simp only [added]
    exact ⟨_, rfl⟩

/-- Refusals tell whether there is any advice frame in the chain. -/
theorem putAdvice_eq_error
    {context : Context}
    {name value : String}
    {failure : Failure}
    (refused : context.putAdvice name value = .error failure) :
    (context.HasAdvice ∧ ∃ reason, failure = .invalidArgument reason) ∨
      (¬ context.HasAdvice ∧ failure = .contextNotFound "advice") := by
  unfold putAdvice at refused
  split at refused
  · rename_i advice isOwn
    have hasAdvice : context.HasAdvice :=
      ⟨context.own, List.mem_cons_self, advice, isOwn⟩
    cases added : advice.put name value with
    | error reported =>
        rw [added] at refused
        cases refused
        exact .inl ⟨hasAdvice, Advice.put_eq_error added⟩
    | ok grown =>
        rw [added] at refused
        cases refused
  · split at refused
    · rename_i held
      cases refused
      exact .inl ⟨hasHolding_advice_iff.mp held, _, rfl⟩
    · rename_i heldNot
      cases refused
      exact .inr ⟨mt hasHolding_advice_iff.mpr heldNot, rfl⟩

end Context

namespace Forest

/-- One thing that is done to contexts that share frames. -/
inductive Step where
  /-- A frame is pushed on the context at a place. -/
  | push (place : Nat) (id : String) (frame : Frame)
  /-- The context at a place puts advice. -/
  | putAdvice (place : Nat) (name value : String)

/-- The forest after a step; one that is refused changes nothing. -/
def after (forest : Forest) : Step → Forest
  | .push place id frame =>
      match forest.extend place id frame with
      | .ok grown => grown
      | .error _ => forest
  | .putAdvice place name value =>
      match forest.putAdvice place name value with
      | .ok advised => advised
      | .error _ => forest

/-- The forest after steps in order. -/
def afterAll (forest : Forest) (steps : List Step) : Forest :=
  steps.foldl after forest

/-- The advice in the frame at a place, if that is an advice frame. -/
def advice? (forest : Forest) (place : Nat) : Option Advice :=
  (forest.entries[place]?).bind fun entry => entry.1.frame.asAdvice?

/-- How the context at a place puts advice. -/
structure PutsAdvice
    (forest : Forest)
    (place : Nat)
    (context : Context)
    (name value : String) : Prop where
  succeeds :
    (∃ advised, forest.putAdvice place name value = .ok advised) ↔
      ∃ advice,
        context.own.frame = .advice advice ∧
          advice.Allows name ∧
          Advice.IsPrintable name ∧
          Advice.IsPrintable value
  appends :
    ∀ {advised : Forest},
      forest.putAdvice place name value = .ok advised →
        ∃ advice grown,
          forest.advice? place = some advice ∧
            advised.advice? place = some grown ∧
            advice.Appends name value grown
  keepsOthers :
    ∀ {advised : Forest},
      forest.putAdvice place name value = .ok advised →
        advised.size = forest.size ∧
          ∀ other,
            other ≠ place → advised.entries[other]? = forest.entries[other]?
  refused :
    ∀ {failure : Failure},
      forest.putAdvice place name value = .error failure →
        forest.after (.putAdvice place name value) = forest ∧
          ((context.HasAdvice ∧ ∃ reason, failure = .invalidArgument reason) ∨
            (¬ context.HasAdvice ∧ failure = .contextNotFound "advice"))

variable
  {forest : Forest}
  {place : Nat}
  {context : Context}
  {name value : String}

/-! ## Contexts at places -/

/-- At every place there is a context, whose own frame is the one there. -/
theorem exists_context
    (isPlace : place < forest.size) :
    ∃ context next,
      forest.context? place = some context ∧
        forest.entries[place]? = some (context.own, next) := by
  obtain ⟨⟨own, next⟩, isEntry⟩ : ∃ entry, forest.entries[place]? = some entry :=
    ⟨_, Array.getElem?_eq_getElem isPlace⟩
  have beginsOwn : ∃ outer, forest.nodesFrom place = own :: outer := by
    rw [nodesFrom, isEntry]
    cases next with
    | none =>
        exact ⟨_, rfl⟩
    | some next =>
        dsimp only
        split
        · exact ⟨_, rfl⟩
        · exact ⟨_, rfl⟩
  obtain ⟨outer, isChain⟩ := beginsOwn
  refine ⟨⟨own, outer⟩, next, ?_, isEntry⟩
  rw [context?, isChain]

/-- The own frame of a context is the one at its place. -/
theorem own_of_context
    (isContext : forest.context? place = some context) :
    ∃ next, forest.entries[place]? = some (context.own, next) := by
  by_cases isPlace : place < forest.size
  · obtain ⟨found, next, isFound, isEntry⟩ := exists_context isPlace
    cases isFound.symm.trans isContext
    exact ⟨next, isEntry⟩
  · have noEntry : forest.entries[place]? = none :=
      Array.getElem?_eq_none (Nat.le_of_not_lt isPlace)
    rw [context?, nodesFrom, noEntry] at isContext
    cases isContext

/-- The chain from a place depends only on what is there and before. -/
theorem nodesFrom_congr
    {other : Forest}
    (agree :
      ∀ before ≤ place, other.entries[before]? = forest.entries[before]?) :
    other.nodesFrom place = forest.nodesFrom place := by
  induction place using Nat.strongRecOn with
  | ind place inductionHypothesis =>
      rw [nodesFrom, nodesFrom, agree place (Nat.le_refl place)]
      split
      · rfl
      · rfl
      · rename_i next _
        split
        · rename_i isBefore
          rw [inductionHypothesis next isBefore]
          intro before isNext
          exact agree before (Nat.le_trans isNext (Nat.le_of_lt isBefore))
        · rfl

/-- A frame that is added stands behind all others and changes none of them. -/
theorem getElem?_grow
    (node : Node)
    (next : Option Nat)
    (isPlace : place < forest.size) :
    (forest.grow node next).entries[place]? = forest.entries[place]? := by
  have notLast : place ≠ forest.entries.size := Nat.ne_of_lt isPlace
  rw [grow, Array.getElem?_push, if_neg notLast]

/-- An added frame changes no context that was there. -/
theorem context?_grow_of_lt
    (node : Node)
    (next : Option Nat)
    (isPlace : place < forest.size) :
    (forest.grow node next).context? place = forest.context? place := by
  have sameChain :
      (forest.grow node next).nodesFrom place = forest.nodesFrom place :=
    nodesFrom_congr fun before isBefore =>
      getElem?_grow node next (Nat.lt_of_le_of_lt isBefore isPlace)
  rw [context?, context?, sameChain]

/-- The context of a frame that is added goes on with the context it is added to. -/
theorem context?_grow_self
    {id : String}
    {frame : Frame}
    (isPlace : place < forest.size)
    (isContext : forest.context? place = some context) :
    (forest.grow ⟨id, frame⟩ (some place)).context? forest.size =
      some (context.push id frame) := by
  have isLast :
      (forest.grow ⟨id, frame⟩ (some place)).entries[forest.size]? =
        some (⟨id, frame⟩, some place) :=
    Array.getElem?_push_size
  have isOuter :
      (forest.grow ⟨id, frame⟩ (some place)).nodesFrom place =
        context.nodes := by
    have sameContext :=
      (context?_grow_of_lt ⟨id, frame⟩ (some place) isPlace).trans isContext
    unfold context? at sameContext
    split at sameContext
    · cases sameContext
    · rename_i own outer isChain
      cases sameContext
      exact isChain
  rw [context?, nodesFrom, isLast]
  simp only [isPlace, if_true, isOuter]
  rfl

/-- A pushed frame is added on top of the place it was pushed to. -/
theorem after_push
    (place : Nat)
    (id : String)
    {frame : Frame}
    (notRoot : frame ≠ .root) :
    forest.after (.push place id frame) =
      forest.grow ⟨id, frame⟩ (some place) := by
  have isAddition : Context.addition frame = .ok frame := by
    unfold Context.addition
    split
    · exact absurd rfl notRoot
    · rfl
  rw [after, extend, isAddition]
  rfl

/-! ## What putting advice does -/

/-- Where there is a context, it puts the advice, and its own frame is replaced. -/
theorem putAdvice_of_context
    (isContext : forest.context? place = some context)
    (name value : String) :
    forest.putAdvice place name value =
      (context.putAdvice name value).map fun advised =>
        ⟨forest.entries.modify place fun entry => (advised.own, entry.2)⟩ := by
  rw [putAdvice, isContext]

/-- The advice at a place is that of the advice frame there. -/
theorem advice?_eq_some_iff
    {advice : Advice} :
    forest.advice? place = some advice ↔
      ∃ id next,
        forest.entries[place]? = some (⟨id, .advice advice⟩, next) := by
  unfold advice?
  constructor
  · intro held
    obtain ⟨⟨⟨id, frame⟩, next⟩, isEntry, isAdvice⟩ :=
      Option.bind_eq_some_iff.mp held
    cases frame with
    | advice given =>
        cases isAdvice
        exact ⟨id, next, isEntry⟩
    | root | security | http | apiVersion | locale | internal | router
    | custom =>
        cases isAdvice
  · rintro ⟨id, next, isEntry⟩
    rw [isEntry]
    rfl

/-- Advice that is put is appended in the frame at the place, and only there. -/
theorem putAdvice_eq_ok
    {advised : Forest}
    (isContext : forest.context? place = some context)
    (isPut : forest.putAdvice place name value = .ok advised) :
    (∃ advice grown,
      forest.advice? place = some advice ∧
        advised.advice? place = some grown ∧
        advice.Appends name value grown) ∧
      advised.size = forest.size ∧
      ∀ other,
        other ≠ place → advised.entries[other]? = forest.entries[other]? := by
  obtain ⟨next, isEntry⟩ := own_of_context isContext
  rw [putAdvice_of_context isContext] at isPut
  cases added : context.putAdvice name value with
  | error failure =>
      rw [added] at isPut
      cases isPut
  | ok changed =>
      rw [added] at isPut
      cases isPut
      obtain ⟨advice, grown, isOwn, appends, isChanged⟩ :=
        Context.putAdvice_eq_ok added
      refine ⟨⟨advice, grown, ?_, ?_, appends⟩, Array.size_modify, ?_⟩
      · rw [advice?, isEntry, Option.bind_some, isOwn]
        rfl
      · rw [advice?, Array.getElem?_modify, if_pos rfl, isEntry, isChanged]
        rfl
      · intro other elsewhere
        rw [Array.getElem?_modify, if_neg elsewhere.symm]

/-- Every context puts advice in this way. -/
theorem putsAdvice
    (isContext : forest.context? place = some context)
    (name value : String) :
    forest.PutsAdvice place context name value where
  succeeds := by
    rw [← Context.putAdvice_succeeds_iff, putAdvice_of_context isContext]
    cases context.putAdvice name value <;> simp [Except.map]
  appends := fun isPut => (putAdvice_eq_ok isContext isPut).1
  keepsOthers := fun isPut => (putAdvice_eq_ok isContext isPut).2
  refused := by
    intro failure refused
    refine ⟨by rw [after, refused], ?_⟩
    rw [putAdvice_of_context isContext] at refused
    cases added : context.putAdvice name value with
    | error reported =>
        rw [added] at refused
        cases refused
        exact Context.putAdvice_eq_error added
    | ok changed =>
        rw [added] at refused
        cases refused

/-! ## Runs -/

/-- The advice of every frame is extended at most. -/
def KeepsAdvice (later earlier : Forest) : Prop :=
  ∀ {place : Nat} {advice : Advice},
    earlier.advice? place = some advice →
      ∃ grown, later.advice? place = some grown ∧ grown.Extends advice

/-- One step only extends the advice of the frames. -/
theorem keepsAdvice_after
    (forest : Forest)
    (step : Step) :
    (forest.after step).KeepsAdvice forest := by
  intro place advice held
  obtain ⟨id, next, isEntry⟩ := advice?_eq_some_iff.mp held
  have isPlace : place < forest.size :=
    (Array.getElem?_eq_some_iff.mp isEntry).1
  have heldStill :
      ∀ {later : Forest},
        later.entries[place]? = forest.entries[place]? →
        ∃ grown, later.advice? place = some grown ∧ grown.Extends advice := by
    intro later unchanged
    refine ⟨advice, ?_, .refl advice⟩
    rw [advice?, unchanged]
    exact held
  cases step with
  | push outer pushedId frame =>
      by_cases isRoot : frame = .root
      · subst isRoot
        exact heldStill rfl
      · rw [after_push outer pushedId isRoot]
        exact heldStill (getElem?_grow _ _ isPlace)
  | putAdvice owner name value =>
      cases isPut : forest.putAdvice owner name value with
      | error failure =>
          rw [after, isPut]
          exact heldStill rfl
      | ok advised =>
          rw [after, isPut]
          cases isContext : forest.context? owner with
          | none =>
              rw [putAdvice, isContext] at isPut
              cases isPut
              exact heldStill rfl
          | some context =>
              obtain ⟨⟨own, grown, isOwn, isGrown, appends⟩, -, keepsOthers⟩ :=
                putAdvice_eq_ok isContext isPut
              by_cases isOwner : place = owner
              · subst isOwner
                cases isOwn.symm.trans held
                exact ⟨grown, isGrown, .of_appends appends⟩
              · exact heldStill (keepsOthers place isOwner)

/-- Along every sequence of steps advice only grows. -/
theorem keepsAdvice_afterAll
    (forest : Forest)
    (steps : List Step) :
    (forest.afterAll steps).KeepsAdvice forest := by
  induction steps generalizing forest with
  | nil =>
      intro place advice held
      exact ⟨advice, held, .refl advice⟩
  | cons step rest inductionHypothesis =>
      intro place advice held
      obtain ⟨grown, heldNext, extendsNext⟩ := forest.keepsAdvice_after step held
      obtain ⟨last, heldLast, extendsLast⟩ :=
        inductionHypothesis (forest.after step) heldNext
      exact ⟨last, heldLast, extendsLast.trans extendsNext⟩

/--
In every forest a context puts advice into its own frame or not at all, as its
frame, the name and the texts allow; nothing else changes then, and what is
refused changes nothing. A push adds a context to the one it is made on and
leaves all others alone. So along every sequence of pushes and of attempts to
put advice, what a frame keeps under a name stays at the beginning of what it
keeps there later.
-/
theorem advice_stays_with_owner
    (forest : Forest)
    (steps : List Step) :
    (∀ place < forest.size,
      ∃ context,
        forest.context? place = some context ∧
          (∀ name value, forest.PutsAdvice place context name value) ∧
          ∀ id frame,
            frame ≠ .root →
              let pushed := forest.after (.push place id frame)
              pushed.context? forest.size = some (context.push id frame) ∧
                ∀ other < forest.size,
                  pushed.context? other = forest.context? other) ∧
      ∀ {place : Nat} {advice : Advice},
        forest.advice? place = some advice →
          ∃ later,
            (forest.afterAll steps).advice? place = some later ∧
              later.restricted = advice.restricted ∧
              ∀ name, advice.under name <+: later.under name := by
  constructor
  · intro place isPlace
    obtain ⟨context, next, isContext, -⟩ := exists_context isPlace
    refine ⟨context, isContext, putsAdvice isContext, ?_⟩
    intro id frame notRoot pushed
    have isPushed : pushed = forest.grow ⟨id, frame⟩ (some place) :=
      forest.after_push place id notRoot
    rw [isPushed]
    refine ⟨context?_grow_self isPlace isContext, ?_⟩
    intro other isOther
    exact context?_grow_of_lt _ _ isOther
  · intro place advice held
    obtain ⟨later, heldLater, extended⟩ :=
      forest.keepsAdvice_afterAll steps held
    exact ⟨later, heldLater, extended.restricted, extended.kept⟩

end Forest

end ResourceServer
