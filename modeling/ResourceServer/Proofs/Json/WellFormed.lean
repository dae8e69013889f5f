import ResourceServer.Json.Reader
import ResourceServer.Proofs.Record

namespace ResourceServer.Json

/-!
# Well-formed values

The members of an object are a finite map, and so are those of every object
further inside. Values that are read from texts are well-formed, whatever order
their members come in and however often one key occurs.
-/

/-- The keys of every object ascend, however deep inside. -/
inductive WellFormed : Json → Prop where
  | null :
      WellFormed .null
  | bool
      (value : Bool) :
      WellFormed (.bool value)
  | number
      (value : Number) :
      WellFormed (.number value)
  | string
      (value : String) :
      WellFormed (.string value)
  | array
      {items : List Json}
      (each : ∀ item ∈ items, WellFormed item) :
      WellFormed (.array items)
  | object
      {members : Record Json}
      (sorted : Record.Sorted members)
      (each : ∀ member ∈ members, WellFormed member.2) :
      WellFormed (.object members)

namespace WellFormed

variable {members : Record Json}

theorem sorted
    (wellFormed : WellFormed (.object members)) :
    Record.Sorted members := by
  cases wellFormed with
  | object sorted _ =>
      exact sorted

theorem member
    (wellFormed : WellFormed (.object members))
    {key : String}
    {value : Json}
    (found : members.get? key = some value) :
    WellFormed value := by
  cases wellFormed with
  | object sorted each =>
      exact each _ (sorted.get?_eq_some_iff.mp found)

theorem noMembers :
    WellFormed (.object []) :=
  .object .nil (by simp only [List.not_mem_nil, false_implies, implies_true])

/-- A well-formed member may stand before those of a well-formed object, if its
key does. -/
theorem cons
    {key : String}
    {value : Json}
    (sorted : Record.Sorted ((key, value) :: members))
    (isWellFormed : WellFormed value)
    (rest : WellFormed (.object members)) :
    WellFormed (.object ((key, value) :: members)) := by
  cases rest with
  | object _ each =>
      exact .object sorted (List.forall_mem_cons.mpr ⟨isWellFormed, each⟩)

/-- A well-formed member inserted into a well-formed object leaves it so. -/
theorem insert
    (wellFormed : WellFormed (.object members))
    (key : String)
    {value : Json}
    (isWellFormed : WellFormed value) :
    WellFormed (.object (members.insert key value)) := by
  cases wellFormed with
  | object sorted each =>
      refine .object (sorted.insert key value) ?_
      intro pair isMember
      rcases sorted.mem_insert isMember with rfl | isOld
      · exact isWellFormed
      · exact each pair isOld

end WellFormed

/-! ## Tokens -/

/-- The value that a token stands for is well-formed. -/
def Token.Sound : Token → Prop
  | .scalar value => value.WellFormed
  | _ => True

/-- A scalar reads to a well-formed value. -/
theorem wellFormed_of_scalar?
    {chars : List Char}
    {value : Json}
    (reads : scalar? chars = some value) :
    value.WellFormed := by
  unfold scalar? at reads
  split at reads
  · cases reads
    exact .null
  · split at reads
    · cases reads
      exact .bool true
    · split at reads
      · cases reads
        exact .bool false
      · obtain ⟨number, -, rfl⟩ := Option.map_eq_some_iff.mp reads
        exact .number number

theorem sound_of_punctuation?
    {char : Char}
    {token : Token}
    (isPunctuation : punctuation? char = some token) :
    token.Sound := by
  unfold punctuation? at isPunctuation
  split at isPunctuation <;> cases isPunctuation <;> trivial

/-- A text is split into sound tokens. -/
theorem sound_of_tokens?
    {done tokens : List Token}
    {chars : List Char}
    (doneSound : ∀ token ∈ done, token.Sound)
    (splits : tokens? done chars = some tokens) :
    ∀ token ∈ tokens, token.Sound := by
  fun_induction tokens? done chars with
  | case1 done =>
      cases splits
      intro token member
      exact doneSound token (List.mem_reverse.mp member)
  | case2 done char rest isSpace inductionHypothesis =>
      exact inductionHypothesis doneSound splits
  | case3 =>
      cases splits
  | case4 done rest text after scanned notSpace shorter inductionHypothesis =>
      refine inductionHypothesis ?_ splits
      exact List.forall_mem_cons.mpr ⟨trivial, doneSound⟩
  | case5 done char rest notSpace notQuote token isPunctuation
      inductionHypothesis =>
      refine inductionHypothesis ?_ splits
      exact
        List.forall_mem_cons.mpr
          ⟨sound_of_punctuation? isPunctuation, doneSound⟩
  | case6 =>
      cases splits
  | case7 done char rest notSpace notQuote notPunctuation value reads shorter
      inductionHypothesis =>
      refine inductionHypothesis ?_ splits
      exact
        List.forall_mem_cons.mpr ⟨wellFormed_of_scalar? reads, doneSound⟩

/-! ## States of the reader -/

/-- What was read inside an open container is well-formed. -/
def Container.Sound : Container → Prop
  | .array done => ∀ item ∈ done, item.WellFormed
  | .object done _ => WellFormed (.object done)

theorem Container.Sound.item
    {done : List Json}
    {read : Json}
    (sound : (Container.array done).Sound)
    (isWellFormed : read.WellFormed) :
    (Container.array (read :: done)).Sound :=
  List.forall_mem_cons.mpr ⟨isWellFormed, sound⟩

namespace ReadState

/-- What was read so far is well-formed. -/
def Sound : ReadState → Prop
  | .value containers
  | .firstItem containers
  | .firstKey containers => ∀ container ∈ containers, container.Sound
  | .key containers done
  | .colon containers done _ =>
      (∀ container ∈ containers, container.Sound) ∧ WellFormed (.object done)
  | .after containers read =>
      (∀ container ∈ containers, container.Sound) ∧ read.WellFormed

/-- A sound token that starts a value leaves the reader in a sound state. -/
theorem sound_of_startValue?
    {containers : List Container}
    {token : Token}
    {next : ReadState}
    (sound : ∀ container ∈ containers, container.Sound)
    (tokenSound : token.Sound)
    (starts : startValue? containers token = some next) :
    next.Sound := by
  unfold startValue? at starts
  split at starts
  · split at starts <;> cases starts
    exact sound
  · split at starts <;> cases starts
    exact sound
  · cases starts
    exact ⟨sound, .string _⟩
  · cases starts
    exact ⟨sound, tokenSound⟩
  · cases starts

/-- A token adds nothing that is not well-formed. -/
theorem sound_of_step?
    {state next : ReadState}
    {token : Token}
    (sound : state.Sound)
    (tokenSound : token.Sound)
    (steps : state.step? token = some next) :
    next.Sound := by
  fun_cases step? state token with
  | case1 containers token =>
      exact sound_of_startValue? sound tokenSound steps
  | case2 containers =>
      cases steps
      exact ⟨sound, .array (List.forall_mem_nil _)⟩
  | case3 containers token notClosed =>
      have opened :
          ∀ container ∈ Container.array [] :: containers, container.Sound :=
        List.forall_mem_cons.mpr ⟨List.forall_mem_nil _, sound⟩
      rw [step?.eq_3 _ _ notClosed] at steps
      exact sound_of_startValue? opened tokenSound steps
  | case4 containers =>
      cases steps
      exact ⟨sound, .noMembers⟩
  | case5 containers name =>
      cases steps
      exact ⟨sound, .noMembers⟩
  | case6 containers done name =>
      cases steps
      exact sound
  | case7 containers done name =>
      cases steps
      exact List.forall_mem_cons.mpr ⟨sound.2, sound.1⟩
  | case8 done containers read =>
      cases steps
      obtain ⟨doneSound, outerSound⟩ := List.forall_mem_cons.mp sound.1
      exact List.forall_mem_cons.mpr ⟨doneSound.item sound.2, outerSound⟩
  | case9 done containers read =>
      cases steps
      obtain ⟨doneSound, outerSound⟩ := List.forall_mem_cons.mp sound.1
      refine ⟨outerSound, .array ?_⟩
      intro item member
      exact doneSound.item sound.2 item (List.mem_reverse.mp member)
  | case10 done name containers read =>
      cases steps
      obtain ⟨doneSound, outerSound⟩ := List.forall_mem_cons.mp sound.1
      exact ⟨outerSound, WellFormed.insert doneSound name sound.2⟩
  | case11 done name containers read =>
      cases steps
      obtain ⟨doneSound, outerSound⟩ := List.forall_mem_cons.mp sound.1
      exact ⟨outerSound, WellFormed.insert doneSound name sound.2⟩
  | case12 state token =>
      rw [step?.eq_12] at steps
      · cases steps
      all_goals assumption

/-- Sound tokens, one after the other, leave the reader in a sound state. -/
theorem sound_of_foldlM
    {tokens : List Token}
    {state last : ReadState}
    (sound : state.Sound)
    (tokensSound : ∀ token ∈ tokens, token.Sound)
    (runs : tokens.foldlM step? state = some last) :
    last.Sound := by
  induction tokens generalizing state with
  | nil =>
      cases runs
      exact sound
  | cons token rest inductionHypothesis =>
      obtain ⟨tokenSound, restSound⟩ := List.forall_mem_cons.mp tokensSound
      rw [List.foldlM_cons] at runs
      obtain ⟨next, steps, onward⟩ := Option.bind_eq_some_iff.mp runs
      exact
        inductionHypothesis (sound_of_step? sound tokenSound steps) restSound
          onward

/-- What a sound state results in is well-formed. -/
theorem wellFormed_of_result?
    {state : ReadState}
    {value : Json}
    (sound : state.Sound)
    (isResult : state.result? = some value) :
    value.WellFormed := by
  unfold result? at isResult
  split at isResult
  · cases isResult
    exact sound.2
  · cases isResult

end ReadState

/-- Every value that a text stands for is well-formed. -/
theorem wellFormed_of_read?
    {text : String}
    {value : Json}
    (reads : read? text = some value) :
    value.WellFormed := by
  obtain ⟨tokens, splits, results⟩ := Option.bind_eq_some_iff.mp reads
  obtain ⟨last, runs, isResult⟩ := Option.bind_eq_some_iff.mp results
  have tokensSound := sound_of_tokens? (List.forall_mem_nil _) splits
  have atStart : (ReadState.value []).Sound := List.forall_mem_nil _
  exact
    ReadState.wellFormed_of_result?
      (ReadState.sound_of_foldlM atStart tokensSound runs) isResult

end ResourceServer.Json
