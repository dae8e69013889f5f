import ResourceServer.Proofs.Context.Normalizing

namespace ResourceServer

/-!
# Looking up frames

A frame is looked up by what it holds or by the name of its kind, and in either
way the nearest one counts. An application names the kinds of its frames as it
likes, also like a kind of this library. So the two ways lead to the same frame
unless a frame of an application that goes by the name stands in front of all
frames that hold what is looked for.
-/

namespace FrameKind

/-- What frames of a kind hold. -/
def Content : FrameKind → Type
  | .security => Principal
  | .http => Arrival
  | .apiVersion => ApiVersion
  | .advice => Advice
  | .locale => Locales
  | .router => Hop

/-- The text of a kind reads back to the kind. -/
theorem ofText?_text
    (kind : FrameKind) :
    ofText? kind.text = some kind := by
  cases kind <;> rfl

theorem text_injective
    {left right : FrameKind}
    (sameText : left.text = right.text) :
    left = right := by
  have sameKind := congrArg ofText? sameText
  rw [ofText?_text, ofText?_text] at sameKind
  exact Option.some.inj sameKind

theorem text_ne_internalKind
    (kind : FrameKind) :
    kind.text ≠ Frame.internalKind := by
  cases kind <;> decide

end FrameKind

namespace Frame

/-- What a frame holds, if it is a frame of the kind. -/
def content? : (kind : FrameKind) → Frame → Option kind.Content
  | .security => asPrincipal?
  | .http => asArrival?
  | .apiVersion => asApiVersion?
  | .advice => asAdvice?
  | .locale => asLocales?
  | .router => asHop?

/-- The frame is one of an application and goes by the name of the kind. -/
def GoesBy
    (kind : FrameKind)
    (frame : Frame) :
    Prop :=
  ∃ payload, frame = .custom kind.text payload

/-- The frame holds what frames of the kind hold, or goes by its name. -/
def IsOrGoesBy
    (kind : FrameKind)
    (frame : Frame) :
    Prop :=
  frame.holds kind = true ∨ frame.GoesBy kind

variable {kind : FrameKind} {frame : Frame}

theorem isSome_content?
    (kind : FrameKind)
    (frame : Frame) :
    (frame.content? kind).isSome = frame.holds kind := by
  cases kind <;> cases frame <;> rfl

theorem holds_iff :
    frame.holds kind = true ↔ ∃ content, frame.content? kind = some content := by
  rw [← isSome_content?, Option.isSome_iff_exists]

/-- A frame that holds a kind goes by the kind's text. -/
theorem kind_of_holds
    (holdsIt : frame.holds kind = true) :
    frame.kind = kind.text := by
  unfold holds at holdsIt
  split at holdsIt
  case h_7 => cases holdsIt
  all_goals rfl

/-- The name of a kind is that of the frames that hold it, and of namesakes. -/
theorem kind_eq_text_iff :
    frame.kind = kind.text ↔ frame.IsOrGoesBy kind := by
  constructor
  · intro named
    cases frame with
    | custom name payload =>
        cases named
        exact .inr ⟨payload, rfl⟩
    | root =>
        exact absurd named.symm kind.text_ne_rootKind
    | internal =>
        exact absurd named.symm kind.text_ne_internalKind
    | security | http | apiVersion | advice | locale | router =>
        simp only [Frame.kind] at named
        cases FrameKind.text_injective named
        exact .inl rfl
  · rintro (holdsIt | ⟨payload, rfl⟩)
    · exact kind_of_holds holdsIt
    · rfl

/-- A frame that only goes by a kind's name does not hold the kind. -/
theorem not_holds_of_goesBy
    (goesBy : frame.GoesBy kind) :
    ¬ frame.holds kind = true := by
  obtain ⟨payload, rfl⟩ := goesBy
  cases kind <;> exact Bool.false_ne_true

end Frame

namespace Context

/-- What the nearest frame of a kind holds. -/
def get
    (context : Context)
    (kind : FrameKind) :
    Except Failure kind.Content :=
  context.nearest kind (Frame.content? kind)

/-- Each of the look-ups by what is held is the one of its kind. -/
theorem get_eq
    (context : Context) :
    context.get .security = context.principal ∧
      context.get .http = context.arrival ∧
      context.get .apiVersion = context.apiVersion ∧
      context.get .advice = context.advice ∧
      context.get .locale = context.locales ∧
      context.get .router = context.hop :=
  ⟨rfl, rfl, rfl, rfl, rfl, rfl⟩

/-- A chain ends at the nearest frame of a context of which something is so. -/
structure EndsAtNearest
    (context : Context)
    (wanted : Frame → Prop)
    (chain : Context) :
    Prop where
  isPart :
    ∃ nearer,
      context.nodes = nearer ++ chain.nodes ∧
        ∀ node ∈ nearer, ¬ wanted node.frame
  isWanted : wanted chain.own.frame

/--
A frame of an application that goes by the name of a kind stands in front of
all frames of the kind.
-/
def Masks
    (context : Context)
    (kind : FrameKind) :
    Prop :=
  ∃ nearer node further,
    context.nodes = nearer ++ node :: further ∧
      node.frame.GoesBy kind ∧
      ∀ other ∈ nearer, ¬ other.frame.holds kind = true

/-! ## The chains that a context consists of -/

theorem own_chainsFrom
    (own : Node)
    (outer : List Node) :
    (chainsFrom own outer).map Context.own = own :: outer := by
  induction outer generalizing own with
  | nil =>
      rfl
  | cons next outer inductionHypothesis =>
      rw [chainsFrom, List.map_cons, inductionHypothesis]

theorem own_chains
    (context : Context) :
    context.chains.map Context.own = context.nodes :=
  own_chainsFrom context.own context.outer

namespace EndsAtNearest

variable
  {own next : Node}
  {outer : List Node}
  {wanted : Frame → Prop}
  {chain : Context}

/-- Where the own frame is wanted, no other is the nearest. -/
theorem iff_of_wanted
    (isWanted : wanted own.frame) :
    EndsAtNearest ⟨own, outer⟩ wanted chain ↔ chain = ⟨own, outer⟩ := by
  constructor
  · rintro ⟨⟨nearer, divided, unwanted⟩, -⟩
    cases nearer with
    | nil =>
        exact ext_nodes divided.symm
    | cons first rest =>
        cases (List.cons.inj divided).1
        exact absurd isWanted (unwanted own List.mem_cons_self)
  · rintro rfl
    exact ⟨⟨[], rfl, fun _ member => nomatch member⟩, isWanted⟩

/-- Where the own frame is not wanted, the nearest is further out. -/
theorem iff_of_unwanted
    (notWanted : ¬ wanted own.frame) :
    EndsAtNearest ⟨own, next :: outer⟩ wanted chain ↔
      EndsAtNearest ⟨next, outer⟩ wanted chain := by
  constructor
  · rintro ⟨⟨nearer, divided, unwanted⟩, isWanted⟩
    cases nearer with
    | nil =>
        cases ext_nodes divided.symm
        exact absurd isWanted notWanted
    | cons first rest =>
        exact
          ⟨⟨rest, (List.cons.inj divided).2,
              fun node member => unwanted node (List.mem_cons_of_mem first member)⟩,
            isWanted⟩
  · rintro ⟨⟨nearer, divided, unwanted⟩, isWanted⟩
    refine ⟨⟨own :: nearer, congrArg (own :: ·) divided, ?_⟩, isWanted⟩
    intro node member
    rcases List.mem_cons.mp member with rfl | isNearer
    · exact notWanted
    · exact unwanted node isNearer

theorem not_of_single
    (notWanted : ¬ wanted own.frame) :
    ¬ EndsAtNearest ⟨own, []⟩ wanted chain := by
  rintro ⟨⟨nearer, divided, -⟩, isWanted⟩
  cases nearer with
  | nil =>
      cases ext_nodes divided.symm
      exact notWanted isWanted
  | cons first rest =>
      have noNodes := (List.append_eq_nil_iff.mp (List.cons.inj divided).2.symm).2
      cases noNodes

end EndsAtNearest

/--
Where a list is divided at two members, neither of which stands in front of the
other division, they are the same.
-/
theorem eq_of_divided
    {nearer before further rest : List Node}
    {node other : Node}
    (divided : nearer ++ node :: further = before ++ other :: rest)
    (notBefore : node ∉ before)
    (notNearer : other ∉ nearer) :
    node = other := by
  rcases List.append_eq_append_iff.mp divided with
    ⟨between, isBefore, onward⟩ | ⟨between, isNearer, onward⟩
  · cases between with
    | nil =>
        exact (List.cons.inj onward).1
    | cons first others =>
        cases (List.cons.inj onward).1
        refine absurd ?_ notBefore
        rw [isBefore]
        exact List.mem_append_right nearer List.mem_cons_self
  · cases between with
    | nil =>
        exact (List.cons.inj onward).1.symm
    | cons first others =>
        cases (List.cons.inj onward).1
        refine absurd ?_ notNearer
        rw [isNearer]
        exact List.mem_append_right before List.mem_cons_self

/-- The first chain that passes a test is the one up to the nearest such frame. -/
theorem find?_chains_eq_some_iff
    {context chain : Context}
    {test : Frame → Bool} :
    (context.chains.find? fun part => test part.own.frame) = some chain ↔
      context.EndsAtNearest (fun frame => test frame = true) chain := by
  obtain ⟨own, outer⟩ := context
  unfold chains
  -- The first chain ends at the nearest frame, so the frames are gone through outwards.
  induction outer generalizing own with
  | nil =>
      rw [chainsFrom, List.find?_singleton]
      by_cases passes : test own.frame = true
      · rw [if_pos passes, EndsAtNearest.iff_of_wanted passes,
          Option.some.injEq, eq_comm]
      · rw [if_neg passes]
        exact iff_of_false nofun (EndsAtNearest.not_of_single passes)
  | cons next outer inductionHypothesis =>
      rw [chainsFrom]
      by_cases passes : test own.frame = true
      · rw [List.find?_cons_of_pos (by exact passes),
          EndsAtNearest.iff_of_wanted passes, Option.some.injEq, eq_comm]
      · rw [List.find?_cons_of_neg (by exact passes), inductionHypothesis,
          EndsAtNearest.iff_of_unwanted passes]

/-- No chain passes a test if no frame does. -/
theorem find?_chains_eq_none_iff
    {context : Context}
    {test : Frame → Bool} :
    (context.chains.find? fun part => test part.own.frame) = none ↔
      ∀ node ∈ context.nodes, ¬ test node.frame = true := by
  rw [List.find?_eq_none, ← own_chains, List.forall_mem_map]

/-- The first chain that passes a test, or a failure. -/
def firstPassing
    (context : Context)
    (test : Frame → Bool)
    (otherwise : Failure) :
    Except Failure Context :=
  match context.chains.find? fun part => test part.own.frame with
  | some chain => .ok chain
  | none => .error otherwise

section FirstPassing

variable {context chain : Context} {test : Frame → Bool} {otherwise failure : Failure}

/-- A passing chain is found exactly when it ends at the nearest frame that passes. -/
theorem firstPassing_eq_ok_iff :
    context.firstPassing test otherwise = .ok chain ↔
      context.EndsAtNearest (fun frame => test frame = true) chain := by
  rw [← find?_chains_eq_some_iff]
  unfold firstPassing
  split
  case h_1 found isFirst =>
    rw [isFirst, Except.ok.injEq, Option.some.injEq]
  case h_2 noChain =>
    rw [noChain]
    exact iff_of_false nofun nofun

/-- The search fails exactly when no frame passes, and with the failure it was given. -/
theorem firstPassing_eq_error_iff :
    context.firstPassing test otherwise = .error failure ↔
      failure = otherwise ∧
        ∀ node ∈ context.nodes, ¬ test node.frame = true := by
  rw [← find?_chains_eq_none_iff]
  unfold firstPassing
  split
  case h_1 found isFirst =>
    rw [isFirst]
    exact iff_of_false nofun nofun
  case h_2 noChain =>
    rw [noChain, Except.error.injEq, eq_comm, and_iff_left rfl]

end FirstPassing

/-! ## Each way on its own -/

variable {context chain : Context} {kind : FrameKind} {failure : Failure}

/-- The chain that holds a kind ends at the nearest frame that holds it. -/
theorem holding_eq_ok_iff :
    context.holding kind = .ok chain ↔
      context.EndsAtNearest (fun frame => frame.holds kind = true) chain :=
  firstPassing_eq_ok_iff

/-- No chain holds a kind exactly when none of the context's frames does. -/
theorem holding_eq_error_iff :
    context.holding kind = .error failure ↔
      failure = .contextNotFound kind.text ∧
        ∀ node ∈ context.nodes, ¬ node.frame.holds kind = true :=
  firstPassing_eq_error_iff

/-- The look-up by name is the search for the nearest frame of that kind text. -/
theorem named_eq_firstPassing
    (context : Context)
    (name : String) :
    context.named name =
      context.firstPassing (fun frame => frame.kind == name) (.contextNotFound name) :=
  rfl

theorem kind_beq_text_iff
    {frame : Frame} :
    (frame.kind == kind.text) = true ↔ frame.IsOrGoesBy kind :=
  beq_iff_eq.trans Frame.kind_eq_text_iff

/-- The look-up by a kind's text ends at the nearest frame that is or goes by
the kind. -/
theorem named_text_eq_ok_iff :
    context.named kind.text = .ok chain ↔
      context.EndsAtNearest (Frame.IsOrGoesBy kind) chain := by
  rw [named_eq_firstPassing, firstPassing_eq_ok_iff]
  simp only [kind_beq_text_iff]

/-- The look-up by a kind's text fails exactly when no frame is or goes by the kind. -/
theorem named_text_eq_error_iff :
    context.named kind.text = .error failure ↔
      failure = .contextNotFound kind.text ∧
        ∀ node ∈ context.nodes, ¬ node.frame.IsOrGoesBy kind := by
  rw [named_eq_firstPassing, firstPassing_eq_error_iff]
  simp only [kind_beq_text_iff]

/-- A context's content of a kind is that of the nearest frame that holds the kind. -/
theorem get_eq_ok_iff
    {content : kind.Content} :
    context.get kind = .ok content ↔
      ∃ part,
        context.holding kind = .ok part ∧
          part.own.frame.content? kind = some content := by
  have isFirst :
      context.get kind = .ok content ↔
        (context.nodes.findSome? fun node => node.frame.content? kind) =
          some content := by
    unfold get nearest
    split
    case h_1 found isFirst =>
      rw [isFirst, Except.ok.injEq, Option.some.injEq]
    case h_2 noContent =>
      rw [noContent]
      exact iff_of_false nofun nofun
  rw [isFirst, List.findSome?_eq_some_iff]
  constructor
  · rintro ⟨nearer, node, further, divided, hasContent, noneNearer⟩
    refine
      ⟨⟨node, further⟩, holding_eq_ok_iff.mpr ⟨⟨nearer, divided, ?_⟩, ?_⟩,
        hasContent⟩
    · intro other isNearer
      rw [← Frame.isSome_content?, noneNearer other isNearer]
      exact Bool.false_ne_true
    · exact Frame.holds_iff.mpr ⟨content, hasContent⟩
  · rintro ⟨part, isNearest, hasContent⟩
    obtain ⟨nearer, divided, noneNearer⟩ := (holding_eq_ok_iff.mp isNearest).isPart
    refine ⟨nearer, part.own, part.outer, divided, hasContent, ?_⟩
    intro other isNearer
    have holdsNot := noneNearer other isNearer
    rwa [← Frame.isSome_content?, Option.not_isSome_iff_eq_none] at holdsNot

/-! ## Both ways together -/

/-- The namesake that masks a kind is what the look-up by name leads to. -/
theorem masks_iff :
    context.Masks kind ↔
      ∃ part, context.named kind.text = .ok part ∧ part.own.frame.GoesBy kind := by
  simp only [named_text_eq_ok_iff]
  constructor
  · rintro ⟨nearer, node, further, divided, goesBy, noneNearer⟩
    have isMember : node ∈ context.nodes := by
      rw [divided]
      exact List.mem_append_right nearer List.mem_cons_self
    -- Some frame bears the name, so the look-up by it succeeds.
    cases outcome : context.named kind.text with
    | error failure =>
        have noneBears := (named_text_eq_error_iff.mp outcome).2
        exact absurd (.inr goesBy) (noneBears node isMember)
    | ok part =>
        have isNearest := named_text_eq_ok_iff.mp outcome
        refine ⟨part, isNearest, isNearest.isWanted.resolve_left fun holdsIt => ?_⟩
        obtain ⟨before, alsoDivided, noneBefore⟩ := isNearest.isPart
        have sameNode : node = part.own :=
          eq_of_divided (divided.symm.trans alsoDivided)
            (fun isBefore => noneBefore node isBefore (.inr goesBy))
            (fun isNearer => noneNearer part.own isNearer holdsIt)
        rw [← sameNode] at holdsIt
        exact Frame.not_holds_of_goesBy goesBy holdsIt
  · rintro ⟨part, ⟨⟨nearer, divided, noneNearer⟩, -⟩, goesBy⟩
    exact
      ⟨nearer, part.own, part.outer, divided, goesBy,
        fun other isNearer holdsIt => noneNearer other isNearer (.inl holdsIt)⟩

theorem hasHolding_iff :
    context.hasHolding kind = true ↔
      ∃ node ∈ context.nodes, node.frame.holds kind = true := by
  rw [hasHolding, List.any_eq_true]

theorem hasNamed_text_iff :
    context.hasNamed kind.text = true ↔
      ∃ node ∈ context.nodes, node.frame.IsOrGoesBy kind := by
  rw [hasNamed, List.any_eq_true]
  simp only [kind_beq_text_iff]

/-- A context holds a kind exactly when its content can be got. -/
theorem hasHolding_iff_get :
    context.hasHolding kind = true ↔ ∃ content, context.get kind = .ok content := by
  rw [hasHolding_iff]
  constructor
  · rintro ⟨node, member, holdsIt⟩
    cases outcome : context.holding kind with
    | error failure =>
        exact absurd holdsIt ((holding_eq_error_iff.mp outcome).2 node member)
    | ok part =>
        obtain ⟨content, hasContent⟩ :=
          Frame.holds_iff.mp (holding_eq_ok_iff.mp outcome).isWanted
        exact ⟨content, get_eq_ok_iff.mpr ⟨part, outcome, hasContent⟩⟩
  · rintro ⟨content, isContent⟩
    obtain ⟨part, isHolding, -⟩ := get_eq_ok_iff.mp isContent
    obtain ⟨⟨nearer, divided, -⟩, holdsIt⟩ := holding_eq_ok_iff.mp isHolding
    refine ⟨part.own, ?_, holdsIt⟩
    rw [divided]
    exact List.mem_append_right nearer List.mem_cons_self

/-- Both ways lead to the same frame, or fail alike, unless a namesake is nearer. -/
theorem holding_eq_named_iff :
    context.holding kind = context.named kind.text ↔ ¬ context.Masks kind := by
  rw [masks_iff]
  constructor
  · rintro agree ⟨part, isNamed, goesBy⟩
    rw [← agree, holding_eq_ok_iff] at isNamed
    exact Frame.not_holds_of_goesBy goesBy isNamed.isWanted
  · intro notMasked
    cases outcome : context.named kind.text with
    | error failure =>
        obtain ⟨isMissing, noneBears⟩ := named_text_eq_error_iff.mp outcome
        exact
          holding_eq_error_iff.mpr
            ⟨isMissing,
              fun node member holdsIt => noneBears node member (.inl holdsIt)⟩
    | ok part =>
        obtain ⟨⟨nearer, divided, noneNearer⟩, isWanted⟩ :=
          named_text_eq_ok_iff.mp outcome
        exact
          holding_eq_ok_iff.mpr
            ⟨⟨nearer, divided,
                fun node isNearer holdsIt => noneNearer node isNearer (.inl holdsIt)⟩,
              isWanted.resolve_right fun goesBy =>
                notMasked ⟨part, outcome, goesBy⟩⟩

/-- The two tests agree when a frame holds the kind or none goes by its name. -/
theorem hasHolding_eq_hasNamed_iff :
    context.hasHolding kind = context.hasNamed kind.text ↔
      context.hasHolding kind = true ∨
        ∀ node ∈ context.nodes, ¬ node.frame.GoesBy kind := by
  rw [Bool.eq_iff_iff, hasNamed_text_iff, hasHolding_iff]
  constructor
  · intro agree
    refine or_iff_not_imp_left.mpr fun noneHolds node member goesBy => noneHolds ?_
    exact agree.mpr ⟨node, member, .inr goesBy⟩
  · rintro (⟨node, member, holdsIt⟩ | noneGoesBy)
    · exact iff_of_true ⟨node, member, holdsIt⟩ ⟨node, member, .inl holdsIt⟩
    · refine exists_congr fun node => and_congr_right fun member => ?_
      rw [Frame.IsOrGoesBy, or_iff_left (noneGoesBy node member)]

/--
A look-up by what is held leads to the nearest frame that holds it, and one by
the name of the kind to the nearest frame that holds it or goes by the name. So
they fail alike or lead to the same frame just if no frame of an application
with that name stands in front of all that hold it; and they say the same about
whether there is such a frame just if one holds it or none goes by its name.
-/
theorem lookups_agree_iff
    (context : Context)
    (kind : FrameKind) :
    (∀ chain,
      context.holding kind = .ok chain ↔
        context.EndsAtNearest
          (fun frame => ∃ content, frame.content? kind = some content)
          chain) ∧
    (∀ content,
      context.get kind = .ok content ↔
        ∃ chain,
          context.holding kind = .ok chain ∧
            chain.own.frame.content? kind = some content) ∧
    (∀ chain,
      context.named kind.text = .ok chain ↔
        context.EndsAtNearest
          (fun frame =>
            (∃ content, frame.content? kind = some content) ∨ frame.GoesBy kind)
          chain) ∧
    (context.holding kind = context.named kind.text ↔ ¬ context.Masks kind) ∧
    (context.hasHolding kind = true ↔ ∃ content, context.get kind = .ok content) ∧
    (context.hasHolding kind = context.hasNamed kind.text ↔
      context.hasHolding kind = true ∨
        ∀ node ∈ context.nodes, ¬ node.frame.GoesBy kind) := by
  simp only [← Frame.holds_iff]
  exact
    ⟨fun _ => holding_eq_ok_iff, fun _ => get_eq_ok_iff,
      fun _ => named_text_eq_ok_iff, holding_eq_named_iff, hasHolding_iff_get,
      hasHolding_eq_hasNamed_iff⟩

/--
An application may name a frame `security`: in front of a principal it is what
the name leads to, and on its own it passes for one.
-/
theorem lookups_of_namesake_differ :
    ∃ masked alone namesake principal,
      (root "0").extend "1" (.security ⟨"a", []⟩) = .ok principal ∧
      principal.extend "2" (.custom "security" (.object [])) = .ok masked ∧
      (root "0").extend "1" (.custom "security" (.object [])) = .ok alone ∧
      masked.get .security = .ok (⟨"a", []⟩ : Principal) ∧
      masked.holding .security = .ok principal ∧
      masked.named (FrameKind.text .security) = .ok namesake ∧
      namesake.own.frame = .custom "security" (.object []) ∧
      alone.hasHolding .security = false ∧
      alone.hasNamed (FrameKind.text .security) = true := by
  let namesake : Frame := .custom "security" (.object [])
  let principal : Node := ⟨"1", .security ⟨"a", []⟩⟩
  let start : Node := ⟨"0", .root⟩
  exact
    ⟨⟨⟨"2", namesake⟩, [principal, start]⟩, ⟨⟨"1", namesake⟩, [start]⟩, _, _,
      rfl, rfl, rfl, rfl, rfl, rfl, rfl, rfl, rfl⟩

end Context

end ResourceServer
