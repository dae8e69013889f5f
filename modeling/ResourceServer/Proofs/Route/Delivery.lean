import ResourceServer.Proofs.Name.RoundTrip
import ResourceServer.Proofs.Route.Selection
import ResourceServer.Route.Dispatch

namespace ResourceServer

/-!
# Requests on their way

On its way through a tree of routers a request loses the front of its name,
router by router, and its context gains a frame for each. The frames tell the
whole way: read back and joined, what was covered and what is left make up the
name at the start, letter for letter. Routers change nothing else, and they
fail only because no route fits or because several are equally good.
-/

namespace Name

theorem ext_elements
    {left right : Name}
    (sameElements : left.elements = right.elements) :
    left = right := by
  cases left
  cases right
  cases sameElements
  rfl

theorem slice_append_slice
    (name : Name)
    (count : Nat) :
    name.slice 0 count ++ name.slice count name.size = name := by
  apply ext_elements
  have whole : name.elements.take name.size = name.elements :=
    List.take_length
  show (name.elements.take count).drop 0 ++
      (name.elements.take name.size).drop count = name.elements
  rw [whole, List.drop_zero, List.take_append_drop]

/-- A name is its parent and its last element. -/
theorem elements_of_parent?
    {named parent : Name}
    {id : String}
    (isParent : named.parent? = some parent)
    (isLeaf : named.leaf? = some id) :
    named.elements = parent.elements ++ [id] := by
  have isSlice : named.slice 0 (named.size - 1) = parent := by
    unfold parent? at isParent
    split at isParent
    · cases isParent
    · exact Option.some.inj isParent
  have isFront : named.elements.dropLast = parent.elements := by
    rw [← isSlice]
    exact List.dropLast_eq_take
  rw [← isFront]
  exact (List.dropLast_append_getLast? id isLeaf).symm

end Name

namespace Fit

/-- A name is divided where the fit ends. -/
theorem split_of_le
    {fit : Fit}
    {name : Name}
    (within : fit.consumed ≤ name.size) :
    fit.split name =
      .ok
        (name.slice 0 fit.consumed, name.slice fit.consumed name.size) := by
  have atStart : ¬ (fit.consumed < 0 ∨ name.size < fit.consumed) := by
    omega
  have atEnd : ¬ (name.size < fit.consumed ∨ name.size < name.size) := by
    omega
  simp only [split, Name.head, Name.tail, Name.subsequence, if_neg atStart,
    if_neg atEnd]
  rfl

/-- Nothing of a name is lost when it is divided. -/
theorem append_of_split
    {fit : Fit}
    {name covered forwarded : Name}
    (within : fit.consumed ≤ name.size)
    (divided : fit.split name = .ok (covered, forwarded)) :
    covered ++ forwarded = name := by
  cases (split_of_le within).symm.trans divided
  exact name.slice_append_slice fit.consumed

end Fit

namespace Hop

/-- The paths of a hop read as these names. -/
structure Reads
    (hop : Hop)
    (covered forwarded : Name) : Prop where
  matched : Name.parse hop.matched = .ok covered
  remaining : Name.parse hop.remaining = .ok forwarded

/-- What one hop forwards is what the next one covers and forwards. -/
def Continues
    (outer inner : Hop) : Prop :=
  ∃ covered forwarded,
    inner.Reads covered forwarded ∧
      Name.parse outer.remaining = .ok (covered ++ forwarded)

end Hop

/-- The hop that records a division of a name reads as the parts. -/
theorem Fit.hop_reads
    (fit : Fit)
    (covered forwarded : Name) :
    (fit.hop covered forwarded).Reads covered forwarded :=
  ⟨Name.parse_display covered, Name.parse_display forwarded⟩

namespace Context

/-- The chain after some hops, with fresh ids. -/
def pushHops
    (context : Context)
    (ids : IdSupply) :
    List Hop → Context
  | [] => context
  | hop :: hops =>
      (context.push ids.next (.router hop)).pushHops ids.advance hops

/-- Hops add their frames, the last one nearest, and leave those there were. -/
theorem nodes_pushHops
    (context : Context)
    (ids : IdSupply)
    (hops : List Hop) :
    ∃ added : List Node,
      (context.pushHops ids hops).nodes = added ++ context.nodes ∧
        added.map Node.frame = (hops.map Frame.router).reverse := by
  induction hops generalizing context ids with
  | nil =>
      exact ⟨[], rfl, rfl⟩
  | cons hop hops inductionHypothesis =>
      obtain ⟨added, isAdded, areHops⟩ :=
        inductionHypothesis (context.push ids.next (.router hop)) ids.advance
      refine ⟨added ++ [⟨ids.next, .router hop⟩], ?_, ?_⟩
      · rw [pushHops, isAdded, List.append_assoc]
        rfl
      · rw [List.map_append, areHops, List.map_cons (l := hops),
          List.reverse_cons]
        rfl

theorem hops_pushHops
    (context : Context)
    (ids : IdSupply)
    (hops : List Hop) :
    (context.pushHops ids hops).hops = hops.reverse ++ context.hops := by
  induction hops generalizing context ids with
  | nil =>
      rfl
  | cons hop hops inductionHypothesis =>
      rw [pushHops, inductionHypothesis, List.reverse_cons, List.append_assoc]
      rfl

/-- A variable has the value of the latest hop that binds it. -/
theorem bound?_pushHops
    (context : Context)
    (ids : IdSupply)
    (hops : List Hop)
    (boundName : String) :
    (context.pushHops ids hops).bound? boundName =
      (hops.reverse.findSome? fun hop => hop.variableValues.get? boundName).or
        (context.bound? boundName) := by
  rw [bound?, hops_pushHops, List.findSome?_append, bound?]

end Context

/-- A matcher covers no more than the name. -/
theorem Matcher.consumed_le_of_fit?
    {matcher : Matcher}
    {name : Name}
    {fit : Fit}
    (fits : matcher.fit? name = some fit) :
    fit.consumed ≤ name.size := by
  rw [consumed_of_fit? fits]
  unfold fit? at fits
  split at fits
  · rename_i accepted
    have hasSize := accepted.1
    unfold sizeFits at hasSize
    split at hasSize
    · exact Nat.le_of_eq (beq_iff_eq.mp hasSize).symm
    · exact of_decide_eq_true hasSize
  · cases fits

/-- A selected route covers no more than the name. -/
theorem Table.consumed_le_of_select
    {α : Type u}
    {table : Table α}
    {name : Name}
    {selection : Selection α}
    (selected : table.select name = .ok selection) :
    selection.fit.consumed ≤ name.size := by
  have verdict := table.select_verdict name
  rw [selected] at verdict
  cases verdict with
  | only _ onlyBest =>
      exact Matcher.consumed_le_of_fit? ((onlyBest selection).mpr rfl).1.2
  | fallback =>
      exact Nat.zero_le _

/-- What a selected route covers and what it forwards make up the name. -/
theorem Table.append_of_select
    {α : Type u}
    {table : Table α}
    {name covered forwarded : Name}
    {selection : Selection α}
    (selected : table.select name = .ok selection)
    (divided : selection.fit.split name = .ok (covered, forwarded)) :
    covered ++ forwarded = name :=
  Fit.append_of_split (consumed_le_of_select selected) divided

/-- There is always enough of a name to divide where a selected route ends. -/
theorem Table.split_ne_error
    {α : Type u}
    {table : Table α}
    {name : Name}
    {selection : Selection α}
    (selected : table.select name = .ok selection)
    (failure : Failure) :
    selection.fit.split name ≠ .error failure := by
  rw [Fit.split_of_le (consumed_le_of_select selected)]
  intro isError
  cases isError

/-- Selecting fails only for want of a route or of a single best one. -/
theorem Table.select_error
    {α : Type u}
    {table : Table α}
    {name : Name}
    {failure : Failure}
    (failed : table.select name = .error failure) :
    failure = .routeNotFound name.display ∨
      ∃ patterns, failure = .routeAmbiguous name.display patterns := by
  have verdict := table.select_verdict name
  rw [failed] at verdict
  cases verdict with
  | several =>
      exact .inr ⟨_, rfl⟩
  | notFound =>
      exact .inl rfl

namespace Delivery

variable {α : Type}

/-- What arrives after some hops, when `rest` is left of the request's name. -/
def after
    (ids : IdSupply)
    (context : Context)
    (request : Request)
    (hops : List Hop)
    (target : α)
    (rest : Name) :
    Delivery α where
  target := target
  context := context.pushHops ids hops
  request := request.withName rest
  ids := ⟨ids.used + hops.length⟩

theorem after_cons
    (ids : IdSupply)
    (context : Context)
    (request : Request)
    (hop : Hop)
    (hops : List Hop)
    (forwarded : Name)
    (target : α)
    (rest : Name) :
    after ids.advance (context.push ids.next (.router hop))
        (request.withName forwarded) hops target rest =
      after ids context request (hop :: hops) target rest := by
  have sameCount :
      ids.advance.used + hops.length = ids.used + (hop :: hops).length := by
    rw [List.length_cons, Nat.add_comm hops.length, ← Nat.add_assoc]
    rfl
  rw [after, after, sameCount]
  rfl

end Delivery

namespace Handler

variable {α : Type}

/-! ## The way of a name -/

/-- A handler leads a name by hops to a target, where the rest of it is left. -/
inductive Leads :
    Handler α → Name → List Hop → α → Name → Prop where
  | arrive (target : α) (name : Name) :
      Leads (.endpoint target) name [] target name
  | forward
      {table : Table (Handler α)}
      {name covered forwarded rest : Name}
      {selection : Selection (Handler α)}
      {hops : List Hop}
      {target : α}
      (selected : table.select name = .ok selection)
      (divided : selection.fit.split name = .ok (covered, forwarded))
      (onward :
        Leads selection.binding.target forwarded hops target rest) :
      Leads (.router table) name
        (selection.fit.hop covered forwarded :: hops) target rest

namespace Leads

variable
  {handler : Handler α}
  {name rest : Name}
  {hops : List Hop}
  {target : α}

/-- The parts that the hops cover, and then the rest, make up the name. -/
theorem pieces
    (leads : handler.Leads name hops target rest) :
    ∃ parts : List Name,
      List.Forall₂ (fun hop part => Name.parse hop.matched = .ok part)
          hops parts ∧
        parts.flatMap Name.elements ++ rest.elements = name.elements := by
  induction leads with
  | arrive target name =>
      exact ⟨[], .nil, rfl⟩
  | @forward table name covered forwarded rest selection hops target
      selected divided onward inductionHypothesis =>
      obtain ⟨parts, partsRead, joined⟩ := inductionHypothesis
      have undivided : covered ++ forwarded = name :=
        Table.append_of_select selected divided
      refine
        ⟨covered :: parts,
          .cons (selection.fit.hop_reads covered forwarded).matched partsRead,
          ?_⟩
      rw [List.flatMap_cons, List.append_assoc, joined]
      exact congrArg Name.elements undivided

/-- Each hop goes on where the one before it ended. -/
theorem isChain
    (leads : handler.Leads name hops target rest) :
    hops.IsChain Hop.Continues := by
  induction leads with
  | arrive =>
      exact .nil
  | @forward table name covered forwarded rest selection hops target
      selected divided onward inductionHypothesis =>
      have forwards :
          Name.parse (selection.fit.hop covered forwarded).remaining =
            .ok forwarded :=
        (selection.fit.hop_reads covered forwarded).remaining
      -- What follows the first hop starts from what that hop forwarded.
      generalize selection.binding.target = next at onward
      cases onward with
      | arrive =>
          exact .singleton _
      | @forward _ _ nextCovered nextForwarded _ nextSelection _ _
          nextSelected nextDivided _ =>
          have undivided : nextCovered ++ nextForwarded = forwarded :=
            Table.append_of_select nextSelected nextDivided
          refine .cons_cons ?_ inductionHypothesis
          exact
            ⟨nextCovered, nextForwarded,
              nextSelection.fit.hop_reads nextCovered nextForwarded,
              undivided ▸ forwards⟩

/-- What the last hop forwards is the rest. -/
theorem last_forwards
    (leads : handler.Leads name hops target rest) :
    ∀ last,
      hops.getLast? = some last → Name.parse last.remaining = .ok rest := by
  induction leads with
  | arrive =>
      intro last isLast
      cases isLast
  | @forward table name covered forwarded rest selection hops target
      selected divided onward inductionHypothesis =>
      intro last isLast
      generalize selection.binding.target = next at onward
      cases onward with
      | arrive =>
          cases isLast
          exact (selection.fit.hop_reads covered forwarded).remaining
      | forward =>
          rw [List.getLast?_cons_cons] at isLast
          exact inductionHypothesis last isLast

end Leads

/-! ## What delivering does -/

/-- A router without a route for a request fails as its table does. -/
theorem deliver_of_select_error
    {table : Table (Handler α)}
    {ids : IdSupply}
    {context : Context}
    {request : Request}
    {failure : Failure}
    (failed : table.select request.name = .error failure) :
    (router table).deliver ids context request = .error failure := by
  rw [deliver]
  split
  · rename_i other otherFailed
    rw [failed] at otherFailed
    cases otherFailed
    rfl
  · rename_i selection selected
    rw [failed] at selected
    cases selected

/-- A router forwards a request along the route that its table selects. -/
theorem deliver_of_select_ok
    {table : Table (Handler α)}
    {ids : IdSupply}
    {context : Context}
    {request : Request}
    {selection : Selection (Handler α)}
    {covered forwarded : Name}
    (selected : table.select request.name = .ok selection)
    (divided : selection.fit.split request.name = .ok (covered, forwarded)) :
    (router table).deliver ids context request =
      selection.binding.target.deliver
        ids.advance
        (context.push ids.next (.router (selection.fit.hop covered forwarded)))
        (request.withName forwarded) := by
  rw [deliver]
  split
  · rename_i failure failed
    rw [selected] at failed
    cases failed
  · rename_i other otherSelected
    rw [selected] at otherSelected
    cases otherSelected
    rw [divided]

/-- Delivering takes a request the way that the handler leads it. -/
theorem deliver_eq_ok_iff
    {handler : Handler α}
    {ids : IdSupply}
    {context : Context}
    {request : Request}
    {delivery : Delivery α} :
    handler.deliver ids context request = .ok delivery ↔
      ∃ hops target rest,
        handler.Leads request.name hops target rest ∧
          delivery = .after ids context request hops target rest := by
  induction handler, ids, context, request using deliver.induct with
  | case1 ids context request target =>
      rw [deliver, Except.ok.injEq]
      constructor
      · rintro rfl
        exact ⟨[], target, request.name, .arrive target request.name, rfl⟩
      · rintro ⟨hops, reached, rest, leads, rfl⟩
        cases leads
        rfl
  | case2 ids context request table failure selected =>
      rw [deliver_of_select_error selected]
      constructor
      · intro delivered
        cases delivered
      · rintro ⟨hops, reached, rest, leads, rfl⟩
        cases leads with
        | forward otherSelected =>
            cases selected.symm.trans otherSelected
  | case3 ids context request table selection selected failure divided =>
      exact absurd divided (Table.split_ne_error selected failure)
  | case4 ids context request table selection selected covered forwarded
      divided smaller inductionHypothesis =>
      rw [deliver_of_select_ok selected divided, inductionHypothesis]
      constructor
      · rintro ⟨hops, reached, rest, onward, rfl⟩
        rw [Delivery.after_cons]
        exact
          ⟨selection.fit.hop covered forwarded :: hops, reached, rest,
            .forward selected divided onward, rfl⟩
      · rintro ⟨hops, reached, rest, leads, rfl⟩
        cases leads with
        | forward otherSelected otherDivided onward =>
            cases selected.symm.trans otherSelected
            cases divided.symm.trans otherDivided
            exact ⟨_, reached, rest, onward, (Delivery.after_cons ..).symm⟩

/-- Routers fail only where no route fits what is left, or several fit it best. -/
theorem deliver_error
    {handler : Handler α}
    {ids : IdSupply}
    {context : Context}
    {request : Request}
    {failure : Failure}
    (failed : handler.deliver ids context request = .error failure) :
    ∃ left : Name,
      left.elements <:+ request.name.elements ∧
        (failure = .routeNotFound left.display ∨
          ∃ patterns, failure = .routeAmbiguous left.display patterns) := by
  induction handler, ids, context, request using deliver.induct with
  | case1 ids context request target =>
      rw [deliver] at failed
      cases failed
  | case2 ids context request table reported selected =>
      rw [deliver_of_select_error selected] at failed
      cases failed
      exact
        ⟨request.name, List.suffix_refl _, Table.select_error selected⟩
  | case3 ids context request table selection selected reported divided =>
      exact absurd divided (Table.split_ne_error selected reported)
  | case4 ids context request table selection selected covered forwarded
      divided smaller inductionHypothesis =>
      rw [deliver_of_select_ok selected divided] at failed
      obtain ⟨left, isSuffix, isRouting⟩ := inductionHypothesis failed
      have undivided : covered ++ forwarded = request.name :=
        Table.append_of_select selected divided
      have forwardedSuffix :
          forwarded.elements <:+ request.name.elements :=
        ⟨covered.elements, congrArg Name.elements undivided⟩
      exact ⟨left, isSuffix.trans forwardedSuffix, isRouting⟩

/--
A request arrives just where the handler leads its name, and then it has lost of
its name what the frames of the routers tell, piece by piece, and nothing else
of it has changed. The frames lie upon those there were, each goes on where the
one before it ended, and a variable has the value of the nearest frame that
binds it. A request that does not arrive has met a router without a route for
what was left of its name, or with several best ones.
-/
theorem deliver_conserves_name
    (handler : Handler α)
    (ids : IdSupply)
    (context : Context)
    (request : Request) :
    (∀ delivery,
      handler.deliver ids context request = .ok delivery ↔
        ∃ hops target rest,
          handler.Leads request.name hops target rest ∧
            delivery = .after ids context request hops target rest) ∧
    (∀ delivery,
      handler.deliver ids context request = .ok delivery →
      ∃ hops : List Hop,
        handler.Leads request.name hops delivery.target
            delivery.request.name ∧
          (∃ added : List Node,
            delivery.context.nodes = added ++ context.nodes ∧
              added.map Node.frame = (hops.map Frame.router).reverse) ∧
          (∃ parts : List Name,
            List.Forall₂ (fun hop part => Name.parse hop.matched = .ok part)
                hops parts ∧
              parts.flatMap Name.elements ++ delivery.request.name.elements =
                request.name.elements) ∧
          hops.IsChain Hop.Continues ∧
          (∀ last,
            hops.getLast? = some last →
            Name.parse last.remaining = .ok delivery.request.name) ∧
          delivery.request = request.withName delivery.request.name ∧
          ∀ boundName,
            delivery.context.bound? boundName =
              (hops.reverse.findSome? fun hop =>
                  hop.variableValues.get? boundName).or
                (context.bound? boundName)) ∧
      ∀ failure,
        handler.deliver ids context request = .error failure →
        ∃ left : Name,
          left.elements <:+ request.name.elements ∧
            (failure = .routeNotFound left.display ∨
              ∃ patterns,
                failure = .routeAmbiguous left.display patterns) := by
  refine ⟨fun delivery => deliver_eq_ok_iff, ?_, ?_⟩
  · intro delivery delivered
    obtain ⟨hops, target, rest, leads, rfl⟩ :=
      deliver_eq_ok_iff.mp delivered
    exact
      ⟨hops, leads, context.nodes_pushHops ids hops, leads.pieces,
        leads.isChain, leads.last_forwards, rfl,
        context.bound?_pushHops ids hops⟩
  · intro failure failed
    exact deliver_error failed

/-! ## Past two routers -/

namespace Devices

/-- What is below a collection, by its id. -/
def below (collection : String) (nonempty : collection ≠ "") : Matcher where
  mode := .startsWith
  template :=
    ⟨⟨[collection, "\x7bid\x7d"], by simp [nonempty]⟩,
      [.literal collection, .placeholder "id"]⟩

/-- The devices of a user. -/
def ofUser : Table (Handler String) :=
  Table.empty.insert (below "devices" (by decide)) (.endpoint "device")

/-- All users, each with a router of their own devices. -/
def ofUsers : Table (Handler String) :=
  Table.empty.insert (below "users" (by decide)) (.router ofUser)

/-- A read of the log of a device, whose user has a slash in the id. -/
def request : Request :=
  ⟨⟨["Users", "a/b", "devices", "7", "log"], by decide⟩, [], [], .read⟩

end Devices

/-- Two routers hand on what is below a device, and the id is that of the device. -/
theorem deliver_conserves_name_of_devices :
    ∃ delivery : Delivery String,
      (router Devices.ofUsers).deliver .start (.root "0") Devices.request =
          .ok delivery ∧
        delivery.target = "device" ∧
        delivery.request.name.elements = ["log"] ∧
        delivery.context.hops.map Hop.matched = ["devices/7", "Users/a%2Fb"] ∧
        delivery.context.hops.map Hop.remaining = ["log", "devices/7/log"] ∧
        delivery.context.bound? "id" = some "7" := by
  have toUser :
      Devices.ofUsers.select Devices.request.name =
        .ok
          ⟨⟨1, Devices.below "users" (by decide), .router Devices.ofUser⟩,
            ⟨2, [("id", "a/b")]⟩⟩ :=
    rfl
  have toDevice :
      Devices.ofUser.select ⟨["devices", "7", "log"], by decide⟩ =
        .ok
          ⟨⟨1, Devices.below "devices" (by decide), .endpoint "device"⟩,
            ⟨2, [("id", "7")]⟩⟩ :=
    rfl
  have leads := Leads.forward toUser rfl (.forward toDevice rfl (.arrive _ _))
  have arrives :=
    ((deliver_conserves_name (router Devices.ofUsers) .start (.root "0")
      Devices.request).1 _).mpr ⟨_, _, _, leads, rfl⟩
  exact ⟨_, arrives, rfl, rfl, rfl, rfl, rfl⟩

end Handler

end ResourceServer
