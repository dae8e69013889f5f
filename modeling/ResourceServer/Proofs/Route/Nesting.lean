import ResourceServer.Proofs.Record
import ResourceServer.Proofs.Route.OnlyRoute
import ResourceServer.Proofs.Route.Pattern

namespace ResourceServer

/-!
# Routers behind routers

A router behind a route that covers the beginning of a name is as good as one
route of both patterns, joined by a slash: the two fit the same names, leave the
same rest of them and bind the same variables. The frames differ, two for the
nested routers and one for the flat one, but a look-up finds the same values.
-/

/-! ## Fits of joined templates -/

namespace Matcher

/-- Joined segments accept elements when the front and the back accept their parts. -/
theorem acceptsAll_append_left
    (front back : List Segment)
    (elements : List String) :
    acceptsAll (front ++ back) elements =
      (acceptsAll front elements &&
        acceptsAll back (elements.drop front.length)) := by
  induction front generalizing elements with
  | nil =>
      simp only [List.nil_append, List.length_nil, List.drop_zero, acceptsAll,
        Bool.true_and]
  | cons segment rest inductionHypothesis =>
      cases elements with
      | nil =>
          simp only [List.cons_append, List.drop_nil, acceptsAll, Bool.and_self]
      | cons element elements =>
          simp only [List.cons_append, List.length_cons, List.drop_succ_cons,
            acceptsAll, inductionHypothesis, Bool.and_assoc]

/-- Joined segments bind what the front binds, and then what the back binds. -/
theorem bindings_append_left
    (front back : List Segment)
    (elements : List String) :
    bindings (front ++ back) elements =
      bindings front elements ++
        bindings back (elements.drop front.length) := by
  induction front generalizing elements with
  | nil =>
      simp only [List.nil_append, List.length_nil, List.drop_zero, bindings]
  | cons segment rest inductionHypothesis =>
      cases elements with
      | nil =>
          simp only [List.cons_append, List.drop_nil, bindings, List.append_nil]
      | cons element elements =>
          cases segment with
          | literal text =>
              simp only [List.cons_append, List.length_cons,
                List.drop_succ_cons, bindings, inductionHypothesis]
          | placeholder name =>
              simp only [List.cons_append, List.length_cons,
                List.drop_succ_cons, bindings, inductionHypothesis]

variable
  {mode : Mode}
  {outer inner : Template}
  {name : Name}

theorem size_forwarded
    (template : Template)
    (name : Name) :
    (template.forwarded name).size = name.size - template.size := by
  rw [Name.size, Template.elements_forwarded, List.length_drop]
  rfl

/-- The size of joined templates fits when the outer fits, and the inner fits
the rest. -/
theorem sizeFits_append_iff :
    (Matcher.mk mode (outer ++ inner)).sizeFits name = true ↔
      (Matcher.mk .startsWith outer).sizeFits name = true ∧
        (Matcher.mk mode inner).sizeFits (outer.forwarded name) = true := by
  have joined : (outer ++ inner).size = outer.size + inner.size :=
    List.length_append
  have left := size_forwarded outer name
  cases mode with
  | equals =>
      simp only [sizeFits, joined, left, beq_iff_eq, decide_eq_true_eq]
      omega
  | startsWith =>
      simp only [sizeFits, joined, left, decide_eq_true_eq]
      omega

/-- Joined templates accept what the first accepts whose rest the second does. -/
theorem accepts_append_iff :
    (Matcher.mk mode (outer ++ inner)).Accepts name ↔
      (Matcher.mk .startsWith outer).Accepts name ∧
        (Matcher.mk mode inner).Accepts (outer.forwarded name) := by
  have elementwise :
      acceptsAll (outer ++ inner).segments name.elements =
        (acceptsAll outer.segments name.elements &&
          acceptsAll inner.segments (outer.forwarded name).elements) := by
    rw [Template.elements_forwarded]
    exact acceptsAll_append_left outer.segments inner.segments name.elements
  unfold Accepts
  rw [sizeFits_append_iff, elementwise, Bool.and_eq_true]
  exact and_and_and_comm

/-- The joined route binds what both bind, the second one foremost. -/
theorem get?_hop_append
    (mode : Mode)
    (outer inner : Template)
    (name : Name)
    (boundName : String) :
    ((Matcher.mk mode (outer ++ inner)).hop name).variableValues.get?
        boundName =
      (((Matcher.mk mode inner).hop
              (outer.forwarded name)).variableValues.get? boundName).or
        (((Matcher.mk .startsWith outer).hop name).variableValues.get?
          boundName) := by
  have elementwise :
      bindings (outer ++ inner).segments name.elements =
        bindings outer.segments name.elements ++
          bindings inner.segments (outer.forwarded name).elements := by
    rw [Template.elements_forwarded]
    exact bindings_append_left outer.segments inner.segments name.elements
  simp only [hop, fit, Fit.hop, elementwise]
  exact Record.get?_ofList_append _ _ boundName

end Matcher

/-- What both templates leave of a name is what the joined one leaves. -/
theorem Template.forwarded_append
    (outer inner : Template)
    (name : Name) :
    (outer ++ inner).forwarded name =
      inner.forwarded (outer.forwarded name) := by
  apply Name.ext_elements
  have joined : (outer ++ inner).size = outer.size + inner.size :=
    List.length_append
  rw [elements_forwarded, elements_forwarded, elements_forwarded, joined,
    List.drop_drop]

/-! ## Routers of one route -/

namespace Handler

variable {α : Type}

/-- The router with one route, which leads names of a pattern to a handler. -/
def only
    (mode : Mode)
    (pattern : String)
    (handler : Handler α) :
    Except Template.Fault (Handler α) :=
  (Table.empty.add mode pattern handler).map .router

/-- The handler made of one parsed pattern stands behind its matcher. -/
theorem only_of_parse
    {mode : Mode}
    {pattern : String}
    {template : Template}
    (isParsed : Template.parse pattern = .ok template)
    (handler : Handler α) :
    only mode pattern handler = .ok (behind ⟨mode, template⟩ handler) := by
  rw [only, Table.add, Matcher.parse, isParsed]
  rfl

/--
Two ways to put a handler behind routers hand on a request alike: either it
reaches every handler in both ways as the same request, in contexts that bind
the same variables, or it reaches none in either way for want of a route.
-/
inductive HandsOnAlike
    (left right : Handler α → Handler α)
    (ids : IdSupply)
    (context : Context)
    (request : Request) : Prop where
  | arrives
      {rest : Name}
      {leftIds rightIds : IdSupply}
      {leftContext rightContext : Context}
      (leftArrives :
        ∀ handler,
          (left handler).deliver ids context request =
            handler.deliver leftIds leftContext (request.withName rest))
      (rightArrives :
        ∀ handler,
          (right handler).deliver ids context request =
            handler.deliver rightIds rightContext (request.withName rest))
      (sameVariables :
        ∀ boundName,
          leftContext.bound? boundName = rightContext.bound? boundName)
  | notFound
      {leftName rightName : Name}
      (leftFails :
        ∀ handler,
          (left handler).deliver ids context request =
            .error (.routeNotFound leftName.display))
      (rightFails :
        ∀ handler,
          (right handler).deliver ids context request =
            .error (.routeNotFound rightName.display))

/-- A hop binds its own variables before those of the outer context. -/
theorem bound?_push_router
    (context : Context)
    (ids : IdSupply)
    (hop : Hop)
    (boundName : String) :
    (context.push ids.next (.router hop)).bound? boundName =
      (hop.variableValues.get? boundName).or (context.bound? boundName) := by
  have pushed := context.bound?_pushHops ids [hop] boundName
  rw [List.reverse_singleton, List.findSome?_singleton] at pushed
  exact pushed

section Nested

variable
  {mode : Mode}
  {outer inner : Template}
  {ids : IdSupply}
  {context : Context}
  {request : Request}

/-- A handler behind two routers, one route each. -/
def behindBoth
    (mode : Mode)
    (outer inner : Template)
    (handler : Handler α) :
    Handler α :=
  behind ⟨.startsWith, outer⟩ (behind ⟨mode, inner⟩ handler)

/-- What both routers accept is delivered behind them, with both hops in the context. -/
theorem deliver_behindBoth
    (outerAccepts : (Matcher.mk .startsWith outer).Accepts request.name)
    (innerAccepts :
      (Matcher.mk mode inner).Accepts (outer.forwarded request.name))
    (handler : Handler α) :
    (behindBoth mode outer inner handler).deliver ids context request =
      handler.deliver ids.advance.advance
        ((context.push ids.next
              (.router ((Matcher.mk .startsWith outer).hop request.name))).push
          ids.advance.next
          (.router
            ((Matcher.mk mode inner).hop (outer.forwarded request.name))))
        (request.withName (inner.forwarded (outer.forwarded request.name))) :=
  (deliver_behind_of_accepts outerAccepts _).trans
    (deliver_behind_of_accepts innerAccepts handler)

/-- What either router does not accept is delivered nowhere. -/
theorem deliver_behindBoth_of_not_accepts
    (acceptsNot :
      ¬ (Matcher.mk mode (outer ++ inner)).Accepts request.name)
    (ids : IdSupply)
    (context : Context) :
    ∃ name : Name,
      ∀ handler : Handler α,
        (behindBoth mode outer inner handler).deliver ids context request =
          .error (.routeNotFound name.display) := by
  by_cases outerAccepts : (Matcher.mk .startsWith outer).Accepts request.name
  · have innerNot :
        ¬ (Matcher.mk mode inner).Accepts (outer.forwarded request.name) :=
      fun innerAccepts =>
        acceptsNot (Matcher.accepts_append_iff.mpr ⟨outerAccepts, innerAccepts⟩)
    exact
      ⟨outer.forwarded request.name,
        fun handler =>
          (deliver_behind_of_accepts outerAccepts _).trans
            (deliver_behind_of_not_accepts innerNot handler)⟩
  · exact
      ⟨request.name,
        fun _ => deliver_behind_of_not_accepts outerAccepts _⟩

/-- Two routers in a row are as good as one of the joined template. -/
theorem handsOnAlike_behindBoth
    (mode : Mode)
    (outer inner : Template)
    (ids : IdSupply)
    (context : Context)
    (request : Request) :
    HandsOnAlike
      (behindBoth mode outer inner : Handler α → Handler α)
      (behind ⟨mode, outer ++ inner⟩)
      ids context request := by
  by_cases accepts : (Matcher.mk mode (outer ++ inner)).Accepts request.name
  · obtain ⟨outerAccepts, innerAccepts⟩ :=
      Matcher.accepts_append_iff.mp accepts
    have flatArrives (handler : Handler α) :
        (behind ⟨mode, outer ++ inner⟩ handler).deliver ids context request =
          handler.deliver ids.advance
            (context.push ids.next
              (.router ((Matcher.mk mode (outer ++ inner)).hop request.name)))
            (request.withName
              (inner.forwarded (outer.forwarded request.name))) := by
      rw [← Template.forwarded_append]
      exact deliver_behind_of_accepts accepts handler
    refine
      .arrives (deliver_behindBoth outerAccepts innerAccepts) flatArrives ?_
    intro boundName
    rw [bound?_push_router, bound?_push_router, bound?_push_router,
      Matcher.get?_hop_append, Option.or_assoc]
  · obtain ⟨name, nestedFails⟩ :=
      @deliver_behindBoth_of_not_accepts α _ _ _ _ accepts ids context
    exact .notFound nestedFails (deliver_behind_of_not_accepts accepts)

end Nested

/--
Nested routers are as good as flat ones: the joined pattern reads, and whatever
the mode of the inner route, a handler behind a router of the one pattern behind
a router of the other gets the requests that it gets behind one router of both.
-/
theorem nested_routers_are_flat
    {outerPattern innerPattern : String}
    {outer inner : Template}
    (outerBare : Name.Bare outerPattern)
    (innerBare : Name.Bare innerPattern)
    (outerReads : Template.parse outerPattern = .ok outer)
    (innerReads : Template.parse innerPattern = .ok inner)
    (apart : outer.variableNames.Disjoint inner.variableNames) :
    (∃ whole, Template.parse (outerPattern ++ "/" ++ innerPattern) = .ok whole) ∧
      ∀ mode, ∃ nested flat : Handler α → Handler α,
        (∀ handler,
          (only mode innerPattern handler >>= only .startsWith outerPattern) =
            .ok (nested handler)) ∧
        (∀ handler,
          only mode (outerPattern ++ "/" ++ innerPattern) handler =
            .ok (flat handler)) ∧
        ∀ ids context request, HandsOnAlike nested flat ids context request := by
  have wholeReads :
      Template.parse (outerPattern ++ "/" ++ innerPattern) =
        .ok (outer ++ inner) :=
    Template.parse_join outerBare innerBare outerReads innerReads apart
  refine ⟨⟨outer ++ inner, wholeReads⟩, fun mode => ?_⟩
  refine
    ⟨behindBoth mode outer inner, behind ⟨mode, outer ++ inner⟩,
      fun handler => ?_, only_of_parse wholeReads,
      handsOnAlike_behindBoth mode outer inner⟩
  rw [only_of_parse innerReads]
  exact only_of_parse outerReads _

/-- A router of users to a router of devices, as one router of both. -/
theorem user_devices_are_flat :
    (∃ whole,
        Template.parse ("Users/\x7buser\x7d" ++ "/" ++ "devices/\x7bdevice\x7d") =
          .ok whole) ∧
      ∀ mode, ∃ nested flat : Handler Unit → Handler Unit,
        (∀ handler,
          (only mode "devices/\x7bdevice\x7d" handler >>=
              only .startsWith "Users/\x7buser\x7d") =
            .ok (nested handler)) ∧
        (∀ handler,
          only mode ("Users/\x7buser\x7d" ++ "/" ++ "devices/\x7bdevice\x7d")
              handler =
            .ok (flat handler)) ∧
        ∀ ids context request, HandsOnAlike nested flat ids context request := by
  have usersRead :
      Template.parse "Users/\x7buser\x7d" =
        .ok
          ⟨⟨["Users", "\x7buser\x7d"], by decide⟩,
            [.literal "Users", .placeholder "user"]⟩ := by
    decide +kernel
  have devicesRead :
      Template.parse "devices/\x7bdevice\x7d" =
        .ok
          ⟨⟨["devices", "\x7bdevice\x7d"], by decide⟩,
            [.literal "devices", .placeholder "device"]⟩ := by
    decide +kernel
  have usersBare : Name.Bare "Users/\x7buser\x7d" :=
    ⟨by decide +kernel, by decide +kernel, by decide +kernel⟩
  have devicesBare : Name.Bare "devices/\x7bdevice\x7d" :=
    ⟨by decide +kernel, by decide +kernel, by decide +kernel⟩
  apply nested_routers_are_flat usersBare devicesBare usersRead devicesRead
  exact List.disjoint_singleton.mpr (by decide)

end Handler

end ResourceServer
