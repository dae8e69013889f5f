import ResourceServer.Proofs.Context.LegalAdvice
import ResourceServer.Proofs.Http.Rendering
import ResourceServer.Proofs.Http.Understanding

namespace ResourceServer

/-!
# Protected header fields

While a request is carried out, any advice may be put for its sender. All of it
is sent in header fields, behind the values that these have without it, but a
field is never touched whose name the settings withhold, however the name is
spelled. So a handler that is free in what it puts has no say in the status and
the body of an answer, in the type of the body, in the entity tag and in the
location.
-/

namespace Context

/-- The context after attempts to put advice; what is refused is left out. -/
def advise (context : Context) (puts : List (String × String)) : Context :=
  puts.foldl
    (fun context put =>
      match context.putAdvice put.1 put.2 with
      | .ok advised => advised
      | .error _ => context)
    context

/-- What is recorded as advice for the sender of a request. -/
def recorded (context : Context) : Record (List String) :=
  match context.advice with
  | .ok advice => advice.values
  | .error _ => []

variable
  {context : Context}
  {advice : Advice}

/-- The own frame of a context has all that it is made to put. -/
theorem own_advise
    (isOwn : context.own.frame = .advice advice)
    (puts : List (String × String)) :
    (context.advise puts).own.frame =
      .advice (advice.addAll (puts.map fun put => .put put.1 put.2)) := by
  unfold advise Advice.addAll
  induction puts generalizing context advice with
  | nil =>
      exact isOwn
  | cons put rest inductionHypothesis =>
      rw [List.map_cons, List.foldl_cons, List.foldl_cons]
      apply inductionHypothesis
      have putsOwn :
          context.putAdvice put.1 put.2 =
            (advice.put put.1 put.2).map fun grown =>
              { context with own.frame := .advice grown } := by
        rw [putAdvice, isOwn]
      rw [putsOwn, Advice.add]
      cases advice.put put.1 put.2 with
      | ok advised =>
          rfl
      | error failure =>
          exact isOwn

theorem recorded_of_own
    (isOwn : context.own.frame = .advice advice) :
    context.recorded = advice.values := by
  rw [recorded, advice_of_own isOwn]

end Context

namespace ApiSettings

/-- Advice may not go by the name of a header field, in whatever case it is. -/
def Withholds (settings : ApiSettings) (field : String) : Prop :=
  ∃ name ∈ settings.restricted, Text.fold name = field

end ApiSettings

namespace Incoming

variable
  {incoming : Incoming}
  {settings : ApiSettings}

/-- The advice that a request starts with is legal, as if it had been put. -/
theorem grows_firstAdvice
    (settings : ApiSettings)
    (version : ApiVersion) :
    (Advice.empty settings.restricted).Grows (firstAdvice settings version) := by
  unfold firstAdvice
  dsimp only
  split
  · rename_i advised isPut
    exact .of_put isPut
  · exact .refl _

/-- No advice is recorded under a name that the settings withhold. -/
theorem fold_ne_of_recorded
    {ids after : IdSupply}
    {context : Context}
    (isContext : incoming.context settings ids = .ok (context, after))
    (puts : List (String × String))
    {field : String}
    (withheld : settings.Withholds field) :
    ∀ one ∈ (context.advise puts).recorded, Text.fold one.1 ≠ field := by
  obtain ⟨version, isOwn⟩ := frame_of_context isContext
  have grows :=
    (grows_firstAdvice settings version).trans
      (Advice.grows_addAll _ (puts.map fun put => .put put.1 put.2))
  have legal := grows.legal_iff.mpr (Advice.legal_empty settings.restricted)
  rw [Context.recorded_of_own (Context.own_advise isOwn puts)]
  intro one member isField
  obtain ⟨name, isRestricted, isName⟩ := withheld
  rw [← show _ = settings.restricted from grows.kept.restricted] at isRestricted
  exact (legal one member).allowed name isRestricted (isName.trans isField.symm)

end Incoming

namespace Outgoing

/-- The fields for the type of a body, its revision and where it is. -/
def protectedFields : List String :=
  ["content-type", "etag", "location"]

/-- The values of a header field, none if the answer has no such field. -/
def valuesOf (outgoing : Outgoing) (field : String) : List String :=
  (outgoing.headers.get? field).getD []

/-- The values of advice that can be sent in a header field, by its name. -/
def adviceIn
    (advice : Record (List String))
    (field : String) :
    List String :=
  (advice.filter fun one =>
    Headers.isToken one.1 && Text.fold one.1 == field).flatMap fun one =>
      one.2.filter Headers.isSendable

/-! ## What advice adds to a field -/

theorem valuesOf_appendHeader
    (outgoing : Outgoing)
    (name value field : String) :
    (outgoing.appendHeader name value).valuesOf field =
      outgoing.valuesOf field ++
        if name = field then [value].filter Headers.isSendable else [] := by
  rw [appendHeader, List.filter_singleton]
  by_cases sendable : Headers.isSendable value = true
  · rw [if_pos sendable, valuesOf, Record.get?_insert]
    by_cases isField : name = field
    · subst isField
      simp only [if_true, Option.getD_some, sendable, valuesOf]
      rfl
    · simp only [if_neg isField, List.append_nil, valuesOf]
  · simp [sendable]

theorem valuesOf_appendHeaders
    (outgoing : Outgoing)
    (name : String)
    (values : List String)
    (field : String) :
    (values.foldl
        (fun outgoing value => outgoing.appendHeader name value)
        outgoing).valuesOf field =
      outgoing.valuesOf field ++
        if name = field then values.filter Headers.isSendable else [] := by
  induction values generalizing outgoing with
  | nil =>
      simp
  | cons value rest inductionHypothesis =>
      rw [List.foldl_cons, inductionHypothesis, valuesOf_appendHeader,
        List.append_assoc]
      congr 1
      split
      · rw [← List.filter_append]
        rfl
      · rfl

/-- Advice is sent behind the values that a field has without it. -/
theorem valuesOf_advise
    (outgoing : Outgoing)
    (advice : Record (List String))
    (field : String) :
    (outgoing.advise advice).valuesOf field =
      outgoing.valuesOf field ++ adviceIn advice field := by
  unfold advise adviceIn
  induction advice generalizing outgoing with
  | nil =>
      exact (List.append_nil _).symm
  | cons one rest inductionHypothesis =>
      rw [List.foldl_cons, inductionHypothesis, adviseOne]
      by_cases isToken : Headers.isToken one.1 = true
      · rw [if_pos isToken, valuesOf_appendHeaders, List.append_assoc]
        congr 1
        by_cases isField : Text.fold one.1 = field
        · simp [isToken, isField]
        · simp [isField]
      · simp [isToken]

/--
Whatever result a request has and whatever is put as advice while it is carried
out, the answer has the status, the body and the protected fields that it has
without any advice. In every field the advice comes after all other values.
-/
theorem advice_forges_no_protected_field
    (settings : ApiSettings)
    (withheld : ∀ field ∈ protectedFields, settings.Withholds field)
    (incoming : Incoming)
    (ids after : IdSupply)
    (context : Context)
    (isContext : incoming.context settings ids = .ok (context, after))
    (puts : List (String × String))
    (result : Except Failure Response)
    (layout : Layout) :
    let recorded := (context.advise puts).recorded
    let advised := render result { layout with advice := recorded }
    let bare := render result { layout with advice := [] }
    advised.status = bare.status ∧
      advised.body = bare.body ∧
      (∀ field ∈ protectedFields,
        advised.headers.get? field = bare.headers.get? field) ∧
      ∀ field,
        advised.valuesOf field =
          bare.valuesOf field ++ adviceIn recorded field := by
  intro recorded advised bare
  have agree :
      ∀ field ∈ protectedFields, AgreeOn field advised bare := by
    intro field isProtected
    exact .advise _
      (Incoming.fold_ne_of_recorded isContext puts (withheld field isProtected))
  have agreeOnType := agree "content-type" List.mem_cons_self
  refine ⟨agreeOnType.status, agreeOnType.body, ?_, ?_⟩
  · intro field isProtected
    exact (agree field isProtected).field
  · intro field
    exact valuesOf_advise _ recorded field

theorem withholds_of_standard :
    ∀ field ∈ protectedFields, ApiSettings.standard.Withholds field := by
  intro field isProtected
  simp only [protectedFields, List.mem_cons, List.not_mem_nil, or_false]
    at isProtected
  rcases isProtected with rfl | rfl | rfl
  · exact ⟨"Content-Type", by decide, by decide⟩
  · exact ⟨"ETag", by decide, by decide⟩
  · exact ⟨"Location", by decide, by decide⟩

/-- A request that creates a user. -/
def creation : Incoming :=
  ⟨"PUT", "/users/1", [], ⟨[]⟩, []⟩

/-- Advice that pretends to be protected fields, and some that does not. -/
def pretences : List (String × String) :=
  [("location", "/elsewhere"), ("eTag", "\"9\""), ("Content-type", "text/html"),
    ("X-Note", "one"), ("x-note", "two"), ("X-Note", "three")]

/-- The layout of the answer to that request. -/
def creationLayout : Layout :=
  { verb := some .create, locationBase := some "/users" }

theorem advice_forges_no_protected_field_of_creation :
    (∀ field ∈ protectedFields, ApiSettings.standard.Withholds field) ∧
      ∃ context after,
        creation.context .standard .start = .ok (context, after) ∧
          let recorded := (context.advise pretences).recorded
          let result : Except Failure Response :=
            .ok (.resource ⟨some "1", some "0", .object []⟩)
          let advised :=
            render result { creationLayout with advice := recorded }
          let bare := render result { creationLayout with advice := [] }
          adviceIn recorded "x-note" = ["one", "three", "two"] ∧
            advised.status = bare.status ∧
            advised.body = bare.body ∧
            (∀ field ∈ protectedFields,
              advised.headers.get? field = bare.headers.get? field) ∧
            ∀ field,
              advised.valuesOf field =
                bare.valuesOf field ++ adviceIn recorded field := by
  refine ⟨withholds_of_standard, _, _, rfl, ?_⟩
  refine ⟨by decide +kernel, ?_⟩
  exact
    advice_forges_no_protected_field .standard withholds_of_standard creation
      .start _ _ rfl pretences _ creationLayout

end Outgoing

end ResourceServer
