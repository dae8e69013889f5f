import ResourceServer.Http.Server
import ResourceServer.Proofs.Http.FieldText
import ResourceServer.Proofs.Text.Trimming

namespace ResourceServer

/-!
# What clients see of a result

Advice and the name of the server go into header fields of their own. All else
in an answer is settled before they are added: its status, its body, the entity
tag of a revision and the location of what was created.
-/

/-- The status of a failure is one of an error. -/
theorem Failure.le_status
    (failure : Failure) :
    400 ≤ failure.status := by
  unfold status
  split <;> decide

namespace Outgoing

/-- Answers that differ at most in header fields other than this one. -/
structure AgreeOn
    (name : String)
    (left right : Outgoing) : Prop where
  status : left.status = right.status
  body : left.body = right.body
  field : left.headers.get? name = right.headers.get? name

namespace AgreeOn

variable {name : String}

theorem refl
    (outgoing : Outgoing) :
    AgreeOn name outgoing outgoing :=
  ⟨rfl, rfl, rfl⟩

theorem trans
    {first second third : Outgoing}
    (former : AgreeOn name first second)
    (latter : AgreeOn name second third) :
    AgreeOn name first third :=
  ⟨former.status.trans latter.status, former.body.trans latter.body,
    former.field.trans latter.field⟩

/-- Setting another field leaves this one alone. -/
theorem setHeader
    (outgoing : Outgoing)
    {other : String}
    (value : String)
    (different : other ≠ name) :
    AgreeOn name (outgoing.setHeader other value) outgoing := by
  rw [Outgoing.setHeader]
  split
  · exact ⟨rfl, rfl, Record.get?_insert_of_ne _ _ different⟩
  · exact refl outgoing

theorem appendHeader
    (outgoing : Outgoing)
    {other : String}
    (value : String)
    (different : other ≠ name) :
    AgreeOn name (outgoing.appendHeader other value) outgoing := by
  rw [Outgoing.appendHeader]
  split
  · exact ⟨rfl, rfl, Record.get?_insert_of_ne _ _ different⟩
  · exact refl outgoing

theorem appendHeaders
    (outgoing : Outgoing)
    {other : String}
    (values : List String)
    (different : other ≠ name) :
    AgreeOn name
      (values.foldl
        (fun outgoing value => outgoing.appendHeader other value) outgoing)
      outgoing := by
  induction values generalizing outgoing with
  | nil =>
      exact refl outgoing
  | cons value rest inductionHypothesis =>
      exact (inductionHypothesis _).trans
        (appendHeader outgoing value different)

/-- Advice for another field leaves this one alone. -/
theorem adviseOne
    (outgoing : Outgoing)
    {advice : String × List String}
    (different : Text.fold advice.1 ≠ name) :
    AgreeOn name (outgoing.adviseOne advice) outgoing := by
  rw [Outgoing.adviseOne]
  split
  · exact appendHeaders outgoing advice.2 different
  · exact refl outgoing

/-- Advice leaves a field alone that it does not name. -/
theorem advise
    (outgoing : Outgoing)
    {advice : Record (List String)}
    (different : ∀ one ∈ advice, Text.fold one.1 ≠ name) :
    AgreeOn name (outgoing.advise advice) outgoing := by
  rw [Outgoing.advise]
  induction advice generalizing outgoing with
  | nil =>
      exact refl outgoing
  | cons one rest inductionHypothesis =>
      have inRest : ∀ other ∈ rest, Text.fold other.1 ≠ name :=
        fun other member => different other (List.mem_cons_of_mem one member)
      exact (inductionHypothesis _ inRest).trans
        (adviseOne outgoing (different one List.mem_cons_self))

theorem sign
    (outgoing : Outgoing)
    (different : "server" ≠ name) :
    AgreeOn name (Server.sign outgoing) outgoing := by
  rw [Server.sign]
  split
  · exact refl outgoing
  · exact setHeader outgoing Server.label different

/-- Finishing a response that keeps its body touches the `server` field only. -/
theorem finish
    {method : String}
    (outgoing : Outgoing)
    (notHead : method ≠ "HEAD")
    (different : "server" ≠ name) :
    AgreeOn name (Server.finish method outgoing) outgoing := by
  rw [Server.finish, if_neg notHead]
  exact sign outgoing different

end AgreeOn

/-! ## The answer that shows a resource -/

@[simp] theorem status_setHeader
    (outgoing : Outgoing)
    (name value : String) :
    (outgoing.setHeader name value).status = outgoing.status := by
  rw [setHeader]
  split <;> rfl

@[simp] theorem body_setHeader
    (outgoing : Outgoing)
    (name value : String) :
    (outgoing.setHeader name value).body = outgoing.body := by
  rw [setHeader]
  split <;> rfl

/-- A sendable value that was set is what the field holds. -/
theorem get?_setHeader_self
    (outgoing : Outgoing)
    {name value : String}
    (sendable : Headers.isSendable value = true) :
    (outgoing.setHeader name value).headers.get? name = some [value] := by
  rw [setHeader, if_pos sendable]
  exact Record.get?_insert_self _ _ _

/-- A created resource is answered with 201, any other with 200. -/
theorem status_ofResource
    (resource : Resource)
    (layout : Layout) :
    (ofResource resource layout).status =
      if layout.verb = some .create then 201 else 200 := by
  have sameTest :
      (if (layout.verb == some .create) = true then 201 else 200) =
        if layout.verb = some .create then 201 else 200 := by
    simp only [beq_iff_eq]
  rw [ofResource, ← sameTest]
  split <;> split <;> simp only [status_setHeader, ofJson]

/-- Without pretty printing, the body is the compact JSON of the resource. -/
theorem body_ofResource
    (resource : Resource)
    {layout : Layout}
    (notPretty : layout.prettyPrint = false) :
    (ofResource resource layout).body = resource.toJson.compact := by
  rw [ofResource, notPretty]
  split <;> split <;> simp only [body_setHeader, ofJson] <;> rfl

/-- An entity tag is set for the revision, and the location is another field. -/
theorem etag_ofResource
    {resource : Resource}
    {revision : String}
    (layout : Layout)
    (isAt : resource.revision = some revision)
    (sendable : Headers.isSendable (entityTag revision) = true) :
    (ofResource resource layout).headers.get? "etag" =
      some [entityTag revision] := by
  rw [ofResource, isAt]
  split
  · have isOther : "location" ≠ "etag" := by
      decide
    rw [(AgreeOn.setHeader _ _ isOther).field]
    exact get?_setHeader_self _ sendable
  · exact get?_setHeader_self _ sendable

/-- A field that was absent holds the value that was set, and nothing else. -/
theorem eq_of_get?_setHeader
    {outgoing : Outgoing}
    {name value : String}
    {values : List String}
    (absent : outgoing.headers.get? name = none)
    (found : (outgoing.setHeader name value).headers.get? name = some values) :
    values = [value] := by
  rw [setHeader] at found
  split at found
  · rw [Record.get?_insert_self] at found
    exact (Option.some.inj found).symm
  · cases absent.symm.trans found

/-- Only what was created has a location, in the collection it was created in. -/
theorem location_ofResource
    {resource : Resource}
    {layout : Layout}
    {locations : List String}
    (located :
      (ofResource resource layout).headers.get? "location" = some locations) :
    ∃ base,
      layout.locationBase = some base ∧
        locations = [location base resource.id] := by
  have nowhereTagged :
      ∀ (status : Nat) (content : Json) (pretty : Bool) (tag : String),
        ((ofJson status content pretty).setHeader "etag" tag).headers.get?
          "location" = none := by
    intro status content pretty tag
    exact (AgreeOn.setHeader _ tag (by decide)).field
  rw [ofResource] at located
  split at located
  · rename_i base _ isBase
    refine ⟨base, isBase, ?_⟩
    split at located
    · exact eq_of_get?_setHeader (nowhereTagged _ _ _ _) located
    · exact eq_of_get?_setHeader rfl located
  · split at located
    · cases (nowhereTagged _ _ _ _).symm.trans located
    · cases located

/-- Whatever fields are asked for, a resource keeps its id and its revision. -/
theorem project_resource
    (resource : Resource)
    (fields : List String) :
    ∃ content,
      (Response.resource resource).project fields =
        .resource { resource with content := content } := by
  rw [Response.project]
  split
  · exact ⟨resource.content, rfl⟩
  · exact ⟨resource.content.project fields, rfl⟩

/-- A projected answer to a query is an answer to a query. -/
theorem project_query
    (page : Page)
    (fields : List String) :
    ∃ shown, (Response.query page).project fields = .query shown := by
  rw [Response.project]
  split
  · exact ⟨page, rfl⟩
  · exact ⟨_, rfl⟩

/-- An answer with a location shows a resource that was created. -/
theorem resource_of_located
    {result : Except Failure Response}
    {layout : Layout}
    {locations : List String}
    (located :
      (plain result layout).headers.get? "location" = some locations) :
    ∃ resource base,
      result = .ok (.resource resource) ∧
        layout.locationBase = some base ∧
        locations = [location base resource.id] := by
  cases result with
  | error failure =>
      cases located
  | ok response =>
      cases response with
      | resource resource =>
          obtain ⟨content, isShown⟩ := project_resource resource layout.fields
          rw [plain, ofResponse, isShown] at located
          obtain ⟨base, isBase, rfl⟩ := location_ofResource located
          exact ⟨resource, base, rfl, isBase, rfl⟩
      | action content =>
          simp only [plain, ofResponse, Response.project] at located
          cases content <;> cases located
      | query page =>
          obtain ⟨shown, isShown⟩ := project_query page layout.fields
          rw [plain, ofResponse, isShown] at located
          cases located

/-- The entity tag of a stored resource. -/
def tagOf
    (entry : Entry) : String :=
  entityTag (toString entry.revision)

/-- An answer tells the revision of an entry and shows its resource. -/
structure Shows
    (outgoing : Outgoing)
    (entry : Entry) : Prop where
  tag : outgoing.headers.get? "etag" = some [tagOf entry]
  body : outgoing.body = entry.resource.toJson.compact

/-- An entity tag is the revision between quotes. -/
theorem toList_entityTag
    (revision : String) :
    (entityTag revision).toList = '"' :: revision.toList ++ ['"'] := by
  simp only [entityTag, String.toList_append]
  rfl

/-- An entity tag can be read from a header exactly when the revision can. -/
theorem readable_entityTag_iff
    {revision : String} :
    Headers.Readable (entityTag revision) ↔ Headers.Readable revision := by
  have quoteIsText : Headers.isTextChar '"' = true := by
    decide
  simp only [Headers.Readable, toList_entityTag, List.mem_append, List.mem_cons,
    List.not_mem_nil, or_false, or_imp, forall_and, forall_eq, quoteIsText,
    true_and, and_true]

theorem isSendable_numeralTag
    (revision : Nat) :
    Headers.isSendable (entityTag (toString revision)) = true := by
  apply Headers.isSendable_of_readable
  rw [readable_entityTag_iff]
  intro char member
  have isDigit := (Text.isNumeral_toString revision).digits char member
  exact Headers.isTextChar_of_isDigit isDigit

/-- A response made of an entry shows the entry: its tag and its content. -/
theorem shows_ofResource
    (entry : Entry)
    {layout : Layout}
    (notPretty : layout.prettyPrint = false) :
    (ofResource entry.resource layout).Shows entry where
  tag := etag_ofResource layout rfl (isSendable_numeralTag entry.revision)
  body := body_ofResource entry.resource notPretty

/-- A response with the same tag, status and body shows the same entry. -/
theorem Shows.of_agreeOn
    {left right : Outgoing}
    {entry : Entry}
    (shown : right.Shows entry)
    (agree : AgreeOn "etag" left right) :
    left.Shows entry where
  tag := agree.field.trans shown.tag
  body := agree.body.trans shown.body

end Outgoing

namespace Server

theorem status_finish
    (method : String)
    (outgoing : Outgoing) :
    (finish method outgoing).status = outgoing.status := by
  have signed : Outgoing.AgreeOn "" (sign outgoing) outgoing :=
    .sign outgoing (by decide)
  rw [finish]
  split <;> exact signed.status

/-- Finishing keeps every field other than `server`. -/
theorem field_finish
    {name : String}
    (method : String)
    (outgoing : Outgoing)
    (notServer : "server" ≠ name) :
    (finish method outgoing).headers.get? name =
      outgoing.headers.get? name := by
  have signed : Outgoing.AgreeOn name (sign outgoing) outgoing :=
    .sign outgoing notServer
  rw [finish]
  split <;> exact signed.field

end Server

end ResourceServer
