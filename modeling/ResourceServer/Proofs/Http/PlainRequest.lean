import ResourceServer.Proofs.Http.Understanding
import ResourceServer.Proofs.Json.Blank

namespace ResourceServer

/-!
# Plain requests

A plain request has no query, and of the header fields only the type of JSON
contents and a revision to insist on. Its method, its path, its body and that
revision tell all that it asks for, and it always gets a context.
-/

namespace Headers

/-- A field that a plain request may have. -/
inductive PlainField :
    String × List UInt8 → Prop where
  | contentType :
      PlainField ("content-type", Text.bytes Protocol.jsonType)
  | ifMatch
      {value : List UInt8}
      {tag : String}
      (isText : valueText? value = some tag) :
      PlainField (Protocol.ifMatch, value)

theorem text?_of_absent
    {headers : Headers}
    {name : String}
    (absent : headers.has name = false) :
    headers.text? name = none := by
  have notFound :
      (headers.fields.find? fun field => field.1 == name) = none := by
    rw [List.find?_eq_none]
    intro field member isNamed
    rw [has, List.any_eq_false] at absent
    exact absent field member isNamed
  rw [text?, notFound]

end Headers

namespace Incoming

open Protocol

/-- A body that is read as a value is the content, since it is not blank. -/
theorem content_of_readBytes?
    {incoming : Incoming}
    {content : Json}
    (readsAs : Json.readBytes? incoming.body = some content) :
    incoming.content = .ok content := by
  have notBlank : incoming.isBlank = false := by
    rw [Bool.eq_false_iff]
    intro isBlank
    have blank : ∀ byte ∈ incoming.body, byte ∈ Json.blankBytes := by
      intro byte member
      have found := List.all_eq_true.mp isBlank byte member
      simp only [Bool.or_eq_true, beq_iff_eq] at found
      simp only [Json.blankBytes, List.mem_cons, List.not_mem_nil, or_false]
      rcases found with (((isSpace | isTab) | isLine) | isForm) | isReturn
      · exact .inl isSpace
      · exact .inr (.inl isTab)
      · exact .inr (.inr (.inl isLine))
      · exact .inr (.inr (.inr (.inl isForm)))
      · exact .inr (.inr (.inr (.inr isReturn)))
    rw [Json.readBytes?_of_blank blank] at readsAs
    cases readsAs
  simp only [Incoming.content, notBlank, readsAs, Bool.false_eq_true,
    if_false]

/-- A request without query, with no header fields but those two. -/
structure Plain
    (incoming : Incoming) : Prop where
  noQuery : incoming.query = []
  fields : ∀ field ∈ incoming.headers.fields, Headers.PlainField field
  withinLimit : incoming.body.length ≤ bodyLimit

namespace Plain

variable
  {incoming : Incoming}
  {named : Name}
  {content : Json}

/-- A plain request has no other header field. -/
theorem has_eq_false
    (plain : incoming.Plain)
    {name : String}
    (notContentType : name ≠ "content-type")
    (notIfMatch : name ≠ ifMatch) :
    incoming.headers.has name = false := by
  rw [Headers.has, List.any_eq_false]
  intro field member isNamed
  have sameName := beq_iff_eq.mp isNamed
  cases plain.fields field member with
  | contentType =>
      exact notContentType sameName.symm
  | ifMatch isText =>
      exact notIfMatch sameName.symm

/-- A plain request has no other fields than its content type and expected revision. -/
theorem text?_eq_none
    (plain : incoming.Plain)
    {name : String}
    (notContentType : name ≠ "content-type")
    (notIfMatch : name ≠ ifMatch) :
    incoming.headers.text? name = none :=
  Headers.text?_of_absent (plain.has_eq_false notContentType notIfMatch)

/-- The field that a look-up finds is one that a plain request may have. -/
theorem field_of_find?
    (plain : incoming.Plain)
    {name : String}
    {field : String × List UInt8}
    (found :
      (incoming.headers.fields.find? fun field => field.1 == name) =
        some field) :
    Headers.PlainField field ∧ field.1 = name := by
  have isNamed : field.1 = name := by
    simpa using List.find?_some found
  exact ⟨plain.fields field (List.mem_of_find?_eq_some found), isNamed⟩

theorem checkContentType_eq_ok
    (plain : incoming.Plain) :
    incoming.checkContentType = .ok () := by
  unfold checkContentType Headers.text?
  cases found :
      incoming.headers.fields.find? fun field => field.1 == "content-type" with
  | none =>
      rfl
  | some field =>
      obtain ⟨isPlain, isNamed⟩ := plain.field_of_find? found
      cases isPlain with
      | contentType =>
          have isText :
              Headers.valueText? (Text.bytes jsonType) = some jsonType := by
            decide +kernel
          have isJson :
              Text.sameFold (essence jsonType) jsonType = true := by
            decide +kernel
          simp only [isText, isJson, or_true, if_true]
      | ifMatch isText =>
          have sameName : ifMatch = "content-type" := isNamed
          exact absurd sameName (by decide)

theorem checkConditions_eq_ok
    (plain : incoming.Plain) :
    incoming.checkConditions = .ok () := by
  refine checkConditions_eq_ok_iff.mpr ?_
  intro header isRefused
  refine plain.has_eq_false ?_ ?_
  · rintro rfl
    exact absurd isRefused (by decide)
  · rintro rfl
    exact absurd isRefused (by decide)

/-- A plain request that insists on a revision names a tag. -/
theorem exists_condition
    (plain : incoming.Plain)
    (insists : incoming.headers.has ifMatch = true) :
    ∃ tag, incoming.headers.text? ifMatch = some tag := by
  rw [Headers.has, List.any_eq_true] at insists
  obtain ⟨given, isGiven, isNamed⟩ := insists
  unfold Headers.text?
  cases found :
      incoming.headers.fields.find? fun field => field.1 == ifMatch with
  | none =>
      exact absurd isNamed (List.find?_eq_none.mp found given isGiven)
  | some field =>
      obtain ⟨isPlain, isNamed⟩ := plain.field_of_find? found
      cases isPlain with
      | contentType =>
          have sameName : "content-type" = ifMatch := isNamed
          exact absurd sameName (by decide)
      | ifMatch isText =>
          exact ⟨_, isText⟩

theorem ifNoneMatch_eq_none
    (plain : incoming.Plain) :
    incoming.revision? ifNoneMatch = none := by
  rw [revision?, plain.text?_eq_none (by decide) (by decide)]
  rfl

theorem declaredLength?_eq_none
    (plain : incoming.Plain) :
    incoming.declaredLength? = none := by
  rw [declaredLength?, plain.text?_eq_none (by decide) (by decide)]
  rfl

theorem declaresTooMuch_eq_false
    (plain : incoming.Plain) :
    incoming.declaresTooMuch = false := by
  rw [declaresTooMuch, plain.declaredLength?_eq_none]

theorem receiveBody_eq_ok
    (plain : incoming.Plain) :
    incoming.receiveBody = .ok () := by
  rw [receiveBody, bodyBound, plain.declaredLength?_eq_none,
    Option.getD_none, Nat.min_self, if_pos plain.withinLimit]

/-- Whoever accepts any version is served. -/
theorem exists_context
    (plain : incoming.Plain)
    (settings : ApiSettings)
    (ids : IdSupply) :
    ∃ context after,
      incoming.context settings ids = .ok (context, after) := by
  have acceptsAny :
      incoming.acceptedVersions = .ok AcceptedVersions.any := by
    rw [acceptedVersions, plain.text?_eq_none (by decide) (by decide)]
  rw [Incoming.context, Incoming.frames, acceptsAny]
  exact ⟨_, _, rfl⟩

/-! ## What plain requests ask for -/

/-- A plain GET reads the resource of its path. -/
theorem adapt_get
    (plain : incoming.Plain)
    (isNamed : incoming.name = .ok named)
    (isGet : incoming.method = "GET") :
    incoming.adapt = .ok ⟨⟨named, [], [], .read⟩, false⟩ := by
  have readable : incoming.checkReadable = .ok () := by
    rw [checkReadable_eq_ok_iff, plain.ifNoneMatch_eq_none]
    exact (Option.some_ne_none _).symm
  rw [adapt, plain.checkContentType_eq_ok, plain.checkConditions_eq_ok,
    isNamed, plain.noQuery, isGet]
  show incoming.get named [] = _
  rw [Incoming.get, readable]
  rfl

theorem checkOneCondition_eq_ok
    (plain : incoming.Plain) :
    incoming.checkOneCondition = .ok () :=
  checkOneCondition_eq_ok_iff.mpr (.inr plain.ifNoneMatch_eq_none)

/-- A plain PUT passes all checks, and is read by its body. -/
theorem adapt_put
    (plain : incoming.Plain)
    (isNamed : incoming.name = .ok named)
    (isPut : incoming.method = "PUT") :
    incoming.adapt = incoming.put named [] := by
  rw [adapt, plain.checkContentType_eq_ok, plain.checkConditions_eq_ok,
    isNamed, plain.noQuery, isPut]
  rfl

/-- A plain PUT with an expected revision updates the resource of its path. -/
theorem adapt_update
    (plain : incoming.Plain)
    (isNamed : incoming.name = .ok named)
    (isPut : incoming.method = "PUT")
    (hasContent : incoming.content = .ok content)
    {revision : String}
    (insists : incoming.revision? ifMatch = some revision) :
    incoming.adapt =
      .ok ⟨⟨named, [], [], .update content (some revision)⟩, false⟩ := by
  rw [plain.adapt_put isNamed isPut, Incoming.put,
    plain.checkOneCondition_eq_ok, hasContent, insists]
  rfl

/-- A plain PUT without one creates the resource of its path in the collection above. -/
theorem adapt_create
    (plain : incoming.Plain)
    (isNamed : incoming.name = .ok named)
    (isPut : incoming.method = "PUT")
    (hasContent : incoming.content = .ok content)
    (insistsNot : incoming.revision? ifMatch = none)
    {parent : Name}
    {id : String}
    (isParent : named.parent? = some parent)
    (isLeaf : named.leaf? = some id) :
    incoming.adapt =
      .ok ⟨⟨parent, [], [], .create content (some id)⟩, false⟩ := by
  rw [plain.adapt_put isNamed isPut, Incoming.put,
    plain.checkOneCondition_eq_ok, hasContent, insistsNot, isParent, isLeaf]
  rfl

theorem refuseIfNoneMatch_eq_ok
    (plain : incoming.Plain) :
    incoming.refuseIfNoneMatch = .ok () :=
  refuseIfNoneMatch_eq_ok_iff.mpr (plain.has_eq_false (by decide) (by decide))

/-- A plain DELETE deletes the resource of its path at the expected revision. -/
theorem adapt_delete
    (plain : incoming.Plain)
    (isNamed : incoming.name = .ok named)
    (isDelete : incoming.method = "DELETE") :
    incoming.adapt =
      .ok ⟨⟨named, [], [], .delete (incoming.revision? ifMatch)⟩, false⟩ := by
  rw [adapt, plain.checkContentType_eq_ok, plain.checkConditions_eq_ok,
    isNamed, plain.noQuery, isDelete]
  show incoming.delete named [] = _
  rw [Incoming.delete, plain.refuseIfNoneMatch_eq_ok]
  cases incoming.revision? ifMatch <;> rfl

/-- A plain PATCH applies the operations of its body at the expected revision. -/
theorem adapt_patch
    (plain : incoming.Plain)
    (isNamed : incoming.name = .ok named)
    (isPatch : incoming.method = "PATCH")
    (hasContent : incoming.content = .ok content)
    {operations : List PatchOperation}
    (reads : PatchOperation.listOfJson content = .ok operations) :
    incoming.adapt =
      .ok ⟨⟨named, [], [], .patch operations (incoming.revision? ifMatch)⟩,
        false⟩ := by
  rw [adapt, plain.checkContentType_eq_ok, plain.checkConditions_eq_ok,
    isNamed, plain.noQuery, isPatch]
  show incoming.patch named [] = _
  rw [Incoming.patch, plain.refuseIfNoneMatch_eq_ok, hasContent]
  show (PatchOperation.listOfJson content >>= _) = _
  rw [reads]
  cases incoming.revision? ifMatch <;> rfl

/-- Without a query there is no action to post. -/
theorem adapt_post
    (plain : incoming.Plain)
    (isNamed : incoming.name = .ok named)
    (isPost : incoming.method = "POST")
    (adapted : Adapted) :
    incoming.adapt ≠ .ok adapted := by
  rw [adapt, plain.checkContentType_eq_ok, plain.checkConditions_eq_ok,
    isNamed, plain.noQuery, isPost]
  intro isAdapted
  cases isAdapted

/-- What is asked for is all there is to a plain request. -/
theorem adapt_eq_ok
    (plain : incoming.Plain)
    {adapted : Adapted}
    (isAdapted : incoming.adapt = .ok adapted) :
    ∃ named asked operation,
      incoming.name = .ok named ∧
        incoming.Asks named asked operation ∧
        adapted = ⟨⟨asked, [], [], operation⟩, false⟩ ∧
        incoming.method ≠ "POST" := by
  obtain ⟨named, isNamed, asks⟩ := Incoming.adapt_eq_ok isAdapted
  have notPost : incoming.method ≠ "POST" :=
    fun isPost => plain.adapt_post isNamed isPost adapted isAdapted
  refine ⟨named, _, _, isNamed, asks, ?_, notPost⟩
  obtain ⟨⟨asked, fields, parameters, operation⟩, pretty⟩ := adapted
  cases asks with
  | read isGet =>
      cases (plain.adapt_get isNamed isGet).symm.trans isAdapted
      rfl
  | query isGet =>
      cases (plain.adapt_get isNamed isGet).symm.trans isAdapted
  | update isPut hasContent insists =>
      cases
        (plain.adapt_update isNamed isPut hasContent insists).symm.trans
          isAdapted
      rfl
  | createUnder isPut hasContent insistsNot isParent isLeaf =>
      cases
        (plain.adapt_create isNamed isPut hasContent insistsNot isParent
          isLeaf).symm.trans isAdapted
      rfl
  | create isPost | action isPost =>
      exact absurd isPost notPost
  | delete isDelete =>
      cases (plain.adapt_delete isNamed isDelete).symm.trans isAdapted
      rfl
  | patch isPatch hasContent reads =>
      cases
        (plain.adapt_patch isNamed isPatch hasContent reads).symm.trans
          isAdapted
      rfl

end Plain

end Incoming

end ResourceServer
