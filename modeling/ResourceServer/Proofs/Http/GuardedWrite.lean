import Mathlib.Data.List.Basic
import ResourceServer.Proofs.Http.Understanding

namespace ResourceServer

/-!
# Writes that insist on a revision

A client that changes a resource only at one revision says so by the entity tag
of that revision. The tag is heeded if it is a text. But a header may hold other
bytes as well, and a tag with one of them counts as missing: what was to be an
update creates a resource, and a resource is deleted or patched whatever its
revision.
-/

namespace Headers

/-- The value of the first field of a name. -/
def value? (headers : Headers) (name : String) : Option (List UInt8) :=
  (headers.fields.find? fun field => field.1 == name).map Prod.snd

theorem text?_of_value?
    {headers : Headers}
    {name : String}
    {value : List UInt8}
    (carries : headers.value? name = some value) :
    headers.text? name = valueText? value := by
  obtain ⟨⟨spelled, content⟩, isFirst, isValue⟩ :=
    Option.map_eq_some_iff.mp carries
  cases isValue
  rw [text?, isFirst]

/-- A single byte that no text has keeps a value from being one. -/
theorem valueText?_eq_none_iff
    {value : List UInt8} :
    valueText? value = none ↔ ∃ byte ∈ value, isTextByte byte = false := by
  simp only [valueText?, ite_eq_right_iff, reduceCtorEq, imp_false,
    List.all_eq_true, not_forall, Bool.not_eq_true, exists_prop]

end Headers

namespace Operation

/-- Only resources that exist are changed at one revision. -/
theorem verb_of_revision?
    {operation : Operation}
    {revision : String}
    (insists : operation.revision? = some revision) :
    operation.verb ∈ [.update, .delete, .patch] := by
  cases operation with
  | update => exact List.mem_of_elem_eq_true rfl
  | delete => exact List.mem_of_elem_eq_true rfl
  | patch => exact List.mem_of_elem_eq_true rfl
  | create => cases insists
  | read => cases insists
  | action => cases insists
  | query => cases insists

end Operation

namespace Incoming

open Protocol

variable
  {incoming : Incoming}
  {named name : Name}
  {operation : Operation}

/-- The methods that write to the resource that the path names. -/
def writeMethods : List String := ["PUT", "DELETE", "PATCH"]

theorem method_ne_of_isWrite
    {method : String}
    (isWrite : incoming.method ∈ writeMethods)
    (isOther : method ∉ writeMethods) :
    incoming.method ≠ method := by
  rintro rfl
  exact isOther isWrite

namespace Asks

/-- A write insists on the revision that is read from its header. -/
theorem revision?_eq
    (isWrite : incoming.method ∈ writeMethods)
    (asks : incoming.Asks named name operation) :
    operation.revision? = incoming.revision? ifMatch := by
  cases asks with
  | read isGet =>
      exact absurd isGet (method_ne_of_isWrite isWrite (by decide))
  | query isGet =>
      exact absurd isGet (method_ne_of_isWrite isWrite (by decide))
  | create isPost =>
      exact absurd isPost (method_ne_of_isWrite isWrite (by decide))
  | action isPost =>
      exact absurd isPost (method_ne_of_isWrite isWrite (by decide))
  | update isPut hasContent insists =>
      exact insists.symm
  | createUnder isPut hasContent insistsNot =>
      exact insistsNot.symm
  | delete =>
      rfl
  | patch =>
      rfl

theorem verb_of_no_revision
    (isWrite : incoming.method ∈ writeMethods)
    (insistsNot : incoming.revision? ifMatch = none)
    (asks : incoming.Asks named name operation) :
    operation.verb ∈ [.create, .delete, .patch] := by
  cases asks with
  | read isGet =>
      exact absurd isGet (method_ne_of_isWrite isWrite (by decide))
  | query isGet =>
      exact absurd isGet (method_ne_of_isWrite isWrite (by decide))
  | action isPost =>
      exact absurd isPost (method_ne_of_isWrite isWrite (by decide))
  | update isPut hasContent insists =>
      rw [insistsNot] at insists
      cases insists
  | create => exact List.mem_of_elem_eq_true rfl
  | createUnder => exact List.mem_of_elem_eq_true rfl
  | delete => exact List.mem_of_elem_eq_true rfl
  | patch => exact List.mem_of_elem_eq_true rfl

end Asks

variable
  {adapted : Adapted}
  {value : List UInt8}

/--
A write with an entity tag that is a text is an update, a deletion or a patch at
the revision of that tag. A tag with a byte that no text has is lost: the write
creates a resource, or deletes or patches it at any revision.
-/
theorem revision_kept_iff_text
    (isWrite : incoming.method ∈ writeMethods)
    (carries : incoming.headers.value? ifMatch = some value)
    (isAdapted : incoming.adapt = .ok adapted) :
    (∀ tag, Headers.valueText? value = some tag →
        adapted.request.operation.revision? = some (revisionOfTag tag) ∧
          adapted.request.verb ∈ [.update, .delete, .patch]) ∧
      ((∃ byte ∈ value, Headers.isTextByte byte = false) →
        adapted.request.operation.revision? = none ∧
          adapted.request.verb ∈ [.create, .delete, .patch]) := by
  obtain ⟨named, -, asks⟩ := adapt_eq_ok isAdapted
  have isRead :
      incoming.revision? ifMatch =
        (Headers.valueText? value).map revisionOfTag := by
    rw [revision?, Headers.text?_of_value? carries]
  have insists := asks.revision?_eq isWrite
  constructor
  · intro tag isText
    rw [isRead, isText] at insists
    exact ⟨insists, Operation.verb_of_revision? insists⟩
  · intro hasOther
    have notText := Headers.valueText?_eq_none_iff.mpr hasOther
    rw [notText] at isRead
    exact ⟨insists.trans isRead, asks.verb_of_no_revision isWrite isRead⟩

/-- A request to change a user at the revision of an entity tag. -/
def toUser (method : String) (tag body : List UInt8) : Incoming :=
  ⟨method, "/users/1", [], ⟨[(ifMatch, tag)]⟩, body⟩

theorem updated_at_seven :
    let tag := Text.bytes "W/\"7\""
    let incoming := toUser "PUT" tag (Text.bytes "[]")
    incoming.method ∈ writeMethods ∧
      incoming.headers.value? ifMatch = some tag ∧
      ∃ adapted,
        incoming.adapt = .ok adapted ∧
          adapted.request.operation.revision? = some "7" ∧
          adapted.request.verb ∈ [.update, .delete, .patch] := by
  intro tag incoming
  have isWrite : incoming.method ∈ writeMethods := by
    decide
  have isAdapted :
      incoming.adapt =
        .ok
          ⟨⟨⟨["users", "1"], by decide⟩, [], [],
              .update (.array []) (some "7")⟩,
            false⟩ := by
    decide +kernel
  have isText : Headers.valueText? tag = some "W/\"7\"" := by
    decide +kernel
  have isTag : revisionOfTag "W/\"7\"" = "7" := by
    decide +kernel
  obtain ⟨isKept, isChange⟩ :=
    (revision_kept_iff_text isWrite rfl isAdapted).1 _ isText
  rw [isTag] at isKept
  exact ⟨isWrite, rfl, _, isAdapted, isKept, isChange⟩

/-- An entity tag with a letter that is not ASCII, encoded in UTF-8. -/
def accented : List UInt8 := [0x22, 0xC3, 0xA9, 0x22]

/-- With such a tag a user is deleted at any revision, or created. -/
theorem accented_tag_is_lost :
    (toUser "DELETE" accented []).headers.value? ifMatch = some accented ∧
      (toUser "DELETE" accented []).adapt =
        .ok ⟨⟨⟨["users", "1"], by decide⟩, [], [], .delete none⟩, false⟩ ∧
      (toUser "PUT" accented (Text.bytes "[]")).adapt =
        .ok
          ⟨⟨⟨["users"], by decide⟩, [], [], .create (.array []) (some "1")⟩,
            false⟩ := by
  decide +kernel

end Incoming

end ResourceServer
