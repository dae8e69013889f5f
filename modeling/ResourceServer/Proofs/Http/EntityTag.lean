import ResourceServer.Proofs.Http.FieldText
import ResourceServer.Proofs.Http.GuardedWrite
import ResourceServer.Proofs.Http.ProtectedFields
import ResourceServer.Proofs.Text.Boundary

namespace ResourceServer

/-!
# Revisions in entity tags

A revision is put between quotes and sent as entity tag wherever it has no
control character. When the tag comes back all quotes are taken off both ends,
those of the revision among them, and a tag with a character that is not ASCII
is not read. So a client that insists on the revision it was shown does so just
where the revision has no such character, and no quote at its ends.
-/

namespace Protocol

/-- A text does not begin and does not end with a quote. -/
structure Unquoted (text : String) : Prop where
  first : text.toList.head? ≠ some '"'
  last : text.toList.getLast? ≠ some '"'

instance (text : String) : Decidable (Unquoted text) :=
  decidable_of_iff
    (text.toList.head? ≠ some '"' ∧ text.toList.getLast? ≠ some '"')
    ⟨fun both => ⟨both.1, both.2⟩, fun bare => ⟨bare.first, bare.last⟩⟩

theorem unquote_eq_self_iff
    {text : String} :
    unquote text = text ↔ Unquoted text := by
  have stays :
      ∀ outer : Option Char,
        (∀ char, outer = some char → (char == '"') = false) ↔
          outer ≠ some '"' := by
    intro outer
    cases outer with
    | none => simp
    | some char => simp
  rw [unquote, ← String.toList_inj, String.toList_ofList,
    Text.trimChars_eq_self_iff, stays, stays]
  exact ⟨fun both => ⟨both.1, both.2⟩, fun bare => ⟨bare.first, bare.last⟩⟩

/-- The quotes of a tag save the blanks of the revision, but not its quotes. -/
theorem revisionOfTag_entityTag
    (revision : String) :
    revisionOfTag (Outgoing.entityTag revision) = unquote revision := by
  have chars := Outgoing.toList_entityTag revision
  have trimmed :
      Text.trim (Outgoing.entityTag revision) =
        Outgoing.entityTag revision := by
    have quoteStays : Text.isBlank '"' = false := by
      decide
    rw [Text.trim, Text.trimChars_eq_self, String.ofList_toList]
    · intro char isFirst
      rw [chars] at isFirst
      cases isFirst
      exact quoteStays
    · intro char isLast
      rw [chars, List.getLast?_concat] at isLast
      cases isLast
      exact quoteStays
  simp only [revisionOfTag, trimmed]
  split
  · rename_i startsWithMark
    rw [chars] at startsWithMark
    cases startsWithMark
  · have around :
        Text.trimChars (· == '"') ('"' :: revision.toList ++ ['"']) =
          Text.trimChars (· == '"') revision.toList := by
      apply Text.trimChars_around
      decide
    rw [unquote, unquote, chars, around]

end Protocol

namespace Headers

theorem isSendable_entityTag
    (revision : String) :
    isSendable (Outgoing.entityTag revision) = isSendable revision := by
  have quoteIsSent : isSendable "\"" = true := by
    decide
  rw [isSendable] at quoteIsSent
  simp only [isSendable, Outgoing.entityTag, Text.bytes_append,
    List.all_append, quoteIsSent, Bool.true_and, Bool.and_true]

end Headers

namespace Outgoing

theorem valuesOf_setHeader
    {outgoing : Outgoing}
    {name : String}
    (absent : outgoing.headers.get? name = none)
    (value : String) :
    (outgoing.setHeader name value).valuesOf name =
      [value].filter Headers.isSendable := by
  by_cases sendable : Headers.isSendable value = true
  · rw [valuesOf, get?_setHeader_self outgoing sendable,
      List.filter_singleton, sendable]
    rfl
  · rw [valuesOf, setHeader, if_neg sendable, absent, List.filter_singleton,
      Bool.eq_false_iff.mpr sendable]
    rfl

/-- The revision of a resource is sent as its entity tag, if it can be sent. -/
theorem valuesOf_etag
    {resource : Resource}
    {revision : String}
    (isAt : resource.revision = some revision)
    (layout : Layout) :
    (ofResource resource layout).valuesOf "etag" =
      [entityTag revision].filter Headers.isSendable := by
  rw [ofResource, isAt]
  split
  · have isOther : "location" ≠ "etag" := by
      decide
    rw [valuesOf, (AgreeOn.setHeader _ _ isOther).field]
    exact valuesOf_setHeader rfl _
  · exact valuesOf_setHeader rfl _

/-- Advice comes after the entity tag, whatever fields are asked for. -/
theorem valuesOf_etag_render
    (resource : Resource)
    {revision : String}
    (isAt : resource.revision = some revision)
    (layout : Layout) :
    (render (.ok (.resource resource)) layout).valuesOf "etag" =
      [entityTag revision].filter Headers.isSendable ++
        adviceIn layout.advice "etag" := by
  obtain ⟨content, isShown⟩ := project_resource resource layout.fields
  have tagged :
      (ofResource { resource with content := content } layout).valuesOf "etag" =
        [entityTag revision].filter Headers.isSendable := by
    apply valuesOf_etag
    exact isAt
  rw [render, valuesOf_advise, plain, ofResponse, isShown]
  dsimp only
  rw [tagged]

end Outgoing

namespace Incoming

open Protocol

variable
  {incoming : Incoming}
  {header revision : String}

theorem revision?_of_entityTag
    (carries :
      incoming.headers.value? header =
        some (Text.bytes (Outgoing.entityTag revision))) :
    incoming.revision? header =
      if Headers.Readable revision then some (unquote revision) else none := by
  rw [revision?, Headers.text?_of_value? carries]
  split
  · rename_i readable
    rw [Headers.valueText?_of_readable
        (Outgoing.readable_entityTag_iff.mpr readable),
      Option.map_some, revisionOfTag_entityTag]
  · rename_i unreadable
    rw [Headers.valueText?_of_not_readable
      (mt Outgoing.readable_entityTag_iff.mp unreadable)]
    rfl

/--
The revision of a resource is sent as its entity tag just where it can be sent
in a header field, and before any advice. A request that carries this tag in
turn insists on the same revision if and only if the revision can be read from a
header field and has no quote at its ends. A revision that cannot be read is
lost, and from one with quotes at its ends the quotes are.
-/
theorem entity_tag_reads_back_iff
    (id : Option String)
    (revision : String)
    (content : Json)
    (layout : Layout) :
    let shown : Resource := ⟨id, some revision, content⟩
    let tag := Outgoing.entityTag revision
    (Outgoing.render (.ok (.resource shown)) layout).valuesOf "etag" =
        (if Headers.isSendable revision then [tag] else []) ++
          Outgoing.adviceIn layout.advice "etag" ∧
      ∀ incoming : Incoming,
        incoming.headers.value? ifMatch = some (Text.bytes tag) →
          (incoming.revision? ifMatch = some revision ↔
              Headers.Readable revision ∧ Unquoted revision) ∧
            incoming.revision? ifMatch =
              if Headers.Readable revision then
                some (unquote revision)
              else
                none := by
  intro shown tag
  constructor
  · rw [Outgoing.valuesOf_etag_render shown rfl layout, List.filter_singleton,
      Headers.isSendable_entityTag]
    cases Headers.isSendable revision <;> rfl
  · intro incoming carries
    have isRead := revision?_of_entityTag carries
    refine ⟨?_, isRead⟩
    rw [isRead, ← unquote_eq_self_iff]
    split
    · rename_i readable
      rw [Option.some_inj, and_iff_right readable]
    · rename_i unreadable
      simp only [reduceCtorEq, unreadable, false_and]

/-- The quotes of a revision are lost, and so is a revision with an accent. -/
theorem revisions_lost_on_return :
    let answer := fun revision : String =>
      Outgoing.render (.ok (.resource ⟨none, some revision, .object []⟩)) {}
    let sent := fun tag : String => toUser "DELETE" (Text.bytes tag) []
    (answer "\"a\"").headers.get? "etag" = some ["\"\"a\"\""] ∧
      (sent "\"\"a\"\"").revision? ifMatch = some "a" ∧
      (answer "é").headers.get? "etag" = some ["\"é\""] ∧
      (sent "\"é\"").revision? ifMatch = none := by
  decide +kernel

end Incoming

end ResourceServer
