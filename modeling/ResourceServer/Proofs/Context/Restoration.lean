import Mathlib.Data.List.Forall2
import Mathlib.Data.List.Induction
import ResourceServer.Context.Archive
import ResourceServer.Proofs.Context.Version
import ResourceServer.Proofs.Name.RoundTrip
import ResourceServer.Proofs.Record

namespace ResourceServer

/-!
# Saved contexts come back

Saving nests the frames of a chain from the root outwards, and restoring takes
them apart again from the near end: layer by layer the same kinds, ids and
payloads. So a restored chain has as many frames as the saved one, with the
same ids in the same order, and what becomes of each frame depends on that
frame alone. Frames of this library come back as they were; those of
applications are the subject of another module.
-/

namespace Json

theorem asTexts?_ofTexts
    (texts : List String) :
    (ofTexts texts).asTexts? = some texts := by
  show (texts.map Json.string).mapM asText? = some texts
  induction texts with
  | nil =>
      rfl
  | cons text rest inductionHypothesis =>
      rw [List.map_cons, List.mapM_cons, inductionHypothesis]
      rfl

/-- A record whose values can be read back can be read back itself. -/
theorem asRecord?_mapValues
    {α : Type}
    {read? : Json → Option α}
    {write : α → Json}
    (readsBack : ∀ value, read? (write value) = some value)
    (record : Record α) :
    asRecord? read? (.object (record.mapValues write)) = some record := by
  show (record.mapValues write).mapM _ = some record
  induction record with
  | nil =>
      rfl
  | cons pair rest inductionHypothesis =>
      obtain ⟨key, value⟩ := pair
      rw [Record.mapValues, List.map_cons, List.mapM_cons, readsBack]
      rw [Record.mapValues] at inductionHypothesis
      rw [inductionHypothesis]
      rfl

end Json

/-! ## Layers of a saved chain -/

namespace Archive

/-- What is saved of a frame. -/
def layerOf (node : Node) : Layer :=
  ⟨node.frame.kind, node.frame.payload.insert idKey (.string node.id)⟩

/-- The last frame is the only one of the kind of roots. -/
def Rooted (own : Node) : List Node → Prop
  | [] => own.frame.kind = Frame.rootKind
  | next :: outer => own.frame.kind ≠ Frame.rootKind ∧ Rooted next outer

section

variable
  {members payload : Record Json}
  {kind : String}

/-- A saved root is the one layer of its context. -/
theorem layers_of_root
    (hasKind : Record.get? members "kind" = some (.string kind))
    (hasPayload : Record.get? members "payload" = some (.object payload))
    (noParent : Record.get? members "parent" = none)
    (isRoot : kind = Frame.rootKind) :
    layers (.object members) = .ok [⟨kind, payload⟩] := by
  rw [layers]
  simp only [hasKind, hasPayload, Option.bind_some, Json.asText?,
    Json.asMembers?]
  split
  · exact if_pos isRoot
  · rename_i found
    cases noParent.symm.trans found

/-- A saved frame with a parent is one layer over those of the parent. -/
theorem layers_of_parent
    {parent : Json}
    (hasKind : Record.get? members "kind" = some (.string kind))
    (hasPayload : Record.get? members "payload" = some (.object payload))
    (hasParent : Record.get? members "parent" = some parent)
    (notNull : parent.isNull = false)
    (notRoot : kind ≠ Frame.rootKind) :
    layers (.object members) = (layers parent).map (⟨kind, payload⟩ :: ·) := by
  rw [layers]
  simp only [hasKind, hasPayload, Option.bind_some, Json.asText?,
    Json.asMembers?]
  split
  · rename_i missing
    cases hasParent.symm.trans missing
  · rename_i other found
    cases hasParent.symm.trans found
    have isNested : ¬ (kind = Frame.rootKind ∨ parent.isNull = true) := by
      rw [notNull]
      rintro (isRoot | isNull)
      · exact notRoot isRoot
      · cases isNull
    rw [if_neg (fun both => notRoot both.1), if_neg isNested]

end

/-- A frame comes back with its id, read from the rest of its payload. -/
theorem readLayer_layerOf
    {registry : KindRegistry}
    {node : Node}
    {frame : Frame}
    (reads :
      registry.read node.frame.kind
          ((node.frame.payload.insert idKey (.string node.id)).erase idKey) =
        .ok frame) :
    readLayer registry (layerOf node) = .ok ⟨node.id, frame⟩ := by
  simp only [readLayer, layerOf, Record.get?_insert_self, Option.bind_some,
    Json.asText?, reads]
  rfl

theorem layers_saveNode_root
    {node : Node}
    (isRoot : node.frame.kind = Frame.rootKind) :
    layers (saveNode node none) = .ok [layerOf node] :=
  layers_of_root rfl rfl rfl isRoot

theorem layers_saveNode_outer
    {node : Node}
    {members : Record Json}
    (notRoot : node.frame.kind ≠ Frame.rootKind) :
    layers (saveNode node (some (.object members))) =
      (layers (.object members)).map (layerOf node :: ·) :=
  layers_of_parent rfl rfl rfl rfl notRoot

/-- A saved context is an object. -/
theorem saveFrom_eq_object
    (own : Node)
    (outer : List Node) :
    ∃ members, saveFrom own outer = .object members := by
  cases outer with
  | nil =>
      exact ⟨_, rfl⟩
  | cons next outer =>
      exact ⟨_, rfl⟩

/-- A saved chain is taken apart into what was saved of each frame. -/
theorem layers_saveFrom
    {own : Node}
    {outer : List Node}
    (rooted : Rooted own outer) :
    layers (saveFrom own outer) = .ok ((own :: outer).map layerOf) := by
  induction outer generalizing own with
  | nil =>
      exact layers_saveNode_root rooted
  | cons next outer inductionHypothesis =>
      obtain ⟨notRoot, onward⟩ := rooted
      obtain ⟨members, isObject⟩ := saveFrom_eq_object next outer
      have inner := inductionHypothesis onward
      rw [saveFrom, isObject, layers_saveNode_outer notRoot, ← isObject, inner]
      rfl

end Archive

namespace Context

/-- The chain with every frame exchanged for its image, under the same ids. -/
def mapFrames (change : Frame → Frame) (context : Context) : Context where
  own := { context.own with frame := change context.own.frame }
  outer := context.outer.map fun node =>
    { node with frame := change node.frame }

theorem mapFrames_id
    (context : Context) :
    context.mapFrames id = context := by
  obtain ⟨own, outer⟩ := context
  show Context.mk own (outer.map id) = ⟨own, outer⟩
  rw [List.map_id]

/-- Changing frames changes the frame of each node, and neither id nor order. -/
theorem nodes_mapFrames
    (change : Frame → Frame)
    (context : Context) :
    (context.mapFrames change).nodes =
      context.nodes.map fun node =>
        { node with frame := change node.frame } :=
  rfl

/--
A chain is restored frame by frame.

Its frames must be of kinds that the registry can read, and its root must be
the one frame of that kind.
-/
theorem restore_save
    {registry : KindRegistry}
    {context : Context}
    {change : Frame → Frame}
    (rooted : Archive.Rooted context.own context.outer)
    (reads :
      ∀ node ∈ context.nodes,
        Archive.readLayer registry (Archive.layerOf node) =
          .ok { node with frame := change node.frame }) :
    restore registry context.save = .ok (context.mapFrames change) := by
  have allRead :
      (context.nodes.map Archive.layerOf).reverse.mapM
          (Archive.readLayer registry) =
        .ok (context.mapFrames change).nodes.reverse := by
    rw [Name.mapM_eq_ok_iff, List.forall₂_reverse_iff, nodes_mapFrames,
      List.forall₂_map_left_iff, List.forall₂_map_right_iff,
      List.forall₂_same]
    exact reads
  rw [restore, save, Archive.layers_saveFrom rooted]
  show ((context.nodes.map Archive.layerOf).reverse.mapM
      (Archive.readLayer registry) >>= _) = _
  rw [allRead]
  simp only [bind, Except.bind, List.reverse_reverse]
  rfl

end Context

/-! ## Chains that grow from a root -/

namespace Context

/-- The chain that grows from a root by frames, the outermost first. -/
def grown (rootId : String) (added : List Node) : Context :=
  added.foldl
    (fun context node => context.push node.id node.frame)
    (root rootId)

/-- Growing by one more node is pushing its frame. -/
theorem grown_concat
    (rootId : String)
    (added : List Node)
    (node : Node) :
    grown rootId (added ++ [node]) =
      (grown rootId added).push node.id node.frame := by
  rw [grown, List.foldl_concat]
  rfl

/-- A grown context has the nodes that were added, the latest first, over the root. -/
theorem nodes_grown
    (rootId : String)
    (added : List Node) :
    (grown rootId added).nodes = added.reverse ++ [⟨rootId, .root⟩] := by
  induction added using List.reverseRecOn with
  | nil =>
      rfl
  | append_singleton added node inductionHypothesis =>
      rw [grown_concat, List.reverse_append, List.append_assoc,
        ← inductionHypothesis]
      rfl

/-- Where no root frame was added, only the outermost node is the root. -/
theorem rooted_grown
    {rootId : String}
    {added : List Node}
    (noRoot : ∀ node ∈ added, node.frame.kind ≠ Frame.rootKind) :
    Archive.Rooted (grown rootId added).own (grown rootId added).outer := by
  induction added using List.reverseRecOn with
  | nil =>
      exact rfl
  | append_singleton added node inductionHypothesis =>
      rw [grown_concat]
      have isLast : node ∈ added ++ [node] :=
        List.mem_append_right added List.mem_cons_self
      refine ⟨noRoot node isLast, inductionHypothesis ?_⟩
      intro other member
      exact noRoot other (List.mem_append_left [node] member)

end Context

/-! ## Frames of this library -/

theorem FrameKind.text_ne_rootKind
    (kind : FrameKind) :
    kind.text ≠ Frame.rootKind := by
  cases kind <;> decide

namespace Frame

/--
The frame is one that this library extends contexts by.

Roots only start a context, and applications define their frames themselves.
The numbers of a version have thirty-two bits.
-/
def Lasting : Frame → Prop
  | .root => False
  | .custom _ _ => False
  | .apiVersion agreed =>
      agreed.protocol.Fits ∧
        ∀ resource, agreed.resource = some resource → resource.Fits
  | _ => True

instance (frame : Frame) : Decidable frame.Lasting :=
  match frame with
  | .root => inferInstanceAs (Decidable False)
  | .custom _ _ => inferInstanceAs (Decidable False)
  | .apiVersion agreed =>
      inferInstanceAs
        (Decidable
          (agreed.protocol.Fits ∧
            ∀ resource, agreed.resource = some resource → resource.Fits))
  | .security _ => inferInstanceAs (Decidable True)
  | .http _ => inferInstanceAs (Decidable True)
  | .advice _ => inferInstanceAs (Decidable True)
  | .locale _ => inferInstanceAs (Decidable True)
  | .internal => inferInstanceAs (Decidable True)
  | .router _ => inferInstanceAs (Decidable True)

/-- No frame of this library has a member that is named like its id. -/
theorem Lasting.get?_payload_id
    {frame : Frame}
    (lasting : frame.Lasting) :
    frame.payload.get? Archive.idKey = none := by
  cases frame with
  | root =>
      cases lasting
  | custom =>
      cases lasting
  | apiVersion agreed =>
      obtain ⟨protocolName, protocol, resource⟩ := agreed
      cases resource <;> rfl
  | security => rfl
  | http => rfl
  | advice => rfl
  | locale => rfl
  | internal => rfl
  | router => rfl

/-- A frame that lasts is not a root. -/
theorem Lasting.kind_ne_root
    {frame : Frame}
    (lasting : frame.Lasting) :
    frame.kind ≠ rootKind := by
  cases frame with
  | root =>
      cases lasting
  | custom =>
      cases lasting
  | internal =>
      show internalKind ≠ rootKind
      decide
  | security =>
      exact FrameKind.text_ne_rootKind .security
  | http =>
      exact FrameKind.text_ne_rootKind .http
  | apiVersion =>
      exact FrameKind.text_ne_rootKind .apiVersion
  | advice =>
      exact FrameKind.text_ne_rootKind .advice
  | locale =>
      exact FrameKind.text_ne_rootKind .locale
  | router =>
      exact FrameKind.text_ne_rootKind .router

end Frame

namespace Archive

/-- A version that fits the machine's numbers reads back from its display. -/
theorem readVersion?_display
    {version : Version}
    (fits : version.Fits) :
    readVersion? (.string version.display) = some version := by
  simp only [readVersion?, Json.asText?, Option.map_some,
    Version.parse_display fits]

/-- Agreed versions read back from the payload of their frame. -/
theorem readApiVersion?_payload
    {agreed : ApiVersion}
    (protocolFits : agreed.protocol.Fits)
    (resourceFits :
      ∀ resource, agreed.resource = some resource → resource.Fits) :
    readApiVersion? (Frame.apiVersion agreed).payload = some agreed := by
  obtain ⟨protocolName, protocol, resource⟩ := agreed
  have nameReads :
      required (Frame.apiVersion ⟨protocolName, protocol, resource⟩).payload
          "protocolName" Json.asText? =
        some protocolName :=
    rfl
  have protocolReads :
      required (Frame.apiVersion ⟨protocolName, protocol, resource⟩).payload
          "protocolVersion" readVersion? =
        some protocol := by
    have isMember :
        (Frame.apiVersion ⟨protocolName, protocol, resource⟩).payload.get?
            "protocolVersion" =
          some (.string protocol.display) :=
      rfl
    rw [required, isMember, Option.bind_some, readVersion?_display protocolFits]
  have resourceReads :
      optional (Frame.apiVersion ⟨protocolName, protocol, resource⟩).payload
          "resourceVersion" (readNullable readVersion?) none =
        some resource := by
    cases resource with
    | none =>
        rfl
    | some resource =>
        have isMember :
            (Frame.apiVersion
                  ⟨protocolName, protocol, some resource⟩).payload.get?
                "resourceVersion" =
              some (.string resource.display) :=
          rfl
        have reads := readVersion?_display (resourceFits resource rfl)
        simp only [optional, isMember, readNullable, Json.isNull,
          Bool.false_eq_true, if_false, reads, Option.map_some]
  rw [readApiVersion?, nameReads, protocolReads, resourceReads]
  rfl

theorem readArrival?_payload
    (arrival : Arrival) :
    readArrival? (Frame.http arrival).payload = some arrival := by
  have methodReads :
      required (Frame.http arrival).payload "method" Json.asText? =
        some arrival.method :=
    rfl
  have pathReads :
      required (Frame.http arrival).payload "path" Json.asText? =
        some arrival.path :=
    rfl
  have headersRead :
      optional (Frame.http arrival).payload "headers"
          (Json.asRecord? Json.asTexts?) [] =
        some arrival.headers :=
    Json.asRecord?_mapValues Json.asTexts?_ofTexts arrival.headers
  have parametersRead :
      optional (Frame.http arrival).payload "parameters"
          (Json.asRecord? Json.asTexts?) [] =
        some arrival.parameters :=
    Json.asRecord?_mapValues Json.asTexts?_ofTexts arrival.parameters
  rw [readArrival?, methodReads, pathReads, headersRead, parametersRead]
  rfl

theorem readHop?_payload
    (hop : Hop) :
    readHop? (Frame.router hop).payload = some hop := by
  have textReads : ∀ text, Json.asText? (.string text) = some text :=
    fun _ => rfl
  have matchedReads :
      required (Frame.router hop).payload "matchedUri" Json.asText? =
        some hop.matched :=
    rfl
  have remainingReads :
      required (Frame.router hop).payload "remainingUri" Json.asText? =
        some hop.remaining :=
    rfl
  have variablesRead :
      optional (Frame.router hop).payload "uriTemplateVariables"
          (Json.asRecord? Json.asText?) [] =
        some hop.variableValues :=
    Json.asRecord?_mapValues textReads hop.variableValues
  rw [readHop?, matchedReads, remainingReads, variablesRead]
  rfl

/-- A member that is there is neither null nor missing. -/
theorem readAdviceMember_of_reads
    {α : Type}
    {payload : Record Json}
    {key : String}
    {read? : Json → Option α}
    {missing content : α}
    {member : Json}
    (isMember : payload.get? key = some member)
    (notNull : member.isNull = false)
    (reads : read? member = some content) :
    readAdviceMember payload key read? missing = .ok content := by
  have read : readNullable read? member = some (some content) := by
    rw [readNullable, notNull, reads]
    rfl
  simp only [readAdviceMember, optional, isMember, read, Option.getD_some]

/-- Advice reads back from the payload of its frame. -/
theorem readAdvice_payload
    (advice : Advice) :
    readAdvice (Frame.advice advice).payload = .ok advice := by
  have restrictedRead :
      readAdviceMember (Frame.advice advice).payload
          "restrictedAdviceNames" Json.asTexts? [] =
        .ok advice.restricted :=
    readAdviceMember_of_reads rfl rfl (Json.asTexts?_ofTexts _)
  have valuesRead :
      readAdviceMember (Frame.advice advice).payload
          "advices" (Json.asRecord? Json.asTexts?) [] =
        .ok advice.values :=
    readAdviceMember_of_reads rfl rfl
      (Json.asRecord?_mapValues Json.asTexts?_ofTexts advice.values)
  rw [readAdvice, restrictedRead, valuesRead]
  rfl

theorem readLocales?_payload
    (locales : Locales) :
    readLocales? (Frame.locale locales).payload = some locales := by
  have preferredRead :
      required (Frame.locale locales).payload "preferredLocales"
          Json.asTexts? =
        some locales.preferred :=
    Json.asTexts?_ofTexts locales.preferred
  rw [readLocales?, preferredRead]
  rfl

end Archive

namespace KindRegistry

/-- Every frame of this library is read back from its payload. -/
theorem builtin_read
    {frame : Frame}
    (lasting : frame.Lasting) :
    builtin.read frame.kind frame.payload = .ok frame := by
  cases frame with
  | root =>
      cases lasting
  | custom =>
      cases lasting
  | internal =>
      rfl
  | security principal =>
      rfl
  | http arrival =>
      show Archive.typedFrame .http Frame.http
        (Archive.readArrival? (Frame.http arrival).payload) = _
      rw [Archive.readArrival?_payload]
      rfl
  | apiVersion agreed =>
      show Archive.typedFrame .apiVersion Frame.apiVersion
        (Archive.readApiVersion? (Frame.apiVersion agreed).payload) = _
      rw [Archive.readApiVersion?_payload lasting.1 lasting.2]
      rfl
  | advice advice =>
      show (Archive.readAdvice (Frame.advice advice).payload).map _ = _
      rw [Archive.readAdvice_payload]
      rfl
  | locale locales =>
      show Archive.typedFrame .locale Frame.locale
        (Archive.readLocales? (Frame.locale locales).payload) = _
      rw [Archive.readLocales?_payload]
      rfl
  | router hop =>
      show Archive.typedFrame .router Frame.router
        (Archive.readHop? (Frame.router hop).payload) = _
      rw [Archive.readHop?_payload]
      rfl

end KindRegistry

namespace Context

/--
Every chain that grew from a root by frames of this library is restored from
what was saved of it: the same frames under the same ids in the same order,
each with its whole payload. Saving the restored chain gives the same JSON.
-/
theorem restores_exactly
    (rootId : String)
    (added : List Node)
    (lasting : ∀ node ∈ added, node.frame.Lasting) :
    ∃ restored,
      restore .builtin (grown rootId added).save = .ok restored ∧
        restored.nodes = (grown rootId added).nodes ∧
        restored.save = (grown rootId added).save := by
  have rooted :
      Archive.Rooted (grown rootId added).own (grown rootId added).outer :=
    rooted_grown fun node member => (lasting node member).kind_ne_root
  have comesBack :
      restore .builtin (grown rootId added).save =
        .ok ((grown rootId added).mapFrames id) := by
    apply restore_save rooted
    intro node member
    rw [nodes_grown, List.mem_append, List.mem_reverse,
      List.mem_singleton] at member
    apply Archive.readLayer_layerOf
    rcases member with isAdded | isRoot
    · rw [Record.erase_insert_of_absent _
        (lasting node isAdded).get?_payload_id]
      exact KindRegistry.builtin_read (lasting node isAdded)
    · rw [isRoot]
      rfl
  rw [mapFrames_id] at comesBack
  exact ⟨_, comesBack, rfl, rfl⟩

/-- A frame of each kind, with members that are named like those of a save. -/
def ofEveryKind : List Node :=
  [⟨"1", .http ⟨"GET", "/users/%2F", [("accept", ["a", "", "a"])], []⟩⟩,
    ⟨"2", .locale ⟨["fr-CA", "*"]⟩⟩,
    ⟨"3", .apiVersion ⟨"crest", ⟨4294967295, 0⟩, some ⟨0, 10⟩⟩⟩,
    ⟨"4", .apiVersion ⟨"", ⟨2, 1⟩, none⟩⟩,
    ⟨"5", .advice ⟨["ETag"], [("Warning", ["b", "a", "b"])]⟩⟩,
    ⟨"6", .security
      ⟨"bjensen", [("id", .null), ("kind", .array [.string "root"])]⟩⟩,
    ⟨"1", .internal⟩,
    ⟨"", .router ⟨"users/%2F", "", [("id", "/")]⟩⟩]

theorem restores_exactly_every_kind :
    (∀ node ∈ ofEveryKind, node.frame.Lasting) ∧
      ∃ restored,
        restore .builtin (grown "0" ofEveryKind).save = .ok restored ∧
          restored.nodes = (grown "0" ofEveryKind).nodes ∧
          restored.save = (grown "0" ofEveryKind).save :=
  ⟨by decide, restores_exactly "0" ofEveryKind (by decide)⟩

end Context

end ResourceServer
