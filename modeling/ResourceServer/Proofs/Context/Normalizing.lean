import ResourceServer.Json.Printer
import ResourceServer.Proofs.Context.CustomFrames
import ResourceServer.Proofs.Json.WellFormed

namespace ResourceServer

/-!
# Saved contexts from elsewhere

What is restored need not have been saved by this library: members that no
frame has are dropped, members that may be missing are filled in, and versions
are read in every spelling. But what comes out is a chain that this library
could have grown and saved, so saving and restoring it again changes nothing.
Whatever cannot be restored is refused with one kind of failure.
-/

namespace Archive

/-! ## Failures -/

/-- Either this does not fail, or as a context that cannot be restored. -/
inductive FailsAsRestore {α : Type} : Except Failure α → Prop where
  | ok
      (value : α) :
      FailsAsRestore (.ok value)
  | error
      (reason : String) :
      FailsAsRestore (.error (.contextRestore reason))

namespace FailsAsRestore

variable
  {α β : Type}
  {outcome : Except Failure α}

theorem bind
    {next : α → Except Failure β}
    (first : FailsAsRestore outcome)
    (second : ∀ value, FailsAsRestore (next value)) :
    FailsAsRestore (outcome >>= next) := by
  cases first with
  | ok value =>
      exact second value
  | error reason =>
      exact .error reason

theorem map
    (transform : α → β)
    (fails : FailsAsRestore outcome) :
    FailsAsRestore (outcome.map transform) := by
  cases fails with
  | ok value =>
      exact .ok (transform value)
  | error reason =>
      exact .error reason

theorem mapM
    {read : α → Except Failure β}
    (each : ∀ value, FailsAsRestore (read value))
    (values : List α) :
    FailsAsRestore (values.mapM read) := by
  induction values with
  | nil =>
      exact .ok []
  | cons first rest inductionHypothesis =>
      rw [List.mapM_cons]
      apply (each first).bind
      intro image
      apply inductionHypothesis.bind
      intro images
      exact .ok (image :: images)

end FailsAsRestore

/-! ## Layers of any value -/

/-- What becomes of a value that is taken apart into layers. -/
inductive Layered : Json → Except Failure (List Layer) → Prop where
  | refused
      (saved : Json)
      (reason : String) :
      Layered saved (.error (.contextRestore reason))
  | root
      {members payload : Record Json}
      (hasPayload : members.get? "payload" = some (.object payload)) :
      Layered (.object members) (.ok [⟨Frame.rootKind, payload⟩])
  | onward
      {members payload : Record Json}
      {kind : String}
      {parent : Json}
      {outcome : Except Failure (List Layer)}
      (hasPayload : members.get? "payload" = some (.object payload))
      (hasParent : members.get? "parent" = some parent)
      (notRoot : kind ≠ Frame.rootKind)
      (parentLayered : Layered parent outcome) :
      Layered (.object members) (outcome.map (⟨kind, payload⟩ :: ·))

/-- A member that reads as an object is stored as that object. -/
theorem get?_of_asMembers?
    {members payload : Record Json}
    {key : String}
    (found : (members.get? key).bind Json.asMembers? = some payload) :
    members.get? key = some (.object payload) := by
  obtain ⟨value, isMember, isObject⟩ := Option.bind_eq_some_iff.mp found
  cases value with
  | object =>
      cases isObject
      exact isMember
  | null => cases isObject
  | bool => cases isObject
  | number => cases isObject
  | string => cases isObject
  | array => cases isObject

/-- What `layers` gives is what the saved JSON is layered into. -/
theorem layered_layers
    (saved : Json) :
    Layered saved (layers saved) := by
  fun_induction layers saved with
  | case1 members =>
      exact .refused _ _
  | case2 members kind hasKind =>
      exact .refused _ _
  | case3 members payload hasPayload =>
      exact .root (get?_of_asMembers? hasPayload)
  | case4 members kind hasKind payload hasPayload =>
      exact .refused _ _
  | case5 members kind hasKind payload hasPayload parent hasParent isRoot =>
      obtain ⟨rfl, -⟩ := isRoot
      exact .root (get?_of_asMembers? hasPayload)
  | case6 members kind hasKind payload hasPayload =>
      exact .refused _ _
  | case7 members kind hasKind payload hasPayload parent hasParent notBoth
      notEither smaller inductionHypothesis =>
      exact
        .onward (get?_of_asMembers? hasPayload) hasParent
          (fun isRoot => notEither (.inl isRoot)) inductionHypothesis
  | case8 =>
      exact .refused _ _

namespace Layered

variable
  {saved : Json}
  {outcome : Except Failure (List Layer)}

/-- A saved value that cannot be taken apart is a failure to restore. -/
theorem failsAsRestore
    (layered : Layered saved outcome) :
    FailsAsRestore outcome := by
  induction layered with
  | refused saved reason =>
      exact .error reason
  | root =>
      exact .ok _
  | onward hasPayload hasParent notRoot parentLayered inductionHypothesis =>
      exact inductionHypothesis.map _

/-- The last layer is the only one of the kind of roots. -/
theorem shape
    (layered : Layered saved outcome)
    (wellFormed : saved.WellFormed)
    {found : List Layer}
    (isFound : outcome = .ok found) :
    ∃ front payload,
      found = front ++ [⟨Frame.rootKind, payload⟩] ∧
        ∀ layer ∈ front,
          layer.kind ≠ Frame.rootKind ∧ Record.Sorted layer.payload := by
  induction layered generalizing found with
  | refused =>
      cases isFound
  | @root members payload =>
      cases isFound
      exact ⟨[], payload, rfl, List.forall_mem_nil _⟩
  | @onward members payload kind parent outcome hasPayload hasParent notRoot
      parentLayered inductionHypothesis =>
      cases outcome with
      | error =>
          cases isFound
      | ok others =>
          cases isFound
          obtain ⟨front, rootPayload, isFront, each⟩ :=
            inductionHypothesis (wellFormed.member hasParent) rfl
          refine
            ⟨⟨kind, payload⟩ :: front, rootPayload, by rw [isFront]; rfl, ?_⟩
          have isSorted : Record.Sorted payload :=
            (wellFormed.member hasPayload).sorted
          exact List.forall_mem_cons.mpr ⟨⟨notRoot, isSorted⟩, each⟩

end Layered

/-! ## Frames that are read -/

/-- A built-in frame is restored exactly when its content can be read. -/
theorem typedFrame_eq_ok_iff
    {α : Type}
    {kind : FrameKind}
    {frame : α → Frame}
    {content? : Option α}
    {result : Frame} :
    typedFrame kind frame content? = .ok result ↔
      ∃ content, content? = some content ∧ frame content = result := by
  cases content? with
  | none =>
      simp only [typedFrame, reduceCtorEq, false_and, exists_false]
  | some content =>
      simp only [typedFrame, Except.ok.injEq, Option.some.injEq,
        exists_eq_left']

theorem failsAsRestore_typedFrame
    {α : Type}
    (kind : FrameKind)
    (frame : α → Frame)
    (content? : Option α) :
    FailsAsRestore (typedFrame kind frame content?) := by
  cases content? with
  | none =>
      exact .error _
  | some content =>
      exact .ok _

theorem failsAsRestore_readAdviceMember
    {α : Type}
    (payload : Record Json)
    (key : String)
    (read? : Json → Option α)
    (missing : α) :
    FailsAsRestore (readAdviceMember payload key read? missing) := by
  unfold readAdviceMember
  split
  · exact .ok _
  · exact .error _

theorem failsAsRestore_readAdvice
    (payload : Record Json) :
    FailsAsRestore (readAdvice payload) := by
  apply (failsAsRestore_readAdviceMember ..).bind
  intro restricted
  apply (failsAsRestore_readAdviceMember ..).bind
  intro values
  exact .ok _

/-- Whatever reader a kind has, it fails only as a failure to restore. -/
theorem Reader.failsAsRestore
    (reader : Reader)
    (kind : String)
    (payload : Record Json) :
    FailsAsRestore (reader.read kind payload) := by
  cases reader with
  | root => exact .ok _
  | internal => exact .ok _
  | custom => exact .ok _
  | typed frameKind =>
      cases frameKind with
      | security => exact failsAsRestore_typedFrame ..
      | http => exact failsAsRestore_typedFrame ..
      | apiVersion => exact failsAsRestore_typedFrame ..
      | advice => exact (failsAsRestore_readAdvice payload).map _
      | locale => exact failsAsRestore_typedFrame ..
      | router => exact failsAsRestore_typedFrame ..

theorem failsAsRestore_readLayer
    (registry : KindRegistry)
    (layer : Layer) :
    FailsAsRestore (readLayer registry layer) := by
  unfold readLayer
  split
  · exact .error _
  · apply FailsAsRestore.map
    unfold KindRegistry.read
    split
    · exact Reader.failsAsRestore ..
    · exact .error _

/-- A version read from JSON fits the machine's numbers. -/
theorem fits_of_readVersion?
    {value : Json}
    {version : Version}
    (reads : readVersion? value = some version) :
    version.Fits := by
  unfold readVersion? at reads
  split at reads
  · rename_i isParsed
    cases reads
    obtain ⟨text, -, parses⟩ := Option.map_eq_some_iff.mp isParsed
    exact Version.fits_of_parse parses
  · cases reads

theorem fits_of_optional
    {payload : Record Json}
    {key : String}
    {version : Version}
    (reads :
      optional payload key (readNullable readVersion?) none =
        some (some version)) :
    version.Fits := by
  unfold optional at reads
  split at reads
  · cases reads
  · unfold readNullable at reads
    split at reads
    · cases reads
    · obtain ⟨value, valueReads, isValue⟩ := Option.map_eq_some_iff.mp reads
      cases isValue
      exact fits_of_readVersion? valueReads

/-- However versions are spelled, those that are read fit. -/
theorem lasting_of_readApiVersion?
    {payload : Record Json}
    {agreed : ApiVersion}
    (reads : readApiVersion? payload = some agreed) :
    (Frame.apiVersion agreed).Lasting := by
  obtain ⟨protocolName, -, reads⟩ := Option.bind_eq_some_iff.mp reads
  obtain ⟨protocol, protocolReads, reads⟩ := Option.bind_eq_some_iff.mp reads
  obtain ⟨resource, resourceReads, reads⟩ := Option.bind_eq_some_iff.mp reads
  cases reads
  obtain ⟨value, -, valueReads⟩ := Option.bind_eq_some_iff.mp protocolReads
  refine ⟨fits_of_readVersion? valueReads, ?_⟩
  rintro version rfl
  exact fits_of_optional resourceReads

/-- A frame that was read from a built-in kind is one that lasts. -/
theorem Reader.lasting_of_typed
    {frameKind : FrameKind}
    {kind : String}
    {payload : Record Json}
    {frame : Frame}
    (reads : (Reader.typed frameKind).read kind payload = .ok frame) :
    frame.Lasting := by
  cases frameKind with
  | security =>
      obtain ⟨_, -, rfl⟩ := typedFrame_eq_ok_iff.mp reads
      trivial
  | http =>
      obtain ⟨_, -, rfl⟩ := typedFrame_eq_ok_iff.mp reads
      trivial
  | apiVersion =>
      obtain ⟨_, agreedReads, rfl⟩ := typedFrame_eq_ok_iff.mp reads
      exact lasting_of_readApiVersion? agreedReads
  | advice =>
      obtain ⟨_, -, rfl⟩ := Name.map_eq_ok_iff.mp reads
      trivial
  | locale =>
      obtain ⟨_, -, rfl⟩ := typedFrame_eq_ok_iff.mp reads
      trivial
  | router =>
      obtain ⟨_, -, rfl⟩ := typedFrame_eq_ok_iff.mp reads
      trivial

end Archive

namespace KindRegistry

/-- A reader of this library reads frames of the kind that it stands for. -/
theorem reader_of_builtin
    {kind : String}
    {reader : Archive.Reader}
    (found : builtin.readers.get? kind = some reader) :
    (reader = .root ∧ kind = Frame.rootKind) ∨
      reader = .internal ∨
        ∃ frameKind, reader = .typed frameKind := by
  rcases List.mem_cons.mp (Record.mem_of_get?_ofList found) with
    isRoot | others
  · cases isRoot
    exact .inl ⟨rfl, rfl⟩
  · rcases List.mem_cons.mp others with isInternal | isTyped
    · cases isInternal
      exact .inr (.inl rfl)
    · obtain ⟨frameKind, -, isReader⟩ := List.mem_map.mp isTyped
      cases isReader
      exact .inr (.inr ⟨frameKind, rfl⟩)

variable
  {kinds : List String}
  {payload : Record Json}
  {frame : Frame}

/-- The kind of the root reads as the root frame, whatever kinds are registered
besides. -/
theorem root_of_read
    (areNew : ∀ kind ∈ kinds, builtin.knows kind = false)
    (reads :
      (builtin.registerAll kinds).read Frame.rootKind payload = .ok frame) :
    frame = .root := by
  rw [read_registerAll areNew rfl] at reads
  cases (reads : Except.ok Frame.root = .ok frame)
  rfl

/-- What is read is a frame that can be stored, and nothing of it is lost. -/
theorem storable_of_read
    {kind : String}
    (notRoot : kind ≠ Frame.rootKind)
    (sorted : Record.Sorted payload)
    (reads :
      (builtin.registerAll kinds).read kind (payload.erase Archive.idKey) =
        .ok frame) :
    frame.Storable kinds ∧ frame.kept = frame := by
  by_cases isRegistered : kind ∈ kinds
  · rw [read_custom isRegistered] at reads
    cases reads
    have isKept :=
      Frame.keptPayload_eq_self_iff.mpr
        ⟨_, rfl, sorted.get?_erase_self Archive.idKey⟩
    exact
      ⟨.ofApplication isRegistered (sorted.erase Archive.idKey),
        congrArg (Frame.custom kind) isKept⟩
  · have lasting : frame.Lasting := by
      rw [read, get?_registerAll, if_neg isRegistered] at reads
      split at reads
      · rename_i reader found
        rcases reader_of_builtin found with ⟨-, isRoot⟩ | rfl | ⟨frameKind, rfl⟩
        · exact absurd isRoot notRoot
        · cases reads
          trivial
        · exact Archive.Reader.lasting_of_typed reads
      · cases reads
    exact ⟨.ofLibrary lasting, Frame.kept_of_lasting lasting⟩

end KindRegistry

namespace Archive

/-- A layer's frame is read from its payload without the id. -/
theorem read_of_readLayer
    {registry : KindRegistry}
    {layer : Layer}
    {node : Node}
    (reads : readLayer registry layer = .ok node) :
    registry.read layer.kind (layer.payload.erase idKey) = .ok node.frame := by
  unfold readLayer at reads
  split at reads
  · cases reads
  · obtain ⟨frame, frameReads, rfl⟩ := Name.map_eq_ok_iff.mp reads
    exact frameReads

end Archive

namespace Context

/-- A context is known by its nodes. -/
theorem ext_nodes
    {left right : Context}
    (sameNodes : left.nodes = right.nodes) :
    left = right := by
  cases left
  cases right
  cases sameNodes
  rfl

/-- Restoring fails in no other way than as a failure to restore. -/
theorem failsAsRestore_restore
    (registry : KindRegistry)
    (saved : Json) :
    Archive.FailsAsRestore (restore registry saved) := by
  apply (Archive.layered_layers saved).failsAsRestore.bind
  intro layers
  apply (Archive.FailsAsRestore.mapM
    (Archive.failsAsRestore_readLayer registry) layers.reverse).bind
  intro nodes
  split
  · exact .ok _
  · exact .error _

/-- The frames of a restored chain are read from the layers, the root first. -/
theorem exists_layers_of_restore
    {registry : KindRegistry}
    {saved : Json}
    {context : Context}
    (restores : restore registry saved = .ok context) :
    ∃ layers nodes,
      Archive.layers saved = .ok layers ∧
        List.Forall₂
          (fun layer node => Archive.readLayer registry layer = .ok node)
          layers.reverse nodes ∧
        context.nodes = nodes.reverse := by
  unfold restore at restores
  cases isLayered : Archive.layers saved with
  | error failure =>
      rw [isLayered] at restores
      cases restores
  | ok layers =>
      rw [isLayered] at restores
      simp only [bind, Except.bind] at restores
      split at restores
      · cases restores
      · rename_i nodes areRead
        split at restores
        · rename_i own outer isReverse
          cases restores
          exact
            ⟨layers, nodes, rfl, Name.mapM_eq_ok_iff.mp areRead, isReverse.symm⟩
        · cases restores

/-- A change that leaves each frame as it is leaves the context as it is. -/
theorem mapFrames_eq_self
    {change : Frame → Frame}
    {context : Context}
    (unchanged : ∀ node ∈ context.nodes, change node.frame = node.frame) :
    context.mapFrames change = context := by
  apply ext_nodes
  rw [nodes_mapFrames]
  calc
    context.nodes.map (fun node => { node with frame := change node.frame }) =
        context.nodes.map id := by
      apply List.map_congr_left
      intro node member
      rw [unchanged node member]
      rfl
    _ = context.nodes := List.map_id _

variable
  {kinds : List String}
  {saved : Json}
  {context : Context}

/-- The frames read from layers can be stored again, as they are. -/
theorem storable_of_layers
    {layers : List Archive.Layer}
    {nodes : List Node}
    (each :
      ∀ layer ∈ layers,
        layer.kind ≠ Frame.rootKind ∧ Record.Sorted layer.payload)
    (areRead :
      List.Forall₂
        (fun layer node =>
          Archive.readLayer (KindRegistry.builtin.registerAll kinds) layer =
            .ok node)
        layers nodes) :
    ∀ node ∈ nodes,
      node.frame.Storable kinds ∧ node.frame.kept = node.frame := by
  induction areRead with
  | nil =>
      exact List.forall_mem_nil _
  | @cons layer node layers nodes reads _ inductionHypothesis =>
      obtain ⟨⟨notRoot, sorted⟩, others⟩ := List.forall_mem_cons.mp each
      have storable :=
        KindRegistry.storable_of_read notRoot sorted
          (Archive.read_of_readLayer reads)
      exact List.forall_mem_cons.mpr ⟨storable, inductionHypothesis others⟩

/-- Whatever is restored could have grown from a root. -/
theorem grown_of_restore
    (areNew : ∀ kind ∈ kinds, KindRegistry.builtin.knows kind = false)
    (wellFormed : saved.WellFormed)
    (restores :
      restore (KindRegistry.builtin.registerAll kinds) saved = .ok context) :
    ∃ rootId added,
      context = grown rootId added ∧
        ∀ node ∈ added,
          node.frame.Storable kinds ∧ node.frame.kept = node.frame := by
  obtain ⟨layers, nodes, isLayered, areRead, isReverse⟩ :=
    exists_layers_of_restore restores
  obtain ⟨front, payload, rfl, each⟩ :=
    (Archive.layered_layers saved).shape wellFormed isLayered
  rw [List.reverse_concat, List.forall₂_cons_left_iff] at areRead
  obtain ⟨⟨rootId, frame⟩, added, rootRead, othersRead, rfl⟩ := areRead
  obtain rfl : frame = .root :=
    KindRegistry.root_of_read areNew (Archive.read_of_readLayer rootRead)
  refine ⟨rootId, added, ext_nodes ?_, storable_of_layers ?_ othersRead⟩
  · rw [isReverse, nodes_grown, List.reverse_cons]
  · intro layer member
    exact each layer (List.mem_reverse.mp member)

/--
A context that is restored from any value, with any kinds of applications, has
one root, at its far end. Saved and restored once more, it is the same frames
under the same ids, so it is saved as the same JSON. All other values are
refused as saved contexts that cannot be rebuilt.

Values are well-formed, as `Json.wellFormed_of_read?` tells of those in texts.
-/
theorem restore_normalizes
    (kinds : List String)
    (areNew : ∀ kind ∈ kinds, KindRegistry.builtin.knows kind = false)
    (saved : Json)
    (wellFormed : saved.WellFormed) :
    (∀ context,
        restore (KindRegistry.builtin.registerAll kinds) saved = .ok context →
          (∃ front rootId,
            context.nodes = front ++ [⟨rootId, .root⟩] ∧
              ∀ node ∈ front, node.frame.kind ≠ Frame.rootKind) ∧
          ∃ again,
            restore (KindRegistry.builtin.registerAll kinds) context.save =
              .ok again ∧
              again.nodes = context.nodes ∧
              again.save = context.save) ∧
      ∀ failure,
        restore (KindRegistry.builtin.registerAll kinds) saved =
            .error failure →
          ∃ reason, failure = .contextRestore reason := by
  constructor
  · intro context restores
    obtain ⟨rootId, added, rfl, each⟩ :=
      grown_of_restore areNew wellFormed restores
    refine ⟨⟨added.reverse, rootId, nodes_grown rootId added, ?_⟩, ?_⟩
    · intro node member
      have storable := (each node (List.mem_reverse.mp member)).1
      exact kind_ne_root_of_storable areNew storable
    · have storable : ∀ node ∈ added, node.frame.Storable kinds :=
        fun node member => (each node member).1
      have comesBack :
          restore (KindRegistry.builtin.registerAll kinds)
              (grown rootId added).save =
            .ok ((grown rootId added).mapFrames Frame.kept) :=
        restore_of_storable areNew storable
      have unchanged :
          (grown rootId added).mapFrames Frame.kept = grown rootId added := by
        apply mapFrames_eq_self
        intro node member
        rw [nodes_grown, List.mem_append, List.mem_reverse,
          List.mem_singleton] at member
        rcases member with isAdded | rfl
        · exact (each node isAdded).2
        · rfl
      rw [unchanged] at comesBack
      exact ⟨_, comesBack, rfl, rfl⟩
  · intro failure refuses
    have fails :=
      failsAsRestore_restore (KindRegistry.builtin.registerAll kinds) saved
    rw [refuses] at fails
    cases fails with
    | error reason =>
        exact ⟨reason, rfl⟩

/-- A root that somebody wrote down with a null for its parent. -/
def writtenRoot : Json :=
  .object
    [("kind", .string "root"), ("parent", .null),
      ("payload", .object [("id", .string "0")])]

/-- A frame of an application on that root. -/
def writtenTenant : Json :=
  .object
    [("kind", .string "tenant"), ("parent", writtenRoot),
      ("payload", .object [("id", .string "1"), ("realm", .string "eu")])]

/-- A frame on that one, with a member nobody knows and an odd version. -/
def written : Json :=
  .object
    [("kind", .string "apiVersion"), ("parent", writtenTenant),
      ("payload",
        .object
          [("extra", .bool true), ("id", .string "2"),
            ("protocolName", .string "crest"),
            ("protocolVersion", .string " +2 "), ("resourceVersion", .null)])]

/-- What is restored from it. -/
def normalized : Context :=
  grown "0"
    [⟨"1", .custom "tenant" (.object [("realm", .string "eu")])⟩,
      ⟨"2", .apiVersion ⟨"crest", ⟨2, 0⟩, none⟩⟩]

/-- As a text it reads back, so it is a value that a text stands for. -/
theorem wellFormed_written :
    written.WellFormed := by
  have reads : Json.read? written.compact = some written := by
    decide +kernel
  exact Json.wellFormed_of_read? reads

theorem restore_written :
    restore (KindRegistry.builtin.registerAll ["tenant"]) written =
      .ok normalized := by
  have areLayers :
      Archive.layers written =
        .ok
          [⟨"apiVersion",
              [("extra", .bool true), ("id", .string "2"),
                ("protocolName", .string "crest"),
                ("protocolVersion", .string " +2 "),
                ("resourceVersion", .null)]⟩,
            ⟨"tenant", [("id", .string "1"), ("realm", .string "eu")]⟩,
            ⟨"root", [("id", .string "0")]⟩] := by
    rw [written, Archive.layers_of_parent rfl rfl rfl rfl (by decide),
      writtenTenant, Archive.layers_of_parent rfl rfl rfl rfl (by decide),
      writtenRoot, Archive.layers]
    rfl
  rw [restore, areLayers]
  decide +kernel

theorem written_is_normalized :
    restore (KindRegistry.builtin.registerAll ["tenant"]) written =
        .ok normalized ∧
      ∃ again,
        restore (KindRegistry.builtin.registerAll ["tenant"]) normalized.save =
            .ok again ∧
          again.nodes = normalized.nodes ∧
          again.save = normalized.save := by
  have normalizes :=
    restore_normalizes ["tenant"] (by decide) written wellFormed_written
  exact ⟨restore_written, (normalizes.1 normalized restore_written).2⟩

end Context

end ResourceServer
