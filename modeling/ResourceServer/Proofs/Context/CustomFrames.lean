import ResourceServer.Proofs.Context.Restoration

namespace ResourceServer

/-!
# Frames of applications, saved and restored

The payload of an application's frame may be any JSON value, but in a saved
chain it shares an object with the id of its frame: what is no object becomes a
member of one, and a member that is named like the id gives way to it. Neither
is undone when the chain is restored. So the kind and the id of such a frame
always come back, and its payload comes back as it was exactly if it is an
object without a member of that name.
-/

namespace Record

/-- Erasing a key changes a record that has it. -/
theorem erase_eq_self_iff
    {α : Type u}
    {record : Record α}
    {key : String} :
    record.erase key = record ↔ record.get? key = none := by
  constructor
  · intro unchanged
    induction record with
    | nil =>
        rfl
    | cons pair rest inductionHypothesis =>
        obtain ⟨first, old⟩ := pair
        rw [erase] at unchanged
        rw [get?]
        split at unchanged
        · have shorter := congrArg List.length unchanged
          rw [List.length_cons] at shorter
          omega
        · rename_i different
          rw [if_neg different]
          exact inductionHypothesis (List.cons.inj unchanged).2
  · exact erase_eq_self

end Record

namespace Frame

/-- What is left of a payload once it was saved and restored. -/
def keptPayload (payload : Json) : Json :=
  .object ((customPayload payload).erase Archive.idKey)

/-- The frame that a saved frame is restored to. -/
def kept : Frame → Frame
  | .custom kind payload => .custom kind (keptPayload payload)
  | frame => frame

/-- The members of a payload that is an object ascend. -/
def Ordered : Json → Prop
  | .object members => Record.Sorted members
  | _ => True

/--
The frame is one of this library, or of an application's kind among `kinds`.
-/
inductive Storable (kinds : List String) : Frame → Prop where
  | ofLibrary
      {frame : Frame}
      (lasting : frame.Lasting) :
      Storable kinds frame
  | ofApplication
      {kind : String}
      {payload : Json}
      (isRegistered : kind ∈ kinds)
      (ordered : Ordered payload) :
      Storable kinds (.custom kind payload)

theorem sorted_customPayload
    {payload : Json}
    (ordered : Ordered payload) :
    Record.Sorted (customPayload payload) := by
  cases payload with
  | object members =>
      exact ordered
  | null => exact List.pairwise_singleton _ _
  | bool => exact List.pairwise_singleton _ _
  | number => exact List.pairwise_singleton _ _
  | string => exact List.pairwise_singleton _ _
  | array => exact List.pairwise_singleton _ _

/-- Only an object without a member named like the id is kept as it is. -/
theorem keptPayload_eq_self_iff
    {payload : Json} :
    keptPayload payload = payload ↔
      ∃ members,
        payload = .object members ∧
          Record.get? members Archive.idKey = none := by
  constructor
  · intro unchanged
    cases payload with
    | object members =>
        exact
          ⟨members, rfl,
            Record.erase_eq_self_iff.mp (Json.object.inj unchanged)⟩
    | null => cases unchanged
    | bool => cases unchanged
    | number => cases unchanged
    | string => cases unchanged
    | array => cases unchanged
  · rintro ⟨members, rfl, absent⟩
    exact congrArg Json.object (Record.erase_eq_self absent)

/-- A frame of this library that lasts is kept as it is. -/
theorem kept_of_lasting
    {frame : Frame}
    (lasting : frame.Lasting) :
    frame.kept = frame := by
  cases frame with
  | custom =>
      cases lasting
  | root => rfl
  | security => rfl
  | http => rfl
  | apiVersion => rfl
  | advice => rfl
  | locale => rfl
  | internal => rfl
  | router => rfl

end Frame

namespace KindRegistry

/-- The registry with more kinds of an application, one after the other. -/
def registerAll (registry : KindRegistry) (kinds : List String) : KindRegistry :=
  kinds.foldl register registry

/-- A registered kind is one of an application; all others are as before. -/
theorem get?_registerAll
    (registry : KindRegistry)
    (kinds : List String)
    (kind : String) :
    (registry.registerAll kinds).readers.get? kind =
      if kind ∈ kinds then some .custom else registry.readers.get? kind := by
  induction kinds generalizing registry with
  | nil =>
      simp only [registerAll, List.foldl_nil, List.not_mem_nil, if_false]
  | cons first rest inductionHypothesis =>
      have atFirst := inductionHypothesis (registry.register first)
      rw [registerAll, List.foldl_cons]
      rw [registerAll] at atFirst
      rw [atFirst]
      by_cases inRest : kind ∈ rest
      · rw [if_pos inRest, if_pos (List.mem_cons_of_mem first inRest)]
      · rw [if_neg inRest, register]
        by_cases isFirst : kind = first
        · rw [isFirst, if_pos List.mem_cons_self, Record.get?_insert_self]
        · rw [if_neg (by simp only [List.mem_cons, isFirst, inRest,
            or_self, not_false_eq_true])]
          exact Record.get?_insert_of_ne _ _ fun same => isFirst same.symm

variable {kinds : List String}

/-- Further kinds do not touch those of this library. -/
theorem read_registerAll
    (areNew : ∀ kind ∈ kinds, builtin.knows kind = false)
    {kind : String}
    (isKnown : builtin.knows kind = true)
    (payload : Record Json) :
    (builtin.registerAll kinds).read kind payload =
      builtin.read kind payload := by
  have notRegistered : kind ∉ kinds := by
    intro isRegistered
    rw [areNew kind isRegistered] at isKnown
    cases isKnown
  rw [read, get?_registerAll, if_neg notRegistered, read]

/-- A registered kind keeps its payload as it stands. -/
theorem read_custom
    {kind : String}
    (isRegistered : kind ∈ kinds)
    (payload : Record Json) :
    (builtin.registerAll kinds).read kind payload =
      .ok (.custom kind (.object payload)) := by
  rw [read, get?_registerAll, if_pos isRegistered]
  rfl

end KindRegistry

namespace Frame

theorem Lasting.isKnown
    {frame : Frame}
    (lasting : frame.Lasting) :
    KindRegistry.builtin.knows frame.kind = true := by
  cases frame with
  | root =>
      cases lasting
  | custom =>
      cases lasting
  | security => rfl
  | http => rfl
  | apiVersion => rfl
  | advice => rfl
  | locale => rfl
  | internal => rfl
  | router => rfl

end Frame

namespace Context

variable {kinds : List String}

/-- Each frame of an application comes back under its id, with what is kept. -/
theorem readLayer_of_storable
    (areNew : ∀ kind ∈ kinds, KindRegistry.builtin.knows kind = false)
    {node : Node}
    (storable : node.frame.Storable kinds) :
    Archive.readLayer (KindRegistry.builtin.registerAll kinds)
        (Archive.layerOf node) =
      .ok { node with frame := node.frame.kept } := by
  obtain ⟨id, frame⟩ := node
  apply Archive.readLayer_layerOf
  cases storable with
  | ofLibrary lasting =>
      rw [Record.erase_insert_of_absent _ lasting.get?_payload_id,
        KindRegistry.read_registerAll areNew lasting.isKnown,
        KindRegistry.builtin_read lasting]
      exact congrArg Except.ok (Frame.kept_of_lasting lasting).symm
  | @ofApplication kind payload isRegistered ordered =>
      have sorted := Frame.sorted_customPayload ordered
      show KindRegistry.read _ kind
          (((Frame.customPayload payload).insert Archive.idKey _).erase
            Archive.idKey) =
        _
      rw [sorted.erase_insert, KindRegistry.read_custom isRegistered]
      rfl

/-- No frame that can be stored is of the root's kind. -/
theorem kind_ne_root_of_storable
    (areNew : ∀ kind ∈ kinds, KindRegistry.builtin.knows kind = false)
    {frame : Frame}
    (storable : frame.Storable kinds) :
    frame.kind ≠ Frame.rootKind := by
  cases storable with
  | ofLibrary lasting =>
      exact lasting.kind_ne_root
  | @ofApplication kind payload isRegistered ordered =>
      rintro (rfl : kind = Frame.rootKind)
      cases (areNew Frame.rootKind isRegistered : true = false)

/-- A chain of frames that can be stored comes back with what is kept of them. -/
theorem restore_of_storable
    (areNew : ∀ kind ∈ kinds, KindRegistry.builtin.knows kind = false)
    {rootId : String}
    {added : List Node}
    (storable : ∀ node ∈ added, node.frame.Storable kinds) :
    restore (KindRegistry.builtin.registerAll kinds)
        (grown rootId added).save =
      .ok ((grown rootId added).mapFrames Frame.kept) := by
  have rooted :
      Archive.Rooted (grown rootId added).own (grown rootId added).outer :=
    rooted_grown fun node member =>
      kind_ne_root_of_storable areNew (storable node member)
  apply restore_save rooted
  intro node member
  rw [nodes_grown, List.mem_append, List.mem_reverse,
    List.mem_singleton] at member
  rcases member with isAdded | rfl
  · exact readLayer_of_storable areNew (storable node isAdded)
  · apply Archive.readLayer_layerOf
    rw [KindRegistry.read_registerAll areNew rfl]
    rfl

/--
Every chain of frames of this library and of registered kinds of an
application is restored, and every frame keeps its place, its id and its kind.
The payload of an application's frame comes back as an object that lacks the
member named like the id; that is the same payload exactly if it was an object
without such a member.
-/
theorem custom_payloads_kept
    (kinds : List String)
    (areNew : ∀ kind ∈ kinds, KindRegistry.builtin.knows kind = false)
    (rootId : String)
    (added : List Node)
    (storable : ∀ node ∈ added, node.frame.Storable kinds) :
    ∃ restored,
      restore (KindRegistry.builtin.registerAll kinds)
          (grown rootId added).save =
        .ok restored ∧
        restored.nodes.map Node.id = (grown rootId added).nodes.map Node.id ∧
        restored.kinds = (grown rootId added).kinds ∧
        ∀ (place : Nat) (id kind : String) (payload : Json),
          (grown rootId added).nodes[place]? =
              some ⟨id, .custom kind payload⟩ →
            ∃ kept,
              restored.nodes[place]? = some ⟨id, .custom kind kept⟩ ∧
                kept = .object ((Frame.customPayload payload).erase "id") ∧
                (kept = payload ↔
                  ∃ members,
                    payload = .object members ∧
                      Record.get? members "id" = none) := by
  refine ⟨_, restore_of_storable areNew storable, ?_, ?_, ?_⟩
  · rw [nodes_mapFrames, List.map_map]
    rfl
  · rw [Context.kinds, Context.kinds, nodes_mapFrames, List.map_map]
    apply List.map_congr_left
    rintro ⟨id, frame⟩ -
    cases frame <;> rfl
  · intro place id kind payload isAt
    refine
      ⟨Frame.keptPayload payload, ?_, rfl, Frame.keptPayload_eq_self_iff⟩
    rw [nodes_mapFrames, List.getElem?_map, isAt]
    rfl

/-- A tenant that an application identifies by a member of its payload. -/
def tenant : Json :=
  .object [("id", .string "acme"), ("realm", .string "eu")]

theorem sorted_tenant :
    Frame.Ordered tenant := by
  show List.Pairwise _ ["id", "realm"]
  decide

theorem custom_payloads_kept_of_tenants :
    let kinds := ["tenant", "region"]
    let added :=
      [⟨"1", .custom "tenant" tenant⟩, ⟨"2", .internal⟩,
        ⟨"3", .custom "region" (.array [.string "eu"])⟩]
    (∀ kind ∈ kinds, KindRegistry.builtin.knows kind = false) ∧
      (∀ node ∈ added, node.frame.Storable kinds) ∧
      ∃ restored,
        restore (KindRegistry.builtin.registerAll kinds)
            (grown "0" added).save =
          .ok restored ∧
          restored.nodes.map Node.id = (grown "0" added).nodes.map Node.id ∧
          restored.kinds = (grown "0" added).kinds ∧
          ∀ (place : Nat) (id kind : String) (payload : Json),
            (grown "0" added).nodes[place]? =
                some ⟨id, .custom kind payload⟩ →
              ∃ kept,
                restored.nodes[place]? = some ⟨id, .custom kind kept⟩ ∧
                  kept = .object ((Frame.customPayload payload).erase "id") ∧
                  (kept = payload ↔
                    ∃ members,
                      payload = .object members ∧
                        Record.get? members "id" = none) := by
  intro kinds added
  have areNew : ∀ kind ∈ kinds, KindRegistry.builtin.knows kind = false := by
    decide
  have storable : ∀ node ∈ added, node.frame.Storable kinds := by
    intro node member
    rcases List.mem_cons.mp member with rfl | inRest
    · exact .ofApplication (by decide) sorted_tenant
    · rcases List.mem_cons.mp inRest with rfl | isLast
      · exact .ofLibrary trivial
      · cases List.mem_singleton.mp isLast
        exact .ofApplication (by decide) trivial
  exact ⟨areNew, storable, custom_payloads_kept kinds areNew "0" added storable⟩

/-- A member named like the id of the frame is lost, and nothing tells so. -/
theorem custom_payload_loses_id :
    ∃ restored,
      restore (KindRegistry.builtin.registerAll ["tenant"])
          (grown "0" [⟨"1", .custom "tenant" tenant⟩]).save =
        .ok restored ∧
        restored.custom "tenant" = .ok (.object [("realm", .string "eu")]) ∧
        restored.custom "tenant" ≠ .ok tenant := by
  have storable :
      ∀ node ∈ [Node.mk "1" (.custom "tenant" tenant)],
        node.frame.Storable ["tenant"] := by
    intro node member
    cases List.mem_singleton.mp member
    exact .ofApplication List.mem_cons_self sorted_tenant
  exact ⟨_, restore_of_storable (by decide) storable, rfl, by decide⟩

end Context

end ResourceServer
