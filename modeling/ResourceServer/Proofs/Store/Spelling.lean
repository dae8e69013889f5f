import ResourceServer.Proofs.Http.StoreHandling
import ResourceServer.Proofs.Route.Spelling

namespace ResourceServer

/-!
# Requests to a name in other letters

A store keeps its entries by id in small letters, so it answers a request in
whatever letters its name is written, and changes in the same way. Together
with the routers on the way to it this makes the spelling of a name invisible:
two requests that differ in it alone are answered alike and leave the same
stores behind.
-/

open Failure (Alike)

/-- A request that creates a resource gives the id of it. -/
def Request.GivesId
    (request : Request) : Prop :=
  ∀ content, request.operation ≠ .create content none

namespace Store

section Ids

variable
  (store : Store)
  {left right : String}
  (sameFold : Text.fold left = Text.fold right)

include sameFold

theorem erase_of_fold :
    store.erase left = store.erase right := by
  rw [erase, erase, sameFold]

theorem find_of_fold :
    Alike Eq (store.find left) (store.find right) := by
  unfold find find?
  rw [sameFold]
  cases store.entries.get? (Text.fold right) with
  | none =>
      exact .error rfl
  | some entry =>
      exact .ok rfl

theorem current_of_fold
    (revision : Option String) :
    Alike Eq (store.current left revision) (store.current right revision) := by
  apply (store.find_of_fold sameFold).bind
  intro entry
  exact .refl _

theorem patch_of_fold
    (revision : Option String)
    (operations : List PatchOperation) :
    Alike Eq
      (store.patch left revision operations)
      (store.patch right revision operations) := by
  rw [patch_eq, patch_eq]
  apply (store.current_of_fold sameFold revision).bind
  intro entry
  exact .refl _

/-- What is asked of an instance is carried out whatever its id is written in. -/
theorem run_of_fold
    (freshId otherId : String)
    (operation : Operation) :
    Alike Eq
      (CollectionCall.ofInstance left operation.verb >>= fun asked =>
        store.run freshId asked operation)
      (CollectionCall.ofInstance right operation.verb >>= fun asked =>
        store.run otherId asked operation) := by
  cases operation with
  | read =>
      exact (store.find_of_fold sameFold).map _
  | update content revision =>
      show
        Alike Eq
          ((store.update left revision content).map shown)
          ((store.update right revision content).map shown)
      rw [update_eq, update_eq]
      exact ((store.current_of_fold sameFold revision).map _).map _
  | delete revision =>
      show
        Alike Eq
          ((store.delete left revision).map shown)
          ((store.delete right revision).map shown)
      rw [delete_eq, delete_eq, store.erase_of_fold sameFold]
      exact ((store.current_of_fold sameFold revision).map _).map _
  | patch operations revision =>
      exact (store.patch_of_fold sameFold revision operations).map _
  | create | query | action =>
      exact .error rfl

end Ids

/-- Without an id to make up, a call for the whole collection needs no fresh one. -/
theorem run_of_givesId
    (store : Store)
    {request : Request}
    (givesId : request.GivesId)
    (freshId otherId : String)
    (call : CollectionCall) :
    store.run freshId call request.operation =
      store.run otherId call request.operation := by
  cases asks : request.operation with
  | create content newId =>
      cases newId with
      | none =>
          exact absurd asks (givesId content)
      | some id =>
          cases call <;> rfl
  | read | update | delete | patch | action | query =>
      cases call <;> rfl

section Names

variable
  (store : Store)
  {request : Request}
  {left right : Name}
  (givesId : request.GivesId)
  (sameKey : left.key = right.key)
  (freshId otherId : String)

include givesId sameKey

/-- A store handles a request alike under either name. -/
theorem handle_of_key :
    Alike Eq
      (store.handle freshId (request.withName left))
      (store.handle otherId (request.withName right)) := by
  let first : Call := ⟨freshId, request.withName left⟩
  let second : Call := ⟨otherId, request.withName right⟩
  show
    Alike Eq
      (store.handle first.freshId first.request)
      (store.handle second.freshId second.request)
  have sameElements := Name.forall₂_fold_iff_key.mpr sameKey
  generalize leftShape : left.elements = lefts at sameElements
  generalize rightShape : right.elements = rights at sameElements
  -- What a name asks for depends on whether it has no, one or more elements.
  cases sameElements with
  | nil =>
      rw [@handle_of_whole store first leftShape,
        @handle_of_whole store second rightShape]
      apply (Alike.refl (CollectionCall.ofWhole request.verb)).bind
      intro asked
      have sameRun := store.run_of_givesId givesId freshId otherId asked
      exact sameRun ▸ .refl _
  | cons sameFold sameRest =>
      cases sameRest with
      | nil =>
          rw [@handle_of_instance store first _ leftShape,
            @handle_of_instance store second _ rightShape]
          exact store.run_of_fold sameFold freshId otherId request.operation
      | cons =>
          simp only [handle, CollectionCall.ofRequest, first, second,
            Request.withName, leftShape, rightShape]
          exact .error rfl

/-- A store answers both names alike. -/
theorem answer_of_key :
    Alike Eq
      (store.answer ⟨freshId, request.withName left⟩)
      (store.answer ⟨otherId, request.withName right⟩) :=
  (store.handle_of_key givesId sameKey freshId otherId).map _

/-- A store is the same after a request to either name. -/
theorem after_of_key :
    store.after ⟨freshId, request.withName left⟩ =
      store.after ⟨otherId, request.withName right⟩ := by
  have alike := store.handle_of_key givesId sameKey freshId otherId
  unfold Store.after
  generalize store.handle freshId (request.withName left) = first at alike
  generalize store.handle otherId (request.withName right) = second at alike
  cases alike with
  | error =>
      rfl
  | ok sameHandled =>
      cases sameHandled
      rfl

end Names

end Store

namespace World

variable
  {handler : Handler Endpoint}
  {first second : World}
  {request : Request}
  {other rest otherRest : Name}
  {hops otherHops : List Hop}
  {slot : Nat}

/-- Requests that are led to one store under one name are handled alike. -/
theorem handle_same_of_leads
    (leads : handler.Leads request.name hops (.store slot) rest)
    (otherLeads : handler.Leads other otherHops (.store slot) otherRest)
    (sameRest : rest.key = otherRest.key)
    (givesId : request.GivesId)
    (sameStores : first.stores = second.stores)
    (context : Context) :
    let one := first.handle handler context request
    let two := second.handle handler context (request.withName other)
    Alike Eq one.result two.result ∧
      one.world.stores = two.world.stores ∧
      one.context = two.context := by
  intro one two
  have secondLeads :
      handler.Leads (request.withName other).name otherHops (.store slot)
        otherRest :=
    otherLeads
  cases isAt : first.stores[slot]? with
  | none =>
      have isAbsent : second.stores[slot]? = none := sameStores ▸ isAt
      simp only [one, two, handle_of_absent leads isAt,
        handle_of_absent secondLeads isAbsent]
      exact ⟨.error rfl, sameStores, trivial⟩
  | some store =>
      have isAtSecond : second.stores[slot]? = some store := sameStores ▸ isAt
      simp only [one, two, handle_of_leads leads isAt,
        handle_of_leads secondLeads isAtSecond]
      refine ⟨store.answer_of_key givesId sameRest _ _, ?_, trivial⟩
      rw [sameStores]
      exact
        congrArg (second.stores.set slot)
          (store.after_of_key givesId sameRest _ _)

/--
Requests that differ in the spelling of their name alone take the same way, are
answered alike and leave the same stores behind, whatever fresh ids are at hand.
-/
theorem handle_same_of_spelling
    (toStores : handler.LeadsToStores)
    (sameStores : first.stores = second.stores)
    (context : Context)
    (givesId : request.GivesId)
    (sameName : request.name.same other = true) :
    let one := first.handle handler context request
    let two := second.handle handler context (request.withName other)
    handler.SameWay request.name other ∧
      Alike Eq one.result two.result ∧
      one.world.stores = two.world.stores ∧
      one.context = two.context := by
  intro one two
  have sameWay : handler.SameWay request.name other :=
    handler.sameWay_of_key (Name.same_iff_key.mp sameName)
  refine ⟨sameWay, ?_⟩
  rcases sameWay.ends with
    ⟨hops, otherHops, target, rest, otherRest, leads, otherLeads, sameRest⟩ |
    ⟨failure, otherFailure, sameKind, refused⟩
  · obtain ⟨slot, rfl⟩ := toStores leads
    exact
      handle_same_of_leads leads otherLeads sameRest givesId sameStores context
  · have isRefused :
        handler.deliver first.ids context request = .error failure :=
      (refused first.ids context request).1
    have isRefusedToo := (refused second.ids context request).2
    simp only [one, two, handle_of_deliver_error isRefused,
      handle_of_deliver_error isRefusedToo]
    exact ⟨.error sameKind, sameStores, trivial⟩

/-- The orders of each shop, behind two routers. -/
def shopOrders : Handler Endpoint :=
  .router <|
    Table.empty.insert
      ⟨.startsWith,
        ⟨⟨["shops", "\x7bshop\x7d"], by decide⟩,
          [.literal "shops", .placeholder "shop"]⟩⟩
      (.router <|
        Table.empty.insert
          ⟨.startsWith, ⟨⟨["orders"], by decide⟩, [.literal "orders"]⟩⟩
          (.endpoint (.store 0)))

theorem shopOrders_leadsToStores :
    shopOrders.LeadsToStores :=
  Handler.leadsToStores_only _
    (Handler.leadsToStores_only _ (Handler.leadsToStores_store 0))

/-- An order is deleted under one name and, elsewhere, under the other. -/
theorem handle_same_of_spelling_of_delete :
    let stores := [Store.mk "orders" [("a7", ⟨"A7", 3, .null⟩)]]
    let first : World := ⟨stores, ⟨0⟩⟩
    let second : World := ⟨stores, ⟨7⟩⟩
    let other : Name := ⟨["Shops", "WEST", "Orders", "A7"], by decide⟩
    let request : Request :=
      ⟨⟨["shops", "west", "orders", "a7"], by decide⟩, [], [],
        .delete (some "3")⟩
    let one := first.handle shopOrders (.root "r") request
    let two := second.handle shopOrders (.root "r") (request.withName other)
    shopOrders.SameWay request.name other ∧
      Alike Eq one.result two.result ∧
      one.result = .ok (.resource ⟨some "A7", some "3", .null⟩) ∧
      one.world.stores = two.world.stores := by
  intro stores first second other request one two
  have givesId : request.GivesId := by
    intro content isCreate
    cases isCreate
  have sameName : request.name.same other = true := by
    decide +kernel
  have isDeleted : one.result = .ok (.resource ⟨some "A7", some "3", .null⟩) := by
    decide +kernel
  obtain ⟨sameWay, alike, sameStores, -⟩ :=
    @handle_same_of_spelling shopOrders first second request other
      shopOrders_leadsToStores rfl (.root "r") givesId sameName
  exact ⟨sameWay, alike, isDeleted, sameStores⟩

end World

end ResourceServer
