import ResourceServer.Proofs.Http.Mount
import ResourceServer.Proofs.Name.RawElement
import ResourceServer.Proofs.Text.Trimming

namespace ResourceServer

/-!
# The location of what was created

The path of the collection is encoded in a location, and the id is put behind
it as it is. So a location names what was created just where the id stands for
itself in a path: a slash would divide it, a percent sign would be read as an
escape, and every other character is read as it is written.
-/

namespace Name

/-- Behind the path of a collection the id stands as it is. -/
theorem toList_location
    (name : Name)
    (id : String) :
    (Outgoing.location ("/" ++ name.display) (some id)).toList =
      '/' :: ['/'].intercalate (name.pieces ++ [id.toList]) := by
  have base :
      ("/" ++ name.display).toList = '/' :: ['/'].intercalate name.pieces := by
    rw [String.toList_append, toList_display]
    rfl
  simp only [Outgoing.location, base, String.toList_append,
    String.toList_ofList]
  by_cases isNil : name.pieces = []
  · rw [isNil, List.nil_append, List.intercalate_singleton]
    rfl
  · have endsElsewhere :
        (['/'].intercalate name.pieces).getLast? ≠ some '/' :=
      getLast?_intercalate_ne (fun _ => ne_nil_of_mem_pieces)
        (fun _ => slash_not_mem_of_mem_pieces)
    have notNil : ['/'].intercalate name.pieces ≠ [] :=
      intercalate_ne_nil isNil fun _ => ne_nil_of_mem_pieces
    have unstripped :
        ('/' :: ['/'].intercalate name.pieces).reverse.dropWhile (· == '/') =
          ('/' :: ['/'].intercalate name.pieces).reverse := by
      apply Text.dropWhile_eq_self
      intro char isLast
      rw [List.head?_reverse, List.getLast?_cons_of_ne_nil notNil] at isLast
      rw [beq_eq_false_iff_ne]
      rintro rfl
      exact endsElsewhere isLast
    rw [unstripped, List.reverse_reverse, ← intercalate_append_slash isNil]
    simp only [List.cons_append, List.append_assoc]
    rfl

end Name

namespace IdSupply

theorem next_ne_empty
    (supply : IdSupply) :
    supply.next ≠ "" := by
  intro isEmpty
  have noChars := congrArg String.toList isEmpty
  rw [next, idOf, String.toList_append] at noChars
  have noStem : stem.toList = [] := (List.append_eq_nil_iff.mp noChars).1
  exact absurd noStem (by decide)

end IdSupply

namespace Server

/-- A resource is created under the last element of its path, or a fresh id. -/
theorem id_of_asks
    {incoming : Incoming}
    {named asked : Name}
    {content : Json}
    {newId : Option String}
    (asks : incoming.Asks named asked (.create content newId))
    (ids : IdSupply) :
    newId.getD ids.next ≠ "" ∧
      (incoming.method = "PUT" →
        named.elements = asked.elements ++ [newId.getD ids.next]) := by
  cases asks with
  | @createUnder _ _ id isPut hasContent insistsNot isParent isLeaf =>
      have divided := Name.elements_of_parent? isParent isLeaf
      refine ⟨?_, fun _ => divided⟩
      apply named.elements_ne_empty
      rw [divided]
      exact List.mem_append_right _ (List.mem_singleton_self id)
  | create isPost hasContent =>
      refine ⟨ids.next_ne_empty, ?_⟩
      intro isPut
      rw [isPost] at isPut
      exact absurd isPut (by decide)

theorem locationBase_eq_some
    {request : Request}
    {base : String}
    (isBase : locationBase request = some base) :
    request.verb = .create ∧ base = "/" ++ request.name.display := by
  unfold locationBase at isBase
  split at isBase
  · rename_i isCreate
    cases isBase
    exact ⟨isCreate, rfl⟩
  · cases isBase

theorem operation_of_create
    {request : Request}
    (isCreate : request.verb = .create) :
    ∃ content newId, request.operation = .create content newId := by
  unfold Request.verb at isCreate
  cases asks : request.operation with
  | create content newId =>
      exact ⟨content, newId, rfl⟩
  | read | update | delete | patch | action | query =>
      rw [asks] at isCreate
      cases isCreate

/--
An answer with a location is about a resource that was just created. The
location is the path of the collection with the id behind it; it names the
resource if and only if there is neither a slash nor a percent sign in the id.
-/
theorem location_names_iff
    (server : Server)
    (toStores : server.handler.LeadsToStores)
    (world : World)
    (incoming : Incoming)
    {locations : List String}
    (isCreated : (server.exchange world incoming).1.status = 201)
    (located :
      (server.exchange world incoming).1.headers.get? "location" =
        some locations) :
    ∃ adapted context ids resource id,
      server.understand world.ids incoming = .ok (adapted, context, ids) ∧
        adapted.request.verb = .create ∧
        (World.handle ⟨world.stores, ids⟩ server.handler context
            adapted.request).result =
          .ok (.resource resource) ∧
        resource.id = some id ∧
        (incoming.method = "PUT" →
          ∃ named,
            incoming.name = .ok named ∧
              named.elements = adapted.request.name.elements ++ [id]) ∧
        ∃ path,
          locations = [path] ∧
            ((∃ read,
              Name.parse path = .ok read ∧
                read.elements = adapted.request.name.elements ++ [id]) ↔
              '/' ∉ id.toList ∧ '%' ∉ id.toList) := by
  rcases server.exchange_cases world incoming with
    ⟨refused, -⟩ | ⟨-, adapted, context, ids, understood, exchanged⟩
  · rw [isCreated] at refused
    exact absurd refused (by decide)
  · obtain ⟨isContext, isAdapted⟩ := understand_eq_ok understood
    obtain ⟨named, isNamed, asks⟩ := Incoming.adapt_eq_ok isAdapted
    have agree : Outgoing.AgreeOn "location" _ _ :=
      dispatch_agreeOn toStores isContext ⟨world.stores, ids⟩ adapted
        (by decide)
    rw [exchanged, field_finish _ _ (by decide), agree.field] at located
    obtain ⟨resource, base, answered, isBase, rfl⟩ :=
      Outgoing.resource_of_located located
    obtain ⟨isCreate, rfl⟩ := locationBase_eq_some isBase
    obtain ⟨content, newId, isOperation⟩ := operation_of_create isCreate
    -- The store tells which id the resource got.
    obtain ⟨hops, slot, rest, store, -, -, storeAnswered⟩ :=
      (World.handle_cases ⟨world.stores, ids⟩ toStores context
        adapted.request).2 _ answered
    obtain ⟨-, isEntry, -⟩ :=
      Store.after_of_created isOperation storeAnswered
    cases isEntry
    rw [isOperation] at asks
    obtain ⟨notEmpty, isPath⟩ := id_of_asks asks ⟨ids.used + hops.length⟩
    refine
      ⟨adapted, context, ids, _, _, understood, isCreate, answered, rfl, ?_,
        _, rfl, ?_⟩
    · intro isPut
      exact ⟨named, isNamed, isPath isPut⟩
    · exact
        Name.exists_parse_concat_iff (Name.toList_location _ _) notEmpty

/-- A request to create a resource of a path. -/
def putTrue
    (path : String) : Incoming :=
  ⟨"PUT", path, [], ⟨[]⟩, Text.bytes "true"⟩

theorem location_names_iff_of_space :
    let users : Template := ⟨⟨["users"], by decide⟩, [.literal "users"]⟩
    let server := mount ApiSettings.standard users 0
    let world : World := ⟨[Store.empty "users"], IdSupply.start⟩
    let incoming := putTrue "/users/a%20b"
    (server.exchange world incoming).1.status = 201 ∧
      (server.exchange world incoming).1.headers.get? "location" =
        some ["/users/a b"] ∧
      ∃ adapted context ids resource id,
        server.understand world.ids incoming = .ok (adapted, context, ids) ∧
          (World.handle ⟨world.stores, ids⟩ server.handler context
              adapted.request).result =
            .ok (.resource resource) ∧
          resource.id = some id ∧
          ((∃ read,
            Name.parse "/users/a b" = .ok read ∧
              read.elements = adapted.request.name.elements ++ [id]) ↔
            '/' ∉ id.toList ∧ '%' ∉ id.toList) := by
  intro users server world incoming
  have isCreated : (server.exchange world incoming).1.status = 201 := by
    decide +kernel
  have located :
      (server.exchange world incoming).1.headers.get? "location" =
        some ["/users/a b"] := by
    decide +kernel
  obtain
    ⟨adapted, context, ids, resource, id, understood, -, answered, isId, -,
      path, isPath, names⟩ :=
    location_names_iff server (mount_leadsToStores _ users 0) world incoming
      isCreated located
  cases isPath
  exact
    ⟨isCreated, located, adapted, context, ids, resource, id, understood,
      answered, isId, names⟩

/-- A slash in an id is encoded in its path, but divides its location. -/
theorem location_divides_slash :
    let users : Template := ⟨⟨["users"], by decide⟩, [.literal "users"]⟩
    let server := mount ApiSettings.standard users 0
    let world : World := ⟨[Store.empty "users"], IdSupply.start⟩
    let exchanged := server.exchange world (putTrue "/users/a%2Fb")
    exchanged.1.status = 201 ∧
      exchanged.1.headers.get? "location" = some ["/users/a/b"] ∧
      exchanged.2.stores =
        [⟨"users", [("a/b", ⟨"a/b", 0, .bool true⟩)]⟩] ∧
      (∃ named,
        Name.parse "/users/a%2Fb" = .ok named ∧
          named.elements = ["users", "a/b"]) ∧
      ∃ read,
        Name.parse "/users/a/b" = .ok read ∧
          read.elements = ["users", "a", "b"] := by
  intro users server world exchanged
  have pathReads :
      Name.readElements "/users/a%2Fb" = .ok ["users", "a/b"] := by
    decide +kernel
  have locationReads :
      Name.readElements "/users/a/b" = .ok ["users", "a", "b"] := by
    decide +kernel
  refine
    ⟨by decide +kernel, by decide +kernel, by decide +kernel,
      ⟨⟨["users", "a/b"], by decide⟩, ?_, rfl⟩,
      ⟨⟨["users", "a", "b"], by decide⟩, ?_, rfl⟩⟩
  · exact Name.parse_eq_ok_iff.mpr pathReads
  · exact Name.parse_eq_ok_iff.mpr locationReads

end Server

end ResourceServer
