import ResourceServer.Store.Edit
import ResourceServer.Store.Order

namespace ResourceServer

/-!
# Stores

A store is a collection of resources kept in memory. Ids are told apart
without regard to the case of ASCII letters and shown as they were given. A
resource starts at revision zero and gains one with every change; a request
may insist on the revision it knows. A request that fails changes nothing.
-/

/-- A stored resource. -/
structure Entry where
  /-- The id as it was given. -/
  id : String
  revision : Nat
  content : Json
deriving Repr, DecidableEq

namespace Entry

/-- The entry as clients see it. -/
def resource (entry : Entry) : Resource :=
  ⟨some entry.id, some (toString entry.revision), entry.content⟩

/-- The revision that every resource is at. -/
def anyRevision : String := "*"

/-- Whether the entry is at the revision that a request insists on. -/
def isAt (entry : Entry) : Option String → Bool
  | none => true
  | some revision =>
      revision == anyRevision || revision == toString entry.revision

/-- The failure of a request that insists on another revision. -/
def mismatch (entry : Entry) (revision : String) : Failure :=
  .preconditionFailed
    s!"resource '{entry.id}' is at revision {entry.revision}, not {revision}"

/-- Check the revision that a request insists on. -/
def check (entry : Entry) (revision : Option String) : Except Failure Entry :=
  if entry.isAt revision then
    .ok entry
  else
    .error (entry.mismatch (revision.getD ""))

/-- The entry with new content, at the next revision. -/
def revise (entry : Entry) (content : Json) : Entry :=
  { entry with revision := entry.revision + 1, content := content }

end Entry

/-- A collection of resources in memory. -/
structure Store where
  name : String
  /-- The entries by id in small letters. -/
  entries : Record Entry
deriving Repr, DecidableEq

namespace Store

/-- The store without resources. -/
def empty (name : String) : Store := ⟨name, []⟩

/-- How many resources there are. -/
def size (store : Store) : Nat :=
  store.entries.length

/-- The resource of an id, whatever the case of its letters. -/
def find? (store : Store) (id : String) : Option Entry :=
  store.entries.get? (Text.fold id)

/-- The resource of an id, or the failure that there is none. -/
def find (store : Store) (id : String) : Except Failure Entry :=
  match store.find? id with
  | some entry => .ok entry
  | none => .error (.notFound s!"resource '{id}' not found in '{store.name}'")

/-- The store with an entry put in the place of its id. -/
def insert (store : Store) (entry : Entry) : Store :=
  { store with entries := store.entries.insert (Text.fold entry.id) entry }

/-- The store without the resource of an id. -/
def erase (store : Store) (id : String) : Store :=
  { store with entries := store.entries.erase (Text.fold id) }

/-- Create a resource, under an id that is not taken. -/
def create
    (store : Store)
    (id : String)
    (content : Json) :
    Except Failure (Entry × Store) :=
  match store.find? id with
  | some _ =>
      .error
        (.conflict s!"resource '{id}' already exists in '{store.name}'")
  | none =>
      let entry := ⟨id, 0, content⟩
      .ok (entry, store.insert entry)

/-- Replace the content of a resource. -/
def update
    (store : Store)
    (id : String)
    (revision : Option String)
    (content : Json) :
    Except Failure (Entry × Store) := do
  let entry ← (← store.find id).check revision
  let revised := entry.revise content
  return (revised, store.insert revised)

/-- Delete a resource. -/
def delete
    (store : Store)
    (id : String)
    (revision : Option String) :
    Except Failure (Entry × Store) := do
  let entry ← (← store.find id).check revision
  return (entry, store.erase id)

/-- Carry out a patch on a resource, all of it or nothing. -/
def patch
    (store : Store)
    (id : String)
    (revision : Option String)
    (operations : List PatchOperation) :
    Except Failure (Entry × Store) := do
  let entry ← (← store.find id).check revision
  let revised :=
    entry.revise (← PatchOperation.applyAll operations entry.content)
  return (revised, store.insert revised)

/-- The filter that selects every resource. -/
def allFilter : String := "true"

/-- The query that selects the ids of all resources. -/
def allIdsQuery : String := "query-all-ids"

/-- Whether a query wants ids alone, where it is one that stores answer. -/
def idsOnly (store : Store) (query : Query) : Except Failure Bool :=
  if query.filter = some allFilter then
    .ok false
  else if query.id = some allIdsQuery then
    .ok true
  else
    .error
      (.notSupported
        s!"collection '{store.name}' only supports the '{allFilter}' filter and the '{allIdsQuery}' query id")

/-- The resources that a query is about, in no particular order. -/
def selected (store : Store) (idsOnly : Bool) : List Resource :=
  store.entries.map fun entry =>
    let resource := entry.2.resource
    if idsOnly then { resource with content := .object [] } else resource

/-- How many results a query leaves out at the start. -/
def startOf (query : Query) : Except Failure Nat :=
  match query.cookie with
  | none => .ok query.offset
  | some cookie =>
      match Text.unsigned? Text.limit64 cookie with
      | some start => .ok start
      | none =>
          .error (.badRequest s!"invalid paged results cookie '{cookie}'")

/-- The page that begins after `start` of the results. -/
def pageFrom (query : Query) (results : List Resource) (start : Nat) : Page :=
  let total := results.length
  let counted := query.countPolicy ≠ .none
  let last :=
    if query.pageSize = 0 then total else min (start + query.pageSize) total
  {
    resources := (results.drop start).take (last - start)
    cookie := if last < total then some (toString last) else none
    countPolicy := query.countPolicy
    total := if counted then total else -1
  }

/-- The page of results that a query asks for. -/
def query (store : Store) (query : Query) : Except Failure Page := do
  let idsOnly ← store.idsOnly query
  let results := Resource.sortBy query.sortKeys (store.selected idsOnly)
  let start ← startOf query
  return pageFrom query results start

end Store

end ResourceServer
