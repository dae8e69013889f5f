import ResourceServer.Json.Printer
import ResourceServer.Request.Response

namespace ResourceServer

/-!
# The order of results

Results of a query are ordered by the sort keys in turn and then by id. Two
numbers, two texts and two truth values compare in their natural order, values
of different kinds by their JSON text, and a field that is missing comes after
all that are there.
-/

namespace Json

/-- The order of two fields, either of which may be missing. -/
def compareFields : Option Json → Option Json → Ordering
  | none, none => .eq
  | none, some _ => .gt
  | some _, none => .lt
  | some (.number left), some (.number right) =>
      left.toDouble.compareTotal right.toDouble
  | some (.string left), some (.string right) => compare left right
  | some (.bool left), some (.bool right) => compare left right
  | some left, some right => compare left.compact right.compact

end Json

namespace SortKey

/-- The field of a resource that is sorted by. -/
def fieldOf (key : SortKey) (resource : Resource) : Option Json :=
  resource.content.pointer? (Json.Pointer.absolute key.field)

/-- The order of two resources by one sort key. -/
def compareBy (key : SortKey) (left right : Resource) : Ordering :=
  let order := Json.compareFields (key.fieldOf left) (key.fieldOf right)
  if key.ascending then order else order.swap

end SortKey

namespace Resource

/-- The order of two resources by sort keys in turn, and then by id. -/
def compareBy (keys : List SortKey) (left right : Resource) : Ordering :=
  match keys with
  | [] => compare left.id right.id
  | key :: rest => (key.compareBy left right).then (compareBy rest left right)

/-- The resources in the order of the sort keys. -/
def sortBy (keys : List SortKey) (resources : List Resource) : List Resource :=
  resources.mergeSort fun left right => (compareBy keys left right).isLE

end Resource

end ResourceServer
