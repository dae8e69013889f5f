import ResourceServer.Context.Basic
import ResourceServer.IdSupply
import ResourceServer.Request.Basic
import ResourceServer.Route.Table

namespace ResourceServer

/-!
# Dispatch through routers

A router forwards a request along the route that its table selects. The part
of the name that the route covers is left behind, and the context gains a
frame that tells what was covered, what was forwarded and what the variables
stand for. A route may lead to a further router, so routers form a tree with
endpoints at its leaves.
-/

/-- An endpoint, or a router to further handlers. -/
inductive Handler (α : Type) where
  | endpoint (target : α)
  | router (table : Table (Handler α))

/-- A request that has arrived at an endpoint. -/
structure Delivery (α : Type) where
  target : α
  context : Context
  request : Request
  ids : IdSupply

namespace Fit

/-- The part of a name that the fit covers, and the part that is forwarded. -/
def split (fit : Fit) (name : Name) : Except Failure (Name × Name) :=
  match name.head fit.consumed with
  | .error failure => .error failure
  | .ok covered => (name.tail fit.consumed).map fun forwarded => (covered, forwarded)

/-- The step of a name through a router, by the two parts of the name. -/
def hop (fit : Fit) (covered forwarded : Name) : Hop :=
  ⟨covered.display, forwarded.display, fit.variableValues⟩

end Fit

namespace Handler

variable {α : Type}

/-- The handler that a table selects is smaller than the table. -/
theorem sizeOf_target
    {table : Table (Handler α)}
    {name : Name}
    {selection : Selection (Handler α)}
    (selected : table.select name = .ok selection) :
    sizeOf selection.binding.target < sizeOf table := by
  have smaller :
      sizeOf selection.binding.target < sizeOf selection.binding := by
    cases selection.binding
    simp only [Binding.mk.sizeOf_spec]
    omega
  cases Table.select_mem selected with
  | inl isIn =>
      have inList := List.sizeOf_lt_of_mem isIn
      cases table
      simp only [Table.mk.sizeOf_spec] at inList ⊢
      omega
  | inr isFallback =>
      cases table
      simp only at isFallback
      subst isFallback
      simp only [Table.mk.sizeOf_spec, Option.some.sizeOf_spec]
      omega

/-- Follow the routes of a request to an endpoint. -/
def deliver
    (handler : Handler α)
    (ids : IdSupply)
    (context : Context)
    (request : Request) :
    Except Failure (Delivery α) :=
  match handler with
  | .endpoint target => .ok ⟨target, context, request, ids⟩
  | .router table =>
      match selected : table.select request.name with
      | .error failure => .error failure
      | .ok selection =>
          match selection.fit.split request.name with
          | .error failure => .error failure
          | .ok (covered, forwarded) =>
              have _smaller := sizeOf_target selected
              selection.binding.target.deliver
                ids.advance
                (context.push ids.next (.router (selection.fit.hop covered forwarded)))
                (request.withName forwarded)
termination_by sizeOf handler

end Handler

end ResourceServer
