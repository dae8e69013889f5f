import ResourceServer.Config.Basic
import ResourceServer.Route.Table

namespace ResourceServer

/-!
# Mounting

A server starts with a route for each mount of its configuration, added in
order to a table without routes. A pattern that is refused ends the start.
-/

namespace Mount

/--
Add a route for each mount.

`target` is what stands for the mount of a place in the configuration, and
`slot` is the place of the first of these mounts.
-/
def registerFrom {α : Type u} (target : Nat → α) (slot : Nat) (table : Table α) :
    List Mount → Except Template.Fault (Table α)
  | [] => .ok table
  | mount :: rest => do
      let extended ← table.add mount.mode mount.pattern (target slot)
      registerFrom target (slot + 1) extended rest

end Mount

/-- The routes of a server with this configuration. -/
def ServerConfig.table
    {α : Type u}
    (config : ServerConfig)
    (target : Nat → α) :
    Except Template.Fault (Table α) :=
  Mount.registerFrom target 0 Table.empty config.mounts

end ResourceServer
