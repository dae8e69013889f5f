import ResourceServer.Context.Basic

namespace ResourceServer

/-!
# Contexts that share frames

Contexts grow from one another, so they share their outer frames. A forest
holds every frame once, with a link to the next frame out; a context is then a
place in the forest. Advice that is put into a shared frame shows in every
context that has the frame.
-/

/-- Frames with links to the next frame out, which comes before. -/
structure Forest where
  entries : Array (Node × Option Nat)
deriving Repr, DecidableEq

namespace Forest

/-- The forest without frames. -/
def empty : Forest := ⟨#[]⟩

/-- How many frames there are. -/
def size (forest : Forest) : Nat :=
  forest.entries.size

/-- The frames from a place outwards. -/
def nodesFrom (forest : Forest) (place : Nat) : List Node :=
  match forest.entries[place]? with
  | none => []
  | some (node, none) => [node]
  | some (node, some next) =>
      if next < place then node :: forest.nodesFrom next else [node]
termination_by place

/-- The context at a place. -/
def context? (forest : Forest) (place : Nat) : Option Context :=
  match forest.nodesFrom place with
  | [] => none
  | own :: outer => some ⟨own, outer⟩

/-- The place of the next frame out. -/
def parent? (forest : Forest) (place : Nat) : Option Nat :=
  (forest.entries[place]?).bind Prod.snd

/-- The place that is `steps` frames further out. -/
def outward? (forest : Forest) (place : Nat) : Nat → Option Nat
  | 0 => some place
  | steps + 1 => (forest.parent? place).bind fun next => forest.outward? next steps

/-- Add a frame beyond a place, or a root; the place of the new frame is `size`. -/
def grow (forest : Forest) (node : Node) (next : Option Nat) : Forest :=
  ⟨forest.entries.push (node, next)⟩

/-- Add a frame beyond a place, which must not be a second root. -/
def extend
    (forest : Forest)
    (place : Nat)
    (id : String)
    (frame : Frame) :
    Except Failure Forest :=
  (Context.addition frame).map fun frame => forest.grow ⟨id, frame⟩ (some place)

/-- Add all frames of a context, none of them shared. -/
def plant (forest : Forest) (context : Context) : Forest :=
  context.nodes.reverse.foldl
    (fun grown node =>
      grown.grow node (if grown.size = forest.size then none else some (grown.size - 1)))
    forest

/-- Append advice to the frame at a place, for the context there. -/
def putAdvice
    (forest : Forest)
    (place : Nat)
    (name value : String) :
    Except Failure Forest :=
  match forest.context? place with
  | none => .ok forest
  | some context =>
      (context.putAdvice name value).map fun advised =>
        ⟨forest.entries.modify place fun entry => (advised.own, entry.2)⟩

end Forest

end ResourceServer
