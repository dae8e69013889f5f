import ResourceServer.Context.Frame

namespace ResourceServer

/-!
# Contexts

The context of a request is a chain of frames. Each layer of the server adds
frames at the near end and never changes those of others; a look-up walks from
the near end towards the root, and the nearest frame counts. The one thing
that grows is advice, and only the layer that owns an advice frame adds to it.
-/

/-- A frame and the id it was given. -/
structure Node where
  id : String
  frame : Frame
deriving Repr, DecidableEq

/-- A chain of frames, of which the nearest stands apart. -/
structure Context where
  own : Node
  /-- The frames further out, the nearest first. -/
  outer : List Node
deriving Repr, DecidableEq

namespace Context

/-- A chain of one frame, the root. -/
def root (id : String) : Context := ⟨⟨id, .root⟩, []⟩

/-- The chain with one more frame. -/
def push (context : Context) (id : String) (frame : Frame) : Context :=
  ⟨⟨id, frame⟩, context.own :: context.outer⟩

/-- The frame, which must not be a second root. -/
def addition (frame : Frame) : Except Failure Frame :=
  match frame with
  | .root =>
      .error (.invalidArgument "a context chain has exactly one root frame")
  | frame => .ok frame

/-- The chain with one more frame, which must not be a second root. -/
def extend
    (context : Context)
    (id : String)
    (frame : Frame) :
    Except Failure Context :=
  (addition frame).map (context.push id)

/-- All frames, the nearest first. -/
def nodes (context : Context) : List Node :=
  context.own :: context.outer

/-- How many frames there are. -/
def depth (context : Context) : Nat :=
  context.nodes.length

/-- The chain without its nearest frame. -/
def parent? (context : Context) : Option Context :=
  match context.outer with
  | [] => none
  | own :: outer => some ⟨own, outer⟩

/-- Whether the chain has no further frame. -/
def isRoot (context : Context) : Bool :=
  context.outer.isEmpty

/-- The kinds of all frames, the nearest first. -/
def kinds (context : Context) : List String :=
  context.nodes.map (·.frame.kind)

/-- The chains that end at `own` or further out. -/
def chainsFrom (own : Node) : List Node → List Context
  | [] => [⟨own, []⟩]
  | next :: outer => ⟨own, next :: outer⟩ :: chainsFrom next outer

/-- The chain and all it consists of, the longest first. -/
def chains (context : Context) : List Context :=
  chainsFrom context.own context.outer

/-- The chain that ends at the nearest frame of a kind, by the kind's name. -/
def named (context : Context) (kind : String) : Except Failure Context :=
  match context.chains.find? fun chain => chain.own.frame.kind == kind with
  | some chain => .ok chain
  | none => .error (.contextNotFound kind)

/-- Whether some frame has a kind of that name. -/
def hasNamed (context : Context) (kind : String) : Bool :=
  context.nodes.any fun node => node.frame.kind == kind

/-- The chain that ends at the nearest frame that holds what a kind holds. -/
def holding (context : Context) (kind : FrameKind) : Except Failure Context :=
  match context.chains.find? fun chain => chain.own.frame.holds kind with
  | some chain => .ok chain
  | none => .error (.contextNotFound kind.text)

/-- Whether some frame holds what a kind holds. -/
def hasHolding (context : Context) (kind : FrameKind) : Bool :=
  context.nodes.any fun node => node.frame.holds kind

/-- The nearest content of a kind of frame. -/
def nearest
    {α : Type}
    (context : Context)
    (kind : FrameKind)
    (content? : Frame → Option α) :
    Except Failure α :=
  match context.nodes.findSome? fun node => content? node.frame with
  | some content => .ok content
  | none => .error (.contextNotFound kind.text)

/-- The principal that sent the request. -/
def principal (context : Context) : Except Failure Principal :=
  context.nearest .security Frame.asPrincipal?

/-- The message that the request arrived in. -/
def arrival (context : Context) : Except Failure Arrival :=
  context.nearest .http Frame.asArrival?

/-- The versions that were agreed on. -/
def apiVersion (context : Context) : Except Failure ApiVersion :=
  context.nearest .apiVersion Frame.asApiVersion?

/-- The nearest advice. -/
def advice (context : Context) : Except Failure Advice :=
  context.nearest .advice Frame.asAdvice?

/-- The preferred locales. -/
def locales (context : Context) : Except Failure Locales :=
  context.nearest .locale Frame.asLocales?

/-- The latest step through a router. -/
def hop (context : Context) : Except Failure Hop :=
  context.nearest .router Frame.asHop?

/-- The steps through routers, the latest first. -/
def hops (context : Context) : List Hop :=
  context.nodes.filterMap (·.frame.asHop?)

/-- The payload of the nearest frame of an application's kind. -/
def custom (context : Context) (kind : String) : Except Failure Json :=
  match context.named kind with
  | .error failure => .error failure
  | .ok chain =>
      match chain.own.frame with
      | .custom _ payload => .ok payload
      | _ => .error (.contextNotFound kind)

/-- The value of a variable that a route bound, the latest route first. -/
def bound? (context : Context) (name : String) : Option String :=
  context.hops.findSome? fun hop => hop.variableValues.get? name

/-- What a frame tells about whether the request came from outside. -/
def origin? : Frame → Option Bool
  | .http _ => some true
  | .internal => some false
  | _ => none

/-- Whether the request came from outside; the nearest frame that tells counts. -/
def isExternal (context : Context) : Bool :=
  (context.nodes.findSome? fun node => origin? node.frame).getD false

/-- Append advice to the chain's own frame, which must be an advice frame. -/
def putAdvice
    (context : Context)
    (name value : String) :
    Except Failure Context :=
  match context.own.frame with
  | .advice advice =>
      (advice.put name value).map fun advice =>
        { context with own := { context.own with frame := .advice advice } }
  | _ =>
      if context.hasHolding .advice then
        .error
          (.invalidArgument
            "advice can only be added to the context that owns the advice frame")
      else
        .error (.contextNotFound (FrameKind.text .advice))

/-- The chain of the outermost `depth` frames, the whole chain at most. -/
def outermost (context : Context) (depth : Nat) : Context :=
  match context.nodes.drop (context.depth - depth) with
  | [] => context
  | own :: outer => ⟨own, outer⟩

/--
The chain with its outer part exchanged for `part`.

The frames that are nearer than that part are kept.
-/
def withOutermost (context part : Context) : Context :=
  match context.nodes.take (context.depth - part.depth) with
  | [] => part
  | own :: outer => ⟨own, outer ++ part.nodes⟩

end Context

end ResourceServer
