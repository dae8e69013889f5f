import ResourceServer.Json.Token
import ResourceServer.Text.Utf8

namespace ResourceServer.Json

/-!
# Reading JSON

A value is read from its tokens with a stack of the containers that are still
open. At most 127 containers may be open at a time. Of several members with
one key the last counts.
-/

/-- A container that is still open. -/
inductive Container where
  /-- An array with the items read so far, the last one first. -/
  | array (done : List Json)
  /-- An object with the members read so far, and the key of the next value. -/
  | object (done : Record Json) (key : String)
deriving Repr, DecidableEq

/-- What the next token may be, inside the open containers. -/
inductive ReadState where
  /-- A value. -/
  | value (containers : List Container)
  /-- An item, or the end of an array just opened. -/
  | firstItem (containers : List Container)
  /-- A key, or the end of an object just opened. -/
  | firstKey (containers : List Container)
  /-- A key. -/
  | key (containers : List Container) (done : Record Json)
  /-- The colon after a key. -/
  | colon (containers : List Container) (done : Record Json) (key : String)
  /-- A comma or an end, after a value. -/
  | after (containers : List Container) (read : Json)
deriving Repr, DecidableEq

/-- How many containers may be open at a time. -/
def depthLimit : Nat := 127

namespace ReadState

/-- The state after a token that starts a value. -/
def startValue? (containers : List Container) : Token → Option ReadState
  | .openArray =>
      if containers.length < depthLimit then some (.firstItem containers) else none
  | .openObject =>
      if containers.length < depthLimit then some (.firstKey containers) else none
  | .text text => some (.after containers (.string text))
  | .scalar content => some (.after containers content)
  | _ => none

/-- The state after a token. -/
def step? (state : ReadState) (token : Token) : Option ReadState :=
  match state, token with
  | .value containers, token => startValue? containers token
  | .firstItem containers, .closeArray => some (.after containers (.array []))
  | .firstItem containers, token => startValue? (.array [] :: containers) token
  | .firstKey containers, .closeObject => some (.after containers (.object []))
  | .firstKey containers, .text name => some (.colon containers [] name)
  | .key containers done, .text name => some (.colon containers done name)
  | .colon containers done name, .colon =>
      some (.value (.object done name :: containers))
  | .after (.array done :: containers) read, .comma =>
      some (.value (.array (read :: done) :: containers))
  | .after (.array done :: containers) read, .closeArray =>
      some (.after containers (.array (read :: done).reverse))
  | .after (.object done name :: containers) read, .comma =>
      some (.key containers (done.insert name read))
  | .after (.object done name :: containers) read, .closeObject =>
      some (.after containers (.object (done.insert name read)))
  | _, _ => none

/-- The value read, once no container is open. -/
def result? : ReadState → Option Json
  | .after [] read => some read
  | _ => none

end ReadState

/-- The value that a whole text stands for. -/
def read? (text : String) : Option Json :=
  (tokens? [] text.toList).bind fun tokens =>
    (tokens.foldlM ReadState.step? (.value [])).bind ReadState.result?

/-- The value that bytes in UTF-8 stand for. -/
def readBytes? (encoded : List UInt8) : Option Json :=
  (Text.ofBytes? encoded).bind read?

end ResourceServer.Json
