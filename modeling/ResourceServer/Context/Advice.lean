import ResourceServer.Failure
import ResourceServer.Record
import ResourceServer.Text.Fold

namespace ResourceServer

/-!
# Advice

While a request is carried out, the layers of the server may leave advice for
the client. Under each name there is a list of values, which only grows. Names
and values are printable ASCII, and some names are withheld.
-/

/-- Values by name, and the names that are withheld. -/
structure Advice where
  restricted : List String
  values : Record (List String)
deriving Repr, DecidableEq

namespace Advice

/-- No advice yet. -/
def empty (restricted : List String) : Advice := ⟨restricted, []⟩

/-- Whether a text is printable ASCII. -/
def isLegal (text : String) : Bool :=
  text.toList.all fun char => 0x20 ≤ char.toNat && char.toNat ≤ 0x7E

/-- Whether a name is withheld, whatever the case of its letters. -/
def isRestricted (advice : Advice) (name : String) : Bool :=
  advice.restricted.any fun restricted => Text.sameFold restricted name

/-- The values under a name. -/
def under (advice : Advice) (name : String) : List String :=
  (advice.values.get? name).getD []

/-- Append a value to those under a name. -/
def put (advice : Advice) (name value : String) : Except Failure Advice :=
  if advice.isRestricted name then
    .error (.invalidArgument s!"'{name}' is a restricted advice name")
  else if !isLegal name || !isLegal value then
    .error
      (.invalidArgument
        ("advice '" ++ Text.escaped name ++ "' contains illegal characters"))
  else
    .ok {
      advice with
      values := advice.values.insert name (advice.under name ++ [value])
    }

/-- Append values in order, up to the first that is refused. -/
def putAll
    (advice : Advice)
    (name : String) :
    List String → Advice × Option Failure
  | [] => (advice, none)
  | value :: rest =>
      match advice.put name value with
      | .ok advice => advice.putAll name rest
      | .error failure => (advice, some failure)

end Advice

end ResourceServer
