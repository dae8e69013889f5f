import ResourceServer.Failure
import ResourceServer.Http.Incoming
import ResourceServer.Text.Digits

namespace ResourceServer

/-!
# Receiving bodies

Bodies have a limited length. A request that declares a longer body is turned
away before it is looked at; any other body may be as long as it is declared to
be, or as long as the limit where no length is declared.
-/

namespace Incoming

/-- The most bytes that a body may have. -/
def bodyLimit : Nat := Nat.pow 2 20

/-- What is wrong with a body that is too long. -/
def tooLong : String := "length limit exceeded"

/-- The length that the body is declared to have, if that is a number. -/
def declaredLength? (incoming : Incoming) : Option Nat :=
  (incoming.headers.text? "content-length").bind
    (Text.unsigned? Text.limit64)

/-- Whether the body is declared to be longer than bodies may be. -/
def declaresTooMuch (incoming : Incoming) : Bool :=
  match incoming.declaredLength? with
  | some length => decide (bodyLimit < length)
  | none => false

/-- The most bytes that the body of this request may have. -/
def bodyBound (incoming : Incoming) : Nat :=
  min bodyLimit (incoming.declaredLength?.getD bodyLimit)

/-- Take the whole body, which is refused if it is too long. -/
def receiveBody (incoming : Incoming) : Except Failure Unit :=
  if incoming.body.length ≤ incoming.bodyBound then
    .ok ()
  else
    .error (.badRequest ("unreadable request body: " ++ tooLong))

end Incoming

end ResourceServer
