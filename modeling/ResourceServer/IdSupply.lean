namespace ResourceServer

/-!
# Fresh ids

Frames, and resources created without an id, get ids that no other has. A
supply counts those it has given out. The ids have the form of random unique
identifiers of version four, with the count in the last group.
-/

/-- The number of ids given out. -/
structure IdSupply where
  used : Nat
deriving Repr, DecidableEq

namespace IdSupply

/-- The supply that has given out nothing. -/
def start : IdSupply := ⟨0⟩

/-- What the ids of every supply begin with. -/
def stem : String := "00000000-0000-4000-8000-"

/-- The id of a count. -/
def idOf (count : Nat) : String :=
  let digits := Nat.toDigits 16 count
  stem ++
    String.ofList (List.replicate (12 - digits.length) '0' ++ digits)

/-- The next id. -/
def next (supply : IdSupply) : String :=
  idOf supply.used

/-- The supply after its next id is given out. -/
def advance (supply : IdSupply) : IdSupply :=
  ⟨supply.used + 1⟩

end IdSupply

end ResourceServer
