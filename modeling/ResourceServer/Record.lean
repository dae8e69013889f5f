namespace ResourceServer

/-!
# Records

A record maps texts to values. It is a list of pairs in ascending order of
their keys, by code point, with one pair for each key. Members of JSON
objects, variables of templates and headers of requests are records.
-/

/-- Pairs of a key and a value, in ascending order of their keys. -/
abbrev Record (α : Type u) := List (String × α)

namespace Record

variable {α : Type u}

/-- The value of a key. -/
def get? (record : Record α) (key : String) : Option α :=
  match record with
  | [] => none
  | (name, value) :: rest => if name = key then some value else get? rest key

/-- Whether the record has a value for a key. -/
def has (record : Record α) (key : String) : Bool :=
  (record.get? key).isSome

/-- The record with `value` as the value of `key`. -/
def insert (record : Record α) (key : String) (value : α) : Record α :=
  match record with
  | [] => [(key, value)]
  | (name, old) :: rest =>
      if key < name then
        (key, value) :: (name, old) :: rest
      else if name = key then
        (key, value) :: rest
      else
        (name, old) :: insert rest key value

/-- The record without a value for `key`. -/
def erase (record : Record α) (key : String) : Record α :=
  match record with
  | [] => []
  | (name, value) :: rest =>
      if name = key then rest else (name, value) :: erase rest key

/-- The record of pairs in any order; of equal keys the last one counts. -/
def ofList (pairs : List (String × α)) : Record α :=
  pairs.foldl (fun record pair => record.insert pair.1 pair.2) []

/-- The record with every value replaced by its image. -/
def mapValues {β : Type v} (transform : α → β) (record : Record α) : Record β :=
  record.map fun pair => (pair.1, transform pair.2)

/-- The keys, in ascending order. -/
def keys (record : Record α) : List String :=
  record.map Prod.fst

/-- The keys ascend strictly. -/
def Sorted (record : Record α) : Prop :=
  (record.map Prod.fst).Pairwise (· < ·)

/-- Looking up the key just inserted finds its value. -/
@[simp] theorem get?_insert_self
    (record : Record α)
    (key : String)
    (value : α) :
    (record.insert key value).get? key = some value := by
  induction record with
  | nil =>
      simp [insert, get?]
  | cons pair rest inductionHypothesis =>
      obtain ⟨name, old⟩ := pair
      simp only [insert]
      split
      · simp [get?]
      · split
        · simp [get?]
        · rename_i different
          simp [get?, different, inductionHypothesis]

/-- Inserting leaves the values of all other keys alone. -/
theorem get?_insert_of_ne
    (record : Record α)
    {key other : String}
    (value : α)
    (different : key ≠ other) :
    (record.insert key value).get? other = record.get? other := by
  induction record with
  | nil =>
      simp [insert, get?, different]
  | cons pair rest inductionHypothesis =>
      obtain ⟨name, old⟩ := pair
      simp only [insert]
      split
      · simp [get?, different]
      · split
        · rename_i same
          subst same
          simp [get?, different]
        · simp [get?, inductionHypothesis]

end Record

end ResourceServer
