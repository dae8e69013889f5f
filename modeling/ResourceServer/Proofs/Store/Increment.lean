import ResourceServer.Proofs.Number.Integers
import ResourceServer.Proofs.Store.Editing

namespace ResourceServer

/-!
# What an increment adds up to

An increment takes its numbers as floating-point numbers. Two integers are
rounded first and their sum is rounded again; what comes out is written as an
integer where sixty-four bits hold it, except for the least such integer. So a
member holds the exact sum just where nothing is lost on the way.
-/

open BinaryFormat (double double_ordinary)

namespace Json.Number

/-- What is written for the number nearest to a sum of integers. -/
def written (total : Int) : Json :=
  if (double.nearest total).natAbs < Text.signedLimit64 then
    Json.ofInt (double.nearest total)
  else
    Json.ofDouble (Binary.ofInt total)

/-- An integer is written just where it is what remains and its size is in range. -/
theorem written_eq_ofInt_iff
    {total value : Int} :
    written total = Json.ofInt value ↔
      double.nearest total = value ∧ value.natAbs < Text.signedLimit64 := by
  unfold written
  split
  · rename_i isBelow
    constructor
    · intro same
      cases same
      exact ⟨rfl, isBelow⟩
    · rintro ⟨rfl, -⟩
      rfl
  · rename_i isOver
    constructor
    · unfold Json.ofDouble
      split
      · intro same
        cases same
      · intro same
        cases same
    · rintro ⟨rfl, isBelow⟩
      exact absurd isBelow isOver

theorem reaches_of_fits
    {value : Int}
    (fits : value.natAbs < Text.limit64) :
    double.Reaches value :=
  BinaryFormat.reaches_of_lt double_ordinary fits (by decide)

theorem reaches_nearest_add
    {left right : Int}
    (leftFits : left.natAbs < Text.limit64)
    (rightFits : right.natAbs < Text.limit64) :
    double.Reaches (double.nearest left + double.nearest right) := by
  have leftDoubles := BinaryFormat.natAbs_nearest_le double_ordinary left
  have rightDoubles := BinaryFormat.natAbs_nearest_le double_ordinary right
  have isLimit : Text.limit64 * 4 = 2 ^ 66 := rfl
  have isBelow :
      (double.nearest left + double.nearest right).natAbs < 2 ^ 66 := by
    omega
  exact BinaryFormat.reaches_of_lt double_ordinary isBelow (by decide)

/-- Integers are rounded, added and rounded again. -/
theorem sum_ofInt
    {left right : Int}
    (leftFits : left.natAbs < Text.limit64)
    (rightFits : right.natAbs < Text.limit64) :
    sum (Binary.ofInt left) (Binary.ofInt right) =
      written (double.nearest left + double.nearest right) := by
  have reaches := reaches_nearest_add leftFits rightFits
  have isTotal :=
    Binary.add_ofInt double_ordinary (reaches_of_fits leftFits)
      (reaches_of_fits rightFits)
  simp only [sum, isTotal, Binary.isFinite_ofInt double_ordinary reaches,
    Binary.toInt?_ofInt double_ordinary reaches, written]

end Json.Number

namespace PatchOperation

open Json.Number (written sum_ofInt written_eq_ofInt_iff)

variable {operation : PatchOperation} {content : Json}

theorem change_increment
    (increments : operation.verb = .increment)
    {current amount : Int}
    {members : Record Json}
    {key : String}
    (carries : operation.value = some (Json.ofInt amount))
    (holds : members.get? key = some (Json.ofInt current))
    (currentFits : current.natAbs < Text.limit64)
    (amountFits : amount.natAbs < Text.limit64) :
    operation.change (.object members) key =
      .ok
        (.object
          (members.insert key
            (written (double.nearest current + double.nearest amount)))) := by
  have isSum := sum_ofInt currentFits amountFits
  simp only [change, increments, carries, Option.getD_some, holds]
  rw [← isSum]
  rfl

/--
An increment of an integer by an integer is carried out, and nothing apart from
the member changes. The member holds the exact sum just where rounding gives
it back and it is an integer of sixty-four bits other than the least.
-/
theorem increments_exactly_iff
    {way : List String}
    {key : String}
    {members : Record Json}
    {current amount : Int}
    (increments : operation.verb = .increment)
    (carries : operation.value = some (Json.ofInt amount))
    (isField : Json.Pointer.keys? operation.field = some (way ++ [key]))
    (held : content.at? way = some (.object members))
    (holds : members.get? key = some (Json.ofInt current))
    (currentFits : current.natAbs < Text.limit64)
    (amountFits : amount.natAbs < Text.limit64) :
    ∃ changed,
      operation.apply content = .ok changed ∧
        changed.pointer? operation.field =
          some (written (double.nearest current + double.nearest amount)) ∧
        (changed.pointer? operation.field =
            some (Json.ofInt (current + amount)) ↔
          double.nearest (double.nearest current + double.nearest amount) =
              current + amount ∧
            (current + amount).natAbs < Text.signedLimit64) ∧
        ∀ {other : String} {keys : List String},
          Json.Pointer.keys? other = some keys →
            Json.Apart (way ++ [key]) keys →
              changed.pointer? other = content.pointer? other := by
  obtain ⟨changed, applied, pointsAt, frame⟩ :=
    exists_apply_of_member isField held
      (change_increment increments carries holds currentFits amountFits)
      (fun other differs => Record.get?_insert_of_ne members _ differs)
  rw [Record.get?_insert_self] at pointsAt
  refine ⟨changed, applied, pointsAt, ?_, frame⟩
  rw [pointsAt, Option.some_inj]
  exact written_eq_ofInt_iff

/-- Adding nothing takes one away from an odd integer of fifty-four bits. -/
theorem increments_lose_last_bit :
    let operation : PatchOperation :=
      ⟨.increment, "/n", some (Json.ofInt 0), none⟩
    let content : Json := .object [("n", Json.ofInt 9007199254740993)]
    let changed : Json := .object [("n", Json.ofInt 9007199254740992)]
    operation.Made ∧
      (9007199254740993 + 0 : Int).natAbs < Text.signedLimit64 ∧
      operation.apply content = .ok changed ∧
      changed.pointer? "/n" ≠ some (Json.ofInt (9007199254740993 + 0)) := by
  intro operation content changed
  have made : operation.Made :=
    ⟨.increment, "/n", some (Json.ofInt 0), none, rfl⟩
  have isField : Json.Pointer.keys? operation.field = some ([] ++ ["n"]) := by
    cbv
  have changes :
      operation.change (.object [("n", Json.ofInt 9007199254740993)]) "n" =
        .ok
          (.object
            [("n", written (double.nearest 9007199254740993 + double.nearest 0))]) :=
    change_increment rfl rfl rfl (by decide) (by decide)
  have isWritten :
      written (double.nearest 9007199254740993 + double.nearest 0) =
        Json.ofInt 9007199254740992 :=
    written_eq_ofInt_iff.mpr ⟨by decide, by decide⟩
  have applied : operation.apply content = .ok changed := by
    rw [apply_of_field isField rfl, changes, isWritten]
    rfl
  have pointsAt : changed.pointer? "/n" = some (Json.ofInt 9007199254740992) := by
    cbv
  refine ⟨made, by decide, applied, ?_⟩
  rw [pointsAt]
  decide

/-- Integers that a significand has room for are added exactly. -/
theorem increments_exactly_of_age :
    let operation : PatchOperation :=
      ⟨.increment, "/age", some (Json.ofInt 1), none⟩
    let content : Json := .object [("age", Json.ofInt 41)]
    operation.verb = .increment ∧
      (41 : Int).natAbs < Text.limit64 ∧
      (1 : Int).natAbs < Text.limit64 ∧
      ∃ changed,
        operation.apply content = .ok changed ∧
          changed.pointer? "/age" = some (Json.ofInt 42) := by
  intro operation content
  have isField : Json.Pointer.keys? operation.field = some ([] ++ ["age"]) := by
    cbv
  have isExact :
      double.nearest (double.nearest 41 + double.nearest 1) = 41 + 1 :=
    BinaryFormat.nearest_add_of_holds double_ordinary
      (BinaryFormat.holds_of_le double_ordinary (by decide))
      (BinaryFormat.holds_of_le double_ordinary (by decide))
      (BinaryFormat.holds_of_le double_ordinary (by decide))
  have held : content.at? [] = some (.object [("age", Json.ofInt 41)]) := rfl
  obtain ⟨changed, applied, -, exactly, -⟩ :=
    increments_exactly_iff rfl rfl isField held rfl (by decide) (by decide)
  exact
    ⟨rfl, by decide, by decide, changed, applied,
      exactly.mpr ⟨isExact, by decide⟩⟩

end PatchOperation

end ResourceServer
