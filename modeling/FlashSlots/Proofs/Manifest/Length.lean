import Mathlib
import FlashSlots.Proofs.Manifest.RoundTrip

namespace FlashSlots

open Json (Value Piece)

/-!
# How long a document is

The length of a list or of an object is the sum of the lengths of its parts,
with one more octet for each comma.  A number is as long as it has digits, so
that the document of a manifest keeps its length if the flash addresses of its
regions are replaced by others with as many digits.
-/

namespace Text

/-- A number between two powers of ten has as many digits as they say. -/
theorem length_decimal {n places : Nat} (low : 10 ^ places ≤ n) (high : n < 10 ^ (places + 1)) :
    (decimal n).length = places + 1 := by
  induction places generalizing n with
  | zero =>
    rw [decimal_of_lt high]
    rfl
  | succ places ih =>
    rw [Nat.pow_succ] at low high
    have positive := Nat.pow_pos (n := places) (show 0 < 10 by decide)
    rw [decimal_of_ge (by omega), List.length_append, ih (by omega) (by omega)]
    rfl

end Text

namespace Json

theorem length_renderItems (items : List Value) :
    (renderItems items).length = (items.map fun item => item.render.length + 1).sum - 1 := by
  cases items with
  | nil => rfl
  | cons item rest =>
    have others : (rest.flatMap followingItem).length =
        (rest.map fun item => item.render.length + 1).sum := List.length_flatMap
    rw [renderItems_cons, List.length_append, List.map_cons, List.sum_cons, others]
    omega

/-- How much a member adds to its object: the key, the value, a colon and a
comma. -/
def memberLength (member : List Piece × Value) : Nat :=
  (quote member.1).length + member.2.render.length + 2

theorem length_renderMembers (members : List (List Piece × Value)) :
    (renderMembers members).length = (members.map memberLength).sum - 1 := by
  cases members with
  | nil => rfl
  | cons first rest =>
    have others : (rest.flatMap followingMember).length = (rest.map memberLength).sum := by
      rw [List.length_flatMap]
      congr 1
      apply List.map_congr_left
      intro member _
      simp only [followingMember, memberLength, List.length_cons, List.length_append]
      omega
    rw [renderMembers_cons, List.map_cons, List.sum_cons, ← others]
    simp only [memberLength, List.length_append, List.length_cons]
    omega

end Json

namespace Manifest

/-- A region takes up as much with one flash address as with another that has
as many digits. -/
theorem length_regionValue {region : Region} {old new : UInt32}
    (found : region.flashAddress = some old)
    (digits : (Text.decimal new.toNat).length = (Text.decimal old.toNat).length) :
    (regionValue { region with flashAddress := some new }).render.length =
      (regionValue region).render.length := by
  simp only [regionValue, found, Value.render, List.length_append, Json.length_renderMembers,
    wordMember, Option.map_some, Option.toList_some, List.map_append, List.map_cons, List.map_nil,
    Json.memberLength, digits]

/-- The document of a manifest only gets longer or shorter with its regions. -/
theorem size_toJson_congr {first second : Manifest}
    (same : second = { first with regions := second.regions })
    (lengths : (second.regions.map fun region => (regionValue region).render.length) =
      first.regions.map fun region => (regionValue region).render.length) :
    second.toJson.size = first.toJson.size := by
  have items : (Json.renderItems (second.regions.map regionValue)).length =
      (Json.renderItems (first.regions.map regionValue)).length := by
    have parts := congrArg (fun lengths => (lengths.map (· + 1)).sum - 1) lengths
    simp only [List.map_map] at parts
    rw [Json.length_renderItems, Json.length_renderItems, List.map_map, List.map_map]
    exact parts
  rw [same]
  simp only [size_toJson, toValue, Value.render, List.length_append, Json.length_renderMembers,
    List.map_append, List.map_cons, List.map_nil, Json.memberLength, items]

end Manifest
end FlashSlots
