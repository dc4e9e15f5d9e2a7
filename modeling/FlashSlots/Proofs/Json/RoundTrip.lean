import FlashSlots.Proofs.Json.Grammar

namespace FlashSlots
namespace Json

/-!
# Reading what was written

`Value.render` keeps to the grammar, and so the reader undoes it.  The one
condition is that code units are code units: a piece that is written with four
digits has to be one that four digits can name.  Everything else may be
arbitrary, the nesting included.
-/

/-! ## Strings -/

/-- The piece is one that a document can hold. -/
def Piece.Standard : Piece -> Prop
  | octet _ => True
  | unit code => 0x80 ≤ code ∧ code < 0x10000

/-- What stands between the quotes for a piece. -/
def spell : Piece -> List UInt8
  | .octet byte => escape byte
  | .unit code => escapeUnit code

theorem quote_eq (pieces : List Piece) : quote pieces = 0x22 :: (pieces.flatMap spell ++ [0x22]) :=
  rfl

theorem isHex_digitChar : ∀ n < 16, IsHex n (UInt8.ofNat (Nat.digitChar n).toNat) := by
  unfold IsHex
  decide

theorem spelled_escape (byte : UInt8) : (Piece.octet byte).Spelled (escape byte) := by
  unfold escape
  iterate 7
    split
    · next same =>
      subst same
      exact .short (by decide)
  split
  · next control =>
    have small : byte.toNat < 32 := control
    have spelled := Piece.Spelled.unit (isHex_digitChar 0 (by decide))
      (isHex_digitChar 0 (by decide)) (isHex_digitChar (byte.toNat / 16) (by omega))
      (isHex_digitChar (byte.toNat % 16) (by omega))
    rw [show 0 * 0x1000 + 0 * 0x100 + byte.toNat / 16 * 0x10 + byte.toNat % 16 = byte.toNat by
      omega, Piece.ofUnit, if_pos (by omega), UInt8.ofNat_toNat] at spelled
    exact spelled
  · next noQuote noBackslash _ _ _ _ _ visible =>
    exact .plain (UInt8.not_lt.mp visible) noQuote noBackslash

theorem spelled_escapeUnit {code : Nat} (lower : 0x80 ≤ code) (upper : code < 0x10000) :
    (Piece.unit code).Spelled (escapeUnit code) := by
  have spelled := Piece.Spelled.unit (isHex_digitChar (code / 0x1000) (by omega))
    (isHex_digitChar (code / 0x100 % 16) (by omega)) (isHex_digitChar (code / 0x10 % 16) (by omega))
    (isHex_digitChar (code % 16) (by omega))
  rw [show code / 0x1000 * 0x1000 + code / 0x100 % 16 * 0x100 + code / 0x10 % 16 * 0x10 +
    code % 16 = code by omega, Piece.ofUnit, if_neg (by omega)] at spelled
  exact spelled

theorem spelled_spell {piece : Piece} (standard : piece.Standard) : piece.Spelled (spell piece) := by
  cases piece with
  | octet byte => exact spelled_escape byte
  | unit code => exact spelled_escapeUnit standard.1 standard.2

theorem quoted_quote {pieces : List Piece} (standard : ∀ piece ∈ pieces, piece.Standard) :
    Quoted pieces (quote pieces) := by
  refine ⟨pieces.map spell, ?_, ?_⟩
  · rw [List.forall₂_map_right_iff, List.forall₂_same]
    exact fun piece listed => spelled_spell (standard piece listed)
  · rw [quote_eq, List.flatMap_def]

/-! ## Values -/

mutual

/-- Every code unit in the value is one. -/
def Value.Standard : Value -> Prop
  | .text pieces => ∀ piece ∈ pieces, piece.Standard
  | .list items => ItemsStandard items
  | .object members => MembersStandard members
  | _ => True

/-- Every code unit in these items is one. -/
def ItemsStandard : List Value -> Prop
  | [] => True
  | item :: rest => item.Standard ∧ ItemsStandard rest

/-- Every code unit in these members is one, in their keys too. -/
def MembersStandard : List (List Piece × Value) -> Prop
  | [] => True
  | (key, item) :: rest =>
    (∀ piece ∈ key, piece.Standard) ∧ item.Standard ∧ MembersStandard rest

end

theorem blanks_nil : Blanks [] := nofun

/-- There need not be blanks around a value. -/
theorem Spells.bare {value : Value} {octets : List UInt8} (spelled : Spells (.value value) octets) :
    Spells (.element value) octets := by
  have padded := Spells.element blanks_nil spelled blanks_nil
  rwa [List.nil_append, List.append_nil] at padded

theorem Spells.bareMember {key : List Piece} {value : Value} {octets : List UInt8}
    (standard : ∀ piece ∈ key, piece.Standard) (spelled : Spells (.value value) octets) :
    Spells (.member key value) (quote key ++ [0x3A] ++ octets) := by
  rw [List.append_assoc]
  exact .member blanks_nil (quoted_quote standard) blanks_nil spelled.bare

mutual

theorem spells_render (value : Value) (standard : value.Standard) :
    Spells (.value value) value.render := by
  match value with
  | .null => exact .null
  | .bool true => exact .yes
  | .bool false => exact .no
  | .natural n => exact .natural n
  | .otherNumber =>
    have negative := Spells.number (.inr rfl) 0 .none .none (by decide)
    rwa [Text.decimal_of_lt (by decide)] at negative
  | .text pieces => exact .text (quoted_quote standard)
  | .list [] => exact .emptyList blanks_nil
  | .list (item :: items) =>
    exact .list (spells_items (item :: items) (List.cons_ne_nil _ _) standard)
  | .object [] => exact .emptyObject blanks_nil
  | .object (member :: members) =>
    exact .object (spells_members (member :: members) (List.cons_ne_nil _ _) standard)

theorem spells_items (items : List Value) (nonempty : items ≠ []) (standard : ItemsStandard items) :
    Spells (.items items) (renderItems items) := by
  match items with
  | [] => exact absurd rfl nonempty
  | [item] => exact .lastItem (spells_render item standard.1).bare
  | item :: next :: rest =>
    have later := spells_items (next :: rest) (List.cons_ne_nil _ _) standard.2
    rw [renderItems, List.append_assoc]
    · exact .nextItem (spells_render item standard.1).bare later
    · exact List.cons_ne_nil _ _

theorem spells_members (members : List (List Piece × Value)) (nonempty : members ≠ [])
    (standard : MembersStandard members) : Spells (.members members) (renderMembers members) := by
  match members with
  | [] => exact absurd rfl nonempty
  | [(key, item)] => exact .lastMember (.bareMember standard.1 (spells_render item standard.2.1))
  | (key, item) :: next :: rest =>
    have later := spells_members (next :: rest) (List.cons_ne_nil _ _) standard.2.2
    rw [renderMembers, List.append_assoc]
    · exact .nextMember (.bareMember standard.1 (spells_render item standard.2.1)) later
    · exact List.cons_ne_nil _ _

end

/-- Reading a document that was written gives the value back. -/
theorem parse?_render {value : Value} (standard : value.Standard) :
    parse? value.render = some value :=
  parse?_of_spells (spells_render value standard).bare

/-! ## Items and members one by one -/

/-- An item with the comma in front of it. -/
def followingItem (item : Value) : List UInt8 := 0x2C :: item.render

theorem renderItems_cons (item : Value) (items : List Value) :
    renderItems (item :: items) = item.render ++ items.flatMap followingItem := by
  induction items generalizing item with
  | nil => simp [renderItems]
  | cons next items ih => simp [renderItems, ih next, followingItem]

/-- A member with the comma in front of it. -/
def followingMember (member : List Piece × Value) : List UInt8 :=
  0x2C :: (quote member.1 ++ 0x3A :: member.2.render)

theorem renderMembers_cons (key : List Piece) (item : Value)
    (members : List (List Piece × Value)) :
    renderMembers ((key, item) :: members) =
      quote key ++ 0x3A :: (item.render ++ members.flatMap followingMember) := by
  induction members generalizing key item with
  | nil => simp [renderMembers]
  | cons next members ih =>
    rcases next with ⟨nextKey, nextItem⟩
    simp [renderMembers, ih nextKey nextItem, followingMember]

end Json
end FlashSlots
