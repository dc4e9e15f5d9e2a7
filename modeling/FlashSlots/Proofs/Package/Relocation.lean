import FlashSlots.Proofs.Manifest.Length
import FlashSlots.Proofs.Package.Capacity

namespace FlashSlots

open Layout (SlotIndex Target)
open Flash.Image (pageStart pageStop)

/-!
# User slots are interchangeable

A build that goes into one user slot goes into every other one, and its plan is
moved as a whole.  Slots are whole numbers of pages apart, so that page
boundaries, bounds and overlaps move with the addresses.  Only the document of
the manifest could make a difference, as it holds the addresses in decimal; but
every address of a user slot has seven digits.
-/

namespace Layout

/-- How far the second slot is from the first one, in octets. -/
def SlotIndex.distance (first second : SlotIndex) : Int :=
  ((second.val : Int) - first.val) * slotSize

/-- The second number is the first one, moved from slot to slot. -/
def Moves (first second : SlotIndex) (old new : Nat) : Prop :=
  (new : Int) = old + first.distance second

namespace Moves

variable {first second : SlotIndex} {old new : Nat}

theorem add (moves : Moves first second old new) (size : Nat) :
    Moves first second (old + size) (new + size) := by
  unfold Moves at moves ⊢
  omega

theorem pageStart (moves : Moves first second old new) :
    Moves first second (pageStart old) (pageStart new) := by
  simp only [Moves, SlotIndex.distance, slotSize, Flash.Image.pageStart, pageSize] at moves ⊢
  omega

theorem pageStop (moves : Moves first second old new) :
    Moves first second (pageStop old) (pageStop new) :=
  (moves.add _).pageStart

theorem le_iff {other otherNew : Nat} (moves : Moves first second old new)
    (otherMoves : Moves first second other otherNew) : new ≤ otherNew ↔ old ≤ other := by
  unfold Moves at moves otherMoves
  omega

end Moves

theorem moves_base (first second : SlotIndex) :
    Moves first second (Target.user first).base.toNat (Target.user second).base.toNat := by
  rw [Target.toNat_base, Target.toNat_base]
  simp only [Moves, SlotIndex.distance, slotSize]
  omega

theorem moves_stop (first second : SlotIndex) :
    Moves first second (Target.user first).stop.toNat (Target.user second).stop.toNat := by
  rw [Target.toNat_stop, Target.toNat_stop]
  exact (moves_base first second).add slotSize

theorem moves_firmwareBase (first second : SlotIndex) :
    Moves first second (firmwareBase first).toNat (firmwareBase second).toNat := by
  simp only [toNat_firmwareBase, Moves, SlotIndex.distance, slotSize, firmwareOffset]
  omega

theorem moves_manifestAddress (first second : SlotIndex) :
    Moves first second (Target.user first).manifestAddress.toNat
      (Target.user second).manifestAddress.toNat := by
  have base := moves_base first second
  rw [Target.toNat_manifestAddress, Target.toNat_manifestAddress]
  simp only [Moves, slotSize, manifestSize] at base ⊢
  omega

/-- Every address of a user slot has seven digits. -/
theorem length_decimal_of_inside {slot : SlotIndex} {address : Nat}
    (above : (Target.user slot).base.toNat ≤ address)
    (below : address ≤ (Target.user slot).stop.toNat) : (Text.decimal address).length = 7 := by
  have bounded := slot.isLt
  rw [Target.toNat_stop] at below
  rw [Target.toNat_base] at above below
  simp only [slotSize, slotCount] at above below bounded
  apply Text.length_decimal <;> omega

end Layout

open Layout (Moves)

namespace Package

variable {first second : SlotIndex}

/-- The write is the same, but for its address, which has moved, and for its
payload, which is only as long. -/
structure OpMoves (first second : SlotIndex) (op other : WriteOp) : Prop where
  region : other.region = op.region
  kind : other.kind = op.kind
  address : Moves first second op.address.toNat other.address.toNat
  size : other.payload.size = op.payload.size

/-- The region is the same, but for its flash address, which has moved. -/
def RegionMoves (first second : SlotIndex) (region other : Region) : Prop :=
  ∃ old new, region.flashAddress = some old ∧ Moves first second old.toNat new.toNat ∧
    other = { region with flashAddress := some new }

namespace OpMoves

variable {op other : WriteOp}

theorem pageStart (moves : OpMoves first second op other) :
    Moves first second (pageStart op.address.toNat) (pageStart other.address.toNat) :=
  moves.address.pageStart

theorem pageStop (moves : OpMoves first second op other) :
    Moves first second (pageStop (op.address.toNat + op.payload.size))
      (pageStop (other.address.toNat + other.payload.size)) := by
  rw [moves.size]
  exact (moves.address.add _).pageStop

theorem inSlot (moves : OpMoves first second op other) (inside : op.InSlot (.user first)) :
    other.InSlot (.user second) :=
  .of_pages ((Layout.moves_base first second).le_iff moves.pageStart |>.mpr inside.2.1)
    (moves.pageStop.le_iff (Layout.moves_stop first second) |>.mpr inside.2.2)

theorem apart {next otherNext : WriteOp} (moves : OpMoves first second op other)
    (nextMoves : OpMoves first second next otherNext) (apart : op.Apart next) :
    other.Apart otherNext := by
  rcases apart with before | behind
  · exact .inl ((moves.pageStop.le_iff nextMoves.pageStart).mpr before)
  · exact .inr ((nextMoves.pageStop.le_iff moves.pageStart).mpr behind)

end OpMoves

/-! ## Placing the regions -/

/-- From a cursor that has moved, the regions get places that have moved.  The
cursor stays a word, as all of it happens inside the slot. -/
theorem placeRegions_moves {firmware : List Artifact} {regions placed : List Region}
    {ops : List WriteOp} {cursor moved : UInt32}
    (found : placeRegions (.user first) firmware (some cursor) regions = .ok (placed, ops))
    (inside : ∀ op ∈ ops, op.InSlot (.user first))
    (moves : Moves first second cursor.toNat moved.toNat) :
    ∃ others otherOps,
      placeRegions (.user second) firmware (some moved) regions = .ok (others, otherOps) ∧
        List.Forall₂ (RegionMoves first second) placed others ∧
        List.Forall₂ (OpMoves first second) ops otherOps ∧
        otherOps.map WriteOp.payload = ops.map WriteOp.payload := by
  induction regions generalizing cursor moved placed ops with
  | nil =>
    cases found
    exact ⟨[], [], rfl, .nil, .nil, rfl⟩
  | cons region rest ih =>
    simp only [placeRegions, bind_eq_ok_iff] at found
    rcases found with
      ⟨artifact, chosen, ⟨address, behind⟩, assigned, ⟨later, laterOps⟩, followed, same⟩
    cases same
    rcases assign_cursor_eq_ok_iff.mp assigned with ⟨start, next, continues, boundary⟩
    subst start continues
    rcases List.forall_mem_cons.mp inside with ⟨here, others⟩
    have size := (choose_eq_ok_iff.mp chosen).2
    have op : OpMoves first second ⟨region.filename, .raw, address, artifact.bytes⟩
        ⟨region.filename, .raw, moved, artifact.bytes⟩ := ⟨rfl, rfl, moves, rfl⟩
    have stops := (moves.add region.size.toNat).pageStop
    have ends := (op.inSlot here).2.2
    rw [size] at ends
    have value := Word.toNat_ofNat (Nat.lt_of_le_of_lt ends (Word.toNat_lt_limit _))
    rw [← boundary, ← value] at stops
    rcases ih followed others stops with ⟨moveds, movedOps, continued, regionsMove, opsMove, same⟩
    have assigned : assign (.user second) region (some moved) = .ok (moved, some _) :=
      assign_cursor_eq_ok_iff.mpr ⟨rfl, _, rfl, value⟩
    refine ⟨{ region with flashAddress := some moved } :: moveds,
      ⟨region.filename, .raw, moved, artifact.bytes⟩ :: movedOps, ?_,
      .cons ⟨address, moved, rfl, moves, rfl⟩ regionsMove, .cons op opsMove, ?_⟩
    · simp only [placeRegions, bind_eq_ok_iff]
      exact ⟨artifact, chosen, _, assigned, _, continued, rfl⟩
    · rw [List.map_cons, List.map_cons, same]

/-! ## The document -/

/-- Regions with moved addresses take up as much in a document. -/
theorem lengths_of_moves {regions others : List Region}
    (moves : List.Forall₂ (RegionMoves first second) regions others)
    (inside : ∀ region ∈ regions, ∀ address, region.flashAddress = some address ->
      (Target.user first).base.toNat ≤ address.toNat ∧
        address.toNat ≤ (Target.user first).stop.toNat) :
    (others.map fun region => (Manifest.regionValue region).render.length) =
      regions.map fun region => (Manifest.regionValue region).render.length := by
  induction moves with
  | nil => rfl
  | @cons region other regions others moved _ ih =>
    rcases List.forall_mem_cons.mp inside with ⟨here, later⟩
    rcases moved with ⟨old, new, found, moves, same⟩
    rcases here old found with ⟨above, below⟩
    have oldDigits := Layout.length_decimal_of_inside above below
    have newDigits := Layout.length_decimal_of_inside
      ((Layout.moves_base first second).le_iff moves |>.mpr above)
      (moves.le_iff (Layout.moves_stop first second) |>.mpr below)
    rw [List.map_cons, List.map_cons, ih later, same,
      Manifest.length_regionValue found (newDigits.trans oldDigits.symm)]

/-- The flash address of a region with a write in the slot lies in the slot. -/
theorem address_inside {firmware : List Artifact} {regions : List Region} {ops : List WriteOp}
    {target : Target} (carried : List.Forall₂ (Carries firmware) regions ops)
    (inside : ∀ op ∈ ops, op.InSlot target) :
    ∀ region ∈ regions, ∀ address, region.flashAddress = some address ->
      target.base.toNat ≤ address.toNat ∧ address.toNat ≤ target.stop.toNat := by
  intro region listed address found
  rcases exists_write carried listed with ⟨op, member, artifact, _, _, placed, _⟩
  rw [found, Option.some.injEq] at placed
  rcases inside op member with ⟨_, above, below⟩
  have first := Flash.Image.pageStart_le op.address.toNat
  have last := Flash.Image.le_pageStop (op.address.toNat + op.payload.size)
  rw [placed]
  omega

/-! ## Plans -/

/-- The second plan is the first one, moved from slot to slot. -/
structure Relocated (first second : SlotIndex) (plan other : WritePlan) : Prop where
  ops : List.Forall₂ (OpMoves first second) plan.ops other.ops
  /-- The last write of a plan is that of its manifest. -/
  last : plan.ops.getLast? = some (manifestOp (.user first) plan.manifest) ∧
    other.ops.getLast? = some (manifestOp (.user second) other.manifest)
  payloads : other.ops.dropLast.map WriteOp.payload = plan.ops.dropLast.map WriteOp.payload
  document : other.manifest.toJson.size = plan.manifest.toJson.size
  manifest : other.manifest = { plan.manifest with regions := other.manifest.regions }
  regions : List.Forall₂ (RegionMoves first second) plan.manifest.regions other.manifest.regions

/-- Every write of the moved plan comes from one of the original. -/
theorem exists_origin {ops others : List WriteOp}
    (moves : List.Forall₂ (OpMoves first second) ops others) {other : WriteOp}
    (listed : other ∈ others) : ∃ op ∈ ops, OpMoves first second op other := by
  induction moves with
  | nil => cases listed
  | cons moved _ ih =>
    rcases List.mem_cons.mp listed with same | later
    · exact ⟨_, List.mem_cons_self, same ▸ moved⟩
    · rcases ih later with ⟨op, member, moves⟩
      exact ⟨op, List.mem_cons_of_mem _ member, moves⟩

theorem pairwise_moves {ops others : List WriteOp}
    (moves : List.Forall₂ (OpMoves first second) ops others)
    (apart : ops.Pairwise WriteOp.Apart) : others.Pairwise WriteOp.Apart := by
  rcases List.forall₂_iff_get.mp moves with ⟨length, each⟩
  rw [List.pairwise_iff_getElem] at apart ⊢
  intro i j inside otherInside ordered
  exact (each i (length ▸ inside) inside).apart (each j (length ▸ otherInside) otherInside)
    (apart i j (length ▸ inside) (length ▸ otherInside) ordered)

theorem ops_proposal (target : Target) (build : Build) (regions : List Region)
    (ops : List WriteOp) :
    (proposal target build regions ops).ops = (bitstreamOp target build.bitstream :: ops) ++
      [manifestOp target (proposal target build regions ops).manifest] := rfl

theorem exists_relocated {build : Build} {plan : WritePlan}
    (packaged : package (.user first) build = .ok plan) (second : SlotIndex) :
    ∃ other, package (.user second) build = .ok other ∧ Relocated first second plan other := by
  rcases package_eq_ok_iff.mp packaged with ⟨regions, ops, placed, same, fits, inside, apart⟩
  rcases placeFirmware_eq_ok_iff.mp placed with ⟨kinds, moved⟩
  have order : plan.ops = (bitstreamOp (.user first) build.bitstream :: ops) ++
      [manifestOp (.user first) plan.manifest] := by rw [same, ops_proposal]
  have firmwareInside : ∀ op ∈ ops, op.InSlot (.user first) := by
    intro op listed
    apply inside op
    rw [order]
    exact List.mem_append_left _ (List.mem_cons_of_mem _ listed)
  rcases placeRegions_moves moved firmwareInside (Layout.moves_firmwareBase first second) with
    ⟨others, otherOps, otherMoved, regionsMove, opsMove, payloads⟩
  generalize made : proposal (.user second) build others otherOps = other
  have otherOrder : other.ops = (bitstreamOp (.user second) build.bitstream :: otherOps) ++
      [manifestOp (.user second) other.manifest] := by rw [← made, ops_proposal]
  have manifest : other.manifest = { plan.manifest with regions := other.manifest.regions } := by
    rw [same, ← made]
    rfl
  have entered : plan.manifest.regions = regions := by rw [same]; rfl
  have otherEntered : other.manifest.regions = others := by rw [← made]; rfl
  have document : other.manifest.toJson.size = plan.manifest.toJson.size := by
    apply Manifest.size_toJson_congr manifest
    rw [entered, otherEntered]
    exact lengths_of_moves regionsMove
      (address_inside (placeFirmware_carries placed) firmwareInside)
  have allMove : List.Forall₂ (OpMoves first second) plan.ops other.ops := by
    rw [order, otherOrder]
    refine List.rel_append (.cons ⟨rfl, rfl, Layout.moves_base first second, rfl⟩ opsMove) ?_
    exact .cons ⟨rfl, rfl, Layout.moves_manifestAddress first second, document⟩ .nil
  have otherPlaced : placeFirmware (.user second) build = .ok (others, otherOps) :=
    placeFirmware_eq_ok_iff.mpr
      ⟨checkRegionKinds_user_iff.mpr (checkRegionKinds_user_iff.mp kinds), otherMoved⟩
  have otherInside : ∀ op ∈ other.ops, op.InSlot (.user second) := by
    intro op listed
    rcases exists_origin allMove listed with ⟨origin, originListed, moves⟩
    exact moves.inSlot (inside origin originListed)
  refine ⟨other, package_eq_ok_iff.mpr ⟨others, otherOps, otherPlaced, made.symm, ?_, otherInside,
    pairwise_moves allMove apart⟩, allMove, ?_, ?_, document, manifest, ?_⟩
  · exact decide_eq_true (Nat.le_trans (Nat.le_of_eq document) (of_decide_eq_true fits))
  · rw [order, otherOrder, List.getLast?_concat, List.getLast?_concat]
    exact ⟨rfl, rfl⟩
  · rw [order, otherOrder, List.dropLast_concat, List.dropLast_concat, List.map_cons,
      List.map_cons, payloads]
    rfl
  · rw [entered, otherEntered]
    exact regionsMove

/-- A build has a plan for one user slot exactly if it has one for any other
user slot, and then the two plans are the same but for their place: each address
has moved from slot to slot, in the writes and in the manifest, and the
documents of the manifests are equally long. -/
theorem package_in_other_slot (first second : SlotIndex) (build : Build) :
    ((∃ plan, package (.user first) build = .ok plan) ↔
        ∃ plan, package (.user second) build = .ok plan) ∧
      ∀ plan other, package (.user first) build = .ok plan ->
        package (.user second) build = .ok other -> Relocated first second plan other := by
  refine ⟨⟨?_, ?_⟩, ?_⟩
  · rintro ⟨plan, packaged⟩
    rcases exists_relocated packaged second with ⟨other, found, _⟩
    exact ⟨other, found⟩
  · rintro ⟨plan, packaged⟩
    rcases exists_relocated packaged first with ⟨other, found, _⟩
    exact ⟨other, found⟩
  · intro plan other packaged otherPackaged
    rcases exists_relocated packaged second with ⟨moved, found, relocated⟩
    cases found.symm.trans otherPackaged
    exact relocated

end Package
end FlashSlots
