import FlashSlots.Proofs.Manifest.RoundTrip
import FlashSlots.Proofs.Package.ValidPlan

namespace FlashSlots

open Layout (SlotIndex Target)
open Flash.Image (pageStart pageStop)

/-!
# What fits a user slot

Packaging moves a cursor through a user slot and checks the writes afterwards;
nowhere does it compute how much room there is.  Still the room is known: the
firmware has what lies between its base and the manifest page, region sizes
rounded up to pages, and the bitstream has what lies below the firmware, or
below the manifest page if there is no firmware.

The cursor leaves the writes stacked: each starts at the page boundary behind
the one before it.  So stacked writes never share a page with each other, and
all of them stay clear of the manifest page exactly if the stack ends below it.
Whether the bitstream stays clear is decided by the first write of the stack,
even if that one is empty.
-/

namespace Flash
namespace Image

theorem dvd_pageStop (address : Nat) : Layout.pageSize ∣ pageStop address :=
  Nat.dvd_mul_left _ _

theorem pageStart_of_dvd {address : Nat} (aligned : Layout.pageSize ∣ address) :
    pageStart address = address :=
  Nat.div_mul_cancel aligned

theorem pageStop_add {address : Nat} (aligned : Layout.pageSize ∣ address) (size : Nat) :
    pageStop (address + size) = address + pageStop size := by
  simp only [pageStop, pageStart, Layout.pageSize] at aligned ⊢
  omega

theorem pageStop_le_iff {size limit : Nat} (aligned : Layout.pageSize ∣ limit) :
    pageStop size ≤ limit ↔ size ≤ limit := by
  simp only [pageStop, pageStart, Layout.pageSize] at aligned ⊢
  omega

end Image
end Flash

open Flash.Image (dvd_pageStop pageStart_of_dvd pageStop_add pageStop_le_iff le_pageStop)

namespace Package

/-- The octets that the pages of these regions take up. -/
def room : List Region -> Nat
  | [] => 0
  | region :: rest => pageStop region.size.toNat + room rest

/-- The regions with their addresses in flash, one behind the other. -/
def packedFrom (start : Nat) (regions : List Region) : List Region :=
  regions.mapIdx fun index region =>
    { region with flashAddress := some (UInt32.ofNat (start + room (regions.take index))) }

/-- The manifest as it goes to a user slot. -/
def packedManifest (slot : SlotIndex) (manifest : Manifest) : Manifest :=
  { manifest with
    regions := packedFrom (Layout.firmwareBase slot).toNat manifest.regions }.stamp

/-- The artifact of the region is there and has the declared size. -/
def Supplied (firmware : List Artifact) (region : Region) : Prop :=
  ∃ artifact, Build.artifact? firmware region.filename = some artifact ∧
    artifact.bytes.size = region.size.toNat

/-- Everything that a user slot asks of a build. -/
structure FitsUserSlot (slot : SlotIndex) (build : Build) : Prop where
  resident : ∀ region ∈ build.manifest.regions, ∃ destination, region.kind = .resident destination
  supplied : ∀ region ∈ build.manifest.regions, Supplied build.firmware region
  firmware : room build.manifest.regions ≤ 0x3FC00
  bitstream : build.bitstream.size ≤ if build.manifest.regions = [] then 0xFFC00 else 0xC0000
  document : (packedManifest slot build.manifest).toJson.size ≤ 1024

theorem packedFrom_cons (start : Nat) (region : Region) (regions : List Region) :
    packedFrom start (region :: regions) =
      { region with flashAddress := some (UInt32.ofNat start) } ::
        packedFrom (start + pageStop region.size.toNat) regions := by
  unfold packedFrom
  rw [List.mapIdx_cons]
  simp only [List.take_zero, List.take_succ_cons, room, Nat.add_assoc]
  rfl

/-! ## Stacked writes -/

/-- The writes stand on top of each other, from one page boundary to another. -/
inductive Stacked : Nat -> List WriteOp -> Nat -> Prop
  | nil {start : Nat} : Stacked start [] start
  | cons {start stop : Nat} {op : WriteOp} {ops : List WriteOp}
      (placed : op.address.toNat = start)
      (rest : Stacked (start + pageStop op.payload.size) ops stop) : Stacked start (op :: ops) stop

namespace Stacked

variable {start stop : Nat} {ops : List WriteOp}

theorem start_le_stop (stacked : Stacked start ops stop) : start ≤ stop := by
  induction stacked with
  | nil => exact Nat.le_refl _
  | cons placed rest ih => exact Nat.le_trans (Nat.le_add_right _ _) ih

theorem address_head {op : WriteOp} (stacked : Stacked start (op :: ops) stop) :
    op.address.toNat = start := by
  cases stacked with
  | cons placed rest => exact placed

theorem bounds (stacked : Stacked start ops stop) (aligned : Layout.pageSize ∣ start) :
    ∀ op ∈ ops, start ≤ pageStart op.address.toNat ∧
      pageStop (op.address.toNat + op.payload.size) ≤ stop := by
  induction stacked with
  | nil =>
    intro op impossible
    cases impossible
  | @cons start stop first ops placed rest ih =>
    have next := ih (Nat.dvd_add aligned (dvd_pageStop _))
    have last := rest.start_le_stop
    intro op listed
    rcases List.mem_cons.mp listed with same | later
    · rw [same, placed, pageStart_of_dvd aligned, pageStop_add aligned]
      exact ⟨Nat.le_refl _, last⟩
    · exact ⟨Nat.le_trans (Nat.le_add_right _ _) (next op later).1, (next op later).2⟩

theorem pairwise_apart (stacked : Stacked start ops stop) (aligned : Layout.pageSize ∣ start) :
    ops.Pairwise WriteOp.Apart := by
  induction stacked with
  | nil => exact .nil
  | @cons start stop first ops placed rest ih =>
    have behind : Layout.pageSize ∣ start + pageStop first.payload.size :=
      Nat.dvd_add aligned (dvd_pageStop _)
    refine .cons ?_ (ih behind)
    intro op listed
    left
    rw [placed, pageStop_add aligned]
    exact (rest.bounds behind op listed).1

/-- Writes that are stacked up from below a page, and all stay clear of it, end
below it. -/
theorem stop_le_of_apart (stacked : Stacked start ops stop) (aligned : Layout.pageSize ∣ start)
    {page : WriteOp} (below : start ≤ pageStart page.address.toNat)
    (taken : pageStart page.address.toNat < pageStop (page.address.toNat + page.payload.size))
    (apart : ∀ op ∈ ops, op.Apart page) : stop ≤ pageStart page.address.toNat := by
  induction stacked with
  | nil => exact below
  | @cons start stop first ops placed rest ih =>
    apply ih (Nat.dvd_add aligned (dvd_pageStop _))
    · have clear := apart first List.mem_cons_self
      rw [WriteOp.Apart, placed, pageStart_of_dvd aligned, pageStop_add aligned] at clear
      omega
    · exact fun op later => apart op (List.mem_cons_of_mem first later)

end Stacked

/-! ## Placing the regions -/

theorem checkRegionKinds_user_iff {slot : SlotIndex} {regions : List Region} :
    checkRegionKinds (.user slot) regions = .ok () ↔
      ∀ region ∈ regions, ∃ destination, region.kind = .resident destination := by
  have accepted : ∀ region : Region, accepts (.user slot) region.kind = true ↔
      ∃ destination, region.kind = .resident destination := by
    intro region
    cases region.kind with
    | executeInPlace => simp [accepts]
    | resident destination => simp [accepts]
  simp only [← accepted]
  unfold checkRegionKinds
  split
  · next region found =>
    have refused := List.find?_some found
    have member := List.mem_of_find?_eq_some found
    constructor
    · intro impossible
      cases impossible
    · intro all
      rw [all region member] at refused
      cases refused
  · next none =>
    simpa using none

/-- A cursor can be moved on as long as the next page boundary is a word. -/
theorem assign_cursor_eq_ok_iff {target : Target} {region : Region} {next address : UInt32}
    {behind : Option UInt32} :
    assign target region (some next) = .ok (address, behind) ↔
      address = next ∧ ∃ cursor, behind = some cursor ∧
        cursor.toNat = pageStop (next.toNat + region.size.toNat) := by
  have up := le_pageStop (next.toNat + region.size.toNat)
  unfold assign
  dsimp only
  cases sum : Word.add? next region.size with
  | none =>
    have large := Word.add?_eq_none_iff.mp sum
    constructor
    · intro impossible
      cases impossible
    · rintro ⟨_, cursor, _, moved⟩
      have bounded := Word.toNat_lt_limit cursor
      omega
  | some stop =>
    have total := Word.add?_eq_some_iff.mp sum
    dsimp only
    cases rounded : Layout.alignUp? stop with
    | none =>
      constructor
      · intro impossible
        cases impossible
      · rintro ⟨_, cursor, _, moved⟩
        rw [← total] at moved
        rw [Layout.alignUp?_eq_some_iff.mpr moved] at rounded
        cases rounded
    | some boundary =>
      have value := Layout.alignUp?_eq_some_iff.mp rounded
      rw [total] at value
      constructor
      · intro assigned
        cases assigned
        exact ⟨rfl, boundary, rfl, value⟩
      · rintro ⟨same, cursor, found, moved⟩
        have equal : cursor = boundary := UInt32.toNat_inj.mp (moved.trans value.symm)
        rw [same, found, equal]

variable {target : Target} {firmware : List Artifact} {cursor : UInt32} {regions : List Region}

/-- Where the cursor puts the regions. -/
theorem placeRegions_packed (aligned : Layout.pageSize ∣ cursor.toNat) {placed : List Region}
    {ops : List WriteOp}
    (found : placeRegions target firmware (some cursor) regions = .ok (placed, ops)) :
    (∀ region ∈ regions, Supplied firmware region) ∧
      placed = packedFrom cursor.toNat regions ∧
      Stacked cursor.toNat ops (cursor.toNat + room regions) := by
  induction regions generalizing cursor placed ops with
  | nil =>
    cases found
    exact ⟨fun _ impossible => (List.not_mem_nil impossible).elim, rfl, .nil⟩
  | cons region rest ih =>
    simp only [placeRegions, bind_eq_ok_iff] at found
    rcases found with
      ⟨artifact, chosen, ⟨address, behind⟩, assigned, ⟨others, otherOps⟩, later, same⟩
    cases same
    rcases assign_cursor_eq_ok_iff.mp assigned with ⟨first, next, moves, boundary⟩
    subst first moves
    rw [pageStop_add aligned] at boundary
    have supply := choose_eq_ok_iff.mp chosen
    rcases ih (boundary ▸ Nat.dvd_add aligned (dvd_pageStop _)) later with
      ⟨supplied, packed, stacked⟩
    rw [boundary] at packed stacked
    refine ⟨List.forall_mem_cons.mpr ⟨⟨artifact, supply⟩, supplied⟩, ?_, ?_⟩
    · rw [packedFrom_cons, packed, UInt32.ofNat_toNat]
    · rw [room, ← Nat.add_assoc]
      exact .cons rfl (supply.2.symm ▸ stacked)

/-- The cursor gets to the end if it stays a word. -/
theorem placeRegions_ok (aligned : Layout.pageSize ∣ cursor.toNat)
    (supplied : ∀ region ∈ regions, Supplied firmware region)
    (small : cursor.toNat + room regions < Word.limit) :
    ∃ placed ops, placeRegions target firmware (some cursor) regions = .ok (placed, ops) := by
  induction regions generalizing cursor with
  | nil => exact ⟨[], [], rfl⟩
  | cons region rest ih =>
    rw [room, ← Nat.add_assoc, ← pageStop_add aligned] at small
    rcases List.forall_mem_cons.mp supplied with ⟨⟨artifact, supply⟩, others⟩
    have value := Word.toNat_ofNat (Nat.lt_of_le_of_lt (Nat.le_add_right _ (room rest)) small)
    rw [← value] at small
    have boundary : Layout.pageSize ∣
        (UInt32.ofNat (pageStop (cursor.toNat + region.size.toNat))).toNat := by
      rw [value]
      exact dvd_pageStop _
    rcases ih boundary others small with ⟨placed, ops, later⟩
    have assigned : assign target region (some cursor) =
        .ok (cursor, some (UInt32.ofNat (pageStop (cursor.toNat + region.size.toNat)))) :=
      assign_cursor_eq_ok_iff.mpr ⟨rfl, _, rfl, value⟩
    refine ⟨{ region with flashAddress := some cursor } :: placed,
      ⟨region.filename, .raw, cursor, artifact.bytes⟩ :: ops, ?_⟩
    simp only [placeRegions, bind_eq_ok_iff]
    exact ⟨artifact, choose_eq_ok_iff.mpr supply, _, assigned, _, later, rfl⟩

/-! ## The writes of a user slot -/

section

variable {bitstream : ByteArray} {manifest : Manifest} {ops : List WriteOp} {stop : Nat}
  (slot : SlotIndex)

theorem pages_of_manifestOp (small : manifest.toJson.size ≤ 1024) :
    pageStart (manifestOp (.user slot) manifest).address.toNat =
        (slot.val + 1) * Layout.slotSize + 0xFFC00 ∧
      pageStop ((manifestOp (.user slot) manifest).address.toNat +
          (manifestOp (.user slot) manifest).payload.size) =
        (slot.val + 1) * Layout.slotSize + Layout.slotSize := by
  have positive := manifest.size_toJson_pos
  have address := (Target.user slot).toNat_manifestAddress
  rw [Target.toNat_base] at address
  simp only [manifestOp, pageStop, pageStart, Layout.pageSize, Layout.slotSize,
    Layout.manifestSize] at address ⊢
  omega

theorem pages_of_bitstreamOp (bitstream : ByteArray) :
    pageStart (bitstreamOp (.user slot) bitstream).address.toNat =
        (slot.val + 1) * Layout.slotSize ∧
      pageStop ((bitstreamOp (.user slot) bitstream).address.toNat +
          (bitstreamOp (.user slot) bitstream).payload.size) =
        (slot.val + 1) * Layout.slotSize + pageStop bitstream.size := by
  have address : (bitstreamOp (.user slot) bitstream).address.toNat =
      (slot.val + 1) * Layout.slotSize := Layout.toNat_bitstreamAddress slot
  have aligned : Layout.pageSize ∣ (slot.val + 1) * Layout.slotSize :=
    Nat.dvd_mul_left_of_dvd ⟨1024, rfl⟩ _
  rw [address]
  exact ⟨pageStart_of_dvd aligned, pageStop_add aligned _⟩

theorem dvd_firmwareBase :
    Layout.pageSize ∣ (Layout.firmwareBase slot).toNat := by
  rw [Layout.toNat_firmwareBase]
  exact Nat.dvd_add (Nat.dvd_mul_left_of_dvd ⟨1024, rfl⟩ _) ⟨768, rfl⟩

variable {slot}

/-- The pages of the firmware lie between its base and the manifest page. -/
theorem pages_of_firmware (stacked : Stacked (Layout.firmwareBase slot).toNat ops stop)
    (room : stop ≤ (Layout.firmwareBase slot).toNat + 0x3FC00) :
    ∀ op ∈ ops, (slot.val + 1) * Layout.slotSize + 0xC0000 ≤ pageStart op.address.toNat ∧
      pageStop (op.address.toNat + op.payload.size) ≤
        (slot.val + 1) * Layout.slotSize + 0xFFC00 := by
  have base := Layout.toNat_firmwareBase slot
  intro op listed
  have bounds := stacked.bounds (dvd_firmwareBase slot) op listed
  simp only [Layout.firmwareOffset] at base
  omega

/-- The room of the bitstream ends at a page boundary. -/
theorem pageStop_bitstream_le
    (fits : bitstream.size ≤ if ops = [] then 0xFFC00 else 0xC0000) :
    pageStop bitstream.size ≤ if ops = [] then 0xFFC00 else 0xC0000 := by
  refine (pageStop_le_iff ?_).mpr fits
  split
  · exact ⟨1023, rfl⟩
  · exact ⟨768, rfl⟩

/-- The overlap check keeps everything in its room. -/
theorem room_of_apart (stacked : Stacked (Layout.firmwareBase slot).toNat ops stop)
    (small : manifest.toJson.size ≤ 1024)
    (apart : (bitstreamOp (.user slot) bitstream ::
      (ops ++ [manifestOp (.user slot) manifest])).Pairwise WriteOp.Apart) :
    stop ≤ (Layout.firmwareBase slot).toNat + 0x3FC00 ∧
      bitstream.size ≤ if ops = [] then 0xFFC00 else 0xC0000 := by
  rcases pages_of_manifestOp slot small with ⟨pageFirst, pageLast⟩
  rcases pages_of_bitstreamOp slot bitstream with ⟨first, last⟩
  have base := Layout.toNat_firmwareBase slot
  have rounded := le_pageStop bitstream.size
  rcases List.pairwise_cons.mp apart with ⟨front, others⟩
  have back := (List.pairwise_append.mp others).2.2
  simp only [Layout.slotSize, Layout.firmwareOffset] at base pageFirst pageLast first last
  constructor
  · have ends : stop ≤ pageStart (manifestOp (.user slot) manifest).address.toNat := by
      apply stacked.stop_le_of_apart (dvd_firmwareBase slot)
      · omega
      · omega
      · exact fun op listed => back op listed _ List.mem_cons_self
    omega
  · cases ops with
    | nil =>
      have clear := front (manifestOp (.user slot) manifest) List.mem_cons_self
      rw [WriteOp.Apart, first, last, pageFirst, pageLast] at clear
      rw [if_pos rfl]
      omega
    | cons op rest =>
      have clear := front op List.mem_cons_self
      have start := stacked.address_head
      have aligned := start.symm ▸ dvd_firmwareBase slot
      have above := le_pageStop (op.address.toNat + op.payload.size)
      rw [WriteOp.Apart, first, last, pageStart_of_dvd aligned] at clear
      rw [if_neg (List.cons_ne_nil op rest)]
      omega

/-- What has its room stays in the slot. -/
theorem inSlot_of_room (stacked : Stacked (Layout.firmwareBase slot).toNat ops stop)
    (small : manifest.toJson.size ≤ 1024)
    (firmware : stop ≤ (Layout.firmwareBase slot).toNat + 0x3FC00)
    (fits : bitstream.size ≤ if ops = [] then 0xFFC00 else 0xC0000) :
    ∀ op ∈ bitstreamOp (.user slot) bitstream :: (ops ++ [manifestOp (.user slot) manifest]),
      op.InSlot (.user slot) := by
  rcases pages_of_manifestOp slot small with ⟨pageFirst, pageLast⟩
  rcases pages_of_bitstreamOp slot bitstream with ⟨first, last⟩
  have base : (Target.user slot).base.toNat = _ := Layout.toNat_bitstreamAddress slot
  have final := (Target.user slot).toNat_stop
  have below : pageStop bitstream.size ≤ 0xFFC00 := by
    have rounded := pageStop_bitstream_le fits
    split at rounded <;> omega
  simp only [Layout.slotSize] at base final pageFirst pageLast first last
  intro op listed
  rcases List.mem_cons.mp listed with isBitstream | others
  · subst isBitstream
    apply WriteOp.InSlot.of_pages <;> omega
  rcases List.mem_append.mp others with isFirmware | isManifest
  · have pages := pages_of_firmware stacked firmware op isFirmware
    simp only [Layout.slotSize] at pages
    apply WriteOp.InSlot.of_pages <;> omega
  · rw [List.mem_singleton.mp isManifest]
    apply WriteOp.InSlot.of_pages <;> omega

/-- What has its room is apart from everything else. -/
theorem apart_of_room (stacked : Stacked (Layout.firmwareBase slot).toNat ops stop)
    (small : manifest.toJson.size ≤ 1024)
    (firmware : stop ≤ (Layout.firmwareBase slot).toNat + 0x3FC00)
    (fits : bitstream.size ≤ if ops = [] then 0xFFC00 else 0xC0000) :
    (bitstreamOp (.user slot) bitstream ::
      (ops ++ [manifestOp (.user slot) manifest])).Pairwise WriteOp.Apart := by
  have page := (pages_of_manifestOp slot small).1
  have last := (pages_of_bitstreamOp slot bitstream).2
  have pages := pages_of_firmware stacked firmware
  have below := pageStop_bitstream_le fits
  refine .cons ?_ (List.pairwise_append.mpr
    ⟨stacked.pairwise_apart (dvd_firmwareBase slot), List.pairwise_singleton _ _, ?_⟩)
  · intro op listed
    left
    rcases List.mem_append.mp listed with isFirmware | isManifest
    · have above := (pages op isFirmware).1
      rw [if_neg (List.ne_nil_of_mem isFirmware)] at below
      omega
    · rw [List.mem_singleton.mp isManifest]
      split at below <;> omega
  · intro op listed other isManifest
    have ends := (pages op listed).2
    rw [List.mem_singleton.mp isManifest]
    left
    omega

end

theorem placeFirmware_user {slot : SlotIndex} {build : Build} {regions : List Region}
    {ops : List WriteOp} (placed : placeFirmware (.user slot) build = .ok (regions, ops)) :
    (∀ region ∈ build.manifest.regions, ∃ destination, region.kind = .resident destination) ∧
      (∀ region ∈ build.manifest.regions, Supplied build.firmware region) ∧
      regions = packedFrom (Layout.firmwareBase slot).toNat build.manifest.regions ∧
      Stacked (Layout.firmwareBase slot).toNat ops
        ((Layout.firmwareBase slot).toNat + room build.manifest.regions) ∧
      (ops = [] ↔ build.manifest.regions = []) := by
  rcases placeFirmware_eq_ok_iff.mp placed with ⟨kinds, moved⟩
  rcases placeRegions_packed (dvd_firmwareBase slot) moved with ⟨supplied, packed, stacked⟩
  refine ⟨checkRegionKinds_user_iff.mp kinds, supplied, packed, stacked, ?_⟩
  have writes := (placeFirmware_carries placed).length_eq
  rw [packed, packedFrom, List.length_mapIdx] at writes
  rw [← List.length_eq_zero_iff, ← List.length_eq_zero_iff, writes]

/-- The regions of a build that fits get their places. -/
theorem exists_placed {slot : SlotIndex} {build : Build} (fits : FitsUserSlot slot build) :
    ∃ regions ops, placeFirmware (.user slot) build = .ok (regions, ops) := by
  have small : (Layout.firmwareBase slot).toNat + room build.manifest.regions < Word.limit := by
    have bounded := slot.isLt
    have firmware := fits.firmware
    rw [Layout.toNat_firmwareBase]
    simp only [Layout.slotCount, Layout.slotSize, Layout.firmwareOffset, Word.limit] at bounded ⊢
    omega
  have moves : ∃ regions ops, placeRegions (.user slot) build.firmware
      (some (Layout.firmwareBase slot)) build.manifest.regions = .ok (regions, ops) :=
    placeRegions_ok (dvd_firmwareBase slot) fits.supplied small
  rcases moves with ⟨regions, ops, moved⟩
  exact ⟨regions, ops,
    placeFirmware_eq_ok_iff.mpr ⟨checkRegionKinds_user_iff.mpr fits.resident, moved⟩⟩

/-- A user slot takes a build exactly if the build fits, and then the manifest
goes to flash with the packed addresses. -/
theorem exists_plan_iff_fitsUserSlot (slot : SlotIndex) (build : Build) :
    ((∃ plan, package (.user slot) build = .ok plan) ↔ FitsUserSlot slot build) ∧
      ∀ plan, package (.user slot) build = .ok plan ->
        plan.manifest = packedManifest slot build.manifest := by
  refine ⟨⟨?_, ?_⟩, ?_⟩
  · rintro ⟨plan, packaged⟩
    rcases package_eq_ok_iff.mp packaged with ⟨regions, ops, placed, same, fits, _, apart⟩
    rcases placeFirmware_user placed with ⟨resident, supplied, packed, stacked, empty⟩
    subst same packed
    have small := of_decide_eq_true fits
    rcases room_of_apart stacked small apart with ⟨firmware, bitstream⟩
    simp only [empty] at bitstream
    exact ⟨resident, supplied, Nat.le_of_add_le_add_left firmware, bitstream, small⟩
  · intro fits
    rcases exists_placed fits with ⟨regions, ops, placed⟩
    rcases placeFirmware_user placed with ⟨_, _, packed, stacked, empty⟩
    subst packed
    have bitstream := fits.bitstream
    simp only [← empty] at bitstream
    have firmware := Nat.add_le_add_left fits.firmware (Layout.firmwareBase slot).toNat
    exact ⟨_, package_eq_ok_iff.mpr ⟨_, ops, placed, rfl, decide_eq_true fits.document,
      inSlot_of_room stacked fits.document firmware bitstream,
      apart_of_room stacked fits.document firmware bitstream⟩⟩
  · intro plan packaged
    rcases package_eq_ok_iff.mp packaged with ⟨regions, ops, placed, same, _⟩
    rcases placeFirmware_user placed with ⟨_, _, packed, _⟩
    rw [same, packed]
    rfl

end Package
end FlashSlots
