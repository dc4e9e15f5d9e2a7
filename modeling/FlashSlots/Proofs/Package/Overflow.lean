import FlashSlots.Proofs.Package.Capacity

namespace FlashSlots

open Layout (SlotIndex Span Target)
open Flash.Image (pageStart pageStop dvd_pageStop pageStop_add le_pageStop)

/-!
# Address arithmetic that leaves the 32-bit range

Packaging computes with 32-bit words.  The addresses of a slot and the pages of
a write are taken without looking whether they are words, because a slot lies
on the chip and pages are only asked for behind a bounds check.  Below these
computations are made once more with every operation checked, and they never
leave the range.

The cursor of a user slot is different.  It moves before anything is checked
against the slot, so that it can get to the end of the addresses.  Adding the
size of a region is checked, and a region that ends behind the last address is
refused.  Rounding the sum up to a page is not: a region that ends within the
last page of the addresses puts the cursor on the address behind them.
-/

namespace Word

/-- The difference, unless it leaves the range. -/
def sub? (first second : UInt32) : Option UInt32 :=
  if second ≤ first then some (first - second) else none

/-- The product, unless it leaves the range. -/
def mul? (first second : UInt32) : Option UInt32 :=
  ofNat? (first.toNat * second.toNat)

theorem sub?_eq_some_iff {first second difference : UInt32} :
    sub? first second = some difference ↔
      difference.toNat + second.toNat = first.toNat := by
  unfold sub?
  split
  · next ordered =>
    have value := UInt32.toNat_sub_of_le _ _ ordered
    rw [UInt32.le_iff_toNat_le] at ordered
    rw [Option.some.injEq, ← UInt32.toNat_inj, value]
    omega
  · next larger =>
    rw [UInt32.le_iff_toNat_le] at larger
    constructor
    · intro impossible
      cases impossible
    · intro same
      omega

theorem mul?_eq_some_iff {first second product : UInt32} :
    mul? first second = some product ↔ product.toNat = first.toNat * second.toNat :=
  ofNat?_eq_some_iff

end Word

namespace Layout

/-! ## The addresses of a slot, checked -/

/-- How far a user slot lies behind the first one. -/
def slotOffset? (slot : SlotIndex) : Option UInt32 :=
  Word.mul? (UInt32.ofNat slot.val) 0x100000

def firmwareBase? (slot : SlotIndex) : Option UInt32 := do
  Word.add? 0x1C0000 (← slotOffset? slot)

/-- The first page boundary at or below an address. -/
def alignDown? (address : UInt32) : Option UInt32 := Word.sub? address (address % 1024)

/-- The pages of the addresses in a range. -/
def Span.pages? (range : Span) : Option Span := do
  let length ← Word.sub? range.stop range.start
  let start ← alignDown? range.start
  let last ← Word.add? range.start length
  let stop ← alignUp? last
  return ⟨start, stop⟩

namespace Target

def base? : Target -> Option UInt32
  | bootloader => some 0
  | user slot => do Word.add? 0x100000 (← slotOffset? slot)

def stop? (target : Target) : Option UInt32 := do Word.add? (← target.base?) 0x100000

def manifestAddress? (target : Target) : Option UInt32 := do Word.sub? (← target.stop?) 1024

end Target

theorem slotOffset?_eq (slot : SlotIndex) :
    ∃ offset, slotOffset? slot = some offset ∧ offset.toNat = slot.val * slotSize := by
  have bounded := slot.isLt
  simp only [slotCount] at bounded
  have index : (UInt32.ofNat slot.val).toNat = slot.val :=
    Word.toNat_ofNat (by simp only [Word.limit]; omega)
  have small : slot.val * slotSize < Word.limit := by
    simp only [slotSize, Word.limit]
    omega
  refine ⟨UInt32.ofNat (slot.val * slotSize), ?_, Word.toNat_ofNat small⟩
  rw [slotOffset?, Word.mul?_eq_some_iff, Word.toNat_ofNat small, index]
  rfl

theorem firmwareBase?_eq (slot : SlotIndex) : firmwareBase? slot = some (firmwareBase slot) := by
  rcases slotOffset?_eq slot with ⟨offset, found, value⟩
  have first : (0x1C0000 : UInt32).toNat = slotSize + firmwareOffset := rfl
  rw [firmwareBase?, found, Option.bind_eq_bind, Option.bind_some, Word.add?_eq_some_iff,
    toNat_firmwareBase, value, first, Nat.succ_mul]
  omega

theorem Target.base?_eq (target : Target) : target.base? = some target.base := by
  cases target with
  | bootloader => rfl
  | user slot =>
    rcases slotOffset?_eq slot with ⟨offset, found, value⟩
    have first : (0x100000 : UInt32).toNat = slotSize := rfl
    rw [base?, found, Option.bind_eq_bind, Option.bind_some, Word.add?_eq_some_iff, value, first,
      base, toNat_bitstreamAddress, Nat.succ_mul, Nat.add_comm]

theorem Target.stop?_eq (target : Target) : target.stop? = some target.stop := by
  rw [stop?, base?_eq, Option.bind_eq_bind, Option.bind_some, Word.add?_eq_some_iff, toNat_stop]
  rfl

theorem Target.manifestAddress?_eq (target : Target) :
    target.manifestAddress? = some target.manifestAddress := by
  have page : (1024 : UInt32).toNat = manifestSize := rfl
  rw [manifestAddress?, stop?_eq, Option.bind_eq_bind, Option.bind_some, Word.sub?_eq_some_iff,
    toNat_stop, toNat_manifestAddress, page]
  simp only [slotSize, manifestSize]
  omega

/-! ## The pages of a range, checked -/

theorem alignDown?_eq (address : UInt32) : alignDown? address = some (alignDown address) := by
  rw [alignDown?, Word.sub?_eq_some_iff, toNat_alignDown, UInt32.toNat_mod]
  exact Nat.div_add_mod' address.toNat 1024

/-- A range that is not reversed has the pages that are computed without
looking. -/
theorem Span.pages?_eq {range : Span} (ordered : range.start ≤ range.stop) :
    range.pages? = pageSpan? range.start (range.stop - range.start) := by
  have length : Word.sub? range.stop range.start = some (range.stop - range.start) :=
    if_pos ordered
  rw [Span.pages?, length, alignDown?_eq]
  rfl

end Layout

theorem WriteOp.pages?_of_range {op : WriteOp} {range : Span} (ranged : op.range? = some range)
    (inside : range.stop.toNat ≤ Layout.flashSize) :
    ∃ pages, range.pages? = some pages ∧ op.pageSpan? = some pages := by
  rcases range?_eq_some_iff.mp ranged with ⟨start, stop⟩
  have ordered : range.start ≤ range.stop := by
    rw [UInt32.le_iff_toNat_le, start, stop]
    exact Nat.le_add_right _ _
  have onChip : op.OnChip := by
    rw [stop] at inside
    exact inside
  rcases pageSpan?_of_onChip onChip with ⟨pages, found⟩
  have same : op.pageSpan? = range.pages? := by
    rw [pageSpan?, ranged, Option.bind_eq_bind, Option.bind_some, if_pos inside,
      Layout.Span.pages?_eq ordered]
  exact ⟨pages, same ▸ found, found⟩

namespace Package

/-! ## Where the cursor leaves the range -/

theorem choose_ne_overflow {firmware : List Artifact} {region : Region} :
    choose firmware region ≠ .error .overflow := by
  unfold choose
  split
  · nofun
  · split <;> nofun

section

variable {target : Target} {region : Region} {next : UInt32}

/-- The sum is a word, but not the page boundary behind it. -/
theorem assign_eq_overflow_iff :
    assign target region (some next) = .error .overflow ↔
      Word.limit - Layout.pageSize < next.toNat + region.size.toNat ∧
        next.toNat + region.size.toNat < Word.limit := by
  unfold assign
  dsimp only
  cases sum : Word.add? next region.size with
  | none =>
    have large := Word.add?_eq_none_iff.mp sum
    constructor
    · nofun
    · rintro ⟨_, small⟩
      exact absurd small (Nat.not_lt.mpr large)
  | some stop =>
    have total := Word.add?_eq_some_iff.mp sum
    have small := Word.toNat_lt_limit stop
    rw [← total]
    dsimp only
    cases rounded : Layout.alignUp? stop with
    | none => exact ⟨fun _ => ⟨Layout.alignUp?_eq_none_iff.mp rounded, small⟩, fun _ => rfl⟩
    | some boundary =>
      constructor
      · nofun
      · rintro ⟨large, _⟩
        rw [Layout.alignUp?_eq_none_iff.mpr large] at rounded
        cases rounded

/-- A region that ends behind the last address is refused. -/
theorem assign_of_past (past : Word.limit ≤ next.toNat + region.size.toNat) :
    assign target region (some next) =
      .error (.invalid (.slotBoundaryExceeded region.filename ⟨next, Word.greatest⟩ target)) := by
  rw [assign, Word.add?_eq_none_iff.mpr past]

end

section

variable {target : Target} {firmware : List Artifact} {cursor : UInt32} {regions : List Region}
  {cause : PackageError}

/-- Placing fails at the first region that has no artifact or no address.  The
regions before it are all there, and the cursor has moved over their pages. -/
theorem placeRegions_eq_error_iff (aligned : Layout.pageSize ∣ cursor.toNat) :
    placeRegions target firmware (some cursor) regions = .error cause ↔
      ∃ front region back next, regions = front ++ region :: back ∧
        (∀ other ∈ front, Supplied firmware other) ∧
        next.toNat = cursor.toNat + room front ∧
        (choose firmware region = .error cause ∨
          Supplied firmware region ∧ assign target region (some next) = .error cause) := by
  induction regions generalizing cursor with
  | nil => simp [placeRegions]
  | cons first rest ih =>
    simp only [placeRegions, bind_eq_error_iff]
    constructor
    · rintro (missing | ⟨artifact, chosen, unplaced | ⟨⟨address, behind⟩, assigned, failed⟩⟩)
      · exact ⟨[], first, rest, cursor, rfl, List.forall_mem_nil _, rfl, .inl missing⟩
      · have supply : Supplied firmware first := ⟨artifact, choose_eq_ok_iff.mp chosen⟩
        exact ⟨[], first, rest, cursor, rfl, List.forall_mem_nil _, rfl, .inr ⟨supply, unplaced⟩⟩
      · rcases assign_cursor_eq_ok_iff.mp assigned with ⟨_, moved, same, boundary⟩
        subst same
        rw [pageStop_add aligned] at boundary
        rcases failed with failed | ⟨_, _, impossible⟩
        · rcases (ih (boundary ▸ Nat.dvd_add aligned (dvd_pageStop _))).mp failed with
            ⟨front, region, back, next, split, supplied, value, stuck⟩
          have supply : Supplied firmware first := ⟨artifact, choose_eq_ok_iff.mp chosen⟩
          refine ⟨first :: front, region, back, next, split ▸ rfl,
            List.forall_mem_cons.mpr ⟨supply, supplied⟩, ?_, stuck⟩
          rw [value, boundary, room, Nat.add_assoc]
        · cases impossible
    · rintro ⟨front, region, back, next, split, supplied, value, stuck⟩
      cases front with
      | nil =>
        cases split
        have same : next = cursor := UInt32.toNat_inj.mp value
        subst same
        rcases stuck with missing | ⟨⟨artifact, supply⟩, unplaced⟩
        · exact .inl missing
        · exact .inr ⟨artifact, choose_eq_ok_iff.mpr supply, .inl unplaced⟩
      | cons head front =>
        cases split
        rcases List.forall_mem_cons.mp supplied with ⟨⟨artifact, supply⟩, others⟩
        rw [room, ← Nat.add_assoc, ← pageStop_add aligned] at value
        have bounded := Word.toNat_lt_limit next
        have boundary := Word.toNat_ofNat (n := pageStop (cursor.toNat + first.size.toNat))
          (by omega)
        have moved : assign target first (some cursor) = .ok (cursor, some (UInt32.ofNat
            (pageStop (cursor.toNat + first.size.toNat)))) :=
          assign_cursor_eq_ok_iff.mpr ⟨rfl, _, rfl, boundary⟩
        refine .inr ⟨artifact, choose_eq_ok_iff.mpr supply, .inr ⟨_, moved, .inl ?_⟩⟩
        have onBoundary : Layout.pageSize ∣
            (UInt32.ofNat (pageStop (cursor.toNat + first.size.toNat))).toNat := by
          rw [boundary]
          exact dvd_pageStop _
        refine (ih onBoundary).mpr ⟨front, region, back, next, rfl, others, ?_, stuck⟩
        rw [value, boundary]

end

/-- Without a cursor no address is computed. -/
theorem assign_without_cursor (target : Target) (region : Region) :
    assign target region none = .error (.invalid (.missingFlashAddress region.filename)) ∨
      ∃ address, assign target region none = .ok (address, none) := by
  rw [assign]
  cases region.flashAddress with
  | none => exact .inl rfl
  | some address => exact .inr ⟨address, rfl⟩

theorem placeRegions_ne_overflow {target : Target} {firmware : List Artifact}
    (regions : List Region) : placeRegions target firmware none regions ≠ .error .overflow := by
  induction regions with
  | nil => nofun
  | cons region rest ih =>
    intro failed
    simp only [placeRegions, bind_eq_error_iff] at failed
    rcases assign_without_cursor target region with refused | ⟨address, kept⟩
    · rcases failed with missing | ⟨_, _, unplaced | ⟨_, assigned, _⟩⟩
      · exact choose_ne_overflow missing
      · cases refused.symm.trans unplaced
      · cases refused.symm.trans assigned
    · rcases failed with missing | ⟨_, _, unplaced | ⟨_, assigned, later | ⟨_, _, ended⟩⟩⟩
      · exact choose_ne_overflow missing
      · cases kept.symm.trans unplaced
      · cases kept.symm.trans assigned
        exact ih later
      · cases ended

theorem placeFirmware_eq_error_iff {target : Target} {build : Build} {cause : PackageError} :
    placeFirmware target build = .error cause ↔
      (∃ refusal, checkRegionKinds target build.manifest.regions = .error refusal ∧
        cause = .invalid refusal) ∨
      checkRegionKinds target build.manifest.regions = .ok () ∧
        placeRegions target build.firmware (firstCursor target) build.manifest.regions =
          .error cause := by
  unfold placeFirmware
  cases checkRegionKinds target build.manifest.regions with
  | error refusal => simp [eq_comm]
  | ok accepted => simp

/-! ## What packaging makes of it -/

/-- The cursor of the slot gets to this region and stands at this address: the
slot takes every region, and up to this one all of them are there with the size
that they declare. -/
structure Reaches (slot : SlotIndex) (build : Build) (front : List Region) (region : Region)
    (start : UInt32) : Prop where
  listed : ∃ back, build.manifest.regions = front ++ region :: back
  resident : ∀ other ∈ build.manifest.regions, ∃ destination, other.kind = .resident destination
  before : ∀ other ∈ front, Supplied build.firmware other
  supplied : Supplied build.firmware region
  start : start.toNat = (Layout.firmwareBase slot).toNat + room front

/-- A region of a user slot ends within the last page of the 32-bit addresses. -/
def EndsInLastPage (target : Target) (build : Build) : Prop :=
  ∃ slot front region start, target = .user slot ∧ Reaches slot build front region start ∧
    Word.limit - Layout.pageSize < start.toNat + region.size.toNat ∧
    start.toNat + region.size.toNat < Word.limit

/-- What fails at a region that the cursor reaches fails for the build. -/
theorem placeFirmware_of_reaches {slot : SlotIndex} {build : Build} {front : List Region}
    {region : Region} {start : UInt32} {cause : PackageError}
    (reached : Reaches slot build front region start)
    (unplaced : assign (.user slot) region (some start) = .error cause) :
    placeFirmware (.user slot) build = .error cause := by
  rcases reached.listed with ⟨back, listed⟩
  exact placeFirmware_eq_error_iff.mpr (.inr ⟨checkRegionKinds_user_iff.mpr reached.resident,
    (placeRegions_eq_error_iff (dvd_firmwareBase slot)).mpr
      ⟨front, region, back, start, listed, reached.before, reached.start,
        .inr ⟨reached.supplied, unplaced⟩⟩⟩)

theorem placeFirmware_eq_overflow_iff {target : Target} {build : Build} :
    placeFirmware target build = .error .overflow ↔ EndsInLastPage target build := by
  constructor
  · intro failed
    rcases placeFirmware_eq_error_iff.mp failed with ⟨_, _, impossible⟩ | ⟨kinds, stuck⟩
    · cases impossible
    · cases target with
      | bootloader => exact absurd stuck (placeRegions_ne_overflow _)
      | user slot =>
        rcases (placeRegions_eq_error_iff (dvd_firmwareBase slot)).mp stuck with
          ⟨front, region, back, start, listed, before, value, missing | ⟨supply, unplaced⟩⟩
        · exact absurd missing choose_ne_overflow
        · exact ⟨slot, front, region, start, rfl,
            ⟨⟨back, listed⟩, checkRegionKinds_user_iff.mp kinds, before, supply, value⟩,
            assign_eq_overflow_iff.mp unplaced⟩
  · rintro ⟨slot, front, region, start, rfl, reached, within⟩
    exact placeFirmware_of_reaches reached (assign_eq_overflow_iff.mpr within)

theorem package_of_unplaced {target : Target} {build : Build} {cause : PackageError}
    (unplaced : placeFirmware target build = .error cause) :
    package target build = .error cause := by
  rw [package, unplaced]

theorem package_eq_overflow_iff {target : Target} {build : Build} :
    package target build = .error .overflow ↔ EndsInLastPage target build := by
  rw [← placeFirmware_eq_overflow_iff]
  constructor
  · intro failed
    unfold package at failed
    split at failed
    · next unplaced =>
      cases failed
      exact unplaced
    · split at failed <;> cases failed
  · exact package_of_unplaced

/-- A write that runs past the last address is refused once the manifest fits,
whatever put it there. -/
theorem package_of_past {target : Target} {build : Build} {regions : List Region}
    {ops : List WriteOp} (placed : placeFirmware target build = .ok (regions, ops))
    (fits : (proposal target build regions ops).manifest.fits = true)
    (past : ∃ op ∈ ops, op.range? = none) :
    ∃ region range, package target build =
      .error (.invalid (.slotBoundaryExceeded region range target)) := by
  rcases past with ⟨op, listed, unranged⟩
  have unfit : fitsSlot target op = false := by
    rw [fitsSlot, WriteOp.pageSpan?, unranged]
    rfl
  have found : ∃ first, (proposal target build regions ops).ops.find?
      (fun op => !fitsSlot target op) = some first := by
    rw [← Option.isSome_iff_exists, List.find?_isSome]
    exact ⟨op, by simp [proposal, listed], by rw [unfit]; rfl⟩
  rcases found with ⟨first, found⟩
  have fits : ({ build.manifest with regions := regions }.stamp).fits = true := fits
  have outside : checkSlotBounds target (proposal target build regions ops).ops =
      .error (.slotBoundaryExceeded first.region
        (first.range?.getD ⟨first.address, Word.greatest⟩) target) := by
    rw [checkSlotBounds, found]
  have refused : assemble target build regions ops =
      .error (.slotBoundaryExceeded first.region
        (first.range?.getD ⟨first.address, Word.greatest⟩) target) := by
    rw [assemble, fits]
    exact bind_eq_error_iff.mpr (.inl outside)
  exact ⟨first.region, _, by rw [package, placed]; dsimp only; rw [refused]⟩

/-- Packaging leaves the 32-bit range exactly if a region of a user slot ends
within the last page of the addresses; in any other case it gives a plan or
refuses the build.  A region that the cursor reaches and that ends behind the
last address is refused at that place, and so is a write of the bootloader slot
that runs past it.  The addresses of the slot and the pages of the writes never
leave the range: computed with every operation checked they are what packaging
computes. -/
theorem overflow_iff_endsInLastPage (target : Target) (build : Build) :
    ((package target build = .error .overflow ↔ EndsInLastPage target build) ∧
      (¬ EndsInLastPage target build ->
        (∃ plan, package target build = .ok plan) ∨
          ∃ cause, package target build = .error (.invalid cause))) ∧
    ((∀ slot front region start, target = .user slot -> Reaches slot build front region start ->
        Word.limit ≤ start.toNat + region.size.toNat ->
        package target build = .error (.invalid
          (.slotBoundaryExceeded region.filename ⟨start, Word.greatest⟩ target))) ∧
      ∀ regions ops, placeFirmware target build = .ok (regions, ops) ->
        (proposal target build regions ops).manifest.fits = true ->
        (∃ op ∈ ops, op.range? = none) ->
        ∃ region range, package target build =
          .error (.invalid (.slotBoundaryExceeded region range target))) ∧
    (target.base? = some target.base ∧ target.stop? = some target.stop ∧
      target.manifestAddress? = some target.manifestAddress ∧
      ∀ slot, target = .user slot ->
        Layout.firmwareBase? slot = some (Layout.firmwareBase slot)) ∧
    ∀ (op : WriteOp) range, op.range? = some range -> range.stop.toNat ≤ Layout.flashSize ->
      ∃ pages, range.pages? = some pages ∧ op.pageSpan? = some pages := by
  refine ⟨⟨package_eq_overflow_iff, ?_⟩, ⟨?_, ?_⟩, ⟨target.base?_eq, target.stop?_eq,
    target.manifestAddress?_eq, fun slot _ => Layout.firmwareBase?_eq slot⟩, ?_⟩
  · intro elsewhere
    cases outcome : package target build with
    | ok plan => exact .inl ⟨plan, rfl⟩
    | error cause =>
      cases cause with
      | invalid cause => exact .inr ⟨cause, rfl⟩
      | overflow => exact absurd (package_eq_overflow_iff.mp outcome) elsewhere
  · rintro slot front region start rfl reached past
    exact package_of_unplaced (placeFirmware_of_reaches reached (assign_of_past past))
  · intro regions ops placed fits past
    exact package_of_past placed fits past
  · intro op range ranged inside
    exact op.pages?_of_range ranged inside

/-! ## Three regions with one artifact -/

/-- A build with three regions of this size, all of them with the same
artifact. -/
def tripleBuild (size : UInt32) : Build where
  bitstream := ⟨#[]⟩
  firmware := [⟨"fw.bin", Octets.fill 0 size.toNat⟩]
  manifest := ⟨"X", none, none, none, none, none,
    List.replicate 3 ⟨"fw.bin", size, .resident 0, none⟩⟩

/-- The cursor gets to the third region of such a build if the first two fit
the addresses. -/
theorem reaches_third {size start : UInt32}
    (value : start.toNat = 0x1C0000 + (pageStop size.toNat + pageStop size.toNat)) :
    Reaches ⟨0, by decide⟩ (tripleBuild size)
      (List.replicate 2 ⟨"fw.bin", size, .resident 0, none⟩) ⟨"fw.bin", size, .resident 0, none⟩
      start := by
  have supplied : Supplied (tripleBuild size).firmware ⟨"fw.bin", size, .resident 0, none⟩ :=
    ⟨⟨"fw.bin", Octets.fill 0 size.toNat⟩, rfl, Octets.size_fill _ _⟩
  refine ⟨⟨[], rfl⟩, ?_, ?_, supplied, ?_⟩
  · intro other listed
    exact ⟨0, (List.eq_of_mem_replicate listed).symm ▸ rfl⟩
  · intro other listed
    exact (List.eq_of_mem_replicate listed).symm ▸ supplied
  · rw [value, Layout.toNat_firmwareBase]
    simp only [List.replicate, room, Layout.slotSize, Layout.firmwareOffset, Nat.add_zero]

/-- With one octet more the third region is refused. -/
theorem tripleBuild_refused :
    package (.user ⟨0, by decide⟩) (tripleBuild 1431044096) =
      .error (.invalid (.slotBoundaryExceeded "fw.bin" ⟨2863923200, Word.greatest⟩
        (.user ⟨0, by decide⟩))) := by
  have third : (2863923200 : UInt32).toNat = 0x1C0000 +
      (pageStop (1431044096 : UInt32).toNat + pageStop (1431044096 : UInt32).toNat) := by
    decide +kernel
  exact (overflow_iff_endsInLastPage _ (tripleBuild 1431044096)).2.1.1 _ _ _ _ rfl
    (reaches_third third) (by decide +kernel)

/-- The third region ends on the last address, so that the cursor has no page
boundary to go to.  Nothing is said about the slot that the build does not
fit. -/
theorem tripleBuild_overflows :
    package (.user ⟨0, by decide⟩) (tripleBuild 1431044095) = .error .overflow := by
  have third : (2863923200 : UInt32).toNat = 0x1C0000 +
      (pageStop (1431044095 : UInt32).toNat + pageStop (1431044095 : UInt32).toNat) := by
    decide +kernel
  exact package_eq_overflow_iff.mpr
    ⟨_, _, _, _, rfl, reaches_third third, by decide +kernel, by decide +kernel⟩

end Package
end FlashSlots
