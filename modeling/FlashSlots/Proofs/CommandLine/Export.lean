import Mathlib
import FlashSlots.CommandLine.Export
import FlashSlots.Proofs.FileTree.Directory
import FlashSlots.Proofs.Package.Contents
import FlashSlots.Proofs.Package.Guarantees
import FlashSlots.Proofs.Text.Address

namespace FlashSlots
namespace CommandLine

open FlashSlots.Path (Plain StartsName FileName Room)
open Layout (Target)

/-!
# What an export leaves behind

The name of a file is made of an address and the name of a region.  The address
always takes eight characters, so that two writes share a file exactly if they
have the same address and their regions have the same name, up to the extension.
Writes at one address are possible because a region without octets leaves no
room behind it.
-/

namespace Export

/-! ## Names of files -/

/-- The part of the region in the name of a file. -/
def regionName (region : String) : String :=
  if Path.hasExtension region then region else region ++ ".bin"

theorem payloadName_eq (op : WriteOp) :
    payloadName op = Text.address op.address.toNat ++ "-" ++ regionName op.region := by
  unfold payloadName regionName
  split
  · rfl
  · exact String.append_assoc

theorem toList_payloadName (op : WriteOp) :
    (payloadName op).toList =
      (Text.address op.address.toNat).toList ++ '-' :: (regionName op.region).toList := by
  rw [payloadName_eq, String.toList_append, String.toList_append, List.append_assoc]
  rfl

theorem startsName_payloadName (op : WriteOp) : StartsName (payloadName op) := by
  rw [StartsName, toList_payloadName, Text.toList_address]
  exact ⟨'0', _, rfl, by decide, by decide⟩

theorem startsName_manifestFile : StartsName Build.manifestFile :=
  ⟨'m', "anifest.json".toList, rfl, by decide, by decide⟩

theorem fileName_manifestFile : FileName Build.manifestFile := by decide

/-- The name of the region leaves a name for a file. -/
structure FitsFile (region : String) : Prop where
  plain : Plain region
  clean : '\x00' ∉ region.toList
  short : (regionName region).utf8ByteSize + 9 ≤ FileTree.maxNameLength

instance (region : String) : Decidable (FitsFile region) :=
  decidable_of_iff
    (Plain region ∧ '\x00' ∉ region.toList ∧
      (regionName region).utf8ByteSize + 9 ≤ FileTree.maxNameLength)
    ⟨fun ⟨plain, clean, short⟩ => ⟨plain, clean, short⟩,
      fun ⟨plain, clean, short⟩ => ⟨plain, clean, short⟩⟩

theorem mem_regionName {char : Char} (other : char ∉ ".bin".toList) (region : String) :
    char ∈ (regionName region).toList ↔ char ∈ region.toList := by
  unfold regionName
  split
  · rfl
  · rw [String.toList_append, List.mem_append]
    exact or_iff_left other

theorem mem_payloadName {char : Char} (sign : char ∉ ['x', '-', '.', 'b', 'i', 'n'])
    (digits : ∀ digit < 16, char ≠ digit.digitChar) (op : WriteOp) :
    char ∈ (payloadName op).toList ↔ char ∈ op.region.toList := by
  rw [List.mem_cons, List.mem_cons, not_or, not_or] at sign
  have notAddress := @Text.notMem_address op.address.toNat char sign.1 digits
  rw [toList_payloadName, List.mem_append, List.mem_cons, mem_regionName sign.2.2,
    or_iff_right notAddress, or_iff_right sign.2.1]

theorem fileName_payloadName_iff {op : WriteOp} (onChip : op.address.toNat < Layout.flashSize) :
    FileName (payloadName op) ↔ FitsFile op.region := by
  have slash := @mem_payloadName '/' (by decide) (by decide) op
  have zero := @mem_payloadName '\x00' (by decide) (by decide) op
  have size : (payloadName op).utf8ByteSize = (regionName op.region).utf8ByteSize + 9 := by
    have dash : "-".utf8ByteSize = 1 := rfl
    rw [payloadName_eq, String.utf8ByteSize_append, String.utf8ByteSize_append,
      Text.utf8ByteSize_address onChip, dash]
    omega
  constructor
  · rintro ⟨plain, clean, short⟩
    exact ⟨slash.not.mp plain, zero.not.mp clean, size ▸ short⟩
  · rintro ⟨plain, clean, short⟩
    exact ⟨slash.not.mpr plain, zero.not.mpr clean, size.symm ▸ short⟩

/-- Both writes go to the same file. -/
def SharesFile (first second : WriteOp) : Prop :=
  first.address = second.address ∧ regionName first.region = regionName second.region

theorem payloadName_eq_iff {first second : WriteOp}
    (firstOnChip : first.address.toNat < Layout.flashSize)
    (secondOnChip : second.address.toNat < Layout.flashSize) :
    payloadName first = payloadName second ↔ SharesFile first second := by
  constructor
  · intro same
    rw [← String.toList_inj, toList_payloadName, toList_payloadName] at same
    have lengths : (Text.address first.address.toNat).toList.length =
        (Text.address second.address.toNat).toList.length := by
      rw [Text.toList_address, Text.toList_address, List.length_cons, List.length_cons,
        List.length_cons, List.length_cons, Text.length_addressDigits firstOnChip,
        Text.length_addressDigits secondOnChip]
    rcases List.append_inj same lengths with ⟨addresses, regions⟩
    have number := Text.address_inj (String.toList_inj.mp addresses)
    have names := String.toList_inj.mp (List.cons.inj regions).2
    exact ⟨UInt32.toNat_inj.mp number, names⟩
  · rintro ⟨address, region⟩
    rw [payloadName_eq, payloadName_eq, address, region]

/-! ## Writing the files -/

section

variable {directory : String} {location : Location} {tree : FileTree}
  {files held : List (String × ByteArray)}

theorem writeFiles_cons (directory name : String) (content : ByteArray)
    (rest : List (String × ByteArray)) (tree : FileTree) :
    writeFiles directory ((name, content) :: rest) tree =
      match tree.write true (Path.join directory name) content with
      | .ok written => writeFiles directory rest written
      | .error cause => (.error cause, tree) := (rfl)

/-- The files are written one after another, and the first with a name that
cannot be that of a file ends it. -/
theorem writeFiles_done_iff (holds : tree.Holds directory location held) (room : Room directory)
    (starts : ∀ file ∈ files, StartsName file.1) :
    (writeFiles directory files tree).1 = .ok () ↔ ∀ file ∈ files, FileName file.1 := by
  induction files generalizing tree held with
  | nil => exact ⟨fun _ => List.forall_mem_nil _, fun _ => rfl⟩
  | cons file rest ih =>
    rcases file with ⟨name, content⟩
    rw [List.forall_mem_cons] at starts ⊢
    rw [writeFiles_cons]
    split
    · next written done =>
      rcases (holds.write_eq_ok_iff room starts.1).mp done with ⟨allowed, same⟩
      rw [ih (same ▸ holds.put name content) starts.2]
      exact (and_iff_right allowed).symm
    · next cause refused =>
      refine ⟨nofun, fun allowed => ?_⟩
      rw [(holds.write_eq_ok_iff room starts.1).mpr ⟨allowed.1, rfl⟩] at refused
      cases refused

/-- Afterwards the directory holds the files, the last one of each name. -/
theorem holds_of_writeFiles (holds : tree.Holds directory location held) (room : Room directory)
    (starts : ∀ file ∈ files, StartsName file.1)
    (done : (writeFiles directory files tree).1 = .ok ()) :
    (writeFiles directory files tree).2.Holds directory location (files.reverse ++ held) := by
  induction files generalizing tree held with
  | nil => exact holds
  | cons file rest ih =>
    rcases file with ⟨name, content⟩
    rw [List.forall_mem_cons] at starts
    rw [writeFiles_cons] at done ⊢
    split at done
    · next written wrote =>
      rcases (holds.write_eq_ok_iff room starts.1).mp wrote with ⟨_, same⟩
      rw [List.reverse_cons, List.append_assoc]
      exact ih (same ▸ holds.put name content) starts.2 done
    · cases done

end

/-! ## A plan in a fresh directory -/

/-- The directory is there or can be made, is empty, and has room for files. -/
structure Fresh (tree : FileTree) (directory : String) : Prop where
  room : Room directory
  ready : ∃ made location, tree.makeDirectories directory = (.ok (), made) ∧
    made.Holds directory location []

/-- The export succeeded.  Every write of the plan has a file of its own in the
directory, which holds the payload, and the manifest has one as well. -/
structure Exported (directory : String) (plan : WritePlan)
    (outcome : Except AccessError Unit × FileTree) : Prop where
  done : outcome.1 = .ok ()
  separate : ((files plan).map Prod.fst).Nodup
  held : ∃ location, outcome.2.find directory = .ok (location, .directory) ∧
    ∀ file ∈ files plan, outcome.2.node? (location ++ [file.1]) = some (.file file.2)

theorem forall_mem_files_iff {plan : WritePlan} {Allowed : String -> Prop} :
    (∀ file ∈ files plan, Allowed file.1) ↔
      (∀ op ∈ plan.ops, Allowed (payloadName op)) ∧ Allowed Build.manifestFile := by
  rw [files, List.forall_mem_append, List.forall_mem_map, List.forall_mem_singleton]

theorem startsName_of_mem_files (plan : WritePlan) : ∀ file ∈ files plan, StartsName file.1 :=
  forall_mem_files_iff.mpr ⟨fun op _ => startsName_payloadName op, startsName_manifestFile⟩

theorem lookup_reverse_of_mem {written : List (String × ByteArray)}
    (distinct : (written.map Prod.fst).Nodup) {file : String × ByteArray}
    (member : file ∈ written) : written.reverse.lookup file.1 = some file.2 := by
  rcases List.append_of_mem (List.mem_reverse.mpr member) with ⟨later, earlier, shape⟩
  have backwards : (written.reverse.map Prod.fst).Nodup := by
    rw [List.map_reverse]
    exact List.nodup_reverse.mpr distinct
  rw [shape, List.map_append, List.nodup_append] at backwards
  refine List.lookup_eq_some_iff.mpr ⟨later, earlier, shape, fun other inside => ?_⟩
  have different := backwards.2.2 other.1 (List.mem_map_of_mem inside) file.1 (by simp)
  exact bne_iff_ne.mpr different.symm

theorem separate_iff {plan : WritePlan}
    (onChip : ∀ op ∈ plan.ops, op.address.toNat < Layout.flashSize) :
    ((files plan).map Prod.fst).Nodup ↔
      plan.ops.Pairwise fun first second => ¬ SharesFile first second := by
  have other : ∀ op ∈ plan.ops, payloadName op ≠ Build.manifestFile := by
    intro op _ same
    rw [← String.toList_inj, toList_payloadName, Text.toList_address] at same
    exact absurd (List.cons.inj same).1 (by decide)
  have names : (files plan).map Prod.fst = plan.ops.map payloadName ++ [Build.manifestFile] := by
    rw [files, List.map_append, List.map_map]
    rfl
  rw [names, List.nodup_append, List.Nodup, List.pairwise_map]
  have apart : (plan.ops.Pairwise fun first second => payloadName first ≠ payloadName second) ↔
      plan.ops.Pairwise fun first second => ¬ SharesFile first second :=
    List.Pairwise.iff_of_mem fun firstListed secondListed =>
      (payloadName_eq_iff (onChip _ firstListed) (onChip _ secondListed)).not
  rw [apart]
  simpa using fun _ => other

instance (first second : WriteOp) : Decidable (SharesFile first second) :=
  inferInstanceAs (Decidable (_ ∧ _))

/-- Of two writes to one file, one is empty. -/
theorem empty_of_sharesFile {first second : WriteOp} (apart : first.Apart second)
    (shared : SharesFile first second) : first.payload.size = 0 ∨ second.payload.size = 0 := by
  have start := Flash.Image.pageStart_le first.address.toNat
  have firstStop := Flash.Image.le_pageStop (first.address.toNat + first.payload.size)
  have secondStop := Flash.Image.le_pageStop (first.address.toNat + second.payload.size)
  rw [WriteOp.Apart, ← shared.1] at apart
  omega

section

variable {target : Target} {build : Build} {plan : WritePlan}
  (packaged : package target build = .ok plan)

include packaged

/-- Every address of a plan can be written with six digits. -/
theorem address_lt_flashSize : ∀ op ∈ plan.ops, op.address.toNat < Layout.flashSize := by
  intro op listed
  have inside := (Package.inSlot_of_package packaged op listed).2.2
  have stop := Flash.Image.le_pageStop (op.address.toNat + op.payload.size)
  have bound : target.stop.toNat < Layout.flashSize := by
    rw [target.toNat_stop, target.toNat_base]
    cases target with
    | bootloader => decide
    | user slot =>
      have bounded := slot.isLt
      simp only [Layout.slotCount, Layout.slotSize, Layout.flashSize] at bounded ⊢
      omega
  omega

/-- The writes of a plan are named for the bitstream, the regions and the
manifest. -/
theorem map_region_of_package :
    plan.ops.map WriteOp.region =
      "bitstream" :: (build.manifest.regions.map Region.filename ++ ["manifest"]) := by
  rcases Package.writes_of_package packaged with ⟨ops, order, written⟩
  have names : build.manifest.regions.map Region.filename = ops.map WriteOp.region := by
    rw [← List.forall₂_eq_eq_eq, List.forall₂_map_left_iff, List.forall₂_map_right_iff]
    exact written.imp fun _ _ writes => writes.named.symm
  rw [order, List.map_cons, List.map_append, names]
  rfl

theorem fileNames_iff :
    (∀ file ∈ files plan, FileName file.1) ↔
      ∀ region ∈ build.manifest.regions, FitsFile region.filename := by
  have bitstream : FitsFile "bitstream" := by decide
  have manifest : FitsFile "manifest" := by decide
  have writes : (∀ op ∈ plan.ops, FileName (payloadName op)) ↔
      ∀ name ∈ plan.ops.map WriteOp.region, FitsFile name := by
    rw [List.forall_mem_map]
    exact forall₂_congr fun op listed =>
      fileName_payloadName_iff (address_lt_flashSize packaged op listed)
  rw [forall_mem_files_iff, writes, map_region_of_package packaged, List.forall_mem_cons,
    List.forall_mem_append, List.forall_mem_map, List.forall_mem_singleton]
  simp only [bitstream, manifest, fileName_manifestFile, true_and, and_true]

section

variable {directory : String} {tree : FileTree}

theorem writePlan_done_iff (fresh : Fresh tree directory) :
    (writePlan directory plan tree).1 = .ok () ↔
      ∀ region ∈ build.manifest.regions, FitsFile region.filename := by
  rcases fresh.ready with ⟨made, location, ready, holds⟩
  rw [writePlan, ready, ← fileNames_iff packaged]
  exact writeFiles_done_iff holds fresh.room (startsName_of_mem_files plan)

/-- A plan is exported into a fresh directory exactly if the names of its
regions can be those of files and no two writes share a file.  They share one
only if one of them is empty. -/
theorem exported_iff (fresh : Fresh tree directory) :
    (Exported directory plan (writePlan directory plan tree) ↔
      (∀ region ∈ build.manifest.regions, FitsFile region.filename) ∧
        plan.ops.Pairwise fun first second => ¬ SharesFile first second) ∧
    plan.ops.Pairwise fun first second => SharesFile first second ->
      first.payload.size = 0 ∨ second.payload.size = 0 := by
  have separate := separate_iff (address_lt_flashSize packaged)
  refine ⟨⟨?_, ?_⟩, (Package.apart_of_package packaged).imp empty_of_sharesFile⟩
  · intro exported
    exact ⟨(writePlan_done_iff packaged fresh).mp exported.done, separate.mp exported.separate⟩
  · rintro ⟨fits, unshared⟩
    have done := (writePlan_done_iff packaged fresh).mpr fits
    have distinct := separate.mpr unshared
    rcases fresh.ready with ⟨made, location, ready, holds⟩
    rw [writePlan, ready] at done ⊢
    have full := holds_of_writeFiles holds fresh.room (startsName_of_mem_files plan) done
    refine ⟨done, distinct, location, full.found, fun file member => ?_⟩
    rw [full.listed, List.append_nil, lookup_reverse_of_mem distinct member]
    rfl

end

end

/-- A tree without files, and a directory in it that is not there yet. -/
theorem fresh_bench : Fresh (FileTree.empty ["bench"]) "out" := by
  refine ⟨by unfold Room; decide, (FileTree.empty ["bench"]).put ["bench", "out"] .directory,
    ["bench", "out"], by cbv, by cbv, fun name => ?_⟩
  simp [FileTree.node?, FileTree.put, FileTree.replace, FileTree.empty, List.lookup]

theorem exported_sharedPlan :
    package (.user ⟨3, by decide⟩) Package.sharedBuild = .ok Package.sharedPlan ∧
      Fresh (FileTree.empty ["bench"]) "out" ∧
      Exported "out" Package.sharedPlan
        (writePlan "out" Package.sharedPlan (FileTree.empty ["bench"])) := by
  refine ⟨Package.package_sharedBuild, fresh_bench,
    (exported_iff Package.package_sharedBuild fresh_bench).1.mpr ⟨?_, ?_⟩⟩
  · decide
  · decide

/-- A build in which a region without octets stands before one whose name is
that of the first with the extension. -/
def sharingBuild : Build where
  bitstream := ⟨#[1, 2, 3, 4]⟩
  firmware := [⟨"x", ⟨#[]⟩⟩, ⟨"x.bin", ⟨#[7, 8, 9]⟩⟩]
  manifest := ⟨"DSP", none, none, none, none, none,
    [⟨"x", 0, .resident 0, none⟩, ⟨"x.bin", 3, .resident 0, none⟩]⟩

/-- The plan of this build for the fourth user slot, that of the shared plan. -/
def sharingPlan : WritePlan :=
  Package.proposal Package.sharedPlan.target sharingBuild
    [⟨"x", 0, .resident 0, some 0x4C0000⟩, ⟨"x.bin", 3, .resident 0, some 0x4C0000⟩]
    [⟨"x", .raw, 0x4C0000, ⟨#[]⟩⟩, ⟨"x.bin", .raw, 0x4C0000, ⟨#[7, 8, 9]⟩⟩]

set_option maxRecDepth 2000 in
theorem firstOverlap?_sharingPlan :
    Package.firstOverlap? (Package.withPages sharingPlan.ops) = none := by
  cbv

theorem package_sharingBuild : package (.user ⟨3, by decide⟩) sharingBuild = .ok sharingPlan := by
  have overlaps : Package.checkOverlaps sharingPlan.ops = .ok () := by
    rw [Package.checkOverlaps, firstOverlap?_sharingPlan]
  exact Package.package_of_checks rfl (by cbv) (by cbv) overlaps

/-- Both regions go to one file, and nothing tells the user. -/
theorem sharingPlan_not_exported :
    package (.user ⟨3, by decide⟩) sharingBuild = .ok sharingPlan ∧
      Fresh (FileTree.empty ["bench"]) "out" ∧
      (writePlan "out" sharingPlan (FileTree.empty ["bench"])).1 = .ok () ∧
      ¬ Exported "out" sharingPlan (writePlan "out" sharingPlan (FileTree.empty ["bench"])) := by
  refine ⟨package_sharingBuild, fresh_bench, ?_, fun exported => ?_⟩
  · rw [writePlan_done_iff package_sharingBuild fresh_bench]
    decide
  · have unshared := (separate_iff (address_lt_flashSize package_sharingBuild)).mp exported.separate
    exact absurd unshared (by decide)

end Export
end CommandLine
end FlashSlots
