import Mathlib
import FlashSlots.Compression.Stored
import FlashSlots.Package.Archive
import FlashSlots.Package.Plan
import FlashSlots.Proofs.Compression.Streams
import FlashSlots.Proofs.FileTree.Writing
import FlashSlots.Proofs.Manifest.RoundTrip
import FlashSlots.Proofs.Tar.Members
import FlashSlots.Proofs.Text.Lossy

namespace FlashSlots
namespace Build

open Compression (Gzip.Lossless Writers)
open Layout (Target)
open FlashSlots.Path (IsName Plain)

/-!
# Archives of builds

The files of an archive share one set of names.  The bitstream and the manifest
have fixed names there, and an artifact may have one of these names as well.
Then the artifact is taken for the bitstream or for the manifest when the
archive is read.  All other builds are read back as they were written, by
whatever lossless writer.
-/

/-! ## Names -/

theorem stripHere_of_plain {name : String} (plain : Plain name) :
    stripHere name.toList = name.toList := by
  unfold stripHere
  split
  · next rest spelled =>
    refine absurd ?_ plain
    rw [spelled]
    exact List.mem_cons_of_mem _ List.mem_cons_self
  · rfl

/-- The name of a file is read from an archive as it was written. -/
theorem memberName_eq {name : String} (single : IsName name) :
    String.ofList (stripHere (Text.lossy (Tar.octets name)).toList) = name := by
  have text : Text.lossy (Tar.octets name) = name := Text.lossy_toUTF8 name
  rw [text, stripHere_of_plain single.facts.1, String.ofList_toList]

/-! ## Members -/

/-- The name is none of the fixed names of an archive. -/
def IsFree (name : String) : Prop := name ≠ bitstreamFile ∧ name ≠ manifestFile

instance (name : String) : Decidable (IsFree name) :=
  inferInstanceAs (Decidable (_ ∧ _))

section

variable {collected : Partial} {content : ByteArray} {name : String}

theorem addMember_found (single : IsName name) :
    addMember collected (Tar.found (name, content)) =
      if name = bitstreamFile then .ok { collected with bitstream := some content }
      else if name = manifestFile then
        match Manifest.parse content with
        | .error cause => .error (.manifest cause)
        | .ok manifest => .ok { collected with manifest := some manifest }
      else .ok { collected with firmware := collected.firmware ++ [⟨name, content⟩] } := by
  have named := memberName_eq single
  rw [Tar.found]
  unfold addMember
  dsimp only
  rw [named]
  rfl

theorem addMember_of_isFree (single : IsName name) (free : IsFree name) :
    addMember collected (Tar.found (name, content)) =
      .ok { collected with firmware := collected.firmware ++ [⟨name, content⟩] } := by
  rw [addMember_found single, if_neg free.1, if_neg free.2]

/-- Only a file with a free name is an artifact. -/
theorem firmware_of_addMember {result : Partial} (single : IsName name)
    (added : addMember collected (Tar.found (name, content)) = .ok result) :
    result.firmware =
      collected.firmware ++ [(⟨name, content⟩ : Artifact)].filter (IsFree ·.filename) := by
  rw [addMember_found single] at added
  by_cases bitstream : name = bitstreamFile
  · rw [if_pos bitstream] at added
    cases added
    simp [IsFree, bitstream]
  · rw [if_neg bitstream] at added
    by_cases manifest : name = manifestFile
    · rw [if_pos manifest] at added
      cases parsed : Manifest.parse content with
      | error cause =>
        rw [parsed] at added
        cases added
      | ok template =>
        rw [parsed] at added
        cases added
        simp [IsFree, manifest]
    · rw [if_neg manifest] at added
      cases added
      simp [IsFree, bitstream, manifest]

end

/-- What a reader finds of an artifact. -/
def artifactMember (artifact : Artifact) : Option Tar.Member :=
  Tar.found (artifact.filename, artifact.bytes)

/-- Artifacts with free names are found in their order. -/
theorem foldlM_of_isFree {artifacts : List Artifact} (collected : Partial)
    (single : ∀ artifact ∈ artifacts, IsName artifact.filename)
    (free : ∀ artifact ∈ artifacts, IsFree artifact.filename) :
    (artifacts.map artifactMember).foldlM addMember collected =
      .ok { collected with firmware := collected.firmware ++ artifacts } := by
  induction artifacts generalizing collected with
  | nil =>
    rw [List.append_nil]
    rfl
  | cons artifact rest ih =>
    rw [List.map_cons, List.foldlM_cons, artifactMember,
      addMember_of_isFree (single artifact List.mem_cons_self) (free artifact List.mem_cons_self)]
    have others := ih { collected with firmware := collected.firmware ++ [artifact] }
      (fun other inside => single other (List.mem_cons_of_mem _ inside))
      (fun other inside => free other (List.mem_cons_of_mem _ inside))
    rw [List.append_assoc] at others
    exact others

/-- Artifacts with other names are not found as such. -/
theorem firmware_of_foldlM {artifacts : List Artifact} {collected result : Partial}
    (single : ∀ artifact ∈ artifacts, IsName artifact.filename)
    (folded : (artifacts.map artifactMember).foldlM addMember collected = .ok result) :
    result.firmware = collected.firmware ++ artifacts.filter (IsFree ·.filename) := by
  induction artifacts generalizing collected with
  | nil =>
    cases folded
    exact (List.append_nil _).symm
  | cons artifact rest ih =>
    rw [List.map_cons, List.foldlM_cons] at folded
    rcases bind_eq_ok_iff.mp folded with ⟨next, added, folded⟩
    have first := firmware_of_addMember (single artifact List.mem_cons_self) added
    rw [ih (fun other inside => single other (List.mem_cons_of_mem _ inside)) folded, first,
      List.append_assoc, ← List.filter_append]
    rfl

/-! ## Reading an archive -/

section

variable {build : Build} {tree after : FileTree} {path : String}

theorem isName_bitstreamFile : IsName bitstreamFile := by decide

theorem isName_manifestFile : IsName manifestFile := by decide

theorem isName_of_mem_archiveFiles (single : ∀ artifact ∈ build.firmware, IsName artifact.filename) :
    ∀ file ∈ build.archiveFiles, IsName file.1 := by
  intro file inside
  rcases List.mem_append.mp inside with fixed | own
  · simp only [List.mem_cons, List.not_mem_nil, or_false] at fixed
    rcases fixed with rfl | rfl
    · exact isName_bitstreamFile
    · exact isName_manifestFile
  · rcases List.mem_map.mp own with ⟨artifact, member, rfl⟩
    exact single artifact member

/-- What is read from an archive that was written. -/
theorem readArchive_eq [Writers] (lossless : Gzip.Lossless Writers.gzip)
    (single : ∀ artifact ∈ build.firmware, IsName artifact.filename)
    (addressable : ∀ archive, Tar.archive? build.archiveFiles = some archive ->
      archive.size < Tar.numberLimit)
    (written : build.writeArchive tree path = .ok after) :
    readArchive after path =
      ofMembers path ((build.archiveFiles).map Tar.found) := by
  unfold writeArchive at written
  split at written
  · cases written
  · next archive packed =>
    rw [readArchive, FileTree.read_of_write written]
    dsimp only
    rw [lossless archive, Tar.members_archive? (isName_of_mem_archiveFiles single) packed
      (addressable archive packed)]

/-- The fixed names come first. -/
theorem foldlM_archiveFiles (build : Build) :
    (build.archiveFiles.map Tar.found).foldlM addMember ⟨none, none, []⟩ =
      (build.firmware.map artifactMember).foldlM addMember
        ⟨some build.bitstream, some build.manifest, []⟩ := by
  have parsed : Manifest.parse build.manifest.toJson = .ok build.manifest :=
    Manifest.parseOctets_render build.manifest
  have own : (build.firmware.map fun artifact => (artifact.filename, artifact.bytes)).map
      Tar.found = build.firmware.map artifactMember := List.map_map
  rw [archiveFiles, List.map_append, own, List.map_cons, List.map_cons, List.map_nil,
    List.cons_append, List.cons_append, List.nil_append, List.foldlM_cons,
    addMember_found isName_bitstreamFile, if_pos rfl]
  show List.foldlM addMember _ (Tar.found (manifestFile, build.manifest.toJson) :: _) = _
  rw [List.foldlM_cons, addMember_found isName_manifestFile, if_neg (by decide), if_pos rfl, parsed]
  rfl

theorem ofMembers_of_isFree (path : String)
    (single : ∀ artifact ∈ build.firmware, IsName artifact.filename)
    (free : ∀ artifact ∈ build.firmware, IsFree artifact.filename) :
    ofMembers path (build.archiveFiles.map Tar.found) = .ok build := by
  rw [ofMembers, foldlM_archiveFiles, foldlM_of_isFree _ single free]
  rfl

/-- What is read never has an artifact with a fixed name. -/
theorem firmware_of_ofMembers {read : Build}
    (single : ∀ artifact ∈ build.firmware, IsName artifact.filename)
    (found : ofMembers path (build.archiveFiles.map Tar.found) = .ok read) :
    read.firmware = build.firmware.filter (IsFree ·.filename) := by
  rw [ofMembers, foldlM_archiveFiles] at found
  split at found
  · cases found
  · cases found
  · next result folded =>
    have kept := firmware_of_foldlM single folded
    rw [List.nil_append] at kept
    split at found
    · cases found
    · cases found
    · cases found
      exact kept

/-- A build of files with single names is read back from its archive, with its
bitstream, its manifest and its artifacts, exactly if no artifact has the name
that an archive gives to the bitstream or to the manifest.  Then it is packaged
for every slot as the build itself is.  That holds for every writer whose files
give their texts back. -/
theorem read_back_iff_isFree [Writers] (lossless : Gzip.Lossless Writers.gzip)
    (single : ∀ artifact ∈ build.firmware, IsName artifact.filename)
    (addressable : ∀ archive, Tar.archive? build.archiveFiles = some archive ->
      archive.size < Tar.numberLimit)
    (written : build.writeArchive tree path = .ok after) :
    (readArchive after path = .ok build ↔
      ∀ artifact ∈ build.firmware, IsFree artifact.filename) ∧
    ((∀ artifact ∈ build.firmware, IsFree artifact.filename) ->
      ∃ read, readArchive after path = .ok read ∧ read.bitstream = build.bitstream ∧
        read.manifest = build.manifest ∧ read.firmware = build.firmware ∧
        ∀ target, package target read = package target build) := by
  have found := readArchive_eq lossless single addressable written
  have back (free : ∀ artifact ∈ build.firmware, IsFree artifact.filename) :
      readArchive after path = .ok build := by
    rw [found, ofMembers_of_isFree path single free]
  refine ⟨⟨?_, back⟩, fun free => ⟨build, back free, rfl, rfl, rfl, fun _ => rfl⟩⟩
  intro same
  have kept := firmware_of_ofMembers single (found.symm.trans same)
  intro artifact inside
  rw [kept] at inside
  exact of_decide_eq_true (List.mem_filter.mp inside).2

end

/-! ## A build of three files -/

def smallManifest : Manifest := ⟨"DSP", none, none, none, none, none, []⟩

/-- A build with one artifact under this name. -/
def smallBuild (filename : String) : Build where
  bitstream := ⟨#[1, 2, 3, 4]⟩
  firmware := [⟨filename, ⟨#[7, 8, 9]⟩⟩]
  manifest := smallManifest

theorem size_smallManifest : smallManifest.toJson.size = 27 := by
  cbv

/-- The archive of the build can be written, and is small. -/
theorem exists_smallArchive [Writers] {filename : String} (short : Tar.IsShort filename) :
    ∃ after, (smallBuild filename).writeArchive (FileTree.empty ["bench"]) "build.tar.gz" =
        .ok after ∧
      ∀ archive, Tar.archive? (smallBuild filename).archiveFiles = some archive ->
        archive.size < Tar.numberLimit := by
  have shorts : ∀ file ∈ (smallBuild filename).archiveFiles,
      Tar.IsShort file.1 ∧ file.2.size < Tar.numberLimit := by
    intro file inside
    simp only [archiveFiles, smallBuild, List.map_cons, List.map_nil, List.cons_append,
      List.nil_append, List.mem_cons, List.not_mem_nil, or_false] at inside
    rcases inside with rfl | rfl | rfl
    · exact ⟨by decide, by decide⟩
    · exact ⟨by decide, by rw [size_smallManifest]; decide⟩
    · exact ⟨short, show 3 < Tar.numberLimit by decide⟩
  rcases Tar.archive?_of_short shorts with ⟨archive, packed, size⟩
  have writable : (FileTree.empty ["bench"]).writable true "build.tar.gz" =
      .ok ["bench", "build.tar.gz"] := rfl
  refine ⟨(FileTree.empty ["bench"]).put ["bench", "build.tar.gz"]
    (.file (Writers.gzip archive)), ?_, ?_⟩
  · rw [writeArchive, packed]
    dsimp only
    rw [FileTree.write, writable]
  · intro other same
    rw [packed] at same
    cases same
    rw [size]
    simp only [archiveFiles, smallBuild, List.map_cons, List.map_nil, List.cons_append,
      List.nil_append, List.sum_cons, List.sum_nil, Tar.size_padded, size_smallManifest]
    decide

/-- A stored build whose artifact has a name of its own is read back. -/
theorem smallBuild_read_back :
    ∃ after, (smallBuild "fw.bin").writeArchive (FileTree.empty ["bench"]) "build.tar.gz" =
        .ok after ∧
      readArchive after "build.tar.gz" = .ok (smallBuild "fw.bin") := by
  have short : Tar.IsShort "fw.bin" := by decide
  have single : ∀ artifact ∈ (smallBuild "fw.bin").firmware, IsName artifact.filename := by
    intro artifact inside
    rw [List.mem_singleton.mp inside]
    exact short.1
  have free : ∀ artifact ∈ (smallBuild "fw.bin").firmware, IsFree artifact.filename := by
    intro artifact inside
    rw [List.mem_singleton.mp inside]
    decide
  rcases exists_smallArchive short with ⟨after, written, addressable⟩
  exact ⟨after, written,
    (read_back_iff_isFree Compression.Gzip.lossless_stored single addressable written).1.mpr free⟩

/-- In a stored build, an artifact with the name of the bitstream takes its place. -/
theorem artifact_replaces_bitstream :
    ∃ after read, (∀ artifact ∈ (smallBuild "top.bit").firmware, IsName artifact.filename) ∧
      (smallBuild "top.bit").writeArchive (FileTree.empty ["bench"]) "build.tar.gz" = .ok after ∧
      readArchive after "build.tar.gz" = .ok read ∧
      read.bitstream = ⟨#[7, 8, 9]⟩ ∧ read.firmware = [] ∧ read ≠ smallBuild "top.bit" := by
  have short : Tar.IsShort "top.bit" := by decide
  have single : ∀ artifact ∈ (smallBuild "top.bit").firmware, IsName artifact.filename := by
    intro artifact inside
    rw [List.mem_singleton.mp inside]
    exact short.1
  rcases exists_smallArchive short with ⟨after, written, addressable⟩
  refine ⟨after, ⟨⟨#[7, 8, 9]⟩, [], smallManifest⟩, single, written, ?_, rfl, rfl, by decide⟩
  have replaced : addMember ⟨some ⟨#[1, 2, 3, 4]⟩, some smallManifest, []⟩
      (artifactMember ⟨"top.bit", ⟨#[7, 8, 9]⟩⟩) =
        .ok ⟨some ⟨#[7, 8, 9]⟩, some smallManifest, []⟩ := by
    have same : "top.bit" = bitstreamFile := rfl
    rw [artifactMember, addMember_found short.1, if_pos same]
  rw [readArchive_eq Compression.Gzip.lossless_stored single addressable written, ofMembers,
    foldlM_archiveFiles, smallBuild, List.map_singleton, List.foldlM_cons, replaced]
  rfl

end Build
end FlashSlots
