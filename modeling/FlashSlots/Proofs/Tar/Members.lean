import FlashSlots.Proofs.Tar.Names

namespace FlashSlots
namespace Tar

open FlashSlots.Path (IsName)

/-!
# An archive is read as it was written

A reader of a whole archive finds the files that were written, in their order,
each under its name and with its content.  The entries for long names are not
found as files of their own.
-/

theorem size_padded (content : ByteArray) :
    (padded content).size = (content.size + (blockSize - 1)) / blockSize * blockSize := by
  rw [padded, ByteArray.size_append, Octets.size_fill]
  unfold blockSize
  omega

/-! ## Sources -/

section

variable {source : Source} {front part back : ByteArray}

theorem Source.exactly_middle (known : source.text = front ++ (part ++ back)) :
    source.exactly front.size part.size = some part := by
  have inside : front.size + part.size ≤ source.text.size := by
    rw [known, ByteArray.size_append, ByteArray.size_append]
    omega
  rw [Source.exactly, if_pos inside, known, Octets.extract_middle]

theorem Source.upTo_middle (known : source.text = front ++ (part ++ back)) :
    source.upTo front.size part.size = some part := by
  have inside : front.size + part.size ≤ source.text.size := by
    rw [known, ByteArray.size_append, ByteArray.size_append]
    omega
  rw [Source.upTo, decide_eq_true inside, Bool.true_or, if_pos rfl, known, Octets.extract_middle]

end

/-! ## Entries -/

/-- The source holds an entry: a header and its content behind some octets. -/
structure Holds (source : Source) (front : ByteArray) (name owner : List UInt8) (code : UInt8)
    (content back : ByteArray) : Prop where
  known : source.text =
    front ++ (header name owner content.size code ++ (padded content ++ back))
  name : name.length ≤ nameSize
  owner : owner.length ≤ 8
  addressable : source.text.size < numberLimit

namespace Holds

variable {source : Source} {front content back : ByteArray} {name owner : List UInt8}
  {code : UInt8} (holds : Holds source front name owner code content back)

include holds

theorem fits : Fits name owner content.size := by
  refine ⟨holds.name, holds.owner, ?_⟩
  have whole := congrArg ByteArray.size holds.known
  have small := holds.addressable
  simp only [ByteArray.size_append, size_padded] at whole
  unfold blockSize at whole
  omega

theorem contentLength?_header :
    contentLength? (header name owner content.size code) none = some content.size := by
  rw [contentLength?, length_header holds.fits]
  show (if content.size = 0 then some 0 else some content.size) = some content.size
  split
  · next empty => rw [empty]
  · rfl

/-- The checksum of a header has room in its field. -/
theorem blockSum_lt : blockSum (header name owner content.size code) < 4294967296 := by
  have fits := holds.fits
  rw [blockSum_header fits]
  exact Nat.lt_trans (headerSum_lt fits code) (by decide)

theorem size_entry :
    (front ++ (header name owner content.size code ++ padded content)).size =
      front.size + blockSize + (content.size + (blockSize - 1)) / blockSize * blockSize := by
  rw [ByteArray.size_append, ByteArray.size_append, size_header holds.fits, size_padded,
    Nat.add_assoc]

theorem size_text :
    source.text.size = front.size + blockSize +
      (content.size + (blockSize - 1)) / blockSize * blockSize + back.size := by
  rw [holds.known, ByteArray.size_append, ByteArray.size_append, ByteArray.size_append,
    size_header holds.fits, size_padded]
  omega

/-- The header is found with its content behind it. -/
theorem entry_found :
    rawEntry? source front.size none =
      some (.entry ⟨header name owner content.size code, front.size + blockSize, content.size,
        (front ++ (header name owner content.size code ++ padded content)).size⟩) := by
  have fits := holds.fits
  have whole := holds.size_text
  have small := holds.addressable
  have block : blockSize = 512 := rfl
  have more : source.text.size ≠ front.size := by omega
  have found : source.exactly front.size blockSize =
      some (header name owner content.size code) := by
    rw [← size_header fits code]
    exact Source.exactly_middle holds.known
  have sum : blockSum (header name owner content.size code) % 4294967296 =
      blockSum (header name owner content.size code) := Nat.mod_eq_of_lt holds.blockSum_lt
  have short : ¬ numberLimit ≤ content.size + (blockSize - 1) := by
    rw [block] at whole ⊢
    omega
  have inside : ¬ numberLimit ≤ front.size + blockSize +
      (content.size + (blockSize - 1)) / blockSize * blockSize := by omega
  unfold rawEntry?
  rw [if_neg more, found]
  simp only [Option.bind_eq_bind, Option.bind_some, header_not_zero fits code,
    checksum_header fits code, sum, holds.contentLength?_header, if_neg short, if_neg inside,
    holds.size_entry, ne_eq, not_true_eq_false, if_false, Bool.false_eq_true]

theorem upTo_content : source.upTo (front.size + blockSize) content.size = some content := by
  let filling := Octets.fill 0 ((blockSize - content.size % blockSize) % blockSize)
  have behind : source.text = (front ++ header name owner content.size code) ++
      (content ++ (filling ++ back)) := by
    rw [holds.known, padded]
    simp only [ByteArray.append_assoc, filling]
  have position : (front ++ header name owner content.size code).size = front.size + blockSize := by
    rw [ByteArray.size_append, size_header holds.fits]
  rw [← position]
  exact Source.upTo_middle behind

/-- A file is found under its name. -/
theorem progress_file (file : code = 0) {announced : Announced}
    (plain : announced.properties = none) :
    progress source front.size announced =
      .found ⟨memberName announced (header name owner content.size code), true, some content⟩
        (front ++ (header name owner content.size code ++ padded content)).size := by
  have kinds : kind (header name owner content.size code) = '\x00' := by
    rw [kind_header holds.fits, file]
    rfl
  have stands : role (header name owner content.size code) = .member := by
    rw [role, kinds]
    simp
  have whole : isFile (header name owner content.size code) = true := by
    rw [isFile, kinds]
    rfl
  rw [progress, plain, holds.entry_found]
  dsimp only
  rw [stands]
  dsimp only
  rw [member, whole, holds.upTo_content]

/-- An entry for a long name announces the name. -/
theorem progress_longName (long : code = 0x4C) :
    progress source front.size .nothing =
      .described ⟨some content.data.toList, false, none⟩
        (front ++ (header name owner content.size code ++ padded content)).size := by
  have kinds : kind (header name owner content.size code) = 'L' := by
    rw [kind_header holds.fits, long]
    rfl
  have announces : role (header name owner content.size code) = .name := by
    rw [role, kinds, format_header holds.fits]
    rfl
  have nothing : Announced.nothing.properties = none := rfl
  rw [progress, nothing, holds.entry_found]
  dsimp only
  rw [announces]
  dsimp only
  rw [holds.upTo_content]
  rfl

end Holds

/-! ## Archives -/

/-- What a reader finds of a file. -/
def found (file : String × ByteArray) : Option Member :=
  some ⟨octets file.1, true, some file.2⟩

theorem entry?_eq_some_iff {name : String} {content entry : ByteArray} :
    entry? name content = some entry ↔
      ∃ before field, nameField? name = some (before, field) ∧
        before ++ (header field [] content.size 0 ++ padded content) = entry := by
  unfold entry?
  cases named : nameField? name with
  | none => simp
  | some found =>
    rcases found with ⟨before, field⟩
    simp [ByteArray.append_assoc]

/-- The name of an entry that nothing is announced for. -/
theorem memberName_of_nothing {name owner : List UInt8} {length : Nat}
    (fits : Fits name owner length) (code : UInt8) :
    memberName .nothing (header name owner length code) = text (filled nameSize name) := by
  have extended : format (header name owner length code) = .extended := format_header fits code
  simp only [memberName, Announced.nothing, Option.bind_none, Option.getD_none]
  rw [headerName, name_header fits, extended]
  exact if_neg Bool.false_ne_true

/-- The announced name is followed by a zero. -/
theorem memberName_of_longName (name : String) (header : ByteArray) :
    memberName ⟨some (name.toUTF8.push 0).data.toList, false, none⟩ header = octets name := by
  show dropZero (name.toUTF8.push 0).data.toList = octets name
  rw [ByteArray.data_push, Array.toList_push, dropZero, List.getLast?_concat, if_pos rfl,
    List.dropLast_concat]
  rfl

theorem longNameEntry_eq (name : String) :
    longNameEntry name =
      header (octets "././@LongLink") (octalField 8 0) (name.toUTF8.push 0).size 0x4C ++
        padded (name.toUTF8.push 0) := by
  have length : (name.toUTF8.push 0).size = name.utf8ByteSize + 1 := ByteArray.size_push
  rw [longNameEntry, length]

/-- An entry is found as its file.  Every header in it takes a step. -/
theorem membersFrom_entry {source : Source} {name : String} {content entry front back : ByteArray}
    (single : IsName name) (written : entry? name content = some entry)
    (known : source.text = front ++ (entry ++ back))
    (addressable : source.text.size < numberLimit) :
    ∃ steps, steps * blockSize ≤ entry.size ∧ ∀ fuel,
      membersFrom source (fuel + steps) front.size .nothing =
        found (name, content) :: membersFrom source fuel (front ++ entry).size .nothing := by
  rcases entry?_eq_some_iff.mp written with ⟨before, field, named, rfl⟩
  rcases nameField?_of_name single named with ⟨short, ⟨rfl, alone⟩ | rfl⟩
  · -- The header holds the name, and is the only one.
    rw [ByteArray.empty_append] at known ⊢
    have holds : Holds source front field [] 0 content back := by
      refine ⟨?_, short, by decide, addressable⟩
      rw [known, ByteArray.append_assoc]
    refine ⟨1, ?_, ?_⟩
    · rw [ByteArray.size_append, size_header holds.fits]
      omega
    · intro fuel
      rw [membersFrom, holds.progress_file rfl rfl, memberName_of_nothing holds.fits, alone]
      rfl
  · -- The first step finds the name and nothing else, the second one the file.
    have announcing : Holds source front (octets "././@LongLink") (octalField 8 0) 0x4C
        (name.toUTF8.push 0) (header field [] content.size 0 ++ padded content ++ back) := by
      refine ⟨?_, by decide, by decide, addressable⟩
      rw [known, longNameEntry_eq]
      simp only [ByteArray.append_assoc]
    have behind : Holds source (front ++ longNameEntry name) field [] 0 content back := by
      refine ⟨?_, short, by decide, addressable⟩
      rw [known]
      simp only [ByteArray.append_assoc]
    refine ⟨2, ?_, ?_⟩
    · rw [longNameEntry_eq]
      simp only [ByteArray.size_append, size_header announcing.fits, size_header behind.fits]
      omega
    · intro fuel
      rw [membersFrom, announcing.progress_longName rfl, ← longNameEntry_eq]
      show membersFrom source (fuel + 1) (front ++ longNameEntry name).size
        ⟨some (name.toUTF8.push 0).data.toList, false, none⟩ = _
      rw [membersFrom, behind.progress_file rfl rfl, memberName_of_longName,
        ByteArray.append_assoc]
      rfl

theorem rawEntry?_of_zeros {source : Source} {position : Nat} {block : ByteArray}
    (more : source.text.size ≠ position) (found : source.exactly position blockSize = some block)
    (zeros : block.data.all (· == 0) = true) :
    rawEntry? source position none = some .ending := by
  unfold rawEntry?
  rw [if_neg more, found]
  simp only [Option.bind_eq_bind, Option.bind_some, zeros, if_true]

/-- Two blocks of zeros end an archive. -/
theorem membersFrom_end {source : Source} {front : ByteArray}
    (known : source.text = front ++ Octets.fill 0 (2 * blockSize)) (fuel : Nat) :
    membersFrom source (fuel + 1) front.size .nothing = [] := by
  have halves : Octets.fill 0 (2 * blockSize) =
      Octets.fill 0 blockSize ++ Octets.fill 0 blockSize := by
    apply ByteArray.ext
    rw [ByteArray.data_append, Octets.fill_eq, Octets.fill_eq, Array.replicate_append_replicate,
      Nat.two_mul]
  have size : (Octets.fill 0 blockSize).size = blockSize := Octets.size_fill 0 blockSize
  have more : source.text.size ≠ front.size := by
    rw [known, ByteArray.size_append, Octets.size_fill]
    unfold blockSize
    omega
  have block : source.exactly front.size blockSize = some (Octets.fill 0 blockSize) := by
    rw [halves] at known
    have first := Source.exactly_middle known
    rw [size] at first
    exact first
  have zeros : (Octets.fill 0 blockSize).data.all (· == 0) = true := by
    rw [Octets.fill_eq, Array.all_replicate]
    simp
  have ending : rawEntry? source front.size none = some .ending :=
    rawEntry?_of_zeros more block zeros
  have nothing : Announced.nothing.properties = none := rfl
  rw [membersFrom, progress, nothing, ending]
  rfl

/-- The entries of files are found as these files. -/
theorem membersFrom_entries {source : Source} {files : List (String × ByteArray)}
    {front entries : ByteArray} {fuel : Nat} (single : ∀ file ∈ files, IsName file.1)
    (written : entries? files = some entries)
    (known : source.text = front ++ (entries ++ Octets.fill 0 (2 * blockSize)))
    (addressable : source.text.size < numberLimit) (enough : entries.size / blockSize < fuel) :
    membersFrom source fuel front.size .nothing = files.map found := by
  induction files generalizing front entries fuel with
  | nil =>
    cases written
    rw [ByteArray.empty_append] at known
    cases fuel with
    | zero => exact absurd enough (Nat.not_lt_zero _)
    | succ fuel => exact membersFrom_end known fuel
  | cons file rest ih =>
    rcases file with ⟨name, content⟩
    rcases Option.bind_eq_some_iff.mp written with ⟨entry, first, written⟩
    rcases Option.bind_eq_some_iff.mp written with ⟨behind, others, written⟩
    cases written
    rw [ByteArray.append_assoc] at known
    rcases membersFrom_entry (single _ List.mem_cons_self) first known addressable with
      ⟨steps, taken, found⟩
    rw [ByteArray.size_append] at enough
    -- An entry has at least as many blocks as it takes steps.
    have left : behind.size / blockSize < fuel - steps := by
      unfold blockSize at taken enough ⊢
      omega
    have split : fuel = fuel - steps + steps := by
      unfold blockSize at taken enough
      omega
    rw [split, found, List.map_cons]
    refine congrArg _ (ih (fun file inside => single file (List.mem_cons_of_mem _ inside))
      others ?_ left)
    rw [known, ByteArray.append_assoc]

/-- An archive is read as the files that it was written for. -/
theorem members_archive? {files : List (String × ByteArray)} {archive : ByteArray}
    (single : ∀ file ∈ files, IsName file.1) (written : archive? files = some archive)
    (addressable : archive.size < numberLimit) :
    members ⟨archive, true⟩ = files.map found := by
  rcases Option.bind_eq_some_iff.mp written with ⟨entries, packed, written⟩
  cases written
  let source : Source := ⟨entries ++ Octets.fill 0 (2 * blockSize), true⟩
  have known : source.text =
      ByteArray.empty ++ (entries ++ Octets.fill 0 (2 * blockSize)) := by
    rw [ByteArray.empty_append]
  have enough : entries.size / blockSize < source.text.size / blockSize + 2 := by
    rw [known, ByteArray.empty_append, ByteArray.size_append]
    unfold blockSize
    omega
  exact membersFrom_entries single packed known addressable enough

/-! ## Archives of short names -/

theorem entry?_of_short {name : String} {content : ByteArray} (short : IsShort name)
    (small : content.size < numberLimit) :
    ∃ entry, entry? name content = some entry ∧
      entry.size = blockSize + (padded content).size := by
  rcases nameField?_of_short short with ⟨field, fits, named⟩
  refine ⟨_, entry?_eq_some_iff.mpr ⟨.empty, field, named, rfl⟩, ?_⟩
  rw [ByteArray.empty_append, ByteArray.size_append, size_header ⟨fits, by decide, small⟩]

/-- Files with short names are never refused, and take a block each besides
their contents. -/
theorem archive?_of_short {files : List (String × ByteArray)}
    (short : ∀ file ∈ files, IsShort file.1 ∧ file.2.size < numberLimit) :
    ∃ archive, archive? files = some archive ∧
      archive.size =
        (files.map fun file => blockSize + (padded file.2).size).sum + 2 * blockSize := by
  have packed : ∃ entries, entries? files = some entries ∧
      entries.size = (files.map fun file => blockSize + (padded file.2).size).sum := by
    induction files with
    | nil => exact ⟨.empty, rfl, rfl⟩
    | cons file rest ih =>
      rcases file with ⟨name, content⟩
      rcases short _ List.mem_cons_self with ⟨fits, small⟩
      rcases entry?_of_short fits small with ⟨entry, written, size⟩
      rcases ih fun other inside => short other (List.mem_cons_of_mem _ inside) with
        ⟨entries, others, sum⟩
      refine ⟨entry ++ entries, ?_, ?_⟩
      · rw [entries?, written, others]
        rfl
      · rw [ByteArray.size_append, size, sum, List.map_cons, List.sum_cons]
  rcases packed with ⟨entries, written, size⟩
  refine ⟨entries ++ Octets.fill 0 (2 * blockSize), ?_, ?_⟩
  · rw [archive?, written]
    rfl
  · rw [ByteArray.size_append, size, Octets.size_fill]

end Tar
end FlashSlots
