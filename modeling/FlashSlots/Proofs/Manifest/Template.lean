import Mathlib
import FlashSlots.Proofs.Manifest.RoundTrip

namespace FlashSlots

open Json (Value Piece)

/-!
# What a template describes

A template is an object with blanks anywhere, with its members in any order and
with other members among them.  Here it is said which draft such an object is,
and what comes of the draft: the manifest with its values, or the first thing
that it lacks, the name before the regions, the regions in their order, and the
file name of a region before its size.

An object with a repeated member or with a value of another type is malformed,
whatever it lacks besides.
-/

namespace Manifest

/-! ## Members by key -/

/-- The members with the texts of their keys. -/
def Keyed (members : List (List Piece × Value)) (fields : List (String × Value)) : Prop :=
  List.Forall₂ (fun member field => Piece.Denotes member.1 field.1.toList ∧ member.2 = field.2)
    members fields

/-- The values that stand under a key. -/
def valuesOf (key : String) (fields : List (String × Value)) : List Value :=
  (fields.filter fun field => field.1 == key).map Prod.snd

/-- The key stands there once, with this value, or not at all. -/
def Holds (fields : List (String × Value)) (key : String) (value : Option Value) : Prop :=
  valuesOf key fields = value.toList

/-! ## Templates -/

/-- A text, `null` or nothing. -/
inductive TextValue : Option Value -> Option String -> Prop where
  | absent : TextValue none none
  | null : TextValue (some .null) none
  | text {pieces : List Piece} {text : String} (denotes : Piece.Denotes pieces text.toList) :
    TextValue (some (.text pieces)) (some text)

/-- A number below 2^32, `null` or nothing. -/
inductive WordValue : Option Value -> Option UInt32 -> Prop where
  | absent : WordValue none none
  | null : WordValue (some .null) none
  | word (word : UInt32) : WordValue (some (.natural word.toNat)) (some word)

def TextField (fields : List (String × Value)) (key : String) (text : Option String) : Prop :=
  ∃ value, Holds fields key value ∧ TextValue value text

def WordField (fields : List (String × Value)) (key : String) (word : Option UInt32) : Prop :=
  ∃ value, Holds fields key value ∧ WordValue value word

/-- An object with these members describes this region. -/
structure RegionTemplate (fields : List (String × Value)) (draft : DraftRegion) : Prop where
  filename : TextField fields "filename" draft.filename
  size : WordField fields "size" draft.size
  flashAddress : WordField fields "spiflash_src" draft.flashAddress
  destination : WordField fields "psram_dst" draft.destination

inductive RegionItem : Value -> DraftRegion -> Prop where
  | object {members : List (List Piece × Value)} {fields : List (String × Value)}
      {draft : DraftRegion} (keyed : Keyed members fields) (template : RegionTemplate fields draft) :
    RegionItem (.object members) draft

/-- A list of regions, or nothing. -/
inductive RegionsValue : Option Value -> List DraftRegion -> Prop where
  | absent : RegionsValue none []
  | list {items : List Value} {drafts : List DraftRegion}
      (regions : List.Forall₂ RegionItem items drafts) : RegionsValue (some (.list items)) drafts

/-- An object with these members describes this manifest. -/
structure Template (fields : List (String × Value)) (draft : Draft) : Prop where
  name : TextField fields "name" draft.name
  brief : TextField fields "brief" draft.brief
  video : TextField fields "video" draft.video
  tag : TextField fields "tag" draft.tag
  hardwareRevision : WordField fields "hw_rev" draft.hardwareRevision
  regions : ∃ value, Holds fields "regions" value ∧ RegionsValue value draft.regions
  magic : WordField fields "magic" draft.magic

/-! ## What comes of a draft -/

/-- A region is complete, and these are its values. -/
structure Completes (draft : DraftRegion) (region : Region) : Prop where
  filename : draft.filename = some region.filename
  size : draft.size = some region.size
  flashAddress : region.flashAddress = draft.flashAddress
  resident : forall {destination}, region.kind = .resident destination ↔
    draft.destination = some destination
  inPlace : region.kind = .executeInPlace ↔ draft.destination = none

/-- The error about a region that is not complete.  The file name comes first. -/
inductive Lacks (index : Nat) (draft : DraftRegion) : ManifestError -> Prop where
  | filename (missing : draft.filename = none) : Lacks index draft (.noFilename index)
  | size {filename : String} (present : draft.filename = some filename)
      (missing : draft.size = none) : Lacks index draft (.noSize index filename)

/-- What a draft leads to.  An error is about the first thing that is missing. -/
inductive Judged (draft : Draft) : Except ManifestError Manifest -> Prop where
  | noName (missing : draft.name = none) : Judged draft (.error .noName)
  | region {name : String} {front behind : List DraftRegion} {region : DraftRegion}
      {error : ManifestError} (named : draft.name = some name)
      (parts : draft.regions = front ++ region :: behind)
      (complete : ∀ other ∈ front, ∃ done, Completes other done)
      (lacks : Lacks front.length region error) : Judged draft (.error error)
  | complete {name : String} {regions : List Region} (named : draft.name = some name)
      (complete : List.Forall₂ Completes draft.regions regions) :
    Judged draft (.ok ⟨name, draft.brief, draft.video, draft.tag, draft.hardwareRevision,
      draft.magic, regions⟩)

/-! ## Faults -/

/-- One of these keys is repeated or has a value of another type. -/
inductive Faulty (texts words : List String) (fields : List (String × Value)) : Prop where
  | repeated {key : String} (known : key ∈ texts ++ words) (twice : 2 ≤ (valuesOf key fields).length)
  | noText {key : String} {value : Value} (known : key ∈ texts) (held : value ∈ valuesOf key fields)
      (present : value ≠ .null) (other : ∀ pieces, value ≠ .text pieces)
  | noWord {key : String} {value : Value} (known : key ∈ words) (held : value ∈ valuesOf key fields)
      (present : value ≠ .null) (other : ∀ n < 2 ^ 32, value ≠ .natural n)

/-- An item in the list of regions is a scalar, or an object with a fault. -/
inductive FaultyRegion : Value -> Prop where
  | scalar {item : Value} (noObject : ∀ members, item ≠ .object members)
      (noList : ∀ items, item ≠ .list items) : FaultyRegion item
  | object {members : List (List Piece × Value)} {fields : List (String × Value)}
      (keyed : Keyed members fields)
      (faulty : Faulty ["filename"] ["size", "spiflash_src", "psram_dst"] fields) :
    FaultyRegion (.object members)

/-- A known key is repeated or has a value of another type, in the object or in
one of its regions. -/
inductive FaultyTemplate (fields : List (String × Value)) : Prop where
  | field (faulty : Faulty ["name", "brief", "video", "tag"] ["hw_rev", "magic"] fields)
  | repeated (twice : 2 ≤ (valuesOf "regions" fields).length)
  | noList {value : Value} (held : value ∈ valuesOf "regions" fields)
      (other : ∀ items, value ≠ .list items)
  | region {items : List Value} {item : Value} (held : .list items ∈ valuesOf "regions" fields)
      (listed : item ∈ items) (faulty : FaultyRegion item)

/-! ## Fields are found by their keys -/

theorem mapM_eq_some_iff {α β : Type} {f : α -> Option β} {items : List α} {results : List β} :
    items.mapM f = some results ↔
      List.Forall₂ (fun item result => f item = some result) items results := by
  induction items generalizing results with
  | nil =>
    rw [List.mapM_nil, List.forall₂_nil_left_iff, Option.pure_def, Option.some.injEq, eq_comm]
  | cons item items ih =>
    rw [List.forall₂_cons_left_iff, List.mapM_cons]
    simp only [Option.bind_eq_bind, Option.bind_eq_some_iff, ih, Option.pure_def, Option.some.injEq]
    constructor
    · rintro ⟨result, first, others, later, same⟩
      exact ⟨result, others, first, later, same.symm⟩
    · rintro ⟨result, others, first, later, same⟩
      exact ⟨result, first, others, later, same.symm⟩

theorem keyed?_of_keyed {members : List (List Piece × Value)} {fields : List (String × Value)}
    (keyed : Keyed members fields) : keyed? members = some fields := by
  rw [keyed?, mapM_eq_some_iff]
  apply keyed.imp
  rintro ⟨pieces, value⟩ ⟨key, other⟩ ⟨denotes, same⟩
  cases same
  dsimp only
  rw [Piece.text?_of_denotes denotes]
  rfl

theorem occurrences_eq (key : String) (fields : List (String × Value)) :
    occurrences key fields = (valuesOf key fields).length := by
  rw [occurrences, List.countP_eq_length_filter, valuesOf, List.length_map]

theorem lookup_eq (key : String) (fields : List (String × Value)) :
    fields.lookup key = (valuesOf key fields).head? := by
  induction fields with
  | nil => rfl
  | cons field fields ih =>
    rcases field with ⟨name, value⟩
    rw [List.lookup_cons, valuesOf, List.filter_cons]
    by_cases same : name = key
    · subst same
      simp
    · have different : (key == name) = false := beq_eq_false_iff_ne.mpr (Ne.symm same)
      have other : (name == key) = false := beq_eq_false_iff_ne.mpr same
      simp only [different, other]
      exact ih

theorem Holds.lookup {fields : List (String × Value)} {key : String} {value : Option Value}
    (holds : Holds fields key value) : fields.lookup key = value := by
  rw [lookup_eq, holds]
  cases value <;> rfl

theorem Holds.once {fields : List (String × Value)} {key : String} {value : Option Value}
    (holds : Holds fields key value) : (valuesOf key fields).length ≤ 1 := by
  rw [holds]
  cases value with
  | none => exact Nat.zero_le 1
  | some value => exact Nat.le_refl 1

/-- An object has fields exactly if no known key is repeated. -/
theorem fields?_object_eq_some_iff {names : List String} {members : List (List Piece × Value)}
    {fields : List (String × Value)} (keyed : Keyed members fields)
    {values : List (Option Value)} :
    fields? names (.object members) = some values ↔
      (∀ name ∈ names, (valuesOf name fields).length ≤ 1) ∧
        names.map (fun name => fields.lookup name) = values := by
  simp only [fields?, keyed?_of_keyed keyed, Option.bind_eq_bind, Option.bind_some,
    occurrences_eq]
  split
  · next once =>
    have each : ∀ name ∈ names, (valuesOf name fields).length ≤ 1 := by simpa using once
    rw [Option.some.injEq, and_iff_right each]
  · next twice =>
    have some : ¬ ∀ name ∈ names, (valuesOf name fields).length ≤ 1 := by simpa using twice
    simp [some]

/-- What an object has to have to be a draft of a region. -/
theorem draftRegion?_object_eq_some_iff {members : List (List Piece × Value)}
    {fields : List (String × Value)} (keyed : Keyed members fields) {draft : DraftRegion} :
    draftRegion? (.object members) = some draft ↔
      (∀ name ∈ regionFields, (valuesOf name fields).length ≤ 1) ∧
        textField? (fields.lookup "filename") = some draft.filename ∧
        wordField? (fields.lookup "size") = some draft.size ∧
        wordField? (fields.lookup "spiflash_src") = some draft.flashAddress ∧
        wordField? (fields.lookup "psram_dst") = some draft.destination := by
  constructor
  · intro found
    rw [draftRegion?, Option.bind_eq_bind, Option.bind_eq_some_iff] at found
    rcases found with ⟨values, listed, found⟩
    rcases (fields?_object_eq_some_iff keyed).mp listed with ⟨once, same⟩
    subst same
    simp only [regionFields, List.map_cons, List.map_nil, Option.bind_eq_bind,
      Option.bind_eq_some_iff, Option.some.injEq] at found
    rcases found with ⟨filename, named, size, sized, address, placed, destination, resident, same⟩
    subst same
    exact ⟨once, named, sized, placed, resident⟩
  · rintro ⟨once, named, sized, placed, resident⟩
    rw [draftRegion?, (fields?_object_eq_some_iff keyed).mpr ⟨once, rfl⟩]
    simp only [regionFields, List.map_cons, List.map_nil, Option.bind_eq_bind, Option.bind_some,
      named, sized, placed, resident]

/-- What an object has to have to be a draft of a manifest. -/
theorem draft?_object_eq_some_iff {members : List (List Piece × Value)}
    {fields : List (String × Value)} (keyed : Keyed members fields) {draft : Draft} :
    draft? (.object members) = some draft ↔
      (∀ name ∈ manifestFields, (valuesOf name fields).length ≤ 1) ∧
        textField? (fields.lookup "name") = some draft.name ∧
        textField? (fields.lookup "brief") = some draft.brief ∧
        textField? (fields.lookup "video") = some draft.video ∧
        textField? (fields.lookup "tag") = some draft.tag ∧
        wordField? (fields.lookup "hw_rev") = some draft.hardwareRevision ∧
        regionsField? (fields.lookup "regions") = some draft.regions ∧
        wordField? (fields.lookup "magic") = some draft.magic := by
  constructor
  · intro found
    rw [draft?, Option.bind_eq_bind, Option.bind_eq_some_iff] at found
    rcases found with ⟨values, listed, found⟩
    rcases (fields?_object_eq_some_iff keyed).mp listed with ⟨once, same⟩
    subst same
    simp only [manifestFields, List.map_cons, List.map_nil, Option.bind_eq_bind,
      Option.bind_eq_some_iff, Option.some.injEq] at found
    rcases found with ⟨name, named, brief, briefed, video, shown, tag, tagged, revision, revised,
      regions, placed, magic, stamped, same⟩
    subst same
    exact ⟨once, named, briefed, shown, tagged, revised, placed, stamped⟩
  · rintro ⟨once, named, briefed, shown, tagged, revised, placed, stamped⟩
    rw [draft?, (fields?_object_eq_some_iff keyed).mpr ⟨once, rfl⟩]
    simp only [manifestFields, List.map_cons, List.map_nil, Option.bind_eq_bind, Option.bind_some,
      named, briefed, shown, tagged, revised, placed, stamped]

/-! ## Templates are drafts -/

section Fields

variable {fields : List (String × Value)} {key : String}

theorem TextField.once {text : Option String} (field : TextField fields key text) :
    (valuesOf key fields).length ≤ 1 := by
  rcases field with ⟨value, holds, _⟩
  exact holds.once

theorem TextField.read {text : Option String} (field : TextField fields key text) :
    textField? (fields.lookup key) = some text := by
  rcases field with ⟨value, holds, typed⟩
  rw [holds.lookup]
  cases typed with
  | absent => rfl
  | null => rfl
  | text denotes => rw [textField?, Piece.text?_of_denotes denotes, Option.map_some]

theorem WordField.once {word : Option UInt32} (field : WordField fields key word) :
    (valuesOf key fields).length ≤ 1 := by
  rcases field with ⟨value, holds, _⟩
  exact holds.once

theorem WordField.read {word : Option UInt32} (field : WordField fields key word) :
    wordField? (fields.lookup key) = some word := by
  rcases field with ⟨value, holds, typed⟩
  rw [holds.lookup]
  cases typed with
  | absent => rfl
  | null => rfl
  | word word => rw [wordField?, Word.ofNat?_toNat, Option.map_some]

end Fields

theorem draftRegion?_of_item {item : Value} {draft : DraftRegion} (region : RegionItem item draft) :
    draftRegion? item = some draft := by
  cases region with
  | object keyed template =>
    refine (draftRegion?_object_eq_some_iff keyed).mpr ⟨?_, template.filename.read,
      template.size.read, template.flashAddress.read, template.destination.read⟩
    simp only [regionFields, List.forall_mem_cons, List.not_mem_nil, false_implies, implies_true,
      and_true]
    exact ⟨template.filename.once, template.size.once, template.flashAddress.once,
      template.destination.once⟩

theorem regionsField?_of_value {value : Option Value} {drafts : List DraftRegion}
    (regions : RegionsValue value drafts) : regionsField? value = some drafts := by
  cases regions with
  | absent => rfl
  | list regions =>
    rw [regionsField?, mapM_eq_some_iff]
    exact regions.imp fun _ _ => draftRegion?_of_item

theorem draft?_of_template {members : List (List Piece × Value)} {fields : List (String × Value)}
    (keyed : Keyed members fields) {draft : Draft} (template : Template fields draft) :
    draft? (.object members) = some draft := by
  rcases template.regions with ⟨value, holds, regions⟩
  have read : regionsField? (fields.lookup "regions") = some draft.regions := by
    rw [holds.lookup]
    exact regionsField?_of_value regions
  refine (draft?_object_eq_some_iff keyed).mpr ⟨?_, template.name.read, template.brief.read,
    template.video.read, template.tag.read, template.hardwareRevision.read, read,
    template.magic.read⟩
  simp only [manifestFields, List.forall_mem_cons, List.not_mem_nil, false_implies, implies_true,
    and_true]
  exact ⟨template.name.once, template.brief.once, template.video.once, template.tag.once,
    template.hardwareRevision.once, holds.once, template.magic.once⟩

/-! ## Drafts are completed in order -/

theorem completes_ofDestination (filename : String) (size : UInt32)
    (flashAddress destination : Option UInt32) :
    Completes ⟨some filename, some size, flashAddress, destination⟩
      ⟨filename, size, .ofDestination destination, flashAddress⟩ where
  filename := rfl
  size := rfl
  flashAddress := rfl
  resident := by
    intro address
    cases destination with
    | none => exact iff_of_false nofun nofun
    | some destination =>
      rw [RegionKind.ofDestination, RegionKind.resident.injEq, Option.some.injEq]
  inPlace := by
    cases destination with
    | none => exact iff_of_true rfl rfl
    | some destination => exact iff_of_false nofun nofun

/-- The regions are complete, or there is a first one that is not. -/
theorem completeRegions_cases (index : Nat) (drafts : List DraftRegion) :
    (∃ regions, completeRegions index drafts = .ok regions ∧
        List.Forall₂ Completes drafts regions) ∨
      ∃ front region behind error, drafts = front ++ region :: behind ∧
        (∀ other ∈ front, ∃ done, Completes other done) ∧
        Lacks (index + front.length) region error ∧
        completeRegions index drafts = .error error := by
  induction drafts generalizing index with
  | nil => exact .inl ⟨[], rfl, .nil⟩
  | cons draft rest ih =>
    rcases draft with ⟨_ | filename, _ | size, flashAddress, destination⟩
    · exact .inr ⟨[], _, rest, _, rfl, nofun, .filename rfl, rfl⟩
    · exact .inr ⟨[], _, rest, _, rfl, nofun, .filename rfl, rfl⟩
    · exact .inr ⟨[], _, rest, _, rfl, nofun, .size rfl rfl, rfl⟩
    · have first := completes_ofDestination filename size flashAddress destination
      rcases ih (index + 1) with
        ⟨regions, done, others⟩ | ⟨front, region, behind, error, parts, others, lacks, failed⟩
      · refine .inl ⟨_ :: regions, ?_, .cons first others⟩
        rw [completeRegions, completeRegion, done]
        rfl
      · refine .inr ⟨_ :: front, region, behind, error, congrArg _ parts, ?_, ?_, ?_⟩
        · exact List.forall_mem_cons.mpr ⟨⟨_, first⟩, others⟩
        · rw [List.length_cons, Nat.add_comm front.length, ← Nat.add_assoc]
          exact lacks
        · rw [completeRegions, completeRegion, failed]
          rfl

theorem judged_complete (draft : Draft) : Judged draft (complete draft) := by
  unfold complete
  split
  · next missing => exact .noName missing
  · next name named =>
    rcases completeRegions_cases 0 draft.regions with
      ⟨regions, done, complete⟩ | ⟨front, region, behind, error, parts, others, lacks, failed⟩
    · rw [done]
      exact .complete named complete
    · rw [Nat.zero_add] at lacks
      rw [failed]
      exact .region named parts others lacks

/-! ## Faulty objects are no drafts -/

section Faults

variable {fields : List (String × Value)} {key : String} {value : Value}

/-- A value that stands under a key once is the one that is found. -/
theorem lookup_of_mem (once : (valuesOf key fields).length ≤ 1) (held : value ∈ valuesOf key fields) :
    fields.lookup key = some value := by
  rw [lookup_eq]
  rcases List.length_eq_one_iff.mp (Nat.le_antisymm once (List.length_pos_of_mem held)) with
    ⟨other, same⟩
  rw [same] at held ⊢
  rw [List.mem_singleton.mp held]
  rfl

/-- Of an object with a fault some field cannot be read. -/
theorem Faulty.unread {texts words : List String} (faulty : Faulty texts words fields)
    (once : ∀ key ∈ texts ++ words, (valuesOf key fields).length ≤ 1) :
    (∃ key ∈ texts, textField? (fields.lookup key) = none) ∨
      ∃ key ∈ words, wordField? (fields.lookup key) = none := by
  cases faulty with
  | repeated known twice => exact absurd (once _ known) (Nat.not_le_of_lt twice)
  | @noText key value known held present other =>
    refine .inl ⟨key, known, ?_⟩
    rw [lookup_of_mem (once key (List.mem_append_left _ known)) held]
    cases value with
    | null => exact absurd rfl present
    | text pieces => exact absurd rfl (other pieces)
    | _ => rfl
  | @noWord key value known held present other =>
    refine .inr ⟨key, known, ?_⟩
    rw [lookup_of_mem (once key (List.mem_append_right _ known)) held]
    cases value with
    | null => exact absurd rfl present
    | natural n =>
      have large : Word.ofNat? n = none := by
        rw [Word.ofNat?_eq_none_iff]
        by_contra small
        exact other n (Nat.lt_of_not_le small) rfl
      rw [wordField?, large, Option.map_none]
    | _ => rfl

end Faults

theorem draftRegion?_of_faulty {item : Value} (faulty : FaultyRegion item) :
    draftRegion? item = none := by
  cases faulty with
  | scalar noObject noList =>
    cases item with
    | list items => exact absurd rfl (noList items)
    | object members => exact absurd rfl (noObject members)
    | _ => rfl
  | @object members fields keyed faulty =>
    rw [Option.eq_none_iff_forall_ne_some]
    intro draft found
    rcases (draftRegion?_object_eq_some_iff keyed).mp found with
      ⟨once, named, sized, placed, resident⟩
    have words : ∀ key ∈ ["size", "spiflash_src", "psram_dst"],
        wordField? (fields.lookup key) ≠ none := by
      simp [sized, placed, resident]
    rcases faulty.unread once with ⟨key, known, unread⟩ | ⟨key, known, unread⟩
    · rw [List.mem_singleton.mp known, named] at unread
      cases unread
    · exact words key known unread

theorem regionsField?_of_region {items : List Value} {item : Value} (listed : item ∈ items)
    (faulty : FaultyRegion item) : regionsField? (some (.list items)) = none := by
  rw [regionsField?, Option.eq_none_iff_forall_ne_some]
  intro drafts found
  rcases List.forall₂_iff_get.mp (mapM_eq_some_iff.mp found) with ⟨length, each⟩
  rcases List.getElem_of_mem listed with ⟨index, inside, same⟩
  have read := each index inside (length ▸ inside)
  rw [List.get_eq_getElem, same, draftRegion?_of_faulty faulty] at read
  cases read

theorem draft?_of_faulty {members : List (List Piece × Value)} {fields : List (String × Value)}
    (keyed : Keyed members fields) (faulty : FaultyTemplate fields) :
    draft? (.object members) = none := by
  rw [Option.eq_none_iff_forall_ne_some]
  intro draft found
  rcases (draft?_object_eq_some_iff keyed).mp found with
    ⟨once, named, briefed, shown, tagged, revised, placed, stamped⟩
  have onceRegions := once "regions" (by decide)
  cases faulty with
  | field faulty =>
    have known : ["name", "brief", "video", "tag"] ++ ["hw_rev", "magic"] ⊆ manifestFields := by
      decide
    have texts : ∀ key ∈ ["name", "brief", "video", "tag"],
        textField? (fields.lookup key) ≠ none := by
      simp [named, briefed, shown, tagged]
    have words : ∀ key ∈ ["hw_rev", "magic"], wordField? (fields.lookup key) ≠ none := by
      simp [revised, stamped]
    rcases faulty.unread fun key listed => once key (known listed) with
      ⟨key, listed, unread⟩ | ⟨key, listed, unread⟩
    · exact texts key listed unread
    · exact words key listed unread
  | repeated twice => exact absurd onceRegions (Nat.not_le_of_lt twice)
  | @noList value held other =>
    rw [lookup_of_mem onceRegions held] at placed
    cases value with
    | list items => exact other items rfl
    | _ => cases placed
  | region held listed faulty =>
    rw [lookup_of_mem onceRegions held, regionsField?_of_region listed faulty] at placed
    cases placed

/-- A document that is an object is judged by its members.  If it has the known
ones at most once and with values of their types, then what it lacks decides
what comes of it, and otherwise it is malformed. -/
theorem parse_of_object {members : List (List Piece × Value)} {fields : List (String × Value)}
    {document : ByteArray} (spelled : Json.Spells (.element (.object members)) document.data.toList)
    (keyed : Keyed members fields) :
    (∀ draft, Template fields draft -> Judged draft (parse document)) ∧
      (FaultyTemplate fields -> parse document = .error .malformed) := by
  have read := Json.parse?_of_spells spelled
  constructor
  · intro draft template
    rw [parse, parseOctets, read, Option.bind_some, draft?_of_template keyed template]
    exact judged_complete draft
  · intro faulty
    rw [parse, parseOctets, read, Option.bind_some, draft?_of_faulty keyed faulty]

theorem keyed_ofString (fields : List (String × Value)) :
    Keyed (fields.map fun field => (Piece.ofString field.1, field.2)) fields := by
  rw [Keyed, List.forall₂_map_left_iff, List.forall₂_same]
  exact fun field _ => ⟨Piece.denotes_ofString field.1, rfl⟩

/-- The members of a template whose only region has no file name. -/
def looseFields : List (String × Value) :=
  [("regions", .list [.object [(Piece.ofString "size", .natural 3)]]), ("name", textValue "DSP"),
    ("x", .list [.otherNumber])]

/-- The template with blanks, an escaped key and a number that nobody reads. -/
def looseDocument : ByteArray :=
  ⟨(Json.ascii ("\x7b\"regions\" : [ \x7b\"size\":3\x7d\n],\t" ++
    "\"n\\u0061me\":\"DSP\",\"x\":[-1.5E+2]\x7d\r\n")).toArray⟩

theorem quoted_escapedName :
    Json.Quoted (Piece.ofString "name") (Json.ascii "\"n\\u0061me\"") := by
  have zero : Json.IsHex 0 0x30 := .inl rfl
  have six : Json.IsHex 6 0x36 := .inl rfl
  have one : Json.IsHex 1 0x31 := .inl rfl
  have plain : ∀ byte, 0x20 ≤ byte ∧ byte ≠ 0x22 ∧ byte ≠ 0x5C ->
      (Piece.octet byte).Spelled [byte] :=
    fun _ allowed => .plain allowed.1 allowed.2.1 allowed.2.2
  refine ⟨[[0x6E], [0x5C, 0x75, 0x30, 0x30, 0x36, 0x31], [0x6D], [0x65]], ?_, by decide⟩
  exact .cons (plain 0x6E (by decide)) (.cons (.unit zero zero six one)
    (.cons (plain 0x6D (by decide)) (.cons (plain 0x65 (by decide)) .nil)))

theorem spells_looseDocument :
    Json.Spells
      (.element (.object (looseFields.map fun field => (Piece.ofString field.1, field.2))))
      looseDocument.data.toList := by
  have quoted := fun text => Json.quoted_quote (Piece.standard_ofString text)
  have space : Json.Blanks [0x20] := by simp [Json.Blanks, Json.isBlank]
  have line : Json.Blanks [0x0A] := by simp [Json.Blanks, Json.isBlank]
  have tabulator : Json.Blanks [0x09] := by simp [Json.Blanks, Json.isBlank]
  have ending : Json.Blanks [0x0D, 0x0A] := by simp [Json.Blanks, Json.isBlank]
  have five : Json.Digits [0x35] := ⟨List.cons_ne_nil _ _, List.forall_mem_singleton.mpr rfl⟩
  have two : Json.Digits [0x32] := ⟨List.cons_ne_nil _ _, List.forall_mem_singleton.mpr rfl⟩
  have number := Json.Spells.number (.inr rfl) 1 (.point five)
    (.power (.inr rfl) (.inr (.inl rfl)) two) (by decide)
  have region := Json.Spells.element space
    (.object (.lastMember (.bareMember (Piece.standard_ofString "size") (.natural 3)))) line
  have regions := Json.Spells.member Json.blanks_nil (quoted "regions") space
    (.element space (.list (.lastItem region)) Json.blanks_nil)
  have named := Json.Spells.member tabulator quoted_escapedName Json.blanks_nil
    (.bare (.text (quoted "DSP")))
  have unknown := Json.Spells.bareMember (Piece.standard_ofString "x")
    (.list (.lastItem number.bare))
  have document := Json.Spells.element Json.blanks_nil
    (.object (.nextMember regions (.nextMember named (.lastMember unknown)))) ending
  refine Eq.mp (congrArg _ ?_) document
  decide +kernel

def looseDraft : Draft :=
  ⟨some "DSP", none, none, none, none, [⟨none, some 3, none, none⟩], none⟩

theorem template_looseFields : Template looseFields looseDraft where
  name := ⟨some (textValue "DSP"), rfl, .text (Piece.denotes_ofString "DSP")⟩
  brief := ⟨none, rfl, .absent⟩
  video := ⟨none, rfl, .absent⟩
  tag := ⟨none, rfl, .absent⟩
  hardwareRevision := ⟨none, rfl, .absent⟩
  regions := by
    refine ⟨some (.list [_]), rfl, .list (.cons (.object (keyed_ofString [("size", .natural 3)]) ?_)
      .nil)⟩
    exact ⟨⟨none, rfl, .absent⟩, ⟨some (.natural 3), rfl, .word 3⟩, ⟨none, rfl, .absent⟩,
      ⟨none, rfl, .absent⟩⟩
  magic := ⟨none, rfl, .absent⟩

/-- An object that has no name the first time and one the second time. -/
def renamedFields : List (String × Value) := [("name", .null), ("name", textValue "DSP")]

def renamedDocument : ByteArray :=
  ⟨(Json.ascii "\x7b\"name\":null,\"name\":\"DSP\"\x7d").toArray⟩

theorem spells_renamedDocument :
    Json.Spells
      (.element (.object (renamedFields.map fun field => (Piece.ofString field.1, field.2))))
      renamedDocument.data.toList := by
  have standard := Piece.standard_ofString
  have document := Json.Spells.object (.nextMember (.bareMember (standard "name") .null)
    (.lastMember (.bareMember (standard "name") (.text (Json.quoted_quote (standard "DSP"))))))
  refine Eq.mp (congrArg _ ?_) document.bare
  decide +kernel

/-- The first document lacks the file name of its region, however it is
written, and the second one repeats a key. -/
theorem looseDocument_judged :
    Template looseFields looseDraft ∧ Judged looseDraft (parse looseDocument) ∧
      FaultyTemplate renamedFields ∧ parse renamedDocument = .error .malformed := by
  have keyed := keyed_ofString looseFields
  have faulty : FaultyTemplate renamedFields := by
    have known : "name" ∈ ["name", "brief", "video", "tag"] ++ ["hw_rev", "magic"] := by decide
    exact .field (.repeated known (Nat.le_refl 2))
  refine ⟨template_looseFields, ?_, faulty, ?_⟩
  · exact (parse_of_object spells_looseDocument keyed).1 looseDraft template_looseFields
  · exact (parse_of_object spells_renamedDocument (keyed_ofString renamedFields)).2 faulty

end Manifest
end FlashSlots
