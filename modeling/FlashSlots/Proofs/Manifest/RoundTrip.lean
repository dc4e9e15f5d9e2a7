import FlashSlots.Flash.Image
import FlashSlots.Manifest.Flash
import FlashSlots.Proofs.Json.RoundTrip
import FlashSlots.Proofs.Json.Text

namespace FlashSlots

open Flash (erasedByte)
open Json (Value Piece)

/-!
# Manifests survive writing and reading

Every manifest can be read back from its document, whatever its texts and
numbers are.  An object with optional members is treated once and for all: it
gives back the fields that it was written from, in any number, if their keys
differ.  A manifest and its regions are two such objects.

In flash the document is followed by erased octets.  As a document ends with a
bracket, cutting those off takes nothing away from it.
-/

namespace Json

theorem Piece.standard_ofString (text : String) :
    ∀ piece ∈ Piece.ofString text, piece.Standard := by
  intro piece member
  rcases List.mem_map.mp member with ⟨byte, _, same⟩
  exact same ▸ trivial

end Json

namespace Manifest

/-! ## Objects with optional members -/

def member (field : String × Option Value) : List (List Piece × Value) :=
  (field.2.map (Piece.ofString field.1, ·)).toList

def present (fields : List (String × Option Value)) : List (String × Value) :=
  fields.filterMap fun field => field.2.map (field.1, ·)

theorem keyed?_append (first second : List (List Piece × Value)) :
    keyed? (first ++ second) =
      (keyed? first).bind fun front => (keyed? second).map (front ++ ·) := by
  unfold keyed?
  rw [List.mapM_append]
  cases List.mapM (fun member => (Piece.text? member.1).map (·, member.2)) first <;>
    cases List.mapM (fun member => (Piece.text? member.1).map (·, member.2)) second <;> rfl

theorem keyed?_members (fields : List (String × Option Value)) :
    keyed? (fields.flatMap member) = some (present fields) := by
  induction fields with
  | nil => rfl
  | cons field fields ih =>
    rcases field with ⟨key, value⟩
    rw [List.flatMap_cons, keyed?_append, ih]
    cases value with
    | none => rfl
    | some value =>
      simp [member, keyed?, present, Piece.text?_ofString]

theorem keys_present_sublist (fields : List (String × Option Value)) :
    ((present fields).map Prod.fst).Sublist (fields.map Prod.fst) := by
  induction fields with
  | nil => exact .slnil
  | cons field fields ih =>
    rcases field with ⟨key, value⟩
    cases value with
    | none => exact ih.cons key
    | some value => exact ih.cons_cons key

theorem occurrences_present {fields : List (String × Option Value)}
    (distinct : (fields.map Prod.fst).Nodup) (name : String) :
    occurrences name (present fields) ≤ 1 := by
  have keys := distinct.sublist (keys_present_sublist fields)
  have once := List.nodup_iff_count.mp keys name
  rwa [List.count, List.countP_map] at once

theorem lookup_present_of_notMem (fields : List (String × Option Value)) {key : String}
    (missing : key ∉ fields.map Prod.fst) : (present fields).lookup key = none := by
  rw [List.lookup_eq_none_iff]
  intro pair member
  have listed := (keys_present_sublist fields).subset (List.mem_map_of_mem member)
  exact bne_iff_ne.mpr fun same => missing (same ▸ listed)

theorem lookup_present {fields : List (String × Option Value)}
    (distinct : (fields.map Prod.fst).Nodup) {key : String} {value : Option Value}
    (listed : (key, value) ∈ fields) : (present fields).lookup key = value := by
  induction fields with
  | nil => cases listed
  | cons field fields ih =>
    have parts := List.nodup_cons.mp distinct
    rcases List.mem_cons.mp listed with same | later
    · cases same
      cases value with
      | none => exact lookup_present_of_notMem fields parts.1
      | some value => exact List.lookup_cons_self
    · have other : key ≠ field.1 := by
        intro same
        exact parts.1 (same ▸ List.mem_map_of_mem later)
      rcases field with ⟨first, firstValue⟩
      cases firstValue with
      | none => exact ih parts.2 later
      | some firstValue =>
        rw [← ih parts.2 later]
        simp [present, List.lookup_cons, beq_eq_false_iff_ne.mpr other]

/-- An object gives back the fields that it was written from. -/
theorem fields?_object (fields : List (String × Option Value))
    (distinct : (fields.map Prod.fst).Nodup) :
    fields? (fields.map Prod.fst) (.object (fields.flatMap member)) =
      some (fields.map Prod.snd) := by
  have once : ((fields.map Prod.fst).all fun name =>
      decide (occurrences name (present fields) ≤ 1)) = true := by
    rw [List.all_eq_true]
    intro name _
    exact decide_eq_true (occurrences_present distinct name)
  have values : (fields.map Prod.fst).map (fun name => (present fields).lookup name) =
      fields.map Prod.snd := by
    rw [List.map_map]
    apply List.map_congr_left
    intro field listed
    exact lookup_present distinct listed
  simp only [fields?, keyed?_members, Option.bind_eq_bind, Option.bind_some]
  rw [if_pos once, values]

/-! ## The fields of regions and manifests -/

/-- A text as the value of a field. -/
def textValue (text : String) : Value := .text (Piece.ofString text)

/-- A word as the value of a field. -/
def wordValue (word : UInt32) : Value := .natural word.toNat

theorem textField?_textValue (text : Option String) :
    textField? (text.map textValue) = some text := by
  cases text with
  | none => rfl
  | some text => simp [textField?, textValue, Piece.text?_ofString]

theorem wordField?_wordValue (word : Option UInt32) :
    wordField? (word.map wordValue) = some word := by
  cases word with
  | none => rfl
  | some word => simp [wordField?, wordValue, Word.ofNat?_toNat]

/-- The fields of a region with their values. -/
def regionEntries (region : Region) : List (String × Option Value) :=
  [("filename", some (textValue region.filename)), ("size", some (wordValue region.size)),
    ("spiflash_src", region.flashAddress.map wordValue),
    ("psram_dst", region.kind.destination?.map wordValue)]

/-- The fields of a manifest with their values. -/
def manifestEntries (manifest : Manifest) : List (String × Option Value) :=
  [("name", some (textValue manifest.name)), ("brief", manifest.brief.map textValue),
    ("video", manifest.video.map textValue), ("tag", manifest.tag.map textValue),
    ("hw_rev", manifest.hardwareRevision.map wordValue),
    ("regions", some (.list (manifest.regions.map regionValue))),
    ("magic", manifest.magic.map wordValue)]

theorem textMember_eq (key : String) (text : Option String) :
    textMember key text = member (key, text.map textValue) := by
  cases text <;> rfl

theorem wordMember_eq (key : String) (word : Option UInt32) :
    wordMember key word = member (key, word.map wordValue) := by
  cases word <;> rfl

theorem regionValue_eq (region : Region) :
    regionValue region = .object ((regionEntries region).flatMap member) := by
  simp only [regionValue, textMember_eq, wordMember_eq, regionEntries, List.flatMap_cons,
    List.flatMap_nil, List.append_nil, List.append_assoc, Option.map_some]

theorem toValue_eq (manifest : Manifest) :
    manifest.toValue = .object ((manifestEntries manifest).flatMap member) := by
  simp only [toValue, textMember_eq, wordMember_eq, manifestEntries, List.flatMap_cons,
    List.flatMap_nil, List.append_nil, List.append_assoc, Option.map_some]
  rfl

/-- A region as a draft with nothing missing. -/
def draftOf (region : Region) : DraftRegion :=
  ⟨some region.filename, some region.size, region.flashAddress, region.kind.destination?⟩

theorem draftRegion?_regionValue (region : Region) :
    draftRegion? (regionValue region) = some (draftOf region) := by
  have fields := fields?_object (regionEntries region)
    (show regionFields.Nodup by decide)
  have size := wordField?_wordValue (some region.size)
  have filename := textField?_textValue (some region.filename)
  rw [Option.map_some] at size filename
  change fields? regionFields _ = _ at fields
  rw [draftRegion?, regionValue_eq, fields]
  simp only [regionEntries, List.map_cons, List.map_nil, Option.bind_eq_bind, Option.bind_some,
    filename, size, wordField?_wordValue]
  rfl

theorem mapM_draftRegion? (regions : List Region) :
    (regions.map regionValue).mapM draftRegion? = some (regions.map draftOf) := by
  induction regions with
  | nil => rfl
  | cons region regions ih =>
    simp only [List.map_cons, List.mapM_cons, draftRegion?_regionValue, ih, Option.bind_eq_bind,
      Option.bind_some, Option.pure_def]

theorem draft?_toValue (manifest : Manifest) :
    draft? manifest.toValue = some ⟨some manifest.name, manifest.brief, manifest.video,
      manifest.tag, manifest.hardwareRevision, manifest.regions.map draftOf,
      manifest.magic⟩ := by
  have fields := fields?_object (manifestEntries manifest)
    (show manifestFields.Nodup by decide)
  have name := textField?_textValue (some manifest.name)
  rw [Option.map_some] at name
  change fields? manifestFields _ = _ at fields
  rw [draft?, toValue_eq, fields]
  simp only [manifestEntries, List.map_cons, List.map_nil, Option.bind_eq_bind, Option.bind_some,
    name, textField?_textValue, wordField?_wordValue, regionsField?, mapM_draftRegion?]

theorem completeRegions_draftOf (index : Nat) (regions : List Region) :
    completeRegions index (regions.map draftOf) = .ok regions := by
  induction regions generalizing index with
  | nil => rfl
  | cons region regions ih =>
    have kind := RegionKind.ofDestination_destination? region.kind
    simp only [List.map_cons, completeRegions, completeRegion, draftOf, ih, kind]
    rfl

/-! ## Documents -/

theorem membersStandard_flatMap {fields : List (String × Option Value)}
    (standard : ∀ field ∈ fields, ∀ value ∈ field.2, value.Standard) :
    Json.MembersStandard (fields.flatMap member) := by
  induction fields with
  | nil => trivial
  | cons field fields ih =>
    have others := ih fun other listed => standard other (List.mem_cons_of_mem field listed)
    have first := standard field List.mem_cons_self
    rcases field with ⟨key, value⟩
    cases value with
    | none => exact others
    | some value => exact ⟨Json.Piece.standard_ofString key, first value rfl, others⟩

theorem standard_textValue (text : String) : (textValue text).Standard :=
  Json.Piece.standard_ofString text

theorem standard_map_textValue (text : Option String) :
    ∀ value ∈ text.map textValue, value.Standard := by
  intro value listed
  rcases Option.map_eq_some_iff.mp listed with ⟨text, _, same⟩
  exact same ▸ standard_textValue text

theorem standard_map_wordValue (word : Option UInt32) :
    ∀ value ∈ word.map wordValue, value.Standard := by
  intro value listed
  rcases Option.map_eq_some_iff.mp listed with ⟨word, _, same⟩
  exact same ▸ trivial

theorem standard_regionValue (region : Region) : (regionValue region).Standard := by
  rw [regionValue_eq]
  apply membersStandard_flatMap
  simp only [regionEntries, List.forall_mem_cons]
  refine ⟨standard_map_textValue (some region.filename), standard_map_wordValue (some region.size),
    standard_map_wordValue _, standard_map_wordValue _, ?_⟩
  intro field impossible
  cases impossible

theorem itemsStandard_regions (regions : List Region) :
    Json.ItemsStandard (regions.map regionValue) := by
  induction regions with
  | nil => trivial
  | cons region regions ih => exact ⟨standard_regionValue region, ih⟩

theorem standard_toValue (manifest : Manifest) : manifest.toValue.Standard := by
  rw [toValue_eq]
  apply membersStandard_flatMap
  simp only [manifestEntries, List.forall_mem_cons]
  refine ⟨standard_map_textValue (some manifest.name), standard_map_textValue _,
    standard_map_textValue _, standard_map_textValue _, standard_map_wordValue _, ?_,
    standard_map_wordValue _, ?_⟩
  · intro value same
    cases same
    exact itemsStandard_regions manifest.regions
  · intro field impossible
    cases impossible

/-- A manifest is what its document describes. -/
theorem parseOctets_render (manifest : Manifest) :
    parseOctets manifest.toValue.render = .ok manifest := by
  rw [parseOctets, Json.parse?_render (standard_toValue manifest), Option.bind_some,
    draft?_toValue]
  simp only [complete, completeRegions_draftOf]
  rfl

/-! ## Manifest regions of flash -/

/-- A document ends with the bracket that closes the manifest. -/
theorem render_eq_append (manifest : Manifest) :
    ∃ front, manifest.toValue.render = front ++ [0x7D] :=
  ⟨_, rfl⟩

theorem trimErased_append_replicate (document : List UInt8) (count : Nat) :
    trimErased (document ++ List.replicate count 0xFF) = trimErased document := by
  unfold trimErased
  rw [List.reverse_append, List.reverse_replicate, List.dropWhile_append]
  simp

theorem trimErased_render (manifest : Manifest) (count : Nat) :
    trimErased (manifest.toValue.render ++ List.replicate count 0xFF) =
      manifest.toValue.render := by
  rcases render_eq_append manifest with ⟨front, shape⟩
  rw [trimErased_append_replicate, shape]
  simp [trimErased]

/-- What a region is read as that holds a document and erased octets behind
it: the manifest of the document, if it carries the stamp. -/
theorem readOctets_render (manifest : Manifest) (count : Nat) :
    readOctets (manifest.toValue.render ++ List.replicate count 0xFF) =
      if manifest.magic = some magicStamp then .ok manifest
      else .error (.unstamped manifest.name manifest.magic) := by
  rcases render_eq_append manifest with ⟨front, shape⟩
  have parsed := parseOctets_render manifest
  rw [readOctets, trimErased_render]
  split
  · next blank =>
    rw [blank] at shape
    exact absurd shape.symm (List.append_ne_nil_of_right_ne_nil front (List.cons_ne_nil _ _))
  · rw [parsed]

theorem size_toJson (manifest : Manifest) :
    manifest.toJson.size = manifest.toValue.render.length :=
  List.size_toArray

/-- No document is empty. -/
theorem size_toJson_pos (manifest : Manifest) : 0 < manifest.toJson.size := by
  rcases render_eq_append manifest with ⟨front, shape⟩
  rw [size_toJson, shape, List.length_append]
  exact Nat.lt_add_left _ Nat.one_pos

theorem readFlash_toJson (manifest : Manifest) (count : Nat) :
    readFlash (manifest.toJson ++ Octets.fill erasedByte count) =
      if manifest.magic = some magicStamp then .ok manifest
      else .error (.unstamped manifest.name manifest.magic) := by
  have octets : (manifest.toJson ++ Octets.fill erasedByte count).data.toList =
      manifest.toValue.render ++ List.replicate count 0xFF := by
    rw [ByteArray.data_append, Octets.fill_eq, Array.toList_append, Array.toList_replicate]
    rfl
  rw [readFlash, octets, readOctets_render]

theorem readFlash_fill (count : Nat) :
    readFlash (Octets.fill erasedByte count) = .error .blank := by
  have trimmed : trimErased (List.replicate count 0xFF) = [] := trimErased_append_replicate [] count
  rw [readFlash, Octets.fill_eq, Array.toList_replicate, readOctets, erasedByte, trimmed]

/-- A manifest is what its document describes, whatever its texts, its numbers
and its regions are.  From flash, with any number of erased octets behind the
document, it is read back if it carries the stamp, and nothing is read if it
does not. -/
theorem parse_and_readFlash_toJson (manifest : Manifest) :
    parse manifest.toJson = .ok manifest ∧
      ∀ count, (readFlash (manifest.toJson ++ Octets.fill erasedByte count)).toOption =
        if manifest.magic = some magicStamp then some manifest else none := by
  constructor
  · exact parseOctets_render manifest
  · intro count
    rw [readFlash_toJson]
    split
    · rfl
    · rfl

end Manifest
end FlashSlots
