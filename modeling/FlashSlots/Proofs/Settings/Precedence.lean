import Mathlib
import FlashSlots.Settings.Layers

namespace FlashSlots
namespace Settings

/-!
# Which file decides about a setting

What a layer means is, for each field on its own, a value or none.  Layers are
stacked field by field, so that a field has the value of the last file that
sets it, whatever the files say about the other fields.

A file is `Usable` if its section on programmers can be read, and `Sets` says
what it sets then.  Everything else that can be wrong with a file makes it
`Unusable`, for one reason.  A file is one or the other, and an unusable file
leaves nothing behind but its warning.
-/

/-! ## Fields -/

inductive Field where
  | backend
  | cable
  | loader
  | useSudo
  | writeTimeout
  | imagePath
  deriving DecidableEq

namespace Field

/-- The values of a field. -/
abbrev Value : Field -> Type
  | backend => String
  | cable => String
  | loader => String
  | useSudo => Bool
  | writeTimeout => Duration
  | imagePath => Option String

/-- The key under which a table has the field. -/
def key : Field -> String
  | backend => "backend"
  | cable => "cable"
  | loader => "loader"
  | useSudo => "use_sudo"
  | writeTimeout => "write_timeout_secs"
  | imagePath => "image_path"

/-- The place at which a list has the field. -/
def position : Field -> Nat
  | backend => 0
  | cable => 1
  | loader => 2
  | useSudo => 3
  | writeTimeout => 4
  | imagePath => 5

/-- The value that an item stands for, if it is of the right kind. -/
def value? : (field : Field) -> Toml.Item -> Option field.Value
  | backend => SettingsLayer.text?
  | cable => SettingsLayer.text?
  | loader => SettingsLayer.text?
  | useSudo => SettingsLayer.bool?
  | writeTimeout => fun item => (SettingsLayer.natural? item).map .ofSeconds
  | imagePath => fun item => (SettingsLayer.text? item).map some

/-- The item that a section has for a field. -/
def entry? (field : Field) : Toml.Item -> Option Toml.Item
  | .table _ members => Toml.find? members field.key
  | .list items => items[field.position]?
  | _ => none

end Field

/-- The value of a field. -/
def get (settings : Settings) : (field : Field) -> field.Value
  | .backend => settings.backend
  | .cable => settings.cable
  | .loader => settings.loader
  | .useSudo => settings.useSudo
  | .writeTimeout => settings.writeTimeout
  | .imagePath => settings.imagePath

end Settings

open Settings (Field)

/-- The value that a layer gives to a field. -/
def SettingsLayer.get? (layer : SettingsLayer) : (field : Field) -> Option field.Value
  | .backend => layer.backend
  | .cable => layer.cable
  | .loader => layer.loader
  | .useSudo => layer.useSudo
  | .writeTimeout => layer.writeTimeout.map .ofSeconds
  | .imagePath => layer.imagePath.map some

namespace SettingsLayer

@[simp]
theorem get?_empty (field : Field) : empty.get? field = none := by
  cases field <;> rfl

/-- Layers are stacked field by field. -/
theorem get?_stacked (upper lower : SettingsLayer) (field : Field) :
    (upper.stacked lower).get? field = (upper.get? field <|> lower.get? field) := by
  cases field with
  | writeTimeout => simp [stacked, get?, Option.map_or]
  | imagePath => simp [stacked, get?, Option.map_or]
  | _ => rfl

theorem get_settings (layer : SettingsLayer) (field : Field) :
    layer.settings.get field = (layer.get? field).getD (Settings.standard.get field) := by
  cases field with
  | imagePath =>
    change (layer.imagePath <|> none) = (layer.imagePath.map some).getD none
    cases layer.imagePath <;> rfl
  | _ => rfl

end SettingsLayer

namespace Settings

/-! ## What a section says -/

/-- The section can hold settings: it is a table, a moment, which counts as an
empty table, or a list with a place for every field. -/
def HasForm : Toml.Item -> Prop
  | .table _ _ => True
  | .moment => True
  | .list items => 6 ≤ items.length
  | _ => False

/-- The section can hold settings, and what it has for a field is of the right
kind. -/
structure WellTyped (part : Toml.Item) : Prop where
  form : HasForm part
  kinds : ∀ field item, Field.entry? field part = some item ->
    ∃ value, Field.value? field item = some value

/-- The layer has for every field what the section says. -/
def Holds (layer : SettingsLayer) (part : Toml.Item) : Prop :=
  ∀ field, layer.get? field = (Field.entry? field part).bind (Field.value? field)

end Settings

open Settings (Field HasForm WellTyped Holds)

namespace SettingsLayer

theorem field_eq_some_iff {α : Type} {read : Toml.Item -> Option α} {key : String}
    {members : Toml.Members} {found : Option α} :
    field read key members = some found ↔
      found = (Toml.find? members key).bind read ∧
        ∀ item, Toml.find? members key = some item -> ∃ value, read item = some value := by
  unfold field
  cases Toml.find? members key with
  | none => simp [eq_comm]
  | some item =>
    cases value : read item <;> simp [value, eq_comm]

/-- A table says for every key what stands under it. -/
theorem get?_of_ofMembers {members : Toml.Members} {layer : SettingsLayer}
    (said : ofMembers members = some layer) (key : Field) :
    layer.get? key = (Toml.find? members key.key).bind key.value? ∧
      ∀ item, Toml.find? members key.key = some item -> ∃ value, key.value? item = some value := by
  simp only [ofMembers, Option.bind_eq_bind, Option.bind_eq_some_iff, field_eq_some_iff,
    Option.pure_def, Option.some.injEq] at said
  rcases said with ⟨_, ⟨rfl, backend⟩, _, ⟨rfl, cable⟩, _, ⟨rfl, loader⟩, _, ⟨rfl, useSudo⟩, _,
    ⟨rfl, writeTimeout⟩, _, ⟨rfl, imagePath⟩, rfl⟩
  cases key with
  | backend => exact ⟨rfl, backend⟩
  | cable => exact ⟨rfl, cable⟩
  | loader => exact ⟨rfl, loader⟩
  | useSudo => exact ⟨rfl, useSudo⟩
  | writeTimeout =>
    refine ⟨Option.map_bind, fun item found => ?_⟩
    rcases writeTimeout item found with ⟨value, read⟩
    exact ⟨.ofSeconds value, Option.map_eq_some_iff.mpr ⟨value, read, rfl⟩⟩
  | imagePath =>
    refine ⟨Option.map_bind, fun item found => ?_⟩
    rcases imagePath item found with ⟨value, read⟩
    exact ⟨some value, Option.map_eq_some_iff.mpr ⟨value, read, rfl⟩⟩

theorem exists_ofMembers {members : Toml.Members}
    (kinds : ∀ (key : Field) item, Toml.find? members key.key = some item ->
      ∃ value, key.value? item = some value) : ∃ layer, ofMembers members = some layer := by
  have seconds : ∀ item, Toml.find? members "write_timeout_secs" = some item ->
      ∃ value, natural? item = some value := by
    intro item found
    rcases kinds .writeTimeout item found with ⟨_, read⟩
    rcases Option.map_eq_some_iff.mp read with ⟨value, read, _⟩
    exact ⟨value, read⟩
  have path : ∀ item, Toml.find? members "image_path" = some item ->
      ∃ value, text? item = some value := by
    intro item found
    rcases kinds .imagePath item found with ⟨_, read⟩
    rcases Option.map_eq_some_iff.mp read with ⟨value, read, _⟩
    exact ⟨value, read⟩
  refine ⟨⟨(Toml.find? members "backend").bind text?, (Toml.find? members "cable").bind text?,
    (Toml.find? members "loader").bind text?, (Toml.find? members "use_sudo").bind bool?,
    (Toml.find? members "write_timeout_secs").bind natural?,
    (Toml.find? members "image_path").bind text?⟩, ?_⟩
  simp only [ofMembers, Option.bind_eq_bind, Option.bind_eq_some_iff, field_eq_some_iff]
  exact ⟨_, ⟨rfl, kinds .backend⟩, _, ⟨rfl, kinds .cable⟩, _, ⟨rfl, kinds .loader⟩, _,
    ⟨rfl, kinds .useSudo⟩, _, ⟨rfl, seconds⟩, _, ⟨rfl, path⟩, rfl⟩

/-- A list says for every place what stands there. -/
theorem get?_of_ofItems {items : List Toml.Item} {layer : SettingsLayer}
    (said : ofItems items = some layer) :
    6 ≤ items.length ∧ ∀ place : Field, ∃ item value, items[place.position]? = some item ∧
      place.value? item = some value ∧ layer.get? place = some value := by
  unfold ofItems at said
  split at said
  · simp only [Option.bind_eq_bind, Option.bind_eq_some_iff, Option.pure_def,
      Option.some.injEq] at said
    rcases said with
      ⟨_, backend, _, cable, _, loader, _, useSudo, _, writeTimeout, _, imagePath, rfl⟩
    refine ⟨?_, fun place => ?_⟩
    · simp only [List.length_cons]
      omega
    · cases place with
      | backend => exact ⟨_, _, rfl, backend, rfl⟩
      | cable => exact ⟨_, _, rfl, cable, rfl⟩
      | loader => exact ⟨_, _, rfl, loader, rfl⟩
      | useSudo => exact ⟨_, _, rfl, useSudo, rfl⟩
      | writeTimeout => exact ⟨_, _, rfl, Option.map_eq_some_iff.mpr ⟨_, writeTimeout, rfl⟩, rfl⟩
      | imagePath => exact ⟨_, _, rfl, Option.map_eq_some_iff.mpr ⟨_, imagePath, rfl⟩, rfl⟩
  · cases said

theorem exists_ofItems {items : List Toml.Item} (room : 6 ≤ items.length)
    (kinds : ∀ (place : Field) item, items[place.position]? = some item ->
      ∃ value, place.value? item = some value) : ∃ layer, ofItems items = some layer := by
  rcases items with
    _ | ⟨first, _ | ⟨second, _ | ⟨third, _ | ⟨fourth, _ | ⟨fifth, _ | ⟨sixth, rest⟩⟩⟩⟩⟩⟩
  iterate 6 simp at room
  rcases kinds .backend first rfl with ⟨backend, readBackend⟩
  rcases kinds .cable second rfl with ⟨cable, readCable⟩
  rcases kinds .loader third rfl with ⟨loader, readLoader⟩
  rcases kinds .useSudo fourth rfl with ⟨useSudo, readUseSudo⟩
  rcases kinds .writeTimeout fifth rfl with ⟨_, readTimeout⟩
  rcases kinds .imagePath sixth rfl with ⟨_, readPath⟩
  rcases Option.map_eq_some_iff.mp readTimeout with ⟨seconds, readSeconds, _⟩
  rcases Option.map_eq_some_iff.mp readPath with ⟨path, readPath, _⟩
  refine ⟨⟨some backend, some cable, some loader, some useSudo, some seconds, some path⟩, ?_⟩
  simp only [ofItems, Option.bind_eq_bind, Option.bind_eq_some_iff]
  exact ⟨_, readBackend, _, readCable, _, readLoader, _, readUseSudo, _, readSeconds, _, readPath,
    rfl⟩

/-- A section says for every field what it has for it. -/
theorem holds_of_ofItem {part : Toml.Item} {layer : SettingsLayer}
    (said : ofItem part = some layer) : WellTyped part ∧ Holds layer part := by
  cases part with
  | table origin members =>
    have fields := get?_of_ofMembers said
    exact ⟨⟨trivial, fun field => (fields field).2⟩, fun field => (fields field).1⟩
  | list items =>
    rcases get?_of_ofItems said with ⟨room, places⟩
    refine ⟨⟨room, fun field item found => ?_⟩, fun field => ?_⟩
    · rcases places field with ⟨_, value, listed, read, _⟩
      cases found.symm.trans listed
      exact ⟨value, read⟩
    · rcases places field with ⟨item, value, listed, read, held⟩
      rw [held, Field.entry?, listed, Option.bind_some, read]
  | moment =>
    cases said
    exact ⟨⟨trivial, nofun⟩, get?_empty⟩
  | _ => cases said

theorem exists_ofItem {part : Toml.Item} (typed : WellTyped part) :
    ∃ layer, ofItem part = some layer := by
  cases part with
  | table origin members => exact exists_ofMembers typed.kinds
  | list items => exact exists_ofItems typed.form typed.kinds
  | moment => exact ⟨empty, rfl⟩
  | _ => exact typed.form.elim

end SettingsLayer

namespace Settings

/-! ## What a file says -/

/-- The file holds a document with a section that says something about settings. -/
structure Usable (tree : FileTree) (path : String) (part : Toml.Item) : Prop where
  isFile : tree.isFile path = true
  content : ∃ document members, tree.readText path = .ok document ∧
    Toml.parse? document = some members ∧ Toml.find? members "programmer" = some part
  typed : WellTyped part

/-- The file says nothing about settings, for a reason. -/
inductive Unusable (tree : FileTree) (path : String) : LayerError -> Prop where
  | missing (absent : tree.isFile path = false) : Unusable tree path (.missing path)
  | unreadable {cause : AccessError} (isFile : tree.isFile path = true)
      (failed : tree.readText path = .error cause) : Unusable tree path (.access cause)
  | noDocument {document : String} (isFile : tree.isFile path = true)
      (text : tree.readText path = .ok document) (broken : Toml.parse? document = none) :
      Unusable tree path (.malformed path)
  | noSection {document : String} {members : Toml.Members} (isFile : tree.isFile path = true)
      (text : tree.readText path = .ok document) (parsed : Toml.parse? document = some members)
      (absent : Toml.find? members "programmer" = none) : Unusable tree path .noSection
  | wrongKind {document : String} {members : Toml.Members} {part : Toml.Item}
      (isFile : tree.isFile path = true) (text : tree.readText path = .ok document)
      (parsed : Toml.parse? document = some members)
      (found : Toml.find? members "programmer" = some part) (untyped : ¬ WellTyped part) :
      Unusable tree path (.malformed path)

/-- The file can be used and sets the field to this value. -/
def Sets (tree : FileTree) (path : String) (field : Field) (value : field.Value) : Prop :=
  ∃ part item, Usable tree path part ∧ field.entry? part = some item ∧
    field.value? item = some value

section

variable {tree : FileTree} {path : String} {part : Toml.Item} {layer : SettingsLayer}
  {error : LayerError}

theorem Usable.read (usable : Usable tree path part) :
    ∃ layer, SettingsLayer.read tree path = .ok layer ∧ Holds layer part := by
  rcases usable.content with ⟨document, members, text, parsed, found⟩
  rcases SettingsLayer.exists_ofItem usable.typed with ⟨layer, said⟩
  refine ⟨layer, ?_, (SettingsLayer.holds_of_ofItem said).2⟩
  rw [SettingsLayer.read, if_pos usable.isFile, text]
  dsimp only
  rw [SettingsLayer.ofDocument, parsed]
  dsimp only
  rw [found]
  dsimp only
  rw [said]

theorem Unusable.read (unusable : Unusable tree path error) :
    SettingsLayer.read tree path = .error error := by
  unfold SettingsLayer.read SettingsLayer.ofDocument
  cases unusable with
  | missing absent => rw [if_neg (Bool.eq_false_iff.mp absent)]
  | unreadable isFile failed => rw [if_pos isFile, failed]
  | noDocument isFile text broken => simp only [if_pos isFile, text, broken]
  | noSection isFile text parsed absent => simp only [if_pos isFile, text, parsed, absent]
  | @wrongKind document members part isFile text parsed found untyped =>
    have unsaid : SettingsLayer.ofItem part = none := by
      cases said : SettingsLayer.ofItem part with
      | none => rfl
      | some layer => exact absurd (SettingsLayer.holds_of_ofItem said).1 untyped
    simp only [if_pos isFile, text, parsed, found, unsaid]

/-- A file can be used or cannot. -/
theorem usable_or_unusable (tree : FileTree) (path : String) :
    (∃ part, Usable tree path part) ∨ ∃ error, Unusable tree path error := by
  cases isFile : tree.isFile path with
  | false => exact .inr ⟨_, .missing isFile⟩
  | true =>
    cases text : tree.readText path with
    | error cause => exact .inr ⟨_, .unreadable isFile text⟩
    | ok document =>
      cases parsed : Toml.parse? document with
      | none => exact .inr ⟨_, .noDocument isFile text parsed⟩
      | some members =>
        cases found : Toml.find? members "programmer" with
        | none => exact .inr ⟨_, .noSection isFile text parsed found⟩
        | some part =>
          by_cases typed : WellTyped part
          · exact .inl ⟨part, isFile, ⟨document, members, text, parsed, found⟩, typed⟩
          · exact .inr ⟨_, .wrongKind isFile text parsed found typed⟩

theorem Usable.not_unusable (usable : Usable tree path part) : ¬ Unusable tree path error := by
  intro unusable
  rcases usable.read with ⟨layer, read, _⟩
  cases read.symm.trans unusable.read

theorem Unusable.not_sets (unusable : Unusable tree path error) (field : Field)
    (value : field.Value) : ¬ Sets tree path field value := by
  rintro ⟨part, item, usable, _⟩
  exact usable.not_unusable unusable

/-- A file sets what its layer has. -/
theorem sets_iff (read : SettingsLayer.read tree path = .ok layer) (field : Field)
    (value : field.Value) : Sets tree path field value ↔ layer.get? field = some value := by
  constructor
  · rintro ⟨part, item, usable, found, same⟩
    rcases usable.read with ⟨other, read', holds⟩
    cases read.symm.trans read'
    rw [holds field, found]
    exact same
  · intro held
    rcases usable_or_unusable tree path with ⟨part, usable⟩ | ⟨error, unusable⟩
    · rcases usable.read with ⟨other, read', holds⟩
      cases read.symm.trans read'
      rw [holds field] at held
      rcases Option.bind_eq_some_iff.mp held with ⟨item, found, same⟩
      exact ⟨part, item, usable, found, same⟩
    · cases read.symm.trans unusable.read

end

/-! ## Several files -/

/-- Every file that cannot be used has its warning, in the order of the files. -/
inductive Warned (tree : FileTree) : List String -> List String -> Prop where
  | nil : Warned tree [] []
  | usable {path : String} {part : Toml.Item} {paths warnings : List String}
      (usable : Usable tree path part) (rest : Warned tree paths warnings) :
      Warned tree (path :: paths) warnings
  | unusable {path : String} {error : LayerError} {paths warnings : List String}
      (unusable : Unusable tree path error) (rest : Warned tree paths warnings) :
      Warned tree (path :: paths) (skipped path error :: warnings)

section

variable {tree : FileTree} {below : SettingsLayer}

theorem layer_of_usable {path : String} {upper : SettingsLayer}
    (read : SettingsLayer.read tree path = .ok upper) (rest : List String) :
    layer tree below (path :: rest) = layer tree (upper.stacked below) rest := by
  rw [layer, read]

theorem layer_of_unusable {path : String} {error : LayerError} (unusable : Unusable tree path error)
    (rest : List String) :
    layer tree below (path :: rest) =
      ((layer tree below rest).1, skipped path error :: (layer tree below rest).2) := by
  rw [layer, unusable.read]

theorem layer_append (front back : List String) :
    (layer tree below (front ++ back)).1 = (layer tree (layer tree below front).1 back).1 := by
  induction front generalizing below with
  | nil => rfl
  | cons path rest ih =>
    rw [List.cons_append]
    rcases usable_or_unusable tree path with ⟨part, usable⟩ | ⟨error, unusable⟩
    · rcases usable.read with ⟨upper, read, _⟩
      rw [layer_of_usable read, layer_of_usable read]
      exact ih
    · rw [layer_of_unusable unusable, layer_of_unusable unusable]
      exact ih

/-- Files that do not set a field leave it as it is. -/
theorem get?_layer_of_unset {field : Field} {paths : List String}
    (unset : ∀ path ∈ paths, ∀ value, ¬ Sets tree path field value) :
    (layer tree below paths).1.get? field = below.get? field := by
  induction paths generalizing below with
  | nil => rfl
  | cons path rest ih =>
    rcases List.forall_mem_cons.mp unset with ⟨here, others⟩
    rcases usable_or_unusable tree path with ⟨part, usable⟩ | ⟨error, unusable⟩
    · rcases usable.read with ⟨upper, read, _⟩
      have silent : upper.get? field = none :=
        Option.eq_none_iff_forall_ne_some.mpr fun value held =>
          here value ((sets_iff read field value).mpr held)
      rw [layer_of_usable read, ih others, SettingsLayer.get?_stacked, silent]
      rfl
    · rw [layer_of_unusable unusable]
      exact ih others

/-- A file that sets a field decides about it. -/
theorem get?_layer_of_sets {field : Field} {path : String} {value : field.Value}
    {rest : List String} (sets : Sets tree path field value)
    (unset : ∀ later ∈ rest, ∀ other, ¬ Sets tree later field other) :
    (layer tree below (path :: rest)).1.get? field = some value := by
  rcases sets with ⟨part, item, usable, found, same⟩
  rcases usable.read with ⟨upper, read, holds⟩
  have held : upper.get? field = some value := by
    rw [holds field, found]
    exact same
  rw [layer_of_usable read, get?_layer_of_unset unset, SettingsLayer.get?_stacked, held]
  rfl

theorem warned_layer (below : SettingsLayer) (paths : List String) :
    Warned tree paths (layer tree below paths).2 := by
  induction paths generalizing below with
  | nil => exact .nil
  | cons path rest ih =>
    rcases usable_or_unusable tree path with ⟨part, usable⟩ | ⟨error, unusable⟩
    · rcases usable.read with ⟨upper, read, _⟩
      rw [layer_of_usable read]
      exact .usable usable (ih _)
    · rw [layer_of_unusable unusable]
      exact .unusable unusable (ih _)

end

/-- Each field of the settings has the value of the last file that can be used and
sets it, and its standard value if there is none; the other fields have no part
in it.  A file either can be used or cannot, for one reason.  One that cannot
changes nothing, wherever it stands, and there is exactly one warning about it,
which gives the reason. -/
theorem field_of_last_file (tree : FileTree) (paths : List String) :
    (∀ field : Field,
      (∀ front path back value, paths = front ++ path :: back -> Sets tree path field value ->
        (∀ later ∈ back, ∀ other, ¬ Sets tree later field other) ->
          (layered tree paths).1.get field = value) ∧
      ((∀ path ∈ paths, ∀ value, ¬ Sets tree path field value) ->
        (layered tree paths).1.get field = standard.get field)) ∧
    (∀ path, (∃ part, Usable tree path part) ↔ ¬ ∃ error, Unusable tree path error) ∧
    (∀ front path back error, paths = front ++ path :: back -> Unusable tree path error ->
      (layered tree paths).1 = (layered tree (front ++ back)).1) ∧
    Warned tree paths (layered tree paths).2 := by
  refine ⟨fun field => ⟨?_, ?_⟩, fun path => ⟨?_, ?_⟩, ?_, ?_⟩
  · rintro front path back value rfl sets unset
    change (layer tree .empty (front ++ path :: back)).1.settings.get field = value
    rw [SettingsLayer.get_settings, layer_append, get?_layer_of_sets sets unset]
    rfl
  · intro unset
    change (layer tree .empty paths).1.settings.get field = _
    rw [SettingsLayer.get_settings, get?_layer_of_unset unset, SettingsLayer.get?_empty]
    rfl
  · rintro ⟨part, usable⟩ ⟨error, unusable⟩
    exact usable.not_unusable unusable
  · intro possible
    exact (usable_or_unusable tree path).resolve_right possible
  · rintro front path back error rfl unusable
    change (layer tree .empty (front ++ path :: back)).1.settings =
      (layer tree .empty (front ++ back)).1.settings
    rw [layer_append, layer_append, layer_of_unusable unusable]
  · exact warned_layer .empty paths

/-! ## A usable file and two others -/

/-- Two files with settings. -/
def twoFiles (vendor user : String) : FileTree where
  home := ["bench"]
  nodes := [(["bench", "vendor.toml"], .file vendor.toUTF8),
    (["bench", "user.toml"], .file user.toUTF8)]

/-- The vendor sets two fields, and the user gives a number for a text. -/
def benchFiles : FileTree :=
  twoFiles "[programmer]\nuse_sudo = false\nwrite_timeout_secs = 30\n"
    "[programmer]\ncable = 5\nuse_sudo = true\n"

theorem readText_of_find {tree : FileTree} {path document : String} {location : Location}
    (found : tree.find path = .ok (location, .file document.toUTF8)) :
    tree.isFile path = true ∧ tree.readText path = .ok document := by
  have valid : document.toUTF8.IsValidUTF8 := document.isValidUTF8
  have decoded : String.fromUTF8? document.toUTF8 = some document := by
    rw [String.fromUTF8?, dif_pos valid]
    rfl
  refine ⟨by rw [FileTree.isFile, found], ?_⟩
  rw [FileTree.readText, FileTree.read, FileTree.content, found]
  dsimp only [Except.mapError]
  rw [decoded]

theorem usable_vendor : Usable benchFiles "vendor.toml"
    (.table .header [("use_sudo", .bool false), ("write_timeout_secs", .integer 30)]) := by
  rcases readText_of_find (show benchFiles.find "vendor.toml" = _ from rfl) with ⟨isFile, text⟩
  refine ⟨isFile, ⟨_, _, text, by cbv, rfl⟩, trivial, ?_⟩
  intro field item found
  cases field with
  | useSudo => cases found; exact ⟨false, rfl⟩
  | writeTimeout => cases found; exact ⟨.ofSeconds 30, rfl⟩
  | _ => cases found

theorem unusable_user : Unusable benchFiles "user.toml" (.malformed "user.toml") := by
  rcases readText_of_find (show benchFiles.find "user.toml" = _ from rfl) with ⟨isFile, text⟩
  have parsed : Toml.parse? "[programmer]\ncable = 5\nuse_sudo = true\n" =
    some [("programmer", .table .header [("cable", .integer 5), ("use_sudo", .bool true)])] := by
    cbv
  refine .wrongKind isFile text parsed rfl fun typed => ?_
  rcases typed.kinds .cable (.integer 5) rfl with ⟨_, impossible⟩
  cases impossible

theorem unusable_missing : Unusable benchFiles "other.toml" (.missing "other.toml") :=
  .missing rfl

theorem vendor_decides :
    (layered benchFiles ["vendor.toml", "user.toml", "other.toml"]).1.get .useSudo = false ∧
      (layered benchFiles ["vendor.toml", "user.toml", "other.toml"]).1.get .cable = "dirtyJtag" ∧
      (layered benchFiles ["vendor.toml", "user.toml", "other.toml"]).1 =
        (layered benchFiles ["vendor.toml", "other.toml"]).1 ∧
      Warned benchFiles ["vendor.toml", "user.toml", "other.toml"]
        (layered benchFiles ["vendor.toml", "user.toml", "other.toml"]).2 := by
  rcases field_of_last_file benchFiles ["vendor.toml", "user.toml", "other.toml"] with
    ⟨fields, _, removed, warned⟩
  have useSudo : Sets benchFiles "vendor.toml" .useSudo false := ⟨_, _, usable_vendor, rfl, rfl⟩
  have silent (field : Field) : ∀ later ∈ ["user.toml", "other.toml"], ∀ value : field.Value,
      ¬ Sets benchFiles later field value :=
    List.forall_mem_cons.mpr ⟨unusable_user.not_sets field,
      List.forall_mem_singleton.mpr (unusable_missing.not_sets field)⟩
  have cable : ∀ value, ¬ Sets benchFiles "vendor.toml" .cable value := by
    intro value sets
    rcases usable_vendor.read with ⟨layer, read, holds⟩
    have held := (sets_iff read .cable value).mp sets
    rw [holds .cable] at held
    cases held
  exact ⟨(fields .useSudo).1 [] _ _ _ rfl useSudo (silent .useSudo),
    (fields .cable).2 (List.forall_mem_cons.mpr ⟨cable, silent .cable⟩),
    removed ["vendor.toml"] _ _ _ rfl unusable_user, warned⟩

end Settings
end FlashSlots
