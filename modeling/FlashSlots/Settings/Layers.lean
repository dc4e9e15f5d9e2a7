import FlashSlots.FileTree.Access
import FlashSlots.Settings.Basic
import FlashSlots.Toml.Reader

namespace FlashSlots

/-!
# Settings from files

Settings come from several files.  Each of them may set any of the fields, and
of the files that set a field the last one counts.  A file that cannot be used
is skipped with a warning.  What no file sets has its standard value.
-/

/-- What a file says about the settings. -/
structure SettingsLayer where
  backend : Option String
  cable : Option String
  loader : Option String
  useSudo : Option Bool
  /-- The limit for a single write, in seconds. -/
  writeTimeout : Option Nat
  imagePath : Option String
  deriving DecidableEq

/-- Why a file says nothing about the settings. -/
inductive LayerError where
  /-- There is no such file. -/
  | missing (path : String)
  | access (cause : AccessError)
  /-- The file is no document, or a field has a value of the wrong kind. -/
  | malformed (path : String)
  /-- The document does not speak of programmers. -/
  | noSection
  deriving DecidableEq

namespace LayerError

def message : LayerError -> String
  | missing path =>
    "BitslotError::Internal: An Internal error occurred: Config file not found in " ++
      Text.quoted path
  | access cause => cause.message
  | malformed path => "BitslotError::TomlDe: Failed to parse config " ++ Text.quoted path
  | noSection =>
    "BitslotError::Internal: An Internal error occurred: config file did not contain a " ++
      "`[programmer]` section."

end LayerError

namespace SettingsLayer

/-- Nothing is set. -/
def empty : SettingsLayer := ⟨none, none, none, none, none, none⟩

/-- A layer on top of another one. -/
def stacked (upper lower : SettingsLayer) : SettingsLayer where
  backend := upper.backend <|> lower.backend
  cable := upper.cable <|> lower.cable
  loader := upper.loader <|> lower.loader
  useSudo := upper.useSudo <|> lower.useSudo
  writeTimeout := upper.writeTimeout <|> lower.writeTimeout
  imagePath := upper.imagePath <|> lower.imagePath

/-- The settings, with the standard values where nothing is set. -/
def settings (layer : SettingsLayer) : Settings where
  backend := layer.backend.getD Settings.standard.backend
  cable := layer.cable.getD Settings.standard.cable
  loader := layer.loader.getD Settings.standard.loader
  useSudo := layer.useSudo.getD Settings.standard.useSudo
  writeTimeout := (layer.writeTimeout.map .ofSeconds).getD Settings.standard.writeTimeout
  imagePath := layer.imagePath <|> Settings.standard.imagePath

/-! ## Reading a layer -/

def text? : Toml.Item -> Option String
  | .text value => some value
  | _ => none

def bool? : Toml.Item -> Option Bool
  | .bool truth => some truth
  | _ => none

def natural? : Toml.Item -> Option Nat
  | .integer value => if 0 ≤ value then some value.toNat else none
  | _ => none

/-- The value of a field, which may be missing but not of the wrong kind. -/
def field (read : Toml.Item -> Option α) (key : String) (members : Toml.Members) :
    Option (Option α) :=
  match Toml.find? members key with
  | none => some none
  | some item => (read item).map some

/-- What a table says.  Other keys than those of the fields are passed over. -/
def ofMembers (members : Toml.Members) : Option SettingsLayer := do
  let backend <- field text? "backend" members
  let cable <- field text? "cable" members
  let loader <- field text? "loader" members
  let useSudo <- field bool? "use_sudo" members
  let writeTimeout <- field natural? "write_timeout_secs" members
  let imagePath <- field text? "image_path" members
  return ⟨backend, cable, loader, useSudo, writeTimeout, imagePath⟩

/-- What a list says.  It holds the values of all fields in their order, and
whatever follows them is passed over. -/
def ofItems : List Toml.Item -> Option SettingsLayer
  | backend :: cable :: loader :: useSudo :: writeTimeout :: imagePath :: _ => do
    let backend <- text? backend
    let cable <- text? cable
    let loader <- text? loader
    let useSudo <- bool? useSudo
    let writeTimeout <- natural? writeTimeout
    let imagePath <- text? imagePath
    return ⟨backend, cable, loader, useSudo, writeTimeout, imagePath⟩
  | _ => none

/-- What the section on programmers says.  A moment counts as a table without
any of the fields. -/
def ofItem : Toml.Item -> Option SettingsLayer
  | .table _ members => ofMembers members
  | .list items => ofItems items
  | .moment => some empty
  | _ => none

/-- What a document says. -/
def ofDocument (path document : String) : Except LayerError SettingsLayer :=
  match Toml.parse? document with
  | none => .error (.malformed path)
  | some members =>
    match Toml.find? members "programmer" with
    | none => .error .noSection
    | some item =>
      match ofItem item with
      | some layer => .ok layer
      | none => .error (.malformed path)

/-- What a file says. -/
def read (tree : FileTree) (path : String) : Except LayerError SettingsLayer :=
  if tree.isFile path then
    match tree.readText path with
    | .ok document => ofDocument path document
    | .error cause => .error (.access cause)
  else .error (.missing path)

end SettingsLayer

namespace Settings

/-- The warning about a file that is skipped. -/
def skipped (path : String) (error : LayerError) : String :=
  "Skipping config layer " ++ Text.quoted path ++ ": " ++ error.message

/-- Put the layers of several files on top of a layer.  The result comes with
the warnings about files that are skipped. -/
def layer (tree : FileTree) (below : SettingsLayer) : List String -> SettingsLayer × List String
  | [] => (below, [])
  | path :: rest =>
    match SettingsLayer.read tree path with
    | .ok upper => layer tree (upper.stacked below) rest
    | .error error =>
      let (result, warnings) := layer tree below rest
      (result, skipped path error :: warnings)

/-- The settings that the files make together, and the warnings. -/
def layered (tree : FileTree) (paths : List String) : Settings × List String :=
  let (result, warnings) := layer tree .empty paths
  (result.settings, warnings)

end Settings
end FlashSlots
