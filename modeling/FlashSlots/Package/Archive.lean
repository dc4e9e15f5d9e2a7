import FlashSlots.Compression.Writers
import FlashSlots.FileTree.Access
import FlashSlots.Package.Build
import FlashSlots.Tar.Reader
import FlashSlots.Tar.Writer
import FlashSlots.Text.Lossy

namespace FlashSlots

/-!
# Build archives

A build is shipped as one compressed archive.  Two of its files have fixed
names, the bitstream and the manifest; every other file is a firmware artifact
under its own name.  What is not a file is passed over, and names may start
with `./`.  Of several files with a fixed name the last one counts.
-/

/-- Why an archive holds no build. -/
inductive ArchiveError where
  | access (cause : AccessError)
  | manifest (cause : ManifestError)
  /-- One of the files with a fixed name is missing. -/
  | incomplete (path file : String)
  deriving DecidableEq

namespace ArchiveError

def message : ArchiveError -> String
  | access cause => cause.message
  | manifest cause => cause.message
  | incomplete path file =>
    "BitslotError::Argument: archive " ++ Text.quoted path ++ " does not contain " ++ file

end ArchiveError

namespace Build

def bitstreamFile : String := "top.bit"

def manifestFile : String := "manifest.json"

/-! ## Reading -/

/-- What has been found of a build. -/
structure Partial where
  bitstream : Option ByteArray
  manifest : Option Manifest
  firmware : List Artifact

/-- A name without any `./` in front. -/
def stripHere : List Char -> List Char
  | '.' :: '/' :: rest => stripHere rest
  | name => name

/-- Why a member of an archive cannot be used. -/
inductive MemberFault where
  | unreadable
  | manifest (cause : ManifestError)

/-- Add a member of an archive. -/
def addMember (found : Partial) : Option Tar.Member -> Except MemberFault Partial
  | none => .error .unreadable
  | some member =>
    if !member.isFile then .ok found
    else
      match member.content with
      | none => .error .unreadable
      | some content =>
        let name := String.ofList (stripHere (Text.lossy member.name).toList)
        if name = bitstreamFile then .ok { found with bitstream := some content }
        else if name = manifestFile then
          match Manifest.parse content with
          | .error cause => .error (.manifest cause)
          | .ok manifest => .ok { found with manifest := some manifest }
        else .ok { found with firmware := found.firmware ++ [⟨name, content⟩] }

def ofMembers (path : String) (members : List (Option Tar.Member)) : Except ArchiveError Build :=
  match members.foldlM addMember ⟨none, none, []⟩ with
  | .error .unreadable => .error (.access (.read path .content))
  | .error (.manifest cause) => .error (.manifest cause)
  | .ok found =>
    match found.bitstream, found.manifest with
    | none, _ => .error (.incomplete path bitstreamFile)
    | some _, none => .error (.incomplete path manifestFile)
    | some bitstream, some manifest => .ok ⟨bitstream, found.firmware, manifest⟩

def readArchive (tree : FileTree) (path : String) : Except ArchiveError Build :=
  match tree.read path with
  | .error cause => .error (.access cause)
  | .ok compressed => ofMembers path (Tar.members (Compression.Gzip.unpack compressed))

/-! ## Writing -/

def archiveFiles (build : Build) : List (String × ByteArray) :=
  [(bitstreamFile, build.bitstream), (manifestFile, build.manifest.toJson)] ++
    build.firmware.map fun artifact => (artifact.filename, artifact.bytes)

/-- Write an archive.  A file name that an archive cannot hold is refused. -/
def writeArchive [Compression.Writers] (build : Build) (tree : FileTree) (path : String) :
    Except AccessError FileTree :=
  match Tar.archive? build.archiveFiles with
  | none => .error (.write path .content)
  | some archive => tree.write true path (Compression.Writers.gzip archive)

end Build
end FlashSlots
