import FlashSlots.Flash.Image
import FlashSlots.Flash.Programmer
import FlashSlots.Settings.Basic

namespace FlashSlots
namespace Flash

/-!
# Programming an image file

This programmer keeps the chip in a file.  Opening it loads the image, closing
it saves the image, and what happens in between is lost if it is not closed.
A bitstream for configuration memory never reaches the image; the last one is
kept apart.
-/

/-- What the programmer works on. -/
structure ImageBench where
  tree : FileTree
  image : Option Image
  /-- The bitstream in configuration memory. -/
  loaded : Option ByteArray

namespace ImageProgrammer

/-- Before anything is opened. -/
def bench (tree : FileTree) : ImageBench := ⟨tree, none, none⟩

/-- Load the image. -/
def acquire (path : Option String) (bench : ImageBench) : Except Fault Unit × ImageBench :=
  match path with
  | none => (.error (.failed "no image_path configured for the image backend"), bench)
  | some path =>
    match Image.loadOrErased bench.tree path with
    | .error error => (.error (.failed error.message), bench)
    | .ok image => (.ok (), { bench with image := some image })

/-- Write into the image or into configuration memory. -/
def write (mode : Mode) (kind : WriteKind) (offset : UInt32) (payload : ByteArray)
    (bench : ImageBench) : Except Fault Unit × ImageBench :=
  match mode, kind with
  | .volatile, .bit => (.ok (), { bench with loaded := some payload })
  | .volatile, .raw =>
    (.error (.failed "only bitstreams can be loaded into configuration SRAM"), bench)
  | .persistent, _ =>
    match bench.image with
    | none => (.error (.failed "image is not open"), bench)
    | some image =>
      match image.program offset payload with
      | .error error => (.error (.failed error.message), bench)
      | .ok next => (.ok (), { bench with image := some next })

/-- Save the image.  Without one there is nothing to do. -/
def release (path : Option String) (bench : ImageBench) : Except Fault Unit × ImageBench :=
  match bench.image, path with
  | some image, some path =>
    match image.save bench.tree path with
    | .ok saved => (.ok (), { bench with tree := saved, image := none })
    | .error error => (.error (.failed error.message), { bench with image := none })
  | _, _ => (.ok (), { bench with image := none })

def describe (path : Option String) : Mode -> WriteOp -> String
  | .persistent, op => "image " ++ path.getD "<no image_path>" ++ ": " ++ op.describe
  | .volatile, op => "image (volatile): " ++ op.describe

end ImageProgrammer

/-- The programmer for the image file of the settings. -/
def imageProgrammer (settings : Settings) : Programmer ImageBench where
  name := "image"
  acquire := ImageProgrammer.acquire settings.imagePath
  write := ImageProgrammer.write
  release := ImageProgrammer.release settings.imagePath
  describe := ImageProgrammer.describe settings.imagePath

end Flash
end FlashSlots
