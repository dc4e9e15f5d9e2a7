import FlashSlots.Manifest.Json
import FlashSlots.Octets

namespace FlashSlots

/-!
# Builds

A build is what a gateware project produces: a bitstream, firmware artifacts
and a manifest template.  The regions of the template name the artifacts.
-/

/-- A named build output. -/
structure Artifact where
  filename : String
  bytes : ByteArray
  deriving DecidableEq

structure Build where
  bitstream : ByteArray
  firmware : List Artifact
  manifest : Manifest
  deriving DecidableEq

namespace Build

/-- The artifact for a file name.  Of several the first one counts. -/
def artifact? (firmware : List Artifact) (filename : String) : Option Artifact :=
  firmware.find? fun artifact => artifact.filename == filename

/-- The slot for a build when none is asked for.  Firmware that executes in
place only runs from the bootloader slot; any other build needs a user slot. -/
def defaultTarget? (build : Build) : Option Layout.Target :=
  if build.manifest.hasExecuteInPlace then some .bootloader else none

end Build
end FlashSlots
