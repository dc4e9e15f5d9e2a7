import FlashSlots.Bench.Launcher
import FlashSlots.Bench.Shell
import FlashSlots.Checksum.Adler32
import FlashSlots.Checksum.Crc32
import FlashSlots.CommandLine.AddressMap
import FlashSlots.CommandLine.Error
import FlashSlots.CommandLine.Export
import FlashSlots.CommandLine.Flashing
import FlashSlots.CommandLine.Inputs
import FlashSlots.CommandLine.Invocation
import FlashSlots.CommandLine.Options
import FlashSlots.CommandLine.Program
import FlashSlots.CommandLine.StubFile
import FlashSlots.Compression.Bits
import FlashSlots.Compression.Gzip
import FlashSlots.Compression.Inflate
import FlashSlots.Compression.PrefixCode
import FlashSlots.Compression.Stored
import FlashSlots.Compression.Writers
import FlashSlots.Compression.Zlib
import FlashSlots.Duration
import FlashSlots.FileTree.Access
import FlashSlots.FileTree.Basic
import FlashSlots.FileTree.Path
import FlashSlots.Flash.Backends
import FlashSlots.Flash.Execution
import FlashSlots.Flash.Image
import FlashSlots.Flash.ImageProgrammer
import FlashSlots.Flash.Loader
import FlashSlots.Flash.Programmer
import FlashSlots.Flash.Session
import FlashSlots.Flash.Sharing
import FlashSlots.Flash.Station
import FlashSlots.Json.Reader
import FlashSlots.Json.Text
import FlashSlots.Json.Value
import FlashSlots.Layout
import FlashSlots.Main
import FlashSlots.Manifest.Basic
import FlashSlots.Manifest.Flash
import FlashSlots.Manifest.Json
import FlashSlots.Manifest.Listing
import FlashSlots.Octets
import FlashSlots.Package.Archive
import FlashSlots.Package.Build
import FlashSlots.Package.Plan
import FlashSlots.Package.WriteOp
import FlashSlots.Proofs.CommandLine.Confirmation
import FlashSlots.Proofs.CommandLine.Export
import FlashSlots.Proofs.Compression.Limit
import FlashSlots.Proofs.Compression.Storing
import FlashSlots.Proofs.Compression.Streams
import FlashSlots.Proofs.FileTree.Directory
import FlashSlots.Proofs.FileTree.Parent
import FlashSlots.Proofs.FileTree.Writing
import FlashSlots.Proofs.Flash.Attempts
import FlashSlots.Proofs.Flash.Deployment
import FlashSlots.Proofs.Flash.Effect
import FlashSlots.Proofs.Flash.Exclusion
import FlashSlots.Proofs.Flash.ImageSession
import FlashSlots.Proofs.Flash.Interruption
import FlashSlots.Proofs.Flash.Pages
import FlashSlots.Proofs.Flash.Programming
import FlashSlots.Proofs.Flash.Retry
import FlashSlots.Proofs.Flash.Trace
import FlashSlots.Proofs.Json.Grammar
import FlashSlots.Proofs.Json.RoundTrip
import FlashSlots.Proofs.Json.Text
import FlashSlots.Proofs.Manifest.Length
import FlashSlots.Proofs.Manifest.RoundTrip
import FlashSlots.Proofs.Manifest.Template
import FlashSlots.Proofs.Outcome
import FlashSlots.Proofs.Package.Archive
import FlashSlots.Proofs.Package.Capacity
import FlashSlots.Proofs.Package.Contents
import FlashSlots.Proofs.Package.Guarantees
import FlashSlots.Proofs.Package.Overflow
import FlashSlots.Proofs.Package.PageSafety
import FlashSlots.Proofs.Package.Refusals
import FlashSlots.Proofs.Package.Relocation
import FlashSlots.Proofs.Package.Repackaging
import FlashSlots.Proofs.Package.Selection
import FlashSlots.Proofs.Package.ValidPlan
import FlashSlots.Proofs.Relay.Arrivals
import FlashSlots.Proofs.Relay.Completion
import FlashSlots.Proofs.Relay.Forwarding
import FlashSlots.Proofs.Relay.History
import FlashSlots.Proofs.Relay.Idle
import FlashSlots.Proofs.Relay.LineEnds
import FlashSlots.Proofs.Relay.Replays
import FlashSlots.Proofs.Relay.StubFiles
import FlashSlots.Proofs.Relay.Timeout
import FlashSlots.Proofs.Relay.Triggers
import FlashSlots.Proofs.Selector.History
import FlashSlots.Proofs.Selector.Holding
import FlashSlots.Proofs.Selector.Presses
import FlashSlots.Proofs.Selector.Protocol
import FlashSlots.Proofs.Settings.Precedence
import FlashSlots.Proofs.Tar.Header
import FlashSlots.Proofs.Tar.Members
import FlashSlots.Proofs.Tar.Names
import FlashSlots.Proofs.Text.Address
import FlashSlots.Proofs.Text.Blank
import FlashSlots.Proofs.Text.Lossy
import FlashSlots.Relay.Basic
import FlashSlots.Relay.Loop
import FlashSlots.Relay.Run
import FlashSlots.Relay.Runner
import FlashSlots.Relay.Scanner
import FlashSlots.Relay.Stub
import FlashSlots.Selector.Basic
import FlashSlots.Selector.Button
import FlashSlots.Selector.Menu
import FlashSlots.Settings.Basic
import FlashSlots.Settings.Layers
import FlashSlots.Tar.Field
import FlashSlots.Tar.Reader
import FlashSlots.Tar.Writer
import FlashSlots.Text.Blank
import FlashSlots.Text.Decimal
import FlashSlots.Text.Hex
import FlashSlots.Text.Lossy
import FlashSlots.Text.Quoted
import FlashSlots.Text.Visible
import FlashSlots.Toml.Item
import FlashSlots.Toml.Moment
import FlashSlots.Toml.Number
import FlashSlots.Toml.Reader
import FlashSlots.Toml.Text
import FlashSlots.Trigger
import FlashSlots.Word
