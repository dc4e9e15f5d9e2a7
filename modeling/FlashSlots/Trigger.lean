import FlashSlots.Layout

namespace FlashSlots

open Layout (SlotIndex Target)

/-!
# Triggers

A trigger is one line on the target's UART.  It names the slot that the
board shall boot next: `BITSTREAM0` to `BITSTREAM7` for the user slots, and
`BOOTLOADER` for the boot menu.  A line is a trigger only if it is exactly
one of the nine tokens.
-/

/-- A request to boot from a slot. -/
inductive Trigger where
  | slot (index : SlotIndex)
  | bootloader
  deriving DecidableEq

namespace Trigger

/-- Every trigger, the user slots first. -/
def all : List Trigger := SlotIndex.all.map slot ++ [bootloader]

/-- The text of the line, without its terminator. -/
def token : Trigger -> String
  | slot index => "BITSTREAM" ++ toString index.val
  | bootloader => "BOOTLOADER"

/-- The line as it is sent. -/
def line (trigger : Trigger) : String := trigger.token ++ "\n"

/-- The octets of the token. -/
def tokenBytes (trigger : Trigger) : List UInt8 :=
  trigger.token.toUTF8.toList

/-- Length of the longest token. -/
def maxTokenLength : Nat := 10

/-- The trigger whose token is this line.  The terminator has been removed. -/
def parse? (line : List UInt8) : Option Trigger :=
  all.find? fun trigger => trigger.tokenBytes == line

/-- The slot that a trigger asks for. -/
def target : Trigger -> Target
  | slot index => .user index
  | bootloader => .bootloader

/-- The trigger that asks for a slot. -/
def ofTarget : Target -> Trigger
  | .user index => slot index
  | .bootloader => bootloader

/-- The address that the board boots from. -/
def bootAddress (trigger : Trigger) : UInt32 := trigger.target.bitstreamAddress

/-- The file that holds the stub for this trigger. -/
def stubFileName (trigger : Trigger) : String := trigger.token.toLower ++ ".z"

theorem mem_all (trigger : Trigger) : trigger ∈ all := by
  cases trigger with
  | slot index => simp [all, SlotIndex.mem_all]
  | bootloader => simp [all]

theorem ofTarget_target (trigger : Trigger) : ofTarget trigger.target = trigger := by
  cases trigger <;> rfl

theorem target_ofTarget (target : Target) : (ofTarget target).target = target := by
  cases target <;> rfl

end Trigger
end FlashSlots
