import FlashSlots.Proofs.Package.ValidPlan

namespace FlashSlots

open Layout (Target)

/-!
# What a plan guarantees

The manifest of a plan is stamped and fits its page.  Every region has a write
in the plan.  The writes lie in the slot, and no two of them touch the same
address.
-/

namespace Package

variable {target : Target} {build : Build} {plan : WritePlan}
  (packaged : package target build = .ok plan)

include packaged

theorem stamped_of_package : plan.manifest.magic = some Manifest.magicStamp := by
  rcases package_eq_ok_iff.mp packaged with ⟨regions, ops, _, same, _⟩
  exact same ▸ rfl

theorem size_toJson_of_package : plan.manifest.toJson.size ≤ Layout.manifestSize := by
  rcases package_eq_ok_iff.mp packaged with ⟨regions, ops, _, _, fits, _⟩
  exact of_decide_eq_true fits

/-- The bitstream goes first, the manifest goes last, and in between every
region has its write. -/
theorem ops_of_package : ∃ firmwareOps,
    plan.ops = bitstreamOp target build.bitstream ::
      (firmwareOps ++ [manifestOp target plan.manifest]) ∧
    List.Forall₂ (Carries build.firmware) plan.manifest.regions firmwareOps := by
  rcases package_eq_ok_iff.mp packaged with ⟨regions, ops, placed, same, _⟩
  exact same ▸ ⟨ops, rfl, placeFirmware_carries placed⟩

theorem inSlot_of_package : ∀ op ∈ plan.ops, op.InSlot target := by
  rcases package_eq_ok_iff.mp packaged with ⟨regions, ops, _, _, _, inside, _⟩
  exact inside

theorem apart_of_package : plan.ops.Pairwise WriteOp.Apart := by
  rcases package_eq_ok_iff.mp packaged with ⟨regions, ops, _, _, _, _, apart⟩
  exact apart

/-- No two writes of a plan touch the same address. -/
theorem eq_of_touches {first second : WriteOp} (firstListed : first ∈ plan.ops)
    (secondListed : second ∈ plan.ops) {address : Nat} (firstTouches : first.Touches address)
    (secondTouches : second.Touches address) : first = second := by
  have symmetric : Std.Symm WriteOp.Apart := ⟨fun _ _ => WriteOp.Apart.symm⟩
  by_contra different
  have apart := (apart_of_package packaged).forall firstListed secondListed different
  exact apart.not_touches firstTouches secondTouches

end Package
end FlashSlots
