import Mathlib
import FlashSlots.Proofs.Flash.Deployment
import FlashSlots.Proofs.Package.PageSafety

namespace FlashSlots

open Layout (Target)
open Flash (Image)

/-!
# Programming in another order, and again

What a write leaves in the pages that it touches does not depend on what stood
there.  So if writes never disagree about an octet that they both touch, only
the set of writes that were made decides the chip: their order does not matter,
and neither does how often each of them was made.  The writes of a plan do not
even touch a common octet, and a plan that was cut short may be run again from
its start.
-/

namespace Flash
namespace Image

theorem ext_get {first second : Image}
    (same : ∀ address (inside : address < Layout.flashSize),
      first.get address inside = second.get address inside) : first = second := by
  rcases first with ⟨bytes, size⟩
  rcases second with ⟨others, otherSize⟩
  have equal : bytes = others := by
    apply ByteArray.ext_getElem (size.trans otherSize.symm)
    intro address inside _
    exact same address (size ▸ inside)
  subst equal
  rfl

theorem onChip_of_programAll {image programmed : Image} {ops : List WriteOp}
    (done : image.programAll ops = .ok programmed) : ∀ op ∈ ops, op.OnChip := by
  induction ops generalizing image with
  | nil =>
    intro op impossible
    cases impossible
  | cons first rest ih =>
    rcases programAll_cons_eq_ok_iff.mp done with ⟨next, start, others⟩
    exact List.forall_mem_cons.mpr ⟨onChip_of_program start, ih others⟩

/-- Where writes agree, their set decides the result. -/
theorem programAll_of_same_writes {image programmed : Image} {ops series : List WriteOp}
    (done : image.programAll ops = .ok programmed)
    (agree : ∀ first ∈ ops, ∀ second ∈ ops, ∀ address,
      first.Touches address -> second.Touches address ->
        second.contents address = first.contents address)
    (same : ∀ op, op ∈ series ↔ op ∈ ops) : image.programAll series = .ok programmed := by
  have onChip : ∀ op ∈ series, op.OnChip :=
    fun op listed => onChip_of_programAll done op ((same op).mp listed)
  rcases programAll_ok onChip image with ⟨other, otherDone⟩
  rw [otherDone]
  congr 1
  apply ext_get
  intro address inside
  by_cases touched : ∃ op ∈ ops, op.Touches address
  · rcases touched with ⟨op, listed, touches⟩
    have agreed := fun second secondListed => agree op listed second secondListed address touches
    rw [get_programAll_of_touched done inside listed touches agreed,
      get_programAll_of_touched otherDone inside ((same op).mpr listed) touches
        fun second secondListed => agreed second ((same second).mp secondListed)]
  · have untouched : ∀ op ∈ ops, ¬ op.Touches address :=
      fun op listed touches => touched ⟨op, listed, touches⟩
    rw [get_programAll_of_untouched done inside untouched,
      get_programAll_of_untouched otherDone inside
        fun op listed => untouched op ((same op).mp listed)]

end Image
end Flash

namespace Package

/-- A plan can be programmed into every chip, and the result is the same for
every series of writes that has all the writes of the plan and no other ones:
in any order, each of them as often as it may be.  So it is for the first
writes of a plan with the whole plan behind them. -/
theorem programAll_of_series {target : Target} {build : Build} {plan : WritePlan}
    (packaged : package target build = .ok plan) (image : Image) :
    ∃ flashed, image.programAll plan.ops = .ok flashed ∧
      (∀ series : List WriteOp, (∀ op, op ∈ series ↔ op ∈ plan.ops) ->
        image.programAll series = .ok flashed) ∧
      ∀ count, image.programAll (plan.ops.take count ++ plan.ops) = .ok flashed := by
  rcases programAll_of_package packaged image with ⟨flashed, done⟩
  have every : ∀ series : List WriteOp, (∀ op, op ∈ series ↔ op ∈ plan.ops) ->
      image.programAll series = .ok flashed := by
    intro series same
    apply Image.programAll_of_same_writes done _ same
    intro first firstListed second secondListed address firstTouches secondTouches
    rw [eq_of_touches packaged firstListed secondListed firstTouches secondTouches]
  refine ⟨flashed, done, every, ?_⟩
  intro count
  apply every
  intro op
  rw [List.mem_append]
  exact ⟨fun listed => listed.elim List.mem_of_mem_take id, Or.inr⟩

/-- The plan with an uneven address, backwards, with two of its writes made
twice. -/
def unevenSeries : List WriteOp := unevenPlan.ops.reverse ++ unevenPlan.ops.take 2

theorem unevenSeries_programs :
    package .bootloader unevenBuild = .ok unevenPlan ∧ unevenSeries.length = 6 ∧
      (∀ op, op ∈ unevenSeries ↔ op ∈ unevenPlan.ops) ∧
      ∃ flashed, Image.erased.programAll unevenPlan.ops = .ok flashed ∧
        Image.erased.programAll unevenSeries = .ok flashed := by
  have same : ∀ op, op ∈ unevenSeries ↔ op ∈ unevenPlan.ops := by
    intro op
    rw [unevenSeries, List.mem_append, List.mem_reverse]
    exact ⟨fun listed => listed.elim id List.mem_of_mem_take, Or.inl⟩
  rcases programAll_of_series package_unevenBuild Image.erased with ⟨flashed, done, every, _⟩
  exact ⟨package_unevenBuild, rfl, same, flashed, done, every unevenSeries same⟩

end Package
end FlashSlots
