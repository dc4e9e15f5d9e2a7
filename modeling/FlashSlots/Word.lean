namespace FlashSlots
namespace Word

/-!
# 32-bit words

Flash addresses and sizes are 32-bit words.  A sum or a rounding that leaves
the 32-bit range has no value: every operation that can leave it returns an
`Option`, and the callers say what a missing value means to them.  The laws
below move such an operation to natural numbers, where it can be computed
with.
-/

/-- One more than the largest word. -/
def limit : Nat := 4294967296

/-- The largest word. -/
def greatest : UInt32 := 4294967295

/-- The word of this value, if there is one. -/
def ofNat? (n : Nat) : Option UInt32 :=
  if n < limit then some (UInt32.ofNat n) else none

/-- The sum, unless it leaves the range. -/
def add? (first second : UInt32) : Option UInt32 :=
  ofNat? (first.toNat + second.toNat)

theorem toNat_lt_limit (word : UInt32) : word.toNat < limit :=
  word.toNat_lt

theorem toNat_ofNat {n : Nat} (small : n < limit) : (UInt32.ofNat n).toNat = n :=
  UInt32.toNat_ofNat_of_lt' small

theorem ofNat?_eq_some_iff {n : Nat} {word : UInt32} :
    ofNat? n = some word ↔ word.toNat = n := by
  unfold ofNat?
  split
  · next small =>
    rw [Option.some.injEq, ← UInt32.toNat_inj, toNat_ofNat small]
    exact eq_comm
  · next large =>
    have bounded := toNat_lt_limit word
    constructor
    · intro impossible
      cases impossible
    · intro same
      omega

theorem ofNat?_eq_none_iff {n : Nat} : ofNat? n = none ↔ limit ≤ n := by
  unfold ofNat?
  split <;> simp <;> omega

theorem ofNat?_toNat (word : UInt32) : ofNat? word.toNat = some word :=
  ofNat?_eq_some_iff.mpr rfl

theorem add?_eq_some_iff {first second sum : UInt32} :
    add? first second = some sum ↔ sum.toNat = first.toNat + second.toNat :=
  ofNat?_eq_some_iff

theorem add?_eq_none_iff {first second : UInt32} :
    add? first second = none ↔ limit ≤ first.toNat + second.toNat :=
  ofNat?_eq_none_iff

end Word
end FlashSlots
