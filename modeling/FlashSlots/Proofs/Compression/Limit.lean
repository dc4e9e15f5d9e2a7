import FlashSlots.Relay.Stub

namespace FlashSlots
namespace Compression

/-!
# Inflating under a limit

A reader that sets a limit never gets a longer text.  The length is checked
whenever the text has grown, and a text that has become too long ends with a
fault.  A reader with a wider limit goes the same way as long as the narrower
limit lets it, so that the limit decides whether there is a text, but not which
one.  Hence a stream of a lossless writer is refused under every limit that its
text exceeds.
-/

/-- If nothing went wrong, the text is not longer than wanted. -/
def Inflated.Fits (rules : InflateRules) (inflated : Inflated) : Prop :=
  inflated.ending = .ok () -> exceeds rules inflated.text = false

def Progress.Fits (rules : InflateRules) : Progress -> Prop
  | .grown text _ => exceeds rules text = false
  | .ended inflated => inflated.Fits rules

theorem Inflated.fits_of_fault (rules : InflateRules) (text : ByteArray) (position : Nat)
    (fault : Fault) : Inflated.Fits rules ⟨text, position, .error fault⟩ := by
  intro impossible
  cases impossible

section

variable {rules : InflateRules} {input text : ByteArray}

theorem Progress.fits_ofText (rules : InflateRules) (text : ByteArray) (position : Nat) :
    (Progress.ofText rules text position).Fits rules := by
  unfold Progress.ofText
  split
  · exact Inflated.fits_of_fault rules text position .corrupt
  · next short => exact (Bool.not_eq_true _).mp short

theorem inflateSymbol_fits (literals distances : PrefixCode) (position : Nat)
    (short : exceeds rules text = false) :
    (inflateSymbol rules literals distances input position text).Fits rules := by
  unfold inflateSymbol
  split
  · exact Inflated.fits_of_fault rules text position _
  · split
    · exact Progress.fits_ofText rules _ _
    · split
      · exact fun _ => short
      · split
        · exact Inflated.fits_of_fault rules text position _
        · split
          · exact Inflated.fits_of_fault rules text position _
          · exact Progress.fits_ofText rules _ _

theorem inflateSymbols_fits (literals distances : PrefixCode) (fuel position : Nat)
    (short : exceeds rules text = false) :
    (inflateSymbols rules literals distances input fuel position text).Fits rules := by
  induction fuel generalizing position text with
  | zero => exact Inflated.fits_of_fault rules text position .truncated
  | succ fuel ih =>
    have next : (inflateSymbol rules literals distances input position text).Fits rules :=
      inflateSymbol_fits literals distances position short
    rw [inflateSymbols]
    cases read : inflateSymbol rules literals distances input position text with
    | ended inflated =>
      rw [read] at next
      exact next
    | grown longer behind =>
      rw [read] at next
      exact ih behind next

theorem inflateStored_fits (rules : InflateRules) (input : ByteArray) (position : Nat)
    (text : ByteArray) : (inflateStored rules input position text).Fits rules := by
  unfold inflateStored
  dsimp only
  split
  · exact Inflated.fits_of_fault rules text position _
  · split
    · exact Inflated.fits_of_fault rules text position _
    · split
      · exact Inflated.fits_of_fault rules _ position _
      · next short =>
        split
        · exact Inflated.fits_of_fault rules _ _ _
        · exact fun _ => (Bool.not_eq_true _).mp short

theorem inflateBlock_fits (kind position : Nat) (short : exceeds rules text = false) :
    (inflateBlock rules input kind position text).Fits rules := by
  unfold inflateBlock
  split
  · exact inflateStored_fits rules input position text
  · split
    · exact inflateSymbols_fits _ _ _ position short
    · split
      · split
        · exact Inflated.fits_of_fault rules text position _
        · exact inflateSymbols_fits _ _ _ _ short
      · exact Inflated.fits_of_fault rules text position _

theorem inflateBlocks_fits (fuel position : Nat) (short : exceeds rules text = false) :
    (inflateBlocks rules input fuel position text).Fits rules := by
  induction fuel generalizing position text with
  | zero => exact Inflated.fits_of_fault rules text position .truncated
  | succ fuel ih =>
    rw [inflateBlocks]
    cases bits input position 3 with
    | error fault => exact Inflated.fits_of_fault rules text position fault
    | ok header =>
      have block : (inflateBlock rules input (header / 2) (position + 3) text).Fits rules :=
        inflateBlock_fits (header / 2) (position + 3) short
      dsimp only
      split
      · exact block
      · next done =>
        split
        · exact block
        · exact ih _ (block done)

end

/-! ## Wider limits -/

/-- What is not too long for one reader is not too long for the other one, and
both treat references in the same way. -/
structure InflateRules.Within (rules wider : InflateRules) : Prop where
  allows : ∀ text, exceeds rules text = false -> exceeds wider text = false
  zerosBefore : wider.zerosBefore = rules.zerosBefore

theorem InflateRules.within_of_le {limit wider : Nat} (zerosBefore : Bool)
    (longer : limit ≤ wider) :
    InflateRules.Within ⟨some limit, zerosBefore⟩ ⟨some wider, zerosBefore⟩ where
  allows _ short :=
    decide_eq_false (Nat.not_lt.mpr
      (Nat.le_trans (Nat.not_lt.mp (of_decide_eq_false short)) longer))
  zerosBefore := rfl

/-- Nothing has gone wrong. -/
def Progress.Sound : Progress -> Prop
  | .grown _ _ => True
  | .ended inflated => inflated.ending = .ok ()

section

variable {rules wider : InflateRules} (within : rules.Within wider) {input text : ByteArray}
  {position : Nat}

include within

theorem Progress.ofText_wider (sound : (Progress.ofText rules text position).Sound) :
    Progress.ofText wider text position = Progress.ofText rules text position := by
  unfold Progress.ofText at sound ⊢
  cases long : exceeds rules text with
  | true =>
    rw [long] at sound
    cases sound
  | false => rw [within.allows text long]

theorem inflateSymbol_wider {literals distances : PrefixCode}
    (sound : (inflateSymbol rules literals distances input position text).Sound) :
    inflateSymbol wider literals distances input position text =
      inflateSymbol rules literals distances input position text := by
  unfold inflateSymbol at sound ⊢
  rw [within.zerosBefore]
  split
  · rfl
  · next symbol next read =>
    rw [read] at sound
    dsimp only at sound
    by_cases literal : symbol < endOfBlock
    · rw [if_pos literal] at sound
      rw [if_pos literal, if_pos literal]
      exact Progress.ofText_wider within sound
    · rw [if_neg literal] at sound
      rw [if_neg literal, if_neg literal]
      by_cases last : symbol = endOfBlock
      · rw [if_pos last, if_pos last]
      · rw [if_neg last] at sound
        rw [if_neg last, if_neg last]
        split
        · rfl
        · next length distance behind referred =>
          rw [referred] at sound
          dsimp only at sound
          split
          · rfl
          · next inside =>
            rw [if_neg inside] at sound
            exact Progress.ofText_wider within sound

theorem inflateSymbols_wider {literals distances : PrefixCode} {fuel : Nat}
    (done : (inflateSymbols rules literals distances input fuel position text).ending = .ok ()) :
    inflateSymbols wider literals distances input fuel position text =
      inflateSymbols rules literals distances input fuel position text := by
  induction fuel generalizing position text with
  | zero => rfl
  | succ fuel ih =>
    rw [inflateSymbols] at done ⊢
    rw [inflateSymbols]
    cases read : inflateSymbol rules literals distances input position text with
    | ended inflated =>
      rw [read] at done
      rw [inflateSymbol_wider within (read ▸ done), read]
    | grown longer behind =>
      rw [read] at done
      -- Both readers go on from the same text, so that the induction applies to it.
      rw [inflateSymbol_wider within (read ▸ trivial), read]
      exact ih done

theorem inflateStored_wider (done : (inflateStored rules input position text).ending = .ok ()) :
    inflateStored wider input position text = inflateStored rules input position text := by
  unfold inflateStored at done ⊢
  dsimp only at done ⊢
  split
  · rfl
  · next whole =>
    rw [if_neg whole] at done
    split
    · rfl
    · next checked =>
      rw [if_neg checked] at done
      split at done
      · cases done
      · next short =>
        rw [within.allows _ ((Bool.not_eq_true _).mp short)]
        simp only [short]

theorem inflateBlock_wider {kind : Nat}
    (done : (inflateBlock rules input kind position text).ending = .ok ()) :
    inflateBlock wider input kind position text = inflateBlock rules input kind position text := by
  unfold inflateBlock at done ⊢
  by_cases plain : kind = 0
  · rw [if_pos plain] at done
    rw [if_pos plain, if_pos plain]
    exact inflateStored_wider within done
  · rw [if_neg plain] at done
    rw [if_neg plain, if_neg plain]
    by_cases fixed : kind = 1
    · rw [if_pos fixed] at done
      rw [if_pos fixed, if_pos fixed]
      exact inflateSymbols_wider within done
    · rw [if_neg fixed] at done
      rw [if_neg fixed, if_neg fixed]
      by_cases given : kind = 2
      · rw [if_pos given] at done
        rw [if_pos given, if_pos given]
        cases read : readCodes input position with
        | error fault => rfl
        | ok codes =>
          rw [read] at done
          exact inflateSymbols_wider within done
      · rw [if_neg given, if_neg given]

theorem inflateBlocks_wider {fuel : Nat}
    (done : (inflateBlocks rules input fuel position text).ending = .ok ()) :
    inflateBlocks wider input fuel position text =
      inflateBlocks rules input fuel position text := by
  induction fuel generalizing position text with
  | zero => rfl
  | succ fuel ih =>
    rw [inflateBlocks] at done ⊢
    rw [inflateBlocks]
    cases read : bits input position 3 with
    | error fault => rfl
    | ok header =>
      rw [read] at done
      dsimp only at done ⊢
      cases ending : (inflateBlock rules input (header / 2) (position + 3) text).ending with
      | error fault =>
        -- A block with a fault is the end of the stream, which has none.
        rw [ending] at done
        cases ending.symm.trans done
      | ok =>
        rw [ending] at done
        rw [inflateBlock_wider within ending, ending]
        dsimp only at done ⊢
        split
        · rfl
        · next more =>
          rw [if_neg more] at done
          exact ih done

/-- What a reader reads to its end is read in the same way under wider rules. -/
theorem inflate_wider {start : Nat} (done : (inflate rules input start).ending = .ok ()) :
    inflate wider input start = inflate rules input start := by
  unfold inflate at done ⊢
  exact inflateBlocks_wider within done

end

/-! ## Checked streams -/

namespace Zlib

variable {limit : Nat} {input text : ByteArray}

/-- The stream has a header, it has been read to its end, and its check value is
the one of the text. -/
structure Checked (input : ByteArray) (inflated : Inflated) : Prop where
  long : 2 ≤ input.size
  header : isHeader (Octets.octet input 0).toNat (Octets.octet input 1).toNat = true
  ending : inflated.ending = .ok ()
  closed : octetBoundary inflated.position / 8 + 4 ≤ input.size
  sum : number32 input (octetBoundary inflated.position / 8) = Checksum.adler32 inflated.text

theorem decompress?_eq_some_iff : decompress? limit input = some text ↔
    Checked input (inflate ⟨some limit, false⟩ input 2) ∧
      (inflate ⟨some limit, false⟩ input 2).text = text := by
  unfold decompress?
  dsimp only
  constructor
  · intro found
    split at found
    · cases found
    · next long =>
      split at found
      · cases found
      · next header =>
        split at found
        · cases found
        · next ending =>
          split at found
          · cases found
          · next closed =>
            split at found
            · next sum =>
              exact ⟨⟨Nat.le_of_not_lt long, by simpa using header, ending,
                Nat.le_of_not_lt closed, sum⟩, Option.some.inj found⟩
            · cases found
  · rintro ⟨checked, same⟩
    rw [if_neg (Nat.not_lt.mpr checked.long), checked.header, if_neg (by decide), checked.ending]
    dsimp only
    rw [if_neg (Nat.not_lt.mpr checked.closed), if_pos checked.sum, same]

/-- The text of a checked stream is not longer than the limit. -/
theorem size_le_of_decompress (found : decompress? limit input = some text) :
    text.size ≤ limit := by
  rcases decompress?_eq_some_iff.mp found with ⟨checked, same⟩
  have fits : (inflate ⟨some limit, false⟩ input 2).Fits ⟨some limit, false⟩ :=
    inflateBlocks_fits _ _ (decide_eq_false (Nat.not_lt_zero limit))
  rw [← same]
  exact Nat.le_of_not_lt (of_decide_eq_false (fits checked.ending))

/-- What is found under a limit is found under every wider one. -/
theorem decompress?_wider {wider : Nat} (longer : limit ≤ wider)
    (found : decompress? limit input = some text) : decompress? wider input = some text := by
  rcases decompress?_eq_some_iff.mp found with ⟨checked, same⟩
  have unchanged : inflate ⟨some wider, false⟩ input 2 = inflate ⟨some limit, false⟩ input 2 :=
    inflate_wider (InflateRules.within_of_le false longer) checked.ending
  rw [decompress?_eq_some_iff, unchanged]
  exact ⟨checked, same⟩

/-- A stream of a lossless writer gives its text back, or nothing if the text
exceeds the limit. -/
theorem Lossless.decompress?_eq {write : ByteArray -> ByteArray} (lossless : Lossless write)
    (limit : Nat) (text : ByteArray) :
    decompress? limit (write text) = if text.size ≤ limit then some text else none := by
  split
  · next short => exact lossless limit text short
  · next long =>
    cases found : decompress? limit (write text) with
    | none => rfl
    | some other =>
      -- A limit that the written text meets gives both texts.
      have short := size_le_of_decompress found
      have wide := decompress?_wider (Nat.le_of_lt (Nat.lt_of_not_le long)) found
      rw [lossless text.size text (Nat.le_refl _)] at wide
      cases wide
      exact absurd short long

end Zlib
end Compression

/-- No stub is longer than a vector may be. -/
theorem StubTable.size_le_of_vector {table : StubTable} {trigger : Trigger} {vector : ByteArray}
    (found : table.vector trigger = .ok vector) : vector.size ≤ StubTable.maxVectorSize := by
  unfold StubTable.vector at found
  split at found
  · cases found
  · split at found
    · next inflated =>
      cases found
      exact Compression.Zlib.size_le_of_decompress inflated
    · cases found

end FlashSlots
