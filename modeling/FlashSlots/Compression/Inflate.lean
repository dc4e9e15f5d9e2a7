import FlashSlots.Compression.PrefixCode
import FlashSlots.Octets

namespace FlashSlots
namespace Compression

/-!
# Inflating

A deflated text is a sequence of blocks.  A block holds octets as they are, or
symbols of two prefix codes: literal octets, and references that repeat a part
of the text already inflated.  The codes of a block are fixed, or they stand in
front of it, as a list of word lengths that is itself coded.

Inflating a stream that is cut off or corrupt yields what comes before the
fault.
-/

/-- How far inflating got. -/
structure Inflated where
  text : ByteArray
  /-- The position behind the last bit that was understood. -/
  position : Nat
  ending : Except Fault Unit

/-- What a reader of the text asks for. -/
structure InflateRules where
  /-- A longer text is not wanted. -/
  limit : Option Nat
  /-- A reference may lead to zeros before the text. -/
  zerosBefore : Bool

/-! ## References -/

/-- The least length and the number of extra bits for each length symbol. -/
def lengthClasses : Array (Nat × Nat) :=
  #[(3, 0), (4, 0), (5, 0), (6, 0), (7, 0), (8, 0), (9, 0), (10, 0), (11, 1), (13, 1),
    (15, 1), (17, 1), (19, 2), (23, 2), (27, 2), (31, 2), (35, 3), (43, 3), (51, 3), (59, 3),
    (67, 4), (83, 4), (99, 4), (115, 4), (131, 5), (163, 5), (195, 5), (227, 5), (258, 0)]

/-- The least distance and the number of extra bits for each distance symbol. -/
def distanceClasses : Array (Nat × Nat) :=
  #[(1, 0), (2, 0), (3, 0), (4, 0), (5, 1), (7, 1), (9, 2), (13, 2), (17, 3), (25, 3),
    (33, 4), (49, 4), (65, 5), (97, 5), (129, 6), (193, 6), (257, 7), (385, 7), (513, 8),
    (769, 8), (1025, 9), (1537, 9), (2049, 10), (3073, 10), (4097, 11), (6145, 11), (8193, 12),
    (12289, 12), (16385, 13), (24577, 13)]

/-- The member of a class that the extra bits choose. -/
def readClass (classes : Array (Nat × Nat)) (input : ByteArray) (index position : Nat) :
    Except Fault (Nat × Nat) :=
  match classes[index]? with
  | none => .error .corrupt
  | some (least, extra) =>
    match bits input position extra with
    | .error fault => .error fault
    | .ok more => .ok (least + more, position + extra)

/-- The symbol that ends a block. -/
def endOfBlock : Nat := 256

/-- The length and the distance of a reference, behind its length symbol. -/
def readReference (distances : PrefixCode) (input : ByteArray) (symbol position : Nat) :
    Except Fault ((Nat × Nat) × Nat) :=
  match readClass lengthClasses input (symbol - (endOfBlock + 1)) position with
  | .error fault => .error fault
  | .ok (length, position) =>
    match distances.decode input position with
    | .error fault => .error fault
    | .ok (symbol, position) =>
      match readClass distanceClasses input symbol position with
      | .error fault => .error fault
      | .ok (distance, position) => .ok ((length, distance), position)

/-- Repeat what stands at a distance, octet by octet.  Before the text there
are zeros. -/
def repeatBack (distance : Nat) (text : ByteArray) : Nat -> ByteArray
  | 0 => text
  | length + 1 =>
    let byte := if distance ≤ text.size then Octets.octet text (text.size - distance) else 0
    repeatBack distance (text.push byte) length

/-! ## Blocks of symbols -/

/-- The text has become longer than wanted. -/
def exceeds (rules : InflateRules) (text : ByteArray) : Bool :=
  match rules.limit with
  | none => false
  | some limit => decide (limit < text.size)

/-- What a symbol of a block comes to. -/
inductive Progress where
  /-- The text goes on, and the next symbol stands at this position. -/
  | grown (text : ByteArray) (position : Nat)
  /-- The block ends here, or it cannot be read any further. -/
  | ended (inflated : Inflated)

/-- A text that has grown, unless it is longer than wanted. -/
def Progress.ofText (rules : InflateRules) (text : ByteArray) (position : Nat) : Progress :=
  if exceeds rules text then .ended ⟨text, position, .error .corrupt⟩ else .grown text position

/-- Read one symbol, with the octets that it stands for. -/
def inflateSymbol (rules : InflateRules) (literals distances : PrefixCode) (input : ByteArray)
    (position : Nat) (text : ByteArray) : Progress :=
  match literals.decode input position with
  | .error fault => .ended ⟨text, position, .error fault⟩
  | .ok (symbol, next) =>
    if symbol < endOfBlock then .ofText rules (text.push (UInt8.ofNat symbol)) next
    else if symbol = endOfBlock then .ended ⟨text, next, .ok ()⟩
    else
      match readReference distances input symbol next with
      | .error fault => .ended ⟨text, position, .error fault⟩
      | .ok ((length, distance), next) =>
        if text.size < distance && !rules.zerosBefore then
          .ended ⟨text, position, .error .corrupt⟩
        else .ofText rules (repeatBack distance text length) next

/-- Read symbols up to the end of the block.  Each one takes at least a bit, so
that the number of bits bounds the number of symbols. -/
def inflateSymbols (rules : InflateRules) (literals distances : PrefixCode) (input : ByteArray) :
    Nat -> Nat -> ByteArray -> Inflated
  | 0, position, text => ⟨text, position, .error .truncated⟩
  | fuel + 1, position, text =>
    match inflateSymbol rules literals distances input position text with
    | .ended inflated => inflated
    | .grown text next => inflateSymbols rules literals distances input fuel next text

/-! ## The codes of a block -/

/-- The fixed code for literals and lengths. -/
def fixedLiterals : PrefixCode :=
  .ofLengths (List.replicate 144 8 ++ List.replicate 112 9 ++ List.replicate 24 7 ++
    List.replicate 8 8)

def fixedDistances : PrefixCode := .ofLengths (List.replicate 32 5)

/-- The order in which the lengths of the length code are given. -/
def lengthCodeOrder : List Nat :=
  [16, 17, 18, 0, 8, 7, 9, 6, 10, 5, 11, 4, 12, 3, 13, 2, 14, 1, 15]

/-- Read numbers of three bits. -/
def readShortLengths (input : ByteArray) (position : Nat) : Nat -> Except Fault (List Nat)
  | 0 => .ok []
  | count + 1 =>
    match bits input position 3 with
    | .error fault => .error fault
    | .ok length =>
      match readShortLengths input (position + 3) count with
      | .error fault => .error fault
      | .ok rest => .ok (length :: rest)

/-- The code for word lengths. -/
def lengthCode (given : List Nat) : PrefixCode :=
  let table := lengthCodeOrder.zip given
  .ofLengths ((List.range 19).map fun symbol => (table.lookup symbol).getD 0)

/-- Read coded word lengths until there are as many as wanted.  A symbol may
stand for a run, which must not go further.  The lengths are in reverse. -/
def readLengths (code : PrefixCode) (input : ByteArray) (wanted : Nat) :
    Nat -> Nat -> List Nat -> Except Fault (List Nat × Nat)
  | 0, _, _ => .error .corrupt
  | fuel + 1, position, known =>
    if known.length = wanted then .ok (known.reverse, position)
    else if wanted < known.length then .error .corrupt
    else
      match code.decode input position with
      | .error fault => .error fault
      | .ok (symbol, position) =>
        if symbol < 16 then readLengths code input wanted fuel position (symbol :: known)
        else
          let (length, least, extra) :=
            if symbol = 16 then (known.head?, 3, 2)
            else if symbol = 17 then (some 0, 3, 3)
            else (some 0, 11, 7)
          match length with
          | none => .error .corrupt
          | some length =>
            match bits input position extra with
            | .error fault => .error fault
            | .ok more =>
              readLengths code input wanted fuel (position + extra)
                (List.replicate (least + more) length ++ known)

/-- The most symbols that a code for literals and lengths can have. -/
def maxLiterals : Nat := 286

/-- The most symbols that a code for distances can have. -/
def maxDistances : Nat := 30

/-- Read the two codes in front of a block. -/
def readCodes (input : ByteArray) (position : Nat) :
    Except Fault ((PrefixCode × PrefixCode) × Nat) := do
  let literalCount := (← bits input position 5) + 257
  let distanceCount := (← bits input (position + 5) 5) + 1
  let givenCount := (← bits input (position + 10) 4) + 4
  if maxLiterals < literalCount || maxDistances < distanceCount then
    throw .corrupt
  let given ← readShortLengths input (position + 14) givenCount
  let code := lengthCode given
  if !code.isFull then
    throw .corrupt
  let wanted := literalCount + distanceCount
  let (lengths, position) ←
    readLengths code input wanted (wanted + 1) (position + 14 + 3 * givenCount) []
  let literals := PrefixCode.ofLengths (lengths.take literalCount)
  let distances := PrefixCode.ofLengths (lengths.drop literalCount)
  if !literals.isUsable || !distances.isUsable then
    throw .corrupt
  return ((literals, distances), position)

/-! ## Blocks -/

/-- A number in two octets, the lower one first. -/
def number16 (input : ByteArray) (start : Nat) : Nat :=
  (Octets.octet input start).toNat + 256 * (Octets.octet input (start + 1)).toNat

/-- Copy the octets of a stored block. -/
def inflateStored (rules : InflateRules) (input : ByteArray) (position : Nat)
    (text : ByteArray) : Inflated :=
  let start := octetBoundary position / 8
  if input.size < start + 4 then ⟨text, position, .error .truncated⟩
  else
    let length := number16 input start
    if length + number16 input (start + 2) ≠ 0xFFFF then ⟨text, position, .error .corrupt⟩
    else
      let stop := start + 4 + length
      let text := text ++ input.extract (start + 4) stop
      if exceeds rules text then ⟨text, position, .error .corrupt⟩
      else if input.size < stop then ⟨text, 8 * input.size, .error .truncated⟩
      else ⟨text, 8 * stop, .ok ()⟩

/-- Read a block of this kind. -/
def inflateBlock (rules : InflateRules) (input : ByteArray) (kind position : Nat)
    (text : ByteArray) : Inflated :=
  if kind = 0 then inflateStored rules input position text
  else if kind = 1 then
    inflateSymbols rules fixedLiterals fixedDistances input (8 * input.size + 1) position text
  else if kind = 2 then
    match readCodes input position with
    | .error fault => ⟨text, position, .error fault⟩
    | .ok ((literals, distances), position) =>
      inflateSymbols rules literals distances input (8 * input.size + 1) position text
  else ⟨text, position, .error .corrupt⟩

/-- Read blocks up to the last one. -/
def inflateBlocks (rules : InflateRules) (input : ByteArray) :
    Nat -> Nat -> ByteArray -> Inflated
  | 0, position, text => ⟨text, position, .error .truncated⟩
  | fuel + 1, position, text =>
    match bits input position 3 with
    | .error fault => ⟨text, position, .error fault⟩
    | .ok header =>
      let block := inflateBlock rules input (header / 2) (position + 3) text
      match block.ending with
      | .error _ => block
      | .ok () =>
        if header % 2 = 1 then block
        else inflateBlocks rules input fuel block.position block.text

/-- Inflate what starts at an octet of the input. -/
def inflate (rules : InflateRules) (input : ByteArray) (start : Nat) : Inflated :=
  inflateBlocks rules input (8 * input.size + 1) (8 * start) ByteArray.empty

end Compression
end FlashSlots
