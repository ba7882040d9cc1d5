import RaucUpdate.Model.HashIndex
import RaucUpdate.Library.FileBytes

/-!
# The arithmetic of the copies

The offsets in the hashes of an index, and what `hash_file`, `splice_with_progress`,
`r_copy_stream_with_progress` and `copy_block_hash_index_image_to_dev` compute to report their
progress, with the width of each integer.
-/

namespace RaucUpdate

open Library

section Addresses

/-- A chunk number times the length of a digest, both of 32 bits. -/
def digestOffset (i : Nat) : Nat := i * sha256Len % 2 ^ 32

/-- The loop of `hash_file` on its buffer. There is no result when a hash does not lie in the
buffer. -/
def storeHashes (digest : Nat → List UInt8) : Nat → Nat → List UInt8 → Option (List UInt8)
  | 0, _, buffer => some buffer
  | left + 1, i, buffer =>
    if digestOffset i + sha256Len ≤ buffer.length then
      storeHashes digest left (i + 1) (overwrite 0 buffer (digestOffset i) (digest i))
    else none

def hashFileBuffer (digest : Nat → List UInt8) (count : Nat) : Option (List UInt8) :=
  storeHashes digest count 0 (List.replicate (digestOffset count) 0)

end Addresses

section Percentages

def rHashIndexGenProgressSpan : Nat := 10

/-- What is computed: a product, in a type of which the limit is the first value it does not hold, a
division, or a percentage for the current step. -/
inductive CopyStep where
  | product (value limit : Nat)
  | division (divisor : Nat)
  | percentage (percent : Int)

/-- The quotient has 64 bits, and is passed on with 32 bits. -/
def percentOf (sum size : Nat) : Int := ((Int.bmod (sum * 100) (2 ^ 64)).tdiv size).bmod (2 ^ 32)

/-- The loop of both copies of streams, with what each round copies. It ends when nothing was copied
or with an error. -/
def copyLoop (size : Nat) : List Nat → Nat → List CopyStep
  | [], _ => []
  | outSize :: rest, sum =>
    [.product ((sum + outSize) * 100) (2 ^ 63), .division size,
      .percentage (percentOf (sum + outSize) size)] ++
      if outSize = 0 then [] else copyLoop size rest (sum + outSize)

def spliceSteps (stSize : Nat) (outSizes : List Nat) : List CopyStep := copyLoop stSize outSizes 0

def copyStreamSteps (size : Nat) (outSizes : List Nat) : List CopyStep :=
  if size = 0 then [] else copyLoop size outSizes 0

def hashFileLoop (count : Nat) : Nat → Nat → Nat → List CopyStep
  | 0, _, _ => []
  | left + 1, i, percent =>
    let segment := count / (rHashIndexGenProgressSpan - 1)
    [.product (i * sha256Len) (2 ^ 32), .division segment] ++
      if i % segment = 0 then
        .percentage (percent + 1) :: hashFileLoop count left (i + 1) (percent + 1)
      else hashFileLoop count left (i + 1) percent

/-- `hash_file`, from the percentage that was set last. -/
def hashFileSteps (count percent : Nat) : List CopyStep :=
  .product (count * sha256Len) (2 ^ 32) :: hashFileLoop count count 0 percent

/-- The percentages that `copy_block_hash_index_image_to_dev` sets before an index is opened: for
the target slot, for the active slot and for the image. -/
def openPercentages : List Nat := [0, rHashIndexGenProgressSpan, rHashIndexGenProgressSpan * 2]

def copyChunkSteps (count c : Nat) : List CopyStep :=
  let left := (c + 1) * (100 - rHashIndexGenProgressSpan * 2)
  [.product (c * chunkSize) (2 ^ 63), .product left (2 ^ 32), .division count,
    .percentage (rHashIndexGenProgressSpan * 2 + left % 2 ^ 32 / count : Nat)]

def copyBlockSteps (count : Nat) : List CopyStep :=
  openPercentages.tail.map (fun percent => .percentage percent) ++ (List.range count).flatMap
    (copyChunkSteps count) ++
    [.product (count * chunkSize) (2 ^ 63)]

end Percentages

end RaucUpdate
