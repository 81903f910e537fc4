import Dfs.Bitmap

/-!
# The block allocator

`BlockManager` of `core/block_manager.cpp`: a bitmap with one bit per block of the
device, `true` for a free block, and a rotating hint `next_free_block_` at which the
searches start. Block 0 holds the superblock; the constructor marks it used.

Each member function is a function of the state. A call that can throw returns the
exception or its value together with the state afterwards, since a throwing call of the
source may already have changed the object (the scattered path of `allocate_blocks`
moves the hint before it gives up). The two loops of `find_next_free_block` and the
contiguous scan of `allocate_blocks` are structurally recursive on the number of
iterations left.

Sums of 32-bit operands are taken modulo `2 ^ 32` where they can exceed it: in
`(start_block + j) % total_blocks_` and `(start_block + count) % total_blocks_`. Elsewhere
an operand is a block index below `total_blocks_`, and the sum cannot wrap.
-/

namespace Dfs

/-- The state of a `BlockManager`. The bitmap always has one bit per block: the
constructor sizes it so, every update sets a bit in place, `defragment_blocks` builds a
bitmap of the same size and `deserialize_bitmap` refuses a stream of another size. -/
structure BlockManager where
  blockBitmap : List Bool
  totalBlocks : ℕ
  blockSize : ℕ
  nextFreeBlock : ℕ
  blockBitmap_length : blockBitmap.length = totalBlocks
  deriving DecidableEq

namespace BlockManager

/-- `BlockManager(total_blocks, block_size)`: every block free but block 0, and the hint
on block 1. -/
def new (totalBlocks blockSize : ℕ) : BlockManager where
  blockBitmap := (List.replicate totalBlocks true).set 0 false
  totalBlocks := totalBlocks
  blockSize := blockSize
  nextFreeBlock := if 0 < totalBlocks then 1 else 0
  blockBitmap_length := by simp

/-- `block_bitmap_[block_id] = free`. -/
def setBlock (m : BlockManager) (blockId : ℕ) (free : Bool) : BlockManager where
  blockBitmap := m.blockBitmap.set blockId free
  totalBlocks := m.totalBlocks
  blockSize := m.blockSize
  nextFreeBlock := m.nextFreeBlock
  blockBitmap_length := by rw [List.length_set, m.blockBitmap_length]

/-- `block_bitmap_[id] = free` for each of `blockIds` in turn. -/
def setBlocks (m : BlockManager) (blockIds : List ℕ) (free : Bool) : BlockManager :=
  blockIds.foldl (fun m blockId => m.setBlock blockId free) m

/-- `is_block_free(block_id)`. -/
def isBlockFree (m : BlockManager) (blockId : ℕ) : Bool :=
  if blockId < m.totalBlocks then m.blockBitmap.getD blockId false else false

/-- `get_free_block_count()`. -/
def getFreeBlockCount (m : BlockManager) : ℕ := m.blockBitmap.count true

/-- `find_next_free_block(start_index)`: the first free block at or after the start, else
the first free block before it, else `UINT32_MAX`. -/
def findNextFreeBlock (m : BlockManager) (startIndex : ℕ) : Except Error ℕ :=
  match firstFree m.blockBitmap startIndex (m.totalBlocks - startIndex) with
  | .error e => .error e
  | .ok (some blockId) => .ok blockId
  | .ok none =>
    match firstFree m.blockBitmap 0 startIndex with
    | .error e => .error e
    | .ok (some blockId) => .ok blockId
    | .ok none => .ok uint32Max

/-- Mark a block found by the search used and move the hint past it, as `allocate_block`
and the scattered path of `allocate_blocks` both do. -/
def takeBlock (m : BlockManager) (blockId : ℕ) : BlockManager :=
  { m.setBlock blockId false with nextFreeBlock := (blockId + 1) % m.totalBlocks }

/-- `allocate_block()`. When no block is free, building `InsufficientSpaceException` calls
`get_free_block_count()` under the held lock. -/
def allocateBlock (m : BlockManager) : Except Error ℕ × BlockManager :=
  match m.findNextFreeBlock m.nextFreeBlock with
  | .error e => (.error e, m)
  | .ok blockId =>
    if blockId = uint32Max then (.error .selfDeadlock, m)
    else (.ok blockId, m.takeBlock blockId)

/-- The contiguous scan of `allocate_blocks(count)`, with `fuel` iterations of its loop
left, the run being counted starting at `startBlock` and `consecutive` blocks long, and
the scan at `current`: the start of the first run of `count` free blocks it meets. -/
def contiguousRun (bitmap : List Bool) (totalBlocks count : ℕ) :
    (fuel startBlock consecutive current : ℕ) → Except Error (Option ℕ)
  | 0, _, _, _ => .ok none
  | fuel + 1, startBlock, consecutive, current =>
    match bitmap[current]? with
    | none => .error (.outOfBounds current)
    | some true =>
      if consecutive + 1 = count then .ok (some startBlock)
      else contiguousRun bitmap totalBlocks count fuel startBlock (consecutive + 1)
        ((current + 1) % totalBlocks)
    | some false =>
      contiguousRun bitmap totalBlocks count fuel ((current + 1) % totalBlocks) 0
        ((current + 1) % totalBlocks)

/-- The blocks the contiguous path hands out: `(start_block + j) % total_blocks_` for
`j < count`, the sum taken in 32-bit arithmetic. -/
def runBlocks (totalBlocks startBlock count : ℕ) : List ℕ :=
  (List.range count).map fun j => (startBlock + j) % 2 ^ 32 % totalBlocks

/-- The scattered path of `allocate_blocks(count)` with `remaining` iterations left and
`allocated` the blocks taken so far. When the search fails, the blocks taken are freed
again, and building `InsufficientSpaceException` calls `get_free_block_count()` under the held
lock. -/
def allocateScattered (count : ℕ) :
    (remaining : ℕ) → (allocated : List ℕ) → BlockManager → Except Error (List ℕ) × BlockManager
  | 0, allocated, m => (.ok allocated, m)
  | remaining + 1, allocated, m =>
    match m.findNextFreeBlock m.nextFreeBlock with
    | .error e => (.error e, m)
    | .ok blockId =>
      if blockId = uint32Max then
        let restored := m.setBlocks allocated true
        (.error .selfDeadlock, restored)
      else allocateScattered count remaining (allocated ++ [blockId]) (m.takeBlock blockId)

/-- `allocate_blocks(count)`: a run of `count` consecutive free blocks found by one pass
over the bitmap from the hint, else `count` blocks taken one at a time. -/
def allocateBlocks (m : BlockManager) (count : ℕ) : Except Error (List ℕ) × BlockManager :=
  if count = 0 then (.ok [], m)
  else
    match contiguousRun m.blockBitmap m.totalBlocks count m.totalBlocks m.nextFreeBlock 0
        m.nextFreeBlock with
    | .error e => (.error e, m)
    | .ok (some startBlock) =>
      let blockIds := runBlocks m.totalBlocks startBlock count
      (.ok blockIds, { m.setBlocks blockIds false with
        nextFreeBlock := (startBlock + count) % 2 ^ 32 % m.totalBlocks })
    | .ok none => allocateScattered count count [] m

/-- `deallocate_block(block_id)`: an out-of-range id throws, a free block is left alone
with a warning. -/
def deallocateBlock (m : BlockManager) (blockId : ℕ) : Except Error Unit × BlockManager :=
  if m.totalBlocks ≤ blockId then (.error (.blockNotFound blockId), m)
  else if m.blockBitmap.getD blockId false then (.ok (), m)
  else (.ok (), m.setBlock blockId true)

/-- One iteration of `deallocate_blocks`: an out-of-range id is skipped with an error
message, a free block with a warning. -/
def deallocateOne (m : BlockManager) (blockId : ℕ) : BlockManager :=
  if m.totalBlocks ≤ blockId then m
  else if !m.blockBitmap.getD blockId false then m.setBlock blockId true
  else m

/-- `deallocate_blocks(block_ids)`. -/
def deallocateBlocks (m : BlockManager) (blockIds : List ℕ) : BlockManager :=
  blockIds.foldl deallocateOne m

/-- `mark_block_used` and `mark_block_free`: set one in-range bit. -/
def markBlock (m : BlockManager) (blockId : ℕ) (free : Bool) : Except Error Unit × BlockManager :=
  if m.totalBlocks ≤ blockId then (.error (.blockNotFound blockId), m)
  else (.ok (), m.setBlock blockId free)

/-- `mark_block_used(block_id)`. -/
def markBlockUsed (m : BlockManager) (blockId : ℕ) : Except Error Unit × BlockManager :=
  m.markBlock blockId false

/-- `mark_block_free(block_id)`. -/
def markBlockFree (m : BlockManager) (blockId : ℕ) : Except Error Unit × BlockManager :=
  m.markBlock blockId true

/-- `defragment_blocks()`: the first `used_count` bits used, the rest free, and the hint
on `used_count`. -/
def defragmentBlocks (m : BlockManager) : BlockManager where
  blockBitmap := (List.range m.totalBlocks).map fun i => decide (m.blockBitmap.count false ≤ i)
  totalBlocks := m.totalBlocks
  blockSize := m.blockSize
  nextFreeBlock := m.blockBitmap.count false
  blockBitmap_length := by simp

/-- `serialize_bitmap(file)`: the number of bits as a `uint32_t`, then one byte per bit. -/
def serializeBitmap (m : BlockManager) (file : OStream) : Except Error OStream :=
  if !file.isOpen then .error (.fileSystem "Cannot serialize block bitmap: file not open")
  else
    let file := m.blockBitmap.foldl (fun file free => file.write [if free then 1 else 0])
      (file.write (leBytes 4 m.blockBitmap.length))
    if file.failbit then .error (.fileSystem "Failed to serialize block bitmap") else .ok file

/-- `deserialize_bitmap(file)`: the size, checked against `total_blocks_`, then one byte
per bit. The size equals the bitmap's, so its `resize` changes nothing. The loop binds `auto&`
to the elements of a `std::vector<bool>`, which does not compile; the model takes the form
that does, `auto&&`, under which each byte is read into a proxy object and no bit changes
(`readIntoProxy`). -/
def deserializeBitmap (m : BlockManager) (file : IStream) :
    Except Error Unit × BlockManager × IStream :=
  if !file.isOpen then
    (.error (.fileSystem "Cannot deserialize block bitmap: file not open"), m, file)
  else
    let header := file.read 4
    if header.2.failbit || header.2.gcount != 4 then
      (.error (.fileSystem "Failed to deserialize block bitmap size"), m, header.2)
    else if leValue header.1 ≠ m.totalBlocks then
      (.error (.fileSystem "Block bitmap size mismatch"), m, header.2)
    else
      let body := readElements 1 readIntoProxy header.2 m.blockBitmap
      let loaded : BlockManager :=
        { m with blockBitmap := body.2.1
                 blockBitmap_length := by rw [length_readElements, m.blockBitmap_length] }
      if body.1 then (.ok (), loaded, body.2.2)
      else (.error (.fileSystem "Failed to deserialize block bitmap data"), loaded, body.2.2)

/-- `is_valid()`. -/
def isValid (m : BlockManager) : Bool :=
  if m.blockBitmap.length ≠ m.totalBlocks then false
  else if 0 < m.totalBlocks ∧ m.blockBitmap.getD 0 false then false
  else true

end BlockManager

end Dfs
