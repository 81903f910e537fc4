import Mathlib.Data.Bool.Count
import Dfs.BlockManager.Allocation

/-!
# Defragmentation and the allocation law

`defragment_blocks()` counts the used blocks, `used_count`, and rebuilds the bitmap with the
first `used_count` blocks used and every other block free, with the hint on `used_count`. It
moves no data and does not know who holds which block. The allocation law of
`Dfs.BlockManager.Allocation` is stated for histories of allocations and deallocations; this
module shows that `defragment_blocks` breaks it as soon as a deallocation has left a hole. If a
block below `used_count` is free, some block held by a caller lies at or past `used_count`:
defragmentation marks it free, and `allocate_blocks` hands it out again from the hint while
its holder still has it (`defragment_reallocates_held_block`).
-/

namespace Dfs

/-- A bitmap with a free entry below its number of used entries has a used entry at or past
that number. -/
theorem exists_used_past_count {bitmap : List Bool} {f : ℕ} (below : f < bitmap.count false)
    (free : bitmap[f]? = some true) :
    ∃ b, bitmap.count false ≤ b ∧ bitmap[b]? = some false := by
  have split : bitmap.count false = (bitmap.take (bitmap.count false)).count false +
      (bitmap.drop (bitmap.count false)).count false := by
    rw [← List.count_append, List.take_append_drop]
  have holeTaken : 0 < (bitmap.take (bitmap.count false)).count true :=
    List.count_pos_iff.mpr
      (List.mem_iff_getElem?.mpr ⟨f, by rwa [List.getElem?_take_of_lt below]⟩)
  have taken := List.count_false_add_count_true (bitmap.take (bitmap.count false))
  have := List.length_take_le (bitmap.count false) bitmap
  obtain ⟨i, found⟩ := List.mem_iff_getElem?.mp
    (List.count_pos_iff.mp (show 0 < (bitmap.drop (bitmap.count false)).count false by omega))
  exact ⟨bitmap.count false + i, Nat.le_add_right _ _, by rwa [← List.getElem?_drop]⟩

namespace BlockManager

variable {m : BlockManager}

@[simp]
theorem nextFreeBlock_defragmentBlocks :
    m.defragmentBlocks.nextFreeBlock = m.blockBitmap.count false := rfl

/-- After `defragment_blocks()`, a block is free exactly when it lies at or past
`used_count`. -/
theorem isBlockFree_defragmentBlocks (b : ℕ) :
    m.defragmentBlocks.isBlockFree b =
      decide (m.blockBitmap.count false ≤ b ∧ b < m.totalBlocks) := by
  by_cases inside : b < m.totalBlocks
  · simp [isBlockFree, defragmentBlocks, inside, List.getD_eq_getElem?_getD, List.getElem?_range]
  · simp [isBlockFree, defragmentBlocks, inside]

/-- After `defragment_blocks()` on a bitmap with a free block, `allocate_blocks(count)` hands
out the `count` blocks from `used_count` on, when they fit. -/
theorem allocateBlocks_defragmentBlocks {count : ℕ} (nonzero : count ≠ 0)
    (fits : m.blockBitmap.count false + count ≤ m.totalBlocks)
    (totalLe : m.totalBlocks ≤ 2 ^ 31) :
    (m.defragmentBlocks.allocateBlocks count).1 =
      .ok ((List.range count).map (m.blockBitmap.count false + ·)) := by
  have handed : (m.defragmentBlocks.allocateBlocks count).1 =
      .ok (runBlocks m.totalBlocks (m.blockBitmap.count false) count) :=
    (m.defragmentBlocks.allocateBlocks_of_free_at_hint nonzero (by simp; omega) (by simp; omega)
      fun k below => by
        rw [isBlockFree_defragmentBlocks]
        simp only [totalBlocks_defragmentBlocks, nextFreeBlock_defragmentBlocks,
          Nat.mod_eq_of_lt (show m.blockBitmap.count false + k < m.totalBlocks by omega)]
        simp only [decide_eq_true_eq]
        omega).1
  rw [handed, runBlocks_eq (by omega)]
  exact congrArg Except.ok (List.map_congr_left fun j mem => by
    rw [List.mem_range] at mem
    exact Nat.mod_eq_of_lt (by omega))

/-- In every state reachable from `BlockManager(total_blocks, ·)` by allocations and
deallocations, on a device of 10 to `2 ^ 31` blocks: if a block below `used_count` is free, a
block held by a caller lies at or past `used_count`, and after `defragment_blocks()`,
`allocate_blocks` hands it out again, with the blocks from `used_count` up to it. -/
theorem defragment_reallocates_held_block {totalBlocks : ℕ} (blockSize : ℕ)
    (tenLe : 10 ≤ totalBlocks) (totalLe : totalBlocks ≤ 2 ^ 31) (calls : List BlockCall)
    (allowed : ∀ c ∈ calls, c.AllocatesOrReleases) {f : ℕ}
    (below : f < (run call (new totalBlocks blockSize) calls).blockBitmap.count false)
    (hole : (run call (new totalBlocks blockSize) calls).isBlockFree f = true) :
    let m := run call (new totalBlocks blockSize) calls
    ∃ b, m.blockBitmap.count false ≤ b ∧
      ownedAfter BlockCall.released (fun _ => false)
        (trace call (new totalBlocks blockSize) calls) b = true ∧
      (m.defragmentBlocks.allocateBlocks (b + 1 - m.blockBitmap.count false)).1 =
        .ok ((List.range (b + 1 - m.blockBitmap.count false)).map
          (m.blockBitmap.count false + ·)) := by
  dsimp only
  obtain ⟨-, total, refines⟩ := refines_run blockSize tenLe totalLe calls allowed
  obtain ⟨b, past, usedHere⟩ := exists_used_past_count below
    (by rw [getElem?_blockBitmap, if_pos (BlockManager.lt_of_isBlockFree _ hole), hole])
  rw [getElem?_blockBitmap] at usedHere
  split at usedHere
  · next inside =>
    have used := Option.some.inj usedHere
    refine ⟨b, past, refines.usedOwned b (by omega) inside used,
      allocateBlocks_defragmentBlocks (by omega) (by omega) (by rw [total]; exact totalLe)⟩
  · cases usedHere

/-- Blocks 1, 2 and 3 taken and block 1 given back: three blocks are used, block 1 below them
is free, and defragmentation gives out block 3 again while it is still held. -/
theorem defragment_reallocates_held_block_three :
    let calls := [BlockCall.allocateBlocks 3, .deallocateBlock 1]
    10 ≤ 10 ∧ 10 ≤ 2 ^ 31 ∧ (∀ c ∈ calls, c.AllocatesOrReleases) ∧
      1 < (run call (new 10 4096) calls).blockBitmap.count false ∧
      (run call (new 10 4096) calls).isBlockFree 1 = true ∧
      ∃ b, (run call (new 10 4096) calls).blockBitmap.count false ≤ b ∧
        ownedAfter BlockCall.released (fun _ => false) (trace call (new 10 4096) calls) b = true ∧
        ((run call (new 10 4096) calls).defragmentBlocks.allocateBlocks
            (b + 1 - (run call (new 10 4096) calls).blockBitmap.count false)).1 =
          .ok ((List.range (b + 1 - (run call (new 10 4096) calls).blockBitmap.count false)).map
            ((run call (new 10 4096) calls).blockBitmap.count false + ·)) :=
  have allowed : ∀ c ∈ [BlockCall.allocateBlocks 3, .deallocateBlock 1],
      c.AllocatesOrReleases := by
    simp [BlockCall.AllocatesOrReleases]
  ⟨by decide, by decide, allowed, by decide, by decide,
    defragment_reallocates_held_block 4096 (by decide) (by decide) _ allowed (f := 1) (by decide)
      (by decide)⟩

/-- The block given out again there is block 3, still held. -/
example :
    ((run call (new 10 4096) [.allocateBlocks 3, .deallocateBlock 1]).defragmentBlocks.allocateBlocks
      1).1 = .ok [3] ∧
    ownedAfter BlockCall.released (fun _ => false)
      (trace call (new 10 4096) [.allocateBlocks 3, .deallocateBlock 1]) 3 = true := by
  decide

end BlockManager

end Dfs
