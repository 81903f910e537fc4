import Dfs.BlockManager.Allocation

/-!
# The contract of allocate_blocks

`allocate_blocks(n)` against what its interface promises: it succeeds exactly when `n` blocks
are free, hands out `n` distinct free blocks and marks exactly those used, so that
`get_free_block_count()` drops by `n`; a run found by the contiguous scan is handed out as the
blocks from its start on, modulo `total_blocks_`; and a call that fails, which only the
scattered path can, gives back every block it had taken before it locks the mutex it holds
(`Error.selfDeadlock`).

`get_free_block_count()` counts the set bits of the bitmap. The first section relates that
count to the free blocks: marking distinct free blocks used lowers it by their number, and a
list that holds every free block is at least as long as it.

The contract needs `(start_block + j) % total_blocks_` not to wrap around `2 ^ 32`, which
`total_blocks_ ≤ 2 ^ 31` guarantees. Above `2 ^ 31` blocks the contiguous path hands out
block 0 twice in one result: with block 0 given back, blocks 1 to `total_blocks - 2` taken and
given back, the hint sits on the last block and every block is free; `allocate_blocks` of all
of them then reaches `2 ^ 32` after `2 ^ 32 - total_blocks + 1` steps and wraps to block 0
again, and leaves block `total_blocks - 2` free.
-/

namespace Dfs

namespace BlockManager

variable (m : BlockManager)

section FreeCount

/-- Marking one free block used lowers the free count by one. -/
theorem getFreeBlockCount_setBlock_false {b : ℕ} (free : m.isBlockFree b) :
    (m.setBlock b false).getFreeBlockCount + 1 = m.getFreeBlockCount := by
  have inside : b < m.blockBitmap.length := m.blockBitmap_length ▸ m.lt_of_isBlockFree free
  have bit : m.blockBitmap[b] = true := by
    have read := m.getElem?_blockBitmap b
    rw [if_pos (m.lt_of_isBlockFree free), free, List.getElem?_eq_getElem inside] at read
    exact Option.some.inj read
  have present : 0 < m.blockBitmap.count true :=
    List.count_pos_iff.mpr (bit ▸ List.getElem_mem inside)
  change (m.blockBitmap.set b false).count true + 1 = m.blockBitmap.count true
  rw [List.count_set _ _ _ _ inside, bit]
  simp only [beq_self_eq_true, beq_iff_eq, Bool.false_eq_true, if_true, if_false, Nat.add_zero]
  omega

/-- Marking distinct free blocks used lowers the free count by their number. -/
theorem getFreeBlockCount_setBlocks_false :
    ∀ (m : BlockManager) {blockIds : List ℕ}, blockIds.Nodup → (∀ b ∈ blockIds, m.isBlockFree b) →
      (m.setBlocks blockIds false).getFreeBlockCount + blockIds.length = m.getFreeBlockCount
  | m, [], _, _ => rfl
  | m, b :: blockIds, nodup, free => by
    have rest := getFreeBlockCount_setBlocks_false (m.setBlock b false) (List.nodup_cons.mp nodup).2
      fun c mem => by
        have other : b ≠ c := fun same => (List.nodup_cons.mp nodup).1 (same ▸ mem)
        rw [isBlockFree_setBlock, if_neg fun same => other same.1]
        exact free c (List.mem_cons_of_mem _ mem)
    have first := m.getFreeBlockCount_setBlock_false (free b (List.mem_cons_self _ _))
    rw [setBlocks_cons, List.length_cons]
    omega

/-- Distinct free blocks are at most as many as the free count. -/
theorem length_le_getFreeBlockCount {blockIds : List ℕ} (nodup : blockIds.Nodup)
    (free : ∀ b ∈ blockIds, m.isBlockFree b) : blockIds.length ≤ m.getFreeBlockCount := by
  have counted := m.getFreeBlockCount_setBlocks_false nodup free
  omega

/-- With every block free the free count is the number of blocks. -/
theorem getFreeBlockCount_of_all_free (all : ∀ b < m.totalBlocks, m.isBlockFree b) :
    m.getFreeBlockCount = m.totalBlocks := by
  rw [← m.blockBitmap_length]
  refine List.count_eq_length.mpr fun free mem => ?_
  obtain ⟨b, read⟩ := List.mem_iff_getElem?.mp mem
  rw [getElem?_blockBitmap] at read
  split at read
  · rw [Option.some.injEq, all b ‹_›] at read
    exact read
  · cases read

end FreeCount

/-- Where the run of all blocks from the last one lands: the first block is the last, the
next `2 ^ 32 - total_blocks` are the blocks from 0 on, and the sum then wraps around `2 ^ 32`
and starts over from block 0. -/
theorem runBlocks_from_last {totalBlocks j : ℕ} (above : 2 ^ 31 < totalBlocks)
    (below : totalBlocks < 2 ^ 32) (inside : j < totalBlocks) :
    (totalBlocks - 1 + j) % 2 ^ 32 % totalBlocks =
      if j = 0 then totalBlocks - 1
      else if totalBlocks - 1 + j < 2 ^ 32 then j - 1 else totalBlocks - 1 + j - 2 ^ 32 := by
  have inner : (totalBlocks - 1 + j) % 2 ^ 32 =
      if totalBlocks - 1 + j < 2 ^ 32 then totalBlocks - 1 + j
      else totalBlocks - 1 + j - 2 ^ 32 := by
    split
    · exact Nat.mod_eq_of_lt ‹_›
    · rw [Nat.mod_eq_sub_mod (show 2 ^ 32 ≤ totalBlocks - 1 + j by omega)]
      exact Nat.mod_eq_of_lt (by omega)
  by_cases zero : j = 0
  · subst zero
    rw [if_pos rfl, Nat.add_zero, Nat.mod_eq_of_lt (show totalBlocks - 1 < 2 ^ 32 by omega)]
    exact Nat.mod_eq_of_lt (by omega)
  by_cases noWrap : totalBlocks - 1 + j < 2 ^ 32
  · simp only [if_neg zero, if_pos noWrap, inner]
    rw [Nat.mod_eq_sub_mod (show totalBlocks ≤ totalBlocks - 1 + j by omega)]
    exact (Nat.mod_eq_of_lt (by omega)).trans (by omega)
  · simp only [if_neg zero, if_neg noWrap, inner]
    exact Nat.mod_eq_of_lt (by omega)

/-- Above `2 ^ 31` blocks `allocate_blocks` hands out block 0 twice. Give back block 0, take
blocks 1 to `total_blocks - 2` with `allocate_blocks` and give them back with
`deallocate_blocks`: every block is free and the hint is on the last one, and
`allocate_blocks(total_blocks)` succeeds with a list in which block 0 stands twice, and leaves
block `total_blocks - 2` free, so the free count drops by less than `total_blocks`. -/
theorem allocateBlocks_repeats_block_zero {totalBlocks : ℕ} (blockSize : ℕ)
    (above : 2 ^ 31 < totalBlocks) (below : totalBlocks < 2 ^ 32) :
    let taken : Except Error (List ℕ) × BlockManager :=
      ((new totalBlocks blockSize).deallocateBlock 0).2.allocateBlocks (totalBlocks - 2)
    let freed := taken.2.deallocateBlocks (runBlocks totalBlocks 1 (totalBlocks - 2))
    taken.1 = .ok (runBlocks totalBlocks 1 (totalBlocks - 2)) ∧
      freed.getFreeBlockCount = totalBlocks ∧
      (freed.allocateBlocks totalBlocks).1 =
        .ok (runBlocks totalBlocks (totalBlocks - 1) totalBlocks) ∧
      ¬(runBlocks totalBlocks (totalBlocks - 1) totalBlocks).Nodup ∧
      (freed.allocateBlocks totalBlocks).2.isBlockFree (totalBlocks - 2) = true ∧
      0 < (freed.allocateBlocks totalBlocks).2.getFreeBlockCount := by
  intro taken freed
  obtain ⟨-, -, total₁, hint₁, free₁⟩ | ⟨outside, -⟩ :=
    (new totalBlocks blockSize).deallocateBlock_spec 0
  swap
  · simp at outside
    omega
  simp only [totalBlocks_new, nextFreeBlock_new, if_pos (by omega : 0 < totalBlocks)] at total₁ hint₁
  have allFree₁ (b : ℕ) (inside : b < totalBlocks) :
      ((new totalBlocks blockSize).deallocateBlock 0).2.isBlockFree b := by
    rw [free₁, isBlockFree_new_setBlock_zero]
    exact decide_eq_true inside
  -- blocks 1 to `total_blocks - 2` are handed out and the hint moves to the last block
  obtain ⟨first, total₂, hint₂, free₂⟩ : taken.1 = .ok (runBlocks totalBlocks 1 (totalBlocks - 2)) ∧
      taken.2.totalBlocks = totalBlocks ∧ taken.2.nextFreeBlock = totalBlocks - 1 ∧
      taken.2.isBlockFree = (((new totalBlocks blockSize).deallocateBlock 0).2.setBlocks
        (runBlocks totalBlocks 1 (totalBlocks - 2)) false).isBlockFree := by
    have run := allocateBlocks_of_free_at_hint ((new totalBlocks blockSize).deallocateBlock 0).2
      (show totalBlocks - 2 ≠ 0 by omega) (by omega) (by omega)
      fun k below => allFree₁ _ ((Nat.mod_lt _ (by omega)).trans_eq total₁)
    rw [total₁, hint₁] at run
    refine ⟨run.1, run.2.1, ?_, run.2.2.2⟩
    rw [run.2.2.1, Nat.mod_eq_of_lt (show 1 + (totalBlocks - 2) < 2 ^ 32 by omega),
      Nat.mod_eq_of_lt (show 1 + (totalBlocks - 2) < totalBlocks by omega)]
    omega
  -- giving them back frees every block
  obtain ⟨total₃, hint₃, free₃⟩ : freed.totalBlocks = totalBlocks ∧
      freed.nextFreeBlock = totalBlocks - 1 ∧
      freed.isBlockFree =
        (taken.2.setBlocks (runBlocks totalBlocks 1 (totalBlocks - 2)) true).isBlockFree := by
    obtain ⟨total, hint, free⟩ := taken.2.deallocateBlocks_spec
      (runBlocks totalBlocks 1 (totalBlocks - 2))
    exact ⟨total.trans total₂, hint.trans hint₂, free⟩
  have allFree₃ (b : ℕ) (inside : b < totalBlocks) : freed.isBlockFree b := by
    rw [free₃, isBlockFree_setBlocks, total₂]
    split
    · rfl
    · rename_i notFreed
      rw [free₂, isBlockFree_setBlocks]
      split
      · rename_i handed
        exact (notFreed ⟨handed.1, inside⟩).elim
      · exact allFree₁ b inside
  -- `allocate_blocks(total_blocks)` takes the run of all blocks from the last one
  obtain ⟨handed, -, -, free₄⟩ := freed.allocateBlocks_of_free_at_hint
    (show totalBlocks ≠ 0 by omega) (by omega) (by omega)
    fun k below => allFree₃ _ ((Nat.mod_lt _ (by omega)).trans_eq total₃)
  rw [total₃, hint₃] at handed free₄
  have notHanded : totalBlocks - 2 ∉ runBlocks totalBlocks (totalBlocks - 1) totalBlocks := by
    simp only [runBlocks, List.mem_map, List.mem_range, not_exists, not_and]
    intro j inside
    rw [runBlocks_from_last above below inside]
    split_ifs <;> omega
  have stillFree : (freed.allocateBlocks totalBlocks).2.isBlockFree (totalBlocks - 2) = true := by
    rw [free₄, isBlockFree_setBlocks, if_neg fun handed => notHanded handed.1]
    exact allFree₃ _ (by omega)
  refine ⟨first, by rw [getFreeBlockCount_of_all_free _ fun b inside => allFree₃ b (total₃ ▸ inside),
    total₃], handed, fun nodup => ?_, stillFree, ?_⟩
  · -- the second and the `2 ^ 32 - total_blocks + 2`-th block are both block 0
    have bothZero : (totalBlocks - 1 + 1) % 2 ^ 32 % totalBlocks =
        (totalBlocks - 1 + (2 ^ 32 - totalBlocks + 1)) % 2 ^ 32 % totalBlocks := by
      rw [Nat.sub_add_cancel (by omega), Nat.mod_eq_of_lt below, Nat.mod_self,
        show totalBlocks - 1 + (2 ^ 32 - totalBlocks + 1) = 2 ^ 32 by omega, Nat.mod_self,
        Nat.zero_mod]
    have twice := (List.nodup_map_iff_inj_on (List.nodup_range totalBlocks)).mp nodup 1
      (List.mem_range.mpr (by omega)) (2 ^ 32 - totalBlocks + 1) (List.mem_range.mpr (by omega))
      bothZero
    omega
  · simpa using (freed.allocateBlocks totalBlocks).2.length_le_getFreeBlockCount
      (List.nodup_singleton (totalBlocks - 2)) (by simpa using stillFree)

/-- The smallest device the wrap reaches: `2 ^ 31 + 1` blocks. -/
theorem allocateBlocks_repeats_block_zero_above_half :
    2 ^ 31 < 2 ^ 31 + 1 ∧ 2 ^ 31 + 1 < 2 ^ 32 ∧
      let taken : Except Error (List ℕ) × BlockManager :=
        ((new (2 ^ 31 + 1) 4096).deallocateBlock 0).2.allocateBlocks (2 ^ 31 + 1 - 2)
      let freed := taken.2.deallocateBlocks (runBlocks (2 ^ 31 + 1) 1 (2 ^ 31 + 1 - 2))
      taken.1 = .ok (runBlocks (2 ^ 31 + 1) 1 (2 ^ 31 + 1 - 2)) ∧
        freed.getFreeBlockCount = 2 ^ 31 + 1 ∧
        (freed.allocateBlocks (2 ^ 31 + 1)).1 =
          .ok (runBlocks (2 ^ 31 + 1) (2 ^ 31 + 1 - 1) (2 ^ 31 + 1)) ∧
        ¬(runBlocks (2 ^ 31 + 1) (2 ^ 31 + 1 - 1) (2 ^ 31 + 1)).Nodup ∧
        (freed.allocateBlocks (2 ^ 31 + 1)).2.isBlockFree (2 ^ 31 + 1 - 2) = true ∧
        0 < (freed.allocateBlocks (2 ^ 31 + 1)).2.getFreeBlockCount :=
  ⟨by decide, by decide, allocateBlocks_repeats_block_zero 4096 (by decide) (by decide)⟩

end BlockManager

end Dfs
