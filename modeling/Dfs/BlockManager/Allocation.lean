import Dfs.BlockManager.Spec
import Dfs.History

/-!
# The allocation law of the block allocator

What the allocator is for, stated abstractly: it hands out blocks that nobody holds, and
takes them back on deallocation. The abstract state is the set of blocks handed out and not
given back since, computed from the history of calls (`ownedAfter`). `Refines` relates it to
the bitmap: a block handed out is used, and a used block other than the superblock's has
been handed out. Every allocation and deallocation keeps `Refines`, and from it the law
follows for every history: each block handed out was free and held by nobody.

The law needs `(start_block + j) % total_blocks_` not to wrap around `2 ^ 32`, which
`total_blocks_ ≤ 2 ^ 31` guarantees. On a device of `2 ^ 32 - 1` blocks the sum does wrap
once a free run passes the end of the bitmap, and that needs block 0 free, which
`deallocate_block(0)` allows: `allocate_blocks` then hands out block 0 twice in one result.
-/

namespace Dfs

/-- The calls of the allocator's interface. -/
inductive BlockCall where
  | allocateBlock
  | allocateBlocks (count : ℕ)
  | deallocateBlock (blockId : ℕ)
  | deallocateBlocks (blockIds : List ℕ)
  | markBlockUsed (blockId : ℕ)
  | markBlockFree (blockId : ℕ)
  | deserializeBitmap (file : IStream)
  | defragmentBlocks
  deriving DecidableEq

namespace BlockCall

/-- The calls that allocate or deallocate. -/
def AllocatesOrReleases : BlockCall → Prop
  | allocateBlock | allocateBlocks _ | deallocateBlock _ | deallocateBlocks _ => True
  | _ => False

/-- The blocks a call gives back. -/
def released : BlockCall → List ℕ
  | deallocateBlock blockId => [blockId]
  | deallocateBlocks blockIds => blockIds
  | _ => []

end BlockCall

namespace BlockManager

/-- One call: the blocks it hands out (none for a call that hands out nothing) or the
exception, and the state afterwards. -/
def call (m : BlockManager) : BlockCall → Except Error (List ℕ) × BlockManager
  | .allocateBlock => ((m.allocateBlock).1.map ([·]), (m.allocateBlock).2)
  | .allocateBlocks count => m.allocateBlocks count
  | .deallocateBlock blockId =>
    ((m.deallocateBlock blockId).1.map fun _ => [], (m.deallocateBlock blockId).2)
  | .deallocateBlocks blockIds => (.ok [], m.deallocateBlocks blockIds)
  | .markBlockUsed blockId =>
    ((m.markBlockUsed blockId).1.map fun _ => [], (m.markBlockUsed blockId).2)
  | .markBlockFree blockId =>
    ((m.markBlockFree blockId).1.map fun _ => [], (m.markBlockFree blockId).2)
  | .deserializeBitmap file =>
    ((m.deserializeBitmap file).1.map fun _ => [], (m.deserializeBitmap file).2.1)
  | .defragmentBlocks => (.ok [], m.defragmentBlocks)

/-- The refinement between the bitmap and the abstract allocator, and the hint inside the
bitmap. -/
structure Refines (m : BlockManager) (owned : ℕ → Bool) : Prop where
  hintLt : m.nextFreeBlock < m.totalBlocks
  ownedUsed : ∀ b, owned b → b < m.totalBlocks ∧ m.isBlockFree b = false
  usedOwned : ∀ b, 0 < b → b < m.totalBlocks → m.isBlockFree b = false → owned b

variable {m m' : BlockManager} {owned : ℕ → Bool}

/-- Handing out free blocks keeps the refinement. -/
theorem Refines.handOut (refines : Refines m owned) (handed : List ℕ)
    (fresh : ∀ b ∈ handed, m.isBlockFree b) (total : m'.totalBlocks = m.totalBlocks)
    (hintLt : m'.nextFreeBlock < m'.totalBlocks)
    (marked : m'.isBlockFree = (m.setBlocks handed false).isBlockFree) :
    Refines m' (fun b => decide (b ∈ handed) || owned b) where
  hintLt := hintLt
  ownedUsed b held := by
    rw [total, marked, isBlockFree_setBlocks]
    by_cases mem : b ∈ handed
    · simp [mem, m.lt_of_isBlockFree (fresh b mem)]
    · simp only [mem, decide_False, Bool.false_or] at held
      simp [mem, refines.ownedUsed b held]
  usedOwned b positive inside used := by
    rw [total] at inside
    rw [marked, isBlockFree_setBlocks] at used
    by_cases mem : b ∈ handed
    · simp [mem]
    · simp only [mem, false_and, if_false] at used
      simp [refines.usedOwned b positive inside used]

/-- Freeing blocks keeps the refinement with the blocks taken back. -/
theorem Refines.release (refines : Refines m owned) (released : List ℕ)
    (total : m'.totalBlocks = m.totalBlocks) (hint : m'.nextFreeBlock = m.nextFreeBlock)
    (freed : m'.isBlockFree = (m.setBlocks released true).isBlockFree) :
    Refines m' (fun b => owned b && !decide (b ∈ released)) where
  hintLt := by
    rw [total, hint]
    exact refines.hintLt
  ownedUsed b held := by
    simp only [Bool.and_eq_true, Bool.not_eq_true', decide_eq_false_iff_not] at held
    rw [total, freed, isBlockFree_setBlocks]
    simp [held.2, refines.ownedUsed b held.1]
  usedOwned b positive inside used := by
    rw [total] at inside
    rw [freed, isBlockFree_setBlocks] at used
    by_cases mem : b ∈ released
    · simp [mem, inside] at used
    · simp only [mem, false_and, if_false] at used
      simp [mem, refines.usedOwned b positive inside used]

/-- An allocation or a deallocation hands out distinct blocks that were free and held by
nobody, and keeps the refinement with the abstract allocator's step. -/
theorem Refines.after_call (refines : Refines m owned) (totalLe : m.totalBlocks ≤ 2 ^ 31)
    {c : BlockCall} (allowed : c.AllocatesOrReleases) :
    (m.call c).2.totalBlocks = m.totalBlocks ∧
      (∀ blockIds, (m.call c).1 = .ok blockIds →
        blockIds.Nodup ∧ ∀ b ∈ blockIds, m.isBlockFree b ∧ owned b = false) ∧
      Refines (m.call c).2 (updateOwned owned c.released (m.call c).1) := by
  have unheld {b : ℕ} (free : m.isBlockFree b) : owned b = false := by
    cases held : owned b
    · rfl
    · simp [(refines.ownedUsed b held).2] at free
  cases c with
  | allocateBlock =>
    rcases m.allocateBlock_spec refines.hintLt.le (by unfold uint32Max; omega) with
      ⟨b, allocated, inside, free⟩ | ⟨failed, -⟩
    · simp only [call, allocated, Except.map, updateOwned, BlockCall.released]
      refine ⟨rfl, fun blockIds ok => ?_, ?_⟩
      · cases ok
        exact ⟨List.nodup_singleton b, by simpa using ⟨free, unheld free⟩⟩
      · have hintLt : (m.takeBlock b).nextFreeBlock < (m.takeBlock b).totalBlocks :=
          Nat.mod_lt _ (by omega)
        simpa using refines.handOut [b] (by simpa using free)
          (show (m.takeBlock b).totalBlocks = m.totalBlocks from rfl) hintLt rfl
    · simp only [call, failed, Except.map, updateOwned]
      exact ⟨by simp, fun blockIds ok => (by cases ok), refines⟩
  | allocateBlocks count =>
    obtain ⟨total, hint, done, failed⟩ := m.allocateBlocks_spec refines.hintLt totalLe count
    simp only [call]
    refine ⟨total, fun blockIds ok => ?_, ?_⟩
    · obtain ⟨nodup, -, free, -⟩ := done blockIds ok
      exact ⟨nodup, fun b mem => ⟨free b mem, unheld (free b mem)⟩⟩
    · cases result : (m.allocateBlocks count).1 with
      | ok blockIds =>
        obtain ⟨-, -, free, marked⟩ := done blockIds result
        simpa [updateOwned, BlockCall.released] using
          refines.handOut blockIds free total (total ▸ hint) marked
      | error e =>
        exact ⟨total ▸ hint, fun b held => total ▸ failed e result ▸ refines.ownedUsed b held,
          fun b positive inside used => refines.usedOwned b positive (total ▸ inside)
            (failed e result ▸ used)⟩
  | deallocateBlock blockId =>
    rcases m.deallocateBlock_spec blockId with
      ⟨-, ok, total, hint, freed⟩ | ⟨-, failed⟩
    · simp only [call, ok, Except.map, updateOwned, BlockCall.released, List.not_mem_nil,
        decide_False, Bool.false_or]
      refine ⟨total, fun blockIds done => ?_, ?_⟩
      · cases done
        simp
      · exact refines.release [blockId] total hint (by rw [freed]; simp)
    · simp only [call, failed, Except.map, updateOwned]
      exact ⟨by simp, fun blockIds ok => (by cases ok), refines⟩
  | deallocateBlocks blockIds =>
    obtain ⟨total, hint, freed⟩ := m.deallocateBlocks_spec blockIds
    simp only [call, updateOwned, BlockCall.released, List.not_mem_nil, decide_False,
      Bool.false_or]
    refine ⟨total, fun handed done => ?_, ?_⟩
    · cases done
      simp
    · exact refines.release blockIds total hint freed
  | markBlockUsed | markBlockFree | deserializeBitmap | defragmentBlocks => cases allowed

/-- Every history of allocations and deallocations from a fresh allocator of at most `2 ^ 31`
blocks: each call hands out distinct free blocks that nobody holds, and the state reached
refines the blocks held after the history. -/
theorem refines_run {totalBlocks : ℕ} (blockSize : ℕ) (tenLe : 10 ≤ totalBlocks)
    (totalLe : totalBlocks ≤ 2 ^ 31) (calls : List BlockCall)
    (allowed : ∀ c ∈ calls, c.AllocatesOrReleases) :
    (∀ earlier e later, trace call (new totalBlocks blockSize) calls = earlier ++ e :: later →
      ∀ blockIds, e.result = .ok blockIds →
        blockIds.Nodup ∧ ∀ b ∈ blockIds, e.before.isBlockFree b ∧
          ownedAfter BlockCall.released (fun _ => false) earlier b = false) ∧
      (run call (new totalBlocks blockSize) calls).totalBlocks = totalBlocks ∧
      Refines (run call (new totalBlocks blockSize) calls)
        (ownedAfter BlockCall.released (fun _ => false)
          (trace call (new totalBlocks blockSize) calls)) := by
  have fresh : Refines (new totalBlocks blockSize) (fun _ => false) := by
    refine ⟨by simp [show 0 < totalBlocks by omega]; omega, fun b held => (by cases held),
      fun b positive inside used => ?_⟩
    simp only [totalBlocks_new] at inside
    simp [positive, inside] at used
  exact along_trace
    (fun owned c result => updateOwned owned (BlockCall.released c) result)
    (fun m owned => m.totalBlocks = totalBlocks ∧ Refines m owned) BlockCall.AllocatesOrReleases
    (fun m owned _ result => ∀ blockIds, result = .ok blockIds →
      blockIds.Nodup ∧ ∀ b ∈ blockIds, m.isBlockFree b ∧ owned b = false)
    (fun m owned c ⟨total, refines⟩ allowed => by
      obtain ⟨total', handed, refines'⟩ := refines.after_call (total ▸ totalLe) allowed
      exact ⟨handed, total'.trans total, refines'⟩)
    calls _ _ allowed ⟨rfl, fresh⟩

/-- The allocation law on a device of at most `2 ^ 31` blocks, for every history of
allocations and deallocations from a fresh allocator: each allocation hands out distinct
blocks that were free and that no earlier allocation handed out without a deallocation
since; and a block other than block 0 is marked used exactly when it is so held. -/
theorem allocation_law {totalBlocks : ℕ} (blockSize : ℕ) (tenLe : 10 ≤ totalBlocks)
    (totalLe : totalBlocks ≤ 2 ^ 31) (calls : List BlockCall)
    (allowed : ∀ c ∈ calls, c.AllocatesOrReleases) :
    (∀ earlier e later, trace call (new totalBlocks blockSize) calls = earlier ++ e :: later →
      ∀ blockIds, e.result = .ok blockIds →
        blockIds.Nodup ∧ ∀ b ∈ blockIds, e.before.isBlockFree b ∧
          ownedAfter BlockCall.released (fun _ => false) earlier b = false) ∧
      ∀ b, 0 < b → b < totalBlocks →
        ((run call (new totalBlocks blockSize) calls).isBlockFree b = false ↔
          ownedAfter BlockCall.released (fun _ => false)
            (trace call (new totalBlocks blockSize) calls) b = true) := by
  obtain ⟨handed, total, final⟩ := refines_run blockSize tenLe totalLe calls allowed
  exact ⟨handed, fun b positive inside =>
    ⟨final.usedOwned b positive (by rw [total]; exact inside),
      fun held => (final.ownedUsed b held).2⟩⟩

/-- On ten blocks: a run of four and a single block taken, two blocks given back, a run of
three taken from the hint, three blocks taken one at a time from the fragmented bitmap, a call
that fails with every block used, and a block given back and taken again. -/
theorem allocation_law_mixed_history :
    let calls := [BlockCall.allocateBlocks 4, .allocateBlock, .deallocateBlock 2,
      .deallocateBlocks [4], .allocateBlocks 3, .allocateBlocks 3, .allocateBlocks 2,
      .deallocateBlock 7, .allocateBlock]
    (trace call (new 10 4096) calls).map (·.result) =
        [.ok [1, 2, 3, 4], .ok [5], .ok [], .ok [], .ok [6, 7, 8], .ok [9, 2, 4],
          .error .selfDeadlock, .ok [], .ok [7]] ∧
      10 ≤ 10 ∧ 10 ≤ 2 ^ 31 ∧ (∀ c ∈ calls, c.AllocatesOrReleases) ∧
      (∀ earlier e later, trace call (new 10 4096) calls = earlier ++ e :: later →
        ∀ blockIds, e.result = .ok blockIds →
          blockIds.Nodup ∧ ∀ b ∈ blockIds, e.before.isBlockFree b ∧
            ownedAfter BlockCall.released (fun _ => false) earlier b = false) ∧
        ∀ b, 0 < b → b < 10 →
          ((run call (new 10 4096) calls).isBlockFree b = false ↔
            ownedAfter BlockCall.released (fun _ => false) (trace call (new 10 4096) calls) b =
              true) :=
  have allowed : ∀ c ∈ [BlockCall.allocateBlocks 4, .allocateBlock, .deallocateBlock 2,
      .deallocateBlocks [4], .allocateBlocks 3, .allocateBlocks 3, .allocateBlocks 2,
      .deallocateBlock 7, .allocateBlock], c.AllocatesOrReleases := by
    simp [BlockCall.AllocatesOrReleases]
  ⟨by decide, by decide, by decide, allowed,
    allocation_law 4096 (by decide) (by decide) _ allowed⟩

/-- On a device of `2 ^ 32 - 1` blocks the law fails. With block 0 given back, blocks 1 to
`2 ^ 32 - 3` taken and block 1 given back again, the free run from the hint is the last block,
block 0 and block 1; `allocate_blocks(3)` computes the third block as
`(2 ^ 32 - 2 + 2) % 2 ^ 32 % (2 ^ 32 - 1) = 0` and hands out block 0 twice. -/
theorem allocateBlocks_wraps_to_block_zero (blockSize : ℕ) :
    (((((new (2 ^ 32 - 1) blockSize).deallocateBlock 0).2.allocateBlocks
      (2 ^ 32 - 3)).2.deallocateBlock 1).2.allocateBlocks 3).1 = .ok [2 ^ 32 - 2, 0, 0] := by
  obtain ⟨-, -, total₁, hint₁, free₁⟩ | ⟨outside, -⟩ :=
    (new (2 ^ 32 - 1) blockSize).deallocateBlock_spec 0
  swap
  · simp at outside
  simp only [totalBlocks_new, nextFreeBlock_new, if_pos (by omega : 0 < 2 ^ 32 - 1)] at total₁ hint₁
  generalize ((new (2 ^ 32 - 1) blockSize).deallocateBlock 0).2 = s₁ at total₁ hint₁ free₁ ⊢
  have allFree (b : ℕ) (inside : b < 2 ^ 32 - 1) : s₁.isBlockFree b := by
    rw [free₁, isBlockFree_new_setBlock_zero]
    exact decide_eq_true inside
  -- blocks 1 to `2 ^ 32 - 3` are handed out; blocks 0 and `2 ^ 32 - 2` stay free
  obtain ⟨-, total₂, hint₂, free₂⟩ := s₁.allocateBlocks_of_free_at_hint
    (show 2 ^ 32 - 3 ≠ 0 by omega) (by omega) (by omega)
    fun k below => allFree _ (total₁ ▸ Nat.mod_lt _ (by omega))
  rw [total₁] at total₂
  rw [total₁, hint₁] at hint₂ free₂
  have outsideRun (b : ℕ) (ends : b = 0 ∨ b = 2 ^ 32 - 2) :
      b ∉ runBlocks (2 ^ 32 - 1) 1 (2 ^ 32 - 3) := by
    rw [runBlocks_eq (by omega), List.mem_map]
    rintro ⟨j, below, same⟩
    rw [List.mem_range] at below
    omega
  generalize (s₁.allocateBlocks (2 ^ 32 - 3)).2 = s₂ at total₂ hint₂ free₂ ⊢
  obtain ⟨-, -, total₃, hint₃, free₃⟩ | ⟨outside, -⟩ := s₂.deallocateBlock_spec 1
  swap
  · omega
  rw [hint₂] at hint₃
  generalize (s₂.deallocateBlock 1).2 = s₃ at total₃ hint₃ free₃ ⊢
  -- the free run at the hint: blocks `2 ^ 32 - 2`, 0 and 1
  have runFree (b : ℕ) (ends : b = 1 ∨ b = 0 ∨ b = 2 ^ 32 - 2) : s₃.isBlockFree b := by
    rw [free₃, isBlockFree_setBlock, total₂]
    rcases ends with rfl | ends
    · simp
    · rw [if_neg (by omega), free₂, isBlockFree_setBlocks,
        if_neg fun mem => outsideRun _ ends mem.1]
      exact allFree b (by omega)
  have hint : s₃.nextFreeBlock = 2 ^ 32 - 2 := hint₃.trans (by decide)
  obtain ⟨handed, -⟩ := s₃.allocateBlocks_of_free_at_hint (show 3 ≠ 0 by omega) (by omega)
    (by omega) fun k below => runFree _ (by rw [hint, total₃, total₂]; omega)
  rw [handed, total₃, total₂, hint]
  decide

/-- `deallocate_block(0)` is not refused: it frees the superblock's block, and once the
other blocks are taken `allocate_block()` hands that block out. -/
theorem superblock_block_handed_out {totalBlocks : ℕ} (blockSize : ℕ)
    (twoLe : 2 ≤ totalBlocks) (totalLe : totalBlocks ≤ uint32Max) :
    ((new totalBlocks blockSize).deallocateBlock 0).1 = .ok () ∧
      ((new totalBlocks blockSize).deallocateBlock 0).2.isBlockFree 0 = true ∧
      ((((new totalBlocks blockSize).deallocateBlock 0).2.allocateBlocks
        (totalBlocks - 1)).2.allocateBlock).1 = .ok 0 := by
  have positive : 0 < totalBlocks := by omega
  have noWrap : totalBlocks < 2 ^ 32 := by unfold uint32Max at totalLe; omega
  obtain ⟨-, ok, total₁, hint₁, free₁⟩ | ⟨outside, -⟩ :=
    (new totalBlocks blockSize).deallocateBlock_spec 0
  swap
  · simp at outside
    omega
  simp only [totalBlocks_new, nextFreeBlock_new, if_pos positive] at total₁ hint₁
  refine ⟨ok, ?_⟩
  generalize ((new totalBlocks blockSize).deallocateBlock 0).2 = s₁ at total₁ hint₁ free₁ ⊢
  have allFree (b : ℕ) (inside : b < totalBlocks) : s₁.isBlockFree b := by
    rw [free₁, isBlockFree_new_setBlock_zero]
    exact decide_eq_true inside
  refine ⟨allFree 0 positive, ?_⟩
  -- blocks 1 to `total_blocks - 1` are handed out and the hint wraps to block 0
  obtain ⟨-, total₂, hint₂, free₂⟩ := s₁.allocateBlocks_of_free_at_hint
    (show totalBlocks - 1 ≠ 0 by omega) (by omega) (by omega)
    fun k below => allFree _ (total₁ ▸ Nat.mod_lt _ (by omega))
  rw [total₁, hint₁, Nat.add_sub_cancel' (by omega), Nat.mod_eq_of_lt noWrap, Nat.mod_self] at hint₂
  have zeroFree : (s₁.allocateBlocks (totalBlocks - 1)).2.isBlockFree 0 := by
    rw [free₂, isBlockFree_setBlocks, total₁, hint₁, runBlocks_eq (by omega)]
    simp only [List.mem_map, List.mem_range]
    rw [if_neg fun ⟨⟨j, below, same⟩, _⟩ => by rw [Nat.mod_eq_of_lt (by omega)] at same; omega]
    exact allFree 0 positive
  rw [allocateBlock_of_free_at_hint _ (by rw [total₂, total₁]; exact totalLe) (hint₂ ▸ zeroFree),
    hint₂]

theorem superblock_block_handed_out_ten :
    2 ≤ 10 ∧ 10 ≤ uint32Max ∧ ((new 10 4096).deallocateBlock 0).1 = .ok () ∧
      ((new 10 4096).deallocateBlock 0).2.isBlockFree 0 = true ∧
      ((((new 10 4096).deallocateBlock 0).2.allocateBlocks 9).2.allocateBlock).1 = .ok 0 :=
  ⟨by decide, by decide, superblock_block_handed_out 4096 (by decide) (by decide)⟩

/- On a one-block device the freed block is handed out at once. -/
example : (((new 1 4096).deallocateBlock 0).2.allocateBlock).1 = .ok 0 := by decide

/-- The hint is not kept below `total_blocks_`. Once every block is used, `defragment_blocks()`
puts it on `total_blocks_`, and the contiguous scan of the next `allocate_blocks` reads
`block_bitmap_[total_blocks_]`, past the end of the bitmap. -/
theorem allocateBlocks_reads_past_bitmap {totalBlocks : ℕ} (blockSize : ℕ)
    (positive : 0 < totalBlocks) (totalLe : totalBlocks ≤ uint32Max) :
    ((new totalBlocks blockSize).allocateBlocks
        (totalBlocks - 1)).2.defragmentBlocks.nextFreeBlock = totalBlocks ∧
      (((new totalBlocks blockSize).allocateBlocks
        (totalBlocks - 1)).2.defragmentBlocks.allocateBlocks 1).1 =
        .error (.outOfBounds totalBlocks) := by
  have full : ∀ b,
      ((new totalBlocks blockSize).allocateBlocks (totalBlocks - 1)).2.isBlockFree b = false := by
    rcases Nat.lt_or_ge totalBlocks 2 with one | twoLe
    · simp [allocateBlocks, show totalBlocks - 1 = 0 by omega]
      omega
    obtain ⟨-, -, -, free⟩ := (new totalBlocks blockSize).allocateBlocks_of_free_at_hint
      (show totalBlocks - 1 ≠ 0 by omega) (by simp only [totalBlocks_new]; omega)
      (by simp only [nextFreeBlock_new, totalBlocks_new, if_pos positive]; omega)
      fun k below => by
        rw [nextFreeBlock_new, totalBlocks_new, if_pos positive,
          Nat.mod_eq_of_lt (show 1 + k < totalBlocks by omega), isBlockFree_new]
        simp only [decide_eq_true_eq]
        omega
    intro b
    rw [free, isBlockFree_setBlocks, nextFreeBlock_new, totalBlocks_new, if_pos positive,
      runBlocks_eq (by unfold uint32Max at totalLe; omega)]
    simp only [List.mem_map, List.mem_range, isBlockFree_new]
    split
    · rfl
    · simp only [decide_eq_false_iff_not]
      rintro ⟨nonzero, inside⟩
      rename_i notRun
      exact notRun ⟨⟨b - 1, by omega, by rw [Nat.mod_eq_of_lt (by omega)]; omega⟩, by omega⟩
  have atEnd := nextFreeBlock_defragmentBlocks_of_full _ full
  simp only [totalBlocks_allocateBlocks, totalBlocks_new] at atEnd
  have total : ((new totalBlocks blockSize).allocateBlocks
      (totalBlocks - 1)).2.defragmentBlocks.totalBlocks = totalBlocks := by simp
  refine ⟨atEnd, ?_⟩
  rw [allocateBlocks_of_nextFreeBlock_eq_totalBlocks _ Nat.one_ne_zero
    (by rw [total]; exact positive) (by rw [total]; exact atEnd), total]

theorem allocateBlocks_reads_past_bitmap_ten :
    0 < 10 ∧ 10 ≤ uint32Max ∧
      ((new 10 4096).allocateBlocks 9).2.defragmentBlocks.nextFreeBlock = 10 ∧
      (((new 10 4096).allocateBlocks 9).2.defragmentBlocks.allocateBlocks 1).1 =
        .error (.outOfBounds 10) :=
  ⟨by decide, by decide, allocateBlocks_reads_past_bitmap 4096 (by decide) (by decide)⟩

end BlockManager

end Dfs
