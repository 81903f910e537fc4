import Dfs.BlockManager.Basic
import Mathlib.Data.List.Nodup

/-!
# What the allocator's operations do

One specification per operation of `BlockManager`, each saying everything the operation
can do, stated through `is_block_free`: the bitmap is determined by it
(`blockBitmap_eq_of_isBlockFree`), so a postcondition that gives the free bits after the
call in terms of those before it fixes the new bitmap.

The searches are safe when the hint is at most `total_blocks_`: `find_next_free_block`
then reads only inside the bitmap. The contiguous scan of `allocate_blocks` reads
`block_bitmap_[next_free_block_]` first, so it needs the hint strictly below
`total_blocks_`. Its run is handed out through `(start_block + j) % total_blocks_`
computed in 32-bit arithmetic, which names the blocks the scan checked only while the
sum does not wrap; `total_blocks_ ≤ 2 ^ 31` guarantees that.
-/

namespace Dfs

namespace BlockManager

variable (m : BlockManager)

theorem getElem?_blockBitmap (blockId : ℕ) :
    m.blockBitmap[blockId]? =
      if blockId < m.totalBlocks then some (m.isBlockFree blockId) else none := by
  unfold isBlockFree
  split
  · rw [List.getD_eq_getElem?_getD,
      List.getElem?_eq_getElem (by rw [m.blockBitmap_length]; assumption)]
    rfl
  · exact List.getElem?_eq_none (by rw [m.blockBitmap_length]; omega)

theorem isBlockFree_of_totalBlocks_le {blockId : ℕ} (outside : m.totalBlocks ≤ blockId) :
    m.isBlockFree blockId = false := by
  simp [isBlockFree, Nat.not_lt.mpr outside]

theorem lt_of_isBlockFree {blockId : ℕ} (free : m.isBlockFree blockId) :
    blockId < m.totalBlocks := by
  by_contra outside
  rw [m.isBlockFree_of_totalBlocks_le (Nat.not_lt.mp outside)] at free
  cases free

@[simp]
theorem totalBlocks_new (totalBlocks blockSize : ℕ) :
    (new totalBlocks blockSize).totalBlocks = totalBlocks := rfl

@[simp]
theorem nextFreeBlock_new (totalBlocks blockSize : ℕ) :
    (new totalBlocks blockSize).nextFreeBlock = if 0 < totalBlocks then 1 else 0 := rfl

/-- A fresh allocator has every block free but block 0. -/
@[simp]
theorem isBlockFree_new (totalBlocks blockSize b : ℕ) :
    (new totalBlocks blockSize).isBlockFree b = decide (0 < b ∧ b < totalBlocks) := by
  by_cases inside : b < totalBlocks
  · simp only [isBlockFree, totalBlocks_new, inside, if_true, new, List.getD_eq_getElem?_getD,
      List.getElem?_set, List.length_replicate, List.getElem?_replicate]
    rcases Nat.eq_zero_or_pos b with rfl | positive
    · simp [inside]
    · simp [inside, positive, Nat.pos_iff_ne_zero.mp positive, eq_comm]
  · simp [isBlockFree, inside]

@[simp]
theorem totalBlocks_setBlock (blockId : ℕ) (free : Bool) :
    (m.setBlock blockId free).totalBlocks = m.totalBlocks := rfl

@[simp]
theorem nextFreeBlock_setBlock (blockId : ℕ) (free : Bool) :
    (m.setBlock blockId free).nextFreeBlock = m.nextFreeBlock := rfl

@[simp]
theorem isBlockFree_setBlock (blockId b : ℕ) (free : Bool) :
    (m.setBlock blockId free).isBlockFree b =
      if blockId = b ∧ b < m.totalBlocks then free else m.isBlockFree b := by
  by_cases inside : b < m.totalBlocks
  · have new := (m.setBlock blockId free).getElem?_blockBitmap b
    have old := m.getElem?_blockBitmap b
    simp only [totalBlocks_setBlock, inside, if_true] at new old
    change (m.blockBitmap.set blockId free)[b]? = _ at new
    rw [List.getElem?_set, old, m.blockBitmap_length] at new
    by_cases same : blockId = b
    · subst same
      rw [if_pos rfl, if_pos inside, Option.some_inj] at new
      rw [← new]
      simp [inside]
    · rw [if_neg same, Option.some_inj] at new
      rw [← new]
      simp [same]
  · simp [isBlockFree, inside]

/-- Freeing block 0 of a fresh manager leaves every block free. -/
theorem isBlockFree_new_setBlock_zero (totalBlocks blockSize b : ℕ) :
    ((new totalBlocks blockSize).setBlock 0 true).isBlockFree b = decide (b < totalBlocks) := by
  rw [isBlockFree_setBlock, isBlockFree_new, totalBlocks_new]
  by_cases zero : b = 0
  · subst zero
    by_cases inside : 0 < totalBlocks <;> simp [inside]
  · rw [if_neg fun moved => zero moved.1.symm]
    simp only [decide_eq_decide]
    omega

@[simp]
theorem setBlocks_nil (free : Bool) : m.setBlocks [] free = m := rfl

@[simp]
theorem setBlocks_cons (blockId : ℕ) (blockIds : List ℕ) (free : Bool) :
    m.setBlocks (blockId :: blockIds) free = (m.setBlock blockId free).setBlocks blockIds free :=
  rfl

@[simp]
theorem totalBlocks_setBlocks (blockIds : List ℕ) (free : Bool) :
    (m.setBlocks blockIds free).totalBlocks = m.totalBlocks := by
  induction blockIds generalizing m <;> simp [*]

@[simp]
theorem nextFreeBlock_setBlocks (blockIds : List ℕ) (free : Bool) :
    (m.setBlocks blockIds free).nextFreeBlock = m.nextFreeBlock := by
  induction blockIds generalizing m <;> simp [*]

@[simp]
theorem isBlockFree_setBlocks (blockIds : List ℕ) (b : ℕ) (free : Bool) :
    (m.setBlocks blockIds free).isBlockFree b =
      if b ∈ blockIds ∧ b < m.totalBlocks then free else m.isBlockFree b := by
  induction blockIds generalizing m with
  | nil => simp
  | cons blockId blockIds ih =>
    rw [setBlocks_cons, ih, isBlockFree_setBlock, totalBlocks_setBlock]
    by_cases here : b = blockId
    · subst here
      by_cases inside : b < m.totalBlocks <;> simp [inside]
    · simp [here, Ne.symm here]

@[simp]
theorem totalBlocks_takeBlock (blockId : ℕ) : (m.takeBlock blockId).totalBlocks = m.totalBlocks :=
  rfl

@[simp]
theorem nextFreeBlock_takeBlock (blockId : ℕ) :
    (m.takeBlock blockId).nextFreeBlock = (blockId + 1) % m.totalBlocks := rfl

@[simp]
theorem isBlockFree_takeBlock (blockId b : ℕ) :
    (m.takeBlock blockId).isBlockFree b = (m.setBlock blockId false).isBlockFree b := rfl

@[simp]
theorem totalBlocks_allocateScattered (count : ℕ) :
    ∀ remaining allocated (m : BlockManager),
      (allocateScattered count remaining allocated m).2.totalBlocks = m.totalBlocks
  | 0, _, _ => rfl
  | remaining + 1, allocated, m => by
    unfold allocateScattered
    split
    · rfl
    · split
      · simp
      · rw [totalBlocks_allocateScattered, totalBlocks_takeBlock]

@[simp]
theorem totalBlocks_allocateBlocks (count : ℕ) :
    (m.allocateBlocks count).2.totalBlocks = m.totalBlocks := by
  unfold allocateBlocks
  split
  · rfl
  · split <;> simp

/-- The search from a start inside the bitmap finds a free block, or reports that there is
none. -/
theorem findNextFreeBlock_spec {startIndex : ℕ} (startLe : startIndex ≤ m.totalBlocks) :
    (∃ b, m.findNextFreeBlock startIndex = .ok b ∧ b < m.totalBlocks ∧ m.isBlockFree b) ∨
      (m.findNextFreeBlock startIndex = .ok uint32Max ∧ ∀ b, m.isBlockFree b = false) := by
  have found {first count b : ℕ} (hit : firstFree m.blockBitmap first count = .ok (some b)) :
      b < m.totalBlocks ∧ m.isBlockFree b := by
    have read := (firstFree_some hit).2.2
    rw [getElem?_blockBitmap] at read
    split at read <;> simp_all
  have missed {first count : ℕ} (miss : firstFree m.blockBitmap first count = .ok none)
      (b : ℕ) (lower : first ≤ b) (upper : b < first + count) : m.isBlockFree b = false := by
    have read := firstFree_none miss b lower upper
    rw [getElem?_blockBitmap] at read
    split at read <;> simp_all
  obtain ⟨tail, tailEq⟩ := firstFree_ok
    (show startIndex + (m.totalBlocks - startIndex) ≤ m.blockBitmap.length by
      rw [m.blockBitmap_length]; omega)
  obtain ⟨head, headEq⟩ := firstFree_ok
    (show 0 + startIndex ≤ m.blockBitmap.length by rw [m.blockBitmap_length]; omega)
  unfold findNextFreeBlock
  rw [tailEq]
  rcases tail with _ | b
  · rw [headEq]
    rcases head with _ | b
    · refine .inr ⟨rfl, fun b => ?_⟩
      by_cases outside : m.totalBlocks ≤ b
      · exact m.isBlockFree_of_totalBlocks_le outside
      by_cases before : b < startIndex
      · exact missed headEq b (Nat.zero_le b) (by omega)
      · exact missed tailEq b (by omega) (by omega)
    · exact .inl ⟨b, rfl, found headEq⟩
  · exact .inl ⟨b, rfl, found tailEq⟩

/-- `allocate_block()` with the hint inside the bitmap hands out a free block and moves the
hint past it, or, when no block is free, locks the mutex it holds. -/
theorem allocateBlock_spec (hintLe : m.nextFreeBlock ≤ m.totalBlocks)
    (totalLe : m.totalBlocks ≤ uint32Max) :
    (∃ b, m.allocateBlock = (.ok b, m.takeBlock b) ∧ b < m.totalBlocks ∧ m.isBlockFree b) ∨
      (m.allocateBlock = (.error .selfDeadlock, m) ∧
        ∀ b, m.isBlockFree b = false) := by
  rcases m.findNextFreeBlock_spec hintLe with ⟨b, search, inside, free⟩ | ⟨search, none⟩
  · have real : b ≠ uint32Max := by omega
    refine .inl ⟨b, ?_, inside, free⟩
    simp only [allocateBlock, search, real, if_false]
  · refine .inr ⟨?_, none⟩
    simp only [allocateBlock, search, if_true]

@[simp]
theorem isBlockFree_withNextFreeBlock (hint b : ℕ) :
    ({ m with nextFreeBlock := hint } : BlockManager).isBlockFree b = m.isBlockFree b := rfl

/-- `deallocate_block(block_id)` frees an in-range block, whatever it was, and throws for an
out-of-range one. -/
theorem deallocateBlock_spec (blockId : ℕ) :
    (blockId < m.totalBlocks ∧ (m.deallocateBlock blockId).1 = .ok () ∧
        (m.deallocateBlock blockId).2.totalBlocks = m.totalBlocks ∧
        (m.deallocateBlock blockId).2.nextFreeBlock = m.nextFreeBlock ∧
        (m.deallocateBlock blockId).2.isBlockFree = (m.setBlock blockId true).isBlockFree) ∨
      (m.totalBlocks ≤ blockId ∧
        m.deallocateBlock blockId = (.error (.blockNotFound blockId), m)) := by
  unfold deallocateBlock
  by_cases outside : m.totalBlocks ≤ blockId
  · exact .inr ⟨outside, if_pos outside⟩
  · refine .inl ⟨by omega, ?_⟩
    rw [if_neg outside]
    split
    · refine ⟨rfl, rfl, rfl, funext fun b => ?_⟩
      have free : m.isBlockFree blockId = true := by
        rw [isBlockFree, if_pos (by omega)]
        assumption
      by_cases same : blockId = b
      · subst same
        simp [free]
      · simp [same]
    · exact ⟨rfl, rfl, rfl, rfl⟩

/-- One iteration of `deallocate_blocks` frees the block if it is in range. -/
theorem isBlockFree_deallocateOne (blockId : ℕ) :
    (m.deallocateOne blockId).isBlockFree = (m.setBlock blockId true).isBlockFree := by
  funext b
  unfold deallocateOne
  split
  · simp [isBlockFree_of_totalBlocks_le, *]
    intro same
    omega
  · split
    · rfl
    · have free : m.isBlockFree blockId = true := by simp_all [isBlockFree]
      by_cases same : blockId = b
      · subst same
        simp [free]
      · simp [same]

@[simp]
theorem totalBlocks_deallocateOne (blockId : ℕ) :
    (m.deallocateOne blockId).totalBlocks = m.totalBlocks := by
  unfold deallocateOne
  split_ifs <;> rfl

@[simp]
theorem nextFreeBlock_deallocateOne (blockId : ℕ) :
    (m.deallocateOne blockId).nextFreeBlock = m.nextFreeBlock := by
  unfold deallocateOne
  split_ifs <;> rfl

/-- `deallocate_blocks(block_ids)` frees the in-range blocks of the list and nothing else. -/
theorem deallocateBlocks_spec (blockIds : List ℕ) :
    (m.deallocateBlocks blockIds).totalBlocks = m.totalBlocks ∧
      (m.deallocateBlocks blockIds).nextFreeBlock = m.nextFreeBlock ∧
      (m.deallocateBlocks blockIds).isBlockFree = (m.setBlocks blockIds true).isBlockFree := by
  induction blockIds generalizing m with
  | nil => exact ⟨rfl, rfl, rfl⟩
  | cons blockId blockIds ih =>
    obtain ⟨total, hint, free⟩ := ih (m.deallocateOne blockId)
    refine ⟨by simpa using total, by simpa using hint, funext fun b => ?_⟩
    change (deallocateBlocks (m.deallocateOne blockId) blockIds).isBlockFree b = _
    rw [free, isBlockFree_setBlocks, isBlockFree_deallocateOne, setBlocks_cons,
      isBlockFree_setBlocks]
    simp

section ContiguousRun

variable {bitmap : List Bool} {totalBlocks count : ℕ}

/-- The scan of `allocate_blocks` from a position inside the bitmap never reads past its
end. -/
theorem contiguousRun_ok (lengthEq : bitmap.length = totalBlocks) (positive : 0 < totalBlocks) :
    ∀ fuel startBlock consecutive current, current < totalBlocks →
      ∃ found,
        contiguousRun bitmap totalBlocks count fuel startBlock consecutive current = .ok found
  | 0, _, _, _, _ => ⟨none, rfl⟩
  | fuel + 1, startBlock, consecutive, current, inside => by
    obtain ⟨free, read⟩ : ∃ free, bitmap[current]? = some free :=
      ⟨_, List.getElem?_eq_getElem (by omega)⟩
    have next : (current + 1) % totalBlocks < totalBlocks := Nat.mod_lt _ positive
    cases free <;> simp only [contiguousRun, read]
    · exact contiguousRun_ok lengthEq positive fuel _ _ _ next
    · split
      · exact ⟨_, rfl⟩
      · exact contiguousRun_ok lengthEq positive fuel _ _ _ next

/-- A run the scan finds is `count ≤ total_blocks_` free blocks, consecutive modulo
`total_blocks_` from its start. The scan keeps `current` on the block after the run so far,
and the run so far no longer than the iterations made. -/
theorem contiguousRun_some (positive : 0 < totalBlocks) :
    ∀ fuel startBlock consecutive current found,
      consecutive < count → consecutive + fuel ≤ totalBlocks → startBlock < totalBlocks →
      current = (startBlock + consecutive) % totalBlocks →
      (∀ k < consecutive, bitmap[(startBlock + k) % totalBlocks]? = some true) →
      contiguousRun bitmap totalBlocks count fuel startBlock consecutive current =
        .ok (some found) →
      found < totalBlocks ∧ count ≤ totalBlocks ∧
        ∀ k < count, bitmap[(found + k) % totalBlocks]? = some true
  | 0, _, _, _, _, _, _, _, _, _, scan => by cases scan
  | fuel + 1, startBlock, consecutive, current, found, short, bounded, startLt, atCurrent,
      run, scan => by
    simp only [contiguousRun] at scan
    split at scan
    · cases scan
    · rename_i free
      split at scan
      · cases scan
        refine ⟨startLt, by omega, fun k below => ?_⟩
        rcases Nat.lt_or_ge k consecutive with earlier | last
        · exact run k earlier
        · rw [show k = consecutive by omega, ← atCurrent]
          exact free
      · refine contiguousRun_some positive fuel startBlock (consecutive + 1) _ found (by omega)
          (by omega) startLt ?_ (fun k below => ?_) scan
        · rw [atCurrent, Nat.mod_add_mod, Nat.add_assoc]
        · rcases Nat.lt_or_ge k consecutive with earlier | last
          · exact run k earlier
          · rw [show k = consecutive by omega, ← atCurrent]
            exact free
    · refine contiguousRun_some positive fuel _ 0 _ found (by omega) (by omega)
        (Nat.mod_lt _ positive) (by simp) (fun k below => by omega)
        scan

/-- The scan returns its start when the blocks it still has to count, from `current` on,
are free. -/
theorem contiguousRun_of_free (positive : 0 < totalBlocks) :
    ∀ fuel startBlock consecutive current, current < totalBlocks →
      consecutive < count → count - consecutive ≤ fuel →
      (∀ k < count - consecutive, bitmap[(current + k) % totalBlocks]? = some true) →
      contiguousRun bitmap totalBlocks count fuel startBlock consecutive current =
        .ok (some startBlock)
  | 0, _, _, _, _, short, enough, _ => by omega
  | fuel + 1, startBlock, consecutive, current, inside, short, enough, free => by
    have here := free 0 (by omega)
    rw [Nat.add_zero, Nat.mod_eq_of_lt inside] at here
    simp only [contiguousRun, here]
    split
    · rfl
    · refine contiguousRun_of_free positive fuel startBlock (consecutive + 1) _
        (Nat.mod_lt _ positive) (by omega) (by omega) (fun k below => ?_)
      rw [Nat.mod_add_mod, Nat.add_assoc]
      exact free (1 + k) (by omega)

/-- The scan stops at a read past the end of the bitmap. -/
theorem contiguousRun_of_getElem?_eq_none {fuel startBlock consecutive current : ℕ}
    (nonzero : fuel ≠ 0) (past : bitmap[current]? = none) :
    contiguousRun bitmap totalBlocks count fuel startBlock consecutive current =
      .error (.outOfBounds current) := by
  obtain ⟨fuel, rfl⟩ := Nat.exists_eq_succ_of_ne_zero nonzero
  simp only [contiguousRun, past]

end ContiguousRun

/-- The contiguous path names the blocks of the run while `start_block + count` does not
wrap around `2 ^ 32`. -/
theorem runBlocks_eq {totalBlocks startBlock count : ℕ} (noWrap : startBlock + count ≤ 2 ^ 32) :
    runBlocks totalBlocks startBlock count =
      (List.range count).map fun j => (startBlock + j) % totalBlocks :=
  List.map_congr_left fun j below => by
    rw [List.mem_range] at below
    rw [Nat.mod_eq_of_lt (by omega : startBlock + j < 2 ^ 32)]

/-- Blocks counted from a start below `total_blocks_` are distinct for the first
`total_blocks_` steps. -/
theorem nodup_range_map_add_mod {totalBlocks startBlock count : ℕ}
    (startLt : startBlock < totalBlocks) (countLe : count ≤ totalBlocks) :
    ((List.range count).map fun j => (startBlock + j) % totalBlocks).Nodup := by
  have wrap (j : ℕ) (below : j < totalBlocks) : (startBlock + j) % totalBlocks =
      if startBlock + j < totalBlocks then startBlock + j else startBlock + j - totalBlocks := by
    split
    · exact Nat.mod_eq_of_lt ‹_›
    · rw [Nat.mod_eq_sub_mod (by omega), Nat.mod_eq_of_lt (by omega)]
  refine List.Nodup.map_on (fun i hi j hj same => ?_) (List.nodup_range count)
  rw [List.mem_range] at hi hj
  rw [wrap i (by omega), wrap j (by omega)] at same
  split at same <;> split at same <;> omega

theorem setBlocks_append_singleton (blockIds : List ℕ) (blockId : ℕ) (free : Bool) :
    m.setBlocks (blockIds ++ [blockId]) free = (m.setBlocks blockIds free).setBlock blockId free :=
  List.foldl_append ..

/-- One step of the scattered path: a block the search finds free on top of the blocks taken
so far was free in `original` and is not among them. -/
theorem scattered_step (original : BlockManager) {allocated : List ℕ} {m : BlockManager} {b : ℕ}
    (total : m.totalBlocks = original.totalBlocks) (nodup : allocated.Nodup)
    (free : ∀ c ∈ allocated, original.isBlockFree c)
    (marked : m.isBlockFree = (original.setBlocks allocated false).isBlockFree)
    (fresh : m.isBlockFree b) :
    (allocated ++ [b]).Nodup ∧ (∀ c ∈ allocated ++ [b], original.isBlockFree c) ∧
      (m.takeBlock b).isBlockFree = (original.setBlocks (allocated ++ [b]) false).isBlockFree := by
  have inside := total ▸ m.lt_of_isBlockFree fresh
  have unmarked : original.isBlockFree b ∧ b ∉ allocated := by
    rw [marked, isBlockFree_setBlocks] at fresh
    by_cases taken : b ∈ allocated
    · simp_all
    · exact ⟨by simpa [taken] using fresh, taken⟩
  refine ⟨List.nodup_append.mpr ⟨nodup, List.nodup_singleton b, by simpa using unmarked.2⟩,
    fun c mem => ?_, funext fun c => ?_⟩
  · simp only [List.mem_append, List.mem_singleton] at mem
    rcases mem with earlier | rfl
    · exact free c earlier
    · exact unmarked.1
  · rw [isBlockFree_takeBlock, isBlockFree_setBlock, setBlocks_append_singleton,
      isBlockFree_setBlock, marked, totalBlocks_setBlocks, total]

/-- The scattered path of `allocate_blocks`, started from `original`: with the hint inside
the bitmap it takes `remaining` more distinct blocks that were free in `original`, or gives
all the blocks it took back and locks the mutex it holds. `allocated` are the blocks taken so far in this
call, and the state has exactly those marked on top of `original`. -/
theorem allocateScattered_spec (original : BlockManager)
    (totalLe : original.totalBlocks ≤ uint32Max) (count : ℕ) :
    ∀ remaining allocated (m : BlockManager),
      m.totalBlocks = original.totalBlocks → m.nextFreeBlock < m.totalBlocks →
      allocated.Nodup → (∀ b ∈ allocated, original.isBlockFree b) →
      m.isBlockFree = (original.setBlocks allocated false).isBlockFree →
      (allocateScattered count remaining allocated m).2.totalBlocks = original.totalBlocks ∧
      (allocateScattered count remaining allocated m).2.nextFreeBlock < original.totalBlocks ∧
      (∀ blockIds, (allocateScattered count remaining allocated m).1 = .ok blockIds →
        blockIds.Nodup ∧ blockIds.length = allocated.length + remaining ∧
        (∀ b ∈ blockIds, original.isBlockFree b) ∧
        (allocateScattered count remaining allocated m).2.isBlockFree =
          (original.setBlocks blockIds false).isBlockFree) ∧
      (∀ e, (allocateScattered count remaining allocated m).1 = .error e →
        (allocateScattered count remaining allocated m).2.isBlockFree = original.isBlockFree)
  | 0, allocated, m, total, hint, nodup, free, marked => by
    refine ⟨total, total ▸ hint, fun blockIds done => ?_, fun e failed => by cases failed⟩
    cases done
    exact ⟨nodup, rfl, free, marked⟩
  | remaining + 1, allocated, m, total, hint, nodup, free, marked => by
    rcases m.findNextFreeBlock_spec hint.le with ⟨b, search, inside, fresh⟩ | ⟨search, none⟩
    · have real : b ≠ uint32Max := by omega
      obtain ⟨nodup', free', marked'⟩ := scattered_step original total nodup free marked fresh
      have step := allocateScattered_spec original totalLe count remaining (allocated ++ [b])
        (m.takeBlock b) total (Nat.mod_lt _ (by omega)) nodup' free' marked'
      simp only [allocateScattered, search, real, if_false]
      obtain ⟨total', hint', done, failed⟩ := step
      refine ⟨total', hint', fun blockIds ok => ?_, failed⟩
      obtain ⟨nodup', length', free', marked'⟩ := done blockIds ok
      exact ⟨nodup', by simpa [Nat.add_assoc, Nat.add_comm 1] using length', free', marked'⟩
    · simp only [allocateScattered, search, if_true]
      refine ⟨by simpa using total, by simpa [total] using hint,
        fun blockIds ok => (by cases ok), fun e _ => funext fun c => ?_⟩
      rw [isBlockFree_setBlocks, marked, isBlockFree_setBlocks, total]
      by_cases taken : c ∈ allocated
      · by_cases inside : c < original.totalBlocks
        · simp [taken, inside, free c taken]
        · simp [taken, inside, original.isBlockFree_of_totalBlocks_le (Nat.not_lt.mp inside)]
      · simp [taken]

/-- `allocate_blocks(count)` when the contiguous scan finds a run: the run is handed out and
the hint moved past it. -/
theorem allocateBlocks_of_contiguousRun {count startBlock : ℕ} (nonzero : count ≠ 0)
    (scan : contiguousRun m.blockBitmap m.totalBlocks count m.totalBlocks m.nextFreeBlock 0
      m.nextFreeBlock = .ok (some startBlock)) :
    (m.allocateBlocks count).1 = .ok (runBlocks m.totalBlocks startBlock count) ∧
      (m.allocateBlocks count).2.totalBlocks = m.totalBlocks ∧
      (m.allocateBlocks count).2.nextFreeBlock =
        (startBlock + count) % 2 ^ 32 % m.totalBlocks ∧
      (m.allocateBlocks count).2.isBlockFree =
        (m.setBlocks (runBlocks m.totalBlocks startBlock count) false).isBlockFree := by
  unfold allocateBlocks
  rw [if_neg nonzero, scan]
  exact ⟨rfl, totalBlocks_setBlocks .., rfl, rfl⟩

/-- `allocate_blocks(count)` hands out the `count` blocks from the hint on when they are
free. -/
theorem allocateBlocks_of_free_at_hint {count : ℕ} (nonzero : count ≠ 0)
    (countLe : count ≤ m.totalBlocks) (hintLt : m.nextFreeBlock < m.totalBlocks)
    (free : ∀ k < count, m.isBlockFree ((m.nextFreeBlock + k) % m.totalBlocks)) :
    (m.allocateBlocks count).1 = .ok (runBlocks m.totalBlocks m.nextFreeBlock count) ∧
      (m.allocateBlocks count).2.totalBlocks = m.totalBlocks ∧
      (m.allocateBlocks count).2.nextFreeBlock =
        (m.nextFreeBlock + count) % 2 ^ 32 % m.totalBlocks ∧
      (m.allocateBlocks count).2.isBlockFree =
        (m.setBlocks (runBlocks m.totalBlocks m.nextFreeBlock count) false).isBlockFree := by
  refine m.allocateBlocks_of_contiguousRun nonzero (contiguousRun_of_free (by omega) _ _ 0 _
    hintLt (by omega) (by omega) fun k below => ?_)
  rw [getElem?_blockBitmap, if_pos (Nat.mod_lt _ (by omega)), free k (by omega)]

/-- `allocate_blocks(count)` with the hint on `total_blocks_` reads past the end of the
bitmap. -/
theorem allocateBlocks_of_nextFreeBlock_eq_totalBlocks {count : ℕ} (nonzero : count ≠ 0)
    (positive : 0 < m.totalBlocks) (atEnd : m.nextFreeBlock = m.totalBlocks) :
    (m.allocateBlocks count).1 = .error (.outOfBounds m.totalBlocks) := by
  unfold allocateBlocks
  rw [if_neg nonzero, atEnd, contiguousRun_of_getElem?_eq_none (by omega)
    (by rw [getElem?_blockBitmap, if_neg (lt_irrefl _)])]

/-- `allocate_block()` hands out the block at the hint when that block is free. -/
theorem allocateBlock_of_free_at_hint (totalLe : m.totalBlocks ≤ uint32Max)
    (free : m.isBlockFree m.nextFreeBlock) :
    m.allocateBlock = (.ok m.nextFreeBlock, m.takeBlock m.nextFreeBlock) := by
  have inside := m.lt_of_isBlockFree free
  obtain ⟨rest, fits⟩ : ∃ rest, m.totalBlocks - m.nextFreeBlock = rest + 1 :=
    Nat.exists_eq_succ_of_ne_zero (by omega)
  have real : m.nextFreeBlock ≠ uint32Max := by omega
  simp only [allocateBlock, findNextFreeBlock, fits, firstFree, getElem?_blockBitmap, inside,
    if_true, free, real, if_false]

@[simp]
theorem totalBlocks_defragmentBlocks : m.defragmentBlocks.totalBlocks = m.totalBlocks := rfl

/-- `defragment_blocks()` on a full bitmap leaves the hint on `total_blocks_`. -/
theorem nextFreeBlock_defragmentBlocks_of_full (full : ∀ b, m.isBlockFree b = false) :
    m.defragmentBlocks.nextFreeBlock = m.totalBlocks := by
  rw [← m.blockBitmap_length]
  refine List.count_eq_length.mpr fun free mem => ?_
  obtain ⟨b, read⟩ := List.mem_iff_getElem?.mp mem
  rw [getElem?_blockBitmap] at read
  split at read
  · rw [Option.some.injEq, full b] at read
    exact read
  · cases read

/-- `allocate_blocks(count)` with the hint inside the bitmap and at most `2 ^ 31` blocks
hands out `count` distinct blocks that were free and marks exactly those used, or fails at
the lock it holds with the bitmap as it was. -/
theorem allocateBlocks_spec (hintLt : m.nextFreeBlock < m.totalBlocks)
    (totalLe : m.totalBlocks ≤ 2 ^ 31) (count : ℕ) :
    (m.allocateBlocks count).2.totalBlocks = m.totalBlocks ∧
      (m.allocateBlocks count).2.nextFreeBlock < m.totalBlocks ∧
      (∀ blockIds, (m.allocateBlocks count).1 = .ok blockIds →
        blockIds.Nodup ∧ blockIds.length = count ∧ (∀ b ∈ blockIds, m.isBlockFree b) ∧
        (m.allocateBlocks count).2.isBlockFree = (m.setBlocks blockIds false).isBlockFree) ∧
      (∀ e, (m.allocateBlocks count).1 = .error e →
        (m.allocateBlocks count).2.isBlockFree = m.isBlockFree) := by
  have positive : 0 < m.totalBlocks := by omega
  unfold allocateBlocks
  split
  · refine ⟨rfl, hintLt, fun blockIds ok => ?_, fun e failed => (by cases failed)⟩
    cases ok
    exact ⟨List.nodup_nil, by simp [*], by simp, rfl⟩
  · obtain ⟨found, scan⟩ := @contiguousRun_ok _ _ count m.blockBitmap_length positive
      m.totalBlocks m.nextFreeBlock 0 m.nextFreeBlock hintLt
    rw [scan]
    rcases found with _ | startBlock
    · obtain ⟨total, hint, done, failed⟩ := allocateScattered_spec m
        (by unfold uint32Max; omega) count count [] m rfl hintLt List.nodup_nil (by simp) rfl
      exact ⟨total, hint, fun blockIds ok => by simpa using done blockIds ok, failed⟩
    · obtain ⟨startLt, countLe, run⟩ := contiguousRun_some positive m.totalBlocks
        m.nextFreeBlock 0 m.nextFreeBlock startBlock (by omega) (by omega) hintLt
        (by simp [Nat.mod_eq_of_lt hintLt]) (fun k below => by omega) scan
      simp only [runBlocks_eq (by omega : startBlock + count ≤ 2 ^ 32)]
      refine ⟨by simp, Nat.mod_lt _ positive, fun blockIds ok => ?_,
        fun e failed => (by cases failed)⟩
      cases ok
      refine ⟨nodup_range_map_add_mod startLt countLe, by simp, fun b mem => ?_, rfl⟩
      simp only [List.mem_map, List.mem_range] at mem
      obtain ⟨k, below, rfl⟩ := mem
      have read := run k below
      rw [getElem?_blockBitmap] at read
      split at read <;> simp_all

end BlockManager

end Dfs
