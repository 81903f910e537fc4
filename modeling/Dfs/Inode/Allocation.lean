import Dfs.Inode.Spec
import Dfs.History
import Mathlib.Data.List.Nodup

/-!
# The allocation law of the inode table

The inode table against the abstract allocator of `Dfs.History`. `Refines` relates the
bitmap to the inodes handed out and not given back: an inode held is used, and a used inode
other than the two the constructor reserves is held. Every `allocate_inode` and
`deallocate_inode` keeps it, so over every history from a fresh table each allocation hands
out an inode that was free and held by nobody, and fails, locking the mutex it holds, only
when every inode but inode 0 is used.

Two things the reserved inodes and the hint are not protected from. `deallocate_inode`
accepts inodes 0 and 1 like any other, and `allocate_inode` then hands them out. And
`deserialize` resizes the table but keeps the hint, so after loading a table smaller than
the hint the second loop of `allocate_inode` reads past the end of the bitmap.
-/

namespace Dfs

/-- The calls that change the inode table. -/
inductive InodeCall where
  | allocateInode
  | deallocateInode (inodeNum : ℕ)
  | deserialize (file : IStream)
  deriving DecidableEq

namespace InodeCall

/-- The calls that allocate or deallocate. -/
def AllocatesOrReleases : InodeCall → Prop
  | allocateInode | deallocateInode _ => True
  | deserialize _ => False

/-- The inodes a call gives back. -/
def released : InodeCall → List ℕ
  | deallocateInode inodeNum => [inodeNum]
  | _ => []

end InodeCall

namespace InodeTable

/-- One call: the inodes it hands out (none for a call that hands out nothing) or the
exception, and the table afterwards. -/
def call (t : InodeTable) : InodeCall → Except Error (List ℕ) × InodeTable
  | .allocateInode => (t.allocateInode.1.map ([·]), t.allocateInode.2)
  | .deallocateInode inodeNum =>
    ((t.deallocateInode inodeNum).1.map fun _ => [], (t.deallocateInode inodeNum).2)
  | .deserialize file => ((t.deserialize file).1.map fun _ => [], (t.deserialize file).2.1)

/-- The refinement between the bitmap and the abstract allocator, and the hint where the
searches of `allocate_inode` stay inside the bitmap. -/
structure Refines (t : InodeTable) (owned : ℕ → Bool) : Prop where
  hintLe : t.nextFreeInode ≤ max t.freeInodes.length 1
  ownedUsed : ∀ n, owned n → n < t.freeInodes.length ∧ t.isInodeFree n = false
  usedOwned : ∀ n, 2 ≤ n → n < t.freeInodes.length → t.isInodeFree n = false → owned n

variable {t : InodeTable} {owned : ℕ → Bool}

/-- Handing out a free inode keeps the refinement. -/
theorem Refines.takeInode (refines : Refines t owned) {inodeNum : ℕ}
    (free : t.isInodeFree inodeNum) :
    Refines (t.takeInode inodeNum) (fun n => decide (n = inodeNum) || owned n) where
  hintLe := by
    have inside := t.lt_of_isInodeFree free
    simp only [nextFreeInode_takeInode, length_freeInodes_takeInode]
    exact (Nat.mod_lt _ (by omega)).le.trans (le_max_left _ _)
  ownedUsed n held := by
    by_cases same : n = inodeNum
    · simp [same, t.lt_of_isInodeFree free]
    · simp only [same, decide_False, Bool.false_or] at held
      simp [same, refines.ownedUsed n held]
  usedOwned n twoLe inside used := by
    by_cases same : n = inodeNum
    · simp [same]
    · simp only [isInodeFree_takeInode, same, if_false, length_freeInodes_takeInode] at used inside
      simp [refines.usedOwned n twoLe inside used]

/-- `allocate_inode` and `deallocate_inode` keep the size of the table and the refinement
with the abstract allocator's step; an allocation hands out an inode that was free and held
by nobody, or fails with every inode but inode 0 used. -/
theorem Refines.after_call (refines : Refines t owned) {c : InodeCall}
    (allowed : c.AllocatesOrReleases) :
    (t.call c).2.freeInodes.length = t.freeInodes.length ∧
      (∀ handed, (t.call c).1 = .ok handed →
        handed.Nodup ∧ ∀ n ∈ handed, t.isInodeFree n ∧ owned n = false) ∧
      (c = .allocateInode → ∀ err, (t.call c).1 = .error err →
        err = .selfDeadlock ∧ ∀ n, 0 < n → t.isInodeFree n = false) ∧
      Refines (t.call c).2 (updateOwned owned c.released (t.call c).1) := by
  cases c with
  | allocateInode =>
    rcases t.allocateInode_spec refines.hintLe with ⟨n, allocated, free⟩ | ⟨failed, full⟩
    · have unheld : owned n = false := by
        cases held : owned n
        · rfl
        · simp [(refines.ownedUsed n held).2] at free
      simp only [call, allocated, Except.map, updateOwned, InodeCall.released, List.mem_singleton,
        List.not_mem_nil, decide_False, Bool.not_false, Bool.and_true]
      refine ⟨by simp, fun handed ok => ?_, fun _ err failed => (by cases failed),
        refines.takeInode free⟩
      cases ok
      exact ⟨List.nodup_singleton n, by simpa using ⟨free, unheld⟩⟩
    · simp only [call, failed, Except.map, updateOwned]
      refine ⟨trivial, fun handed ok => (by cases ok), fun _ err failed => ?_, refines⟩
      cases failed
      exact ⟨rfl, fun n positive => full n (.inl positive)⟩
  | deallocateInode inodeNum =>
    rcases t.deallocateInode_spec inodeNum with ⟨-, ok, size, hint, freed⟩ | ⟨-, failed⟩
    · simp only [call, ok, Except.map, updateOwned, InodeCall.released, List.mem_singleton,
        List.not_mem_nil, decide_False, Bool.false_or]
      refine ⟨size, fun handed done => ?_, fun no => (by cases no), ?_⟩
      · cases done
        simp
      · refine ⟨by rw [hint, size]; exact refines.hintLe, fun n held => ?_,
          fun n twoLe inside used => ?_⟩
        · simp only [Bool.and_eq_true, Bool.not_eq_true', decide_eq_false_iff_not] at held
          rw [size, freed, if_neg held.2]
          exact refines.ownedUsed n held.1
        · rw [freed] at used
          rw [size] at inside
          split at used
          · cases used
          · simp [*, refines.usedOwned n twoLe inside used]
    · simp only [call, failed, Except.map, updateOwned]
      exact ⟨trivial, fun handed ok => (by cases ok), fun no => (by cases no), refines⟩
  | deserialize file => cases allowed

/-- The allocation law of the inode table, for every history of allocations and
deallocations from a fresh table of any size: each allocation hands out an inode that was
free and that no earlier allocation handed out without a deallocation since, and fails only
when every inode but inode 0 is used; `get_inode` succeeds exactly on the used inodes; and
an inode other than 0 and 1 is used exactly when it is so held. -/
theorem inode_allocation_law (maxInodes : ℕ) (calls : List InodeCall)
    (allowed : ∀ c ∈ calls, c.AllocatesOrReleases) :
    (∀ earlier e later, trace call (new maxInodes) calls = earlier ++ e :: later →
      (∀ handed, e.result = .ok handed →
        handed.Nodup ∧ ∀ n ∈ handed, e.before.isInodeFree n ∧
          ownedAfter InodeCall.released (fun _ => false) earlier n = false) ∧
      (e.call = .allocateInode → ∀ err, e.result = .error err →
        err = .selfDeadlock ∧
          ∀ n, 0 < n → e.before.isInodeFree n = false)) ∧
      (∀ n, (∃ inode, (run call (new maxInodes) calls).getInode n = .ok inode) ↔
        n < maxInodes ∧ (run call (new maxInodes) calls).isInodeFree n = false) ∧
      ∀ n, 2 ≤ n → n < maxInodes →
        ((run call (new maxInodes) calls).isInodeFree n = false ↔
          ownedAfter InodeCall.released (fun _ => false)
            (trace call (new maxInodes) calls) n = true) := by
  have fresh : Refines (new maxInodes) (fun _ => false) := by
    refine ⟨by simp, fun n held => (by cases held), fun n twoLe inside used => ?_⟩
    simp only [length_freeInodes_new] at inside
    simp [twoLe, inside] at used
  obtain ⟨handed, size, final⟩ := along_trace
    (fun owned c result => updateOwned owned (InodeCall.released c) result)
    (fun t owned => t.freeInodes.length = maxInodes ∧ Refines t owned)
    InodeCall.AllocatesOrReleases
    (fun (t : InodeTable) owned (c : InodeCall) (result : Except Error (List ℕ)) =>
      (∀ handed, result = .ok handed →
        handed.Nodup ∧ ∀ n ∈ handed, t.isInodeFree n ∧ owned n = false) ∧
      (c = .allocateInode → ∀ err, result = .error err →
        err = .selfDeadlock ∧ ∀ n, 0 < n → t.isInodeFree n = false))
    (fun t owned c ⟨size, refines⟩ allowed => by
      obtain ⟨size', handed, failed, refines'⟩ := refines.after_call allowed
      exact ⟨⟨handed, failed⟩, size'.trans size, refines'⟩)
    calls _ _ allowed ⟨by simp, fresh⟩
  refine ⟨handed, fun n => by rw [getInode_ok_iff, size], fun n twoLe inside =>
    ⟨final.usedOwned n twoLe (by rw [size]; exact inside), fun held => (final.ownedUsed n held).2⟩⟩

/-- On a table of four inodes: inodes 2 and 3 handed out, a third allocation failing with every
inode but inode 0 used, inode 2 given back twice and handed out again, and inode 0 given back
and passed over by the search, which starts at inode 1. -/
theorem inode_allocation_law_mixed_history :
    let calls := [InodeCall.allocateInode, .allocateInode, .allocateInode, .deallocateInode 2,
      .deallocateInode 2, .allocateInode, .deallocateInode 0, .allocateInode]
    (trace call (new 4) calls).map (·.result) =
        [.ok [2], .ok [3], .error .selfDeadlock, .ok [], .ok [], .ok [2], .ok [],
          .error .selfDeadlock] ∧
      (∀ c ∈ calls, c.AllocatesOrReleases) ∧
      (∀ earlier e later, trace call (new 4) calls = earlier ++ e :: later →
        (∀ handed, e.result = .ok handed →
          handed.Nodup ∧ ∀ n ∈ handed, e.before.isInodeFree n ∧
            ownedAfter InodeCall.released (fun _ => false) earlier n = false) ∧
        (e.call = .allocateInode → ∀ err, e.result = .error err →
          err = .selfDeadlock ∧ ∀ n, 0 < n → e.before.isInodeFree n = false)) ∧
      (∀ n, (∃ inode, (run call (new 4) calls).getInode n = .ok inode) ↔
        n < 4 ∧ (run call (new 4) calls).isInodeFree n = false) ∧
      ∀ n, 2 ≤ n → n < 4 →
        ((run call (new 4) calls).isInodeFree n = false ↔
          ownedAfter InodeCall.released (fun _ => false) (trace call (new 4) calls) n = true) :=
  have allowed : ∀ c ∈ [InodeCall.allocateInode, .allocateInode, .allocateInode,
      .deallocateInode 2, .deallocateInode 2, .allocateInode, .deallocateInode 0,
      .allocateInode], c.AllocatesOrReleases := by
    simp [InodeCall.AllocatesOrReleases]
  ⟨by decide, allowed, inode_allocation_law 4 _ allowed⟩

/-- `deallocate_inode` does not refuse the reserved inodes: it frees inode 0 and the root's
inode 1, and `allocate_inode` then hands inode 1 out. -/
theorem reserved_inodes_released {maxInodes : ℕ} (twoLe : 2 ≤ maxInodes) :
    ((new maxInodes).deallocateInode 0).1 = .ok () ∧
      ((new maxInodes).deallocateInode 0).2.isInodeFree 0 = true ∧
      ((new maxInodes).deallocateInode 1).1 = .ok () ∧
      ((new maxInodes).deallocateInode 1).2.allocateInode.1 = .ok 1 := by
  obtain ⟨-, ok₀, -, -, freed₀⟩ | ⟨outside, -⟩ := (new maxInodes).deallocateInode_spec 0
  swap
  · simp at outside
    omega
  obtain ⟨-, ok₁, -, hint₁, freed₁⟩ | ⟨outside, -⟩ := (new maxInodes).deallocateInode_spec 1
  swap
  · simp at outside
    omega
  refine ⟨ok₀, by simp [freed₀], ok₁, ?_⟩
  have free : ((new maxInodes).deallocateInode 1).2.isInodeFree
      ((new maxInodes).deallocateInode 1).2.nextFreeInode := by
    simp [hint₁, freed₁]
  rw [allocateInode_of_free_at_hint _ free, hint₁, nextFreeInode_new]

theorem reserved_inodes_released_ten :
    2 ≤ 10 ∧ ((new 10).deallocateInode 0).1 = .ok () ∧
      ((new 10).deallocateInode 0).2.isInodeFree 0 = true ∧
      ((new 10).deallocateInode 1).1 = .ok () ∧
      ((new 10).deallocateInode 1).2.allocateInode.1 = .ok 1 :=
  ⟨by decide, reserved_inodes_released (by decide)⟩

/- Once the hint has wrapped to 0, a freed inode 0 is handed out too. -/
example : (((new 3).allocateInode.2.deallocateInode 0).2.allocateInode).1 = .ok 0 := by decide

/-- `deserialize` keeps the hint while it resizes the table. After one allocation on a table of
at least four inodes the hint is 3; once a well-formed one-inode table is loaded, the second
loop of `allocate_inode` reads `free_inodes_[1]`, past the end of the one-bit bitmap. -/
theorem allocateInode_reads_past_loaded_table {maxInodes : ℕ} (fourLe : 4 ≤ maxInodes)
    (record : List UInt8) (recordLength : record.length = Inode.byteSize) (bit : UInt8)
    (rest : List UInt8) :
    ((new maxInodes).allocateInode.2.deserialize
        { isOpen := true, rest := leBytes 4 1 ++ record ++ bit :: rest }).1 = .ok () ∧
      ((new maxInodes).allocateInode.2.deserialize
        { isOpen := true, rest := leBytes 4 1 ++ record ++ bit :: rest }).2.1.allocateInode.1 =
        .error (.outOfBounds 1) := by
  rw [allocateInode_new (by omega)]
  have hint : ((new maxInodes).takeInode 2).nextFreeInode = 3 := by
    rw [nextFreeInode_takeInode, length_freeInodes_new, Nat.mod_eq_of_lt (by omega)]
  generalize (new maxInodes).takeInode 2 = t at hint
  obtain ⟨ok, -, bits, next, -, -⟩ := t.deserialize_of_records
    { isOpen := true, rest := leBytes 4 1 ++ record ++ bit :: rest } [record] [bit] rest rfl rfl
    (by simp [recordLength]) rfl (by simp) (by simp)
  refine ⟨ok, ?_⟩
  generalize (t.deserialize _).2.1 = loaded at bits next
  have size : loaded.freeInodes.length = 1 := by simp [bits]
  have past : loaded.freeInodes[1]? = none := List.getElem?_eq_none (by omega)
  simp only [allocateInode, size, next, hint, firstFree, past]

theorem allocateInode_reads_past_loaded_table_four :
    4 ≤ 4 ∧ (List.replicate 152 (0 : UInt8)).length = Inode.byteSize ∧
      ((new 4).allocateInode.2.deserialize
        { isOpen := true, rest := leBytes 4 1 ++ List.replicate 152 0 ++ [1] }).1 = .ok () ∧
      ((new 4).allocateInode.2.deserialize
          { isOpen := true,
            rest := leBytes 4 1 ++ List.replicate 152 0 ++ [1] }).2.1.allocateInode.1 =
        .error (.outOfBounds 1) :=
  ⟨by decide, List.length_replicate _ _,
    allocateInode_reads_past_loaded_table (by decide) (List.replicate 152 0)
      (List.length_replicate _ _) 1 []⟩

end InodeTable

end Dfs
