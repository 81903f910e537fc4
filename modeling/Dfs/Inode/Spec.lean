import Dfs.Inode.Basic

/-!
# What the inode table's operations do

One specification per operation of `InodeTable`, stated through `is_inode_free`, which
determines the bitmap (`freeInodes_eq_of_isInodeFree`).

`allocate_inode` reads only inside the bitmap while the hint is at most its size, or at
most 1 (the hint of a fresh table, whatever its size). Its two loops then read every bit of
`[next_free_inode_, size)` and of `[1, next_free_inode_)`, so it fails only when all of those
are used: every inode but inode 0, and inode 0 too when the hint is on it.
-/

namespace Dfs

namespace InodeTable

variable (t : InodeTable)

theorem getElem?_freeInodes (inodeNum : ℕ) :
    t.freeInodes[inodeNum]? =
      if inodeNum < t.freeInodes.length then some (t.isInodeFree inodeNum) else none := by
  unfold isInodeFree
  split
  · rw [if_neg (by omega), List.getD_eq_getElem?_getD, List.getElem?_eq_getElem ‹_›]
    rfl
  · exact List.getElem?_eq_none (by omega)

/-- The free bits determine the bitmap. -/
theorem freeInodes_eq_of_isInodeFree {t t' : InodeTable}
    (size : t.freeInodes.length = t'.freeInodes.length)
    (free : ∀ n, t.isInodeFree n = t'.isInodeFree n) : t.freeInodes = t'.freeInodes :=
  List.ext_getElem? fun n => by rw [getElem?_freeInodes, getElem?_freeInodes, size, free]

theorem isInodeFree_of_length_le {inodeNum : ℕ} (outside : t.freeInodes.length ≤ inodeNum) :
    t.isInodeFree inodeNum = false := by
  simp [isInodeFree, outside]

theorem lt_of_isInodeFree {inodeNum : ℕ} (free : t.isInodeFree inodeNum) :
    inodeNum < t.freeInodes.length := by
  by_contra outside
  rw [t.isInodeFree_of_length_le (Nat.not_lt.mp outside)] at free
  cases free

@[simp]
theorem length_freeInodes_new (maxInodes : ℕ) : (new maxInodes).freeInodes.length = maxInodes := by
  simp [new]

@[simp]
theorem nextFreeInode_new (maxInodes : ℕ) : (new maxInodes).nextFreeInode = 1 := rfl

/-- A fresh table has every inode free but inodes 0 and 1. -/
@[simp]
theorem isInodeFree_new (maxInodes inodeNum : ℕ) :
    (new maxInodes).isInodeFree inodeNum = decide (2 ≤ inodeNum ∧ inodeNum < maxInodes) := by
  by_cases inside : inodeNum < maxInodes
  · simp only [isInodeFree, length_freeInodes_new, List.getD_eq_getElem?_getD, new,
      List.getElem?_set, List.length_set, List.length_replicate, List.getElem?_replicate]
    rcases inodeNum with _ | _ | inodeNum <;> simp [inside]
  · simp [isInodeFree, inside, Nat.le_of_not_lt inside]

@[simp]
theorem length_freeInodes_takeInode (inodeNum : ℕ) :
    (t.takeInode inodeNum).freeInodes.length = t.freeInodes.length :=
  List.length_set _ _ _

@[simp]
theorem nextFreeInode_takeInode (inodeNum : ℕ) :
    (t.takeInode inodeNum).nextFreeInode = (inodeNum + 1) % t.freeInodes.length := rfl

@[simp]
theorem isInodeFree_takeInode (inodeNum n : ℕ) :
    (t.takeInode inodeNum).isInodeFree n = if n = inodeNum then false else t.isInodeFree n := by
  simp only [isInodeFree, takeInode, List.length_set, List.getD_eq_getElem?_getD,
    List.getElem?_set]
  by_cases same : n = inodeNum
  · subst same
    split_ifs <;> rfl
  · simp [same, Ne.symm same]

/-- `allocate_inode()` with the hint at most the size of the table, or at most 1, hands out a
free inode and marks it used, or, when every inode it searches is used, locks the mutex it
holds. -/
theorem allocateInode_spec (hintLe : t.nextFreeInode ≤ max t.freeInodes.length 1) :
    (∃ n, t.allocateInode = (.ok n, t.takeInode n) ∧ t.isInodeFree n) ∨
      (t.allocateInode = (.error .selfDeadlock, t) ∧
        ∀ n, (0 < n ∨ t.nextFreeInode = 0) → t.isInodeFree n = false) := by
  have found {first count n : ℕ} (hit : firstFree t.freeInodes first count = .ok (some n)) :
      t.isInodeFree n := by
    have read := (firstFree_some hit).2.2
    rw [getElem?_freeInodes] at read
    split at read <;> simp_all
  have missed {first count : ℕ} (miss : firstFree t.freeInodes first count = .ok none)
      (n : ℕ) (lower : first ≤ n) (upper : n < first + count) : t.isInodeFree n = false := by
    have read := firstFree_none miss n lower upper
    rw [getElem?_freeInodes] at read
    split at read <;> simp_all
  have search (first count : ℕ) (inside : count = 0 ∨ first + count ≤ t.freeInodes.length) :
      ∃ found, firstFree t.freeInodes first count = .ok found := by
    rcases inside with zero | inside
    · exact ⟨none, by rw [zero]; rfl⟩
    · exact firstFree_ok inside
  obtain ⟨tail, tailEq⟩ := search t.nextFreeInode (t.freeInodes.length - t.nextFreeInode) (by omega)
  obtain ⟨head, headEq⟩ := search 1 (t.nextFreeInode - 1) (by omega)
  unfold allocateInode
  rw [tailEq]
  rcases tail with _ | n
  · rw [headEq]
    rcases head with _ | n
    · refine .inr ⟨rfl, fun n searched => ?_⟩
      by_cases outside : t.freeInodes.length ≤ n
      · exact t.isInodeFree_of_length_le outside
      by_cases before : n < t.nextFreeInode
      · exact missed headEq n (by omega) (by omega)
      · exact missed tailEq n (by omega) (by omega)
    · exact .inl ⟨n, rfl, found headEq⟩
  · exact .inl ⟨n, rfl, found tailEq⟩

/-- `allocate_inode()` hands out the inode at the hint when that inode is free. -/
theorem allocateInode_of_free_at_hint (free : t.isInodeFree t.nextFreeInode) :
    t.allocateInode = (.ok t.nextFreeInode, t.takeInode t.nextFreeInode) := by
  have inside := t.lt_of_isInodeFree free
  obtain ⟨rest, fits⟩ : ∃ rest, t.freeInodes.length - t.nextFreeInode = rest + 1 :=
    Nat.exists_eq_succ_of_ne_zero (by omega)
  simp only [allocateInode, fits, firstFree, getElem?_freeInodes, inside, if_true, free]

/-- `deallocate_inode(inode_num)` frees an in-range inode, whatever it was, and throws for an
out-of-range one, leaving the table as it was. -/
theorem deallocateInode_spec (inodeNum : ℕ) :
    (inodeNum < t.freeInodes.length ∧ (t.deallocateInode inodeNum).1 = .ok () ∧
        (t.deallocateInode inodeNum).2.freeInodes.length = t.freeInodes.length ∧
        (t.deallocateInode inodeNum).2.nextFreeInode = t.nextFreeInode ∧
        ∀ n, (t.deallocateInode inodeNum).2.isInodeFree n =
          if n = inodeNum then true else t.isInodeFree n) ∨
      (t.freeInodes.length ≤ inodeNum ∧
        t.deallocateInode inodeNum = (.error (.inodeNotFound inodeNum), t)) := by
  unfold deallocateInode
  split
  · exact .inr ⟨‹_›, rfl⟩
  · refine .inl ⟨by omega, ?_⟩
    split
    · refine ⟨rfl, rfl, rfl, fun n => ?_⟩
      split
      · subst n
        rw [isInodeFree, if_neg ‹_›]
        assumption
      · rfl
    · refine ⟨rfl, by simp, rfl, fun n => ?_⟩
      simp only [isInodeFree, List.length_set, List.getD_eq_getElem?_getD, List.getElem?_set]
      by_cases same : n = inodeNum
      · subst same
        have inside : n < t.freeInodes.length := by omega
        simp [inside, Nat.not_le.mpr inside]
      · simp [same, Ne.symm same]

/-- `get_inode(inode_num)` succeeds exactly on the used inodes of the table. -/
theorem getInode_ok_iff (inodeNum : ℕ) :
    (∃ inode, t.getInode inodeNum = .ok inode) ↔
      inodeNum < t.freeInodes.length ∧ t.isInodeFree inodeNum = false := by
  unfold getInode isInodeFree
  rw [← t.freeInodes_length]
  split_ifs <;> simp_all

/-- A fresh table of at least three inodes hands out inode 2 first. -/
theorem allocateInode_new {maxInodes : ℕ} (threeLe : 3 ≤ maxInodes) :
    (new maxInodes).allocateInode = (.ok 2, (new maxInodes).takeInode 2) := by
  obtain ⟨k, fits⟩ : ∃ k, maxInodes - 1 = k + 2 := ⟨maxInodes - 3, by omega⟩
  have used : (new maxInodes).freeInodes[1]? = some false := by
    rw [getElem?_freeInodes, isInodeFree_new]
    simp
    omega
  have free : (new maxInodes).freeInodes[2]? = some true := by
    rw [getElem?_freeInodes, isInodeFree_new]
    simp
    omega
  simp only [allocateInode, length_freeInodes_new, nextFreeInode_new, fits, firstFree, used, free]

/-- `deserialize(file)` on a stream that holds a count, that many records and that many bitmap
bytes loads them: each record read over the resized vector's element, the bitmap resized to
the count with its bits kept, since each byte goes into a proxy, and the hint left as it
was. -/
theorem deserialize_of_records (file : IStream) (records : List (List UInt8))
    (bits rest : List UInt8) (isOpen : file.isOpen) (good : file.good)
    (sized : ∀ record ∈ records, record.length = Inode.byteSize)
    (counted : bits.length = records.length) (fits : records.length < 2 ^ 32)
    (stored : file.rest = leBytes 4 records.length ++ records.flatten ++ bits ++ rest) :
    (t.deserialize file).1 = .ok () ∧
      (t.deserialize file).2.1.inodes =
        List.zipWith Inode.load records (resize t.inodes records.length Inode.default) ∧
      (t.deserialize file).2.1.freeInodes = resize t.freeInodes records.length false ∧
      (t.deserialize file).2.1.nextFreeInode = t.nextFreeInode ∧
      (t.deserialize file).2.2.good ∧ (t.deserialize file).2.2.rest = rest := by
  have header := IStream.read_of_le good (show 4 ≤ file.rest.length by simp [stored])
  rw [stored, List.append_assoc, List.append_assoc, List.take_left' (length_leBytes _ _),
    List.drop_left' (length_leBytes _ _)] at header
  have count : leValue (leBytes 4 records.length) = records.length := by
    rw [leValue_leBytes]
    exact Nat.mod_eq_of_lt (by simpa using fits)
  obtain ⟨done, loaded, good₁, rest₁⟩ := readElements_of_chunks Inode.byteSize Inode.load
    (resize t.inodes records.length Inode.default) records
    { file with
      rest := records.flatten ++ (bits ++ rest), gcount := 4, failbit := false, eofbit := false }
    (bits ++ rest) (by simp) sized rfl rfl
  obtain ⟨done₂, -, good₂, rest₂⟩ := readElements_of_chunks 1 readIntoProxy
    (resize t.freeInodes records.length false) (bits.map fun bit => [bit]) _ rest
    (by simp [counted]) (by simp) good₁
    (by rw [rest₁]; exact congrArg (· ++ rest) (List.flatMap_singleton' bits).symm)
  simp only [isOpen] at done loaded done₂ good₂ rest₂
  simp only [deserialize, isOpen, header, count, Bool.not_true, Bool.false_eq_true, if_false,
    Bool.false_or, bne_self_eq_false, done, Bool.not_true, if_true, done₂]
  exact ⟨trivial, loaded, readElements_readIntoProxy _ _, trivial, good₂, rest₂⟩

end InodeTable

end Dfs

