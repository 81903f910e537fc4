import Dfs.Inode.Basic

/-!
# The byte layout of an inode

What the object representation of `Dfs.Inode.Basic` determines: a record read back from its
own 152 bytes is the record (`ofBytes_toBytes`), so `InodeTable::deserialize` restores the
records `serialize` wrote; and the checksum sits at offset 112 between bytes that do not depend on it
(`toBytes_checksum`), so that the lemmas of `Dfs.Checksum` about corrupted records apply to
`is_valid`.
-/

namespace Dfs

section DirectBlocks

/-- The direct block numbers take four bytes each. -/
@[simp]
theorem length_flatMap_leBytes (width : ℕ) (blocks : List UInt32) :
    (blocks.flatMap fun block => leBytes width block.toNat).length = width * blocks.length := by
  induction blocks with
  | nil => rfl
  | cons block blocks ih => simp [List.flatMap_cons, ih, Nat.mul_succ, Nat.add_comm]

/-- The `k`-th block number is read at offset `4 * k` of the array. -/
theorem field_flatMap_leBytes (blocks : List UInt32) (rest : List UInt8) :
    ∀ {k : ℕ} (_ : k < blocks.length),
      field ((blocks.flatMap fun block => leBytes 4 block.toNat) ++ rest) (4 * k) 4 =
        blocks[k].toNat % 256 ^ 4 := by
  induction blocks with
  | nil => intro k outside; cases outside
  | cons block blocks ih =>
    intro k inside
    rw [List.flatMap_cons, List.append_assoc]
    cases k with
    | zero => exact field_leBytes_append _ _ _
    | succ k =>
      rw [field_append_of_le _ _ _ (by simp only [length_leBytes]; omega), length_leBytes,
        show 4 * (k + 1) - 4 = 4 * k by omega]
      exact ih (by simpa using inside)

/-- The array of block numbers read back. -/
theorem map_range_field_flatMap (blocks : List UInt32) (rest : List UInt8) {n : ℕ}
    (sized : blocks.length = n) :
    (List.range n).map (fun k => UInt32.ofNat
      (field ((blocks.flatMap fun block => leBytes 4 block.toNat) ++ rest) (4 * k) 4)) =
      blocks := by
  subst sized
  refine List.ext_getElem (by simp) fun k inside _ => ?_
  simp only [List.getElem_map, List.getElem_range]
  rw [field_flatMap_leBytes _ _ (by simpa using inside), UInt32.ofNat_toNat_mod]

end DirectBlocks

namespace Inode

@[simp]
theorem length_toBytes (inode : Inode) : inode.toBytes.length = byteSize := by
  simp only [toBytes, List.length_append, length_leBytes, length_flatMap_leBytes, List.length_cons,
    List.length_nil, inode.directBlocks_length, inode.padding_length, byteSize]

/-- The records of a table take `sizeof(Inode)` bytes each. -/
theorem length_flatten_map_toBytes (inodes : List Inode) :
    (inodes.map toBytes).flatten.length = inodes.length * byteSize := by
  induction inodes with
  | nil => rfl
  | cons inode inodes ih =>
    rw [List.map_cons, List.flatten_cons, List.length_append, ih, length_toBytes, List.length_cons,
      Nat.succ_mul, Nat.add_comm]

/-- A record read back from its own bytes. The two alignment bytes are written as zero and
ignored. -/
theorem ofBytes_toBytes (inode : Inode) : ofBytes inode.toBytes = inode := by
  simp only [ofBytes, toBytes, List.append_assoc]
  simp only [field_append_of_le, getD_append_of_le, field_leBytes_append, length_leBytes,
    length_flatMap_leBytes, inode.directBlocks_length, List.length_cons, List.length_nil,
    Nat.reduceLeDiff, Nat.le_add_right_of_le, Nat.sub_add_comm, Nat.reduceSub, Nat.reduceAdd,
    Nat.reduceMul, Nat.zero_add, UInt16.ofNat_toNat_mod, UInt32.ofNat_toNat_mod,
    UInt64.ofNat_toNat_mod, map_range_field_flatMap, map_range_getD, inode.padding_length]

/-- A full read replaces the whole record. -/
theorem load_of_length {got : List UInt8} (old : Inode) (full : got.length = byteSize) :
    load got old = ofBytes got := by
  rw [load, List.drop_eq_nil_of_le (by rw [length_toBytes, full]), List.append_nil]

/-- A record read over any record from the bytes it was written as. -/
@[simp]
theorem load_toBytes (inode old : Inode) : load inode.toBytes old = inode := by
  rw [load_of_length old (length_toBytes inode), ofBytes_toBytes]

/-- The checksum field sits at offset 112, between bytes that do not depend on it. -/
theorem toBytes_checksum (inode : Inode) :
    ∃ front back : List UInt8, front.length = 112 ∧
      ∀ c : UInt32, { inode with checksum := c }.toBytes = front ++ leBytes 4 c.toNat ++ back :=
  ⟨leBytes 2 inode.mode.toNat ++ leBytes 2 inode.uid.toNat ++ leBytes 2 inode.gid.toNat ++
      [0, 0] ++ leBytes 8 inode.size.toNat ++ leBytes 8 inode.blocks.toNat ++
      leBytes 8 inode.atime.toNat ++ leBytes 8 inode.mtime.toNat ++ leBytes 8 inode.ctime.toNat ++
      inode.directBlocks.flatMap (fun block => leBytes 4 block.toNat) ++
      leBytes 4 inode.indirectBlock.toNat ++ leBytes 4 inode.doubleIndirect.toNat ++
      leBytes 4 inode.tripleIndirect.toNat ++ leBytes 4 inode.replicationCount.toNat,
    leBytes 4 inode.linkCount.toNat ++ inode.padding,
    by simp only [List.length_append, length_leBytes, length_flatMap_leBytes, List.length_cons,
      List.length_nil, inode.directBlocks_length],
    fun _ => by simp only [toBytes, List.append_assoc]⟩

/-- `is_valid` fails on a record whose stored checksum is not the one it computes. -/
theorem isValid_eq_false_of_ne {inode : Inode} (now : UInt64)
    (unsealed : inode.checksum ≠ calculateChecksum { inode with checksum := 0 }.toBytes) :
    inode.isValid now = false := by
  unfold isValid
  simp only [beq_eq_false_iff_ne.mpr unsealed, ite_self]

/-- The mode is the first field: a record with another mode has the same bytes after it. -/
theorem toBytes_withMode (inode : Inode) (mode : UInt16) :
    ({ inode with mode } : Inode).toBytes = leBytes 2 mode.toNat ++ inode.toBytes.drop 2 := by
  simp only [toBytes, List.append_assoc]
  rw [List.drop_left' (length_leBytes _ _)]

/-- A record's bytes are those of its mode followed by the rest. -/
theorem toBytes_eq_mode_append (inode : Inode) :
    inode.toBytes = leBytes 2 inode.mode.toNat ++ inode.toBytes.drop 2 :=
  toBytes_withMode inode inode.mode

/-- A record one byte away from a record sealed by `update_checksum` fails `is_valid`, whichever
byte it is: the checksum test fails whatever the other tests give. -/
theorem isValid_of_differ {inode corrupted : Inode} (now : UInt64)
    (differ : DifferAtOnePosition inode.updateChecksum.toBytes corrupted.toBytes) :
    corrupted.isValid now = false :=
  isValid_eq_false_of_ne now <| checksum_ne_of_differ
    (fun c => toBytes { inode with checksum := c }) (fun c => toBytes { corrupted with checksum := c })
    inode.toBytes_checksum corrupted.toBytes_checksum rfl differ

end Inode

end Dfs
