import Dfs.Checksum
import Dfs.History
import Mathlib.Data.String.Basic

/-!
# The superblock

`SuperBlock` of `core/superblock.h`, with the member functions `api/rest_server.h` defines for
it: the file system's geometry, its counters of free blocks and free inodes, two timestamps,
and a checksum over the whole record.

The record is `sizeof(SuperBlock) = 120` bytes on the targets the code is built for: seven
`uint32_t` fields, four bytes of alignment padding that put `last_mount_time` at offset 32, the
two `uint64_t` timestamps, `version`, `checksum` at offset 52, and the 64-byte array `padding`.
No member function writes the four alignment bytes: they hold whatever the memory held, and
`calculate_checksum` reads them with the rest. The model keeps them as a field, `gap`, read as
a little-endian word.

`initialize` computes `free_blocks = total_blocks - 1`, `inode_count = total_blocks / 4` and
`free_inodes = inode_count - 1` in 32-bit arithmetic, so below four blocks a subtraction wraps
to `2 ^ 32 - 1` (`initialize_wraps_below_four_blocks`). The four counter operations test their
counter before they change it, and every operation that changes the record reseals it with
`update_checksum`. From four blocks on the counters therefore stay within their bounds, and
from ten blocks, with a block size that is a power of two up to 65536, every reachable
superblock passes `is_valid` (`superblock_invariants`). The clock readings the operations take
with `std::time` are their arguments.
-/

namespace Dfs

/-- `struct SuperBlock`. `gap` is the alignment padding after `root_inode`. -/
structure SuperBlock where
  magicNumber : UInt32
  blockSize : UInt32
  totalBlocks : UInt32
  freeBlocks : UInt32
  inodeCount : UInt32
  freeInodes : UInt32
  rootInode : UInt32
  gap : UInt32
  lastMountTime : UInt64
  lastWriteTime : UInt64
  version : UInt32
  checksum : UInt32
  padding : List UInt8
  padding_length : padding.length = 64
  deriving DecidableEq

namespace SuperBlock

/-- `MAGIC_NUMBER`. -/
def magic : UInt32 := 0xDF5F0001

/-- `sizeof(SuperBlock)`. -/
def byteSize : ℕ := 120

/-- `SuperBlock()`: every field zero but `version`, which is 1. The alignment padding keeps
what the memory held. -/
def new (gap : UInt32) : SuperBlock :=
  ⟨0, 0, 0, 0, 0, 0, 0, gap, 0, 0, 1, 0, List.replicate 64 0, List.length_replicate _ _⟩

/-- The object representation of the superblock. -/
def toBytes (sb : SuperBlock) : List UInt8 :=
  leBytes 4 sb.magicNumber.toNat ++ leBytes 4 sb.blockSize.toNat ++
    leBytes 4 sb.totalBlocks.toNat ++ leBytes 4 sb.freeBlocks.toNat ++
    leBytes 4 sb.inodeCount.toNat ++ leBytes 4 sb.freeInodes.toNat ++
    leBytes 4 sb.rootInode.toNat ++ leBytes 4 sb.gap.toNat ++
    leBytes 8 sb.lastMountTime.toNat ++ leBytes 8 sb.lastWriteTime.toNat ++
    leBytes 4 sb.version.toNat ++ leBytes 4 sb.checksum.toNat ++ sb.padding

/-- The superblock whose object representation is `bytes`. -/
def ofBytes (bytes : List UInt8) : SuperBlock where
  magicNumber := UInt32.ofNat (field bytes 0 4)
  blockSize := UInt32.ofNat (field bytes 4 4)
  totalBlocks := UInt32.ofNat (field bytes 8 4)
  freeBlocks := UInt32.ofNat (field bytes 12 4)
  inodeCount := UInt32.ofNat (field bytes 16 4)
  freeInodes := UInt32.ofNat (field bytes 20 4)
  rootInode := UInt32.ofNat (field bytes 24 4)
  gap := UInt32.ofNat (field bytes 28 4)
  lastMountTime := UInt64.ofNat (field bytes 32 8)
  lastWriteTime := UInt64.ofNat (field bytes 40 8)
  version := UInt32.ofNat (field bytes 48 4)
  checksum := UInt32.ofNat (field bytes 52 4)
  padding := (List.range 64).map fun k => bytes.getD (56 + k) 0
  padding_length := by simp

/-- `calculate_checksum(data, size)`: the loop `crcStep` over the bytes, from `0`. -/
def calculateChecksum (bytes : List UInt8) : UInt32 := bytes.foldl crcStep 0

/-- `update_checksum()`: the checksum of the record with its checksum field zeroed. -/
def updateChecksum (sb : SuperBlock) : SuperBlock :=
  { sb with checksum := calculateChecksum { sb with checksum := 0 }.toBytes }

/-- `is_valid()`. -/
def isValid (sb : SuperBlock) : Bool :=
  if sb.magicNumber ≠ magic then false
  else if sb.blockSize = 0 ∨ sb.blockSize &&& (sb.blockSize - 1) ≠ 0 ∨ 65536 < sb.blockSize then
    false
  else if sb.totalBlocks = 0 ∨ sb.totalBlocks < 10 then false
  else if sb.inodeCount = 0 ∨ sb.totalBlocks < sb.inodeCount then false
  else if sb.totalBlocks < sb.freeBlocks then false
  else if sb.inodeCount < sb.freeInodes then false
  else if sb.rootInode = 0 ∨ sb.inodeCount ≤ sb.rootInode then false
  else if sb.version = 0 then false
  else sb.checksum == calculateChecksum { sb with checksum := 0 }.toBytes

/-- `initialize(total_blocks, block_size)` at the clock reading `now` (the name `initialize` is a
keyword of Lean). -/
def initializeWith (sb : SuperBlock) (totalBlocks blockSize : UInt32) (now : UInt64) :
    SuperBlock :=
  updateChecksum
    { sb with
      magicNumber := magic
      blockSize := blockSize
      totalBlocks := totalBlocks
      freeBlocks := totalBlocks - 1
      inodeCount := totalBlocks / 4
      freeInodes := totalBlocks / 4 - 1
      rootInode := 1
      version := 1
      lastMountTime := now
      lastWriteTime := now
      padding := List.replicate 64 0
      padding_length := List.length_replicate _ _ }

/-- The two counters of the superblock: the free blocks, at most `total_blocks`, and the free
inodes, at most `inode_count`. -/
inductive Counter where
  | blocks
  | inodes
  deriving DecidableEq

namespace Counter

/-- The counter's value. -/
def count : Counter → SuperBlock → UInt32
  | blocks, sb => sb.freeBlocks
  | inodes, sb => sb.freeInodes

/-- The bound `deallocate_*` keeps the counter under. -/
def bound : Counter → SuperBlock → UInt32
  | blocks, sb => sb.totalBlocks
  | inodes, sb => sb.inodeCount

/-- The superblock with the counter set to `n`. -/
def set : Counter → SuperBlock → UInt32 → SuperBlock
  | blocks, sb, n => { sb with freeBlocks := n }
  | inodes, sb, n => { sb with freeInodes := n }

end Counter

/-- `allocate_block()` and `allocate_inode()` at `now`: refused when the counter is 0, else
the counter is lowered, the write time set and the record resealed. -/
def take (c : Counter) (sb : SuperBlock) (now : UInt64) : Bool × SuperBlock :=
  if c.count sb = 0 then (false, sb)
  else (true, updateChecksum { c.set sb (c.count sb - 1) with lastWriteTime := now })

/-- `deallocate_block()` and `deallocate_inode()` at `now`: refused when the counter is at
its bound, else the counter is raised, the write time set and the record resealed. -/
def give (c : Counter) (sb : SuperBlock) (now : UInt64) : Bool × SuperBlock :=
  if c.bound sb ≤ c.count sb then (false, sb)
  else (true, updateChecksum { c.set sb (c.count sb + 1) with lastWriteTime := now })

/-- `allocate_block()`. -/
def allocateBlock (sb : SuperBlock) (now : UInt64) : Bool × SuperBlock := take .blocks sb now

/-- `deallocate_block()`. -/
def deallocateBlock (sb : SuperBlock) (now : UInt64) : Bool × SuperBlock := give .blocks sb now

/-- `allocate_inode()`. -/
def allocateInode (sb : SuperBlock) (now : UInt64) : Bool × SuperBlock := take .inodes sb now

/-- `deallocate_inode()`. -/
def deallocateInode (sb : SuperBlock) (now : UInt64) : Bool × SuperBlock := give .inodes sb now

/-- `update_mount_time()` at `now`. -/
def updateMountTime (sb : SuperBlock) (now : UInt64) : SuperBlock :=
  updateChecksum { sb with lastMountTime := now }

/-- `serialize(file)` at `now`: the record is written, and then `last_write_time` is set
through a `const_cast` without resealing the checksum. -/
def serialize (sb : SuperBlock) (file : OStream) (now : UInt64) :
    Except Error OStream × SuperBlock :=
  if !file.isOpen then (.error (.fileSystem "Cannot serialize SuperBlock: file not open"), sb)
  else
    let file := file.write sb.toBytes
    if file.failbit then (.error (.fileSystem "Failed to serialize SuperBlock"), sb)
    else (.ok file, { sb with lastWriteTime := now })

/-- `file.read(reinterpret_cast<char*>(this), sizeof(SuperBlock))` having got the bytes `got`:
the first bytes of the record replaced by them. -/
def load (got : List UInt8) (old : SuperBlock) : SuperBlock :=
  ofBytes (got ++ old.toBytes.drop got.length)

/-- `deserialize(file)`: the record is read over the superblock, and then checked. A short
read or a record that fails `is_valid` throws with the superblock already overwritten. -/
def deserialize (sb : SuperBlock) (file : IStream) : Except Error Unit × SuperBlock × IStream :=
  if !file.isOpen then
    (.error (.fileSystem "Cannot deserialize SuperBlock: file not open"), sb, file)
  else
    let got := file.read byteSize
    let loaded := load got.1 sb
    if got.2.failbit || got.2.gcount != byteSize then
      (.error (.fileSystem "Failed to deserialize SuperBlock"), loaded, got.2)
    else if !loaded.isValid then
      (.error (.fileSystemCorrupted "Deserialized SuperBlock is invalid"), loaded, got.2)
    else (.ok (), loaded, got.2)

end SuperBlock

/-- The calls that change a superblock after `initialize`, each with its clock reading. -/
inductive SuperBlockCall where
  | allocateBlock (now : UInt64)
  | deallocateBlock (now : UInt64)
  | allocateInode (now : UInt64)
  | deallocateInode (now : UInt64)
  | updateMountTime (now : UInt64)

namespace SuperBlock

/-- One call: what it returned (nothing for `update_mount_time`) and the superblock after. -/
def call (sb : SuperBlock) : SuperBlockCall → Option Bool × SuperBlock
  | .allocateBlock now => ((sb.allocateBlock now).1, (sb.allocateBlock now).2)
  | .deallocateBlock now => ((sb.deallocateBlock now).1, (sb.deallocateBlock now).2)
  | .allocateInode now => ((sb.allocateInode now).1, (sb.allocateInode now).2)
  | .deallocateInode now => ((sb.deallocateInode now).1, (sb.deallocateInode now).2)
  | .updateMountTime now => (none, sb.updateMountTime now)

section Words

theorem UInt32.le_iff_toNat_le {a b : UInt32} : a ≤ b ↔ a.toNat ≤ b.toNat := Iff.rfl

theorem UInt32.lt_iff_toNat_lt {a b : UInt32} : a < b ↔ a.toNat < b.toNat := Iff.rfl

theorem UInt32.toNat_ne_zero {a : UInt32} (nonzero : a ≠ 0) : a.toNat ≠ 0 :=
  fun zero => nonzero (UInt32.toNat.inj zero)

theorem UInt32.sub_one_le {a b : UInt32} (nonzero : a ≠ 0) (le : a ≤ b) : a - 1 ≤ b := by
  have positive := UInt32.toNat_ne_zero nonzero
  rw [UInt32.le_iff_toNat_le, UInt32.toNat_sub_of_le a 1 (UInt32.le_iff_toNat_le.mpr (by
    show 1 ≤ a.toNat
    omega))]
  exact Nat.le_trans (Nat.sub_le _ _) le

theorem UInt32.add_one_le {a b : UInt32} (below : a < b) : a + 1 ≤ b := by
  have fits : b.toNat < 2 ^ 32 := b.toBitVec.isLt
  have lt : a.toNat < b.toNat := below
  show (a.toBitVec + 1#32).toNat ≤ b.toNat
  rw [BitVec.toNat_add, Nat.mod_eq_of_lt (by show a.toNat + 1 < 2 ^ 32; omega)]
  exact lt

end Words

namespace Counter

variable (c c' : Counter) (sb : SuperBlock) (n : UInt32) (now : UInt64)

@[simp]
theorem count_set_self : c.count (c.set sb n) = n := by cases c <;> rfl

theorem count_set_of_ne {c c' : Counter} (other : c' ≠ c) : c'.count (c.set sb n) = c'.count sb := by
  cases c <;> cases c' <;> first | rfl | exact absurd rfl other

@[simp]
theorem bound_set : c'.bound (c.set sb n) = c'.bound sb := by cases c <;> cases c' <;> rfl

/-- Stamping the write time and resealing changes no counter. -/
@[simp]
theorem count_stamp :
    c'.count (updateChecksum { c.set sb n with lastWriteTime := now }) = c'.count (c.set sb n) := by
  cases c <;> cases c' <;> rfl

@[simp]
theorem bound_stamp :
    c'.bound (updateChecksum { c.set sb n with lastWriteTime := now }) = c'.bound sb := by
  cases c <;> cases c' <;> rfl

end Counter

/-- The fields no call after `initialize` changes, as `initialize` set them. -/
structure Geometry (sb : SuperBlock) (totalBlocks blockSize : UInt32) : Prop where
  magic_eq : sb.magicNumber = magic
  blockSize_eq : sb.blockSize = blockSize
  totalBlocks_eq : sb.totalBlocks = totalBlocks
  inodeCount_eq : sb.inodeCount = totalBlocks / 4
  rootInode_eq : sb.rootInode = 1
  version_eq : sb.version = 1

/-- Both counters within their bounds. -/
def Bounded (sb : SuperBlock) : Prop := ∀ c : Counter, c.count sb ≤ c.bound sb

/-- The stored checksum is the one `update_checksum` computes. -/
def Sealed (sb : SuperBlock) : Prop :=
  sb.checksum = calculateChecksum { sb with checksum := 0 }.toBytes

variable {sb : SuperBlock} {totalBlocks blockSize : UInt32}

theorem sealed_updateChecksum (sb : SuperBlock) : Sealed sb.updateChecksum := by
  unfold Sealed updateChecksum
  dsimp only

theorem geometry_initializeWith (sb : SuperBlock) (now : UInt64) :
    Geometry (sb.initializeWith totalBlocks blockSize now) totalBlocks blockSize :=
  ⟨rfl, rfl, rfl, rfl, rfl, rfl⟩

/-- A counter set, the write time stamped and the record resealed: the geometry stays. -/
theorem Geometry.stamp (geometry : Geometry sb totalBlocks blockSize) (c : Counter) (n : UInt32)
    (now : UInt64) :
    Geometry (updateChecksum { c.set sb n with lastWriteTime := now }) totalBlocks blockSize := by
  obtain ⟨magic, size, total, inodes, root, version⟩ := geometry
  cases c <;> exact ⟨magic, size, total, inodes, root, version⟩

theorem Geometry.call (geometry : Geometry sb totalBlocks blockSize) (c : SuperBlockCall) :
    Geometry (sb.call c).2 totalBlocks blockSize := by
  cases c with
  | updateMountTime now =>
    obtain ⟨magic, size, total, inodes, root, version⟩ := geometry
    exact ⟨magic, size, total, inodes, root, version⟩
  | _ now =>
    simp only [SuperBlock.call, allocateBlock, deallocateBlock, allocateInode, deallocateInode,
      take, give]
    split
    · exact geometry
    · exact geometry.stamp _ _ now

theorem sealed_call (sealed : Sealed sb) (c : SuperBlockCall) : Sealed (sb.call c).2 := by
  cases c with
  | updateMountTime now => exact sealed_updateChecksum _
  | _ now =>
    simp only [SuperBlock.call, allocateBlock, deallocateBlock, allocateInode, deallocateInode,
      take, give]
    split
    · exact sealed
    · exact sealed_updateChecksum _

theorem Bounded.take (bounded : Bounded sb) (c : Counter) (now : UInt64) :
    Bounded (take c sb now).2 := by
  unfold SuperBlock.take
  split
  · exact bounded
  · rename_i nonzero
    intro c'
    rw [Counter.count_stamp, Counter.bound_stamp]
    by_cases same : c' = c
    · subst same
      rw [Counter.count_set_self]
      exact UInt32.sub_one_le nonzero (bounded c')
    · rw [Counter.count_set_of_ne _ _ same]
      exact bounded c'

theorem Bounded.give (bounded : Bounded sb) (c : Counter) (now : UInt64) :
    Bounded (give c sb now).2 := by
  unfold SuperBlock.give
  split
  · exact bounded
  · rename_i notFull
    intro c'
    rw [Counter.count_stamp, Counter.bound_stamp]
    by_cases same : c' = c
    · subst same
      rw [Counter.count_set_self]
      exact UInt32.add_one_le (UInt32.not_le.mp notFull)
    · rw [Counter.count_set_of_ne _ _ same]
      exact bounded c'

theorem Bounded.call (bounded : Bounded sb) (c : SuperBlockCall) : Bounded (sb.call c).2 := by
  cases c with
  | allocateBlock now => exact bounded.take .blocks now
  | deallocateBlock now => exact bounded.give .blocks now
  | allocateInode now => exact bounded.take .inodes now
  | deallocateInode now => exact bounded.give .inodes now
  | updateMountTime now =>
    intro c
    cases c
    exacts [bounded .blocks, bounded .inodes]

/-- `initialize` keeps both counters within their bounds from four blocks on. -/
theorem bounded_initializeWith (sb : SuperBlock) (now : UInt64) (fourLe : 4 ≤ totalBlocks.toNat) :
    Bounded (sb.initializeWith totalBlocks blockSize now) := by
  have quarter : (totalBlocks / 4).toNat = totalBlocks.toNat / 4 := UInt32.toNat_div _ _
  intro c
  cases c
  · exact UInt32.sub_one_le (fun zero => by rw [zero] at fourLe; exact absurd fourLe (by decide))
      (UInt32.le_refl _)
  · exact UInt32.sub_one_le (fun zero => by rw [zero] at quarter; simp at quarter; omega)
      (UInt32.le_refl _)

/-- A reachable superblock of at least ten blocks, with a block size that is a power of two up
to 65536, passes `is_valid`. -/
theorem isValid_of_geometry (geometry : Geometry sb totalBlocks blockSize) (bounded : Bounded sb)
    (sealed : Sealed sb) (tenLe : 10 ≤ totalBlocks.toNat) (powerOfTwo : ∃ k, blockSize.toNat = 2 ^ k)
    (small : blockSize.toNat ≤ 65536) : sb.isValid = true := by
  obtain ⟨magic, size, total, inodes, root, version⟩ := geometry
  obtain ⟨k, sizeEq⟩ := powerOfTwo
  have quarter : (totalBlocks / 4).toNat = totalBlocks.toNat / 4 := UInt32.toNat_div _ _
  have positive : 0 < blockSize.toNat := sizeEq ▸ Nat.pos_pow_of_pos k (by decide)
  have aligned : blockSize &&& (blockSize - 1) = 0 := by
    apply UInt32.toNat.inj
    rw [UInt32.and_toNat, UInt32.toNat_sub_of_le _ _ (UInt32.le_iff_toNat_le.mpr (by
      show 1 ≤ blockSize.toNat
      omega)), sizeEq]
    exact (Nat.and_pow_two_sub_one_eq_mod _ k).trans (Nat.mod_self _)
  have blocksLe := bounded .blocks
  have inodesLe := bounded .inodes
  simp only [Counter.count, Counter.bound] at blocksLe inodesLe
  unfold isValid
  rw [if_neg (not_not.mpr magic), if_neg, if_neg, if_neg, if_neg (UInt32.not_lt.mpr blocksLe),
    if_neg (UInt32.not_lt.mpr inodesLe), if_neg, if_neg, beq_iff_eq]
  · exact sealed
  all_goals
    simp only [size, total, inodes, root, version, aligned, UInt32.ext_iff,
      UInt32.lt_iff_toNat_lt, UInt32.le_iff_toNat_le, quarter, UInt32.toNat_zero, ne_eq,
      not_true_eq_false, false_or,
      show (1 : UInt32).toNat = 1 from rfl, show (10 : UInt32).toNat = 10 from rfl,
      show (65536 : UInt32).toNat = 65536 from rfl]
    omega

/-- The checksum field sits at offset 52, between bytes that do not depend on it. -/
theorem toBytes_checksum (sb : SuperBlock) :
    ∃ front back : List UInt8, front.length = 52 ∧
      ∀ c : UInt32, { sb with checksum := c }.toBytes = front ++ leBytes 4 c.toNat ++ back :=
  ⟨leBytes 4 sb.magicNumber.toNat ++ leBytes 4 sb.blockSize.toNat ++
      leBytes 4 sb.totalBlocks.toNat ++ leBytes 4 sb.freeBlocks.toNat ++
      leBytes 4 sb.inodeCount.toNat ++ leBytes 4 sb.freeInodes.toNat ++
      leBytes 4 sb.rootInode.toNat ++ leBytes 4 sb.gap.toNat ++
      leBytes 8 sb.lastMountTime.toNat ++ leBytes 8 sb.lastWriteTime.toNat ++
      leBytes 4 sb.version.toNat, sb.padding, by simp, fun _ => rfl⟩

/-- `is_valid` fails on a superblock whose stored checksum is not the one it computes. -/
theorem isValid_eq_false_of_ne {sb : SuperBlock}
    (unsealed : sb.checksum ≠ calculateChecksum { sb with checksum := 0 }.toBytes) :
    sb.isValid = false := by
  unfold isValid
  simp only [beq_eq_false_iff_ne.mpr unsealed, ite_self]

/-- A superblock one byte away from one sealed by `update_checksum` fails `is_valid`, whichever
byte it is. -/
theorem isValid_of_differ {sb corrupted : SuperBlock}
    (differ : DifferAtOnePosition sb.updateChecksum.toBytes corrupted.toBytes) :
    corrupted.isValid = false :=
  isValid_eq_false_of_ne <| checksum_ne_of_differ
    (fun c => toBytes { sb with checksum := c }) (fun c => toBytes { corrupted with checksum := c })
    sb.toBytes_checksum corrupted.toBytes_checksum rfl differ

theorem take_eq_false_iff (c : Counter) (sb : SuperBlock) (now : UInt64) :
    (take c sb now).1 = false ↔ c.count sb = 0 := by
  unfold SuperBlock.take
  split <;> simp_all

theorem take_of_eq_false {c : Counter} {sb : SuperBlock} {now : UInt64}
    (refused : (take c sb now).1 = false) : (take c sb now).2 = sb := by
  unfold SuperBlock.take at refused ⊢
  split
  · rfl
  · simp_all

end SuperBlock

open SuperBlock in
/-- Every superblock reachable from `initialize(total_blocks, block_size)` by the counter
operations and `update_mount_time`: from four blocks on both counters are within their bounds;
an allocation is refused exactly when its counter is 0, and a refused one changes nothing; the
stored checksum is the one `update_checksum` computes; and from ten blocks, with a block size
that is a power of two up to 65536, it passes `is_valid`. -/
theorem superblock_invariants (sb₀ : SuperBlock) (totalBlocks blockSize : UInt32) (now : UInt64)
    (calls : List SuperBlockCall) :
    let sb := run SuperBlock.call (sb₀.initializeWith totalBlocks blockSize now) calls
    (4 ≤ totalBlocks.toNat → sb.freeBlocks ≤ sb.totalBlocks ∧ sb.freeInodes ≤ sb.inodeCount) ∧
      (∀ now' : UInt64,
        ((sb.allocateBlock now').1 = false ↔ sb.freeBlocks = 0) ∧
        ((sb.allocateBlock now').1 = false → (sb.allocateBlock now').2 = sb) ∧
        ((sb.allocateInode now').1 = false ↔ sb.freeInodes = 0) ∧
        ((sb.allocateInode now').1 = false → (sb.allocateInode now').2 = sb)) ∧
      sb.checksum = calculateChecksum { sb with checksum := 0 }.toBytes ∧
      (10 ≤ totalBlocks.toNat → (∃ k, blockSize.toNat = 2 ^ k) → blockSize.toNat ≤ 65536 →
        sb.isValid = true) := by
  intro sb
  have geometry : Geometry sb totalBlocks blockSize :=
    run_of_keeps SuperBlock.call (Geometry · totalBlocks blockSize) (fun _ c kept => kept.call c)
      _ calls (geometry_initializeWith sb₀ now)
  have sealed : Sealed sb :=
    run_of_keeps SuperBlock.call Sealed (fun _ c kept => sealed_call kept c) _ calls
      (sealed_updateChecksum _)
  have bounded (fourLe : 4 ≤ totalBlocks.toNat) : Bounded sb :=
    run_of_keeps SuperBlock.call Bounded (fun _ c kept => kept.call c) _ calls
      (bounded_initializeWith sb₀ now fourLe)
  refine ⟨fun fourLe => ⟨bounded fourLe .blocks, bounded fourLe .inodes⟩, fun now' =>
    ⟨take_eq_false_iff .blocks sb now', take_of_eq_false, take_eq_false_iff .inodes sb now',
      take_of_eq_false⟩, sealed, fun tenLe => isValid_of_geometry geometry (bounded (by omega))
      sealed tenLe⟩

/-- Below four blocks `initialize` wraps a counter: with no block, `free_blocks` is
`0 - 1 = 2 ^ 32 - 1` and so is `free_inodes`; with three, `inode_count` is 0 and `free_inodes`
is `2 ^ 32 - 1`. -/
theorem initialize_wraps_below_four_blocks :
    ((SuperBlock.new 0).initializeWith 0 4096 0).freeBlocks = 4294967295 ∧
      ((SuperBlock.new 0).initializeWith 0 4096 0).totalBlocks = 0 ∧
      ((SuperBlock.new 0).initializeWith 3 4096 0).freeInodes = 4294967295 ∧
      ((SuperBlock.new 0).initializeWith 3 4096 0).inodeCount = 0 := by
  decide

end Dfs
