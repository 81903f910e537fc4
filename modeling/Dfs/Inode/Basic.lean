import Dfs.Bitmap
import Dfs.Checksum

/-!
# Inodes and the inode table

`struct Inode` and `InodeTable` of `core/inode.h` and `core/inode.cpp`.

An inode goes to disk as its object representation: `InodeTable::serialize` writes the
`sizeof(Inode)` bytes of each record and `deserialize` reads them back over the record.
On the little-endian targets the code is built for, the 152 bytes are the fields in
declaration order, each little-endian, with two bytes of alignment padding after `gid` so
that `size` sits at offset 8. Those two bytes have no specified value; the model writes
them as zero and ignores them on reading.

The table keeps the records, a free bitmap with one bit per record, `true` for a free
inode, and the rotating hint `next_free_inode_` at which `allocate_inode` starts. The
constructor marks inode 0 (invalid) and inode 1 (the root) used. `allocate_inode` searches
from the hint to the end of the bitmap, then from inode 1 up to the hint, each with the
loop `firstFree`; a subscript past the end of the bitmap is the outcome
`Error.outOfBounds`. The sizes are `uint32_t` values, so `(i + 1) % free_inodes_.size()`
cannot wrap and is computed on naturals.
-/

namespace Dfs

/-- `struct Inode`. -/
structure Inode where
  mode : UInt16
  uid : UInt16
  gid : UInt16
  size : UInt64
  blocks : UInt64
  atime : UInt64
  mtime : UInt64
  ctime : UInt64
  directBlocks : List UInt32
  indirectBlock : UInt32
  doubleIndirect : UInt32
  tripleIndirect : UInt32
  replicationCount : UInt32
  checksum : UInt32
  linkCount : UInt32
  padding : List UInt8
  directBlocks_length : directBlocks.length = 12
  padding_length : padding.length = 32
  deriving DecidableEq

namespace Inode

/-- `Inode()`: every field zero but `replication_count`, which is 1. -/
def default : Inode where
  mode := 0
  uid := 0
  gid := 0
  size := 0
  blocks := 0
  atime := 0
  mtime := 0
  ctime := 0
  directBlocks := List.replicate 12 0
  indirectBlock := 0
  doubleIndirect := 0
  tripleIndirect := 0
  replicationCount := 1
  checksum := 0
  linkCount := 0
  padding := List.replicate 32 0
  directBlocks_length := List.length_replicate _ _
  padding_length := List.length_replicate _ _

/-- `sizeof(Inode)`. -/
def byteSize : ℕ := 152

/-- The object representation of an inode. -/
def toBytes (inode : Inode) : List UInt8 :=
  leBytes 2 inode.mode.toNat ++ leBytes 2 inode.uid.toNat ++ leBytes 2 inode.gid.toNat ++
    [0, 0] ++ leBytes 8 inode.size.toNat ++ leBytes 8 inode.blocks.toNat ++
    leBytes 8 inode.atime.toNat ++ leBytes 8 inode.mtime.toNat ++ leBytes 8 inode.ctime.toNat ++
    inode.directBlocks.flatMap (fun block => leBytes 4 block.toNat) ++
    leBytes 4 inode.indirectBlock.toNat ++ leBytes 4 inode.doubleIndirect.toNat ++
    leBytes 4 inode.tripleIndirect.toNat ++ leBytes 4 inode.replicationCount.toNat ++
    leBytes 4 inode.checksum.toNat ++ leBytes 4 inode.linkCount.toNat ++ inode.padding

/-- The record whose object representation is `bytes`. -/
def ofBytes (bytes : List UInt8) : Inode where
  mode := UInt16.ofNat (field bytes 0 2)
  uid := UInt16.ofNat (field bytes 2 2)
  gid := UInt16.ofNat (field bytes 4 2)
  size := UInt64.ofNat (field bytes 8 8)
  blocks := UInt64.ofNat (field bytes 16 8)
  atime := UInt64.ofNat (field bytes 24 8)
  mtime := UInt64.ofNat (field bytes 32 8)
  ctime := UInt64.ofNat (field bytes 40 8)
  directBlocks := (List.range 12).map fun k => UInt32.ofNat (field bytes (48 + 4 * k) 4)
  indirectBlock := UInt32.ofNat (field bytes 96 4)
  doubleIndirect := UInt32.ofNat (field bytes 100 4)
  tripleIndirect := UInt32.ofNat (field bytes 104 4)
  replicationCount := UInt32.ofNat (field bytes 108 4)
  checksum := UInt32.ofNat (field bytes 112 4)
  linkCount := UInt32.ofNat (field bytes 116 4)
  padding := (List.range 32).map fun k => bytes.getD (120 + k) 0
  directBlocks_length := by simp
  padding_length := by simp

/-- `file.read(reinterpret_cast<char*>(&inode), sizeof(Inode))` having got the bytes `got`:
the first bytes of the record replaced by them. -/
def load (got : List UInt8) (old : Inode) : Inode :=
  ofBytes (got ++ old.toBytes.drop got.length)

/-- `calculate_checksum(data, size)`: the loop `crcStep` over the bytes, from `0`. -/
def calculateChecksum (bytes : List UInt8) : UInt32 := bytes.foldl crcStep 0

/-- `update_checksum()`: the checksum of the record with its checksum field zeroed. -/
def updateChecksum (inode : Inode) : Inode :=
  { inode with checksum := calculateChecksum { inode with checksum := 0 }.toBytes }

/-- `is_valid()` at the clock reading `now`. `size` and `blocks` are unsigned, so its tests
`size < 0` and `blocks < 0` never fail and are left out. -/
def isValid (inode : Inode) (now : UInt64) : Bool :=
  if inode.mode = 0 then false
  else if inode.linkCount = 0 then false
  else if now < inode.atime ∨ now < inode.mtime ∨ now < inode.ctime then false
  else inode.checksum == calculateChecksum { inode with checksum := 0 }.toBytes

end Inode

/-- The state of an `InodeTable`. The bitmap always has one bit per record: the constructor
and `deserialize` size both alike, and every other update sets an element in place. -/
structure InodeTable where
  inodes : List Inode
  freeInodes : List Bool
  nextFreeInode : ℕ
  freeInodes_length : freeInodes.length = inodes.length

namespace InodeTable

/-- `InodeTable(max_inodes)`: every inode free but inodes 0 and 1, and the hint on 1. -/
def new (maxInodes : ℕ) : InodeTable where
  inodes := List.replicate maxInodes Inode.default
  freeInodes := ((List.replicate maxInodes true).set 0 false).set 1 false
  nextFreeInode := 1
  freeInodes_length := by simp

/-- `is_inode_free(inode_num)`. -/
def isInodeFree (t : InodeTable) (inodeNum : ℕ) : Bool :=
  if t.freeInodes.length ≤ inodeNum then false else t.freeInodes.getD inodeNum false

/-- `get_free_inode_count()`. -/
def getFreeInodeCount (t : InodeTable) : ℕ := t.freeInodes.count true

/-- `get_total_inode_count()`. -/
def getTotalInodeCount (t : InodeTable) : ℕ := t.inodes.length

/-- Mark the inode a search of `allocate_inode` found used and move the hint past it. -/
def takeInode (t : InodeTable) (inodeNum : ℕ) : InodeTable where
  inodes := t.inodes
  freeInodes := t.freeInodes.set inodeNum false
  nextFreeInode := (inodeNum + 1) % t.freeInodes.length
  freeInodes_length := by rw [List.length_set, t.freeInodes_length]

/-- `allocate_inode()`. When no inode is found, building `InsufficientSpaceException` calls
`get_free_inode_count()` under the held lock. -/
def allocateInode (t : InodeTable) : Except Error ℕ × InodeTable :=
  match firstFree t.freeInodes t.nextFreeInode (t.freeInodes.length - t.nextFreeInode) with
  | .error e => (.error e, t)
  | .ok (some inodeNum) => (.ok inodeNum, t.takeInode inodeNum)
  | .ok none =>
    match firstFree t.freeInodes 1 (t.nextFreeInode - 1) with
    | .error e => (.error e, t)
    | .ok (some inodeNum) => (.ok inodeNum, t.takeInode inodeNum)
    | .ok none => (.error .selfDeadlock, t)

/-- `deallocate_inode(inode_num)`: an out-of-range number throws, a free inode is left alone
with a warning, and a used one is freed and its record reset to `Inode()`. -/
def deallocateInode (t : InodeTable) (inodeNum : ℕ) : Except Error Unit × InodeTable :=
  if t.freeInodes.length ≤ inodeNum then (.error (.inodeNotFound inodeNum), t)
  else if t.freeInodes.getD inodeNum false then (.ok (), t)
  else
    (.ok (),
      { inodes := t.inodes.set inodeNum Inode.default
        freeInodes := t.freeInodes.set inodeNum true
        nextFreeInode := t.nextFreeInode
        freeInodes_length := by simp [t.freeInodes_length] })

/-- `get_inode(inode_num)`: the record of a used inode. -/
def getInode (t : InodeTable) (inodeNum : ℕ) : Except Error Inode :=
  if t.inodes.length ≤ inodeNum then .error (.inodeNotFound inodeNum)
  else if t.freeInodes.getD inodeNum false then .error (.inodeNotFound inodeNum)
  else .ok (t.inodes.getD inodeNum Inode.default)

/-- `serialize(file)`: the number of inodes as a `uint32_t`, each record, then one byte per
bit of the bitmap. -/
def serialize (t : InodeTable) (file : OStream) : Except Error OStream :=
  if !file.isOpen then .error (.fileSystem "Cannot serialize InodeTable: file not open")
  else
    let file := file.write (leBytes 4 t.inodes.length)
    let file := t.inodes.foldl (fun file inode => file.write inode.toBytes) file
    let file := t.freeInodes.foldl (fun file free => file.write [if free then 1 else 0]) file
    if file.failbit then .error (.fileSystem "Failed to serialize InodeTable") else .ok file

/-- `deserialize(file)`: the number of inodes, to which both vectors are resized, then the
records, then one byte per bit. The hint is left as it was. Records read before a short
read are already overwritten when it throws. As in `deserialize_bitmap`, the bitmap loop
binds `auto&` to the elements of a `std::vector<bool>`, which does not compile; the model
takes the form that does, `auto&&`, under which each byte is read into a proxy object and the
resized bitmap keeps its bits (`readIntoProxy`). -/
def deserialize (t : InodeTable) (file : IStream) : Except Error Unit × InodeTable × IStream :=
  if !file.isOpen then
    (.error (.fileSystem "Cannot deserialize InodeTable: file not open"), t, file)
  else
    let header := file.read 4
    if header.2.failbit || header.2.gcount != 4 then
      (.error (.fileSystem "Failed to deserialize InodeTable inode count"), t, header.2)
    else
      let inodeCount := leValue header.1
      let bits := resize t.freeInodes inodeCount false
      let records := readElements Inode.byteSize Inode.load header.2
        (resize t.inodes inodeCount Inode.default)
      let withRecords : InodeTable :=
        { inodes := records.2.1
          freeInodes := bits
          nextFreeInode := t.nextFreeInode
          freeInodes_length := (length_resize _ _ _).trans
            ((length_readElements _ _ _ _).trans (length_resize _ _ _)).symm }
      if !records.1 then
        (.error (.fileSystem "Failed to deserialize InodeTable inode"), withRecords, records.2.2)
      else
        let read := readElements 1 readIntoProxy records.2.2 bits
        let loaded : InodeTable :=
          { withRecords with
            freeInodes := read.2.1
            freeInodes_length := (length_readElements _ _ _ _).trans withRecords.freeInodes_length }
        if read.1 then (.ok (), loaded, read.2.2)
        else (.error (.fileSystem "Failed to deserialize InodeTable bitmap"), loaded, read.2.2)

end InodeTable

end Dfs
