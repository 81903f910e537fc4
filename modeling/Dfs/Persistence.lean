import Dfs.Inode.Layout
import Dfs.Inode.Spec
import Dfs.Inode.Metadata
import Dfs.BlockManager.Basic
import Dfs.SuperBlock

/-!
# Saving and loading

What the on-disk images of the allocation state and of the superblock carry across a save and
a load.

`InodeTable::serialize` and `BlockManager::serialize_bitmap` write a count as a `uint32_t`
followed by the elements, and the deserializers read the count and then the elements back.
Every table the code builds has fewer than `2 ^ 32` records, since its constructor and
`deserialize` take the size as a `uint32_t`, and every bitmap has `total_blocks` bits, a
`uint32_t`. For these the load consumes exactly the bytes that were written and restores the
records, but neither bitmap: the bitmap loops read each byte into a `std::vector<bool>` proxy
(`readIntoProxy`), so a loaded table keeps the bits of the table it was loaded over, resized
to the count, and `deserialize_bitmap` changes nothing at all.

Loading the table or the superblock is not atomic. `deserialize` resizes the table before it
reads the first record and reads the records in place, and `SuperBlock::deserialize` reads the
whole record before it checks it: a load that throws leaves what it had read.
`deserialize_bitmap`, which changes nothing, is atomic.

The checksums of inodes and superblocks catch every corruption of a single byte of a sealed
record, by the lemmas of `Dfs.Checksum` on the layouts of `Dfs.Inode.Layout` and
`Dfs.SuperBlock`.
-/

namespace Dfs

/-- `file.write(&is_free, sizeof(bool))`: one byte per bit. -/
def encodeBool (free : Bool) : UInt8 := if free then 1 else 0

namespace InodeTable

variable (t : InodeTable)

/-- `serialize` on an open stream that has not failed appends the count, the records and the
bitmap. -/
theorem serialize_of_ok {file : OStream} (isOpen : file.isOpen) (ok : file.failbit = false) :
    t.serialize file = .ok { file with written := file.written ++
      (leBytes 4 t.inodes.length ++ (t.inodes.map Inode.toBytes).flatten ++
        t.freeInodes.map encodeBool) } := by
  simp only [serialize, isOpen, Bool.not_true, Bool.false_eq_true, if_false]
  rw [OStream.foldl_write, OStream.foldl_write, List.map_eq_flatMap encodeBool, ← List.flatMap_def]
  simp [OStream.write, isOpen, ok, encodeBool]

/-- `deserialize` on the image of a table restores its records, whatever the table it reads
over, keeps that table's bits resized to the count, and stops after the image. -/
theorem deserialize_of_serialized (t₀ : InodeTable) (file : IStream) (rest : List UInt8)
    (fits : t.inodes.length < 2 ^ 32) (isOpen : file.isOpen) (good : file.good)
    (stored : file.rest = leBytes 4 t.inodes.length ++ (t.inodes.map Inode.toBytes).flatten ++
      t.freeInodes.map encodeBool ++ rest) :
    (t₀.deserialize file).1 = .ok () ∧ (t₀.deserialize file).2.1.inodes = t.inodes ∧
      (t₀.deserialize file).2.1.freeInodes = resize t₀.freeInodes t.inodes.length false ∧
      (t₀.deserialize file).2.2.rest = rest := by
  obtain ⟨loaded, records, bits, -, -, left⟩ := t₀.deserialize_of_records file
    (t.inodes.map Inode.toBytes) (t.freeInodes.map encodeBool) rest isOpen good
    (by simp) (by simp [t.freeInodes_length]) (by simpa using fits) (by simpa using stored)
  refine ⟨loaded, ?_, by rw [bits, List.length_map], left⟩
  rw [records, List.length_map]
  exact zipWith_map_of_load _ _ Inode.load_toBytes _ _ (length_resize _ _ _)

end InodeTable

namespace BlockManager

variable (m : BlockManager)

/-- `serialize_bitmap` on an open stream that has not failed appends the size and the bits. -/
theorem serializeBitmap_of_ok {file : OStream} (isOpen : file.isOpen) (ok : file.failbit = false) :
    m.serializeBitmap file = .ok { file with written := file.written ++
      (leBytes 4 m.totalBlocks ++ m.blockBitmap.map encodeBool) } := by
  simp only [serializeBitmap, isOpen, Bool.not_true, Bool.false_eq_true, if_false]
  rw [OStream.foldl_write, List.map_eq_flatMap encodeBool]
  simp [OStream.write, isOpen, ok, encodeBool, m.blockBitmap_length]

/-- The size header of the bitmap read back. -/
theorem read_header {file : IStream} {count : ℕ} {bits : List UInt8} (good : file.good)
    (stored : file.rest = leBytes 4 count ++ bits) :
    file.read 4 = (leBytes 4 count,
      { file with rest := bits, gcount := 4, failbit := false, eofbit := false }) := by
  rw [IStream.read_of_le good (by simp [stored]), stored, List.take_left' (length_leBytes _ _),
    List.drop_left' (length_leBytes _ _)]

/-- `deserialize_bitmap` changes nothing, whatever the stream: the size it checks equals the
bitmap's, and each byte is read into a proxy. -/
@[simp]
theorem deserializeBitmap_keeps (file : IStream) : (m.deserializeBitmap file).2.1 = m := by
  unfold deserializeBitmap
  split
  · rfl
  dsimp only
  split
  · rfl
  split
  · rfl
  split <;> simp

/-- `deserialize_bitmap` on the image of a bitmap of the same size returns and stops after the
image. -/
theorem deserializeBitmap_of_serialized (m₀ : BlockManager) (file : IStream) (rest : List UInt8)
    (fits : m.totalBlocks < 2 ^ 32) (sameSize : m₀.totalBlocks = m.totalBlocks)
    (isOpen : file.isOpen) (good : file.good)
    (stored : file.rest = leBytes 4 m.totalBlocks ++ m.blockBitmap.map encodeBool ++ rest) :
    (m₀.deserializeBitmap file).1 = .ok () ∧ (m₀.deserializeBitmap file).2.2.rest = rest := by
  have counted : leValue (leBytes 4 m.totalBlocks) = m.totalBlocks := by
    rw [leValue_leBytes]
    exact Nat.mod_eq_of_lt (by simpa using fits)
  have chunked : m.blockBitmap.map encodeBool ++ rest =
      (m.blockBitmap.map fun free => [encodeBool free]).flatten ++ rest := by
    rw [List.map_eq_flatMap]
    rfl
  obtain ⟨done, -, -, left⟩ := readElements_of_chunks 1 readIntoProxy m₀.blockBitmap
    (m.blockBitmap.map fun free => [encodeBool free])
    { file with rest := m.blockBitmap.map encodeBool ++ rest, gcount := 4, failbit := false,
                eofbit := false } rest
    (by simp [m.blockBitmap_length, m₀.blockBitmap_length, sameSize])
    (fun chunk mem => by obtain ⟨free, -, rfl⟩ := List.mem_map.1 mem; rfl) rfl chunked
  simp only [isOpen] at done left
  simp only [deserializeBitmap, isOpen, read_header good (stored.trans (List.append_assoc _ _ _)),
    counted, sameSize, Bool.not_true, Bool.false_eq_true, if_false, Bool.false_or,
    bne_self_eq_false, ne_eq, not_true_eq_false, done, if_true]
  exact ⟨trivial, left⟩

end BlockManager

namespace SuperBlock

end SuperBlock

/-- A table of fewer than `2 ^ 32` records and a bitmap of fewer than `2 ^ 32` bits are each
written as an image of `4 + n * sizeof(Inode) + n` and `4 + total_blocks` bytes. Loading the
image consumes exactly the image and restores the records, over any table, but neither bitmap:
the table keeps the bits of the table it is loaded over, resized to the count, and the block
manager is left as it was. -/
theorem load_restores_records_not_bitmaps (t : InodeTable) (m : BlockManager)
    (fits : t.inodes.length < 2 ^ 32) (fitsBlocks : m.totalBlocks < 2 ^ 32) :
    (∃ image : List UInt8,
      image.length = 4 + t.inodes.length * Inode.byteSize + t.inodes.length ∧
      (∀ out : OStream, out.isOpen → out.failbit = false →
        t.serialize out = .ok { out with written := out.written ++ image }) ∧
      ∀ (t₀ : InodeTable) (file : IStream) (rest : List UInt8), file.isOpen → file.good →
        file.rest = image ++ rest →
        (t₀.deserialize file).1 = .ok () ∧ (t₀.deserialize file).2.1.inodes = t.inodes ∧
          (t₀.deserialize file).2.1.freeInodes = resize t₀.freeInodes t.inodes.length false ∧
          (t₀.deserialize file).2.2.rest = rest) ∧
    (∃ image : List UInt8, image.length = 4 + m.totalBlocks ∧
      (∀ out : OStream, out.isOpen → out.failbit = false →
        m.serializeBitmap out = .ok { out with written := out.written ++ image }) ∧
      ∀ (m₀ : BlockManager) (file : IStream) (rest : List UInt8),
        m₀.totalBlocks = m.totalBlocks → file.isOpen → file.good → file.rest = image ++ rest →
        (m₀.deserializeBitmap file).1 = .ok () ∧ (m₀.deserializeBitmap file).2.1 = m₀ ∧
          (m₀.deserializeBitmap file).2.2.rest = rest) := by
  refine ⟨⟨_, ?_, fun _ => t.serialize_of_ok, fun t₀ file rest isOpen good stored =>
    t.deserialize_of_serialized t₀ file rest fits isOpen good (by simpa using stored)⟩,
    ⟨_, ?_, fun _ => m.serializeBitmap_of_ok, fun m₀ file rest sameSize isOpen good stored => ?_⟩⟩
  · simp only [List.length_append, length_leBytes, Inode.length_flatten_map_toBytes,
      List.length_map, t.freeInodes_length]
  · simp [m.blockBitmap_length]
  · obtain ⟨ok, left⟩ := m.deserializeBitmap_of_serialized m₀ file rest fitsBlocks sameSize isOpen
      good (by simpa using stored)
    exact ⟨ok, m₀.deserializeBitmap_keeps file, left⟩

/-- Inode 2 allocated in a table of three inodes, and blocks allocated in a bitmap of ten
blocks, each saved and loaded over a fresh object: the loaded bitmaps are the fresh ones, in
which the inode and the blocks are free again. -/
theorem load_restores_records_not_bitmaps_after_allocation :
    let t := (InodeTable.new 3).allocateInode.2
    let m := ((BlockManager.new 10 4096).allocateBlocks 3).2
    t.inodes.length < 2 ^ 32 ∧ m.totalBlocks < 2 ^ 32 ∧
    ((∃ image : List UInt8,
      image.length = 4 + t.inodes.length * Inode.byteSize + t.inodes.length ∧
      (∀ out : OStream, out.isOpen → out.failbit = false →
        t.serialize out = .ok { out with written := out.written ++ image }) ∧
      ∀ (t₀ : InodeTable) (file : IStream) (rest : List UInt8), file.isOpen → file.good →
        file.rest = image ++ rest →
        (t₀.deserialize file).1 = .ok () ∧ (t₀.deserialize file).2.1.inodes = t.inodes ∧
          (t₀.deserialize file).2.1.freeInodes = resize t₀.freeInodes t.inodes.length false ∧
          (t₀.deserialize file).2.2.rest = rest) ∧
    (∃ image : List UInt8, image.length = 4 + m.totalBlocks ∧
      (∀ out : OStream, out.isOpen → out.failbit = false →
        m.serializeBitmap out = .ok { out with written := out.written ++ image }) ∧
      ∀ (m₀ : BlockManager) (file : IStream) (rest : List UInt8),
        m₀.totalBlocks = m.totalBlocks → file.isOpen → file.good → file.rest = image ++ rest →
        (m₀.deserializeBitmap file).1 = .ok () ∧ (m₀.deserializeBitmap file).2.1 = m₀ ∧
          (m₀.deserializeBitmap file).2.2.rest = rest)) ∧
    resize (InodeTable.new 3).freeInodes t.inodes.length false ≠ t.freeInodes ∧
    (BlockManager.new 10 4096).blockBitmap ≠ m.blockBitmap :=
  ⟨by decide, by decide, load_restores_records_not_bitmaps _ _ (by decide) (by decide), by decide,
    by decide⟩

/-- The checksum loop of `Inode` and `SuperBlock` tells apart any two byte strings of one
length that differ in exactly one position; hence `is_valid` rejects every inode and every
superblock whose representation is one byte away from that of a record sealed by
`update_checksum`, whichever byte it is, the bytes of the checksum field included. -/
theorem corrupted_byte_detected :
    (∀ a a' : List UInt8, DifferAtOnePosition a a' →
      Inode.calculateChecksum a ≠ Inode.calculateChecksum a' ∧
        SuperBlock.calculateChecksum a ≠ SuperBlock.calculateChecksum a') ∧
      (∀ (inode corrupted : Inode) (now : UInt64),
        DifferAtOnePosition inode.updateChecksum.toBytes corrupted.toBytes →
          corrupted.isValid now = false) ∧
      ∀ sb corrupted : SuperBlock,
        DifferAtOnePosition sb.updateChecksum.toBytes corrupted.toBytes →
          corrupted.isValid = false :=
  ⟨fun _ _ differ => ⟨foldl_crcStep_ne_of_differ 0 differ, foldl_crcStep_ne_of_differ 0 differ⟩,
    fun _ _ now differ => Inode.isValid_of_differ now differ,
    fun _ _ differ => SuperBlock.isValid_of_differ differ⟩

/-- A regular file's inode sealed by `update_checksum`, and the same record with the low bit of
its mode flipped: their representations differ in byte 0 only, and the sealed record passes
`is_valid` while the corrupted one fails it. -/
theorem corrupted_byte_detected_in_mode :
    DifferAtOnePosition
        ({ Inode.default with mode := 0x81A4, linkCount := 1 } : Inode).updateChecksum.toBytes
        ({ ({ Inode.default with mode := 0x81A4, linkCount := 1 } : Inode).updateChecksum with
            mode := 0x81A5 } : Inode).toBytes ∧
      ({ Inode.default with mode := 0x81A4, linkCount := 1 } : Inode).updateChecksum.isValid 0 ∧
      ({ ({ Inode.default with mode := 0x81A4, linkCount := 1 } : Inode).updateChecksum with
          mode := 0x81A5 } : Inode).isValid 0 = false := by
  have differ : DifferAtOnePosition
      ({ Inode.default with mode := 0x81A4, linkCount := 1 } : Inode).updateChecksum.toBytes
      ({ ({ Inode.default with mode := 0x81A4, linkCount := 1 } : Inode).updateChecksum with
          mode := 0x81A5 } : Inode).toBytes := by
    rw [Inode.toBytes_withMode _ 0x81A5]
    nth_rewrite 1 [Inode.toBytes_eq_mode_append]
    refine DifferAtOnePosition.append_right ?_ _
    exact differAtOnePosition_set (a := leBytes 2 (0x81A4 : UInt16).toNat) (k := 0) (y := 0xA5)
      (by decide) (by decide)
  exact ⟨differ, Inode.isValid_eq_true_iff.mpr (Inode.intact_updateChecksum (by decide) (by decide)
    (by decide) (by decide) (by decide)),
    corrupted_byte_detected.2.1 { Inode.default with mode := 0x81A4, linkCount := 1 } _ 0 differ⟩

end Dfs
