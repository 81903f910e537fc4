import Dfs.Basic

/-!
# Data blocks

`DataBlock` of `core/block_manager.cpp`: the bytes of one block of the device, with the
block's id and size.

`write_data(data, offset)` refuses an offset at or past the end of the block and a write
that would run past it, and otherwise copies the bytes in place. `read_data(offset, size)`
returns nothing for an offset past the end, reads to the end of the block for a size of 0,
and clamps the size to the bytes left. Together they behave as a byte array of fixed size
(`writeData_readData`).

`serialize` writes the id and the size as `uint32_t` values, then the bytes. `deserialize`
reads the id and the size with two reads of 4 bytes and then compares `file.gcount()` with 8.
`gcount()` counts the characters of the last read only, at most 4, so the check fails on
every stream: `deserialize` always throws before it reads the bytes, and the block is left
as it was (`deserialize_fails_on_every_stream`). The model keeps the code after the check as
the source has it, though no run reaches it.
-/

namespace Dfs

/-- The state of a `DataBlock`. `data_` always holds `block_size_` bytes: the constructor
sizes it so, `write_data` and `clear` write in place, and `deserialize` resizes it only to a
size it has checked equal to `block_size_`. -/
structure DataBlock where
  data : List UInt8
  blockId : ℕ
  blockSize : ℕ
  data_length : data.length = blockSize
  deriving DecidableEq

namespace DataBlock

/-- `DataBlock(block_id, block_size)`: `block_size` zero bytes. -/
def new (blockId blockSize : ℕ) : DataBlock where
  data := List.replicate blockSize 0
  blockId := blockId
  blockSize := blockSize
  data_length := List.length_replicate _ _

/-- `read_data(offset, size)`. -/
def readData (b : DataBlock) (offset size : ℕ) : List UInt8 :=
  if b.blockSize ≤ offset then []
  else
    let size := if size = 0 then b.blockSize - offset else size
    let size := min size (b.blockSize - offset)
    (b.data.drop offset).take size

/-- `write_data(data, offset)`: whether the write was done, and the block afterwards. -/
def writeData (b : DataBlock) (data : List UInt8) (offset : ℕ) : Bool × DataBlock :=
  if b.blockSize ≤ offset then (false, b)
  else if fits : b.blockSize < offset + data.length then (false, b)
  else
    (true,
      { b with
        data := b.data.take offset ++ data ++ b.data.drop (offset + data.length)
        data_length := by simp [b.data_length]; omega })

/-- `clear()`: every byte zero. -/
def clear (b : DataBlock) : DataBlock :=
  { b with data := List.replicate b.blockSize 0, data_length := List.length_replicate _ _ }

/-- `serialize(file)`: the id and the size as `uint32_t` values, then the bytes. -/
def serialize (b : DataBlock) (file : OStream) : Except Error OStream :=
  if !file.isOpen then .error (.fileSystem "Cannot serialize DataBlock: file not open")
  else
    let file := file.write (leBytes 4 b.blockId)
    let file := file.write (leBytes 4 b.blockSize)
    let file := file.write b.data
    if file.failbit then .error (.fileSystem "Failed to serialize DataBlock") else .ok file

/-- `deserialize(file)`: the outcome, the block and the stream. After the size check the
bytes are read over `data_`; a short read overwrites its first bytes before the call throws. -/
def deserialize (b : DataBlock) (file : IStream) : Except Error Unit × DataBlock × IStream :=
  if !file.isOpen then
    (.error (.fileSystem "Cannot deserialize DataBlock: file not open"), b, file)
  else
    let idRead := file.read 4
    let sizeRead := idRead.2.read 4
    if sizeRead.2.failbit || sizeRead.2.gcount != 4 + 4 then
      (.error (.fileSystem "Failed to deserialize DataBlock metadata"), b, sizeRead.2)
    else if leValue sizeRead.1 ≠ b.blockSize then
      (.error (.fileSystem "DataBlock size mismatch"), b, sizeRead.2)
    else
      let got := sizeRead.2.read b.blockSize
      let loaded : DataBlock :=
        { b with
          data := got.1 ++ b.data.drop got.1.length
          data_length := by
            have short : got.1.length ≤ b.blockSize := IStream.length_read_le _ _
            simp [b.data_length]
            omega }
      if got.2.failbit || got.2.gcount != b.blockSize then
        (.error (.fileSystem "Failed to deserialize DataBlock data"), loaded, got.2)
      else (.ok (), loaded, got.2)

variable (b : DataBlock) (data : List UInt8) (offset : ℕ)

theorem writeData_eq_true_iff :
    (b.writeData data offset).1 = true ↔
      offset < b.blockSize ∧ offset + data.length ≤ b.blockSize := by
  unfold writeData
  split_ifs <;> simp <;> omega

theorem writeData_of_false (refused : (b.writeData data offset).1 = false) :
    (b.writeData data offset).2 = b := by
  unfold writeData at refused ⊢
  split_ifs at refused ⊢ <;> rfl

theorem data_writeData (done : (b.writeData data offset).1 = true) :
    (b.writeData data offset).2.data =
      b.data.take offset ++ data ++ b.data.drop (offset + data.length) := by
  unfold writeData at done ⊢
  split_ifs at done ⊢
  rfl

theorem blockSize_writeData : (b.writeData data offset).2.blockSize = b.blockSize := by
  unfold writeData
  split_ifs <;> rfl

/-- `read_data(offset, size)` inside the block: the bytes from `offset` on, as many as the size
asks for, all of them for a size of 0, and never past the end. -/
theorem readData_of_lt {offset : ℕ} (size : ℕ) (inside : offset < b.blockSize) :
    b.readData offset size =
      (b.data.drop offset).take
        (min (if size = 0 then b.blockSize - offset else size) (b.blockSize - offset)) := by
  simp only [readData, if_neg (Nat.not_le.mpr inside)]

/-- `write_data` and `read_data` behave as a byte array of `block_size_` bytes. A write is
done exactly when it starts inside the block and ends by its end; then reading the written
range gives the bytes written, and every other byte is as it was. A refused write changes
nothing. A read from inside the block returns the bytes from the offset on, as many as asked,
all up to the end for a size of 0, and never more than are left. -/
theorem writeData_readData :
    let written : Bool × DataBlock := b.writeData data offset
    (written.1 = true ↔ offset < b.blockSize ∧ offset + data.length ≤ b.blockSize) ∧
      (written.1 = true → data ≠ [] → written.2.readData offset data.length = data) ∧
      (written.1 = true → ∀ i, i < offset ∨ offset + data.length ≤ i →
        written.2.data[i]? = b.data[i]?) ∧
      (written.1 = false → written.2 = b) ∧
      ∀ size, offset < b.blockSize →
        let count := min (if size = 0 then b.blockSize - offset else size) (b.blockSize - offset)
        (b.readData offset size).length = count ∧
          ∀ j < count, (b.readData offset size)[j]? = b.data[offset + j]? := by
  have prefixLength (done : (b.writeData data offset).1 = true) :
      (b.data.take offset).length = offset := by
    rw [writeData_eq_true_iff] at done
    simp [b.data_length]
    omega
  refine ⟨b.writeData_eq_true_iff data offset, fun done nonempty => ?_, fun done i outside => ?_,
    b.writeData_of_false data offset, fun size inside => ?_⟩
  · have fits := (b.writeData_eq_true_iff data offset).mp done
    rw [DataBlock.readData_of_lt _ _ (by rw [blockSize_writeData]; exact fits.1),
      if_neg (by simpa using nonempty), blockSize_writeData, Nat.min_eq_left (by omega),
      data_writeData _ _ _ done, List.append_assoc, List.drop_left' (prefixLength done),
      List.take_left]
  · rw [data_writeData _ _ _ done, List.append_assoc]
    rcases outside with before | after
    · rw [List.getElem?_append_left (by rw [prefixLength done]; exact before),
        List.getElem?_take_of_lt before]
    · rw [List.getElem?_append_right (by rw [prefixLength done]; omega),
        List.getElem?_append_right (by rw [prefixLength done]; omega), List.getElem?_drop,
        prefixLength done]
      congr 1
      omega
  · intro count
    rw [DataBlock.readData_of_lt _ _ inside]
    refine ⟨by simp [b.data_length], fun j below => ?_⟩
    rw [List.getElem?_take_of_lt below, List.getElem?_drop]

/-- The size check of `deserialize` fails on every open stream, whatever it holds: the second
of the two reads extracted at most 4 characters, never 8. The block is left as it was. -/
theorem deserialize_always_throws (file : IStream) (isOpen : file.isOpen) :
    (b.deserialize file).1 = .error (.fileSystem "Failed to deserialize DataBlock metadata") ∧
      (b.deserialize file).2.1 = b := by
  have short := IStream.gcount_read_le (file.read 4).2 4
  have check : (((file.read 4).2.read 4).2.failbit ||
      ((file.read 4).2.read 4).2.gcount != 4 + 4) = true := by
    simp only [Bool.or_eq_true, bne_iff_ne]
    exact .inr (by omega)
  simp only [deserialize, isOpen, Bool.not_true, Bool.false_eq_true, if_false, check, if_true,
    and_self]

/-- A block holding `[1, 2, 3, 4]` written out and read back into a fresh block of the same
size: the read throws and the fresh block keeps its zeros. -/
theorem deserialize_always_throws_on_written_block :
    ((new 7 4).writeData [1, 2, 3, 4] 0).2.serialize { isOpen := true, written := [] } =
        .ok { isOpen := true, written := [7, 0, 0, 0, 4, 0, 0, 0, 1, 2, 3, 4] } ∧
      ({ isOpen := true, rest := [7, 0, 0, 0, 4, 0, 0, 0, 1, 2, 3, 4] } : IStream).isOpen ∧
      ((new 7 4).deserialize { isOpen := true, rest := [7, 0, 0, 0, 4, 0, 0, 0, 1, 2, 3, 4] }).1 =
        .error (.fileSystem "Failed to deserialize DataBlock metadata") ∧
      ((new 7 4).deserialize
        { isOpen := true, rest := [7, 0, 0, 0, 4, 0, 0, 0, 1, 2, 3, 4] }).2.1 = new 7 4 :=
  ⟨by decide, rfl, deserialize_always_throws _ _ rfl⟩

end DataBlock

end Dfs
