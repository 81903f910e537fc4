import Dfs.Checksum

/-!
# Log records

`LogEntry` of `core/transaction_manager.cpp`: one record of the write-ahead log, its
checksum and its binary format.

`update_checksum` folds the fixed fields by exclusive or, each 64-bit field as its two
32-bit halves (`foldFields`), and then runs both payloads through the loop of
`Dfs.Checksum`. A change of the fixed fields is therefore seen only through the word they
fold to: `transaction_id` 1 and `2 ^ 32` fold alike, and a change of bit 31 alone is shifted
out by the first payload byte. A change of one payload byte in place is always seen
(`checksum_detects`).

`serialize` writes the six fixed fields, then each payload prefixed by its length as a
`uint32_t`, every field little-endian. `deserialize` reads the six fixed fields with six
separate reads and then compares `file.gcount()` with the size of all six together.
`gcount()` counts the characters of the last read only, at most the 4 of `checksum` and
never 32, so the check fails on every stream: `deserialize` always throws, and
`replay_log_entries`, which catches the exception, replays nothing. The model keeps the
reads after the check as the source has them, though no run reaches them.
-/

namespace Dfs

/-- `struct LogEntry`. -/
structure LogEntry where
  transactionId : UInt64
  operationType : UInt32
  inodeNumber : UInt32
  blockNumber : UInt32
  oldData : List UInt8
  newData : List UInt8
  timestamp : UInt64
  checksum : UInt32
  deriving DecidableEq, Repr

namespace LogEntry

/-- `LogEntry()`. -/
def default : LogEntry := ⟨0, 0, 0, 0, [], [], 0, 0⟩

/-- The value of `temp_checksum` in `update_checksum` before the payload loops: the fixed
fields folded by exclusive or, each 64-bit field as its two halves. -/
def foldFields (entry : LogEntry) : UInt32 :=
  (0 : UInt32) ^^^ entry.transactionId.toUInt32 ^^^ (entry.transactionId >>> 32).toUInt32 ^^^
    entry.operationType ^^^ entry.inodeNumber ^^^ entry.blockNumber ^^^
    entry.timestamp.toUInt32 ^^^ (entry.timestamp >>> 32).toUInt32

/-- The checksum `update_checksum` computes: the folded fields, then both payloads through
the loop `crcStep`. -/
def computeChecksum (entry : LogEntry) : UInt32 :=
  entry.newData.foldl crcStep (entry.oldData.foldl crcStep entry.foldFields)

/-- `update_checksum()`. -/
def updateChecksum (entry : LogEntry) : LogEntry :=
  { entry with checksum := entry.computeChecksum }

/-- `is_valid()`: the stored checksum is the one `update_checksum` computes on a copy. -/
def isValid (entry : LogEntry) : Bool := entry.checksum == entry.computeChecksum

/-- `serialize(file)`. A payload of `2 ^ 32` bytes or more has its length truncated to 32
bits, and only that many of its bytes are written. -/
def serialize (entry : LogEntry) (file : OStream) : Except Error OStream :=
  if !file.isOpen then .error (.fileSystem "Cannot serialize LogEntry: file not open")
  else
    let oldDataSize := entry.oldData.length % 2 ^ 32
    let newDataSize := entry.newData.length % 2 ^ 32
    let file := file.write (leBytes 8 entry.transactionId.toNat)
    let file := file.write (leBytes 4 entry.operationType.toNat)
    let file := file.write (leBytes 4 entry.inodeNumber.toNat)
    let file := file.write (leBytes 4 entry.blockNumber.toNat)
    let file := file.write (leBytes 8 entry.timestamp.toNat)
    let file := file.write (leBytes 4 entry.checksum.toNat)
    let file := file.write (leBytes 4 oldDataSize)
    let file := if 0 < oldDataSize then file.write (entry.oldData.take oldDataSize) else file
    let file := file.write (leBytes 4 newDataSize)
    let file := if 0 < newDataSize then file.write (entry.newData.take newDataSize) else file
    if file.failbit then .error (.fileSystem "Failed to serialize LogEntry") else .ok file

/-- A field of `width` bytes after `file.read(reinterpret_cast<char*>(&field), width)` got the
bytes `got`: its low bytes replaced by them. -/
def loadField (width : ℕ) (got : List UInt8) (old : ℕ) : ℕ :=
  leValue (got ++ (leBytes width old).drop got.length)

/-- `if (size > 0) { data.resize(size); file.read(data.data(), size); ... }`: whether the read
passed its check, the payload and the stream. -/
def readPayload (size : ℕ) (data : List UInt8) (file : IStream) : Bool × List UInt8 × IStream :=
  if 0 < size then
    let got := file.read size
    (!(got.2.failbit || got.2.gcount != size), got.1 ++ (resize data size 0).drop got.1.length,
      got.2)
  else (true, data, file)

/-- `deserialize(file)`: the entry as its fields were overwritten and the stream. -/
def deserialize (entry : LogEntry) (file : IStream) : Except Error Unit × LogEntry × IStream :=
  if !file.isOpen then
    (.error (.fileSystem "Cannot deserialize LogEntry: file not open"), entry, file)
  else
    let r₁ := file.read 8
    let r₂ := r₁.2.read 4
    let r₃ := r₂.2.read 4
    let r₄ := r₃.2.read 4
    let r₅ := r₄.2.read 8
    let r₆ := r₅.2.read 4
    let entry : LogEntry :=
      { entry with
        transactionId := UInt64.ofNat (loadField 8 r₁.1 entry.transactionId.toNat)
        operationType := UInt32.ofNat (loadField 4 r₂.1 entry.operationType.toNat)
        inodeNumber := UInt32.ofNat (loadField 4 r₃.1 entry.inodeNumber.toNat)
        blockNumber := UInt32.ofNat (loadField 4 r₄.1 entry.blockNumber.toNat)
        timestamp := UInt64.ofNat (loadField 8 r₅.1 entry.timestamp.toNat)
        checksum := UInt32.ofNat (loadField 4 r₆.1 entry.checksum.toNat) }
    if r₆.2.failbit || r₆.2.gcount != 8 + 4 + 4 + 4 + 8 + 4 then
      (.error (.fileSystem "Failed to deserialize LogEntry header"), entry, r₆.2)
    else
      let oldSize := r₆.2.read 4
      if oldSize.2.failbit || oldSize.2.gcount != 4 then
        (.error (.fileSystem "Failed to deserialize LogEntry old_data_size"), entry, oldSize.2)
      else
        let old := readPayload (leValue oldSize.1) entry.oldData oldSize.2
        let entry := { entry with oldData := old.2.1 }
        if !old.1 then
          (.error (.fileSystem "Failed to deserialize LogEntry old_data"), entry, old.2.2)
        else
          let newSize := old.2.2.read 4
          if newSize.2.failbit || newSize.2.gcount != 4 then
            (.error (.fileSystem "Failed to deserialize LogEntry new_data_size"), entry, newSize.2)
          else
            let loaded := readPayload (leValue newSize.1) entry.newData newSize.2
            let entry := { entry with newData := loaded.2.1 }
            if !loaded.1 then
              (.error (.fileSystem "Failed to deserialize LogEntry new_data"), entry, loaded.2.2)
            else (.ok (), entry, loaded.2.2)

/-- The loop of `replay_log_entries()` with `fuel` iterations left and `replayed` entries
replayed so far: while the stream is good, deserialize a fresh `LogEntry()` and count it when
the stream is still good and its checksum holds; an exception ends the replay. -/
def replayLoop : (fuel : ℕ) → IStream → ℕ → ℕ
  | 0, _, replayed => replayed
  | fuel + 1, file, replayed =>
    if file.good then
      let step := default.deserialize file
      match step.1 with
      | .error _ => replayed
      | .ok () =>
        replayLoop fuel step.2.2
          (if step.2.2.good && step.2.1.isValid then replayed + 1 else replayed)
    else replayed

end LogEntry

/-- `replay_log_entries()` on the log file, opened for reading: the number of entries
replayed. An iteration that does not throw reads at least 40 bytes, so the loop ends within
`file.rest.length + 1` iterations. -/
def replayLogEntries (file : IStream) : ℕ :=
  if !file.isOpen then 0 else LogEntry.replayLoop (file.rest.length + 1) file 0

namespace LogEntry

/-- The header check of `deserialize` fails on every open stream: the last of the six reads
extracted at most 4 characters. -/
theorem deserialize_of_isOpen (entry : LogEntry) {file : IStream} (isOpen : file.isOpen) :
    (entry.deserialize file).1 = .error (.fileSystem "Failed to deserialize LogEntry header") := by
  have short := IStream.gcount_read_le
    ((((((file.read 8).2.read 4).2.read 4).2.read 4).2.read 8).2) 4
  have check : ((((((file.read 8).2.read 4).2.read 4).2.read 4).2.read 8).2.read 4).2.failbit ||
      ((((((file.read 8).2.read 4).2.read 4).2.read 4).2.read 8).2.read 4).2.gcount !=
        8 + 4 + 4 + 4 + 8 + 4 := by
    simp only [Bool.or_eq_true, bne_iff_ne]
    exact .inr (by omega)
  simp only [deserialize, isOpen, Bool.not_true, Bool.false_eq_true, if_false, check, if_true]

/-- The replay loop stops at its first iteration, having replayed nothing. -/
theorem replayLoop_eq (fuel : ℕ) {file : IStream} (isOpen : file.isOpen) (replayed : ℕ) :
    replayLoop fuel file replayed = replayed := by
  cases fuel with
  | zero => rfl
  | succ fuel =>
    simp only [replayLoop, default.deserialize_of_isOpen isOpen]
    split <;> rfl

theorem computeChecksum_eq (entry : LogEntry) :
    entry.computeChecksum = (entry.oldData ++ entry.newData).foldl crcStep entry.foldFields :=
  (List.foldl_append ..).symm

/-- Entries with the same payloads end their checksums `feedback` iterated once per payload
byte on the difference of their folded fields apart. -/
theorem computeChecksum_xor {entry entry' : LogEntry} (sameOld : entry'.oldData = entry.oldData)
    (sameNew : entry'.newData = entry.newData) :
    entry'.computeChecksum ^^^ entry.computeChecksum =
      feedback^[(entry.oldData ++ entry.newData).length] (entry'.foldFields ^^^ entry.foldFields) := by
  rw [computeChecksum_eq, computeChecksum_eq, sameOld, sameNew, foldl_crcStep_xor]

/-- A sealed entry whose payloads, read one after the other, have one byte changed fails
`is_valid`. -/
theorem isValid_set_payload (entry : LogEntry) {changed : LogEntry} {k : ℕ} {y : UInt8}
    (inside : k < (entry.oldData ++ entry.newData).length)
    (differs : (entry.oldData ++ entry.newData)[k]? ≠ some y)
    (sameFields : changed.foldFields = entry.foldFields)
    (sealed : changed.checksum = entry.computeChecksum)
    (payloads : changed.oldData ++ changed.newData = (entry.oldData ++ entry.newData).set k y) :
    changed.isValid = false := by
  have apart := foldl_crcStep_set_ne entry.foldFields inside differs
  rw [← payloads, ← sameFields, ← computeChecksum_eq, sameFields, ← computeChecksum_eq] at apart
  simpa [isValid, sealed] using Ne.symm apart

end LogEntry

/-- No record is ever read back from the log: `deserialize` throws on every open stream,
whatever it holds, and `replay_log_entries` replays nothing. -/
theorem deserialize_fails_on_every_stream (entry : LogEntry) (file : IStream)
    (isOpen : file.isOpen) :
    (entry.deserialize file).1 = .error (.fileSystem "Failed to deserialize LogEntry header") ∧
      replayLogEntries file = 0 := by
  refine ⟨entry.deserialize_of_isOpen isOpen, ?_⟩
  simp only [replayLogEntries, isOpen, Bool.not_true, Bool.false_eq_true, if_false]
  exact LogEntry.replayLoop_eq _ isOpen 0

/-- The 40 bytes `serialize` writes for `LogEntry()` do not read back. -/
theorem deserialize_fails_on_zeros :
    LogEntry.default.serialize { isOpen := true, written := [] } =
        .ok { isOpen := true, written := List.replicate 40 0 } ∧
      ({ isOpen := true, rest := List.replicate 40 0 } : IStream).isOpen ∧
      (LogEntry.default.deserialize { isOpen := true, rest := List.replicate 40 0 }).1 =
        .error (.fileSystem "Failed to deserialize LogEntry header") ∧
      replayLogEntries { isOpen := true, rest := List.replicate 40 0 } = 0 :=
  ⟨by decide, rfl, deserialize_fails_on_every_stream LogEntry.default _ rfl⟩

/-- The checksum of a log record, exactly. Records with the same payloads get the same
checksum exactly when their fixed fields fold to the same word, or to words apart in bit 31
alone with a payload byte after them; a sealed record with one byte of `old_data` or
`new_data` changed in place fails `is_valid`. -/
theorem checksum_detects (entry entry' : LogEntry) :
    (entry'.oldData = entry.oldData → entry'.newData = entry.newData →
      (entry'.computeChecksum = entry.computeChecksum ↔
        entry'.foldFields = entry.foldFields ∨
          entry'.foldFields ^^^ entry.foldFields = 0x80000000 ∧
            entry.oldData ++ entry.newData ≠ [])) ∧
      (∀ (k : ℕ) (y : UInt8), k < entry.oldData.length → entry.oldData[k]? ≠ some y →
        { entry.updateChecksum with oldData := entry.oldData.set k y }.isValid = false) ∧
      (∀ (k : ℕ) (y : UInt8), k < entry.newData.length → entry.newData[k]? ≠ some y →
        { entry.updateChecksum with newData := entry.newData.set k y }.isValid = false) := by
  refine ⟨fun sameOld sameNew => ?_, fun k y inside differs => ?_, fun k y inside differs => ?_⟩
  · rw [← UInt32.xor_eq_zero_iff, LogEntry.computeChecksum_xor sameOld sameNew,
      iterate_feedback_eq_zero_iff, UInt32.xor_eq_zero_iff, List.length_pos]
  · exact entry.isValid_set_payload (by simp; omega)
      (by rwa [List.getElem?_append_left inside]) rfl rfl
      (List.set_append_left _ _ inside).symm
  · exact entry.isValid_set_payload (k := entry.oldData.length + k) (by simp; omega)
      (by rwa [List.getElem?_append_right (by omega), Nat.add_sub_cancel_left]) rfl rfl
      (by rw [List.set_append_right _ _ (by omega), Nat.add_sub_cancel_left]; rfl)

/-- Two records that differ in one field only and get the same checksum: `transaction_id` 1
and `2 ^ 32 = 4294967296` fold to the same word, and an empty `old_data` and `[0]` leave the zero state
alike. So `is_valid` accepts a sealed record with its `transaction_id` changed. -/
theorem checksum_misses_field_changes :
    ({ LogEntry.default with transactionId := 1 } : LogEntry).computeChecksum =
        ({ LogEntry.default with transactionId := 4294967296 } : LogEntry).computeChecksum ∧
      { ({ LogEntry.default with transactionId := 1 } : LogEntry).updateChecksum with
          transactionId := 4294967296 }.isValid = true ∧
      ({ LogEntry.default with oldData := [0] } : LogEntry).computeChecksum =
        LogEntry.default.computeChecksum := by
  decide

end Dfs
