import Mathlib.Data.List.Basic
import Mathlib.Algebra.Group.Nat.Basic

/-!
# Errors, machine words and file streams

The exceptions of `utils/exceptions.h` that the storage engine throws, the sentinel
`UINT32_MAX`, and the two standard streams the engine persists itself through.

The source subscripts `std::vector` without bounds checks. A subscript past the end
has undefined behaviour; the model makes it an explicit outcome, `Error.outOfBounds`,
so that the bounds-safety properties of the allocators become statements that this
outcome is never reached.

When no block or inode is free, `allocate_block`, `allocate_blocks` and `allocate_inode`
throw `InsufficientSpaceException(required, available)` with `available` computed by
`get_free_block_count()` or `get_free_inode_count()` while they still hold the mutex that the
getter locks. The getters are `const` and lock a `std::mutex` that is not `mutable`, which does
not compile; with the mutex `mutable`, a thread locks a `std::mutex` it already owns, which is
undefined behaviour and in practice waits forever. The model makes this an explicit outcome
too, `Error.selfDeadlock`: the exception is never thrown.

A stream is modelled at the byte level with the state bits the code inspects:
`fail()`, `eof()` and `gcount()`. As in the standard library, `gcount()` counts the
characters extracted by the last unformatted input operation only, and a read on a
stream that is no longer `good()` extracts nothing and sets `failbit`.
-/

namespace Dfs

/-- `UINT32_MAX`, the value `find_next_free_block` returns when no block is free. -/
def uint32Max : ℕ := 2 ^ 32 - 1

/-- The outcome of a call that does not return normally. -/
inductive Error where
  /-- `BlockNotFoundException(block_id)`. -/
  | blockNotFound (blockId : ℕ)
  /-- `InodeNotFoundException(inode_num)`. -/
  | inodeNotFound (inodeNum : ℕ)
  /-- `TransactionNotFoundException(tx_id)`. -/
  | transactionNotFound (txId : ℕ)
  /-- `TransactionAbortedException(tx_id, reason)`. -/
  | transactionAborted (txId : ℕ) (reason : String)
  /-- `FileSystemException(message)`. -/
  | fileSystem (message : String)
  /-- `FileSystemCorruptedException(reason)`. -/
  | fileSystemCorrupted (reason : String)
  /-- Not an exception: a subscript past the end of a vector, undefined behaviour. -/
  | outOfBounds (index : ℕ)
  /-- Not an exception: a thread locks the mutex it holds, and waits forever. -/
  | selfDeadlock
  deriving Repr, DecidableEq

/-- Outcomes are compared, so that a run of the model can be checked by `decide`. -/
instance exceptDecidableEq {ε α : Type} [DecidableEq ε] [DecidableEq α] :
    DecidableEq (Except ε α)
  | .error e, .error e' => decidable_of_iff (e = e') (by simp)
  | .ok a, .ok a' => decidable_of_iff (a = a') (by simp)
  | .error _, .ok _ => isFalse Except.noConfusion
  | .ok _, .error _ => isFalse Except.noConfusion

/-- The `width` bytes of `value` in little-endian order, as `file.write` stores an
unsigned field on the little-endian targets the code is built for. -/
def leBytes (width value : ℕ) : List UInt8 :=
  (List.range width).map fun k => UInt8.ofNat (value / 256 ^ k)

/-- The value of little-endian bytes. -/
def leValue : List UInt8 → ℕ
  | [] => 0
  | byte :: rest => byte.toNat + 256 * leValue rest

@[simp]
theorem length_leBytes (width value : ℕ) : (leBytes width value).length = width := by
  simp [leBytes]

theorem leBytes_succ (width value : ℕ) :
    leBytes (width + 1) value = UInt8.ofNat value :: leBytes width (value / 256) := by
  simp only [leBytes, List.range_succ_eq_map, List.map_cons, List.map_map, Nat.pow_zero,
    Nat.div_one, List.cons.injEq, true_and]
  refine List.map_congr_left fun k _ => ?_
  simp only [Function.comp, Nat.div_div_eq_div_mul, Nat.pow_succ']

/-- Little-endian bytes read back give the value modulo `256 ^ width`. -/
@[simp]
theorem leValue_leBytes (width value : ℕ) :
    leValue (leBytes width value) = value % 256 ^ width := by
  induction width generalizing value with
  | zero => simp [leBytes, leValue, Nat.mod_one]
  | succ width ih =>
    rw [leBytes_succ, leValue, ih, Nat.pow_succ', Nat.mod_mul]
    rfl

/-- The value of the `width` bytes at `offset` of a record's bytes. -/
def field (bytes : List UInt8) (offset width : ℕ) : ℕ :=
  leValue ((bytes.drop offset).take width)

/-- A field past a prefix of the record is read in what follows the prefix. -/
theorem field_append_of_le (front rest : List UInt8) {offset : ℕ} (width : ℕ)
    (past : front.length ≤ offset) :
    field (front ++ rest) offset width = field rest (offset - front.length) width := by
  simp only [field, List.drop_append_eq_append_drop, List.drop_eq_nil_of_le past, List.nil_append]

/-- A field read where it was written: its value modulo the width. -/
theorem field_leBytes_append (width value : ℕ) (rest : List UInt8) :
    field (leBytes width value ++ rest) 0 width = value % 256 ^ width := by
  simp only [field, List.drop_zero, List.take_left' (length_leBytes _ _), leValue_leBytes]

/-- A byte past a prefix of the record is read in what follows the prefix. -/
theorem getD_append_of_le (front rest : List UInt8) {n : ℕ} (past : front.length ≤ n) :
    (front ++ rest).getD n 0 = rest.getD (n - front.length) 0 := by
  simp only [List.getD_eq_getElem?_getD, List.getElem?_append_right past]

/-- An array of bytes read back byte by byte. -/
theorem map_range_getD (bytes : List UInt8) {n : ℕ} (sized : bytes.length = n) :
    (List.range n).map (fun k => bytes.getD k 0) = bytes := by
  subst sized
  refine List.ext_getElem (by simp) fun k _ inside => ?_
  simp [List.getElem?_eq_getElem inside]

/-- A 16-bit field read back. -/
theorem UInt16.ofNat_toNat_mod (x : UInt16) : UInt16.ofNat (x.toNat % 256 ^ 2) = x := by
  have fits : x.toNat < 256 ^ 2 := x.toBitVec.isLt
  rw [Nat.mod_eq_of_lt fits]
  exact UInt16.toNat.inj (UInt16.toNat_ofNat_of_lt x.toNat_lt_size)

/-- A 32-bit field read back. -/
theorem UInt32.ofNat_toNat_mod (x : UInt32) : UInt32.ofNat (x.toNat % 256 ^ 4) = x := by
  have fits : x.toNat < 256 ^ 4 := x.toBitVec.isLt
  rw [Nat.mod_eq_of_lt fits]
  exact UInt32.toNat.inj (UInt32.toNat_ofNat_of_lt x.toNat_lt_size)

/-- A 64-bit field read back. -/
theorem UInt64.ofNat_toNat_mod (x : UInt64) : UInt64.ofNat (x.toNat % 256 ^ 8) = x := by
  have fits : x.toNat < 256 ^ 8 := x.toBitVec.isLt
  rw [Nat.mod_eq_of_lt fits]
  exact UInt64.toNat.inj (UInt64.toNat_ofNat_of_lt x.toNat_lt_size)

/-- Counts kept in a `uint64_t` add up modulo `2 ^ 64`. -/
theorem UInt64.ofNat_add (x y : ℕ) : UInt64.ofNat (x + y) = UInt64.ofNat x + UInt64.ofNat y :=
  congrArg UInt64.mk (BitVec.ofNat_add x y)

/-- A `uint32_t` counter below its maximum goes up by one. -/
theorem UInt32.toNat_add_one {x : UInt32} (below : x.toNat + 1 < 2 ^ 32) :
    (x + 1).toNat = x.toNat + 1 := by
  show (x.toBitVec + 1#32).toNat = _
  rw [BitVec.toNat_add, Nat.mod_eq_of_lt (by simpa using below)]
  rfl

/-- `std::vector::resize(count, value)`: the first `count` elements, padded with `value`. -/
def resize {α : Type} (elements : List α) (count : ℕ) (value : α) : List α :=
  elements.take count ++ List.replicate (count - elements.length) value

@[simp]
theorem length_resize {α : Type} (elements : List α) (count : ℕ) (value : α) :
    (resize elements count value).length = count := by
  simp only [resize, List.length_append, List.length_take, List.length_replicate]
  omega

/-- An input file stream (`std::ifstream`) opened in binary mode: the bytes not yet
read and the state bits. -/
structure IStream where
  isOpen : Bool
  rest : List UInt8
  failbit : Bool := false
  eofbit : Bool := false
  gcount : ℕ := 0
  deriving Repr, DecidableEq

namespace IStream

/-- `file.good()`. -/
def good (file : IStream) : Bool := !file.failbit && !file.eofbit

/-- `file.read(buffer, count)`: the bytes extracted and the stream afterwards. A short
read sets `failbit` and `eofbit`; on a stream that is not `good()` nothing is read. -/
def read (file : IStream) (count : ℕ) : List UInt8 × IStream :=
  if file.good then
    let got := file.rest.take count
    let short := decide (got.length < count)
    (got, { file with rest := file.rest.drop count, gcount := got.length,
                      failbit := short, eofbit := short })
  else ([], { file with failbit := true, gcount := 0 })

/-- A read extracts at most the bytes it asked for, so `gcount()` is at most the count of
the last read. -/
theorem gcount_read_le (file : IStream) (count : ℕ) : (file.read count).2.gcount ≤ count := by
  unfold read
  split <;> simp [Nat.min_le_left]

/-- A read extracts at most the bytes it asked for. -/
theorem length_read_le (file : IStream) (count : ℕ) : (file.read count).1.length ≤ count := by
  unfold read
  split <;> simp [Nat.min_le_left]

/-- A read on a good stream with enough bytes left extracts exactly the bytes asked for. -/
theorem read_of_le {file : IStream} {count : ℕ} (good : file.good)
    (enough : count ≤ file.rest.length) :
    file.read count = (file.rest.take count,
      { file with rest := file.rest.drop count, gcount := count, failbit := false,
                  eofbit := false }) := by
  simp [read, good, Nat.min_eq_left enough]

end IStream

/-- The read loops of the deserializers, `for (auto& element : elements) {
file.read(&element, size); if (file.fail() || file.gcount() != size) throw ...; }`.
`load got old` is the element after the bytes `got` were read over `old`: a short read
overwrites the element in part before the loop throws. Whether the loop ran to its end,
the elements and the stream. -/
def readElements {α : Type} (size : ℕ) (load : List UInt8 → α → α) (file : IStream) :
    List α → Bool × List α × IStream
  | [] => (true, [], file)
  | old :: rest =>
    let step := file.read size
    if step.2.failbit || step.2.gcount != size then (false, load step.1 old :: rest, step.2)
    else
      let tail := readElements size load step.2 rest
      (tail.1, load step.1 old :: tail.2.1, tail.2.2)

/-- The read loops keep the number of elements. -/
@[simp]
theorem length_readElements {α : Type} (size : ℕ) (load : List UInt8 → α → α) (file : IStream)
    (elements : List α) : (readElements size load file elements).2.1.length = elements.length := by
  induction elements generalizing file with
  | nil => rfl
  | cons old rest ih =>
    simp only [readElements]
    split <;> simp [ih]

/-- The read loops on a stream that holds a full chunk of bytes for every element: the loop
runs to its end, each element loaded from its chunk, and the stream is left good after the
chunks. -/
theorem readElements_of_chunks {α : Type} (size : ℕ) (load : List UInt8 → α → α) :
    ∀ (elements : List α) (chunks : List (List UInt8)) (file : IStream) (rest : List UInt8),
      chunks.length = elements.length → (∀ chunk ∈ chunks, chunk.length = size) →
      file.good → file.rest = chunks.flatten ++ rest →
      (readElements size load file elements).1 = true ∧
        (readElements size load file elements).2.1 = List.zipWith load chunks elements ∧
        (readElements size load file elements).2.2.good ∧
        (readElements size load file elements).2.2.rest = rest
  | [], [], _, _, _, _, good, stored => ⟨rfl, rfl, good, by simpa using stored⟩
  | old :: elements, chunk :: chunks, file, rest, same, sized, good, stored => by
    have chunkLength := sized chunk (List.mem_cons_self _ _)
    have step := IStream.read_of_le good
      (show size ≤ file.rest.length by simp [stored, chunkLength])
    rw [stored, List.flatten_cons, List.append_assoc, List.take_left' chunkLength,
      List.drop_left' chunkLength] at step
    obtain ⟨done, loaded, stillGood, left⟩ := readElements_of_chunks size load elements chunks
      { file with
        rest := chunks.flatten ++ rest, gcount := size, failbit := false, eofbit := false }
      rest (by simpa using same) (fun c mem => sized c (List.mem_cons_of_mem _ mem)) rfl rfl
    simp only [readElements, step, Bool.false_or, bne_self_eq_false, Bool.false_eq_true, if_false,
      List.zipWith_cons_cons]
    exact ⟨done, by rw [loaded], stillGood, left⟩

/-- Elements read back from their own encodings, whatever the elements they are read over. -/
theorem zipWith_map_of_load {α β : Type} (load : β → α → α) (encode : α → β)
    (readBack : ∀ element old, load (encode element) old = element) :
    ∀ (elements olds : List α), olds.length = elements.length →
      List.zipWith load (elements.map encode) olds = elements
  | [], _, _ => by simp
  | _ :: _, [], same => by simp at same
  | element :: elements, old :: olds, same => by
    rw [List.map_cons, List.zipWith_cons_cons, readBack,
      zipWith_map_of_load load encode readBack elements olds (by simpa using same)]

/-- An element of a `std::vector<bool>` read by the bitmap loops of the deserializers,
`for (auto& is_free : bits) file.read(reinterpret_cast<char*>(&is_free), sizeof(bool))`. The
elements of a `std::vector<bool>` are proxy objects, temporaries that refer to one bit, and a
non-const `auto&` cannot bind to one, so the loop as written does not compile. In the form
that does, `auto&&` (or `auto`), `&is_free` is the address of the proxy: the byte read lands
in the proxy's own storage, which is then discarded, and the bit keeps its value. -/
def readIntoProxy (_got : List UInt8) (old : Bool) : Bool := old

/-- The bitmap loops consume one byte per bit and store none. -/
@[simp]
theorem readElements_readIntoProxy (file : IStream) (bits : List Bool) :
    (readElements 1 readIntoProxy file bits).2.1 = bits := by
  induction bits generalizing file with
  | nil => rfl
  | cons bit bits ih =>
    simp only [readElements]
    split <;> simp [ih, readIntoProxy]

/-- An output file stream (`std::ofstream`) opened in binary mode: the bytes written and
the failure bit. -/
structure OStream where
  isOpen : Bool
  written : List UInt8
  failbit : Bool := false
  deriving Repr, DecidableEq

/-- `file.write(buffer, count)`: a failed stream writes nothing. -/
def OStream.write (file : OStream) (bytes : List UInt8) : OStream :=
  if file.failbit then file else { file with written := file.written ++ bytes }

/-- The write loops of the serializers: on a stream that has not failed, the bytes of each
element appended in order. -/
theorem OStream.foldl_write {α : Type} (encode : α → List UInt8) :
    ∀ (elements : List α) (file : OStream),
      elements.foldl (fun file element => file.write (encode element)) file =
        if file.failbit then file else { file with written := file.written ++ elements.flatMap encode }
  | [], file => by simp
  | element :: elements, file => by
    rw [List.foldl_cons, foldl_write encode elements]
    cases failed : file.failbit <;> simp [write, failed]

end Dfs
