import Dfs.Basic

/-!
# The shift-and-xor checksum

`Inode::calculate_checksum`, `SuperBlock::calculate_checksum` and the two payload loops of
`LogEntry::update_checksum` run one loop over bytes: shift the 32-bit state left by one, xor
the byte in, and xor in the CRC-32 polynomial `0x04C11DB7` when bit 31 is then set.
`crcStep` is one iteration of it.

The byte enters below bit 8, so bit 31 after the shift is bit 30 before it: a step is
`feedback` of the state, xor the byte (`crcStep_eq`), and `feedback` is linear over
exclusive or (`feedback_xor`). Two runs over the same bytes from states `s` and `t` end
`feedback` iterated on `s ^^^ t` apart (`foldl_crcStep_xor`). `feedback` loses bit 31 alone:
it maps only `0` and `0x80000000` to `0` (`feedback_eq_zero`), and never yields
`0x80000000` (`feedback_ne_top`). So every other difference survives all later bytes, and
one changed byte always changes the result (`foldl_crcStep_set_ne`), while a difference in
bit 31 alone is shifted out by the next byte.

`is_valid` of an inode and of the superblock compares the checksum stored in the record
with the one computed over the record's bytes with that field zeroed (`ChecksumHolds`).
Changing one byte of a record that passes the test, inside the field or outside it, makes
it fail (`not_checksumHolds_set`).
-/

namespace Dfs

/-- One iteration of the checksum loop: shift a byte in, then reduce by the CRC-32
polynomial when bit 31 is set. -/
def crcStep (checksum : UInt32) (byte : UInt8) : UInt32 :=
  let shifted := (checksum <<< 1) ^^^ byte.toUInt32
  if shifted &&& 0x80000000 != 0 then shifted ^^^ 0x04C11DB7 else shifted

/-- The part of `crcStep` that acts on the state: the shift, and the polynomial when bit 30
is about to become bit 31. -/
def feedback (checksum : UInt32) : UInt32 :=
  if checksum &&& 0x40000000 != 0 then (checksum <<< 1) ^^^ 0x04C11DB7 else checksum <<< 1

/-- Two byte strings of the same length that differ in exactly one position. -/
def DifferAtOnePosition (a a' : List UInt8) : Prop :=
  a.length = a'.length ∧ ∃ k : ℕ, a[k]? ≠ a'[k]? ∧ ∀ j : ℕ, j ≠ k → a[j]? = a'[j]?

/-- The checksum test of `is_valid` on a record whose bytes are `front`, the stored
checksum, then `back`: the stored value is the one the loop computes from `0` over the
record with that field zeroed. -/
def ChecksumHolds (front back : List UInt8) (stored : UInt32) : Prop :=
  stored = (front ++ leBytes 4 0 ++ back).foldl crcStep 0

section Words

@[simp]
theorem UInt32.toBitVec_xor (a b : UInt32) : (a ^^^ b).toBitVec = a.toBitVec ^^^ b.toBitVec :=
  rfl

@[simp]
theorem UInt32.toBitVec_shiftLeft_one (a : UInt32) : (a <<< 1).toBitVec = a.toBitVec <<< 1 :=
  rfl

theorem UInt32.xor_self (a : UInt32) : a ^^^ a = 0 := UInt32.eq_of_toBitVec_eq BitVec.xor_self

theorem UInt32.xor_zero (a : UInt32) : a ^^^ 0 = a := UInt32.eq_of_toBitVec_eq BitVec.xor_zero

theorem UInt32.zero_xor (a : UInt32) : 0 ^^^ a = a := UInt32.eq_of_toBitVec_eq BitVec.zero_xor

theorem UInt32.eq_of_xor_eq_zero {a b : UInt32} (zero : a ^^^ b = 0) : a = b :=
  UInt32.eq_of_toBitVec_eq <| by
    simpa [BitVec.xor_assoc] using congrArg (· ^^^ b.toBitVec) (congrArg UInt32.toBitVec zero)

theorem UInt32.xor_eq_zero_iff {a b : UInt32} : a ^^^ b = 0 ↔ a = b :=
  ⟨UInt32.eq_of_xor_eq_zero, fun same => same ▸ UInt32.xor_self a⟩

theorem getLsbD_toUInt32 (b : UInt8) (i : ℕ) :
    b.toUInt32.toBitVec.getLsbD i = b.toNat.testBit i := by
  simp [UInt8.toUInt32, BitVec.getLsbD, BitVec.ofFin, UInt8.toNat]

/-- A byte read as a word has bit 31 clear. -/
theorem getLsbD_toUInt32_31 (b : UInt8) : b.toUInt32.toBitVec.getLsbD 31 = false := by
  rw [getLsbD_toUInt32]
  exact Nat.testBit_lt_two_pow (Nat.lt_trans b.toBitVec.isLt (by decide))

/-- A test against a one-bit mask reads that bit. -/
theorem and_bne_zero (x mask : UInt32) (n : ℕ) (lt : n < 32)
    (isMask : mask.toBitVec = BitVec.ofNat 32 (2 ^ n)) :
    (x &&& mask != 0) = x.toBitVec.getLsbD n := by
  have masked : (x &&& mask).toBitVec =
      if x.toBitVec.getLsbD n then BitVec.ofNat 32 (2 ^ n) else 0#32 := by
    show x.toBitVec &&& mask.toBitVec = _
    rw [isMask]
    ext ⟨i, _⟩
    by_cases same : i = n
    · subst same
      cases bit : x.toBitVec.getLsbD i <;> simp [BitVec.getLsbD_ofNat, Nat.testBit_two_pow, *]
    · split <;> simp [BitVec.getLsbD_ofNat, Nat.testBit_two_pow, Ne.symm same]
  cases bit : x.toBitVec.getLsbD n
  · have zero : x &&& mask = 0 := UInt32.eq_of_toBitVec_eq (by rw [masked, bit]; rfl)
    simp [zero]
  · have small : 2 ^ n < 2 ^ 32 := Nat.pow_lt_pow_right (by decide) lt
    have nonzero : x &&& mask ≠ 0 := fun zero => by
      have value := congrArg (·.toBitVec.toNat) zero
      simp only [masked, bit, if_true, BitVec.toNat_ofNat, Nat.mod_eq_of_lt small] at value
      exact Nat.pos_pow_of_pos n (by decide) |>.ne' value
    simp [nonzero]

end Words

section Feedback

theorem feedback_toBitVec (s : UInt32) : (feedback s).toBitVec =
    (s.toBitVec <<< 1) ^^^ (if s.toBitVec.getLsbD 30 then 0x04C11DB7#32 else 0#32) := by
  unfold feedback
  rw [and_bne_zero _ 0x40000000 30 (by decide) rfl]
  cases s.toBitVec.getLsbD 30
  · exact BitVec.xor_zero.symm
  · rfl

/-- A step is the state's feedback, xor the byte. -/
theorem crcStep_eq (s : UInt32) (b : UInt8) : crcStep s b = feedback s ^^^ b.toUInt32 := by
  have top : ((s <<< 1) ^^^ b.toUInt32).toBitVec.getLsbD 31 = s.toBitVec.getLsbD 30 := by
    simp [getLsbD_toUInt32_31]
  unfold crcStep feedback
  dsimp only
  rw [and_bne_zero _ 0x80000000 31 (by decide) rfl, and_bne_zero _ 0x40000000 30 (by decide) rfl,
    top]
  apply UInt32.eq_of_toBitVec_eq
  cases s.toBitVec.getLsbD 30
  · rfl
  · simp only [if_true, UInt32.toBitVec_xor]
    ac_rfl

theorem ite_xor_ite (x y : Bool) (p : BitVec 32) :
    ((if x then p else 0#32) ^^^ if y then p else 0#32) = if (x ^^ y) then p else 0#32 := by
  cases x <;> cases y <;> simp

/-- `feedback` is linear over exclusive or. -/
theorem feedback_xor (s t : UInt32) : feedback (s ^^^ t) = feedback s ^^^ feedback t := by
  apply UInt32.eq_of_toBitVec_eq
  rw [UInt32.toBitVec_xor, feedback_toBitVec, feedback_toBitVec, feedback_toBitVec,
    UInt32.toBitVec_xor, BitVec.getLsbD_xor, BitVec.shiftLeft_xor_distrib, ← ite_xor_ite]
  ac_rfl

/-- `feedback` never yields `0x80000000`: bits 0 and 31 of its result are both bit 30 of
its argument. -/
theorem feedback_ne_top (d : UInt32) : feedback d ≠ 0x80000000 := fun top => by
  have bits := congrArg UInt32.toBitVec top
  rw [feedback_toBitVec] at bits
  have bit0 := congrArg (BitVec.getLsbD · 0) bits
  have bit31 := congrArg (BitVec.getLsbD · 31) bits
  cases h : d.toBitVec.getLsbD 30 <;> simp [h] at bit0 bit31

/-- Only `0` and `0x80000000` have feedback `0`. -/
theorem feedback_eq_zero {d : UInt32} (zero : feedback d = 0) : d = 0 ∨ d = 0x80000000 := by
  have bits := congrArg UInt32.toBitVec zero
  rw [feedback_toBitVec] at bits
  have bit30 : d.toBitVec.getLsbD 30 = false := by
    have top := congrArg (BitVec.getLsbD · 31) bits
    cases h : d.toBitVec.getLsbD 30
    · rfl
    · simp [h] at top
  rw [bit30, if_neg Bool.false_ne_true, BitVec.xor_zero] at bits
  have low (i : ℕ) (lt : i < 31) : d.toBitVec.getLsbD i = false := by
    simpa [show i + 1 < 32 by omega] using congrArg (BitVec.getLsbD · (i + 1)) bits
  have top31 (i : ℕ) (lt : i < 32) (notLow : ¬i < 31) : i = 31 := by omega
  cases bit31 : d.toBitVec.getLsbD 31
  · refine .inl (UInt32.eq_of_toBitVec_eq (BitVec.eq_of_getLsbD_eq fun ⟨i, lt⟩ => ?_))
    by_cases below : i < 31
    · simp [low i below]
    · simp [top31 i lt below, bit31]
  · refine .inr (UInt32.eq_of_toBitVec_eq (BitVec.eq_of_getLsbD_eq fun ⟨i, lt⟩ => ?_))
    by_cases below : i < 31
    · simp only [low i below, UInt32.toBitVec_ofNat, BitVec.getLsbD_ofNat,
        show (2147483648 : ℕ) = 2 ^ 31 from rfl, Nat.testBit_two_pow, lt, decide_True,
        Bool.true_and]
      exact (decide_eq_false (by omega)).symm
    · simp [top31 i lt below, bit31]

/-- A difference other than `0` and `0x80000000` stays one under every iteration of
`feedback`. -/
theorem iterate_feedback_ne {d : UInt32} (nonzero : d ≠ 0) (notTop : d ≠ 0x80000000) :
    ∀ n, feedback^[n] d ≠ 0 ∧ feedback^[n] d ≠ 0x80000000
  | 0 => ⟨nonzero, notTop⟩
  | n + 1 => by
    have next : feedback d ≠ 0 := fun zero => (feedback_eq_zero zero).elim nonzero notTop
    exact iterate_feedback_ne next (feedback_ne_top d) n

/-- An iterated `feedback` is `0` exactly on `0`, and on `0x80000000` after at least one
step. -/
theorem iterate_feedback_eq_zero_iff (d : UInt32) (n : ℕ) :
    feedback^[n] d = 0 ↔ d = 0 ∨ d = 0x80000000 ∧ 0 < n := by
  constructor
  · intro zero
    by_contra neither
    rw [not_or, not_and_or, Nat.not_lt, Nat.le_zero] at neither
    rcases neither with ⟨nonzero, notTop | rfl⟩
    · exact (iterate_feedback_ne nonzero notTop n).1 zero
    · exact nonzero zero
  · rintro (rfl | ⟨rfl, positive⟩)
    · exact Function.iterate_fixed rfl n
    · obtain ⟨m, rfl⟩ := Nat.exists_eq_add_of_lt positive
      rw [Function.iterate_succ_apply, Nat.zero_add, show feedback 0x80000000 = 0 from rfl]
      exact Function.iterate_fixed rfl m

end Feedback

section Loop

/-- Two different bytes read as words differ in neither `0` nor `0x80000000`. -/
theorem toUInt32_xor_ne {x y : UInt8} (differ : x ≠ y) :
    x.toUInt32 ^^^ y.toUInt32 ≠ 0 ∧ x.toUInt32 ^^^ y.toUInt32 ≠ 0x80000000 := by
  refine ⟨fun zero => differ (UInt8.toNat.inj ?_), fun top => ?_⟩
  · exact congrArg UInt32.toNat (UInt32.eq_of_xor_eq_zero zero)
  · have bit31 := congrArg (·.toBitVec.getLsbD 31) top
    simp [getLsbD_toUInt32_31] at bit31

/-- Two steps on the same byte end `feedback` of their difference apart. -/
theorem crcStep_xor (s t : UInt32) (x y : UInt8) :
    crcStep s x ^^^ crcStep t y = feedback (s ^^^ t) ^^^ (x.toUInt32 ^^^ y.toUInt32) := by
  rw [crcStep_eq, crcStep_eq, feedback_xor]
  apply UInt32.eq_of_toBitVec_eq
  simp only [UInt32.toBitVec_xor]
  ac_rfl

/-- Two runs of the loop over the same bytes end `feedback` iterated on their difference
apart. -/
theorem foldl_crcStep_xor (bytes : List UInt8) (s t : UInt32) :
    bytes.foldl crcStep s ^^^ bytes.foldl crcStep t = feedback^[bytes.length] (s ^^^ t) := by
  induction bytes generalizing s t with
  | nil => rfl
  | cons b bytes ih =>
    rw [List.foldl_cons, List.foldl_cons, ih, crcStep_xor, UInt32.xor_self, UInt32.xor_zero]
    rfl

/-- Runs from states whose difference is neither `0` nor `0x80000000` end apart. -/
theorem foldl_crcStep_ne {s t : UInt32} (nonzero : s ^^^ t ≠ 0) (notTop : s ^^^ t ≠ 0x80000000)
    (bytes : List UInt8) : bytes.foldl crcStep s ≠ bytes.foldl crcStep t := fun same =>
  (iterate_feedback_ne nonzero notTop bytes.length).1 <| by
    rw [← foldl_crcStep_xor, same, UInt32.xor_self]

/-- Changing one byte changes the result of the loop. -/
theorem foldl_crcStep_set_ne (s : UInt32) {bytes : List UInt8} {k : ℕ} {y : UInt8}
    (inside : k < bytes.length) (changed : bytes[k]? ≠ some y) :
    (bytes.set k y).foldl crcStep s ≠ bytes.foldl crcStep s := by
  have split := @List.set_eq_take_append_cons_drop _ bytes k y
  rw [if_pos inside] at split
  conv => rhs; rw [← List.take_append_drop k bytes, List.drop_eq_getElem_cons inside]
  rw [split, List.foldl_append, List.foldl_append, List.foldl_cons, List.foldl_cons]
  have byteDiff := toUInt32_xor_ne (x := y) (y := bytes[k]) fun same => changed <| by
    rw [same, List.getElem?_eq_getElem]
  have apart := crcStep_xor (List.foldl crcStep s (List.take k bytes))
    (List.foldl crcStep s (List.take k bytes)) y bytes[k]
  rw [UInt32.xor_self, show feedback 0 = 0 from rfl, UInt32.zero_xor] at apart
  rw [← apart] at byteDiff
  exact foldl_crcStep_ne byteDiff.1 byteDiff.2 _

end Loop

section Records

/-- A byte changed to another value leaves the string one position away. -/
theorem differAtOnePosition_set {a : List UInt8} {k : ℕ} {y : UInt8} (inside : k < a.length)
    (changed : a[k]? ≠ some y) : DifferAtOnePosition a (a.set k y) :=
  ⟨(List.length_set a k y).symm, k, by rw [List.getElem?_set_self inside]; exact changed,
    fun _ other => (List.getElem?_set_ne (Ne.symm other)).symm⟩

/-- Two byte strings that differ in exactly one position: the second is the first with one
byte replaced by another. -/
theorem set_of_differAtOnePosition {a a' : List UInt8} (differ : DifferAtOnePosition a a') :
    ∃ k y, k < a.length ∧ a[k]? ≠ some y ∧ a' = a.set k y := by
  obtain ⟨sameLength, k, atK, elsewhere⟩ := differ
  have inside : k < a'.length := by
    by_contra outside
    rw [List.getElem?_eq_none (by omega), List.getElem?_eq_none (by omega)] at atK
    exact atK rfl
  refine ⟨k, a'[k], by omega, by rwa [← List.getElem?_eq_getElem],
    List.ext_getElem? fun j => ?_⟩
  rw [List.getElem?_set]
  split
  · subst_vars
    rw [if_pos (by omega), List.getElem?_eq_getElem]
  · exact (elsewhere j (Ne.symm ‹_›)).symm

/-- A change at one position of a prefix is a change at one position of the whole string. -/
theorem DifferAtOnePosition.append_right {a a' : List UInt8} (differ : DifferAtOnePosition a a')
    (rest : List UInt8) : DifferAtOnePosition (a ++ rest) (a' ++ rest) := by
  obtain ⟨k, y, inside, changed, rfl⟩ := set_of_differAtOnePosition differ
  rw [← List.set_append_left k y inside]
  exact differAtOnePosition_set (by simp only [List.length_append]; omega)
    (by rwa [List.getElem?_append_left inside])

/-- A stored checksum is determined by its four bytes. -/
theorem eq_of_leBytes_eq {a b : UInt32} (same : leBytes 4 a.toNat = leBytes 4 b.toNat) :
    a = b := by
  have values := congrArg leValue same
  have fits (c : UInt32) : c.toNat < 256 ^ 4 := c.toBitVec.isLt
  rw [leValue_leBytes, leValue_leBytes, Nat.mod_eq_of_lt (fits a), Nat.mod_eq_of_lt (fits b)]
    at values
  exact UInt32.toNat.inj values

/-- Corrupting one byte of a record that passes the checksum test makes it fail: a byte of
the stored checksum changes the stored value and not the computed one, any other byte the
computed value and not the stored one. -/
theorem not_checksumHolds_set {front back front' back' : List UInt8} {stored stored' : UInt32}
    {k : ℕ} {y : UInt8} (inside : k < (front ++ leBytes 4 stored.toNat ++ back).length)
    (changed : (front ++ leBytes 4 stored.toNat ++ back)[k]? ≠ some y)
    (corrupted : front' ++ leBytes 4 stored'.toNat ++ back' =
      (front ++ leBytes 4 stored.toNat ++ back).set k y)
    (sameOffset : front'.length = front.length) (holds : ChecksumHolds front back stored) :
    ¬ChecksumHolds front' back' stored' := by
  unfold ChecksumHolds at holds ⊢
  simp only [List.length_append, length_leBytes] at inside
  rcases Nat.lt_or_ge k front.length with before | notBefore
  · -- a byte before the stored checksum
    rw [List.set_append_left _ _ (by simp; omega), List.set_append_left _ _ before] at corrupted
    obtain ⟨heads, sameBack⟩ := List.append_inj corrupted (by simp [sameOffset])
    obtain ⟨sameFront, sameField⟩ := List.append_inj heads (by simp [sameOffset])
    subst front' back'
    rw [eq_of_leBytes_eq sameField, holds, ← List.set_append_left _ _ before,
      ← List.set_append_left _ _ (by simp; omega)]
    refine Ne.symm (foldl_crcStep_set_ne 0 (by simp; omega) ?_)
    rwa [List.append_assoc, List.getElem?_append_left before, ← List.getElem?_append_left before,
      ← List.append_assoc]
  rcases Nat.lt_or_ge k (front.length + 4) with inField | after
  · -- a byte of the stored checksum
    rw [List.set_append_left _ _ (by simp; omega), List.set_append_right _ _ notBefore]
      at corrupted
    obtain ⟨heads, sameBack⟩ := List.append_inj corrupted (by simp [sameOffset])
    obtain ⟨sameFront, sameField⟩ := List.append_inj heads sameOffset
    subst front' back'
    intro holds'
    rw [holds'.trans holds.symm] at sameField
    apply changed
    calc (front ++ leBytes 4 stored.toNat ++ back)[k]?
        = (leBytes 4 stored.toNat)[k - front.length]? := by
          rw [List.append_assoc, List.getElem?_append_right notBefore,
            List.getElem?_append_left (by simp; omega)]
      _ = ((leBytes 4 stored.toNat).set (k - front.length) y)[k - front.length]? := by
          rw [← sameField]
      _ = some y := List.getElem?_set_self (by simp; omega)
  · -- a byte after the stored checksum
    have fieldEnd : (front ++ leBytes 4 stored.toNat).length ≤ k := by simp; omega
    rw [List.set_append_right _ _ fieldEnd] at corrupted
    obtain ⟨heads, sameBack⟩ := List.append_inj corrupted (by simp [sameOffset])
    obtain ⟨sameFront, sameField⟩ := List.append_inj heads sameOffset
    subst front' back'
    have zeroEnd : (front ++ leBytes 4 0).length ≤ k := by simp; omega
    have resealed : (front ++ leBytes 4 0 ++ back).set k y =
        front ++ leBytes 4 0 ++ back.set (k - (front.length + 4)) y := by
      rw [List.set_append_right _ _ zeroEnd]
      simp
    have sameByte : (front ++ leBytes 4 0 ++ back)[k]? =
        (front ++ leBytes 4 stored.toNat ++ back)[k]? := by
      rw [List.getElem?_append_right zeroEnd, List.getElem?_append_right fieldEnd]
      simp
    simp only [List.length_append, length_leBytes]
    rw [eq_of_leBytes_eq sameField, holds, ← resealed]
    exact Ne.symm (foldl_crcStep_set_ne 0 (by simp; omega) (sameByte ▸ changed))

/-- Byte strings that differ in one position give different results of the loop. -/
theorem foldl_crcStep_ne_of_differ (s : UInt32) {a a' : List UInt8}
    (differ : DifferAtOnePosition a a') : a.foldl crcStep s ≠ a'.foldl crcStep s := by
  obtain ⟨k, y, inside, changed, rfl⟩ := set_of_differAtOnePosition differ
  exact (foldl_crcStep_set_ne s inside changed).symm

/-- The checksum test of `is_valid` on a record of a fixed layout. `toBytes c` is the sealed
record's representation with `c` in its checksum field, `toBytes' c` the other record's: a
record one byte away from a sealed one fails the test. -/
theorem checksum_ne_of_differ (toBytes toBytes' : UInt32 → List UInt8) {offset : ℕ}
    {stored stored' : UInt32}
    (layout : ∃ front back : List UInt8, front.length = offset ∧
      ∀ c : UInt32, toBytes c = front ++ leBytes 4 c.toNat ++ back)
    (layout' : ∃ front back : List UInt8, front.length = offset ∧
      ∀ c : UInt32, toBytes' c = front ++ leBytes 4 c.toNat ++ back)
    (sealed : stored = (toBytes 0).foldl crcStep 0)
    (differ : DifferAtOnePosition (toBytes stored) (toBytes' stored')) :
    stored' ≠ (toBytes' 0).foldl crcStep 0 := by
  obtain ⟨front, back, offsetEq, split⟩ := layout
  obtain ⟨front', back', offsetEq', split'⟩ := layout'
  obtain ⟨k, y, inside, changed, corrupted⟩ := set_of_differAtOnePosition differ
  rw [split] at inside changed corrupted
  rw [split'] at corrupted
  have holds : ChecksumHolds front back stored := by
    rw [ChecksumHolds, sealed, split, UInt32.toNat_zero]
  intro holds'
  rw [split', UInt32.toNat_zero] at holds'
  exact not_checksumHolds_set inside changed corrupted (offsetEq'.trans offsetEq.symm) holds holds'

end Records

end Dfs
