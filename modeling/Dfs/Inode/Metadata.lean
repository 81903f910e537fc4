import Dfs.Inode.Basic
import Mathlib.Data.Nat.Bitwise
import Mathlib.Tactic.Ring

/-!
# Inode metadata: initialization, time stamps and the permission string

The member functions of `struct Inode` in `core/inode.cpp` that the inode table does not call:
`initialize`, `update_atime`, `update_mtime`, `update_ctime`, `update_checksum`, the file-type
tests and `get_permissions_string`.

The clock is an input: a call that reads `system_clock` takes the reading it got. Each of
these calls ends with `update_checksum()`, which hashes the record with its checksum field
zeroed, as `is_valid` does; so an inode initialized with a nonzero mode passes `is_valid` at
every clock reading not before any reading its calls took (`isValid_after_calls`). The
system clock may be set back; a reading after such a step makes the inode look as if it
came from the future, and `is_valid` refuses it.

The type and permission bits are those of `<sys/stat.h>`. `mode` is a `uint16_t` and every
mask fits in 16 bits, so `mode & S_IFMT` in `int` and in `uint16_t` agree.
`get_permissions_string` shows the nine permission bits in the `ls -l` layout: read back as
binary digits they are `mode % 512` (`permissions_string_shows_mode`).
-/

namespace Dfs

namespace Inode

/-! ### Mode bits -/

/-- `S_IFMT`: the file-type bits of a mode. -/
def S_IFMT : UInt16 := 0o170000

/-- `S_IFDIR`: the file type of a directory. -/
def S_IFDIR : UInt16 := 0o040000

/-- `S_IFREG`: the file type of a regular file. -/
def S_IFREG : UInt16 := 0o100000

/-- `S_IFLNK`: the file type of a symbolic link. -/
def S_IFLNK : UInt16 := 0o120000

/-- `S_IRUSR`, `S_IWUSR`, `S_IXUSR`: read, write and execute for the owner. -/
def S_IRUSR : UInt16 := 0o400
def S_IWUSR : UInt16 := 0o200
def S_IXUSR : UInt16 := 0o100

/-- `S_IRGRP`, `S_IWGRP`, `S_IXGRP`: read, write and execute for the group. -/
def S_IRGRP : UInt16 := 0o040
def S_IWGRP : UInt16 := 0o020
def S_IXGRP : UInt16 := 0o010

/-- `S_IROTH`, `S_IWOTH`, `S_IXOTH`: read, write and execute for the others. -/
def S_IROTH : UInt16 := 0o004
def S_IWOTH : UInt16 := 0o002
def S_IXOTH : UInt16 := 0o001

/-- `(mode & S_IFMT) == fileType`, the test of `is_directory`, `is_file` and `is_symlink`. -/
def hasType (inode : Inode) (fileType : UInt16) : Bool := (inode.mode &&& S_IFMT) == fileType

/-- `is_directory()`. -/
def isDirectory (inode : Inode) : Bool := inode.hasType S_IFDIR

/-- `is_file()`. -/
def isFile (inode : Inode) : Bool := inode.hasType S_IFREG

/-- `is_symlink()`. -/
def isSymlink (inode : Inode) : Bool := inode.hasType S_IFLNK

/-- `(mode & bit) ? letter : '-'`, one permission character of `get_permissions_string`. -/
def permissionChar (mode bit : UInt16) (letter : Char) : Char :=
  if mode &&& bit ≠ 0 then letter else '-'

/-- `get_permissions_string()`: `std::string perms(10, '-')` with each position assigned. -/
def getPermissionsString (inode : Inode) : String :=
  ⟨[if inode.isDirectory then 'd' else if inode.isSymlink then 'l'
      else if inode.isFile then '-' else '?',
    permissionChar inode.mode S_IRUSR 'r', permissionChar inode.mode S_IWUSR 'w',
    permissionChar inode.mode S_IXUSR 'x', permissionChar inode.mode S_IRGRP 'r',
    permissionChar inode.mode S_IWGRP 'w', permissionChar inode.mode S_IXGRP 'x',
    permissionChar inode.mode S_IROTH 'r', permissionChar inode.mode S_IWOTH 'w',
    permissionChar inode.mode S_IXOTH 'x']⟩

/-- The permission bits a string in the `ls -l` layout shows: its characters after the first,
read as binary digits, `-` a clear bit and any other character a set one. -/
def shownPermissions (perms : String) : ℕ :=
  (perms.data.drop 1).foldl (fun bits c => 2 * bits + if c = '-' then 0 else 1) 0

/-- A permission character is a binary digit of the mode: not `-` exactly when the bit
`2 ^ k` of the mode is set. -/
theorem digit_permissionChar (mode bit : UInt16) (letter : Char) {k : ℕ}
    (isBit : bit.toNat = 2 ^ k) (notDash : letter ≠ '-') :
    (if permissionChar mode bit letter = '-' then 0 else 1) = mode.toNat / 2 ^ k % 2 := by
  have masked : (mode &&& bit).toNat = (mode.toNat.testBit k).toNat * 2 ^ k := by
    rw [UInt16.and_toNat, isBit, Nat.and_two_pow]
  unfold permissionChar
  by_cases bitSet : mode.toNat / 2 ^ k % 2 = 1
  · have shown : mode &&& bit ≠ 0 := fun zero => by
      simp [zero, Nat.testBit_to_div_mod, bitSet] at masked
      exact absurd masked.symm (Nat.two_pow_pos k).ne'
    simp [shown, notDash, bitSet]
  · have hidden : mode &&& bit = 0 :=
      UInt16.toNat.inj (by simp [masked, Nat.testBit_to_div_mod, bitSet])
    simp [hidden]
    omega

/-- No mode has two file types. -/
theorem hasType_unique {inode : Inode} {a b : UInt16} (isA : inode.hasType a = true)
    (isB : inode.hasType b = true) : a = b := by
  simp only [hasType, beq_iff_eq] at isA isB
  exact isA.symm.trans isB

/-- `get_permissions_string` shows the mode: ten characters, the first `d` for a directory,
`l` for a symbolic link and `-` for a regular file, and the nine others the permission bits,
`mode % 512`, as binary digits. -/
theorem permissions_string_shows_mode (inode : Inode) :
    (getPermissionsString inode).length = 10 ∧
      ((getPermissionsString inode).front = 'd' ↔ inode.isDirectory = true) ∧
      ((getPermissionsString inode).front = 'l' ↔ inode.isSymlink = true) ∧
      ((getPermissionsString inode).front = '-' ↔ inode.isFile = true) ∧
      shownPermissions (getPermissionsString inode) = inode.mode.toNat % 512 := by
  have front : (getPermissionsString inode).front = if inode.isDirectory then 'd'
      else if inode.isSymlink then 'l' else if inode.isFile then '-' else '?' := rfl
  have dirLnk : inode.isDirectory → inode.isSymlink → False := fun dir lnk =>
    absurd (hasType_unique dir lnk) (by decide)
  have dirReg : inode.isDirectory → inode.isFile → False := fun dir reg =>
    absurd (hasType_unique dir reg) (by decide)
  have lnkReg : inode.isSymlink → inode.isFile → False := fun lnk reg =>
    absurd (hasType_unique lnk reg) (by decide)
  have digits : shownPermissions (getPermissionsString inode) = inode.mode.toNat % 512 := by
    simp only [shownPermissions, getPermissionsString, List.drop_one, List.tail_cons,
      List.foldl_cons, List.foldl_nil,
      digit_permissionChar inode.mode S_IRUSR 'r' (k := 8) rfl (by decide),
      digit_permissionChar inode.mode S_IWUSR 'w' (k := 7) rfl (by decide),
      digit_permissionChar inode.mode S_IXUSR 'x' (k := 6) rfl (by decide),
      digit_permissionChar inode.mode S_IRGRP 'r' (k := 5) rfl (by decide),
      digit_permissionChar inode.mode S_IWGRP 'w' (k := 4) rfl (by decide),
      digit_permissionChar inode.mode S_IXGRP 'x' (k := 3) rfl (by decide),
      digit_permissionChar inode.mode S_IROTH 'r' (k := 2) rfl (by decide),
      digit_permissionChar inode.mode S_IWOTH 'w' (k := 1) rfl (by decide),
      digit_permissionChar inode.mode S_IXOTH 'x' (k := 0) rfl (by decide)]
    rw [show (512 : ℕ) = 2 ^ 9 from rfl]
    simp only [Nat.mod_pow_succ, pow_zero, Nat.mod_one]
    ring
  refine ⟨rfl, ?_⟩
  rw [front, digits]
  cases dir : inode.isDirectory <;> cases lnk : inode.isSymlink <;>
    cases reg : inode.isFile <;> simp_all

example : getPermissionsString { default with mode := 0o40750 } = "drwxr-x---" := by decide

/-! ### Initialization and time stamps -/

/-- `Inode::initialize(file_mode, user_id, group_id)`, the clock reading `now`: every field
set, then `update_checksum()`. -/
def initializeWith (inode : Inode) (fileMode userId groupId : UInt16) (now : UInt64) : Inode :=
  updateChecksum { inode with
    mode := fileMode, uid := userId, gid := groupId, size := 0, blocks := 0, linkCount := 1,
    replicationCount := 1, atime := now, mtime := now, ctime := now,
    directBlocks := List.replicate 12 0, indirectBlock := 0, doubleIndirect := 0,
    tripleIndirect := 0, padding := List.replicate 32 0,
    directBlocks_length := List.length_replicate _ _, padding_length := List.length_replicate _ _ }

/-- The time stamps of an inode. -/
inductive Stamp where
  | atime | mtime | ctime
  deriving DecidableEq

/-- The inode with the time stamp `stamp` set to `now`. -/
def setStamp (inode : Inode) (now : UInt64) : Stamp → Inode
  | .atime => { inode with atime := now }
  | .mtime => { inode with mtime := now }
  | .ctime => { inode with ctime := now }

/-- `update_atime`, `update_mtime` and `update_ctime`, the clock reading `now`: the stamp set,
then `update_checksum()`. -/
def updateTime (stamp : Stamp) (inode : Inode) (now : UInt64) : Inode :=
  (inode.setStamp now stamp).updateChecksum

/-- `update_atime()`. -/
def updateAtime (inode : Inode) (now : UInt64) : Inode := updateTime .atime inode now

/-- `update_mtime()`. -/
def updateMtime (inode : Inode) (now : UInt64) : Inode := updateTime .mtime inode now

/-- `update_ctime()`. -/
def updateCtime (inode : Inode) (now : UInt64) : Inode := updateTime .ctime inode now

end Inode

/-- The public member functions of `struct Inode` that change it, with the clock readings
they take. -/
inductive InodeUpdate where
  | initializeWith (fileMode userId groupId : UInt16) (now : UInt64)
  | updateAtime (now : UInt64)
  | updateMtime (now : UInt64)
  | updateCtime (now : UInt64)
  | updateChecksum
  deriving DecidableEq

/-- The call sets a nonzero mode, if it sets one, and takes no clock reading after `now`. -/
def InodeUpdate.admissible (now : UInt64) : InodeUpdate → Bool
  | .initializeWith fileMode _ _ reading => fileMode != 0 && decide (reading ≤ now)
  | .updateAtime reading | .updateMtime reading | .updateCtime reading => decide (reading ≤ now)
  | .updateChecksum => true

namespace Inode

/-- One call on the inode. -/
def apply (inode : Inode) : InodeUpdate → Inode
  | .initializeWith fileMode userId groupId now => inode.initializeWith fileMode userId groupId now
  | .updateAtime now => inode.updateAtime now
  | .updateMtime now => inode.updateMtime now
  | .updateCtime now => inode.updateCtime now
  | .updateChecksum => inode.updateChecksum

/-- What `is_valid` checks at the clock reading `now`. -/
structure Intact (now : UInt64) (inode : Inode) : Prop where
  modeSet : inode.mode ≠ 0
  linked : inode.linkCount ≠ 0
  atime_le : inode.atime ≤ now
  mtime_le : inode.mtime ≤ now
  ctime_le : inode.ctime ≤ now
  checksummed : inode.checksum = calculateChecksum { inode with checksum := 0 }.toBytes

/-- `is_valid` at `now` holds exactly of the intact inodes. -/
theorem isValid_eq_true_iff {inode : Inode} {now : UInt64} :
    inode.isValid now = true ↔ Intact now inode := by
  unfold isValid
  constructor
  · intro valid
    split_ifs at valid with modeZero linkZero future
    obtain ⟨atime, mtime, ctime⟩ : ¬now < inode.atime ∧ ¬now < inode.mtime ∧ ¬now < inode.ctime :=
      by simpa only [not_or] using future
    exact ⟨modeZero, linkZero, UInt64.not_lt.mp atime, UInt64.not_lt.mp mtime,
      UInt64.not_lt.mp ctime, beq_iff_eq.mp valid⟩
  · rintro ⟨modeSet, linked, atime, mtime, ctime, checksummed⟩
    have notFuture : ¬(now < inode.atime ∨ now < inode.mtime ∨ now < inode.ctime) := by
      simp only [UInt64.not_lt, not_or]
      exact ⟨atime, mtime, ctime⟩
    rw [if_neg modeSet, if_neg linked, if_neg notFuture, checksummed, beq_self_eq_true]

/-- `update_checksum` makes an inode intact when all else `is_valid` checks holds. -/
theorem intact_updateChecksum {inode : Inode} {now : UInt64} (modeSet : inode.mode ≠ 0)
    (linked : inode.linkCount ≠ 0) (atime : inode.atime ≤ now) (mtime : inode.mtime ≤ now)
    (ctime : inode.ctime ≤ now) : Intact now inode.updateChecksum := by
  unfold updateChecksum
  constructor <;> dsimp only <;> assumption

/-- A time stamp set to a reading not after `now` keeps an inode intact. -/
theorem Intact.updateTime_of_le {inode : Inode} {now reading : UInt64} (intact : Intact now inode)
    (stamp : Stamp) (before : reading ≤ now) : Intact now (updateTime stamp inode reading) := by
  obtain ⟨modeSet, linked, atime, mtime, ctime, -⟩ := intact
  cases stamp
  · exact intact_updateChecksum modeSet linked before mtime ctime
  · exact intact_updateChecksum modeSet linked atime before ctime
  · exact intact_updateChecksum modeSet linked atime mtime before

/-- Each call allowed at `now` leaves an intact inode intact, and `initialize` makes any
inode intact. -/
theorem Intact.apply_call {inode : Inode} {now : UInt64} (intact : Intact now inode)
    (c : InodeUpdate) (admissible : c.admissible now = true) : Intact now (inode.apply c) := by
  cases c with
  | initializeWith fileMode userId groupId reading =>
    simp only [InodeUpdate.admissible, Bool.and_eq_true, bne_iff_ne, decide_eq_true_eq] at admissible
    obtain ⟨modeSet, before⟩ := admissible
    exact intact_updateChecksum modeSet (by decide : (1 : UInt32) ≠ 0) before before before
  | updateAtime reading => exact intact.updateTime_of_le .atime (of_decide_eq_true admissible)
  | updateMtime reading => exact intact.updateTime_of_le .mtime (of_decide_eq_true admissible)
  | updateCtime reading => exact intact.updateTime_of_le .ctime (of_decide_eq_true admissible)
  | updateChecksum =>
    exact intact_updateChecksum intact.modeSet intact.linked intact.atime_le intact.mtime_le
      intact.ctime_le

/-- An intact inode stays intact over every sequence of calls allowed at `now`. -/
theorem Intact.foldl_apply {now : UInt64} :
    ∀ (calls : List InodeUpdate) {inode : Inode}, Intact now inode →
      (∀ c ∈ calls, c.admissible now = true) → Intact now (calls.foldl apply inode)
  | [], _, intact, _ => intact
  | c :: calls, _, intact, admissible =>
    Intact.foldl_apply calls (intact.apply_call c (admissible c (List.mem_cons_self _ _)))
      fun c' mem => admissible c' (List.mem_cons_of_mem _ mem)

/-- An inode initialized with a nonzero mode, then changed by any sequence of `initialize`
with a nonzero mode, `update_atime`, `update_mtime`, `update_ctime` and `update_checksum`,
passes `is_valid` at every clock reading not before any reading those calls took. -/
theorem isValid_after_calls (inode : Inode) (fileMode userId groupId : UInt16)
    (start now : UInt64) (calls : List InodeUpdate) (modeSet : fileMode ≠ 0)
    (startedBefore : start ≤ now) (admissible : ∀ c ∈ calls, c.admissible now = true) :
    (calls.foldl apply (inode.initializeWith fileMode userId groupId start)).isValid now = true :=
  isValid_eq_true_iff.mpr <| Intact.foldl_apply calls
    (intact_updateChecksum modeSet (by decide : (1 : UInt32) ≠ 0) startedBefore startedBefore startedBefore)
    admissible

/-- A directory initialized at clock reading 100, its access and change times stamped at 120
and 130, is valid at 130. -/
theorem isValid_after_calls_directory :
    (0o40755 : UInt16) ≠ 0 ∧ (100 : UInt64) ≤ 130 ∧
      (∀ c ∈ [InodeUpdate.updateAtime 120, .updateCtime 130], c.admissible 130 = true) ∧
      ([InodeUpdate.updateAtime 120, .updateCtime 130].foldl apply
        (default.initializeWith 0o40755 1000 1000 100)).isValid 130 = true :=
  ⟨by decide, by decide, by decide,
    isValid_after_calls _ _ _ _ _ _ _ (by decide) (by decide) (by decide)⟩

end Inode

end Dfs
