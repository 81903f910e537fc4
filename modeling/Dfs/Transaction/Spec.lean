import Dfs.Transaction.Manager

/-!
# What the transaction manager's operations do

The map is stated through `find`, which determines it up to order (`find_eq_some_iff`): one
lemma for each way the operations change the map, then one inversion lemma per operation
that lists every branch it can take, with the map and the log afterwards.

The loop that writes the staged records writes them all while the device takes them. When
the device fails one, the records before it are in the log, that record is lost and the stream
fails: the loop still returns if it was the last record, and throws at the next one otherwise.
On a log that has failed already, only an empty batch gets through.
-/

namespace Dfs

namespace Wal

/-- On a failed stream the first `serialize` throws: only an empty batch gets through, and
nothing is written. -/
theorem writeLogEntries_of_failed {wal : Wal} (failed : wal.failed = true) :
    ∀ (entries : List LogEntry) (deviceFails : List Bool),
      wal.writeLogEntries entries deviceFails = if entries = [] then .ok wal else .error wal
  | [], _ => rfl
  | _ :: _, _ => by simp [writeLogEntries, writeLogEntry, failed]

/-- On a good stream where the device takes every write, the batch is appended. -/
theorem writeLogEntries_of_taken {wal : Wal} (good : wal.failed = false) :
    ∀ (entries : List LogEntry) (deviceFails : List Bool), failsSome entries deviceFails = false →
      wal.writeLogEntries entries deviceFails = .ok ⟨wal.records ++ entries, false⟩
  | [], _, _ => by simp [writeLogEntries, ← good]
  | entry :: entries, deviceFails, taken => by
    simp only [failsSome, Bool.or_eq_false_iff] at taken
    rw [writeLogEntries, writeLogEntry, if_neg (by simp [good]), if_neg (by rw [taken.1]; decide)]
    simpa using @writeLogEntries_of_taken { wal with records := wal.records ++ [entry] }
      good entries deviceFails.tail taken.2

/-- On a good stream where the device fails a write: the records before it are appended, the
record itself is lost and the stream fails. The loop returns normally when that record was the
last, and otherwise the next `serialize` throws. -/
theorem writeLogEntries_of_lost {wal : Wal} (good : wal.failed = false) :
    ∀ (entries : List LogEntry) (deviceFails : List Bool), failsSome entries deviceFails = true →
      ∃ written, written <+: entries ∧ written.length < entries.length ∧
        wal.writeLogEntries entries deviceFails =
          (if written.length + 1 = entries.length then Except.ok else Except.error)
            ⟨wal.records ++ written, true⟩
  | entry :: entries, deviceFails, lost => by
    rw [writeLogEntries, writeLogEntry, if_neg (by simp [good])]
    cases fails : deviceFails.headD false
    · simp only [failsSome, fails, Bool.false_or] at lost
      obtain ⟨written, isPrefix, shorter, loop⟩ :=
        @writeLogEntries_of_lost { wal with records := wal.records ++ [entry] } good
          entries deviceFails.tail lost
      refine ⟨entry :: written, List.cons_prefix_cons.mpr ⟨rfl, isPrefix⟩, by simpa using shorter,
        ?_⟩
      simpa using loop
    · refine ⟨[], List.nil_prefix, by simp, ?_⟩
      rw [if_pos rfl]
      simp only [@writeLogEntries_of_failed { wal with failed := true } rfl]
      cases entries <;> simp

/-- Every way the write loop returns: on a failed stream only with an empty batch; on a good
one with the batch appended, or with the device failing its last record, which is lost. -/
theorem writeLogEntries_ok {wal wal' : Wal} {entries : List LogEntry} {deviceFails : List Bool}
    (ok : wal.writeLogEntries entries deviceFails = .ok wal') :
    (wal.failed = true ∧ entries = [] ∧ wal' = wal) ∨
      (wal.failed = false ∧ failsSome entries deviceFails = false ∧
        wal' = ⟨wal.records ++ entries, false⟩) ∨
      (wal.failed = false ∧ failsSome entries deviceFails = true ∧
        ∃ written, written <+: entries ∧ written.length + 1 = entries.length ∧
          wal' = ⟨wal.records ++ written, true⟩) := by
  cases failed : wal.failed
  · cases lost : failsSome entries deviceFails
    · rw [writeLogEntries_of_taken failed _ _ lost] at ok
      exact .inr (.inl ⟨rfl, rfl, (Except.ok.inj ok).symm⟩)
    · obtain ⟨written, isPrefix, -, loop⟩ := writeLogEntries_of_lost failed _ _ lost
      rw [loop] at ok
      split at ok
      · exact .inr (.inr ⟨rfl, rfl, written, isPrefix, ‹_›, (Except.ok.inj ok).symm⟩)
      · cases ok
  · rw [writeLogEntries_of_failed failed] at ok
    split at ok
    · exact .inl ⟨rfl, ‹_›, (Except.ok.inj ok).symm⟩
    · cases ok

/-- Every way the write loop throws: at once on a failed stream, or on a good one at the
record after the one the device failed. -/
theorem writeLogEntries_error {wal wal' : Wal} {entries : List LogEntry}
    {deviceFails : List Bool} (thrown : wal.writeLogEntries entries deviceFails = .error wal') :
    (wal.failed = true ∧ entries ≠ [] ∧ wal' = wal) ∨
      (wal.failed = false ∧ failsSome entries deviceFails = true ∧
        ∃ written, written <+: entries ∧ written.length + 1 < entries.length ∧
          wal' = ⟨wal.records ++ written, true⟩) := by
  cases failed : wal.failed
  · cases lost : failsSome entries deviceFails
    · rw [writeLogEntries_of_taken failed _ _ lost] at thrown
      cases thrown
    · obtain ⟨written, isPrefix, shorter, loop⟩ := writeLogEntries_of_lost failed _ _ lost
      rw [loop] at thrown
      split at thrown
      · cases thrown
      · exact .inr ⟨rfl, rfl, written, isPrefix, by omega, (Except.error.inj thrown).symm⟩
  · rw [writeLogEntries_of_failed failed] at thrown
    split at thrown
    · cases thrown
    · exact .inl ⟨rfl, ‹_›, (Except.error.inj thrown).symm⟩

end Wal

namespace TransactionManager

variable (m : TransactionManager)

/-- A lookup finds exactly the transaction stored under the id. -/
theorem find_eq_some_iff {txId : ℕ} {tx : Transaction} :
    m.find txId = some tx ↔ tx ∈ m.activeTransactions ∧ tx.transactionId = txId := by
  constructor
  · intro found
    exact ⟨List.mem_of_find?_eq_some found, by simpa using List.find?_some found⟩
  · rintro ⟨mem, rfl⟩
    cases stored : m.find tx.transactionId with
    | none =>
      simp only [find, List.find?_eq_none] at stored
      exact absurd (by simp) (stored tx mem)
    | some other =>
      have same : other.transactionId = tx.transactionId := by simpa using List.find?_some stored
      rw [List.inj_on_of_nodup_map m.activeTransactions_nodup
        (List.mem_of_find?_eq_some stored) mem same]

theorem find_erase (txId other : ℕ) :
    (m.erase txId).find other = if other = txId then none else m.find other := by
  refine Option.ext fun tx => ?_
  simp only [Option.mem_def, find_eq_some_iff, erase, List.mem_filter, decide_eq_true_eq]
  split
  · simp only [reduceCtorEq, iff_false, not_and]
    rintro ⟨-, gone⟩ rfl
    exact gone ‹_›
  · rw [find_eq_some_iff]
    constructor
    · rintro ⟨⟨mem, -⟩, rfl⟩
      exact ⟨mem, rfl⟩
    · rintro ⟨mem, rfl⟩
      exact ⟨⟨mem, ‹_›⟩, rfl⟩

theorem find_modify (txId other : ℕ) (f : Transaction → Transaction) :
    (m.modify txId f).find other =
      if other = txId then (m.find txId).map fun tx => { f tx with transactionId := txId }
      else m.find other := by
  refine Option.ext fun tx => ?_
  simp only [Option.mem_def, find_eq_some_iff, modify, List.mem_map]
  split
  · subst other
    rw [Option.map_eq_some']
    simp only [find_eq_some_iff]
    constructor
    · rintro ⟨⟨old, mem, rfl⟩, same⟩
      by_cases stored : old.transactionId = txId
      · rw [if_pos stored]
        exact ⟨old, ⟨mem, stored⟩, by rw [stored]⟩
      · rw [if_neg stored] at same
        exact absurd same stored
    · rintro ⟨old, ⟨mem, stored⟩, rfl⟩
      exact ⟨⟨old, mem, by rw [if_pos stored, stored]⟩, rfl⟩
  · rw [find_eq_some_iff]
    constructor
    · rintro ⟨⟨old, mem, rfl⟩, same⟩
      by_cases stored : old.transactionId = txId
      · rw [if_pos stored] at same
        exact absurd (same.symm.trans stored) ‹_›
      · rw [if_neg stored] at same ⊢
        exact ⟨mem, same⟩
    · rintro ⟨mem, rfl⟩
      exact ⟨⟨tx, mem, by rw [if_neg ‹_›]⟩, rfl⟩

theorem find_beginTransaction (now other : ℕ) :
    (m.beginTransaction now).2.find other =
      if other = m.nextTransactionId then some (Transaction.new m.nextTransactionId now)
      else m.find other := by
  refine Option.ext fun tx => ?_
  simp only [Option.mem_def]
  rw [find_eq_some_iff]
  simp only [beginTransaction, List.mem_cons]
  split
  · subst other
    constructor
    · rintro ⟨fresh | mem, same⟩
      · rw [fresh]
      · have gone := (find_eq_some_iff _).mpr ⟨mem, same⟩
        rw [find_erase, if_pos rfl] at gone
        cases gone
    · rintro ⟨⟩
      exact ⟨.inl rfl, rfl⟩
  · rw [show m.find other = (m.erase m.nextTransactionId).find other by
      rw [find_erase, if_neg ‹_›], find_eq_some_iff]
    constructor
    · rintro ⟨fresh | mem, same⟩
      · subst fresh
        exact absurd same.symm ‹_›
      · exact ⟨mem, same⟩
    · rintro ⟨mem, same⟩
      exact ⟨.inr mem, same⟩

theorem find_cleanupExpiredTransactions (now other : ℕ) :
    (m.cleanupExpiredTransactions now).find other =
      (m.find other).filter fun tx => !tx.isExpired m.transactionTimeout now := by
  refine Option.ext fun tx => ?_
  simp only [Option.mem_def, Option.filter_eq_some, find_eq_some_iff, cleanupExpiredTransactions,
    List.mem_filter]
  constructor
  · rintro ⟨⟨mem, fresh⟩, rfl⟩
    exact ⟨⟨mem, rfl⟩, fresh⟩
  · rintro ⟨⟨mem, rfl⟩, fresh⟩
    exact ⟨⟨mem, fresh⟩, rfl⟩

theorem mem_expiredTransactions (now other : ℕ) :
    other ∈ m.expiredTransactions now ↔
      ∃ tx, m.find other = some tx ∧ tx.isExpired m.transactionTimeout now := by
  simp only [expiredTransactions, List.mem_map, List.mem_filter, find_eq_some_iff]
  constructor
  · rintro ⟨tx, ⟨mem, expired⟩, rfl⟩
    exact ⟨tx, ⟨mem, rfl⟩, expired⟩
  · rintro ⟨tx, ⟨mem, rfl⟩, expired⟩
    exact ⟨tx, ⟨mem, expired⟩, rfl⟩

@[simp]
theorem nextTransactionId_erase (txId : ℕ) :
    (m.erase txId).nextTransactionId = m.nextTransactionId := rfl

@[simp]
theorem logFile_modify (txId : ℕ) (f : Transaction → Transaction) :
    (m.modify txId f).logFile = m.logFile := rfl

@[simp]
theorem nextTransactionId_modify (txId : ℕ) (f : Transaction → Transaction) :
    (m.modify txId f).nextTransactionId = m.nextTransactionId := rfl

@[simp]
theorem logFile_beginTransaction (now : ℕ) : (m.beginTransaction now).2.logFile = m.logFile := rfl

@[simp]
theorem nextTransactionId_beginTransaction (now : ℕ) :
    (m.beginTransaction now).2.nextTransactionId = (m.nextTransactionId + 1) % 2 ^ 64 := rfl

@[simp]
theorem fst_beginTransaction (now : ℕ) : (m.beginTransaction now).1 = m.nextTransactionId := rfl

@[simp]
theorem logFile_cleanupExpiredTransactions (now : ℕ) :
    (m.cleanupExpiredTransactions now).logFile = m.logFile := rfl

@[simp]
theorem nextTransactionId_cleanupExpiredTransactions (now : ℕ) :
    (m.cleanupExpiredTransactions now).nextTransactionId = m.nextTransactionId := rfl

/-- Every branch of `add_log_entry`. -/
theorem addLogEntry_cases (txId : ℕ) (entry : LogEntry) :
    (m.find txId = none ∧ m.addLogEntry txId entry = (.error (.transactionNotFound txId), m)) ∨
      (∃ tx, m.find txId = some tx ∧ tx.isActive = false ∧
        m.addLogEntry txId entry =
          (.error (.transactionAborted txId "Transaction is not active"), m)) ∨
      (∃ tx, m.find txId = some tx ∧ tx.isActive = true ∧
        m.addLogEntry txId entry =
          (.ok (), m.modify txId fun tx =>
            { tx with logEntries := tx.logEntries ++ [entry.updateChecksum] })) := by
  unfold addLogEntry
  cases found : m.find txId with
  | none => exact .inl ⟨rfl, rfl⟩
  | some tx =>
    cases active : tx.isActive
    · exact .inr (.inl ⟨tx, rfl, active, by simp [active]⟩)
    · exact .inr (.inr ⟨tx, rfl, active, by simp [active]⟩)

/-- Every branch of `commit_transaction`. -/
theorem commitTransaction_cases (txId : ℕ) (deviceFails : List Bool) :
    (m.find txId = none ∧
        m.commitTransaction txId deviceFails = (.error (.transactionNotFound txId), m)) ∨
      (∃ tx, m.find txId = some tx ∧ tx.isAborted = true ∧
        m.commitTransaction txId deviceFails = (.ok false, m)) ∨
      (∃ tx, m.find txId = some tx ∧ tx.isAborted = false ∧ tx.isCommitted = true ∧
        m.commitTransaction txId deviceFails = (.ok true, m)) ∨
      (∃ tx logFile, m.find txId = some tx ∧ tx.isAborted = false ∧ tx.isCommitted = false ∧
        m.logFile.writeLogEntries tx.logEntries deviceFails = .ok logFile ∧
        m.commitTransaction txId deviceFails = (.ok true, { m.erase txId with logFile })) ∨
      (∃ tx logFile, m.find txId = some tx ∧ tx.isAborted = false ∧ tx.isCommitted = false ∧
        m.logFile.writeLogEntries tx.logEntries deviceFails = .error logFile ∧
        m.commitTransaction txId deviceFails =
          (.ok false, { m.modify txId (fun tx => { tx with isAborted := true, isActive := false })
                          with logFile })) := by
  unfold commitTransaction
  cases found : m.find txId with
  | none => exact .inl ⟨rfl, rfl⟩
  | some tx =>
    cases aborted : tx.isAborted
    · cases committed : tx.isCommitted
      · cases written : m.logFile.writeLogEntries tx.logEntries deviceFails with
        | ok logFile =>
          exact .inr (.inr (.inr (.inl ⟨tx, logFile, rfl, aborted, committed, written,
            by simp [aborted, committed, written]⟩)))
        | error logFile =>
          exact .inr (.inr (.inr (.inr ⟨tx, logFile, rfl, aborted, committed, written,
            by simp [aborted, committed, written]⟩)))
      · exact .inr (.inr (.inl ⟨tx, rfl, aborted, committed, by simp [aborted, committed]⟩))
    · exact .inr (.inl ⟨tx, rfl, aborted, by simp [aborted]⟩)

/-- Every branch of `rollback_transaction`. -/
theorem rollbackTransaction_cases (txId : ℕ) :
    (m.find txId = none ∧
        m.rollbackTransaction txId = (.error (.transactionNotFound txId), m)) ∨
      (∃ tx, m.find txId = some tx ∧ tx.isCommitted = true ∧
        m.rollbackTransaction txId = (.ok false, m)) ∨
      (∃ tx, m.find txId = some tx ∧ tx.isCommitted = false ∧ tx.isAborted = true ∧
        m.rollbackTransaction txId = (.ok true, m)) ∨
      (∃ tx, m.find txId = some tx ∧ tx.isCommitted = false ∧ tx.isAborted = false ∧
        m.rollbackTransaction txId = (.ok true, m.erase txId)) := by
  unfold rollbackTransaction
  cases found : m.find txId with
  | none => exact .inl ⟨rfl, rfl⟩
  | some tx =>
    cases committed : tx.isCommitted
    · cases aborted : tx.isAborted
      · exact .inr (.inr (.inr ⟨tx, rfl, committed, aborted, by simp [committed, aborted]⟩))
      · exact .inr (.inr (.inl ⟨tx, rfl, committed, aborted, by simp [committed, aborted]⟩))
    · exact .inr (.inl ⟨tx, rfl, committed, by simp [committed]⟩)

end TransactionManager

end Dfs
