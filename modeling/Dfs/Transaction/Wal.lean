import Dfs.Transaction.Spec
import Dfs.Transaction.Lifecycle

/-!
# What the write-ahead log holds

`commit_transaction` writes a transaction's staged records, one `write_log_entry` each, and
nothing else: no record marks a commit. The log therefore holds, after the records it was
opened with, the staged records of every commit whose writes the device took, batch after
batch in the order of the commits. The first write the device fails is lost without an
exception and fails the stream: the log then ends with the records of that commit's batch
before the lost one. The commit returns `true` if the lost record was the last of its batch,
and `false` otherwise, when the next `serialize` throws. The stream is never cleared, so
nothing is written after that, and every later commit with staged records returns `false`.

`WalHistory` computes these batches from the history of calls: the records each id has staged
since its begin, in the order `add_log_entry` accepted them, the batches the device took, and
the batch of the commit during which it failed a write. `RefinesLog` relates it to the
manager; every call keeps it.
-/

namespace Dfs

/-- The log as the history of calls determines it. -/
structure WalHistory where
  /-- The records staged under each id since its last begin. -/
  staged : ℕ → List LogEntry
  /-- The batches of the commits that returned `true` with every write taken, in order. -/
  committed : List LogEntry
  /-- The batch of the commit during which the device failed a write. -/
  torn : Option (List LogEntry)

namespace WalHistory

/-- Nothing staged or written. -/
def initial : WalHistory := ⟨fun _ => [], [], none⟩

/-- The step of one call and its reply. A commit that returns `true` either had every write
taken or lost its last record, as the device's failures on its batch say. -/
def update (w : WalHistory) : TransactionCall → TransactionReply → WalHistory
  | .beginTransaction _, .began txId =>
    { w with staged := fun n => if n = txId then [] else w.staged n }
  | .addLogEntry txId entry, .added (.ok ()) =>
    { w with
      staged := fun n => if n = txId then w.staged txId ++ [entry.updateChecksum] else w.staged n }
  | .commitTransaction txId deviceFails, .committed (.ok true) =>
    if Wal.failsSome (w.staged txId) deviceFails then { w with torn := some (w.staged txId) }
    else { w with committed := w.committed ++ w.staged txId }
  | .commitTransaction txId _, .committed (.ok false) =>
    { w with torn := w.torn.orElse fun _ => some (w.staged txId) }
  | _, _ => w

end WalHistory

namespace TransactionManager

/-- The refinement between the manager, opened on a log holding `log`, and the history of the
log: each stored transaction holds the records staged under its id and is not COMMITTED, and
one whose commit failed implies a failed stream; a good stream holds `log` and the committed
batches; a failed one holds after them the records of the torn batch before the lost one. -/
structure RefinesLog (log : List LogEntry) (m : TransactionManager) (w : WalHistory) : Prop where
  stored : ∀ n tx, m.find n = some tx → tx.logEntries = w.staged n ∧ tx.isCommitted = false ∧
    (tx.isAborted = true → m.logFile.failed = true)
  intact : m.logFile.failed = false → w.torn = none ∧ m.logFile.records = log ++ w.committed
  torn : m.logFile.failed = true → ∃ first written, w.torn = some first ∧ written <+: first ∧
    written.length < first.length ∧ m.logFile.records = log ++ w.committed ++ written

section Steps

variable {log : List LogEntry} {m : TransactionManager} {w : WalHistory}

/-- Removing transactions, with the log file as it was, keeps the refinement. -/
theorem RefinesLog.shrink (refines : RefinesLog log m w) {m' : TransactionManager}
    (logFile : m'.logFile = m.logFile) (each : ∀ n, m'.find n = none ∨ m'.find n = m.find n) :
    RefinesLog log m' w := by
  refine ⟨fun n tx found => ?_, logFile ▸ refines.intact, logFile ▸ refines.torn⟩
  rcases each n with gone | same
  · rw [gone] at found
    cases found
  · rw [logFile]
    exact refines.stored n tx (same ▸ found)

/-- The history's batch of the first failed commit stays once it is set. -/
theorem update_of_failed (refines : RefinesLog log m w) (failed : m.logFile.failed = true)
    (txId : ℕ) (deviceFails : List Bool) :
    w.update (.commitTransaction txId deviceFails) (.committed (.ok false)) = w := by
  obtain ⟨first, -, torn, -⟩ := refines.torn failed
  simp only [WalHistory.update, torn, Option.orElse]
  rw [← torn]

/-- A begin stages nothing under the id it returns. -/
theorem RefinesLog.beginTransaction (refines : RefinesLog log m w) (now : ℕ) :
    RefinesLog log (m.beginTransaction now).2
      (w.update (.beginTransaction now) (.began m.nextTransactionId)) := by
  refine ⟨fun n tx found => ?_, refines.intact, refines.torn⟩
  rw [find_beginTransaction] at found
  simp only [WalHistory.update, logFile_beginTransaction]
  split at found
  · cases found
    simp [Transaction.new, ‹n = _›]
  · rw [if_neg ‹_›]
    exact refines.stored n tx found

/-- A successful add stages the record, with its checksum updated, under its id. -/
theorem RefinesLog.addLogEntry (refines : RefinesLog log m w) (txId : ℕ) (entry : LogEntry) :
    RefinesLog log (m.addLogEntry txId entry).2
      (w.update (.addLogEntry txId entry) (.added (m.addLogEntry txId entry).1)) := by
  rcases m.addLogEntry_cases txId entry with ⟨-, eq⟩ | ⟨tx, -, -, eq⟩ | ⟨tx, found, -, eq⟩ <;>
    rw [eq]
  · exact refines
  · exact refines
  refine ⟨fun n tx' found' => ?_, refines.intact, refines.torn⟩
  rw [find_modify] at found'
  simp only [WalHistory.update, logFile_modify]
  split at found'
  · subst n
    rw [found] at found'
    cases found'
    obtain ⟨staged, notCommitted, aborted⟩ := refines.stored txId tx found
    exact ⟨by simp [staged], notCommitted, aborted⟩
  · rw [if_neg ‹_›]
    exact refines.stored n tx' found'

/-- Removing a transaction and writing to the log, which stays failed once it has failed, keeps
what the refinement says of the stored transactions. -/
theorem RefinesLog.stored_erase (refines : RefinesLog log m w) (txId : ℕ) {logFile : Wal}
    (stays : m.logFile.failed = true → logFile.failed = true) (n : ℕ) (tx : Transaction)
    (found : ({ m.erase txId with logFile } : TransactionManager).find n = some tx) :
    tx.logEntries = w.staged n ∧ tx.isCommitted = false ∧ (tx.isAborted = true → logFile.failed) := by
  have stored : (m.erase txId).find n = some tx := found
  rw [find_erase] at stored
  split at stored
  · cases stored
  · exact (refines.stored n tx stored).imp_right fun flags =>
      flags.imp_right fun implies aborted => stays (implies aborted)

/-- Every branch of `commit_transaction` keeps the refinement: a commit whose writes the device
takes appends its batch; one during which the device fails a write leaves the records before
the lost one on a failed stream, whether it returns `true` or `false`. -/
theorem RefinesLog.commitTransaction (refines : RefinesLog log m w) (txId : ℕ)
    (deviceFails : List Bool) :
    RefinesLog log (m.commitTransaction txId deviceFails).2
      (w.update (.commitTransaction txId deviceFails)
        (.committed (m.commitTransaction txId deviceFails).1)) := by
  rcases m.commitTransaction_cases txId deviceFails with ⟨-, eq⟩ | ⟨tx, found, aborted, eq⟩ |
    ⟨tx, found, -, committed, -⟩ | ⟨tx, wal, found, -, -, written, eq⟩ |
    ⟨tx, wal, found, -, -, written, eq⟩ <;>
    [rw [eq]; rw [eq]; skip; rw [eq]; rw [eq]]
  · exact refines
  · rw [update_of_failed refines ((refines.stored txId tx found).2.2 aborted)]
    exact refines
  · rw [(refines.stored txId tx found).2.1] at committed
    cases committed
  · rw [(refines.stored txId tx found).1] at written
    rcases Wal.writeLogEntries_ok written with ⟨failed, staged, rfl⟩ |
      ⟨good, taken, rfl⟩ | ⟨good, lost, part, isPrefix, last, rfl⟩
    · obtain ⟨first, part, torn, isPrefix, shorter, held⟩ := refines.torn failed
      simp only [WalHistory.update, staged, Wal.failsSome, Bool.false_eq_true, if_false,
        List.append_nil]
      exact ⟨refines.stored_erase txId id, fun good => (nomatch failed.symm.trans good),
        fun _ => ⟨first, part, torn, isPrefix, shorter, held⟩⟩
    · obtain ⟨torn, intact⟩ := refines.intact good
      simp only [WalHistory.update, taken, Bool.false_eq_true, if_false]
      exact ⟨refines.stored_erase txId fun failed => (nomatch good.symm.trans failed),
        fun _ => ⟨torn, by rw [intact, List.append_assoc]⟩, fun failed => (nomatch failed)⟩
    · simp only [WalHistory.update, lost, if_true]
      exact ⟨refines.stored_erase txId fun _ => rfl, fun failed => (nomatch failed),
        fun _ => ⟨_, part, rfl, isPrefix, by omega, by rw [(refines.intact good).2]⟩⟩
  · rw [(refines.stored txId tx found).1] at written
    have nowFailed : wal.failed = true := by
      rcases Wal.writeLogEntries_error written with ⟨failed, -, rfl⟩ | ⟨-, -, -, -, -, rfl⟩
      exacts [failed, rfl]
    refine ⟨fun n tx' found' => ?_, fun good => (nomatch nowFailed.symm.trans good), fun _ => ?_⟩
    · have stored : (m.modify txId _).find n = some tx' := found'
      rw [find_modify] at stored
      split at stored
      · subst n
        rw [found] at stored
        cases stored
        obtain ⟨staged, notCommitted, -⟩ := refines.stored txId tx found
        exact ⟨staged, notCommitted, fun _ => nowFailed⟩
      · exact ⟨(refines.stored n tx' stored).1, (refines.stored n tx' stored).2.1,
          fun _ => nowFailed⟩
    · rcases Wal.writeLogEntries_error written with ⟨failed, -, rfl⟩ |
        ⟨good, -, part, isPrefix, shorter, rfl⟩
      · rw [update_of_failed refines failed]
        exact refines.torn failed
      · obtain ⟨torn, intact⟩ := refines.intact good
        exact ⟨_, part, by simp [WalHistory.update, torn], isPrefix, by omega,
          by rw [intact]; rfl⟩

/-- A rollback writes nothing. -/
theorem RefinesLog.rollbackTransaction (refines : RefinesLog log m w) (txId : ℕ) :
    RefinesLog log (m.rollbackTransaction txId).2
      (w.update (.rollbackTransaction txId) (.rolledBack (m.rollbackTransaction txId).1)) := by
  rcases m.rollbackTransaction_cases txId with ⟨-, eq⟩ | ⟨-, -, -, eq⟩ | ⟨-, -, -, -, eq⟩ |
    ⟨-, -, -, -, eq⟩ <;> rw [eq]
  · exact refines
  · exact refines
  · exact refines
  · exact refines.shrink rfl fun n => by
      rw [find_erase]
      split
      · exact .inl rfl
      · exact .inr rfl

/-- The sweep writes nothing. -/
theorem RefinesLog.cleanupExpiredTransactions (refines : RefinesLog log m w) (now : ℕ) :
    RefinesLog log (m.cleanupExpiredTransactions now)
      (w.update (.cleanupExpiredTransactions now) (.cleaned (m.expiredTransactions now))) :=
  refines.shrink rfl fun n => by
    rw [find_cleanupExpiredTransactions]
    cases m.find n with
    | none => exact .inl rfl
    | some tx =>
      by_cases fresh : tx.isExpired m.transactionTimeout now <;> simp [fresh]

/-- Every call keeps the refinement of the log. -/
theorem RefinesLog.after_call (refines : RefinesLog log m w) (c : TransactionCall) :
    RefinesLog log (m.call c).2 (w.update c (m.call c).1) := by
  cases c with
  | beginTransaction now => exact refines.beginTransaction now
  | addLogEntry txId entry => exact refines.addLogEntry txId entry
  | commitTransaction txId deviceFails => exact refines.commitTransaction txId deviceFails
  | rollbackTransaction txId => exact refines.rollbackTransaction txId
  | cleanupExpiredTransactions now => exact refines.cleanupExpiredTransactions now

end Steps

end TransactionManager

end Dfs
