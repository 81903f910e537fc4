import Dfs.Transaction.LogEntry
import Mathlib.Data.List.Nodup

/-!
# The transaction manager

`Transaction` and `TransactionManager` of `core/transaction_manager.cpp`.

The map `active_transactions_` is a list of transactions with distinct ids, each stored under
its own id; a lookup is `find?` and the count of the map is the length of the list. The
order of the list plays no part: `cleanup_expired_transactions` removes every expired entry
whatever order it visits them in.

The log file is kept at the level of records: the records written in full, and whether the
`std::ofstream` has failed. `write_log_entry` serializes a record into the stream's buffer,
where `serialize` throws if the stream has failed, then calls `flush()`, which hands the
buffer to the device and whose failure is not checked. A record the device fails is therefore
lost without an exception; the stream is failed, and since the code never clears it, the
next `serialize` throws. The model takes every record to fit in the stream's buffer, so that
it reaches the device at the flush: with libstdc++ that holds of a record whose byte arrays
are each shorter than 1 KiB, and a longer array is written through inside `serialize`, where
its failure would throw at once. Which writes the device fails is not determined by the
program: each `commit_transaction` call carries it as a list, one entry per write.

After a successful `commit_transaction` and after `rollback_transaction` of an ACTIVE
transaction, the code erases the map entry, which destroys the transaction, and then reads
`transaction->log_entries.size()` to build a `LOG_DEBUG` message. That read of a destroyed
object is undefined behaviour on every such call. The model leaves it out, and does not make
these calls an undefined-behaviour outcome as it does for out-of-range subscripts: the value
read only builds a message and flows into neither the state nor the result, so the model
describes the calls as the code means them, and a reader should know that each of them, as
compiled, reads freed memory.

Time is a reading of the steady clock in nanoseconds, and `is_expired` compares the whole
seconds elapsed with the timeout, as `duration_cast<seconds>` truncates. Transaction ids are
64-bit: `fetch_add` wraps the counter at `2 ^ 64`.
-/

namespace Dfs

/-- `struct Transaction`. -/
structure Transaction where
  transactionId : ℕ
  logEntries : List LogEntry
  startTime : ℕ
  isActive : Bool
  isCommitted : Bool
  isAborted : Bool
  deriving DecidableEq

namespace Transaction

/-- `Transaction(tx_id)` begun at `now`: ACTIVE, with no staged record. -/
def new (txId now : ℕ) : Transaction := ⟨txId, [], now, true, false, false⟩

/-- `is_expired(timeout)` at `now`: more whole seconds than `timeout` have passed. -/
def isExpired (tx : Transaction) (timeout now : ℕ) : Bool :=
  decide (timeout < (now - tx.startTime) / 1000000000)

end Transaction

/-- The write-ahead log as `log_file_` holds it: the records written in full, and whether the
stream has failed. -/
structure Wal where
  records : List LogEntry
  failed : Bool
  deriving DecidableEq

namespace Wal

/-- `write_log_entry(entry)` when the device fails the write exactly if `deviceFails`. On a
failed stream `serialize` throws and nothing is written. Otherwise the record is appended, or,
when the device fails it, the unchecked `flush()` leaves it out of the log and fails the
stream, and the call returns normally. -/
def writeLogEntry (wal : Wal) (entry : LogEntry) (deviceFails : Bool) : Except Wal Wal :=
  if wal.failed then .error wal
  else if deviceFails then .ok { wal with failed := true }
  else .ok { wal with records := wal.records ++ [entry] }

/-- The loop of `commit_transaction` over the staged records, the device failing the writes
that `deviceFails` marks: the log after every record is written, or after the write that
threw. -/
def writeLogEntries : Wal → List LogEntry → List Bool → Except Wal Wal
  | wal, [], _ => .ok wal
  | wal, entry :: entries, deviceFails =>
    match wal.writeLogEntry entry (deviceFails.headD false) with
    | .error wal => .error wal
    | .ok wal => writeLogEntries wal entries deviceFails.tail

/-- Whether the device fails one of the writes of `entries`, marked as `writeLogEntries`
reads `deviceFails`. -/
def failsSome : List LogEntry → List Bool → Bool
  | [], _ => false
  | _ :: entries, deviceFails => deviceFails.headD false || failsSome entries deviceFails.tail

end Wal

/-- The state of a `TransactionManager` whose log file opened. -/
structure TransactionManager where
  activeTransactions : List Transaction
  activeTransactions_nodup : (activeTransactions.map (·.transactionId)).Nodup
  nextTransactionId : ℕ
  transactionTimeout : ℕ
  logFile : Wal

namespace TransactionManager

/-- `TransactionManager(log_file_path)` on a log file holding `log`, opened for appending:
no transaction, ids from 1 and a timeout of 30 seconds. -/
def new (log : List LogEntry) : TransactionManager where
  activeTransactions := []
  activeTransactions_nodup := List.nodup_nil
  nextTransactionId := 1
  transactionTimeout := 30
  logFile := ⟨log, false⟩

/-- `active_transactions_.find(tx_id)`. -/
def find (m : TransactionManager) (txId : ℕ) : Option Transaction :=
  m.activeTransactions.find? (·.transactionId = txId)

/-- `active_transactions_.erase(tx_id)`. -/
def erase (m : TransactionManager) (txId : ℕ) : TransactionManager :=
  { m with
    activeTransactions := m.activeTransactions.filter (·.transactionId ≠ txId)
    activeTransactions_nodup :=
      m.activeTransactions_nodup.sublist ((List.filter_sublist _).map _) }

/-- Apply `f` to the transaction stored under `txId`, which stays stored under it. -/
def modify (m : TransactionManager) (txId : ℕ) (f : Transaction → Transaction) :
    TransactionManager :=
  { m with
    activeTransactions := m.activeTransactions.map fun tx =>
      if tx.transactionId = txId then { f tx with transactionId := tx.transactionId } else tx
    activeTransactions_nodup := by
      rw [List.map_map]
      convert m.activeTransactions_nodup using 2
      funext tx
      simp only [Function.comp]
      split <;> rfl }

/-- `begin_transaction()` at `now`: the id `fetch_add` takes from the counter, and a fresh
transaction stored under it, replacing any transaction stored there. -/
def beginTransaction (m : TransactionManager) (now : ℕ) : ℕ × TransactionManager :=
  (m.nextTransactionId,
    { m.erase m.nextTransactionId with
      activeTransactions :=
        Transaction.new m.nextTransactionId now ::
          (m.erase m.nextTransactionId).activeTransactions
      activeTransactions_nodup := by
        refine List.nodup_cons.mpr ⟨?_, (m.erase m.nextTransactionId).activeTransactions_nodup⟩
        simp [erase, Transaction.new]
      nextTransactionId := (m.nextTransactionId + 1) % 2 ^ 64 })

/-- `add_log_entry(tx_id, entry)`: the record staged with its checksum updated. -/
def addLogEntry (m : TransactionManager) (txId : ℕ) (entry : LogEntry) :
    Except Error Unit × TransactionManager :=
  match m.find txId with
  | none => (.error (.transactionNotFound txId), m)
  | some tx =>
    if !tx.isActive then (.error (.transactionAborted txId "Transaction is not active"), m)
    else
      (.ok (), m.modify txId fun tx =>
        { tx with logEntries := tx.logEntries ++ [entry.updateChecksum] })

/-- `commit_transaction(tx_id)`, the device failing the writes `deviceFails` marks. When the
write loop returns, the transaction is COMMITTED and removed, whether or not the device failed
its last record; when a write throws it is marked ABORTED, kept in the map, and the call
returns `false`. -/
def commitTransaction (m : TransactionManager) (txId : ℕ) (deviceFails : List Bool) :
    Except Error Bool × TransactionManager :=
  match m.find txId with
  | none => (.error (.transactionNotFound txId), m)
  | some tx =>
    if tx.isAborted then (.ok false, m)
    else if tx.isCommitted then (.ok true, m)
    else
      match m.logFile.writeLogEntries tx.logEntries deviceFails with
      | .ok logFile => (.ok true, { m.erase txId with logFile })
      | .error logFile =>
        (.ok false,
          { m.modify txId (fun tx => { tx with isAborted := true, isActive := false }) with
            logFile })

/-- `rollback_transaction(tx_id)`: an ACTIVE transaction is marked ABORTED and removed; an
ABORTED one is left in place. -/
def rollbackTransaction (m : TransactionManager) (txId : ℕ) :
    Except Error Bool × TransactionManager :=
  match m.find txId with
  | none => (.error (.transactionNotFound txId), m)
  | some tx =>
    if tx.isCommitted then (.ok false, m)
    else if tx.isAborted then (.ok true, m)
    else (.ok true, m.erase txId)

/-- `cleanup_expired_transactions()` at `now`: every expired transaction, whatever its state,
is marked ABORTED and removed. -/
def cleanupExpiredTransactions (m : TransactionManager) (now : ℕ) : TransactionManager :=
  { m with
    activeTransactions :=
      m.activeTransactions.filter fun tx => !tx.isExpired m.transactionTimeout now
    activeTransactions_nodup :=
      m.activeTransactions_nodup.sublist ((List.filter_sublist _).map _) }

/-- The ids `cleanup_expired_transactions()` at `now` removes, each with a warning. -/
def expiredTransactions (m : TransactionManager) (now : ℕ) : List ℕ :=
  (m.activeTransactions.filter fun tx => tx.isExpired m.transactionTimeout now).map
    (·.transactionId)

/-- `is_transaction_active(tx_id)`. -/
def isTransactionActive (m : TransactionManager) (txId : ℕ) : Bool :=
  match m.find txId with
  | none => false
  | some tx => tx.isActive

/-- `TransactionManager::TransactionStats` without `average_duration`, which reads the clock
and the end times of the stored transactions. -/
structure TransactionStats where
  activeTransactions : ℕ
  totalTransactions : ℕ
  totalLogEntries : ℕ

/-- `get_transaction_stats()`: the size of the map and `next_transaction_id_ - 1` in
`uint64_t`, each cast to `uint32_t`, and the staged records of the stored transactions, each
count cast to `uint32_t`, summed in `uint64_t`. -/
def getTransactionStats (m : TransactionManager) : TransactionStats where
  activeTransactions := m.activeTransactions.length % 2 ^ 32
  totalTransactions := (m.nextTransactionId + (2 ^ 64 - 1)) % 2 ^ 64 % 2 ^ 32
  totalLogEntries := m.activeTransactions.foldl
    (fun total tx => (total + tx.logEntries.length % 2 ^ 32) % 2 ^ 64) 0

/-- `set_transaction_timeout(timeout)`. -/
def setTransactionTimeout (m : TransactionManager) (timeout : ℕ) : TransactionManager :=
  { m with transactionTimeout := timeout }

end TransactionManager

/-- The calls that change the transaction manager, each with what the environment decides:
the clock reading, and which log writes the device fails. -/
inductive TransactionCall where
  | beginTransaction (now : ℕ)
  | addLogEntry (txId : ℕ) (entry : LogEntry)
  | commitTransaction (txId : ℕ) (deviceFails : List Bool)
  | rollbackTransaction (txId : ℕ)
  | cleanupExpiredTransactions (now : ℕ)

/-- What a call returns; for `cleanup_expired_transactions` the ids it removed. -/
inductive TransactionReply where
  | began (txId : ℕ)
  | added (result : Except Error Unit)
  | committed (result : Except Error Bool)
  | rolledBack (result : Except Error Bool)
  | cleaned (expired : List ℕ)
  deriving DecidableEq

namespace TransactionManager

/-- One call and the state afterwards. -/
def call (m : TransactionManager) : TransactionCall → TransactionReply × TransactionManager
  | .beginTransaction now => (.began (m.beginTransaction now).1, (m.beginTransaction now).2)
  | .addLogEntry txId entry => (.added (m.addLogEntry txId entry).1, (m.addLogEntry txId entry).2)
  | .commitTransaction txId deviceFails =>
    (.committed (m.commitTransaction txId deviceFails).1, (m.commitTransaction txId deviceFails).2)
  | .rollbackTransaction txId =>
    (.rolledBack (m.rollbackTransaction txId).1, (m.rollbackTransaction txId).2)
  | .cleanupExpiredTransactions now =>
    (.cleaned (m.expiredTransactions now), m.cleanupExpiredTransactions now)

end TransactionManager

end Dfs
