import Dfs.Transaction.Spec
import Dfs.Transaction.Lifecycle

/-!
# The transaction manager refines the lifecycle

`Refines` relates the map to the phases of `Dfs.Transaction.Lifecycle`: the map holds exactly
the ACTIVE ids and those whose commit failed, with the flags of their phase, and the counter is
one past the number of begins, modulo `2 ^ 64`. Every call keeps it, whatever its branch, and
every call's reply fits the phases it met. From the constructor on, the manager's histories
are therefore sound as long as fewer than `2 ^ 64 - 1` begins are made, and the lifecycle laws
of the abstract model hold of them.

A commit during which a log write throws, because the stream had failed before or because the
device failed a record that was not the last of the batch, leaves its transaction in the map,
marked ABORTED and no longer active; only the sweep removes it. The map is therefore not made of ACTIVE
transactions only, and `get_active_transaction_count()` counts the failed commits too.
-/

namespace Dfs

namespace TransactionManager

/-- The refinement between the manager and the phases, with the bookkeeping of ids: the
counter is one past the number of begins, modulo `2 ^ 64`, and every id that has left
`unused` was returned by one of them. -/
structure Refines (m : TransactionManager) (a : Lifecycle) : Prop where
  held : ∀ n, (∃ tx, m.find n = some tx) ↔ a.phase n = .active ∨ a.phase n = .failed
  activeFlags : ∀ n tx, m.find n = some tx → a.phase n = .active →
    tx.isActive = true ∧ tx.isCommitted = false ∧ tx.isAborted = false
  failedFlags : ∀ n tx, m.find n = some tx → a.phase n = .failed →
    tx.isActive = false ∧ tx.isCommitted = false ∧ tx.isAborted = true
  next : m.nextTransactionId = (1 + a.begins) % 2 ^ 64
  begun : ∀ n, a.phase n ≠ .unused → ∃ i < a.begins, n = (1 + i) % 2 ^ 64

section Refinement

variable {m : TransactionManager} {a : Lifecycle}

/-- What the refinement says of a stored transaction. -/
theorem Refines.of_find (refines : Refines m a) {n : ℕ} {tx : Transaction}
    (found : m.find n = some tx) :
    (a.phase n = .active ∧ tx.isActive = true ∧ tx.isCommitted = false ∧ tx.isAborted = false) ∨
      (a.phase n = .failed ∧ tx.isActive = false ∧ tx.isCommitted = false ∧
        tx.isAborted = true) := by
  rcases (refines.held n).mp ⟨tx, found⟩ with active | failed
  · exact .inl ⟨active, refines.activeFlags n tx found active⟩
  · exact .inr ⟨failed, refines.failedFlags n tx found failed⟩

/-- A stored transaction is never COMMITTED. -/
theorem Refines.isCommitted_of_find (refines : Refines m a) {n : ℕ} {tx : Transaction}
    (found : m.find n = some tx) : tx.isCommitted = false := by
  rcases refines.of_find found with ⟨-, -, notCommitted, -⟩ | ⟨-, -, notCommitted, -⟩ <;>
    exact notCommitted

/-- A stored transaction whose ABORTED flag is set is one whose commit failed, any other is
ACTIVE. -/
theorem Refines.phase_of_find (refines : Refines m a) {n : ℕ} {tx : Transaction}
    (found : m.find n = some tx) :
    a.phase n = if tx.isAborted then .failed else .active := by
  rcases refines.of_find found with ⟨active, -, -, notAborted⟩ | ⟨failed, -, -, aborted⟩
  · rw [active, notAborted, if_neg Bool.false_ne_true]
  · rw [failed, aborted, if_pos rfl]

/-- `begin_transaction` returns the counter's id, unused while the counter has not wrapped. -/
theorem Refines.beginTransaction (refines : Refines m a) (now : ℕ) :
    a.Fits (.beginTransaction now) (.began m.nextTransactionId) ∧
      Refines (m.beginTransaction now).2
        (a.update (.beginTransaction now) (.began m.nextTransactionId)) := by
  refine ⟨⟨fun n ⟨_, _, began⟩ below => ?_, by simp [Commits], by simp [Aborts], by simp [Adds]⟩,
    ⟨fun n => ?_, fun n tx found active => ?_, fun n tx found failed => ?_, ?_,
      fun n moved => ?_⟩⟩
  · cases began
    by_contra used
    obtain ⟨i, below', same⟩ := refines.begun _ used
    rw [refines.next] at same
    omega
  all_goals
    simp only [Lifecycle.update, Lifecycle.updatePhase, TransactionCall.isBegin, if_true,
      find_beginTransaction] at *
  · split
    · simp
    · exact refines.held n
  · split at found
    · cases found
      exact ⟨rfl, rfl, rfl⟩
    · rw [if_neg ‹_›] at active
      exact refines.activeFlags n tx found active
  · split at failed
    · cases failed
    · rw [if_neg ‹_›] at found
      exact refines.failedFlags n tx found failed
  · rw [nextTransactionId_beginTransaction, refines.next]
    omega
  · split at moved
    · exact ⟨a.begins, by omega, by rw [‹n = _›, refines.next]⟩
    · obtain ⟨i, below, rfl⟩ := refines.begun n moved
      exact ⟨i, by omega, rfl⟩

/-- The map and the phases changed only by closing ids the map held keep the refinement:
each id either leaves the map as its phase closes, or keeps its entry and its phase. -/
theorem Refines.of_each (refines : Refines m a) {m' : TransactionManager} {a' : Lifecycle}
    (next : m'.nextTransactionId = m.nextTransactionId) (begins : a'.begins = a.begins)
    (each : ∀ n, (m'.find n = none ∧ (a'.phase n = .committed ∨ a'.phase n = .aborted) ∧
        (a.phase n = .active ∨ a.phase n = .failed)) ∨
      (m'.find n = m.find n ∧ a'.phase n = a.phase n)) :
    Refines m' a' := by
  refine ⟨fun n => ?_, fun n tx found active => ?_, fun n tx found failed => ?_,
    by rw [next, refines.next, begins], fun n moved => ?_⟩ <;>
    rcases each n with ⟨gone, closed, held⟩ | ⟨same, samePhase⟩
  · rcases closed with closed | closed <;> simp [gone, closed]
  · rw [same, samePhase]
    exact refines.held n
  · rw [gone] at found
    cases found
  · exact refines.activeFlags n tx (same ▸ found) (samePhase ▸ active)
  · rw [gone] at found
    cases found
  · exact refines.failedFlags n tx (same ▸ found) (samePhase ▸ failed)
  · rw [begins]
    exact refines.begun n (by rcases held with held | held <;> simp [held])
  · rw [begins]
    exact refines.begun n (samePhase ▸ moved)

/-- Removing a transaction the history closes keeps the refinement. -/
theorem Refines.erase (refines : Refines m a) {a' : Lifecycle} {txId : ℕ}
    (held : a.phase txId = .active ∨ a.phase txId = .failed)
    (closed : a'.phase txId = .committed ∨ a'.phase txId = .aborted)
    (others : ∀ n, n ≠ txId → a'.phase n = a.phase n) (begins : a'.begins = a.begins) :
    Refines (m.erase txId) a' :=
  refines.of_each rfl begins fun n => by
    by_cases same : n = txId
    · subst n
      exact .inl ⟨by rw [find_erase, if_pos rfl], closed, held⟩
    · exact .inr ⟨by rw [find_erase, if_neg same], others n same⟩

/-- Changing a stored transaction in a way that keeps its flags keeps the refinement. -/
theorem Refines.modify (refines : Refines m a) (txId : ℕ) {f : Transaction → Transaction}
    (active : ∀ tx, (f tx).isActive = tx.isActive)
    (committed : ∀ tx, (f tx).isCommitted = tx.isCommitted)
    (aborted : ∀ tx, (f tx).isAborted = tx.isAborted) :
    Refines (m.modify txId f) a := by
  refine ⟨fun n => ?_, fun n tx found isActive => ?_, fun n tx found isFailed => ?_, refines.next,
    refines.begun⟩
  · rw [find_modify, ← refines.held n]
    split
    · subst n
      cases m.find txId <;> simp
    · rfl
  · rw [find_modify] at found
    split at found
    · subst n
      obtain ⟨old, stored, rfl⟩ := Option.map_eq_some'.mp found
      simpa [active, committed, aborted] using refines.activeFlags _ old stored isActive
    · exact refines.activeFlags n tx found isActive
  · rw [find_modify] at found
    split at found
    · subst n
      obtain ⟨old, stored, rfl⟩ := Option.map_eq_some'.mp found
      simpa [active, committed, aborted] using refines.failedFlags _ old stored isFailed
    · exact refines.failedFlags n tx found isFailed


/-- Only the map and the counter matter to the refinement. -/
theorem Refines.withLogFile (refines : Refines m a) (logFile : Wal) :
    Refines { m with logFile } a :=
  ⟨refines.held, refines.activeFlags, refines.failedFlags, refines.next, refines.begun⟩

/-- Marking an ACTIVE transaction ABORTED in place, as a failed commit does, keeps the
refinement with the id moved to `failed`. -/
theorem Refines.markFailed (refines : Refines m a) {a' : Lifecycle} {txId : ℕ}
    (active : a.phase txId = .active) (failed : a'.phase txId = .failed)
    (others : ∀ n, n ≠ txId → a'.phase n = a.phase n) (begins : a'.begins = a.begins) :
    Refines (m.modify txId fun tx => { tx with isAborted := true, isActive := false }) a' := by
  obtain ⟨old, stored⟩ := (refines.held txId).mpr (.inl active)
  obtain ⟨-, notCommitted, -⟩ := refines.activeFlags txId old stored active
  refine ⟨fun n => ?_, fun n tx found isActive => ?_, fun n tx found isFailed => ?_, ?_,
    fun n moved => ?_⟩
  · rw [find_modify]
    split
    · subst n
      simp [stored, failed]
    · rw [others n ‹_›]
      exact refines.held n
  · rw [find_modify] at found
    split at found
    · subst n
      rw [failed] at isActive
      cases isActive
    · exact refines.activeFlags n tx found (others n ‹_› ▸ isActive)
  · rw [find_modify] at found
    split at found
    · subst n
      simp only [stored, Option.map_some', Option.some.injEq] at found
      subst found
      exact ⟨rfl, notCommitted, rfl⟩
    · exact refines.failedFlags n tx found (others n ‹_› ▸ isFailed)
  · rw [nextTransactionId_modify, refines.next, begins]
  · rw [begins]
    by_cases same : n = txId
    · subst n
      exact refines.begun _ (by simp [active])
    · exact refines.begun n (others n same ▸ moved)

/-- `add_log_entry` stages a record on an ACTIVE transaction, and changes nothing else. -/
theorem Refines.addLogEntry (refines : Refines m a) (txId : ℕ) (entry : LogEntry) :
    a.Fits (.addLogEntry txId entry) (.added (m.addLogEntry txId entry).1) ∧
      Refines (m.addLogEntry txId entry).2
        (a.update (.addLogEntry txId entry) (.added (m.addLogEntry txId entry).1)) := by
  rcases m.addLogEntry_cases txId entry with ⟨-, eq⟩ | ⟨tx, -, -, eq⟩ |
    ⟨tx, found, isActive, eq⟩ <;> rw [eq]
  · exact ⟨by constructor <;> simp [Begins, Commits, Aborts, Adds], refines⟩
  · exact ⟨by constructor <;> simp [Begins, Commits, Aborts, Adds], refines⟩
  · have active : a.phase txId = .active := by
      rcases refines.of_find found with ⟨active, -⟩ | ⟨-, inactive, -⟩
      · exact active
      · simp [isActive] at inactive
    exact ⟨by constructor <;> simp [Begins, Commits, Aborts, Adds, active],
      refines.modify txId (fun _ => rfl) (fun _ => rfl) (fun _ => rfl)⟩

/-- Every branch of `commit_transaction` keeps the refinement: a commit that writes every
record closes an ACTIVE id, one whose write throws moves it to `failed`. -/
theorem Refines.commitTransaction (refines : Refines m a) (txId : ℕ) (deviceFails : List Bool) :
    a.Fits (.commitTransaction txId deviceFails)
        (.committed (m.commitTransaction txId deviceFails).1) ∧
      Refines (m.commitTransaction txId deviceFails).2
        (a.update (.commitTransaction txId deviceFails)
          (.committed (m.commitTransaction txId deviceFails).1)) := by
  rcases m.commitTransaction_cases txId deviceFails with ⟨-, eq⟩ | ⟨tx, found, aborted, eq⟩ |
    ⟨tx, found, -, committed, -⟩ | ⟨tx, logFile, found, notAborted, -, -, eq⟩ |
    ⟨tx, logFile, found, notAborted, -, -, eq⟩
  case inl =>
    rw [eq]
    exact ⟨by constructor <;> simp [Begins, Commits, Aborts, Adds], refines⟩
  case inr.inl =>
    have failed : a.phase txId = .failed := by simpa [aborted] using refines.phase_of_find found
    have kept : a.update (.commitTransaction txId deviceFails) (.committed (.ok false)) = a :=
      a.update_eq_self (Lifecycle.leaveActive_of_not_active (by simp [failed])) rfl
    rw [eq, kept]
    exact ⟨by constructor <;> simp [Begins, Commits, Aborts, Adds, failed], refines⟩
  case inr.inr.inl =>
    rw [refines.isCommitted_of_find found] at committed
    cases committed
  all_goals
    have active : a.phase txId = .active := by
      simpa [notAborted] using refines.phase_of_find found
    rw [eq]
    refine ⟨by constructor <;> simp [Begins, Commits, Aborts, Adds, active],
      Refines.withLogFile ?_ logFile⟩
  · exact refines.erase (.inl active) (.inl (Lifecycle.leaveActive_same active))
      (fun _ => Lifecycle.leaveActive_of_ne) rfl
  · exact refines.markFailed active (Lifecycle.leaveActive_same active)
      (fun _ => Lifecycle.leaveActive_of_ne) rfl

/-- `rollback_transaction` closes an ACTIVE id, and leaves one whose commit failed in place. -/
theorem Refines.rollbackTransaction (refines : Refines m a) (txId : ℕ) :
    a.Fits (.rollbackTransaction txId) (.rolledBack (m.rollbackTransaction txId).1) ∧
      Refines (m.rollbackTransaction txId).2
        (a.update (.rollbackTransaction txId) (.rolledBack (m.rollbackTransaction txId).1)) := by
  rcases m.rollbackTransaction_cases txId with ⟨-, eq⟩ | ⟨tx, found, committed, -⟩ |
    ⟨tx, found, -, aborted, eq⟩ | ⟨tx, found, -, notAborted, eq⟩
  · rw [eq]
    exact ⟨by constructor <;> simp [Begins, Commits, Aborts, Adds], refines⟩
  · rw [refines.isCommitted_of_find found] at committed
    cases committed
  · have failed : a.phase txId = .failed := by simpa [aborted] using refines.phase_of_find found
    have kept : a.update (.rollbackTransaction txId) (.rolledBack (.ok true)) = a :=
      a.update_eq_self (Lifecycle.leaveActive_of_not_active (by simp [failed])) rfl
    rw [eq, kept]
    exact ⟨by constructor <;> simp [Begins, Commits, Aborts, Adds, failed], refines⟩
  · have active : a.phase txId = .active := by
      simpa [notAborted] using refines.phase_of_find found
    rw [eq]
    exact ⟨by constructor <;> simp [Begins, Commits, Aborts, Adds, active],
      refines.erase (.inl active) (.inr (Lifecycle.leaveActive_same active))
        (fun _ => Lifecycle.leaveActive_of_ne) rfl⟩

/-- The sweep closes exactly the expired ids of the map. -/
theorem Refines.cleanupExpiredTransactions (refines : Refines m a) (now : ℕ) :
    a.Fits (.cleanupExpiredTransactions now) (.cleaned (m.expiredTransactions now)) ∧
      Refines (m.cleanupExpiredTransactions now)
        (a.update (.cleanupExpiredTransactions now) (.cleaned (m.expiredTransactions now))) := by
  have held : ∀ n, n ∈ m.expiredTransactions now → a.phase n = .active ∨ a.phase n = .failed :=
    fun n expired => by
      obtain ⟨tx, found, -⟩ := (m.mem_expiredTransactions now n).mp expired
      exact (refines.held n).mp ⟨tx, found⟩
  refine ⟨⟨by simp [Begins], by simp [Commits],
    fun n aborts => held n (by simpa [Aborts] using aborts), by simp [Adds]⟩,
    refines.of_each rfl rfl fun n => ?_⟩
  simp only [Lifecycle.update, Lifecycle.updatePhase, find_cleanupExpiredTransactions]
  by_cases expired : n ∈ m.expiredTransactions now
  · obtain ⟨tx, found, stale⟩ := (m.mem_expiredTransactions now n).mp expired
    exact .inl ⟨by simp [found, stale], .inr (if_pos ⟨expired, held n expired⟩), held n expired⟩
  · refine .inr ⟨?_, if_neg fun moved => expired moved.1⟩
    cases found : m.find n with
    | none => rfl
    | some tx =>
      have fresh : tx.isExpired m.transactionTimeout now = false := by
        simpa [found] using fun stale =>
          expired ((m.mem_expiredTransactions now n).mpr ⟨tx, found, stale⟩)
      simp [fresh]

/-- Every call keeps the refinement, with a reply that fits the phases it met. -/
theorem Refines.after_call (refines : Refines m a) (c : TransactionCall) :
    a.Fits c (m.call c).1 ∧ Refines (m.call c).2 (a.update c (m.call c).1) := by
  cases c with
  | beginTransaction now => exact refines.beginTransaction now
  | addLogEntry txId entry => exact refines.addLogEntry txId entry
  | commitTransaction txId deviceFails => exact refines.commitTransaction txId deviceFails
  | rollbackTransaction txId => exact refines.rollbackTransaction txId
  | cleanupExpiredTransactions now => exact refines.cleanupExpiredTransactions now

end Refinement

/-- The constructor's empty map refines the initial phases. -/
theorem refines_new (log : List LogEntry) : Refines (new log) Lifecycle.initial :=
  ⟨fun n => by simp [find, new, Lifecycle.initial], fun n tx found => by simp [find, new] at found,
    fun n tx found => by simp [find, new] at found, rfl, fun n moved => absurd rfl moved⟩

/-- Along every history from the constructor the refinement holds, and every call's reply
fits the phases it met. -/
theorem refines_trace (log : List LogEntry) (calls : List TransactionCall) :
    (∀ earlier e later, trace call (new log) calls = earlier ++ e :: later →
      (abstractAfter Lifecycle.update Lifecycle.initial earlier).Fits e.call e.result) ∧
    Refines (run call (new log) calls)
      (abstractAfter Lifecycle.update Lifecycle.initial (trace call (new log) calls)) :=
  along_trace Lifecycle.update Refines (fun _ => True) (fun _ a c r => a.Fits c r)
    (fun _ _ c refines _ => refines.after_call c) calls _ _ (fun _ _ => trivial) (refines_new log)

/-- After any history from the constructor, whatever log it was opened on,
`get_transaction_stats()` reports as `total_transactions` the number of `begin_transaction`
calls of that history modulo `2 ^ 32`: the ids of earlier runs are not counted, and the count
wraps with the `uint32_t` it is cast to. -/
theorem transaction_stats_count_begins (log : List LogEntry) (calls : List TransactionCall) :
    (run call (new log) calls).getTransactionStats.totalTransactions =
      calls.countP (·.isBegin) % 2 ^ 32 := by
  have next := (refines_trace log calls).2.next
  have count : (trace call (new log) calls).countP (·.call.isBegin) = calls.countP (·.isBegin) := by
    conv_rhs => rw [← map_call_trace call (new log) calls, List.countP_map]
    rfl
  rw [Lifecycle.begins_abstractAfter, count] at next
  simp only [getTransactionStats, next, Lifecycle.initial]
  omega

/-- A history from the constructor with fewer than `2 ^ 64 - 1` begins is sound. -/
theorem sound_trace (log : List LogEntry) {calls : List TransactionCall}
    (fewBegins : calls.countP (·.isBegin) < 2 ^ 64 - 1) :
    Lifecycle.initial.Sound (trace call (new log) calls) := by
  intro earlier e later split
  refine ⟨(refines_trace log calls).1 earlier e later split, fun isBegin => ?_⟩
  have total := congrArg (List.countP (·.isBegin)) (map_call_trace call (new log) calls)
  rw [List.countP_map, split, List.countP_append, List.countP_cons] at total
  simp only [Function.comp_def, isBegin, if_true] at total
  rw [Lifecycle.begins_abstractAfter]
  simp only [Lifecycle.initial]
  omega

/-- After any history, `is_transaction_active(t)` holds exactly for the ACTIVE ids: a
transaction whose commit failed is still in the map, but reported inactive. -/
theorem isTransactionActive_run (log : List LogEntry) (calls : List TransactionCall) (n : ℕ) :
    (run call (new log) calls).isTransactionActive n = true ↔
      (abstractAfter Lifecycle.update Lifecycle.initial (trace call (new log) calls)).phase n =
        .active := by
  have refines := (refines_trace log calls).2
  cases found : (run call (new log) calls).find n with
  | none =>
    have unheld := mt (refines.held n).mpr
    simp only [found, reduceCtorEq, exists_false, not_false_eq_true, not_or, true_implies] at unheld
    simp [isTransactionActive, found, unheld.1]
  | some tx =>
    rcases refines.of_find found with ⟨active, isActive, -⟩ | ⟨failed, inactive, -⟩
    · simp [isTransactionActive, found, active, isActive]
    · simp [isTransactionActive, found, failed, inactive]

/-- The lifecycle laws of every history with fewer than `2 ^ 64 - 1` begins: no id is
returned by two begins; no id that a commit returning `true` closes is aborted, by a rollback,
the sweep or a failed commit; and an add succeeds only on an id some earlier begin returned,
before any of its commits returning `true` and any of its aborts. -/
theorem transaction_lifecycle (log : List LogEntry) (calls : List TransactionCall)
    (fewBegins : calls.countP (·.isBegin) < 2 ^ 64 - 1) :
    let events := trace call (new log) calls
    (∀ earlier e later, events = earlier ++ e :: later → ∀ t, Begins t e.call e.result →
        ∀ e' ∈ earlier, ¬Begins t e'.call e'.result) ∧
      (∀ t, ∀ e ∈ events, Commits t e.call e.result →
        ∀ e' ∈ events, ¬Aborts t e'.call e'.result) ∧
      ∀ earlier e later, events = earlier ++ e :: later → ∀ t, Adds t e.call e.result →
        (∃ e' ∈ earlier, Begins t e'.call e'.result) ∧
          ∀ e' ∈ earlier, ¬Commits t e'.call e'.result ∧ ¬Aborts t e'.call e'.result := by
  have sound := sound_trace log fewBegins
  exact ⟨fun _ _ _ split _ begins _ mem => sound.begins_once split begins mem,
    fun _ _ mem commits _ mem' => sound.not_aborts mem commits mem',
    fun _ _ _ split _ adds => sound.adds_while_active split adds⟩

/-- Two transactions begun, one committed and one rolled back; a third whose commit of two
records fails on the device, which then refuses a record and is removed by the sweep. -/
theorem transaction_lifecycle_mixed_history :
    let calls := [TransactionCall.beginTransaction 0, .beginTransaction 0,
      .addLogEntry 1 .default, .addLogEntry 2 .default, .commitTransaction 1 [],
      .rollbackTransaction 2, .beginTransaction 0, .addLogEntry 3 .default,
      .addLogEntry 3 .default, .commitTransaction 3 [true], .addLogEntry 3 .default,
      .cleanupExpiredTransactions 40000000000]
    (trace call (new []) calls).map (·.result) =
        [.began 1, .began 2, .added (.ok ()), .added (.ok ()), .committed (.ok true),
          .rolledBack (.ok true), .began 3, .added (.ok ()), .added (.ok ()),
          .committed (.ok false), .added (.error (.transactionAborted 3 "Transaction is not active")),
          .cleaned [3]] ∧
      calls.countP (·.isBegin) < 2 ^ 64 - 1 ∧
    let events := trace call (new []) calls
    (∀ earlier e later, events = earlier ++ e :: later → ∀ t, Begins t e.call e.result →
        ∀ e' ∈ earlier, ¬Begins t e'.call e'.result) ∧
      (∀ t, ∀ e ∈ events, Commits t e.call e.result →
        ∀ e' ∈ events, ¬Aborts t e'.call e'.result) ∧
      ∀ earlier e later, events = earlier ++ e :: later → ∀ t, Adds t e.call e.result →
        (∃ e' ∈ earlier, Begins t e'.call e'.result) ∧
          ∀ e' ∈ earlier, ¬Commits t e'.call e'.result ∧ ¬Aborts t e'.call e'.result :=
  ⟨by decide, by decide, transaction_lifecycle [] _ (by decide)⟩

/-- A successful commit removes the transaction, so commit is not idempotent: after any
history, once `commit_transaction(t)` has returned `true`, a second `commit_transaction(t)`
and a `rollback_transaction(t)` both throw `TransactionNotFoundException`. -/
theorem commit_then_not_found (log : List LogEntry) (calls : List TransactionCall) (txId : ℕ)
    (deviceFails deviceFails' : List Bool)
    (committed : ((run call (new log) calls).commitTransaction txId deviceFails).1 = .ok true) :
    let m := ((run call (new log) calls).commitTransaction txId deviceFails).2
    (m.commitTransaction txId deviceFails').1 = .error (.transactionNotFound txId) ∧
      (m.rollbackTransaction txId).1 = .error (.transactionNotFound txId) := by
  have refines := (refines_trace log calls).2
  have gone : ((run call (new log) calls).commitTransaction txId deviceFails).2.find txId =
      none := by
    rcases (run call (new log) calls).commitTransaction_cases txId deviceFails with
      ⟨-, same⟩ | ⟨_, -, -, same⟩ | ⟨tx, found, -, stored, -⟩ | ⟨_, _, -, -, -, -, same⟩ |
        ⟨_, _, -, -, -, -, same⟩
    · rw [same] at committed
      cases committed
    · rw [same] at committed
      cases committed
    · rw [refines.isCommitted_of_find found] at stored
      cases stored
    · rw [same]
      exact (find_erase _ _ _).trans (if_pos rfl)
    · rw [same] at committed
      cases committed
  intro m
  have gone' : m.find txId = none := gone
  simp only [commitTransaction, rollbackTransaction, gone', and_self]

theorem commit_then_not_found_once_begun :
    ((run call (new []) [.beginTransaction 0]).commitTransaction 1 []).1 = .ok true ∧
      let m := ((run call (new []) [.beginTransaction 0]).commitTransaction 1 []).2
      (m.commitTransaction 1 []).1 = .error (.transactionNotFound 1) ∧
        (m.rollbackTransaction 1).1 = .error (.transactionNotFound 1) :=
  ⟨by decide, commit_then_not_found [] [.beginTransaction 0] 1 [] [] (by decide)⟩

end TransactionManager

end Dfs
