import Dfs.Transaction.Refinement

/-!
# The transaction guard

`TransactionGuard`, declared in `utils/rate_limiter.h` and defined in
`core/transaction_manager.cpp`, begins a transaction when it is constructed and rolls it back
in its destructor, unless `commit()` or `abort()` ran first. Those two set `committed_` once
their call of the manager returns, whatever it returns, and not when it throws: a commit whose
log write failed leaves the transaction in the map, ABORTED, and the destructor does not roll
it back (a rollback would leave it in place anyway). When the manager throws (the
transaction was swept, or closed by another thread), `committed_` stays unset and the
destructor's rollback throws in turn, which it catches.

The guard is modelled on a manager that is not null: with a null one it does nothing, and its
`transaction_id_` is never set. The program around it is any interleaving of the guard's
calls with the calls other threads make on the same manager (`GuardedCall`).

What the guard is for: once it is destroyed its transaction is never ACTIVE again, whatever
the other threads do before and after, as long as the id counter does not wrap; the map still
holds it only if its commit failed (`guard_closes_transaction`).
-/

namespace Dfs

/-- A phase a transaction never leaves for ACTIVE: its commit failed, it committed, or it was
aborted. -/
def TxPhase.Closed (p : TxPhase) : Prop := p = .failed ∨ p = .committed ∨ p = .aborted

instance (p : TxPhase) : Decidable p.Closed := inferInstanceAs (Decidable (_ ∨ _))

/-- A closed phase only moves on to closed phases. -/
theorem TxPhase.Closed.reaches {p q : TxPhase} (closed : p.Closed) (reaches : p.Reaches q) :
    q.Closed := by
  cases p <;> cases q <;> simp_all [TxPhase.Closed, TxPhase.Reaches]

/-- A begun id stays begun. -/
theorem TxPhase.ne_unused_of_reaches {p q : TxPhase} (begun : p ≠ .unused)
    (reaches : p.Reaches q) : q ≠ .unused := by
  cases p <;> cases q <;> simp_all [TxPhase.Reaches]

/-- The call commits or rolls back `txId`. -/
def TransactionCall.closes (txId : ℕ) : TransactionCall → Bool
  | .commitTransaction t _ | .rollbackTransaction t => t == txId
  | _ => false

theorem TransactionCall.isBegin_of_closes {c : TransactionCall} {t : ℕ}
    (closes : c.closes t = true) : c.isBegin = false := by
  cases c <;> simp_all [TransactionCall.closes, TransactionCall.isBegin]

namespace TransactionManager

variable {m : TransactionManager} {a : Lifecycle} {c : TransactionCall} {t : ℕ}

/-- A commit or a rollback of a begun id leaves it closed, whatever it returns: an ACTIVE
transaction is in the map, unflagged, so the call does not throw on it, and commits it,
records its failed commit, or aborts it. -/
theorem Refines.closed_after_close (refines : Refines m a) (closes : c.closes t = true)
    (begun : a.phase t ≠ .unused) : ((a.update c (m.call c).1).phase t).Closed := by
  have fits := (refines.after_call c).1
  have moved := a.reaches_update fits (by simp [TransactionCall.isBegin_of_closes closes]) t
  cases phase : a.phase t with
  | unused => exact absurd phase begun
  | active =>
    obtain ⟨tx, found⟩ := (refines.held t).mpr (.inl phase)
    obtain ⟨-, notCommitted, notAborted⟩ := refines.activeFlags t tx found phase
    cases c with
    | commitTransaction txId deviceFails =>
      obtain rfl : txId = t := beq_iff_eq.mp closes
      rcases commitTransaction_cases (m := m) txId deviceFails with ⟨missing, -⟩ |
        ⟨_, found', aborted, -⟩ | ⟨_, found', -, committed, -⟩ |
        ⟨_, _, -, -, -, -, committedOk⟩ | ⟨_, _, -, -, -, -, failedOk⟩
      · simp [found] at missing
      · simp_all
      · simp_all
      · have commits : Commits txId (.commitTransaction txId deviceFails)
            (m.call (.commitTransaction txId deviceFails)).1 :=
          ⟨deviceFails, rfl, by simp [call, committedOk]⟩
        exact .inr (.inl (a.phase_of_commits fits commits))
      · have aborts : Aborts txId (.commitTransaction txId deviceFails)
            (m.call (.commitTransaction txId deviceFails)).1 :=
          .inr (.inr ⟨deviceFails, rfl, by simp [call, failedOk]⟩)
        rcases a.phase_of_aborts fits aborts with closed | closed <;> simp [closed, TxPhase.Closed]
    | rollbackTransaction txId =>
      obtain rfl : txId = t := beq_iff_eq.mp closes
      rcases rollbackTransaction_cases (m := m) txId with ⟨missing, -⟩ |
        ⟨_, found', committed, -⟩ | ⟨_, found', -, aborted, -⟩ | ⟨_, _, -, -, abortedOk⟩
      · simp [found] at missing
      · simp_all
      · simp_all
      · have aborts : Aborts txId (.rollbackTransaction txId)
            (m.call (.rollbackTransaction txId)).1 := .inl ⟨rfl, by simp [call, abortedOk]⟩
        rcases a.phase_of_aborts fits aborts with closed | closed <;> simp [closed, TxPhase.Closed]
    | _ => cases closes
  | failed | committed | aborted =>
    exact TxPhase.Closed.reaches (by rw [phase]; decide) moved

end TransactionManager

/-- The state of a `TransactionGuard` on a manager: `transaction_id_` and `committed_`. -/
structure TransactionGuard where
  transactionId : ℕ
  committed : Bool
  deriving DecidableEq

namespace TransactionGuard

/-- `TransactionGuard(manager)`: `begin_transaction()`, reading the clock at `now`. -/
def new (m : TransactionManager) (now : ℕ) : TransactionGuard × TransactionManager :=
  (⟨(m.beginTransaction now).1, false⟩, (m.beginTransaction now).2)

/-- `commit()` and `abort()`: unless `committed_`, the manager's `close` of the transaction;
`committed_` is set when it returns, and what it throws is thrown on. -/
def finish (g : TransactionGuard) (m : TransactionManager)
    (close : TransactionManager → Except Error Bool × TransactionManager) :
    Except Error Unit × TransactionGuard × TransactionManager :=
  if g.committed then (.ok (), g, m)
  else
    match close m with
    | (.ok _, m) => (.ok (), { g with committed := true }, m)
    | (.error e, m) => (.error e, g, m)

/-- `commit()`, the device failing the log writes `deviceFails` marks. -/
def commit (g : TransactionGuard) (m : TransactionManager) (deviceFails : List Bool) :
    Except Error Unit × TransactionGuard × TransactionManager :=
  g.finish m (·.commitTransaction g.transactionId deviceFails)

/-- `abort()`. -/
def abort (g : TransactionGuard) (m : TransactionManager) :
    Except Error Unit × TransactionGuard × TransactionManager :=
  g.finish m (·.rollbackTransaction g.transactionId)

/-- `~TransactionGuard()`: unless `committed_`, `rollback_transaction`, what it throws caught. -/
def destroy (g : TransactionGuard) (m : TransactionManager) : TransactionManager :=
  if g.committed then m else (m.rollbackTransaction g.transactionId).2

/-- `finish` keeps the guard's transaction, and once `committed_` is set does nothing. -/
theorem finish_eq (g : TransactionGuard) (m : TransactionManager)
    (close : TransactionManager → Except Error Bool × TransactionManager) :
    (g.finish m close).2.1.transactionId = g.transactionId ∧
      (g.committed = true → g.finish m close = (.ok (), g, m)) ∧
      (g.committed = false → (g.finish m close).2.2 = (close m).2) := by
  unfold finish
  split
  · exact ⟨rfl, fun _ => rfl, by simp_all⟩
  · split <;> simp_all

end TransactionGuard

/-- A step of a program holding one guard, or of another thread using the same manager. -/
inductive GuardedCall where
  | other (c : TransactionCall)
  | construct (now : ℕ)
  | commit (deviceFails : List Bool)
  | abort
  | destroy

/-- The step can begin a transaction: a `begin_transaction` of another thread, or the
guard's constructor. -/
def GuardedCall.mayBegin : GuardedCall → Bool
  | .other c => c.isBegin
  | .construct _ => true
  | _ => false

/-- Where the guard is in its life: not yet constructed, alive, or destroyed, with the id of
its transaction. -/
inductive GuardLife where
  | unborn
  | alive (g : TransactionGuard)
  | destroyed (txId : ℕ)
  deriving DecidableEq

namespace GuardLife

/-- One step; a call of the guard's own before its construction or after its destruction is
not a step of the program. -/
def step (s : TransactionManager × GuardLife) (c : GuardedCall) : TransactionManager × GuardLife :=
  match c, s.2 with
  | .other c, life => ((s.1.call c).2, life)
  | .construct now, unborn =>
    ((TransactionGuard.new s.1 now).2, alive (TransactionGuard.new s.1 now).1)
  | .commit deviceFails, alive g =>
    ((g.commit s.1 deviceFails).2.2, alive (g.commit s.1 deviceFails).2.1)
  | .abort, alive g => ((g.abort s.1).2.2, alive (g.abort s.1).2.1)
  | .destroy, alive g => (g.destroy s.1, destroyed g.transactionId)
  | _, _ => s

/-- What the life of the guard says of the phase of its transaction: begun while it is alive,
and closed once `committed_` is set or it is destroyed. -/
def Settled (a : Lifecycle) : GuardLife → Prop
  | unborn => True
  | alive g => a.phase g.transactionId ≠ .unused ∧
      (g.committed = true → (a.phase g.transactionId).Closed)
  | destroyed txId => (a.phase txId).Closed

/-- Phases that move forward keep what the guard's life says of them. -/
theorem Settled.reaches {a b : Lifecycle} {life : GuardLife} (settled : life.Settled a)
    (reaches : ∀ n, (a.phase n).Reaches (b.phase n)) : life.Settled b := by
  cases life with
  | unborn => trivial
  | alive g =>
    exact ⟨TxPhase.ne_unused_of_reaches settled.1 (reaches _),
      fun committed => TxPhase.Closed.reaches (settled.2 committed) (reaches _)⟩
  | destroyed txId => exact TxPhase.Closed.reaches settled (reaches _)

end GuardLife

open TransactionManager GuardLife

/-- The manager refines the abstract lifecycle `a`, and the guard's life fits it. -/
structure Guarded (s : TransactionManager × GuardLife) (a : Lifecycle) : Prop where
  refines : Refines s.1 a
  settled : s.2.Settled a

variable {m : TransactionManager} {a : Lifecycle}

/-- A call of the manager that fits keeps the refinement and moves every phase forward. -/
theorem TransactionManager.Refines.forward (refines : Refines m a) (c : TransactionCall)
    (below : c.isBegin → a.begins < 2 ^ 64 - 1) :
    Refines (m.call c).2 (a.update c (m.call c).1) ∧
      ∀ n, (a.phase n).Reaches ((a.update c (m.call c).1).phase n) :=
  ⟨(refines.after_call c).2, a.reaches_update (refines.after_call c).1 below⟩

/-- The guard's own commit or rollback of its begun transaction leaves it closed, which
settles the guard whatever it records, and begins nothing. -/
theorem Guarded.close {g : TransactionGuard} (guarded : Guarded (m, .alive g) a)
    {c : TransactionCall} (closes : c.closes g.transactionId = true) {life : GuardLife}
    (settles : ∀ b : Lifecycle, (b.phase g.transactionId).Closed → life.Settled b) :
    Guarded ((m.call c).2, life) (a.update c (m.call c).1) ∧
      (a.update c (m.call c).1).begins = a.begins :=
  ⟨⟨(guarded.refines.after_call c).2,
    settles _ (guarded.refines.closed_after_close closes guarded.settled.1)⟩,
    by simp [a.begins_update, TransactionCall.isBegin_of_closes closes]⟩

/-- A closed phase settles an alive guard of that transaction. -/
theorem settled_alive_of_closed {g : TransactionGuard} {b : Lifecycle}
    (closed : (b.phase g.transactionId).Closed) : (alive g).Settled b :=
  ⟨fun unused => by simp [unused, TxPhase.Closed] at closed, fun _ => closed⟩

/-- `commit()` and `abort()` keep the guard's invariant and begin nothing. -/
theorem Guarded.finish {g : TransactionGuard} (guarded : Guarded (m, .alive g) a)
    (close : TransactionManager → Except Error Bool × TransactionManager) {c : TransactionCall}
    (closes : c.closes g.transactionId = true) (same : (close m).2 = (m.call c).2) :
    ∃ b : Lifecycle, Guarded ((g.finish m close).2.2, .alive (g.finish m close).2.1) b ∧
      b.begins ≤ a.begins := by
  obtain ⟨sameId, kept, closed⟩ := g.finish_eq m close
  cases committed : g.committed
  · rw [closed committed, same]
    obtain ⟨stepped, begins⟩ := guarded.close closes fun b closed =>
      settled_alive_of_closed (g := (g.finish m close).2.1) (by rwa [sameId])
    exact ⟨_, stepped, begins.le⟩
  · rw [kept committed]
    exact ⟨a, guarded, le_rfl⟩

/-- Every step keeps the guard's invariant, with one begin more at most. -/
theorem Guarded.step {s : TransactionManager × GuardLife} (guarded : Guarded s a)
    (c : GuardedCall) (below : c.mayBegin → a.begins < 2 ^ 64 - 1) :
    ∃ b : Lifecycle, Guarded (step s c) b ∧
      b.begins ≤ a.begins + if c.mayBegin then 1 else 0 := by
  obtain ⟨m, life⟩ := s
  cases c with
  | other c =>
    obtain ⟨refines, reaches⟩ := guarded.refines.forward c below
    exact ⟨_, ⟨refines, guarded.settled.reaches reaches⟩,
      by simp [a.begins_update, GuardedCall.mayBegin]⟩
  | construct now =>
    cases life with
    | unborn =>
      obtain ⟨-, refines⟩ := guarded.refines.beginTransaction now
      refine ⟨_, ⟨refines, ?_, fun committed => by cases committed⟩,
        by simp [a.begins_update, GuardedCall.mayBegin, TransactionCall.isBegin]⟩
      simp [TransactionGuard.new, TransactionManager.beginTransaction, Lifecycle.update,
        Lifecycle.updatePhase]
    | alive g | destroyed txId => exact ⟨a, guarded, by simp⟩
  | commit deviceFails =>
    cases life with
    | alive g =>
      obtain ⟨b, stepped, begins⟩ := guarded.finish (·.commitTransaction g.transactionId deviceFails)
        (c := .commitTransaction g.transactionId deviceFails) (by simp [TransactionCall.closes]) rfl
      exact ⟨b, stepped, by omega⟩
    | unborn | destroyed txId => exact ⟨a, guarded, by simp⟩
  | abort =>
    cases life with
    | alive g =>
      obtain ⟨b, stepped, begins⟩ := guarded.finish (·.rollbackTransaction g.transactionId)
        (c := .rollbackTransaction g.transactionId) (by simp [TransactionCall.closes]) rfl
      exact ⟨b, stepped, by omega⟩
    | unborn | destroyed txId => exact ⟨a, guarded, by simp⟩
  | destroy =>
    cases life with
    | alive g =>
      show ∃ b : Lifecycle, Guarded (g.destroy m, destroyed g.transactionId) b ∧ _
      cases committed : g.committed
      · obtain ⟨stepped, begins⟩ := guarded.close (c := .rollbackTransaction g.transactionId)
          (by simp [TransactionCall.closes]) fun b closed =>
            show (destroyed g.transactionId).Settled b from closed
        have rolledBack : g.destroy m = (m.call (.rollbackTransaction g.transactionId)).2 := by
          simp [TransactionGuard.destroy, committed, call]
        rw [rolledBack]
        exact ⟨_, stepped, by omega⟩
      · have kept : g.destroy m = m := by simp [TransactionGuard.destroy, committed]
        rw [kept]
        exact ⟨a, ⟨guarded.refines, guarded.settled.2 committed⟩, by omega⟩
    | unborn | destroyed txId => exact ⟨a, guarded, by simp⟩

/-- The guard's invariant holds after every program with fewer than `2 ^ 64 - 1` begins. -/
theorem Guarded.run : ∀ (calls : List GuardedCall) {s : TransactionManager × GuardLife}
    {a : Lifecycle}, Guarded s a → a.begins + calls.countP (·.mayBegin) < 2 ^ 64 - 1 →
      ∃ b : Lifecycle, Guarded (calls.foldl GuardLife.step s) b
  | [], _, a, guarded, _ => ⟨a, guarded⟩
  | c :: calls, _, _, guarded, few => by
    rw [List.countP_cons] at few
    obtain ⟨b, stepped, begins⟩ := guarded.step c fun _ => by omega
    exact Guarded.run calls stepped (by omega)

/-- Once a `TransactionGuard` is destroyed its transaction is never ACTIVE again, whatever the
other threads did before and do after, as long as fewer than `2 ^ 64 - 1` transactions are
begun: `is_transaction_active` is false for it, and the map holds it only as an ABORTED
transaction, one whose commit failed. -/
theorem guard_closes_transaction (log : List LogEntry) (calls : List GuardedCall)
    (fewBegins : calls.countP (·.mayBegin) < 2 ^ 64 - 1) {txId : ℕ}
    (destroyed : (calls.foldl step (new log, unborn)).2 = destroyed txId) :
    (calls.foldl step (new log, unborn)).1.isTransactionActive txId = false ∧
      ∀ tx, (calls.foldl step (new log, unborn)).1.find txId = some tx → tx.isAborted = true := by
  obtain ⟨b, refines, settled⟩ :=
    Guarded.run calls (s := (new log, unborn)) (a := Lifecycle.initial) ⟨refines_new log, trivial⟩
      (by simpa [Lifecycle.initial] using fewBegins)
  rw [destroyed] at settled
  have notActive : b.phase txId ≠ .active := fun active => by
    simp [Settled, active, TxPhase.Closed] at settled
  refine ⟨?_, fun tx found => ?_⟩
  · unfold isTransactionActive
    split
    · rfl
    · rename_i tx found
      rcases refines.of_find found with ⟨active, -⟩ | ⟨-, inactive, -⟩
      · exact absurd active notActive
      · exact inactive
  · rcases refines.of_find found with ⟨active, -⟩ | ⟨-, -, -, aborted⟩
    · exact absurd active notActive
    · exact aborted

/-- A guard of two staged records whose commit fails, the device failing the first and the
second `serialize` throwing, with another thread beginning a transaction before the guard is
destroyed: its transaction stays in the map, ABORTED, and is not active. -/
theorem guard_closes_transaction_after_failed_commit :
    let calls := [GuardedCall.construct 0, .other (.addLogEntry 1 .default),
      .other (.addLogEntry 1 .default), .commit [true], .other (.beginTransaction 1), .destroy]
    calls.countP (·.mayBegin) < 2 ^ 64 - 1 ∧
      (calls.foldl GuardLife.step (new [], unborn)).2 = destroyed 1 ∧
      (calls.foldl GuardLife.step (new [], unborn)).1.isTransactionActive 1 = false ∧
      ∀ tx, (calls.foldl GuardLife.step (new [], unborn)).1.find 1 = some tx →
        tx.isAborted = true :=
  ⟨by decide, rfl, guard_closes_transaction [] _ (by decide) rfl⟩

end Dfs
