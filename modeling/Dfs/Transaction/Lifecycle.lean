import Dfs.Transaction.Manager
import Dfs.History

/-!
# The lifecycle of a transaction

The state machine a transaction id goes through, as the manager implements it: never begun;
ACTIVE; ABORTED by a commit during which a log write threw, and still held in the map;
COMMITTED and removed, also when the device lost the last record of the batch without an
exception; ABORTED and removed, by a rollback or by the sweep. The phase of every id is computed
from the history of calls (`Lifecycle.update`), each transition firing only from its source
phases.

A history is `Sound` when every call's reply fits the phases it met (`Lifecycle.Fits`): a
begin before the counter wraps returns an unused id, a commit that returns `true` and an add
that succeeds meet an ACTIVE id, and a call that aborts meets an id in the map. Along a sound
history phases only move forward (`TxPhase.Reaches`), from which the lifecycle laws of a
whole history follow. That the manager's histories are sound is proved from the refinement
in `Dfs.Transaction.Refinement`.
-/

namespace Dfs

/-- The phase of a transaction id. -/
inductive TxPhase where
  /-- Never returned by `begin_transaction`. -/
  | unused
  /-- ACTIVE, in the map. -/
  | active
  /-- ABORTED by a commit during which a log write threw, and still in the map. -/
  | failed
  /-- COMMITTED, and removed from the map. -/
  | committed
  /-- ABORTED by a rollback or the sweep, and removed from the map. -/
  | aborted
  deriving DecidableEq

namespace TxPhase

/-- The phases a transaction can move on to. -/
def Reaches : TxPhase → TxPhase → Prop
  | unused, _ => True
  | active, q => q ≠ unused
  | failed, q => q = failed ∨ q = aborted
  | committed, q => q = committed
  | aborted, q => q = aborted

instance (p q : TxPhase) : Decidable (p.Reaches q) := by
  cases p <;> unfold Reaches <;> infer_instance

theorem Reaches.refl (p : TxPhase) : p.Reaches p := by
  cases p <;> decide

theorem Reaches.trans {p q r : TxPhase} (first : p.Reaches q) (second : q.Reaches r) :
    p.Reaches r := by
  cases p <;> cases q <;> cases r <;> simp_all [Reaches]

end TxPhase

/-- The abstract state of the manager: the phase of every id, and the number of begins. -/
structure Lifecycle where
  phase : ℕ → TxPhase
  begins : ℕ

/-- Whether a call is `begin_transaction`. -/
def TransactionCall.isBegin : TransactionCall → Bool
  | .beginTransaction _ => true
  | _ => false

/-- `begin_transaction` returned `txId`. -/
def Begins (txId : ℕ) (c : TransactionCall) (r : TransactionReply) : Prop :=
  ∃ now, c = .beginTransaction now ∧ r = .began txId

/-- `commit_transaction(txId)` returned `true`. -/
def Commits (txId : ℕ) (c : TransactionCall) (r : TransactionReply) : Prop :=
  ∃ deviceFails, c = .commitTransaction txId deviceFails ∧ r = .committed (.ok true)

/-- The call aborted `txId`: a rollback that returned `true`, the sweep removing it, or a
commit that returned `false`. -/
def Aborts (txId : ℕ) (c : TransactionCall) (r : TransactionReply) : Prop :=
  (c = .rollbackTransaction txId ∧ r = .rolledBack (.ok true)) ∨
    (∃ now expired, c = .cleanupExpiredTransactions now ∧ r = .cleaned expired ∧
      txId ∈ expired) ∨
    ∃ deviceFails, c = .commitTransaction txId deviceFails ∧ r = .committed (.ok false)

/-- `add_log_entry(txId, ·)` succeeded. -/
def Adds (txId : ℕ) (c : TransactionCall) (r : TransactionReply) : Prop :=
  ∃ entry, c = .addLogEntry txId entry ∧ r = .added (.ok ())

/-- A commit that returns `true` aborts nothing. -/
theorem not_aborts_of_commits {n txId : ℕ} {c : TransactionCall} {r : TransactionReply}
    (commits : Commits n c r) : ¬Aborts txId c r := by
  obtain ⟨_, rfl, rfl⟩ := commits
  simp [Aborts]

namespace Lifecycle

/-- No id begun yet. -/
def initial : Lifecycle := ⟨fun _ => .unused, 0⟩

/-- Move `txId` to `q` if it is ACTIVE, leaving every other phase as it is. -/
def leaveActive (phase : ℕ → TxPhase) (txId : ℕ) (q : TxPhase) : ℕ → TxPhase :=
  fun n => if n = txId ∧ phase n = .active then q else phase n

/-- The phase step of one call and its reply. A transition fires only from the phases it
leaves: a commit that returns `true` or `false`, and a rollback that returns `true`, move an
ACTIVE id; the sweep moves an id held in the map. -/
def updatePhase (phase : ℕ → TxPhase) : TransactionCall → TransactionReply → ℕ → TxPhase
  | .beginTransaction _, .began txId => fun n => if n = txId then .active else phase n
  | .commitTransaction txId _, .committed (.ok true) => leaveActive phase txId .committed
  | .commitTransaction txId _, .committed (.ok false) => leaveActive phase txId .failed
  | .rollbackTransaction txId, .rolledBack (.ok true) => leaveActive phase txId .aborted
  | .cleanupExpiredTransactions _, .cleaned expired => fun n =>
    if n ∈ expired ∧ (phase n = .active ∨ phase n = .failed) then .aborted else phase n
  | _, _ => phase

/-- The abstract step of one call and its reply. -/
def update (a : Lifecycle) (c : TransactionCall) (r : TransactionReply) : Lifecycle where
  phase := updatePhase a.phase c r
  begins := if c.isBegin then a.begins + 1 else a.begins

/-- The reply of a call fits the phases it met: before the counter wraps, a begin returns an
unused id; a commit that returns `true` and an add that succeeds meet an ACTIVE id; a call
that aborts meets an id in the map. -/
structure Fits (a : Lifecycle) (c : TransactionCall) (r : TransactionReply) : Prop where
  begins : ∀ n, Begins n c r → a.begins < 2 ^ 64 - 1 → a.phase n = .unused
  commits : ∀ n, Commits n c r → a.phase n = .active
  aborts : ∀ n, Aborts n c r → a.phase n = .active ∨ a.phase n = .failed
  adds : ∀ n, Adds n c r → a.phase n = .active

section LeaveActive

variable {phase : ℕ → TxPhase} {txId : ℕ} {q : TxPhase}

theorem leaveActive_same (active : phase txId = .active) : leaveActive phase txId q txId = q :=
  if_pos ⟨rfl, active⟩

theorem leaveActive_of_ne {n : ℕ} (other : n ≠ txId) : leaveActive phase txId q n = phase n :=
  if_neg fun moved => other moved.1

theorem leaveActive_of_not_active (notActive : phase txId ≠ .active) :
    leaveActive phase txId q = phase :=
  funext fun _ => if_neg fun ⟨same, active⟩ => notActive (same ▸ active)

theorem leaveActive_cases (phase : ℕ → TxPhase) (txId : ℕ) (q : TxPhase) (n : ℕ) :
    leaveActive phase txId q n = phase n ∨
      (n = txId ∧ phase n = .active ∧ leaveActive phase txId q n = q) := by
  by_cases moved : n = txId ∧ phase n = .active
  · exact .inr ⟨moved.1, moved.2, if_pos moved⟩
  · exact .inl (if_neg moved)

end LeaveActive

section Step

variable (a : Lifecycle) {c : TransactionCall} {r : TransactionReply} {n : ℕ}

/-- A call other than a begin that moves no phase leaves the abstract state as it is. -/
theorem update_eq_self (unmoved : updatePhase a.phase c r = a.phase)
    (notBegin : c.isBegin = false) : a.update c r = a := by
  cases a
  simp only [update, unmoved, notBegin]
  rfl

/-- Only a begin counts. -/
theorem begins_update (c : TransactionCall) (r : TransactionReply) :
    (a.update c r).begins = a.begins + if c.isBegin then 1 else 0 := by
  by_cases isBegin : c.isBegin <;> simp [update, isBegin]

/-- Every way one call can move the phase of an id. -/
theorem phase_update_cases (c : TransactionCall) (r : TransactionReply) (n : ℕ) :
    (a.update c r).phase n = a.phase n ∨
      (Begins n c r ∧ (a.update c r).phase n = .active) ∨
      (Commits n c r ∧ a.phase n = .active ∧ (a.update c r).phase n = .committed) ∨
      (Aborts n c r ∧ (a.phase n = .active ∨ a.phase n = .failed) ∧
        (a.update c r).phase n = .aborted) ∨
      (Aborts n c r ∧ a.phase n = .active ∧ (a.update c r).phase n = .failed) := by
  simp only [update]
  unfold updatePhase
  split
  case h_1 now txId =>
    by_cases same : n = txId
    · exact .inr (.inl ⟨⟨now, rfl, same ▸ rfl⟩, if_pos same⟩)
    · exact .inl (if_neg same)
  case h_2 txId deviceFails =>
    rcases leaveActive_cases a.phase txId _ n with same | ⟨rfl, active, moved⟩
    · exact .inl same
    · exact .inr (.inr (.inl ⟨⟨deviceFails, rfl, rfl⟩, active, moved⟩))
  case h_3 txId deviceFails =>
    rcases leaveActive_cases a.phase txId _ n with same | ⟨rfl, active, moved⟩
    · exact .inl same
    · exact .inr (.inr (.inr (.inr ⟨.inr (.inr ⟨deviceFails, rfl, rfl⟩), active, moved⟩)))
  case h_4 txId =>
    rcases leaveActive_cases a.phase txId _ n with same | ⟨rfl, active, moved⟩
    · exact .inl same
    · exact .inr (.inr (.inr (.inl ⟨.inl ⟨rfl, rfl⟩, .inl active, moved⟩)))
  case h_5 now expired =>
    by_cases moved : n ∈ expired ∧ (a.phase n = .active ∨ a.phase n = .failed)
    · exact .inr (.inr (.inr (.inl ⟨.inr (.inl ⟨now, expired, rfl, rfl, moved.1⟩), moved.2,
        if_pos moved⟩)))
    · exact .inl (if_neg moved)
  case h_6 => exact .inl rfl

/-- A call that fits the phases it met moves every phase forward. -/
theorem reaches_update (fits : a.Fits c r) (below : c.isBegin → a.begins < 2 ^ 64 - 1)
    (n : ℕ) : (a.phase n).Reaches ((a.update c r).phase n) := by
  rcases a.phase_update_cases c r n with same | ⟨begins, -⟩ | ⟨-, active, moved⟩ |
    ⟨-, held, moved⟩ | ⟨-, active, moved⟩
  · exact same ▸ TxPhase.Reaches.refl _
  · have isBegin : c.isBegin := by
      obtain ⟨now, rfl, -⟩ := begins
      rfl
    rw [fits.begins n begins (below isBegin)]
    trivial
  · rw [active, moved]
    decide
  · rcases held with held | held <;> rw [held, moved] <;> decide
  · rw [active, moved]
    decide

/-- Only a begin moves an id out of `unused`. -/
theorem begins_of_unused (unused : a.phase n = .unused)
    (moved : (a.update c r).phase n ≠ .unused) : Begins n c r := by
  rcases a.phase_update_cases c r n with same | ⟨begins, -⟩ | ⟨-, active, -⟩ |
    ⟨-, held, -⟩ | ⟨-, active, -⟩
  · exact absurd (same.trans unused) moved
  · exact begins
  all_goals simp_all

/-- A begin leaves the id it returned ACTIVE. -/
theorem phase_of_begins (begins : Begins n c r) : (a.update c r).phase n = .active := by
  obtain ⟨now, rfl, rfl⟩ := begins
  exact if_pos rfl

/-- A commit that returns `true` leaves its id COMMITTED. -/
theorem phase_of_commits (fits : a.Fits c r) (commits : Commits n c r) :
    (a.update c r).phase n = .committed := by
  obtain ⟨deviceFails, rfl, rfl⟩ := commits
  exact leaveActive_same (fits.commits n ⟨deviceFails, rfl, rfl⟩)

/-- An id a call aborts ends up ABORTED, or with its failed commit on record. -/
theorem phase_of_aborts (fits : a.Fits c r) (aborts : Aborts n c r) :
    (a.update c r).phase n = .failed ∨ (a.update c r).phase n = .aborted := by
  have held := fits.aborts n aborts
  rcases aborts with ⟨rfl, rfl⟩ | ⟨now, expired, rfl, rfl, expired⟩ | ⟨_, rfl, rfl⟩
  · rcases held with active | failed
    · exact .inr (leaveActive_same active)
    · exact .inl ((congrFun (leaveActive_of_not_active (by simp [failed])) n).trans failed)
  · exact .inr (if_pos ⟨expired, held⟩)
  · rcases held with active | failed
    · exact .inl (leaveActive_same active)
    · exact .inl ((congrFun (leaveActive_of_not_active (by simp [failed])) n).trans failed)

end Step

section Histories

variable {σ : Type}

/-- Every call of a history fits the phases it met, and every begin comes before the counter
wraps. -/
def Sound (a : Lifecycle) (events : List (Event σ TransactionCall TransactionReply)) : Prop :=
  ∀ earlier e later, events = earlier ++ e :: later →
    (abstractAfter update a earlier).Fits e.call e.result ∧
      (e.call.isBegin → (abstractAfter update a earlier).begins < 2 ^ 64 - 1)

variable {a : Lifecycle} {events : List (Event σ TransactionCall TransactionReply)}

/-- The calls before a point of a sound history are sound. -/
theorem Sound.take {later : List (Event σ TransactionCall TransactionReply)}
    (sound : Sound a (events ++ later)) : Sound a events :=
  fun earlier e rest split => sound earlier e (rest ++ later) (by simp [split])

/-- The calls after a point of a sound history are sound from the state they met. -/
theorem Sound.drop {later : List (Event σ TransactionCall TransactionReply)}
    (sound : Sound a (events ++ later)) : Sound (abstractAfter update a events) later :=
  fun earlier e rest split => by
    have := sound (events ++ earlier) e rest (by simp [split])
    rwa [abstractAfter_append] at this

/-- The abstract state counts the begins of the history. -/
theorem begins_abstractAfter : ∀ (a : Lifecycle)
    (events : List (Event σ TransactionCall TransactionReply)),
    (abstractAfter update a events).begins = a.begins + events.countP (·.call.isBegin)
  | _, [] => rfl
  | a, e :: events => by
    rw [abstractAfter_cons, begins_abstractAfter, begins_update, List.countP_cons]
    omega

/-- The calls after the first call of a sound history are sound. -/
theorem Sound.tail {e : Event σ TransactionCall TransactionReply}
    (sound : Sound a (e :: events)) : Sound (a.update e.call e.result) events :=
  fun earlier e' rest split => sound (e :: earlier) e' rest (by rw [split]; rfl)

/-- Along a sound history every phase moves forward. -/
theorem Sound.reaches :
    ∀ {a : Lifecycle} {events : List (Event σ TransactionCall TransactionReply)}, Sound a events →
      ∀ n, (a.phase n).Reaches ((abstractAfter update a events).phase n)
  | _, [], _, n => TxPhase.Reaches.refl _
  | a, e :: _, sound, n => by
    obtain ⟨fits, below⟩ := sound [] e _ rfl
    exact (a.reaches_update fits below n).trans (Sound.reaches sound.tail n)

/-- An id that has left `unused` was returned by a begin of the history. -/
theorem begins_of_phase {n : ℕ} : ∀ {a : Lifecycle}
    {events : List (Event σ TransactionCall TransactionReply)}, a.phase n = .unused →
    (abstractAfter update a events).phase n ≠ .unused → ∃ e ∈ events, Begins n e.call e.result
  | _, [], unused, moved => absurd unused moved
  | a, e :: events, unused, moved => by
    by_cases still : (a.update e.call e.result).phase n = .unused
    · obtain ⟨e', mem, begins⟩ := begins_of_phase still moved
      exact ⟨e', List.mem_cons_of_mem _ mem, begins⟩
    · exact ⟨e, List.mem_cons_self _ _, a.begins_of_unused unused still⟩

/-- A call of a sound history, seen from a later call: the abstract state it met, which it
fits, and from whose successor every phase moves forward up to the later call. -/
theorem Sound.since (sound : Sound a events)
    {earlier later : List (Event σ TransactionCall TransactionReply)}
    {e e' : Event σ TransactionCall TransactionReply} (split : events = earlier ++ e :: later)
    (mem : e' ∈ earlier) :
    ∃ b : Lifecycle, b.Fits e'.call e'.result ∧ ∀ n,
      ((b.update e'.call e'.result).phase n).Reaches
        ((abstractAfter update a earlier).phase n) := by
  obtain ⟨before, between, rfl⟩ := List.append_of_mem mem
  have whole : events = (before ++ [e']) ++ between ++ e :: later := by simp [split]
  refine ⟨abstractAfter update a before,
    (sound before e' (between ++ e :: later) (by simp [split])).1, fun n => ?_⟩
  have reaches := (whole ▸ sound).take.drop.reaches n
  simpa [abstractAfter_append] using reaches

variable {earlier later : List (Event σ TransactionCall TransactionReply)}
  {e e' : Event σ TransactionCall TransactionReply} {t : ℕ}

/-- Along a sound history no id is returned by two begins. -/
theorem Sound.begins_once (sound : Sound a events) (split : events = earlier ++ e :: later)
    (begins : Begins t e.call e.result) (mem : e' ∈ earlier) : ¬Begins t e'.call e'.result :=
  fun began => by
    obtain ⟨b, -, reaches⟩ := sound.since split mem
    obtain ⟨fits, below⟩ := sound earlier e later split
    have isBegin : e.call.isBegin := by
      obtain ⟨now, same, -⟩ := begins
      rw [same]
      rfl
    have moved := reaches t
    rw [b.phase_of_begins began, fits.begins t begins (below isBegin)] at moved
    exact absurd moved (by decide)

/-- Along a sound history an id that a commit returning `true` closes is never aborted,
before that commit or after it. -/
theorem Sound.not_aborts (sound : Sound a events) (mem : e ∈ events)
    (commits : Commits t e.call e.result) (mem' : e' ∈ events) : ¬Aborts t e'.call e'.result :=
  fun aborts => by
    obtain ⟨earlier, later, split⟩ := List.append_of_mem mem
    rw [split] at mem'
    rcases List.mem_append.mp mem' with before | after
    · obtain ⟨b, fits, reaches⟩ := sound.since split before
      have moved := reaches t
      rw [(sound earlier e later split).1.commits t commits] at moved
      rcases b.phase_of_aborts fits aborts with closed | closed <;> rw [closed] at moved <;>
        exact absurd moved (by decide)
    · rcases List.mem_cons.mp after with rfl | after
      · exact not_aborts_of_commits commits aborts
      · obtain ⟨between, rest, rfl⟩ := List.append_of_mem after
        have split' : events = (earlier ++ e :: between) ++ e' :: rest := by simp [split]
        obtain ⟨b, fits, reaches⟩ :=
          sound.since split' (List.mem_append_right earlier (List.mem_cons_self e between))
        have moved := reaches t
        rw [b.phase_of_commits fits commits] at moved
        rcases (sound _ e' rest split').1.aborts t aborts with held | held <;>
          rw [held] at moved <;> exact absurd moved (by decide)

/-- Along a sound history from the start, an add succeeds only on an id some earlier begin
returned, and only before any commit that returns `true` and any abort of it. -/
theorem Sound.adds_while_active (sound : Sound initial events)
    (split : events = earlier ++ e :: later) (adds : Adds t e.call e.result) :
    (∃ e' ∈ earlier, Begins t e'.call e'.result) ∧
      ∀ e' ∈ earlier, ¬Commits t e'.call e'.result ∧ ¬Aborts t e'.call e'.result := by
  have active := (sound earlier e later split).1.adds t adds
  refine ⟨begins_of_phase (a := initial) rfl (by rw [active]; decide), fun e' mem => ?_⟩
  obtain ⟨b, fits, reaches⟩ := sound.since split mem
  have moved := reaches t
  rw [active] at moved
  refine ⟨fun commits => ?_, fun aborts => ?_⟩
  · rw [b.phase_of_commits fits commits] at moved
    exact absurd moved (by decide)
  · rcases b.phase_of_aborts fits aborts with closed | closed <;> rw [closed] at moved <;>
      exact absurd moved (by decide)

end Histories

end Lifecycle

end Dfs
