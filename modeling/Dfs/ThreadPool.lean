import Dfs.History
import Dfs.Retry.Classify

/-!
# The thread pool

`ThreadPool` of `utils/thread_pool.h` keeps a priority queue of tasks under `queue_mutex_`,
and a vector of worker threads, each running `worker_thread`: wait on `condition_` until the
pool is stopped or a task is queued, leave when the pool is stopped and the queue is empty,
and otherwise pop the top task, run it, and go around again.

A state of the model is the pool between two critical sections, and an event is one step of
one thread: the queue part of `enqueue`, one `adjust_thread_count`, a worker taking the top
task, a task returning or throwing, a worker leaving its loop, `shutdown` setting `stop_`, and
the joins of `shutdown` returning. Every interleaving of the threads is a list of events; an
event that its thread cannot take in a state (a worker that is not waiting, a wait whose
condition does not hold) is blocked and changes nothing. A waiting thread may check its
condition at any time, as a spurious wakeup lets it, so the model has every schedule the
notifications allow, and more: what it proves of every schedule holds of the program.

`std::priority_queue` is a multiset whose `top()` is a greatest task for `Task::operator<`:
the higher priority, and among equal priorities the earlier `created_time`. Which of several
equivalent tasks the heap returns is left open, so the event that takes a task names it.

Over every interleaving from `ThreadPool(min_threads, max_threads)`, no task is lost or run
twice: the queued tasks, the running ones and the finished ones are exactly the enqueued ones,
and the counters agree (`pool_conservation`). Once `shutdown` has stopped the pool and every
worker has left, nothing is left in the queue (`pool_drains_on_shutdown`). With the clock read
inside the queue's lock, tasks of one priority start in the order they were enqueued
(`fifo_within_priority`).

`shutdown` iterates over `workers_` to join them, and clears it, without `queue_mutex_`, while
a worker that has not left yet may still append to it in `adjust_thread_count`, under the lock:
that is a data race on the vector, and an append that reallocates it invalidates the iteration.
The model takes the joins and the clear as one event, which waits until every worker has left,
and so says nothing about that race.

The function of a task is named by a number, or is empty; the pool only calls it. Its
duration, the log lines and the statistics of time are left out.
-/

namespace Dfs

open scoped List

/-- `ThreadPool::Priority`. -/
inductive Priority where
  | low | normal | high | critical
  deriving Repr, DecidableEq

/-- `static_cast<int>(priority)`. -/
def Priority.toNat : Priority → ℕ
  | .low => 0
  | .normal => 1
  | .high => 2
  | .critical => 3

/-- `ThreadPool::Task`: its function (`none` for an empty `std::function`), its priority and
the `steady_clock` reading of its construction. -/
structure Task where
  function : Option ℕ
  priority : Priority
  createdTime : ℤ
  deriving Repr, DecidableEq

/-- `Task::operator<`, the order of the priority queue. -/
def Task.lt (a b : Task) : Bool :=
  if a.priority ≠ b.priority then a.priority.toNat < b.priority.toNat
  else a.createdTime > b.createdTime

/-- Where a thread of `workers_` is in `worker_thread`. -/
inductive Worker where
  /-- At the top of its loop, waiting on `condition_` for a task or for `stop_`. -/
  | idle
  /-- Running a task it popped. -/
  | running (task : Task)
  /-- Returned from `worker_thread`. -/
  | exited
  deriving Repr, DecidableEq

/-- The task a worker is running. -/
def Worker.task? : Worker → Option Task
  | .running task => some task
  | _ => none

/-- The state of a `ThreadPool`. -/
structure ThreadPool where
  workers : List Worker
  tasks : List Task
  stop : Bool
  activeTasks : ℕ
  maxThreads : ℕ
  minThreads : ℕ
  totalTasksExecuted : UInt64
  totalTasksQueued : UInt64

/-- One step of one thread of a pool. -/
inductive PoolEvent where
  /-- The critical section of `enqueue(task, priority)`, which reads the clock. -/
  | enqueue (function : Option ℕ) (priority : Priority) (now : ℤ)
  /-- `adjust_thread_count()`, as `enqueue` and every worker call it. -/
  | adjustThreadCount
  /-- A waiting worker pops `task`, a top task of the queue. -/
  | take (worker : ℕ) (task : Task)
  /-- The task of a worker returns, or throws. -/
  | finish (worker : ℕ) (threw : Bool)
  /-- A waiting worker leaves its loop. -/
  | exit (worker : ℕ)
  /-- The critical section of `shutdown()`. -/
  | shutdown
  /-- The joins of `shutdown()` return, and it clears `workers_`. -/
  | join
  /-- `wait_for_all_tasks()` returns. -/
  | waitForAllTasks

/-- The clock reading an event makes: `enqueue` constructs its task, and reads
`steady_clock::now()`, inside the queue's lock. -/
def PoolEvent.clock? : PoolEvent → Option ℤ
  | .enqueue _ _ now => some now
  | _ => none

/-- What a step did. -/
inductive PoolResult where
  /-- The thread cannot take the step. -/
  | blocked
  | done
  | threw (e : Exception)
  | started (task : Task)
  | finished (task : Task) (threw : Bool)

namespace ThreadPool

/-- `ThreadPool(min_threads, max_threads)`. -/
def new (minThreads maxThreads : ℕ) : ThreadPool :=
  ⟨List.replicate minThreads .idle, [], false, 0, maxThreads, minThreads, 0, 0⟩

/-- The tasks the workers are running. -/
def running (pool : ThreadPool) : List Task := pool.workers.filterMap Worker.task?

/-- The critical section of `enqueue`: it throws on a stopped pool, and queues the task. -/
def enqueue (pool : ThreadPool) (function : Option ℕ) (priority : Priority) (now : ℤ) :
    Except Exception ThreadPool :=
  if pool.stop then .error (.runtime "ThreadPool is stopped")
  else .ok { pool with
    tasks := pool.tasks ++ [⟨function, priority, now⟩]
    totalTasksQueued := pool.totalTasksQueued + 1 }

/-- `adjust_thread_count()`; `active_threads >= current_threads * 0.8` compares doubles. -/
def adjustThreadCount (pool : ThreadPool) : ThreadPool :=
  let currentThreads := pool.workers.length
  let queueSize := pool.tasks.length
  let activeThreads := pool.activeTasks
  if queueSize > 0 ∧ currentThreads < pool.maxThreads ∧
      activeThreads.toFloat ≥ currentThreads.toFloat * 0.8 then
    let threadsToAdd := min (min queueSize (pool.maxThreads - currentThreads)) 2
    { pool with workers := pool.workers ++ List.replicate threadsToAdd .idle }
  else pool

/-- `task` is a `top()` of the queue: a queued task no queued task is greater than. -/
def IsTop (pool : ThreadPool) (task : Task) : Prop :=
  task ∈ pool.tasks ∧ ∀ u ∈ pool.tasks, task.lt u = false

instance (pool : ThreadPool) (task : Task) : Decidable (pool.IsTop task) :=
  inferInstanceAs (Decidable (_ ∧ _))

/-- A waiting worker pops a top task: `tasks_.top()`, `tasks_.pop()`, `active_tasks_++`. It
runs the task if its function is not empty (`if (task)`), and otherwise goes back to the top
of its loop. -/
def take (pool : ThreadPool) (worker : ℕ) (task : Task) : Option ThreadPool :=
  if pool.workers[worker]? = some .idle ∧ pool.IsTop task then
    some { pool with
      workers := pool.workers.set worker (if task.function.isSome then .running task else .idle)
      tasks := pool.tasks.erase task
      activeTasks := pool.activeTasks + 1 }
  else none

/-- The task of a worker returns (`total_tasks_executed_++`) or throws, then
`active_tasks_--`. -/
def finish (pool : ThreadPool) (worker : ℕ) (threw : Bool) : Option (Task × ThreadPool) :=
  match pool.workers[worker]? with
  | some (.running task) => some (task, { pool with
      workers := pool.workers.set worker .idle
      activeTasks := pool.activeTasks - 1
      totalTasksExecuted :=
        if threw then pool.totalTasksExecuted else pool.totalTasksExecuted + 1 })
  | _ => none

/-- A waiting worker finds the pool stopped and the queue empty, and leaves. -/
def exit (pool : ThreadPool) (worker : ℕ) : Option ThreadPool :=
  if pool.workers[worker]? = some .idle ∧ pool.stop ∧ pool.tasks = [] then
    some { pool with workers := pool.workers.set worker .exited }
  else none

/-- One step of one thread. -/
def call (pool : ThreadPool) : PoolEvent → PoolResult × ThreadPool
  | .enqueue function priority now =>
    match pool.enqueue function priority now with
    | .ok pool => (.done, pool)
    | .error e => (.threw e, pool)
  | .adjustThreadCount => (.done, pool.adjustThreadCount)
  | .take worker task =>
    match pool.take worker task with
    | some pool => (.started task, pool)
    | none => (.blocked, pool)
  | .finish worker threw =>
    match pool.finish worker threw with
    | some (task, pool) => (.finished task threw, pool)
    | none => (.blocked, pool)
  | .exit worker =>
    match pool.exit worker with
    | some pool => (.done, pool)
    | none => (.blocked, pool)
  | .shutdown => (.done, { pool with stop := true })
  | .join =>
    if pool.stop ∧ ∀ w ∈ pool.workers, w = .exited then (.done, { pool with workers := [] })
    else (.blocked, pool)
  | .waitForAllTasks =>
    if pool.tasks = [] ∧ pool.activeTasks = 0 then (.done, pool) else (.blocked, pool)

end ThreadPool

/-- What a history of a pool did with tasks: the tasks it queued, started and finished, in
order, and how many of the finished ones returned. -/
structure Ledger where
  enqueued : List Task
  started : List Task
  finished : List Task
  succeeded : ℕ

namespace Ledger

/-- The ledger before any step. -/
def empty : Ledger := ⟨[], [], [], 0⟩

/-- The ledger after one more step. -/
def update (ledger : Ledger) : PoolEvent → PoolResult → Ledger
  | .enqueue function priority now, .done =>
    { ledger with enqueued := ledger.enqueued ++ [⟨function, priority, now⟩] }
  | _, .started task => { ledger with started := ledger.started ++ [task] }
  | _, .finished task threw =>
    { ledger with
      finished := ledger.finished ++ [task]
      succeeded := if threw then ledger.succeeded else ledger.succeeded + 1 }
  | _, _ => ledger

/-- The ledger of the steps `events` from `ThreadPool(min_threads, max_threads)`. -/
def after (minThreads maxThreads : ℕ) (events : List PoolEvent) : Ledger :=
  abstractAfter update empty (trace ThreadPool.call (ThreadPool.new minThreads maxThreads) events)

end Ledger

/-- The pool after the steps `events` from `ThreadPool(min_threads, max_threads)`. -/
def ThreadPool.after (minThreads maxThreads : ℕ) (events : List PoolEvent) : ThreadPool :=
  run call (new minThreads maxThreads) events

section Lists

variable {α β : Type} (f : α → Option β)

theorem filterMap_cons_perm (a : α) (l : List α) :
    (a :: l).filterMap f ~ l.filterMap f ++ (f a).toList := by
  cases h : f a with
  | none => simp [List.filterMap_cons_none, h]
  | some b => simpa [List.filterMap_cons_some, h] using (List.perm_append_singleton b _).symm

/-- Replacing one element of a list replaces its image under `filterMap`, up to order. -/
theorem filterMap_set_perm : ∀ (l : List α) (i : ℕ) {x : α} (y : α), l[i]? = some x →
    (l.set i y).filterMap f ++ (f x).toList ~ l.filterMap f ++ (f y).toList
  | [], _, _, _, h => by simp at h
  | a :: l, 0, x, y, h => by
    obtain rfl : a = x := by simpa using h
    refine ((filterMap_cons_perm f y l).append_right _).trans
      (List.Perm.trans ?_ ((filterMap_cons_perm f a l).append_right _).symm)
    simp only [List.append_assoc]
    exact List.perm_append_comm.append_left _
  | a :: l, i + 1, x, y, h => by
    have ih := filterMap_set_perm l i y (by simpa using h)
    cases hfa : f a <;>
      simp only [List.set_cons_succ, List.filterMap_cons, hfa, List.cons_append]
    · exact ih
    · exact ih.cons _

end Lists

namespace ThreadPool

/-- Every step a thread of the pool can take, with what enables it, what it returns and the
state it leaves; a blocked step, a throwing `enqueue` and a returning `wait_for_all_tasks`
leave the state and the ledger as they were. -/
theorem call_cases {pool pool' : ThreadPool} {event : PoolEvent} {result : PoolResult}
    (h : pool.call event = (result, pool')) :
    (pool' = pool ∧ ∀ ledger : Ledger, ledger.update event result = ledger) ∨
    (∃ task : Task, event = .enqueue task.function task.priority task.createdTime ∧
      pool.stop = false ∧ result = .done ∧
      pool' = { pool with
        tasks := pool.tasks ++ [task]
        totalTasksQueued := pool.totalTasksQueued + 1 }) ∨
    (event = .adjustThreadCount ∧ result = .done ∧ pool' = pool.adjustThreadCount) ∨
    (∃ w task, event = .take w task ∧ pool.workers[w]? = some .idle ∧ pool.IsTop task ∧
      result = .started task ∧
      pool' = { pool with
        workers := pool.workers.set w (if task.function.isSome then .running task else .idle)
        tasks := pool.tasks.erase task
        activeTasks := pool.activeTasks + 1 }) ∨
    (∃ w threw task, event = .finish w threw ∧ pool.workers[w]? = some (.running task) ∧
      result = .finished task threw ∧
      pool' = { pool with
        workers := pool.workers.set w .idle
        activeTasks := pool.activeTasks - 1
        totalTasksExecuted :=
          if threw then pool.totalTasksExecuted else pool.totalTasksExecuted + 1 }) ∨
    (∃ w, event = .exit w ∧ pool.workers[w]? = some .idle ∧ pool.stop = true ∧
      pool.tasks = [] ∧ result = .done ∧ pool' = { pool with workers := pool.workers.set w .exited }) ∨
    (event = .shutdown ∧ result = .done ∧ pool' = { pool with stop := true }) ∨
    (event = .join ∧ pool.stop = true ∧ (∀ w ∈ pool.workers, w = .exited) ∧ result = .done ∧
      pool' = { pool with workers := [] }) := by
  cases event with
  | enqueue function priority now =>
    cases stop : pool.stop <;> simp only [call, enqueue, stop, Prod.mk.injEq] at h <;>
      obtain ⟨rfl, rfl⟩ := h
    · exact .inr (.inl ⟨⟨function, priority, now⟩, rfl, rfl, rfl, rfl⟩)
    · exact .inl ⟨rfl, fun _ => rfl⟩
  | adjustThreadCount =>
    obtain ⟨rfl, rfl⟩ := Prod.mk.inj h.symm
    exact .inr (.inr (.inl ⟨rfl, rfl, rfl⟩))
  | take w task =>
    by_cases enabled : pool.workers[w]? = some .idle ∧ pool.IsTop task
    · simp only [call, take, if_pos enabled, Prod.mk.injEq] at h
      obtain ⟨rfl, rfl⟩ := h
      exact .inr (.inr (.inr (.inl ⟨w, task, rfl, enabled.1, enabled.2, rfl, rfl⟩)))
    · simp only [call, take, if_neg enabled, Prod.mk.injEq] at h
      obtain ⟨rfl, rfl⟩ := h
      exact .inl ⟨rfl, fun _ => rfl⟩
  | finish w threw =>
    rcases running : pool.workers[w]? with _ | _ | task | _ <;>
      simp only [call, finish, running, Prod.mk.injEq] at h <;> obtain ⟨rfl, rfl⟩ := h
    · exact .inl ⟨rfl, fun _ => rfl⟩
    · exact .inl ⟨rfl, fun _ => rfl⟩
    · exact .inr (.inr (.inr (.inr (.inl ⟨w, threw, task, rfl, running, rfl, rfl⟩))))
    · exact .inl ⟨rfl, fun _ => rfl⟩
  | exit w =>
    simp only [call, exit] at h
    split_ifs at h with enabled <;> obtain ⟨rfl, rfl⟩ := Prod.mk.inj h.symm
    · exact .inr (.inr (.inr (.inr (.inr (.inl ⟨w, rfl, enabled.1, enabled.2.1, enabled.2.2, rfl, rfl⟩)))))
    · exact .inl ⟨rfl, fun _ => rfl⟩
  | shutdown =>
    obtain ⟨rfl, rfl⟩ := Prod.mk.inj h.symm
    exact .inr (.inr (.inr (.inr (.inr (.inr (.inl ⟨rfl, rfl, rfl⟩))))))
  | join =>
    simp only [call] at h
    split_ifs at h with enabled <;> obtain ⟨rfl, rfl⟩ := Prod.mk.inj h.symm
    · exact .inr (.inr (.inr (.inr (.inr (.inr (.inr ⟨rfl, enabled.1, enabled.2, rfl, rfl⟩))))))
    · exact .inl ⟨rfl, fun _ => rfl⟩
  | waitForAllTasks =>
    simp only [call] at h
    split_ifs at h <;> obtain ⟨rfl, rfl⟩ := Prod.mk.inj h.symm <;> exact .inl ⟨rfl, fun _ => rfl⟩

/-- `adjust_thread_count` only adds waiting workers, and never beyond `max_threads_`. -/
theorem adjustThreadCount_eq (pool : ThreadPool) : ∃ added,
    pool.workers.length + added ≤ max pool.workers.length pool.maxThreads ∧
      pool.adjustThreadCount = { pool with workers := pool.workers ++ List.replicate added .idle } := by
  simp only [adjustThreadCount]
  split_ifs with grow
  · exact ⟨_, by omega, rfl⟩
  · exact ⟨0, by omega, by simp⟩

/-- A running worker runs a task with a function; a waiting or finished one runs none. -/
@[simp]
theorem task?_take_worker (task : Task) :
    (if task.function.isSome then Worker.running task else .idle).task? =
      if task.function.isSome then some task else none := by
  split <;> rfl

@[simp]
theorem filterMap_task?_replicate_idle (n : ℕ) :
    (List.replicate n Worker.idle).filterMap Worker.task? = [] :=
  List.filterMap_replicate_of_none rfl

/-- What the state of a pool says of the tasks a history gave it: the queued tasks and the
taken ones are the enqueued ones, each once; the running tasks and the finished ones are the
taken ones with a function; `active_tasks_` counts the running tasks and the taken empty ones;
the counters of the statistics count the enqueued tasks and the returned ones; and there are
never more workers than `max(min_threads, max_threads)`. -/
structure Consistent (pool : ThreadPool) (ledger : Ledger) : Prop where
  queued : pool.tasks ++ ledger.started ~ ledger.enqueued
  running : pool.running ++ ledger.finished ~ ledger.started.filter (·.function.isSome)
  active : pool.activeTasks = pool.running.length + ledger.started.countP (·.function.isNone)
  totalQueued : pool.totalTasksQueued = UInt64.ofNat ledger.enqueued.length
  totalExecuted : pool.totalTasksExecuted = UInt64.ofNat ledger.succeeded
  threads : pool.workers.length ≤ max pool.minThreads pool.maxThreads

namespace Consistent

variable {pool : ThreadPool} {ledger : Ledger}

theorem new (minThreads maxThreads : ℕ) :
    (ThreadPool.new minThreads maxThreads).Consistent Ledger.empty := by
  constructor <;> simp [ThreadPool.new, ThreadPool.running, Ledger.empty, Nat.le_max_left]

/-- The critical section of `enqueue` queues one task. -/
theorem enqueue (h : pool.Consistent ledger) (task : Task) :
    Consistent { pool with
        tasks := pool.tasks ++ [task]
        totalTasksQueued := pool.totalTasksQueued + 1 }
      { ledger with enqueued := ledger.enqueued ++ [task] } where
  queued := by
    simpa only [List.append_assoc, List.singleton_append] using
      List.perm_middle.trans ((h.queued.cons task).trans (List.perm_append_singleton _ _).symm)
  running := h.running
  active := h.active
  totalQueued := by simp only [h.totalQueued, List.length_append, List.length_singleton,
    UInt64.ofNat_add]; rfl
  totalExecuted := h.totalExecuted
  threads := h.threads

theorem adjustThreadCount (h : pool.Consistent ledger) :
    pool.adjustThreadCount.Consistent ledger := by
  obtain ⟨added, bound, grown⟩ := pool.adjustThreadCount_eq
  have threads := h.threads
  rw [grown]
  exact ⟨h.queued, by simpa [ThreadPool.running] using h.running,
    by simpa [ThreadPool.running] using h.active, h.totalQueued, h.totalExecuted,
    by simp only [List.length_append, List.length_replicate]; omega⟩

/-- A waiting worker pops a top task, and runs it if its function is not empty. -/
theorem take {w : ℕ} {task : Task} (h : pool.Consistent ledger)
    (idle : pool.workers[w]? = some .idle) (top : pool.IsTop task) :
    Consistent { pool with
        workers := pool.workers.set w (if task.function.isSome then .running task else .idle)
        tasks := pool.tasks.erase task
        activeTasks := pool.activeTasks + 1 }
      { ledger with started := ledger.started ++ [task] } := by
  have queued : pool.tasks.erase task ++ (ledger.started ++ [task]) ~ ledger.enqueued := by
    rw [← List.append_assoc]
    exact (List.perm_append_singleton _ _).trans
      (((List.perm_cons_erase top.1).symm.append_right _).trans h.queued)
  have runs := filterMap_set_perm Worker.task? pool.workers w
    (if task.function.isSome then .running task else .idle) idle
  have running := h.running
  have active := h.active
  refine ⟨queued, ?_, ?_, h.totalQueued, h.totalExecuted, by simpa using h.threads⟩ <;>
    cases function : task.function <;>
    simp only [ThreadPool.running, function, Option.isSome_none, Option.isSome_some,
      Option.isNone_none, Option.isNone_some, task?_take_worker, if_false, if_true,
      Bool.false_eq_true, Option.toList_none, Option.toList_some, Worker.task?, List.append_nil,
      List.filter_append, List.filter_singleton, List.countP_append, List.countP_singleton,
      cond_false, cond_true, List.length_append, List.length_singleton] at runs running active ⊢
  · exact (runs.append_right _).trans running
  · refine (runs.append_right _).trans (List.Perm.trans ?_ (running.append_right [task]))
    simp only [List.append_assoc]
    exact List.perm_append_comm.append_left _
  · have := runs.length_eq
    omega
  · have := runs.length_eq
    simp only [List.length_append, List.length_singleton] at this
    omega

/-- A task returns (`total_tasks_executed_++`) or throws, and its worker waits again. -/
theorem finish {w : ℕ} {task : Task} (h : pool.Consistent ledger)
    (running : pool.workers[w]? = some (.running task)) (threw : Bool) :
    Consistent { pool with
        workers := pool.workers.set w .idle
        activeTasks := pool.activeTasks - 1
        totalTasksExecuted :=
          if threw then pool.totalTasksExecuted else pool.totalTasksExecuted + 1 }
      { ledger with
        finished := ledger.finished ++ [task]
        succeeded := if threw then ledger.succeeded else ledger.succeeded + 1 } := by
  have runs := filterMap_set_perm Worker.task? pool.workers w .idle running
  simp only [Worker.task?, Option.toList_some, Option.toList_none, List.append_nil] at runs
  have active := h.active
  refine ⟨h.queued, ?_, ?_, h.totalQueued, ?_, by simpa using h.threads⟩
  · refine (List.perm_append_comm.append_left _).trans (List.Perm.trans ?_ h.running)
    rw [← List.append_assoc]
    exact runs.append_right _
  · have := runs.length_eq
    simp only [ThreadPool.running, List.length_append, List.length_singleton] at this active ⊢
    omega
  · cases threw <;> simp [h.totalExecuted, UInt64.ofNat_add]

/-- A waiting worker leaves its loop. -/
theorem exit {w : ℕ} (h : pool.Consistent ledger) (idle : pool.workers[w]? = some .idle) :
    Consistent { pool with workers := pool.workers.set w .exited } ledger := by
  have runs := filterMap_set_perm Worker.task? pool.workers w .exited idle
  simp only [Worker.task?, Option.toList_none, List.append_nil] at runs
  have active := h.active
  simp only [ThreadPool.running] at active
  exact ⟨h.queued, (runs.append_right _).trans h.running, by simpa [ThreadPool.running,
    runs.length_eq] using active, h.totalQueued, h.totalExecuted, by simpa using h.threads⟩

theorem shutdown (h : pool.Consistent ledger) : Consistent { pool with stop := true } ledger :=
  ⟨h.queued, h.running, h.active, h.totalQueued, h.totalExecuted, h.threads⟩

/-- The joins of `shutdown` return once every worker has left, and `workers_` is cleared. -/
theorem join (h : pool.Consistent ledger) (exited : ∀ w ∈ pool.workers, w = .exited) :
    Consistent { pool with workers := [] } ledger := by
  have idle : pool.workers.filterMap Worker.task? = [] :=
    List.filterMap_eq_nil_iff.mpr fun w mem => by rw [exited w mem]; rfl
  have running := h.running
  have active := h.active
  simp only [ThreadPool.running, idle] at running active
  exact ⟨h.queued, running, by simpa [ThreadPool.running] using active, h.totalQueued,
    h.totalExecuted, Nat.zero_le _⟩

/-- Every step keeps a pool consistent with its ledger. -/
theorem call {event : PoolEvent} {result : PoolResult} {pool' : ThreadPool}
    (h : pool.Consistent ledger) (step : pool.call event = (result, pool')) :
    pool'.Consistent (ledger.update event result) := by
  rcases call_cases step with ⟨rfl, same⟩ | ⟨task, rfl, -, rfl, rfl⟩ | ⟨rfl, rfl, rfl⟩ |
    ⟨w, task, rfl, idle, top, rfl, rfl⟩ | ⟨w, threw, task, rfl, running, rfl, rfl⟩ |
    ⟨w, rfl, idle, -, -, rfl, rfl⟩ | ⟨rfl, rfl, rfl⟩ | ⟨rfl, -, exited, rfl, rfl⟩
  · rw [same]
    exact h
  · exact h.enqueue task
  · exact h.adjustThreadCount
  · exact h.take idle top
  · exact h.finish running threw
  · exact h.exit idle
  · exact h.shutdown
  · exact h.join exited

end Consistent

/-- Every history from `ThreadPool(min_threads, max_threads)` leaves the pool consistent with
its ledger. -/
theorem consistent_after (minThreads maxThreads : ℕ) (events : List PoolEvent) :
    (after minThreads maxThreads events).Consistent (Ledger.after minThreads maxThreads events) :=
  run_of_keeps_ahead Ledger.update (fun _ (pool : ThreadPool) ledger => pool.Consistent ledger)
    (fun _ _ _ _ h => h.call rfl) events _ _ (Consistent.new minThreads maxThreads)

/-- A worker leaves its loop only once the pool is stopped and the queue is empty, and the
workers are cleared only after that. -/
def ExitedOnlyWhenDrained (pool : ThreadPool) : Prop :=
  pool.workers = [] ∨ .exited ∈ pool.workers → pool.stop = true ∧ pool.tasks = []

/-- Replacing a worker by one that has not left keeps the pool's view of who has left. -/
theorem left_of_set {workers : List Worker} {w : ℕ} {worker : Worker} (stays : worker ≠ .exited)
    (left : workers.set w worker = [] ∨ .exited ∈ workers.set w worker) :
    workers = [] ∨ .exited ∈ workers :=
  left.imp (List.set_eq_nil_iff w worker).mp
    fun mem => (List.mem_or_eq_of_mem_set mem).resolve_right fun same => stays same.symm

namespace ExitedOnlyWhenDrained

variable {pool pool' : ThreadPool} {event : PoolEvent} {result : PoolResult}

theorem new {minThreads : ℕ} (maxThreads : ℕ) (atLeastOne : 1 ≤ minThreads) :
    (ThreadPool.new minThreads maxThreads).ExitedOnlyWhenDrained := by
  rintro (empty | exited)
  · simp only [ThreadPool.new, List.replicate_eq_nil_iff] at empty
    omega
  · simp [ThreadPool.new] at exited

theorem call (h : pool.ExitedOnlyWhenDrained) (step : pool.call event = (result, pool')) :
    pool'.ExitedOnlyWhenDrained := by
  rcases call_cases step with ⟨rfl, -⟩ | ⟨task, -, running, -, rfl⟩ | ⟨-, -, rfl⟩ |
    ⟨w, task, -, -, top, -, rfl⟩ | ⟨w, threw, task, -, -, -, rfl⟩ |
    ⟨w, -, -, stop, empty, -, rfl⟩ | ⟨-, -, rfl⟩ | ⟨-, stop, exited, -, rfl⟩
  · exact h
  · exact fun left => absurd (h left).1 (by simp [running])
  · obtain ⟨added, -, grown⟩ := pool.adjustThreadCount_eq
    rw [grown]
    rintro (empty | exited)
    · exact h (.inl (List.append_eq_nil.mp empty).1)
    · exact h (.inr (by simpa using exited))
  · refine fun left => absurd top.1 ?_
    rw [(h (left_of_set (by split <;> simp) left)).2]
    exact List.not_mem_nil task
  · exact fun left => h (left_of_set (by simp) left)
  · exact fun _ => ⟨stop, empty⟩
  · exact fun left => ⟨rfl, (h left).2⟩
  · refine fun _ => ⟨stop, (h ?_).2⟩
    by_cases empty : pool.workers = []
    · exact .inl empty
    · obtain ⟨w, mem⟩ := List.exists_mem_of_ne_nil _ empty
      exact .inr (exited w mem ▸ mem)

end ExitedOnlyWhenDrained

/-- With at least one worker to start with, once every worker has left its loop (or `shutdown`
has cleared them), the pool is stopped, its queue is empty, every enqueued task has been taken,
and every taken task with a function has finished. -/
theorem pool_drains_on_shutdown {minThreads : ℕ} (maxThreads : ℕ) (atLeastOne : 1 ≤ minThreads)
    (events : List PoolEvent)
    (allExited : ∀ w ∈ (after minThreads maxThreads events).workers, w = .exited) :
    (after minThreads maxThreads events).stop = true ∧ (after minThreads maxThreads events).tasks = [] ∧
      (Ledger.after minThreads maxThreads events).started ~
        (Ledger.after minThreads maxThreads events).enqueued ∧
      (Ledger.after minThreads maxThreads events).finished ~
        (Ledger.after minThreads maxThreads events).started.filter (·.function.isSome) := by
  have drained := run_of_keeps call ExitedOnlyWhenDrained (fun _ _ h => h.call rfl) _ events
    (ExitedOnlyWhenDrained.new maxThreads atLeastOne)
  have consistent := consistent_after minThreads maxThreads events
  obtain ⟨stop, empty⟩ : (after minThreads maxThreads events).stop = true ∧
      (after minThreads maxThreads events).tasks = [] := by
    refine drained ?_
    by_cases none : (after minThreads maxThreads events).workers = []
    · exact .inl none
    · obtain ⟨w, mem⟩ := List.exists_mem_of_ne_nil _ none
      exact .inr (allExited w mem ▸ mem)
  have idle : (after minThreads maxThreads events).running = [] :=
    List.filterMap_eq_nil_iff.mpr fun w mem => by rw [allExited w mem]; rfl
  have queued := consistent.queued
  have running := consistent.running
  rw [empty, List.nil_append] at queued
  rw [idle, List.nil_append] at running
  exact ⟨stop, empty, queued, running⟩

theorem pool_drains_after_one_task :
    1 ≤ 1 ∧ (∀ w ∈ (after 1 1 [.enqueue (some 0) .high 5, .take 0 ⟨some 0, .high, 5⟩,
        .finish 0 true, .shutdown, .exit 0]).workers, w = .exited) ∧
      (after 1 1 [.enqueue (some 0) .high 5, .take 0 ⟨some 0, .high, 5⟩, .finish 0 true,
        .shutdown, .exit 0]).tasks = [] :=
  ⟨le_rfl, by decide, (pool_drains_on_shutdown 1 le_rfl _ (by decide)).2.1⟩

/-- The order of the queue, and what the readings of the clock still to come must respect:
tasks of one priority were taken in the order of their creation, no queued task was created
before a taken one of its priority, and no taken or queued task was created after a reading
still to come, which come in order. -/
structure InCreationOrder (rest : List PoolEvent) (pool : ThreadPool) (ledger : Ledger) :
    Prop where
  started : ledger.started.Pairwise fun a b => a.priority = b.priority → a.createdTime ≤ b.createdTime
  queued : ∀ a ∈ ledger.started, ∀ b ∈ pool.tasks, a.priority = b.priority →
    a.createdTime ≤ b.createdTime
  clock : ∀ t ∈ ledger.started ++ pool.tasks, ∀ now ∈ rest.filterMap PoolEvent.clock?,
    t.createdTime ≤ now
  sorted : (rest.filterMap PoolEvent.clock?).Pairwise (· ≤ ·)

/-- A top task of the queue was created no later than any queued task of its priority. -/
theorem IsTop.createdTime_le {pool : ThreadPool} {task u : Task} (top : pool.IsTop task)
    (queued : u ∈ pool.tasks) (same : task.priority = u.priority) :
    task.createdTime ≤ u.createdTime := by
  have notLess := top.2 u queued
  simp only [Task.lt, same, ne_eq, not_true_eq_false, if_false, decide_eq_false_iff_not] at notLess
  omega

namespace InCreationOrder

variable {rest : List PoolEvent} {pool pool' : ThreadPool} {ledger ledger' : Ledger}
  {event : PoolEvent} {result : PoolResult}

/-- Forgetting the next step's reading of the clock. -/
theorem tail (h : InCreationOrder (event :: rest) pool ledger) : InCreationOrder rest pool ledger :=
  have later := (List.sublist_cons_self event rest).filterMap PoolEvent.clock?
  ⟨h.started, h.queued, fun t mem now next => h.clock t mem now (later.subset next),
    h.sorted.sublist later⟩

/-- A step that neither queues nor takes a task keeps the order. -/
theorem of_same (h : InCreationOrder rest pool ledger) (tasks : pool'.tasks = pool.tasks)
    (started : ledger'.started = ledger.started) : InCreationOrder rest pool' ledger' := by
  obtain ⟨ordered, queued, clock, sorted⟩ := h
  rw [← tasks, ← started] at *
  exact ⟨ordered, queued, clock, sorted⟩

theorem call (h : InCreationOrder (event :: rest) pool ledger)
    (step : pool.call event = (result, pool')) :
    InCreationOrder rest pool' (ledger.update event result) := by
  rcases call_cases step with ⟨rfl, same⟩ | ⟨task, rfl, -, rfl, rfl⟩ | ⟨rfl, rfl, rfl⟩ |
    ⟨w, task, rfl, -, top, rfl, rfl⟩ | ⟨w, threw, task, rfl, -, rfl, rfl⟩ |
    ⟨w, rfl, -, -, -, rfl, rfl⟩ | ⟨rfl, rfl, rfl⟩ | ⟨rfl, -, -, rfl, rfl⟩
  case inr.inl =>
    have sorted := h.sorted
    simp only [List.filterMap_cons, PoolEvent.clock?, List.pairwise_cons] at sorted
    have created : task.createdTime ∈ (PoolEvent.enqueue task.function task.priority
        task.createdTime :: rest).filterMap PoolEvent.clock? := by simp [PoolEvent.clock?]
    refine ⟨h.started, fun a started b queued same => ?_, fun t mem now next => ?_, sorted.2⟩
    · rcases List.mem_append.mp queued with queued | queued
      · exact h.queued a started b queued same
      · rw [List.mem_singleton.mp queued]
        exact h.clock a (List.mem_append_left _ started) _ created
    · rcases List.mem_append.mp mem with mem | mem
      · exact h.tail.clock t (List.mem_append_left _ mem) now next
      · rcases List.mem_append.mp mem with mem | mem
        · exact h.tail.clock t (List.mem_append_right _ mem) now next
        · exact List.mem_singleton.mp mem ▸ sorted.1 now next
  case inr.inr.inr.inl =>
    refine ⟨List.pairwise_append.mpr ⟨h.started, List.pairwise_singleton _ _, ?_⟩, ?_, ?_,
      h.tail.sorted⟩
    · intro a started b taken
      rw [List.mem_singleton.mp taken]
      exact h.queued a started _ top.1
    · intro a started b queued same
      rcases List.mem_append.mp started with started | taken
      · exact h.queued a started b (List.mem_of_mem_erase queued) same
      · rw [List.mem_singleton.mp taken] at same ⊢
        exact top.createdTime_le (List.mem_of_mem_erase queued) same
    · intro t mem
      refine h.tail.clock t ?_
      rcases List.mem_append.mp mem with started | queued
      · rcases List.mem_append.mp started with started | taken
        · exact List.mem_append_left _ started
        · exact List.mem_singleton.mp taken ▸ List.mem_append_right _ top.1
      · exact List.mem_append_right _ (List.mem_of_mem_erase queued)
  case inl => exact h.tail.of_same rfl (congrArg Ledger.started (same ledger))
  case inr.inr.inl =>
    obtain ⟨added, -, grown⟩ := pool.adjustThreadCount_eq
    exact h.tail.of_same (by rw [grown]) rfl
  all_goals exact h.tail.of_same rfl rfl

end InCreationOrder

/-- With `steady_clock` read inside the queue's lock, never going back, tasks of one priority
leave the queue in the order they were enqueued: any two taken tasks of one priority were
taken in the order of their creation times. -/
theorem fifo_within_priority (minThreads maxThreads : ℕ) (events : List PoolEvent)
    (clockMonotone : (events.filterMap PoolEvent.clock?).Pairwise (· ≤ ·)) :
    (Ledger.after minThreads maxThreads events).started.Pairwise
      fun a b => a.priority = b.priority → a.createdTime ≤ b.createdTime :=
  (run_of_keeps_ahead Ledger.update InCreationOrder (fun _ _ _ _ h => h.call rfl) events _ _
    ⟨List.Pairwise.nil, by simp [Ledger.empty], by simp [Ledger.empty, ThreadPool.new],
      clockMonotone⟩).started

/-- Two workers, two normal tasks and a high one enqueued: the high task is taken first, then
the two normal tasks, by different workers, in the order they were enqueued. -/
theorem fifo_two_priorities :
    let events := [PoolEvent.enqueue (some 0) .normal 1, .enqueue (some 1) .normal 2,
      .enqueue (some 2) .high 3, .take 0 ⟨some 2, .high, 3⟩, .take 1 ⟨some 0, .normal, 1⟩,
      .finish 0 false, .take 0 ⟨some 1, .normal, 2⟩]
    (Ledger.after 2 2 events).started =
        [⟨some 2, .high, 3⟩, ⟨some 0, .normal, 1⟩, ⟨some 1, .normal, 2⟩] ∧
      (events.filterMap PoolEvent.clock?).Pairwise (· ≤ ·) ∧
      (Ledger.after 2 2 events).started.Pairwise
        fun a b => a.priority = b.priority → a.createdTime ≤ b.createdTime :=
  ⟨by decide, by decide, fifo_within_priority 2 2 _ (by decide)⟩

end ThreadPool

end Dfs
