import Dfs.History
import Dfs.Retry.Classify

/-!
# The logger

`Logger` of `utils/logger.h` filters each entry by level, counts it, and either writes it at
once (`write_log_entry`) or, with `enable_async_logging`, pushes it on `log_queue_` for the
thread of `worker_thread_function`, which pops entries from the front and writes them with the
lock released. The destructor sets `stop_worker_` and joins that thread, which leaves its loop
once the queue is empty.

A state of the model is the logger between two critical sections, and an event is one step of
one thread: a `log` call (one step, in the synchronous mode the write included), a change of
level or of configuration, the worker popping an entry, returning from its write, or leaving
its loop, the destructor's critical section, and its join returning. Every interleaving is a
list of events; a step its thread cannot take is blocked and changes nothing. What is proved of
the order of writes is proved of the asynchronous mode, where only the worker writes.

The worker is started by the constructor, and only if `enable_async_logging` is set then;
`update_config` changes the flag that `log` and the destructor read, and starts or stops no
thread. It writes `config_` and `current_level_` without taking `log_mutex_`, which `log` and
the worker hold while they read `config_`: made while another thread logs, that is a data race,
whose behaviour C++ leaves undefined. The model takes `update_config` as one step between
critical sections, and so says nothing about that race. So a logger created without asynchronous logging and switched to it queues every entry
and never writes one (`queued_entries_never_written`). With the mode kept, the worker writes
the entries in the order `log` accepted them (`logger_fifo`), and once no entry is logged after
the destructor has begun, its join returns only when every accepted entry is written
(`logger_drains_on_destruction`).

`rotate_logs` shifts the numbered log files up by one slot, from the last down, drops the
oldest, and moves the current file to slot 1 (`rotateLogs_shifts`). The files are modelled by
slot: `0` is `log_file_path`, `i` is `<stem>.<i><extension>` beside it.

The header names the levels `LOG_DEBUG` to `LOG_CRITICAL` and the implementation
`Level::DEBUG` to `Level::CRITICAL`; they are taken to be the same enumerators. Written
entries are recorded as the entries handed to `write_log_entry`; their text
(`format_log_entry`), the console colours and the size that triggers a rotation are left out.
-/

namespace Dfs

open scoped List

/-- `Logger::Level`. -/
inductive Level where
  | debug | info | warn | error | critical
  deriving Repr, DecidableEq

/-- The underlying value of a level, which `log` compares. -/
def Level.toNat : Level → ℕ
  | .debug => 0
  | .info => 1
  | .warn => 2
  | .error => 3
  | .critical => 4

/-- `Logger::LoggerConfig`, with the fields the modelled functions read. -/
structure LoggerConfig where
  minLevel : Level
  logFilePath : String
  enableFileOutput : Bool
  enableAsyncLogging : Bool
  maxLogFiles : UInt32
  deriving Repr, DecidableEq

/-- The defaults of `LoggerConfig()`. -/
def LoggerConfig.default : LoggerConfig := ⟨.info, "dfs.log", true, true, 5⟩

/-- `Logger::LogEntry`: its level, message and source location, with the `system_clock`
reading and the id of the thread that constructed it. -/
structure Logger.LogEntry where
  level : Level
  message : String
  sourceFile : String
  lineNumber : UInt32
  functionName : String
  timestamp : ℤ
  threadId : ℕ
  deriving Repr, DecidableEq

/-- Where the thread of `worker_thread_function` is. -/
inductive LogWorker where
  /-- Never started: `worker_thread_` is not joinable. -/
  | absent
  /-- Holding or waiting for `queue_mutex_`, at the top of one of its loops. -/
  | waiting
  /-- Writing an entry it popped, with the lock released. -/
  | writing (entry : Logger.LogEntry)
  /-- Returned from `worker_thread_function`, and not yet joined. -/
  | exited
  deriving Repr, DecidableEq

/-- The entry the worker is writing. -/
def LogWorker.entry? : LogWorker → Option Logger.LogEntry
  | .writing entry => some entry
  | _ => none

/-- The state of a `Logger`. -/
structure Logger where
  config : LoggerConfig
  currentLevel : Level
  logQueue : List Logger.LogEntry
  stopWorker : Bool
  worker : LogWorker
  totalLogs : UInt64
  logsByLevel : Level → UInt64

/-- One step of one thread that uses a logger. -/
inductive LoggerEvent where
  /-- `log(level, message, file, line, function)`, with the clock reading and the thread id
  of the `LogEntry` it constructs. -/
  | log (level : Level) (message sourceFile : String) (lineNumber : UInt32)
      (functionName : String) (now : ℤ) (threadId : ℕ)
  | setLevel (level : Level)
  | updateConfig (config : LoggerConfig)
  /-- The worker pops the front of the queue and releases the lock. -/
  | workerTake
  /-- The worker's `write_log_entry` returns. -/
  | workerWrite
  /-- The worker finds the queue empty and `stop_worker_` set, and returns. -/
  | workerExit
  /-- The destructor's test of `enable_async_logging`, with its critical section. -/
  | destroy
  /-- The destructor's join returns. -/
  | join

/-- A call of `log`. -/
def LoggerEvent.isLog : LoggerEvent → Bool
  | .log .. => true
  | _ => false

/-- The destructor's first step. -/
def LoggerEvent.isDestroy : LoggerEvent → Bool
  | .destroy => true
  | _ => false

/-- A step that leaves asynchronous logging on: every step but an `update_config` that turns
it off. -/
def LoggerEvent.keepsAsync : LoggerEvent → Bool
  | .updateConfig config => config.enableAsyncLogging
  | _ => true

/-- What a step did. -/
inductive LoggerResult where
  /-- The thread cannot take the step. -/
  | blocked
  /-- `log` dropped an entry below the current level. -/
  | filtered
  | done
  /-- `std::terminate`: the logger is destroyed with `worker_thread_` still joinable. -/
  | terminated
  | queued (entry : Logger.LogEntry)
  | wrote (entry : Logger.LogEntry)
  | taken (entry : Logger.LogEntry)

namespace Logger

/-- `Logger(config)`: the worker is started if asynchronous logging is enabled. -/
def new (config : LoggerConfig) : Logger :=
  ⟨config, config.minLevel, [], false, if config.enableAsyncLogging then .waiting else .absent,
    0, fun _ => 0⟩

/-- `total_logs_++` and `logs_by_level_[level]++`. -/
def record (logger : Logger) (level : Level) : Logger :=
  { logger with
    totalLogs := logger.totalLogs + 1
    logsByLevel := Function.update logger.logsByLevel level (logger.logsByLevel level + 1) }

/-- `Logger::log`: an entry below the current level is dropped; otherwise it is counted, and
queued for the worker or written at once. -/
def log (logger : Logger) (level : Level) (message sourceFile : String) (lineNumber : UInt32)
    (functionName : String) (now : ℤ) (threadId : ℕ) : LoggerResult × Logger :=
  if level.toNat < logger.currentLevel.toNat then (.filtered, logger)
  else if logger.config.enableAsyncLogging then
    (.queued ⟨level, message, sourceFile, lineNumber, functionName, now, threadId⟩,
      { logger.record level with
        logQueue := logger.logQueue ++ [⟨level, message, sourceFile, lineNumber, functionName,
          now, threadId⟩] })
  else (.wrote ⟨level, message, sourceFile, lineNumber, functionName, now, threadId⟩,
    logger.record level)

/-- `Logger::debug`. -/
def debug (logger : Logger) := logger.log .debug

/-- `Logger::info`. -/
def info (logger : Logger) := logger.log .info

/-- `Logger::warn`. -/
def warn (logger : Logger) := logger.log .warn

/-- `Logger::error`. -/
def error (logger : Logger) := logger.log .error

/-- `Logger::critical`. -/
def critical (logger : Logger) := logger.log .critical

/-- `Logger::log_transaction`, logged at `INFO` without a source location. -/
def logTransaction (logger : Logger) (txId : UInt64) (operation details : String) :=
  logger.info ("Transaction " ++ toString txId ++ ": " ++ operation ++
    (if details.isEmpty then "" else " - " ++ details)) "" 0 ""

/-- `Logger::log_performance`. -/
def logPerformance (logger : Logger) (operation : String) (milliseconds : ℤ) :=
  logger.info ("Performance: " ++ operation ++ " took " ++ toString milliseconds ++ "ms") "" 0 ""

/-- `Logger::log_error`, logged at `ERROR`. -/
def logError (logger : Logger) (e : Exception) (context : String) :=
  logger.error ("Exception in " ++ context ++ ": " ++ e.what) "" 0 ""

/-- `Logger::log_system_event`. -/
def logSystemEvent (logger : Logger) (event details : String) :=
  logger.info ("System Event: " ++ event ++ (if details.isEmpty then "" else " - " ++ details))
    "" 0 ""

/-- `Logger::set_level`. -/
def setLevel (logger : Logger) (level : Level) : Logger := { logger with currentLevel := level }

/-- `Logger::update_config`. -/
def updateConfig (logger : Logger) (newConfig : LoggerConfig) : Logger :=
  { logger with config := newConfig, currentLevel := newConfig.minLevel }

/-- One step of one thread. -/
def call (logger : Logger) : LoggerEvent → LoggerResult × Logger
  | .log level message sourceFile lineNumber functionName now threadId =>
    logger.log level message sourceFile lineNumber functionName now threadId
  | .setLevel level => (.done, logger.setLevel level)
  | .updateConfig config => (.done, logger.updateConfig config)
  | .workerTake =>
    match logger.worker, logger.logQueue with
    | .waiting, entry :: rest => (.taken entry, { logger with worker := .writing entry, logQueue := rest })
    | _, _ => (.blocked, logger)
  | .workerWrite =>
    match logger.worker with
    | .writing entry => (.wrote entry, { logger with worker := .waiting })
    | _ => (.blocked, logger)
  | .workerExit =>
    if logger.worker = .waiting ∧ logger.stopWorker ∧ logger.logQueue = [] then
      (.done, { logger with worker := .exited })
    else (.blocked, logger)
  | .destroy =>
    if logger.config.enableAsyncLogging then (.done, { logger with stopWorker := true })
    else if logger.worker = .absent then (.done, logger)
    else (.terminated, logger)
  | .join =>
    if logger.config.enableAsyncLogging ∧ logger.stopWorker ∧
        (logger.worker = .absent ∨ logger.worker = .exited) then (.done, logger)
    else (.blocked, logger)

end Logger

/-- What a history of a logger did with entries: those `log` accepted, in order, those it
queued, and those handed to `write_log_entry`, in the order the writes returned. -/
structure LogLedger where
  accepted : List Logger.LogEntry
  queued : List Logger.LogEntry
  written : List Logger.LogEntry

namespace LogLedger

/-- The ledger after one more step. -/
def update (ledger : LogLedger) : LoggerEvent → LoggerResult → LogLedger
  | .log .., .queued entry =>
    { ledger with accepted := ledger.accepted ++ [entry], queued := ledger.queued ++ [entry] }
  | .log .., .wrote entry =>
    { ledger with accepted := ledger.accepted ++ [entry], written := ledger.written ++ [entry] }
  | _, .wrote entry => { ledger with written := ledger.written ++ [entry] }
  | _, _ => ledger

section Update

variable (ledger : LogLedger) (entry : Logger.LogEntry) (level : Level) (message sourceFile : String)
  (lineNumber : UInt32) (functionName : String) (now : ℤ) (threadId : ℕ)

@[simp]
theorem update_log_queued :
    ledger.update (.log level message sourceFile lineNumber functionName now threadId)
      (.queued entry) =
      { ledger with accepted := ledger.accepted ++ [entry], queued := ledger.queued ++ [entry] } :=
  rfl

@[simp]
theorem update_log_wrote :
    ledger.update (.log level message sourceFile lineNumber functionName now threadId)
      (.wrote entry) =
      { ledger with accepted := ledger.accepted ++ [entry], written := ledger.written ++ [entry] } :=
  rfl

@[simp]
theorem update_workerWrite :
    ledger.update .workerWrite (.wrote entry) = { ledger with written := ledger.written ++ [entry] } :=
  rfl

end Update

/-- The ledger of the steps `events` from `Logger(config)`. -/
def after (config : LoggerConfig) (events : List LoggerEvent) : LogLedger :=
  abstractAfter update ⟨[], [], []⟩ (trace Logger.call (Logger.new config) events)

end LogLedger

/-- The logger after the steps `events` from `Logger(config)`. -/
def Logger.after (config : LoggerConfig) (events : List LoggerEvent) : Logger :=
  run call (new config) events

namespace Logger

section Record

variable (logger : Logger) (level : Level)

@[simp] theorem config_record : (logger.record level).config = logger.config := rfl
@[simp] theorem logQueue_record : (logger.record level).logQueue = logger.logQueue := rfl
@[simp] theorem worker_record : (logger.record level).worker = logger.worker := rfl
@[simp] theorem stopWorker_record : (logger.record level).stopWorker = logger.stopWorker := rfl
@[simp] theorem totalLogs_record : (logger.record level).totalLogs = logger.totalLogs + 1 := rfl

end Record

/-- Every step a thread can take on a logger, with what enables it, what it returns and the
state it leaves; a blocked step, a filtered entry, a join and the destructor of a synchronous
logger leave the state and the ledger as they were. -/
theorem call_cases {logger logger' : Logger} {event : LoggerEvent} {result : LoggerResult}
    (h : logger.call event = (result, logger')) :
    (logger' = logger ∧ ∀ ledger : LogLedger, ledger.update event result = ledger) ∨
    (∃ entry : Logger.LogEntry, event = .log entry.level entry.message entry.sourceFile
        entry.lineNumber entry.functionName entry.timestamp entry.threadId ∧
      logger.currentLevel.toNat ≤ entry.level.toNat ∧ logger.config.enableAsyncLogging = true ∧
      result = .queued entry ∧
      logger' = { logger.record entry.level with logQueue := logger.logQueue ++ [entry] }) ∨
    (∃ entry : Logger.LogEntry, event = .log entry.level entry.message entry.sourceFile
        entry.lineNumber entry.functionName entry.timestamp entry.threadId ∧
      logger.currentLevel.toNat ≤ entry.level.toNat ∧ logger.config.enableAsyncLogging = false ∧
      result = .wrote entry ∧ logger' = logger.record entry.level) ∨
    (∃ level, event = .setLevel level ∧ result = .done ∧ logger' = logger.setLevel level) ∨
    (∃ config, event = .updateConfig config ∧ result = .done ∧
      logger' = logger.updateConfig config) ∨
    (∃ entry rest, event = .workerTake ∧ logger.worker = .waiting ∧
      logger.logQueue = entry :: rest ∧ result = .taken entry ∧
      logger' = { logger with worker := .writing entry, logQueue := rest }) ∨
    (∃ entry, event = .workerWrite ∧ logger.worker = .writing entry ∧ result = .wrote entry ∧
      logger' = { logger with worker := .waiting }) ∨
    (event = .workerExit ∧ logger.worker = .waiting ∧ logger.stopWorker = true ∧
      logger.logQueue = [] ∧ result = .done ∧ logger' = { logger with worker := .exited }) ∨
    (event = .destroy ∧ logger.config.enableAsyncLogging = true ∧ result = .done ∧
      logger' = { logger with stopWorker := true }) := by
  cases event with
  | log level message sourceFile lineNumber functionName now threadId =>
    simp only [call, log] at h
    split_ifs at h with below async <;> obtain ⟨rfl, rfl⟩ := Prod.mk.inj h.symm
    · exact .inl ⟨rfl, fun _ => rfl⟩
    · exact .inr (.inl ⟨⟨level, message, sourceFile, lineNumber, functionName, now, threadId⟩,
        rfl, Nat.le_of_not_lt below, async, rfl, rfl⟩)
    · exact .inr (.inr (.inl ⟨⟨level, message, sourceFile, lineNumber, functionName, now,
        threadId⟩, rfl, Nat.le_of_not_lt below, by simpa using async, rfl, rfl⟩))
  | setLevel level =>
    obtain ⟨rfl, rfl⟩ := Prod.mk.inj h.symm
    exact .inr (.inr (.inr (.inl ⟨level, rfl, rfl, rfl⟩)))
  | updateConfig config =>
    obtain ⟨rfl, rfl⟩ := Prod.mk.inj h.symm
    exact .inr (.inr (.inr (.inr (.inl ⟨config, rfl, rfl, rfl⟩))))
  | workerTake =>
    rcases worker : logger.worker with _ | _ | entry | _ <;>
      rcases queue : logger.logQueue with _ | ⟨first, rest⟩ <;>
      simp only [call, worker, queue, Prod.mk.injEq] at h <;> obtain ⟨rfl, rfl⟩ := h
    case waiting.cons.intro =>
      exact .inr (.inr (.inr (.inr (.inr (.inl ⟨first, rest, rfl, rfl, rfl, rfl, rfl⟩)))))
    all_goals exact .inl ⟨rfl, fun _ => rfl⟩
  | workerWrite =>
    rcases worker : logger.worker with _ | _ | entry | _ <;>
      simp only [call, worker, Prod.mk.injEq] at h <;> obtain ⟨rfl, rfl⟩ := h
    case writing.intro =>
      exact .inr (.inr (.inr (.inr (.inr (.inr (.inl ⟨entry, rfl, rfl, rfl, rfl⟩))))))
    all_goals exact .inl ⟨rfl, fun _ => rfl⟩
  | workerExit =>
    simp only [call] at h
    split_ifs at h with enabled <;> obtain ⟨rfl, rfl⟩ := Prod.mk.inj h.symm
    · exact .inr (.inr (.inr (.inr (.inr (.inr (.inr (.inl ⟨rfl, enabled.1, enabled.2.1,
        enabled.2.2, rfl, rfl⟩)))))))
    · exact .inl ⟨rfl, fun _ => rfl⟩
  | destroy =>
    simp only [call] at h
    split_ifs at h with async <;> obtain ⟨rfl, rfl⟩ := Prod.mk.inj h.symm
    · exact .inr (.inr (.inr (.inr (.inr (.inr (.inr (.inr ⟨rfl, async, rfl, rfl⟩)))))))
    all_goals exact .inl ⟨rfl, fun _ => rfl⟩
  | join =>
    simp only [call] at h
    split_ifs at h <;> obtain ⟨rfl, rfl⟩ := Prod.mk.inj h.symm <;> exact .inl ⟨rfl, fun _ => rfl⟩

theorem entry?_new (config : LoggerConfig) : (new config).worker.entry? = none := by
  simp only [new]
  split <;> rfl

theorem worker_new_ne_exited (config : LoggerConfig) : (new config).worker ≠ .exited := by
  simp only [new]
  split <;> nofun

/-- The destructor's join returns only on an asynchronous logger whose worker was told to stop
and has left its loop, or was never started. -/
theorem join_returned {logger : Logger} (joined : (logger.call .join).1 = .done) :
    logger.config.enableAsyncLogging = true ∧ logger.stopWorker = true ∧
      (logger.worker = .absent ∨ logger.worker = .exited) := by
  simp only [call] at joined
  split_ifs at joined with finished
  exact finished

/-- Counting one more accepted entry keeps `total_logs_` and `logs_by_level_` in step with the
accepted entries. -/
theorem record_counts {logger : Logger} {accepted : List Logger.LogEntry} (entry : Logger.LogEntry)
    (total : logger.totalLogs = UInt64.ofNat accepted.length)
    (byLevel : ∀ level, logger.logsByLevel level =
      UInt64.ofNat (accepted.countP fun entry => entry.level = level)) :
    (logger.record entry.level).totalLogs = UInt64.ofNat (accepted ++ [entry]).length ∧
      ∀ level, (logger.record entry.level).logsByLevel level =
        UInt64.ofNat ((accepted ++ [entry]).countP fun entry => entry.level = level) := by
  refine ⟨by simp [total, UInt64.ofNat_add], fun level => ?_⟩
  by_cases same : level = entry.level
  · subst same
    simp [record, byLevel, List.countP_append, UInt64.ofNat_add]
  · simp [record, Function.update_noteq same, byLevel, List.countP_append, Ne.symm same]

/-- What the state of a logger says of the entries a history gave it: the written entries, the
one being written and the queued ones are the accepted ones, each once, and `total_logs_` and
`logs_by_level_` count the accepted entries, modulo `2 ^ 64`. -/
structure Conserved (logger : Logger) (ledger : LogLedger) : Prop where
  entries : ledger.written ++ logger.worker.entry?.toList ++ logger.logQueue ~ ledger.accepted
  totalLogs : logger.totalLogs = UInt64.ofNat ledger.accepted.length
  logsByLevel : ∀ level, logger.logsByLevel level =
    UInt64.ofNat (ledger.accepted.countP fun entry => entry.level = level)

/-- Every step keeps a logger's state in step with its ledger. -/
theorem Conserved.call {logger logger' : Logger} {ledger : LogLedger} {event : LoggerEvent}
    {result : LoggerResult} (h : logger.Conserved ledger) (step : logger.call event = (result, logger')) :
    logger'.Conserved (ledger.update event result) := by
  rcases call_cases step with ⟨rfl, same⟩ | ⟨entry, rfl, -, -, rfl, rfl⟩ |
    ⟨entry, rfl, -, -, rfl, rfl⟩ | ⟨level, rfl, rfl, rfl⟩ | ⟨config, rfl, rfl, rfl⟩ |
    ⟨entry, rest, rfl, worker, queue, rfl, rfl⟩ | ⟨entry, rfl, worker, rfl, rfl⟩ |
    ⟨rfl, worker, -, -, rfl, rfl⟩ | ⟨rfl, -, rfl, rfl⟩
  · rw [same]
    exact h
  · obtain ⟨total, byLevel⟩ := record_counts entry h.totalLogs h.logsByLevel
    refine ⟨?_, total, byLevel⟩
    rw [← List.append_assoc]
    exact h.entries.append_right [entry]
  · obtain ⟨total, byLevel⟩ := record_counts entry h.totalLogs h.logsByLevel
    refine ⟨?_, total, byLevel⟩
    show ledger.written ++ [entry] ++ logger.worker.entry?.toList ++ logger.logQueue ~
      ledger.accepted ++ [entry]
    refine List.Perm.trans ?_ (h.entries.append_right [entry])
    have moved : [entry] ++ (logger.worker.entry?.toList ++ logger.logQueue) ~
        logger.worker.entry?.toList ++ logger.logQueue ++ [entry] := List.perm_append_comm
    simpa only [List.append_assoc] using moved.append_left ledger.written
  · exact ⟨h.entries, h.totalLogs, h.logsByLevel⟩
  · exact ⟨h.entries, h.totalLogs, h.logsByLevel⟩
  · exact ⟨by simpa [worker, queue, LogWorker.entry?] using h.entries, h.totalLogs, h.logsByLevel⟩
  · exact ⟨by simpa [worker, LogWorker.entry?] using h.entries, h.totalLogs, h.logsByLevel⟩
  · exact ⟨by simpa [worker, LogWorker.entry?] using h.entries, h.totalLogs, h.logsByLevel⟩
  · exact ⟨h.entries, h.totalLogs, h.logsByLevel⟩

theorem conserved_after (config : LoggerConfig) (events : List LoggerEvent) :
    (after config events).Conserved (LogLedger.after config events) :=
  run_of_keeps_ahead LogLedger.update (fun _ (logger : Logger) ledger => logger.Conserved ledger)
    (fun _ _ _ _ h => h.call rfl) events _ _
    ⟨by rw [entry?_new config]; exact .nil, rfl, fun _ => rfl⟩

/-- Over every interleaving from `Logger(config)`, no accepted entry is lost or written twice:
the written entries, the one the worker is writing and the queued ones are the accepted ones,
and `total_logs_` and `logs_by_level_` count the accepted entries, modulo `2 ^ 64`. -/
theorem logger_conservation (config : LoggerConfig) (events : List LoggerEvent) :
    (after config events).Conserved (LogLedger.after config events) :=
  conserved_after config events

/-- With asynchronous logging on and a worker started, the writes follow the order in which
`log` accepted the entries: what is written, then the entry being written, then the queue, is
the list of accepted entries. -/
structure InOrder (logger : Logger) (ledger : LogLedger) : Prop where
  async : logger.config.enableAsyncLogging = true
  started : logger.worker ≠ .absent
  entries : ledger.written ++ logger.worker.entry?.toList ++ logger.logQueue = ledger.accepted

theorem InOrder.call {logger logger' : Logger} {ledger : LogLedger} {event : LoggerEvent}
    {result : LoggerResult} (h : logger.InOrder ledger) (keeps : event.keepsAsync = true)
    (step : logger.call event = (result, logger')) :
    logger'.InOrder (ledger.update event result) := by
  rcases call_cases step with ⟨rfl, same⟩ | ⟨entry, rfl, -, -, rfl, rfl⟩ |
    ⟨entry, rfl, -, sync, rfl, rfl⟩ | ⟨level, rfl, rfl, rfl⟩ | ⟨config, rfl, rfl, rfl⟩ |
    ⟨entry, rest, rfl, worker, queue, rfl, rfl⟩ | ⟨entry, rfl, worker, rfl, rfl⟩ |
    ⟨rfl, worker, -, -, rfl, rfl⟩ | ⟨rfl, -, rfl, rfl⟩
  · rw [same]
    exact h
  · exact ⟨h.async, h.started, by
      show ledger.written ++ logger.worker.entry?.toList ++ (logger.logQueue ++ [entry]) =
        ledger.accepted ++ [entry]
      rw [← List.append_assoc, h.entries]⟩
  · exact absurd h.async (by simp [sync])
  · exact ⟨h.async, h.started, h.entries⟩
  · exact ⟨keeps, h.started, h.entries⟩
  · exact ⟨h.async, nofun, by simpa [worker, queue, LogWorker.entry?] using h.entries⟩
  · exact ⟨h.async, nofun, by simpa [worker, LogWorker.entry?] using h.entries⟩
  · exact ⟨h.async, nofun, by simpa [worker, LogWorker.entry?] using h.entries⟩
  · exact ⟨h.async, h.started, h.entries⟩

theorem inOrder_after {config : LoggerConfig} (async : config.enableAsyncLogging = true)
    {events : List LoggerEvent} (keepsAsync : ∀ event ∈ events, event.keepsAsync = true) :
    (after config events).InOrder (LogLedger.after config events) :=
  (@along_trace _ _ _ call _ LogLedger.update InOrder (fun event => event.keepsAsync = true)
    (fun _ _ _ _ => True) (fun _ _ _ h keeps => ⟨trivial, h.call keeps rfl⟩) events _ _ keepsAsync
    ⟨async, by simp [new, async], by rw [entry?_new config]; rfl⟩).2

/-- A logger created with asynchronous logging, which no `update_config` turns off, writes the
accepted entries in the order `log` accepted them, with no entry lost or written twice: the
entries written so far, then the one being written, then the queue, are the accepted entries
in order. -/
theorem logger_fifo (config : LoggerConfig) (async : config.enableAsyncLogging = true)
    (events : List LoggerEvent) (keepsAsync : ∀ event ∈ events, event.keepsAsync = true) :
    (LogLedger.after config events).written ++ (after config events).worker.entry?.toList ++
      (after config events).logQueue = (LogLedger.after config events).accepted :=
  (inOrder_after async keepsAsync).entries

theorem logger_fifo_two_entries :
    LoggerConfig.default.enableAsyncLogging = true ∧
      (∀ event ∈ [LoggerEvent.log .info "opened" "" 0 "" 0 1, .log .warn "slow" "" 0 "" 1 2,
        .workerTake], event.keepsAsync = true) ∧
      (LogLedger.after .default [.log .info "opened" "" 0 "" 0 1, .log .warn "slow" "" 0 "" 1 2,
          .workerTake]).written ++
        (after .default [.log .info "opened" "" 0 "" 0 1, .log .warn "slow" "" 0 "" 1 2,
          .workerTake]).worker.entry?.toList ++
        (after .default [.log .info "opened" "" 0 "" 0 1, .log .warn "slow" "" 0 "" 1 2,
          .workerTake]).logQueue =
      (LogLedger.after .default [.log .info "opened" "" 0 "" 0 1, .log .warn "slow" "" 0 "" 1 2,
          .workerTake]).accepted :=
  ⟨rfl, by decide, logger_fifo _ rfl _ (by decide)⟩

/-- Once the destructor has begun, no entry is logged: the worker leaves its loop only with the
queue empty, and it stays empty. -/
structure Stopping (rest : List LoggerEvent) (logger : Logger) : Prop where
  noLogAfterDestroy : ∀ event ∈ rest.dropWhile (fun event => !event.isDestroy),
    event.isLog = false
  noLogAfterStop : logger.stopWorker = true → ∀ event ∈ rest, event.isLog = false
  exitedEmpty : logger.worker = .exited → logger.stopWorker = true ∧ logger.logQueue = []

namespace Stopping

variable {rest : List LoggerEvent} {logger logger' : Logger} {event : LoggerEvent}
  {result : LoggerResult}

/-- What `Stopping` says of the events to come holds of the events after the next one. -/
theorem tail (h : Stopping (event :: rest) logger) :
    (∀ event ∈ rest.dropWhile (fun event => !event.isDestroy), event.isLog = false) ∧
    (logger.stopWorker = true → ∀ event ∈ rest, event.isLog = false) := by
  refine ⟨fun later mem => h.noLogAfterDestroy later ?_,
    fun stop later mem => h.noLogAfterStop stop later (List.mem_cons_of_mem _ mem)⟩
  cases destroy : event.isDestroy
  · simpa [List.dropWhile_cons, destroy] using mem
  · simpa [List.dropWhile_cons, destroy] using List.mem_cons_of_mem _
      ((List.dropWhile_suffix _).subset mem)

theorem call (h : Stopping (event :: rest) logger) (step : logger.call event = (result, logger')) :
    Stopping rest logger' := by
  obtain ⟨afterDestroy, afterStop⟩ := h.tail
  rcases call_cases step with ⟨rfl, -⟩ | ⟨entry, rfl, -, -, -, rfl⟩ |
    ⟨entry, rfl, -, -, -, rfl⟩ | ⟨level, rfl, -, rfl⟩ | ⟨config, rfl, -, rfl⟩ |
    ⟨entry, rest, rfl, -, -, -, rfl⟩ | ⟨entry, rfl, -, -, rfl⟩ |
    ⟨rfl, -, stop, empty, -, rfl⟩ | ⟨rfl, -, -, rfl⟩
  · exact ⟨afterDestroy, afterStop, h.exitedEmpty⟩
  · exact ⟨afterDestroy, afterStop, fun exited => absurd
      (h.noLogAfterStop (h.exitedEmpty exited).1 _ (List.mem_cons_self _ _))
      (by simp [LoggerEvent.isLog])⟩
  · exact ⟨afterDestroy, afterStop, h.exitedEmpty⟩
  · exact ⟨afterDestroy, afterStop, h.exitedEmpty⟩
  · exact ⟨afterDestroy, afterStop, h.exitedEmpty⟩
  · exact ⟨afterDestroy, afterStop, nofun⟩
  · exact ⟨afterDestroy, afterStop, nofun⟩
  · exact ⟨afterDestroy, afterStop, fun _ => ⟨stop, empty⟩⟩
  · exact ⟨afterDestroy, fun _ later mem => h.noLogAfterDestroy later
      (by simp [LoggerEvent.isDestroy, mem]), fun exited => ⟨rfl, (h.exitedEmpty exited).2⟩⟩

end Stopping

/-- A logger created with asynchronous logging, which no `update_config` turns off and on which
nothing is logged once the destructor has begun: when the destructor's join returns, every
accepted entry has been written, in the order `log` accepted them. -/
theorem logger_drains_on_destruction (config : LoggerConfig)
    (async : config.enableAsyncLogging = true) (events : List LoggerEvent)
    (keepsAsync : ∀ event ∈ events, event.keepsAsync = true)
    (noLogAfterDestroy : ∀ event ∈ events.dropWhile (fun event => !event.isDestroy),
      event.isLog = false)
    (joined : ((after config events).call .join).1 = .done) :
    (LogLedger.after config events).written = (LogLedger.after config events).accepted := by
  have inOrder := inOrder_after async keepsAsync
  have stopping : Stopping [] (after config events) := @run_of_keeps_ahead _ _ _ call _
    LogLedger.update (fun rest (logger : Logger) _ => Stopping rest logger)
    (fun _ _ _ _ h => h.call rfl) events (new config) ⟨[], [], []⟩
    ⟨noLogAfterDestroy, by simp [new], fun exited => absurd exited (worker_new_ne_exited config)⟩
  obtain ⟨-, -, absent | exited⟩ := @join_returned (after config events) joined
  · exact absurd absent inOrder.started
  · have entries := inOrder.entries
    rw [exited, (stopping.exitedEmpty exited).2] at entries
    simpa [LogWorker.entry?] using entries

theorem logger_drains_after_one_entry :
    LoggerConfig.default.enableAsyncLogging = true ∧
      (∀ event ∈ [LoggerEvent.log .info "opened" "" 0 "" 0 1, .workerTake, .workerWrite, .destroy,
        .workerExit], event.keepsAsync = true) ∧
      (∀ event ∈ [LoggerEvent.log .info "opened" "" 0 "" 0 1, .workerTake, .workerWrite, .destroy,
        .workerExit].dropWhile (fun event => !event.isDestroy), event.isLog = false) ∧
      ((after .default [.log .info "opened" "" 0 "" 0 1, .workerTake, .workerWrite, .destroy,
        .workerExit]).call .join).1 = .done ∧
      (LogLedger.after .default [.log .info "opened" "" 0 "" 0 1, .workerTake, .workerWrite,
        .destroy, .workerExit]).written =
      (LogLedger.after .default [.log .info "opened" "" 0 "" 0 1, .workerTake, .workerWrite,
        .destroy, .workerExit]).accepted :=
  ⟨rfl, by decide, by decide, rfl,
    logger_drains_on_destruction _ rfl _ (by decide) (by decide) rfl⟩

/-- Without asynchronous logging, the worker never runs, and the queue holds every entry `log`
queued. -/
structure Unserved (logger : Logger) (ledger : LogLedger) : Prop where
  absent : logger.worker = .absent
  queue : logger.logQueue = ledger.queued

theorem Unserved.call {logger logger' : Logger} {ledger : LogLedger} {event : LoggerEvent}
    {result : LoggerResult} (h : logger.Unserved ledger) (step : logger.call event = (result, logger')) :
    logger'.Unserved (ledger.update event result) := by
  rcases call_cases step with ⟨rfl, same⟩ | ⟨entry, rfl, -, -, rfl, rfl⟩ |
    ⟨entry, rfl, -, -, rfl, rfl⟩ | ⟨level, rfl, rfl, rfl⟩ | ⟨config, rfl, rfl, rfl⟩ |
    ⟨entry, rest, rfl, worker, -, rfl, rfl⟩ | ⟨entry, rfl, worker, rfl, rfl⟩ |
    ⟨rfl, worker, -, -, rfl, rfl⟩ | ⟨rfl, -, rfl, rfl⟩
  · rw [same]
    exact h
  · exact ⟨h.absent, congrArg (· ++ [entry]) h.queue⟩
  · exact ⟨h.absent, h.queue⟩
  · exact ⟨h.absent, h.queue⟩
  · exact ⟨h.absent, h.queue⟩
  · exact absurd (h.absent.symm.trans worker) nofun
  · exact absurd (h.absent.symm.trans worker) nofun
  · exact absurd (h.absent.symm.trans worker) nofun
  · exact ⟨h.absent, h.queue⟩

/-- A logger created without asynchronous logging never starts its worker: when
`update_config` turns asynchronous logging on, every entry `log` accepts from then on is
queued and stays in the queue, never written, and the destructor returns without writing it.
The entries written are the others, each once. -/
theorem queued_entries_never_written (config : LoggerConfig)
    (sync : config.enableAsyncLogging = false) (events : List LoggerEvent) :
    (after config events).logQueue = (LogLedger.after config events).queued ∧
      (LogLedger.after config events).written ++ (LogLedger.after config events).queued ~
        (LogLedger.after config events).accepted := by
  have unserved : (after config events).Unserved (LogLedger.after config events) :=
    @run_of_keeps_ahead _ _ _ call _ LogLedger.update
    (fun _ (logger : Logger) ledger => logger.Unserved ledger) (fun _ _ _ _ h => h.call rfl)
    events (new config) ⟨[], [], []⟩ ⟨by simp [new, sync], rfl⟩
  have entries := (conserved_after config events).entries
  rw [unserved.absent, unserved.queue] at entries
  exact ⟨unserved.queue, by simpa [LogWorker.entry?] using entries⟩

theorem queued_entries_never_written_after_switch :
    { LoggerConfig.default with enableAsyncLogging := false }.enableAsyncLogging = false ∧
      (after { LoggerConfig.default with enableAsyncLogging := false }
          [.updateConfig .default, .log .info "opened" "" 0 "" 0 1, .destroy, .join]).logQueue =
        (LogLedger.after { LoggerConfig.default with enableAsyncLogging := false }
          [.updateConfig .default, .log .info "opened" "" 0 "" 0 1, .destroy, .join]).queued :=
  ⟨rfl, (queued_entries_never_written _ rfl _).1⟩

end Logger

section Rotation

/-- `std::filesystem::remove` of the file in a slot. -/
def removeFile (files : ℕ → Option (List String)) (slot : ℕ) : ℕ → Option (List String) :=
  Function.update files slot none

/-- `std::filesystem::rename`, which replaces a file already at the target. -/
def renameFile (files : ℕ → Option (List String)) (source target : ℕ) :
    ℕ → Option (List String) :=
  Function.update (Function.update files target (files source)) source none

/-- One pass of the loop of `rotate_logs`, over slot `i`: the oldest kept file is removed,
and every other existing one moves up a slot. -/
def rotateStep (maxLogFiles : UInt32) (files : ℕ → Option (List String)) (i : ℕ) :
    ℕ → Option (List String) :=
  if (files i).isSome then
    if i = (maxLogFiles - 1).toNat then removeFile files i else renameFile files i (i + 1)
  else files

/-- The loop `for (int i = max_log_files - 1; i > 0; --i)`, from slot `i` down to slot 1. -/
def rotateLoop (maxLogFiles : UInt32) : ℕ → (ℕ → Option (List String)) → ℕ → Option (List String)
  | 0, files => files
  | i + 1, files => rotateLoop maxLogFiles i (rotateStep maxLogFiles files (i + 1))

/-- The first value of the loop's `int i`: `max_log_files - 1` computed in `uint32_t` and
converted to `int`; a value past `INT_MAX` converts to a negative one, for which the loop does
not run. -/
def rotateStart (maxLogFiles : UInt32) : ℕ :=
  if (maxLogFiles - 1).toNat < 2 ^ 31 then (maxLogFiles - 1).toNat else 0

/-- `Logger::rotate_logs` on the log files by slot; `log_file_.open(path, std::ios::app)`
creates an empty current file. -/
def rotateLogs (config : LoggerConfig) (files : ℕ → Option (List String)) :
    ℕ → Option (List String) :=
  if !config.enableFileOutput || config.logFilePath.isEmpty then files
  else
    let files := rotateLoop config.maxLogFiles (rotateStart config.maxLogFiles) files
    let files := if (files 0).isSome then renameFile files 0 1 else files
    Function.update files 0 (some ((files 0).getD []))

/-- The files after the passes of the loop over slots `maxLogFiles - 1` down to `j + 1`: the
slots up to `j` and from `maxLogFiles` on are untouched, slot `j + 1` is empty, and the
slots above it hold the files of the slot below. -/
def shiftedAbove (maxLogFiles : ℕ) (files : ℕ → Option (List String)) (j : ℕ) :
    ℕ → Option (List String) := fun slot =>
  if maxLogFiles ≤ slot ∨ slot ≤ j then files slot
  else if slot = j + 1 then none
  else files (slot - 1)

/-- One pass of the loop extends the shift down by one slot. -/
theorem rotateStep_shiftedAbove {maxLogFiles : UInt32} {files : ℕ → Option (List String)}
    {j : ℕ} (below : j + 2 ≤ maxLogFiles.toNat) (last : (maxLogFiles - 1).toNat = maxLogFiles.toNat - 1) :
    rotateStep maxLogFiles (shiftedAbove maxLogFiles.toNat files (j + 1)) (j + 1) =
      shiftedAbove maxLogFiles.toNat files j := by
  have slot : shiftedAbove maxLogFiles.toNat files (j + 1) (j + 1) = files (j + 1) := by
    simp [shiftedAbove]
  funext k
  simp only [rotateStep, slot, last]
  rcases (by omega : maxLogFiles.toNat ≤ k ∨ k ≤ j ∨ k = j + 1 ∨
      k = j + 2 ∧ j + 2 < maxLogFiles.toNat ∨ j + 2 < k ∧ k < maxLogFiles.toNat) with
    place | place | rfl | ⟨rfl, place⟩ | place <;>
    split_ifs with present oldest <;>
    simp (disch := omega) only [removeFile, renameFile, Function.update_apply, shiftedAbove,
      if_pos, if_neg, if_true]
  all_goals first
    | omega
    | rfl
    | exact Option.not_isSome_iff_eq_none.mp present
    | exact (Option.not_isSome_iff_eq_none.mp present).symm

/-- The loop of `rotate_logs`, from slot `j` down, finishes the shift. -/
theorem rotateLoop_shiftedAbove {maxLogFiles : UInt32} {files : ℕ → Option (List String)}
    (last : (maxLogFiles - 1).toNat = maxLogFiles.toNat - 1) :
    ∀ j, j + 1 ≤ maxLogFiles.toNat →
      rotateLoop maxLogFiles j (shiftedAbove maxLogFiles.toNat files j) =
        shiftedAbove maxLogFiles.toNat files 0
  | 0, _ => rfl
  | j + 1, below => by
    rw [rotateLoop, rotateStep_shiftedAbove (by omega) last]
    exact rotateLoop_shiftedAbove last j (by omega)

/-- With file output on, a path, and `2 ≤ max_log_files < 2 ^ 31`, `rotate_logs` moves the
current file to slot 1 and every numbered file below `max_log_files - 1` up one slot, drops
the file in slot `max_log_files - 1`, leaves the slots from `max_log_files` on alone, and
opens an empty current file. -/
theorem rotateLogs_shifts (config : LoggerConfig) (files : ℕ → Option (List String))
    (enabled : config.enableFileOutput = true) (named : config.logFilePath.isEmpty = false)
    (atLeastTwo : 2 ≤ config.maxLogFiles.toNat) (belowIntMax : config.maxLogFiles.toNat < 2 ^ 31) :
    rotateLogs config files = fun slot =>
      if slot = 0 then some []
      else if slot < config.maxLogFiles.toNat then files (slot - 1)
      else files slot := by
  have last : (config.maxLogFiles - 1).toNat = config.maxLogFiles.toNat - 1 :=
    UInt32.toNat_sub_of_le _ _ (by show 1 ≤ config.maxLogFiles.toNat; omega)
  have start : rotateStart config.maxLogFiles = config.maxLogFiles.toNat - 1 := by
    simp only [rotateStart, last]
    split_ifs <;> omega
  have untouched : shiftedAbove config.maxLogFiles.toNat files (config.maxLogFiles.toNat - 1) =
      files := by
    funext slot
    simp only [shiftedAbove]
    split_ifs <;> first | rfl | omega
  have loop := @rotateLoop_shiftedAbove _ files last (config.maxLogFiles.toNat - 1)
    (by omega)
  rw [untouched] at loop
  have zero : shiftedAbove config.maxLogFiles.toNat files 0 0 = files 0 := by simp [shiftedAbove]
  simp only [rotateLogs, enabled, named, Bool.not_true, Bool.or_false, start, loop, zero]
  funext slot
  rcases (by omega : slot = 0 ∨ slot = 1 ∨ 2 ≤ slot ∧ slot < config.maxLogFiles.toNat ∨
      config.maxLogFiles.toNat ≤ slot) with rfl | rfl | place | place <;>
    by_cases present : (files 0).isSome = true <;>
    simp (disch := omega) only [present, if_true, if_false, Bool.false_eq_true, renameFile,
      Function.update_apply, shiftedAbove, if_pos, if_neg, Option.getD_none]
  all_goals have absent := Option.not_isSome_iff_eq_none.mp present
  · rw [absent]
    rfl
  · exact absent.symm

theorem rotateLogs_default_config :
    LoggerConfig.default.enableFileOutput = true ∧ LoggerConfig.default.logFilePath.isEmpty = false ∧
      2 ≤ LoggerConfig.default.maxLogFiles.toNat ∧ LoggerConfig.default.maxLogFiles.toNat < 2 ^ 31 ∧
      rotateLogs .default (fun slot => if slot ≤ 5 then some [toString slot] else none) =
        fun slot => if slot = 0 then some []
          else if slot < LoggerConfig.default.maxLogFiles.toNat then
            (fun slot => if slot ≤ 5 then some [toString slot] else none) (slot - 1)
          else (fun slot => if slot ≤ 5 then some [toString slot] else none) slot :=
  ⟨rfl, by decide, by decide, by decide, rotateLogs_shifts _ _ rfl (by decide) (by decide) (by decide)⟩

end Rotation

end Dfs
