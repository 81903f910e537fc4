import Dfs.History
import Dfs.Retry.Classify

/-!
# The retry handler and its circuit breaker

`RetryHandler` of `utils/retry_handler.h` runs a function again when it throws, up to
`max_retries` times, behind a circuit breaker. The breaker counts consecutive failures, and
opens when they reach `circuit_breaker_failure_threshold`; while it is open every attempt is
refused with `std::runtime_error("Circuit breaker is open")` before the function is called.

Both attempt loops, `execute_with_retry` and `execute_with_retry_and_classification`, are one
definition, `attemptLoop`, with the test that gives up on a caught exception as a parameter:
`!should_retry(e, attempt)` in the first, `classify_error(e) == PERMANENT` in the second. The
function is an input: `func attempt` is what its call at that attempt returns or throws. The
delay of `calculate_backoff_delay` is only slept on, and changes nothing the handler keeps.

Nothing sets the state `HALF_OPEN`: `should_reset_circuit_breaker` is private and never called,
and `update_circuit_breaker(true)` closes only a half-open circuit. So an open circuit stays
open, and refuses every call without calling the function, until `reset_circuit_breaker`
(`open_until_reset`); `circuit_breaker_timeout` never closes it.

The counters are `std::atomic` of the widths the header gives them. Each call is one step:
the handler is used by one caller at a time here, as the loops' reads of `config_` assume.
-/

namespace Dfs

/-- `RetryHandler::RetryConfig`, with the fields the circuit breaker and the loops read. -/
structure RetryConfig where
  maxRetries : UInt32
  circuitBreakerFailureThreshold : UInt32
  deriving Repr, DecidableEq

/-- `RetryHandler::CircuitState`. -/
inductive CircuitState where
  | closed | «open» | halfOpen
  deriving Repr, DecidableEq

/-- The state of a `RetryHandler`. -/
structure RetryHandler where
  config : RetryConfig
  circuitState : CircuitState
  consecutiveFailures : UInt32
  totalAttempts : UInt64
  successfulAttempts : UInt64
  failedAttempts : UInt64
  circuitBreakerTrips : UInt64

/-- The exception an attempt on an open circuit throws. -/
def circuitOpen : Exception := .runtime "Circuit breaker is open"

/-- The exception after the attempt loop. -/
def maxRetriesExceeded : Exception := .runtime "Max retries exceeded"

namespace RetryHandler

/-- `RetryHandler::RetryHandler`. -/
def new (config : RetryConfig) : RetryHandler := ⟨config, .closed, 0, 0, 0, 0, 0⟩

/-- `is_circuit_open`. -/
def isCircuitOpen (h : RetryHandler) : Bool := h.circuitState = .open

/-- `reset_circuit_breaker`. -/
def resetCircuitBreaker (h : RetryHandler) : RetryHandler :=
  { h with circuitState := .closed, consecutiveFailures := 0 }

/-- `update_config`. -/
def updateConfig (h : RetryHandler) (newConfig : RetryConfig) : RetryHandler :=
  { h with config := newConfig }

/-- `update_circuit_breaker(success)`. -/
def updateCircuitBreaker (h : RetryHandler) (success : Bool) : RetryHandler :=
  if success then
    { h with consecutiveFailures := 0,
             circuitState := if h.circuitState = .halfOpen then .closed else h.circuitState }
  else
    let failures := h.consecutiveFailures + 1
    let h := { h with consecutiveFailures := failures }
    if failures ≥ h.config.circuitBreakerFailureThreshold then
      if h.circuitState ≠ .open then
        { h with circuitState := .open, circuitBreakerTrips := h.circuitBreakerTrips + 1 }
      else h
    else h

/-- `should_retry(e, attempt_count)`. -/
def shouldRetry (h : RetryHandler) (e : Exception) (attemptCount : UInt32) : Bool :=
  if attemptCount ≥ h.config.maxRetries then false
  else match classifyError e with
    | .transient | .concurrency | .timeout | .network => true
    | .permanent | .corruption => false
    | .unknown => attemptCount < 1

/-- `total_attempts_++` at the top of an attempt. -/
def countAttempt (h : RetryHandler) : RetryHandler :=
  { h with totalAttempts := h.totalAttempts + 1 }

/-- `successful_attempts_++` and `update_circuit_breaker(true)` after the function returned. -/
def recordSuccess (h : RetryHandler) : RetryHandler :=
  { h with successfulAttempts := h.successfulAttempts + 1 }.updateCircuitBreaker true

/-- `failed_attempts_++` and `update_circuit_breaker(false)` after the function threw. -/
def recordFailure (h : RetryHandler) : RetryHandler :=
  { h with failedAttempts := h.failedAttempts + 1 }.updateCircuitBreaker false

/-- The attempt loop of `execute_with_retry` and `execute_with_retry_and_classification` over
the attempts listed: `giveUp e attempt` is the test that, besides
`attempt == config_.max_retries`, rethrows the exception `e` caught at `attempt`. -/
def attemptLoop {α : Type} (giveUp : Exception → ℕ → Bool) (func : ℕ → Except Exception α) :
    List ℕ → RetryHandler → Except Exception α × RetryHandler
  | [], h => (.error maxRetriesExceeded, h)
  | attempt :: attempts, h =>
    let h := h.countAttempt
    if h.isCircuitOpen then (.error circuitOpen, h)
    else match func attempt with
      | .ok result => (.ok result, h.recordSuccess)
      | .error e =>
        let h := h.recordFailure
        if attempt = h.config.maxRetries.toNat ∨ giveUp e attempt = true then (.error e, h)
        else attemptLoop giveUp func attempts h

/-- The attempts of `for (uint32_t attempt = 0; attempt <= config_.max_retries; ++attempt)`. -/
def attempts (config : RetryConfig) : List ℕ := List.range (config.maxRetries.toNat + 1)

/-- `execute_with_retry(func)`. -/
def executeWithRetry {α : Type} (h : RetryHandler) (func : ℕ → Except Exception α) :
    Except Exception α × RetryHandler :=
  attemptLoop (fun e attempt => !h.shouldRetry e (UInt32.ofNat attempt)) func (attempts h.config) h

/-- `execute_with_retry_and_classification(func)`. -/
def executeWithRetryAndClassification {α : Type} (h : RetryHandler)
    (func : ℕ → Except Exception α) :
    Except Exception α × RetryHandler :=
  attemptLoop (fun e _ => classifyError e = .permanent) func (attempts h.config) h

@[simp]
theorem config_updateCircuitBreaker (h : RetryHandler) (success : Bool) :
    (h.updateCircuitBreaker success).config = h.config := by
  simp only [updateCircuitBreaker]; split_ifs <;> rfl

@[simp]
theorem config_recordFailure (h : RetryHandler) : h.recordFailure.config = h.config :=
  config_updateCircuitBreaker _ _

@[simp]
theorem circuitState_countAttempt (h : RetryHandler) :
    h.countAttempt.circuitState = h.circuitState := rfl

@[simp]
theorem config_countAttempt (h : RetryHandler) : h.countAttempt.config = h.config := rfl

@[simp]
theorem consecutiveFailures_countAttempt (h : RetryHandler) :
    h.countAttempt.consecutiveFailures = h.consecutiveFailures := rfl

@[simp]
theorem failedAttempts_countAttempt (h : RetryHandler) :
    h.countAttempt.failedAttempts = h.failedAttempts := rfl

/-- A success closes a half-open circuit and leaves any other state. -/
@[simp]
theorem circuitState_recordSuccess (h : RetryHandler) :
    h.recordSuccess.circuitState = if h.circuitState = .halfOpen then .closed else h.circuitState :=
  rfl

/-- A failure opens the circuit when it brings the count to the threshold, and leaves the
state otherwise: it never half-opens the circuit, and never closes an open one. -/
@[simp]
theorem circuitState_recordFailure (h : RetryHandler) :
    h.recordFailure.circuitState =
      if h.config.circuitBreakerFailureThreshold ≤ h.consecutiveFailures + 1 then .open
      else h.circuitState := by
  simp only [recordFailure, updateCircuitBreaker, Bool.false_eq_true, ↓reduceIte, ge_iff_le]
  by_cases reached : h.config.circuitBreakerFailureThreshold ≤ h.consecutiveFailures + 1
  · by_cases opened : h.circuitState = .open <;> simp [reached, opened]
  · simp [reached]

@[simp]
theorem consecutiveFailures_recordFailure (h : RetryHandler) :
    h.recordFailure.consecutiveFailures = h.consecutiveFailures + 1 := by
  simp only [recordFailure, updateCircuitBreaker, Bool.false_eq_true, ↓reduceIte]
  split_ifs <;> rfl

@[simp]
theorem failedAttempts_recordFailure (h : RetryHandler) :
    h.recordFailure.failedAttempts = h.failedAttempts + 1 := by
  simp only [recordFailure, updateCircuitBreaker, Bool.false_eq_true, ↓reduceIte]
  split_ifs <;> rfl

variable {α : Type} {giveUp : Exception → ℕ → Bool} {func : ℕ → Except Exception α}

section Attempt

variable {h : RetryHandler} (attempts : List ℕ) {attempt : ℕ}

/-- An attempt on an open circuit is counted and refused. -/
theorem attemptLoop_of_open (opened : h.circuitState = .open) :
    attemptLoop giveUp func (attempt :: attempts) h = (.error circuitOpen, h.countAttempt) := by
  simp [attemptLoop, isCircuitOpen, opened]

/-- An attempt whose call returns ends the loop with the result. -/
theorem attemptLoop_of_ok (closed : h.circuitState ≠ .open) {result : α}
    (returned : func attempt = .ok result) :
    attemptLoop giveUp func (attempt :: attempts) h = (.ok result, h.countAttempt.recordSuccess) := by
  simp [attemptLoop, isCircuitOpen, closed, returned]

/-- An attempt whose call throws rethrows at the last attempt or when the loop gives up, and
goes on to the next attempt otherwise. -/
theorem attemptLoop_of_error (closed : h.circuitState ≠ .open) {e : Exception}
    (threw : func attempt = .error e) :
    attemptLoop giveUp func (attempt :: attempts) h =
      if attempt = h.config.maxRetries.toNat ∨ giveUp e attempt = true then
        (.error e, h.countAttempt.recordFailure)
      else attemptLoop giveUp func attempts h.countAttempt.recordFailure := by
  simp [attemptLoop, isCircuitOpen, closed, threw]

end Attempt

@[simp]
theorem config_attemptLoop :
    ∀ (attempts : List ℕ) (h : RetryHandler), (attemptLoop giveUp func attempts h).2.config = h.config
  | [], _ => rfl
  | attempt :: attempts, h => by
    by_cases opened : h.circuitState = .open
    · rw [attemptLoop_of_open attempts opened]; rfl
    cases called : func attempt with
    | ok result =>
      rw [attemptLoop_of_ok attempts opened called]; exact config_updateCircuitBreaker _ _
    | error e =>
      rw [attemptLoop_of_error attempts opened called]
      split
      · exact config_updateCircuitBreaker _ _
      · rw [config_attemptLoop attempts]; exact config_updateCircuitBreaker _ _

/-- The loop ends at the last attempt at the latest: it returns or rethrows what the function
did at one of the attempts, or refuses an attempt on an open circuit. Its final `throw` is
reached only by a list without the last attempt. -/
theorem attemptLoop_result :
    ∀ (attempts : List ℕ) (h : RetryHandler), h.config.maxRetries.toNat ∈ attempts →
      (attemptLoop giveUp func attempts h).1 = .error circuitOpen ∨
        ∃ attempt ∈ attempts, (attemptLoop giveUp func attempts h).1 = func attempt
  | [], _, last => absurd last (List.not_mem_nil _)
  | attempt :: attempts, h, last => by
    by_cases opened : h.circuitState = .open
    · rw [attemptLoop_of_open attempts opened]; exact .inl rfl
    cases called : func attempt with
    | ok result =>
      rw [attemptLoop_of_ok attempts opened called]
      exact .inr ⟨attempt, List.mem_cons_self _ _, called.symm⟩
    | error e =>
      rw [attemptLoop_of_error attempts opened called]
      split
      · exact .inr ⟨attempt, List.mem_cons_self _ _, called.symm⟩
      · rename_i going
        have later : h.countAttempt.recordFailure.config.maxRetries.toNat ∈ attempts := by
          simpa using (List.mem_cons.mp last).resolve_left fun first => going (.inl first.symm)
        rcases attemptLoop_result attempts _ later with refused | ⟨a, mem, same⟩
        · exact .inl refused
        · exact .inr ⟨a, List.mem_cons_of_mem _ mem, same⟩

/-- The failure counter goes up by one, below a threshold it cannot pass. -/
theorem toNat_consecutiveFailures_recordFailure {h : RetryHandler}
    (below : h.consecutiveFailures.toNat < h.config.circuitBreakerFailureThreshold.toNat) :
    h.recordFailure.consecutiveFailures.toNat = h.consecutiveFailures.toNat + 1 := by
  have fits := h.config.circuitBreakerFailureThreshold.toNat_lt_size
  rw [consecutiveFailures_recordFailure, UInt32.toNat_add_one (by simp only [UInt32.size] at fits; omega)]

/-- Below the threshold, a failure opens the circuit exactly when it reaches the threshold. -/
theorem circuitState_recordFailure_of_below {h : RetryHandler}
    (below : h.consecutiveFailures.toNat < h.config.circuitBreakerFailureThreshold.toNat) :
    h.recordFailure.circuitState =
      if h.config.circuitBreakerFailureThreshold.toNat ≤ h.consecutiveFailures.toNat + 1 then .open
      else h.circuitState := by
  have reaches : h.config.circuitBreakerFailureThreshold ≤ h.consecutiveFailures + 1 ↔
      h.config.circuitBreakerFailureThreshold.toNat ≤ h.consecutiveFailures.toNat + 1 := by
    rw [← toNat_consecutiveFailures_recordFailure below, consecutiveFailures_recordFailure]
    exact Iff.rfl
  rw [circuitState_recordFailure]
  simp only [reaches]

/-- A loop over the attempts `j` to `j + n`, the last one, on a function that throws at each of
them, never giving up before the last: with `f` consecutive failures below the threshold `t`,
the function is called `min (t - f) (n + 1)` times. When the threshold is reached before the
last attempt, the next attempt is refused and the loop throws "Circuit breaker is open";
otherwise it rethrows the last exception. -/
theorem attemptLoop_of_failing :
    ∀ (n j : ℕ) (h : RetryHandler), j + n = h.config.maxRetries.toNat →
      h.circuitState ≠ .open →
      h.consecutiveFailures.toNat < h.config.circuitBreakerFailureThreshold.toNat →
      (∀ k, j ≤ k → k ≤ j + n → ∃ e, func k = .error e ∧ (k < j + n → giveUp e k = false)) →
      (attemptLoop giveUp func (List.range' j (n + 1)) h).1 =
          (if h.config.circuitBreakerFailureThreshold.toNat - h.consecutiveFailures.toNat ≤ n
            then .error circuitOpen else func (j + n)) ∧
        (attemptLoop giveUp func (List.range' j (n + 1)) h).2.failedAttempts =
          h.failedAttempts + UInt64.ofNat
            (min (h.config.circuitBreakerFailureThreshold.toNat - h.consecutiveFailures.toNat)
              (n + 1))
  | 0, j, h, last, closed, below, fails => by
    obtain ⟨e, threw, -⟩ := fails j le_rfl (by omega)
    rw [List.range'_succ, List.range'_zero, attemptLoop_of_error _ closed threw,
      if_pos (.inl (by omega)), if_neg (by omega), Nat.add_zero, threw,
      Nat.min_eq_right (by omega)]
    exact ⟨rfl, by simp only [failedAttempts_recordFailure, failedAttempts_countAttempt]; rfl⟩
  | n + 1, j, h, last, closed, below, fails => by
    obtain ⟨e, threw, going⟩ := fails j le_rfl (by omega)
    rw [List.range'_succ, attemptLoop_of_error _ closed threw,
      if_neg (not_or.mpr ⟨by omega, by simp [going (by omega)]⟩)]
    have counted : h.countAttempt.recordFailure.consecutiveFailures.toNat =
        h.consecutiveFailures.toNat + 1 := toNat_consecutiveFailures_recordFailure below
    have state := circuitState_recordFailure_of_below (h := h.countAttempt) below
    simp only [config_countAttempt, circuitState_countAttempt, consecutiveFailures_countAttempt]
      at state
    by_cases trips :
        h.config.circuitBreakerFailureThreshold.toNat ≤ h.consecutiveFailures.toNat + 1
    · rw [if_pos trips] at state
      rw [List.range'_succ, attemptLoop_of_open _ state, if_pos (by omega),
        Nat.min_eq_left (by omega), show h.config.circuitBreakerFailureThreshold.toNat -
          h.consecutiveFailures.toNat = 1 by omega]
      exact ⟨rfl, by simp only [failedAttempts_countAttempt, failedAttempts_recordFailure]; rfl⟩
    · rw [if_neg trips] at state
      obtain ⟨result, failed⟩ := attemptLoop_of_failing n (j + 1) h.countAttempt.recordFailure
        (by simp only [config_recordFailure, config_countAttempt]; omega)
        (by rw [state]; exact closed)
        (by rw [counted]; simp only [config_recordFailure, config_countAttempt]; omega)
        fun k lower upper => by
          obtain ⟨e, threw, going⟩ := fails k (by omega) (by omega)
          exact ⟨e, threw, fun earlier => going (by omega)⟩
      simp only [config_recordFailure, config_countAttempt, counted] at result failed
      refine ⟨?_, ?_⟩
      · rw [result, show j + 1 + n = j + (n + 1) by omega]
        by_cases opens : h.config.circuitBreakerFailureThreshold.toNat -
            h.consecutiveFailures.toNat ≤ n + 1
        · rw [if_pos opens, if_pos (by omega)]
        · rw [if_neg opens, if_neg (by omega)]
      · rw [failed, failedAttempts_recordFailure, failedAttempts_countAttempt,
          show min (h.config.circuitBreakerFailureThreshold.toNat - h.consecutiveFailures.toNat)
            (n + 1 + 1) = 1 + min (h.config.circuitBreakerFailureThreshold.toNat -
              (h.consecutiveFailures.toNat + 1)) (n + 1) by omega, UInt64.ofNat_add]
        exact congrArg UInt64.mk (BitVec.add_assoc _ _ _)

theorem mem_attempts {config : RetryConfig} {attempt : ℕ} :
    attempt ∈ attempts config ↔ attempt ≤ config.maxRetries.toNat := by
  simp [attempts, Nat.lt_succ_iff]

/-- Neither loop reaches its final `throw std::runtime_error("Max retries exceeded")`: each
returns or rethrows what the function did at an attempt up to `max_retries`, or throws
"Circuit breaker is open". -/
theorem execute_returns_attempt (h : RetryHandler) (func : ℕ → Except Exception α) :
    ((h.executeWithRetry func).1 = .error circuitOpen ∨
        ∃ attempt ≤ h.config.maxRetries.toNat, (h.executeWithRetry func).1 = func attempt) ∧
      ((h.executeWithRetryAndClassification func).1 = .error circuitOpen ∨
        ∃ attempt ≤ h.config.maxRetries.toNat,
          (h.executeWithRetryAndClassification func).1 = func attempt) := by
  have last : h.config.maxRetries.toNat ∈ attempts h.config := mem_attempts.mpr le_rfl
  constructor
  all_goals
    rcases attemptLoop_result _ h last with refused | ⟨attempt, mem, same⟩
    · exact .inl refused
    · exact .inr ⟨attempt, mem_attempts.mp mem, same⟩

/-- `execute_with_retry` on a function that throws at every attempt, an exception that
`should_retry` accepts at each attempt before the last, from a circuit that is not open, with
fewer consecutive failures `f` than the threshold `t`: the function is called
`min (t - f) (max_retries + 1)` times. When the threshold is reached before the last attempt,
the caller gets "Circuit breaker is open" in place of the function's own exception. -/
theorem executeWithRetry_of_failing (h : RetryHandler) (func : ℕ → Except Exception α)
    (closed : h.circuitState ≠ .open)
    (below : h.consecutiveFailures < h.config.circuitBreakerFailureThreshold)
    (fails : ∀ k ≤ h.config.maxRetries.toNat, ∃ e, func k = .error e ∧
      (k < h.config.maxRetries.toNat → h.shouldRetry e (UInt32.ofNat k) = true)) :
    (h.executeWithRetry func).1 =
        (if h.config.circuitBreakerFailureThreshold.toNat - h.consecutiveFailures.toNat ≤
            h.config.maxRetries.toNat then .error circuitOpen else func h.config.maxRetries.toNat) ∧
      (h.executeWithRetry func).2.failedAttempts = h.failedAttempts + UInt64.ofNat
        (min (h.config.circuitBreakerFailureThreshold.toNat - h.consecutiveFailures.toNat)
          (h.config.maxRetries.toNat + 1)) := by
  have loop := @attemptLoop_of_failing _ (fun e attempt => !h.shouldRetry e (UInt32.ofNat attempt))
    func h.config.maxRetries.toNat 0 h (Nat.zero_add _) closed below fun k _ upper => by
      obtain ⟨e, threw, retried⟩ := fails k (by omega)
      exact ⟨e, threw, fun earlier => by simp [retried (by omega)]⟩
  rw [Nat.zero_add] at loop
  rwa [executeWithRetry, attempts, List.range_eq_range']

/-- Three retries, a threshold of two failures, and a function that reports itself busy at
every attempt: the second failure opens the circuit, and the third attempt is refused. -/
theorem executeWithRetry_of_failing_busy :
    let h : RetryHandler := new ⟨3, 2⟩
    let func : ℕ → Except Exception Unit := fun _ => .error (.runtime "busy")
    h.circuitState ≠ .open ∧ h.consecutiveFailures < h.config.circuitBreakerFailureThreshold ∧
      (∀ k ≤ h.config.maxRetries.toNat, ∃ e, func k = .error e ∧
        (k < h.config.maxRetries.toNat → h.shouldRetry e (UInt32.ofNat k) = true)) ∧
      (h.executeWithRetry func).1 =
          (if h.config.circuitBreakerFailureThreshold.toNat - h.consecutiveFailures.toNat ≤
              h.config.maxRetries.toNat then .error circuitOpen
            else func h.config.maxRetries.toNat) ∧
        (h.executeWithRetry func).2.failedAttempts = h.failedAttempts + UInt64.ofNat
          (min (h.config.circuitBreakerFailureThreshold.toNat - h.consecutiveFailures.toNat)
            (h.config.maxRetries.toNat + 1)) :=
  have fails : ∀ k ≤ 3, ∃ e, (fun _ => .error (.runtime "busy") : ℕ → Except Exception Unit) k =
      .error e ∧ (k < 3 → (new ⟨3, 2⟩).shouldRetry e (UInt32.ofNat k) = true) :=
    fun k _ => ⟨_, rfl, fun earlier => (show ∀ k < 3,
      (new ⟨3, 2⟩).shouldRetry (.runtime "busy") (UInt32.ofNat k) = true by decide) k earlier⟩
  ⟨by decide, by decide, fails,
    executeWithRetry_of_failing (new ⟨3, 2⟩) _ (by decide) (by decide) fails⟩

end RetryHandler

/-- The public operations of a `RetryHandler` that change it. -/
inductive RetryCall (α : Type) where
  | executeWithRetry (func : ℕ → Except Exception α)
  | executeWithRetryAndClassification (func : ℕ → Except Exception α)
  | resetCircuitBreaker
  | updateConfig (config : RetryConfig)

/-- The call is `reset_circuit_breaker`. -/
def RetryCall.isReset {α : Type} : RetryCall α → Bool
  | .resetCircuitBreaker => true
  | _ => false

namespace RetryHandler

variable {α : Type}

/-- One call and what it returns or throws. -/
def call (h : RetryHandler) : RetryCall α → Option (Except Exception α) × RetryHandler
  | .executeWithRetry func => let r := h.executeWithRetry func; (some r.1, r.2)
  | .executeWithRetryAndClassification func =>
    let r := h.executeWithRetryAndClassification func; (some r.1, r.2)
  | .resetCircuitBreaker => (none, h.resetCircuitBreaker)
  | .updateConfig config => (none, h.updateConfig config)


theorem attempts_eq_cons (config : RetryConfig) :
    attempts config = 0 :: (List.range config.maxRetries.toNat).map Nat.succ :=
  List.range_succ_eq_map _

/-- On an open circuit every call but `reset_circuit_breaker` returns nothing or throws
"Circuit breaker is open", and changes at most the configuration and the attempt count. -/
theorem call_of_open {h : RetryHandler} (opened : h.circuitState = .open) (c : RetryCall α)
    (notReset : c.isReset = false) :
    ((h.call c).1 = none ∨ (h.call c).1 = some (.error circuitOpen)) ∧
      ∃ config totalAttempts,
        (h.call c).2 = { h with config := config, totalAttempts := totalAttempts } := by
  cases c with
  | executeWithRetry func | executeWithRetryAndClassification func =>
    refine ⟨.inr ?_, h.config, h.totalAttempts + 1, ?_⟩ <;>
      simp only [call, executeWithRetry, executeWithRetryAndClassification, attempts_eq_cons,
        attemptLoop_of_open _ opened]
    rfl
  | resetCircuitBreaker => cases notReset
  | updateConfig config => exact ⟨.inl rfl, config, _, rfl⟩

/-- An open circuit stays open until `reset_circuit_breaker`, whatever the time: until then
every call of either loop throws "Circuit breaker is open" without calling the function, and
the consecutive failures, the successful and failed attempts and the trips stay as they
were. -/
theorem open_until_reset (h : RetryHandler) (opened : h.circuitState = .open)
    (calls : List (RetryCall α)) (noReset : ∀ c ∈ calls, c.isReset = false) :
    (∀ e ∈ trace call h calls, e.result = none ∨ e.result = some (.error circuitOpen)) ∧
      ∃ config totalAttempts,
        Dfs.run call h calls = { h with config := config, totalAttempts := totalAttempts } := by
  induction calls generalizing h with
  | nil => exact ⟨fun e mem => absurd mem (List.not_mem_nil _), h.config, h.totalAttempts, rfl⟩
  | cons c calls ih =>
    obtain ⟨result, config, totalAttempts, after⟩ :=
      call_of_open opened c (noReset c (List.mem_cons_self _ _))
    obtain ⟨laterResults, config', totalAttempts', final⟩ :=
      ih (h.call c).2 (by rw [after]; exact opened)
        fun c' mem => noReset c' (List.mem_cons_of_mem _ mem)
    refine ⟨fun e mem => ?_, config', totalAttempts', ?_⟩
    · rcases List.mem_cons.mp mem with rfl | later
      · exact result
      · exact laterResults e later
    · rw [Dfs.run, final, after]

/-- A handler tripped by two failures under a threshold of two: a call of each loop on a
function that would succeed, and a configuration change in between, all leave it open. -/
theorem open_until_reset_after_trip :
    let h : RetryHandler := ⟨⟨3, 2⟩, .open, 2, 2, 0, 2, 1⟩
    let calls : List (RetryCall Unit) :=
      [.executeWithRetry fun _ => .ok (), .updateConfig ⟨5, 5⟩,
        .executeWithRetryAndClassification fun _ => .ok ()]
    h.circuitState = .open ∧ (∀ c ∈ calls, c.isReset = false) ∧
      (∀ e ∈ trace call h calls, e.result = none ∨ e.result = some (.error circuitOpen)) ∧
        ∃ config totalAttempts,
          Dfs.run call h calls = { h with config := config, totalAttempts := totalAttempts } :=
  ⟨rfl, by decide, open_until_reset _ rfl _ (by decide)⟩

end RetryHandler

end Dfs
