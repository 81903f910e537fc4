import Dfs.History
import Dfs.RateLimiter.TokenBucket

/-!
# The rate limiter and its statistics

`RateLimiter` of `utils/rate_limiter.cpp` keeps a `ClientLimiter` per client, created on a
client's first request with `burst_capacity` tokens, or one global token bucket when per-client
limits are off, and counts the requests it decides in `total_requests_`, `allowed_requests_` and
`denied_requests_`.

`is_allowed(client_id, tokens_needed)` counts the request in `total_requests_` before it looks
at the mode. With per-client limits off it then hands the request to the global overload
`is_allowed(tokens_needed)`, which counts it in `total_requests_` a second time, or, when there
is no global bucket, refuses it without counting it anywhere else. Over any history from the
constructor, `allowed_requests_` is the number of requests let through, and `total_requests_`
exceeds `allowed_requests_ + denied_requests_` by the number of `is_allowed(client_id, ...)`
calls made while per-client limits were off in the configuration of the moment
(`statistics_run`).

`update_config(new_config)` installs the new configuration, replaces every client's limiter
with a new one holding `burst_capacity` tokens, and replaces the global bucket only if there
is one. A limiter created with per-client limits on has none, so a new configuration that turns
them off leaves it refusing every request until a later one turns them back on, each request
counted in `total_requests_` and in neither of the other two counters
(`refuses_after_switch_to_global`).

The client map is a function, `none` for an absent client; the pointer that
`get_client_limiter` returns is never null, and `is_allowed` updates the limiter in its place.
`reset_all_clients()` and `update_config` read the clock once per limiter they make or reset;
the model gives every limiter the same reading. The counters are `uint64_t`.
-/

namespace Dfs

/-- `RateLimiter`: the configuration, a limiter per client, the global bucket and the request
statistics. -/
structure RateLimiter where
  config : RateLimitConfig
  clientLimiters : String → Option ClientLimiter
  globalBucket : Option TokenBucket
  totalRequests : UInt64
  allowedRequests : UInt64
  deniedRequests : UInt64

/-- A call of the rate limiter, with the clock readings it makes. -/
inductive RateLimiterCall where
  /-- `is_allowed(client_id, tokens_needed)`: the constructors of a new client's limiter read
  the clock at `bucketAt` and `windowAt`, its `is_allowed` at `refillAt` and `checkAt`. -/
  | isAllowed (clientId : String) (tokensNeeded : UInt32) (bucketAt windowAt refillAt checkAt : ℤ)
  /-- `is_allowed(tokens_needed)`, the global bucket's refill reading the clock at `refillAt`. -/
  | isAllowedGlobal (tokensNeeded : UInt32) (refillAt : ℤ)
  /-- `remove_client(client_id)`. -/
  | removeClient (clientId : String)
  /-- `reset_all_clients()`, reading the clock at `now`. -/
  | resetAllClients (now : ℤ)
  /-- `cleanup_expired_clients(max_idle_time)`, reading the clock at `now`. -/
  | cleanupExpiredClients (maxIdleTime now : ℤ)
  /-- `update_config(new_config)`, the new buckets and limiters reading the clock at `now`. -/
  | updateConfig (newConfig : RateLimitConfig) (now : ℤ)

/-- The calls of the per-client overload `is_allowed(client_id, tokens_needed)`. -/
def RateLimiterCall.isClientRequest : RateLimiterCall → Bool
  | .isAllowed .. => true
  | _ => false

/-- The calls that install a configuration with per-client limits on. -/
def RateLimiterCall.turnsPerClientOn : RateLimiterCall → Bool
  | .updateConfig newConfig _ => newConfig.enablePerClientLimits
  | _ => false

namespace RateLimiter

/-- `RateLimiter(config)`: with per-client limits off, a global bucket of `burst_capacity`
tokens, its constructor reading the clock at `now`. -/
def new (config : RateLimitConfig) (now : ℤ) : RateLimiter where
  config := config
  clientLimiters := fun _ => none
  globalBucket :=
    if !config.enablePerClientLimits then some (TokenBucket.new config.burstCapacity now) else none
  totalRequests := 0
  allowedRequests := 0
  deniedRequests := 0

/-- The statistics of a decision: `allowed_requests_++` or `denied_requests_++`. -/
def tally (r : RateLimiter) (allowed : Bool) : RateLimiter :=
  if allowed then { r with allowedRequests := r.allowedRequests + 1 }
  else { r with deniedRequests := r.deniedRequests + 1 }

/-- `is_allowed(tokens_needed)`: refused uncounted with per-client limits on or with no global
bucket; otherwise counted, and decided by the global bucket. -/
def isAllowedGlobal (r : RateLimiter) (tokensNeeded : UInt32) (refillAt : ℤ) :
    Bool × RateLimiter :=
  if r.config.enablePerClientLimits then (false, r)
  else
    match r.globalBucket with
    | none => (false, r)
    | some bucket =>
      let consumed := bucket.tryConsume tokensNeeded r.config.maxRequestsPerSecond
        r.config.windowSize refillAt
      (consumed.1, { r with
        totalRequests := r.totalRequests + 1, globalBucket := some consumed.2 }.tally consumed.1)

/-- `get_client_limiter(client_id)`: the client's limiter, created with `burst_capacity`
tokens when there is none. -/
def getClientLimiter (r : RateLimiter) (clientId : String) (bucketAt windowAt : ℤ) :
    ClientLimiter × RateLimiter :=
  match r.clientLimiters clientId with
  | some limiter => (limiter, r)
  | none =>
    let limiter := ClientLimiter.new r.config.burstCapacity bucketAt windowAt
    (limiter, { r with clientLimiters := Function.update r.clientLimiters clientId (some limiter) })

/-- `is_allowed(client_id, tokens_needed)`: counted in `total_requests_`; with per-client limits
off, handed to `is_allowed(tokens_needed)`, otherwise decided by the client's limiter. -/
def isAllowed (r : RateLimiter) (clientId : String) (tokensNeeded : UInt32)
    (bucketAt windowAt refillAt checkAt : ℤ) : Bool × RateLimiter :=
  let r := { r with totalRequests := r.totalRequests + 1 }
  if !r.config.enablePerClientLimits then r.isAllowedGlobal tokensNeeded refillAt
  else
    let found := r.getClientLimiter clientId bucketAt windowAt
    let decided := found.1.isAllowed tokensNeeded found.2.config refillAt checkAt
    (decided.1, { found.2 with
      clientLimiters := Function.update found.2.clientLimiters clientId (some decided.2) }.tally
        decided.1)

/-- `remove_client(client_id)`. -/
def removeClient (r : RateLimiter) (clientId : String) : RateLimiter :=
  { r with clientLimiters := Function.update r.clientLimiters clientId none }

/-- `reset_all_clients()`: every limiter's window starts over at `now`. -/
def resetAllClients (r : RateLimiter) (now : ℤ) : RateLimiter :=
  { r with clientLimiters := fun clientId => (r.clientLimiters clientId).map (·.resetWindow now) }

/-- `cleanup_expired_clients(max_idle_time)`, reading the clock at `now`: a limiter whose
window started more than `max_idle_time` seconds ago and has counted no request is erased. -/
def cleanupExpiredClients (r : RateLimiter) (maxIdleTime now : ℤ) : RateLimiter :=
  { r with
    clientLimiters := fun clientId => (r.clientLimiters clientId).filter fun limiter =>
      !(secondsBetween limiter.windowStart now > maxIdleTime && limiter.requestCount == 0) }

/-- `update_config(new_config)`, the constructors of the new buckets reading the clock at
`now`: the configuration replaced, and the global bucket, if there is one, and every client's
limiter made anew with `burst_capacity` tokens. It creates no global bucket. -/
def updateConfig (r : RateLimiter) (newConfig : RateLimitConfig) (now : ℤ) : RateLimiter :=
  { r with
    config := newConfig
    globalBucket := r.globalBucket.map fun _ => TokenBucket.new newConfig.burstCapacity now
    clientLimiters := fun clientId =>
      (r.clientLimiters clientId).map fun _ => ClientLimiter.new newConfig.burstCapacity now now }

/-- One call; the two `is_allowed` return their decision, the others nothing. -/
def call (r : RateLimiter) : RateLimiterCall → Option Bool × RateLimiter
  | .isAllowed clientId tokensNeeded bucketAt windowAt refillAt checkAt =>
    let decided := r.isAllowed clientId tokensNeeded bucketAt windowAt refillAt checkAt
    (some decided.1, decided.2)
  | .isAllowedGlobal tokensNeeded refillAt =>
    let decided := r.isAllowedGlobal tokensNeeded refillAt
    (some decided.1, decided.2)
  | .removeClient clientId => (none, r.removeClient clientId)
  | .resetAllClients now => (none, r.resetAllClients now)
  | .cleanupExpiredClients maxIdleTime now => (none, r.cleanupExpiredClients maxIdleTime now)
  | .updateConfig newConfig now => (none, r.updateConfig newConfig now)

@[simp]
theorem config_tally (r : RateLimiter) (allowed : Bool) :
    (r.tally allowed).config = r.config := by cases allowed <;> rfl

@[simp]
theorem globalBucket_tally (r : RateLimiter) (allowed : Bool) :
    (r.tally allowed).globalBucket = r.globalBucket := by cases allowed <;> rfl

@[simp]
theorem totalRequests_tally (r : RateLimiter) (allowed : Bool) :
    (r.tally allowed).totalRequests = r.totalRequests := by cases allowed <;> rfl

@[simp]
theorem allowedRequests_tally (r : RateLimiter) (allowed : Bool) :
    (r.tally allowed).allowedRequests =
      if allowed then r.allowedRequests + 1 else r.allowedRequests := by
  cases allowed <;> rfl

@[simp]
theorem deniedRequests_tally (r : RateLimiter) (allowed : Bool) :
    (r.tally allowed).deniedRequests =
      if allowed then r.deniedRequests else r.deniedRequests + 1 := by
  cases allowed <;> rfl

/-- With per-client limits on, `is_allowed(client_id, ...)` counts the request once and tallies
the client limiter's decision; only the client map changes besides. -/
theorem isAllowed_of_perClient (r : RateLimiter) (clientId : String) (tokensNeeded : UInt32)
    (bucketAt windowAt refillAt checkAt : ℤ) (perClient : r.config.enablePerClientLimits = true) :
    ∃ clientLimiters, (r.isAllowed clientId tokensNeeded bucketAt windowAt refillAt checkAt).2 =
      { r with totalRequests := r.totalRequests + 1, clientLimiters := clientLimiters }.tally
        (r.isAllowed clientId tokensNeeded bucketAt windowAt refillAt checkAt).1 := by
  simp only [isAllowed, perClient, Bool.not_true, Bool.false_eq_true, if_false, getClientLimiter]
  split <;> exact ⟨_, rfl⟩

/-- With per-client limits off, `is_allowed(client_id, ...)` counts the request and hands it to
`is_allowed(tokens_needed)`. -/
theorem isAllowed_of_global (r : RateLimiter) (clientId : String) (tokensNeeded : UInt32)
    (bucketAt windowAt refillAt checkAt : ℤ) (global : r.config.enablePerClientLimits = false) :
    r.isAllowed clientId tokensNeeded bucketAt windowAt refillAt checkAt =
      { r with totalRequests := r.totalRequests + 1 }.isAllowedGlobal tokensNeeded refillAt := by
  simp [isAllowed, global]

/-- With per-client limits off and a global bucket, `is_allowed(tokens_needed)` counts the
request once and tallies the bucket's decision; only the bucket changes besides. -/
theorem isAllowedGlobal_of_bucket (r : RateLimiter) (tokensNeeded : UInt32) (refillAt : ℤ)
    (global : r.config.enablePerClientLimits = false) (present : r.globalBucket.isSome = true) :
    ∃ bucket, (r.isAllowedGlobal tokensNeeded refillAt).2 =
      { r with totalRequests := r.totalRequests + 1, globalBucket := some bucket }.tally
        (r.isAllowedGlobal tokensNeeded refillAt).1 := by
  obtain ⟨bucket, found⟩ := Option.isSome_iff_exists.mp present
  simp only [isAllowedGlobal, global, Bool.false_eq_true, if_false, found]
  exact ⟨_, rfl⟩

/-- With per-client limits on, `is_allowed(tokens_needed)` refuses and counts nothing. -/
theorem isAllowedGlobal_of_perClient (r : RateLimiter) (tokensNeeded : UInt32) (refillAt : ℤ)
    (perClient : r.config.enablePerClientLimits = true) :
    r.isAllowedGlobal tokensNeeded refillAt = (false, r) := by
  simp [isAllowedGlobal, perClient]

/-- Without a global bucket, `is_allowed(tokens_needed)` refuses and counts nothing. -/
theorem isAllowedGlobal_of_none {r : RateLimiter} (noBucket : r.globalBucket = none)
    (tokensNeeded : UInt32) (refillAt : ℤ) : r.isAllowedGlobal tokensNeeded refillAt = (false, r) := by
  unfold isAllowedGlobal
  split
  · rfl
  · rw [noBucket]

/-- The statistics against a history from the constructor: `admitted` requests let through, and
`offRequests` calls of `is_allowed(client_id, ...)` made while per-client limits were off.
`allowed_requests_` counts the first, and `total_requests_` exceeds
`allowed_requests_ + denied_requests_` by the second. -/
structure Accounts (r : RateLimiter) (admitted offRequests : ℕ) : Prop where
  allowed_eq : r.allowedRequests = UInt64.ofNat admitted
  total_eq : ∃ denied, r.deniedRequests = UInt64.ofNat denied ∧
    r.totalRequests = UInt64.ofNat (admitted + denied + offRequests)

theorem accounts_new (config : RateLimitConfig) (now : ℤ) : Accounts (new config now) 0 0 :=
  ⟨rfl, 0, rfl, rfl⟩

section Accounts

variable {r r' : RateLimiter} {admitted offRequests : ℕ}

/-- A decision that `total_requests_` counted `1 + extra` times keeps the accounts, with `extra`
added to `offRequests`. -/
theorem Accounts.tally (accounts : Accounts r admitted offRequests) (allowed : Bool) (extra : ℕ)
    (allowedSame : r'.allowedRequests = r.allowedRequests)
    (deniedSame : r'.deniedRequests = r.deniedRequests)
    (counted : r'.totalRequests = r.totalRequests + UInt64.ofNat (1 + extra)) :
    Accounts (r'.tally allowed) (admitted + if allowed then 1 else 0) (offRequests + extra) := by
  obtain ⟨allowedEq, denied, deniedEq, totalEq⟩ := accounts
  refine ⟨?_, denied + if allowed then 0 else 1, ?_, ?_⟩
  · cases allowed
    · simpa using allowedSame.trans allowedEq
    · simp [allowedSame, allowedEq, UInt64.ofNat_add]
  · cases allowed
    · simp [deniedSame, deniedEq, UInt64.ofNat_add]
    · simpa using deniedSame.trans deniedEq
  · rw [totalRequests_tally, counted, totalEq, ← UInt64.ofNat_add]
    congr 1
    split <;> omega

/-- A request counted once in `total_requests_` and neither allowed nor denied keeps the
accounts, with one added to `offRequests`. -/
theorem Accounts.uncounted (accounts : Accounts r admitted offRequests)
    (allowedSame : r'.allowedRequests = r.allowedRequests)
    (deniedSame : r'.deniedRequests = r.deniedRequests)
    (counted : r'.totalRequests = r.totalRequests + 1) :
    Accounts r' admitted (offRequests + 1) := by
  obtain ⟨allowedEq, denied, deniedEq, totalEq⟩ := accounts
  refine ⟨allowedSame.trans allowedEq, denied, deniedSame.trans deniedEq, ?_⟩
  rw [counted, totalEq]
  exact (UInt64.ofNat_add _ 1).symm

/-- A call that changes none of the counters keeps the accounts. -/
theorem Accounts.of_same (accounts : Accounts r admitted offRequests)
    (allowedSame : r'.allowedRequests = r.allowedRequests)
    (deniedSame : r'.deniedRequests = r.deniedRequests)
    (totalSame : r'.totalRequests = r.totalRequests) : Accounts r' admitted offRequests :=
  ⟨allowedSame ▸ accounts.allowed_eq, deniedSame ▸ totalSame ▸ accounts.total_eq⟩

/-- A call adds to `admitted` the request it lets through, and to `offRequests` a call of
`is_allowed(client_id, ...)` made with per-client limits off. -/
theorem Accounts.after_call (accounts : Accounts r admitted offRequests) (c : RateLimiterCall) :
    Accounts (r.call c).2 (admitted + if (r.call c).1 = some true then 1 else 0)
      (offRequests + if c.isClientRequest && !r.config.enablePerClientLimits then 1 else 0) := by
  have twice (x : UInt64) : x + 1 + 1 = x + UInt64.ofNat (1 + 1) :=
    congrArg UInt64.mk (BitVec.add_assoc _ _ _)
  cases c with
  | isAllowed clientId tokensNeeded bucketAt windowAt refillAt checkAt =>
    simp only [call, RateLimiterCall.isClientRequest, Option.some.injEq, Bool.true_and]
    cases mode : r.config.enablePerClientLimits
    · -- per-client limits off: counted here, and again by the global overload if it has a bucket
      rw [isAllowed_of_global r clientId tokensNeeded bucketAt windowAt refillAt checkAt mode]
      rcases Option.eq_none_or_eq_some r.globalBucket with found | ⟨bucket, found⟩
      · rw [isAllowedGlobal_of_none (r := { r with totalRequests := r.totalRequests + 1 }) found]
        exact accounts.uncounted rfl rfl rfl
      · obtain ⟨bucket, decided⟩ := isAllowedGlobal_of_bucket { r with
          totalRequests := r.totalRequests + 1 } tokensNeeded refillAt mode (by simp [found])
        rw [decided]
        exact accounts.tally _ 1 rfl rfl (twice _)
    · -- per-client limits on: counted once, decided by the client's limiter
      obtain ⟨clientLimiters, decided⟩ := isAllowed_of_perClient r clientId tokensNeeded
        bucketAt windowAt refillAt checkAt mode
      rw [decided]
      exact accounts.tally _ 0 rfl rfl rfl
  | isAllowedGlobal tokensNeeded refillAt =>
    simp only [call, RateLimiterCall.isClientRequest, Option.some.injEq, Bool.false_and,
      Bool.false_eq_true, if_false, Nat.add_zero]
    cases mode : r.config.enablePerClientLimits
    · rcases Option.eq_none_or_eq_some r.globalBucket with found | ⟨bucket, found⟩
      · rw [isAllowedGlobal_of_none found]
        simpa using accounts
      · obtain ⟨bucket, decided⟩ := isAllowedGlobal_of_bucket r tokensNeeded refillAt mode
          (by simp [found])
        rw [decided]
        exact accounts.tally _ 0 rfl rfl rfl
    · rw [isAllowedGlobal_of_perClient r tokensNeeded refillAt mode]
      simpa using accounts
  | removeClient _ | resetAllClients _ | cleanupExpiredClients _ _ | updateConfig _ _ =>
    simp only [call, RateLimiterCall.isClientRequest, reduceCtorEq, if_false, Bool.false_and,
      Bool.false_eq_true, Nat.add_zero]
    exact accounts.of_same rfl rfl rfl

end Accounts

/-- The statistics after a sequence of calls: `admitted` grows by the requests let through, and
`offRequests` by the calls of `is_allowed(client_id, ...)` made with per-client limits off. -/
theorem Accounts.after_run :
    ∀ (calls : List RateLimiterCall) (r : RateLimiter) (admitted offRequests : ℕ),
      Accounts r admitted offRequests →
      Accounts (Dfs.run call r calls)
        (admitted + (trace call r calls).countP fun e => e.result = some true)
        (offRequests + (trace call r calls).countP
          fun e => e.call.isClientRequest && !e.before.config.enablePerClientLimits)
  | [], _, admitted, offRequests, accounts => accounts
  | c :: calls, r, admitted, offRequests, accounts => by
    have final := Accounts.after_run calls _ _ _ (accounts.after_call c)
    simpa only [trace, List.countP_cons, decide_eq_true_eq, Nat.add_assoc, Nat.add_left_comm,
      Nat.add_comm _ (ite _ _ _)] using final

/-- `RateLimiter(config)`, after any sequence of calls: `allowed_requests_` is the number of
requests let through, and `total_requests_` exceeds `allowed_requests_ + denied_requests_` by
the number of `is_allowed(client_id, ...)` calls made while the configuration of the moment had
per-client limits off: each of those is counted twice in `total_requests_`, or, with no global
bucket, counted once and neither allowed nor denied. -/
theorem statistics_run (config : RateLimitConfig) (now : ℤ) (calls : List RateLimiterCall) :
    let r : RateLimiter := Dfs.run call (new config now) calls
    r.allowedRequests = UInt64.ofNat
        ((trace call (new config now) calls).countP fun e => e.result = some true) ∧
      r.totalRequests = r.allowedRequests + r.deniedRequests +
        UInt64.ofNat ((trace call (new config now) calls).countP
          fun e => e.call.isClientRequest && !e.before.config.enablePerClientLimits) := by
  dsimp only
  obtain ⟨allowedEq, denied, deniedEq, totalEq⟩ :=
    Accounts.after_run calls _ 0 0 (accounts_new config now)
  simp only [Nat.zero_add] at allowedEq totalEq
  rw [totalEq, allowedEq, deniedEq, ← UInt64.ofNat_add, ← UInt64.ofNat_add]
  exact ⟨rfl, rfl⟩

/-- With per-client limits off, one request let through is counted twice. -/
example : (Dfs.run call (new ⟨10, 10, 1, false⟩ 0) [.isAllowed "a" 1 0 0 0 0]).totalRequests = 2 ∧
    (Dfs.run call (new ⟨10, 10, 1, false⟩ 0) [.isAllowed "a" 1 0 0 0 0]).allowedRequests = 1 := by
  decide

section Reconfiguration

theorem totalRequests_add_zero (r : RateLimiter) : r.totalRequests + UInt64.ofNat 0 = r.totalRequests :=
  congrArg UInt64.mk (BitVec.add_zero r.totalRequests.toBitVec)

/-- With per-client limits off and no global bucket, `is_allowed(client_id, ...)` counts the
request and refuses it. -/
theorem isAllowed_without_bucket {r : RateLimiter} (off : r.config.enablePerClientLimits = false)
    (noBucket : r.globalBucket = none) (clientId : String) (tokensNeeded : UInt32)
    (bucketAt windowAt refillAt checkAt : ℤ) :
    r.isAllowed clientId tokensNeeded bucketAt windowAt refillAt checkAt =
      (false, { r with totalRequests := r.totalRequests + 1 }) := by
  rw [isAllowed_of_global r clientId tokensNeeded bucketAt windowAt refillAt checkAt off]
  exact isAllowedGlobal_of_none (r := { r with totalRequests := r.totalRequests + 1 }) noBucket
    tokensNeeded refillAt

/-- No call creates a global bucket, and with per-client limits off and no global bucket, only an
`update_config` that turns them on changes that. -/
theorem config_globalBucket_call {r : RateLimiter} (off : r.config.enablePerClientLimits = false)
    (noBucket : r.globalBucket = none) (c : RateLimiterCall) (stays : c.turnsPerClientOn = false) :
    (r.call c).2.config.enablePerClientLimits = false ∧ (r.call c).2.globalBucket = none := by
  cases c with
  | isAllowed clientId tokensNeeded bucketAt windowAt refillAt checkAt =>
    rw [call, isAllowed_without_bucket off noBucket]
    exact ⟨off, noBucket⟩
  | isAllowedGlobal tokensNeeded refillAt =>
    rw [call, isAllowedGlobal_of_none noBucket]
    exact ⟨off, noBucket⟩
  | updateConfig newConfig now =>
    exact ⟨stays, by simp [call, updateConfig, noBucket]⟩
  | removeClient _ | resetAllClients _ | cleanupExpiredClients _ _ => exact ⟨off, noBucket⟩

/-- A limiter without a global bucket never gets one. -/
theorem globalBucket_call_of_none {r : RateLimiter} (noBucket : r.globalBucket = none)
    (c : RateLimiterCall) : (r.call c).2.globalBucket = none := by
  cases c with
  | isAllowed clientId tokensNeeded bucketAt windowAt refillAt checkAt =>
    cases mode : r.config.enablePerClientLimits
    · rw [call, isAllowed_without_bucket mode noBucket]
      exact noBucket
    · obtain ⟨clientLimiters, decided⟩ := isAllowed_of_perClient r clientId tokensNeeded
        bucketAt windowAt refillAt checkAt mode
      rw [call, decided, globalBucket_tally]
      exact noBucket
  | isAllowedGlobal tokensNeeded refillAt =>
    rw [call, isAllowedGlobal_of_none noBucket]
    exact noBucket
  | updateConfig newConfig now => simp [call, updateConfig, noBucket]
  | removeClient _ | resetAllClients _ | cleanupExpiredClients _ _ => exact noBucket

/-- With per-client limits off and no global bucket, a call refuses or returns nothing,
counts an `is_allowed(client_id, ...)` in `total_requests_`, and changes neither
`allowed_requests_` nor `denied_requests_`. -/
theorem call_without_bucket {r : RateLimiter} (off : r.config.enablePerClientLimits = false)
    (noBucket : r.globalBucket = none) (c : RateLimiterCall) :
    (r.call c).1 ≠ some true ∧
      (r.call c).2.totalRequests =
        r.totalRequests + UInt64.ofNat (if c.isClientRequest then 1 else 0) ∧
      (r.call c).2.allowedRequests = r.allowedRequests ∧
      (r.call c).2.deniedRequests = r.deniedRequests := by
  have unchanged := (totalRequests_add_zero r).symm
  cases c with
  | isAllowed clientId tokensNeeded bucketAt windowAt refillAt checkAt =>
    rw [call, isAllowed_without_bucket off noBucket]
    exact ⟨by simp, rfl, rfl, rfl⟩
  | isAllowedGlobal tokensNeeded refillAt =>
    rw [call, isAllowedGlobal_of_none noBucket]
    exact ⟨by simp, unchanged, rfl, rfl⟩
  | removeClient _ | resetAllClients _ | cleanupExpiredClients _ _ | updateConfig _ _ =>
    exact ⟨nofun, unchanged, rfl, rfl⟩

/-- With per-client limits off and no global bucket, every request of every sequence of calls
that does not turn them back on is refused; each `is_allowed(client_id, ...)` is counted in
`total_requests_`, and none as allowed or denied. -/
theorem run_without_bucket :
    ∀ (calls : List RateLimiterCall) (r : RateLimiter), r.config.enablePerClientLimits = false →
      r.globalBucket = none → (∀ c ∈ calls, c.turnsPerClientOn = false) →
      (∀ e ∈ trace call r calls, e.result ≠ some true) ∧
        (Dfs.run call r calls).totalRequests =
          r.totalRequests + UInt64.ofNat (calls.countP RateLimiterCall.isClientRequest) ∧
        (Dfs.run call r calls).allowedRequests = r.allowedRequests ∧
        (Dfs.run call r calls).deniedRequests = r.deniedRequests
  | [], r, _, _, _ =>
    ⟨fun e mem => absurd mem (List.not_mem_nil e), (totalRequests_add_zero r).symm, rfl, rfl⟩
  | c :: calls, r, off, noBucket, stays => by
    obtain ⟨refused, total, allowed, denied⟩ := call_without_bucket off noBucket c
    obtain ⟨stillOff, stillNone⟩ :=
      config_globalBucket_call off noBucket c (stays c (List.mem_cons_self _ _))
    obtain ⟨laterRefused, laterTotal, laterAllowed, laterDenied⟩ :=
      run_without_bucket calls (r.call c).2 stillOff stillNone
        (fun c' mem => stays c' (List.mem_cons_of_mem _ mem))
    refine ⟨fun e mem => ?_, ?_, laterAllowed.trans allowed, laterDenied.trans denied⟩
    · rcases List.mem_cons.mp mem with rfl | later
      · exact refused
      · exact laterRefused e later
    · rw [Dfs.run, laterTotal, total, List.countP_cons, Nat.add_comm, UInt64.ofNat_add]
      exact congrArg UInt64.mk (BitVec.add_assoc _ _ _)

/-- A limiter created with per-client limits on has no global bucket, and no call creates one:
once an `update_config` turns per-client limits off, whatever calls came before, every request
is refused until a later `update_config` turns them back on, and each
`is_allowed(client_id, ...)` is counted in `total_requests_` and neither as allowed nor as
denied. -/
theorem refuses_after_switch_to_global (config newConfig : RateLimitConfig) (start now : ℤ)
    (earlier later : List RateLimiterCall) (perClient : config.enablePerClientLimits = true)
    (global : newConfig.enablePerClientLimits = false)
    (staysGlobal : ∀ c ∈ later, c.turnsPerClientOn = false) :
    let r := (Dfs.run call (new config start) earlier).updateConfig newConfig now
    (∀ e ∈ trace call r later, e.result ≠ some true) ∧
      (Dfs.run call r later).totalRequests =
        r.totalRequests + UInt64.ofNat (later.countP RateLimiterCall.isClientRequest) ∧
      (Dfs.run call r later).allowedRequests = r.allowedRequests ∧
      (Dfs.run call r later).deniedRequests = r.deniedRequests := by
  have noBucket : (Dfs.run call (new config start) earlier).globalBucket = none :=
    run_of_keeps call (fun r => r.globalBucket = none)
      (fun _ c noBucket => globalBucket_call_of_none noBucket c) _ earlier
      (by simp [new, perClient])
  exact run_without_bucket later _ global (by simp [updateConfig, noBucket]) staysGlobal

/-- A limiter made with per-client limits on, reconfigured twice: once more with them on, then
with them off. Afterwards two requests and a reconfiguration that keeps them off are refused or
return nothing. -/
theorem refuses_after_switch_to_global_two_requests :
    let earlier : List RateLimiterCall :=
      [.isAllowed "a" 1 0 0 0 0, .updateConfig ⟨5, 5, 1, true⟩ 1, .isAllowed "a" 1 2 2 2 2]
    let r := (Dfs.run call (new ⟨10, 10, 1, true⟩ 0) earlier).updateConfig ⟨10, 10, 1, false⟩ 5
    let later : List RateLimiterCall :=
      [.isAllowed "a" 1 6 6 6 6, .updateConfig ⟨20, 20, 1, false⟩ 7, .isAllowedGlobal 1 8]
    (⟨10, 10, 1, true⟩ : RateLimitConfig).enablePerClientLimits = true ∧
      (⟨10, 10, 1, false⟩ : RateLimitConfig).enablePerClientLimits = false ∧
      (∀ c ∈ later, c.turnsPerClientOn = false) ∧
      (∀ e ∈ trace call r later, e.result ≠ some true) ∧
        (Dfs.run call r later).totalRequests =
          r.totalRequests + UInt64.ofNat (later.countP RateLimiterCall.isClientRequest) ∧
        (Dfs.run call r later).allowedRequests = r.allowedRequests ∧
        (Dfs.run call r later).deniedRequests = r.deniedRequests :=
  ⟨rfl, rfl, by decide, refuses_after_switch_to_global _ _ 0 5 _ _ rfl rfl (by decide)⟩

end Reconfiguration

end RateLimiter

end Dfs
