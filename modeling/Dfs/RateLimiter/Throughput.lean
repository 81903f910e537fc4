import Dfs.RateLimiter.Clients

/-!
# What the token buckets let through

A token bucket is for bounding throughput: over any stretch of time it hands out no more than
its capacity at the start and `max_requests_per_second` tokens per second after that. This
module proves that bound for both modes of the `RateLimiter`: with per-client limits off, for
all requests together, which draw on the one global bucket (`global_limit_admits_at_most`), and
with them on, for the requests of each client whose limiter is never erased or replaced
(`client_limit_admits_at_most`). `remove_client` and `cleanup_expired_clients` erase limiters,
and the next request of that client makes a new one with a full bucket; `update_config` gives
the global bucket and every limiter a new, full bucket at once. Each bound is one of a bucket's
lifetime.

The argument is an account kept by every `try_consume` (`Spent`): the tokens handed out since
the bucket was made, together with those it holds, are at most its capacity and one cap
`refill_rate * refill_interval` for every `refill_interval` whole seconds between its
construction and its last refill. A refill happens only when `refill_interval` seconds have
passed since the last one, and leaves at most the cap in the bucket; taking tokens moves them
from the bucket to those handed out. Since a refill needs a later reading than the last one,
the account holds whatever the order of the clock readings is; the bounds only ask that every
reading lies in the stretch of time they are about. A client's request that its window
refuses has its tokens taken all the same, so the tokens the client is let through are fewer
still than those its bucket hands out.

`refill_rate * refill_interval.count()` is computed in `uint32_t` by `refill`: the bounds in
tokens per second hold when that product does not wrap.
-/

namespace Dfs

/-- Whole seconds between readings `start ≤ last ≤ now` add up to at most those between `start`
and `now`: `duration_cast` truncates each difference. -/
theorem secondsBetween_add_le {start last now : ℤ} (first : start ≤ last)
    (second : last ≤ now) :
    secondsBetween start last + secondsBetween last now ≤ secondsBetween start now := by
  have truncates {earlier later : ℤ} (before : earlier ≤ later) :
      secondsBetween earlier later = (later - earlier) / 1000000000 :=
    Int.tdiv_eq_ediv (by omega) (by decide)
  rw [truncates first, truncates second, truncates (Int.le_trans first second)]
  omega

theorem secondsBetween_nonneg {earlier later : ℤ} (before : earlier ≤ later) :
    0 ≤ secondsBetween earlier later :=
  Int.tdiv_nonneg (by omega) (by decide)

/-- The whole seconds of a stretch of time within another are at most those of the other. -/
theorem secondsBetween_le {start madeAt last finish : ℤ} (first : start ≤ madeAt)
    (second : madeAt ≤ last) (third : last ≤ finish) :
    secondsBetween madeAt last ≤ secondsBetween start finish := by
  have := secondsBetween_add_le first second
  have := secondsBetween_add_le (Int.le_trans first second) third
  have := secondsBetween_nonneg first
  have := secondsBetween_nonneg third
  omega

/-- A positive number of whole seconds lies only between a reading and a later one. -/
theorem lt_of_secondsBetween_pos {earlier later : ℤ}
    (positive : 0 < secondsBetween earlier later) :
    earlier < later := by
  by_contra notLater
  have backwards : secondsBetween earlier later = -secondsBetween later earlier := by
    rw [secondsBetween, secondsBetween, ← Int.neg_tdiv, Int.neg_sub]
  have := secondsBetween_nonneg (Int.not_lt.mp notLater)
  omega

/-- `static_cast<uint32_t>` keeps a count that fits. -/
theorem toNat_staticCastUInt32 {count : ℤ} (nonneg : 0 ≤ count) (fits : count < UInt32.size) :
    ((staticCastUInt32 count).toNat : ℤ) = count := by
  rw [staticCastUInt32, Int.emod_eq_of_lt nonneg fits,
    UInt32.toNat_ofNat_of_lt (by omega), Int.toNat_of_nonneg nonneg]

namespace TokenBucket

/-- A refill either finds fewer than `refill_interval` seconds gone and changes nothing, or
leaves at most the cap `refill_rate * refill_interval` in the bucket, refilled at `now`. -/
theorem refill_cases (bucket : TokenBucket) (refillRate : UInt32) (refillInterval now : ℤ) :
    (secondsBetween bucket.lastRefill now < refillInterval ∧
        bucket.refill refillRate refillInterval now = bucket) ∨
      (refillInterval ≤ secondsBetween bucket.lastRefill now ∧
        (bucket.refill refillRate refillInterval now).lastRefill = now ∧
        (bucket.refill refillRate refillInterval now).tokens ≤
          staticCastUInt32 (refillRate.toNat * refillInterval)) := by
  dsimp only [refill]
  split
  · refine .inr ⟨‹_›, rfl, ?_⟩
    dsimp only
    split
    · exact UInt32.le_refl _
    · exact UInt32.not_lt.mp ‹_›
  · exact .inl ⟨Int.not_le.mp ‹_›, rfl⟩

/-- `try_consume` refills at `now` or not at all. -/
theorem lastRefill_tryConsume (bucket : TokenBucket) (tokensNeeded refillRate : UInt32)
    (refillInterval now : ℤ) :
    (bucket.tryConsume tokensNeeded refillRate refillInterval now).2.lastRefill = bucket.lastRefill ∨
      (bucket.tryConsume tokensNeeded refillRate refillInterval now).2.lastRefill = now := by
  have refilled : (bucket.tryConsume tokensNeeded refillRate refillInterval now).2.lastRefill =
      (bucket.refill refillRate refillInterval now).lastRefill := by
    dsimp only [tryConsume]
    split <;> rfl
  rw [refilled]
  rcases refill_cases bucket refillRate refillInterval now with ⟨-, same⟩ | ⟨-, atNow, -⟩
  · exact .inl (by rw [same])
  · exact .inr atNow

/-- A last refill no later than `finish` stays so after a `try_consume` reading the clock by
`finish`. -/
theorem lastRefill_tryConsume_le {bucket : TokenBucket} {finish now : ℤ}
    (refilledBy : bucket.lastRefill ≤ finish) (readBy : now ≤ finish)
    (tokensNeeded refillRate : UInt32) (refillInterval : ℤ) :
    (bucket.tryConsume tokensNeeded refillRate refillInterval now).2.lastRefill ≤ finish := by
  rcases lastRefill_tryConsume bucket tokensNeeded refillRate refillInterval now with kept | atNow
  · rwa [kept]
  · rwa [atNow]

section Account

variable {madeAt : ℤ} {capacity refillRate : UInt32} {refillInterval : ℤ}
  {bucket : TokenBucket} {granted : ℕ}

/-- The account of a bucket made at `madeAt` with `capacity` tokens: the tokens it has handed
out, `granted`, and those it holds are at most its capacity and one cap per `refill_interval`
whole seconds between `madeAt` and its last refill. -/
structure Spent (madeAt : ℤ) (capacity refillRate : UInt32) (refillInterval : ℤ)
    (bucket : TokenBucket) (granted : ℕ) : Prop where
  started : madeAt ≤ bucket.lastRefill
  within : (granted : ℤ) + bucket.tokens.toNat ≤ capacity.toNat +
    secondsBetween madeAt bucket.lastRefill / refillInterval *
      (staticCastUInt32 (refillRate.toNat * refillInterval)).toNat

theorem spent_new (madeAt : ℤ) (capacity refillRate : UInt32) (refillInterval : ℤ) :
    Spent madeAt capacity refillRate refillInterval (new capacity madeAt) 0 :=
  ⟨Int.le_refl madeAt, by simp [new, secondsBetween]⟩

theorem Spent.of_le (spent : Spent madeAt capacity refillRate refillInterval bucket granted)
    {fewer : ℕ} (le : fewer ≤ granted) :
    Spent madeAt capacity refillRate refillInterval bucket fewer :=
  ⟨spent.started, by have := spent.within; omega⟩

/-- A refill keeps the account: it needs `refill_interval` more whole seconds since the last
one, which pay for the cap it may fill the bucket to. -/
theorem Spent.refill (spent : Spent madeAt capacity refillRate refillInterval bucket granted)
    (positive : 0 < refillInterval) (now : ℤ) :
    Spent madeAt capacity refillRate refillInterval (bucket.refill refillRate refillInterval now)
      granted := by
  rcases refill_cases bucket refillRate refillInterval now with
    ⟨-, same⟩ | ⟨due, atNow, capped⟩
  · rwa [same]
  have later : bucket.lastRefill < now := lt_of_secondsBetween_pos (Int.lt_of_lt_of_le positive due)
  have periods : secondsBetween madeAt bucket.lastRefill / refillInterval + 1 ≤
      secondsBetween madeAt now / refillInterval := by
    rw [← Int.add_mul_ediv_right _ _ (Int.ne_of_gt positive), Int.one_mul]
    have := secondsBetween_add_le spent.started (Int.le_of_lt later)
    exact Int.ediv_le_ediv positive (by omega)
  refine ⟨by rw [atNow]; exact Int.le_trans spent.started (Int.le_of_lt later), ?_⟩
  rw [atNow]
  have cappedNat : ((bucket.refill refillRate refillInterval now).tokens.toNat : ℤ) ≤
      (staticCastUInt32 (refillRate.toNat * refillInterval)).toNat := by exact_mod_cast capped
  have more := Int.mul_le_mul_of_nonneg_right periods
    (Int.ofNat_nonneg (staticCastUInt32 (refillRate.toNat * refillInterval)).toNat)
  rw [Int.add_mul, Int.one_mul] at more
  have := spent.within
  omega

/-- `try_consume` keeps the account, with the tokens it takes added to those handed out. -/
theorem Spent.tryConsume (spent : Spent madeAt capacity refillRate refillInterval bucket granted)
    (positive : 0 < refillInterval) (tokensNeeded : UInt32) (now : ℤ) :
    Spent madeAt capacity refillRate refillInterval
      (bucket.tryConsume tokensNeeded refillRate refillInterval now).2
      (granted +
        if (bucket.tryConsume tokensNeeded refillRate refillInterval now).1 then
          tokensNeeded.toNat else 0) := by
  have refilled := spent.refill positive now
  by_cases enough : tokensNeeded ≤ (bucket.refill refillRate refillInterval now).tokens
  · rw [tryConsume_of_le enough]
    refine ⟨refilled.started, ?_⟩
    have taken :
        tokensNeeded.toNat ≤ (bucket.refill refillRate refillInterval now).tokens.toNat :=
      enough
    have := refilled.within
    simp only [if_true, UInt32.toNat_sub_of_le _ _ enough]
    omega
  · rw [tryConsume_of_lt (UInt32.not_le.mp enough)]
    simpa using refilled

/-- What a bucket made at a reading from `start` on has handed out by a last refill no later
than `finish`: its capacity, and one cap per `refill_interval` whole seconds between `start`
and `finish`. -/
theorem Spent.bound (spent : Spent madeAt capacity refillRate refillInterval bucket granted)
    (positive : 0 < refillInterval) {start finish : ℤ} (madeAfter : start ≤ madeAt)
    (refilledBy : bucket.lastRefill ≤ finish) :
    (granted : ℤ) ≤ capacity.toNat + secondsBetween start finish / refillInterval *
      (staticCastUInt32 (refillRate.toNat * refillInterval)).toNat := by
  have periods := Int.ediv_le_ediv positive (secondsBetween_le madeAfter spent.started refilledBy)
  have := Int.mul_le_mul_of_nonneg_right periods
    (Int.ofNat_nonneg (staticCastUInt32 (refillRate.toNat * refillInterval)).toNat)
  have := spent.within
  omega

/-- When `refill_rate * refill_interval` fits in `uint32_t`, one cap per whole interval is at
most `refill_rate` tokens a second. -/
theorem cap_per_interval_le (positive : 0 < refillInterval)
    (noWrap : refillRate.toNat * refillInterval < UInt32.size) (seconds : ℤ) :
    seconds / refillInterval * (staticCastUInt32 (refillRate.toNat * refillInterval)).toNat ≤
      refillRate.toNat * seconds := by
  rw [toNat_staticCastUInt32 (Int.mul_nonneg (Int.ofNat_nonneg _) (Int.le_of_lt positive)) noWrap,
    Int.mul_left_comm]
  exact Int.mul_le_mul_of_nonneg_left (Int.ediv_mul_le _ (Int.ne_of_gt positive))
    (Int.ofNat_nonneg _)

end Account

end TokenBucket

namespace ClientLimiter

/-- A request the limiter lets through has had its tokens taken from the bucket. -/
theorem tryConsume_of_isAllowed {c : ClientLimiter} {tokensNeeded : UInt32}
    {config : RateLimitConfig} {refillAt windowAt : ℤ}
    (allowed : (c.isAllowed tokensNeeded config refillAt windowAt).1 = true) :
    (c.bucket.tryConsume tokensNeeded config.maxRequestsPerSecond config.windowSize
      refillAt).1 = true := by
  revert allowed
  simp only [isAllowed]
  split_ifs <;> simp_all

/-- `is_allowed` of a client's limiter keeps its bucket's account, with the tokens of a request
it lets through added. -/
theorem spent_isAllowed {c : ClientLimiter} {madeAt : ℤ} {capacity : UInt32}
    {config : RateLimitConfig} {granted : ℕ}
    (spent : TokenBucket.Spent madeAt capacity config.maxRequestsPerSecond config.windowSize
      c.bucket granted)
    (positive : 0 < config.windowSize) (tokensNeeded : UInt32) (refillAt windowAt : ℤ) :
    TokenBucket.Spent madeAt capacity config.maxRequestsPerSecond config.windowSize
      (c.isAllowed tokensNeeded config refillAt windowAt).2.bucket
      (granted + if (c.isAllowed tokensNeeded config refillAt windowAt).1 then
        tokensNeeded.toNat else 0) := by
  rw [bucket_isAllowed]
  refine (spent.tryConsume positive tokensNeeded refillAt).of_le ?_
  cases allowed : (c.isAllowed tokensNeeded config refillAt windowAt).1
  · simp
  · simp [tryConsume_of_isAllowed allowed]

end ClientLimiter

/-- The tokens a call asks for: those of a request, none for the other calls. -/
def RateLimiterCall.tokensNeeded : RateLimiterCall → ℕ
  | .isAllowed _ tokensNeeded .. | .isAllowedGlobal tokensNeeded _ => tokensNeeded.toNat
  | .removeClient _ | .resetAllClients _ | .cleanupExpiredClients .. | .updateConfig .. => 0

/-- The clock readings a call makes. -/
def RateLimiterCall.readings : RateLimiterCall → List ℤ
  | .isAllowed _ _ bucketAt windowAt refillAt checkAt => [bucketAt, windowAt, refillAt, checkAt]
  | .isAllowedGlobal _ refillAt => [refillAt]
  | .removeClient _ => []
  | .resetAllClients now | .cleanupExpiredClients _ now | .updateConfig _ now => [now]

/-- The calls of `is_allowed(client_id, ...)` for the client `clientId`. -/
def RateLimiterCall.isRequestOf (clientId : String) : RateLimiterCall → Bool
  | .isAllowed id .. => id == clientId
  | _ => false

/-- The calls that may erase or replace the limiter of `clientId`: its `remove_client`, every
`cleanup_expired_clients`, and every `update_config`, which gives each client a new limiter
with a full bucket. -/
def RateLimiterCall.mayErase (clientId : String) : RateLimiterCall → Bool
  | .removeClient id => id == clientId
  | .cleanupExpiredClients .. | .updateConfig .. => true
  | _ => false

/-- The calls of `update_config`, which give the global bucket, when there is one, a new, full
bucket. -/
def RateLimiterCall.isUpdateConfig : RateLimiterCall → Bool
  | .updateConfig .. => true
  | _ => false

/-- The tokens of the requests a history let through. -/
def tokensGranted : List (Event RateLimiter RateLimiterCall (Option Bool)) → ℕ
  | [] => 0
  | e :: events => (if e.result = some true then e.call.tokensNeeded else 0) + tokensGranted events

namespace RateLimiter

section Global

variable {config : RateLimitConfig} {start finish : ℤ}

/-- With per-client limits off and a global bucket, `is_allowed(tokens_needed)` is the bucket's
`try_consume`, counted and tallied. -/
theorem isAllowedGlobal_of_some {r : RateLimiter} {bucket : TokenBucket}
    (global : r.config.enablePerClientLimits = false) (found : r.globalBucket = some bucket)
    (tokensNeeded : UInt32) (refillAt : ℤ) :
    r.isAllowedGlobal tokensNeeded refillAt =
      ((bucket.tryConsume tokensNeeded r.config.maxRequestsPerSecond r.config.windowSize
          refillAt).1,
        { r with
          totalRequests := r.totalRequests + 1
          globalBucket := some (bucket.tryConsume tokensNeeded r.config.maxRequestsPerSecond
            r.config.windowSize refillAt).2 }.tally
          (bucket.tryConsume tokensNeeded r.config.maxRequestsPerSecond r.config.windowSize
            refillAt).1) := by
  simp only [isAllowedGlobal, global, Bool.false_eq_true, if_false, found]

/-- The global bucket's account, for a limiter with configuration `config` whose global bucket
was made at `start` and refilled last by `finish`. -/
structure GlobalSpent (config : RateLimitConfig) (start finish : ℤ) (r : RateLimiter)
    (granted : ℕ) : Prop where
  config_eq : r.config = config
  bucket : ∃ bucket, r.globalBucket = some bucket ∧ bucket.lastRefill ≤ finish ∧
    TokenBucket.Spent start config.burstCapacity config.maxRequestsPerSecond config.windowSize
      bucket granted

theorem globalSpent_new (global : config.enablePerClientLimits = false)
    (startedBefore : start ≤ finish) : GlobalSpent config start finish (new config start) 0 :=
  ⟨rfl, _, by simp [new, global], startedBefore, TokenBucket.spent_new _ _ _ _⟩

/-- `is_allowed(tokens_needed)` keeps the account, with the tokens it lets through added, on a
limiter that differs from an accounted one in the counters only. -/
theorem GlobalSpent.isAllowedGlobal {r r' : RateLimiter} {granted : ℕ}
    (spent : GlobalSpent config start finish r granted)
    (global : config.enablePerClientLimits = false) (positive : 0 < config.windowSize)
    (sameConfig : r'.config = r.config) (sameBucket : r'.globalBucket = r.globalBucket)
    (tokensNeeded : UInt32) {refillAt : ℤ} (refillBy : refillAt ≤ finish) :
    GlobalSpent config start finish (r'.isAllowedGlobal tokensNeeded refillAt).2
      (granted + if (r'.isAllowedGlobal tokensNeeded refillAt).1 then tokensNeeded.toNat else 0) := by
  obtain ⟨configEq, bucket, found, refilledBy, account⟩ := spent
  rw [isAllowedGlobal_of_some (sameConfig.trans configEq ▸ global) (sameBucket.trans found),
    sameConfig, configEq]
  exact ⟨by simp [sameConfig, configEq], _, by simp,
    TokenBucket.lastRefill_tryConsume_le refilledBy refillBy _ _ _,
    account.tryConsume positive _ _⟩

/-- Every call but `update_config`, with its readings by `finish`, keeps the account, with the
tokens it lets through added. -/
theorem GlobalSpent.call {r : RateLimiter} {granted : ℕ}
    (spent : GlobalSpent config start finish r granted)
    (global : config.enablePerClientLimits = false) (positive : 0 < config.windowSize)
    (c : RateLimiterCall) (kept : c.isUpdateConfig = false)
    (readBy : ∀ t ∈ c.readings, t ≤ finish) :
    GlobalSpent config start finish (r.call c).2
      (granted + if (r.call c).1 = some true then c.tokensNeeded else 0) := by
  cases c with
  | isAllowed clientId tokensNeeded bucketAt windowAt refillAt checkAt =>
    simp only [RateLimiter.call, Option.some.injEq, RateLimiterCall.tokensNeeded,
      isAllowed_of_global r clientId tokensNeeded bucketAt windowAt refillAt checkAt
        (spent.config_eq ▸ global)]
    refine spent.isAllowedGlobal global positive ?_ ?_ tokensNeeded
      (readBy refillAt (by simp [RateLimiterCall.readings])) <;> rfl
  | isAllowedGlobal tokensNeeded refillAt =>
    simp only [RateLimiter.call, Option.some.injEq, RateLimiterCall.tokensNeeded]
    exact spent.isAllowedGlobal global positive rfl rfl tokensNeeded
      (readBy refillAt (by simp [RateLimiterCall.readings]))
  | removeClient _ | resetAllClients _ | cleanupExpiredClients _ _ =>
    simpa [RateLimiter.call] using ⟨spent.config_eq, spent.bucket⟩
  | updateConfig _ _ => simp [RateLimiterCall.isUpdateConfig] at kept

/-- The account after a sequence of calls without `update_config`, with their readings by
`finish`, with the tokens of the requests let through added. -/
theorem GlobalSpent.run (global : config.enablePerClientLimits = false)
    (positive : 0 < config.windowSize) :
    ∀ (calls : List RateLimiterCall) (r : RateLimiter) (granted : ℕ),
      (∀ c ∈ calls, c.isUpdateConfig = false) →
      (∀ c ∈ calls, ∀ t ∈ c.readings, t ≤ finish) → GlobalSpent config start finish r granted →
      GlobalSpent config start finish (Dfs.run RateLimiter.call r calls)
        (granted + tokensGranted (trace RateLimiter.call r calls))
  | [], _, granted, _, _, spent => spent
  | c :: calls, r, granted, kept, endsBy, spent => by
    have final := GlobalSpent.run global positive calls _ _
      (fun c' mem => kept c' (List.mem_cons_of_mem _ mem))
      (fun c' mem => endsBy c' (List.mem_cons_of_mem _ mem))
      (spent.call global positive c (kept c (List.mem_cons_self _ _))
        (endsBy c (List.mem_cons_self _ _)))
    simpa only [trace, tokensGranted, Nat.add_assoc] using final

end Global

/-- With per-client limits off, the requests a `RateLimiter` lets through over any run without
`update_config` whose clock readings are at most `finish` ask for at most `burst_capacity`
tokens and `max_requests_per_second` tokens for every whole second between its construction
and `finish`, as long as `max_requests_per_second * window_size` fits in `uint32_t`. -/
theorem global_limit_admits_at_most (config : RateLimitConfig) (start finish : ℤ)
    (calls : List RateLimiterCall) (global : config.enablePerClientLimits = false)
    (positive : 0 < config.windowSize)
    (noWrap : config.maxRequestsPerSecond.toNat * config.windowSize < UInt32.size)
    (startedBefore : start ≤ finish) (kept : ∀ c ∈ calls, c.isUpdateConfig = false)
    (endsBy : ∀ c ∈ calls, ∀ t ∈ c.readings, t ≤ finish) :
    (tokensGranted (trace call (new config start) calls) : ℤ) ≤
      config.burstCapacity.toNat + config.maxRequestsPerSecond.toNat * secondsBetween start finish := by
  obtain ⟨-, bucket, -, refilledBy, spent⟩ :=
    GlobalSpent.run global positive calls _ 0 kept endsBy (globalSpent_new global startedBefore)
  calc (tokensGranted (trace call (new config start) calls) : ℤ)
      ≤ config.burstCapacity.toNat + secondsBetween start finish / config.windowSize *
          (staticCastUInt32 (config.maxRequestsPerSecond.toNat * config.windowSize)).toNat := by
        simpa using spent.bound positive (Int.le_refl start) refilledBy
    _ ≤ config.burstCapacity.toNat +
          config.maxRequestsPerSecond.toNat * secondsBetween start finish :=
        Int.add_le_add_left (TokenBucket.cap_per_interval_le positive noWrap _) _

/-- Five tokens at the start and ten a second for two seconds: three requests of five, ten and
ten tokens a second apart are all let through, and they reach the bound. -/
theorem global_limit_admits_at_most_over_two_seconds :
    let config : RateLimitConfig := ⟨10, 5, 1, false⟩
    let calls : List RateLimiterCall :=
      [.isAllowedGlobal 5 0, .isAllowed "a" 10 1000000000 1000000000 1000000000 1000000000,
        .isAllowedGlobal 10 2000000000]
    config.enablePerClientLimits = false ∧ 0 < config.windowSize ∧
      config.maxRequestsPerSecond.toNat * config.windowSize < UInt32.size ∧ (0 : ℤ) ≤ 2000000000 ∧
      (∀ c ∈ calls, c.isUpdateConfig = false) ∧ (∀ c ∈ calls, ∀ t ∈ c.readings, t ≤ 2000000000) ∧
      (tokensGranted (trace call (new config 0) calls) : ℤ) ≤
        config.burstCapacity.toNat + config.maxRequestsPerSecond.toNat * secondsBetween 0 2000000000 :=
  ⟨rfl, by decide, by decide, by decide, by decide, by decide,
    global_limit_admits_at_most _ _ _ _ rfl (by decide) (by decide) (by decide) (by decide)
      (by decide)⟩

/-- The bound is reached: the three requests above are let through, 25 tokens in all. -/
example : tokensGranted (trace call (new ⟨10, 5, 1, false⟩ 0)
    [.isAllowedGlobal 5 0, .isAllowed "a" 10 1000000000 1000000000 1000000000 1000000000,
      .isAllowedGlobal 10 2000000000]) = 25 := by
  decide

/-- An `update_config` refills the global bucket: with one token of capacity, two requests of
one token at the same instant are both let through around it. -/
example : tokensGranted (trace call (new ⟨1, 1, 1, false⟩ 0)
    [.isAllowedGlobal 1 0, .updateConfig ⟨1, 1, 1, false⟩ 0, .isAllowedGlobal 1 0]) = 2 := by
  decide

section PerClient

variable {config : RateLimitConfig} {start finish : ℤ} {clientId : String}

@[simp]
theorem clientLimiters_tally (r : RateLimiter) (allowed : Bool) :
    (r.tally allowed).clientLimiters = r.clientLimiters := by cases allowed <;> rfl

/-- With per-client limits on, `is_allowed(client_id, ...)` is the `is_allowed` of the client's
limiter, or of a new one when there is none, stored back in its place. -/
theorem isAllowed_eq_limiter {r : RateLimiter} (perClient : r.config.enablePerClientLimits = true)
    (clientId : String) (tokensNeeded : UInt32) (bucketAt windowAt refillAt checkAt : ℤ) :
    let limiter := (r.clientLimiters clientId).getD
      (ClientLimiter.new r.config.burstCapacity bucketAt windowAt)
    (r.isAllowed clientId tokensNeeded bucketAt windowAt refillAt checkAt).1 =
        (limiter.isAllowed tokensNeeded r.config refillAt checkAt).1 ∧
      (r.isAllowed clientId tokensNeeded bucketAt windowAt refillAt checkAt).2.config = r.config ∧
      (r.isAllowed clientId tokensNeeded bucketAt windowAt refillAt checkAt).2.clientLimiters =
        Function.update r.clientLimiters clientId
          (some (limiter.isAllowed tokensNeeded r.config refillAt checkAt).2) := by
  simp only [isAllowed, perClient, Bool.not_true, Bool.false_eq_true, if_false, getClientLimiter]
  cases r.clientLimiters clientId <;> simp [Function.update_idem]

/-- The account of the limiter of `clientId`, on a limiter with configuration `config`: with no
limiter, nothing was let through to the client; a limiter's bucket was made at a reading from
`start` on, was refilled last by `finish`, and keeps its account of the client's tokens. -/
structure ClientSpent (config : RateLimitConfig) (start finish : ℤ) (clientId : String)
    (r : RateLimiter) (granted : ℕ) : Prop where
  config_eq : r.config = config
  unmade : (r.clientLimiters clientId).map (·.bucket) = none → granted = 0
  bucket : ∀ bucket ∈ (r.clientLimiters clientId).map (·.bucket), ∃ madeAt, start ≤ madeAt ∧
    bucket.lastRefill ≤ finish ∧
    TokenBucket.Spent madeAt config.burstCapacity config.maxRequestsPerSecond config.windowSize
      bucket granted

theorem clientSpent_new (config : RateLimitConfig) (now : ℤ) :
    ClientSpent config start finish clientId (new config now) 0 :=
  ⟨rfl, fun _ => rfl, fun _ made => by simp [new] at made⟩

/-- A limiter with the same configuration and the same bucket for `clientId` keeps the
account. -/
theorem ClientSpent.of_same {r r' : RateLimiter} {granted : ℕ}
    (spent : ClientSpent config start finish clientId r granted)
    (sameConfig : r'.config = r.config)
    (sameBucket : (r'.clientLimiters clientId).map (·.bucket) =
      (r.clientLimiters clientId).map (·.bucket)) :
    ClientSpent config start finish clientId r' granted :=
  ⟨sameConfig.trans spent.config_eq, sameBucket ▸ spent.unmade, sameBucket ▸ spent.bucket⟩

/-- The bucket a request of `clientId` meets, the client's or a new one made at `bucketAt`,
keeps the account. -/
theorem ClientSpent.current {r : RateLimiter} {granted : ℕ}
    (spent : ClientSpent config start finish clientId r granted) {bucketAt : ℤ}
    (madeFrom : start ≤ bucketAt) (madeBy : bucketAt ≤ finish) (windowAt : ℤ) :
    ∃ madeAt, start ≤ madeAt ∧
      ((r.clientLimiters clientId).getD
          (ClientLimiter.new config.burstCapacity bucketAt windowAt)).bucket.lastRefill ≤ finish ∧
      TokenBucket.Spent madeAt config.burstCapacity config.maxRequestsPerSecond config.windowSize
        ((r.clientLimiters clientId).getD
          (ClientLimiter.new config.burstCapacity bucketAt windowAt)).bucket granted := by
  cases found : r.clientLimiters clientId with
  | none =>
    obtain rfl : granted = 0 := spent.unmade (by simp [found])
    exact ⟨bucketAt, madeFrom, madeBy, TokenBucket.spent_new _ _ _ _⟩
  | some limiter => exact spent.bucket limiter.bucket (by simp [found])

/-- Every call that does not erase the limiter of `clientId`, with its readings from `start`
to `finish`, keeps the account, with the tokens it lets through to `clientId` added. -/
theorem ClientSpent.call {r : RateLimiter} {granted : ℕ}
    (spent : ClientSpent config start finish clientId r granted)
    (perClient : config.enablePerClientLimits = true) (positive : 0 < config.windowSize)
    (c : RateLimiterCall) (kept : c.mayErase clientId = false)
    (readWithin : ∀ t ∈ c.readings, start ≤ t ∧ t ≤ finish) :
    ClientSpent config start finish clientId (r.call c).2
      (granted + if c.isRequestOf clientId then
        (if (r.call c).1 = some true then c.tokensNeeded else 0) else 0) := by
  have enabled : r.config.enablePerClientLimits = true := spent.config_eq ▸ perClient
  cases c with
  | isAllowed id tokensNeeded bucketAt windowAt refillAt checkAt =>
    obtain ⟨result, configSame, stored⟩ :=
      isAllowed_eq_limiter enabled id tokensNeeded bucketAt windowAt refillAt checkAt
    by_cases same : id = clientId
    · subst same
      have bucketRead := readWithin bucketAt (by simp [RateLimiterCall.readings])
      obtain ⟨madeAt, madeFrom, refilledBy, account⟩ :=
        spent.current bucketRead.1 bucketRead.2 windowAt
      rw [spent.config_eq] at result stored
      simp only [RateLimiter.call, RateLimiterCall.isRequestOf, beq_self_eq_true, if_true,
        Option.some.injEq, RateLimiterCall.tokensNeeded, result]
      refine ⟨configSame.trans spent.config_eq, by simp [stored], fun bucket made => ?_⟩
      simp only [stored, Function.update_same, Option.map_some', Option.mem_def,
        Option.some.injEq] at made
      subst made
      refine ⟨madeAt, madeFrom, ?_, ClientLimiter.spent_isAllowed account positive _ _ _⟩
      rw [ClientLimiter.bucket_isAllowed]
      exact TokenBucket.lastRefill_tryConsume_le refilledBy
        (readWithin refillAt (by simp [RateLimiterCall.readings])).2 _ _ _
    · simp only [RateLimiterCall.isRequestOf, beq_iff_eq, same, if_false, Nat.add_zero]
      exact spent.of_same configSame (by simp [RateLimiter.call, stored, Ne.symm same])
  | isAllowedGlobal tokensNeeded refillAt =>
    simpa [RateLimiter.call, RateLimiterCall.isRequestOf,
      isAllowedGlobal_of_perClient r tokensNeeded refillAt enabled] using spent
  | removeClient id =>
    have differs : clientId ≠ id := fun same => by
      simp [RateLimiterCall.mayErase, same] at kept
    exact spent.of_same rfl (by simp [RateLimiter.call, removeClient, differs])
  | resetAllClients now =>
    exact spent.of_same rfl (by
      simp [RateLimiter.call, resetAllClients, Option.map_map, Function.comp_def,
        ClientLimiter.resetWindow])
  | cleanupExpiredClients _ _ | updateConfig _ _ => simp [RateLimiterCall.mayErase] at kept

/-- The account after a sequence of calls that never erase the limiter of `clientId`, with
their readings from `start` to `finish`, with the tokens let through to `clientId` added. -/
theorem ClientSpent.run (perClient : config.enablePerClientLimits = true)
    (positive : 0 < config.windowSize) :
    ∀ (calls : List RateLimiterCall) (r : RateLimiter) (granted : ℕ),
      (∀ c ∈ calls, c.mayErase clientId = false) →
      (∀ c ∈ calls, ∀ t ∈ c.readings, start ≤ t ∧ t ≤ finish) →
      ClientSpent config start finish clientId r granted →
      ClientSpent config start finish clientId (Dfs.run RateLimiter.call r calls)
        (granted + tokensGranted
          ((trace RateLimiter.call r calls).filter (·.call.isRequestOf clientId)))
  | [], _, granted, _, _, spent => spent
  | c :: calls, r, granted, kept, readWithin, spent => by
    have final := ClientSpent.run perClient positive calls _ _
      (fun c' mem => kept c' (List.mem_cons_of_mem _ mem))
      (fun c' mem => readWithin c' (List.mem_cons_of_mem _ mem))
      (spent.call perClient positive c (kept c (List.mem_cons_self _ _))
        (readWithin c (List.mem_cons_self _ _)))
    cases request : c.isRequestOf clientId <;>
      simpa only [trace, List.filter_cons, request, tokensGranted, if_true, if_false,
        Bool.false_eq_true, Nat.add_zero, Nat.add_assoc] using final

end PerClient

/-- With per-client limits on, the requests of a client whose limiter is never erased or
replaced ask, over
any run whose clock readings lie between `start` and `finish`, for at most `burst_capacity`
tokens and `max_requests_per_second` tokens for every whole second between `start` and
`finish`, as long as `max_requests_per_second * window_size` fits in `uint32_t`. -/
theorem client_limit_admits_at_most (config : RateLimitConfig) (start finish : ℤ)
    (clientId : String) (calls : List RateLimiterCall)
    (perClient : config.enablePerClientLimits = true) (positive : 0 < config.windowSize)
    (noWrap : config.maxRequestsPerSecond.toNat * config.windowSize < UInt32.size)
    (startedBefore : start ≤ finish) (kept : ∀ c ∈ calls, c.mayErase clientId = false)
    (readWithin : ∀ c ∈ calls, ∀ t ∈ c.readings, start ≤ t ∧ t ≤ finish) :
    (tokensGranted ((trace call (new config start) calls).filter (·.call.isRequestOf clientId)) :
        ℤ) ≤
      config.burstCapacity.toNat + config.maxRequestsPerSecond.toNat * secondsBetween start finish := by
  have spent := ClientSpent.run perClient positive calls _ 0 kept readWithin
    (clientSpent_new config start : ClientSpent config start finish clientId _ 0)
  rw [Nat.zero_add] at spent
  have perSecond := TokenBucket.cap_per_interval_le positive noWrap (secondsBetween start finish)
  cases made :
      (Dfs.run call (new config start) calls |>.clientLimiters clientId).map (·.bucket) with
  | none =>
    rw [spent.unmade made]
    have := Int.mul_nonneg (Int.ofNat_nonneg config.maxRequestsPerSecond.toNat)
      (secondsBetween_nonneg startedBefore)
    omega
  | some bucket =>
    obtain ⟨madeAt, madeFrom, refilledBy, account⟩ := spent.bucket bucket made
    have := account.bound positive madeFrom refilledBy
    omega

/-- Five tokens at the start and ten a second: the two requests of client "a", one second
apart, are let through, 15 tokens, while client "b" draws on a bucket of its own and every
window is started over in between. -/
theorem client_limit_admits_at_most_over_one_second :
    let config : RateLimitConfig := ⟨10, 5, 1, true⟩
    let calls : List RateLimiterCall :=
      [.isAllowed "a" 5 0 0 0 0, .isAllowed "b" 5 0 0 0 0, .resetAllClients 500000000,
        .isAllowed "a" 10 0 0 1000000000 1000000000]
    config.enablePerClientLimits = true ∧ 0 < config.windowSize ∧
      config.maxRequestsPerSecond.toNat * config.windowSize < UInt32.size ∧ (0 : ℤ) ≤ 1000000000 ∧
      (∀ c ∈ calls, c.mayErase "a" = false) ∧
      (∀ c ∈ calls, ∀ t ∈ c.readings, 0 ≤ t ∧ t ≤ 1000000000) ∧
      (tokensGranted ((trace call (new config 0) calls).filter (·.call.isRequestOf "a")) : ℤ) ≤
        config.burstCapacity.toNat + config.maxRequestsPerSecond.toNat * secondsBetween 0 1000000000 :=
  ⟨rfl, by decide, by decide, by decide, by decide, by decide,
    client_limit_admits_at_most _ _ _ _ _ rfl (by decide) (by decide) (by decide) (by decide)
      (by decide)⟩

/-- The bound is reached: both requests of client "a" above are let through, 15 tokens. -/
example : tokensGranted ((trace call (new ⟨10, 5, 1, true⟩ 0)
    [.isAllowed "a" 5 0 0 0 0, .isAllowed "b" 5 0 0 0 0, .resetAllClients 500000000,
      .isAllowed "a" 10 0 0 1000000000 1000000000]).filter (·.call.isRequestOf "a")) = 15 := by
  decide

end RateLimiter

end Dfs
