import Dfs.Basic

/-!
# The token bucket and the client limiter

`RateLimiter::ClientLimiter` of `utils/rate_limiter.cpp` admits a request in two stages.
`TokenBucket::try_consume` first refills the bucket for the whole seconds elapsed since its
last refill, capped at `max_requests_per_second * window_size`, and takes the tokens the
request needs when there are enough. Then the request-count window is started over when it is
`window_size` old, and the request is refused when the window has already counted
`max_requests_per_second` of them.

The second stage runs after the first has taken the tokens, and a refusal there does not give
them back: a request the window refuses has still consumed its tokens
(`isAllowed_denied_after_consuming`). Only a refusal by the bucket itself leaves the bucket as the
refill alone would (`bucket_isAllowed`).

The clock is `std::chrono::steady_clock`, whose period is a nanosecond: readings are integers in
nanoseconds, and `duration_cast<seconds>` truncates a difference toward zero. Each clock
reading is an argument: `refill` reads the clock once, and `is_allowed` once more for the
window. The counts of `std::chrono::seconds` are exact integers; `static_cast<uint32_t>` and
the conversions to `uint32_t` take them modulo `2 ^ 32`.
-/

namespace Dfs

/-- The ticks of `std::chrono::steady_clock` in a second. -/
def ticksPerSecond : ℤ := 1000000000

/-- `std::chrono::duration_cast<std::chrono::seconds>(later - earlier).count()`. -/
def secondsBetween (earlier later : ℤ) : ℤ := (later - earlier).tdiv ticksPerSecond

/-- `static_cast<uint32_t>` of a signed count, and the implicit conversion of one to
`uint32_t`: the count modulo `2 ^ 32`. -/
def staticCastUInt32 (count : ℤ) : UInt32 := UInt32.ofNat (count % UInt32.size).toNat

/-- `RateLimiter::RateLimitConfig`; the window is a count of seconds. -/
structure RateLimitConfig where
  maxRequestsPerSecond : UInt32
  burstCapacity : UInt32
  windowSize : ℤ
  enablePerClientLimits : Bool

/-- `RateLimiter::TokenBucket`; the mutex is left out, each call being one step. -/
structure TokenBucket where
  tokens : UInt32
  lastRefill : ℤ

namespace TokenBucket

/-- `TokenBucket(capacity)`, reading the clock at `now`. -/
def new (capacity : UInt32) (now : ℤ) : TokenBucket := ⟨capacity, now⟩

/-- `refill(refill_rate, refill_interval)`, reading the clock at `now`: after `refill_interval`
seconds or more, the elapsed seconds times the rate are added, in `uint32_t`, and the result
is capped by `std::min` at `refill_rate * refill_interval`. -/
def refill (bucket : TokenBucket) (refillRate : UInt32) (refillInterval now : ℤ) : TokenBucket :=
  let elapsed := secondsBetween bucket.lastRefill now
  if elapsed ≥ refillInterval then
    let tokensToAdd := staticCastUInt32 elapsed * refillRate
    let maxTokens := staticCastUInt32 (refillRate.toNat * refillInterval)
    let sum := bucket.tokens + tokensToAdd
    ⟨if maxTokens < sum then maxTokens else sum, now⟩
  else bucket

/-- `try_consume(tokens_needed, refill_rate, refill_interval)`, the refill reading the clock at
`now`: the tokens are taken when the refilled bucket holds enough of them. -/
def tryConsume (bucket : TokenBucket) (tokensNeeded refillRate : UInt32)
    (refillInterval now : ℤ) : Bool × TokenBucket :=
  let bucket := bucket.refill refillRate refillInterval now
  if bucket.tokens ≥ tokensNeeded then
    (true, { bucket with tokens := bucket.tokens - tokensNeeded })
  else (false, bucket)

/-- A refill that takes the tokens. -/
theorem tryConsume_of_le {bucket : TokenBucket} {tokensNeeded refillRate : UInt32}
    {refillInterval now : ℤ}
    (enough : tokensNeeded ≤ (bucket.refill refillRate refillInterval now).tokens) :
    bucket.tryConsume tokensNeeded refillRate refillInterval now =
      (true, { bucket.refill refillRate refillInterval now with
        tokens := (bucket.refill refillRate refillInterval now).tokens - tokensNeeded }) :=
  if_pos enough

/-- A refill that finds too few tokens leaves the refilled bucket. -/
theorem tryConsume_of_lt {bucket : TokenBucket} {tokensNeeded refillRate : UInt32}
    {refillInterval now : ℤ}
    (short : (bucket.refill refillRate refillInterval now).tokens < tokensNeeded) :
    bucket.tryConsume tokensNeeded refillRate refillInterval now =
      (false, bucket.refill refillRate refillInterval now) :=
  if_neg (UInt32.not_le.mpr short)

end TokenBucket

/-- `RateLimiter::ClientLimiter`: a token bucket and a request-count window. -/
structure ClientLimiter where
  bucket : TokenBucket
  requestCount : UInt32
  windowStart : ℤ

namespace ClientLimiter

/-- `ClientLimiter(capacity)`: the bucket's constructor reads the clock at `bucketAt`, the
window's start at `windowAt`. -/
def new (capacity : UInt32) (bucketAt windowAt : ℤ) : ClientLimiter :=
  ⟨TokenBucket.new capacity bucketAt, 0, windowAt⟩

/-- `reset_window()`, reading the clock at `now`. -/
def resetWindow (c : ClientLimiter) (now : ℤ) : ClientLimiter :=
  { c with requestCount := 0, windowStart := now }

/-- The window step of `is_allowed`, reading the clock at `now`: a window `window_size` seconds
old or more starts over. -/
def slideWindow (c : ClientLimiter) (windowSize now : ℤ) : ClientLimiter :=
  if secondsBetween c.windowStart now ≥ windowSize then c.resetWindow now else c

/-- `is_allowed(tokens_needed, config)`: `try_consume` reads the clock at `refillAt`, the window
step at `windowAt`. -/
def isAllowed (c : ClientLimiter) (tokensNeeded : UInt32) (config : RateLimitConfig)
    (refillAt windowAt : ℤ) : Bool × ClientLimiter :=
  let consumed :=
    c.bucket.tryConsume tokensNeeded config.maxRequestsPerSecond config.windowSize refillAt
  if !consumed.1 then (false, { c with bucket := consumed.2 })
  else
    let c := { c with bucket := consumed.2 }.slideWindow config.windowSize windowAt
    if c.requestCount ≥ config.maxRequestsPerSecond then (false, c)
    else (true, { c with requestCount := c.requestCount + 1 })

@[simp]
theorem bucket_slideWindow (c : ClientLimiter) (windowSize now : ℤ) :
    (c.slideWindow windowSize now).bucket = c.bucket := by
  unfold slideWindow
  split <;> rfl

@[simp]
theorem requestCount_slideWindow_bucket (c : ClientLimiter) (bucket : TokenBucket)
    (windowSize now : ℤ) :
    ({ c with bucket := bucket }.slideWindow windowSize now).requestCount =
      (c.slideWindow windowSize now).requestCount := by
  unfold slideWindow resetWindow
  split <;> rfl

/-- Whatever `is_allowed` returns, the bucket is the one `try_consume` left. -/
theorem bucket_isAllowed (c : ClientLimiter) (tokensNeeded : UInt32) (config : RateLimitConfig)
    (refillAt windowAt : ℤ) :
    (c.isAllowed tokensNeeded config refillAt windowAt).2.bucket =
      (c.bucket.tryConsume tokensNeeded config.maxRequestsPerSecond config.windowSize
        refillAt).2 := by
  simp only [isAllowed]
  split_ifs <;> simp

/-- `is_allowed` refuses exactly when the refilled bucket holds too few tokens or the window,
after its step, has counted `max_requests_per_second` requests. -/
theorem isAllowed_eq_false_iff (c : ClientLimiter) (tokensNeeded : UInt32)
    (config : RateLimitConfig) (refillAt windowAt : ℤ) :
    (c.isAllowed tokensNeeded config refillAt windowAt).1 = false ↔
      (c.bucket.refill config.maxRequestsPerSecond config.windowSize refillAt).tokens <
          tokensNeeded ∨
        config.maxRequestsPerSecond ≤
          (c.slideWindow config.windowSize windowAt).requestCount := by
  by_cases enough :
      tokensNeeded ≤ (c.bucket.refill config.maxRequestsPerSecond config.windowSize refillAt).tokens
  · by_cases full : config.maxRequestsPerSecond ≤ (c.slideWindow config.windowSize windowAt).requestCount
    · simp [isAllowed, TokenBucket.tryConsume_of_le enough, full]
    · simp [isAllowed, TokenBucket.tryConsume_of_le enough, full, UInt32.not_lt.mpr enough]
  · simp [isAllowed, TokenBucket.tryConsume_of_lt (UInt32.not_le.mp enough),
      UInt32.not_le.mp enough]

/-- A request the bucket admits and the window refuses is refused with its tokens taken: the
bucket afterwards holds `tokens_needed` fewer tokens than the refill alone leaves. -/
theorem isAllowed_denied_after_consuming (config : RateLimitConfig) (c : ClientLimiter)
    {tokensNeeded : UInt32} (refillAt windowAt : ℤ) (positive : 0 < tokensNeeded)
    (enough : tokensNeeded ≤
      (c.bucket.refill config.maxRequestsPerSecond config.windowSize refillAt).tokens)
    (full : config.maxRequestsPerSecond ≤
      (c.slideWindow config.windowSize windowAt).requestCount) :
    let refilled : TokenBucket :=
      c.bucket.refill config.maxRequestsPerSecond config.windowSize refillAt
    (c.isAllowed tokensNeeded config refillAt windowAt).1 = false ∧
      (c.isAllowed tokensNeeded config refillAt windowAt).2.bucket.tokens =
        refilled.tokens - tokensNeeded ∧
      (c.isAllowed tokensNeeded config refillAt windowAt).2.bucket.tokens ≠ refilled.tokens := by
  intro refilled
  have taken : (c.isAllowed tokensNeeded config refillAt windowAt).2.bucket.tokens =
      refilled.tokens - tokensNeeded := by
    rw [bucket_isAllowed, TokenBucket.tryConsume_of_le enough]
  refine ⟨(isAllowed_eq_false_iff c tokensNeeded config refillAt windowAt).mpr (.inr full),
    taken, fun same => ?_⟩
  have lowered := congrArg UInt32.toNat (taken.symm.trans same)
  rw [UInt32.toNat_sub_of_le _ _ enough] at lowered
  exact (Nat.sub_lt (Nat.lt_of_lt_of_le positive enough) positive).ne lowered

/-- Two requests of one token each in the same instant, from a fresh limiter with two tokens,
under one request per one-second window: the second is refused by the window with the last token
taken. -/
theorem isAllowed_denied_after_consuming_second :
    let config : RateLimitConfig := ⟨1, 2, 1, true⟩
    let c : ClientLimiter := ((new 2 0 0).isAllowed 1 config 0 0).2
    0 < (1 : UInt32) ∧
      1 ≤ (c.bucket.refill config.maxRequestsPerSecond config.windowSize 0).tokens ∧
      config.maxRequestsPerSecond ≤ (c.slideWindow config.windowSize 0).requestCount ∧
      ((c.isAllowed 1 config 0 0).1 = false ∧
        (c.isAllowed 1 config 0 0).2.bucket.tokens =
          (c.bucket.refill config.maxRequestsPerSecond config.windowSize 0).tokens - 1 ∧
        (c.isAllowed 1 config 0 0).2.bucket.tokens ≠
          (c.bucket.refill config.maxRequestsPerSecond config.windowSize 0).tokens) :=
  ⟨by decide, by decide, by decide,
    isAllowed_denied_after_consuming _ _ 0 0 (by decide) (by decide) (by decide)⟩

end ClientLimiter

end Dfs
