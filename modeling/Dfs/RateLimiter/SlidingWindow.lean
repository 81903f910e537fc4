import Dfs.History

/-!
# The sliding-window rate limiter

`SlidingWindowRateLimiter` of `utils/rate_limiter.cpp` keeps, for each client, the clock
readings of the requests it let through (`RequestWindow`). `is_allowed(client_id)` reads the
clock three times: `cleanup_old_requests` drops the requests at or before `now - window_size`,
`get_request_count` counts in a `uint32_t` those after `now - window_size`, and when that count
is below `max_requests_per_window_` the request is let through and `add_request` records the
clock again.

The clock is `std::chrono::steady_clock`: readings are integers in its ticks, and the window is
the same duration in those ticks. `now - window_size` converts the window, a count of seconds,
to the clock's nanoseconds in `int64_t`, and a window of more than about 292 years overflows
there; the model's readings are unbounded integers, so it leaves that conversion out and is
about windows below that bound. A call carries the readings it makes (`LimiterCall`); a
refused `is_allowed` makes no third reading, and any value between its neighbours stands for
it. The map from client ids to windows is a function: an absent entry behaves as the empty
window that `is_allowed` creates for it. `cleanup_old_requests()` reads the clock once per
window under the lock; the model gives every window the same reading.

What the limiter is for is stated over the requests it lets through, each with the time
`add_request` recorded (`admittedAfter`): when the clock never goes back, no window
`(s - window_size, s]` holds more than `max_requests_per_window_` of them for one client
(`admitted_within_window`). The invariant behind it (`Tracks`) says that a window holds exactly
the client's admitted requests after the cutoff of its last cleanup, so that the count
`is_allowed` takes is the number of admitted requests in the window ending at its reading,
which the bound keeps below `2 ^ 32`.
-/

namespace Dfs

/-- `SlidingWindowRateLimiter::RequestWindow`: the recorded clock readings, oldest first. -/
structure RequestWindow where
  requests : List ℤ

namespace RequestWindow

/-- `add_request()`, the clock reading `now`. -/
def addRequest (w : RequestWindow) (now : ℤ) : RequestWindow :=
  ⟨w.requests ++ [now]⟩

/-- `get_request_count(window_size)`, the clock reading `now`: the requests after the cutoff,
counted in a `uint32_t`. -/
def getRequestCount (w : RequestWindow) (windowSize now : ℤ) : UInt32 :=
  w.requests.foldl
    (fun count requestTime => if requestTime > now - windowSize then count + 1 else count) 0

/-- `cleanup_old_requests(window_size)`, the clock reading `now`: `remove_if` of the requests at
or before the cutoff. -/
def cleanupOldRequests (w : RequestWindow) (windowSize now : ℤ) : RequestWindow :=
  ⟨w.requests.filter fun requestTime => !decide (requestTime ≤ now - windowSize)⟩

/-- The counting loop of `get_request_count`, from any count. -/
theorem toNat_foldl_count (cutoff : ℤ) :
    ∀ (requests : List ℤ) (count : UInt32),
      (requests.foldl (fun count requestTime =>
          if requestTime > cutoff then count + 1 else count) count).toNat =
        (count.toNat + (requests.filter (cutoff < ·)).length) % 2 ^ 32
  | [], count => by simpa using (Nat.mod_eq_of_lt count.toBitVec.isLt).symm
  | requestTime :: requests, count => by
    rw [List.foldl_cons, toNat_foldl_count cutoff requests, List.filter_cons]
    by_cases after : cutoff < requestTime
    · have bump : (count + 1).toNat = (count.toNat + 1) % 2 ^ 32 := BitVec.toNat_add _ _
      simp only [gt_iff_lt, after, if_true, decide_True, List.length_cons, bump, Nat.add_mod_mod]
      omega
    · simp [after]

/-- `get_request_count` is the number of requests after the cutoff, modulo `2 ^ 32`. -/
theorem toNat_getRequestCount (w : RequestWindow) (windowSize now : ℤ) :
    (w.getRequestCount windowSize now).toNat =
      (w.requests.filter (now - windowSize < ·)).length % 2 ^ 32 := by
  simpa using toNat_foldl_count (now - windowSize) w.requests 0

/-- A cleanup leaves every request after a cutoff no earlier than its own. -/
theorem filter_cleanupOldRequests (w : RequestWindow) {windowSize now x : ℤ}
    (late : now - windowSize ≤ x) :
    (w.cleanupOldRequests windowSize now).requests.filter (x < ·) = w.requests.filter (x < ·) := by
  rw [cleanupOldRequests, List.filter_filter]
  refine List.filter_congr fun requestTime _ => ?_
  by_cases after : x < requestTime
  · simp only [after, decide_True, Bool.true_and, Bool.not_eq_true', decide_eq_false_iff_not,
      not_le]
    omega
  · simp [after]

/-- Cleaning a window at a reading no later than the count's leaves the count. -/
theorem getRequestCount_cleanupOldRequests (w : RequestWindow) {windowSize cleanupAt countAt : ℤ}
    (cleanupLe : cleanupAt ≤ countAt) :
    (w.cleanupOldRequests windowSize cleanupAt).getRequestCount windowSize countAt =
      w.getRequestCount windowSize countAt :=
  UInt32.toNat.inj <| by
    rw [toNat_getRequestCount, toNat_getRequestCount, filter_cleanupOldRequests _ (by omega)]

end RequestWindow

/-- `SlidingWindowRateLimiter`: a request window per client, `max_requests_per_window_` and
`window_size_`. -/
structure SlidingWindowRateLimiter where
  clientWindows : String → RequestWindow
  maxRequestsPerWindow : UInt32
  windowSize : ℤ

/-- A call of the limiter, with the clock readings it makes. -/
inductive LimiterCall where
  /-- `is_allowed(client_id)`, reading the clock in `cleanup_old_requests`, in
  `get_request_count` and in `add_request`. -/
  | isAllowed (clientId : String) (cleanupAt countAt addAt : ℤ)
  /-- `cleanup_old_requests()`, reading the clock at `now`. -/
  | cleanupOldRequests (now : ℤ)

/-- The clock readings of a call, in the order it makes them. -/
def LimiterCall.readings : LimiterCall → List ℤ
  | .isAllowed _ cleanupAt countAt addAt => [cleanupAt, countAt, addAt]
  | .cleanupOldRequests now => [now]

namespace SlidingWindowRateLimiter

/-- `SlidingWindowRateLimiter(max_requests, window)`. -/
def new (maxRequests : UInt32) (window : ℤ) : SlidingWindowRateLimiter :=
  ⟨fun _ => ⟨[]⟩, maxRequests, window⟩

@[simp]
theorem maxRequestsPerWindow_new (maxRequests : UInt32) (window : ℤ) :
    (new maxRequests window).maxRequestsPerWindow = maxRequests := rfl

@[simp]
theorem windowSize_new (maxRequests : UInt32) (window : ℤ) :
    (new maxRequests window).windowSize = window := rfl

/-- `is_allowed(client_id)`: clean the client's window, count what is left in the window and
refuse at `max_requests_per_window_`, otherwise record the request. -/
def isAllowed (l : SlidingWindowRateLimiter) (clientId : String) (cleanupAt countAt addAt : ℤ) :
    Bool × SlidingWindowRateLimiter :=
  let window := (l.clientWindows clientId).cleanupOldRequests l.windowSize cleanupAt
  if window.getRequestCount l.windowSize countAt ≥ l.maxRequestsPerWindow then
    (false, { l with clientWindows := Function.update l.clientWindows clientId window })
  else
    (true, { l with
      clientWindows := Function.update l.clientWindows clientId (window.addRequest addAt) })

/-- `get_request_count(client_id)`, reading the clock at `now`. -/
def getRequestCount (l : SlidingWindowRateLimiter) (clientId : String) (now : ℤ) : UInt32 :=
  (l.clientWindows clientId).getRequestCount l.windowSize now

/-- `cleanup_old_requests()`, every window cleaned at the reading `now`. -/
def cleanupOldRequests (l : SlidingWindowRateLimiter) (now : ℤ) : SlidingWindowRateLimiter :=
  { l with
    clientWindows := fun clientId =>
      (l.clientWindows clientId).cleanupOldRequests l.windowSize now }

/-- One call; `is_allowed` returns whether the request was let through, `cleanup_old_requests`
returns nothing. -/
def call (l : SlidingWindowRateLimiter) : LimiterCall → Option Bool × SlidingWindowRateLimiter
  | .isAllowed clientId cleanupAt countAt addAt =>
    (some (l.isAllowed clientId cleanupAt countAt addAt).1,
      (l.isAllowed clientId cleanupAt countAt addAt).2)
  | .cleanupOldRequests now => (none, l.cleanupOldRequests now)

/-- The abstract step: a request that `is_allowed` lets through is recorded with its client and
the time `add_request` read. -/
def recordAdmitted (admitted : List (String × ℤ)) : LimiterCall → Option Bool → List (String × ℤ)
  | .isAllowed clientId _ _ addAt, some true => admitted ++ [(clientId, addAt)]
  | _, _ => admitted

/-- The requests a sequence of calls lets through, oldest first. -/
def admittedAfter (l : SlidingWindowRateLimiter) (calls : List LimiterCall) :
    List (String × ℤ) :=
  abstractAfter recordAdmitted [] (trace call l calls)

/-- The times recorded for one client's admitted requests. -/
def requestsOf (admitted : List (String × ℤ)) (clientId : String) : List ℤ :=
  (admitted.filter fun request => request.1 = clientId).map (·.2)

@[simp]
theorem requestsOf_append_singleton (admitted : List (String × ℤ)) (clientId other : String)
    (now : ℤ) :
    requestsOf (admitted ++ [(clientId, now)]) other =
      requestsOf admitted other ++ if clientId = other then [now] else [] := by
  by_cases same : clientId = other <;> simp [requestsOf, same]

@[simp]
theorem maxRequestsPerWindow_call (l : SlidingWindowRateLimiter) (c : LimiterCall) :
    (l.call c).2.maxRequestsPerWindow = l.maxRequestsPerWindow := by
  cases c <;> simp [call, isAllowed, cleanupOldRequests, apply_ite]

@[simp]
theorem windowSize_call (l : SlidingWindowRateLimiter) (c : LimiterCall) :
    (l.call c).2.windowSize = l.windowSize := by
  cases c <;> simp [call, isAllowed, cleanupOldRequests, apply_ite]

@[simp]
theorem maxRequestsPerWindow_run (l : SlidingWindowRateLimiter) (calls : List LimiterCall) :
    (Dfs.run call l calls).maxRequestsPerWindow = l.maxRequestsPerWindow :=
  run_of_keeps call (·.maxRequestsPerWindow = l.maxRequestsPerWindow)
    (fun l' c same => (maxRequestsPerWindow_call l' c).trans same) l calls rfl

@[simp]
theorem windowSize_run (l : SlidingWindowRateLimiter) (calls : List LimiterCall) :
    (Dfs.run call l calls).windowSize = l.windowSize :=
  run_of_keeps call (·.windowSize = l.windowSize)
    (fun l' c same => (windowSize_call l' c).trans same) l calls rfl

/-- What the limiter keeps, against the requests it let through, up to the clock reading `now`:
each window holds the client's admitted requests after any cutoff from `now - window_size` on,
every admitted request was recorded by `now`, and no window `(s - window_size, s]` holds more
than `max_requests_per_window_` of one client's. -/
structure Tracks (l : SlidingWindowRateLimiter) (admitted : List (String × ℤ)) (now : ℤ) :
    Prop where
  recent : ∀ clientId x, now - l.windowSize ≤ x →
    (l.clientWindows clientId).requests.filter (x < ·) =
      (requestsOf admitted clientId).filter (x < ·)
  past : ∀ clientId, ∀ t ∈ requestsOf admitted clientId, t ≤ now
  withinRate : ∀ clientId s,
    ((requestsOf admitted clientId).filter fun t => s - l.windowSize < t ∧ t ≤ s).length ≤
      l.maxRequestsPerWindow.toNat

variable {l : SlidingWindowRateLimiter} {admitted : List (String × ℤ)} {now : ℤ}

/-- A fresh limiter has let nothing through, at any reading. -/
theorem tracks_new (maxRequests : UInt32) (window now : ℤ) :
    Tracks (new maxRequests window) [] now where
  recent _ _ _ := rfl
  past _ _ none := by simp [requestsOf] at none
  withinRate _ _ := by simp [requestsOf]

/-- The invariant at a later reading. -/
theorem Tracks.later (tracks : Tracks l admitted now) {later : ℤ} (clock : now ≤ later) :
    Tracks l admitted later where
  recent clientId x late := tracks.recent clientId x (by omega)
  past clientId t recorded := Int.le_trans (tracks.past clientId t recorded) clock
  withinRate := tracks.withinRate

/-- Up to a reading no earlier than `now`, a client's admitted requests after the cutoff are
those in the window ending at the reading. -/
theorem Tracks.filter_window (tracks : Tracks l admitted now) (clientId : String) {q : ℤ}
    (clock : now ≤ q) :
    (requestsOf admitted clientId).filter (q - l.windowSize < ·) =
      (requestsOf admitted clientId).filter fun t => q - l.windowSize < t ∧ t ≤ q :=
  List.filter_congr fun t recorded => by
    simp [Int.le_trans (tracks.past clientId t recorded) clock]

/-- The count `get_request_count` takes at a reading no earlier than `now`: the client's
admitted requests after the cutoff, at most `max_requests_per_window_` of them, so that the
`uint32_t` does not wrap. -/
theorem Tracks.count (tracks : Tracks l admitted now) (clientId : String) {countAt : ℤ}
    (clock : now ≤ countAt) :
    ((l.clientWindows clientId).getRequestCount l.windowSize countAt).toNat =
      ((requestsOf admitted clientId).filter (countAt - l.windowSize < ·)).length ∧
    ((requestsOf admitted clientId).filter (countAt - l.windowSize < ·)).length ≤
      l.maxRequestsPerWindow.toNat := by
  have bounded : ((requestsOf admitted clientId).filter (countAt - l.windowSize < ·)).length ≤
      l.maxRequestsPerWindow.toNat := by
    rw [tracks.filter_window clientId clock]
    exact tracks.withinRate clientId countAt
  refine ⟨?_, bounded⟩
  rw [RequestWindow.toNat_getRequestCount, tracks.recent clientId _ (by omega)]
  exact Nat.mod_eq_of_lt (bounded.trans_lt l.maxRequestsPerWindow.toBitVec.isLt)

/-- A request recorded at `addAt`, let through with fewer than `max_requests_per_window_` of the
client's requests after `countAt - window_size`, keeps every window `(s - window_size, s]` of
that client within the bound: the window holding the new request holds no earlier request at or
before that cutoff. -/
theorem withinRate_append (withinRate : ∀ clientId s,
      ((requestsOf admitted clientId).filter fun t => s - l.windowSize < t ∧ t ≤ s).length ≤
        l.maxRequestsPerWindow.toNat) (clientId : String) {countAt addAt : ℤ}
    (below : ((requestsOf admitted clientId).filter (countAt - l.windowSize < ·)).length <
      l.maxRequestsPerWindow.toNat)
    (countLe : countAt ≤ addAt) (s : ℤ) :
    ((requestsOf admitted clientId ++ [addAt]).filter fun t =>
      s - l.windowSize < t ∧ t ≤ s).length ≤ l.maxRequestsPerWindow.toNat := by
  rw [List.filter_append, List.length_append]
  by_cases inside : s - l.windowSize < addAt ∧ addAt ≤ s
  · have earlier := (List.monotone_filter_right (requestsOf admitted clientId)
      (p := fun t => s - l.windowSize < t ∧ t ≤ s) (q := (countAt - l.windowSize < ·))
      fun t within => by
        simp only [decide_eq_true_eq] at within ⊢
        omega).length_le
    simp only [List.filter_singleton, inside, and_self, decide_True, cond_true,
      List.length_singleton]
    omega
  · simpa [inside] using withinRate clientId s

/-- `is_allowed` keeps the invariant, at its last reading. -/
theorem Tracks.isAllowed (tracks : Tracks l admitted now) (clientId : String)
    {cleanupAt countAt addAt : ℤ} (clock : now ≤ cleanupAt) (cleanupLe : cleanupAt ≤ countAt)
    (countLe : countAt ≤ addAt) :
    Tracks (l.call (.isAllowed clientId cleanupAt countAt addAt)).2
      (recordAdmitted admitted (.isAllowed clientId cleanupAt countAt addAt)
        (l.call (.isAllowed clientId cleanupAt countAt addAt)).1) addAt := by
  obtain ⟨counted, -⟩ := tracks.count clientId (Int.le_trans clock cleanupLe)
  have cleaned (x : ℤ) (late : cleanupAt - l.windowSize ≤ x) :
      ((l.clientWindows clientId).cleanupOldRequests l.windowSize cleanupAt).requests.filter
          (x < ·) = (requestsOf admitted clientId).filter (x < ·) := by
    rw [RequestWindow.filter_cleanupOldRequests _ late, tracks.recent clientId x (by omega)]
  simp only [call, SlidingWindowRateLimiter.isAllowed, ge_iff_le,
    RequestWindow.getRequestCount_cleanupOldRequests _ cleanupLe]
  split_ifs with atLimit
  · -- refused: the cleaned window is stored and nothing is admitted
    refine ⟨fun other x (late : addAt - l.windowSize ≤ x) => ?_, (tracks.later (by omega)).past,
      tracks.withinRate⟩
    by_cases same : other = clientId
    · subst same
      simpa using cleaned x (by omega)
    · simpa [Function.update_noteq same] using tracks.recent other x (by omega)
  · -- let through: the request is recorded in the window and admitted
    have below : ((requestsOf admitted clientId).filter (countAt - l.windowSize < ·)).length <
        l.maxRequestsPerWindow.toNat := by
      rw [← counted]
      exact not_le.mp atLimit
    refine ⟨fun other x (late : addAt - l.windowSize ≤ x) => ?_, fun other t recorded => ?_,
      fun other s => ?_⟩
    · by_cases same : other = clientId
      · subst same
        simp [recordAdmitted, RequestWindow.addRequest, List.filter_append, cleaned x (by omega)]
      · simpa [recordAdmitted, Function.update_noteq same, Ne.symm same] using
          tracks.recent other x (by omega)
    · simp only [recordAdmitted, requestsOf_append_singleton, List.mem_append] at recorded
      rcases recorded with old | new
      · exact Int.le_trans (tracks.past other t old) (by omega)
      · split_ifs at new <;> simp_all
    · simp only [recordAdmitted, requestsOf_append_singleton]
      by_cases same : clientId = other
      · subst same
        simpa using withinRate_append tracks.withinRate clientId below countLe s
      · simpa [same] using tracks.withinRate other s

/-- `cleanup_old_requests()` keeps the invariant, at its reading. -/
theorem Tracks.cleanupOldRequests (tracks : Tracks l admitted now) {cleanupAt : ℤ}
    (clock : now ≤ cleanupAt) :
    Tracks (l.call (.cleanupOldRequests cleanupAt)).2
      (recordAdmitted admitted (.cleanupOldRequests cleanupAt)
        (l.call (.cleanupOldRequests cleanupAt)).1) cleanupAt where
  recent clientId x (late : cleanupAt - l.windowSize ≤ x) :=
    (RequestWindow.filter_cleanupOldRequests _ late).trans (tracks.recent clientId x (by omega))
  past := (tracks.later clock).past
  withinRate := tracks.withinRate

/-- Every call keeps the invariant, at one of its readings, when it reads the clock in order
and no earlier than `now`. -/
theorem Tracks.after_call (tracks : Tracks l admitted now) (c : LimiterCall)
    (clock : ∀ t ∈ c.readings, now ≤ t) (ordered : c.readings.Pairwise (· ≤ ·)) :
    ∃ later ∈ c.readings, Tracks (l.call c).2 (recordAdmitted admitted c (l.call c).1) later := by
  cases c with
  | isAllowed clientId cleanupAt countAt addAt =>
    simp only [LimiterCall.readings, List.mem_cons, List.pairwise_cons, forall_eq_or_imp,
      List.mem_singleton, forall_eq, List.not_mem_nil, false_implies, implies_true,
      List.Pairwise.nil, and_true] at clock ordered
    exact ⟨addAt, by simp [LimiterCall.readings],
      tracks.isAllowed clientId clock.1 ordered.1.1 ordered.2⟩
  | cleanupOldRequests cleanupAt =>
    exact ⟨cleanupAt, List.mem_singleton_self _,
      tracks.cleanupOldRequests (clock cleanupAt (List.mem_singleton_self _))⟩

/-- A sequence of calls that reads the clock in order, no earlier than `now`, keeps the
invariant, at `now` or at one of its readings. -/
theorem Tracks.after_run : ∀ (calls : List LimiterCall) (l : SlidingWindowRateLimiter)
    (admitted : List (String × ℤ)) (now : ℤ), Tracks l admitted now →
    (∀ t ∈ calls.flatMap LimiterCall.readings, now ≤ t) →
    (calls.flatMap LimiterCall.readings).Pairwise (· ≤ ·) →
    ∃ later, (later = now ∨ later ∈ calls.flatMap LimiterCall.readings) ∧
      Tracks (Dfs.run call l calls) (abstractAfter recordAdmitted admitted (trace call l calls))
        later
  | [], _, _, now, tracks, _, _ => ⟨now, .inl rfl, tracks⟩
  | c :: calls, l, admitted, now, tracks, clock, ordered => by
    rw [List.flatMap_cons, List.pairwise_append] at ordered
    obtain ⟨reached, reading, kept⟩ :=
      tracks.after_call c (fun t mem => clock t (List.mem_append_left _ mem)) ordered.1
    obtain ⟨later, found, final⟩ := Tracks.after_run calls _ _ reached kept
      (fun t mem => ordered.2.2 reached reading t mem) ordered.2.1
    refine ⟨later, ?_, final⟩
    rw [List.flatMap_cons, List.mem_append]
    rcases found with rfl | mem
    · exact .inr (.inl reading)
    · exact .inr (.inr mem)

/-- Readings in order have a lower bound below any given reading. -/
theorem exists_le_readings (calls : List LimiterCall)
    (ordered : (calls.flatMap LimiterCall.readings).Pairwise (· ≤ ·)) (q : ℤ) :
    ∃ start ≤ q, ∀ t ∈ calls.flatMap LimiterCall.readings, start ≤ t := by
  generalize calls.flatMap LimiterCall.readings = readings at ordered ⊢
  cases readings with
  | nil => exact ⟨q, Int.le_refl q, by simp⟩
  | cons first rest =>
    refine ⟨min q first, Int.min_le_left _ _, fun t mem => ?_⟩
    rcases List.mem_cons.1 mem with rfl | later
    · exact Int.min_le_right _ _
    · exact Int.le_trans (Int.min_le_right _ _) (List.rel_of_pairwise_cons ordered later)

/-- From a fresh limiter, after any sequence of calls that reads the clock in order, the
invariant holds at a reading no later than a given bound of those readings. -/
theorem tracks_admittedAfter (maxRequests : UInt32) (window : ℤ) (calls : List LimiterCall)
    (clock : (calls.flatMap LimiterCall.readings).Pairwise (· ≤ ·)) (q : ℤ)
    (late : ∀ t ∈ calls.flatMap LimiterCall.readings, t ≤ q) :
    ∃ later ≤ q, Tracks (Dfs.run call (new maxRequests window) calls)
      (admittedAfter (new maxRequests window) calls) later := by
  obtain ⟨start, startLe, first⟩ := exists_le_readings calls clock q
  obtain ⟨later, found, tracks⟩ :=
    Tracks.after_run calls _ [] start (tracks_new maxRequests window start) first clock
  refine ⟨later, ?_, tracks⟩
  rcases found with rfl | mem
  · exact startLe
  · exact late later mem

/-- `SlidingWindowRateLimiter::is_allowed`, called for any clients as the clock goes forward from
the constructor: no window `(s - window, s]` holds more than `max_requests` of the requests it
let through for one client. -/
theorem admitted_within_window (maxRequests : UInt32) (window : ℤ) (calls : List LimiterCall)
    (clock : (calls.flatMap LimiterCall.readings).Pairwise (· ≤ ·)) (clientId : String) (s : ℤ) :
    ((requestsOf (admittedAfter (new maxRequests window) calls) clientId).filter
        fun t => s - window < t ∧ t ≤ s).length ≤ maxRequests.toNat := by
  obtain ⟨start, -, first⟩ := exists_le_readings calls clock 0
  obtain ⟨later, -, tracks⟩ :=
    Tracks.after_run calls _ [] start (tracks_new maxRequests window start) first clock
  have bounded := tracks.withinRate clientId s
  rwa [windowSize_run, maxRequestsPerWindow_run] at bounded

/-- Room for two requests in a window of ten ticks: client `a` is let through twice at tick 0
and refused at tick 1, client `b` is let through at tick 1, and at tick 10 the two requests of
tick 0 have left the window and `a` is let through again. -/
theorem admitted_within_window_refused :
    let calls := [LimiterCall.isAllowed "a" 0 0 0, .isAllowed "a" 0 0 0, .isAllowed "a" 1 1 1,
      .isAllowed "b" 1 1 1, .isAllowed "a" 10 10 10]
    (trace call (new 2 10) calls).map (·.result) =
        [some true, some true, some false, some true, some true] ∧
      (calls.flatMap LimiterCall.readings).Pairwise (· ≤ ·) ∧
      ((requestsOf (admittedAfter (new 2 10) calls) "a").filter
        fun t => 10 - 10 < t ∧ t ≤ 10).length ≤ (2 : UInt32).toNat :=
  ⟨by decide, by decide, admitted_within_window 2 10 _ (by decide) "a" 10⟩

/-- `get_request_count(client_id)`, read after any sequence of calls made as the clock goes
forward from the constructor: the number of that client's requests let through in the window
ending at the reading, at most `max_requests`, so that the `uint32_t` count never wraps. -/
theorem getRequestCount_run (maxRequests : UInt32) (window : ℤ) (calls : List LimiterCall)
    (clock : (calls.flatMap LimiterCall.readings).Pairwise (· ≤ ·)) (clientId : String) (now : ℤ)
    (late : ∀ t ∈ calls.flatMap LimiterCall.readings, t ≤ now) :
    ((Dfs.run call (new maxRequests window) calls).getRequestCount clientId now).toNat =
      ((requestsOf (admittedAfter (new maxRequests window) calls) clientId).filter
        fun t => now - window < t ∧ t ≤ now).length ∧
    ((requestsOf (admittedAfter (new maxRequests window) calls) clientId).filter
        fun t => now - window < t ∧ t ≤ now).length ≤ maxRequests.toNat := by
  obtain ⟨later, lateLe, tracks⟩ := tracks_admittedAfter maxRequests window calls clock now late
  obtain ⟨counted, bounded⟩ := tracks.count clientId lateLe
  rw [tracks.filter_window clientId lateLe] at counted bounded
  simp only [windowSize_run, maxRequestsPerWindow_run, windowSize_new, maxRequestsPerWindow_new]
    at counted bounded
  rw [getRequestCount, windowSize_run, windowSize_new]
  exact ⟨counted, bounded⟩

/-- Three requests of one client, the third refused, read one tick later. -/
theorem getRequestCount_run_refused :
    ([LimiterCall.isAllowed "a" 0 0 0, .isAllowed "a" 0 0 0, .isAllowed "a" 1 1 1].flatMap
        LimiterCall.readings).Pairwise (· ≤ ·) ∧
      (∀ t ∈ [LimiterCall.isAllowed "a" 0 0 0, .isAllowed "a" 0 0 0, .isAllowed "a" 1 1 1].flatMap
        LimiterCall.readings, t ≤ 2) ∧
      ((Dfs.run call (new 2 10) [.isAllowed "a" 0 0 0, .isAllowed "a" 0 0 0,
          .isAllowed "a" 1 1 1]).getRequestCount "a" 2).toNat =
        ((requestsOf (admittedAfter (new 2 10) [.isAllowed "a" 0 0 0, .isAllowed "a" 0 0 0,
          .isAllowed "a" 1 1 1]) "a").filter fun t => 2 - 10 < t ∧ t ≤ 2).length ∧
      ((requestsOf (admittedAfter (new 2 10) [.isAllowed "a" 0 0 0, .isAllowed "a" 0 0 0,
          .isAllowed "a" 1 1 1]) "a").filter fun t => 2 - 10 < t ∧ t ≤ 2).length ≤
        (2 : UInt32).toNat :=
  ⟨by decide, by decide, getRequestCount_run 2 10 _ (by decide) "a" 2 (by decide)⟩

end SlidingWindowRateLimiter

end Dfs
