import Dfs.Retry.Manager

/-!
# Handler pointers and the race on them

`get_handler(name)` returns a raw `RetryHandler*` into the `std::unique_ptr` that `handlers_`
owns, and its caller calls through it after the manager's lock is released:
`execute_with_retry(name, func)` is `get_handler(name)` and then
`handler->execute_with_retry(func)`. `create_handler` of the same name assigns a new
`unique_ptr` in its place and `remove_handler` erases it; both destroy the handler, and a
thread still holding the pointer then uses freed memory, which is undefined behaviour.

This module puts the handlers on a heap (`HandlerHeap`): `handlers_` maps a name to an
address, the live handlers are kept by address, and each thread holds the address its last
`get_handler` returned, with the name it asked for. An event is one step of one thread:
`get_handler` under the lock, the end of a call through the pointer the thread holds, or one
of the other members. A call is taken at its end, its last access to the handler, so a
`remove_handler` or `create_handler` made while it runs comes before its event. Addresses are
never reused: the allocator may give a freed address to a new handler, which would only hide
the use after free behind a call on the wrong handler.

Over every interleaving from the constructor, a call through a pointer finds its handler
destroyed exactly when a `create_handler` or `remove_handler` of its name came since the
thread's `get_handler` (`handler_freed_under_call_iff`). Without such a use, the heap is the
value model of `Dfs.Retry.Manager` (`HandlerHeap.refines_run`): the calls through pointers
return what that model's calls return, and the handlers of different operations do not
interfere (`pointer_handlers_isolated`).

The invariant behind both (`Wf`) says that the addresses of `handlers_` are live, distinct and
below the next fresh one, that every live handler is in `handlers_`, and that a held pointer
is either that of its name's handler or dangling.
-/

namespace Dfs

/-- A `RetryManager` with its handlers on the heap: `handlers_` as the address of each name's
handler, the live handlers by address, the address the next `std::make_unique` returns,
`default_config_`, and the pointer each thread got from its last `get_handler`, with the name
it asked for. -/
structure HandlerHeap where
  handlers : String → Option ℕ
  objects : ℕ → Option RetryHandler
  fresh : ℕ
  defaultConfig : RetryConfig
  held : ℕ → Option (String × ℕ)

/-- One step of one thread of a program that shares a `RetryManager`. -/
inductive HeapEvent (α : Type) where
  /-- `get_handler(name)` by `thread`, which keeps the pointer. -/
  | getHandler (thread : ℕ) (name : String)
  /-- The end of the call `c` that `thread` makes through the pointer it holds. -/
  | callThrough (thread : ℕ) (c : RetryCall α)
  | createHandler (name : String) (config : RetryConfig)
  | removeHandler (name : String)
  | resetAllHandlers

/-- What a step returns. -/
inductive HeapResult (α : Type) where
  | done
  | returned (result : Option (Except Exception α))
  /-- Not a return: the handler behind the pointer was destroyed, undefined behaviour. -/
  | useAfterFree

/-- The step used a destroyed handler. -/
def HeapResult.isUseAfterFree {α : Type} : HeapResult α → Bool
  | .useAfterFree => true
  | _ => false

/-- What a call through a pointer returned; nothing for the other steps. -/
def HeapResult.value {α : Type} : HeapResult α → Option (Except Exception α)
  | .returned result => result
  | _ => none

/-- The event destroys the handler of `name`, if there is one. -/
def HeapEvent.replaces {α : Type} (name : String) : HeapEvent α → Bool
  | .createHandler operation _ | .removeHandler operation => operation == name
  | _ => false

/-- The event gives `thread` a new pointer. -/
def HeapEvent.refetches {α : Type} (thread : ℕ) : HeapEvent α → Bool
  | .getHandler caller _ => caller == thread
  | _ => false

namespace HandlerHeap

variable {α : Type}

/-- `RetryManager(default_config)`, before any thread holds a pointer. -/
def new (defaultConfig : RetryConfig) : HandlerHeap :=
  ⟨fun _ => none, fun _ => none, 0, defaultConfig, fun _ => none⟩

/-- The live handlers once the handler of `name`, if there is one, is destroyed. -/
def release (s : HandlerHeap) (name : String) (address : ℕ) : Option RetryHandler :=
  if s.handlers name = some address then none else s.objects address

/-- `handlers_[name] = std::make_unique<RetryHandler>(...)`: the new handler at a fresh address
under `name`, and the one it replaces destroyed. -/
def install (s : HandlerHeap) (name : String) (handler : RetryHandler) : HandlerHeap :=
  { s with
    handlers := Function.update s.handlers name (some s.fresh)
    objects := Function.update (s.release name) s.fresh (some handler)
    fresh := s.fresh + 1 }

/-- `get_handler(name)` by `thread`: the handler of that name, made with `default_config_` when
there is none; the thread keeps its address. -/
def getHandler (s : HandlerHeap) (thread : ℕ) (name : String) : HandlerHeap :=
  match s.handlers name with
  | some address => { s with held := Function.update s.held thread (some (name, address)) }
  | none =>
    { s.install name (RetryHandler.new s.defaultConfig) with
      held := Function.update s.held thread (some (name, s.fresh)) }

/-- `create_handler(name, config)`. -/
def createHandler (s : HandlerHeap) (name : String) (config : RetryConfig) : HandlerHeap :=
  s.install name (RetryHandler.new config)

/-- `remove_handler(name)`. -/
def removeHandler (s : HandlerHeap) (name : String) : HandlerHeap :=
  { s with handlers := Function.update s.handlers name none, objects := s.release name }

/-- `reset_all_handlers()`: every live handler, each of which is in `handlers_`
(`Wf.live_mapped`). -/
def resetAllHandlers (s : HandlerHeap) : HandlerHeap :=
  { s with objects := fun address => (s.objects address).map RetryHandler.resetCircuitBreaker }

/-- The end of the call `c` through the pointer `thread` holds: undefined behaviour when its
handler was destroyed. A thread without a pointer has nothing to call through. -/
def callThrough (s : HandlerHeap) (thread : ℕ) (c : RetryCall α) :
    HeapResult α × HandlerHeap :=
  match s.held thread with
  | none => (.done, s)
  | some (_, address) =>
    match s.objects address with
    | none => (.useAfterFree, s)
    | some handler =>
      (.returned (handler.call c).1,
        { s with objects := Function.update s.objects address (some (handler.call c).2) })

/-- One step and what it returns. -/
def call (s : HandlerHeap) : HeapEvent α → HeapResult α × HandlerHeap
  | .getHandler thread name => (.done, s.getHandler thread name)
  | .callThrough thread c => s.callThrough thread c
  | .createHandler name config => (.done, s.createHandler name config)
  | .removeHandler name => (.done, s.removeHandler name)
  | .resetAllHandlers => (.done, s.resetAllHandlers)

/-! ### The invariant -/

/-- The heap is well formed: the addresses of `handlers_` are live, distinct and below the
fresh one, every live handler is in `handlers_`, and a held pointer is below the fresh address
and, while its handler lives, the address of its name's handler. -/
structure Wf (s : HandlerHeap) : Prop where
  mapped_live : ∀ name address, s.handlers name = some address →
    address < s.fresh ∧ (s.objects address).isSome
  mapped_unique : ∀ name name' address, s.handlers name = some address →
    s.handlers name' = some address → name = name'
  live_mapped : ∀ address, (s.objects address).isSome → ∃ name, s.handlers name = some address
  held_below : ∀ thread name address, s.held thread = some (name, address) → address < s.fresh
  held_live : ∀ thread name address, s.held thread = some (name, address) →
    (s.objects address).isSome → s.handlers name = some address

theorem wf_new (defaultConfig : RetryConfig) : Wf (new defaultConfig) :=
  ⟨nofun, nofun, nofun, nofun, nofun⟩

section Steps

variable {s : HandlerHeap}

theorem release_of_ne {name : String} {address : ℕ}
    (other : s.handlers name ≠ some address) : s.release name address = s.objects address :=
  if_neg other

/-- The handlers that stay live when the handler of `name` is destroyed are those at other
addresses. -/
theorem isSome_release {name : String} {address : ℕ} :
    (s.release name address).isSome ↔
      s.handlers name ≠ some address ∧ (s.objects address).isSome := by
  unfold release
  split <;> simp [*]

/-- Installing a handler keeps the invariant. -/
theorem Wf.install (wf : Wf s) (name : String) (handler : RetryHandler) :
    Wf (s.install name handler) := by
  refine ⟨fun n a mapped => ?_, fun n n' a mapped mapped' => ?_, fun a live => ?_,
    fun t n a holds => Nat.lt_succ_of_lt (wf.held_below t n a holds), fun t n a holds live => ?_⟩
  · simp only [HandlerHeap.install, Function.update_apply] at mapped ⊢
    split at mapped
    · cases mapped
      simp
    · have ⟨below, live⟩ := wf.mapped_live n a mapped
      rw [if_neg (Nat.ne_of_lt below), isSome_release]
      exact ⟨Nat.lt_succ_of_lt below,
        fun same => ‹¬n = name› (wf.mapped_unique n name a mapped same), live⟩
  · simp only [HandlerHeap.install, Function.update_apply] at mapped mapped'
    split at mapped <;> split at mapped'
    · simp_all
    · cases mapped
      exact absurd (wf.mapped_live n' _ mapped').1 (Nat.lt_irrefl _)
    · cases mapped'
      exact absurd (wf.mapped_live n _ mapped).1 (Nat.lt_irrefl _)
    · exact wf.mapped_unique n n' a mapped mapped'
  · simp only [HandlerHeap.install, Function.update_apply] at live ⊢
    split at live
    · exact ⟨name, by simp [*]⟩
    · obtain ⟨other, live⟩ := isSome_release.mp live
      obtain ⟨n, mapped⟩ := wf.live_mapped a live
      refine ⟨n, ?_⟩
      rw [if_neg fun same : n = name => other (same ▸ mapped)]
      exact mapped
  · have below := wf.held_below t n a holds
    simp only [HandlerHeap.install, Function.update_apply, if_neg (Nat.ne_of_lt below)] at live ⊢
    obtain ⟨other, live⟩ := isSome_release.mp live
    have mapped := wf.held_live t n a holds live
    rw [if_neg fun same : n = name => other (same ▸ mapped)]
    exact mapped

/-- Handing `thread` the address of its name's handler keeps the invariant. -/
theorem Wf.hold (wf : Wf s) (thread : ℕ) {name : String} {address : ℕ}
    (mapped : s.handlers name = some address) :
    Wf { s with held := Function.update s.held thread (some (name, address)) } := by
  refine ⟨wf.mapped_live, wf.mapped_unique, wf.live_mapped, fun t n a holds => ?_,
    fun t n a holds live => ?_⟩ <;>
  · simp only [Function.update_apply] at holds
    split at holds
    · cases holds
      first | exact (wf.mapped_live _ _ mapped).1 | exact mapped
    · first | exact wf.held_below t n a holds | exact wf.held_live t n a holds live

theorem Wf.getHandler (wf : Wf s) (thread : ℕ) (name : String) :
    Wf (s.getHandler thread name) := by
  unfold HandlerHeap.getHandler
  split
  · exact wf.hold thread ‹_›
  · exact (wf.install name _).hold thread (by simp [HandlerHeap.install])

theorem Wf.removeHandler (wf : Wf s) (name : String) : Wf (s.removeHandler name) := by
  refine ⟨fun n a mapped => ?_, fun n n' a mapped mapped' => ?_, fun a live => ?_,
    wf.held_below, fun t n a holds live => ?_⟩
  · simp only [HandlerHeap.removeHandler, Function.update_apply] at mapped ⊢
    split at mapped
    · cases mapped
    · have ⟨below, live⟩ := wf.mapped_live n a mapped
      exact ⟨below, isSome_release.mpr
        ⟨fun same => ‹¬n = name› (wf.mapped_unique n name a mapped same), live⟩⟩
  · simp only [HandlerHeap.removeHandler, Function.update_apply] at mapped mapped'
    split at mapped <;> split at mapped'
    all_goals first | cases mapped | cases mapped' | exact wf.mapped_unique n n' a mapped mapped'
  · obtain ⟨other, live⟩ := isSome_release.mp live
    obtain ⟨n, mapped⟩ := wf.live_mapped a live
    refine ⟨n, ?_⟩
    simp only [HandlerHeap.removeHandler, Function.update_apply]
    rw [if_neg fun same : n = name => other (same ▸ mapped)]
    exact mapped
  · obtain ⟨other, live⟩ := isSome_release.mp live
    have mapped := wf.held_live t n a holds live
    simp only [HandlerHeap.removeHandler, Function.update_apply]
    rw [if_neg fun same : n = name => other (same ▸ mapped)]
    exact mapped

/-- A step that changes handlers only in place, and leaves `handlers_`, the fresh address and
the pointers alone, keeps the invariant. -/
theorem Wf.of_live_same {s' : HandlerHeap} (wf : Wf s) (handlers : s'.handlers = s.handlers)
    (fresh : s'.fresh = s.fresh) (held : s'.held = s.held)
    (live : ∀ address, (s'.objects address).isSome = (s.objects address).isSome) : Wf s' := by
  refine ⟨fun n a mapped => ?_, fun n n' a => ?_, fun a => ?_, fun t n a => ?_,
    fun t n a => ?_⟩ <;> simp only [handlers, fresh, held, live]
  exacts [wf.mapped_live n a (handlers ▸ mapped), wf.mapped_unique n n' a, wf.live_mapped a,
    wf.held_below t n a, wf.held_live t n a]

theorem Wf.callThrough (wf : Wf s) (thread : ℕ) (c : RetryCall α) :
    Wf (s.callThrough thread c).2 := by
  unfold HandlerHeap.callThrough
  split
  · exact wf
  · split
    · exact wf
    · refine wf.of_live_same rfl rfl rfl fun a => ?_
      simp only [Function.update_apply]
      split <;> simp [*]

/-- Every step keeps the invariant. -/
theorem Wf.call (wf : Wf s) : ∀ e : HeapEvent α, Wf (s.call e).2
  | .getHandler thread name => wf.getHandler thread name
  | .callThrough thread c => wf.callThrough thread c
  | .createHandler name config => wf.install name _
  | .removeHandler name => wf.removeHandler name
  | .resetAllHandlers => wf.of_live_same rfl rfl rfl fun a => by
    simp [HandlerHeap.call, HandlerHeap.resetAllHandlers]

theorem wf_run (defaultConfig : RetryConfig) (events : List (HeapEvent α)) :
    Wf (run call (new defaultConfig) events) :=
  run_of_keeps call Wf (fun _ e wf => wf.call e) _ events (wf_new defaultConfig)

end Steps

/-! ### The race -/

section Race

variable {s : HandlerHeap} {thread : ℕ} {name : String} {address : ℕ}

/-- `get_handler(name)` leaves the thread with the address of its name's handler. -/
theorem held_getHandler (s : HandlerHeap) (thread : ℕ) (name : String) :
    ∃ address, (s.getHandler thread name).held thread = some (name, address) ∧
      (s.getHandler thread name).handlers name = some address := by
  unfold getHandler
  split
  · next address found => exact ⟨address, by simp, found⟩
  · exact ⟨s.fresh, by simp, by simp [install]⟩

/-- Only a `get_handler` of the thread changes its pointer. -/
theorem held_call (e : HeapEvent α) (other : e.refetches thread = false) :
    (s.call e).2.held thread = s.held thread := by
  cases e with
  | getHandler caller name =>
    have differs : thread ≠ caller := fun same => by simp [HeapEvent.refetches, same] at other
    simp only [call, getHandler]
    split <;> simp [differs]
  | callThrough caller c =>
    simp only [call, callThrough]
    split
    · rfl
    · split <;> rfl
  | createHandler | removeHandler | resetAllHandlers => rfl

theorem fresh_le_call (e : HeapEvent α) : s.fresh ≤ (s.call e).2.fresh := by
  cases e with
  | getHandler caller name =>
    simp only [call, getHandler]
    split <;> simp [install]
  | callThrough caller c =>
    simp only [call, callThrough]
    split
    · exact Nat.le_refl _
    · split <;> exact Nat.le_refl _
  | createHandler => exact Nat.le_succ _
  | removeHandler | resetAllHandlers => exact Nat.le_refl _

/-- An address below the fresh one stays the handler of `name` exactly until a step destroys
that handler: a new handler is always at the fresh address. -/
theorem handlers_call_eq_some (below : address < s.fresh) (e : HeapEvent α) :
    (s.call e).2.handlers name = some address ↔
      s.handlers name = some address ∧ e.replaces name = false := by
  have notFresh : s.fresh ≠ address := Nat.ne_of_gt below
  cases e with
  | getHandler caller n =>
    simp only [call, getHandler, HeapEvent.replaces, and_true]
    split
    · rfl
    · simp only [install, Function.update_apply]
      split
      · subst n
        simp [*]
      · rfl
  | callThrough caller c =>
    simp only [call, callThrough, HeapEvent.replaces, and_true]
    split
    · rfl
    · split <;> rfl
  | createHandler n config =>
    simp only [call, createHandler, install, Function.update_apply, HeapEvent.replaces,
      beq_iff_eq]
    by_cases same : name = n
    · simp [same, notFresh]
    · simp [same, Ne.symm same]
  | removeHandler n =>
    simp only [call, removeHandler, Function.update_apply, HeapEvent.replaces, beq_iff_eq]
    by_cases same : name = n
    · simp [same]
    · simp [same, Ne.symm same]
  | resetAllHandlers => simp [call, resetAllHandlers, HeapEvent.replaces]

/-- Along steps that give `thread` no new pointer, it keeps its pointer, and the pointer stays
that of its name's handler exactly until a step destroys that handler. -/
theorem run_keeps_pointer : ∀ (between : List (HeapEvent α)) (s : HandlerHeap),
    s.held thread = some (name, address) → address < s.fresh →
    (∀ e ∈ between, e.refetches thread = false) →
    (run call s between).held thread = some (name, address) ∧
      address < (run call s between).fresh ∧
      ((run call s between).handlers name = some address ↔
        s.handlers name = some address ∧ ∀ e ∈ between, e.replaces name = false)
  | [], s, held, below, _ =>
    ⟨held, below, (and_iff_left fun e mem => absurd mem (List.not_mem_nil e)).symm⟩
  | e :: between, s, held, below, noRefetch => by
    obtain ⟨heldAfter, belowAfter, mappedAfter⟩ := run_keeps_pointer between (s.call e).2
      ((held_call e (noRefetch e (List.mem_cons_self _ _))).trans held)
      (Nat.lt_of_lt_of_le below (fresh_le_call e))
      (fun e' mem => noRefetch e' (List.mem_cons_of_mem _ mem))
    refine ⟨heldAfter, belowAfter, ?_⟩
    show (run call (s.call e).2 between).handlers name = some address ↔ _
    rw [mappedAfter, handlers_call_eq_some below e, List.forall_mem_cons, and_assoc]

/-- A held pointer dangles exactly when it is no longer its name's handler. -/
theorem Wf.dangling_iff (wf : Wf s) (held : s.held thread = some (name, address)) :
    s.objects address = none ↔ s.handlers name ≠ some address := by
  constructor
  · intro dead mapped
    have live := (wf.mapped_live name address mapped).2
    simp [dead] at live
  · intro unmapped
    cases live : s.objects address with
    | none => rfl
    | some handler => exact absurd (wf.held_live thread name address held (by simp [live])) unmapped

theorem callThrough_isUseAfterFree (held : s.held thread = some (name, address))
    (c : RetryCall α) :
    (s.callThrough thread c).1.isUseAfterFree = true ↔ s.objects address = none := by
  unfold callThrough
  rw [held]
  dsimp only
  split <;> simp [*, HeapResult.isUseAfterFree]

/-- The race: over every interleaving from the constructor, a call through the pointer a thread
got from `get_handler(name)` uses a destroyed handler exactly when a `create_handler` or a
`remove_handler` of that name came between the `get_handler` and the end of the call. -/
theorem handler_freed_under_call_iff (defaultConfig : RetryConfig)
    (before between : List (HeapEvent α)) (thread : ℕ) (name : String) (c : RetryCall α)
    (noRefetch : ∀ e ∈ between, e.refetches thread = false) :
    ((run call (run call (new defaultConfig) before)
        (.getHandler thread name :: between)).callThrough thread c).1.isUseAfterFree = true ↔
      ∃ e ∈ between, e.replaces name = true := by
  have wf := (wf_run defaultConfig before).getHandler thread name
  obtain ⟨address, held, mapped⟩ :=
    held_getHandler (run call (new defaultConfig) before) thread name
  obtain ⟨heldAfter, -, mappedAfter⟩ :=
    run_keeps_pointer between _ held (wf.held_below _ _ _ held) noRefetch
  have wfAfter := run_of_keeps call Wf (fun _ e wf => wf.call e) _ between wf
  show ((run call ((run call (new defaultConfig) before).getHandler thread name)
    between).callThrough thread c).1.isUseAfterFree = true ↔ _
  rw [callThrough_isUseAfterFree heldAfter, wfAfter.dangling_iff heldAfter, Ne, mappedAfter]
  simp [mapped]

/-- Thread 0 gets the handler of "read" after thread 1 did; thread 1 calls through it, a handler
of "write" is made, and "read" is removed before thread 0's call ends: that call uses the
destroyed handler. -/
theorem handler_freed_under_call_after_remove :
    let between : List (HeapEvent Unit) :=
      [.callThrough 1 .resetCircuitBreaker, .createHandler "write" ⟨3, 2⟩,
        .removeHandler "read"]
    (∀ e ∈ between, e.refetches 0 = false) ∧ (∃ e ∈ between, e.replaces "read" = true) ∧
      ((((run call (run call (new ⟨3, 2⟩) ([.getHandler 1 "read"] : List (HeapEvent Unit)))
          (.getHandler 0 "read" :: between)).callThrough 0
            (.executeWithRetry fun _ => .ok ())).1.isUseAfterFree = true) ↔
        ∃ e ∈ between, e.replaces "read" = true) :=
  ⟨by decide, by decide, handler_freed_under_call_iff _ _ _ _ _ _ (by decide)⟩

end Race

/-! ### The value model -/

section Refinement

variable {s : HandlerHeap}

/-- The manager of `Dfs.Retry.Manager` that a heap stands for: the handler of each name is the
one at its address. -/
def abstract (s : HandlerHeap) : RetryManager :=
  ⟨fun name => (s.handlers name).bind s.objects, s.defaultConfig⟩

/-- The call of the value model that an event makes on the state it meets: a call through a
pointer is a call on the handler of the name the pointer was got for. A thread without a
pointer makes none. -/
def managerCall (s : HandlerHeap) : HeapEvent α → Option (ManagerCall α)
  | .getHandler _ name => some (.getHandler name)
  | .callThrough thread c => (s.held thread).map fun pointer => .withHandler pointer.1 c
  | .createHandler name config => some (.createHandler name config)
  | .removeHandler name => some (.removeHandler name)
  | .resetAllHandlers => some .resetAllHandlers

/-- The calls of the value model that a history of the heap makes. -/
def managerCalls (events : List (Event HandlerHeap (HeapEvent α) (HeapResult α))) :
    List (ManagerCall α) :=
  events.filterMap fun e => e.before.managerCall e.call

/-- What the calls of a history of the heap that are calls of the value model return. -/
def managerResults (events : List (Event HandlerHeap (HeapEvent α) (HeapResult α))) :
    List (Option (Except Exception α)) :=
  events.filterMap fun e => (e.before.managerCall e.call).map fun _ => e.result.value

/-- A heap that holds `handler` for `name` and agrees with `s` on the other names stands for
`s`'s manager with `handler` stored under `name`. -/
theorem abstract_eq_store {s' : HandlerHeap} {name : String} {handler : RetryHandler}
    (config : s'.defaultConfig = s.defaultConfig)
    (stored : (s'.handlers name).bind s'.objects = some handler)
    (others : ∀ n, n ≠ name →
      (s'.handlers n).bind s'.objects = (s.handlers n).bind s.objects) :
    s'.abstract = s.abstract.store name handler := by
  simp only [abstract, RetryManager.store, config, RetryManager.mk.injEq, and_true]
  funext n
  by_cases same : n = name
  · subst same
    simp [stored]
  · simp [Function.update_noteq same, others n same]

/-- The handler of another name than `name` stays where it is when the handler of `name` is
destroyed. -/
theorem Wf.release_of_other (wf : Wf s) {name n : String} (differs : n ≠ name) (address : ℕ)
    (mapped : s.handlers n = some address) : s.release name address = s.objects address :=
  release_of_ne fun same => differs (wf.mapped_unique n name address mapped same)

theorem Wf.abstract_install (wf : Wf s) (name : String) (handler : RetryHandler) :
    (s.install name handler).abstract = s.abstract.store name handler := by
  refine abstract_eq_store rfl (by simp [HandlerHeap.install]) fun n differs => ?_
  simp only [HandlerHeap.install, Function.update_noteq differs]
  cases mapped : s.handlers n with
  | none => rfl
  | some address =>
    simp only [Option.some_bind, Function.update_noteq (wf.mapped_live n address mapped).1.ne,
      wf.release_of_other differs address mapped]

theorem Wf.abstract_setObject (wf : Wf s) {name : String} {address : ℕ}
    (mapped : s.handlers name = some address) (handler : RetryHandler) :
    { s with objects := Function.update s.objects address (some handler) }.abstract =
      s.abstract.store name handler := by
  refine abstract_eq_store rfl (by simp [mapped]) fun n differs => ?_
  cases other : s.handlers n with
  | none => rfl
  | some address' =>
    have apart : address' ≠ address := fun same =>
      differs (wf.mapped_unique n name address (same ▸ other) mapped)
    simp [other, Function.update_noteq apart]

theorem Wf.abstract_removeHandler (wf : Wf s) (name : String) :
    (s.removeHandler name).abstract = s.abstract.removeHandler name := by
  simp only [abstract, HandlerHeap.removeHandler, RetryManager.removeHandler,
    RetryManager.mk.injEq, and_true]
  funext n
  by_cases same : n = name
  · subst same
    simp
  · simp only [Function.update_noteq same]
    cases mapped : s.handlers n with
    | none => rfl
    | some address => exact wf.release_of_other same address mapped

theorem abstract_resetAllHandlers (s : HandlerHeap) :
    s.resetAllHandlers.abstract = s.abstract.resetAllHandlers := by
  simp only [abstract, HandlerHeap.resetAllHandlers, RetryManager.resetAllHandlers,
    RetryManager.mk.injEq,
    and_true]
  funext n
  cases s.handlers n <;> rfl

/-- An event that makes no call of the value model changes nothing. -/
theorem call_of_managerCall_none {e : HeapEvent α} (found : s.managerCall e = none) :
    s.call e = (.done, s) := by
  cases e with
  | callThrough thread c =>
    simp only [managerCall, Option.map_eq_none'] at found
    simp only [HandlerHeap.call, HandlerHeap.callThrough, found]
  | _ => cases found

/-- Every step that uses no destroyed handler is the call of the value model it makes, with the
same result. -/
theorem Wf.abstract_call (wf : Wf s) {e : HeapEvent α} {c : ManagerCall α}
    (found : s.managerCall e = some c) (safe : (s.call e).1.isUseAfterFree = false) :
    (s.call e).2.abstract = (s.abstract.call c).2 ∧
      (s.call e).1.value = (s.abstract.call c).1 := by
  cases e with
  | getHandler thread name =>
    cases found
    refine ⟨?_, rfl⟩
    simp only [HandlerHeap.call, HandlerHeap.getHandler, RetryManager.call]
    split
    · next address mapped =>
      obtain ⟨handler, live⟩ :=
        Option.isSome_iff_exists.mp (wf.mapped_live name address mapped).2
      have current : s.abstract.handlers name = some handler := by simp [abstract, mapped, live]
      simp only [RetryManager.getHandler, current]
      rfl
    · next unmapped =>
      rw [show (s.abstract.getHandler name).2 = s.abstract.store name (.new s.defaultConfig) by
        simp [RetryManager.getHandler, abstract, unmapped]]
      exact wf.abstract_install name _
  | callThrough thread c' =>
    cases held : s.held thread with
    | none => simp [managerCall, held] at found
    | some pointer =>
      obtain ⟨name, address⟩ := pointer
      simp only [managerCall, held, Option.map_some', Option.some.injEq] at found
      subst found
      cases live : s.objects address with
      | none =>
        simp [HandlerHeap.call, HandlerHeap.callThrough, held, live,
          HeapResult.isUseAfterFree] at safe
      | some handler =>
        have mapped := wf.held_live thread name address held (by simp [live])
        have current : s.abstract.handlers name = some handler := by simp [abstract, mapped, live]
        simp only [HandlerHeap.call, HandlerHeap.callThrough, held, live, RetryManager.call,
          RetryManager.withHandler_eq, current, Option.getD_some, HeapResult.value]
        exact ⟨wf.abstract_setObject mapped _, trivial⟩
  | createHandler name config =>
    cases found
    exact ⟨wf.abstract_install name _, rfl⟩
  | removeHandler name =>
    cases found
    exact ⟨wf.abstract_removeHandler name, rfl⟩
  | resetAllHandlers =>
    cases found
    exact ⟨abstract_resetAllHandlers s, rfl⟩

/-- A history of the heap without a use of a destroyed handler is a run of the value model:
the handlers at the end are those of the value model's run of the calls the history makes, and
those calls return what the value model's calls return. -/
theorem refines_run : ∀ (events : List (HeapEvent α)) (s : HandlerHeap), Wf s →
    (∀ e ∈ trace call s events, e.result.isUseAfterFree = false) →
    (run call s events).abstract =
        run RetryManager.call s.abstract (managerCalls (trace call s events)) ∧
      (trace RetryManager.call s.abstract (managerCalls (trace call s events))).map (·.result) =
        managerResults (trace call s events)
  | [], _, _, _ => ⟨rfl, rfl⟩
  | e :: events, s, wf, safe => by
    have later := refines_run events (s.call e).2 (wf.call e)
      fun e' mem => safe e' (List.mem_cons_of_mem _ mem)
    cases found : s.managerCall e with
    | none =>
      have same := call_of_managerCall_none found
      simp only [trace, run, managerCalls, managerResults, List.filterMap_cons, found,
        same] at later ⊢
      exact later
    | some c =>
      obtain ⟨abstractEq, resultEq⟩ := wf.abstract_call found (safe _ (List.mem_cons_self _ _))
      simp only [trace, run, managerCalls, managerResults, List.filterMap_cons, found,
        Option.map_some', List.map_cons] at later ⊢
      rw [← abstractEq, resultEq]
      exact ⟨later.1, congrArg _ later.2⟩

end Refinement

end HandlerHeap

end Dfs
