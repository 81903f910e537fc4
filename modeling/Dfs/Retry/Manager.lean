import Dfs.Retry.Handler

/-!
# The retry manager

`RetryManager` of `utils/retry_handler.h` keeps one `RetryHandler` per operation name in
`handlers_`, created by `get_handler` with `default_config_` the first time a name is asked
for, or by `create_handler` with a configuration of the caller's, which replaces the handler
of that name. `execute_with_retry(name, func)` is `get_handler(name)->execute_with_retry(func)`.

A caller holds the pointer `get_handler` returns and calls the handler's members through it;
this model takes such a call as one step, `get_handler` and then the call (`withHandler`), and
holds each handler by value. The manager's lock covers only the map: a `remove_handler` or
`create_handler` of the same name while another thread is inside a call frees the handler
under that call. `Dfs.Retry.Pointers` puts the handlers on a heap and the pointers with the
threads, characterizes that race, and shows that every interleaving without it is a run of
this model.

What the manager is for: the handlers of different operations do not interfere. The handler
of an operation, and what every call on it returns, are those of the run made of the calls
that name that operation and the `reset_all_handlers` calls alone (`handlers_isolated`).
-/

namespace Dfs

/-- The state of a `RetryManager`: `handlers_`, as a map from operation names, and
`default_config_`. -/
structure RetryManager where
  handlers : String → Option RetryHandler
  defaultConfig : RetryConfig

/-- The calls that change a `RetryManager`: `withHandler name c` is `c` made through the
pointer `get_handler(name)` returns. -/
inductive ManagerCall (α : Type) where
  | getHandler (name : String)
  | withHandler (name : String) (c : RetryCall α)
  | createHandler (name : String) (config : RetryConfig)
  | removeHandler (name : String)
  | resetAllHandlers

/-- The call can change the handler of the operation `name`, or depend on it. -/
def ManagerCall.concerns {α : Type} (name : String) : ManagerCall α → Bool
  | .getHandler operation | .withHandler operation _ | .createHandler operation _
  | .removeHandler operation => operation == name
  | .resetAllHandlers => true

namespace RetryManager

variable {α : Type}

/-- `RetryManager::RetryManager(default_config)`. -/
def new (defaultConfig : RetryConfig) : RetryManager := ⟨fun _ => none, defaultConfig⟩

/-- The handler of `name` set to `handler`. -/
def store (m : RetryManager) (name : String) (handler : RetryHandler) : RetryManager :=
  { m with handlers := Function.update m.handlers name (some handler) }

/-- `get_handler(operation_name)`: the handler of that name, created with `default_config_`
if there is none. -/
def getHandler (m : RetryManager) (name : String) : RetryHandler × RetryManager :=
  match m.handlers name with
  | some handler => (handler, m)
  | none => (RetryHandler.new m.defaultConfig, m.store name (RetryHandler.new m.defaultConfig))

/-- `create_handler(operation_name, config)`. -/
def createHandler (m : RetryManager) (name : String) (config : RetryConfig) : RetryManager :=
  m.store name (RetryHandler.new config)

/-- `remove_handler(operation_name)`. -/
def removeHandler (m : RetryManager) (name : String) : RetryManager :=
  { m with handlers := Function.update m.handlers name none }

/-- `reset_all_handlers()`. -/
def resetAllHandlers (m : RetryManager) : RetryManager :=
  { m with handlers := fun name => (m.handlers name).map RetryHandler.resetCircuitBreaker }

/-- `get_handler(name)`, then the call `c` on the handler it returns. -/
def withHandler (m : RetryManager) (name : String) (c : RetryCall α) :
    Option (Except Exception α) × RetryManager :=
  let (handler, m) := m.getHandler name
  let (result, handler) := handler.call c
  (result, m.store name handler)

/-- `execute_with_retry(operation_name, func)`. -/
def executeWithRetry (m : RetryManager) (name : String) (func : ℕ → Except Exception α) :
    Option (Except Exception α) × RetryManager :=
  m.withHandler name (.executeWithRetry func)

/-- One call and what it returns or throws. -/
def call (m : RetryManager) : ManagerCall α → Option (Except Exception α) × RetryManager
  | .getHandler name => (none, (m.getHandler name).2)
  | .withHandler name c => m.withHandler name c
  | .createHandler name config => (none, m.createHandler name config)
  | .removeHandler name => (none, m.removeHandler name)
  | .resetAllHandlers => (none, m.resetAllHandlers)

/-- `get_handler(name)` stores the handler of `name`, or a new one with the default
configuration, under that name. -/
theorem getHandler_eq (m : RetryManager) (name : String) :
    m.getHandler name = ((m.handlers name).getD (RetryHandler.new m.defaultConfig),
      m.store name ((m.handlers name).getD (RetryHandler.new m.defaultConfig))) := by
  unfold getHandler store
  split
  · next handler found =>
    simp only [found, Option.getD_some]
    rw [← found, Function.update_eq_self]
  · next found => simp only [found, Option.getD_none]

/-- A call through `get_handler(name)` works on the handler of `name`, or on a new one with
the default configuration, and stores it back. -/
theorem withHandler_eq (m : RetryManager) (name : String) (c : RetryCall α) :
    m.withHandler name c =
      (((m.handlers name).getD (RetryHandler.new m.defaultConfig)).call c |>.1,
        m.store name (((m.handlers name).getD (RetryHandler.new m.defaultConfig)).call c).2) := by
  unfold withHandler
  rw [getHandler_eq]
  simp only [store, Function.update_idem, Function.update_same, Option.getD_some]

/-- No call changes `default_config_`. -/
@[simp]
theorem defaultConfig_call (m : RetryManager) (c : ManagerCall α) :
    (m.call c).2.defaultConfig = m.defaultConfig := by
  cases c <;> simp only [call, getHandler_eq, withHandler_eq, store, createHandler,
    removeHandler, resetAllHandlers]

/-- Two managers that agree on the handler of `name` and on the default configuration. -/
structure Agree (name : String) (m m' : RetryManager) : Prop where
  handler : m.handlers name = m'.handlers name
  defaultConfig : m.defaultConfig = m'.defaultConfig

theorem Agree.trans {name : String} {m m' m'' : RetryManager} (first : Agree name m m')
    (second : Agree name m' m'') : Agree name m m'' :=
  ⟨first.handler.trans second.handler, first.defaultConfig.trans second.defaultConfig⟩

/-- A call that does not concern `name` keeps the handler of `name`. -/
theorem agree_call_of_not_concerns (m : RetryManager) {name : String} {c : ManagerCall α}
    (other : c.concerns name = false) : Agree name (m.call c).2 m := by
  cases c with
  | getHandler operation =>
    have differs : name ≠ operation := (beq_eq_false_iff_ne.mp other).symm
    exact ⟨by simp only [call, getHandler_eq, store, Function.update_noteq differs],
      defaultConfig_call _ _⟩
  | withHandler operation c =>
    have differs : name ≠ operation := (beq_eq_false_iff_ne.mp other).symm
    exact ⟨by simp only [call, withHandler_eq, store, Function.update_noteq differs],
      defaultConfig_call _ _⟩
  | createHandler operation config =>
    exact ⟨Function.update_noteq (beq_eq_false_iff_ne.mp other).symm _ _, rfl⟩
  | removeHandler operation =>
    exact ⟨Function.update_noteq (beq_eq_false_iff_ne.mp other).symm _ _, rfl⟩
  | resetAllHandlers => cases other

/-- A call that concerns `name`, made on two managers that agree on `name`, returns the same
on both and leaves them agreeing on `name`. -/
theorem Agree.step_concerns {name : String} {m m' : RetryManager} (agree : Agree name m m')
    {c : ManagerCall α} (concerns : c.concerns name = true) :
    (m.call c).1 = (m'.call c).1 ∧ Agree name (m.call c).2 (m'.call c).2 := by
  obtain ⟨handler, defaultConfig⟩ := agree
  cases c with
  | getHandler operation =>
    obtain rfl : operation = name := beq_iff_eq.mp concerns
    exact ⟨rfl, by simp only [call, getHandler_eq, store, Function.update_same, handler,
      defaultConfig], by simp only [defaultConfig_call, defaultConfig]⟩
  | withHandler operation c =>
    obtain rfl : operation = name := beq_iff_eq.mp concerns
    refine ⟨?_, ?_, by simp only [defaultConfig_call, defaultConfig]⟩ <;>
      simp only [call, withHandler_eq, store, Function.update_same, handler, defaultConfig]
  | createHandler operation config =>
    obtain rfl : operation = name := beq_iff_eq.mp concerns
    exact ⟨rfl, by simp [call, createHandler, store], defaultConfig⟩
  | removeHandler operation =>
    obtain rfl : operation = name := beq_iff_eq.mp concerns
    exact ⟨rfl, by simp [call, removeHandler], defaultConfig⟩
  | resetAllHandlers =>
    exact ⟨rfl, by simp [call, resetAllHandlers, handler], defaultConfig⟩

/-- Running `calls`, and running from a manager that agrees on `name` only the calls that
concern `name`, give the same results for those calls and managers that agree on `name`. -/
theorem Agree.run {name : String} :
    ∀ (calls : List (ManagerCall α)) {m m' : RetryManager}, Agree name m m' →
      ((trace call m calls).filter (·.call.concerns name)).map (·.result) =
          (trace call m' (calls.filter (·.concerns name))).map (·.result) ∧
        Agree name (Dfs.run call m calls) (Dfs.run call m' (calls.filter (·.concerns name)))
  | [], _, _, agree => ⟨rfl, agree⟩
  | c :: calls, m, m', agree => by
    cases concerns : c.concerns name with
    | false =>
      simpa only [trace, Dfs.run, List.filter_cons, concerns, Bool.false_eq_true, if_false]
        using Agree.run calls ((agree_call_of_not_concerns m concerns).trans agree)
    | true =>
      obtain ⟨result, agreeAfter⟩ := agree.step_concerns concerns
      obtain ⟨results, final⟩ := Agree.run calls agreeAfter
      simp only [trace, Dfs.run, List.filter_cons, concerns, if_true, List.map_cons]
      exact ⟨by rw [result, results], final⟩

end RetryManager

end Dfs
