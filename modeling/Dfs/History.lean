import Dfs.Basic

/-!
# Histories of calls

The components of the storage engine are objects whose member functions are called one
after another. A history of calls is a list of events, each with the state the call met,
what it returned and the state it left (`trace`). What a component is for is stated over an
abstract state computed from a history, one call at a time (`abstractAfter`).

`along_trace` is the induction over a history, done once for every component: an invariant
between the state and the abstract state that every allowed call keeps, with an outcome
proper for the state it met, holds after every history of allowed calls, and every event of
that history has a proper outcome.

Both allocators, the block bitmap and the inode table, implement one abstract allocator: the
set of objects handed out and not given back since (`ownedAfter`).
-/

namespace Dfs

/-- A call as it happened: the state it met, what it returned and the state it left. -/
structure Event (σ κ ρ : Type) where
  before : σ
  call : κ
  result : ρ
  after : σ

section History

variable {σ κ ρ : Type} (step : σ → κ → ρ × σ)

/-- The events of a sequence of calls. -/
def trace : σ → List κ → List (Event σ κ ρ)
  | _, [] => []
  | s, c :: calls => ⟨s, c, (step s c).1, (step s c).2⟩ :: trace (step s c).2 calls

/-- The state after a sequence of calls. -/
def run : σ → List κ → σ
  | s, [] => s
  | s, c :: calls => run (step s c).2 calls

/-- A trace records the calls it was made of. -/
@[simp]
theorem map_call_trace : ∀ (s : σ) (calls : List κ), (trace step s calls).map (·.call) = calls
  | _, [] => rfl
  | s, c :: calls => congrArg (c :: ·) (map_call_trace (step s c).2 calls)

/-- A property of the state that every call keeps holds after every sequence of calls. -/
theorem run_of_keeps (P : σ → Prop) (keeps : ∀ s c, P s → P (step s c).2) :
    ∀ (s : σ) (calls : List κ), P s → P (run step s calls)
  | _, [], holds => holds
  | s, c :: calls, holds => run_of_keeps P keeps (step s c).2 calls (keeps s c holds)

variable {step} {α : Type} (update : α → κ → ρ → α)

/-- The abstract state after a history, `update` being the abstract step of one call. -/
def abstractAfter (a : α) (events : List (Event σ κ ρ)) : α :=
  events.foldl (fun a e => update a e.call e.result) a

@[simp]
theorem abstractAfter_nil (a : α) : abstractAfter update a ([] : List (Event σ κ ρ)) = a := rfl

@[simp]
theorem abstractAfter_cons (a : α) (e : Event σ κ ρ) (events : List (Event σ κ ρ)) :
    abstractAfter update a (e :: events) = abstractAfter update (update a e.call e.result) events :=
  rfl

theorem abstractAfter_append (a : α) (earlier later : List (Event σ κ ρ)) :
    abstractAfter update a (earlier ++ later) =
      abstractAfter update (abstractAfter update a earlier) later :=
  List.foldl_append _ _ _ _

/-- An invariant between the state and the abstract state that may also speak of the calls
still to come (an assumption on the environment, such as a clock that never goes back),
kept by every call, holds at the end of every history. -/
theorem run_of_keeps_ahead (Inv : List κ → σ → α → Prop)
    (keeps : ∀ s a c calls, Inv (c :: calls) s a →
      Inv calls (step s c).2 (update a c (step s c).1)) :
    ∀ calls s a, Inv calls s a → Inv [] (run step s calls) (abstractAfter update a (trace step s calls))
  | [], _, _, holds => holds
  | c :: calls, s, a, holds => run_of_keeps_ahead Inv keeps calls _ _ (keeps s a c calls holds)

variable (Inv : σ → α → Prop) (Allowed : κ → Prop) (Proper : σ → α → κ → ρ → Prop)

/-- An invariant that every allowed call keeps, with an outcome proper for the state it met,
holds after every history of allowed calls, and each event of the history has an outcome
proper for the state it met and the abstract state at that point. -/
theorem along_trace
    (keeps : ∀ s a c, Inv s a → Allowed c →
      Proper s a c (step s c).1 ∧ Inv (step s c).2 (update a c (step s c).1)) :
    ∀ calls s a, (∀ c ∈ calls, Allowed c) → Inv s a →
      (∀ earlier e later, trace step s calls = earlier ++ e :: later →
        Proper e.before (abstractAfter update a earlier) e.call e.result) ∧
        Inv (run step s calls) (abstractAfter update a (trace step s calls))
  | [], _, _, _, holds => ⟨fun earlier e later split => by simp [trace] at split, holds⟩
  | c :: calls, s, a, allowed, holds => by
    obtain ⟨proper, kept⟩ := keeps s a c holds (allowed c (List.mem_cons_self _ _))
    obtain ⟨laterProper, final⟩ := along_trace keeps calls _ _
      (fun c' mem => allowed c' (List.mem_cons_of_mem _ mem)) kept
    refine ⟨fun earlier e later split => ?_, final⟩
    rcases earlier with _ | ⟨first, earlier⟩
    · simp only [trace, List.nil_append, List.cons.injEq] at split
      obtain ⟨rfl, -⟩ := split
      exact proper
    · simp only [trace, List.cons_append, List.cons.injEq] at split
      obtain ⟨rfl, split⟩ := split
      exact laterProper earlier e later split

end History

section Allocator

variable {σ κ : Type}

/-- The abstract allocator's step: a successful call adds the objects it hands out and
removes those it gives back. -/
def updateOwned (owned : ℕ → Bool) (released : List ℕ) : Except Error (List ℕ) → ℕ → Bool
  | .ok handed => fun n => decide (n ∈ handed) || (owned n && !decide (n ∈ released))
  | .error _ => owned

/-- The objects a history has handed out and not taken back since, `released c` being the
objects a call `c` gives back. -/
def ownedAfter (released : κ → List ℕ) (owned : ℕ → Bool)
    (events : List (Event σ κ (Except Error (List ℕ)))) : ℕ → Bool :=
  abstractAfter (fun owned c result => updateOwned owned (released c) result) owned events

end Allocator

end Dfs
