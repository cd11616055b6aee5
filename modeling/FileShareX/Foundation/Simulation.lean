import FileShareX.Foundation.Transition
import Mathlib.Logic.Function.Basic

/-!
# Simulation

An abstract machine may refuse an operation.  A concrete run simulates it when
every step, read as at most one operation, is a move of the abstract machine.
For machines side by side, one under each key, what becomes of a key is decided
by the operations under that key.  Where the abstract state is no function of
the concrete one, a relation between them is kept.
-/

namespace Machine

variable {State Label Abs Op Key : Type*}

/-- The operations in order, or nothing if one of them is refused. -/
def attempt (act : Abs → Op → Option Abs) (start : Abs) (ops : List Op) : Option Abs :=
  ops.foldlM act start

section Attempt

variable {act : Abs → Op → Option Abs} {start after : Abs}

@[simp] theorem attempt_nil : attempt act start [] = some start := rfl

@[simp] theorem attempt_cons (op : Op) (rest : List Op) :
    attempt act start (op :: rest) = (act start op).bind (attempt act · rest) := rfl

theorem attempt_append (ops more : List Op) :
    attempt act start (ops ++ more) = (attempt act start ops).bind (attempt act · more) :=
  List.foldlM_append

end Attempt

section Trace

variable (step : State → Label → State) (op : State → Label → Option Op)

def trace : State → List Label → List Op
  | _, [] => []
  | state, label :: rest => (op state label).toList ++ trace (step state label) rest

@[simp] theorem trace_nil (start : State) : trace step op start [] = [] := rfl

variable {step op} {act : Abs → Op → Option Abs} {abs : State → Abs} {ok : State → Label → Prop}
  {Inv : State → Prop} {start : State} {labels : List Label}

theorem along_always : Along step (fun _ _ => True) start labels := by
  induction labels generalizing start with
  | nil => trivial
  | cons label rest ih => exact ⟨trivial, ih⟩

/-- If every allowed step is read as moves of the abstract machine, so is every run. -/
theorem simulates (along : Along step ok start labels) (initial : Inv start)
    (keeps : ∀ state label, Inv state → ok state label → Inv (step state label))
    (moves : ∀ state label, Inv state → ok state label →
      attempt act (abs state) (op state label).toList = some (abs (step state label))) :
    attempt act (abs start) (trace step op start labels) = some (abs (run step start labels)) := by
  induction labels generalizing start with
  | nil => rfl
  | cons label rest ih =>
    obtain ⟨first, along⟩ := along
    rw [trace, attempt_append, moves start label initial first]
    exact ih along (keeps start label initial first)

end Trace

section Related

variable {step : State → Label → State} {act : Abs → Op → Abs} {ok : State → Label → Prop}
  {fine : Abs → Op → Prop} {Rel : State → Abs → Prop}

theorem Along.answered {start : State} {labels : List Label} (along : Along step ok start labels)
    {first : Abs} (initial : Rel start first)
    (answers : ∀ state label abs, Rel state abs → ok state label →
      ∃ ops, Along act fine abs ops ∧ Rel (step state label) (run act abs ops)) :
    ∃ ops, Along act fine first ops ∧ Rel (run step start labels) (run act first ops) := by
  induction labels generalizing start first with
  | nil => exact ⟨[], trivial, initial⟩
  | cons label rest ih =>
    obtain ⟨allowed, along⟩ := along
    obtain ⟨ops, here, related⟩ := answers start label first initial allowed
    obtain ⟨more, later, ends⟩ := ih along related
    exact ⟨ops ++ more, along_append.mpr ⟨here, later⟩, by rwa [run_append]⟩

end Related

section Family

variable [DecidableEq Key] (act : Abs → Op → Option Abs)

/-- One machine under each key; an operation names its key. -/
def family (states : Key → Abs) (op : Key × Op) : Option (Key → Abs) :=
  (act (states op.1) op.2).map (Function.update states op.1)

def opsAt (key : Key) (ops : List (Key × Op)) : List Op :=
  ops.filterMap fun op => if op.1 = key then some op.2 else none

@[simp] theorem opsAt_cons_self (key : Key) (op : Op) (rest : List (Key × Op)) :
    opsAt key ((key, op) :: rest) = op :: opsAt key rest := by simp [opsAt]

theorem opsAt_cons_of_ne {key other : Key} (ne : other ≠ key) (op : Op) (rest : List (Key × Op)) :
    opsAt key ((other, op) :: rest) = opsAt key rest := by simp [opsAt, ne]

variable {act} {states after : Key → Abs} {ops : List (Key × Op)}

/-- Under each key the operations of that key alone have run. -/
theorem attempt_family (ran : attempt (family act) states ops = some after) (key : Key) :
    attempt act (states key) (opsAt key ops) = some (after key) := by
  induction ops generalizing states with
  | nil =>
    cases ran
    rfl
  | cons op rest ih =>
    obtain ⟨other, op⟩ := op
    obtain ⟨next, moved, ran⟩ := Option.bind_eq_some_iff.mp ran
    obtain ⟨state, acted, rfl⟩ := Option.map_eq_some_iff.mp moved
    have later := ih ran
    by_cases same : other = key
    · subst same
      rw [Function.update_self] at later
      rw [opsAt_cons_self, attempt_cons, acted]
      exact later
    · rw [Function.update_of_ne (Ne.symm same)] at later
      rw [opsAt_cons_of_ne same]
      exact later

end Family

end Machine
