import Mathlib.Data.List.Induction
import Mathlib.Logic.Basic

/-!
# Runs of a labelled machine

A machine takes one step for each label.  A run may be restricted to steps that
meet a condition on the state before the step and the label; an invariant then
only has to be kept by such steps.
-/

namespace Machine

variable {State Label : Type*} (step : State → Label → State)

def run (start : State) (labels : List Label) : State := labels.foldl step start

/-- Every step of the run meets the condition. -/
def Along (ok : State → Label → Prop) : State → List Label → Prop
  | _, [] => True
  | state, label :: rest => ok state label ∧ Along ok (step state label) rest

variable {step} {ok : State → Label → Prop} {start : State}

@[simp] theorem run_nil : run step start [] = start := rfl

@[simp] theorem run_cons (label : Label) (rest : List Label) :
    run step start (label :: rest) = run step (step start label) rest := rfl

theorem run_append (labels more : List Label) :
    run step start (labels ++ more) = run step (run step start labels) more :=
  List.foldl_append

@[simp] theorem run_concat (labels : List Label) (label : Label) :
    run step start (labels ++ [label]) = step (run step start labels) label := run_append ..

instance decidableAlong [∀ state label, Decidable (ok state label)] :
    (start : State) → (labels : List Label) → Decidable (Along step ok start labels)
  | _, [] => .isTrue trivial
  | start, label :: rest => @instDecidableAnd _ _ _ (decidableAlong (step start label) rest)

theorem along_append {labels more : List Label} :
    Along step ok start (labels ++ more) ↔
      Along step ok start labels ∧ Along step ok (run step start labels) more := by
  induction labels generalizing start with
  | nil => simp [Along]
  | cons label rest ih => simp [Along, ih, and_assoc]

theorem Along.mono {weaker : State → Label → Prop}
    (imp : ∀ state label, ok state label → weaker state label) {labels : List Label}
    (along : Along step ok start labels) : Along step weaker start labels := by
  induction labels generalizing start with
  | nil => trivial
  | cons label rest ih => exact ⟨imp _ _ along.1, ih along.2⟩

theorem Along.invariant {Inv : State → Prop} {labels : List Label}
    (along : Along step ok start labels) (initial : Inv start)
    (keeps : ∀ state label, Inv state → ok state label → Inv (step state label)) :
    Inv (run step start labels) := by
  induction labels generalizing start with
  | nil => exact initial
  | cons label rest ih => exact ih along.2 (keeps start label initial along.1)

/-- What holds now and did not hold at the start came about in one step and has held ever since. -/
theorem since (Now : State → Prop) {labels : List Label} (initial : ¬Now start)
    (now : Now (run step start labels)) :
    ∃ earlier label later, labels = earlier ++ label :: later ∧ ¬Now (run step start earlier) ∧
      ∀ mid, mid <+: later → Now (run step start (earlier ++ label :: mid)) := by
  induction labels using List.reverseRecOn with
  | nil => exact absurd now initial
  | append_singleton labels last ih =>
    by_cases before : Now (run step start labels)
    · obtain ⟨earlier, label, later, rfl, was, held⟩ := ih before
      refine ⟨earlier, label, later ++ [last], by simp, was, fun mid inside => ?_⟩
      rcases List.prefix_concat_iff.mp inside with rfl | inside
      · simpa using now
      · exact held mid inside
    · refine ⟨labels, last, [], rfl, before, fun mid inside => ?_⟩
      rw [List.prefix_nil.mp inside]
      exact now

/-- Where allowed steps keep the invariant and no other step leads to a good state, a run
is good at every point exactly if all its steps are allowed. -/
theorem prefixes_iff {Good Inv : State → Prop} (initial : Inv start)
    (good : ∀ state, Inv state → Good state)
    (keeps : ∀ state label, Inv state → ok state label → Inv (step state label))
    (only : ∀ state label, Inv state → Good (step state label) → ok state label)
    (labels : List Label) :
    (∀ earlier, earlier <+: labels → Good (run step start earlier)) ↔
      Along step ok start labels := by
  constructor
  · intro safe
    induction labels generalizing start with
    | nil => trivial
    | cons label rest ih =>
      have allowed : ok start label := only start label initial (safe [label] (by simp))
      refine ⟨allowed, ih (keeps start label initial allowed) fun earlier inside => ?_⟩
      exact safe (label :: earlier) (List.cons_prefix_cons.mpr ⟨rfl, inside⟩)
  · rintro along earlier ⟨later, rfl⟩
    exact good _ ((along_append.mp along).1.invariant initial keeps)

end Machine
