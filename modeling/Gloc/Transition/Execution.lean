import Mathlib.Data.List.Induction

/-!
# Executions of labelled transition systems

A transition system is its step relation `State → Label → State → Prop`.
`Execution` records the labels of a finite run in the order in which the
steps were taken; invariants may therefore speak about the whole history and
not only about the state reached.

`Inevitable` is the liveness counterpart.  Some labels are declared `free`:
the environment may take such a step at any time, but only finitely often.
Everything else is a step the system itself must be able to take.
-/

namespace Gloc.Transition

universe u v

variable {State : Type u} {Label : Type v}

/-- A finite run from `first`, with the labels of its steps in order. -/
inductive Execution (step : State → Label → State → Prop) (first : State) :
    List Label → State → Prop where
  | nil : Execution step first [] first
  | snoc {labels middle label last} :
      Execution step first labels middle →
      step middle label last →
      Execution step first (labels ++ [label]) last

namespace Execution

variable {step : State → Label → State → Prop} {first middle last : State}
  {labels later : List Label}

theorem append (early : Execution step first labels middle)
    (late : Execution step middle later last) :
    Execution step first (labels ++ later) last := by
  induction late with
  | nil => simpa using early
  | snoc _ taken inductionHypothesis =>
      rw [← List.append_assoc]
      exact .snoc inductionHypothesis taken

theorem single {label : Label} (taken : step first label last) :
    Execution step first [label] last := by
  simpa using Execution.snoc (@Execution.nil State Label step first) taken

theorem nil_iff : Execution step first [] last ↔ last = first := by
  refine ⟨fun run => ?_, fun same => same ▸ .nil⟩
  generalize whole : ([] : List Label) = total at run
  cases run with
  | nil => rfl
  | snoc => simp at whole

theorem snoc_iff {label : Label} :
    Execution step first (labels ++ [label]) last ↔
      ∃ middle, Execution step first labels middle ∧ step middle label last := by
  refine ⟨fun run => ?_, fun ⟨_, reached, taken⟩ => .snoc reached taken⟩
  generalize whole : labels ++ [label] = total at run
  cases run with
  | nil => simp at whole
  | snoc reached taken =>
      obtain ⟨rfl, same⟩ := List.append_inj' whole rfl
      cases same
      exact ⟨_, reached, taken⟩

theorem single_iff {label : Label} :
    Execution step first [label] last ↔ step first label last := by
  rw [← List.nil_append [label], snoc_iff]
  simp [nil_iff]

/-- The invariant rule: what holds initially and survives every step taken
from a reached state holds of every run. -/
theorem invariant (holds : List Label → State → Prop)
    (initially : holds [] first)
    (preserved : ∀ {labels middle label last},
      Execution step first labels middle → holds labels middle →
      step middle label last → holds (labels ++ [label]) last)
    (run : Execution step first labels last) : holds labels last := by
  induction run with
  | nil => exact initially
  | snoc reached taken inductionHypothesis =>
      exact preserved reached inductionHypothesis taken

/-- A run of one system is a run of another through a projection of states
that maps steps to steps with the same label. -/
theorem project {Concrete : Type*} {concreteStep : Concrete → Label → Concrete → Prop}
    (view : Concrete → State)
    (simulates : ∀ {state label next}, concreteStep state label next →
      step (view state) label (view next))
    {start finish : Concrete} (run : Execution concreteStep start labels finish) :
    Execution step (view start) labels (view finish) := by
  induction run with
  | nil => exact .nil
  | snoc _ taken inductionHypothesis =>
      exact .snoc inductionHypothesis (simulates taken)

theorem relabel {Other : Type*} {otherStep : State → Other → State → Prop} (name : Label → Other)
    (simulates : ∀ {state label next}, step state label next → otherStep state (name label) next)
    (run : Execution step first labels last) :
    Execution otherStep first (labels.map name) last := by
  induction run with
  | nil => exact .nil
  | snoc _ taken inductionHypothesis =>
      rw [List.map_append]
      exact .snoc inductionHypothesis (simulates taken)

theorem split (run : Execution step first (labels ++ later) last) :
    ∃ middle, Execution step first labels middle ∧ Execution step middle later last := by
  induction later using List.reverseRecOn generalizing last with
  | nil => exact ⟨last, by simpa using run, .nil⟩
  | append_singleton later label inductionHypothesis =>
      rw [← List.append_assoc, snoc_iff] at run
      obtain ⟨_, reached, taken⟩ := run
      obtain ⟨middle, early, late⟩ := inductionHypothesis reached
      exact ⟨middle, early, .snoc late taken⟩

/-- What is observed, if anything, is matched by an abstract step from
`abstract` to a state in `related`. -/
def Answers {Abstract Observation : Type*}
    (abstractStep : Abstract → Observation → Abstract → Prop) (abstract : Abstract)
    (related : Abstract → Prop) : Option Observation → Prop
  | some observation => ∃ next, abstractStep abstract observation next ∧ related next
  | none => related abstract

/-- Forward simulation with stuttering: if every step is matched by an abstract
step when it is observed, and by none when it is not, then the observations of
a run are an abstract run. -/
theorem simulate {Abstract Observation : Type*}
    {abstractStep : Abstract → Observation → Abstract → Prop}
    (observe : Label → Option Observation) (related : State → Abstract → Prop)
    (matched : ∀ {labels state label next abstract},
      Execution step first labels state → related state abstract →
      step state label next →
      Answers abstractStep abstract (related next) (observe label))
    {start : Abstract} (initially : related first start)
    (run : Execution step first labels last) :
    ∃ abstract, Execution abstractStep start (labels.filterMap observe) abstract ∧
      related last abstract := by
  induction run with
  | nil => exact ⟨start, .nil, initially⟩
  | @snoc early middle label last reached taken inductionHypothesis =>
      obtain ⟨abstract, abstractRun, relation⟩ := inductionHypothesis
      have found := matched reached relation taken
      rw [List.filterMap_append, List.filterMap_cons, List.filterMap_nil]
      cases observed : observe label with
      | none =>
          rw [observed] at found
          exact ⟨abstract, by simpa using abstractRun, found⟩
      | some observation =>
          rw [observed] at found
          obtain ⟨next, abstractTaken, relation⟩ := found
          exact ⟨next, .snoc abstractRun abstractTaken, relation⟩

end Execution

/-- Every maximal run from the state reaches the goal, as long as at most
`budget` free steps occur in it: the goal holds now, or some step that is not
free is possible and whatever happens next the goal stays inevitable. -/
inductive Inevitable (step : State → Label → State → Prop) (free : Label → Prop)
    (goal : State → Prop) : Nat → State → Prop where
  | now {budget state} : goal state → Inevitable step free goal budget state
  | later {budget state} :
      (∃ label next, ¬ free label ∧ step state label next) →
      (∀ label next, ¬ free label → step state label next →
        Inevitable step free goal budget next) →
      (∀ label next remaining, budget = remaining + 1 → free label →
        step state label next → Inevitable step free goal remaining next) →
      Inevitable step free goal budget state

namespace Inevitable

variable {step : State → Label → State → Prop} {free : Label → Prop}
  {goal : State → Prop}

/-- The variant rule: if no state short of the goal is stuck, and every step that is not free
decreases the measure that has been found for a state, then the goal is inevitable however
many free steps are granted. -/
theorem of_measure (measured : State → Nat → Prop)
    (kept : ∀ {state bound label next}, measured state bound →
      step state label next → ∃ smaller, measured next smaller)
    (decreases : ∀ {state bound label next}, measured state bound → ¬ free label →
      step state label next → ∃ smaller, smaller < bound ∧ measured next smaller)
    (progress : ∀ {state bound}, measured state bound → ¬ goal state →
      ∃ label next, ¬ free label ∧ step state label next)
    (budget : Nat) {state : State} {bound : Nat} (holds : measured state bound) :
    Inevitable step free goal budget state := by
  induction budget using Nat.strongRecOn generalizing state bound with
  | _ budget budgetHypothesis =>
    -- within one budget only the measure can decrease
    induction bound using Nat.strongRecOn generalizing state with
    | _ bound boundHypothesis =>
      by_cases reached : goal state
      · exact .now reached
      · refine .later (progress holds reached) ?_ ?_
        · intro label next ordinary taken
          obtain ⟨smaller, less, later⟩ := decreases holds ordinary taken
          exact boundHypothesis smaller less later
        · intro label next remaining spent _ taken
          obtain ⟨_, later⟩ := kept holds taken
          exact budgetHypothesis remaining (by omega) later

/-- The variant rule with an invariant and a measure that is computed from the state. -/
theorem of_variant (invariant : State → Prop) (variant : State → Nat)
    (preserved : ∀ {state label next}, invariant state →
      step state label next → invariant next)
    (decreases : ∀ {state label next}, invariant state → ¬ free label →
      step state label next → variant next < variant state)
    (progress : ∀ {state}, invariant state → ¬ goal state →
      ∃ label next, ¬ free label ∧ step state label next)
    (budget : Nat) {state : State} (holds : invariant state) :
    Inevitable step free goal budget state := by
  refine of_measure (fun state bound => invariant state ∧ variant state = bound) ?_ ?_ ?_ budget
    ⟨holds, rfl⟩
  · rintro state _ label next ⟨holds, rfl⟩ taken
    exact ⟨_, preserved holds taken, rfl⟩
  · rintro state _ label next ⟨holds, rfl⟩ ordinary taken
    exact ⟨_, decreases holds ordinary taken, preserved holds taken, rfl⟩
  · rintro state _ ⟨holds, -⟩ short
    exact progress holds short

theorem reachable {budget : Nat} {state : State}
    (inevitable : Inevitable step free goal budget state) :
    ∃ labels last, Execution step state labels last ∧ goal last := by
  induction inevitable with
  | now reached => exact ⟨[], _, .nil, reached⟩
  | later progress _ _ ordinary _ =>
      obtain ⟨label, next, caused, taken⟩ := progress
      obtain ⟨labels, last, late, reached⟩ := ordinary label next caused taken
      exact ⟨_, last, (Execution.single taken).append late, reached⟩

end Inevitable

end Gloc.Transition
