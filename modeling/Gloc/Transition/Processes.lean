import Mathlib.Logic.Function.Basic

/-!
# Processes that communicate

A process is a state machine that sends values on wires, receives values from
wires, and comes to an end.  What it receives decides what it does next;
therefore what it does is determined by what there is to be received.
`Performs` says so, one act after the other.
-/

namespace Gloc.Transition

universe u v w

section Instructions

variable {Wire : Type u} (Value : Wire → Type v)

inductive Instruction (Local : Type w) where
  | finish
  | abort
  | send (wire : Wire) (value : Value wire) (next : Local)
  | recv (wire : Wire) (next : Value wire → Local)

/-- What a process has done. -/
inductive Act where
  | send (wire : Wire) (value : Value wire)
  | recv (wire : Wire)

/-- The end of a process: it has finished or aborted, or it waits for a value after the
last one. -/
inductive Ending where
  | finished
  | aborted
  | starved
  deriving DecidableEq

end Instructions

section Acts

variable {Wire : Type u} {Value : Wire → Type v} [DecidableEq Wire]

def sentOn (wire : Wire) : List (Act Value) → List (Value wire)
  | [] => []
  | .send other value :: later =>
      if same : other = wire then same ▸ value :: sentOn wire later else sentOn wire later
  | .recv _ :: later => sentOn wire later

def receivedOn (wire : Wire) : List (Act Value) → Nat
  | [] => 0
  | .send _ _ :: later => receivedOn wire later
  | .recv other :: later =>
      if other = wire then receivedOn wire later + 1 else receivedOn wire later

variable {wire other : Wire} {acts : List (Act Value)}

@[simp]
theorem sentOn_nil : sentOn wire ([] : List (Act Value)) = [] := rfl

@[simp]
theorem sentOn_send (value : Value wire) :
    sentOn wire (.send wire value :: acts) = value :: sentOn wire acts := by
  simp [sentOn]

@[simp]
theorem sentOn_send_of_ne (value : Value other) (different : other ≠ wire) :
    sentOn wire (.send other value :: acts) = sentOn wire acts := by
  simp [sentOn, different]

@[simp]
theorem sentOn_recv : sentOn wire (.recv other :: acts) = sentOn wire acts := rfl

@[simp]
theorem receivedOn_nil : receivedOn wire ([] : List (Act Value)) = 0 := rfl

@[simp]
theorem receivedOn_send (value : Value other) :
    receivedOn wire (.send other value :: acts) = receivedOn wire acts := rfl

@[simp]
theorem receivedOn_recv : receivedOn wire (.recv wire :: acts) = receivedOn wire acts + 1 := by
  simp [receivedOn]

@[simp]
theorem receivedOn_recv_of_ne (different : other ≠ wire) :
    receivedOn wire (.recv other :: acts) = receivedOn wire acts := by
  simp [receivedOn, different]

end Acts

section Performs

variable {Wire : Type u} {Value : Wire → Type v} {Local : Type w} [DecidableEq Wire]

/-- If these values are to be received then the process performs these acts, and this is
its end. -/
inductive Performs (instruction : Local → Instruction Value Local) :
    Local → ((wire : Wire) → List (Value wire)) → List (Act Value) → Ending → Prop where
  | finish {state inputs} :
      instruction state = .finish →
      Performs instruction state inputs [] .finished
  | abort {state inputs} :
      instruction state = .abort →
      Performs instruction state inputs [] .aborted
  | send {state inputs wire value next acts ending} :
      instruction state = .send wire value next →
      Performs instruction next inputs acts ending →
      Performs instruction state inputs (.send wire value :: acts) ending
  | recv {state inputs wire next value rest acts ending} :
      instruction state = .recv wire next →
      inputs wire = value :: rest →
      Performs instruction (next value) (Function.update inputs wire rest) acts ending →
      Performs instruction state inputs (.recv wire :: acts) ending
  | starve {state inputs wire next} :
      instruction state = .recv wire next →
      inputs wire = [] →
      Performs instruction state inputs [.recv wire] .starved

namespace Performs

variable {instruction : Local → Instruction Value Local} {state : Local}
  {inputs others : (wire : Wire) → List (Value wire)} {acts : List (Act Value)}
  {ending : Ending}

theorem congr (reads : Wire → Prop)
    (own : ∀ {state wire next}, instruction state = .recv wire next → reads wire)
    (same : ∀ wire, reads wire → others wire = inputs wire)
    (performs : Performs instruction state inputs acts ending) :
    Performs instruction state others acts ending := by
  induction performs generalizing others with
  | finish finishes => exact .finish finishes
  | abort aborts => exact .abort aborts
  | send sends _ inductionHypothesis => exact .send sends (inductionHypothesis same)
  | @recv state inputs wire next value rest _ _ receives available _ inductionHypothesis =>
      refine .recv receives ((same wire (own receives)).trans available)
        (inductionHypothesis fun other read => ?_)
      by_cases equal : other = wire
      · subst equal
        rw [Function.update_self, Function.update_self]
      · rw [Function.update_of_ne equal, Function.update_of_ne equal]
        exact same other read
  | starve receives empty => exact .starve receives ((same _ (own receives)).trans empty)

theorem of_finish (finishes : instruction state = .finish)
    (performs : Performs instruction state inputs acts ending) :
    acts = [] ∧ ending = .finished := by
  cases performs with
  | finish => exact ⟨rfl, rfl⟩
  | abort aborts => cases finishes.symm.trans aborts
  | send sends => cases finishes.symm.trans sends
  | recv receives => cases finishes.symm.trans receives
  | starve receives => cases finishes.symm.trans receives

theorem of_abort (aborts : instruction state = .abort)
    (performs : Performs instruction state inputs acts ending) :
    acts = [] ∧ ending = .aborted := by
  cases performs with
  | finish finishes => cases aborts.symm.trans finishes
  | abort => exact ⟨rfl, rfl⟩
  | send sends => cases aborts.symm.trans sends
  | recv receives => cases aborts.symm.trans receives
  | starve receives => cases aborts.symm.trans receives

theorem of_send {wire : Wire} {value : Value wire} {next : Local}
    (sends : instruction state = .send wire value next)
    (performs : Performs instruction state inputs acts ending) :
    ∃ later, acts = .send wire value :: later ∧
      Performs instruction next inputs later ending := by
  cases performs with
  | finish finishes => cases sends.symm.trans finishes
  | abort aborts => cases sends.symm.trans aborts
  | send same performs =>
      cases sends.symm.trans same
      exact ⟨_, rfl, performs⟩
  | recv receives => cases sends.symm.trans receives
  | starve receives => cases sends.symm.trans receives

theorem of_recv {wire : Wire} {next : Value wire → Local}
    (receives : instruction state = .recv wire next)
    (performs : Performs instruction state inputs acts ending) :
    ∃ later, acts = .recv wire :: later ∧
      ∀ value rest, inputs wire = value :: rest →
        Performs instruction (next value) (Function.update inputs wire rest) later ending := by
  cases performs with
  | finish finishes => cases receives.symm.trans finishes
  | abort aborts => cases receives.symm.trans aborts
  | send sends => cases receives.symm.trans sends
  | recv same available performs =>
      cases receives.symm.trans same
      refine ⟨_, rfl, fun value rest found => ?_⟩
      cases available.symm.trans found
      exact performs
  | starve same empty =>
      cases receives.symm.trans same
      refine ⟨[], rfl, fun value rest found => ?_⟩
      cases empty.symm.trans found

/-- What there is to be received determines what a process does. -/
theorem unique {acts' : List (Act Value)} {ending' : Ending}
    (performs : Performs instruction state inputs acts ending)
    (same : Performs instruction state inputs acts' ending') : acts' = acts ∧ ending' = ending := by
  induction performs generalizing acts' with
  | finish finishes => exact same.of_finish finishes
  | abort aborts => exact same.of_abort aborts
  | send sends _ inductionHypothesis =>
      obtain ⟨later, rfl, goesOn⟩ := same.of_send sends
      obtain ⟨rfl, rfl⟩ := inductionHypothesis goesOn
      exact ⟨rfl, rfl⟩
  | recv receives available _ inductionHypothesis =>
      obtain ⟨later, rfl, goesOn⟩ := same.of_recv receives
      obtain ⟨rfl, rfl⟩ := inductionHypothesis (goesOn _ _ available)
      exact ⟨rfl, rfl⟩
  | starve receives empty =>
      cases same with
      | finish finishes => cases receives.symm.trans finishes
      | abort aborts => cases receives.symm.trans aborts
      | send sends => cases receives.symm.trans sends
      | recv others available =>
          cases receives.symm.trans others
          cases empty.symm.trans available
      | starve others =>
          cases receives.symm.trans others
          exact ⟨rfl, rfl⟩

theorem of_cons {act : Act Value} {later : List (Act Value)}
    (performs : Performs instruction state inputs (act :: later) ending) :
    (∃ wire value next, instruction state = .send wire value next ∧ act = .send wire value) ∨
      ∃ wire next, instruction state = .recv wire next ∧ act = .recv wire := by
  generalize something : act :: later = acts at performs
  cases performs with
  | finish => cases something
  | abort => cases something
  | send sends =>
      cases something
      exact .inl ⟨_, _, _, sends, rfl⟩
  | recv receives =>
      cases something
      exact .inr ⟨_, _, receives, rfl⟩
  | starve receives =>
      cases something
      exact .inr ⟨_, _, receives, rfl⟩

end Performs

end Performs

end Gloc.Transition
