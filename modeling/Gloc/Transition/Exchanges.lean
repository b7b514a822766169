import Gloc.Transition.Execution
import Gloc.Transition.Processes

/-!
# Histories of processes

A history has all that a process has sent and received, value by value.  As long
as a process is given the same values it does the same; therefore of two
histories one goes on where the other one stops, unless they have been given
different values from the same wire.
-/

namespace Gloc.Transition

universe u v w

/-- One of the two lists goes on where the other one stops. -/
def Consistent {α : Type*} (left right : List α) : Prop :=
  left <+: right ∨ right <+: left

namespace Consistent

variable {α : Type*} {left right longer other : List α}

theorem symm (consistent : Consistent left right) : Consistent right left :=
  Or.symm consistent

theorem of_isPrefix (starts : left <+: longer) (consistent : Consistent longer right) :
    Consistent left right := by
  rcases consistent with before | behind
  · exact .inl (starts.trans before)
  · exact List.prefix_or_prefix_of_prefix starts behind

theorem eq_of_append {common : List α} {one another : α} {later rest : List α}
    (consistent : Consistent (common ++ one :: later) (common ++ another :: rest)) :
    one = another := by
  rcases consistent with before | behind
  · exact (List.cons_prefix_cons.mp ((List.prefix_append_right_inj common).mp before)).1
  · exact (List.cons_prefix_cons.mp ((List.prefix_append_right_inj common).mp behind)).1.symm

end Consistent

section Exchanges

variable {Wire : Type u} (Value : Wire → Type v)

inductive Exchange where
  | sent (wire : Wire) (value : Value wire)
  | received (wire : Wire) (value : Value wire)

end Exchanges

variable {Wire : Type u} {Value : Wire → Type v} {Local : Type w}

/-- An instruction has been carried out, and the process goes on. -/
inductive Exchanges : Instruction Value Local → Exchange Value → Local → Prop where
  | sent {wire value next} : Exchanges (.send wire value next) (.sent wire value) next
  | received {wire value next} :
      Exchanges (.recv wire next) (.received wire value) (next value)

/-- The history of a process, from its beginning to where it stands. -/
abbrev Undergoes (instruction : Local → Instruction Value Local) (start : Local) :
    List (Exchange Value) → Local → Prop :=
  Execution (fun state exchange next => Exchanges (instruction state) exchange next) start

section Wires

variable [DecidableEq Wire]

def Exchange.sentOn (wire : Wire) : Exchange Value → Option (Value wire)
  | .sent other value => if same : other = wire then some (same ▸ value) else none
  | .received _ _ => none

def Exchange.receivedOn (wire : Wire) : Exchange Value → Option (Value wire)
  | .sent _ _ => none
  | .received other value => if same : other = wire then some (same ▸ value) else none

def sentIn (wire : Wire) (history : List (Exchange Value)) : List (Value wire) :=
  history.filterMap (Exchange.sentOn wire)

def receivedIn (wire : Wire) (history : List (Exchange Value)) : List (Value wire) :=
  history.filterMap (Exchange.receivedOn wire)

/-- The value that a process is about to send on a wire, if any. -/
def Instruction.offers (wire : Wire) : Instruction Value Local → List (Value wire)
  | .send other value _ => if same : other = wire then [same ▸ value] else []
  | .recv _ _ | .finish | .abort => []

variable {wire other : Wire} {history later : List (Exchange Value)}

@[simp]
theorem sentIn_append : sentIn wire (history ++ later) = sentIn wire history ++ sentIn wire later :=
  List.filterMap_append

@[simp]
theorem receivedIn_append :
    receivedIn wire (history ++ later) = receivedIn wire history ++ receivedIn wire later :=
  List.filterMap_append

@[simp]
theorem sentIn_sent (value : Value wire) :
    sentIn wire (.sent wire value :: later) = value :: sentIn wire later := by
  simp [sentIn, Exchange.sentOn]

@[simp]
theorem sentIn_sent_of_ne (value : Value other) (different : other ≠ wire) :
    sentIn wire (.sent other value :: later) = sentIn wire later := by
  simp [sentIn, Exchange.sentOn, different]

@[simp]
theorem sentIn_received (value : Value other) :
    sentIn wire (.received other value :: later) = sentIn wire later := rfl

@[simp]
theorem receivedIn_received (value : Value wire) :
    receivedIn wire (.received wire value :: later) = value :: receivedIn wire later := by
  simp [receivedIn, Exchange.receivedOn]

@[simp]
theorem receivedIn_received_of_ne (value : Value other) (different : other ≠ wire) :
    receivedIn wire (.received other value :: later) = receivedIn wire later := by
  simp [receivedIn, Exchange.receivedOn, different]

@[simp]
theorem receivedIn_sent (value : Value other) :
    receivedIn wire (.sent other value :: later) = receivedIn wire later := rfl

@[simp]
theorem sentIn_nil : sentIn wire ([] : List (Exchange Value)) = [] := rfl

@[simp]
theorem receivedIn_nil : receivedIn wire ([] : List (Exchange Value)) = [] := rfl

@[simp]
theorem Instruction.offers_send (value : Value wire) (next : Local) :
    (Instruction.send wire value next).offers wire = [value] := by
  simp [offers]

theorem Instruction.offers_send_of_ne (value : Value other) (next : Local)
    (different : other ≠ wire) : (Instruction.send other value next).offers wire = [] := by
  simp [offers, different]

end Wires

namespace Undergoes

variable {instruction : Local → Instruction Value Local} {start state state' : Local}
  {history history' : List (Exchange Value)}

theorem unique (run : Undergoes instruction start history state)
    (same : Undergoes instruction start history state') : state' = state := by
  induction run generalizing state' with
  | nil => exact Execution.nil_iff.mp same
  | snoc _ taken inductionHypothesis =>
      obtain ⟨middle, early, takenToo⟩ := Execution.snoc_iff.mp same
      rw [inductionHypothesis early] at takenToo
      generalize instruction _ = instructed at taken takenToo
      cases taken with
      | sent =>
          cases takenToo
          rfl
      | received =>
          cases takenToo
          rfl

theorem exchanges (run : Undergoes instruction start history state) {exchange : Exchange Value}
    {later : List (Exchange Value)}
    (goesOn : Undergoes instruction start (history ++ exchange :: later) state') :
    ∃ next, Exchanges (instruction state) exchange next := by
  rw [List.append_cons] at goesOn
  obtain ⟨middle, early, -⟩ := Execution.split goesOn
  obtain ⟨before, toThere, taken⟩ := Execution.snoc_iff.mp early
  rw [run.unique toThere] at taken
  exact ⟨middle, taken⟩

theorem eq_or_exchanges (run : Undergoes instruction start history state)
    (run' : Undergoes instruction start history' state') (before : history <+: history') :
    (history' = history ∧ state' = state) ∨
      ∃ exchange later next, history' = history ++ exchange :: later ∧
        Exchanges (instruction state) exchange next := by
  obtain ⟨rest, rfl⟩ := before
  cases rest with
  | nil =>
      rw [List.append_nil] at run' ⊢
      exact .inl ⟨rfl, run.unique run'⟩
  | cons exchange later =>
      obtain ⟨next, taken⟩ := run.exchanges run'
      exact .inr ⟨exchange, later, next, rfl, taken⟩

variable [DecidableEq Wire]

/-- If a process is given a value that is consistent with what it has been given in another
history, then its history stays consistent with that one. -/
theorem consistent_snoc {exchange : Exchange Value}
    (run : Undergoes instruction start (history ++ [exchange]) state)
    (run' : Undergoes instruction start history' state') (known : Consistent history history')
    (inputs : ∀ wire value, exchange = .received wire value →
      Consistent (receivedIn wire (history ++ [exchange])) (receivedIn wire history')) :
    Consistent (history ++ [exchange]) history' := by
  rcases known with ⟨rest, rfl⟩ | behind
  · cases rest with
    | nil =>
        rw [List.append_nil]
        exact .inr (List.prefix_append ..)
    | cons exchange' rest =>
        obtain ⟨middle, early, taken⟩ := Execution.snoc_iff.mp run
        obtain ⟨next, takenToo⟩ := exchanges early run'
        have same : exchange = exchange' := by
          generalize instruction middle = instructed at taken takenToo
          cases taken with
          | sent =>
              cases takenToo
              rfl
          | @received wire value _ =>
              cases takenToo with
              | @received _ value' _ =>
                  have agreed := inputs wire value rfl
                  rw [receivedIn_append, receivedIn_append, receivedIn_received,
                    receivedIn_received] at agreed
                  rw [agreed.eq_of_append]
        rw [same]
        exact .inl ⟨rest, (List.append_cons ..).symm⟩
  · exact .inr (behind.trans (List.prefix_append ..))

/-- What has been sent and what is about to be sent in consistent histories is consistent. -/
theorem consistent_offers (run : Undergoes instruction start history state)
    (run' : Undergoes instruction start history' state') (known : Consistent history history')
    (wire : Wire) :
    Consistent (sentIn wire history ++ (instruction state).offers wire)
      (sentIn wire history' ++ (instruction state').offers wire) := by
  -- one history is the longer one, and it has sent what the other one offers
  have ahead : ∀ {history history' : List (Exchange Value)} {state state' : Local},
      Undergoes instruction start history state → Undergoes instruction start history' state' →
      history <+: history' →
      sentIn wire history ++ (instruction state).offers wire <+:
        sentIn wire history' ++ (instruction state').offers wire := by
    intro history history' state state' run run' before
    rcases run.eq_or_exchanges run' before with ⟨rfl, rfl⟩ | ⟨exchange, rest, next, rfl, taken⟩
    · exact List.prefix_rfl
    · rw [sentIn_append, List.append_assoc, List.prefix_append_right_inj]
      generalize instruction state = instructed at taken
      cases taken with
      | @sent other value _ =>
          by_cases same : other = wire
          · subst same
            rw [Instruction.offers_send, sentIn_sent]
            exact ⟨_, rfl⟩
          · rw [Instruction.offers_send_of_ne _ _ same]
            exact List.nil_prefix
      | received => exact List.nil_prefix
  rcases known with before | behind
  · exact .inl (ahead run run' before)
  · exact .inr (ahead run' run behind)

omit [DecidableEq Wire] in
theorem isPrefix_of_finish (run : Undergoes instruction start history state)
    (finishes : instruction state = .finish)
    (run' : Undergoes instruction start history' state') (known : Consistent history history') :
    history' <+: history := by
  rcases known with before | behind
  · rcases run.eq_or_exchanges run' before with ⟨rfl, -⟩ | ⟨exchange, rest, next, rfl, taken⟩
    · exact List.prefix_rfl
    · rw [finishes] at taken
      cases taken
  · exact behind

end Undergoes

end Gloc.Transition
