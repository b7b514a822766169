import Gloc.Channel.Pipe
import Gloc.Transition.Processes

/-!
# Networks of channels

Several threads, each of which runs a process, are connected by channels, each
of which has one sending and one receiving thread.  A step of the network is a
step on one of the channels; a process goes on when its call has returned.
-/

namespace Gloc.Channel

open Gloc.Transition

universe u v w

/-- Processes and the channels between them.  The two ends of a channel belong to
different threads. -/
structure Network (Node : Type u) (Wire : Type v) where
  Value : Wire → Type w
  Local : Node → Type w
  source : Wire → Node
  target : Wire → Node
  distinct : ∀ wire, source wire ≠ target wire
  capacity : Wire → Nat
  instruction : (node : Node) → Local node → Instruction Value (Local node)
  start : (node : Node) → Local node
  sends : ∀ {node state wire value next},
    instruction node state = .send wire value next → source wire = node
  receives : ∀ {node state wire next},
    instruction node state = .recv wire next → target wire = node

namespace Network

variable {Node : Type u} {Wire : Type v}

def owner (network : Network Node Wire) (wire : Wire) : End → Node
  | .sender => network.source wire
  | .receiver => network.target wire

@[ext]
structure State (network : Network Node Wire) where
  channel : (wire : Wire) → System End (network.Value wire)
  node : (node : Node) → network.Local node

abbrev Happens (network : Network Node Wire) :=
  (wire : Wire) × Label End (network.Value wire)

def Happens.isSpurious {network : Network Node Wire} (happens : network.Happens) : Prop :=
  happens.2.1.isSpurious = true

section Instructions

variable {Value : Wire → Type w} {Local : Type w}

inductive Calls : Instruction Value Local → (wire : Wire) → End → Op (Value wire) → Prop where
  | send {wire value next} : Calls (.send wire value next) wire .sender (.send value)
  | recv {wire next} : Calls (.recv wire next) wire .receiver (.recv .value)

inductive Continues :
    Instruction Value Local → (wire : Wire) → End → Result (Value wire) → Local → Prop where
  | sent {wire value next} : Continues (.send wire value next) wire .sender .sent next
  | received {wire next value} :
      Continues (.recv wire next) wire .receiver (.received .value value) (next value)

end Instructions

variable [DecidableEq Wire] (network : Network Node Wire)

def instructionAt (s : network.State) (wire : Wire) (thread : End) :
    Instruction network.Value (network.Local (network.owner wire thread)) :=
  network.instruction _ (s.node (network.owner wire thread))

def withChannel (s : network.State) (wire : Wire) (t : System End (network.Value wire)) :
    network.State :=
  { s with channel := Function.update s.channel wire t }

theorem withChannel_self (s : network.State) (wire : Wire)
    (t : System End (network.Value wire)) : (network.withChannel s wire t).channel wire = t :=
  Function.update_self ..

theorem withChannel_of_ne (s : network.State) {wire other : Wire} (different : other ≠ wire)
    (t : System End (network.Value wire)) :
    (network.withChannel s wire t).channel other = s.channel other :=
  Function.update_of_ne different ..

section Steps

variable [DecidableEq Node] (asserts : Asserts)

/-- A thread calls an operation as its process says, does something in a call, or returns
from it. -/
inductive Step (s : network.State) : network.Happens → network.State → Prop where
  | call {wire thread op event t} :
      Calls (network.instructionAt s wire thread) wire thread op →
      System.Step asserts (network.capacity wire) (s.channel wire) (.call thread op, event) t →
      Step s ⟨wire, .call thread op, event⟩ (network.withChannel s wire t)
  | proceed {wire action event t} :
      (∀ thread op, action ≠ .call thread op) →
      (∀ thread result, event ≠ some (.returned thread result)) →
      System.Step asserts (network.capacity wire) (s.channel wire) (action, event) t →
      Step s ⟨wire, action, event⟩ (network.withChannel s wire t)
  | returns {wire action thread result t next} :
      System.Step asserts (network.capacity wire) (s.channel wire)
        (action, some (.returned thread result)) t →
      Continues (network.instructionAt s wire thread) wire thread result next →
      Step s ⟨wire, action, some (.returned thread result)⟩
        { network.withChannel s wire t with node := Function.update s.node _ next }

def init : network.State :=
  { channel := fun _ => System.init, node := network.start }

abbrev Reaches : List network.Happens → network.State → Prop :=
  Execution (network.Step asserts) network.init

def Finished (s : network.State) : Prop :=
  ∀ node, network.instruction node (s.node node) = .finish

/-- No assertion fails, neither in a process nor in a channel. -/
def Safe (s : network.State) : Prop :=
  (∀ node, network.instruction node (s.node node) ≠ .abort) ∧
    ∀ wire action site, (s.channel wire).step asserts (network.capacity wire) action ≠
      some (.error site)

/-- Whatever the schedule, no assertion fails and all processes finish. -/
def Finishes : Prop :=
  (∀ past s, network.Reaches asserts past s → network.Safe asserts s) ∧
    ∀ past s, network.Reaches asserts past s → ∀ budget,
      Inevitable (network.Step asserts) Happens.isSpurious network.Finished budget s

end Steps

def happensOn {network : Network Node Wire} (wire : Wire) (past : List network.Happens) :
    List (Label End (network.Value wire)) :=
  past.filterMap fun happens =>
    if same : happens.1 = wire then some (same ▸ happens.2) else none

def received {network : Network Node Wire} (wire : Wire) (past : List network.Happens) : Nat :=
  (results .receiver (trace (happensOn wire past))).length

section HappensOn

variable {network : Network Node Wire} {wire other : Wire}
  {past : List network.Happens}

theorem happensOn_snoc (label : Label End (network.Value wire)) :
    happensOn wire (past ++ [⟨wire, label⟩]) = happensOn wire past ++ [label] := by
  simp [happensOn]

theorem happensOn_snoc_of_ne (different : other ≠ wire)
    (label : Label End (network.Value other)) :
    happensOn wire (past ++ [⟨other, label⟩]) = happensOn wire past := by
  simp [happensOn, different]

theorem received_snoc_of_ne (different : other ≠ wire)
    (label : Label End (network.Value other)) :
    received wire (past ++ [⟨other, label⟩]) = received wire past := by
  rw [received, happensOn_snoc_of_ne different, received]

end HappensOn

end Network

end Gloc.Channel
