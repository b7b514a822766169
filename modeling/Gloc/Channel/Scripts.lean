import Gloc.Channel.Network

/-!
# Scripts of networks

What a process does is determined by what it receives.  Hence there is a script
for every run of a network: the acts of each process, such that what one receives
is what another one sends.  On every channel a run of the network is a run of the
pipe with the values of the script.
-/

namespace Gloc.Channel

open Gloc.Transition

universe u v w

def callsAt {Wire : Type v} {Value : Wire → Type w} [DecidableEq Wire] (wire : Wire)
    (thread : End) (acts : List (Act Value)) : List (Op (Value wire)) :=
  pipe (sentOn wire acts) (receivedOn wire acts) thread

inductive ActsAt {Wire : Type v} {Value : Wire → Type w} (wire : Wire) :
    End → Act Value → Prop where
  | send {value} : ActsAt wire .sender (.send wire value)
  | recv : ActsAt wire .receiver (.recv wire)

section CallsAt

variable {Wire : Type v} {Value : Wire → Type w} [DecidableEq Wire] {wire other : Wire}
  {thread elsewhere : End} {act : Act Value} {later : List (Act Value)}

omit [DecidableEq Wire] in
theorem ActsAt.unique (acts : ActsAt wire thread act) (same : ActsAt other elsewhere act) :
    other = wire ∧ elsewhere = thread := by
  cases acts with
  | send =>
      cases same
      exact ⟨rfl, rfl⟩
  | recv =>
      cases same
      exact ⟨rfl, rfl⟩

theorem callsAt_send (value : Value wire) :
    callsAt wire .sender (.send wire value :: later) =
      .send value :: callsAt wire .sender later := by
  simp [callsAt, pipe]

theorem callsAt_recv : callsAt wire .receiver (.recv wire :: later) =
    .recv .value :: callsAt wire .receiver later := by
  simp [callsAt, pipe, List.replicate_succ]

theorem ActsAt.callsAt_elsewhere (acts : ActsAt other elsewhere act)
    (different : other ≠ wire ∨ elsewhere ≠ thread) :
    callsAt wire thread (act :: later) = callsAt wire thread later := by
  cases acts with
  | send =>
      by_cases same : other = wire
      · subst same
        cases thread with
        | sender => simp at different
        | receiver => simp [callsAt, pipe]
      · simp [callsAt, same]
  | recv =>
      by_cases same : other = wire
      · subst same
        cases thread with
        | sender => simp [callsAt, pipe]
        | receiver => simp at different
      · simp [callsAt, same]

end CallsAt

section Busy

variable {T : Type w} {N : Nat}

theorem Critical.busy {Thread : Type u} {me : Thread} {phase next : Phase T}
    {c after : Chan Thread T} {event : Option (Event Thread T)}
    (stretch : Critical N me phase c event next after) :
    phase.busy = 1 ∧ ((∃ result, event = some (.returned me result)) ∨ next.busy = 1) := by
  cases stretch with
  | recvTake receiving => rcases receiving with rfl | rfl <;> exact ⟨rfl, .inr rfl⟩
  | tryRefuse => exact ⟨rfl, .inl ⟨_, rfl⟩⟩
  | tryRecvMiss => exact ⟨rfl, .inl ⟨_, rfl⟩⟩
  | _ => exact ⟨rfl, .inr rfl⟩

namespace System

variable {Thread : Type u} [DecidableEq Thread] [Fintype Thread] {s t : System Thread T}
  {action : Action Thread T} {event : Option (Event Thread T)} {thread : Thread}

theorem Moves.busy (moved : Moves N s action event t)
    (noCall : ∀ thread op, action ≠ .call thread op)
    (noReturn : ∀ result, event ≠ some (.returned thread result)) :
    (t.phase thread).busy = (s.phase thread).busy := by
  by_cases acting : thread = action.thread
  · cases moved with
    | call => exact absurd rfl (noCall _ _)
    | lock stretch =>
        subst acting
        obtain ⟨before, ⟨result, returned⟩ | after⟩ := stretch.busy
        · exact absurd returned (noReturn result)
        · rw [setPhase_self, after]
          exact before.symm
    | refuse =>
        subst acting
        exact absurd rfl (noReturn _)
    | @notify thread woken cv phase result due =>
        subst acting
        rw [setPhase_self]
        generalize s.phase thread = current at due
        cases current with
        | sendNotify =>
            cases due
            rfl
        | _ => first | cases due; done | (cases due; exact absurd rfl (noReturn _))
    | spurious =>
        subst acting
        rw [setPhase_self]
        exact Phase.busy_wake _
  · rcases moved.bystander acting with same | woken
    · rw [same]
    · rw [woken, Phase.busy_wake]

theorem Moves.returned {result : Result T}
    (moved : Moves N s action (some (.returned thread result)) t) :
    (∀ thread op, action ≠ .call thread op) ∧ t.phase thread = .idle ∧
      ((s.phase thread).selecting = true ∨
        (s.phase thread = .sendReturn ∧ result = .sent) ∨
        ∃ form u cv, s.phase thread = .recvReturn form u cv ∧ result = .received form u) := by
  have acting : thread = action.thread := moved.event_thread
  generalize observed : some (Event.returned thread result) = event at moved
  cases moved with
  | call => cases observed
  | lock stretch =>
      subst acting
      subst observed
      refine ⟨by simp, ?_, .inl ?_⟩
      · rw [setPhase_self]
        generalize s.phase _ = current at stretch
        cases stretch with
        | tryRefuse => rfl
        | tryRecvMiss => rfl
      · generalize s.phase thread = current at stretch
        cases stretch with
        | tryRefuse => rfl
        | tryRecvMiss => rfl
  | refuse refused =>
      subst acting
      refine ⟨by simp, setPhase_self .., .inl ?_⟩
      generalize s.phase thread = current at refused
      cases current with
      | trySend => rfl
      | tryRecvPtr => rfl
      | _ => cases refused
  | notify due =>
      subst acting
      rw [setPhase_self]
      refine ⟨by simp, ?_⟩
      generalize s.phase thread = current at due
      cases current with
      | sendReturn =>
          cases due
          cases observed
          exact ⟨rfl, .inr (.inl ⟨rfl, rfl⟩)⟩
      | recvReturn form u cv =>
          cases due
          cases observed
          exact ⟨rfl, .inr (.inr ⟨form, u, _, rfl, rfl⟩)⟩
      | trySendReturn =>
          cases due
          exact ⟨rfl, .inl rfl⟩
      | tryRecvReturn =>
          cases due
          exact ⟨rfl, .inl rfl⟩
      | sendNotify =>
          cases due
          cases observed
      | _ => cases due
  | spurious => cases observed

theorem Moves.busy_of_returned {result : Result T}
    (moved : Moves N s action (some (.returned thread result)) t) :
    (s.phase thread).busy = 1 := by
  rcases (s.phase thread).idle_or_busy with idle | busy
  · rcases moved.returned.2.2 with selecting | ⟨standing, -⟩ | ⟨_, _, _, standing, -⟩
    · rw [idle] at selecting
      cases selecting
    · cases idle.symm.trans standing
    · cases idle.symm.trans standing
  · exact busy

end System

end Busy

namespace Network

variable {Node : Type u} {Wire : Type v} [DecidableEq Wire]

structure Script (network : Network Node Wire) where
  acts : Node → List (Act network.Value)
  ending : Node → Ending
  performs : ∀ node, Performs (network.instruction node) (network.start node)
    (fun wire => sentOn wire (acts (network.source wire))) (acts node) (ending node)

namespace Script

variable {network : Network Node Wire} (script : network.Script)

def values (wire : Wire) : List (network.Value wire) :=
  sentOn wire (script.acts (network.source wire))

def calls (wire : Wire) : Nat :=
  receivedOn wire (script.acts (network.target wire))

end Script

/-- A channel with the calls that are left to make of these acts.  An act is left as
long as it has not been completed. -/
def clients (network : Network Node Wire) (s : network.State)
    (acts : Node → List (Act network.Value)) (wire : Wire) :
    Clients End (network.Value wire) where
  system := s.channel wire
  rest thread :=
    callsAt wire thread
      ((acts (network.owner wire thread)).drop ((s.channel wire).phase thread).busy)

/-- A run of the network so far, and the acts that are left of the script. -/
structure Follows (network : Network Node Wire) (asserts : Asserts) (script : network.Script)
    (past : List network.Happens) (s : network.State)
    (acts : Node → List (Act network.Value)) : Prop where
  performs : ∀ node, Performs (network.instruction node) (s.node node)
    (fun wire => (script.values wire).drop (received wire past)) (acts node) (script.ending node)
  channels : ∀ wire, Clients.Reaches asserts (network.capacity wire)
    (pipe (script.values wire) (script.calls wire)) (happensOn wire past)
    (network.clients s acts wire)
  busy : ∀ wire thread, ((s.channel wire).phase thread).busy = 1 →
    ∃ act ∈ (acts (network.owner wire thread)).head?, ActsAt wire thread act

/-- The clients of the channel on which something happens take a step, and the others do
not. -/
structure Advances (network : Network Node Wire) (asserts : Asserts) (happens : network.Happens)
    (before after : (wire : Wire) → Clients End (network.Value wire)) : Prop where
  taken : Clients.Step asserts (network.capacity happens.1) (before happens.1) happens.2
    (after happens.1)
  elsewhere : ∀ other, other ≠ happens.1 → after other = before other

section Clients

variable {network : Network Node Wire} {asserts : Asserts} {s : network.State}
  {acts : Node → List (Act network.Value)} {past : List network.Happens}

theorem Advances.reaches {happens : network.Happens}
    {before after : (wire : Wire) → Clients End (network.Value wire)}
    {programs : (wire : Wire) → End → List (Op (network.Value wire))}
    (advances : network.Advances asserts happens before after)
    (reached : ∀ wire, Clients.Reaches asserts (network.capacity wire) (programs wire)
      (happensOn wire past) (before wire)) (wire : Wire) :
    Clients.Reaches asserts (network.capacity wire) (programs wire)
      (happensOn wire (past ++ [happens])) (after wire) := by
  obtain ⟨place, label⟩ := happens
  by_cases same : place = wire
  · subst same
    rw [happensOn_snoc]
    exact .snoc (reached place) advances.taken
  · rw [happensOn_snoc_of_ne same, advances.elsewhere wire (Ne.symm same)]
    exact reached wire

theorem received_snoc {wire : Wire} (action : Action End (network.Value wire))
    (event : Option (Event End (network.Value wire))) :
    received wire (past ++ [⟨wire, action, event⟩]) =
      received wire past + (results .receiver event.toList).length := by
  rw [received, happensOn_snoc, trace_append, trace_single, results_append, List.length_append,
    received]

theorem received_snoc_of_silent {wire : Wire} {action : Action End (network.Value wire)}
    {event : Option (Event End (network.Value wire))} (silent : results .receiver event.toList = [])
    (other : Wire) : received other (past ++ [⟨wire, action, event⟩]) = received other past := by
  by_cases same : wire = other
  · subst same
    rw [received_snoc, silent, List.length_nil, Nat.add_zero]
  · exact received_snoc_of_ne same _

theorem clients_rest (wire : Wire) (thread : End) :
    (network.clients s acts wire).rest thread =
      callsAt wire thread
        ((acts (network.owner wire thread)).drop ((s.channel wire).phase thread).busy) := rfl

theorem clients_withChannel {wire : Wire} (t : System End (network.Value wire)) :
    network.clients (network.withChannel s wire t) acts wire =
      ⟨t, fun thread => callsAt wire thread
        ((acts (network.owner wire thread)).drop (t.phase thread).busy)⟩ := by
  simp only [clients, withChannel_self]

theorem clients_withChannel_of_ne {wire other : Wire} (different : other ≠ wire)
    (t : System End (network.Value wire)) :
    network.clients (network.withChannel s wire t) acts other = network.clients s acts other := by
  simp only [clients, withChannel_of_ne _ _ different]

end Clients

namespace Follows

variable {network : Network Node Wire} {asserts : Asserts} {script : network.Script}
  {past : List network.Happens} {s next : network.State}
  {acts : Node → List (Act network.Value)}

theorem init : Follows network asserts script [] network.init script.acts where
  performs := script.performs
  channels wire := by
    have programs : network.clients network.init script.acts wire =
        .init (pipe (script.values wire) (script.calls wire)) := by
      unfold clients Clients.init
      congr 1
      funext thread
      cases thread with
      | sender => rfl
      | receiver => rfl
    rw [programs]
    exact .nil
  busy wire thread busy := by cases busy

theorem of_calls (follows : Follows network asserts script past s acts) {wire : Wire}
    {thread : End} {op : Op (network.Value wire)}
    (calls : Calls (network.instructionAt s wire thread) wire thread op) :
    ∃ act later, acts (network.owner wire thread) = act :: later ∧ ActsAt wire thread act ∧
      callsAt wire thread (act :: later) = op :: callsAt wire thread later := by
  have performs := follows.performs (network.owner wire thread)
  generalize instructed : network.instructionAt s wire thread = instruction at calls
  cases calls with
  | send =>
      obtain ⟨later, left, -⟩ := performs.of_send instructed
      exact ⟨_, later, left, .send, callsAt_send _⟩
  | recv =>
      obtain ⟨later, left, -⟩ := performs.of_recv instructed
      exact ⟨_, later, left, .recv, callsAt_recv⟩

theorem withChannel (follows : Follows network asserts script past s acts) {wire : Wire}
    {label : Label End (network.Value wire)} {t : System End (network.Value wire)}
    (taken : Clients.Step asserts (network.capacity wire) (network.clients s acts wire) label
      (network.clients (network.withChannel s wire t) acts wire))
    (silent : results .receiver label.2.toList = [])
    (busy : ∀ thread, (t.phase thread).busy = 1 →
      ∃ act ∈ (acts (network.owner wire thread)).head?, ActsAt wire thread act) :
    network.Advances asserts ⟨wire, label⟩ (network.clients s acts)
        (network.clients (network.withChannel s wire t) acts) ∧
      Follows network asserts script (past ++ [⟨wire, label⟩])
        (network.withChannel s wire t) acts := by
  have advances : network.Advances asserts ⟨wire, label⟩ (network.clients s acts)
      (network.clients (network.withChannel s wire t) acts) :=
    ⟨taken, fun other different => clients_withChannel_of_ne different t⟩
  refine ⟨advances, ?_, advances.reaches follows.channels, ?_⟩
  · intro node
    obtain ⟨action, event⟩ := label
    simp only [received_snoc_of_silent silent]
    exact follows.performs node
  · intro other thread busyThere
    by_cases equal : other = wire
    · subst equal
      rw [withChannel_self] at busyThere
      exact busy thread busyThere
    · rw [withChannel_of_ne _ _ equal] at busyThere
      exact follows.busy other thread busyThere

theorem call (follows : Follows network asserts script past s acts) {wire : Wire} {thread : End}
    {op : Op (network.Value wire)} {event : Option (Event End (network.Value wire))}
    {t : System End (network.Value wire)}
    (calls : Calls (network.instructionAt s wire thread) wire thread op)
    (taken : System.Step asserts (network.capacity wire) (s.channel wire)
      (.call thread op, event) t) :
    network.Advances asserts ⟨wire, .call thread op, event⟩ (network.clients s acts)
        (network.clients (network.withChannel s wire t) acts) ∧
      Follows network asserts script (past ++ [⟨wire, .call thread op, event⟩])
        (network.withChannel s wire t) acts := by
  obtain ⟨act, later, left, place, program⟩ := follows.of_calls calls
  have moved := System.Step.moves taken
  obtain ⟨standing, observed, rfl⟩ : (s.channel wire).phase thread = .idle ∧
      event = some (.called thread op) ∧ t = (s.channel wire).setPhase thread (.start op) := by
    cases moved with
    | call standing => exact ⟨standing, rfl, rfl⟩
  have started : (Phase.start op).busy = 1 := by cases op <;> rfl
  have due : (network.clients s acts wire).rest thread = op :: callsAt wire thread later := by
    rw [← program, ← left]
    simp [clients, standing, Phase.busy]
  apply follows.withChannel
  · refine ⟨⟨_, due⟩, ?_, ?_⟩
    · rw [clients_withChannel]
      exact taken
    · rw [clients_withChannel]
      funext other
      by_cases same : other = thread
      · subst same
        simp only [Clients.advance, Function.update_self, System.setPhase_self, due, started,
          left, List.tail_cons, List.drop_one]
      · simp only [Clients.advance, Function.update_of_ne same, System.setPhase_of_ne _ same,
          clients]
  · rw [observed]
    rfl
  · intro other busy
    by_cases same : other = thread
    · subst same
      rw [left]
      exact ⟨act, rfl, place⟩
    · rw [System.setPhase_of_ne _ same] at busy
      exact follows.busy wire other busy

theorem proceed (follows : Follows network asserts script past s acts) {wire : Wire}
    {action : Action End (network.Value wire)}
    {event : Option (Event End (network.Value wire))} {t : System End (network.Value wire)}
    (noCall : ∀ thread op, action ≠ .call thread op)
    (noReturn : ∀ thread result, event ≠ some (.returned thread result))
    (taken : System.Step asserts (network.capacity wire) (s.channel wire) (action, event) t) :
    network.Advances asserts ⟨wire, action, event⟩ (network.clients s acts)
        (network.clients (network.withChannel s wire t) acts) ∧
      Follows network asserts script (past ++ [⟨wire, action, event⟩])
        (network.withChannel s wire t) acts := by
  have moved := System.Step.moves taken
  have same : ∀ thread, (t.phase thread).busy = ((s.channel wire).phase thread).busy :=
    fun thread => moved.busy noCall (noReturn thread)
  apply follows.withChannel
  · refine ⟨Clients.follows_of_noCall noCall _, ?_, ?_⟩
    · rw [clients_withChannel]
      exact taken
    · rw [clients_withChannel, Clients.advance_of_noCall noCall]
      funext thread
      simp only [same]
      rfl
  · cases event with
    | none => rfl
    | some seen =>
        cases seen with
        | returned thread result => exact absurd rfl (noReturn thread result)
        | _ => rfl
  · intro thread busy
    rw [same] at busy
    exact follows.busy wire thread busy

/-- While a call is made, the process that makes it makes no other one. -/
theorem idle_elsewhere (follows : Follows network asserts script past s acts)
    {wire other : Wire} {thread elsewhere : End} {act : Act network.Value}
    {later : List (Act network.Value)} (left : acts (network.owner wire thread) = act :: later)
    (place : ActsAt wire thread act) (different : other ≠ wire ∨ elsewhere ≠ thread)
    (same : network.owner other elsewhere = network.owner wire thread) :
    ((s.channel other).phase elsewhere).busy = 0 := by
  rcases ((s.channel other).phase elsewhere).idle_or_busy with idle | busy
  · rw [idle]
    rfl
  · obtain ⟨found, first, there⟩ := follows.busy other elsewhere busy
    rw [same, left] at first
    cases first
    obtain ⟨sameWire, sameThread⟩ := place.unique there
    rcases different with wires | threads
    · exact absurd sameWire wires
    · exact absurd sameThread threads

theorem rest_elsewhere (follows : Follows network asserts script past s acts)
    [DecidableEq Node] {wire other : Wire} {thread elsewhere : End} {act : Act network.Value}
    {later : List (Act network.Value)} (left : acts (network.owner wire thread) = act :: later)
    (place : ActsAt wire thread act) (different : other ≠ wire ∨ elsewhere ≠ thread) :
    callsAt other elsewhere
        ((Function.update acts (network.owner wire thread) later
          (network.owner other elsewhere)).drop ((s.channel other).phase elsewhere).busy) =
      (network.clients s acts other).rest elsewhere := by
  by_cases same : network.owner other elsewhere = network.owner wire thread
  · rw [clients_rest, same, Function.update_self, left,
      follows.idle_elsewhere left place different same, List.drop_zero, List.drop_zero]
    refine (place.callsAt_elsewhere ?_).symm
    rcases different with wires | threads
    · exact .inl (Ne.symm wires)
    · exact .inr (Ne.symm threads)
  · rw [clients_rest, Function.update_of_ne same]

theorem performs_elsewhere (follows : Follows network asserts script past s acts) {wire : Wire}
    {action : Action End (network.Value wire)} {thread : End} {result : Result (network.Value wire)}
    {node : Node} (different : node ≠ network.owner wire thread) :
    Performs (network.instruction node) (s.node node)
      (fun other => (script.values other).drop
        (received other (past ++ [⟨wire, action, some (.returned thread result)⟩])))
      (acts node) (script.ending node) := by
  refine (follows.performs node).congr (fun other => network.target other = node)
    network.receives fun other reads => ?_
  cases thread with
  | sender => rw [received_snoc_of_silent rfl]
  | receiver =>
      have elsewhere : wire ≠ other := by
        rintro rfl
        exact different reads.symm
      rw [received_snoc_of_ne elsewhere]

variable [DecidableEq Node]

theorem advances_returns (follows : Follows network asserts script past s acts) {wire : Wire}
    {action : Action End (network.Value wire)} {thread : End} {result : Result (network.Value wire)}
    {t : System End (network.Value wire)} {act : Act network.Value}
    {later : List (Act network.Value)} (left : acts (network.owner wire thread) = act :: later)
    (place : ActsAt wire thread act)
    (taken : System.Step asserts (network.capacity wire) (s.channel wire)
      (action, some (.returned thread result)) t) :
    network.Advances asserts ⟨wire, action, some (.returned thread result)⟩
      (network.clients s acts)
      (network.clients (network.withChannel s wire t)
        (Function.update acts (network.owner wire thread) later)) := by
  have moved := System.Step.moves taken
  have busy := moved.busy_of_returned
  obtain ⟨noCall, idle, -⟩ := moved.returned
  refine ⟨⟨Clients.follows_of_noCall noCall _, ?_, ?_⟩, fun other different => ?_⟩
  · rw [clients_withChannel]
    exact taken
  · rw [clients_withChannel, Clients.advance_of_noCall noCall]
    funext other
    by_cases same : other = thread
    · subst same
      simp only [clients_rest, Function.update_self, idle, busy, left]
      rfl
    · have stays : (t.phase other).busy = ((s.channel wire).phase other).busy :=
        moved.busy noCall fun result observed => by
          cases observed
          exact same rfl
      simp only [stays]
      exact follows.rest_elsewhere left place (.inr same)
  · rw [clients_withChannel_of_ne different]
    unfold clients
    congr 1
    funext elsewhere
    exact follows.rest_elsewhere left place (.inl different)

theorem of_continues (follows : Follows network asserts script past s acts) {wire : Wire}
    {action : Action End (network.Value wire)} {thread : End} {result : Result (network.Value wire)}
    {t : System End (network.Value wire)} {next : network.Local (network.owner wire thread)}
    (taken : System.Step asserts (network.capacity wire) (s.channel wire)
      (action, some (.returned thread result)) t)
    (continues : Continues (network.instructionAt s wire thread) wire thread result next) :
    ∃ act later, acts (network.owner wire thread) = act :: later ∧ ActsAt wire thread act ∧
      Performs (network.instruction (network.owner wire thread)) next
        (fun other => (script.values other).drop
          (received other (past ++ [⟨wire, action, some (.returned thread result)⟩])))
        later (script.ending (network.owner wire thread)) := by
  have performs := follows.performs (network.owner wire thread)
  generalize instructed : network.instructionAt s wire thread = instruction at continues
  cases continues with
  | sent =>
      obtain ⟨later, left, performs⟩ := performs.of_send instructed
      refine ⟨_, later, left, .send, ?_⟩
      have silent : results .receiver
          (some (Event.returned End.sender (Result.sent (T := network.Value wire)))).toList = [] :=
        rfl
      simp only [received_snoc_of_silent silent]
      exact performs
  | @received _ _ value =>
      obtain ⟨later, left, performs⟩ := performs.of_recv instructed
      refine ⟨_, later, left, .recv, ?_⟩
      have reached := (follows.advances_returns left .recv taken).reaches follows.channels wire
      rw [happensOn_snoc] at reached
      have available := Piped.drop_of_received reached
      apply (performs value _ available).congr (fun _ => True) (fun _ => trivial)
      intro other _
      by_cases equal : wire = other
      · subst equal
        rw [received_snoc, Function.update_self]
        rfl
      · rw [received_snoc_of_ne equal, Function.update_of_ne (Ne.symm equal)]

theorem returns (follows : Follows network asserts script past s acts) {wire : Wire}
    {action : Action End (network.Value wire)} {thread : End} {result : Result (network.Value wire)}
    {t : System End (network.Value wire)} {next : network.Local (network.owner wire thread)}
    (taken : System.Step asserts (network.capacity wire) (s.channel wire)
      (action, some (.returned thread result)) t)
    (continues : Continues (network.instructionAt s wire thread) wire thread result next) :
    ∃ acts', network.Advances asserts ⟨wire, action, some (.returned thread result)⟩
        (network.clients s acts) (network.clients
          { network.withChannel s wire t with node := Function.update s.node _ next } acts') ∧
      Follows network asserts script
        (past ++ [⟨wire, action, some (.returned thread result)⟩])
        { network.withChannel s wire t with node := Function.update s.node _ next } acts' := by
  obtain ⟨act, later, left, place, performs⟩ := follows.of_continues taken continues
  have advances := follows.advances_returns left place taken
  have moved := System.Step.moves taken
  obtain ⟨noCall, idle, -⟩ := moved.returned
  refine ⟨Function.update acts (network.owner wire thread) later, advances, ?_,
    advances.reaches follows.channels, ?_⟩
  · intro node
    by_cases same : node = network.owner wire thread
    · subst same
      simpa only [Function.update_self] using performs
    · simpa only [Function.update_of_ne same] using follows.performs_elsewhere same
  · intro other elsewhere busy
    have different : other ≠ wire ∨ elsewhere ≠ thread := by
      by_contra here
      rw [not_or, not_not, not_not] at here
      obtain ⟨rfl, rfl⟩ := here
      rw [withChannel_self, idle] at busy
      cases busy
    have before : ((s.channel other).phase elsewhere).busy = 1 := by
      by_cases equal : other = wire
      · subst equal
        rw [withChannel_self] at busy
        rw [← busy]
        refine (moved.busy noCall fun result observed => ?_).symm
        cases observed
        simp at different
      · rw [withChannel_of_ne _ _ equal] at busy
        exact busy
    by_cases same : network.owner other elsewhere = network.owner wire thread
    · cases (follows.idle_elsewhere left place different same).symm.trans before
    · rw [Function.update_of_ne same]
      exact follows.busy other elsewhere before

theorem step {happens : network.Happens} (follows : Follows network asserts script past s acts)
    (taken : network.Step asserts s happens next) :
    ∃ acts', network.Advances asserts happens (network.clients s acts)
        (network.clients next acts') ∧
      Follows network asserts script (past ++ [happens]) next acts' := by
  cases taken with
  | call calls moved => exact ⟨acts, follows.call calls moved⟩
  | proceed noCall noReturn moved => exact ⟨acts, follows.proceed noCall noReturn moved⟩
  | returns moved continues => exact follows.returns moved continues

/-- Every run of the network follows the script. -/
theorem of_reaches (script : network.Script) (run : network.Reaches asserts past s) :
    ∃ acts, Follows network asserts script past s acts := by
  refine Execution.invariant (fun past s => ∃ acts, Follows network asserts script past s acts)
    ⟨script.acts, init⟩ ?_ run
  rintro past s happens next - ⟨acts, follows⟩ taken
  obtain ⟨acts', -, later⟩ := follows.step taken
  exact ⟨acts', later⟩

end Follows

end Network

end Gloc.Channel
