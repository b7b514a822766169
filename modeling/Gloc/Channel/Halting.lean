import Gloc.Channel.Backlogs
import Gloc.Channel.Streams

/-!
# Where networks halt

Nobody can be further ahead of its partner on a channel than the channel and the
calls in progress allow, and at rest nobody who is in a call could be further
ahead.  Therefore no run gets further than a network that has come to rest, with
the same capacities or with larger ones.
-/

namespace Gloc.Channel

open Gloc.Transition

universe u v w

def End.opposite : End → End
  | .sender => .receiver
  | .receiver => .sender

namespace Network

variable {Node : Type u} {Wire : Type v} [DecidableEq Wire] {network : Network Node Wire}

def passed (history : Node → List (Exchange network.Value)) (wire : Wire) : End → Nat
  | .sender => (sentIn wire (history (network.source wire))).length
  | .receiver => (receivedIn wire (history (network.target wire))).length

omit [DecidableEq Wire] in
theorem owner_opposite_ne (network : Network Node Wire) (wire : Wire) {thread : End} :
    network.owner wire thread.opposite ≠ network.owner wire thread := by
  cases thread with
  | sender => exact (network.distinct wire).symm
  | receiver => exact network.distinct wire

section Passed

variable {history others : Node → List (Exchange network.Value)} {wire : Wire} {thread : End}
  {node : Node} {exchange : Exchange network.Value}
  {place place' : (node : Node) → network.Local node}

theorem passed_le (before : history (network.owner wire thread) <+:
    others (network.owner wire thread)) :
    passed history wire thread ≤ passed others wire thread := by
  cases thread with
  | sender => exact (before.filterMap _).length_le
  | receiver => exact (before.filterMap _).length_le

theorem passed_append {later : List (Exchange network.Value)}
    (goesOn : others (network.owner wire thread) =
      history (network.owner wire thread) ++ exchange :: later)
    (there : ExchangedAt wire thread exchange) :
    passed history wire thread + 1 ≤ passed others wire thread := by
  cases there with
  | sent =>
      change others (network.source wire) = history (network.source wire) ++ _ at goesOn
      simp only [passed, goesOn, sentIn_append, sentIn_sent, List.length_append, List.length_cons]
      omega
  | received =>
      change others (network.target wire) = history (network.target wire) ++ _ at goesOn
      simp only [passed, goesOn, receivedIn_append, receivedIn_received, List.length_append,
        List.length_cons]
      omega

theorem stays_or_passes
    (undergoes : Undergoes (network.instruction _) (network.start _)
      (history (network.owner wire thread)) (place (network.owner wire thread)))
    (undergoes' : Undergoes (network.instruction _) (network.start _)
      (others (network.owner wire thread)) (place' (network.owner wire thread)))
    (before : history (network.owner wire thread) <+: others (network.owner wire thread))
    (calls : network.CallsAt place wire thread) :
    (passed others wire thread = passed history wire thread ∧
        place' (network.owner wire thread) = place (network.owner wire thread)) ∨
      passed history wire thread + 1 ≤ passed others wire thread := by
  rcases undergoes.eq_or_exchanges undergoes' before with
    ⟨same, stays⟩ | ⟨exchange, later, next, goesOn, exchanged⟩
  · refine .inl ⟨?_, stays⟩
    have behind : passed others wire thread ≤ passed history wire thread :=
      passed_le (by rw [same])
    exact behind.antisymm (passed_le before)
  · obtain ⟨op, calls⟩ := calls
    exact .inr (passed_append goesOn (calls.exchangedAt exchanged))

end Passed

/-- How far an end of a channel can be ahead of the other one: a channel takes as many
values as its capacity, and gives none before it has them. -/
def lead (capacity : Wire → Nat) (wire : Wire) : End → Nat
  | .sender => capacity wire
  | .receiver => 0

/-- Histories in which nobody is further ahead than the channels and the calls in progress
allow. -/
structure Paced (network : Network Node Wire) (place : (node : Node) → network.Local node)
    (history : Node → List (Exchange network.Value)) : Prop
    extends network.Accords place history where
  ahead : ∀ wire thread,
    passed history wire thread ≤
        passed history wire thread.opposite + lead network.capacity wire thread ∨
      passed history wire thread ≤
          passed history wire thread.opposite + lead network.capacity wire thread + 1 ∧
        network.CallsAt place wire thread.opposite

/-- Histories that end where every call is one for which its thread would have to be further
ahead than that. -/
structure Halted (network : Network Node Wire) (capacity : Wire → Nat)
    (place : (node : Node) → network.Local node)
    (history : Node → List (Exchange network.Value)) : Prop
    extends network.Accords place history where
  ahead : ∀ wire thread, network.CallsAt place wire thread →
    passed history wire thread.opposite + lead capacity wire thread ≤
      passed history wire thread
  apart : ∀ wire thread, network.CallsAt place wire thread →
    ¬ network.CallsAt place wire thread.opposite

section Histories

variable {place place' next : (node : Node) → network.Local node}
  {history after others : Node → List (Exchange network.Value)} {capacity : Wire → Nat}

/-- Where a network is at rest nobody can get further: a receiver would need a value that has
not been sent, and a sender room that has not been made. -/
theorem Halted.isPrefix_append {wire : Wire} {thread : End} {exchange : Exchange network.Value}
    (halted : network.Halted capacity place' others)
    (larger : ∀ wire, network.capacity wire ≤ capacity wire)
    (before : ∀ node, history node <+: others node)
    (undergoes : Undergoes (network.instruction _) (network.start _)
      (history (network.owner wire thread)) (place (network.owner wire thread)))
    (calls : network.CallsAt place wire thread) (there : ExchangedAt wire thread exchange)
    (later : network.Paced next after)
    (goesOn : after (network.owner wire thread) =
      history (network.owner wire thread) ++ [exchange])
    (elsewhere : ∀ other, other ≠ network.owner wire thread → after other = history other) :
    after (network.owner wire thread) <+: others (network.owner wire thread) := by
  rcases halted.consistent_append later.toAccords there goesOn elsewhere
    (fun node => .inl (before node)) with ahead | behind
  · exact ahead
  rw [goesOn] at behind ⊢
  rcases List.prefix_concat_iff.mp behind with same | behind
  · rw [same]
  -- otherwise the process has halted before the call
  exfalso
  have same : others (network.owner wire thread) = history (network.owner wire thread) :=
    behind.eq_of_length_le (before _).length_le
  have undergoes' := halted.undergoes (network.owner wire thread)
  rw [same] at undergoes'
  have stopped : network.CallsAt place' wire thread := calls.congr (undergoes.unique undergoes')
  have counted : passed others wire thread ≤ passed history wire thread :=
    passed_le (by rw [same])
  have further : passed history wire thread + 1 ≤ passed after wire thread :=
    passed_append goesOn there
  have stays := elsewhere (network.owner wire thread.opposite) (network.owner_opposite_ne wire)
  have started : after (network.owner wire thread.opposite) <+:
      others (network.owner wire thread.opposite) := by
    rw [stays]
    exact before _
  have behind : passed after wire thread.opposite ≤ passed others wire thread.opposite :=
    passed_le started
  have blocked := halted.ahead wire thread stopped
  have roomy : lead network.capacity wire thread ≤ lead capacity wire thread := by
    cases thread with
    | sender => exact larger wire
    | receiver => exact le_rfl
  rcases later.ahead wire thread with few | ⟨few, partner⟩
  · omega
  · -- what is missing, the partner has done or is about to do
    rcases stays_or_passes (later.undergoes _) (halted.undergoes _) started partner with
      ⟨-, waits⟩ | passes
    · exact halted.apart wire thread stopped (partner.congr waits)
    · omega

end Histories

namespace Recorded

variable [DecidableEq Node] {asserts : Asserts} {past : List network.Happens} {s : network.State}
  {history : Node → List (Exchange network.Value)}

omit [DecidableEq Node] in
theorem callsAt (recorded : Recorded network past s history) {wire : Wire} {thread : End}
    (busy : ((s.channel wire).phase thread).busy = 1) : network.CallsAt s.node wire thread :=
  recorded.busy wire thread _ busy rfl

theorem length_received (recorded : Recorded network past s history)
    (run : network.Reaches asserts past s) (wire : Wire) :
    (results .receiver (trace (happensOn wire past))).length = passed history wire .receiver := by
  obtain ⟨calls, made⟩ := recorded.reaches run wire
  rw [passed, ← recorded.received, delivered, Channel.received]
  rw [List.prefix_iff_eq_take.mp (Piped.results_firstValues made), ← List.map_take,
    List.filterMap_map, List.length_map]
  exact congrArg List.length List.filterMap_some.symm

omit [DecidableEq Node] in
theorem length_offered (recorded : Recorded network past s history) (wire : Wire) :
    (((network.instruction _ (s.node (network.source wire))).offers wire).take
      ((s.channel wire).phase .sender).busy).length = ((s.channel wire).phase .sender).busy := by
  rcases ((s.channel wire).phase .sender).idle_or_busy with idle | busy
  · rw [idle]
    rfl
  · obtain ⟨op, calls⟩ := recorded.callsAt busy
    rw [busy]
    change Calls (network.instruction _ (s.node (network.source wire))) _ _ _ at calls
    generalize network.instruction _ (s.node (network.source wire)) = instruction at calls
    cases calls with
    | send =>
        rw [Instruction.offers_send]
        rfl

theorem length_called (recorded : Recorded network past s history)
    (run : network.Reaches asserts past s) (wire : Wire) (thread : End) :
    (calledAt wire thread past).length =
      passed history wire thread + ((s.channel wire).phase thread).busy := by
  cases thread with
  | sender =>
      rw [recorded.called, List.length_map, List.length_append, recorded.length_offered, passed]
  | receiver =>
      have tally := Tally.of_reaches (Clients.reaches_of_system (run.onWire wire)) .receiver
      have made := tally.made
      have returned := tally.returned
      rw [List.append_nil] at made
      rw [made, recorded.length_received run] at returned
      exact returned.symm

theorem length_queue (recorded : Recorded network past s history)
    (run : network.Reaches asserts past s) (wire : Wire) :
    passed history wire .sender + ((s.channel wire).phase .sender).busy =
      passed history wire .receiver + ((s.channel wire).phase .receiver).unreturned.length +
        (s.channel wire).chan.queue.length +
        ((s.channel wire).phase .sender).offers.toList.length := by
  obtain ⟨calls, made⟩ := recorded.reaches run wire
  have sent := congrArg List.length (Piped.of_reaches made).sent
  have taken := congrArg List.length (Piped.of_reaches made).received
  have order := congrArg List.length (dequeued_append_queue made.system)
  simp only [List.length_append, List.length_map, recorded.length_received run,
    recorded.length_offered,
    List.filterMap_nil, List.length_nil] at sent taken order
  change _ = passed history wire .sender + _ at sent
  omega

/-- In a run nobody is further ahead than the channels and the calls in progress allow. -/
theorem paced (recorded : Recorded network past s history)
    (run : network.Reaches asserts past s) : network.Paced s.node history where
  toAccords := recorded.accords run
  ahead wire thread := by
    obtain ⟨calls, made⟩ := recorded.reaches run wire
    have counted := recorded.length_queue run wire
    cases thread with
    | sender =>
        have settled := Piped.length_queue_of_settled made
        have bounded := (Protocol.of_reaches made.system).bounded
        have room : passed history wire .sender ≤ passed history wire .receiver +
            ((s.channel wire).phase .receiver).unreturned.length + network.capacity wire := by
          simp only at settled bounded
          generalize (s.channel wire).phase .sender = phase at counted settled
          cases between : phase.betweenScopes with
          | true =>
              have inside : phase.busy = 1 ∧ phase.offers = none := by
                cases phase <;> first | exact ⟨rfl, rfl⟩ | cases between
              rw [inside.1, inside.2, Option.toList_none, List.length_nil] at counted
              omega
          | false =>
              have fits := settled between
              have offers : phase.offers.toList.length ≤ phase.busy := by
                cases phase <;> simp [Phase.offers, Phase.busy]
              omega
        rcases ((s.channel wire).phase .receiver).idle_or_busy with idle | busy
        · rw [idle] at room
          exact .inl room
        · have one : ((s.channel wire).phase .receiver).unreturned.length ≤ 1 := by
            cases (s.channel wire).phase .receiver <;> simp [Phase.unreturned]
          refine .inr ⟨?_, recorded.callsAt busy⟩
          simp only [End.opposite, lead]
          omega
    | receiver =>
        simp only [End.opposite, lead]
        rcases ((s.channel wire).phase .sender).idle_or_busy with idle | busy
        · rw [idle, Phase.busy] at counted
          exact .inl (by omega)
        · exact .inr ⟨by omega, recorded.callsAt busy⟩

theorem continues (recorded : Recorded network past s history)
    (run : network.Reaches asserts past s) {wire : Wire} {action : Action End (network.Value wire)}
    {thread : End} {result : Result (network.Value wire)} {t : System End (network.Value wire)}
    (moved : System.Moves (network.capacity wire) (s.channel wire) action
      (some (.returned thread result)) t) :
    ∃ next, Continues (network.instructionAt s wire thread) wire thread result next := by
  obtain ⟨calls, made⟩ := recorded.reaches run wire
  obtain ⟨op, called⟩ := recorded.callsAt moved.busy_of_returned
  have piped := Piped.of_reaches made
  have returned := moved.returned.2.2.resolve_left (by
    rw [(Piped.unselecting made).phases thread]
    decide)
  change Calls (network.instructionAt s wire thread) wire thread op at called
  generalize network.instructionAt s wire thread = instruction at called
  cases called with
  | send =>
      have producing := piped.sends.producing
      rcases returned with ⟨-, rfl⟩ | ⟨form, u, cv, standing, -⟩
      · exact ⟨_, .sent⟩
      · rw [standing] at producing
        cases producing
  | recv =>
      have consuming := piped.receives.consuming
      rcases returned with ⟨standing, -⟩ | ⟨form, u, cv, standing, rfl⟩
      · rw [standing] at consuming
        cases consuming
      · rw [standing] at consuming
        cases form with
        | value => exact ⟨_, .received⟩
        | _ => cases consuming

theorem safe (recorded : Recorded network past s history)
    (run : network.Reaches asserts past s) (wire : Wire)
    (action : Action End (network.Value wire)) (site : Assertion) :
    (s.channel wire).step asserts (network.capacity wire) action ≠ some (.error site) := by
  obtain ⟨calls, made⟩ := recorded.reaches run wire
  exact Piped.safe made action site

theorem exists_step (recorded : Recorded network past s history)
    (run : network.Reaches asserts past s) {wire : Wire}
    {action : Action End (network.Value wire)}
    {outcome : Except Assertion
      (Option (Event End (network.Value wire)) × System End (network.Value wire))}
    (noCall : ∀ thread op, action ≠ .call thread op)
    (possible : (s.channel wire).step asserts (network.capacity wire) action = some outcome) :
    ∃ event next, network.Step asserts s ⟨wire, action, event⟩ next := by
  cases outcome with
  | error site => exact absurd possible (recorded.safe run wire action site)
  | ok taken =>
      obtain ⟨event, t⟩ := taken
      by_cases returned : ∃ thread result, event = some (.returned thread result)
      · obtain ⟨thread, result, rfl⟩ := returned
        obtain ⟨next, continues⟩ := recorded.continues run (System.Step.moves possible)
        exact ⟨_, _, .returns possible continues⟩
      · rw [not_exists] at returned
        exact ⟨event, _, .proceed noCall
          (fun thread result same => returned thread ⟨result, same⟩) possible⟩

theorem parked (recorded : Recorded network past s history)
    (run : network.Reaches asserts past s) (atRest : network.AtRest asserts s) (wire : Wire) :
    (s.channel wire).Resting ∧ ∀ thread, network.CallsAt s.node wire thread →
      ∃ cv, ((s.channel wire).phase thread).waitsOn cv := by
  have impossible : ∀ action, (∀ thread op, action ≠ .call thread op) →
      action.isSpurious = false →
      (s.channel wire).step asserts (network.capacity wire) action = none := by
    intro action noCall caused
    by_contra possible
    obtain ⟨outcome, possible⟩ := Option.ne_none_iff_exists'.mp possible
    obtain ⟨event, next, taken⟩ := recorded.exists_step run noCall possible
    have spurious : action.isSpurious = true := atRest _ _ taken
    rw [caused] at spurious
    cases spurious
  have resting : (s.channel wire).Resting := fun thread => System.idle_or_parked
    (impossible (.lock thread) (by simp) rfl)
    fun woken => impossible (.notify thread woken) (by simp) rfl
  refine ⟨resting, ?_⟩
  rintro thread ⟨op, calls⟩
  rcases resting thread with idle | parked
  · have taken : System.Step asserts (network.capacity wire) (s.channel wire)
        (.call thread op, some (.called thread op))
        ((s.channel wire).setPhase thread (.start op)) := by
      simp only [System.Step, System.step, idle]
    cases atRest _ _ (.call calls taken)
  · exact parked

theorem halted (recorded : Recorded network past s history)
    (run : network.Reaches asserts past s) (atRest : network.AtRest asserts s) :
    network.Halted network.capacity s.node history := by
  have full : ∀ wire, network.CallsAt s.node wire .sender →
      (s.channel wire).chan.queue.length = network.capacity wire + 1 := by
    intro wire calls
    obtain ⟨count, made⟩ := recorded.reaches run wire
    obtain ⟨resting, parked⟩ := recorded.parked run atRest wire
    exact resting.sender_blocked (Protocol.of_reaches made.system)
      (Signalled.of_reaches made.system) ((Piped.of_reaches made).parked_sender (parked _ calls))
  have empty : ∀ wire, network.CallsAt s.node wire .receiver →
      (s.channel wire).chan.queue.length = 0 ∧
        ((s.channel wire).phase .receiver).unreturned.length = 0 := by
    intro wire calls
    obtain ⟨count, made⟩ := recorded.reaches run wire
    obtain ⟨resting, parked⟩ := recorded.parked run atRest wire
    obtain ⟨form, waits⟩ := (Piped.of_reaches made).parked_receiver (parked _ calls)
    have starves := resting.receiver_starves (Signalled.of_reaches made.system)
      (show ((s.channel wire).phase .receiver).waitsOn .recv by
        rw [show (s.channel wire).phase .receiver = .recvWait form from waits]
        rfl)
    exact ⟨congrArg List.length starves,
      congrArg (fun phase => (Phase.unreturned phase).length) waits⟩
  have offers : ∀ wire, ((s.channel wire).phase .sender).offers.toList.length ≤
      ((s.channel wire).phase .sender).busy ∧ ((s.channel wire).phase .sender).busy ≤ 1 := by
    intro wire
    cases (s.channel wire).phase .sender <;> simp [Phase.offers, Phase.busy]
  refine ⟨recorded.accords run, ?_, ?_⟩
  · intro wire thread calls
    have counted := recorded.length_queue run wire
    have bound := offers wire
    cases thread with
    | sender =>
        have filled := full wire calls
        simp only [End.opposite, lead]
        omega
    | receiver =>
        have emptied := empty wire calls
        simp only [End.opposite, lead]
        omega
  · intro wire thread calls partner
    cases thread with
    | sender =>
        have filled := full wire calls
        have emptied := empty wire partner
        omega
    | receiver =>
        have filled := full wire partner
        have emptied := empty wire calls
        omega

end Recorded

section Bounds

variable [DecidableEq Node] {asserts : Asserts} {past : List network.Happens} {s : network.State}
  {place : (node : Node) → network.Local node}
  {others : Node → List (Exchange network.Value)} {capacity : Wire → Nat}

/-- No run gets further than a network that is at rest. -/
theorem Halted.history_isPrefix (halted : network.Halted capacity place others)
    (larger : ∀ wire, network.capacity wire ≤ capacity wire)
    (run : network.Reaches asserts past s) :
    ∃ history, Recorded network past s history ∧ ∀ node, history node <+: others node := by
  induction run with
  | nil => exact ⟨_, .init, fun node => List.nil_prefix⟩
  | snoc reached taken inductionHypothesis =>
      obtain ⟨history, recorded, before⟩ := inductionHypothesis
      rcases recorded.step taken with same | ⟨wire, thread, calls, exchange, there, later⟩
      · exact ⟨history, same, before⟩
      · refine ⟨_, later, fun node => ?_⟩
        by_cases same : node = network.owner wire thread
        · subst same
          exact halted.isPrefix_append larger before (recorded.undergoes _) calls there
            (later.paced (.snoc reached taken)) (Function.update_self ..)
            fun other => (Function.update_of_ne · ..)
        · rw [Function.update_of_ne same]
          exact before node

theorem Recorded.eq_of_isPrefix {history : Node → List (Exchange network.Value)}
    (recorded : Recorded network past s history) (same : Recorded network past s others)
    (run : network.Reaches asserts past s) {node : Node} (before : history node <+: others node) :
    others node = history node := by
  rcases (recorded.undergoes node).eq_or_exchanges (same.undergoes node) before with
    ⟨equal, -⟩ | ⟨exchange, later, next, goesOn, exchanged⟩
  · exact equal
  · exfalso
    have impossible : ∀ wire thread, network.owner wire thread = node →
        ¬ ExchangedAt wire thread exchange := by
      rintro wire thread rfl there
      have further := passed_append goesOn there
      have counted := recorded.length_called run wire thread
      rw [same.length_called run wire thread] at counted
      omega
    generalize instructed : network.instruction node (s.node node) = instruction at exchanged
    cases exchanged with
    | sent => exact impossible _ .sender (network.sends instructed) .sent
    | received => exact impossible _ .receiver (network.receives instructed) .received

end Bounds

end Network

end Gloc.Channel
