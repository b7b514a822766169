import Gloc.Channel.Accounts
import Gloc.Channel.Balance

/-!
# How far a sender can be ahead

On a pipe the sender cannot have returned from many more calls than the receiver
has: the elements of the queue are between them, and one that has been taken but
not returned.  How far the processes of a network can be ahead of one another
follows from what each of them has to do between its calls.
-/

namespace Gloc.Channel

open Gloc.Transition

universe u v w

namespace Piped

variable {T : Type w} {asserts : Asserts} {N calls : Nat} {values : List T}
  {labels : List (Label End T)} {c : Clients End T}

theorem length_queue_of_settled (run : Clients.Reaches asserts N (pipe values calls) labels c)
    (settled : (c.system.phase .sender).betweenScopes = false) :
    c.system.chan.queue.length ≤ N := by
  have protocol := Protocol.of_reaches run.system
  have nobody : ∀ thread, (c.system.phase thread).betweenScopes = false := by
    intro thread
    cases thread with
    | sender => exact settled
    | receiver =>
        have consuming := (of_reaches run).receives.consuming
        generalize c.system.phase .receiver = phase at consuming
        cases phase <;> first | rfl | cases consuming
  by_contra full
  have bounded := protocol.bounded
  rcases protocol.fullHasSender (by omega) with pending | pending
  · obtain ⟨thread, inside⟩ := protocol.between pending
    rw [nobody thread] at inside
    cases inside
  · rw [(unselecting run).trySendDone] at pending
    cases pending

theorem length_calls_sender (run : Clients.Reaches asserts N (pipe values calls) labels c) :
    (Channel.calls .sender (trace labels)).length =
      (enqueued (trace labels)).length + (c.system.phase .sender).offers.toList.length := by
  have piped := of_reaches run
  have made := congrArg List.length (Tally.of_reaches run .sender).made
  have sent := congrArg List.length piped.sent
  have later : ((c.rest .sender).filterMap Op.offered).length = (c.rest .sender).length := by
    have sends := piped.sends.later
    generalize c.rest .sender = rest at sends
    induction rest with
    | nil => rfl
    | cons op rest inductionHypothesis =>
        obtain ⟨u, rfl⟩ := sends op List.mem_cons_self
        exact congrArg (· + 1) (inductionHypothesis fun op membership =>
          sends op (List.mem_cons_of_mem _ membership))
  rw [List.length_append, pipe, List.length_map] at made
  simp only [List.length_append, List.length_map, later] at sent
  omega

/-- The sender has returned from as many calls as the receiver, but for what is on its
way. -/
theorem results_sender_le (run : Clients.Reaches asserts N (pipe values calls) labels c) :
    (results .sender (trace labels)).length ≤
      (results .receiver (trace labels)).length + N + 1 := by
  have taken := congrArg List.length (of_reaches run).received
  have order := congrArg List.length (dequeued_append_queue run.system)
  have returned := (Tally.of_reaches run .sender).returned
  have bounded := (Protocol.of_reaches run.system).bounded
  have settled := length_queue_of_settled run
  have atMostOne : (c.system.phase .receiver).unreturned.length ≤ 1 := by
    cases c.system.phase .receiver <;> simp [Phase.unreturned]
  rw [length_calls_sender run] at returned
  simp only [List.length_append, List.length_map] at taken order
  generalize c.system.phase .sender = phase at returned settled
  cases between : phase.betweenScopes with
  | true =>
      have inside : phase.busy = 1 ∧ phase.offers = none := by
        cases phase <;> first | exact ⟨rfl, rfl⟩ | cases between
      rw [inside.1, inside.2, Option.toList_none, List.length_nil] at returned
      omega
  | false =>
      have room := settled between
      have offers : phase.offers.toList.length ≤ phase.busy := by
        cases phase <;> simp [Phase.offers, Phase.busy]
      omega

end Piped

namespace Network

variable {Node : Type u} {Wire : Type v} [DecidableEq Wire]

def returned {network : Network Node Wire} (past : List network.Happens) (wire : Wire)
    (thread : End) : Nat :=
  (results thread (trace (happensOn wire past))).length

def countReturn (counts : Wire → End → Nat) (wire : Wire) (thread : End) : Wire → End → Nat :=
  fun other elsewhere => counts other elsewhere + if other = wire ∧ elsewhere = thread then 1 else 0

theorem countReturn_self (counts : Wire → End → Nat) (wire : Wire) (thread : End) :
    countReturn counts wire thread wire thread = counts wire thread + 1 := by
  rw [countReturn, if_pos ⟨rfl, rfl⟩]

theorem countReturn_of_ne (counts : Wire → End → Nat) {wire other : Wire} {thread elsewhere : End}
    (different : other ≠ wire ∨ elsewhere ≠ thread) :
    countReturn counts wire thread other elsewhere = counts other elsewhere := by
  rw [countReturn, if_neg (not_and_or.mpr different), Nat.add_zero]

variable {network : Network Node Wire}

/-- What is true of the place of a process and of the numbers of returns at its ends of
the channels, if returns from its own calls keep it. -/
structure Counted (network : Network Node Wire)
    (holds : (node : Node) → network.Local node → (Wire → End → Nat) → Prop) : Prop where
  start : ∀ node, holds node (network.start node) fun _ _ => 0
  continues : ∀ {wire thread state counts result next},
    Continues (network.instruction (network.owner wire thread) state) wire thread result next →
    holds _ state counts → holds _ next (countReturn counts wire thread)
  elsewhere : ∀ {node state counts wire thread}, network.owner wire thread ≠ node →
    holds node state counts → holds node state (countReturn counts wire thread)

theorem returned_snoc {past : List network.Happens} {wire : Wire}
    (action : Action End (network.Value wire)) (event : Option (Event End (network.Value wire)))
    (other : Wire) (thread : End) :
    returned (past ++ [⟨wire, action, event⟩]) other thread =
      returned past other thread +
        if other = wire then (results thread event.toList).length else 0 := by
  unfold returned
  by_cases same : other = wire
  · subst same
    rw [happensOn_snoc, trace_append, trace_single, results_append, List.length_append, if_pos rfl]
  · rw [happensOn_snoc_of_ne (Ne.symm same), if_neg same, Nat.add_zero]

theorem returned_snoc_of_silent {past : List network.Happens} {wire : Wire}
    {action : Action End (network.Value wire)} {event : Option (Event End (network.Value wire))}
    (silent : ∀ thread result, event ≠ some (.returned thread result)) :
    returned (past ++ [⟨wire, action, event⟩]) = returned past := by
  funext other thread
  have nothing : results thread event.toList = [] := by
    cases event with
    | none => rfl
    | some seen =>
        cases seen with
        | returned returning result => exact absurd rfl (silent returning result)
        | _ => rfl
  rw [returned_snoc, nothing, List.length_nil, ite_self, Nat.add_zero]

theorem returned_snoc_returned {past : List network.Happens} {wire : Wire}
    (action : Action End (network.Value wire)) (thread : End)
    (result : Result (network.Value wire)) :
    returned (past ++ [⟨wire, action, some (.returned thread result)⟩]) =
      countReturn (returned past) wire thread := by
  funext other elsewhere
  rw [returned_snoc, countReturn, Option.toList_some]
  by_cases same : elsewhere = thread
  · subst same
    simp
  · have nothing : results elsewhere [Event.returned thread result] = [] :=
      results_single_of_ne (Ne.symm same)
    simp [nothing, same]

theorem Counted.of_reaches [DecidableEq Node] {asserts : Asserts}
    {holds : (node : Node) → network.Local node → (Wire → End → Nat) → Prop}
    (counted : network.Counted holds) {past : List network.Happens} {s : network.State}
    (run : network.Reaches asserts past s) (node : Node) :
    holds node (s.node node) (returned past) := by
  refine Execution.invariant
    (fun past (s : network.State) => ∀ node, holds node (s.node node) (returned past))
    counted.start ?_ run node
  intro past s happens next _ known taken
  cases taken with
  | @call wire thread op event t _ moved =>
      have silent : ∀ thread result, event ≠ some (.returned thread result) := by
        rintro returning result rfl
        exact (System.Step.moves moved).returned.1 _ _ rfl
      rw [returned_snoc_of_silent silent]
      exact known
  | proceed _ silent _ =>
      rw [returned_snoc_of_silent silent]
      exact known
  | @returns wire action thread result t next _ continues =>
      intro node
      rw [returned_snoc_returned]
      change holds node (Function.update s.node (network.owner wire thread) next node) _
      by_cases same : network.owner wire thread = node
      · subst same
        rw [Function.update_self]
        exact counted.continues continues (known _)
      · rw [Function.update_of_ne (Ne.symm same)]
        exact counted.elsewhere same (known node)

theorem Follows.returned_le {asserts : Asserts} {script : network.Script}
    {past : List network.Happens} {s : network.State} {acts : Node → List (Act network.Value)}
    (follows : Follows network asserts script past s acts) (wire : Wire) :
    returned past wire .sender ≤ returned past wire .receiver + network.capacity wire + 1 :=
  Piped.results_sender_le (follows.channels wire)

end Network

end Gloc.Channel
