import Gloc.Channel.Ownership
import Gloc.Channel.Refinement

/-!
# One thread sends and another one receives

What has been observed of a thread is tied to its program: a thread that only
sends has enqueued the first values of its program, and a thread that only
receives has returned the first values it has dequeued.  A channel between two
such threads is a pipe, and the theorems about all channels say what comes out
at its other end.
-/

namespace Gloc.Channel

open Gloc.Transition

universe u v

variable {Thread : Type u} {T : Type v}

namespace Phase

def producing (phase : Phase T) : Bool :=
  match phase with
  | .idle => true
  | phase => phase.insideSend

def consuming : Phase T → Bool
  | .idle | .recvFirst .value | .recvWait .value | .recvWoken .value
  | .recvReturn .value _ _ => true
  | _ => false

def unreturned : Phase T → List T
  | .recvReturn _ t _ => [t]
  | _ => []

def busy : Phase T → Nat
  | .idle => 0
  | _ => 1

theorem producing_wake (phase : Phase T) : phase.wake.producing = phase.producing := by
  cases phase <;> rfl

theorem consuming_wake (phase : Phase T) : phase.wake.consuming = phase.consuming := by
  cases phase <;> first | rfl | (rename_i form; cases form <;> rfl)

theorem unreturned_wake (phase : Phase T) : phase.wake.unreturned = phase.unreturned := by
  cases phase <;> rfl

theorem busy_wake (phase : Phase T) : phase.wake.busy = phase.busy := by
  cases phase <;> rfl

theorem idle_or_busy (phase : Phase T) : phase = .idle ∨ phase.busy = 1 := by
  cases phase with
  | idle => exact .inl rfl
  | _ => exact .inr rfl

end Phase

structure Sends [DecidableEq Thread] (thread : Thread) (values : List T)
    (past : List (Event Thread T)) (phase : Phase T) (rest : List (Op T)) : Prop where
  producing : phase.producing = true
  later : ∀ op ∈ rest, ∃ u, op = .send u
  sent : enqueuedBy thread past ++ phase.offers.toList ++ rest.filterMap Op.offered = values
  takes : dequeuedBy thread past = []

/-- A thread that makes this number of receives and does nothing else. -/
structure Receives [DecidableEq Thread] (thread : Thread) (calls : Nat)
    (past : List (Event Thread T)) (phase : Phase T) (rest : List (Op T)) : Prop where
  consuming : phase.consuming = true
  later : ∀ op ∈ rest, op = .recv .value
  received : results thread past ++ phase.unreturned.map (.received .value) =
    (dequeuedBy thread past).map (.received .value)
  counted : (results thread past).length + phase.busy + rest.length = calls
  enqueues : enqueuedBy thread past = []

namespace Sends

variable [DecidableEq Thread] {thread : Thread} {values : List T}
  {past : List (Event Thread T)} {phase next : Phase T} {rest : List (Op T)}

theorem silent (sends : Sends thread values past phase rest) {event : Option (Event Thread T)}
    (producing : next.producing = true) (offers : next.offers = phase.offers)
    (enqueues : ∀ seen ∈ event, seen.enqueues = none)
    (takes : ∀ seen ∈ event, seen.takes thread = none) :
    Sends thread values (past ++ event.toList) next rest := by
  refine ⟨producing, sends.later, ?_, ?_⟩
  · cases event with
    | none => simpa [offers] using sends.sent
    | some seen =>
        rw [Option.toList_some, enqueuedBy_append,
          enqueuedBy_single_of_none thread _ (enqueues seen rfl), List.append_nil, offers]
        exact sends.sent
  · cases event with
    | none => simpa using sends.takes
    | some seen =>
        rw [Option.toList_some, dequeuedBy_append, sends.takes, dequeuedBy_single,
          takes seen rfl]
        rfl

theorem critical {N : Nat} {c after : Chan Thread T} {event : Option (Event Thread T)}
    (sends : Sends thread values past phase rest)
    (stretch : Critical N thread phase c event next after) :
    Sends thread values (past ++ event.toList) next rest := by
  have producing := sends.producing
  cases stretch with
  | sendPark => exact sends.silent rfl rfl (by simp) (by simp)
  | @sendEnqueue u =>
      refine ⟨rfl, sends.later, ?_, ?_⟩
      · simpa [Phase.offers] using sends.sent
      · rw [Option.toList_some, dequeuedBy_append, sends.takes]
        rfl
  | sendHold => exact sends.silent rfl rfl (by simp) (by simp)
  | sendFinish => exact sends.silent rfl rfl (by simp) (by simp)
  | recvTake receiving => rcases receiving with rfl | rfl <;> cases producing
  | _ => cases producing

theorem bystander {event : Option (Event Thread T)}
    (sends : Sends thread values past phase rest)
    (others : ∀ seen ∈ event, seen.thread ≠ thread)
    (phases : next = phase ∨ next = phase.wake) :
    Sends thread values (past ++ event.toList) next rest := by
  have same : next.producing = phase.producing ∧ next.offers = phase.offers := by
    rcases phases with rfl | rfl
    · exact ⟨rfl, rfl⟩
    · exact ⟨Phase.producing_wake _, Phase.offers_wake _⟩
  refine ⟨same.1.trans sends.producing, sends.later, ?_, ?_⟩
  · cases event with
    | none => simpa [same.2] using sends.sent
    | some seen =>
        rw [Option.toList_some, enqueuedBy_append, enqueuedBy_single_of_ne (others seen rfl),
          List.append_nil, same.2]
        exact sends.sent
  · cases event with
    | none => simpa using sends.takes
    | some seen =>
        rw [Option.toList_some, dequeuedBy_append, dequeuedBy_single_of_ne (others seen rfl),
          List.append_nil, sends.takes]

variable [Fintype Thread] {N : Nat} {s t : System Thread T} {action : Action Thread T}
  {event : Option (Event Thread T)}

theorem actor {program : Thread → List (Op T)}
    (sends : Sends action.thread values past (s.phase action.thread) (program action.thread))
    (follows : action.follows program) (moved : System.Moves N s action event t) :
    Sends action.thread values (past ++ event.toList) (t.phase action.thread)
      (Clients.advance program action action.thread) := by
  cases moved with
  | @call thread op standing =>
      obtain ⟨later, left⟩ := follows
      simp only [Action.thread, standing, left] at sends
      obtain ⟨u, rfl⟩ := sends.later op (by simp)
      simp only [Action.thread, Clients.advance, Function.update_self, System.setPhase_self,
        left, List.tail_cons]
      refine ⟨rfl, fun op membership => sends.later op (List.mem_cons_of_mem _ membership),
        ?_, ?_⟩
      · rw [Option.toList_some, enqueuedBy_append, enqueuedBy_single_of_none _ _ rfl]
        simpa [Phase.start, Phase.offers, Op.offered] using sends.sent
      · rw [Option.toList_some, dequeuedBy_append, sends.takes]
        rfl
  | lock stretch =>
      simpa only [Action.thread, System.setPhase_self, Clients.advance]
        using sends.critical stretch
  | @refuse thread _ refused =>
      have producing := sends.producing
      simp only [Action.thread] at producing
      generalize s.phase thread = phase at producing refused
      cases phase <;> first | cases refused; done | cases producing
  | @notify thread woken cv phase result due may =>
      simp only [Action.thread, System.setPhase_self, Clients.advance] at sends ⊢
      have producing := sends.producing
      generalize s.phase thread = current at sends producing due
      cases current with
      | sendNotify =>
          cases due
          exact sends.silent rfl rfl (by simp) (by simp)
      | sendReturn =>
          cases due
          exact sends.silent rfl rfl (by simp) (by simp [Event.takes])
      | _ => first | cases due; done | cases producing
  | @spurious thread cv parked =>
      simp only [Action.thread, System.setPhase_self, Clients.advance] at sends ⊢
      exact sends.silent ((Phase.producing_wake _).trans sends.producing) (Phase.offers_wake _)
        (by simp) (by simp)

theorem step {program : Thread → List (Op T)}
    (sends : Sends thread values past (s.phase thread) (program thread))
    (follows : action.follows program) (moved : System.Moves N s action event t) :
    Sends thread values (past ++ event.toList) (t.phase thread)
      (Clients.advance program action thread) := by
  by_cases acting : thread = action.thread
  · subst acting
    exact sends.actor follows moved
  · rw [Clients.advance_of_ne acting]
    exact sends.bystander (moved.event_of_ne acting) (moved.bystander acting)

end Sends

namespace Receives

variable [DecidableEq Thread] {thread : Thread} {calls : Nat}
  {past : List (Event Thread T)} {phase next : Phase T} {rest : List (Op T)}

theorem silent (receives : Receives thread calls past phase rest)
    {event : Option (Event Thread T)} (consuming : next.consuming = true)
    (unreturned : next.unreturned = phase.unreturned) (busy : next.busy = phase.busy)
    (observed : ∀ seen ∈ event, seen.enqueues = none ∧ seen.takes thread = none ∧
      seen.returns thread = none) :
    Receives thread calls (past ++ event.toList) next rest := by
  have nothing : results thread event.toList = [] ∧ dequeuedBy thread event.toList = [] ∧
      enqueuedBy thread event.toList = [] := by
    cases event with
    | none => exact ⟨rfl, rfl, rfl⟩
    | some seen =>
        obtain ⟨enqueues, takes, returns⟩ := observed seen rfl
        rw [Option.toList_some, results_single, dequeuedBy_single, takes, returns,
          enqueuedBy_single_of_none _ _ enqueues]
        exact ⟨rfl, rfl, rfl⟩
  obtain ⟨results, dequeues, enqueues⟩ := nothing
  refine ⟨consuming, receives.later, ?_, ?_, ?_⟩
  · rw [results_append, results, dequeuedBy_append, dequeues, List.append_nil,
      List.append_nil, unreturned]
    exact receives.received
  · rw [results_append, results, List.append_nil, busy]
    exact receives.counted
  · rw [enqueuedBy_append, enqueues, List.append_nil]
    exact receives.enqueues

theorem critical {N : Nat} {c after : Chan Thread T} {event : Option (Event Thread T)}
    (receives : Receives thread calls past phase rest)
    (stretch : Critical N thread phase c event next after) :
    Receives thread calls (past ++ event.toList) next rest := by
  have consuming := receives.consuming
  cases stretch with
  | @recvEnter form =>
      cases form with
      | value => exact receives.silent rfl rfl rfl (by simp [Event.takes])
      | _ => cases consuming
  | @recvRepark form =>
      cases form with
      | value => exact receives.silent rfl rfl rfl (by simp)
      | _ => cases consuming
  | @recvTake _ form _ front rest receiving =>
      have standing : form = .value ∧ phase.unreturned = [] ∧ phase.busy = 1 := by
        rcases receiving with rfl | rfl <;> cases form <;>
          first | exact ⟨rfl, rfl, rfl⟩ | cases consuming
      obtain ⟨rfl, nothing, busy⟩ := standing
      have received := receives.received
      have counted := receives.counted
      rw [nothing, List.map_nil, List.append_nil] at received
      rw [busy] at counted
      refine ⟨rfl, receives.later, ?_, ?_, ?_⟩
      · rw [Option.toList_some, results_append, results_single, dequeuedBy_append,
          dequeuedBy_single, List.map_append, ← received]
        simp [Event.takes, Phase.unreturned]
      · rw [Option.toList_some, results_append, results_single]
        simpa [Phase.busy] using counted
      · rw [Option.toList_some, enqueuedBy_append, enqueuedBy_single_of_none _ _ rfl,
          receives.enqueues]
        rfl
  | _ => cases consuming

theorem bystander {event : Option (Event Thread T)}
    (receives : Receives thread calls past phase rest)
    (others : ∀ seen ∈ event, seen.thread ≠ thread)
    (phases : next = phase ∨ next = phase.wake) :
    Receives thread calls (past ++ event.toList) next rest := by
  have same : Receives thread calls past next rest := by
    rcases phases with rfl | rfl
    · exact receives
    · have kept := @silent _ _ _ _ _ _ _ _ _ receives none
        ((Phase.consuming_wake _).trans receives.consuming) (Phase.unreturned_wake _)
        (Phase.busy_wake _) (by simp)
      simpa using kept
  cases event with
  | none => simpa using same
  | some seen =>
      have different := others seen rfl
      refine ⟨same.consuming, same.later, ?_, ?_, ?_⟩
      · rw [Option.toList_some, results_append, results_single_of_ne different,
          dequeuedBy_append, dequeuedBy_single_of_ne different, List.append_nil,
          List.append_nil]
        exact same.received
      · rw [Option.toList_some, results_append, results_single_of_ne different,
          List.append_nil]
        exact same.counted
      · rw [Option.toList_some, enqueuedBy_append, enqueuedBy_single_of_ne different,
          List.append_nil]
        exact same.enqueues

variable [Fintype Thread] {N : Nat} {s t : System Thread T} {action : Action Thread T}
  {event : Option (Event Thread T)}

theorem actor {program : Thread → List (Op T)}
    (receives : Receives action.thread calls past (s.phase action.thread)
      (program action.thread))
    (follows : action.follows program) (moved : System.Moves N s action event t) :
    Receives action.thread calls (past ++ event.toList) (t.phase action.thread)
      (Clients.advance program action action.thread) := by
  cases moved with
  | @call thread op standing =>
      obtain ⟨later, left⟩ := follows
      simp only [Action.thread, standing, left] at receives
      have form := receives.later op (by simp)
      subst form
      simp only [Action.thread, Clients.advance, Function.update_self, System.setPhase_self,
        left, List.tail_cons]
      refine ⟨rfl, fun op membership => receives.later op (List.mem_cons_of_mem _ membership),
        ?_, ?_, ?_⟩
      · rw [Option.toList_some, results_append, results_single, dequeuedBy_append,
          dequeuedBy_single]
        simpa [Event.takes, Phase.start, Phase.unreturned] using receives.received
      · have counted := receives.counted
        rw [Option.toList_some, results_append, results_single]
        simp only [Event.returns, Option.toList_none, List.append_nil, Phase.busy, Phase.start,
          List.length_cons] at counted ⊢
        omega
      · rw [Option.toList_some, enqueuedBy_append, enqueuedBy_single_of_none _ _ rfl,
          receives.enqueues]
        rfl
  | lock stretch =>
      simpa only [Action.thread, System.setPhase_self, Clients.advance]
        using receives.critical stretch
  | @refuse thread _ refused =>
      have consuming := receives.consuming
      simp only [Action.thread] at consuming
      generalize s.phase thread = phase at consuming refused
      cases phase <;> first | cases refused; done | cases consuming
  | @notify thread woken cv phase result due may =>
      simp only [Action.thread, System.setPhase_self, Clients.advance] at receives ⊢
      have consuming := receives.consuming
      generalize s.phase thread = current at receives consuming due
      cases current with
      | recvReturn form t cv =>
          cases due
          cases form with
          | value =>
              refine ⟨rfl, receives.later, ?_, ?_, ?_⟩
              · have received := receives.received
                rw [Option.map_some, Option.toList_some, results_append, results_single,
                  dequeuedBy_append, dequeuedBy_single]
                simp only [Event.takes, Event.returns, Phase.unreturned, if_true,
                  Option.toList_none, Option.toList_some, List.append_nil, List.map_nil,
                  List.map_cons] at received ⊢
                exact received
              · have counted := receives.counted
                rw [Option.map_some, Option.toList_some, results_append, results_single]
                simp only [Event.returns, if_true, Option.toList_some, List.length_append,
                  List.length_singleton, Phase.busy] at counted ⊢
                omega
              · rw [Option.map_some, Option.toList_some, enqueuedBy_append,
                  enqueuedBy_single_of_none _ _ rfl, receives.enqueues]
                rfl
          | _ => cases consuming
      | _ => first | cases due; done | cases consuming
  | @spurious thread cv parked =>
      simp only [Action.thread, System.setPhase_self, Clients.advance] at receives ⊢
      exact receives.silent ((Phase.consuming_wake _).trans receives.consuming)
        (Phase.unreturned_wake _) (Phase.busy_wake _) (by simp)

theorem step {program : Thread → List (Op T)}
    (receives : Receives thread calls past (s.phase thread) (program thread))
    (follows : action.follows program) (moved : System.Moves N s action event t) :
    Receives thread calls (past ++ event.toList) (t.phase thread)
      (Clients.advance program action thread) := by
  by_cases acting : thread = action.thread
  · subst acting
    exact receives.actor follows moved
  · rw [Clients.advance_of_ne acting]
    exact receives.bystander (moved.event_of_ne acting) (moved.bystander acting)

end Receives

inductive End where
  | sender
  | receiver
  deriving DecidableEq, Repr

instance : Fintype End where
  elems := {.sender, .receiver}
  complete thread := by cases thread <;> simp

/-- One thread sends these values and the other one makes this number of
receives. -/
def pipe (values : List T) (calls : Nat) : End → List (Op T)
  | .sender => values.map .send
  | .receiver => List.replicate calls (.recv .value)

structure Piped (values : List T) (calls : Nat) (past : List (Event End T))
    (c : Clients End T) : Prop where
  sends : Sends .sender values past (c.system.phase .sender) (c.rest .sender)
  receives : Receives .receiver calls past (c.system.phase .receiver) (c.rest .receiver)

namespace Piped

variable {values : List T} {calls : Nat} {past : List (Event End T)} {c next : Clients End T}

theorem init : Piped values calls [] (.init (pipe values calls)) where
  sends :=
    { producing := rfl
      later := by
        intro op membership
        obtain ⟨u, -, rfl⟩ := List.mem_map.mp membership
        exact ⟨u, rfl⟩
      sent := by
        have offered : (values.map Op.send).filterMap Op.offered = values := by
          rw [List.filterMap_map]
          exact List.filterMap_some
        exact offered
      takes := rfl }
  receives :=
    { consuming := rfl
      later := fun _ membership => List.eq_of_mem_replicate membership
      received := rfl
      counted := by simp [Clients.init, pipe, System.init, Phase.busy, results]
      enqueues := rfl }

variable {asserts : Asserts} {N : Nat} {labels : List (Label End T)}

theorem of_reaches (run : Clients.Reaches asserts N (pipe values calls) labels c) :
    Piped values calls (trace labels) c := by
  refine Execution.invariant (fun labels c => Piped values calls (trace labels) c) init ?_ run
  rintro labels middle ⟨action, event⟩ last - piped ⟨follows, moved, advanced⟩
  have moved := System.Step.moves moved
  rw [trace_append, trace_single]
  refine ⟨?_, ?_⟩
  · rw [advanced]
    exact piped.sends.step follows moved
  · rw [advanced]
    exact piped.receives.step follows moved

theorem received (piped : Piped values calls past c) :
    results .receiver past ++ (c.system.phase .receiver).unreturned.map (.received .value) =
      ((dequeued past).map Prod.snd).map (.received .value) := by
  have others : ∀ other, other ≠ End.receiver → dequeuedBy other past = [] := by
    intro other different
    cases other with
    | sender => exact piped.sends.takes
    | receiver => exact absurd rfl different
  rw [← dequeuedBy_eq_map others]
  exact piped.receives.received

theorem sent (piped : Piped values calls past c) :
    (enqueued past).map Prod.snd ++ (c.system.phase .sender).offers.toList ++
      (c.rest .sender).filterMap Op.offered = values := by
  have others : ∀ other, other ≠ End.sender → enqueuedBy other past = [] := by
    intro other different
    cases other with
    | sender => exact absurd rfl different
    | receiver => exact piped.receives.enqueues
  rw [← enqueuedBy_eq_map others]
  exact piped.sends.sent

/-- What has left the pipe, what is on its way and what has not been sent yet are
the values of the pipe, in order. -/
theorem delivered (run : Clients.Reaches asserts N (pipe values calls) labels c) :
    ∃ unsent : List T,
      results .receiver (trace labels) ++
        ((c.system.phase .receiver).unreturned ++ c.system.chan.queue.map Prod.snd ++
          unsent).map (.received .value) = values.map (.received .value) ∧
      (c.Ended .sender → unsent = []) := by
  have piped := of_reaches run
  have order := dequeued_append_queue run.system
  refine ⟨(c.system.phase .sender).offers.toList ++ (c.rest .sender).filterMap Op.offered,
    ?_, ?_⟩
  · conv_rhs => rw [← piped.sent, ← order]
    simp only [List.map_append, ← List.append_assoc, piped.received]
  · rintro ⟨idle, done⟩
    rw [idle, done]
    rfl

theorem results_firstValues (run : Clients.Reaches asserts N (pipe values calls) labels c) :
    results .receiver (trace labels) <+: values.map (.received .value) := by
  obtain ⟨unsent, whole, -⟩ := delivered run
  exact ⟨_, whole⟩

theorem drop_of_received {action : Action End T} {value : T}
    (run : Clients.Reaches asserts N (pipe values calls)
      (labels ++ [(action, some (.returned .receiver (.received .value value)))]) c) :
    values.drop (results .receiver (trace labels)).length =
      value :: values.drop ((results .receiver (trace labels)).length + 1) := by
  obtain ⟨later, whole⟩ := results_firstValues run
  rw [trace_append, trace_single, results_append, Option.toList_some, results_single,
    List.append_assoc] at whole
  have next := congrArg (List.drop (results .receiver (trace labels)).length) whole
  rw [List.drop_left, ← List.map_drop] at next
  rw [← List.tail_drop]
  cases left : values.drop (results .receiver (trace labels)).length with
  | nil =>
      rw [left] at next
      cases next
  | cons first rest =>
      rw [left] at next
      cases next
      rfl

theorem unselecting (run : Clients.Reaches asserts N (pipe values calls) labels c) :
    Unselecting c := by
  refine Unselecting.of_reaches (fun thread op membership => ?_) run
  cases thread with
  | sender =>
      obtain ⟨u, -, rfl⟩ := List.mem_map.mp membership
      rfl
  | receiver =>
      rw [List.eq_of_mem_replicate membership]
      rfl

theorem safe (run : Clients.Reaches asserts N (pipe values calls) labels c) :
    c.Safe asserts N := by
  have piped := of_reaches run
  have protocol := Protocol.of_reaches run.system
  have unselecting := unselecting run
  have foreign : TakesForeign N c.system := by
    intro thread front rest receiving nonempty _
    cases thread with
    | sender =>
        have producing := piped.sends.producing
        generalize c.system.phase .sender = phase at receiving producing
        cases phase <;> first | cases receiving; done | cases producing
    | receiver =>
        apply ne_of_enqueuedBy_eq_nil piped.receives.enqueues
        rw [← dequeued_append_queue run.system, nonempty]
        simp
  intro action site failed
  obtain ⟨thread, -, executed⟩ := System.step_error failed
  have about := protocol.stretch_error executed
  cases site with
  | notTryReady =>
      have ready := stretch_notTryReady executed
      rw [unselecting.tryRecvReady] at ready
      cases ready
  | notOwnElement => exact unselecting.no_abort protocol foreign action failed
  | _ => cases about

theorem results_of_ended (run : Clients.Reaches asserts N (pipe values calls) labels c)
    (ended : c.Ended .receiver) :
    results .receiver (trace labels) = (values.take calls).map (.received .value) := by
  have counted := (of_reaches run).receives.counted
  rw [ended.1, ended.2] at counted
  have length : (results .receiver (trace labels)).length = calls := by
    simpa [Phase.busy] using counted
  rw [List.prefix_iff_eq_take.mp (results_firstValues run), length, List.map_take]

theorem balanced_of_ended (run : Clients.Reaches asserts N (pipe values calls) labels c)
    (ended : ∀ thread, c.Ended thread) :
    calls ≤ values.length ∧ values.length ≤ calls + N := by
  obtain ⟨unsent, whole, sent⟩ := delivered run
  have counted := (of_reaches run).receives.counted
  rw [(ended .receiver).1, (ended .receiver).2] at counted
  rw [sent (ended .sender), (ended .receiver).1] at whole
  have lengths := congrArg List.length whole
  simp only [List.length_append, List.length_map, List.length_nil, Phase.unreturned,
    Phase.busy] at lengths counted
  have protocol := Protocol.of_reaches run.system
  have room : c.system.chan.queue.length ≠ N + 1 := by
    intro full
    rcases protocol.fullHasSender full with pending | pending
    · obtain ⟨thread, inside⟩ := protocol.between pending
      rw [(ended thread).1] at inside
      cases inside
    · rw [(unselecting run).trySendDone] at pending
      cases pending
  have bounded := protocol.bounded
  omega

theorem parked_sender (piped : Piped values calls past c)
    (parked : ∃ cv, (c.system.phase .sender).waitsOn cv) :
    (c.system.phase .sender).waitsOn .sendBegin ∨ (c.system.phase .sender).waitsOn .sendEnd := by
  obtain ⟨cv, parked⟩ := parked
  have producing := piped.sends.producing
  generalize c.system.phase .sender = phase at parked producing
  cases phase with
  | sendBeginWait => exact .inl rfl
  | sendEndWait => exact .inr rfl
  | recvWait => cases producing
  | _ => cases parked

theorem parked_receiver (piped : Piped values calls past c)
    (parked : ∃ cv, (c.system.phase .receiver).waitsOn cv) :
    ∃ form, c.system.phase .receiver = .recvWait form := by
  obtain ⟨cv, parked⟩ := parked
  have consuming := piped.receives.consuming
  generalize c.system.phase .receiver = phase at parked consuming
  cases phase with
  | recvWait form => exact ⟨form, rfl⟩
  | sendBeginWait => cases consuming
  | sendEndWait => cases consuming
  | _ => cases parked

/-- A sender that is parked when everything is at rest has more left to send than
the channel can hold. -/
theorem length_of_blocked (run : Clients.Reaches asserts N (pipe values calls) labels c)
    (resting : c.system.Resting) (parked : ∃ cv, (c.system.phase .sender).waitsOn cv) :
    c.system.chan.queue ≠ [] ∧
      (results .receiver (trace labels)).length + (N + 1) ≤ values.length := by
  have full := resting.sender_blocked (Protocol.of_reaches run.system)
    (Signalled.of_reaches run.system) ((of_reaches run).parked_sender parked)
  obtain ⟨unsent, whole, -⟩ := delivered run
  have lengths := congrArg List.length whole
  simp only [List.length_append, List.length_map] at lengths
  refine ⟨fun empty => ?_, by omega⟩
  simp [empty] at full

/-- A receiver that is parked when everything is at rest has received all that has been
sent. -/
theorem length_of_starved (run : Clients.Reaches asserts N (pipe values calls) labels c)
    (resting : c.system.Resting) (parked : ∃ cv, (c.system.phase .receiver).waitsOn cv) :
    c.system.chan.queue = [] ∧ (results .receiver (trace labels)).length < calls ∧
      (c.Ended .sender → (results .receiver (trace labels)).length = values.length) := by
  have piped := of_reaches run
  obtain ⟨form, waits⟩ := piped.parked_receiver parked
  have empty := resting.receiver_starves (Signalled.of_reaches run.system)
    (show (c.system.phase .receiver).waitsOn .recv by rw [waits]; rfl)
  have counted := piped.receives.counted
  have busy : (Phase.recvWait form : Phase T).busy = 1 := rfl
  rw [waits, busy] at counted
  refine ⟨empty, by omega, fun ended => ?_⟩
  obtain ⟨unsent, whole, sent⟩ := delivered run
  rw [sent ended, waits, empty] at whole
  have lengths := congrArg List.length whole
  simpa [Phase.unreturned] using lengths

theorem receiver_ended (run : Clients.Reaches asserts N (pipe values calls) labels c)
    (enough : calls ≤ values.length) (quiescent : c.Quiescent asserts N) :
    c.Ended .receiver := by
  rcases quiescent.ended_or_parked .receiver with ended | parked
  · exact ended
  · -- a receiver that waits has seen an empty queue, and the sender is through
    obtain ⟨empty, few, all⟩ := length_of_starved run quiescent.resting parked
    rcases quiescent.ended_or_parked .sender with ended | parked
    · have received := all ended
      omega
    · exact absurd empty (length_of_blocked run quiescent.resting parked).1

/-- The receiver always gets what it asks for, if there is enough. -/
theorem inevitable (enough : calls ≤ values.length)
    (run : Clients.Reaches asserts N (pipe values calls) labels c) (budget : Nat) :
    Inevitable (Clients.Step asserts N) (fun label => label.1.isSpurious = true)
      (fun c => c.Ended .receiver) budget c :=
  Clients.inevitable safe (fun reached => receiver_ended reached enough) run budget

end Piped

end Gloc.Channel
