import Gloc.Channel.Polling
import Gloc.Channel.Streams

/-!
# Both ends of a channel inside a select

`try_send` asserts that not both ends of a channel are inside a `select`, and a
comment leaves that case to be done.  Two threads may nevertheless poll one
channel, as long as they do so for values that are far enough apart: what the
sender polls for must not be among the values that fit into the channel behind
the one that the receiver polls for.  Without the assertion it is enough that
there is any room in the channel, or that they do not poll for the same value.
-/

namespace Gloc.Channel

open Gloc.Transition

universe u v

variable {Thread : Type u} {T : Type v}

/-- The receiver polls for this value, and the sender polls for one that comes at most so far
behind it. -/
def CollideAt (programs : End → List (Op T)) (reach j : Nat) : Prop :=
  (programs .receiver)[j]? = some .tryRecvPtr ∧
    ∃ i u, (programs .sender)[i]? = some (.trySend u) ∧ j ≤ i ∧ i ≤ j + reach

def Collide (programs : End → List (Op T)) (reach : Nat) : Prop :=
  ∃ j, CollideAt programs reach j

section Errors

variable [DecidableEq Thread] {asserts : Asserts} {N : Nat} {me : Thread} {c : Chan Thread T}
  {phase : Phase T}

theorem stretch_notTryReady_cases
    (failed : stretch asserts N me c phase = some (.error .notTryReady)) :
    asserts .notTryReady = true ∧
      ((∃ u, phase = .trySend u) ∨
        (∃ u, phase = .sendFirst u ∧ c.isTrySendReady = true ∧ c.queue.length ≤ N) ∨
        phase.receiving = true) := by
  have received : ∀ {form : RecvForm} {c : Chan Thread T},
      c.blockingRecv form asserts N me = .error .notTryReady → asserts .notTryReady = true := by
    intro form c failed
    cases nonempty : c.queue with
    | nil => simp [Chan.blockingRecv_nil nonempty] at failed
    | cons front rest =>
        simp only [Chan.blockingRecv_cons nonempty, Asserts.assert_eq_error_iff, reduceCtorEq,
          and_false, or_false, and_true] at failed
        exact failed.1
  replace failed := stretch_aborting failed
  cases failed with
  | @sendFirst u failed =>
      rw [Chan.sendFirst_eq] at failed
      split at failed
      next may =>
        simp only [Asserts.assert_eq_error_iff, reduceCtorEq, and_false, or_false] at failed
        obtain ⟨active, ready, -⟩ := failed
        have both : c.isTryReady = true := by simpa using ready
        rw [Chan.isTryReady, Bool.and_eq_true] at both
        exact ⟨active, .inr (.inl ⟨u, rfl, both.2, ((c.mayEnqueue_eq_true_iff N).mp may).2.2⟩)⟩
      next => cases failed
  | recvFirst failed => exact ⟨received failed, .inr (.inr rfl)⟩
  | recvWoken failed => exact ⟨received failed, .inr (.inr rfl)⟩
  | @trySend u failed =>
      rw [Chan.trySend_eq, Asserts.assert_eq_error_iff] at failed
      rcases failed with ⟨active, -⟩ | ⟨-, impossible⟩
      · exact ⟨active, .inl ⟨u, rfl⟩⟩
      · split at impossible <;> cases impossible
  | tryRecvPtr failed =>
      cases nonempty : c.queue with
      | nil => simp [Chan.tryRecvPtr_nil nonempty] at failed
      | cons front rest =>
          simp [Chan.tryRecvPtr_cons nonempty, Asserts.assert_eq_error_iff] at failed

theorem stretch_notOwnElement_front
    (failed : stretch asserts N me c phase = some (.error .notOwnElement)) :
    (phase.receiving = true ∨ phase = .tryRecvPtr) ∧
      ∃ front rest, c.queue = front :: rest ∧ front.1 = me := by
  replace failed := stretch_aborting failed
  cases failed with
  | @sendFirst u failed => cases Chan.sendFirst_error failed
  | @trySend u failed => cases Chan.trySend_error failed
  | recvFirst failed =>
      obtain ⟨front, rest, nonempty, -, own⟩ := Chan.blockingRecv_notOwnElement failed
      exact ⟨.inl rfl, front, rest, nonempty, own⟩
  | recvWoken failed =>
      obtain ⟨front, rest, nonempty, -, own⟩ := Chan.blockingRecv_notOwnElement failed
      exact ⟨.inl rfl, front, rest, nonempty, own⟩
  | tryRecvPtr failed =>
      cases nonempty : c.queue with
      | nil => simp [Chan.tryRecvPtr_nil nonempty] at failed
      | cons front rest =>
          refine ⟨.inr rfl, front, rest, rfl, ?_⟩
          simp only [Chan.tryRecvPtr_cons nonempty, Asserts.assert_eq_error_iff, reduceCtorEq,
            and_false, or_false, false_or, and_true] at failed
          obtain ⟨-, -, -, violated⟩ := failed
          simp only [Bool.or_eq_false_iff, decide_eq_false_iff_not, ne_eq, not_not] at violated
          exact violated.2.symm

end Errors

namespace Clients.PollingReaches

variable {asserts : Asserts} {N : Nat} {programs : End → List (Op T)}
  {labels : List (Label End T)} {c : Clients End T} {thread : End}

theorem getElem_transfers (keeps : KeepEnds programs)
    (run : PollingReaches asserts N programs labels c) {op : Op T}
    (due : (c.system.phase thread).due = some op) :
    (programs thread)[transfers thread (trace labels)]? = some op :=
  (run.persists keeps thread).getElem_transfers due

theorem receiver_of_role (keeps : KeepEnds programs)
    (run : PollingReaches asserts N programs labels c)
    (role : (c.system.phase thread).role = some .receiver) : thread = .receiver :=
  ((run.persists keeps thread).role _ role).symm

theorem not_polled (keeps : KeepEnds programs)
    (run : PollingReaches asserts N programs labels c)
    (awaiting : (c.system.phase thread).awaiting = true) :
    (programs .receiver)[transfers .receiver (trace labels)]? ≠ some .tryRecvPtr := by
  obtain ⟨form, due, role⟩ : ∃ form, (c.system.phase thread).due = some (.recv form) ∧
      (c.system.phase thread).role = some .receiver := by
    generalize c.system.phase thread = phase at awaiting
    cases phase <;> first | exact ⟨_, rfl, rfl⟩ | cases awaiting
  obtain rfl := run.receiver_of_role keeps role
  rw [run.getElem_transfers keeps due]
  rintro ⟨⟩

theorem not_polled_of_recvReady (keeps : KeepEnds programs)
    (run : PollingReaches asserts N programs labels c)
    (ready : c.system.chan.isRecvReady = true) :
    (programs .receiver)[transfers .receiver (trace labels)]? ≠ some .tryRecvPtr := by
  obtain ⟨thread, inside⟩ := (Readiness.of_reaches run.system).ready ready
  have awaiting : (c.system.phase thread).awaiting = true := by
    generalize c.system.phase thread = phase at inside
    cases phase <;> first | rfl | cases inside
  exact run.not_polled keeps awaiting

theorem sendDone (keeps : KeepEnds programs) (run : PollingReaches asserts N programs labels c)
    (outside : (c.system.phase .sender).betweenScopes = false) :
    c.system.chan.isSendDone = true := by
  by_contra pending
  obtain ⟨thread, inside⟩ :=
    (Protocol.of_reaches run.system).between (Bool.eq_false_of_not_eq_true pending)
  have role := (run.persists keeps thread).role
  cases thread with
  | sender => cases outside.symm.trans inside
  | receiver =>
      generalize c.system.phase .receiver = phase at inside role
      cases phase <;> first | cases inside; done | cases role _ rfl

/-- If the receiver polls, the queue is no longer than the capacity where the sender tries to
enqueue. -/
theorem room (keeps : KeepEnds programs) (run : PollingReaches asserts N programs labels c)
    (outside : (c.system.phase .sender).betweenScopes = false)
    (polls : (programs .receiver)[transfers .receiver (trace labels)]? = some .tryRecvPtr) :
    c.system.chan.queue.length ≤ N := by
  have protocol := Protocol.of_reaches run.system
  have bounded := protocol.bounded
  by_contra full
  rcases protocol.fullHasSender (by omega) with pending | pending
  · cases pending.symm.trans (run.sendDone keeps outside)
  · have ready := (Readiness.of_reaches run.system).shutOut pending
    exact run.not_polled_of_recvReady keeps ready polls

theorem safe (keeps : KeepEnds programs)
    (apart : asserts .notTryReady = true → ¬ Collide programs N)
    (run : PollingReaches asserts N programs labels c) : c.Safe asserts N := by
  intro action site failed
  obtain ⟨thread, -, executed⟩ := System.step_error failed
  have protocol := Protocol.of_reaches run.system
  have about := protocol.stretch_error executed
  have counted := run.transfers_add keeps
  have flagged := Flagged.of_reaches keeps run
  cases site with
  | notTryReady =>
      have polls := flagged.tryRecvReady (stretch_notTryReady executed)
      obtain ⟨active, cause⟩ := stretch_notTryReady_cases executed
      rcases cause with ⟨u, standing⟩ | ⟨u, standing, ready, bound⟩ | receiving
      · have role := (run.persists keeps thread).role .sender (by rw [standing]; rfl)
        subst role
        have bound := run.room keeps (by rw [standing]; rfl) polls
        have due := run.getElem_transfers keeps (by rw [standing]; rfl)
        exact apart active ⟨_, polls, _, u, due, by omega, by omega⟩
      · obtain ⟨i, v, low, high, sends⟩ := flagged.trySendReady ready
        exact apart active ⟨_, polls, i, v, sends, low, by omega⟩
      · exact run.not_polled keeps (Phase.awaiting_of_receiving receiving) polls
  | notOwnElement =>
      obtain ⟨receives, front, rest, nonempty, own⟩ := stretch_notOwnElement_front executed
      have role : (c.system.phase thread).role = some .receiver := by
        generalize c.system.phase thread = phase at receives
        rcases receives with receiving | rfl
        · cases phase <;> first | rfl | cases receiving
        · rfl
      obtain rfl := run.receiver_of_role keeps role
      refine ne_of_enqueuedBy_eq_nil (run.receiver_enqueues keeps) ?_ own
      rw [← dequeued_append_queue run.system, nonempty]
      simp
  | _ => cases about

end Clients.PollingReaches

/-- Nothing but failing attempts and spurious wake-ups can happen. -/
def Clients.Futile [DecidableEq Thread] [Fintype Thread] (asserts : Asserts) (N : Nat)
    (c : Clients Thread T) : Prop :=
  ∀ label next, Clients.Polls asserts N c label next → Clients.Vain label

namespace Clients.Futile

variable [DecidableEq Thread] [Fintype Thread] {asserts : Asserts} {N : Nat}
  {c : Clients Thread T}

theorem not_step (futile : c.Futile asserts N) {action : Action Thread T}
    {event : Option (Event Thread T)} {next : System Thread T}
    (follows : action.follows c.rest) (caused : action.isSpurious = false)
    (succeeds : ∀ seen ∈ event, seen.fails = false) :
    c.system.step asserts N action ≠ some (.ok (event, next)) := by
  intro taken
  rcases futile (action, event) ⟨next, _⟩ ⟨follows, taken, rfl⟩ with spurious | failed
  · cases caused.symm.trans spurious
  · obtain ⟨seen, observed, fails⟩ := failed
    cases (succeeds seen observed).symm.trans fails

theorem succeeds_of_notify {s next : System Thread T} {thread : Thread}
    {woken : Option Thread} {event : Option (Event Thread T)}
    (moved : System.Moves N s (.notify thread woken) event next) :
    ∀ seen ∈ event, seen.fails = false := by
  cases moved with
  | @notify _ _ cv phase result due =>
      intro seen observed
      obtain ⟨result, rfl, rfl⟩ := Option.map_eq_some_iff.mp observed
      generalize s.phase thread = current at due
      cases current <;> cases due <;> rfl

/-- Every thread is through, or parked, or at an attempt that fails. -/
theorem standing (futile : c.Futile asserts N) (safe : c.Safe asserts N) (thread : Thread) :
    c.Ended thread ∨ (∃ cv, (c.system.phase thread).waitsOn cv) ∨
      (∃ u, c.system.phase thread = .trySend u ∧ ¬ c.system.chan.acceptsTry N) ∨
      (c.system.phase thread = .tryRecvPtr ∧ c.system.chan.queue = []) := by
  cases executed : stretch asserts N thread c.system.chan (c.system.phase thread) with
  | none =>
      have locked : c.system.step asserts N (.lock thread) = none := by
        rw [System.step, executed]
        rfl
      have notified : ∀ woken, c.system.step asserts N (.notify thread woken) = none := by
        intro woken
        by_contra possible
        obtain ⟨outcome, taken⟩ := Option.ne_none_iff_exists'.mp possible
        cases outcome with
        | error site => exact safe _ _ taken
        | ok outcome =>
            have follows : (Action.notify thread woken).follows c.rest := trivial
            exact futile.not_step follows rfl (succeeds_of_notify (System.Step.moves taken)) taken
      rcases System.idle_or_parked locked notified with idle | parked
      · refine .inl ⟨idle, ?_⟩
        cases left : c.rest thread with
        | nil => rfl
        | cons op later =>
            have follows : (Action.call thread op).follows c.rest := ⟨later, left⟩
            refine absurd (System.step_call op idle) (futile.not_step follows rfl ?_)
            rintro seen ⟨⟩
            rfl
      · exact .inr (.inl parked)
  | some outcome =>
      cases outcome with
      | error site => exact absurd (System.step_lock_aborts executed) (safe _ _)
      | ok outcome =>
          obtain ⟨event, next, d⟩ := outcome
          have fails : event.any Event.fails = true := by
            by_contra succeeds
            have follows : (Action.lock thread).follows c.rest := trivial
            refine absurd (System.step_lock executed) (futile.not_step follows rfl ?_)
            rintro seen observed
            rw [Option.mem_def] at observed
            subst observed
            simpa using succeeds
          have stretch := stretch_cases executed
          generalize c.system.phase thread = phase at stretch
          generalize c.system.chan = chan at stretch
          cases stretch with
          | @tryRefuse u _ refuses => exact .inr (.inr (.inl ⟨u, rfl, refuses⟩))
          | tryRecvMiss empty => exact .inr (.inr (.inr ⟨rfl, empty⟩))
          | _ => cases fails

theorem nothing_due (futile : c.Futile asserts N) (safe : c.Safe asserts N) (thread : Thread) :
    (c.system.phase thread).credit = 0 ∧ (∀ cv, ¬ (c.system.phase thread).owes cv) ∧
      ¬ (c.system.phase thread).urges := by
  rcases futile.standing safe thread with ⟨idle, -⟩ | ⟨cv, parked⟩ | ⟨u, standing, -⟩ |
    ⟨standing, -⟩
  · simp [idle, Phase.credit, Phase.urges, Phase.owes, Phase.receiving, Phase.notifies]
  · generalize c.system.phase thread = phase at parked
    cases phase <;> cases parked <;>
      simp [Phase.credit, Phase.urges, Phase.owes, Phase.receiving, Phase.notifies]
  · simp [standing, Phase.credit, Phase.urges, Phase.owes, Phase.receiving, Phase.notifies]
  · simp [standing, Phase.credit, Phase.urges, Phase.owes, Phase.receiving, Phase.notifies]

end Clients.Futile

namespace Clients.PollingReaches

variable {asserts : Asserts} {N : Nat} {programs : End → List (Op T)}
  {labels : List (Label End T)} {c : Clients End T} {thread : End}

theorem transfers_of_ended (keeps : KeepEnds programs)
    (run : PollingReaches asserts N programs labels c) (ended : c.Ended thread) :
    transfers thread (trace labels) = (programs thread).length := by
  have whole := (run.persists keeps thread).length_program
  rw [ended.1, ended.2] at whole
  exact whole

theorem transfers_of_due (keeps : KeepEnds programs)
    (run : PollingReaches asserts N programs labels c)
    (due : (c.system.phase thread).due.isSome = true) :
    transfers thread (trace labels) < (programs thread).length := by
  have whole := (run.persists keeps thread).length_program
  obtain ⟨op, due⟩ := Option.isSome_iff_exists.mp due
  rw [due, Option.toList_some, List.length_singleton] at whole
  omega

theorem parked_receiver (keeps : KeepEnds programs)
    (run : PollingReaches asserts N programs labels c)
    (parked : ∃ cv, (c.system.phase .receiver).waitsOn cv) :
    ∃ form, c.system.phase .receiver = .recvWait form := by
  obtain ⟨cv, parked⟩ := parked
  have role := (run.persists keeps .receiver).role
  generalize c.system.phase .receiver = phase at parked role
  cases phase with
  | recvWait form => exact ⟨form, rfl⟩
  | sendBeginWait => cases role _ rfl
  | sendEndWait => cases role _ rfl
  | _ => cases parked

theorem trySendDone (run : PollingReaches asserts N programs labels c)
    (empty : c.system.chan.queue = []) : c.system.chan.isTrySendDone = true := by
  by_contra pending
  have full := (Protocol.of_reaches run.system).tryFull (Bool.eq_false_of_not_eq_true pending)
  simp [empty] at full

theorem queue_of_futile (keeps : KeepEnds programs)
    (same : (programs .sender).length = (programs .receiver).length)
    (run : PollingReaches asserts N programs labels c) (futile : c.Futile asserts N)
    (safe : c.Safe asserts N) : c.system.chan.queue = [] := by
  rcases futile.standing safe .receiver with ended | parked | ⟨u, standing, -⟩ | ⟨-, empty⟩
  · have counted := run.transfers_add keeps
    have received := run.transfers_of_ended keeps ended
    have sent := (run.persists keeps .sender).length_program
    exact List.eq_nil_of_length_eq_zero (by omega)
  · obtain ⟨form, waits⟩ := run.parked_receiver keeps parked
    have covered := (Signalled.of_reaches run.system).recv ⟨.receiver, by rw [waits]; rfl⟩
    have spent : total Phase.credit c.system.phase = 0 :=
      total_eq_zero_iff.mpr fun other => (futile.nothing_due safe other).1
    exact List.eq_nil_of_length_eq_zero (by omega)
  · cases (run.persists keeps .receiver).role .sender (by rw [standing]; rfl)
  · exact empty

theorem sender_unparked (keeps : KeepEnds programs)
    (run : PollingReaches asserts N programs labels c) (futile : c.Futile asserts N)
    (safe : c.Safe asserts N) (empty : c.system.chan.queue = []) (cv : Cv) :
    ¬ (c.system.phase .sender).waitsOn cv := by
  intro parked
  have role := (run.persists keeps .sender).role
  have signalled := Signalled.of_reaches run.system
  cases cv with
  | recv =>
      generalize c.system.phase .sender = phase at parked role
      cases phase <;> first | cases parked; done | cases role _ rfl
  | sendEnd =>
      obtain ⟨other, owes⟩ := signalled.sendEnd ⟨_, parked⟩ (by simp [empty])
      exact (futile.nothing_due safe other).2.1 _ owes
  | sendBegin =>
      have outside : (c.system.phase .sender).betweenScopes = false := by
        generalize c.system.phase .sender = phase at parked
        cases phase <;> first | rfl | cases parked
      have may := (c.system.chan.mayEnqueue_eq_true_iff N).mpr
        ⟨run.sendDone keeps outside, run.trySendDone empty, by simp [empty]⟩
      obtain ⟨other, urges⟩ := signalled.sendBegin ⟨_, parked⟩ may
      exact (futile.nothing_due safe other).2.2 urges

/-- A thread that is not through is at a call that gets its value in the end, unless nothing
fits into the channel and both threads poll for the same value. -/
theorem ended_of_futile (keeps : KeepEnds programs)
    (same : (programs .sender).length = (programs .receiver).length)
    (run : PollingReaches asserts N programs labels c) (futile : c.Futile asserts N)
    (safe : c.Safe asserts N) (room : 0 < N ∨ ¬ Collide programs 0) (thread : End) :
    c.Ended thread := by
  have empty := run.queue_of_futile keeps same futile safe
  have counted := run.transfers_add keeps
  rw [empty, List.length_nil, Nat.add_zero] at counted
  have receiver : c.Ended .receiver ∨ (c.system.phase .receiver).due.isSome = true ∧
      ((c.system.phase .receiver).insideRecv = true ∨
        c.system.phase .receiver = .tryRecvPtr) := by
    rcases futile.standing safe .receiver with ended | parked | ⟨u, standing, -⟩ | ⟨standing, -⟩
    · exact .inl ended
    · obtain ⟨form, waits⟩ := run.parked_receiver keeps parked
      rw [waits]
      exact .inr ⟨rfl, .inl rfl⟩
    · cases (run.persists keeps .receiver).role .sender (by rw [standing]; rfl)
    · rw [standing]
      exact .inr ⟨rfl, .inr rfl⟩
  have sender : c.Ended .sender := by
    rcases futile.standing safe .sender with ended | ⟨cv, parked⟩ | ⟨u, standing, refuses⟩ |
      ⟨standing, -⟩
    · exact ended
    · exact absurd parked (run.sender_unparked keeps futile safe empty cv)
    · -- it is refused only for want of a receiver that waits
      have due : transfers .sender (trace labels) < (programs .sender).length :=
        run.transfers_of_due keeps (by rw [standing]; rfl)
      exfalso
      refine refuses ⟨run.sendDone keeps (by rw [standing]; rfl), run.trySendDone empty,
        by simp [empty], fun last => ?_⟩
      rcases receiver with ended | ⟨-, inside | polls⟩
      · have received := run.transfers_of_ended keeps ended
        omega
      · exact (Flagged.of_reaches keeps run).recvReady inside
      · rw [empty, List.length_nil] at last
        have collide : Collide programs 0 :=
          ⟨_, run.getElem_transfers keeps (by rw [polls]; rfl), _, u,
            run.getElem_transfers keeps (by rw [standing]; rfl), counted.le, by omega⟩
        rcases room with some | apart
        · omega
        · exact absurd collide apart
    · cases (run.persists keeps .sender).role .receiver (by rw [standing]; rfl)
  cases thread with
  | sender => exact sender
  | receiver =>
      rcases receiver with ended | ⟨due, -⟩
      · exact ended
      · have sent := run.transfers_of_ended keeps sender
        have left := run.transfers_of_due keeps due
        omega

/-- On a synchronous channel a value that both threads poll for is never sent. -/
theorem transfers_le (keeps : KeepEnds programs) {j : Nat} {u : T}
    (sends : (programs .sender)[j]? = some (.trySend u))
    (polls : (programs .receiver)[j]? = some .tryRecvPtr)
    (run : PollingReaches asserts 0 programs labels c) :
    transfers .sender (trace labels) ≤ j := by
  refine Execution.invariant (fun labels (_ : Clients End T) =>
    transfers .sender (trace labels) ≤ j) (Nat.zero_le _) ?_ run
  rintro labels middle ⟨action, event⟩ last
    (reached : PollingReaches asserts 0 programs labels middle) below ⟨-, moved, -⟩
  have moved := System.Step.moves moved
  have counted := reached.transfers_add keeps
  rw [trace_append, trace_single, transfers_append]
  by_contra above
  generalize last.system = after at moved
  cases action with
  | lock thread =>
      cases moved with
      | lock stretch =>
          have role := (reached.persists keeps thread).role
          have due : ∀ {op}, (middle.system.phase thread).due = some op →
              (programs thread)[transfers thread (trace labels)]? = some op :=
            reached.getElem_transfers keeps
          have waiting := reached.not_polled_of_recvReady keeps
          generalize middle.system.phase thread = phase at stretch role due
          generalize middle.system.chan = chan at stretch waiting counted
          cases stretch with
          | sendEnqueue =>
              obtain rfl : End.sender = thread := role _ rfl
              have last : transfers .sender (trace labels) = j :=
                Nat.le_antisymm below (Nat.lt_succ_iff.mp (Nat.lt_of_not_le above))
              have due := due rfl
              rw [last, sends] at due
              cases due
          | tryEnqueue accepts =>
              obtain rfl : End.sender = thread := role _ rfl
              have last : transfers .sender (trace labels) = j :=
                Nat.le_antisymm below (Nat.lt_succ_iff.mp (Nat.lt_of_not_le above))
              have empty := Nat.le_zero.mp accepts.2.2.1
              rw [empty, Nat.add_zero, last] at counted
              refine waiting (accepts.2.2.2 empty) ?_
              rw [counted]
              exact polls
          | recvTake receiving =>
              obtain rfl : End.receiver = thread :=
                role _ (by rcases receiving with rfl | rfl <;> rfl)
              exact above below
          | tryRecvTake =>
              obtain rfl : End.receiver = thread := role _ rfl
              exact above below
          | _ => exact above below
  | _ =>
      have silent : transfers .sender event.toList = 0 := by
        cases event with
        | none => rfl
        | some seen =>
            rcases moved.calls_or_returns (by simp) seen rfl with ⟨_, rfl⟩ | ⟨_, rfl⟩ <;> rfl
      omega

theorem not_ended_of_collide (keeps : KeepEnds programs) (collide : Collide programs 0)
    (run : PollingReaches asserts 0 programs labels c) : ¬ c.Ended .receiver := by
  intro ended
  obtain ⟨j, polls, i, u, sends, low, high⟩ := collide
  obtain rfl : i = j := Nat.le_antisymm high low
  have sent := run.transfers_le keeps sends polls
  have received := run.transfers_of_ended keeps ended
  have counted := run.transfers_add keeps
  obtain ⟨inside, -⟩ := List.getElem?_eq_some_iff.mp polls
  omega

theorem received_isPrefix (keeps : KeepEnds programs)
    (run : PollingReaches asserts N programs labels c) :
    received .receiver (trace labels) <+: (programs .sender).filterMap Op.offered := by
  obtain ⟨done, whole, offered, -⟩ := (run.persists keeps .sender).progress
  have handed := received_append_held run.system .receiver
  refine ⟨((c.system.phase .receiver).held.toList ++ c.system.chan.queue.map Prod.snd) ++
    ((c.system.phase .sender).due.toList ++ c.rest .sender).filterMap Op.offered, ?_⟩
  conv_rhs => rw [whole, List.filterMap_append, ← offered, ← run.in_order keeps, ← handed]
  simp only [List.append_assoc]

theorem received_of_ended (keeps : KeepEnds programs)
    (same : (programs .sender).length = (programs .receiver).length)
    (run : PollingReaches asserts N programs labels c) (ended : ∀ thread, c.Ended thread) :
    received .receiver (trace labels) = (programs .sender).filterMap Op.offered := by
  obtain ⟨done, whole, offered, -⟩ := (run.persists keeps .sender).progress
  have order := run.in_order keeps
  have counted := run.transfers_add keeps
  have sent := run.transfers_of_ended keeps (ended .sender)
  have taken := run.transfers_of_ended keeps (ended .receiver)
  have empty : c.system.chan.queue = [] := List.eq_nil_of_length_eq_zero (by omega)
  have returned := received_append_held run.system .receiver
  rw [(ended .receiver).1] at returned
  rw [(ended .sender).1, (ended .sender).2] at whole
  simp only [Phase.held, Phase.due, Option.toList_none, List.append_nil] at returned whole
  rw [returned, whole, ← offered, ← order, empty, List.map_nil, List.append_nil]

end Clients.PollingReaches

/-- Two threads of which one sends and the other one receives, as often, by blocking calls and
in selects that wait: no assertion fails as long as the selects are far enough apart, the
values come through in order, and all of them do unless the channel is synchronous and both
threads poll for the same value. -/
theorem polls_end_iff {asserts : Asserts} {N : Nat} {programs : End → List (Op T)}
    {labels : List (Label End T)} {c : Clients End T} (keeps : KeepEnds programs)
    (same : (programs .sender).length = (programs .receiver).length)
    (apart : asserts .notTryReady = true → ¬ Collide programs N)
    (run : Clients.PollingReaches asserts N programs labels c) :
    c.Safe asserts N ∧
    received .receiver (trace labels) <+: (programs .sender).filterMap Op.offered ∧
    ((∀ thread, c.Ended thread) →
      received .receiver (trace labels) = (programs .sender).filterMap Op.offered) ∧
    ((∀ budget, Inevitable (Clients.Polls asserts N) Clients.Vain
        (fun c => ∀ thread, c.Ended thread) budget c) ↔
      0 < N ∨ ¬ Collide programs 0) := by
  refine ⟨run.safe keeps apart, run.received_isPrefix keeps, run.received_of_ended keeps same,
    fun inevitable => ?_, fun room budget => ?_⟩
  · rw [Nat.pos_iff_ne_zero]
    by_contra stuck
    simp only [not_or, not_not, ne_eq] at stuck
    obtain ⟨rfl, collide⟩ := stuck
    obtain ⟨later, last, continued, ended⟩ := (inevitable 0).reachable
    have whole : Clients.PollingReaches asserts 0 programs (labels ++ later) last :=
      run.append continued
    exact whole.not_ended_of_collide keeps collide (ended .receiver)
  · refine Inevitable.of_variant
      (fun c => ∃ labels, Clients.PollingReaches asserts N programs labels c)
      Clients.workload ?_ ?_ ?_ budget ⟨labels, run⟩
    · rintro _ _ _ ⟨_, reached⟩ taken
      exact ⟨_, .snoc reached taken⟩
    · intro _ _ _ _ furthers taken
      exact (taken.step furthers).workload_lt fun spurious => furthers (.inl spurious)
    · rintro c ⟨labels, reached⟩ short
      by_contra stuck
      refine short (reached.ended_of_futile keeps same ?_ (reached.safe keeps apart) room)
      intro label next taken
      by_contra furthers
      exact stuck ⟨label, next, furthers, taken⟩

def selectSends : End → List (Op Nat)
  | .sender => [.trySend 7]
  | .receiver => [.recv .value]

theorem polls_end_iff_synchronous :
    Clients.PollingReaches .active 0 selectSends [] (.init selectSends) ∧
      ∀ budget, Inevitable (Clients.Polls .active 0) Clients.Vain
        (fun c => ∀ thread, c.Ended thread) budget (.init selectSends) := by
  have keeps : KeepEnds selectSends := by
    rintro (_ | _) op membership
    · rw [List.mem_singleton.mp membership]
      rfl
    · rw [List.mem_singleton.mp membership]
      rfl
  have apart : ¬ Collide selectSends 0 := by
    rintro ⟨_ | j, polls, -⟩
    · cases polls
    · cases polls
  have run : Clients.PollingReaches .active 0 selectSends [] (.init selectSends) := .nil
  obtain ⟨-, -, -, ends⟩ := polls_end_iff keeps rfl (fun _ => apart) run
  exact ⟨run, ends.mpr (.inr apart)⟩

end Gloc.Channel
