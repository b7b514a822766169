import Gloc.Channel.Exceptions
import Gloc.Channel.Readiness

/-!
# A receive that throws

A receive announces itself before it looks at the queue, and moves the front of
the queue to a local pair before the step that may throw.  An exception undoes
neither.  Whether it can be noticed depends on the type of the elements, and on
whether somebody else has announced the same.
-/

namespace Gloc.Channel

open Gloc.Transition

universe u v

variable {Thread : Type u} {T : Type v}

theorem Critical.queue {N : Nat} {me : Thread} {phase next : Phase T} {c after : Chan Thread T}
    {event : Option (Event Thread T)} (stretch : Critical N me phase c event next after) :
    dequeued event.toList ++ after.queue = c.queue ++ enqueued event.toList := by
  cases stretch with
  | recvTake receiving nonempty => simp [nonempty, Chan.received]
  | tryRecvTake nonempty => simp [nonempty, Chan.tryReceived]
  | _ => simp [Chan.trySent]

theorem System.Moves.queue [DecidableEq Thread] [Fintype Thread] {N : Nat}
    {s next : System Thread T} {action : Action Thread T} {event : Option (Event Thread T)}
    (moved : System.Moves N s action event next) :
    dequeued event.toList ++ next.chan.queue = s.chan.queue ++ enqueued event.toList := by
  cases action with
  | lock thread =>
      cases moved with
      | lock stretch => exact stretch.queue
  | _ =>
      obtain ⟨chan, -⟩ := moved.settled settled_insideRecv (by simp)
      rw [chan]
      cases event with
      | none => simp
      | some seen =>
          rcases moved.calls_or_returns (by simp) seen rfl with ⟨op, rfl⟩ | ⟨result, rfl⟩
          · simp
          · simp

section Attending

variable [DecidableEq Thread]

def attends (attending : List Thread) : Occurrence Thread T → List Thread
  | .regular (_, some (.entered thread)) => thread :: attending
  | .regular (_, some (.dequeued _ true _)) => []
  | .regular _ => attending
  | .thrown thread => attending.filter (· ≠ thread)

/-- The threads that have started to wait in a blocking receive since one has last
taken an element, and that are still there. -/
def attending (past : List (Occurrence Thread T)) : List Thread :=
  past.foldl attends []

structure AsIfNotMade (past : List (Occurrence Thread T)) (s : System Thread T)
    (thread : Thread) (next : System Thread T) : Prop where
  queue : next.chan.queue = s.chan.queue
  sendDone : next.chan.isSendDone = s.chan.isSendDone
  trySendDone : next.chan.isTrySendDone = s.chan.isTrySendDone
  recvReady : next.chan.isRecvReady = true ↔ (attending past).filter (· ≠ thread) ≠ []
  trySendReady : next.chan.isTrySendReady = s.chan.isTrySendReady
  tryRecvReady : next.chan.isTryRecvReady = s.chan.isTryRecvReady

def Phase.receives : Phase T → Prop
  | .recvFirst _ | .recvWoken _ | .tryRecvPtr => True
  | _ => False

/-- A receive may throw here: the front of the queue is the same after it has been moved
from, and somebody else has set the flag that this receive has set. -/
def MayThrow (moved : T → T) (past : List (Occurrence Thread T)) (s : System Thread T)
    (thread : Thread) : Prop :=
  (∀ front ∈ s.chan.queue.head?, moved front.2 = front.2) ∧
  match s.phase thread with
  | .recvFirst _ => (attending past).filter (· ≠ thread) ≠ []
  | .recvWoken _ => s.chan.isRecvReady = true → (attending past).filter (· ≠ thread) ≠ []
  | .tryRecvPtr => s.chan.isTryRecvReady = true
  | _ => True

variable [Fintype Thread]

/-- Runs in which receives throw only where they may; sends throw anywhere. -/
inductive ReachesThrowing (moved : T → T) (asserts : Asserts) (N : Nat) :
    List (Occurrence Thread T) → System Thread T → Prop where
  | init : ReachesThrowing moved asserts N [] System.init
  | regular {past s label next} :
      ReachesThrowing moved asserts N past s →
      System.Step asserts N s label next →
      ReachesThrowing moved asserts N (past ++ [.regular label]) next
  | thrown {past s thread next} :
      ReachesThrowing moved asserts N past s →
      ((s.phase thread).receives → MayThrow moved past s thread) →
      s.throws moved asserts N thread = some next →
      ReachesThrowing moved asserts N (past ++ [.thrown thread]) next

end Attending

/-- The flag of the receivers is set for those who attend, and elements come and go in
order. -/
structure Attendance [DecidableEq Thread] (past : List (Occurrence Thread T))
    (s : System Thread T) : Prop where
  flag : s.chan.isRecvReady = true ↔ attending past ≠ []
  inside : ∀ thread ∈ attending past, (s.phase thread).insideRecv = true
  shutOut : s.chan.isTrySendDone = false → s.chan.isRecvReady = true
  inOrder : dequeued (regularTrace past) ++ s.chan.queue = enqueued (regularTrace past)

namespace Attendance

variable [DecidableEq Thread] {N : Nat} {past : List (Occurrence Thread T)}
  {s : System Thread T} {thread : Thread} {action : Action Thread T}
  {event : Option (Event Thread T)} {phase : Phase T} {c : Chan Thread T}

theorem attending_regular (past : List (Occurrence Thread T)) (label : Label Thread T) :
    attending (past ++ [.regular label]) = attends (attending past) (.regular label) := by
  simp [attending]

theorem attending_thrown (past : List (Occurrence Thread T)) (thread : Thread) :
    attending (past ++ [.thrown thread]) = (attending past).filter (· ≠ thread) := by
  simp [attending, attends]

theorem attends_silent (quiet : ∀ seen ∈ event, seen.announces = none) (others : List Thread) :
    attends others (.regular (action, event)) = others := by
  cases event with
  | none => rfl
  | some seen =>
      have silent := quiet seen rfl
      cases seen with
      | dequeued _ blocking _ =>
          cases blocking with
          | true => cases silent
          | false => rfl
      | entered => cases silent
      | _ => rfl

theorem init : Attendance [] (System.init : System Thread T) where
  flag := by simp [System.init, Chan.init, attending]
  inside := by simp [attending]
  shutOut := by simp [System.init, Chan.init]
  inOrder := rfl

theorem inOrder_regular (attendance : Attendance past s) {next : System Thread T}
    (queue : dequeued event.toList ++ next.chan.queue =
      s.chan.queue ++ enqueued event.toList) :
    dequeued (regularTrace (past ++ [.regular (action, event)])) ++ next.chan.queue =
      enqueued (regularTrace (past ++ [.regular (action, event)])) := by
  rw [regularTrace_regular, dequeued_append, enqueued_append, List.append_assoc, queue,
    ← List.append_assoc, attendance.inOrder]

theorem silent (attendance : Attendance past s) {next : System Thread T}
    (quiet : ∀ seen ∈ event, seen.announces = none)
    (kept : ∀ other, (s.phase other).insideRecv = true → (next.phase other).insideRecv = true)
    (recvReady : next.chan.isRecvReady = s.chan.isRecvReady)
    (trySendDone : next.chan.isTrySendDone = false → s.chan.isRecvReady = true)
    (queue : dequeued event.toList ++ next.chan.queue =
      s.chan.queue ++ enqueued event.toList) :
    Attendance (past ++ [.regular (action, event)]) next where
  flag := by
    rw [attending_regular, attends_silent quiet, recvReady]
    exact attendance.flag
  inside other attends := by
    rw [attending_regular, attends_silent quiet] at attends
    exact kept other (attendance.inside other attends)
  shutOut pending := recvReady.trans (trySendDone pending)
  inOrder := attendance.inOrder_regular queue

theorem critical (attendance : Attendance past s)
    (stretch : Critical N thread (s.phase thread) s.chan event phase c) :
    Attendance (past ++ [.regular (action, event)])
      ({ s with chan := c }.setPhase thread phase) := by
  have queue := stretch.queue
  generalize standing : s.phase thread = current at stretch
  generalize held : s.chan = d at stretch
  have kept : (current.insideRecv = true → phase.insideRecv = true) →
      ∀ other, (s.phase other).insideRecv = true →
        (Function.update s.phase thread phase other).insideRecv = true := by
    intro same other inside
    rw [Function.update_apply]
    split
    next equal => exact same (standing ▸ equal ▸ inside)
    next => exact inside
  cases stretch with
  | sendPark =>
      subst held
      exact attendance.silent (by simp) (kept (by rintro ⟨⟩)) rfl attendance.shutOut queue
  | sendEnqueue =>
      subst held
      exact attendance.silent (by simp [Event.announces]) (kept (by rintro ⟨⟩)) rfl
        attendance.shutOut queue
  | sendHold =>
      subst held
      exact attendance.silent (by simp) (kept (by rintro ⟨⟩)) rfl attendance.shutOut queue
  | sendFinish =>
      subst held
      exact attendance.silent (by simp) (kept (by rintro ⟨⟩)) rfl attendance.shutOut queue
  | recvEnter =>
      refine ⟨?_, ?_, fun _ => rfl, attendance.inOrder_regular queue⟩
      · rw [attending_regular]
        simp [attends]
      · intro other attends
        rw [attending_regular] at attends
        rcases List.mem_cons.mp attends with rfl | earlier
        · rw [System.setPhase_self]
          rfl
        · exact kept (fun _ => rfl) other (attendance.inside other earlier)
  | recvRepark =>
      subst held
      exact attendance.silent (by simp) (kept fun _ => rfl) rfl attendance.shutOut queue
  | recvTake =>
      refine ⟨?_, ?_, by rintro ⟨⟩, attendance.inOrder_regular queue⟩
      · rw [attending_regular]
        simp [attends, Chan.received]
      · rw [attending_regular]
        simp [attends]
  | tryRefuse =>
      subst held
      exact attendance.silent (by simp [Event.announces]) (kept (by rintro ⟨⟩)) rfl
        attendance.shutOut queue
  | tryEnqueue accepts =>
      subst held
      refine attendance.silent (by simp [Event.announces]) (kept (by rintro ⟨⟩)) rfl
        (fun pending => ?_) queue
      have last : ¬ s.chan.queue.length < N := by simpa [Chan.trySent] using pending
      have room := accepts.2.2.1
      exact accepts.2.2.2 (by omega)
  | tryRecvMiss =>
      subst held
      exact attendance.silent (by simp [Event.announces]) (kept (by rintro ⟨⟩)) rfl
        attendance.shutOut queue
  | tryRecvTake =>
      subst held
      exact attendance.silent (by simp [Event.announces]) (kept (by rintro ⟨⟩)) rfl
        (by rintro ⟨⟩) queue

theorem step [Fintype Thread] (attendance : Attendance past s) {next : System Thread T}
    (moved : System.Moves N s action event next) :
    Attendance (past ++ [.regular (action, event)]) next := by
  have queue := moved.queue
  cases action with
  | lock thread =>
      cases moved with
      | lock stretch => exact attendance.critical stretch
  | _ =>
      obtain ⟨chan, phases⟩ := moved.settled settled_insideRecv (by simp)
      refine attendance.silent ?_ ?_ (by rw [chan]) (by rw [chan]; exact attendance.shutOut) queue
      · intro seen observed
        rcases moved.calls_or_returns (by simp) seen observed with ⟨op, rfl⟩ | ⟨result, rfl⟩
        · rfl
        · rfl
      · intro other inside
        rw [phases, inside]

theorem others_of_outside (attendance : Attendance past s)
    (outside : (s.phase thread).insideRecv = false) :
    (attending past).filter (· ≠ thread) = attending past := by
  apply List.filter_eq_self.mpr
  intro other attends
  have inside := attendance.inside other attends
  rw [decide_eq_true_eq]
  rintro rfl
  cases inside.symm.trans outside

omit [DecidableEq Thread] in
theorem moved_iff {moved : T → T} {queue rest : List (Thread × T)} {front : Thread × T}
    (nonempty : queue = front :: rest) :
    (front.1, moved front.2) :: rest = queue ↔
      ∀ front ∈ queue.head?, moved front.2 = front.2 := by
  subst nonempty
  simp [Prod.ext_iff]

/-- An exception in a receive is not noticed if and only if it may occur. -/
theorem asIfNotMade_iff (attendance : Attendance past s) {moved : T → T} {asserts : Asserts}
    {next : System Thread T} (receives : (s.phase thread).receives)
    (thrown : s.throws moved asserts N thread = some next) :
    AsIfNotMade past s thread next ↔ MayThrow moved past s thread := by
  obtain ⟨left, interrupted, rfl⟩ := System.throws_cases thrown
  unfold MayThrow
  generalize standing : s.phase thread = current at interrupted receives
  generalize held : s.chan = c at interrupted
  cases interrupted with
  | send => cases receives
  | trySend => cases receives
  | recvFirst throwing nonempty =>
      subst held
      constructor
      · intro asIf
        exact ⟨(moved_iff nonempty).mp asIf.queue, asIf.recvReady.mp rfl⟩
      · rintro ⟨same, others⟩
        exact ⟨(moved_iff nonempty).mpr same, rfl, rfl, ⟨fun _ => others, fun _ => rfl⟩, rfl, rfl⟩
  | recvWoken throwing nonempty =>
      subst held
      constructor
      · intro asIf
        exact ⟨(moved_iff nonempty).mp asIf.queue, asIf.recvReady.mp⟩
      · rintro ⟨same, others⟩
        refine ⟨(moved_iff nonempty).mpr same, rfl, rfl, ⟨others, fun some => ?_⟩, rfl, rfl⟩
        apply attendance.flag.mpr
        rintro none
        simp [none] at some
  | tryRecv nonempty =>
      subst held
      have unchanged := attendance.others_of_outside (by rw [standing]; rfl)
      constructor
      · intro asIf
        exact ⟨(moved_iff nonempty).mp asIf.queue, asIf.tryRecvReady.symm⟩
      · rintro ⟨same, ready⟩
        refine ⟨(moved_iff nonempty).mpr same, rfl, rfl, ?_, rfl, ready.symm⟩
        rw [unchanged]
        exact attendance.flag

theorem of_others (attendance : Attendance past s) {left : Chan Thread T}
    (queue : left.queue = s.chan.queue)
    (recvReady : left.isRecvReady = true ↔ (attending past).filter (· ≠ thread) ≠ [])
    (shutOut : left.isTrySendDone = false → left.isRecvReady = true) :
    Attendance (past ++ [.thrown thread]) ({ s with chan := left }.setPhase thread .idle) where
  flag := by
    rw [attending_thrown]
    exact recvReady
  inside other attends := by
    rw [attending_thrown, List.mem_filter, decide_eq_true_eq] at attends
    rw [System.setPhase_of_ne _ attends.2]
    exact attendance.inside other attends.1
  shutOut := shutOut
  inOrder := by
    rw [regularTrace_thrown, System.setPhase_chan, queue]
    exact attendance.inOrder

theorem throws (attendance : Attendance past s) {moved : T → T} {asserts : Asserts}
    {next : System Thread T}
    (permitted : (s.phase thread).receives → MayThrow moved past s thread)
    (thrown : s.throws moved asserts N thread = some next) :
    Attendance (past ++ [.thrown thread]) next := by
  have unnoticed := fun receives : (s.phase thread).receives =>
    (attendance.asIfNotMade_iff receives thrown).mpr (permitted receives)
  obtain ⟨left, interrupted, rfl⟩ := System.throws_cases thrown
  generalize standing : s.phase thread = current at interrupted unnoticed
  generalize held : s.chan = c at interrupted
  cases interrupted with
  | send =>
      subst held
      apply attendance.of_others rfl _ attendance.shutOut
      rw [attendance.others_of_outside (by rw [standing]; rfl)]
      exact attendance.flag
  | trySend accepts =>
      subst held
      refine attendance.of_others rfl ?_ ?_
      · rw [attendance.others_of_outside (by rw [standing]; rfl)]
        exact attendance.flag
      · intro pending
        have last : ¬ s.chan.queue.length < N := by simpa using pending
        have room := accepts.2.2.1
        exact accepts.2.2.2 (by omega)
  | recvFirst =>
      have asIf := unnoticed trivial
      exact attendance.of_others asIf.queue asIf.recvReady fun _ => rfl
  | recvWoken =>
      subst held
      have asIf := unnoticed trivial
      exact attendance.of_others asIf.queue asIf.recvReady attendance.shutOut
  | tryRecv =>
      subst held
      have asIf := unnoticed trivial
      exact attendance.of_others asIf.queue asIf.recvReady attendance.shutOut

theorem of_reaches [Fintype Thread] {moved : T → T} {asserts : Asserts}
    (run : ReachesThrowing moved asserts N past s) : Attendance past s := by
  induction run with
  | init => exact init
  | @regular past s label next _ taken attendance => exact attendance.step taken.moves
  | thrown _ permitted thrown attendance => exact attendance.throws permitted thrown

end Attendance

/-- A receive that exits by an exception leaves the channel as if it had not been called,
if and only if moving the front leaves its value alone and somebody else has announced
what it has announced.  In a run in which no receive throws otherwise nothing is lost,
and a select send never counts on a receiver that has left. -/
theorem throwingReceive_asIfNotMade [DecidableEq Thread] [Fintype Thread] {moved : T → T}
    {asserts : Asserts} {N : Nat} {past : List (Occurrence Thread T)} {s : System Thread T}
    (run : ReachesThrowing moved asserts N past s) :
    (∀ thread next, (s.phase thread).receives →
      s.throws moved asserts N thread = some next →
      (AsIfNotMade past s thread next ↔ MayThrow moved past s thread)) ∧
    dequeued (regularTrace past) ++ s.chan.queue = enqueued (regularTrace past) ∧
    (s.chan.isRecvReady = true → ∃ thread, (s.phase thread).insideRecv = true) ∧
    (s.chan.isTrySendDone = false → ∃ thread, (s.phase thread).insideRecv = true) := by
  have attendance := Attendance.of_reaches run
  have ready : s.chan.isRecvReady = true → ∃ thread, (s.phase thread).insideRecv = true := by
    intro ready
    obtain ⟨thread, attends⟩ := List.exists_mem_of_ne_nil _ (attendance.flag.mp ready)
    exact ⟨thread, attendance.inside thread attends⟩
  exact ⟨fun thread next receives thrown => attendance.asIfNotMade_iff receives thrown,
    attendance.inOrder, ready, fun pending => ready (attendance.shutOut pending)⟩

theorem ReachesThrowing.of_reaches [DecidableEq Thread] [Fintype Thread] {asserts : Asserts}
    {N : Nat} {labels : List (Label Thread T)} {s : System Thread T} (moved : T → T)
    (run : System.Reaches asserts N labels s) :
    ReachesThrowing moved asserts N (labels.map .regular) s := by
  induction run with
  | nil => exact .init
  | snoc _ taken inductionHypothesis =>
      rw [List.map_append]
      exact .regular inductionHypothesis taken

/-- An element that moving leaves alone is assigned in vain while another receiver has
started to wait. -/
theorem throwingReceive_asIfNotMade_twoReceivers :
    ∃ (past : List (Occurrence (Fin 3) Nat)) (s : System (Fin 3) Nat),
      ReachesThrowing id .active 1 past s ∧ (∃ thread, Occurrence.thrown thread ∈ past) ∧
      s.chan.queue = [(2, 7)] ∧ s.chan.isRecvReady = true ∧
      ∃ thread, (s.phase thread).insideRecv = true := by
  have run := ReachesThrowing.of_reaches id (System.execution_of_replay .active 1
    (System.init : System (Fin 3) Nat)
    [.call 0 (.recv .value), .lock 0, .call 2 (.send 7), .lock 2, .call 1 (.recv .reference)] rfl)
  have thrown := @ReachesThrowing.thrown _ _ _ _ _ _ _ _ _ 1 ⟨_, _⟩ run
    (fun _ => ⟨by decide, by rintro ⟨⟩⟩) rfl
  exact ⟨_, _, thrown, ⟨1, by simp⟩, rfl, rfl, (throwingReceive_asIfNotMade thrown).2.2.1 rfl⟩

/-- With elements that are zero after they have been moved from, a receive that throws
turns the value that has been sent into zero; and a select send into a full buffer is
accepted then, although nobody is receiving. -/
theorem received_in_vain :
    ∃ (past : List (Occurrence Bool Nat)) (s : System Bool Nat),
      ReachesThrowing (fun _ => 0) .active 1 past s ∧ s.chan.queue = [(false, 7)] ∧
      ¬ s.chan.acceptsTry 1 ∧
      ∃ next, s.throws (fun _ => 0) .active 1 true = some next ∧
        next.chan.queue = [(false, 0)] ∧ (∀ thread, (next.phase thread).insideRecv = false) ∧
        next.chan.acceptsTry 1 ∧ ¬ AsIfNotMade past s true next := by
  have run := ReachesThrowing.of_reaches (fun _ => 0) (System.execution_of_replay .active 1
    (System.init : System Bool Nat)
    [.call false (.send 7), .lock false, .notify false none, .lock false, .notify false none,
      .call true (.recv .reference)] rfl)
  refine ⟨_, _, run, rfl, by decide, ⟨_, _⟩, rfl, rfl, by decide, by decide, ?_⟩
  intro asIf
  cases asIf.queue

end Gloc.Channel
