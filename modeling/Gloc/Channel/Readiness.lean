import Gloc.Channel.Clients

/-!
# Receivers and select senders

`m_is_recv_ready` is set by every blocking receive that starts to wait and
cleared by every blocking receive that takes an element.  It is one flag for
all receivers.  While it is set somebody is waiting, and this is what the
block on other senders relies on that a select send may leave behind; but
while somebody is waiting it need not be set.
-/

namespace Gloc.Channel

open Gloc.Transition

universe u v

variable {Thread : Type u} {T : Type v}

/-- A blocking receive starts to wait, or takes an element. -/
def Event.announces : Event Thread T → Option Bool
  | .entered _ => some true
  | .dequeued _ true _ => some false
  | .called _ _ | .enqueued _ _ | .dequeued _ false _ | .returned _ _ => none

/-- The blocking receives have last been heard of when one of them started to
wait. -/
def announced (trace : List (Event Thread T)) : Bool :=
  (trace.filterMap Event.announces).getLast? = some true

theorem announced_snoc (trace : List (Event Thread T)) (event : Event Thread T) :
    announced (trace ++ [event]) = event.announces.getD (announced trace) := by
  cases announces : event.announces with
  | none => simp [announced, announces]
  | some ready => cases ready <;> simp [announced, announces]

/-- Who set `m_is_recv_ready` is still there, and whoever shut out the other
senders relied on it. -/
structure Readiness (trace : List (Event Thread T)) (s : System Thread T) : Prop where
  flag : s.chan.isRecvReady = announced trace
  ready : s.chan.isRecvReady = true → ∃ thread, (s.phase thread).insideRecv = true
  shutOut : s.chan.isTrySendDone = false → s.chan.isRecvReady = true

namespace Readiness

variable {N : Nat} {s : System Thread T} {past : List (Event Thread T)}

theorem init [DecidableEq Thread] : Readiness [] (System.init : System Thread T) where
  flag := rfl
  ready := by simp [System.init, Chan.init]
  shutOut := by simp [System.init, Chan.init]

variable [DecidableEq Thread] {thread : Thread} {phase : Phase T} {c : Chan Thread T}

theorem silent (readiness : Readiness past s) {event : Option (Event Thread T)}
    (silent : ∀ seen ∈ event, seen.announces = none)
    (kept : (s.phase thread).insideRecv = true → phase.insideRecv = true)
    (recvReady : c.isRecvReady = s.chan.isRecvReady)
    (trySendDone : c.isTrySendDone = false → s.chan.isRecvReady = true) :
    Readiness (past ++ event.toList) ({ s with chan := c }.setPhase thread phase) where
  flag := by
    rw [System.setPhase_chan, recvReady, readiness.flag]
    cases event with
    | none => simp
    | some seen =>
        rw [Option.toList_some, announced_snoc, silent seen rfl, Option.getD_none]
  ready set :=
    exists_update (fun phase : Phase T => phase.insideRecv = true) kept
      (readiness.ready (recvReady ▸ set))
  shutOut pending := recvReady.trans (trySendDone pending)

theorem critical (readiness : Readiness past s) {event : Option (Event Thread T)}
    (stretch : Critical N thread (s.phase thread) s.chan event phase c) :
    Readiness (past ++ event.toList) ({ s with chan := c }.setPhase thread phase) := by
  generalize standing : s.phase thread = current at stretch
  generalize held : s.chan = d at stretch
  cases stretch with
  | sendPark =>
      subst held
      exact readiness.silent (by simp) (by rw [standing]; rintro ⟨⟩) rfl readiness.shutOut
  | sendEnqueue =>
      subst held
      exact readiness.silent (by simp [Event.announces])
        (by rw [standing]; rintro ⟨⟩) rfl readiness.shutOut
  | sendHold =>
      subst held
      exact readiness.silent (by simp) (by rw [standing]; rintro ⟨⟩) rfl readiness.shutOut
  | sendFinish =>
      subst held
      exact readiness.silent (by simp) (by rw [standing]; rintro ⟨⟩) rfl readiness.shutOut
  | recvEnter =>
      refine ⟨?_, fun _ => ⟨thread, ?_⟩, fun _ => rfl⟩
      · rw [Option.toList_some, announced_snoc]
        rfl
      · rw [System.setPhase_self]
        rfl
  | recvRepark =>
      subst held
      exact readiness.silent (by simp) (fun _ => rfl) rfl readiness.shutOut
  | recvTake =>
      refine ⟨?_, by rintro ⟨⟩, by rintro ⟨⟩⟩
      rw [Option.toList_some, announced_snoc]
      rfl
  | tryRefuse =>
      subst held
      exact readiness.silent (by simp [Event.announces])
        (by rw [standing]; rintro ⟨⟩) rfl readiness.shutOut
  | tryEnqueue accepts =>
      subst held
      refine readiness.silent (by simp [Event.announces])
        (by rw [standing]; rintro ⟨⟩) rfl fun pending => ?_
      -- the flag is cleared only for the element that makes the queue too long
      have last : ¬ s.chan.queue.length < N := by simpa [Chan.trySent] using pending
      have room := accepts.2.2.1
      exact accepts.2.2.2 (by omega)
  | tryRecvMiss =>
      subst held
      exact readiness.silent (by simp [Event.announces])
        (by rw [standing]; rintro ⟨⟩) rfl readiness.shutOut
  | tryRecvTake =>
      subst held
      exact readiness.silent (by simp [Event.announces])
        (by rw [standing]; rintro ⟨⟩) rfl (by rintro ⟨⟩)

variable [Fintype Thread]

theorem step {next : System Thread T} {action : Action Thread T}
    {event : Option (Event Thread T)} (readiness : Readiness past s)
    (moved : System.Moves N s action event next) :
    Readiness (past ++ event.toList) next := by
  cases action with
  | lock thread =>
      cases moved with
      | lock stretch => exact readiness.critical stretch
  | _ =>
      obtain ⟨chan, phases⟩ := moved.settled settled_insideRecv (by simp)
      have silent : announced (past ++ event.toList) = announced past := by
        cases event with
        | none => simp
        | some seen =>
            have quiet : seen.announces = none := by
              rcases moved.calls_or_returns (by simp) seen rfl with ⟨_, rfl⟩ | ⟨_, rfl⟩ <;> rfl
            rw [Option.toList_some, announced_snoc, quiet, Option.getD_none]
      refine ⟨by rw [chan, silent, readiness.flag], ?_, by rw [chan]; exact readiness.shutOut⟩
      rw [chan]
      intro set
      obtain ⟨other, inside⟩ := readiness.ready set
      exact ⟨other, by rw [phases, inside]⟩

theorem of_reaches {asserts : Asserts} {labels : List (Label Thread T)}
    (run : System.Reaches asserts N labels s) : Readiness (trace labels) s := by
  refine Execution.invariant (fun labels s => Readiness (trace labels) s) init ?_ run
  intro labels middle label last _ readiness taken
  rw [trace_append, trace_single]
  exact readiness.step taken.moves

end Readiness

/-- A select send never hands its value to nobody.  While `m_is_recv_ready` is
set, and while a select send keeps the other senders out, some thread is inside
a blocking receive; and whatever the threads go on to do, that block is lifted. -/
theorem selectSend_has_receiver [DecidableEq Thread] [Fintype Thread] (N : Nat) :
    (∀ (asserts : Asserts) (labels : List (Label Thread T)) (s : System Thread T),
      System.Reaches asserts N labels s →
      (s.chan.isRecvReady = true → ∃ thread, (s.phase thread).insideRecv = true) ∧
      (s.chan.isTrySendDone = false → ∃ thread, (s.phase thread).insideRecv = true)) ∧
    (∀ (programs : Thread → List (Op T)) (labels : List (Label Thread T))
      (c : Clients Thread T), Clients.Reaches .compiledOut N programs labels c →
      ∀ budget, Inevitable (Clients.Step .compiledOut N)
        (fun label => label.1.isSpurious = true)
        (fun c => c.system.chan.isTrySendDone = true) budget c) := by
  refine ⟨fun asserts labels s run => ?_, fun programs labels c run budget => ?_⟩
  · have readiness := Readiness.of_reaches run
    exact ⟨readiness.ready, fun pending => readiness.ready (readiness.shutOut pending)⟩
  · refine Clients.inevitable (fun _ => Clients.safe_compiledOut _)
      (fun {labels c} run quiescent => ?_) run budget
    by_contra pending
    have pending := Bool.eq_false_of_not_eq_true pending
    have readiness := Readiness.of_reaches run.system
    obtain ⟨receiver, inside⟩ := readiness.ready (readiness.shutOut pending)
    -- at rest this receiver is parked, on a queue that is not empty
    have parked : (c.system.phase receiver).waitsOn .recv := by
      rcases quiescent.ended_or_parked receiver with ⟨standing, -⟩ | ⟨cv, waits⟩
      · rw [standing] at inside
        cases inside
      · generalize c.system.phase receiver = phase at inside waits
        cases phase <;> cases waits <;> first | rfl | cases inside
    have full := (Protocol.of_reaches run.system).tryFull pending
    have empty := quiescent.receiver_starves (Signalled.of_reaches run.system) parked
    simp [empty] at full

/-- A select sends over a synchronous channel to a receiver that waits; the
block on other senders is lifted when the receiver takes the value. -/
theorem selectSend_has_receiver_waiting :
    ∃ (labels : List (Label Bool Nat)) (s : System Bool Nat),
      System.Reaches .active 0 labels s ∧ s.chan.isTrySendDone = false ∧
      (∃ thread, (s.phase thread).insideRecv = true) ∧
      ∃ (labels : List (Label Bool Nat)) (c : Clients Bool Nat),
        Clients.Reaches .compiledOut 0
          (fun thread => if thread then [.recv .value] else [.trySend 7]) labels c ∧
        Inevitable (Clients.Step .compiledOut 0) (fun label => label.1.isSpurious = true)
          (fun c => c.system.chan.isTrySendDone = true) 0 c := by
  have run := System.execution_of_replay .active 0 (System.init : System Bool Nat)
    [.call true (.recv .value), .lock true, .call false (.trySend 7), .lock false] rfl
  have clients := Clients.execution_of_replay .compiledOut 0
    (.init fun thread : Bool => if thread then [.recv .value] else [Op.trySend 7])
    [.call true (.recv .value), .lock true, .call false (.trySend 7), .lock false]
    (fun _ => []) rfl (by decide)
  have receiver := @selectSend_has_receiver Bool Nat _ _ 0
  exact ⟨_, _, run, rfl, (receiver.1 _ _ _ run).2 rfl, _, _, clients,
    receiver.2 _ _ _ clients 0⟩

section SelectSend

variable [DecidableEq Thread] [Fintype Thread]

def SelectSendSucceeds (asserts : Asserts) (N : Nat) (s : System Thread T)
    (thread : Thread) (u : T) : Prop :=
  ∃ woken, results thread (trace (s.replay asserts N
    [.call thread (.trySend u), .lock thread, .notify thread woken]).1) = [.trySent true]

/-- A select send with nothing in its way: nobody is inside `_send`, the queue is
empty and a thread is parked in a blocking receive. -/
structure Receptive (s : System Thread T) : Prop where
  noSender : ∀ thread, (s.phase thread).insideSend = false
  empty : s.chan.queue = []
  receiver : ∃ thread, (s.phase thread).waitsOn .recv

theorem selectSendSucceeds_iff {asserts : Asserts} {N : Nat} {s : System Thread T}
    {thread : Thread} {u : T} (idle : s.phase thread = .idle) :
    SelectSendSucceeds asserts N s thread u ↔
      s.chan.acceptsTry N ∧
        (asserts .notTryReady = true → s.chan.isTryRecvReady = false) := by
  have calls : s.step asserts N (.call thread (.trySend u)) = _ := System.step_call _ idle
  have standing := s.setPhase_self thread (.start (.trySend u))
  constructor
  · rintro ⟨woken, succeeded⟩
    rw [System.replay_cons calls] at succeeded
    by_cases passes : asserts .notTryReady = true → s.chan.isTryRecvReady = false
    · refine ⟨?_, passes⟩
      by_contra refuses
      rw [System.replay_cons (System.step_trySend_refuses standing passes refuses)] at succeeded
      simp [System.replay, System.step, Phase.notifies, trace, results,
        List.filterMap_cons] at succeeded
    · simp only [Classical.not_imp, Bool.not_eq_false] at passes
      rw [System.replay_aborts (System.step_trySend_aborts standing passes.1 passes.2)]
        at succeeded
      simp [trace, results, List.filterMap_cons] at succeeded
  · rintro ⟨accepts, passes⟩
    have accepted := System.step_trySend_accepts standing passes accepts
    obtain ⟨sent, same⟩ : ∃ sent, sent = System.setPhase
        { s.setPhase thread (.start (.trySend u)) with chan := s.chan.trySent N thread u }
        thread .trySendReturn := ⟨_, rfl⟩
    have due : (sent.phase thread).notifies = some (.recv, .idle, some (.trySent true)) := by
      rw [same, System.setPhase_self]
      rfl
    obtain ⟨woken, may⟩ := sent.exists_mayWake .recv
    have notified : sent.step asserts N (.notify thread woken) = _ :=
      System.step_notify due may
    refine ⟨woken, ?_⟩
    rw [System.replay_cons calls, System.replay_cons accepted, System.setPhase_chan, ← same,
      System.replay_cons notified]
    simp [System.replay, trace, results, List.filterMap_cons]

omit [DecidableEq Thread] [Fintype Thread] in
/-- Beside a waiting receiver the last free place decides: a select send that
would take it is refused unless the flag of the receivers is set. -/
theorem Receptive.acceptsTry_iff {N : Nat} {s : System Thread T} (receptive : Receptive s)
    (protocol : Protocol N s) :
    s.chan.acceptsTry N ↔ 0 < N ∨ s.chan.isRecvReady = true := by
  have sendDone : s.chan.isSendDone = true := by
    by_contra pending
    obtain ⟨sender, inside⟩ := protocol.between (Bool.eq_false_of_not_eq_true pending)
    have outside := receptive.noSender sender
    generalize s.phase sender = phase at inside outside
    cases phase <;> first | cases inside; done | cases outside
  have trySendDone : s.chan.isTrySendDone = true := by
    by_contra pending
    have full := protocol.tryFull (Bool.eq_false_of_not_eq_true pending)
    simp [receptive.empty] at full
  simp only [Chan.acceptsTry, sendDone, trySendDone, receptive.empty, List.length_nil,
    Nat.zero_le, true_and]
  constructor
  · intro ready
    rcases Nat.eq_zero_or_pos N with empty | room
    · exact .inr (ready empty.symm)
    · exact .inl room
  · rintro (room | ready) last
    · omega
    · exact ready

end SelectSend

/-- A select send beside a waiting receiver succeeds exactly if the queue has
room beyond it, or the blocking receives have last been heard of when one of
them started to wait; and no select that received in vain is in its way. -/
theorem selectSend_beside_receiver_iff [DecidableEq Thread] [Fintype Thread]
    {asserts : Asserts} {N : Nat} {labels : List (Label Thread T)} {s : System Thread T}
    (run : System.Reaches asserts N labels s) (receptive : Receptive s)
    {thread : Thread} (idle : s.phase thread = .idle) (u : T) :
    SelectSendSucceeds asserts N s thread u ↔
      (0 < N ∨ announced (trace labels) = true) ∧
        (asserts .notTryReady = true → s.chan.isTryRecvReady = false) := by
  rw [selectSendSucceeds_iff idle, receptive.acceptsTry_iff (Protocol.of_reaches run),
    (Readiness.of_reaches run).flag]

/-- One receiver waits on a synchronous channel, and a select sends to it. -/
theorem selectSend_beside_receiver_iff_alone :
    ∃ (labels : List (Label Bool Nat)) (s : System Bool Nat),
      System.Reaches .active 0 labels s ∧ Receptive s ∧
        SelectSendSucceeds .active 0 s false 7 := by
  have run := System.execution_of_replay .active 0 (System.init : System Bool Nat)
    [.call true (.recv .value), .lock true] rfl
  refine ⟨_, _, run, ⟨by decide, rfl, ⟨true, by rfl⟩⟩, ?_⟩
  exact (selectSend_beside_receiver_iff run ⟨by decide, rfl, ⟨true, by rfl⟩⟩ (by rfl) 7).mpr
    ⟨.inr (by rfl), by decide⟩

/-- Two receivers wait on a synchronous channel, and one of them has been served
by a blocking send: a select send is refused although the other one still
waits. -/
theorem selectSend_beside_second_receiver :
    ∃ (labels : List (Label (Fin 4) Nat)) (s : System (Fin 4) Nat),
      System.Reaches .active 0 labels s ∧ Receptive s ∧ s.phase 3 = .idle ∧
        ¬ SelectSendSucceeds .active 0 s 3 9 := by
  have run := System.execution_of_replay .active 0 (System.init : System (Fin 4) Nat)
    [.call 0 (.recv .value), .lock 0, .call 1 (.recv .value), .lock 1,
      .call 2 (.send 7), .lock 2, .notify 2 (some 0), .lock 0, .notify 0 none,
      .lock 2, .notify 2 none] rfl
  refine ⟨_, _, run, ⟨by decide, rfl, ⟨1, by rfl⟩⟩, by rfl, ?_⟩
  rw [selectSendSucceeds_iff (by rfl)]
  decide

end Gloc.Channel
