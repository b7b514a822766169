import Gloc.Channel.Steps

/-!
# The flag protocol

The two flags of the senders and the length of the queue determine each
other.  The conjunction below is inductive only as a whole: that the queue
overflows by at most one element needs that no two senders are past their
first scope, which needs that a select send does not overtake a blocking one,
which in turn needs the clauses about the full queue.
-/

namespace Gloc.Channel

open Gloc.Transition

universe u v

variable {Thread : Type u} {T : Type v}

/-- What the flags of a channel say about its queue and its senders. -/
structure Protocol (N : Nat) (s : System Thread T) : Prop where
  bounded : s.chan.queue.length ≤ N + 1
  between : s.chan.isSendDone = false → ∃ thread, (s.phase thread).betweenScopes = true
  sendOpen : ∀ thread, (s.phase thread).betweenScopes = true → s.chan.isSendDone = false
  oneSender : ∀ thread other, (s.phase thread).betweenScopes = true →
    (s.phase other).betweenScopes = true → thread = other
  oneKind : s.chan.isSendDone = true ∨ s.chan.isTrySendDone = true
  tryFull : s.chan.isTrySendDone = false → s.chan.queue.length = N + 1
  fullHasSender : s.chan.queue.length = N + 1 →
    s.chan.isSendDone = false ∨ s.chan.isTrySendDone = false

namespace Protocol

variable {N : Nat} {s : System Thread T}

theorem init [DecidableEq Thread] : Protocol N (System.init : System Thread T) where
  bounded := by simp [System.init, Chan.init]
  between := by simp [System.init, Chan.init]
  sendOpen thread inside := by cases inside
  oneSender thread other inside := by cases inside
  oneKind := .inl rfl
  tryFull := by simp [System.init, Chan.init]
  fullHasSender := by simp [System.init, Chan.init]

theorem nobody_between (protocol : Protocol N s) (sendDone : s.chan.isSendDone = true)
    (thread : Thread) : (s.phase thread).betweenScopes = false := by
  by_contra inside
  rw [Bool.not_eq_false] at inside
  have contradictory := protocol.sendOpen thread inside
  rw [sendDone] at contradictory
  cases contradictory

theorem congr {next : System Thread T} (protocol : Protocol N s)
    (queue : next.chan.queue = s.chan.queue)
    (sendDone : next.chan.isSendDone = s.chan.isSendDone)
    (trySendDone : next.chan.isTrySendDone = s.chan.isTrySendDone)
    (phases : ∀ thread,
      (next.phase thread).betweenScopes = (s.phase thread).betweenScopes) :
    Protocol N next := by
  constructor <;> simp only [queue, sendDone, trySendDone, phases]
  · exact protocol.bounded
  · exact protocol.between
  · exact protocol.sendOpen
  · exact protocol.oneSender
  · exact protocol.oneKind
  · exact protocol.tryFull
  · exact protocol.fullHasSender

variable [DecidableEq Thread]

theorem of_sendDone_eq (protocol : Protocol N s) {thread : Thread} {phase : Phase T}
    {c : Chan Thread T}
    (before : (s.phase thread).betweenScopes = false)
    (after : phase.betweenScopes = false)
    (sendDone : c.isSendDone = s.chan.isSendDone)
    (bounded : c.queue.length ≤ N + 1)
    (oneKind : c.isSendDone = true ∨ c.isTrySendDone = true)
    (tryFull : c.isTrySendDone = false → c.queue.length = N + 1)
    (fullHasSender : c.queue.length = N + 1 →
      c.isSendDone = false ∨ c.isTrySendDone = false) :
    Protocol N ({ s with chan := c }.setPhase thread phase) := by
  have same : ∀ other,
      (({ s with chan := c }.setPhase thread phase).phase other).betweenScopes =
        (s.phase other).betweenScopes :=
    System.kind_setPhase (s := { s with chan := c }) Phase.betweenScopes
      (by rw [after, before])
  constructor
  · exact bounded
  · intro pending
    obtain ⟨other, inside⟩ := protocol.between (by rw [← sendDone]; exact pending)
    exact ⟨other, by rw [same, inside]⟩
  · intro other inside
    rw [same] at inside
    exact sendDone.trans (protocol.sendOpen other inside)
  · intro first second firstInside secondInside
    rw [same] at firstInside secondInside
    exact protocol.oneSender first second firstInside secondInside
  · exact oneKind
  · exact tryFull
  · exact fullHasSender

theorem enter {thread : Thread} {c : Chan Thread T}
    (nobody : ∀ other, (s.phase other).betweenScopes = false)
    (sendOpen : c.isSendDone = false) (trySendDone : c.isTrySendDone = true)
    (bounded : c.queue.length ≤ N + 1) :
    Protocol N ({ s with chan := c }.setPhase thread .sendNotify) := by
  have onlyMe : ∀ other,
      (Function.update s.phase thread .sendNotify other).betweenScopes = true →
        other = thread := by
    intro other inside
    by_contra different
    rw [Function.update_of_ne different, nobody] at inside
    cases inside
  constructor
  · exact bounded
  · exact fun _ => ⟨thread, by simp [Phase.betweenScopes]⟩
  · exact fun _ _ => sendOpen
  · intro first second firstInside secondInside
    rw [onlyMe first firstInside, onlyMe second secondInside]
  · exact .inr trySendDone
  · intro pending
    cases trySendDone.symm.trans pending
  · exact fun _ => .inl sendOpen

theorem leave (protocol : Protocol N s) {thread : Thread} {c : Chan Thread T}
    (inside : (s.phase thread).betweenScopes = true) (sendDone : c.isSendDone = true)
    (trySendDone : c.isTrySendDone = s.chan.isTrySendDone) (room : c.queue.length ≤ N) :
    Protocol N ({ s with chan := c }.setPhase thread .sendReturn) := by
  have left : ∀ other,
      (Function.update s.phase thread .sendReturn other).betweenScopes = false := by
    intro other
    by_cases equal : other = thread
    · subst equal
      simp [Phase.betweenScopes]
    · rw [Function.update_of_ne equal]
      by_contra alsoInside
      rw [Bool.not_eq_false] at alsoInside
      exact equal (protocol.oneSender other thread alsoInside inside)
  constructor
  · exact Nat.le_succ_of_le room
  · intro pending
    cases sendDone.symm.trans pending
  · intro other alsoInside
    rw [System.setPhase_phase, left] at alsoInside
    cases alsoInside
  · intro first second firstInside
    rw [System.setPhase_phase, left] at firstInside
    cases firstInside
  · exact .inl sendDone
  · intro pending
    rw [System.setPhase_chan, trySendDone] at pending
    rcases protocol.oneKind with done | done
    · cases done.symm.trans (protocol.sendOpen thread inside)
    · cases done.symm.trans pending
  · intro full
    rw [System.setPhase_chan] at full
    simp only at full
    omega

theorem take (protocol : Protocol N s) {thread : Thread} {phase : Phase T}
    {c : Chan Thread T} (before : (s.phase thread).betweenScopes = false)
    (after : phase.betweenScopes = false) (sendDone : c.isSendDone = s.chan.isSendDone)
    (trySendDone : c.isTrySendDone = true) (room : c.queue.length ≤ N) :
    Protocol N ({ s with chan := c }.setPhase thread phase) := by
  apply protocol.of_sendDone_eq before after sendDone (Nat.le_succ_of_le room)
    (.inr trySendDone)
  · intro pending
    cases trySendDone.symm.trans pending
  · intro full
    omega

theorem critical (protocol : Protocol N s) {thread : Thread}
    {event : Option (Event Thread T)} {phase : Phase T} {c : Chan Thread T}
    (stretch : Critical N thread (s.phase thread) s.chan event phase c) :
    Protocol N ({ s with chan := c }.setPhase thread phase) := by
  generalize standing : s.phase thread = current at stretch
  generalize held : s.chan = d at stretch
  -- six cases change neither the queue nor the flags of the senders
  have unchanged : phase.betweenScopes = current.betweenScopes → c.queue = d.queue →
      c.isSendDone = d.isSendDone → c.isTrySendDone = d.isTrySendDone →
      Protocol N ({ s with chan := c }.setPhase thread phase) := by
    intro same queue sendDone trySendDone
    subst held standing
    exact protocol.congr queue sendDone trySendDone
      (System.kind_setPhase (s := { s with chan := c }) Phase.betweenScopes same)
  have popped : ∀ {front : Thread × T} {rest : List (Thread × T)},
      d.queue = front :: rest → rest.length ≤ N := by
    intro front rest nonempty
    have bounded := protocol.bounded
    rw [held, nonempty, List.length_cons] at bounded
    omega
  cases stretch with
  | sendPark => exact unchanged rfl rfl rfl rfl
  | sendEnqueue sendDone trySendDone room =>
      refine enter (protocol.nobody_between (held ▸ sendDone)) rfl trySendDone ?_
      simpa using room
  | sendHold => exact unchanged rfl rfl rfl rfl
  | sendFinish room => exact protocol.leave (by rw [standing]; rfl) rfl (by rw [held]) room
  | recvEnter => exact unchanged rfl rfl rfl rfl
  | recvRepark => exact unchanged rfl rfl rfl rfl
  | recvTake receiving nonempty =>
      refine protocol.take ?_ rfl (by rw [held]; rfl) rfl (popped nonempty)
      rw [standing]
      rcases receiving with rfl | rfl <;> rfl
  | tryRefuse => exact unchanged rfl rfl rfl rfl
  | tryEnqueue accepts =>
      obtain ⟨sendDone, trySendDone, room, -⟩ := accepts
      refine protocol.of_sendDone_eq (by rw [standing]; rfl) rfl (by rw [held]; rfl)
        ?_ (.inl sendDone) ?_ ?_
      · simpa [Chan.trySent] using room
      · simp only [Chan.trySent, decide_eq_false_iff_not, List.length_append,
          List.length_singleton]
        omega
      · intro full
        right
        simp only [Chan.trySent, List.length_append, List.length_singleton,
          decide_eq_false_iff_not] at full ⊢
        omega
  | tryRecvMiss => exact unchanged rfl rfl rfl rfl
  | tryRecvTake nonempty =>
      exact protocol.take (by rw [standing]; rfl) rfl (by rw [held]; rfl) rfl
        (popped nonempty)

variable [Fintype Thread]

theorem step {next : System Thread T} {action : Action Thread T}
    {event : Option (Event Thread T)} (protocol : Protocol N s)
    (moved : System.Moves N s action event next) : Protocol N next := by
  cases action with
  | lock thread =>
      cases moved with
      | lock stretch => exact protocol.critical stretch
  | _ =>
      obtain ⟨chan, phases⟩ := moved.settled settled_betweenScopes (by simp)
      exact protocol.congr (by rw [chan]) (by rw [chan]) (by rw [chan]) phases

theorem of_reaches {asserts : Asserts} {labels : List (Label Thread T)}
    (run : System.Reaches asserts N labels s) : Protocol N s :=
  Execution.invariant (fun _ s => Protocol N s) init
    (fun _ protocol taken => protocol.step taken.moves) run

end Protocol

section Assertions

variable [DecidableEq Thread] {asserts : Asserts} {N : Nat} {me : Thread}
  {site : Assertion}

/-- The assertions about who uses the channel, not about its flags. -/
def Assertion.aboutCallers : Assertion → Prop
  | .notTryReady | .notOwnElement => True
  | _ => False

omit [DecidableEq Thread] in
theorem Chan.sendFirst_error {u : T} {c : Chan Thread T}
    (failed : c.sendFirst asserts N me u = .error site) : site = .notTryReady := by
  cases may : c.mayEnqueue N <;> simp [sendFirst_eq, may] at failed
  exact failed.2.2.symm

omit [DecidableEq Thread] in
theorem Chan.trySend_error {u : T} {c : Chan Thread T}
    (failed : c.trySend asserts N me u = .error site) : site = .notTryReady := by
  rw [Chan.trySend_eq, Asserts.assert_eq_error_iff] at failed
  rcases failed with ⟨_, _, equal⟩ | ⟨_, impossible⟩
  · exact equal.symm
  · split at impossible <;> cases impossible

omit [DecidableEq Thread] in
/-- Before an element is taken the three assertions on the flags hold: a
full queue has a sender, of one kind only, and is not full without its front. -/
theorem Protocol.front_removable {s : System Thread T} (protocol : Protocol N s)
    {front : Thread × T} {rest : List (Thread × T)}
    (nonempty : s.chan.queue = front :: rest) :
    (!s.chan.isFull N || !s.chan.isSendDone || !s.chan.isTrySendDone) = true ∧
      (s.chan.isTrySendDone || s.chan.isSendDone) = true ∧
      (!decide (N < rest.length)) = true := by
  have bounded := protocol.bounded
  refine ⟨?_, ?_, ?_⟩
  · by_cases full : N < s.chan.queue.length
    · rcases protocol.fullHasSender (by omega) with sendOpen | tryOpen
      · simp [sendOpen]
      · simp [tryOpen]
    · simp [(s.chan.isFull_eq_false_iff N).mpr (Nat.le_of_not_lt full)]
  · rcases protocol.oneKind with sendDone | trySendDone
    · simp [sendDone]
    · simp [trySendDone]
  · rw [nonempty, List.length_cons] at bounded
    simpa using bounded

theorem Protocol.blockingRecv_error {s : System Thread T} (protocol : Protocol N s)
    {form : RecvForm} {c : Chan Thread T}
    (queue : c.queue = s.chan.queue) (sendDone : c.isSendDone = s.chan.isSendDone)
    (trySendDone : c.isTrySendDone = s.chan.isTrySendDone)
    (failed : c.blockingRecv form asserts N me = .error site) : site.aboutCallers := by
  cases nonempty : c.queue with
  | nil => simp [Chan.blockingRecv, nonempty] at failed
  | cons front rest =>
      obtain ⟨hasSender, oneKind, notFull⟩ := protocol.front_removable (queue ▸ nonempty)
      have same : c.isFull N = s.chan.isFull N := by simp [Chan.isFull, queue]
      rw [Chan.blockingRecv_cons nonempty, same, sendDone, trySendDone,
        Asserts.assert_passes fun _ => hasSender, Asserts.assert_passes fun _ => oneKind,
        Asserts.assert_passes fun _ => notFull] at failed
      simp only [Asserts.assert_eq_error_iff, reduceCtorEq, and_false, or_false] at failed
      rcases failed with ⟨_, _, rfl⟩ | ⟨_, _, _, rfl⟩ <;> trivial

theorem Protocol.tryRecvPtr_error {s : System Thread T} (protocol : Protocol N s)
    (failed : s.chan.tryRecvPtr asserts N me = .error site) : site.aboutCallers := by
  cases nonempty : s.chan.queue with
  | nil => simp [Chan.tryRecvPtr, nonempty] at failed
  | cons front rest =>
      obtain ⟨hasSender, oneKind, notFull⟩ := protocol.front_removable nonempty
      rw [Chan.tryRecvPtr_cons nonempty, Asserts.assert_passes fun _ => hasSender,
        Asserts.assert_passes fun _ => oneKind,
        Asserts.assert_passes fun _ => notFull] at failed
      simp only [Asserts.assert_eq_error_iff, reduceCtorEq, and_false, or_false] at failed
      obtain ⟨_, _, rfl⟩ := failed
      trivial

/-- A stretch under the mutex aborts only in an assertion about the callers. -/
theorem Protocol.stretch_error {s : System Thread T} (protocol : Protocol N s)
    (failed : stretch asserts N me s.chan (s.phase me) = some (.error site)) :
    site.aboutCallers := by
  generalize s.phase me = phase at failed
  replace failed := stretch_aborting failed
  cases failed with
  | sendFirst failed =>
      rw [Chan.sendFirst_error failed]
      trivial
  | recvFirst failed => exact protocol.blockingRecv_error rfl rfl rfl failed
  | recvWoken failed => exact protocol.blockingRecv_error rfl rfl rfl failed
  | trySend failed =>
      rw [Chan.trySend_error failed]
      trivial
  | tryRecvPtr failed => exact protocol.tryRecvPtr_error failed

theorem System.step_error [Fintype Thread] {s : System Thread T}
    {action : Action Thread T} (failed : s.step asserts N action = some (.error site)) :
    ∃ thread, action = .lock thread ∧
      stretch asserts N thread s.chan (s.phase thread) = some (.error site) := by
  cases action with
  | call thread op => cases standing : s.phase thread <;> simp [step, standing] at failed
  | lock thread =>
      refine ⟨thread, rfl, ?_⟩
      simp only [step, Option.map_eq_some_iff] at failed
      obtain ⟨outcome, executed, completed⟩ := failed
      rw [executed, (Asserts.map_eq_error_iff ..).mp completed]
  | refuse thread =>
      simp only [step, Option.map_eq_some_iff] at failed
      obtain ⟨_, _, completed⟩ := failed
      cases completed
  | notify thread woken =>
      simp only [step, Option.bind_eq_some_iff] at failed
      obtain ⟨_, _, completed⟩ := failed
      split at completed <;> cases completed
  | spurious thread =>
      simp only [step] at failed
      split at failed <;> cases failed

theorem stretch_notTryReady {c : Chan Thread T} {phase : Phase T}
    (failed : stretch asserts N me c phase = some (.error .notTryReady)) :
    c.isTryRecvReady = true := by
  have received : ∀ (form : RecvForm) (c : Chan Thread T),
      c.blockingRecv form asserts N me = .error .notTryReady → c.isTryReady = true := by
    intro form c failed
    cases nonempty : c.queue with
    | nil => simp [Chan.blockingRecv_nil nonempty] at failed
    | cons front rest =>
        simp only [Chan.blockingRecv_cons nonempty, Asserts.assert_eq_error_iff, reduceCtorEq,
          and_false, or_false, and_true] at failed
        simpa using failed.2
  have both : ∀ c : Chan Thread T, c.isTryReady = true → c.isTryRecvReady = true := by
    intro c ready
    rw [Chan.isTryReady, Bool.and_eq_true] at ready
    exact ready.1
  replace failed := stretch_aborting failed
  cases failed with
  | @sendFirst u failed =>
      rw [Chan.sendFirst_eq] at failed
      split at failed
      · simp only [Asserts.assert_eq_error_iff, reduceCtorEq, and_false, or_false] at failed
        exact both c (by simpa using failed.2.1)
      · cases failed
  | recvFirst failed => exact both c.preBlockingRecv (received _ _ failed)
  | recvWoken failed => exact both c (received _ _ failed)
  | @trySend u failed =>
      rw [Chan.trySend_eq, Asserts.assert_eq_error_iff] at failed
      rcases failed with ⟨_, ready, _⟩ | ⟨_, impossible⟩
      · simpa using ready
      · split at impossible <;> cases impossible
  | tryRecvPtr failed =>
      cases nonempty : c.queue with
      | nil => simp [Chan.tryRecvPtr_nil nonempty] at failed
      | cons front rest =>
          simp [Chan.tryRecvPtr_cons nonempty, Asserts.assert_eq_error_iff] at failed

theorem stretch_compiledOut (c : Chan Thread T) (phase : Phase T) :
    stretch .compiledOut N me c phase ≠ some (.error site) := by
  have received : ∀ (form : RecvForm) (c : Chan Thread T),
      c.blockingRecv form .compiledOut N me ≠ .error site := by
    intro form c
    cases nonempty : c.queue <;>
      simp [Chan.blockingRecv, Chan.postBlockingRecv, nonempty]
  intro failed
  replace failed := stretch_aborting failed
  cases failed with
  | @sendFirst u failed =>
      rw [Chan.sendFirst] at failed
      split at failed <;> simp at failed
  | recvFirst failed => exact received _ _ failed
  | recvWoken failed => exact received _ _ failed
  | @trySend u failed =>
      rw [Chan.trySend_eq, Asserts.assert_compiledOut] at failed
      split at failed <;> cases failed
  | tryRecvPtr failed => cases nonempty : c.queue <;> simp [Chan.tryRecvPtr, nonempty] at failed

end Assertions

/-- The flag protocol holds in every reachable state of every channel, whichever
assertions are active.  Consequently no assertion on the flags or on the queue
can fail, and `try_send` never computes `N - m_queue.size()` for a size above
`N`. -/
theorem reachable_flagProtocol [DecidableEq Thread] [Fintype Thread] {asserts : Asserts}
    {N : Nat} {labels : List (Label Thread T)} {s : System Thread T}
    (run : System.Reaches asserts N labels s) :
    s.chan.queue.length ≤ N + 1 ∧
    (s.chan.isSendDone = false ↔
      ∃ thread, (s.phase thread).betweenScopes = true) ∧
    (∀ thread other, (s.phase thread).betweenScopes = true →
      (s.phase other).betweenScopes = true → thread = other) ∧
    ¬ (s.chan.isSendDone = false ∧ s.chan.isTrySendDone = false) ∧
    (s.chan.isTrySendDone = false → s.chan.queue.length = N + 1) ∧
    (s.chan.queue.length = N + 1 →
      (s.chan.isSendDone = false ∧ s.chan.isTrySendDone = true) ∨
        (s.chan.isSendDone = true ∧ s.chan.isTrySendDone = false)) ∧
    (∀ action site, s.step asserts N action = some (.error site) →
      site = .notTryReady ∨ site = .notOwnElement) ∧
    (∀ checks me u size, size ∈ (s.chan.trySendReading checks N me u).1 → size ≤ N) := by
  have protocol := Protocol.of_reaches run
  refine ⟨protocol.bounded, ⟨protocol.between, ?_⟩, protocol.oneSender, ?_,
    protocol.tryFull, ?_, ?_, ?_⟩
  · rintro ⟨thread, inside⟩
    exact protocol.sendOpen thread inside
  · rintro ⟨sendOpen, tryOpen⟩
    rcases protocol.oneKind with sendDone | trySendDone
    · simp [sendOpen] at sendDone
    · simp [tryOpen] at trySendDone
  · intro full
    have oneKind := protocol.oneKind
    rcases protocol.fullHasSender full with sendOpen | tryOpen
    · exact .inl ⟨sendOpen, by simpa [sendOpen] using oneKind⟩
    · exact .inr ⟨by simpa [tryOpen] using oneKind, tryOpen⟩
  · intro action site failed
    obtain ⟨thread, rfl, executed⟩ := System.step_error failed
    have about := protocol.stretch_error executed
    cases site <;> simp [Assertion.aboutCallers] at about ⊢
  · intro checks me u size read
    exact Chan.trySendReading_le read

/-- The protocol at work: the first sender on a synchronous channel fills the
queue and holds back every other sender. -/
theorem reachable_flagProtocol_sent :
    ∃ (labels : List (Label Bool Nat)) (s : System Bool Nat),
      System.Reaches .active 0 labels s ∧ s.chan.queue = [(false, 7)] ∧
        ((s.chan.isSendDone = false ∧ s.chan.isTrySendDone = true) ∨
          (s.chan.isSendDone = true ∧ s.chan.isTrySendDone = false)) := by
  have run := System.execution_of_replay .active 0 (System.init : System Bool Nat)
    [.call false (.send 7), .lock false] rfl
  have protocol := reachable_flagProtocol run
  exact ⟨_, _, run, rfl, protocol.2.2.2.2.2.1 rfl⟩

end Gloc.Channel
