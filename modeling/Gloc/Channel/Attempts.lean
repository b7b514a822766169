import Gloc.Channel.Flags
import Gloc.Channel.Schedules

/-!
# Failed attempts of a select

An attempt sets its readiness flag before it knows whether it can proceed, and
only a successful receive clears the two flags.  Nothing reads them but the
assertion that not both ends of a channel are inside a `select`.  Two channels
that differ in these flags are therefore indistinguishable as long as this
assertion is not active, or the flag of the receiving side is clear on a queue
that is not empty: whoever empties the queue clears both flags.
-/

namespace Gloc.Channel

universe u v

variable {Thread : Type u} {T : Type v}

/-- Two computations abort in the same assertion or end in related results. -/
inductive Alike {Left Right : Type*} (related : Left → Right → Prop) :
    Except Assertion Left → Except Assertion Right → Prop where
  | aborted (site : Assertion) : Alike related (.error site) (.error site)
  | completed {left right} : related left right → Alike related (.ok left) (.ok right)

namespace Alike

variable {Left Right : Type u} {related : Left → Right → Prop}
  {left : Except Assertion Left} {right : Except Assertion Right}

theorem map {Left' Right' : Type u} {related' : Left' → Right' → Prop}
    {f : Left → Left'} {g : Right → Right'} (alike : Alike related left right)
    (carried : ∀ l r, related l r → related' (f l) (g r)) :
    Alike related' (left.map f) (right.map g) := by
  cases alike with
  | aborted site => exact .aborted site
  | completed together => exact .completed (carried _ _ together)

theorem assert {asserts : Asserts} {site : Assertion} {condition : Bool}
    (alike : Alike related left right) :
    Alike related (asserts.assert site condition left)
      (asserts.assert site condition right) := by
  unfold Asserts.assert
  split
  · exact .aborted site
  · exact alike

end Alike

/-- The same channel with other readiness flags of selects. -/
def Chan.tried (c : Chan Thread T) (sendReady recvReady : Bool) : Chan Thread T :=
  { c with isTrySendReady := sendReady, isTryRecvReady := recvReady }

def Unnoticed (asserts : Asserts) (c : Chan Thread T) (recvReady : Bool) : Prop :=
  asserts .notTryReady = true →
    c.isTryRecvReady = false ∧ recvReady = false ∧ c.queue ≠ []

/-- Two channels that differ at most in the readiness flags of selects, and not
in a way that anybody can notice. -/
inductive Indistinct (asserts : Asserts) (c : Chan Thread T) : Chan Thread T → Prop where
  | same : Indistinct asserts c c
  | flags {sendReady recvReady} :
      Unnoticed asserts c recvReady → Indistinct asserts c (c.tried sendReady recvReady)

def SameStretch (asserts : Asserts) (left right : Stretch Thread T) : Prop :=
  left.1 = right.1 ∧ left.2.1 = right.2.1 ∧ Indistinct asserts left.2.2 right.2.2

section Stretches

variable [DecidableEq Thread] {asserts : Asserts} {N : Nat} {me : Thread}
  {c : Chan Thread T} {sendReady recvReady : Bool}

omit [DecidableEq Thread] in
theorem Unnoticed.passes (unnoticed : Unnoticed asserts c recvReady) (sendReady : Bool) :
    (asserts .notTryReady = true → (!c.isTryReady) = true) ∧
      (asserts .notTryReady = true → (!(c.tried sendReady recvReady).isTryReady) = true) := by
  refine ⟨fun active => ?_, fun active => ?_⟩
  · simp [Chan.isTryReady, (unnoticed active).1]
  · simp [Chan.isTryReady, Chan.tried, (unnoticed active).2.1]

theorem recvStretch_alike {form : RecvForm} {onWait : Option (Event Thread T)}
    (unnoticed : Unnoticed asserts c recvReady) :
    Alike (SameStretch asserts) (recvStretch asserts N me form onWait c)
      (recvStretch asserts N me form onWait (c.tried sendReady recvReady)) := by
  obtain ⟨passes, passes'⟩ := unnoticed.passes sendReady
  simp only [recvStretch, Chan.recvOf_eq]
  cases nonempty : c.queue with
  | nil =>
      rw [Chan.blockingRecv_nil nonempty,
        Chan.blockingRecv_nil (c := c.tried sendReady recvReady) nonempty]
      exact .completed ⟨rfl, rfl, .flags unnoticed⟩
  | cons front rest =>
      rw [Chan.blockingRecv_cons nonempty,
        Chan.blockingRecv_cons (c := c.tried sendReady recvReady) nonempty,
        Asserts.assert_passes passes, Asserts.assert_passes passes']
      simp only [Asserts.map_assert]
      exact .assert (.assert (.assert (.assert (.completed ⟨rfl, rfl, .same⟩))))

theorem stretch_alike {d : Chan Thread T} (indistinct : Indistinct asserts c d)
    (phase : Phase T) :
    Option.Rel (Alike (SameStretch asserts)) (stretch asserts N me c phase)
      (stretch asserts N me d phase) := by
  cases indistinct with
  | same =>
      cases stretch asserts N me c phase with
      | none => exact .none
      | some outcome =>
          cases outcome with
          | error site => exact .some (.aborted site)
          | ok result => exact .some (.completed ⟨rfl, rfl, .same⟩)
  | @flags sendReady recvReady unnoticed =>
      obtain ⟨passes, passes'⟩ := unnoticed.passes sendReady
      cases phase with
      | sendFirst u =>
          refine .some ?_
          rw [Chan.sendFirst_eq, Chan.sendFirst_eq, Asserts.assert_passes passes,
            Asserts.assert_passes passes',
            show (c.tried sendReady recvReady).mayEnqueue N = c.mayEnqueue N from rfl]
          cases may : c.mayEnqueue N with
          | false => exact .completed ⟨rfl, rfl, .flags unnoticed⟩
          | true =>
              refine .completed ⟨rfl, rfl, .flags fun active => ?_⟩
              exact ⟨(unnoticed active).1, (unnoticed active).2.1, by simp⟩
      | sendSecond =>
          refine .some (.completed ?_)
          unfold Chan.sendSecond
          rw [show (c.tried sendReady recvReady).isFull N = c.isFull N from rfl]
          cases full : c.isFull N with
          | false => exact ⟨rfl, rfl, .flags unnoticed⟩
          | true => exact ⟨rfl, rfl, .flags unnoticed⟩
      | recvFirst form =>
          exact .some (recvStretch_alike (c := c.preBlockingRecv) unnoticed)
      | recvWoken form => exact .some (recvStretch_alike unnoticed)
      | trySend u =>
          refine .some ?_
          have ready : asserts .notTryReady = true → (!c.isTryRecvReady) = true :=
            fun active => by simp [(unnoticed active).1]
          have ready' : asserts .notTryReady = true →
              (!(c.tried sendReady recvReady).isTryRecvReady) = true :=
            fun active => by simp [Chan.tried, (unnoticed active).2.1]
          rw [Chan.trySend_eq, Chan.trySend_eq, Asserts.assert_passes ready,
            Asserts.assert_passes ready']
          have same : (c.tried sendReady recvReady).acceptsTry N ↔ c.acceptsTry N := Iff.rfl
          by_cases accepts : c.acceptsTry N
          · rw [if_pos accepts, if_pos (same.mpr accepts)]
            refine .completed ⟨rfl, rfl, .flags ?_⟩
            exact fun active => ⟨(unnoticed active).1, (unnoticed active).2.1,
              by simp [Chan.trySent]⟩
          · rw [if_neg accepts, if_neg (mt same.mp accepts)]
            exact .completed ⟨rfl, rfl, .flags unnoticed⟩
      | tryRecvPtr =>
          refine .some ?_
          cases nonempty : c.queue with
          | nil =>
              rw [Chan.tryRecvPtr_nil nonempty,
                Chan.tryRecvPtr_nil (c := c.tried sendReady recvReady) nonempty]
              refine .completed ⟨rfl, rfl, .flags fun active => ?_⟩
              exact absurd nonempty (unnoticed active).2.2
          | cons front rest =>
              rw [Chan.tryRecvPtr_cons nonempty,
                Chan.tryRecvPtr_cons (c := c.tried sendReady recvReady) nonempty]
              simp only [Asserts.map_assert]
              exact .assert (.assert (.assert (.assert (.completed ⟨rfl, rfl, .same⟩))))
      | _ => exact .none

end Stretches

structure SameSystem (asserts : Asserts) (s r : System Thread T) : Prop where
  phase : s.phase = r.phase
  chan : Indistinct asserts s.chan r.chan

section Replays

variable [DecidableEq Thread] [Fintype Thread] {asserts : Asserts} {N : Nat}
  {s r : System Thread T}

omit [Fintype Thread] in
theorem SameSystem.setPhase (same : SameSystem asserts s r) (thread : Thread)
    (phase : Phase T) : SameSystem asserts (s.setPhase thread phase) (r.setPhase thread phase) :=
  ⟨by rw [System.setPhase_phase, System.setPhase_phase, same.phase], same.chan⟩

omit [Fintype Thread] in
theorem SameSystem.wakeOne (same : SameSystem asserts s r) (woken : Option Thread) :
    SameSystem asserts (s.wakeOne woken) (r.wakeOne woken) := by
  cases woken with
  | none => exact same
  | some woken =>
      unfold System.wakeOne
      rw [same.phase]
      exact same.setPhase _ _

def SameStep (asserts : Asserts) (left right : Option (Event Thread T) × System Thread T) :
    Prop :=
  left.1 = right.1 ∧ SameSystem asserts left.2 right.2

theorem step_alike (same : SameSystem asserts s r) (action : Action Thread T) :
    Option.Rel (Alike (SameStep asserts)) (s.step asserts N action)
      (r.step asserts N action) := by
  cases action with
  | call thread op =>
      simp only [System.step, same.phase]
      cases r.phase thread with
      | idle => exact .some (.completed ⟨rfl, same.setPhase _ _⟩)
      | _ => exact .none
  | lock thread =>
      simp only [System.step, same.phase]
      have alike : Option.Rel _ (stretch asserts N thread s.chan (r.phase thread)) _ :=
        stretch_alike same.chan (r.phase thread)
      generalize stretch asserts N thread s.chan (r.phase thread) = left at alike
      generalize stretch asserts N thread r.chan (r.phase thread) = right at alike
      cases alike with
      | none => exact .none
      | some outcomes =>
          refine .some (outcomes.map fun left right together => ?_)
          obtain ⟨event, phase, indistinct⟩ := together
          have parted : SameSystem asserts { r with chan := left.2.2 }
              { r with chan := right.2.2 } := ⟨rfl, indistinct⟩
          rw [event, phase]
          exact ⟨rfl, parted.setPhase _ _⟩
  | refuse thread =>
      simp only [System.step, same.phase]
      cases (r.phase thread).refused with
      | none => exact .none
      | some result => exact .some (.completed ⟨rfl, same.setPhase _ _⟩)
  | notify thread woken =>
      have may : ∀ cv, s.mayWake cv woken = r.mayWake cv woken := by
        intro cv
        cases woken <;> simp [System.mayWake, same.phase]
      simp only [System.step, same.phase]
      cases (r.phase thread).notifies with
      | none => exact .none
      | some due =>
          simp only [Option.bind_some, may]
          split
          · exact .some (.completed ⟨rfl, (same.wakeOne woken).setPhase _ _⟩)
          · exact .none
  | spurious thread =>
      simp only [System.step, same.phase]
      split
      · exact .some (.completed ⟨rfl, same.setPhase _ _⟩)
      · exact .none

theorem replay_alike (same : SameSystem asserts s r) (actions : List (Action Thread T)) :
    (s.replay asserts N actions).1 = (r.replay asserts N actions).1 ∧
      Option.Rel (Alike (SameSystem asserts)) (s.replay asserts N actions).2
        (r.replay asserts N actions).2 := by
  induction actions generalizing s r with
  | nil => exact ⟨rfl, .some (.completed same)⟩
  | cons action actions inductionHypothesis =>
      have alike := step_alike (N := N) same action
      unfold System.replay
      generalize s.step asserts N action = left at alike
      generalize r.step asserts N action = right at alike
      cases alike with
      | none => exact ⟨rfl, .none⟩
      | some outcomes =>
          cases outcomes with
          | aborted site => exact ⟨rfl, .some (.aborted site)⟩
          | @completed left right together =>
              obtain ⟨event, next⟩ := left
              obtain ⟨event', next'⟩ := right
              obtain ⟨events, nexts⟩ := together
              obtain ⟨labels, endings⟩ := inductionHypothesis nexts
              refine ⟨?_, endings⟩
              simp only at events ⊢
              rw [events, labels]

end Replays

section Traces

variable [DecidableEq Thread] [Fintype Thread]

/-- Whatever happens from now on, the first system returns what the second one
returns, and aborts only where the second one does. -/
def Traceless (asserts : Asserts) (N : Nat) (s r : System Thread T) : Prop :=
  ∀ actions, (s.replay asserts N actions).1 = (r.replay asserts N actions).1 ∧
    ∀ site, (s.replay asserts N actions).2 = some (.error site) →
      (r.replay asserts N actions).2 = some (.error site)

variable {asserts : Asserts} {N : Nat} {s r : System Thread T} {thread : Thread}

theorem SameSystem.traceless (same : SameSystem asserts s r) : Traceless asserts N r s := by
  intro actions
  obtain ⟨labels, endings⟩ := replay_alike (N := N) same actions
  refine ⟨labels.symm, fun site failed => ?_⟩
  rw [failed] at endings
  generalize (s.replay asserts N actions).2 = left at endings ⊢
  cases endings with
  | some outcomes => cases outcomes with | aborted site => rfl

theorem follows_finish {phases : Thread → Phase T} (standing : phases thread = .sendSecond)
    {c : Chan Thread T} (room : c.queue.length ≤ N) :
    System.Follows asserts N { chan := c, phase := phases } [.lock thread]
      { chan := { c with isSendDone := true },
        phase := Function.update phases thread .sendReturn } := by
  have executed : stretch asserts N thread c (phases thread) =
      some (.ok (none, .sendReturn, { c with isSendDone := true })) := by
    simp [standing, stretch, Chan.sendSecond, room]
  exact .cons (System.step_lock executed) .nil

theorem exists_finishing (inside : (s.phase thread).betweenScopes = true)
    (room : s.chan.queue.length ≤ N) :
    ∃ actions phases, (∀ other, s.phase other = .idle → phases other = .idle) ∧
      ∀ c : Chan Thread T, c.queue = s.chan.queue →
        System.Follows asserts N { s with chan := c } actions
          { chan := { c with isSendDone := true }, phase := phases } := by
  have untouched : ∀ {phases : Thread → Phase T} (phase : Phase T),
      (∀ other, s.phase other = .idle → phases other = .idle) →
      ∀ other, s.phase other = .idle → Function.update phases thread phase other = .idle := by
    intro phases phase kept other idle
    have different : other ≠ thread := by
      rintro rfl
      rw [idle] at inside
      cases inside
    rw [Function.update_of_ne different, kept other idle]
  cases standing : s.phase thread with
  | sendNotify =>
      obtain ⟨woken, may⟩ := s.exists_mayWake .recv
      have due : (s.phase thread).notifies = some (.recv, .sendSecond, none) := by
        rw [standing]
        rfl
      have woke : ∀ other, s.phase other = .idle → (s.wakeOne woken).phase other = .idle := by
        intro other idle
        cases woken with
        | none => exact idle
        | some woken =>
            by_cases same : other = woken
            · subst same
              rw [System.wakeOne, System.setPhase_self, idle]
              rfl
            · rw [System.wakeOne, System.setPhase_of_ne _ same, idle]
      refine ⟨[.notify thread woken, .lock thread], _,
        untouched .sendReturn (untouched .sendSecond woke), fun c queue => ?_⟩
      have notified : ({ s with chan := c } : System Thread T).step asserts N
          (.notify thread woken) = some (.ok (none,
            { chan := c
              phase := Function.update (s.wakeOne woken).phase thread .sendSecond })) := by
        refine (System.step_notify (s := { s with chan := c }) due may).trans ?_
        cases woken <;> rfl
      exact .cons notified (follows_finish (by simp) (queue ▸ room))
  | sendSecond =>
      exact ⟨[.lock thread], _, untouched .sendReturn fun _ => id,
        fun c queue => follows_finish standing (queue ▸ room)⟩
  | sendEndWait =>
      refine ⟨[.spurious thread, .lock thread], _,
        untouched .sendReturn (untouched .sendSecond fun _ => id), fun c queue => ?_⟩
      have woke : ({ s with chan := c } : System Thread T).step asserts N (.spurious thread) =
          some (.ok (none,
            { chan := c, phase := Function.update s.phase thread .sendSecond })) := by
        simp [System.step, standing, Phase.parkedOn, Phase.wake, System.setPhase]
      exact .cons woke (follows_finish (by simp) (queue ▸ room))
  | _ =>
      rw [standing] at inside
      cases inside

/-- A select polls the channel for receive, and returns; then its thread sends. -/
def pollThenSend (thread : Thread) (u : T) : List (Action Thread T) :=
  [.call thread .tryRecvPtr, .lock thread, .call thread (.send u), .lock thread]

theorem replay_pollThenSend (idle : s.phase thread = .idle) (empty : s.chan.queue = [])
    (sendDone : s.chan.isSendDone = true) (trySendDone : s.chan.isTrySendDone = true)
    (active : asserts .notTryReady = true) (u : T) :
    (s.replay asserts N (pollThenSend thread u)).2 = some (.error .notTryReady) ↔
      s.chan.isTrySendReady = true := by
  obtain ⟨polling, samePolling⟩ : ∃ polling, polling = s.setPhase thread .tryRecvPtr := ⟨_, rfl⟩
  have polled : polling.step asserts N (.lock thread) = some (.ok
      (some (.returned thread (.tryReceived none)),
        { polling with chan := { s.chan with isTryRecvReady := true } }.setPhase thread
          .idle)) := by
    apply System.step_lock
    rw [samePolling, System.setPhase_self, System.setPhase_chan, stretch,
      Chan.tryRecvPtr_nil empty]
    rfl
  obtain ⟨sending, sameSending⟩ : ∃ sending, sending =
      ({ polling with chan := { s.chan with isTryRecvReady := true } }.setPhase thread
        .idle).setPhase thread (.sendFirst u) := ⟨_, rfl⟩
  have reached : (s.replay asserts N (pollThenSend thread u)).2 =
      (sending.replay asserts N [.lock thread]).2 := by
    rw [pollThenSend, System.replay_cons (System.step_call _ idle), Phase.start, ← samePolling,
      System.replay_cons polled, System.replay_cons (System.step_call _ (System.setPhase_self ..)),
      Phase.start, ← sameSending]
  have standing : sending.phase thread = .sendFirst u := by
    rw [sameSending, System.setPhase_self]
  have may : sending.chan.mayEnqueue N = true := by
    simp [sameSending, sendDone, trySendDone, empty]
  have both : sending.chan.isTryReady = s.chan.isTrySendReady := by
    simp [sameSending, Chan.isTryReady]
  rw [reached]
  cases ready : s.chan.isTrySendReady with
  | true =>
      rw [System.replay_aborts
        (System.step_sendFirst_aborts standing may active (both.trans ready))]
      simp
  | false =>
      rw [System.replay_cons
        (System.step_sendFirst_enqueues standing may fun _ => both.trans ready)]
      simp [System.replay]

/-- An attempt changes nothing, or the queue is not empty so that its flag will
be cleared before it is read. -/
def LeavesNothing (c : Chan Thread T) : Phase T → Prop
  | .tryRecvPtr => c.isTryRecvReady = true
  | _ => c.isTrySendReady = true ∨ c.queue ≠ []

/-- A select receive from an empty channel leaves its flag set, and a select
send then aborts. -/
theorem not_traceless_tryRecvPtr [Inhabited T] (idle : r.phase thread = .idle)
    (same : s.phase = r.phase) (active : asserts .notTryReady = true)
    (ready : s.chan.isTryRecvReady = true) (unready : r.chan.isTryRecvReady = false) :
    ¬ Traceless asserts N s r := by
  intro traceless
  have aborts := (traceless [.call thread (.trySend default), .lock thread]).2 .notTryReady
  have standing := s.setPhase_self thread (.start (.trySend default))
  rw [System.replay_cons (System.step_call _ (same ▸ idle)), System.replay_aborts
      (System.step_trySend_aborts standing active ready),
    System.replay_cons (System.step_call _ idle)] at aborts
  have survives := aborts rfl
  have standing := r.setPhase_self thread (.start (.trySend default))
  by_cases accepts : r.chan.acceptsTry N
  · rw [System.replay_cons
      (System.step_trySend_accepts standing (fun _ => unready) accepts)] at survives
    simp [System.replay] at survives
  · rw [System.replay_cons
      (System.step_trySend_refuses standing (fun _ => unready) accepts)] at survives
    simp [System.replay] at survives

/-- A select send to an empty channel leaves its flag set; if a select then
polls the channel for receive, a send aborts, even a blocking one. -/
theorem not_traceless_trySend [Inhabited T] (protocol : Protocol N r)
    (idle : r.phase thread = .idle) (active : asserts .notTryReady = true)
    (empty : r.chan.queue = []) (unready : r.chan.isTrySendReady = false) :
    ¬ Traceless asserts N { r with chan := { r.chan with isTrySendReady := true } } r := by
  intro traceless
  have trySendDone : r.chan.isTrySendDone = true := by
    by_contra pending
    have full := protocol.tryFull (Bool.eq_false_of_not_eq_true pending)
    simp [empty] at full
  -- whoever is between the two scopes of `_send` finishes first
  obtain ⟨actions, phases, idles, finished⟩ : ∃ actions phases,
      (∀ other, r.phase other = .idle → phases other = .idle) ∧
        ∀ c : Chan Thread T, c.queue = r.chan.queue → c.isSendDone = r.chan.isSendDone →
          System.Follows asserts N { r with chan := c } actions
            { chan := { c with isSendDone := true }, phase := phases } := by
    cases sendDone : r.chan.isSendDone with
    | true =>
        refine ⟨[], r.phase, fun _ => id, fun c _ done => ?_⟩
        rw [show ({ c with isSendDone := true } : Chan Thread T) = c by rw [← done]]
        exact .nil
    | false =>
        obtain ⟨sender, inside⟩ := protocol.between sendDone
        obtain ⟨actions, phases, idles, finished⟩ :=
          @exists_finishing _ _ _ _ asserts N _ _ inside (by simp [empty])
        exact ⟨actions, phases, idles, fun c queue _ => finished c queue⟩
  have aborts := (traceless (actions ++ pollThenSend thread default)).2 .notTryReady
  have polled : ∀ c : Chan Thread T, c.queue = [] → c.isSendDone = true →
      c.isTrySendDone = true → ((({ chan := c, phase := phases } : System Thread T).replay
        asserts N (pollThenSend thread default)).2 = some (.error .notTryReady) ↔
          c.isTrySendReady = true) :=
    fun c empty sendDone trySendDone =>
      replay_pollThenSend (idles thread idle) empty sendDone trySendDone active default
  rw [(finished { r.chan with isTrySendReady := true } rfl rfl).replay_append,
    (finished r.chan rfl rfl).replay_append] at aborts
  have survives := aborts ((polled { r.chan with isTrySendReady := true, isSendDone := true }
    empty rfl trySendDone).mpr rfl)
  have ready : r.chan.isTrySendReady = true :=
    (polled { r.chan with isSendDone := true } empty rfl trySendDone).mp survives
  rw [ready] at unready
  cases unready

end Traces

/-- A failed attempt of a select leaves no trace exactly if the assertion about
both ends of a channel is not active, or the attempt found its readiness flag
already set, or it was a send and the queue was not empty.  An attempt that did
not get the mutex leaves no trace at all. -/
theorem failedAttempt_traceless_iff [DecidableEq Thread] [Fintype Thread] [Inhabited T]
    {asserts : Asserts} {N : Nat} {labels : List (Label Thread T)} {s : System Thread T}
    (run : System.Reaches asserts N labels s) (thread : Thread) :
    (∀ result tried, s.step asserts N (.refuse thread) =
        some (.ok (some (.returned thread result), tried)) →
      Traceless asserts N tried (s.setPhase thread .idle)) ∧
    (∀ result tried, s.step asserts N (.lock thread) =
        some (.ok (some (.returned thread result), tried)) →
      (Traceless asserts N tried (s.setPhase thread .idle) ↔
        asserts .notTryReady = false ∨ LeavesNothing s.chan (s.phase thread))) := by
  refine ⟨fun result tried refused => ?_, fun result tried failed => ?_⟩
  · have moved := System.Step.moves (show System.Step asserts N s (_, _) _ from refused)
    cases moved with
    | refuse => exact SameSystem.traceless ⟨rfl, .same⟩
  · have moved := System.Step.moves (show System.Step asserts N s (_, _) _ from failed)
    generalize observed : some (Event.returned thread result) = event at moved
    cases moved with
    | @lock _ _ phase c stretch =>
    generalize standing : s.phase thread = current at stretch
    cases stretch with
    | @tryRefuse u _ refuses =>
        have passes : asserts .notTryReady = true → s.chan.isTryRecvReady = false := by
          intro active
          by_contra ready
          rw [System.step_trySend_aborts standing active
            (Bool.eq_true_of_not_eq_false ready)] at failed
          cases failed
        have protocol : Protocol N (s.setPhase thread .idle) :=
          (Protocol.of_reaches run).congr rfl rfl rfl
            (System.kind_setPhase Phase.betweenScopes (by rw [standing]; rfl))
        constructor
        · intro traceless
          by_contra condition
          simp only [not_or, Bool.not_eq_false, LeavesNothing, Bool.not_eq_true,
            ne_eq, not_not] at condition
          obtain ⟨active, unready, empty⟩ := condition
          exact not_traceless_trySend protocol (System.setPhase_self ..) active empty unready
            traceless
        · intro condition
          refine SameSystem.traceless ⟨rfl, ?_⟩
          rcases condition with inactive | already | nonempty
          · exact .flags fun active => by simp [inactive] at active
          · have same : ({ s.chan with isTrySendReady := true } : Chan Thread T) = s.chan := by
              rw [← already]
            rw [System.setPhase_chan, System.setPhase_chan, same]
            exact .same
          · exact .flags fun active => ⟨passes active, passes active, nonempty⟩
    | tryRecvMiss empty =>
        constructor
        · intro traceless
          by_contra condition
          simp only [not_or, Bool.not_eq_false, LeavesNothing, Bool.not_eq_true] at condition
          refine absurd traceless
            (not_traceless_tryRecvPtr (s.setPhase_self thread .idle) ?_ condition.1 ?_
              condition.2)
          · rfl
          · rfl
        · intro condition
          refine SameSystem.traceless ⟨rfl, ?_⟩
          rcases condition with inactive | already
          · exact .flags fun active => by simp [inactive] at active
          · have same : ({ s.chan with isTryRecvReady := true } : Chan Thread T) = s.chan := by
              rw [← show s.chan.isTryRecvReady = true from already]
            rw [System.setPhase_chan, System.setPhase_chan, same]
            exact .same
    | _ => cases observed

/-- A select polls an empty channel for receive, and nothing but its flag
remains; without assertions this cannot be observed. -/
theorem failedAttempt_traceless_iff_polled :
    ∃ (labels : List (Label Bool Nat)) (s tried : System Bool Nat),
      System.Reaches .compiledOut 0 labels s ∧
      s.step .compiledOut 0 (.lock false) =
        some (.ok (some (.returned false (.tryReceived none)), tried)) ∧
      Traceless .compiledOut 0 tried (s.setPhase false .idle) := by
  have run := System.execution_of_replay .compiledOut 0 (System.init : System Bool Nat)
    [.call false .tryRecvPtr] rfl
  refine ⟨_, _, _, run, rfl, ?_⟩
  exact ((failedAttempt_traceless_iff run false).2 (.tryReceived none) _ rfl).mpr (.inl rfl)

/-- A select polls an empty channel for receive and returns; then a select send
aborts, which would be refused otherwise. -/
theorem polled_then_aborted :
    ∃ (labels : List (Label Bool Nat)) (s tried : System Bool Nat),
      System.Reaches .active 0 labels s ∧
      s.step .active 0 (.lock false) =
        some (.ok (some (.returned false (.tryReceived none)), tried)) ∧
      (tried.replay .active 0 [.call true (.trySend 7), .lock true]).2 =
        some (.error .notTryReady) ∧
      ((s.setPhase false .idle).replay .active 0 [.call true (.trySend 7), .lock true]).1 =
        [(.call true (.trySend 7), some (.called true (.trySend 7))),
          (.lock true, some (.returned true (.trySent false)))] ∧
      ¬ Traceless .active 0 tried (s.setPhase false .idle) := by
  have run := System.execution_of_replay .active 0 (System.init : System Bool Nat)
    [.call false .tryRecvPtr] rfl
  refine ⟨_, _, _, run, rfl, rfl, rfl, fun traceless => ?_⟩
  have aborts := (traceless [.call true (.trySend 7), .lock true]).2 .notTryReady rfl
  cases aborts

end Gloc.Channel
