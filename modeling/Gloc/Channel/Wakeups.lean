import Gloc.Channel.Flags
import Gloc.Transition.Totals

/-!
# No wake-up is lost

Three invariants, one for each condition variable.  They say that whenever a
thread is parked although what it waits for has come about, somebody is on the
way who will check or notify again: for the receivers this is a count, since
several elements may have been enqueued while several receivers are parked.
-/

namespace Gloc.Channel

open Gloc.Transition

universe u v

variable {Thread : Type u} {T : Type v}

namespace Phase

def waitsOn (cv : Cv) (phase : Phase T) : Prop :=
  phase.parkedOn = some cv

/-- The thread still has to notify a condition variable. -/
def owes (cv : Cv) (phase : Phase T) : Prop :=
  phase.notifies.map Prod.fst = some cv

instance (cv : Cv) (phase : Phase T) : Decidable (phase.owes cv) :=
  inferInstanceAs (Decidable (_ = _))

/-- A thread that will take an element, or wake somebody who will. -/
def credit (phase : Phase T) : Nat :=
  if phase.receiving = true ∨ phase.owes .recv then 1 else 0

/-- A thread that will enqueue if it may, or wake somebody who will. -/
def urges (phase : Phase T) : Prop :=
  (∃ u, phase = .sendFirst u) ∨ phase.owes .sendBegin

theorem not_owes_of_receiving {phase : Phase T} (receiving : phase.receiving = true) (cv : Cv) :
    ¬ phase.owes cv := by
  cases phase with
  | recvFirst form => simp [owes, notifies]
  | recvWoken form => simp [owes, notifies]
  | _ => cases receiving

theorem credit_le_one (phase : Phase T) : phase.credit ≤ 1 := by
  rw [credit]
  split <;> omega

theorem betweenScopes_of_waitsOn {phase : Phase T}
    (parked : phase.waitsOn .sendEnd) : phase.betweenScopes = true := by
  cases phase <;> first | rfl | cases parked

end Phase

/-- Whoever is parked in vain will be told. -/
structure Signalled [Fintype Thread] (N : Nat) (s : System Thread T) : Prop where
  recv : (∃ thread, (s.phase thread).waitsOn .recv) →
    s.chan.queue.length ≤ total Phase.credit s.phase
  sendEnd : (∃ thread, (s.phase thread).waitsOn .sendEnd) →
    s.chan.queue.length ≤ N → ∃ thread, (s.phase thread).owes .sendEnd
  sendBegin : (∃ thread, (s.phase thread).waitsOn .sendBegin) →
    s.chan.mayEnqueue N = true → ∃ thread, (s.phase thread).urges

namespace Signalled

variable [Fintype Thread] {N : Nat} {s : System Thread T}

theorem init [DecidableEq Thread] : Signalled N (System.init : System Thread T) where
  recv := fun ⟨_, parked⟩ => by cases parked
  sendEnd := fun ⟨_, parked⟩ => by cases parked
  sendBegin := fun ⟨_, parked⟩ => by cases parked

variable [DecidableEq Thread] {thread : Thread} {phase : Phase T} {c : Chan Thread T}

/-- The clause of the receivers survives if the queue is empty, or if no
receiver parks and credit grows with the queue. -/
theorem recv_setPhase (signalled : Signalled N s)
    (covered : c.queue = [] ∨ (¬ phase.waitsOn .recv ∧
      c.queue.length + (s.phase thread).credit ≤ s.chan.queue.length + phase.credit))
    (parked : ∃ other, (Function.update s.phase thread phase other).waitsOn .recv) :
    c.queue.length ≤ total Phase.credit (Function.update s.phase thread phase) := by
  rcases covered with empty | ⟨unparked, grows⟩
  · simp [empty]
  · have known := signalled.recv
      (exists_of_update (Phase.waitsOn .recv) (absurd · unparked) parked)
    have exchanged := total_update Phase.credit s.phase thread phase
    omega

/-- The clause of `m_send_end_cv` survives if nobody is parked there, if the
queue is full, or if the thread comes to owe the notification, or if it did
not owe it and the queue is as before. -/
theorem sendEnd_setPhase (signalled : Signalled N s)
    (covered : (∀ other, ¬ (Function.update s.phase thread phase other).waitsOn .sendEnd) ∨
      N < c.queue.length ∨ phase.owes .sendEnd ∨
      (¬ phase.waitsOn .sendEnd ∧ ¬ (s.phase thread).owes .sendEnd ∧
        s.chan.queue.length ≤ c.queue.length))
    (parked : ∃ other, (Function.update s.phase thread phase other).waitsOn .sendEnd)
    (room : c.queue.length ≤ N) :
    ∃ other, (Function.update s.phase thread phase other).owes .sendEnd := by
  rcases covered with nobody | full | owes | ⟨unparked, free, longer⟩
  · obtain ⟨other, waits⟩ := parked
    exact absurd waits (nobody other)
  · omega
  · exact ⟨thread, by simpa using owes⟩
  · have before := exists_of_update (Phase.waitsOn .sendEnd)
      (absurd · unparked) parked
    exact exists_update (Phase.owes .sendEnd) (absurd · free)
      (signalled.sendEnd before (by omega))

/-- The clause of `m_send_begin_cv` survives if senders may not enqueue, if the
thread urges them, or if it did not and they might have enqueued before. -/
theorem sendBegin_setPhase (signalled : Signalled N s)
    (covered : c.mayEnqueue N = false ∨ phase.urges ∨
      (¬ phase.waitsOn .sendBegin ∧ ¬ (s.phase thread).urges ∧
        (c.mayEnqueue N = true → s.chan.mayEnqueue N = true)))
    (parked : ∃ other, (Function.update s.phase thread phase other).waitsOn .sendBegin)
    (may : c.mayEnqueue N = true) :
    ∃ other, (Function.update s.phase thread phase other).urges := by
  rcases covered with mayNot | urges | ⟨unparked, free, before⟩
  · rw [may] at mayNot
    cases mayNot
  · exact ⟨thread, by simpa using urges⟩
  · have earlier := exists_of_update (Phase.waitsOn .sendBegin)
      (absurd · unparked) parked
    exact exists_update Phase.urges (absurd · free)
      (signalled.sendBegin earlier (before may))

theorem move (signalled : Signalled N s) (unparked : ∀ cv, ¬ phase.waitsOn cv)
    (credit : (s.phase thread).credit ≤ phase.credit)
    (owes : ¬ (s.phase thread).owes .sendEnd) (urges : ¬ (s.phase thread).urges)
    (queue : c.queue = s.chan.queue)
    (may : c.mayEnqueue N = true → s.chan.mayEnqueue N = true) :
    Signalled N ({ s with chan := c }.setPhase thread phase) := by
  have length : c.queue.length = s.chan.queue.length := congrArg _ queue
  exact ⟨signalled.recv_setPhase (.inr ⟨unparked _, length ▸ Nat.add_le_add_left credit _⟩),
    signalled.sendEnd_setPhase (.inr (.inr (.inr ⟨unparked _, owes, length.ge⟩))),
    signalled.sendBegin_setPhase (.inr (.inr ⟨unparked _, urges, may⟩))⟩

omit [Fintype Thread] in
theorem nobody_of_sendDone (protocol : Protocol N s)
    (sendDone : s.chan.isSendDone = true) (unparked : ¬ phase.waitsOn .sendEnd)
    (other : Thread) : ¬ (Function.update s.phase thread phase other).waitsOn .sendEnd := by
  intro parked
  obtain ⟨sender, waits⟩ := exists_of_update (Phase.waitsOn .sendEnd)
    (absurd · unparked) ⟨other, parked⟩
  have sendOpen := protocol.sendOpen sender (Phase.betweenScopes_of_waitsOn waits)
  rw [sendDone] at sendOpen
  cases sendOpen

/-- An element is taken.  Whether the thread in the second scope of `_send`
or one waiting for the first is notified is decided by `m_is_send_done`. -/
theorem take (protocol : Protocol N s) (signalled : Signalled N s)
    {front : Thread × T} {rest : List (Thread × T)}
    (nonempty : s.chan.queue = front :: rest) (queue : c.queue = rest)
    (sendDone : c.isSendDone = s.chan.isSendDone)
    (after : phase.parkedOn = none) (owes : phase.owes s.chan.afterRecv) :
    Signalled N ({ s with chan := c }.setPhase thread phase) := by
  have unparked : ∀ cv, ¬ phase.waitsOn cv := by simp [Phase.waitsOn, after]
  refine ⟨signalled.recv_setPhase (.inr ⟨unparked _, ?_⟩),
    signalled.sendEnd_setPhase ?_, signalled.sendBegin_setPhase ?_⟩
  · have bounded := Phase.credit_le_one (s.phase thread)
    simp only [System.setPhase_chan, queue, nonempty, List.length_cons]
    omega
  · cases done : s.chan.isSendDone with
    | true => exact .inl (nobody_of_sendDone protocol done (unparked _))
    | false =>
        rw [Chan.afterRecv, done] at owes
        exact .inr (.inr (.inl owes))
  · cases done : s.chan.isSendDone with
    | true =>
        rw [Chan.afterRecv, done] at owes
        exact .inr (.inl (.inr owes))
    | false => exact .inl (by simp [Chan.mayEnqueue, sendDone, done])

theorem starve (signalled : Signalled N s) {form : RecvForm}
    (receiving : (s.phase thread).receiving = true) (empty : c.queue = [])
    (queue : c.queue = s.chan.queue)
    (may : c.mayEnqueue N = true → s.chan.mayEnqueue N = true) :
    Signalled N ({ s with chan := c }.setPhase thread (.recvWait form)) := by
  have silent : ∀ cv, ¬ (s.phase thread).owes cv := Phase.not_owes_of_receiving receiving
  have calm : ¬ (s.phase thread).urges := by
    rintro (⟨u, standing⟩ | owes)
    · rw [standing] at receiving
      cases receiving
    · exact silent .sendBegin owes
  have length : s.chan.queue.length ≤ c.queue.length := (congrArg _ queue).ge
  exact ⟨signalled.recv_setPhase (.inl empty),
    signalled.sendEnd_setPhase (.inr (.inr (.inr ⟨by rintro ⟨⟩, silent _, length⟩))),
    signalled.sendBegin_setPhase (.inr (.inr ⟨by rintro ⟨⟩, calm, may⟩))⟩

theorem critical (protocol : Protocol N s) (signalled : Signalled N s)
    {event : Option (Event Thread T)}
    (stretch : Critical N thread (s.phase thread) s.chan event phase c) :
    Signalled N ({ s with chan := c }.setPhase thread phase) := by
  generalize standing : s.phase thread = current at stretch
  generalize held : s.chan = d at stretch
  cases stretch with
  | sendPark refused =>
      subst held
      refine ⟨signalled.recv_setPhase (.inr ⟨by rintro ⟨⟩, ?_⟩),
        signalled.sendEnd_setPhase (.inr (.inr (.inr ⟨by rintro ⟨⟩, ?_, le_rfl⟩))),
        signalled.sendBegin_setPhase (.inl ?_)⟩
      · simp [standing, Phase.credit, Phase.owes, Phase.receiving, Phase.notifies]
      · simp [standing, Phase.owes, Phase.notifies]
      · rw [← Bool.not_eq_true, Chan.mayEnqueue_eq_true_iff]
        exact refused
  | sendEnqueue sendDone trySendDone room =>
      subst held
      refine ⟨signalled.recv_setPhase (.inr ⟨by rintro ⟨⟩, ?_⟩),
        signalled.sendEnd_setPhase (.inl (nobody_of_sendDone protocol sendDone (by rintro ⟨⟩))),
        signalled.sendBegin_setPhase (.inl ?_)⟩
      · simp [standing, Phase.credit, Phase.owes, Phase.receiving, Phase.notifies]
      · simp [Chan.mayEnqueue]
  | sendHold full =>
      subst held
      refine ⟨signalled.recv_setPhase (.inr ⟨by rintro ⟨⟩, ?_⟩),
        signalled.sendEnd_setPhase (.inr (.inl full)),
        signalled.sendBegin_setPhase (.inr (.inr ⟨by rintro ⟨⟩, ?_, id⟩))⟩
      · simp [standing, Phase.credit, Phase.owes, Phase.receiving, Phase.notifies]
      · simp [standing, Phase.urges, Phase.owes, Phase.notifies]
  | sendFinish room =>
      subst held
      refine ⟨signalled.recv_setPhase (.inr ⟨by rintro ⟨⟩, ?_⟩),
        signalled.sendEnd_setPhase (.inl fun other parked => ?_),
        signalled.sendBegin_setPhase (.inr (.inl (.inr rfl)))⟩
      · simp [standing, Phase.credit, Phase.owes, Phase.receiving, Phase.notifies]
      · have inside : (s.phase thread).betweenScopes = true := by rw [standing]; rfl
        by_cases same : other = thread
        · subst same
          rw [Function.update_self] at parked
          cases parked
        · rw [Function.update_of_ne same] at parked
          exact same (protocol.oneSender other thread
            (Phase.betweenScopes_of_waitsOn parked) inside)
  | recvEnter empty =>
      subst held
      exact signalled.starve (by rw [standing]; rfl) empty rfl id
  | recvRepark empty =>
      subst held
      exact signalled.starve (by rw [standing]; rfl) empty rfl id
  | recvTake receiving nonempty =>
      subst held
      exact signalled.take protocol nonempty rfl rfl rfl rfl
  | tryRefuse =>
      subst held
      refine signalled.move (by rintro cv ⟨⟩) ?_ ?_ ?_ rfl id
      all_goals simp [standing, Phase.credit, Phase.urges, Phase.owes, Phase.receiving,
        Phase.notifies]
  | tryEnqueue accepts =>
      subst held
      obtain ⟨sendDone, trySendDone, room, -⟩ := accepts
      refine ⟨signalled.recv_setPhase (.inr ⟨by rintro ⟨⟩, ?_⟩),
        signalled.sendEnd_setPhase (.inl (nobody_of_sendDone protocol sendDone (by rintro ⟨⟩))),
        signalled.sendBegin_setPhase (.inr (.inr ⟨by rintro ⟨⟩, ?_, fun _ => ?_⟩))⟩
      · simp [standing, Phase.credit, Phase.owes, Phase.receiving, Phase.notifies,
          Chan.trySent]
      · simp [standing, Phase.urges, Phase.owes, Phase.notifies]
      · exact (Chan.mayEnqueue_eq_true_iff _ _).mpr ⟨sendDone, trySendDone, room⟩
  | tryRecvMiss =>
      subst held
      refine signalled.move (by rintro cv ⟨⟩) ?_ ?_ ?_ rfl id
      all_goals simp [standing, Phase.credit, Phase.urges, Phase.owes, Phase.receiving,
        Phase.notifies]
  | tryRecvTake nonempty =>
      subst held
      exact signalled.take protocol nonempty rfl rfl rfl rfl

theorem call (signalled : Signalled N s) {op : Op T} (standing : s.phase thread = .idle) :
    Signalled N (s.setPhase thread (.start op)) := by
  refine signalled.move ?_ ?_ ?_ ?_ rfl id
  · cases op <;> simp [Phase.start, Phase.waitsOn, Phase.parkedOn]
  all_goals simp [standing, Phase.credit, Phase.urges, Phase.owes, Phase.receiving,
    Phase.notifies]

theorem refuse (signalled : Signalled N s) {result : Result T}
    (refused : (s.phase thread).refused = some result) :
    Signalled N (s.setPhase thread .idle) := by
  refine signalled.move (by rintro cv ⟨⟩) ?_ ?_ ?_ rfl id
  all_goals
    generalize s.phase thread = phase at refused ⊢
    cases phase <;> cases refused <;>
      simp [Phase.credit, Phase.urges, Phase.owes, Phase.receiving, Phase.notifies]

theorem wake (signalled : Signalled N s) {cv : Cv}
    (parked : (s.phase thread).waitsOn cv) :
    Signalled N (s.setPhase thread (s.phase thread).wake) := by
  generalize standing : s.phase thread = phase at parked
  cases phase with
  | sendBeginWait u =>
      refine ⟨signalled.recv_setPhase (.inr ⟨by rintro ⟨⟩, ?_⟩),
        signalled.sendEnd_setPhase (.inr (.inr (.inr ⟨by rintro ⟨⟩, ?_, le_rfl⟩))),
        signalled.sendBegin_setPhase (.inr (.inl (.inl ⟨u, rfl⟩)))⟩
      · simp [standing, Phase.credit, Phase.owes, Phase.receiving, Phase.notifies]
      · simp [standing, Phase.owes, Phase.notifies]
  | sendEndWait =>
      refine signalled.move (by rintro cv ⟨⟩) ?_ ?_ ?_ rfl id
      all_goals simp [standing, Phase.credit, Phase.urges, Phase.owes, Phase.receiving,
        Phase.notifies]
  | recvWait form =>
      refine signalled.move (by rintro cv ⟨⟩) ?_ ?_ ?_ rfl id
      all_goals simp [standing, Phase.credit, Phase.urges, Phase.owes, Phase.receiving,
        Phase.notifies]
  | _ => cases parked

/-- The notification a thread owes is not needed any more: somebody else sees
to it, or nobody is parked. -/
def Spare (s : System Thread T) (thread : Thread) : Cv → Prop
  | .recv => (∃ other, (s.phase other).waitsOn .recv) →
      s.chan.queue.length + 1 ≤ total Phase.credit s.phase
  | .sendEnd => ∀ other, ¬ (s.phase other).waitsOn .sendEnd
  | .sendBegin => (∃ other, (s.phase other).waitsOn .sendBegin) →
      ∃ other, other ≠ thread ∧ (s.phase other).urges

theorem discharge (signalled : Signalled N s) {cv : Cv} {result : Option (Result T)}
    (due : (s.phase thread).notifies = some (cv, phase, result))
    (spare : Spare s thread cv) : Signalled N (s.setPhase thread phase) := by
  have unparked : ∀ other, ¬ phase.waitsOn other := by
    intro other
    generalize s.phase thread = current at due
    cases current <;> cases due <;> rintro ⟨⟩
  refine ⟨fun parked => ?_, fun parked room => ?_, fun parked may => ?_⟩
  · have before := exists_of_update (Phase.waitsOn .recv)
      (absurd · (unparked _)) parked
    have known := signalled.recv before
    have exchanged := total_update Phase.credit s.phase thread phase
    have bounded := Phase.credit_le_one (s.phase thread)
    by_cases same : cv = .recv
    · subst same
      have more := spare before
      simp only [System.setPhase_chan, System.setPhase_phase]
      omega
    · have none : (s.phase thread).credit = 0 := by
        generalize s.phase thread = current at due
        cases current <;> cases due <;>
          simp_all [Phase.credit, Phase.owes, Phase.receiving, Phase.notifies]
      simp only [System.setPhase_chan, System.setPhase_phase]
      omega
  · have before := exists_of_update (Phase.waitsOn .sendEnd)
      (absurd · (unparked _)) parked
    by_cases same : cv = .sendEnd
    · subst same
      obtain ⟨other, waits⟩ := before
      exact absurd waits (spare other)
    · refine exists_update (Phase.owes .sendEnd) (fun owes => ?_)
        (signalled.sendEnd before room)
      rw [Phase.owes, due] at owes
      exact absurd (Option.some.inj owes) same
  · have before := exists_of_update (Phase.waitsOn .sendBegin)
      (absurd · (unparked _)) parked
    by_cases same : cv = .sendBegin
    · subst same
      obtain ⟨other, different, urges⟩ := spare before
      exact ⟨other, by rwa [System.setPhase_of_ne _ different]⟩
    · refine exists_update Phase.urges (fun urges => ?_)
        (signalled.sendBegin before may)
      rcases urges with ⟨u, sending⟩ | owes
      · rw [sending] at due
        cases due
      · rw [Phase.owes, due] at owes
        exact absurd (Option.some.inj owes) same

theorem spare_wakeOne (protocol : Protocol N s) (signalled : Signalled N s) {cv : Cv}
    {result : Option (Result T)} {woken : Option Thread}
    (due : (s.phase thread).notifies = some (cv, phase, result))
    (may : s.mayWake cv woken = true) : Spare (s.wakeOne woken) thread cv := by
  cases woken with
  | none =>
      have nobody : ∀ other, ¬ (s.phase other).waitsOn cv := by
        simpa [System.mayWake, Phase.waitsOn] using may
      cases cv with
      | recv =>
          rintro ⟨other, waits⟩
          exact absurd waits (nobody other)
      | sendEnd => exact nobody
      | sendBegin =>
          rintro ⟨other, waits⟩
          exact absurd waits (nobody other)
  | some woken =>
      have parked : (s.phase woken).waitsOn cv := by simpa [System.mayWake, Phase.waitsOn] using may
      have different : woken ≠ thread := by
        rintro rfl
        generalize s.phase woken = current at due parked
        cases current <;> cases due <;> cases parked
      cases cv with
      | recv =>
          intro _
          have exchanged := total_update Phase.credit s.phase woken (s.phase woken).wake
          have known := signalled.recv ⟨woken, parked⟩
          have earned : (s.phase woken).wake.credit = 1 ∧ (s.phase woken).credit = 0 := by
            generalize s.phase woken = current at parked
            cases current <;> cases parked
            exact ⟨rfl, rfl⟩
          simp only [System.wakeOne, System.setPhase_chan, System.setPhase_phase]
          omega
      | sendEnd =>
          intro other waits
          by_cases same : other = woken
          · subst same
            rw [System.wakeOne, System.setPhase_self] at waits
            generalize s.phase other = current at parked waits
            cases current <;> cases parked
            cases waits
          · rw [System.wakeOne, System.setPhase_of_ne _ same] at waits
            exact same (protocol.oneSender other woken
              (Phase.betweenScopes_of_waitsOn waits) (Phase.betweenScopes_of_waitsOn parked))
      | sendBegin =>
          refine fun _ => ⟨woken, different, ?_⟩
          rw [System.wakeOne, System.setPhase_self]
          generalize s.phase woken = current at parked
          cases current <;> cases parked
          exact .inl ⟨_, rfl⟩

theorem step {next : System Thread T} {action : Action Thread T}
    {event : Option (Event Thread T)} (protocol : Protocol N s)
    (signalled : Signalled N s) (moved : System.Moves N s action event next) :
    Signalled N next := by
  cases moved with
  | call standing => exact signalled.call standing
  | lock stretch => exact signalled.critical protocol stretch
  | refuse refused => exact signalled.refuse refused
  | @notify thread woken cv phase result due may =>
      have spare := signalled.spare_wakeOne protocol due may
      cases woken with
      | none => exact signalled.discharge due spare
      | some woken =>
          have parked : (s.phase woken).waitsOn cv := by
            simpa [System.mayWake, Phase.waitsOn] using may
          have different : thread ≠ woken := by
            rintro rfl
            generalize s.phase thread = current at due parked
            cases current <;> cases due <;> cases parked
          have stillDue : ((s.setPhase woken (s.phase woken).wake).phase thread).notifies =
              some (cv, phase, result) := by
            rw [System.setPhase_of_ne _ different, due]
          exact (signalled.wake parked).discharge stillDue spare
  | spurious parked => exact signalled.wake parked

theorem of_reaches {asserts : Asserts} {labels : List (Label Thread T)}
    (run : System.Reaches asserts N labels s) : Signalled N s :=
  Execution.invariant (fun _ s => Signalled N s) init
    (fun reached signalled taken =>
      signalled.step (Protocol.of_reaches reached) taken.moves) run

end Signalled

end Gloc.Channel
