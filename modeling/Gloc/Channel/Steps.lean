import Gloc.Channel.Threads

/-!
# What one step can do

The step function is inverted once: `Critical` lists what a stretch under the
mutex can do and `Moves` what a scheduler step can do.  Every invariant of the
channel is derived from these two relations; the functions of the monitor are
not unfolded again.
-/

namespace Gloc.Channel

open Gloc.Transition

universe u v

variable {Thread : Type u} {T : Type v}

namespace Chan

def received (c : Chan Thread T) (rest : List (Thread × T)) : Chan Thread T :=
  { queue := rest
    isSendDone := c.isSendDone
    isTrySendDone := true
    isRecvReady := false
    isTrySendReady := false
    isTryRecvReady := false }

/-- The data members after a select receive has popped the front; the flag
of the blocking receivers is left alone. -/
def tryReceived (c : Chan Thread T) (rest : List (Thread × T)) : Chan Thread T :=
  { queue := rest
    isSendDone := c.isSendDone
    isTrySendDone := true
    isRecvReady := c.isRecvReady
    isTrySendReady := false
    isTryRecvReady := false }

def trySent (N : Nat) (me : Thread) (u : T) (c : Chan Thread T) : Chan Thread T :=
  { c with
    queue := c.queue ++ [(me, u)]
    isTrySendDone := decide (c.queue.length < N)
    isTrySendReady := true }

/-- The condition under which `try_send` accepts a value. -/
def acceptsTry (N : Nat) (c : Chan Thread T) : Prop :=
  c.isSendDone = true ∧ c.isTrySendDone = true ∧ c.queue.length ≤ N ∧
    (c.queue.length = N → c.isRecvReady = true)

instance (N : Nat) (c : Chan Thread T) : Decidable (c.acceptsTry N) := by
  unfold acceptsTry
  infer_instance

/-- What a sender waits for implies three of the four assertions after it. -/
theorem sendFirst_eq (asserts : Asserts) (N : Nat) (me : Thread) (u : T)
    (c : Chan Thread T) :
    c.sendFirst asserts N me u =
      if c.mayEnqueue N then
        asserts.assert .notTryReady (!c.isTryReady)
          (.ok (some { c with queue := c.queue ++ [(me, u)], isSendDone := false }))
      else .ok none := by
  unfold sendFirst
  split
  next may =>
    obtain ⟨sendDone, trySendDone, room⟩ := (c.mayEnqueue_eq_true_iff N).mp may
    rw [Asserts.assert_passes fun _ => sendDone, Asserts.assert_passes fun _ => trySendDone,
      Asserts.assert_passes fun _ => by simpa using room]
  next => rfl

section Receives

variable [DecidableEq Thread] {asserts : Asserts} {N : Nat} {me : Thread}
  {c : Chan Thread T} {front : Thread × T} {rest : List (Thread × T)}

theorem blockingRecv_nil {form : RecvForm} (empty : c.queue = []) :
    c.blockingRecv form asserts N me = .ok none := by
  simp [blockingRecv, empty]

theorem blockingRecv_cons {form : RecvForm} (nonempty : c.queue = front :: rest) :
    c.blockingRecv form asserts N me =
      (asserts.assert .notTryReady (!c.isTryReady) <|
      asserts.assert .notOwnElement (!c.isFull N || decide (me ≠ front.1)) <|
      asserts.assert .fullHasSender (!c.isFull N || !c.isSendDone || !c.isTrySendDone) <|
      asserts.assert .oneKindOfSender (c.isTrySendDone || c.isSendDone) <|
      asserts.assert .notFull (!decide (N < rest.length)) <|
      .ok (some (form, front, c.afterRecv, c.received rest))) := by
  simp only [blockingRecv, nonempty, postBlockingRecv, List.tail_cons]
  unfold Asserts.assert
  -- nothing depends on what the conditions are
  generalize (asserts .fullHasSender && _) = hasNoSender
  generalize (asserts .oneKindOfSender && _) = bothKinds
  have full : ({ c with queue := rest } : Chan Thread T).isFull N =
      decide (N < rest.length) := rfl
  rw [full]
  generalize (asserts .notFull && _) = stillFull
  cases hasNoSender <;> cases bothKinds <;> cases stillFull <;> rfl

theorem tryRecvPtr_nil (empty : c.queue = []) :
    c.tryRecvPtr asserts N me = .ok (none, { c with isTryRecvReady := true }) := by
  simp [tryRecvPtr, empty]

theorem tryRecvPtr_cons (nonempty : c.queue = front :: rest) :
    c.tryRecvPtr asserts N me =
      (asserts.assert .fullHasSender (!c.isFull N || !c.isSendDone || !c.isTrySendDone) <|
      asserts.assert .oneKindOfSender (c.isTrySendDone || c.isSendDone) <|
      asserts.assert .notOwnElement (!c.isFull N || decide (me ≠ front.1)) <|
      asserts.assert .notFull (!decide (N < rest.length)) <|
      .ok (some (front, c.afterRecv), c.tryReceived rest)) := by
  rcases c with ⟨queue⟩
  subst nonempty
  rfl

end Receives

theorem trySend_outcome (asserts : Asserts) (N : Nat) (me : Thread) (u : T)
    (c : Chan Thread T) :
    c.trySend asserts N me u =
      let c := { c with isTrySendReady := true }
      asserts.assert .notTryReady (!c.isTryReady) <|
      if !c.isSendDone || !c.isTrySendDone || c.isFull N ||
          (decide (0 = sizeSub N c.queue.length) && !c.isRecvReady) then
        .ok (false, c)
      else
        asserts.assert .sendDone c.isSendDone <|
        asserts.assert .trySendDone c.isTrySendDone <|
        asserts.assert .notFull (!c.isFull N) <|
        let c := { c with isTrySendDone := decide (0 < sizeSub N c.queue.length) }
        asserts.assert .receiverWaits (c.isTrySendDone || c.isRecvReady) <|
        .ok (true, { c with queue := c.queue ++ [(me, u)] }) := by
  have refused : ∀ (blocked full : Bool) (outcome other : Except Assertion (Bool × Chan Thread T)),
      (if blocked then outcome else if full then outcome else other) =
        if blocked || full then outcome else other := by
    intro blocked full outcome other
    cases blocked <;> cases full <;> rfl
  unfold trySend trySendReading
  simp only [Asserts.assertReading_snd, apply_ite Prod.snd, room_snd, refused]

/-- What is subtracted from `N` is the size of a queue that is not full, both times. -/
theorem trySendReading_le {asserts : Asserts} {N : Nat} {me : Thread} {u : T} {c : Chan Thread T}
    {size : Nat} (read : size ∈ (c.trySendReading asserts N me u).1) : size ≤ N := by
  unfold trySendReading at read
  replace read := Asserts.mem_of_mem_assertReading read
  split at read
  · cases read
  · rename_i reached
    have bounded : c.queue.length ≤ N := by
      simp only [Bool.or_eq_true, not_or, Bool.not_eq_true, isFull_eq_false_iff] at reached
      exact reached.2
    rw [room_fst, List.mem_cons] at read
    rcases read with rfl | read
    · exact bounded
    · split at read
      · cases read
      · replace read := Asserts.mem_of_mem_assertReading (Asserts.mem_of_mem_assertReading
          (Asserts.mem_of_mem_assertReading read))
        rw [room_fst, List.mem_cons] at read
        rcases read with rfl | read
        · exact bounded
        · cases Asserts.mem_of_mem_assertReading read

theorem trySend_eq (asserts : Asserts) (N : Nat) (me : Thread) (u : T)
    (c : Chan Thread T) :
    c.trySend asserts N me u =
      asserts.assert .notTryReady (!c.isTryRecvReady)
        (if c.acceptsTry N then .ok (true, c.trySent N me u)
        else .ok (false, { c with isTrySendReady := true })) := by
  have ready : ({ c with isTrySendReady := true } : Chan Thread T).isTryReady =
      c.isTryRecvReady := by simp [isTryReady]
  simp only [trySend_outcome, ready]
  congr 1
  by_cases room : c.isSendDone = true ∧ c.isTrySendDone = true ∧ c.queue.length ≤ N
  · obtain ⟨sendDone, trySendDone, bounded⟩ := room
    by_cases last : c.queue.length = N
    · cases ready : c.isRecvReady <;>
        simp [acceptsTry, sendDone, trySendDone, last, ready, sizeSub,
          Asserts.assert, trySent]
    · have below : c.queue.length < N := by omega
      have spare : 0 < N - c.queue.length := by omega
      simp [acceptsTry, sendDone, trySendDone, last, below, bounded, spare,
        spare.ne, Nat.not_lt.mpr bounded, sizeSub, Asserts.assert, trySent]
  · have refused : ¬ c.acceptsTry N := fun accepts =>
      room ⟨accepts.1, accepts.2.1, accepts.2.2.1⟩
    rw [if_neg refused, if_pos]
    simp only [Bool.or_eq_true, Bool.not_eq_true', isFull_eq_true_iff]
    by_cases sendDone : c.isSendDone = true <;>
      by_cases trySendDone : c.isTrySendDone = true <;> simp_all

end Chan

/-- What a stretch under the mutex can do to a thread's phase and to the data
members, and what is observed of it. -/
inductive Critical (N : Nat) (me : Thread) : Phase T → Chan Thread T →
    Option (Event Thread T) → Phase T → Chan Thread T → Prop where
  | sendPark {u c} :
      ¬ (c.isSendDone = true ∧ c.isTrySendDone = true ∧ c.queue.length ≤ N) →
      Critical N me (.sendFirst u) c none (.sendBeginWait u) c
  | sendEnqueue {u c} :
      c.isSendDone = true → c.isTrySendDone = true → c.queue.length ≤ N →
      Critical N me (.sendFirst u) c (some (.enqueued me u)) .sendNotify
        { c with queue := c.queue ++ [(me, u)], isSendDone := false }
  | sendHold {c} :
      N < c.queue.length →
      Critical N me .sendSecond c none .sendEndWait c
  | sendFinish {c} :
      c.queue.length ≤ N →
      Critical N me .sendSecond c none .sendReturn { c with isSendDone := true }
  | recvEnter {form c} :
      c.queue = [] →
      Critical N me (.recvFirst form) c (some (.entered me)) (.recvWait form)
        { c with isRecvReady := true }
  | recvRepark {form c} :
      c.queue = [] →
      Critical N me (.recvWoken form) c none (.recvWait form) c
  | recvTake {phase form c front rest} :
      phase = .recvFirst form ∨ phase = .recvWoken form →
      c.queue = front :: rest →
      Critical N me phase c (some (.dequeued me true front))
        (.recvReturn form front.2 c.afterRecv) (c.received rest)
  | tryRefuse {u c} :
      ¬ c.acceptsTry N →
      Critical N me (.trySend u) c (some (.returned me (.trySent false))) .idle
        { c with isTrySendReady := true }
  | tryEnqueue {u c} :
      c.acceptsTry N →
      Critical N me (.trySend u) c (some (.enqueued me u)) .trySendReturn
        (c.trySent N me u)
  | tryRecvMiss {c} :
      c.queue = [] →
      Critical N me .tryRecvPtr c (some (.returned me (.tryReceived none))) .idle
        { c with isTryRecvReady := true }
  | tryRecvTake {c front rest} :
      c.queue = front :: rest →
      Critical N me .tryRecvPtr c (some (.dequeued me false front))
        (.tryRecvReturn front.2 c.afterRecv) (c.tryReceived rest)

theorem Critical.event_thread {N : Nat} {me : Thread} {phase next : Phase T}
    {c after : Chan Thread T} {event : Option (Event Thread T)}
    (stretch : Critical N me phase c event next after) :
    ∀ seen ∈ event, seen.thread = me := by
  intro seen observed
  cases stretch <;> cases observed <;> rfl

section Inversion

variable [DecidableEq Thread] {asserts : Asserts} {N : Nat} {me : Thread}

omit [DecidableEq Thread] in
theorem Chan.sendFirst_ok {u : T} {c : Chan Thread T} {outcome : Option (Chan Thread T)}
    (completed : c.sendFirst asserts N me u = .ok outcome) :
    (outcome = none ∧ c.mayEnqueue N = false) ∨
      (outcome = some { c with queue := c.queue ++ [(me, u)], isSendDone := false } ∧
        c.mayEnqueue N = true) := by
  cases may : c.mayEnqueue N <;> simp [sendFirst_eq, may] at completed
  · exact .inl ⟨completed.symm, rfl⟩
  · exact .inr ⟨completed.2.symm, rfl⟩

theorem Chan.blockingRecv_ok {form : RecvForm} {c : Chan Thread T}
    {outcome : Option (RecvForm × (Thread × T) × Cv × Chan Thread T)}
    (completed : c.blockingRecv form asserts N me = .ok outcome) :
    (outcome = none ∧ c.queue = []) ∨
      ∃ front rest, c.queue = front :: rest ∧
        outcome = some (form, front, c.afterRecv, c.received rest) := by
  cases nonempty : c.queue with
  | nil =>
      rw [blockingRecv_nil nonempty, Except.ok.injEq] at completed
      exact .inl ⟨completed.symm, rfl⟩
  | cons front rest =>
      simp only [blockingRecv_cons nonempty, Asserts.assert_eq_ok_iff, Except.ok.injEq]
        at completed
      exact .inr ⟨front, rest, rfl, completed.2.2.2.2.2.symm⟩

theorem Chan.tryRecvPtr_ok {c : Chan Thread T}
    {outcome : Option ((Thread × T) × Cv) × Chan Thread T}
    (completed : c.tryRecvPtr asserts N me = .ok outcome) :
    (c.queue = [] ∧ outcome = (none, { c with isTryRecvReady := true })) ∨
      ∃ front rest, c.queue = front :: rest ∧
        outcome = (some (front, c.afterRecv), c.tryReceived rest) := by
  cases nonempty : c.queue with
  | nil =>
      rw [tryRecvPtr_nil nonempty, Except.ok.injEq] at completed
      exact .inl ⟨rfl, by rw [← completed, nonempty]⟩
  | cons front rest =>
      simp only [tryRecvPtr_cons nonempty, Asserts.assert_eq_ok_iff, Except.ok.injEq]
        at completed
      exact .inr ⟨front, rest, rfl, completed.2.2.2.2.symm⟩

theorem recvStretch_ok {form : RecvForm} {onWait : Option (Event Thread T)}
    {c : Chan Thread T} {outcome : Stretch Thread T}
    (completed : recvStretch asserts N me form onWait c = .ok outcome) :
    (c.queue = [] ∧ outcome = (onWait, .recvWait form, c)) ∨
      ∃ front rest, c.queue = front :: rest ∧
        outcome = (some (.dequeued me true front),
          .recvReturn form front.2 c.afterRecv, c.received rest) := by
  rw [recvStretch, Chan.recvOf_eq] at completed
  cases received : c.blockingRecv form asserts N me with
  | error failed => simp [received, Except.map] at completed
  | ok result =>
      rw [received] at completed
      rcases Chan.blockingRecv_ok received with
        ⟨rfl, empty⟩ | ⟨front, rest, nonempty, rfl⟩
      · exact .inl ⟨empty, by simpa [Except.map] using completed.symm⟩
      · exact .inr ⟨front, rest, nonempty, by simpa [Except.map] using completed.symm⟩

theorem stretch_cases {phase : Phase T} {c : Chan Thread T}
    {event : Option (Event Thread T)} {next : Phase T} {after : Chan Thread T}
    (completed : stretch asserts N me c phase = some (.ok (event, next, after))) :
    Critical N me phase c event next after := by
  cases phase with
  | sendFirst u =>
      simp only [stretch, Option.some.injEq] at completed
      cases entered : c.sendFirst asserts N me u with
      | error failed => simp [entered, Except.map] at completed
      | ok outcome =>
          rcases Chan.sendFirst_ok entered with ⟨rfl, refused⟩ | ⟨rfl, may⟩
          · simp only [entered, Except.map, Except.ok.injEq, Prod.mk.injEq] at completed
            obtain ⟨rfl, rfl, rfl⟩ := completed
            refine .sendPark fun may => ?_
            rw [(c.mayEnqueue_eq_true_iff N).mpr may] at refused
            cases refused
          · simp only [entered, Except.map, Except.ok.injEq, Prod.mk.injEq] at completed
            obtain ⟨rfl, rfl, rfl⟩ := completed
            obtain ⟨sendDone, trySendDone, bounded⟩ := (c.mayEnqueue_eq_true_iff N).mp may
            exact .sendEnqueue sendDone trySendDone bounded
  | sendSecond =>
      simp only [stretch, Chan.sendSecond, Option.some.injEq, Except.ok.injEq] at completed
      cases full : c.isFull N with
      | true =>
          simp only [full, Bool.not_true, Bool.false_eq_true, if_false, Prod.mk.injEq]
            at completed
          obtain ⟨rfl, rfl, rfl⟩ := completed
          exact .sendHold ((c.isFull_eq_true_iff N).mp full)
      | false =>
          simp only [full, Bool.not_false, if_true, Prod.mk.injEq] at completed
          obtain ⟨rfl, rfl, rfl⟩ := completed
          exact .sendFinish ((c.isFull_eq_false_iff N).mp full)
  | recvFirst form =>
      simp only [stretch, Option.some.injEq] at completed
      rcases recvStretch_ok completed with ⟨empty, outcome⟩ | ⟨front, rest, nonempty, outcome⟩
      · simp only [Prod.mk.injEq] at outcome
        obtain ⟨rfl, rfl, rfl⟩ := outcome
        exact .recvEnter empty
      · simp only [Prod.mk.injEq] at outcome
        obtain ⟨rfl, rfl, rfl⟩ := outcome
        exact .recvTake (.inl rfl) nonempty
  | recvWoken form =>
      simp only [stretch, Option.some.injEq] at completed
      rcases recvStretch_ok completed with ⟨empty, outcome⟩ | ⟨front, rest, nonempty, outcome⟩
      · simp only [Prod.mk.injEq] at outcome
        obtain ⟨rfl, rfl, rfl⟩ := outcome
        exact .recvRepark empty
      · simp only [Prod.mk.injEq] at outcome
        obtain ⟨rfl, rfl, rfl⟩ := outcome
        exact .recvTake (.inr rfl) nonempty
  | trySend u =>
      simp only [stretch, Option.some.injEq, Chan.trySend_eq] at completed
      cases tried : asserts.assert .notTryReady (!c.isTryRecvReady)
          (if c.acceptsTry N then .ok (true, c.trySent N me u)
          else .ok (false, { c with isTrySendReady := true })) with
      | error failed => simp [tried, Except.map] at completed
      | ok outcome =>
          rw [tried] at completed
          obtain ⟨-, decided⟩ := (Asserts.assert_eq_ok_iff ..).mp tried
          by_cases accepts : c.acceptsTry N
          · rw [if_pos accepts, Except.ok.injEq] at decided
            subst decided
            simp only [Except.map, Except.ok.injEq, Prod.mk.injEq] at completed
            obtain ⟨rfl, rfl, rfl⟩ := completed
            exact .tryEnqueue accepts
          · rw [if_neg accepts, Except.ok.injEq] at decided
            subst decided
            simp only [Except.map, Except.ok.injEq, Prod.mk.injEq] at completed
            obtain ⟨rfl, rfl, rfl⟩ := completed
            exact .tryRefuse accepts
  | tryRecvPtr =>
      simp only [stretch, Option.some.injEq] at completed
      cases tried : c.tryRecvPtr asserts N me with
      | error failed => simp [tried, Except.map] at completed
      | ok outcome =>
          rw [tried] at completed
          rcases Chan.tryRecvPtr_ok tried with ⟨empty, rfl⟩ | ⟨front, rest, nonempty, rfl⟩
          · simp only [Except.map, Except.ok.injEq, Prod.mk.injEq] at completed
            obtain ⟨rfl, rfl, rfl⟩ := completed
            exact .tryRecvMiss empty
          · simp only [Except.map, Except.ok.injEq, Prod.mk.injEq] at completed
            obtain ⟨rfl, rfl, rfl⟩ := completed
            exact .tryRecvTake nonempty
  | _ => simp [stretch] at completed

inductive Aborting (asserts : Asserts) (N : Nat) (me : Thread) (c : Chan Thread T)
    (site : Assertion) : Phase T → Prop where
  | sendFirst {u} :
      c.sendFirst asserts N me u = .error site →
      Aborting asserts N me c site (.sendFirst u)
  | recvFirst {form} :
      c.preBlockingRecv.blockingRecv form asserts N me = .error site →
      Aborting asserts N me c site (.recvFirst form)
  | recvWoken {form} :
      c.blockingRecv form asserts N me = .error site →
      Aborting asserts N me c site (.recvWoken form)
  | trySend {u} :
      c.trySend asserts N me u = .error site →
      Aborting asserts N me c site (.trySend u)
  | tryRecvPtr :
      c.tryRecvPtr asserts N me = .error site →
      Aborting asserts N me c site .tryRecvPtr

theorem stretch_aborting {phase : Phase T} {c : Chan Thread T} {site : Assertion}
    (failed : stretch asserts N me c phase = some (.error site)) :
    Aborting asserts N me c site phase := by
  cases phase with
  | sendFirst u =>
      rw [stretch, Option.some.injEq, Asserts.map_eq_error_iff] at failed
      exact .sendFirst failed
  | recvFirst form =>
      rw [stretch, recvStretch, Option.some.injEq, Asserts.map_eq_error_iff,
        Chan.recvOf_eq] at failed
      exact .recvFirst failed
  | recvWoken form =>
      rw [stretch, recvStretch, Option.some.injEq, Asserts.map_eq_error_iff,
        Chan.recvOf_eq] at failed
      exact .recvWoken failed
  | trySend u =>
      rw [stretch, Option.some.injEq, Asserts.map_eq_error_iff] at failed
      exact .trySend failed
  | tryRecvPtr =>
      rw [stretch, Option.some.injEq, Asserts.map_eq_error_iff] at failed
      exact .tryRecvPtr failed
  | _ => simp [stretch] at failed

end Inversion

abbrev Label (Thread : Type u) (T : Type v) :=
  Action Thread T × Option (Event Thread T)

def trace (labels : List (Label Thread T)) : List (Event Thread T) :=
  labels.filterMap Prod.snd

@[simp]
theorem trace_append (early late : List (Label Thread T)) :
    trace (early ++ late) = trace early ++ trace late := by
  simp [trace]

@[simp]
theorem trace_single (action : Action Thread T) (event : Option (Event Thread T)) :
    trace [(action, event)] = event.toList := by
  cases event <;> rfl

namespace System

variable [DecidableEq Thread] [Fintype Thread]

/-- What a step of the scheduler can do. -/
inductive Moves (N : Nat) (s : System Thread T) :
    Action Thread T → Option (Event Thread T) → System Thread T → Prop where
  | call {thread op} :
      s.phase thread = .idle →
      Moves N s (.call thread op) (some (.called thread op)) (s.setPhase thread (.start op))
  | lock {thread event phase chan} :
      Critical N thread (s.phase thread) s.chan event phase chan →
      Moves N s (.lock thread) event ({ s with chan := chan }.setPhase thread phase)
  | refuse {thread result} :
      (s.phase thread).refused = some result →
      Moves N s (.refuse thread) (some (.returned thread result)) (s.setPhase thread .idle)
  | notify {thread woken cv phase result} :
      (s.phase thread).notifies = some (cv, phase, result) →
      s.mayWake cv woken = true →
      Moves N s (.notify thread woken) (result.map (.returned thread))
        ((s.wakeOne woken).setPhase thread phase)
  | spurious {thread cv} :
      (s.phase thread).parkedOn = some cv →
      Moves N s (.spurious thread) none (s.setPhase thread (s.phase thread).wake)

def Step (asserts : Asserts) (N : Nat) (s : System Thread T) (label : Label Thread T)
    (next : System Thread T) : Prop :=
  s.step asserts N label.1 = some (.ok (label.2, next))

theorem Step.moves {asserts : Asserts} {N : Nat} {s next : System Thread T}
    {action : Action Thread T} {event : Option (Event Thread T)}
    (taken : Step asserts N s (action, event) next) : Moves N s action event next := by
  unfold Step at taken
  cases action with
  | call thread op =>
      cases standing : s.phase thread <;> simp only [step, standing] at taken
      case idle =>
        simp only [Option.some.injEq, Except.ok.injEq, Prod.mk.injEq] at taken
        obtain ⟨rfl, rfl⟩ := taken
        exact .call standing
      all_goals cases taken
  | lock thread =>
      simp only [step, Option.map_eq_some_iff] at taken
      obtain ⟨outcome, executed, completed⟩ := taken
      cases outcome with
      | error failed => cases completed
      | ok result =>
          simp only [Except.map, Except.ok.injEq, Prod.mk.injEq] at completed
          obtain ⟨rfl, rfl⟩ := completed
          exact .lock (stretch_cases executed)
  | refuse thread =>
      simp only [step, Option.map_eq_some_iff] at taken
      obtain ⟨result, refused, completed⟩ := taken
      simp only [Except.ok.injEq, Prod.mk.injEq] at completed
      obtain ⟨rfl, rfl⟩ := completed
      exact .refuse refused
  | notify thread woken =>
      simp only [step, Option.bind_eq_some_iff] at taken
      obtain ⟨⟨cv, phase, result⟩, due, completed⟩ := taken
      split at completed
      next may =>
        simp only [Option.some.injEq, Except.ok.injEq, Prod.mk.injEq] at completed
        obtain ⟨rfl, rfl⟩ := completed
        exact .notify due may
      next => cases completed
  | spurious thread =>
      simp only [step] at taken
      split at taken
      next parked =>
        simp only [Option.some.injEq, Except.ok.injEq, Prod.mk.injEq] at taken
        obtain ⟨rfl, rfl⟩ := taken
        obtain ⟨cv, parkedOn⟩ := Option.isSome_iff_exists.mp parked
        exact .spurious parkedOn
      next => cases taken

abbrev Reaches (asserts : Asserts) (N : Nat) :
    List (Label Thread T) → System Thread T → Prop :=
  Execution (Step asserts N) init

/-- Let the scheduler follow a list of actions.  The labels of the steps taken
are returned with the way in which the schedule ends: `none` at an action that
is not possible, `.error site` at an assertion that fails. -/
def replay (asserts : Asserts) (N : Nat) (s : System Thread T) :
    List (Action Thread T) →
      List (Label Thread T) × Option (Except Assertion (System Thread T))
  | [] => ([], some (.ok s))
  | action :: rest =>
      match s.step asserts N action with
      | none => ([], none)
      | some (.error failed) => ([], some (.error failed))
      | some (.ok (event, next)) =>
          let (labels, ending) := next.replay asserts N rest
          ((action, event) :: labels, ending)

omit [DecidableEq Thread] in
theorem exists_mayWake (s : System Thread T) (cv : Cv) :
    ∃ woken, s.mayWake cv woken = true := by
  by_cases parked : ∃ thread, (s.phase thread).parkedOn = some cv
  · obtain ⟨thread, parked⟩ := parked
    exact ⟨some thread, by simpa [mayWake] using parked⟩
  · exact ⟨none, by simpa [mayWake] using parked⟩

section Forward

variable {asserts : Asserts} {N : Nat} {s next : System Thread T} {thread : Thread}

theorem step_call (op : Op T) (idle : s.phase thread = .idle) :
    s.step asserts N (.call thread op) =
      some (.ok (some (.called thread op), s.setPhase thread (.start op))) := by
  simp [step, idle]

theorem step_notify {woken : Option Thread} {cv : Cv} {phase : Phase T}
    {result : Option (Result T)}
    (due : (s.phase thread).notifies = some (cv, phase, result))
    (may : s.mayWake cv woken = true) :
    s.step asserts N (.notify thread woken) =
      some (.ok (result.map (.returned thread), (s.wakeOne woken).setPhase thread phase)) := by
  simp [step, due, may]

theorem step_lock {event : Option (Event Thread T)} {phase : Phase T}
    {c : Chan Thread T}
    (executed : stretch asserts N thread s.chan (s.phase thread) =
      some (.ok (event, phase, c))) :
    s.step asserts N (.lock thread) =
      some (.ok (event, { s with chan := c }.setPhase thread phase)) := by
  simp [step, executed, Except.map]

theorem step_lock_aborts {site : Assertion}
    (failed : stretch asserts N thread s.chan (s.phase thread) = some (.error site)) :
    s.step asserts N (.lock thread) = some (.error site) := by
  simp [step, failed, Except.map]

theorem step_sendFirst_enqueues {u : T} (standing : s.phase thread = .sendFirst u)
    (may : s.chan.mayEnqueue N = true)
    (passes : asserts .notTryReady = true → s.chan.isTryReady = false) :
    s.step asserts N (.lock thread) = some (.ok (some (.enqueued thread u),
      { s with chan := { s.chan with
          queue := s.chan.queue ++ [(thread, u)], isSendDone := false } }.setPhase thread
        .sendNotify)) := by
  apply step_lock
  rw [standing, stretch, Chan.sendFirst_eq, if_pos may,
    Asserts.assert_passes (by simpa using passes)]
  rfl

theorem step_sendFirst_aborts {u : T} (standing : s.phase thread = .sendFirst u)
    (may : s.chan.mayEnqueue N = true) (checked : asserts .notTryReady = true)
    (ready : s.chan.isTryReady = true) :
    s.step asserts N (.lock thread) = some (.error .notTryReady) := by
  apply step_lock_aborts
  simp [standing, stretch, Chan.sendFirst_eq, may, Asserts.assert, checked, ready, Except.map]

theorem step_trySend_aborts {u : T} (standing : s.phase thread = .trySend u)
    (checked : asserts .notTryReady = true) (ready : s.chan.isTryRecvReady = true) :
    s.step asserts N (.lock thread) = some (.error .notTryReady) := by
  apply step_lock_aborts
  simp [standing, stretch, Chan.trySend_eq, Asserts.assert, checked, ready, Except.map]

theorem step_trySend_accepts {u : T} (standing : s.phase thread = .trySend u)
    (passes : asserts .notTryReady = true → s.chan.isTryRecvReady = false)
    (accepts : s.chan.acceptsTry N) :
    s.step asserts N (.lock thread) = some (.ok (some (.enqueued thread u),
      { s with chan := s.chan.trySent N thread u }.setPhase thread .trySendReturn)) := by
  apply step_lock
  rw [standing, stretch, Chan.trySend_eq, Asserts.assert_passes (by simpa using passes),
    if_pos accepts]
  rfl

theorem step_trySend_refuses {u : T} (standing : s.phase thread = .trySend u)
    (passes : asserts .notTryReady = true → s.chan.isTryRecvReady = false)
    (refuses : ¬ s.chan.acceptsTry N) :
    s.step asserts N (.lock thread) = some (.ok (some (.returned thread (.trySent false)),
      { s with chan := { s.chan with isTrySendReady := true } }.setPhase thread .idle)) := by
  apply step_lock
  rw [standing, stretch, Chan.trySend_eq, Asserts.assert_passes (by simpa using passes),
    if_neg refuses]
  rfl

theorem replay_cons {action : Action Thread T} {event : Option (Event Thread T)}
    (taken : s.step asserts N action = some (.ok (event, next)))
    (actions : List (Action Thread T)) :
    s.replay asserts N (action :: actions) =
      ((action, event) :: (next.replay asserts N actions).1,
        (next.replay asserts N actions).2) := by
  simp [replay, taken]

theorem replay_aborts {action : Action Thread T} {site : Assertion}
    (failed : s.step asserts N action = some (.error site))
    (actions : List (Action Thread T)) :
    s.replay asserts N (action :: actions) = ([], some (.error site)) := by
  simp [replay, failed]

end Forward

theorem execution_of_replay (asserts : Asserts) (N : Nat) (s : System Thread T)
    (actions : List (Action Thread T)) {labels : List (Label Thread T)}
    {last : System Thread T}
    (followed : s.replay asserts N actions = (labels, some (.ok last))) :
    Execution (Step asserts N) s labels last := by
  induction actions generalizing s labels with
  | nil =>
      simp only [replay, Prod.mk.injEq, Option.some.injEq, Except.ok.injEq] at followed
      obtain ⟨rfl, rfl⟩ := followed
      exact .nil
  | cons action rest inductionHypothesis =>
      simp only [replay] at followed
      split at followed
      next => simp at followed
      next => simp at followed
      next event next taken =>
        simp only [Prod.mk.injEq] at followed
        obtain ⟨rfl, ended⟩ := followed
        have late := inductionHypothesis next (Prod.ext rfl ended)
        have early : Execution (Step asserts N) s [(action, event)] next :=
          Execution.single taken
        exact early.append late

end System

/-- A classification of phases that only stretches under the mutex change. -/
structure SettledUnderLock {Kind : Type*} (kind : Phase T → Kind) : Prop where
  start : ∀ op, kind (.start op) = kind .idle
  refused : ∀ phase, phase.refused.isSome → kind phase = kind .idle
  notifies : ∀ phase cv next result, phase.notifies = some (cv, next, result) →
    kind phase = kind next
  wake : ∀ phase, kind phase.wake = kind phase

namespace System

variable [DecidableEq Thread] [Fintype Thread] {N : Nat} {s next : System Thread T}
  {action : Action Thread T} {event : Option (Event Thread T)}

omit [Fintype Thread] in
theorem kind_setPhase {Kind : Type*} (kind : Phase T → Kind) {thread : Thread}
    {phase : Phase T} (same : kind phase = kind (s.phase thread)) (other : Thread) :
    kind ((s.setPhase thread phase).phase other) = kind (s.phase other) := by
  rw [setPhase_phase, Function.update_apply]
  split
  next equal => rw [equal, same]
  next => rfl

omit [Fintype Thread] in
@[simp]
theorem wakeOne_chan (woken : Option Thread) : (s.wakeOne woken).chan = s.chan := by
  cases woken <;> rfl

/-- Outside the mutex nothing happens to the data members, nor to a
classification of phases that is settled under the lock. -/
theorem Moves.settled {Kind : Type*} {kind : Phase T → Kind}
    (settled : SettledUnderLock kind) (moved : Moves N s action event next)
    (outside : ∀ thread, action ≠ .lock thread) :
    next.chan = s.chan ∧ ∀ thread, kind (next.phase thread) = kind (s.phase thread) := by
  cases moved with
  | call standing =>
      exact ⟨rfl, kind_setPhase kind (by rw [settled.start, standing])⟩
  | lock => exact absurd rfl (outside _)
  | refuse refused =>
      exact ⟨rfl, kind_setPhase kind (settled.refused _ (by simp [refused])).symm⟩
  | @notify thread woken cv phase result due may =>
      refine ⟨by simp, fun other => ?_⟩
      have woke : ∀ other, kind ((s.wakeOne woken).phase other) = kind (s.phase other) := by
        cases woken with
        | none => exact fun _ => rfl
        | some woken => exact kind_setPhase kind (settled.wake _)
      rw [kind_setPhase kind _ other, woke]
      rw [woke, settled.notifies _ _ _ _ due]
  | spurious parked => exact ⟨rfl, kind_setPhase kind (settled.wake _)⟩

theorem Moves.event_thread {seen : Event Thread T}
    (moved : Moves N s action (some seen) next) : seen.thread = action.thread := by
  generalize observed : some seen = event at moved
  cases moved with
  | call => cases observed; rfl
  | lock stretch => exact stretch.event_thread seen observed.symm
  | refuse => cases observed; rfl
  | @notify thread woken cv phase result due may =>
      cases result with
      | none => cases observed
      | some _ => cases observed; rfl
  | spurious => cases observed

theorem Moves.event_of_ne (moved : Moves N s action event next) {thread : Thread}
    (other : thread ≠ action.thread) : ∀ seen ∈ event, seen.thread ≠ thread := by
  intro seen observed
  rw [Option.mem_def] at observed
  subst observed
  rw [moved.event_thread]
  exact Ne.symm other

theorem Moves.calls_of_idle (moved : Moves N s action event next)
    (idle : s.phase action.thread = .idle) : ∃ thread op, action = .call thread op := by
  cases moved with
  | call => exact ⟨_, _, rfl⟩
  | @lock thread _ _ _ stretch =>
      rw [show s.phase thread = .idle from idle] at stretch
      cases stretch with
      | recvTake receiving => rcases receiving with same | same <;> cases same
  | @refuse thread _ refused =>
      rw [show s.phase thread = .idle from idle] at refused
      cases refused
  | @notify thread _ _ _ _ due =>
      rw [show s.phase thread = .idle from idle] at due
      cases due
  | @spurious thread _ parked =>
      rw [show s.phase thread = .idle from idle] at parked
      cases parked

theorem Moves.calls_or_returns (moved : Moves N s action event next)
    (outside : ∀ thread, action ≠ .lock thread) :
    ∀ seen ∈ event, (∃ op, seen = .called action.thread op) ∨
      ∃ result, seen = .returned action.thread result := by
  intro seen observed
  cases moved with
  | call => exact .inl ⟨_, (Option.mem_some.mp observed).symm⟩
  | lock => exact absurd rfl (outside _)
  | refuse => exact .inr ⟨_, (Option.mem_some.mp observed).symm⟩
  | notify =>
      obtain ⟨result, -, same⟩ := Option.map_eq_some_iff.mp observed
      exact .inr ⟨result, same.symm⟩
  | spurious => cases observed

theorem Moves.bystander (moved : Moves N s action event next) {thread : Thread}
    (other : thread ≠ action.thread) :
    next.phase thread = s.phase thread ∨ next.phase thread = (s.phase thread).wake := by
  cases moved with
  | call => exact .inl (Function.update_of_ne other _ _)
  | lock => exact .inl (Function.update_of_ne other _ _)
  | refuse => exact .inl (Function.update_of_ne other _ _)
  | @notify notifier woken _ _ _ due may =>
      rw [setPhase_phase, Function.update_of_ne (show thread ≠ notifier from other)]
      cases woken with
      | none => exact .inl rfl
      | some woken =>
          by_cases chosen : thread = woken
          · subst chosen
            exact .inr (Function.update_self ..)
          · exact .inl (Function.update_of_ne chosen _ _)
  | spurious => exact .inl (Function.update_of_ne other _ _)

theorem Moves.forall_phase (holds : Phase T → Prop) (idle : holds .idle)
    (start : ∀ thread op, action = .call thread op → holds (.start op))
    (critical : ∀ {thread phase event chan},
      Critical N thread (s.phase thread) s.chan event phase chan → holds phase)
    (notifies : ∀ {phase cv next result}, phase.notifies = some (cv, next, result) →
      holds phase → holds next)
    (wake : ∀ {phase}, holds phase → holds phase.wake)
    (moved : Moves N s action event next) (before : ∀ thread, holds (s.phase thread)) :
    ∀ thread, holds (next.phase thread) := by
  have updated : ∀ {family : Thread → Phase T} {thread : Thread} {phase : Phase T},
      (∀ other, holds (family other)) → holds phase →
        ∀ other, holds (Function.update family thread phase other) := by
    intro family thread phase others mine other
    rw [Function.update_apply]
    split
    · exact mine
    · exact others other
  cases moved with
  | call => exact updated before (start _ _ rfl)
  | lock stretch => exact updated before (critical stretch)
  | refuse => exact updated before idle
  | @notify thread woken _ _ _ due =>
      apply updated _ (notifies due (before thread))
      cases woken with
      | none => exact before
      | some woken => exact updated before (wake (before woken))
  | spurious => exact updated before (wake (before _))

end System

theorem settled_betweenScopes : SettledUnderLock (T := T) Phase.betweenScopes where
  start op := by cases op <;> rfl
  refused phase refused := by cases phase <;> first | rfl | cases refused
  notifies phase cv next result due := by
    cases phase <;> cases due <;> rfl
  wake phase := by cases phase <;> rfl

theorem settled_insideRecv : SettledUnderLock (T := T) Phase.insideRecv where
  start op := by cases op <;> rfl
  refused phase refused := by cases phase <;> first | rfl | cases refused
  notifies phase cv next result due := by
    cases phase <;> cases due <;> rfl
  wake phase := by cases phase <;> rfl

end Gloc.Channel
