import Gloc.Channel.Wakeups

/-!
# Clients of a channel

Every thread runs a program, a finite list of calls.  A state is quiescent
when nothing but a spurious wake-up can happen any more.  The phases are
weighted so that every other step makes the total smaller; clients therefore
always come to rest, and what the wake-up invariants say about a state in
which nothing is due is what holds then.
-/

namespace Gloc.Channel

open Gloc.Transition

universe u v

/-- A channel in use, with the calls that each thread has still to make. -/
structure Clients (Thread : Type u) (T : Type v) where
  system : System Thread T
  rest : Thread → List (Op T)

variable {Thread : Type u} {T : Type v}

def Action.follows (rest : Thread → List (Op T)) : Action Thread T → Prop
  | .call thread op => ∃ later, rest thread = op :: later
  | _ => True

/-- The weight of a phase: more than that of any phase it can be left for, by
at least two where a thread may be woken on the way. -/
def Phase.weight : Phase T → Nat
  | .idle => 0
  | .sendFirst _ => 8
  | .sendBeginWait _ => 7
  | .sendNotify => 6
  | .sendSecond => 4
  | .sendEndWait => 3
  | .sendReturn => 2
  | .recvFirst _ => 5
  | .recvWait _ => 3
  | .recvWoken _ => 4
  | .recvReturn _ _ _ => 2
  | .trySend _ => 3
  | .trySendReturn => 2
  | .tryRecvPtr => 3
  | .tryRecvReturn _ _ => 2

theorem Critical.weight_lt {N : Nat} {me : Thread} {phase next : Phase T}
    {c after : Chan Thread T} {event : Option (Event Thread T)}
    (stretch : Critical N me phase c event next after) : next.weight < phase.weight := by
  cases stretch with
  | recvTake receiving => rcases receiving with rfl | rfl <;> simp [Phase.weight]
  | _ => simp [Phase.weight]

namespace System

variable {N : Nat} {s : System Thread T}

def Resting (s : System Thread T) : Prop :=
  ∀ thread, s.phase thread = .idle ∨ ∃ cv, (s.phase thread).waitsOn cv

theorem idle_or_parked [DecidableEq Thread] [Fintype Thread] {asserts : Asserts}
    {thread : Thread} (locked : s.step asserts N (.lock thread) = none)
    (notified : ∀ woken, s.step asserts N (.notify thread woken) = none) :
    s.phase thread = .idle ∨ ∃ cv, (s.phase thread).waitsOn cv := by
  have nothingDue : (s.phase thread).notifies = none := by
    by_contra due
    obtain ⟨⟨cv, phase, result⟩, due⟩ := Option.ne_none_iff_exists'.mp due
    obtain ⟨woken, may⟩ := s.exists_mayWake cv
    cases (notified woken).symm.trans (step_notify due may)
  simp only [step, Option.map_eq_none_iff] at locked
  cases standing : s.phase thread with
  | idle => exact .inl rfl
  | sendBeginWait u => exact .inr ⟨.sendBegin, rfl⟩
  | sendEndWait => exact .inr ⟨.sendEnd, rfl⟩
  | recvWait form => exact .inr ⟨.recv, rfl⟩
  | _ => simp [standing, stretch, Phase.notifies] at locked nothingDue

namespace Resting

theorem nothing_due (resting : s.Resting) (thread : Thread) :
    (s.phase thread).credit = 0 ∧ (∀ cv, ¬ (s.phase thread).owes cv) ∧
      ¬ (s.phase thread).urges := by
  rcases resting thread with standing | ⟨cv, parked⟩
  · simp [standing, Phase.credit, Phase.urges, Phase.owes, Phase.receiving,
      Phase.notifies]
  · generalize s.phase thread = phase at parked
    cases phase <;> cases parked <;>
      simp [Phase.credit, Phase.urges, Phase.owes, Phase.receiving, Phase.notifies]

theorem receiver_starves [Fintype Thread] (resting : s.Resting) (signalled : Signalled N s)
    {thread : Thread} (parked : (s.phase thread).waitsOn .recv) : s.chan.queue = [] := by
  have covered := signalled.recv ⟨thread, parked⟩
  have spent : total Phase.credit s.phase = 0 :=
    total_eq_zero_iff.mpr fun other => (resting.nothing_due other).1
  exact List.eq_nil_of_length_eq_zero (by omega)

theorem sender_blocked [Fintype Thread] (resting : s.Resting) (protocol : Protocol N s)
    (signalled : Signalled N s) {thread : Thread}
    (parked : (s.phase thread).waitsOn .sendBegin ∨ (s.phase thread).waitsOn .sendEnd) :
    s.chan.queue.length = N + 1 := by
  have bounded := protocol.bounded
  have held : (∃ other, (s.phase other).waitsOn .sendEnd) → s.chan.queue.length = N + 1 := by
    intro waits
    by_contra room
    obtain ⟨other, owes⟩ := signalled.sendEnd waits (by omega)
    exact (resting.nothing_due other).2.1 _ owes
  rcases parked with begins | ends
  · by_contra room
    -- neither of the flags of the senders can be the reason to wait
    have trySendDone : s.chan.isTrySendDone = true := by
      by_contra pending
      exact room (protocol.tryFull (Bool.eq_false_of_not_eq_true pending))
    have sendDone : s.chan.isSendDone = true := by
      by_contra pending
      obtain ⟨sender, inside⟩ := protocol.between (Bool.eq_false_of_not_eq_true pending)
      refine room (held ⟨sender, ?_⟩)
      rcases resting sender with standing | ⟨cv, waits⟩
      · rw [standing] at inside
        cases inside
      · generalize s.phase sender = phase at inside waits ⊢
        cases phase <;> cases waits <;> first | rfl | cases inside
    have may := (s.chan.mayEnqueue_eq_true_iff N).mpr ⟨sendDone, trySendDone, by omega⟩
    obtain ⟨other, urges⟩ := signalled.sendBegin ⟨thread, begins⟩ may
    exact (resting.nothing_due other).2.2 urges
  · exact held ⟨thread, ends⟩

end Resting

end System

namespace Clients

variable [DecidableEq Thread]

def advance (rest : Thread → List (Op T)) : Action Thread T → Thread → List (Op T)
  | .call thread _ => Function.update rest thread (rest thread).tail
  | _ => rest

omit [DecidableEq Thread] in
theorem follows_of_noCall {action : Action Thread T}
    (noCall : ∀ thread op, action ≠ .call thread op) (rest : Thread → List (Op T)) :
    action.follows rest := by
  cases action with
  | call thread op => exact absurd rfl (noCall thread op)
  | _ => trivial

theorem advance_of_ne {thread : Thread} {action : Action Thread T}
    (other : thread ≠ action.thread) (rest : Thread → List (Op T)) :
    advance rest action thread = rest thread := by
  cases action with
  | call caller op => exact Function.update_of_ne other _ _
  | _ => rfl

theorem advance_of_noCall {action : Action Thread T}
    (noCall : ∀ thread op, action ≠ .call thread op) (rest : Thread → List (Op T)) :
    advance rest action = rest := by
  cases action with
  | call thread op => exact absurd rfl (noCall thread op)
  | _ => rfl

def init (programs : Thread → List (Op T)) : Clients Thread T :=
  { system := System.init, rest := programs }

variable [Fintype Thread]

def Enabled (asserts : Asserts) (N : Nat) (c : Clients Thread T)
    (action : Action Thread T) : Prop :=
  action.follows c.rest ∧ (c.system.step asserts N action).isSome

/-- No thread can take a step other than a spurious wake-up. -/
def Quiescent (asserts : Asserts) (N : Nat) (c : Clients Thread T) : Prop :=
  ∀ action, c.Enabled asserts N action → action.isSpurious = true

def Step (asserts : Asserts) (N : Nat) (c : Clients Thread T) (label : Label Thread T)
    (next : Clients Thread T) : Prop :=
  label.1.follows c.rest ∧ System.Step asserts N c.system label next.system ∧
    next.rest = advance c.rest label.1

/-- A thread that has returned from the last call of its program. -/
def Ended (c : Clients Thread T) (thread : Thread) : Prop :=
  c.system.phase thread = .idle ∧ c.rest thread = []

abbrev Reaches (asserts : Asserts) (N : Nat) (programs : Thread → List (Op T)) :
    List (Label Thread T) → Clients Thread T → Prop :=
  Execution (Step asserts N) (init programs)

variable {asserts : Asserts} {N : Nat} {c next : Clients Thread T}
  {programs : Thread → List (Op T)} {labels : List (Label Thread T)}

theorem Reaches.system (run : Reaches asserts N programs labels c) :
    System.Reaches asserts N labels c.system :=
  run.project Clients.system fun taken => taken.2.1

theorem Ended.step {thread : Thread} {label : Label Thread T} (ended : c.Ended thread)
    (taken : Step asserts N c label next) : next.Ended thread := by
  rcases label with ⟨action, event⟩
  obtain ⟨idle, done⟩ := ended
  obtain ⟨follows, moved, advanced⟩ := taken
  have moved := System.Step.moves moved
  have other : thread ≠ action.thread := by
    rintro rfl
    obtain ⟨caller, op, rfl⟩ := moved.calls_of_idle idle
    obtain ⟨later, left⟩ := follows
    cases done.symm.trans left
  refine ⟨?_, ?_⟩
  · rcases moved.bystander other with same | woken
    · exact same.trans idle
    · rw [woken, idle]
      rfl
  · rw [advanced, advance_of_ne other, done]

theorem Step.mem_rest {thread : Thread} {op : Op T} {label : Label Thread T}
    (taken : Step asserts N c label next) (membership : op ∈ next.rest thread) :
    op ∈ c.rest thread := by
  rcases label with ⟨action, event⟩
  rw [taken.2.2] at membership
  cases action with
  | call caller op =>
      rw [advance, Function.update_apply] at membership
      split at membership
      next same => exact same ▸ List.mem_of_mem_tail membership
      next => exact membership
  | _ => exact membership

def called (thread : Thread) (actions : List (Action Thread T)) : List (Op T) :=
  actions.filterMap fun
    | .call other op => if other = thread then some op else none
    | _ => none

omit [Fintype Thread] in
@[simp]
theorem called_append (thread : Thread) (early late : List (Action Thread T)) :
    called thread (early ++ late) = called thread early ++ called thread late := by
  simp [called]

theorem execution_of_replay (asserts : Asserts) (N : Nat) (c : Clients Thread T)
    (actions : List (Action Thread T)) (rest : Thread → List (Op T))
    {labels : List (Label Thread T)} {last : System Thread T}
    (followed : c.system.replay asserts N actions = (labels, some (.ok last)))
    (calls : ∀ thread, c.rest thread = called thread actions ++ rest thread) :
    Execution (Step asserts N) c labels ⟨last, rest⟩ := by
  induction actions generalizing c labels with
  | nil =>
      simp only [System.replay, Prod.mk.injEq, Option.some.injEq, Except.ok.injEq]
        at followed
      obtain ⟨rfl, rfl⟩ := followed
      have same : rest = c.rest := funext fun thread => (calls thread).symm
      subst same
      exact .nil
  | cons action later inductionHypothesis =>
      simp only [System.replay] at followed
      split at followed
      next => simp at followed
      next => simp at followed
      next event next taken =>
        simp only [Prod.mk.injEq] at followed
        obtain ⟨rfl, ended⟩ := followed
        have taken : Step asserts N c (action, event) ⟨next, advance c.rest action⟩ := by
          refine ⟨?_, taken, rfl⟩
          cases action with
          | call thread op => exact ⟨_, by simpa [called] using calls thread⟩
          | _ => trivial
        have late := inductionHypothesis ⟨next, advance c.rest action⟩
          (Prod.ext rfl ended) fun thread => by
            cases action with
            | call caller op =>
                by_cases same : thread = caller
                · subst same
                  simp [advance, calls, called]
                · simp [advance, calls, called, Function.update_of_ne same, Ne.symm same]
            | _ => exact calls thread
        exact (Execution.single taken).append late

theorem Quiescent.resting (quiescent : c.Quiescent asserts N) : c.system.Resting := by
  intro thread
  apply System.idle_or_parked
  · rw [← Option.not_isSome_iff_eq_none]
    intro possible
    cases quiescent (.lock thread) ⟨trivial, possible⟩
  · intro woken
    rw [← Option.not_isSome_iff_eq_none]
    intro possible
    cases quiescent (.notify thread woken) ⟨trivial, possible⟩

theorem Quiescent.ended_or_parked (quiescent : c.Quiescent asserts N) (thread : Thread) :
    (c.system.phase thread = .idle ∧ c.rest thread = []) ∨
      ∃ cv, (c.system.phase thread).waitsOn cv := by
  rcases quiescent.resting thread with standing | parked
  · refine .inl ⟨standing, ?_⟩
    cases left : c.rest thread with
    | nil => rfl
    | cons op later =>
        have impossible := quiescent (.call thread op)
          ⟨⟨later, left⟩, by simp [System.step, standing]⟩
        cases impossible
  · exact .inr parked

theorem quiescent_of_ended_or_parked
    (standing : ∀ thread, (c.system.phase thread = .idle ∧ c.rest thread = []) ∨
      ∃ cv, (c.system.phase thread).waitsOn cv) : c.Quiescent asserts N := by
  rintro action ⟨follows, possible⟩
  rcases standing action.thread with ⟨ended, done⟩ | ⟨cv, parked⟩
  · cases action with
    | call thread op =>
        obtain ⟨later, left⟩ := follows
        rw [show c.rest thread = [] from done] at left
        cases left
    | _ => simp_all [System.step, Action.thread, stretch, Phase.notifies, Phase.refused,
        Phase.parkedOn]
  · generalize waiting : c.system.phase action.thread = phase at parked
    cases action with
    | spurious => rfl
    | _ =>
        cases phase <;> cases parked <;>
          simp_all [System.step, Action.thread, stretch, Phase.notifies, Phase.refused]

theorem Quiescent.receiver_starves (quiescent : c.Quiescent asserts N)
    (signalled : Signalled N c.system) {thread : Thread}
    (parked : (c.system.phase thread).waitsOn .recv) : c.system.chan.queue = [] :=
  quiescent.resting.receiver_starves signalled parked

theorem Quiescent.sender_blocked (quiescent : c.Quiescent asserts N)
    (protocol : Protocol N c.system) (signalled : Signalled N c.system)
    {thread : Thread} (parked : (c.system.phase thread).waitsOn .sendBegin ∨
      (c.system.phase thread).waitsOn .sendEnd) :
    c.system.chan.queue.length = N + 1 :=
  quiescent.resting.sender_blocked protocol signalled parked

def workload (c : Clients Thread T) : Nat :=
  total (fun later => 9 * List.length later) c.rest + total Phase.weight c.system.phase

theorem Step.workload_lt {label : Label Thread T} (taken : Step asserts N c label next)
    (caused : ¬ label.1.isSpurious = true) : next.workload < c.workload := by
  rcases label with ⟨action, event⟩
  obtain ⟨follows, moved, advanced⟩ := taken
  have moved := System.Step.moves moved
  rw [workload, workload, advanced]
  generalize next.system = after at moved
  cases moved with
  | @call thread op standing =>
      obtain ⟨later, left⟩ := follows
      have calls := total_update (fun later => 9 * List.length later) c.rest thread
        (c.rest thread).tail
      have phases := total_update Phase.weight c.system.phase thread (.start op)
      have started : (Phase.start op).weight ≤ 8 := by
        cases op <;> simp [Phase.start, Phase.weight]
      have idle : (Phase.idle : Phase T).weight = 0 := rfl
      simp only [left, List.tail_cons, List.length_cons, standing, idle] at calls phases
      simp only [advance, left, List.tail_cons, System.setPhase_phase]
      omega
  | @lock thread _ phase _ stretch =>
      have phases := total_update Phase.weight c.system.phase thread phase
      have lighter := stretch.weight_lt
      simp only [advance, System.setPhase_phase]
      omega
  | @refuse thread _ refused =>
      have phases := total_update Phase.weight c.system.phase thread .idle
      have lighter : (Phase.idle : Phase T).weight < (c.system.phase thread).weight := by
        generalize c.system.phase thread = current at refused
        cases current <;> cases refused <;> simp [Phase.weight]
      simp only [advance, System.setPhase_phase]
      omega
  | @notify thread woken cv phase _ due may =>
      have lighter : phase.weight + 2 ≤ (c.system.phase thread).weight := by
        generalize c.system.phase thread = current at due
        cases current <;> cases due <;> simp [Phase.weight]
      cases woken with
      | none =>
          have phases := total_update Phase.weight c.system.phase thread phase
          simp only [advance, System.wakeOne, System.setPhase_phase]
          omega
      | some woken =>
          have parked : (c.system.phase woken).waitsOn cv := by
            simpa [System.mayWake, Phase.waitsOn] using may
          have different : thread ≠ woken := by
            rintro rfl
            generalize c.system.phase thread = current at due parked
            cases current <;> cases due <;> cases parked
          have heavier : (c.system.phase woken).wake.weight =
              (c.system.phase woken).weight + 1 := by
            generalize c.system.phase woken = current at parked
            cases current <;> cases parked <;> rfl
          have woke := total_update Phase.weight c.system.phase woken
            (c.system.phase woken).wake
          have phases := total_update Phase.weight
            (c.system.setPhase woken (c.system.phase woken).wake).phase thread phase
          rw [System.setPhase_of_ne _ different] at phases
          simp only [advance, System.wakeOne, System.setPhase_phase] at phases ⊢
          omega
  | spurious => exact absurd rfl caused

def Safe (asserts : Asserts) (N : Nat) (c : Clients Thread T) : Prop :=
  ∀ action site, c.system.step asserts N action ≠ some (.error site)

theorem safe_compiledOut (c : Clients Thread T) : c.Safe .compiledOut N := by
  intro action site failed
  obtain ⟨thread, -, executed⟩ := System.step_error failed
  exact stretch_compiledOut _ _ executed

theorem step_of_not_quiescent (busy : ¬ c.Quiescent asserts N) (safe : c.Safe asserts N) :
    ∃ label next, ¬ label.1.isSpurious = true ∧ Step asserts N c label next := by
  simp only [Quiescent, not_forall] at busy
  obtain ⟨action, ⟨follows, possible⟩, caused⟩ := busy
  obtain ⟨outcome, taken⟩ := Option.isSome_iff_exists.mp possible
  cases outcome with
  | error site => exact absurd taken (safe action site)
  | ok result =>
      obtain ⟨event, next⟩ := result
      exact ⟨(action, event), ⟨next, advance c.rest action⟩, caused, follows, taken, rfl⟩

/-- What holds whenever clients that cannot abort are at rest comes about in every
run in which only finitely many wake-ups are spurious. -/
theorem inevitable {goal : Clients Thread T → Prop}
    (safe : ∀ {labels c}, Reaches asserts N programs labels c → c.Safe asserts N)
    (atRest : ∀ {labels c}, Reaches asserts N programs labels c →
      c.Quiescent asserts N → goal c)
    (run : Reaches asserts N programs labels c) (budget : Nat) :
    Inevitable (Step asserts N) (fun label => label.1.isSpurious = true) goal budget c := by
  refine Inevitable.of_variant (fun c => ∃ labels, Reaches asserts N programs labels c)
    workload ?_ ?_ ?_ budget ⟨_, run⟩
  · rintro _ _ _ ⟨_, reached⟩ taken
    exact ⟨_, .snoc reached taken⟩
  · intro _ _ _ _ caused taken
    exact taken.workload_lt caused
  · rintro _ ⟨_, reached⟩ short
    exact step_of_not_quiescent (fun quiescent => short (atRest reached quiescent))
      (safe reached)

end Clients

/-- No wake-up is lost.  Whatever programs the threads run, once nothing but a
spurious wake-up can happen, every thread has ended or is parked, a receiver is
parked only if the queue is empty, and a sender only if the queue holds `N + 1`
elements. -/
theorem no_lost_wakeup [DecidableEq Thread] [Fintype Thread] {N : Nat}
    {programs : Thread → List (Op T)} {labels : List (Label Thread T)}
    {c : Clients Thread T} (run : Clients.Reaches .compiledOut N programs labels c)
    (quiescent : c.Quiescent .compiledOut N) :
    (∀ thread, (c.system.phase thread = .idle ∧ c.rest thread = []) ∨
      ∃ cv, (c.system.phase thread).waitsOn cv) ∧
    (∀ thread, (c.system.phase thread).waitsOn .recv → c.system.chan.queue = []) ∧
    (∀ thread, (c.system.phase thread).waitsOn .sendBegin ∨
      (c.system.phase thread).waitsOn .sendEnd → c.system.chan.queue.length = N + 1) ∧
    ¬ ((∃ receiver, (c.system.phase receiver).waitsOn .recv) ∧
      ∃ sender, (c.system.phase sender).waitsOn .sendBegin ∨
        (c.system.phase sender).waitsOn .sendEnd) := by
  have protocol := Protocol.of_reaches run.system
  have signalled := Signalled.of_reaches run.system
  refine ⟨quiescent.ended_or_parked, ?_, ?_, ?_⟩
  · exact fun _ parked => quiescent.receiver_starves signalled parked
  · exact fun _ parked => quiescent.sender_blocked protocol signalled parked
  · rintro ⟨⟨receiver, starves⟩, sender, blocked⟩
    have empty := quiescent.receiver_starves signalled starves
    have full := quiescent.sender_blocked protocol signalled blocked
    simp [empty] at full

/-- On a synchronous channel a sender whom nobody receives from stays parked
with its value in the queue. -/
theorem no_lost_wakeup_alone :
    ∃ (labels : List (Label Bool Nat)) (c : Clients Bool Nat),
      Clients.Reaches .compiledOut 0 (fun thread => if thread then [] else [.send 7])
        labels c ∧
      c.Quiescent .compiledOut 0 ∧ (c.system.phase false).waitsOn .sendEnd ∧
      c.system.chan.queue.length = 0 + 1 := by
  have followed := Clients.execution_of_replay .compiledOut 0
    (.init fun thread : Bool => if thread then [] else [Op.send 7])
    [.call false (.send 7), .lock false, .notify false none, .lock false]
    (fun _ => []) rfl (by decide)
  obtain ⟨labels, c, run, parked, ended⟩ : ∃ (labels : List (Label Bool Nat))
      (c : Clients Bool Nat),
      Clients.Reaches .compiledOut 0 (fun thread => if thread then [] else [.send 7])
        labels c ∧
      (c.system.phase false).waitsOn .sendEnd ∧
      c.system.phase true = .idle ∧ c.rest true = [] :=
    ⟨_, _, followed, by rfl, by rfl, by rfl⟩
  have quiescent : c.Quiescent .compiledOut 0 :=
    Clients.quiescent_of_ended_or_parked fun
      | false => .inr ⟨.sendEnd, parked⟩
      | true => .inl ended
  exact ⟨labels, c, run, quiescent, parked,
    (no_lost_wakeup run quiescent).2.2.1 false (.inr parked)⟩

end Gloc.Channel
