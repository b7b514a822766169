import Gloc.Channel.Steps

/-!
# One thread at a time

Runs in which a single thread uses the channel while all others are idle.
They serve to reach states on purpose: a channel that holds given elements, or
a thread that is stuck in the middle of an operation.
-/

namespace Gloc.Channel

open Gloc.Transition

universe u v

variable {Thread : Type u} {T : Type v} [DecidableEq Thread]

def Chan.holding {Thread : Type u} {T : Type v} (queue : List (Thread × T)) :
    Chan Thread T :=
  { (Chan.init : Chan Thread T) with queue := queue }

namespace System

def alone (c : Chan Thread T) (thread : Thread) (phase : Phase T) : System Thread T :=
  { chan := c, phase := Function.update (fun _ => .idle) thread phase }

def quiet (queue : List (Thread × T)) : System Thread T :=
  { chan := .holding queue, phase := fun _ => .idle }

@[simp]
theorem alone_chan (c : Chan Thread T) (thread : Thread) (phase : Phase T) :
    (alone c thread phase).chan = c := rfl

@[simp]
theorem alone_phase (c : Chan Thread T) (thread : Thread) (phase : Phase T) :
    (alone c thread phase).phase thread = phase := by
  simp [alone]

theorem alone_setPhase (c d : Chan Thread T) (thread : Thread) (before after : Phase T) :
    { alone c thread before with chan := d }.setPhase thread after = alone d thread after := by
  simp [alone, setPhase]

theorem alone_idle (queue : List (Thread × T)) (thread : Thread) :
    alone (.holding queue) thread .idle = quiet queue := by
  simp [alone, quiet]

variable [Fintype Thread] {asserts : Asserts} {N : Nat} {s middle last : System Thread T}
  {thread : Thread} {actions later : List (Action Thread T)}

def Follows (asserts : Asserts) (N : Nat) (s : System Thread T)
    (actions : List (Action Thread T)) (last : System Thread T) : Prop :=
  (s.replay asserts N actions).2 = some (.ok last)

namespace Follows

theorem nil : Follows asserts N s [] s := rfl

theorem cons {action : Action Thread T} {event : Option (Event Thread T)}
    (taken : s.step asserts N action = some (.ok (event, middle)))
    (rest : Follows asserts N middle actions last) :
    Follows asserts N s (action :: actions) last := by
  rw [Follows, replay_cons taken]
  exact rest

theorem replay_append (early : Follows asserts N s actions middle)
    (later : List (Action Thread T)) :
    (s.replay asserts N (actions ++ later)).2 = (middle.replay asserts N later).2 := by
  induction actions generalizing s with
  | nil =>
      have same : s = middle := by simpa [Follows, replay] using early
      rw [same, List.nil_append]
  | cons action actions inductionHypothesis =>
      rw [Follows, replay] at early
      split at early
      next => cases early
      next => cases early
      next event next taken =>
        rw [List.cons_append, replay_cons taken]
        exact inductionHypothesis early

theorem append (early : Follows asserts N s actions middle)
    (late : Follows asserts N middle later last) :
    Follows asserts N s (actions ++ later) last :=
  (early.replay_append later).trans late

end Follows

theorem step_quiet_call (queue : List (Thread × T)) (thread : Thread) (op : Op T) :
    (quiet queue).step asserts N (.call thread op) = some (.ok (some (.called thread op),
      alone (.holding queue) thread (.start op))) :=
  step_call op rfl

theorem step_alone_lock {c d : Chan Thread T} {phase next : Phase T}
    {event : Option (Event Thread T)}
    (executed : stretch asserts N thread c phase = some (.ok (event, next, d))) :
    (alone c thread phase).step asserts N (.lock thread) =
      some (.ok (event, alone d thread next)) := by
  rw [step_lock (by rw [alone_phase]; exact executed), alone_setPhase]

theorem step_alone_notify {c : Chan Thread T} {phase next : Phase T} {cv : Cv}
    {result : Option (Result T)} (due : phase.notifies = some (cv, next, result)) :
    (alone c thread phase).step asserts N (.notify thread none) =
      some (.ok (result.map (.returned thread), alone c thread next)) := by
  have nobody : (alone c thread phase).mayWake cv none = true := by
    simp only [mayWake, decide_eq_true_eq]
    intro other
    by_cases same : other = thread
    · subst same
      rw [alone_phase]
      cases phase <;> cases due <;> rintro ⟨⟩
    · simp [alone, Function.update_of_ne same, Phase.parkedOn]
  rw [step_notify (by rw [alone_phase]; exact due) nobody]
  exact congrArg _ (congrArg _ (congrArg _ (alone_setPhase c c thread phase next)))

def offerBy (thread : Thread) (u : T) : List (Action Thread T) :=
  [.call thread (.send u), .lock thread]

def sendBy (thread : Thread) (u : T) : List (Action Thread T) :=
  offerBy thread u ++ [.notify thread none, .lock thread, .notify thread none]

def recvBy (thread : Thread) (form : RecvForm) : List (Action Thread T) :=
  [.call thread (.recv form), .lock thread, .notify thread none]

theorem follows_offerBy {queue : List (Thread × T)} (room : queue.length ≤ N) (u : T) :
    Follows asserts N (quiet queue) (offerBy thread u)
      (alone { Chan.holding (queue ++ [(thread, u)]) with isSendDone := false }
        thread .sendNotify) := by
  have enqueued : stretch asserts N thread (.holding queue) (.start (.send u)) =
      some (.ok (some (.enqueued thread u), .sendNotify,
        { Chan.holding (queue ++ [(thread, u)]) with isSendDone := false })) := by
    simp [stretch, Phase.start, Chan.sendFirst, Chan.mayEnqueue, Chan.holding, Chan.init,
      Chan.isFull, Chan.isTryReady, Nat.not_lt.mpr room, Asserts.assert, Except.map]
  exact .cons (step_quiet_call queue thread (.send u)) (.cons (step_alone_lock enqueued) .nil)

theorem follows_sendBy {queue : List (Thread × T)} (room : queue.length < N) (u : T) :
    Follows asserts N (quiet queue) (sendBy thread u) (quiet (queue ++ [(thread, u)])) := by
  have finished : stretch asserts N thread
      { Chan.holding (queue ++ [(thread, u)]) with isSendDone := false } .sendSecond =
      some (.ok (none, .sendReturn, .holding (queue ++ [(thread, u)]))) := by
    have spare : queue.length + 1 ≤ N := room
    simp [stretch, Chan.sendSecond, Chan.holding, Chan.init, Chan.isFull, Nat.not_lt.mpr spare]
  rw [← alone_idle (queue ++ [(thread, u)]) thread]
  exact (follows_offerBy room.le u).append
    (.cons (step_alone_notify rfl) (.cons (step_alone_lock finished)
      (.cons (step_alone_notify rfl) .nil)))

def sendsBy (thread : Thread) (values : List T) : List (Action Thread T) :=
  values.flatMap (sendBy thread)

theorem follows_sendsBy (queue : List (Thread × T)) (values : List T)
    (room : queue.length + values.length ≤ N) :
    Follows asserts N (quiet queue) (sendsBy thread values)
      (quiet (queue ++ values.map fun u => (thread, u))) := by
  induction values generalizing queue with
  | nil => simpa [sendsBy] using Follows.nil
  | cons u values inductionHypothesis =>
      rw [List.length_cons] at room
      have later := inductionHypothesis (queue ++ [(thread, u)])
        (by rw [List.length_append, List.length_singleton]; omega)
      rw [List.append_assoc, List.singleton_append] at later
      rw [sendsBy, List.flatMap_cons]
      exact (follows_sendBy (by omega) u).append later

theorem follows_recvBy {front : Thread × T} {queue : List (Thread × T)} (form : RecvForm)
    (room : queue.length < N) :
    Follows asserts N (quiet (front :: queue)) (recvBy thread form) (quiet queue) := by
  have received : stretch asserts N thread (.holding (front :: queue)) (.start (.recv form)) =
      some (.ok (some (.dequeued thread true front), .recvReturn form front.2 .sendBegin,
        .holding queue)) := by
    have full : ¬ N < queue.length + 1 := Nat.not_lt.mpr room
    have spare : ¬ N < queue.length := Nat.not_lt.mpr room.le
    simp [stretch, Phase.start, recvStretch, Chan.preBlockingRecv, Chan.recvOf_eq,
      Chan.blockingRecv, Chan.postBlockingRecv, Chan.holding, Chan.init, Chan.isFull,
      Chan.isTryReady, Chan.afterRecv, full, spare, Asserts.assert, Except.map]
  rw [← alone_idle queue thread]
  exact .cons (step_quiet_call _ thread (.recv form)) (.cons (step_alone_lock received)
    (.cons (step_alone_notify rfl) .nil))

end System

end Gloc.Channel
