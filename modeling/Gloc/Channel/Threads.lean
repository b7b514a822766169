import Mathlib.Data.Fintype.Pi
import Gloc.Channel.Monitor
import Gloc.Transition.Execution

/-!
# Threads on a channel

A thread that has called an operation is in one of finitely many phases:
about to acquire `m_mutex`, parked on a condition variable, or past the
critical section with a `notify_one` still to be issued.  A step is one
stretch under the mutex, one notification, or a spurious wake-up; any
interleaving of these steps is a run.

Which operations a thread calls is left open here, so that every program of
every thread is covered.  A `Thread` stands for a `std::thread::id`: threads one
after the other that get the same one are one `Thread`.
-/

namespace Gloc.Channel

universe u v

variable {Thread : Type u} {T : Type v}

inductive Phase (T : Type v) where
  | idle
  /-- in `_send`, about to acquire the mutex for the first scope or to
  reacquire it after a wake-up -/
  | sendFirst (u : T)
  | sendBeginWait (u : T)
  /-- the first scope is left, `m_recv_cv.notify_one()` is due -/
  | sendNotify
  | sendSecond
  | sendEndWait
  /-- the second scope is left, `m_send_begin_cv.notify_one()` is due -/
  | sendReturn
  | recvFirst (form : RecvForm)
  | recvWait (form : RecvForm)
  | recvWoken (form : RecvForm)
  /-- the element has been taken and `cv` is still to be notified -/
  | recvReturn (form : RecvForm) (t : T) (cv : Cv)
  | trySend (u : T)
  | trySendReturn
  | tryRecvPtr
  | tryRecvReturn (t : T) (cv : Cv)
  deriving DecidableEq, Repr

namespace Phase

def start : Op T → Phase T
  | .send u => .sendFirst u
  | .recv form => .recvFirst form
  | .trySend u => .trySend u
  | .tryRecvPtr => .tryRecvPtr

def parkedOn : Phase T → Option Cv
  | .sendBeginWait _ => some .sendBegin
  | .sendEndWait => some .sendEnd
  | .recvWait _ => some .recv
  | _ => none

def wake : Phase T → Phase T
  | .sendBeginWait u => .sendFirst u
  | .sendEndWait => .sendSecond
  | .recvWait form => .recvWoken form
  | phase => phase

/-- The notification that is due, the phase after it, and what the operation
returns if it ends there. -/
def notifies : Phase T → Option (Cv × Phase T × Option (Result T))
  | .sendNotify => some (.recv, .sendSecond, none)
  | .sendReturn => some (.sendBegin, .idle, some .sent)
  | .recvReturn form t cv => some (cv, .idle, some (.received form t))
  | .trySendReturn => some (.recv, .idle, some (.trySent true))
  | .tryRecvReturn t cv => some (cv, .idle, some (.tryReceived (some t)))
  | _ => none

/-- What an attempt returns when `try_lock` fails. -/
def refused : Phase T → Option (Result T)
  | .trySend _ => some (.trySent false)
  | .tryRecvPtr => some (.tryReceived none)
  | _ => none

def betweenScopes : Phase T → Bool
  | .sendNotify | .sendSecond | .sendEndWait => true
  | _ => false

def insideSend : Phase T → Bool
  | .sendFirst _ | .sendBeginWait _ | .sendNotify | .sendSecond | .sendEndWait
  | .sendReturn => true
  | _ => false

def insideRecv : Phase T → Bool
  | .recvWait _ | .recvWoken _ => true
  | _ => false

def receiving : Phase T → Bool
  | .recvFirst _ | .recvWoken _ => true
  | _ => false

end Phase

/-- The outcome of a stretch under the mutex: what can be observed, where the
thread stands afterwards, and the data members it leaves behind. -/
abbrev Stretch (Thread : Type u) (T : Type v) :=
  Option (Event Thread T) × Phase T × Chan Thread T

def recvStretch [DecidableEq Thread] (asserts : Asserts) (N : Nat) (me : Thread)
    (form : RecvForm) (onWait : Option (Event Thread T)) (c : Chan Thread T) :
    Except Assertion (Stretch Thread T) :=
  (c.recvOf form asserts N me).map fun
    | none => (onWait, .recvWait form, c)
    | some (form, front, cv, c) =>
        (some (.dequeued me true front), .recvReturn form front.2 cv, c)

/-- The stretch a thread executes once it owns `m_mutex`, if its phase needs
the mutex. -/
def stretch [DecidableEq Thread] (asserts : Asserts) (N : Nat) (me : Thread)
    (c : Chan Thread T) : Phase T → Option (Except Assertion (Stretch Thread T))
  | .sendFirst u => some <| (c.sendFirst asserts N me u).map fun
      | none => (none, .sendBeginWait u, c)
      | some c => (some (.enqueued me u), .sendNotify, c)
  | .sendSecond => some <| .ok <|
      match c.sendSecond N with
      | none => (none, .sendEndWait, c)
      | some c => (none, .sendReturn, c)
  | .recvFirst form => some <|
      recvStretch asserts N me form (some (.entered me)) c.preBlockingRecv
  | .recvWoken form => some <| recvStretch asserts N me form none c
  | .trySend u => some <| (c.trySend asserts N me u).map fun
      | (false, c) => (some (.returned me (.trySent false)), .idle, c)
      | (true, c) => (some (.enqueued me u), .trySendReturn, c)
  | .tryRecvPtr => some <| (c.tryRecvPtr asserts N me).map fun
      | (none, c) => (some (.returned me (.tryReceived none)), .idle, c)
      | (some (front, cv), c) =>
          (some (.dequeued me false front), .tryRecvReturn front.2 cv, c)
  | _ => none

/-- A channel together with the threads using it. -/
structure System (Thread : Type u) (T : Type v) where
  chan : Chan Thread T
  phase : Thread → Phase T

inductive Action (Thread : Type u) (T : Type v) where
  /-- an idle thread calls an operation -/
  | call (thread : Thread) (op : Op T)
  /-- a thread acquires `m_mutex` and runs until it releases it or parks -/
  | lock (thread : Thread)
  /-- a `select` fails to acquire `m_mutex` with `try_lock` -/
  | refuse (thread : Thread)
  /-- a thread issues the `notify_one` that is due, waking `woken` -/
  | notify (thread : Thread) (woken : Option Thread)
  /-- a parked thread wakes up without a notification -/
  | spurious (thread : Thread)
  deriving DecidableEq, Repr

def Action.thread : Action Thread T → Thread
  | .call thread _ | .lock thread | .refuse thread | .notify thread _
  | .spurious thread => thread

def Action.isSpurious : Action Thread T → Bool
  | .spurious _ => true
  | _ => false

namespace System

variable [DecidableEq Thread]

def init : System Thread T :=
  { chan := Chan.init, phase := fun _ => .idle }

def setPhase (s : System Thread T) (thread : Thread) (phase : Phase T) :
    System Thread T :=
  { s with phase := Function.update s.phase thread phase }

@[simp]
theorem setPhase_chan (s : System Thread T) (thread : Thread) (phase : Phase T) :
    (s.setPhase thread phase).chan = s.chan := rfl

@[simp]
theorem setPhase_phase (s : System Thread T) (thread : Thread) (phase : Phase T) :
    (s.setPhase thread phase).phase = Function.update s.phase thread phase := rfl

theorem setPhase_self (s : System Thread T) (thread : Thread) (phase : Phase T) :
    (s.setPhase thread phase).phase thread = phase :=
  Function.update_self ..

theorem setPhase_of_ne (s : System Thread T) {thread other : Thread}
    (different : other ≠ thread) (phase : Phase T) :
    (s.setPhase thread phase).phase other = s.phase other :=
  Function.update_of_ne different ..

/-- The thread a notification may wake: one that is parked on the condition
variable, and nobody only if there is no such thread. -/
def mayWake [Fintype Thread] (s : System Thread T) (cv : Cv) : Option Thread → Bool
  | some woken => decide ((s.phase woken).parkedOn = some cv)
  | none => decide (∀ thread, (s.phase thread).parkedOn ≠ some cv)

def wakeOne (s : System Thread T) : Option Thread → System Thread T
  | some woken => s.setPhase woken (s.phase woken).wake
  | none => s

variable [Fintype Thread]

/-- One step of the scheduler.  `none`: the action is not possible;
`.error site`: the process aborts in an assertion. -/
def step (asserts : Asserts) (N : Nat) (s : System Thread T) :
    Action Thread T →
      Option (Except Assertion (Option (Event Thread T) × System Thread T))
  | .call thread op =>
      match s.phase thread with
      | .idle => some (.ok (some (.called thread op), s.setPhase thread (.start op)))
      | _ => none
  | .lock thread =>
      (stretch asserts N thread s.chan (s.phase thread)).map fun outcome =>
        outcome.map fun (event, phase, chan) =>
          (event, { s with chan := chan }.setPhase thread phase)
  | .refuse thread =>
      (s.phase thread).refused.map fun result =>
        .ok (some (.returned thread result), s.setPhase thread .idle)
  | .notify thread woken =>
      (s.phase thread).notifies.bind fun (cv, phase, result) =>
        if s.mayWake cv woken then
          some (.ok (result.map (.returned thread),
            (s.wakeOne woken).setPhase thread phase))
        else none
  | .spurious thread =>
      if (s.phase thread).parkedOn.isSome then
        some (.ok (none, s.setPhase thread (s.phase thread).wake))
      else none

end System

end Gloc.Channel
