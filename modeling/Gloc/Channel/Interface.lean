import Mathlib.Data.List.Basic

/-!
# What a channel does for its callers

The operations a thread may start, the results they return, and the events by
which a run is observed.  Neither the abstract Go channel nor the monitor that
implements it is mentioned here; both are described by the same events.
-/

namespace Gloc.Channel

universe u v

/-- The three blocking receives: `T recv()`, `void recv(T &)` and
`std::unique_ptr<T> recv_ptr()`. -/
inductive RecvForm where
  | value
  | reference
  | pointer
  deriving DecidableEq, Repr

/-- Calls on one channel.  `trySend` and `tryRecvPtr` are the attempts made
by a `select`; a `select` that waits makes any number of them. -/
inductive Op (T : Type v) where
  | send (u : T)
  | recv (form : RecvForm)
  | trySend (u : T)
  | tryRecvPtr
  deriving DecidableEq, Repr

/-- Blocking calls, as opposed to the attempts of a `select`. -/
def Op.blocking {T : Type v} : Op T → Bool
  | .send _ | .recv _ => true
  | .trySend _ | .tryRecvPtr => false

def Op.offered {T : Type v} : Op T → Option T
  | .send u | .trySend u => some u
  | .recv _ | .tryRecvPtr => none

/-- What a call returns.  A failed `tryRecvPtr` returns `(false, nullptr)`. -/
inductive Result (T : Type v) where
  | sent
  | received (form : RecvForm) (t : T)
  | trySent (accepted : Bool)
  | tryReceived (t : Option T)
  deriving DecidableEq, Repr

/-- The value offered by the call was taken over by the channel. -/
def Result.accepts {T : Type v} : Result T → Bool
  | .sent => true
  | .trySent accepted => accepted
  | .received _ _ | .tryReceived _ => false

def Result.value {T : Type v} : Result T → Option T
  | .received _ t => some t
  | .tryReceived t => t
  | .sent | .trySent _ => none

/-- What can be observed of a run.  `entered` marks a blocking receive that
finds the queue empty and starts to wait; `dequeued` names the receiving
thread, whether it receives with a blocking call, and the element together
with the thread that sent it. -/
inductive Event (Thread : Type u) (T : Type v) where
  | called (thread : Thread) (op : Op T)
  | enqueued (thread : Thread) (u : T)
  | entered (thread : Thread)
  | dequeued (thread : Thread) (blocking : Bool) (front : Thread × T)
  | returned (thread : Thread) (result : Result T)
  deriving DecidableEq, Repr

variable {Thread : Type u} {T : Type v}

namespace Event

def thread : Event Thread T → Thread
  | .called thread _ | .enqueued thread _ | .entered thread | .dequeued thread _ _
  | .returned thread _ => thread

@[simp]
def enqueues : Event Thread T → Option (Thread × T)
  | .enqueued thread u => some (thread, u)
  | .called _ _ | .entered _ | .dequeued _ _ _ | .returned _ _ => none

@[simp]
def dequeues : Event Thread T → Option (Thread × T)
  | .dequeued _ _ front => some front
  | .called _ _ | .enqueued _ _ | .entered _ | .returned _ _ => none

@[simp]
def returns [DecidableEq Thread] (thread : Thread) : Event Thread T → Option (Result T)
  | .returned other result => if other = thread then some result else none
  | .called _ _ | .enqueued _ _ | .entered _ | .dequeued _ _ _ => none

end Event

def enqueued (trace : List (Event Thread T)) : List (Thread × T) :=
  trace.filterMap Event.enqueues

def dequeued (trace : List (Event Thread T)) : List (Thread × T) :=
  trace.filterMap Event.dequeues

def results [DecidableEq Thread] (thread : Thread)
    (trace : List (Event Thread T)) : List (Result T) :=
  trace.filterMap (Event.returns thread)

def received [DecidableEq Thread] (thread : Thread) (trace : List (Event Thread T)) : List T :=
  (results thread trace).filterMap Result.value

@[simp]
theorem enqueued_nil : enqueued ([] : List (Event Thread T)) = [] := rfl

@[simp]
theorem dequeued_nil : dequeued ([] : List (Event Thread T)) = [] := rfl

@[simp]
theorem enqueued_append (early late : List (Event Thread T)) :
    enqueued (early ++ late) = enqueued early ++ enqueued late := by
  simp [enqueued]

@[simp]
theorem dequeued_append (early late : List (Event Thread T)) :
    dequeued (early ++ late) = dequeued early ++ dequeued late := by
  simp [dequeued]

@[simp]
theorem results_append [DecidableEq Thread] (thread : Thread)
    (early late : List (Event Thread T)) :
    results thread (early ++ late) = results thread early ++ results thread late := by
  simp [results]

@[simp]
theorem received_append [DecidableEq Thread] (thread : Thread)
    (early late : List (Event Thread T)) :
    received thread (early ++ late) = received thread early ++ received thread late := by
  simp [received]

@[simp]
theorem enqueued_single (event : Event Thread T) :
    enqueued [event] = event.enqueues.toList := by
  cases event <;> rfl

@[simp]
theorem dequeued_single (event : Event Thread T) :
    dequeued [event] = event.dequeues.toList := by
  cases event <;> rfl

def enqueuedBy [DecidableEq Thread] (thread : Thread)
    (trace : List (Event Thread T)) : List T :=
  ((enqueued trace).filter fun element => decide (element.1 = thread)).map Prod.snd

@[simp]
theorem enqueuedBy_append [DecidableEq Thread] (thread : Thread)
    (early late : List (Event Thread T)) :
    enqueuedBy thread (early ++ late) =
      enqueuedBy thread early ++ enqueuedBy thread late := by
  simp [enqueuedBy]

@[simp]
theorem enqueuedBy_enqueued [DecidableEq Thread] (thread : Thread) (u : T) :
    enqueuedBy thread [Event.enqueued thread u] = [u] := by
  simp [enqueuedBy]

theorem enqueuedBy_single_of_none [DecidableEq Thread] (thread : Thread)
    (event : Event Thread T) (nothing : event.enqueues = none) :
    enqueuedBy thread [event] = [] := by
  rw [enqueuedBy, enqueued_single, nothing]
  rfl

def Event.takes [DecidableEq Thread] (thread : Thread) : Event Thread T → Option T
  | .dequeued other _ front => if other = thread then some front.2 else none
  | .called _ _ | .enqueued _ _ | .entered _ | .returned _ _ => none

def dequeuedBy [DecidableEq Thread] (thread : Thread)
    (trace : List (Event Thread T)) : List T :=
  trace.filterMap (Event.takes thread)

@[simp]
theorem dequeuedBy_append [DecidableEq Thread] (thread : Thread)
    (early late : List (Event Thread T)) :
    dequeuedBy thread (early ++ late) = dequeuedBy thread early ++ dequeuedBy thread late := by
  simp [dequeuedBy]

@[simp]
theorem dequeuedBy_returned [DecidableEq Thread] (thread other : Thread) (result : Result T) :
    dequeuedBy thread [.returned other result] = [] := rfl

@[simp]
theorem dequeuedBy_dequeued [DecidableEq Thread] (thread : Thread) (blocking : Bool)
    (front : Thread × T) : dequeuedBy thread [.dequeued thread blocking front] = [front.2] := by
  simp [dequeuedBy, Event.takes]

theorem dequeuedBy_single [DecidableEq Thread] (thread : Thread) (event : Event Thread T) :
    dequeuedBy thread [event] = (event.takes thread).toList := by
  cases taken : event.takes thread <;> simp [dequeuedBy, taken]

theorem dequeuedBy_eq_map [DecidableEq Thread] {thread : Thread}
    {trace : List (Event Thread T)}
    (others : ∀ other, other ≠ thread → dequeuedBy other trace = []) :
    dequeuedBy thread trace = (dequeued trace).map Prod.snd := by
  induction trace with
  | nil => rfl
  | cons event later inductionHypothesis =>
      have apart : ∀ other, dequeuedBy other (event :: later) =
          (event.takes other).toList ++ dequeuedBy other later := by
        intro other
        rw [← dequeuedBy_single, ← dequeuedBy_append, List.singleton_append]
      have late := inductionHypothesis fun other different => by
        have nothing := others other different
        rw [apart] at nothing
        exact (List.append_eq_nil_iff.mp nothing).2
      rw [apart, late, ← List.singleton_append, dequeued_append, List.map_append,
        dequeued_single]
      congr 1
      cases event with
      | dequeued taker blocking front =>
          have mine : taker = thread := by
            by_contra different
            have nothing := others taker different
            simp [apart, Event.takes] at nothing
          simp [Event.takes, mine]
      | _ => rfl

theorem ne_of_enqueuedBy_eq_nil [DecidableEq Thread] {thread : Thread}
    {trace : List (Event Thread T)} (nothing : enqueuedBy thread trace = [])
    {element : Thread × T} (membership : element ∈ enqueued trace) : element.1 ≠ thread := by
  intro mine
  rw [enqueuedBy, List.map_eq_nil_iff, List.filter_eq_nil_iff] at nothing
  exact nothing element membership (by simpa using mine)

theorem enqueuedBy_eq_map [DecidableEq Thread] {thread : Thread}
    {trace : List (Event Thread T)}
    (others : ∀ other, other ≠ thread → enqueuedBy other trace = []) :
    enqueuedBy thread trace = (enqueued trace).map Prod.snd := by
  rw [enqueuedBy, List.filter_eq_self.mpr]
  intro element membership
  by_contra different
  exact ne_of_enqueuedBy_eq_nil (others element.1 (by simpa using different)) membership rfl

@[simp]
theorem results_returned [DecidableEq Thread] (thread : Thread) (result : Result T) :
    results thread [.returned thread result] = [result] := by
  simp [results]

@[simp]
theorem received_returned [DecidableEq Thread] (thread : Thread) (result : Result T) :
    received thread [.returned thread result] = result.value.toList := by
  rw [received, results_returned, List.filterMap_cons]
  cases result.value <;> rfl

theorem results_single [DecidableEq Thread] (thread : Thread) (event : Event Thread T) :
    results thread [event] = (event.returns thread).toList := by
  cases returned : event.returns thread <;> simp only [results, List.filterMap_cons, returned] <;>
    rfl

/-- One thread's calls in program order: the values of the calls that have
returned with the value accepted, and the value of the call in progress. -/
structure Ledger (T : Type v) where
  accepted : List T
  pending : Option T

def Ledger.enter [DecidableEq Thread] (thread : Thread) (ledger : Ledger T) :
    Event Thread T → Ledger T
  | .called other op =>
      if other = thread then { ledger with pending := op.offered } else ledger
  | .returned other result =>
      if other = thread then
        if result.accepts then ⟨ledger.accepted ++ ledger.pending.toList, none⟩
        else { ledger with pending := none }
      else ledger
  | .enqueued _ _ | .entered _ | .dequeued _ _ _ => ledger

def ledger [DecidableEq Thread] (thread : Thread) (trace : List (Event Thread T)) :
    Ledger T :=
  trace.foldl (Ledger.enter thread) ⟨[], none⟩

@[simp]
theorem ledger_snoc [DecidableEq Thread] (thread : Thread)
    (trace : List (Event Thread T)) (event : Event Thread T) :
    ledger thread (trace ++ [event]) = (ledger thread trace).enter thread event := by
  simp [ledger]

section OtherThreads

variable [DecidableEq Thread] {thread : Thread} {event : Event Thread T}

theorem Ledger.enter_of_ne (different : event.thread ≠ thread) (ledger : Ledger T) :
    ledger.enter thread event = ledger := by
  cases event <;> simp_all [Ledger.enter, Event.thread]

theorem dequeuedBy_single_of_ne (different : event.thread ≠ thread) :
    dequeuedBy thread [event] = [] := by
  cases event <;> simp_all [dequeuedBy, Event.takes, Event.thread]

theorem results_single_of_ne (different : event.thread ≠ thread) :
    results thread [event] = [] := by
  cases event <;> simp_all [results, Event.thread]

theorem received_single_of_ne (different : event.thread ≠ thread) :
    received thread [event] = [] := by
  rw [received, results_single_of_ne different]
  rfl

theorem enqueuedBy_single_of_ne (different : event.thread ≠ thread) :
    enqueuedBy thread [event] = [] := by
  cases event <;> simp_all [enqueuedBy, Event.thread]

end OtherThreads

end Gloc.Channel
