import Mathlib.Algebra.Group.Nat.Defs
import Gloc.Channel.Interface

/-!
# The monitor behind a channel

`internal::_channel<T, N>` keeps a queue and five flags behind `m_mutex`.  A
member function is a sequence of stretches during which the mutex is held;
each stretch ends by releasing the mutex or by parking on a condition
variable.  The definitions below are these stretches, as functions on the
guarded data members, under the assumption that operations of `T` do not
throw.

An `assert` is a check made only when it is active, so that the same text
describes a build with `NDEBUG` and one without.
-/

namespace Gloc.Channel

universe u v w

/-- The conditions asserted in `channel.hpp`. -/
inductive Assertion where
  /-- `!is_try_ready()` -/
  | notTryReady
  /-- `!is_full() || this_thread::get_id() != pair.first` -/
  | notOwnElement
  /-- `!is_full() || !m_is_send_done || !m_is_try_send_done` -/
  | fullHasSender
  /-- `m_is_try_send_done || m_is_send_done` -/
  | oneKindOfSender
  /-- `!is_full()` -/
  | notFull
  /-- `m_is_send_done` -/
  | sendDone
  /-- `m_is_try_send_done` -/
  | trySendDone
  /-- `m_is_try_send_done || m_is_recv_ready` -/
  | receiverWaits
  deriving DecidableEq, Repr

/-- The assertions that are active in a build. -/
abbrev Asserts := Assertion → Bool

namespace Asserts

/-- A build with `NDEBUG`. -/
def compiledOut : Asserts := fun _ => false

/-- A build without `NDEBUG`, such as the one of this repository. -/
def active : Asserts := fun _ => true

def assert {α : Type w} (asserts : Asserts) (site : Assertion) (condition : Bool)
    (continuation : Except Assertion α) : Except Assertion α :=
  if asserts site && !condition then .error site else continuation

/-- An assertion in code that notes what it reads. -/
def assertReading {α : Type w} (asserts : Asserts) (site : Assertion) (condition : Bool)
    (continuation : List Nat × Except Assertion α) : List Nat × Except Assertion α :=
  if asserts site && !condition then ([], .error site) else continuation

theorem assertReading_snd {α : Type w} (asserts : Asserts) (site : Assertion) (condition : Bool)
    (continuation : List Nat × Except Assertion α) :
    (asserts.assertReading site condition continuation).2 =
      asserts.assert site condition continuation.2 := by
  unfold assertReading assert
  split <;> rfl

theorem mem_of_mem_assertReading {α : Type w} {asserts : Asserts} {site : Assertion}
    {condition : Bool} {continuation : List Nat × Except Assertion α} {size : Nat}
    (read : size ∈ (asserts.assertReading site condition continuation).1) :
    size ∈ continuation.1 := by
  unfold assertReading at read
  split at read
  · cases read
  · exact read

@[simp]
theorem assert_eq_ok_iff {α : Type w} (asserts : Asserts) (site : Assertion)
    (condition : Bool) (continuation : Except Assertion α) (result : α) :
    asserts.assert site condition continuation = .ok result ↔
      (asserts site = true → condition = true) ∧ continuation = .ok result := by
  cases active : asserts site <;> cases condition <;> simp [assert, active]

@[simp]
theorem assert_eq_error_iff {α : Type w} (asserts : Asserts) (site : Assertion)
    (condition : Bool) (continuation : Except Assertion α) (failed : Assertion) :
    asserts.assert site condition continuation = .error failed ↔
      (asserts site = true ∧ condition = false ∧ site = failed) ∨
        ((asserts site = true → condition = true) ∧ continuation = .error failed) := by
  cases active : asserts site <;> cases condition <;> simp [assert, active]

@[simp]
theorem assert_compiledOut {α : Type w} (site : Assertion) (condition : Bool)
    (continuation : Except Assertion α) :
    compiledOut.assert site condition continuation = continuation := rfl

theorem map_eq_error_iff {α β : Type w} (f : α → β) (outcome : Except Assertion α)
    (failed : Assertion) : outcome.map f = .error failed ↔ outcome = .error failed := by
  cases outcome <;> simp [Except.map]

theorem map_assert {α β : Type w} (f : α → β) (asserts : Asserts) (site : Assertion)
    (condition : Bool) (continuation : Except Assertion α) :
    (asserts.assert site condition continuation).map f =
      asserts.assert site condition (continuation.map f) := by
  unfold assert
  split <;> rfl

theorem assert_passes {α : Type w} {asserts : Asserts} {site : Assertion}
    {condition : Bool} (passes : asserts site = true → condition = true)
    (continuation : Except Assertion α) :
    asserts.assert site condition continuation = continuation := by
  rw [assert, if_neg]
  simpa using passes

end Asserts

/-- Subtraction of `std::size_t`, which wraps around. -/
def sizeSub (a b : Nat) : Nat :=
  if b ≤ a then a - b else a + 2 ^ 64 - b

inductive Cv where
  | sendBegin
  | sendEnd
  | recv
  deriving DecidableEq, Repr

/-- The data members guarded by `m_mutex`. -/
@[ext]
structure Chan (Thread : Type u) (T : Type v) where
  queue : List (Thread × T)
  isSendDone : Bool
  isTrySendDone : Bool
  isRecvReady : Bool
  isTrySendReady : Bool
  isTryRecvReady : Bool
  deriving DecidableEq, Repr

namespace Chan

variable {Thread : Type u} {T : Type v}

def init : Chan Thread T :=
  { queue := []
    isSendDone := true
    isTrySendDone := true
    isRecvReady := false
    isTrySendReady := false
    isTryRecvReady := false }

def isFull (N : Nat) (c : Chan Thread T) : Bool :=
  decide (N < c.queue.length)

def isTryReady (c : Chan Thread T) : Bool :=
  c.isTryRecvReady && c.isTrySendReady

@[simp]
theorem isFull_eq_true_iff (N : Nat) (c : Chan Thread T) :
    c.isFull N = true ↔ N < c.queue.length := by
  simp [isFull]

@[simp]
theorem isFull_eq_false_iff (N : Nat) (c : Chan Thread T) :
    c.isFull N = false ↔ c.queue.length ≤ N := by
  simp [isFull]

/-- What a sender in `_send` waits for on `m_send_begin_cv`. -/
def mayEnqueue (N : Nat) (c : Chan Thread T) : Bool :=
  c.isSendDone && c.isTrySendDone && !c.isFull N

@[simp]
theorem mayEnqueue_eq_true_iff (N : Nat) (c : Chan Thread T) :
    c.mayEnqueue N = true ↔
      c.isSendDone = true ∧ c.isTrySendDone = true ∧ c.queue.length ≤ N := by
  simp [mayEnqueue, and_assoc]

/-- The first lock scope of `_send`, from a check of the wait's condition on.
`none`: the thread parks on `m_send_begin_cv`. -/
def sendFirst (asserts : Asserts) (N : Nat) (me : Thread) (u : T) (c : Chan Thread T) :
    Except Assertion (Option (Chan Thread T)) :=
  if c.mayEnqueue N then
    asserts.assert .sendDone c.isSendDone <|
    asserts.assert .trySendDone c.isTrySendDone <|
    asserts.assert .notFull (!c.isFull N) <|
    asserts.assert .notTryReady (!c.isTryReady) <|
    .ok (some { c with queue := c.queue ++ [(me, u)], isSendDone := false })
  else
    .ok none

/-- The second lock scope of `_send`.  `none`: the thread parks on
`m_send_end_cv`. -/
def sendSecond (N : Nat) (c : Chan Thread T) : Option (Chan Thread T) :=
  if !c.isFull N then some { c with isSendDone := true } else none

def preBlockingRecv (c : Chan Thread T) : Chan Thread T :=
  { c with isRecvReady := true }

def afterRecv (c : Chan Thread T) : Cv :=
  if c.isSendDone then .sendBegin else .sendEnd

/-- Pop the front of the queue, clear the flags and select the condition
variable to notify. -/
def postBlockingRecv (asserts : Asserts) (N : Nat) (c : Chan Thread T) :
    Except Assertion (Cv × Chan Thread T) :=
  asserts.assert .fullHasSender (!c.isFull N || !c.isSendDone || !c.isTrySendDone) <|
  asserts.assert .oneKindOfSender (c.isTrySendDone || c.isSendDone) <|
  let c := { c with queue := c.queue.tail }
  asserts.assert .notFull (!c.isFull N) <|
  let c :=
    { c with
      isTrySendDone := true
      isRecvReady := false
      isTryRecvReady := false
      isTrySendReady := false }
  .ok (c.afterRecv, c)

/-- What the three blocking receives share: from a check of the wait's
condition in `_pre_blocking_recv` to the end of `_post_blocking_recv`.
`none`: the thread parks on `m_recv_cv`. -/
def blockingRecv [DecidableEq Thread] (form : RecvForm) (asserts : Asserts) (N : Nat)
    (me : Thread) (c : Chan Thread T) :
    Except Assertion (Option (RecvForm × (Thread × T) × Cv × Chan Thread T)) :=
  match c.queue with
  | [] => .ok none
  | front :: _ =>
      asserts.assert .notTryReady (!c.isTryReady) <|
      asserts.assert .notOwnElement (!c.isFull N || decide (me ≠ front.1)) <|
      match c.postBlockingRecv asserts N with
      | .error failed => .error failed
      | .ok (cv, c) => .ok (some (form, front, cv, c))

def recv [DecidableEq Thread] := @blockingRecv Thread T _ .value

def recvReference [DecidableEq Thread] := @blockingRecv Thread T _ .reference

/-- `std::unique_ptr<T> recv_ptr()`: the element is moved to the heap before
it is popped. -/
def recvPtr [DecidableEq Thread] := @blockingRecv Thread T _ .pointer

def recvOf [DecidableEq Thread] : RecvForm → Asserts → Nat → Thread → Chan Thread T →
    Except Assertion (Option (RecvForm × (Thread × T) × Cv × Chan Thread T))
  | .value => recv
  | .reference => recvReference
  | .pointer => recvPtr

theorem recvOf_eq [DecidableEq Thread] (form : RecvForm) :
    @recvOf Thread T _ form = blockingRecv form := by
  cases form <;> rfl

/-- Evaluate `N - m_queue.size()`; the size goes into the list. -/
def room {α : Type w} (N : Nat) (c : Chan Thread T) (continuation : Nat → List Nat × α) :
    List Nat × α :=
  let (sizes, outcome) := continuation (sizeSub N c.queue.length)
  (c.queue.length :: sizes, outcome)

theorem room_snd {α : Type w} (N : Nat) (c : Chan Thread T)
    (continuation : Nat → List Nat × α) :
    (c.room N continuation).2 = (continuation (sizeSub N c.queue.length)).2 := rfl

theorem room_fst {α : Type w} (N : Nat) (c : Chan Thread T)
    (continuation : Nat → List Nat × α) :
    (c.room N continuation).1 =
      c.queue.length :: (continuation (sizeSub N c.queue.length)).1 := rfl

/-- `try_send`, with the lock held, and the sizes that it subtracts from `N`.  The
disjuncts of the refusal are evaluated from left to right, so that the subtraction is not
reached if one of the first three is true. -/
def trySendReading (asserts : Asserts) (N : Nat) (me : Thread) (u : T) (c : Chan Thread T) :
    List Nat × Except Assertion (Bool × Chan Thread T) :=
  let c := { c with isTrySendReady := true }
  asserts.assertReading .notTryReady (!c.isTryReady) <|
  if !c.isSendDone || !c.isTrySendDone || c.isFull N then
    ([], .ok (false, c))
  else c.room N fun room =>
    if decide (0 = room) && !c.isRecvReady then
      ([], .ok (false, c))
    else
      asserts.assertReading .sendDone c.isSendDone <|
      asserts.assertReading .trySendDone c.isTrySendDone <|
      asserts.assertReading .notFull (!c.isFull N) <|
      c.room N fun room =>
      let c := { c with isTrySendDone := decide (0 < room) }
      asserts.assertReading .receiverWaits (c.isTrySendDone || c.isRecvReady) <|
      ([], .ok (true, { c with queue := c.queue ++ [(me, u)] }))

def trySend (asserts : Asserts) (N : Nat) (me : Thread) (u : T) (c : Chan Thread T) :
    Except Assertion (Bool × Chan Thread T) :=
  (c.trySendReading asserts N me u).2

/-- `try_recv_ptr`, with the lock held.  `none`: the pair `(false, nullptr)`. -/
def tryRecvPtr [DecidableEq Thread] (asserts : Asserts) (N : Nat) (me : Thread)
    (c : Chan Thread T) :
    Except Assertion (Option ((Thread × T) × Cv) × Chan Thread T) :=
  let c := { c with isTryRecvReady := true }
  match c.queue with
  | [] => .ok (none, c)
  | front :: rest =>
      asserts.assert .fullHasSender (!c.isFull N || !c.isSendDone || !c.isTrySendDone) <|
      asserts.assert .oneKindOfSender (c.isTrySendDone || c.isSendDone) <|
      asserts.assert .notOwnElement (!c.isFull N || decide (me ≠ front.1)) <|
      let c := { c with queue := rest }
      asserts.assert .notFull (!c.isFull N) <|
      let c :=
        { c with
          isTrySendDone := true
          isTryRecvReady := false
          isTrySendReady := false }
      .ok (some (front, c.afterRecv), c)

end Chan

end Gloc.Channel
