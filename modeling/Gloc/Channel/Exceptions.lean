import Gloc.Channel.Clients

/-!
# Exceptions in the monitor

A member function that constructs, moves or assigns an element calls
operations of `T`, and these may throw.  The definitions below follow the
member functions up to the expression that throws.  The destructor of the lock
then releases the mutex; nothing is rolled back, and nobody is notified.

What a move leaves behind of the value it moves from is a parameter.
-/

namespace Gloc.Channel

open Gloc.Transition

universe u v

variable {Thread : Type u} {T : Type v}

namespace Chan

/-- `_send` up to an exception of `emplace_back`, which has no effect then.
`none`: the thread parks and `emplace_back` is not reached. -/
def sendFirstThrows (asserts : Asserts) (N : Nat) (c : Chan Thread T) :
    Except Assertion (Option (Chan Thread T)) :=
  if c.mayEnqueue N then
    asserts.assert .sendDone c.isSendDone <|
    asserts.assert .trySendDone c.isTrySendDone <|
    asserts.assert .notFull (!c.isFull N) <|
    asserts.assert .notTryReady (!c.isTryReady) <|
    .ok (some c)
  else
    .ok none

/-- `try_send` up to an exception of `emplace_back`.  `none`: the value is refused
before. -/
def trySendThrows (asserts : Asserts) (N : Nat) (c : Chan Thread T) :
    Except Assertion (Option (Chan Thread T)) :=
  let c := { c with isTrySendReady := true }
  asserts.assert .notTryReady (!c.isTryReady) <|
  if !c.isSendDone || !c.isTrySendDone || c.isFull N ||
      (decide (0 = sizeSub N c.queue.length) && !c.isRecvReady) then
    .ok none
  else
    asserts.assert .sendDone c.isSendDone <|
    asserts.assert .trySendDone c.isTrySendDone <|
    asserts.assert .notFull (!c.isFull N) <|
    let c := { c with isTrySendDone := decide (0 < sizeSub N c.queue.length) }
    asserts.assert .receiverWaits (c.isTrySendDone || c.isRecvReady) <|
    .ok (some c)

/-- A blocking receive, from a check of the wait's condition on, up to an exception of
the assignment in `recv(T &)` or of `make_unique` in `recv_ptr`.  The front has been
moved to a local pair by then.  `recv` by value requires a `T` that does not throw. -/
def recvThrows [DecidableEq Thread] (moved : T → T) (form : RecvForm) (asserts : Asserts)
    (N : Nat) (me : Thread) (c : Chan Thread T) : Except Assertion (Option (Chan Thread T)) :=
  match c.queue with
  | [] => .ok none
  | front :: rest =>
      asserts.assert .notTryReady (!c.isTryReady) <|
      let c := { c with queue := (front.1, moved front.2) :: rest }
      asserts.assert .notOwnElement (!c.isFull N || decide (me ≠ front.1)) <|
      match form with
      | .value => .ok none
      | .reference | .pointer => .ok (some c)

def tryRecvPtrThrows [DecidableEq Thread] (moved : T → T) (asserts : Asserts) (N : Nat)
    (me : Thread) (c : Chan Thread T) : Except Assertion (Option (Chan Thread T)) :=
  let c := { c with isTryRecvReady := true }
  match c.queue with
  | [] => .ok none
  | front :: rest =>
      asserts.assert .fullHasSender (!c.isFull N || !c.isSendDone || !c.isTrySendDone) <|
      asserts.assert .oneKindOfSender (c.isTrySendDone || c.isSendDone) <|
      let c := { c with queue := (front.1, moved front.2) :: rest }
      asserts.assert .notOwnElement (!c.isFull N || decide (me ≠ front.1)) <|
      .ok (some c)

theorem trySend_of_throws (asserts : Asserts) (N : Nat) (me : Thread) (u : T)
    (c : Chan Thread T) :
    c.trySend asserts N me u = (c.trySendThrows asserts N).map fun
      | none => (false, { c with isTrySendReady := true })
      | some left => (true, { left with queue := left.queue ++ [(me, u)] }) := by
  rw [trySend_outcome]
  unfold trySendThrows
  simp only [Asserts.map_assert]
  congr 1
  split
  · rfl
  · simp only [Asserts.map_assert]
    rfl

theorem sendFirst_of_throws (asserts : Asserts) (N : Nat) (me : Thread) (u : T)
    (c : Chan Thread T) :
    c.sendFirst asserts N me u = (c.sendFirstThrows asserts N).map fun left =>
      left.map fun left =>
        { left with queue := left.queue ++ [(me, u)], isSendDone := false } := by
  unfold sendFirst sendFirstThrows
  split
  · simp only [Asserts.map_assert]
    rfl
  · rfl

end Chan

/-- What an exception in the stretch that a thread is about to execute leaves of the
data members, if operations of `T` are reached. -/
def stretchThrows [DecidableEq Thread] (moved : T → T) (asserts : Asserts) (N : Nat)
    (me : Thread) (c : Chan Thread T) : Phase T → Except Assertion (Option (Chan Thread T))
  | .sendFirst _ => c.sendFirstThrows asserts N
  | .recvFirst form => c.preBlockingRecv.recvThrows moved form asserts N me
  | .recvWoken form => c.recvThrows moved form asserts N me
  | .trySend _ => c.trySendThrows asserts N
  | .tryRecvPtr => c.tryRecvPtrThrows moved asserts N me
  | _ => .ok none

/-- What is left of the data members when a call exits by an exception. -/
inductive Interrupted (moved : T → T) (N : Nat) :
    Phase T → Chan Thread T → Chan Thread T → Prop where
  | send {u c} :
      c.mayEnqueue N = true →
      Interrupted moved N (.sendFirst u) c c
  | trySend {u c} :
      c.acceptsTry N →
      Interrupted moved N (.trySend u) c
        { c with isTrySendReady := true, isTrySendDone := decide (c.queue.length < N) }
  | recvFirst {form c front rest} :
      form ≠ .value →
      c.queue = front :: rest →
      Interrupted moved N (.recvFirst form) c
        { c with isRecvReady := true, queue := (front.1, moved front.2) :: rest }
  | recvWoken {form c front rest} :
      form ≠ .value →
      c.queue = front :: rest →
      Interrupted moved N (.recvWoken form) c
        { c with queue := (front.1, moved front.2) :: rest }
  | tryRecv {c front rest} :
      c.queue = front :: rest →
      Interrupted moved N .tryRecvPtr c
        { c with isTryRecvReady := true, queue := (front.1, moved front.2) :: rest }

section Inversion

variable [DecidableEq Thread] {moved : T → T} {asserts : Asserts} {N : Nat} {me : Thread}
  {c left : Chan Thread T}

omit [DecidableEq Thread] in
theorem Chan.trySendThrows_ok (me : Thread) (u : T)
    (reached : c.trySendThrows asserts N = .ok (some left)) :
    c.acceptsTry N ∧ left =
      { c with isTrySendReady := true, isTrySendDone := decide (c.queue.length < N) } := by
  have sent := c.trySend_of_throws asserts N me u
  rw [reached, trySend_eq] at sent
  obtain ⟨-, decided⟩ := (Asserts.assert_eq_ok_iff ..).mp sent
  split at decided
  next accepts =>
    refine ⟨accepts, ?_⟩
    simp only [Except.ok.injEq, Prod.mk.injEq, true_and, Chan.ext_iff, trySent,
      List.append_cancel_right_eq] at decided
    obtain ⟨queue, sendDone, trySendDone, recvReady, trySendReady, tryRecvReady⟩ := decided
    exact Chan.ext queue.symm sendDone.symm trySendDone.symm recvReady.symm trySendReady.symm
      tryRecvReady.symm
  next => cases decided

theorem Chan.recvThrows_ok {form : RecvForm}
    (reached : c.recvThrows moved form asserts N me = .ok (some left)) :
    form ≠ .value ∧ ∃ front rest, c.queue = front :: rest ∧
      left = { c with queue := (front.1, moved front.2) :: rest } := by
  unfold recvThrows at reached
  split at reached
  · cases reached
  next front rest nonempty =>
    simp only [Asserts.assert_eq_ok_iff] at reached
    obtain ⟨-, -, finished⟩ := reached
    cases form with
    | value => cases finished
    | reference => exact ⟨by decide, front, rest, nonempty, by cases finished; rfl⟩
    | pointer => exact ⟨by decide, front, rest, nonempty, by cases finished; rfl⟩

theorem stretchThrows_cases {phase : Phase T}
    (reached : stretchThrows moved asserts N me c phase = .ok (some left)) :
    Interrupted moved N phase c left := by
  cases phase with
  | sendFirst u =>
      simp only [stretchThrows, Chan.sendFirstThrows] at reached
      split at reached
      next may =>
        simp only [Asserts.assert_eq_ok_iff, Except.ok.injEq, Option.some.injEq] at reached
        obtain ⟨-, -, -, -, rfl⟩ := reached
        exact .send may
      next => cases reached
  | trySend u =>
      obtain ⟨accepts, rfl⟩ := Chan.trySendThrows_ok me u reached
      exact .trySend accepts
  | recvFirst form =>
      obtain ⟨throwing, front, rest, nonempty, rfl⟩ := Chan.recvThrows_ok reached
      exact .recvFirst throwing nonempty
  | recvWoken form =>
      obtain ⟨throwing, front, rest, nonempty, rfl⟩ := Chan.recvThrows_ok reached
      exact .recvWoken throwing nonempty
  | tryRecvPtr =>
      simp only [stretchThrows, Chan.tryRecvPtrThrows] at reached
      split at reached
      · cases reached
      next front rest nonempty =>
        simp only [Asserts.assert_eq_ok_iff, Except.ok.injEq, Option.some.injEq] at reached
        obtain ⟨-, -, -, rfl⟩ := reached
        exact .tryRecv nonempty
  | _ => cases reached

end Inversion

namespace System

variable [DecidableEq Thread]

/-- The call of a thread exits by an exception in the stretch that is to be executed
next.  `none`: no operation of `T` is reached. -/
def throws (moved : T → T) (asserts : Asserts) (N : Nat) (s : System Thread T)
    (thread : Thread) : Option (System Thread T) :=
  match stretchThrows moved asserts N thread s.chan (s.phase thread) with
  | .ok (some left) => some ({ s with chan := left }.setPhase thread .idle)
  | _ => none

theorem throws_cases {moved : T → T} {asserts : Asserts} {N : Nat} {s next : System Thread T}
    {thread : Thread} (thrown : s.throws moved asserts N thread = some next) :
    ∃ left, Interrupted moved N (s.phase thread) s.chan left ∧
      next = { s with chan := left }.setPhase thread .idle := by
  unfold throws at thrown
  split at thrown
  next left reached => exact ⟨left, stretchThrows_cases reached, (Option.some.inj thrown).symm⟩
  next => cases thrown

end System

inductive Occurrence (Thread : Type u) (T : Type v) where
  | regular (label : Label Thread T)
  | thrown (thread : Thread)

def Occurrence.isSpurious : Occurrence Thread T → Bool
  | .regular label => label.1.isSpurious
  | .thrown _ => false

def regularTrace (occurrences : List (Occurrence Thread T)) : List (Event Thread T) :=
  trace (occurrences.filterMap fun
    | .regular label => some label
    | .thrown _ => none)

theorem regularTrace_regular (past : List (Occurrence Thread T)) (action : Action Thread T)
    (event : Option (Event Thread T)) :
    regularTrace (past ++ [.regular (action, event)]) = regularTrace past ++ event.toList := by
  rw [regularTrace, List.filterMap_append, trace_append, ← regularTrace]
  exact congrArg (regularTrace past ++ ·) (trace_single action event)

theorem regularTrace_thrown (past : List (Occurrence Thread T)) (thread : Thread) :
    regularTrace (past ++ [.thrown thread]) = regularTrace past := by
  rw [regularTrace, List.filterMap_append, trace_append, ← regularTrace]
  exact List.append_nil _

end Gloc.Channel
