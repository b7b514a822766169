import Gloc.Channel.Exceptions

/-!
# A `try_send` that throws

`try_send` clears `m_is_try_send_done` for an element that makes the queue too
long, and only then constructs the element.  If that throws while fewer than `N`
elements are queued then there is nothing to undo.  Otherwise the flag stays
cleared for an element that does not exist, and nobody will ever set it again.
-/

namespace Gloc.Channel

open Gloc.Transition

universe u v

variable {Thread : Type u} {T : Type v}

namespace System

variable [DecidableEq Thread] {moved : T → T} {asserts : Asserts} {N : Nat}
  {s next : System Thread T} {thread : Thread} {u : T}

theorem throws_trySend (standing : s.phase thread = .trySend u)
    (thrown : s.throws moved asserts N thread = some next) :
    s.chan.acceptsTry N ∧
      next = { s with
        chan :=
          { s.chan with
            isTrySendReady := true
            isTrySendDone := decide (s.chan.queue.length < N) } }.setPhase thread .idle := by
  obtain ⟨left, interrupted, rfl⟩ := throws_cases thrown
  rw [standing] at interrupted
  cases interrupted with
  | trySend accepts => exact ⟨accepts, rfl⟩

/-- What senders and receivers go by is as before. -/
def Undisturbed (s next : System Thread T) : Prop :=
  next.chan.queue = s.chan.queue ∧ next.chan.isSendDone = s.chan.isSendDone ∧
    next.chan.isTrySendDone = s.chan.isTrySendDone

theorem undisturbed_iff (standing : s.phase thread = .trySend u)
    (thrown : s.throws moved asserts N thread = some next) :
    Undisturbed s next ↔ s.chan.queue.length < N := by
  obtain ⟨⟨sendDone, trySendDone, room, -⟩, rfl⟩ := throws_trySend standing thrown
  simp [Undisturbed, trySendDone]

end System

/-- Only a `try_send` throws, and only while fewer than `N` elements are queued. -/
def ThrowsEarly (N : Nat) (s : System Thread T) (thread : Thread) : Prop :=
  (∃ u, s.phase thread = .trySend u) ∧ s.chan.queue.length < N

namespace Clients

variable [DecidableEq Thread] [Fintype Thread]

/-- A step of clients whose calls may exit by an exception where that is permitted. -/
def StepOrThrow (permits : System Thread T → Thread → Prop) (moved : T → T)
    (asserts : Asserts) (N : Nat) (c : Clients Thread T) :
    Occurrence Thread T → Clients Thread T → Prop
  | .regular label, next => Step asserts N c label next
  | .thrown thread, next => permits c.system thread ∧
      c.system.throws moved asserts N thread = some next.system ∧ next.rest = c.rest

abbrev ReachesThrowing (permits : System Thread T → Thread → Prop) (moved : T → T)
    (asserts : Asserts) (N : Nat) (programs : Thread → List (Op T)) :
    List (Occurrence Thread T) → Clients Thread T → Prop :=
  Execution (StepOrThrow permits moved asserts N) (init programs)

variable {moved : T → T} {asserts : Asserts} {N : Nat} {c next : Clients Thread T}

theorem regular (permits : System Thread T → Thread → Prop) (moved : T → T)
    {labels : List (Label Thread T)} (run : Execution (Step asserts N) c labels next) :
    Execution (StepOrThrow permits moved asserts N) c (labels.map .regular) next :=
  run.relabel Occurrence.regular id

/-- A `try_send` that throws early leaves everything as it was, but that it has been
called. -/
theorem throwsEarly_kept {thread : Thread}
    (taken : StepOrThrow (ThrowsEarly N) moved asserts N c (.thrown thread) next)
    (protocol : Protocol N c.system) (signalled : Signalled N c.system) :
    Protocol N next.system ∧ Signalled N next.system := by
  obtain ⟨⟨⟨u, standing⟩, room⟩, thrown, -⟩ := taken
  obtain ⟨queue, sendDone, trySendDone⟩ := (System.undisturbed_iff standing thrown).mpr room
  obtain ⟨accepts, same⟩ := System.throws_trySend standing thrown
  rw [same] at queue sendDone trySendDone ⊢
  constructor
  · apply protocol.congr queue sendDone trySendDone
    apply System.kind_setPhase (s := { c.system with chan := _ }) Phase.betweenScopes
    rw [standing]
    rfl
  · apply signalled.move
    · rintro cv ⟨⟩
    · simp [standing, Phase.credit, Phase.owes, Phase.receiving, Phase.notifies]
    · simp [standing, Phase.owes, Phase.notifies]
    · simp [standing, Phase.urges, Phase.owes, Phase.notifies]
    · exact queue
    · intro _
      exact (Chan.mayEnqueue_eq_true_iff ..).mpr ⟨accepts.1, accepts.2.1, accepts.2.2.1⟩

theorem invariants {programs : Thread → List (Op T)} {occurrences : List (Occurrence Thread T)}
    (run : ReachesThrowing (ThrowsEarly N) moved asserts N programs occurrences c) :
    Protocol N c.system ∧ Signalled N c.system := by
  refine Execution.invariant (fun _ c => Protocol N c.system ∧ Signalled N c.system)
    ⟨Protocol.init, Signalled.init⟩ ?_ run
  rintro _ _ (label | thread) _ _ ⟨protocol, signalled⟩ taken
  · obtain ⟨-, regular, -⟩ := taken
    exact ⟨protocol.step regular.moves, signalled.step protocol regular.moves⟩
  · exact throwsEarly_kept taken protocol signalled

theorem workload_throws {thread : Thread}
    (taken : StepOrThrow (ThrowsEarly N) moved asserts N c (.thrown thread) next) :
    next.workload < c.workload := by
  obtain ⟨⟨⟨u, standing⟩, -⟩, thrown, rest⟩ := taken
  obtain ⟨-, same⟩ := System.throws_trySend standing thrown
  have phases := total_update Phase.weight c.system.phase thread .idle
  rw [standing] at phases
  rw [workload, workload, rest, same]
  simp only [System.setPhase_phase, Phase.weight] at phases ⊢
  omega

theorem inevitable_throwing {goal : Clients Thread T → Prop}
    (atRest : ∀ {c : Clients Thread T}, Protocol N c.system → Signalled N c.system →
      c.Quiescent .compiledOut N → goal c)
    (protocol : Protocol N c.system) (signalled : Signalled N c.system) (budget : Nat) :
    Inevitable (StepOrThrow (ThrowsEarly N) moved .compiledOut N)
      (fun occurrence => occurrence.isSpurious = true) goal budget c := by
  refine Inevitable.of_variant
    (fun c : Clients Thread T => Protocol N c.system ∧ Signalled N c.system) workload
    ?_ ?_ ?_ budget ⟨protocol, signalled⟩
  · rintro _ (label | thread) _ ⟨protocol, signalled⟩ taken
    · obtain ⟨-, regular, -⟩ := taken
      exact ⟨protocol.step regular.moves, signalled.step protocol regular.moves⟩
    · exact throwsEarly_kept taken protocol signalled
  · rintro _ (label | thread) _ - caused taken
    · exact Step.workload_lt taken caused
    · exact workload_throws taken
  · rintro c ⟨protocol, signalled⟩ short
    obtain ⟨label, next, caused, taken⟩ := step_of_not_quiescent
      (fun quiescent => short (atRest protocol signalled quiescent)) (safe_compiledOut c)
    exact ⟨.regular label, next, caused, taken⟩

end Clients

/-- A sender and a receiver wait, each for the other, and nothing will happen any more. -/
def Clients.Deadlocked [DecidableEq Thread] [Fintype Thread] (asserts : Asserts) (N : Nat)
    (c : Clients Thread T) : Prop :=
  c.Quiescent asserts N ∧ (∃ receiver, (c.system.phase receiver).waitsOn .recv) ∧
    ∃ sender, (c.system.phase sender).insideSend = true

theorem Clients.Quiescent.not_deadlocked [DecidableEq Thread] [Fintype Thread]
    {asserts : Asserts} {N : Nat} {c : Clients Thread T} (quiescent : c.Quiescent asserts N)
    (protocol : Protocol N c.system) (signalled : Signalled N c.system) :
    ¬ c.Deadlocked asserts N := by
  rintro ⟨-, ⟨receiver, starves⟩, sender, inside⟩
  have empty := quiescent.receiver_starves signalled starves
  have blocked : (c.system.phase sender).waitsOn .sendBegin ∨
      (c.system.phase sender).waitsOn .sendEnd := by
    rcases quiescent.ended_or_parked sender with ⟨standing, -⟩ | ⟨cv, parked⟩
    · rw [standing] at inside
      cases inside
    · generalize c.system.phase sender = phase at inside parked ⊢
      cases phase <;> cases parked <;> first | exact .inl rfl | exact .inr rfl | cases inside
  have full := quiescent.sender_blocked protocol signalled blocked
  simp [empty] at full

/-- A `try_send` that throws leaves the channel as it was if and only if fewer than `N`
elements are queued.  In a run in which none throws otherwise the flag is cleared
only while `N + 1` elements are queued, and whatever happens, senders and receivers
never come to wait for each other. -/
theorem throwingTrySend_undisturbed [DecidableEq Thread] [Fintype Thread] {N : Nat}
    {moved : T → T} {programs : Thread → List (Op T)}
    {occurrences : List (Occurrence Thread T)} {c : Clients Thread T}
    (run : Clients.ReachesThrowing (ThrowsEarly N) moved .compiledOut N programs occurrences c) :
    (∀ thread u next, c.system.phase thread = .trySend u →
      c.system.throws moved .compiledOut N thread = some next →
      (System.Undisturbed c.system next ↔ c.system.chan.queue.length < N)) ∧
    (c.system.chan.isTrySendDone = false → c.system.chan.queue.length = N + 1) ∧
    ¬ c.Deadlocked .compiledOut N ∧
    ∀ budget, Inevitable (Clients.StepOrThrow (ThrowsEarly N) moved .compiledOut N)
      (fun occurrence => occurrence.isSpurious = true)
      (fun c => c.Quiescent .compiledOut N ∧ ¬ c.Deadlocked .compiledOut N) budget c := by
  obtain ⟨protocol, signalled⟩ := Clients.invariants run
  refine ⟨fun thread u next standing thrown => System.undisturbed_iff standing thrown,
    protocol.tryFull, fun deadlocked => ?_, fun budget => ?_⟩
  · exact deadlocked.1.not_deadlocked protocol signalled deadlocked
  · apply Clients.inevitable_throwing _ protocol signalled
    intro c protocol signalled quiescent
    exact ⟨quiescent, quiescent.not_deadlocked protocol signalled⟩

/-- A select sends into a buffer, and the construction of the element throws. -/
theorem throwingTrySend_undisturbed_buffered :
    ∃ (occurrences : List (Occurrence Bool Nat)) (c : Clients Bool Nat),
      Clients.ReachesThrowing (ThrowsEarly 1) id .compiledOut 1
        (fun thread => if thread then [.recv .value] else [.trySend 7, .send 9]) occurrences c ∧
      (∃ thread, Occurrence.thrown thread ∈ occurrences) ∧
      Inevitable (Clients.StepOrThrow (ThrowsEarly 1) id .compiledOut 1)
        (fun occurrence => occurrence.isSpurious = true)
        (fun c => c.Quiescent .compiledOut 1 ∧ ¬ c.Deadlocked .compiledOut 1) 0 c := by
  have called := Clients.execution_of_replay .compiledOut 1
    (.init fun thread : Bool => if thread then [.recv .value] else [Op.trySend 7, .send 9])
    [.call false (.trySend 7)]
    (fun thread => if thread then [.recv .value] else [.send 9]) rfl (by decide)
  have run := (Clients.regular (ThrowsEarly 1) id called).snoc
    (show Clients.StepOrThrow (ThrowsEarly 1) id .compiledOut 1 _ (.thrown false) ⟨_, _⟩ from
      ⟨⟨⟨7, rfl⟩, by decide⟩, rfl, rfl⟩)
  exact ⟨_, _, run, ⟨false, by simp⟩, (throwingTrySend_undisturbed run).2.2.2 0⟩

/-- A receiver waits on a synchronous channel when a select sends to it and the
construction of the element throws: the next sender and the receiver wait for each
other forever. -/
theorem thrown_and_deadlocked :
    ∃ (occurrences : List (Occurrence (Fin 3) Nat)) (c : Clients (Fin 3) Nat),
      Clients.ReachesThrowing (fun _ _ => True) id .compiledOut 0
        (fun thread => if thread = 0 then [.recv .value]
          else if thread = 1 then [.trySend 7] else [.send 9]) occurrences c ∧
      c.system.chan.queue = [] ∧ c.system.chan.isTrySendDone = false ∧
      c.Deadlocked .compiledOut 0 := by
  have waiting := Clients.execution_of_replay .compiledOut 0
    (.init fun thread : Fin 3 => if thread = 0 then [.recv .value]
      else if thread = 1 then [.trySend 7] else [Op.send 9])
    [.call 0 (.recv .value), .lock 0, .call 1 (.trySend 7)]
    (fun thread => if thread = 2 then [.send 9] else []) rfl (by decide)
  have thrown := (Clients.regular (fun _ _ => True) id waiting).snoc
    (show Clients.StepOrThrow (fun _ _ => True) id .compiledOut 0 _ (.thrown 1) ⟨_, _⟩ from
      ⟨trivial, rfl, rfl⟩)
  have run := thrown.append (Clients.regular (fun _ _ => True) id
    (Clients.execution_of_replay .compiledOut 0 _ [.call 2 (.send 9), .lock 2] (fun _ => []) rfl
      (by decide)))
  obtain ⟨occurrences, c, run, queue, cleared, receiver, ended, sender⟩ :
      ∃ (occurrences : List (Occurrence (Fin 3) Nat)) (c : Clients (Fin 3) Nat),
        Clients.ReachesThrowing (fun _ _ => True) id .compiledOut 0 _ occurrences c ∧
        c.system.chan.queue = [] ∧ c.system.chan.isTrySendDone = false ∧
        c.system.phase 0 = .recvWait .value ∧ (c.system.phase 1 = .idle ∧ c.rest 1 = []) ∧
        c.system.phase 2 = .sendBeginWait 9 :=
    ⟨_, _, run, rfl, rfl, rfl, ⟨rfl, rfl⟩, rfl⟩
  refine ⟨occurrences, c, run, queue, cleared, ?_, ⟨0, ?_⟩, ⟨2, ?_⟩⟩
  · apply Clients.quiescent_of_ended_or_parked
    intro thread
    have only : ∀ thread : Fin 3, thread = 0 ∨ thread = 1 ∨ thread = 2 := by decide
    rcases only thread with rfl | rfl | rfl
    · exact .inr ⟨.recv, congrArg Phase.parkedOn receiver⟩
    · exact .inl ended
    · exact .inr ⟨.sendBegin, congrArg Phase.parkedOn sender⟩
  · exact congrArg Phase.parkedOn receiver
  · rw [sender]
    rfl

end Gloc.Channel
