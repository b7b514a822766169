import Mathlib.Algebra.BigOperators.Group.Finset.Basic
import Gloc.Channel.Pipe

/-!
# A thread's calls and what became of them

What has been observed of a thread, the phase it is in and the calls it has
still to make change only when the thread itself acts or is woken up, so that
the induction over a run is done here once for all relations between the three.
Two such relations follow: for every program, the calls and the results agree;
and for a program of blocking calls, so do the values offered and the number of
receives made.
-/

namespace Gloc.Channel

open Gloc.Transition

universe u v

variable {Thread : Type u} {T : Type v}

def Op.receives : Op T → Bool
  | .recv _ => true
  | .send _ | .trySend _ | .tryRecvPtr => false

section Observations

variable [DecidableEq Thread]

def Event.calls (thread : Thread) : Event Thread T → Option (Op T)
  | .called other op => if other = thread then some op else none
  | .enqueued _ _ | .entered _ | .dequeued _ _ _ | .returned _ _ => none

def calls (thread : Thread) (trace : List (Event Thread T)) : List (Op T) :=
  trace.filterMap (Event.calls thread)

variable (thread : Thread) (early late : List (Event Thread T))

@[simp]
theorem calls_append :
    calls thread (early ++ late) = calls thread early ++ calls thread late := by
  simp [calls]

@[simp]
theorem calls_called (op : Op T) : calls thread [.called thread op] = [op] := by
  simp [calls, Event.calls]

variable {thread} {event : Event Thread T}

theorem calls_single_of_ne (different : event.thread ≠ thread) :
    calls thread [event] = [] := by
  cases event <;> simp_all [calls, Event.calls, Event.thread]

end Observations

/-- What is to be shown of a thread's past, its phase and its remaining calls
for a relation between them to hold throughout every run. -/
structure Tracks [DecidableEq Thread] (N : Nat) (thread : Thread) (program : List (Op T))
    (holds : List (Event Thread T) → Phase T → List (Op T) → Prop) : Prop where
  init : holds [] .idle program
  foreign : ∀ {past phase rest event}, holds past phase rest →
    Event.thread event ≠ thread → holds (past ++ [event]) phase rest
  wake : ∀ {past phase rest}, holds past phase rest → holds past phase.wake rest
  call : ∀ {past op rest}, holds past .idle (op :: rest) →
    holds (past ++ [.called thread op]) (.start op) rest
  critical : ∀ {past phase rest event next c after}, holds past phase rest →
    Critical N thread phase c event next after → holds (past ++ event.toList) next rest
  refuse : ∀ {past phase rest result}, holds past phase rest →
    phase.refused = some result → holds (past ++ [.returned thread result]) .idle rest
  notify : ∀ {past phase rest cv next result}, holds past phase rest →
    phase.notifies = some (cv, next, result) →
    holds (past ++ (result.map (.returned thread)).toList) next rest

namespace Tracks

variable [DecidableEq Thread] [Fintype Thread] {N : Nat} {thread : Thread}
  {program : List (Op T)} {holds : List (Event Thread T) → Phase T → List (Op T) → Prop}
  {past : List (Event Thread T)} {s t : System Thread T} {action : Action Thread T}
  {event : Option (Event Thread T)} {rest : Thread → List (Op T)}

theorem actor (tracks : Tracks N action.thread program holds)
    (before : holds past (s.phase action.thread) (rest action.thread))
    (follows : action.follows rest) (moved : System.Moves N s action event t) :
    holds (past ++ event.toList) (t.phase action.thread)
      (Clients.advance rest action action.thread) := by
  cases moved with
  | @call thread op standing =>
      obtain ⟨later, left⟩ := follows
      simp only [Action.thread, standing, left] at before
      simp only [Action.thread, Clients.advance, Function.update_self, System.setPhase_self,
        left, List.tail_cons]
      exact tracks.call before
  | lock stretch =>
      simp only [Action.thread, System.setPhase_self, Clients.advance]
      exact tracks.critical before stretch
  | refuse refused =>
      simp only [Action.thread, System.setPhase_self, Clients.advance]
      exact tracks.refuse before refused
  | notify due =>
      simp only [Action.thread, System.setPhase_self, Clients.advance]
      exact tracks.notify before due
  | spurious =>
      simp only [Action.thread, System.setPhase_self, Clients.advance, Option.toList_none,
        List.append_nil]
      exact tracks.wake before

omit [Fintype Thread] in
theorem bystander (tracks : Tracks N thread program holds) {phase next : Phase T}
    {later : List (Op T)} (before : holds past phase later)
    (others : ∀ seen ∈ event, seen.thread ≠ thread)
    (phases : next = phase ∨ next = phase.wake) :
    holds (past ++ event.toList) next later := by
  have same : holds past next later := by
    rcases phases with rfl | rfl
    · exact before
    · exact tracks.wake before
  cases event with
  | none => simpa using same
  | some seen => exact tracks.foreign same (others seen rfl)

theorem of_reaches {asserts : Asserts} {programs : Thread → List (Op T)}
    {labels : List (Label Thread T)} {c : Clients Thread T}
    (tracks : Tracks N thread (programs thread) holds)
    (run : Clients.Reaches asserts N programs labels c) :
    holds (trace labels) (c.system.phase thread) (c.rest thread) := by
  refine Execution.invariant
    (fun labels (c : Clients Thread T) =>
      holds (trace labels) (c.system.phase thread) (c.rest thread)) ?_ ?_ run
  · exact tracks.init
  · rintro labels middle ⟨action, event⟩ last - before ⟨follows, moved, advanced⟩
    have moved := System.Step.moves moved
    rw [trace_append, trace_single, advanced]
    by_cases acting : thread = action.thread
    · subst acting
      exact tracks.actor before follows moved
    · rw [Clients.advance_of_ne acting]
      exact tracks.bystander before (moved.event_of_ne acting) (moved.bystander acting)

end Tracks

/-- The calls a thread has made are the first of its program, and all of them but
the one in progress have returned. -/
structure Tally [DecidableEq Thread] (thread : Thread) (program : List (Op T))
    (past : List (Event Thread T)) (phase : Phase T) (rest : List (Op T)) : Prop where
  made : calls thread past ++ rest = program
  returned : (results thread past).length + phase.busy = (calls thread past).length

namespace Tally

variable [DecidableEq Thread] {thread : Thread} {program rest : List (Op T)}
  {past events : List (Event Thread T)} {phase next : Phase T}

theorem move (tally : Tally thread program past phase rest)
    (made : calls thread events = [])
    (returned : (results thread events).length + next.busy = phase.busy) :
    Tally thread program (past ++ events) next rest := by
  refine ⟨?_, ?_⟩
  · rw [calls_append, made, List.append_nil]
    exact tally.made
  · have counted := tally.returned
    rw [results_append, calls_append, made, List.append_nil, List.length_append]
    omega

theorem settle {result : Result T} (tally : Tally thread program past phase rest)
    (busy : phase.busy = 1) :
    Tally thread program (past ++ [.returned thread result]) .idle rest := by
  refine tally.move rfl ?_
  rw [results_returned, busy]
  rfl

theorem critical {N : Nat} {c after : Chan Thread T} {event : Option (Event Thread T)}
    (tally : Tally thread program past phase rest)
    (stretch : Critical N thread phase c event next after) :
    Tally thread program (past ++ event.toList) next rest := by
  cases stretch with
  | recvTake receiving =>
      rcases receiving with rfl | rfl <;> exact tally.move rfl rfl
  | tryRefuse => exact tally.settle rfl
  | tryRecvMiss => exact tally.settle rfl
  | _ => exact tally.move rfl rfl

theorem tracks (N : Nat) (thread : Thread) (program : List (Op T)) :
    Tracks N thread program (Tally thread program) where
  init := ⟨rfl, rfl⟩
  foreign tally different := by
    apply tally.move (calls_single_of_ne different)
    rw [results_single_of_ne different, List.length_nil, Nat.zero_add]
  wake tally := by
    have same := tally.move (show calls thread ([] : List (Event Thread T)) = [] from rfl)
      (show 0 + (Phase.wake _).busy = _ by rw [Phase.busy_wake, Nat.zero_add])
    simpa using same
  call {past op rest} tally := by
    refine ⟨?_, ?_⟩
    · rw [calls_append, calls_called, List.append_assoc]
      exact tally.made
    · have counted := tally.returned
      have busy : (Phase.start op).busy = 1 := by cases op <;> rfl
      have nothing : results thread [.called thread op] = [] := rfl
      rw [results_append, nothing, List.append_nil, calls_append, calls_called,
        List.length_append, busy, ← counted]
      rfl
  critical tally stretch := tally.critical stretch
  refuse {past phase rest result} tally refused := by
    cases phase <;> cases refused <;> exact tally.settle rfl
  notify {past phase rest cv next result} tally due := by
    cases phase with
    | sendNotify =>
        cases due
        exact tally.move rfl rfl
    | _ => cases due <;> exact tally.settle rfl

theorem of_reaches [Fintype Thread] {asserts : Asserts} {N : Nat}
    {programs : Thread → List (Op T)} {labels : List (Label Thread T)} {c : Clients Thread T}
    (run : Clients.Reaches asserts N programs labels c) (thread : Thread) :
    Tally thread (programs thread) (trace labels) (c.system.phase thread) (c.rest thread) :=
  (tracks N thread (programs thread)).of_reaches run

end Tally

/-- What a thread that makes blocking calls only has offered is in the queue, but
for the value it is about to enqueue; and each of its receives has taken an
element, but for the one that is still waiting. -/
structure Dealings [DecidableEq Thread] (thread : Thread) (past : List (Event Thread T))
    (phase : Phase T) (rest : List (Op T)) : Prop where
  blocking : ∀ op ∈ rest, op.blocking = true
  unselecting : phase.selecting = false
  offered : enqueuedBy thread past ++ phase.offers.toList =
    (calls thread past).filterMap Op.offered
  awaited : (dequeuedBy thread past).length + phase.awaiting.toNat =
    (calls thread past).countP Op.receives

namespace Dealings

variable [DecidableEq Thread] {thread : Thread} {program rest : List (Op T)}
  {past events : List (Event Thread T)} {phase next : Phase T}

theorem move (dealings : Dealings thread past phase rest) (unselecting : next.selecting = false)
    (made : calls thread events = [])
    (offered : enqueuedBy thread events ++ next.offers.toList = phase.offers.toList)
    (awaited : (dequeuedBy thread events).length + next.awaiting.toNat =
      phase.awaiting.toNat) : Dealings thread (past ++ events) next rest := by
  refine ⟨dealings.blocking, unselecting, ?_, ?_⟩
  · rw [enqueuedBy_append, calls_append, made, List.append_nil, List.append_assoc, offered]
    exact dealings.offered
  · have counted := dealings.awaited
    rw [dequeuedBy_append, calls_append, made, List.append_nil, List.length_append]
    omega

theorem critical {N : Nat} {c after : Chan Thread T} {event : Option (Event Thread T)}
    (dealings : Dealings thread past phase rest)
    (stretch : Critical N thread phase c event next after) :
    Dealings thread (past ++ event.toList) next rest := by
  have unselecting := dealings.unselecting
  cases stretch with
  | sendEnqueue =>
      exact dealings.move rfl rfl (by rw [Option.toList_some, enqueuedBy_enqueued]; rfl) rfl
  | recvTake receiving =>
      rcases receiving with rfl | rfl <;>
        exact dealings.move rfl rfl rfl (by rw [Option.toList_some, dequeuedBy_dequeued]; rfl)
  | sendPark | sendHold | sendFinish | recvEnter | recvRepark =>
      exact dealings.move rfl rfl rfl rfl
  | tryRefuse | tryEnqueue | tryRecvMiss | tryRecvTake => cases unselecting

theorem tracks (N : Nat) (thread : Thread) (blocking : ∀ op ∈ program, op.blocking = true) :
    Tracks N thread program (Dealings thread) where
  init := ⟨blocking, rfl, rfl, rfl⟩
  foreign dealings different := by
    apply dealings.move dealings.unselecting (calls_single_of_ne different)
    · rw [enqueuedBy_single_of_ne different, List.nil_append]
    · rw [dequeuedBy_single_of_ne different, List.length_nil, Nat.zero_add]
  wake dealings := by
    have same := dealings.move ((Phase.selecting_wake _).trans dealings.unselecting)
      (show calls thread ([] : List (Event Thread T)) = [] from rfl)
      (show [] ++ (Phase.wake _).offers.toList = _ by rw [Phase.offers_wake, List.nil_append])
      (show 0 + (Phase.wake _).awaiting.toNat = _ by rw [Phase.awaiting_wake, Nat.zero_add])
    simpa using same
  call {past op rest} dealings := by
    have offered := dealings.offered
    have awaited := dealings.awaited
    have nothing : enqueuedBy thread [.called thread op] = [] := rfl
    have taken : dequeuedBy thread [.called thread op] = [] := rfl
    refine ⟨fun op later => dealings.blocking op (List.mem_cons_of_mem _ later), ?_, ?_, ?_⟩
    · have permitted := dealings.blocking op List.mem_cons_self
      cases op with
      | send | recv => rfl
      | trySend | tryRecvPtr => cases permitted
    · rw [enqueuedBy_append, nothing, calls_append, calls_called, List.filterMap_append,
        ← offered]
      cases op <;> simp [Phase.start, Phase.offers, Op.offered]
    · rw [dequeuedBy_append, taken, calls_append, calls_called, List.countP_append, ← awaited,
        List.append_nil]
      have permitted := dealings.blocking op List.mem_cons_self
      cases op with
      | send | recv => rfl
      | trySend | tryRecvPtr => cases permitted
  critical dealings stretch := dealings.critical stretch
  refuse {past phase rest result} dealings refused := by
    have unselecting := dealings.unselecting
    cases phase <;> cases refused <;> cases unselecting
  notify {past phase rest cv next result} dealings due := by
    have unselecting := dealings.unselecting
    cases phase with
    | sendNotify | sendReturn | recvReturn =>
        cases due
        exact dealings.move rfl rfl rfl rfl
    | trySendReturn | tryRecvReturn => cases unselecting
    | _ => cases due

theorem of_reaches [Fintype Thread] {asserts : Asserts} {N : Nat}
    {programs : Thread → List (Op T)} {labels : List (Label Thread T)} {c : Clients Thread T}
    (blocking : AllBlocking programs) (run : Clients.Reaches asserts N programs labels c)
    (thread : Thread) :
    Dealings thread (trace labels) (c.system.phase thread) (c.rest thread) :=
  (tracks N thread (blocking thread)).of_reaches run

end Dealings

end Gloc.Channel
