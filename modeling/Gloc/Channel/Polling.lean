import Gloc.Channel.Accounts
import Gloc.Channel.Attempts
import Gloc.Channel.Choices
import Gloc.Channel.Readiness

/-!
# Threads that wait in a select

A thread that waits in a `select` with one case makes the same attempt again and
again until it succeeds.  Thus every call transfers one value in the end, whether
it blocks or polls; but while a blocking call is told when it can go on, a failed
attempt leaves nothing behind by which another one could notice it.
-/

namespace Gloc.Channel

open Gloc.Transition

universe u v

/-- `wait` with one case makes this attempt until it succeeds. -/
theorem wait_single {World : Type u} (tryFunction : TryFunction World)
    (others : Nat → World → World) (random : UInt32) (world : World) (iterations : Nat) :
    (∃ trial, wait [tryFunction] others random world iterations = .returned trial ∧
      ∃ failures < iterations,
        trial.tried = List.replicate failures (0, false) ++ [(0, true)]) ∨
    ∃ i trial, wait [tryFunction] others random world iterations = .trying i trial ∧
      trial.tried = List.replicate iterations (0, false) := by
  induction iterations with
  | zero => exact .inr ⟨_, _, rfl, rfl⟩
  | succ iterations inductionHypothesis =>
      rcases inductionHypothesis with ⟨trial, returned, failures, below, tried⟩ |
        ⟨i, trial, trying, tried⟩
      · refine .inl ⟨trial, ?_, failures, Nat.lt_succ_of_lt below, tried⟩
        rw [wait_succ, returned]
        rfl
      · rw [wait_succ, trying, iterate, if_neg (by simp), List.length_singleton, Nat.mod_one,
          tryAt, List.getElem?_cons_zero, Option.map_some]
        obtain ⟨succeeded, after⟩ := tryFunction (others trial.tried.length trial.world)
        cases succeeded with
        | true =>
            refine .inl ⟨_, rfl, iterations, Nat.lt_succ_self _, ?_⟩
            rw [tried]
        | false =>
            refine .inr ⟨_, _, rfl, ?_⟩
            rw [tried, List.replicate_succ']

variable {Thread : Type u} {T : Type v}

/-- The operation that a thread is in and that has not transferred a value yet -/
def Phase.due : Phase T → Option (Op T)
  | .sendFirst u | .sendBeginWait u => some (.send u)
  | .recvFirst form | .recvWait form | .recvWoken form => some (.recv form)
  | .trySend u => some (.trySend u)
  | .tryRecvPtr => some .tryRecvPtr
  | _ => none

@[simp]
theorem Phase.due_wake (phase : Phase T) : phase.wake.due = phase.due := by
  cases phase <;> rfl

@[simp]
theorem Phase.due_start (op : Op T) : (Phase.start op).due = some op := by
  cases op <;> rfl

def Result.fails : Result T → Bool
  | .trySent false | .tryReceived none => true
  | _ => false

def Event.fails : Event Thread T → Bool
  | .returned _ result => result.fails
  | _ => false

namespace Clients

variable [DecidableEq Thread]

/-- A failed attempt is the next call once more: `wait` goes on to the next case, which is
the only one. -/
def retry (s : System Thread T) (rest : Thread → List (Op T)) :
    Option (Event Thread T) → Thread → List (Op T)
  | some (.returned thread result) =>
      if result.fails then
        Function.update rest thread ((s.phase thread).due.toList ++ rest thread)
      else rest
  | _ => rest

variable [Fintype Thread]

/-- Clients that repeat what has failed -/
def Polls (asserts : Asserts) (N : Nat) (c : Clients Thread T) (label : Label Thread T)
    (next : Clients Thread T) : Prop :=
  label.1.follows c.rest ∧ System.Step asserts N c.system label next.system ∧
    next.rest = retry c.system (advance c.rest label.1) label.2

abbrev PollingReaches (asserts : Asserts) (N : Nat) (programs : Thread → List (Op T)) :
    List (Label Thread T) → Clients Thread T → Prop :=
  Execution (Polls asserts N) (init programs)

/-- What does not bring a thread further: a failed attempt, or a spurious wake-up -/
def Vain (label : Label Thread T) : Prop :=
  label.1.isSpurious = true ∨ ∃ event ∈ label.2, event.fails = true

variable {asserts : Asserts} {N : Nat} {c next : Clients Thread T} {label : Label Thread T}
  {programs : Thread → List (Op T)} {labels : List (Label Thread T)}

theorem PollingReaches.system (run : PollingReaches asserts N programs labels c) :
    System.Reaches asserts N labels c.system :=
  Execution.project Clients.system (fun taken => taken.2.1) run

omit [Fintype Thread] in
theorem retry_of_not_fails {s : System Thread T} {rest : Thread → List (Op T)}
    {event : Option (Event Thread T)} (succeeds : ∀ seen ∈ event, seen.fails = false) :
    retry s rest event = rest := by
  cases event with
  | none => rfl
  | some seen =>
      cases seen with
      | returned thread result =>
          have fine : result.fails = false := succeeds _ rfl
          simp [retry, fine]
      | _ => rfl

omit [Fintype Thread] in
theorem retry_self {s : System Thread T} {rest : Thread → List (Op T)}
    {event : Option (Event Thread T)} {thread : Thread}
    (own : ∀ seen ∈ event, seen.thread = thread) :
    retry s rest event thread =
      if event.any Event.fails then (s.phase thread).due.toList ++ rest thread
      else rest thread := by
  cases event with
  | none => rfl
  | some seen =>
      cases seen with
      | returned other result =>
          have same : other = thread := own _ rfl
          subst same
          rw [retry, Option.any_some, Event.fails]
          cases result.fails with
          | true => exact Function.update_self ..
          | false => rfl
      | _ => rfl

omit [Fintype Thread] in
theorem retry_of_ne {s : System Thread T} {rest : Thread → List (Op T)}
    {event : Option (Event Thread T)} {thread : Thread}
    (others : ∀ seen ∈ event, seen.thread ≠ thread) :
    retry s rest event thread = rest thread := by
  cases event with
  | none => rfl
  | some seen =>
      cases seen with
      | returned other result =>
          have different : thread ≠ other := Ne.symm (others _ rfl)
          rw [retry]
          split
          · exact Function.update_of_ne different ..
          · rfl
      | _ => rfl

omit [Fintype Thread] in
theorem retry_append (s : System Thread T) (rest more : Thread → List (Op T))
    (event : Option (Event Thread T)) :
    retry s (fun thread => rest thread ++ more thread) event =
      fun thread => retry s rest event thread ++ more thread := by
  cases event with
  | none => rfl
  | some seen =>
      cases seen with
      | returned other result =>
          rw [retry, retry]
          cases result.fails with
          | false => rfl
          | true =>
              funext thread
              by_cases same : thread = other
              · subst same
                simp only [if_true, Function.update_self, List.append_assoc]
              · simp only [if_true, Function.update_of_ne same]
      | _ => rfl

theorem Polls.step (taken : Polls asserts N c label next) (furthers : ¬ Vain label) :
    Step asserts N c label next := by
  obtain ⟨follows, moved, resumed⟩ := taken
  refine ⟨follows, moved, ?_⟩
  rw [resumed, retry_of_not_fails]
  intro seen observed
  by_contra failed
  exact furthers (.inr ⟨seen, observed, by simpa using failed⟩)

end Clients

def Op.role : Op T → End
  | .send _ | .trySend _ => .sender
  | .recv _ | .tryRecvPtr => .receiver

def Phase.role : Phase T → Option End
  | .idle => none
  | .recvFirst _ | .recvWait _ | .recvWoken _ | .recvReturn _ _ _ | .tryRecvPtr
  | .tryRecvReturn _ _ => some .receiver
  | _ => some .sender

@[simp]
theorem Phase.role_wake (phase : Phase T) : phase.wake.role = phase.role := by
  cases phase <;> rfl

@[simp]
theorem Phase.role_start (op : Op T) : (Phase.start op).role = some op.role := by
  cases op <;> rfl

/-- A thread that keeps to its end of the channel, and has transferred a value for every call
of its program but the one that it is at and those that are left. -/
structure Persists (thread : End) (program : List (Op T)) (past : List (Event End T))
    (phase : Phase T) (rest : List (Op T)) : Prop where
  role : ∀ role ∈ phase.role, role = thread
  progress : ∃ done, program = done ++ (phase.due.toList ++ rest) ∧
    enqueuedBy thread past = done.filterMap Op.offered ∧
    (dequeuedBy thread past).length = done.countP fun op => op.offered.isNone

namespace Persists

variable {thread : End} {program rest later : List (Op T)} {past events : List (Event End T)}
  {phase next : Phase T}

theorem init : Persists thread program [] .idle program where
  role := by simp [Phase.role]
  progress := ⟨[], rfl, rfl, rfl⟩

theorem stay (persists : Persists thread program past phase rest)
    (role : ∀ role ∈ next.role, role = thread)
    (left : next.due.toList ++ later = phase.due.toList ++ rest)
    (enqueues : enqueuedBy thread events = []) (takes : dequeuedBy thread events = []) :
    Persists thread program (past ++ events) next later := by
  obtain ⟨done, whole, offered, taken⟩ := persists.progress
  refine ⟨role, done, ?_, ?_, ?_⟩
  · rw [left, whole]
  · rw [enqueuedBy_append, enqueues, List.append_nil, offered]
  · rw [dequeuedBy_append, takes, List.append_nil, taken]

theorem transfer (persists : Persists thread program past phase rest) {op : Op T}
    (due : phase.due = some op) (role : ∀ role ∈ next.role, role = thread)
    (settled : next.due = none) (enqueues : enqueuedBy thread events = op.offered.toList)
    (takes : (dequeuedBy thread events).length = if op.offered.isNone then 1 else 0) :
    Persists thread program (past ++ events) next rest := by
  obtain ⟨done, whole, offered, taken⟩ := persists.progress
  refine ⟨role, done ++ [op], ?_, ?_, ?_⟩
  · rw [whole, due, settled]
    simp
  · rw [enqueuedBy_append, enqueues, offered, List.filterMap_append]
    cases op <;> rfl
  · rw [dequeuedBy_append, List.length_append, taken, takes, List.countP_append,
      List.countP_singleton]

theorem bystander {event : Option (Event End T)}
    (persists : Persists thread program past phase rest)
    (others : ∀ seen ∈ event, seen.thread ≠ thread)
    (phases : next = phase ∨ next = phase.wake) :
    Persists thread program (past ++ event.toList) next rest := by
  have same : next.role = phase.role ∧ next.due = phase.due := by
    rcases phases with rfl | rfl <;> simp
  refine persists.stay (by rw [same.1]; exact persists.role) (by rw [same.2]) ?_ ?_
  · cases event with
    | none => rfl
    | some seen => exact enqueuedBy_single_of_ne (others seen rfl)
  · cases event with
    | none => rfl
    | some seen => exact dequeuedBy_single_of_ne (others seen rfl)

theorem critical {N : Nat} {c after : Chan End T} {event : Option (Event End T)}
    (persists : Persists thread program past phase rest)
    (stretch : Critical N thread phase c event next after) :
    Persists thread program (past ++ event.toList) next
      (if event.any Event.fails then phase.due.toList ++ rest else rest) := by
  have role := persists.role
  cases stretch with
  | sendEnqueue =>
      exact persists.transfer rfl role rfl (by simp [Op.offered]) rfl
  | tryEnqueue =>
      exact persists.transfer rfl role rfl (by simp [Op.offered]) rfl
  | recvTake receiving =>
      rcases receiving with rfl | rfl <;>
        exact persists.transfer rfl role rfl rfl (by simp [Op.offered])
  | tryRecvTake =>
      exact persists.transfer rfl role rfl rfl (by simp [Op.offered])
  | tryRefuse =>
      exact persists.stay (by simp [Phase.role]) rfl rfl rfl
  | tryRecvMiss =>
      exact persists.stay (by simp [Phase.role]) rfl rfl rfl
  | _ =>
      exact persists.stay role rfl rfl rfl

theorem actor {asserts : Asserts} {N : Nat} {c next : Clients End T}
    {action : Action End T} {event : Option (Event End T)}
    (keeps : ∀ op ∈ program, op.role = action.thread)
    (persists : Persists action.thread program past (c.system.phase action.thread)
      (c.rest action.thread))
    (taken : Clients.Polls asserts N c (action, event) next) :
    Persists action.thread program (past ++ event.toList) (next.system.phase action.thread)
      (next.rest action.thread) := by
  obtain ⟨follows, moved, resumed⟩ := taken
  have moved := System.Step.moves moved
  simp only at follows resumed
  rw [resumed, Clients.retry_self]
  · generalize next.system = after at moved
    cases moved with
    | @call thread op standing =>
        obtain ⟨later, left⟩ := follows
        simp only [Action.thread, standing, left] at persists keeps
        simp only [Action.thread, Clients.advance, Function.update_self,
          System.setPhase_self, left, List.tail_cons, Option.any_some, Event.fails]
        obtain ⟨done, whole, -⟩ := persists.progress
        refine persists.stay ?_ (by rw [Phase.due_start]; rfl) rfl rfl
        rw [Phase.role_start]
        rintro role ⟨⟩
        exact keeps op (by rw [whole]; simp [Phase.due])
    | lock stretch =>
        have kept := persists.critical stretch
        simp only [Action.thread, System.setPhase_self, Clients.advance] at kept ⊢
        exact kept
    | @refuse thread result refused =>
        simp only [Action.thread, System.setPhase_self, Clients.advance] at persists ⊢
        generalize c.system.phase thread = phase at persists refused
        cases phase <;> cases refused <;>
          exact persists.stay (by simp [Phase.role]) rfl rfl rfl
    | @notify thread woken cv phase result due =>
        simp only [Action.thread, System.setPhase_self, Clients.advance] at persists ⊢
        have role := persists.role
        generalize c.system.phase thread = current at persists due role
        cases current <;> cases due <;>
          first
          | exact persists.stay role rfl rfl rfl
          | exact persists.stay (by simp [Phase.role]) rfl rfl rfl
    | @spurious thread cv parked =>
        simp only [Action.thread, System.setPhase_self, Clients.advance] at persists ⊢
        exact persists.stay (by simpa using persists.role) (by simp) rfl rfl
  · intro seen observed
    rw [Option.mem_def] at observed
    subst observed
    exact moved.event_thread

end Persists

def transfers [DecidableEq Thread] (thread : Thread) (past : List (Event Thread T)) : Nat :=
  (enqueuedBy thread past).length + (dequeuedBy thread past).length

theorem transfers_append [DecidableEq Thread] (thread : Thread)
    (early late : List (Event Thread T)) :
    transfers thread (early ++ late) = transfers thread early + transfers thread late := by
  simp only [transfers, enqueuedBy_append, dequeuedBy_append, List.length_append]
  omega

namespace Persists

variable {thread : End} {program rest : List (Op T)} {past : List (Event End T)}
  {phase : Phase T}

/-- One value has been transferred for each of the calls that are through. -/
theorem through (persists : Persists thread program past phase rest) :
    ∃ done, program = done ++ (phase.due.toList ++ rest) ∧
      done.length = transfers thread past := by
  obtain ⟨done, whole, offered, taken⟩ := persists.progress
  refine ⟨done, whole, ?_⟩
  rw [transfers, offered, taken]
  clear whole offered taken
  induction done with
  | nil => rfl
  | cons first later inductionHypothesis =>
      rw [List.length_cons, inductionHypothesis, List.filterMap_cons, List.countP_cons]
      cases first <;> simp [Op.offered] <;> omega

theorem getElem_transfers {op : Op T} (persists : Persists thread program past phase rest)
    (due : phase.due = some op) : program[transfers thread past]? = some op := by
  obtain ⟨done, whole, length⟩ := persists.through
  rw [whole, ← length, List.getElem?_append_right (Nat.le_refl _), Nat.sub_self, due]
  rfl

theorem length_program (persists : Persists thread program past phase rest) :
    transfers thread past + phase.due.toList.length + rest.length = program.length := by
  obtain ⟨done, whole, length⟩ := persists.through
  rw [whole, List.length_append, List.length_append, length]
  omega

end Persists

def KeepEnds (programs : End → List (Op T)) : Prop :=
  ∀ thread, ∀ op ∈ programs thread, op.role = thread

namespace Clients

variable {asserts : Asserts} {N : Nat} {programs : End → List (Op T)}
  {labels : List (Label End T)} {c : Clients End T}

namespace PollingReaches

theorem persists (keeps : KeepEnds programs) (run : PollingReaches asserts N programs labels c)
    (thread : End) :
    Persists thread (programs thread) (trace labels) (c.system.phase thread)
      (c.rest thread) := by
  refine Execution.invariant (fun labels (c : Clients End T) =>
    Persists thread (programs thread) (trace labels) (c.system.phase thread) (c.rest thread))
    .init ?_ run
  rintro labels middle ⟨action, event⟩ last - persists taken
  rw [trace_append, trace_single]
  by_cases acting : thread = action.thread
  · subst acting
    exact persists.actor (keeps _) taken
  · obtain ⟨-, moved, resumed⟩ := taken
    have moved := System.Step.moves moved
    have others := moved.event_of_ne acting
    rw [resumed, retry_of_ne others, advance_of_ne acting]
    exact persists.bystander others (moved.bystander acting)

theorem receiver_enqueues (keeps : KeepEnds programs)
    (run : PollingReaches asserts N programs labels c) :
    enqueuedBy .receiver (trace labels) = [] := by
  obtain ⟨done, whole, offered, -⟩ := (run.persists keeps .receiver).progress
  rw [offered, List.filterMap_eq_nil_iff]
  intro op membership
  have role := keeps .receiver op (by rw [whole]; exact List.mem_append_left _ membership)
  cases op <;> first | rfl | cases role

theorem sender_dequeues (keeps : KeepEnds programs)
    (run : PollingReaches asserts N programs labels c) :
    dequeuedBy .sender (trace labels) = [] := by
  obtain ⟨done, whole, -, taken⟩ := (run.persists keeps .sender).progress
  rw [List.eq_nil_iff_length_eq_zero, taken, List.countP_eq_zero]
  intro op membership
  have role := keeps .sender op (by rw [whole]; exact List.mem_append_left _ membership)
  cases op <;> simp_all [Op.role, Op.offered]

theorem in_order (keeps : KeepEnds programs) (run : PollingReaches asserts N programs labels c) :
    dequeuedBy .receiver (trace labels) ++ c.system.chan.queue.map Prod.snd =
      enqueuedBy .sender (trace labels) := by
  have takers : ∀ other, other ≠ End.receiver → dequeuedBy other (trace labels) = [] := by
    rintro (_ | _) different
    · exact run.sender_dequeues keeps
    · exact absurd rfl different
  have givers : ∀ other, other ≠ End.sender → enqueuedBy other (trace labels) = [] := by
    rintro (_ | _) different
    · exact absurd rfl different
    · exact run.receiver_enqueues keeps
  rw [dequeuedBy_eq_map takers, enqueuedBy_eq_map givers, ← dequeued_append_queue run.system,
    List.map_append]

theorem transfers_add (keeps : KeepEnds programs)
    (run : PollingReaches asserts N programs labels c) :
    transfers .receiver (trace labels) + c.system.chan.queue.length =
      transfers .sender (trace labels) := by
  have order := congrArg List.length (run.in_order keeps)
  rw [List.length_append, List.length_map] at order
  rw [transfers, transfers, run.receiver_enqueues keeps, run.sender_dequeues keeps, ← order]
  simp

end PollingReaches

end Clients

/-- What the readiness flags of a channel between two such threads stand for: the receiver
waits; it polls for the value that comes next; and the sender has polled for one of the values
that have not been received. -/
structure Flagged (programs : End → List (Op T)) (past : List (Event End T))
    (s : System End T) : Prop where
  recvReady : (s.phase .receiver).insideRecv = true → s.chan.isRecvReady = true
  tryRecvReady : s.chan.isTryRecvReady = true →
    (programs .receiver)[transfers .receiver past]? = some .tryRecvPtr
  trySendReady : s.chan.isTrySendReady = true →
    ∃ i u, transfers .receiver past ≤ i ∧ i ≤ transfers .sender past ∧
      (programs .sender)[i]? = some (.trySend u)

namespace Flagged

variable {programs : End → List (Op T)} {past events : List (Event End T)} {s : System End T}

theorem init (programs : End → List (Op T)) : Flagged programs [] System.init where
  recvReady impossible := by cases impossible
  tryRecvReady impossible := by cases impossible
  trySendReady impossible := by cases impossible

theorem keep (flagged : Flagged programs past s) {next : System End T}
    (inside : (next.phase .receiver).insideRecv = true →
      (s.phase .receiver).insideRecv = true)
    (recvReady : next.chan.isRecvReady = s.chan.isRecvReady)
    (tryRecvReady : next.chan.isTryRecvReady = s.chan.isTryRecvReady)
    (trySendReady : next.chan.isTrySendReady = s.chan.isTrySendReady)
    (received : transfers .receiver events = 0) : Flagged programs (past ++ events) next where
  recvReady waits := recvReady.trans (flagged.recvReady (inside waits))
  tryRecvReady ready := by
    rw [transfers_append, received]
    exact flagged.tryRecvReady (tryRecvReady ▸ ready)
  trySendReady ready := by
    obtain ⟨i, u, low, high, polls⟩ := flagged.trySendReady (trySendReady ▸ ready)
    simp only [transfers_append, received]
    exact ⟨i, u, low, by omega, polls⟩

theorem critical {N : Nat} {thread : End} {rest : End → List (Op T)} {phase : Phase T}
    {c : Chan End T} {event : Option (Event End T)} (flagged : Flagged programs past s)
    (persists : Persists thread (programs thread) past (s.phase thread) (rest thread))
    (ahead : transfers .receiver past ≤ transfers .sender past)
    (stretch : Critical N thread (s.phase thread) s.chan event phase c) :
    Flagged programs (past ++ event.toList) ({ s with chan := c }.setPhase thread phase) := by
  have role := persists.role
  have due : ∀ {op}, (s.phase thread).due = some op →
      (programs thread)[transfers thread past]? = some op := persists.getElem_transfers
  generalize standing : s.phase thread = current at stretch role due
  generalize held : s.chan = d at stretch
  cases stretch with
  | sendPark | sendHold | sendFinish | sendEnqueue =>
      obtain rfl : End.sender = thread := role _ rfl
      exact flagged.keep id (by rw [held]; rfl) (by rw [held]; rfl) (by rw [held]; rfl) rfl
  | recvRepark =>
      obtain rfl : End.receiver = thread := role _ rfl
      exact flagged.keep (fun _ => by rw [standing]; rfl) (by rw [held]; rfl) (by rw [held]; rfl)
        (by rw [held]; rfl) rfl
  | recvEnter =>
      obtain rfl : End.receiver = thread := role _ rfl
      subst held
      refine ⟨fun _ => rfl, fun ready => ?_, fun ready => ?_⟩
      · rw [transfers_append]
        exact flagged.tryRecvReady ready
      · rw [transfers_append, transfers_append]
        exact flagged.trySendReady ready
  | recvTake receiving =>
      obtain rfl : End.receiver = thread := role _ (by rcases receiving with rfl | rfl <;> rfl)
      exact ⟨by rintro ⟨⟩, by rintro ⟨⟩, by rintro ⟨⟩⟩
  | tryRecvTake =>
      obtain rfl : End.receiver = thread := role _ rfl
      exact ⟨by rintro ⟨⟩, by rintro ⟨⟩, by rintro ⟨⟩⟩
  | tryRecvMiss =>
      obtain rfl : End.receiver = thread := role _ rfl
      subst held
      refine ⟨by rintro ⟨⟩, fun _ => ?_, fun ready => ?_⟩
      · rw [transfers_append]
        exact due rfl
      · rw [transfers_append, transfers_append]
        exact flagged.trySendReady ready
  | @tryRefuse u =>
      obtain rfl : End.sender = thread := role _ rfl
      subst held
      refine ⟨flagged.recvReady, fun ready => ?_, fun _ => ⟨_, u, ?_, ?_, due rfl⟩⟩
      · rw [transfers_append]
        exact flagged.tryRecvReady ready
      · rw [transfers_append]
        exact ahead
      · rw [transfers_append]
        exact Nat.le_add_right ..
  | @tryEnqueue u =>
      obtain rfl : End.sender = thread := role _ rfl
      subst held
      refine ⟨flagged.recvReady, fun ready => ?_, fun _ => ⟨_, u, ?_, ?_, due rfl⟩⟩
      · rw [transfers_append]
        exact flagged.tryRecvReady ready
      · rw [transfers_append]
        exact ahead
      · rw [transfers_append]
        exact Nat.le_add_right ..

theorem of_reaches {asserts : Asserts} {N : Nat} {labels : List (Label End T)}
    {c : Clients End T} (keeps : KeepEnds programs)
    (run : Clients.PollingReaches asserts N programs labels c) :
    Flagged programs (trace labels) c.system := by
  refine Execution.invariant (fun labels (c : Clients End T) =>
    Flagged programs (trace labels) c.system) ?_ ?_ run
  · exact init programs
  · rintro labels middle ⟨action, event⟩ last
      (reached : Clients.PollingReaches asserts N programs labels middle) flagged ⟨-, moved, -⟩
    have moved := System.Step.moves moved
    rw [trace_append, trace_single]
    generalize last.system = after at moved
    cases action with
    | lock thread =>
        cases moved with
        | lock stretch =>
            have ahead := reached.transfers_add keeps
            exact flagged.critical (reached.persists keeps thread) (by omega) stretch
    | _ =>
        obtain ⟨chan, phases⟩ := moved.settled settled_insideRecv (by simp)
        refine flagged.keep (by rw [phases]; exact id) (by rw [chan]) (by rw [chan])
          (by rw [chan]) ?_
        cases event with
        | none => rfl
        | some seen =>
            rcases moved.calls_or_returns (by simp) seen rfl with ⟨_, rfl⟩ | ⟨_, rfl⟩ <;> rfl

end Flagged

end Gloc.Channel
