import Gloc.Channel.Schedules
import Gloc.Stream.StreamReader

/-!
# Stopping a stream reader

The destructor of a `StreamReader` calls `Runnable::stop`, which sets `stop_`
and joins the reader thread.  The thread never looks at `stop_`: it goes on
until everything has been sent.  It comes to its end if what has not been
received fits into the channel, and gets stuck in a send otherwise.
-/

namespace Gloc.Stream

open Gloc.Channel Gloc.Files Gloc.Transition

universe u v

/-- A thread that sends, and its owner who receives and then stops it. -/
structure Runnable (T : Type v) where
  clients : Clients End T
  stop : Bool
  joined : Bool

namespace Runnable

variable {T : Type v}

/-- `start`, with the calls of the thread and those of its owner before he stops
it. -/
def start (programs : End → List (Op T)) : Runnable T :=
  { clients := .init programs, stop := false, joined := false }

/-- What happens to a thread and its owner: something on the channel, the
assignment to `stop_`, or the return from `join`. -/
inductive Happens (T : Type v) where
  | channel (label : Label End T)
  | stop
  | join

def Happens.isSpurious : Happens T → Prop
  | .channel label => label.1.isSpurious = true
  | _ => False

inductive Step (asserts : Asserts) (N : Nat) (r : Runnable T) :
    Happens T → Runnable T → Prop where
  | channel {label clients} :
      Clients.Step asserts N r.clients label clients →
      Step asserts N r (.channel label) { r with clients := clients }
  | stop :
      r.stop = false → r.clients.Ended .receiver →
      Step asserts N r .stop { r with stop := true }
  | join :
      r.stop = true → r.joined = false → r.clients.Ended .sender →
      Step asserts N r .join { r with joined := true }

abbrev Reaches (asserts : Asserts) (N : Nat) (programs : End → List (Op T)) :
    List (Happens T) → Runnable T → Prop :=
  Execution (Step asserts N) (start programs)

/-- The owner waits in `join` for a thread that is parked in a send. -/
def Stuck (r : Runnable T) : Prop :=
  r.stop = true ∧ r.joined = false ∧
    ((r.clients.system.phase .sender).waitsOn .sendBegin ∨
      (r.clients.system.phase .sender).waitsOn .sendEnd)

/-- The owner can stop the thread: neither gets stuck, and once `stop_` is set the
thread always comes to its end. -/
def Stoppable (asserts : Asserts) (N : Nat) (programs : End → List (Op T)) : Prop :=
  (∀ happened r, Reaches asserts N programs happened r → ¬ r.Stuck) ∧
    ∀ happened r, Reaches asserts N programs happened r → r.stop = true →
      ∀ budget, Inevitable (Step asserts N) Happens.isSpurious
        (fun r => r.clients.Ended .sender) budget r

variable {asserts : Asserts} {N : Nat} {programs : End → List (Op T)}
  {happened : List (Happens T)} {r : Runnable T}

theorem Reaches.clients (run : Reaches asserts N programs happened r) :
    (∃ labels, Clients.Reaches asserts N programs labels r.clients) ∧
      (r.stop = true → r.clients.Ended .receiver) := by
  refine Execution.invariant (fun _ r =>
    (∃ labels, Clients.Reaches asserts N programs labels r.clients) ∧
      (r.stop = true → r.clients.Ended .receiver)) ⟨⟨[], .nil⟩, by rintro ⟨⟩⟩ ?_ run
  rintro _ middle _ last - ⟨⟨labels, reached⟩, ended⟩ taken
  cases taken with
  | channel moved => exact ⟨⟨_, .snoc reached moved⟩, fun stop => (ended stop).step moved⟩
  | stop _ done => exact ⟨⟨labels, reached⟩, fun _ => done⟩
  | join => exact ⟨⟨labels, reached⟩, ended⟩

theorem reaches_of_clients {labels : List (Label End T)} {c : Clients End T}
    (run : Clients.Reaches asserts N programs labels c) :
    Reaches asserts N programs (labels.map .channel)
      { clients := c, stop := false, joined := false } := by
  induction run with
  | nil => exact .nil
  | snoc _ taken inductionHypothesis =>
      rw [List.map_append]
      exact .snoc inductionHypothesis (.channel taken)

section Pipe

variable {values : List T} {calls : Nat}

theorem length_of_parked {labels : List (Label End T)} {c : Clients End T}
    (run : Clients.Reaches asserts N (pipe values calls) labels c)
    (ended : c.Ended .receiver)
    (parked : ∃ cv, (c.system.phase .sender).waitsOn cv) : calls + (N + 1) ≤ values.length := by
  have resting : c.system.Resting := by
    intro thread
    cases thread with
    | sender => exact .inr parked
    | receiver => exact .inl ended.1
  have length := (Piped.length_of_blocked run resting parked).2
  have received := Piped.results_of_ended run ended
  rw [received, List.length_map, List.length_take] at length
  omega

theorem stoppable_of_fits (fits : values.length ≤ calls + N) :
    Stoppable asserts N (pipe values calls) := by
  have unblocked : ∀ {labels : List (Label End T)} {c : Clients End T},
      Clients.Reaches asserts N (pipe values calls) labels c → c.Ended .receiver →
      ¬ ∃ cv, (c.system.phase .sender).waitsOn cv := by
    intro labels c run ended parked
    have length := length_of_parked run ended parked
    omega
  constructor
  · rintro happened r run ⟨stop, -, parked⟩
    obtain ⟨⟨labels, reached⟩, ended⟩ := run.clients
    refine unblocked reached (ended stop) ?_
    rcases parked with begins | ends
    · exact ⟨_, begins⟩
    · exact ⟨_, ends⟩
  · intro happened r run stop budget
    refine Inevitable.of_variant
      (fun r => r.stop = true ∧ ∃ happened, Reaches asserts N (pipe values calls) happened r)
      (fun r => r.clients.workload + if r.joined = true then 0 else 1) ?_ ?_ ?_ budget
      ⟨stop, _, run⟩
    · rintro r _ next ⟨stop, _, reached⟩ taken
      refine ⟨?_, _, .snoc reached taken⟩
      cases taken with
      | channel => exact stop
      | stop => rfl
      | join => exact stop
    · rintro r _ next ⟨stop, -⟩ caused taken
      cases taken with
      | channel moved => exact Nat.add_lt_add_right (moved.workload_lt caused) _
      | stop running => rw [stop] at running; cases running
      | join _ waiting => simp [waiting]
    · rintro r ⟨stop, _, run⟩ short
      obtain ⟨⟨labels, reached⟩, ended⟩ := run.clients
      have busy : ¬ r.clients.Quiescent asserts N := by
        intro quiescent
        rcases quiescent.ended_or_parked .sender with ended | parked
        · exact short ended
        · exact unblocked reached (ended stop) parked
      obtain ⟨label, next, caused, taken⟩ :=
        Clients.step_of_not_quiescent busy (Piped.safe reached)
      exact ⟨.channel label, _, caused, .channel taken⟩

/-- A schedule in which some values are passed on one by one, the channel is filled
up, and another value is one too many. -/
def overfill (early spare : List T) (u : T) : List (Action End T) :=
  (early.flatMap fun u => System.sendBy .sender u ++ System.recvBy .receiver .value) ++
    System.sendsBy .sender spare ++
    (System.offerBy .sender u ++ [.notify .sender none, .lock .sender])

theorem follows_passing (buffered : 0 < N) (early : List T) :
    System.Follows asserts N (.quiet [])
      (early.flatMap fun u => System.sendBy End.sender u ++ System.recvBy .receiver .value)
      (.quiet []) := by
  induction early with
  | nil => exact .nil
  | cons u early inductionHypothesis =>
      have sent : System.Follows asserts N (.quiet []) (System.sendBy End.sender u)
          (.quiet [(.sender, u)]) := System.follows_sendBy buffered u
      have received : System.Follows asserts N (.quiet [(End.sender, u)])
          (System.recvBy .receiver .value) (.quiet []) :=
        System.follows_recvBy .value buffered
      rw [List.flatMap_cons]
      exact (sent.append received).append inductionHypothesis

theorem follows_overfill (early spare : List T) (u : T) (filled : spare.length = N)
    (buffered : 0 < N) :
    ∃ c, System.Follows asserts N .init (overfill early spare u)
      (System.alone c .sender .sendEndWait) := by
  have sends : System.Follows asserts N (.quiet []) (System.sendsBy End.sender spare)
      (.quiet ([] ++ spare.map fun u => (End.sender, u))) :=
    System.follows_sendsBy [] spare (by rw [List.length_nil, Nat.zero_add]; exact filled.le)
  obtain ⟨queue, same⟩ : ∃ queue, queue = [] ++ spare.map fun u => (End.sender, u) := ⟨_, rfl⟩
  have length : queue.length = N := by rw [same, List.nil_append, List.length_map, filled]
  rw [← same] at sends
  have offer : System.Follows asserts N (.quiet queue) (System.offerBy End.sender u)
      (System.alone { Chan.holding (queue ++ [(.sender, u)]) with isSendDone := false }
        .sender .sendNotify) := System.follows_offerBy length.le u
  have held : stretch asserts N End.sender
      { Chan.holding (queue ++ [(.sender, u)]) with isSendDone := false } .sendSecond =
      some (.ok (none, .sendEndWait,
        { Chan.holding (queue ++ [(.sender, u)]) with isSendDone := false })) := by
    simp [stretch, Chan.sendSecond, Chan.holding, Chan.init, Chan.isFull, length]
  exact ⟨_, ((follows_passing buffered early).append sends).append
    (offer.append (.cons (System.step_alone_notify rfl)
      (.cons (System.step_alone_lock held) .nil)))⟩

theorem called_overfill (early spare : List T) (u : T) :
    Clients.called .sender (overfill early spare u) =
      (early ++ spare ++ [u]).map .send ∧
    Clients.called .receiver (overfill early spare u) =
      List.replicate early.length (.recv .value) := by
  have passed : ∀ early : List T,
      Clients.called .sender (early.flatMap fun u =>
        System.sendBy End.sender u ++ System.recvBy .receiver .value) = early.map .send ∧
      Clients.called .receiver (early.flatMap fun u =>
        System.sendBy End.sender u ++ System.recvBy .receiver .value) =
          List.replicate early.length (.recv .value) := by
    intro early
    induction early with
    | nil => exact ⟨rfl, rfl⟩
    | cons u early inductionHypothesis =>
        simp only [List.flatMap_cons, Clients.called_append, inductionHypothesis]
        exact ⟨rfl, rfl⟩
  have filled : ∀ spare : List T,
      Clients.called .sender (System.sendsBy End.sender spare) = spare.map .send ∧
      Clients.called .receiver (System.sendsBy End.sender spare) = [] := by
    intro spare
    induction spare with
    | nil => exact ⟨rfl, rfl⟩
    | cons u spare inductionHypothesis =>
        simp only [System.sendsBy, List.flatMap_cons, Clients.called_append]
          at inductionHypothesis ⊢
        rw [inductionHypothesis.1, inductionHypothesis.2]
        exact ⟨rfl, rfl⟩
  unfold overfill
  simp only [Clients.called_append, passed, filled, List.map_append]
  refine ⟨rfl, ?_⟩
  rw [List.append_nil]
  exact List.append_nil _

/-- If what is not received does not fit into the channel then the owner may get
stuck together with the thread. -/
theorem exists_stuck (buffered : 0 < N) (long : calls + (N + 1) ≤ values.length) :
    ∃ happened r, Reaches asserts N (pipe values calls) happened r ∧ r.Stuck := by
  obtain ⟨early, spare, u, later, parts, received, filled⟩ :
      ∃ (early spare : List T) (u : T) (later : List T),
        values = early ++ spare ++ [u] ++ later ∧ early.length = calls ∧ spare.length = N := by
    cases remaining : values.drop (calls + N) with
    | nil =>
        have length := congrArg List.length remaining
        rw [List.length_drop, List.length_nil] at length
        omega
    | cons u later =>
        refine ⟨values.take calls, (values.drop calls).take N, u, later, ?_, ?_, ?_⟩
        · rw [← List.take_add, List.append_assoc, List.singleton_append, ← remaining,
            List.take_append_drop]
        · rw [List.length_take]
          omega
        · rw [List.length_take, List.length_drop]
          omega
  obtain ⟨c, followed⟩ := @follows_overfill T asserts N early spare u filled buffered
  have called := called_overfill early spare u
  have run := Clients.execution_of_replay asserts N (.init (pipe values calls))
    (overfill early spare u) (pipe later 0) (Prod.ext rfl followed) (by
      intro thread
      cases thread with
      | sender => rw [called.1, pipe, ← List.map_append, ← parts]; rfl
      | receiver => rw [called.2, received]; exact (List.append_nil _).symm)
  have parked : ((System.alone c .sender .sendEndWait : System End T).phase .sender).waitsOn
      .sendEnd := by
    rw [System.alone_phase]
    rfl
  exact ⟨_, _, .snoc (reaches_of_clients run) (.stop rfl ⟨rfl, rfl⟩), rfl, rfl, .inr parked⟩

/-- The thread can be stopped if and only if what is not received fits into the
channel. -/
theorem stoppable_iff (buffered : 0 < N) :
    Stoppable asserts N (pipe values calls) ↔ values.length ≤ calls + N := by
  constructor
  · rintro ⟨unstuck, -⟩
    by_contra long
    obtain ⟨happened, r, run, stuck⟩ :=
      @exists_stuck T asserts N values calls buffered (by omega)
    exact unstuck happened r run stuck
  · exact stoppable_of_fits

end Pipe

end Runnable

/-- A stream reader whose owner has called `get_next` a number of times can be
destroyed if and only if at most four frames more than that are in the file. -/
theorem streamReader_stoppable_iff (real : Type u) [Zero real] [NatCast real]
    {asserts : Asserts} {blank cub : CuboidFile} {memory : Nat → Uninitialised} {file : File}
    (opened : blank.loadCub file = .ok cub)
    (large : 16 ≤ cub.header.vWidth * cub.header.hWidth) (calls : Nat) :
    Runnable.Stoppable asserts bufferSize (streamReader real blank memory file calls) ↔
      cub.getFrameCount ≤ calls + 4 := by
  obtain ⟨frames, length, -, -, programs⟩ :=
    @streamReader_eq_pipe real _ _ blank cub memory file opened large
  rw [programs, Runnable.stoppable_iff (by decide), length_delivery, length]
  unfold bufferSize
  omega

/-- With one frame in the file the reader can be destroyed at once. -/
theorem streamReader_stoppable_iff_oneFrame :
    ∃ cub : CuboidFile,
      CuboidFile.loadCub default (.black 1 (by decide)) = .ok cub ∧
      cub.getFrameCount = 1 ∧
      Runnable.Stoppable .active bufferSize (streamReader Nat default (fun _ => default)
        (.black 1 (by decide)) 0) := by
  obtain ⟨cub, opened, count, large⟩ :=
    @File.exists_loadCub_black 1 (by decide) default
  exact ⟨cub, opened, count,
    (streamReader_stoppable_iff Nat opened large 0).mpr (by rw [count]; decide)⟩

/-- With five frames in the file and nothing received, the destructor waits for a
reader that waits for a receiver. -/
theorem streamReader_stuck_at_once :
    ∃ cub : CuboidFile,
      CuboidFile.loadCub default (.black 5 (by decide)) = .ok cub ∧
      cub.getFrameCount = 5 ∧
      ∃ happened r, Runnable.Reaches .active bufferSize
          (streamReader Nat default (fun _ => default)
            (.black 5 (by decide)) 0) happened r ∧ r.Stuck := by
  obtain ⟨cub, opened, count, large⟩ :=
    @File.exists_loadCub_black 5 (by decide) default
  obtain ⟨frames, length, -, -, programs⟩ :=
    @streamReader_eq_pipe Nat _ _ _ _ (fun _ => default) _ opened large
  refine ⟨cub, opened, count, ?_⟩
  rw [programs]
  apply Runnable.exists_stuck (by decide)
  rw [length_delivery, length, count]
  decide

end Gloc.Stream
