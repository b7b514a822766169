import Gloc.Channel.Delivery

/-!
# Producers and consumers

Any number of threads that only send share a channel with any number of threads
that only receive.  Nobody can meet an element of his own, so no assertion
aborts them; and when they have come to rest, the numbers of sends and receives
in their programs decide who is through, who is stuck and what is left in the
queue.  A thread is a `std::thread::id`, whose program is what all threads with
that id call: a consumer must not get the id of a producer that has ended.
-/

namespace Gloc.Channel

open Gloc.Transition

universe u v

variable {Thread : Type u} {T : Type v}

/-- No thread both sends and receives, and none uses a `select`. -/
structure Divided (programs : Thread → List (Op T)) : Prop where
  blocking : AllBlocking programs
  parted : ∀ thread, (programs thread).filterMap Op.offered = [] ∨
    (programs thread).countP Op.receives = 0

def supply [Fintype Thread] (programs : Thread → List (Op T)) : Nat :=
  ∑ thread, ((programs thread).filterMap Op.offered).length

def demand [Fintype Thread] (programs : Thread → List (Op T)) : Nat :=
  ∑ thread, (programs thread).countP Op.receives

namespace Clients

def unsent (c : Clients Thread T) (thread : Thread) : Nat :=
  (c.system.phase thread).offers.toList.length + ((c.rest thread).filterMap Op.offered).length

def unserved (c : Clients Thread T) (thread : Thread) : Nat :=
  (c.system.phase thread).awaiting.toNat + (c.rest thread).countP Op.receives

variable {asserts : Asserts} {N : Nat} {programs : Thread → List (Op T)}
  {labels : List (Label Thread T)} {c : Clients Thread T}

theorem Ended.nothing_left {thread : Thread} (ended : c.Ended thread) :
    c.unsent thread = 0 ∧ c.unserved thread = 0 := by
  obtain ⟨idle, done⟩ := ended
  rw [unsent, unserved, idle, done]
  exact ⟨rfl, rfl⟩

variable [DecidableEq Thread] [Fintype Thread]

/-- Whatever blocking calls are made, no assertion fails as long as nobody meets an
element of his own in a full queue. -/
theorem safe_of_takesForeign (unselecting : Unselecting c) (protocol : Protocol N c.system)
    (foreign : TakesForeign N c.system) : c.Safe asserts N := by
  intro action site failed
  obtain ⟨thread, -, executed⟩ := System.step_error failed
  have about := protocol.stretch_error executed
  cases site with
  | notTryReady =>
      have ready := stretch_notTryReady executed
      rw [unselecting.tryRecvReady] at ready
      cases ready
  | notOwnElement => exact unselecting.no_abort protocol foreign action failed
  | _ => cases about

theorem length_enqueuedBy_add (blocking : AllBlocking programs)
    (run : Reaches asserts N programs labels c) (thread : Thread) :
    (enqueuedBy thread (trace labels)).length + c.unsent thread =
      ((programs thread).filterMap Op.offered).length := by
  have offered := (Dealings.of_reaches blocking run thread).offered
  rw [← (Tally.of_reaches run thread).made, List.filterMap_append, ← offered, unsent]
  simp only [List.length_append]
  omega

theorem length_dequeuedBy_add (blocking : AllBlocking programs)
    (run : Reaches asserts N programs labels c) (thread : Thread) :
    (dequeuedBy thread (trace labels)).length + c.unserved thread =
      (programs thread).countP Op.receives := by
  have awaited := (Dealings.of_reaches blocking run thread).awaited
  rw [← (Tally.of_reaches run thread).made, List.countP_append, ← awaited, unserved]
  omega

theorem length_enqueued_add (blocking : AllBlocking programs)
    (run : Reaches asserts N programs labels c) :
    (enqueued (trace labels)).length + ∑ thread, c.unsent thread = supply programs := by
  have counted : (enqueued (trace labels)).length =
      ∑ thread, (enqueuedBy thread (trace labels)).length := by
    simpa using (congrArg Multiset.card (sum_enqueuedBy (trace labels))).symm
  rw [counted, ← Finset.sum_add_distrib]
  exact Finset.sum_congr rfl fun thread _ => length_enqueuedBy_add blocking run thread

theorem length_dequeued_add (blocking : AllBlocking programs)
    (run : Reaches asserts N programs labels c) :
    (dequeued (trace labels)).length + ∑ thread, c.unserved thread = demand programs := by
  have counted : (dequeued (trace labels)).length =
      ∑ thread, (dequeuedBy thread (trace labels)).length := by
    simpa using (congrArg Multiset.card (sum_dequeuedBy (trace labels))).symm
  rw [counted, ← Finset.sum_add_distrib]
  exact Finset.sum_congr rfl fun thread _ => length_dequeuedBy_add blocking run thread

omit [DecidableEq Thread] [Fintype Thread] in
theorem length_of_allEnded (unselecting : Unselecting c) (protocol : Protocol N c.system)
    (ended : ∀ thread, c.Ended thread) : c.system.chan.queue.length ≤ N := by
  have bounded := protocol.bounded
  have room : c.system.chan.queue.length ≠ N + 1 := by
    intro full
    rcases protocol.fullHasSender full with pending | pending
    · obtain ⟨thread, inside⟩ := protocol.between pending
      rw [(ended thread).1] at inside
      cases inside
    · rw [unselecting.trySendDone] at pending
      cases pending
  omega

theorem Quiescent.standing (quiescent : c.Quiescent asserts N) (thread : Thread) :
    c.Ended thread ∨ (∃ form, c.system.phase thread = .recvWait form) ∨
      (∃ u, c.system.phase thread = .sendBeginWait u) ∨
      c.system.phase thread = .sendEndWait := by
  rcases quiescent.ended_or_parked thread with ended | ⟨cv, parked⟩
  · exact .inl ended
  · generalize c.system.phase thread = phase at parked
    cases phase with
    | recvWait form => exact .inr (.inl ⟨form, rfl⟩)
    | sendBeginWait u => exact .inr (.inr (.inl ⟨u, rfl⟩))
    | sendEndWait => exact .inr (.inr (.inr rfl))
    | _ => cases parked

end Clients

namespace Divided

variable [DecidableEq Thread] [Fintype Thread] {asserts : Asserts} {N : Nat}
  {programs : Thread → List (Op T)} {labels : List (Label Thread T)} {c : Clients Thread T}

theorem receiver (divided : Divided programs)
    (run : Clients.Reaches asserts N programs labels c) {thread : Thread}
    (awaiting : (c.system.phase thread).awaiting = true) :
    (programs thread).filterMap Op.offered = [] ∧ (programs thread).countP Op.receives ≠ 0 := by
  have counted := Clients.length_dequeuedBy_add divided.blocking run thread
  rw [Clients.unserved, awaiting, Bool.toNat_true] at counted
  rcases divided.parted thread with nothing | nothing
  · exact ⟨nothing, by omega⟩
  · omega

theorem sender (divided : Divided programs)
    (run : Clients.Reaches asserts N programs labels c) {thread : Thread}
    {element : Thread × T} (membership : element ∈ enqueued (trace labels))
    (owned : element.1 = thread) : (programs thread).countP Op.receives = 0 := by
  have counted := Clients.length_enqueuedBy_add divided.blocking run thread
  rcases divided.parted thread with nothing | nothing
  · rw [nothing, List.length_nil, Nat.add_eq_zero_iff, List.length_eq_zero_iff] at counted
    exact absurd owned (ne_of_enqueuedBy_eq_nil counted.1 membership)
  · exact nothing

theorem takesForeign (divided : Divided programs)
    (run : Clients.Reaches asserts N programs labels c) : TakesForeign N c.system := by
  intro thread front rest receiving nonempty _ owned
  have membership : front ∈ enqueued (trace labels) := by
    rw [← dequeued_append_queue run.system, nonempty]
    simp
  exact (divided.receiver run (Phase.awaiting_of_receiving receiving)).2
    (divided.sender run membership owned)

theorem safe (divided : Divided programs)
    (run : Clients.Reaches asserts N programs labels c) : c.Safe asserts N :=
  Clients.safe_of_takesForeign (Unselecting.of_reaches divided.blocking run)
    (Protocol.of_reaches run.system) (divided.takesForeign run)

/-- A receiver that waits at rest has been served last: all producers are through, and
still there is not enough. -/
theorem starved (divided : Divided programs)
    (run : Clients.Reaches asserts N programs labels c) (quiescent : c.Quiescent asserts N)
    (parked : ∃ thread form, c.system.phase thread = .recvWait form) :
    c.system.chan.queue = [] ∧ (dequeued (trace labels)).length = supply programs ∧
      supply programs < demand programs ∧
      ∀ thread, (programs thread).filterMap Op.offered ≠ [] → c.Ended thread := by
  obtain ⟨receiver, form, waits⟩ := parked
  have empty := quiescent.receiver_starves (Signalled.of_reaches run.system)
    (show (c.system.phase receiver).waitsOn .recv by rw [waits]; rfl)
  have unblocked : ∀ thread, ¬ ((c.system.phase thread).waitsOn .sendBegin ∨
      (c.system.phase thread).waitsOn .sendEnd) := by
    intro thread blocked
    have full := quiescent.sender_blocked (Protocol.of_reaches run.system)
      (Signalled.of_reaches run.system) blocked
    rw [empty] at full
    cases full
  have through : ∀ thread, (programs thread).filterMap Op.offered ≠ [] → c.Ended thread := by
    intro thread sends
    rcases quiescent.standing thread with ended | ⟨form, starves⟩ | ⟨u, begins⟩ | ends
    · exact ended
    · have awaiting : (c.system.phase thread).awaiting = true := by rw [starves]; rfl
      exact absurd (divided.receiver run awaiting).1 sends
    · exact absurd (.inl (by rw [begins]; rfl)) (unblocked thread)
    · exact absurd (.inr (by rw [ends]; rfl)) (unblocked thread)
  have allSent : ∑ thread, c.unsent thread = 0 := by
    refine Finset.sum_eq_zero fun thread _ => ?_
    by_cases sends : (programs thread).filterMap Op.offered = []
    · have counted := Clients.length_enqueuedBy_add divided.blocking run thread
      rw [sends, List.length_nil] at counted
      omega
    · exact (through thread sends).nothing_left.1
  have missing : 0 < ∑ thread, c.unserved thread := by
    refine Finset.sum_pos' (fun _ _ => Nat.zero_le _) ⟨receiver, Finset.mem_univ _, ?_⟩
    rw [Clients.unserved, waits]
    exact Nat.lt_of_lt_of_le Nat.zero_lt_one (Nat.le_add_right _ _)
  have sent := Clients.length_enqueued_add divided.blocking run
  have served := Clients.length_dequeued_add divided.blocking run
  have order := congrArg List.length (dequeued_append_queue run.system)
  rw [List.length_append, empty, List.length_nil] at order
  exact ⟨empty, by omega, by omega, through⟩

theorem sends_of_waiting (divided : Divided programs)
    (run : Clients.Reaches asserts N programs labels c)
    (full : c.system.chan.queue.length = N + 1) {thread : Thread}
    (waits : (c.system.phase thread).waitsOn .sendBegin ∨
      (c.system.phase thread).waitsOn .sendEnd) :
    (programs thread).filterMap Op.offered ≠ [] := by
  intro nothing
  have counted := Clients.length_enqueuedBy_add divided.blocking run thread
  rw [nothing, List.length_nil, Nat.add_eq_zero_iff, List.length_eq_zero_iff] at counted
  obtain ⟨unsent, offersNothing⟩ := counted
  generalize standing : c.system.phase thread = phase at waits
  rw [Clients.unsent, standing] at offersNothing
  cases phase with
  | sendBeginWait u => simp [Phase.offers] at offersNothing
  | sendEndWait =>
      -- a sender that waits for room has enqueued the last element
      have nonempty : c.system.chan.queue ≠ [] := by
        intro empty
        rw [empty] at full
        cases full
      have own := LastSender.of_reaches run.system thread (by rw [standing]; rfl)
        _ (List.getLast?_eq_some_getLast nonempty)
      refine ne_of_enqueuedBy_eq_nil unsent ?_ own
      rw [← dequeued_append_queue run.system]
      exact List.mem_append_right _ (List.getLast_mem nonempty)
  | _ => rcases waits with waits | waits <;> cases waits

/-- A sender that waits at rest waits for room: all consumers are through, and the queue
is full. -/
theorem blocked (divided : Divided programs)
    (run : Clients.Reaches asserts N programs labels c) (quiescent : c.Quiescent asserts N)
    (parked : ∃ thread, (c.system.phase thread).waitsOn .sendBegin ∨
      (c.system.phase thread).waitsOn .sendEnd) :
    c.system.chan.queue.length = N + 1 ∧ (dequeued (trace labels)).length = demand programs ∧
      demand programs + (N + 1) ≤ supply programs ∧
      ∀ thread, (programs thread).countP Op.receives ≠ 0 → c.Ended thread := by
  obtain ⟨sender, waits⟩ := parked
  have full := quiescent.sender_blocked (Protocol.of_reaches run.system)
    (Signalled.of_reaches run.system) waits
  have unstarved : ∀ thread form, c.system.phase thread ≠ .recvWait form := by
    intro thread form starves
    have empty := quiescent.receiver_starves (Signalled.of_reaches run.system)
      (show (c.system.phase thread).waitsOn .recv by rw [starves]; rfl)
    rw [empty] at full
    cases full
  have through : ∀ thread, (programs thread).countP Op.receives ≠ 0 → c.Ended thread := by
    intro thread receives
    rcases quiescent.standing thread with ended | ⟨form, starves⟩ | ⟨u, begins⟩ | ends
    · exact ended
    · exact absurd starves (unstarved thread form)
    · have parked : (c.system.phase thread).waitsOn .sendBegin := by rw [begins]; rfl
      have sends := divided.sends_of_waiting run full (.inl parked)
      exact absurd ((divided.parted thread).resolve_left sends) receives
    · have parked : (c.system.phase thread).waitsOn .sendEnd := by rw [ends]; rfl
      have sends := divided.sends_of_waiting run full (.inr parked)
      exact absurd ((divided.parted thread).resolve_left sends) receives
  have allServed : ∑ thread, c.unserved thread = 0 := by
    refine Finset.sum_eq_zero fun thread _ => ?_
    by_cases receives : (programs thread).countP Op.receives = 0
    · have counted := Clients.length_dequeuedBy_add divided.blocking run thread
      omega
    · exact (through thread receives).nothing_left.2
  have sent := Clients.length_enqueued_add divided.blocking run
  have served := Clients.length_dequeued_add divided.blocking run
  have order := congrArg List.length (dequeued_append_queue run.system)
  rw [List.length_append, full] at order
  exact ⟨full, by omega, by omega, through⟩

theorem balanced (divided : Divided programs)
    (run : Clients.Reaches asserts N programs labels c) (ended : ∀ thread, c.Ended thread) :
    (dequeued (trace labels)).length = demand programs ∧
      supply programs = demand programs + c.system.chan.queue.length ∧
      c.system.chan.queue.length ≤ N := by
  have room := Clients.length_of_allEnded (Unselecting.of_reaches divided.blocking run)
    (Protocol.of_reaches run.system) ended
  have sent := Clients.length_enqueued_add divided.blocking run
  have served := Clients.length_dequeued_add divided.blocking run
  have order := congrArg List.length (dequeued_append_queue run.system)
  rw [Finset.sum_eq_zero fun thread _ => (ended thread).nothing_left.1] at sent
  rw [Finset.sum_eq_zero fun thread _ => (ended thread).nothing_left.2] at served
  rw [List.length_append] at order
  exact ⟨by omega, by omega, room⟩

end Divided

/-- Producers and consumers never abort, always come to rest, and what they have
achieved then depends on the numbers of their calls only: as many elements have been
received as are both sent and asked for; the queue holds what is left over, up to one
more than the capacity; all consumers are through exactly if enough is sent, and all
producers exactly if what is left over fits into the channel. -/
theorem divided_settles [DecidableEq Thread] [Fintype Thread] {asserts : Asserts} {N : Nat}
    {programs : Thread → List (Op T)} {labels : List (Label Thread T)} {c : Clients Thread T}
    (divided : Divided programs) (run : Clients.Reaches asserts N programs labels c) :
    c.Safe asserts N ∧
    (∀ budget, Inevitable (Clients.Step asserts N) (fun label => label.1.isSpurious = true)
      (fun c => c.Quiescent asserts N) budget c) ∧
    (c.Quiescent asserts N →
      (dequeued (trace labels)).length = min (supply programs) (demand programs) ∧
      c.system.chan.queue.length = min (supply programs - demand programs) (N + 1) ∧
      ((∀ thread, (programs thread).countP Op.receives ≠ 0 → c.Ended thread) ↔
        demand programs ≤ supply programs) ∧
      ((∀ thread, (programs thread).filterMap Op.offered ≠ [] → c.Ended thread) ↔
        supply programs ≤ demand programs + N)) := by
  refine ⟨divided.safe run, fun budget => ?_, fun quiescent => ?_⟩
  · exact Clients.inevitable divided.safe (fun _ quiescent => quiescent) run budget
  · by_cases starves : ∃ thread form, c.system.phase thread = .recvWait form
    · obtain ⟨empty, taken, few, through⟩ := divided.starved run quiescent starves
      obtain ⟨receiver, form, waits⟩ := starves
      refine ⟨by omega, by rw [empty, List.length_nil]; omega, ⟨fun ended => ?_, ?_⟩,
        ⟨fun _ => by omega, fun _ => through⟩⟩
      · have idle := (ended receiver (divided.receiver run (by rw [waits]; rfl)).2).1
        rw [waits] at idle
        cases idle
      · omega
    · by_cases blocks : ∃ thread, (c.system.phase thread).waitsOn .sendBegin ∨
          (c.system.phase thread).waitsOn .sendEnd
      · obtain ⟨full, taken, many, through⟩ := divided.blocked run quiescent blocks
        obtain ⟨sender, waits⟩ := blocks
        refine ⟨by omega, by omega, ⟨fun _ => by omega, fun _ => through⟩,
          ⟨fun ended => ?_, by omega⟩⟩
        have idle := (ended sender (divided.sends_of_waiting run full waits)).1
        rw [idle] at waits
        rcases waits with waits | waits <;> cases waits
      · have ended : ∀ thread, c.Ended thread := by
          intro thread
          rcases quiescent.standing thread with ended | ⟨form, waits⟩ | ⟨u, begins⟩ | ends
          · exact ended
          · exact absurd ⟨thread, form, waits⟩ starves
          · exact absurd ⟨thread, .inl (by rw [begins]; rfl)⟩ blocks
          · exact absurd ⟨thread, .inr (by rw [ends]; rfl)⟩ blocks
        obtain ⟨taken, left, room⟩ := divided.balanced run ended
        exact ⟨by omega, by omega, ⟨fun _ => by omega, fun _ thread _ => ended thread⟩,
          ⟨fun _ => by omega, fun _ thread _ => ended thread⟩⟩

/-- Two sends and one receive on a synchronous channel: the second send stays behind. -/
theorem divided_settles_oversupplied :
    ∃ (labels : List (Label Bool Nat)) (c : Clients Bool Nat),
      Clients.Reaches .active 0
        (fun thread => if thread then [.recv .value] else [.send 7, .send 8]) labels c ∧
      c.Quiescent .active 0 ∧ c.Safe .active 0 ∧
      (dequeued (trace labels)).length = min 2 1 ∧
      c.system.chan.queue.length = min (2 - 1) (0 + 1) ∧
      ((∀ thread : Bool, ((if thread then [.recv .value] else [.send 7, .send 8] :
          List (Op Nat)).filterMap Op.offered ≠ []) → c.Ended thread) ↔ 2 ≤ 1 + 0) := by
  have run := Clients.execution_of_replay .active 0
    (.init fun thread : Bool => if thread then [Op.recv .value] else [.send 7, .send 8])
    [.call false (.send 7), .lock false, .notify false none, .call true (.recv .value),
      .lock true, .notify true none, .lock false, .notify false none,
      .call false (.send 8), .lock false, .notify false none, .lock false]
    (fun _ => []) rfl (by decide)
  obtain ⟨labels, c, run, parked, ended⟩ : ∃ (labels : List (Label Bool Nat))
      (c : Clients Bool Nat),
      Clients.Reaches .active 0
        (fun thread => if thread then [.recv .value] else [.send 7, .send 8]) labels c ∧
      (c.system.phase false).waitsOn .sendEnd ∧
      c.system.phase true = .idle ∧ c.rest true = [] :=
    ⟨_, _, run, by rfl, by rfl, by rfl⟩
  have quiescent : c.Quiescent .active 0 :=
    Clients.quiescent_of_ended_or_parked fun
      | false => .inr ⟨.sendEnd, parked⟩
      | true => .inl ended
  have divided : Divided fun thread : Bool =>
      if thread then [Op.recv .value] else [.send 7, .send 8] := by
    constructor
    · rintro (_ | _) op membership <;> simp at membership
      · rcases membership with rfl | rfl <;> rfl
      · rw [membership]
        rfl
    · rintro (_ | _)
      · exact .inr rfl
      · exact .inl rfl
  obtain ⟨safe, -, settled⟩ := divided_settles divided run
  obtain ⟨received, left, -, sent⟩ := settled quiescent
  exact ⟨labels, c, run, quiescent, safe, received, left, sent⟩

end Gloc.Channel
