import Gloc.Channel.Producers

/-!
# Two threads that talk to each other over one channel

Both ends of a channel may be in the same hands: the threads of the test `Work`
take turns, and what one of them sends is what the other one receives.  A
synchronous channel carries every such dialogue to its end, because nobody gets
his own words back there and nobody can run ahead of the other one by more than
a call.  A channel with a buffer does not: a thread that has sent and goes on
to receive may take its own value, and then the other one waits for ever.
-/

namespace Gloc.Channel

open Gloc.Transition

universe u v

theorem takes_others {Thread : Type u} {T : Type v} [DecidableEq Thread] [Fintype Thread]
    {asserts : Asserts} {programs : Thread → List (Op T)} {labels : List (Label Thread T)}
    {c : Clients Thread T} (blocking : AllBlocking programs)
    (run : Clients.Reaches asserts 0 programs labels c) :
    ∀ thread waited front, .dequeued thread waited front ∈ trace labels →
      front.1 ≠ thread := by
  refine Execution.invariant (fun labels (_ : Clients Thread T) => ∀ thread waited front,
    .dequeued thread waited front ∈ trace labels → front.1 ≠ thread) ?_ ?_ run
  · intro thread waited front impossible
    cases impossible
  · intro labels middle label last (reached : Clients.Reaches asserts 0 programs labels middle)
    rintro others ⟨-, moved, -⟩
    rcases label with ⟨action, event⟩
    intro thread waited front membership
    rw [trace_append, trace_single, List.mem_append] at membership
    rcases membership with before | now
    · exact others thread waited front before
    · have moved := System.Step.moves moved
      have unselecting := Unselecting.of_reaches blocking reached
      have protocol := Protocol.of_reaches reached.system
      have foreign := (LastSender.of_reaches reached.system).takesForeign_synchronous protocol
        unselecting.trySendDone
      rw [Option.mem_toList] at now
      subst now
      generalize last.system = after at moved
      generalize observed : some (Event.dequeued thread waited front) = event at moved
      cases moved with
      | call => cases observed
      | refuse => cases observed
      | notify =>
          rw [eq_comm, Option.map_eq_some_iff] at observed
          obtain ⟨result, -, impossible⟩ := observed
          cases impossible
      | spurious => cases observed
      | @lock me _ _ _ stretch =>
          have apart := unselecting.phases me
          generalize standing : middle.system.phase me = phase at stretch apart
          generalize held : middle.system.chan = d at stretch
          cases stretch with
          | @recvTake _ form _ _ rest receiving nonempty =>
              cases observed
              have bounded := protocol.bounded
              rw [← held] at nonempty
              refine foreign thread front rest ?_ nonempty ?_
              · rw [standing]
                rcases receiving with rfl | rfl <;> rfl
              · rw [nonempty, List.length_cons] at bounded ⊢
                omega
          | tryRecvTake => cases apart
          | _ => cases observed

inductive Party where
  | a
  | b
  deriving DecidableEq, Repr

instance : Fintype Party where
  elems := {.a, .b}
  complete party := by cases party <;> simp

namespace Party

def other : Party → Party
  | .a => .b
  | .b => .a

@[simp]
theorem other_other (party : Party) : party.other.other = party := by
  cases party <;> rfl

theorem ne_other (party : Party) : party ≠ party.other := by
  cases party <;> decide

theorem eq_other_iff {party speaker : Party} : speaker = party.other ↔ speaker ≠ party := by
  cases party <;> cases speaker <;> simp [other]

end Party

section Turns

variable {T : Type v}

def said (party : Party) (turns : List (Party × T)) : List T :=
  (turns.filter fun turn => turn.1 = party).map Prod.snd

/-- The program of a party: to send on its own turns and to receive on the other ones. -/
def part (turns : List (Party × T)) (party : Party) : List (Op T) :=
  turns.map fun turn => if turn.1 = party then .send turn.2 else .recv .value

theorem allBlocking_part (turns : List (Party × T)) : AllBlocking (part turns) := by
  intro party op membership
  obtain ⟨turn, -, rfl⟩ := List.mem_map.mp membership
  by_cases mine : turn.1 = party <;> simp [mine, Op.blocking]

theorem part_cons (party : Party) (turn : Party × T) (later : List (Party × T)) :
    part (turn :: later) party =
      (if turn.1 = party then .send turn.2 else .recv .value) :: part later party := rfl

theorem said_cons (party : Party) (turn : Party × T) (later : List (Party × T)) :
    said party (turn :: later) =
      if turn.1 = party then turn.2 :: said party later else said party later := by
  by_cases mine : turn.1 = party <;> simp [said, mine]

theorem said_append (party : Party) (early late : List (Party × T)) :
    said party (early ++ late) = said party early ++ said party late := by
  simp [said]

theorem length_said_add (party : Party) (turns : List (Party × T)) :
    (said party turns).length + (said party.other turns).length = turns.length := by
  induction turns with
  | nil => rfl
  | cons turn later inductionHypothesis =>
      rw [said_cons, said_cons, List.length_cons, ← inductionHypothesis]
      by_cases mine : turn.1 = party
      · rw [if_pos mine, if_neg (mine ▸ turn.1.ne_other), List.length_cons]
        omega
      · rw [if_neg mine, if_pos (Party.eq_other_iff.mpr mine), List.length_cons]
        omega

theorem filterMap_part (party : Party) (turns : List (Party × T)) :
    (part turns party).filterMap Op.offered = said party turns := by
  induction turns with
  | nil => rfl
  | cons turn later inductionHypothesis =>
      rw [part_cons, said_cons]
      by_cases mine : turn.1 = party <;>
        simp [mine, List.filterMap_cons, Op.offered, inductionHypothesis]

theorem countP_part (party : Party) (turns : List (Party × T)) :
    (part turns party).countP Op.receives = (said party.other turns).length := by
  induction turns with
  | nil => rfl
  | cons turn later inductionHypothesis =>
      rw [part_cons, said_cons]
      by_cases mine : turn.1 = party <;>
        simp [mine, List.countP_cons, Op.receives, Party.eq_other_iff, inductionHypothesis]

theorem said_take_isPrefix (party : Party) (turns : List (Party × T)) {n m : Nat} (le : n ≤ m) :
    said party (turns.take n) <+: said party (turns.take m) :=
  ((List.take_prefix_take_left le).filter _).map _

end Turns

namespace Dialogue

variable {T : Type v} {asserts : Asserts} {N : Nat} {turns : List (Party × T)}
  {labels : List (Label Party T)} {c : Clients Party T}

theorem exchanged (run : Clients.Reaches asserts 0 (part turns) labels c) (party : Party) :
    dequeuedBy party (trace labels) ++ said party.other c.system.chan.queue =
      enqueuedBy party.other (trace labels) := by
  have others := takes_others (allBlocking_part turns) run
  have taken : dequeuedBy party (trace labels) =
      said party.other (dequeued (trace labels)) := by
    generalize trace labels = past at others
    induction past with
    | nil => rfl
    | cons event later inductionHypothesis =>
        have rest := inductionHypothesis fun thread waited front membership =>
          others thread waited front (List.mem_cons_of_mem _ membership)
        rw [← List.singleton_append, dequeuedBy_append, dequeued_append, rest,
          dequeuedBy_single]
        cases event with
        | dequeued taker waited front =>
            have foreign := others taker waited front List.mem_cons_self
            have mine : taker = party ↔ front.1 = party.other := by
              generalize front.1 = sender at foreign
              cases taker <;> cases party <;> cases sender <;> simp_all [Party.other]
            rw [dequeued_single, Event.dequeues, Option.toList_some, List.singleton_append,
              said_cons, Event.takes]
            by_cases own : taker = party <;> simp [own, ← mine]
        | _ => rfl
  rw [taken, ← said_append, dequeued_append_queue run.system]
  rfl

theorem progress (run : Clients.Reaches asserts N (part turns) labels c) (party : Party) :
    (calls party (trace labels)).length ≤ turns.length ∧
    enqueuedBy party (trace labels) ++ (c.system.phase party).offers.toList =
      said party (turns.take (calls party (trace labels)).length) ∧
    (dequeuedBy party (trace labels)).length + (c.system.phase party).awaiting.toNat =
      (said party.other (turns.take (calls party (trace labels)).length)).length := by
  have made := (Tally.of_reaches run party).made
  have dealings := Dealings.of_reaches (allBlocking_part turns) run party
  have begun : calls party (trace labels) =
      part (turns.take (calls party (trace labels)).length) party := by
    rw [part, List.map_take]
    exact List.prefix_iff_eq_take.mp ⟨_, made⟩
  refine ⟨?_, ?_, ?_⟩
  · have counted := congrArg List.length made
    rw [List.length_append, part, List.length_map] at counted
    omega
  · rw [← filterMap_part, ← begun]
    exact dealings.offered
  · rw [← countP_part, ← begun]
    exact dealings.awaited

theorem safe (run : Clients.Reaches asserts 0 (part turns) labels c) : c.Safe asserts 0 := by
  have unselecting := Unselecting.of_reaches (allBlocking_part turns) run
  have protocol := Protocol.of_reaches run.system
  exact Clients.safe_of_takesForeign unselecting protocol
    ((LastSender.of_reaches run.system).takesForeign_synchronous protocol
      unselecting.trySendDone)

theorem heard (run : Clients.Reaches asserts 0 (part turns) labels c) (party : Party) :
    received party (trace labels) <+: said party.other turns := by
  obtain ⟨-, offered, -⟩ := progress run party.other
  have spoken := said_take_isPrefix party.other turns (progress run party.other).1
  rw [List.take_length, ← offered, ← exchanged run, ← received_append_held run.system party]
    at spoken
  refine List.IsPrefix.trans ?_ spoken
  simp only [List.append_assoc]
  exact List.prefix_append _ _

theorem owner_of_full (run : Clients.Reaches asserts 0 (part turns) labels c)
    (full : c.system.chan.queue.length = 0 + 1) :
    ∃ sender u, c.system.chan.queue = [(sender, u)] ∧
      (c.system.phase sender).betweenScopes = true := by
  have unselecting := Unselecting.of_reaches (allBlocking_part turns) run
  obtain ⟨sender, between, last⟩ := (LastSender.of_reaches run.system).of_full
    (Protocol.of_reaches run.system) unselecting.trySendDone full
  obtain ⟨element, single⟩ := List.length_eq_one_iff.mp full
  have own : element.1 = sender := last element (by rw [single]; rfl)
  exact ⟨sender, element.2, by rw [single, ← own], between⟩

/-- Where a party can be when everything is at rest: through, at a receive from an empty
queue, before a send while the other one's value is in the queue, or after it while its
own is. -/
theorem standing (run : Clients.Reaches asserts 0 (part turns) labels c)
    (quiescent : c.Quiescent asserts 0) (party : Party) :
    (c.Ended party ∧ (calls party (trace labels)).length = turns.length) ∨
    ((c.system.phase party).awaiting.toNat = 1 ∧
      (c.system.phase party).offers.toList.length = 0 ∧ c.system.chan.queue.length = 0) ∨
    ((c.system.phase party).awaiting.toNat = 0 ∧
      (c.system.phase party).offers.toList.length = 1 ∧ c.system.chan.queue.length = 1 ∧
      (said party c.system.chan.queue).length = 0) ∨
    ((c.system.phase party).awaiting.toNat = 0 ∧
      (c.system.phase party).offers.toList.length = 0 ∧ c.system.chan.queue.length = 1 ∧
      (said party.other c.system.chan.queue).length = 0) := by
  have protocol := Protocol.of_reaches run.system
  have signalled := Signalled.of_reaches run.system
  have unselecting := Unselecting.of_reaches (allBlocking_part turns) run
  rcases quiescent.standing party with ended | ⟨form, waits⟩ | ⟨u, waits⟩ | waits
  · have made := congrArg List.length (Tally.of_reaches run party).made
    rw [ended.2, List.append_nil, part, List.length_map] at made
    exact .inl ⟨ended, made⟩
  · have empty := quiescent.receiver_starves signalled
      (show (c.system.phase party).waitsOn .recv by rw [waits]; rfl)
    rw [waits, empty]
    exact .inr (.inl ⟨rfl, rfl, rfl⟩)
  · have parked : (c.system.phase party).waitsOn .sendBegin := by rw [waits]; rfl
    have full := quiescent.sender_blocked protocol signalled (.inl parked)
    obtain ⟨sender, v, single, between⟩ := owner_of_full run full
    have foreign : sender ≠ party := by
      rintro rfl
      rw [waits] at between
      cases between
    rw [waits]
    refine .inr (.inr (.inl ⟨rfl, rfl, full, ?_⟩))
    rw [single, said_cons, if_neg foreign]
    rfl
  · have parked : (c.system.phase party).waitsOn .sendEnd := by rw [waits]; rfl
    have full := quiescent.sender_blocked protocol signalled (.inr parked)
    obtain ⟨sender, v, single, between⟩ := owner_of_full run full
    have own : sender = party := protocol.oneSender _ _ between (by rw [waits]; rfl)
    rw [waits]
    refine .inr (.inr (.inr ⟨rfl, rfl, full, ?_⟩))
    rw [single, said_cons, own, if_neg party.ne_other]
    rfl

/-- At rest a dialogue is at its end: if a party were waiting, the other one would have
to be both behind it and ahead of it. -/
theorem ended (run : Clients.Reaches asserts 0 (part turns) labels c)
    (quiescent : c.Quiescent asserts 0) (party : Party) : c.Ended party := by
  have mine := standing run quiescent party
  have theirs := standing run quiescent party.other
  obtain ⟨bound, offered, awaited⟩ := progress run party
  obtain ⟨otherBound, otherOffered, otherAwaited⟩ := progress run party.other
  have taken := congrArg List.length (exchanged run party)
  have given := congrArg List.length (exchanged run party.other)
  rw [party.other_other] at theirs otherAwaited given
  replace offered := congrArg List.length offered
  replace otherOffered := congrArg List.length otherOffered
  rw [List.length_append] at offered otherOffered taken given
  have queued := length_said_add party c.system.chan.queue
  -- whoever has begun more turns has heard and said at least as much
  have ahead : ∀ {n m : Nat}, n ≤ m →
      (said party (turns.take n)).length ≤ (said party (turns.take m)).length ∧
      (said party.other (turns.take n)).length ≤ (said party.other (turns.take m)).length :=
    fun le => ⟨(said_take_isPrefix party turns le).length_le,
      (said_take_isPrefix party.other turns le).length_le⟩
  have whole := ahead bound
  have otherWhole := ahead otherBound
  rcases mine with done | mine
  · exact done.1
  · exfalso
    have order := Nat.le_total (calls party (trace labels)).length
      (calls party.other (trace labels)).length
    rcases theirs with ⟨ended, done⟩ | theirs
    · have offers : (c.system.phase party.other).offers.toList.length = 0 := by
        rw [ended.1]
        rfl
      have awaits : (c.system.phase party.other).awaiting.toNat = 0 := by
        rw [ended.1]
        rfl
      have behind := ahead (bound.trans done.ge)
      omega
    · rcases order with le | le
      · have behind := ahead le
        omega
      · have behind := ahead le
        omega

theorem heard_of_ended (run : Clients.Reaches asserts 0 (part turns) labels c)
    (ended : ∀ party, c.Ended party) (party : Party) :
    received party (trace labels) = said party.other turns := by
  refine (heard run party).eq_of_length ?_
  have taken := congrArg List.length (received_append_held run.system party)
  have counted := Clients.length_dequeuedBy_add (allBlocking_part turns) run party
  have nothing := (ended party).nothing_left.2
  have idle : (c.system.phase party).held = none := by
    rw [(ended party).1]
    rfl
  rw [idle, Option.toList_none, List.append_nil] at taken
  rw [countP_part] at counted
  omega

/-- On a channel with a buffer the party that speaks first may take its own value. -/
theorem stuck (asserts : Asserts) {N : Nat} (buffered : 0 < N) (u v : T) :
    ∃ labels c, Clients.Reaches asserts N (part [(.a, u), (.b, v)]) labels c ∧
      c.Quiescent asserts N ∧ ¬ c.Ended .b := by
  have sent : System.Follows asserts N (.quiet []) (System.sendBy Party.a u)
      (.quiet [(.a, u)]) := System.follows_sendBy buffered u
  have taken : System.Follows asserts N (.quiet [(Party.a, u)]) (System.recvBy .a .value)
      (.quiet []) := System.follows_recvBy .value buffered
  have waits := (sent.append taken).append
    (.cons (System.step_quiet_call [] .b (.recv .value))
      (.cons (System.step_alone_lock rfl) .nil))
  have run := Clients.execution_of_replay asserts N (.init (part [(.a, u), (.b, v)])) _
    (fun party => if party = .a then [] else [.send v]) (Prod.ext rfl waits) (by
      intro party
      cases party <;> rfl)
  refine ⟨_, _, run, Clients.quiescent_of_ended_or_parked ?_, ?_⟩
  · intro party
    cases party with
    | a => exact .inl ⟨rfl, rfl⟩
    | b => exact .inr ⟨.recv, rfl⟩
  · rintro ⟨idle, -⟩
    cases idle

end Dialogue

/-- Two threads that take turns on a synchronous channel never abort, always come to
the end of their dialogue, and each has heard what the other one has said, in order and
nothing else, at every moment of it.  This is so for all dialogues exactly on a
synchronous channel. -/
theorem dialogue_iff {T : Type v} [Inhabited T] (N : Nat) :
    (∀ (asserts : Asserts) (turns : List (Party × T)) (labels : List (Label Party T))
        (c : Clients Party T), Clients.Reaches asserts N (part turns) labels c →
      c.Safe asserts N ∧
      (∀ party, received party (trace labels) <+: said party.other turns) ∧
      ((∀ party, c.Ended party) →
        ∀ party, received party (trace labels) = said party.other turns) ∧
      ∀ budget, Inevitable (Clients.Step asserts N) (fun label => label.1.isSpurious = true)
        (fun c => ∀ party, c.Ended party) budget c) ↔ N = 0 := by
  constructor
  · intro every
    by_contra buffered
    obtain ⟨labels, c, run, quiescent, short⟩ := Dialogue.stuck .compiledOut
      (Nat.pos_of_ne_zero buffered) (default : T) default
    obtain ⟨-, -, -, inevitable⟩ := every _ _ _ _ run
    cases inevitable 0 with
    | now ended => exact short (ended .b)
    | later progress =>
        obtain ⟨label, next, caused, follows, taken, -⟩ := progress
        have enabled : c.Enabled .compiledOut N label.1 := ⟨follows, by rw [taken]; rfl⟩
        exact caused (quiescent label.1 enabled)
  · rintro rfl asserts turns labels c run
    refine ⟨Dialogue.safe run, Dialogue.heard run, Dialogue.heard_of_ended run, fun budget => ?_⟩
    exact Clients.inevitable Dialogue.safe (fun reached quiescent =>
      Dialogue.ended reached quiescent) run budget

end Gloc.Channel
