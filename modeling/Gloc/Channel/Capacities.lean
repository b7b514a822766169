import Gloc.Channel.Halting

/-!
# Networks with other capacities

What a network gets stuck in, if it does, depends on the processes and on the
capacities of the channels, not on the schedule.  Larger capacities do not make
it get stuck.
-/

namespace Gloc.Channel

open Gloc.Transition

universe u v w

def Action.calls {Thread : Type u} {T : Type w} : Action Thread T → Op T
  | .call _ op => op
  | _ => .recv .value

namespace Network

variable {Node : Type u} {Wire : Type v} [DecidableEq Wire] {network : Network Node Wire}

section Effort

variable {asserts : Asserts} {past : List network.Happens} {s next : network.State}
  {limit : Wire → End → Nat} {happens : network.Happens}

/-- A channel with as many calls to make as are left of these -/
def pending (limit : Wire → End → Nat) (op : (wire : Wire) → Op (network.Value wire))
    (past : List network.Happens) (s : network.State) (wire : Wire) :
    Clients End (network.Value wire) where
  system := s.channel wire
  rest thread := List.replicate (limit wire thread - (calledAt wire thread past).length) (op wire)

def effort [Fintype Wire] (limit : Wire → End → Nat) (past : List network.Happens)
    (s : network.State) : Nat :=
  total id fun wire => (pending limit (fun _ => .recv .value) past s wire).workload

theorem workload_pending (op : (wire : Wire) → Op (network.Value wire)) (wire : Wire) :
    (pending limit op past s wire).workload =
      (pending limit (fun _ => .recv .value) past s wire).workload := by
  simp only [Clients.workload, pending, total, List.length_replicate]

theorem pending_advances [DecidableEq Node] {op : (wire : Wire) → Op (network.Value wire)}
    (taken : network.Step asserts s happens next)
    (bounded : ∀ wire thread,
      (calledAt wire thread (past ++ [happens])).length ≤ limit wire thread)
    (called : ∀ thread call, happens.2.1 = .call thread call → op happens.1 = call) :
    network.Advances asserts happens (pending limit op past s)
      (pending limit op (past ++ [happens]) next) := by
  obtain ⟨moved, elsewhere⟩ := taken.onWire
  obtain ⟨wire, action, event⟩ := happens
  refine ⟨⟨?_, moved, ?_⟩, fun other different => ?_⟩
  · cases action with
    | call thread call =>
        have within := bounded wire thread
        rw [calledAt_snoc, List.length_append] at within
        simp only [Clients.called, List.filterMap_cons, if_true, List.filterMap_nil,
          List.length_singleton] at within
        refine ⟨List.replicate (limit wire thread - (calledAt wire thread past).length - 1) call,
          ?_⟩
        change List.replicate (limit wire thread - (calledAt wire thread past).length) (op wire) = _
        rw [show op wire = call from called thread call rfl, ← List.replicate_succ,
          Nat.sub_add_cancel (by omega)]
    | _ => trivial
  · funext thread
    cases action with
    | call caller call =>
        by_cases same : thread = caller
        · subst same
          simp only [Clients.advance, pending, Function.update_self, List.tail_replicate,
            calledAt_snoc, List.length_append, Clients.called, List.filterMap_cons, if_true,
            List.filterMap_nil, List.length_singleton, Nat.sub_add_eq]
        · simp [Clients.advance, pending, Function.update_of_ne same, calledAt_snoc,
            Clients.called, Ne.symm same]
    | _ => simp [Clients.advance, pending, calledAt_snoc, Clients.called]
  · simp only [pending, elsewhere other different, calledAt_snoc_of_ne (Ne.symm different)]

/-- As long as no more calls are made than these, every step that is not a spurious wake-up
brings the network closer to rest. -/
theorem effort_lt [Fintype Wire] [DecidableEq Node] (taken : network.Step asserts s happens next)
    (bounded : ∀ wire thread,
      (calledAt wire thread (past ++ [happens])).length ≤ limit wire thread)
    (caused : ¬ happens.isSpurious) :
    effort limit (past ++ [happens]) next < effort limit past s := by
  obtain ⟨wire, action, event⟩ := happens
  -- the calls that are left are counted, whatever they are
  let op : (other : Wire) → Op (network.Value other) :=
    Function.update (fun _ => .recv .value) wire action.calls
  have made : ∀ thread call, action = .call thread call → op wire = call := by
    rintro thread call same
    rw [show op wire = action.calls from Function.update_self .., same]
    rfl
  have advances := pending_advances taken bounded made
  have less := advances.workload_lt caused
  simp only [workload_pending op] at less
  exact less

theorem inevitable_of_bounded [Fintype Wire] [DecidableEq Node] {goal : network.State → Prop}
    (limit : Wire → End → Nat)
    (bounded : ∀ past s, network.Reaches asserts past s →
      ∀ wire thread, (calledAt wire thread past).length ≤ limit wire thread)
    (reached : ∀ past s, network.Reaches asserts past s → network.AtRest asserts s → goal s)
    (run : network.Reaches asserts past s) (budget : Nat) :
    Inevitable (network.Step asserts) Happens.isSpurious goal budget s := by
  refine Inevitable.of_measure (fun s bound => ∃ past, network.Reaches asserts past s ∧
    effort limit past s = bound) ?_ ?_ ?_ budget ⟨past, run, rfl⟩
  · rintro s _ happens next ⟨past, run, -⟩ taken
    exact ⟨_, _, .snoc run taken, rfl⟩
  · rintro s _ happens next ⟨past, run, rfl⟩ caused taken
    exact ⟨_, effort_lt taken (bounded _ _ (.snoc run taken)) caused, _, .snoc run taken, rfl⟩
  · rintro s _ ⟨past, run, -⟩ short
    by_contra stuck
    refine short (reached past s run fun happens next taken => ?_)
    by_contra caused
    exact stuck ⟨happens, next, caused, taken⟩

end Effort

section Rests

variable [DecidableEq Node] {asserts asserts' : Asserts} {past past' : List network.Happens}
  {s s' : network.State}

theorem Recorded.length_called_le {history : Node → List (Exchange network.Value)}
    (recorded : Recorded network past s history) (run : network.Reaches asserts past s)
    (wire : Wire) (thread : End) :
    (calledAt wire thread past).length ≤ passed history wire thread + 1 := by
  have counted := recorded.length_called run wire thread
  have inCall : ((s.channel wire).phase thread).busy ≤ 1 := by
    cases (s.channel wire).phase thread <;> simp [Phase.busy]
  omega

theorem exists_recorded_of_atRest (run : network.Reaches asserts past s)
    (atRest : network.AtRest asserts s) (run' : network.Reaches asserts' past' s')
    (atRest' : network.AtRest asserts' s') :
    ∃ history, Recorded network past s history ∧ Recorded network past' s' history := by
  obtain ⟨others, recorded'⟩ := Recorded.of_reaches run'
  obtain ⟨history, recorded, before⟩ :=
    (recorded'.halted run' atRest').history_isPrefix (fun _ => le_rfl) run
  obtain ⟨earlier, same, early⟩ :=
    (recorded.halted run atRest).history_isPrefix (fun _ => le_rfl) run'
  have equal : history = others := by
    funext node
    have unique := same.eq_of_isPrefix recorded' run' ((early node).trans (before node))
    refine (before node).eq_of_length_le ?_
    rw [unique]
    exact (early node).length_le
  rw [equal] at recorded
  exact ⟨others, recorded, recorded'⟩

/-- If one run of a network comes to rest then all runs do, and in the same places: what a
network gets stuck in, if it does, does not depend on the schedule, nor does what has been
received by then. -/
theorem rests_agree [Fintype Wire] (run : network.Reaches asserts past s)
    (atRest : network.AtRest asserts s) (run' : network.Reaches asserts' past' s') :
    (∀ budget, Inevitable (network.Step asserts') Happens.isSpurious
        (fun t => network.AtRest asserts' t ∧ t.node = s.node) budget s') ∧
      ∀ wire, network.stream wire past' <+: network.stream wire past ∧
        (network.AtRest asserts' s' → network.stream wire past' = network.stream wire past) := by
  obtain ⟨history, recorded⟩ := Recorded.of_reaches run
  have halted := recorded.halted run atRest
  refine ⟨fun budget => ?_, fun wire => ⟨?_, fun atRest' => ?_⟩⟩
  · refine inevitable_of_bounded (fun wire thread => passed history wire thread + 1) ?_ ?_ run'
      budget
    · intro past' s' run' wire thread
      obtain ⟨others, recorded', before⟩ := halted.history_isPrefix (fun _ => le_rfl) run'
      refine (recorded'.length_called_le run' wire thread).trans ?_
      exact Nat.add_le_add_right (passed_le (before _)) 1
    · intro past' s' run' atRest'
      obtain ⟨common, known, known'⟩ := exists_recorded_of_atRest run atRest run' atRest'
      exact ⟨atRest', funext fun node => (known.undergoes node).unique (known'.undergoes node)⟩
  · obtain ⟨others, recorded', before⟩ := halted.history_isPrefix (fun _ => le_rfl) run'
    rw [stream, stream, recorded.received, recorded'.received]
    exact (before _).filterMap _
  · obtain ⟨common, known, known'⟩ := exists_recorded_of_atRest run atRest run' atRest'
    rw [stream, stream, known.received, known'.received]

end Rests

def crossed : Network End End where
  Value _ := Nat
  Local _ := Nat
  source wire := wire
  target wire := wire.opposite
  distinct wire := by cases wire <;> decide
  capacity _ := 1
  instruction node
    | 0 => .recv node.opposite fun _ => 1
    | 1 => .send node (7 : Nat) 2
    | _ => .finish
  start _ := 0
  sends := by
    intro node state wire value next instructed
    match state with
    | 0 => cases instructed
    | 1 => cases instructed; rfl
    | _ + 2 => cases instructed
  receives := by
    intro node state wire next instructed
    match state with
    | 0 =>
        cases instructed
        cases node <;> rfl
    | 1 => cases instructed
    | _ + 2 => cases instructed

def asked {T : Type} : System End T :=
  System.init.setPhase .receiver (.start (.recv .value))

def awaited {T : Type} : System End T :=
  { asked with chan := Chan.init.preBlockingRecv }.setPhase .receiver (.recvWait .value)

theorem crossed_waits {past : List crossed.Happens} {s : crossed.State} (wire : End)
    (run : crossed.Reaches .active past s) (fresh : s.channel wire = .init)
    (starts : s.node = crossed.start) :
    ∃ past', crossed.Reaches .active past' (crossed.withChannel s wire awaited) := by
  have calls : Calls (crossed.instructionAt s wire .receiver) wire .receiver (.recv .value) := by
    rw [instructionAt, starts]
    cases wire <;> exact .recv
  have called : System.Step .active (crossed.capacity wire) (s.channel wire)
      (.call .receiver (.recv .value), some (.called .receiver (.recv .value))) asked := by
    rw [fresh]
    rfl
  have parks : System.Step .active (crossed.capacity wire)
      ((crossed.withChannel s wire asked).channel wire)
      (.lock .receiver, some (.entered .receiver)) awaited := by
    rw [withChannel_self]
    rfl
  have waits := Execution.snoc (Execution.snoc run (.call calls called))
    (.proceed (by simp) (by simp) parks)
  have same : crossed.withChannel (crossed.withChannel s wire asked) wire awaited =
      crossed.withChannel s wire awaited := by
    simp only [withChannel, Function.update_idem]
  exact ⟨_, same ▸ waits⟩

def crossedStuck : crossed.State where
  channel _ := awaited
  node := crossed.start

theorem crossedStuck_reached : ∃ past, crossed.Reaches .active past crossedStuck := by
  obtain ⟨past, first⟩ := crossed_waits .sender .nil rfl rfl
  obtain ⟨past', second⟩ := crossed_waits .receiver first rfl rfl
  have both : crossed.withChannel (crossed.withChannel crossed.init .sender awaited) .receiver
      awaited = crossedStuck := by
    apply State.ext
    · funext wire
      cases wire <;> rfl
    · rfl
  exact ⟨past', both ▸ second⟩

theorem crossedStuck_atRest : crossed.AtRest .active crossedStuck := by
  intro happens next taken
  obtain ⟨moved, -⟩ := taken.onWire
  obtain ⟨wire, action, event⟩ := happens
  change System.Step _ _ awaited _ _ at moved
  cases action with
  | spurious => rfl
  | call thread op =>
      cases thread with
      | sender =>
          -- nobody is about to send
          cases taken with
          | call calls => cases wire <;> cases calls
          | proceed noCall => exact absurd rfl (noCall _ _)
          | returns returned => cases returned
      | receiver => cases moved
  | lock thread => cases thread <;> cases moved
  | refuse thread => cases thread <;> cases moved
  | notify thread woken => cases thread <;> cases moved

/-- Under every schedule each of the two threads ends up waiting for the other one. -/
theorem rests_agree_crossed :
    Inevitable (crossed.Step .compiledOut) Happens.isSpurious
      (fun t => crossed.AtRest .compiledOut t ∧ t.node = crossed.start) 2 crossed.init := by
  obtain ⟨past, run⟩ := crossedStuck_reached
  have start : crossed.Reaches .compiledOut [] crossed.init := .nil
  exact (rests_agree run crossedStuck_atRest start).1 2

section Larger

variable [DecidableEq Node] {asserts asserts' : Asserts} {past : List network.Happens}
  {s : network.State} {capacity : Wire → Nat} {past' : List (network.withCapacity capacity).Happens}
  {s' : (network.withCapacity capacity).State}

/-- A run gets at least as far as one with smaller capacities, once it has come to rest. -/
theorem exists_recorded_of_larger (larger : ∀ wire, network.capacity wire ≤ capacity wire)
    (run : network.Reaches asserts past s)
    (run' : (network.withCapacity capacity).Reaches asserts' past' s')
    (atRest' : (network.withCapacity capacity).AtRest asserts' s') :
    ∃ history others, Recorded network past s history ∧
      Recorded (network.withCapacity capacity) past' s' others ∧
      ∀ node, history node <+: others node := by
  obtain ⟨others, recorded'⟩ := Recorded.of_reaches run'
  have rests := recorded'.halted run' atRest'
  have halted : network.Halted capacity s'.node others :=
    ⟨⟨rests.undergoes, rests.available⟩, rests.ahead, rests.apart⟩
  obtain ⟨history, recorded, before⟩ := halted.history_isPrefix larger run
  exact ⟨history, others, recorded, recorded', before⟩

theorem Recorded.exists_isPrefix {history : Node → List (Exchange network.Value)}
    (recorded : Recorded network past s history) (run : network.Reaches asserts past s)
    (finished : network.Finished s)
    (run' : (network.withCapacity capacity).Reaches asserts' past' s') :
    ∃ others, Recorded (network.withCapacity capacity) past' s' others ∧
      ∀ node, others node <+: history node := by
  have accords := recorded.accords run
  have accords' : (network.withCapacity capacity).Accords s.node history :=
    ⟨accords.undergoes, accords.available⟩
  obtain ⟨others, recorded', consistent⟩ := accords'.consistent run'
  refine ⟨others, recorded', fun node => ?_⟩
  exact (recorded.undergoes node).isPrefix_of_finish (finished node) (recorded'.undergoes node)
    (consistent node).symm

/-- Larger capacities do no harm: a network that comes to rest with them has passed on all
that it passes on with smaller ones, and if one run with the smaller ones has finished, then
all runs with the larger ones do. -/
theorem larger_capacities [Fintype Wire] (larger : ∀ wire, network.capacity wire ≤ capacity wire)
    (run : network.Reaches asserts past s) :
    (∀ past' s', (network.withCapacity capacity).Reaches asserts' past' s' →
        (network.withCapacity capacity).AtRest asserts' s' → ∀ wire,
          network.stream wire past <+: (network.withCapacity capacity).stream wire past') ∧
      (network.Finished s → (network.withCapacity capacity).Finishes asserts') := by
  obtain ⟨longest, whole⟩ := Recorded.of_reaches run
  refine ⟨fun past' s' run' atRest' wire => ?_, fun finished => ⟨fun past' s' run' => ?_, ?_⟩⟩
  · obtain ⟨history, others, recorded, recorded', before⟩ :=
      exists_recorded_of_larger larger run run' atRest'
    have here : network.stream wire past = receivedIn wire (history (network.target wire)) :=
      recorded.received wire
    have there : (network.withCapacity capacity).stream wire past' =
        receivedIn wire (others (network.target wire)) := recorded'.received wire
    rw [here, there]
    exact (before _).filterMap _
  · obtain ⟨others, recorded', behind⟩ := whole.exists_isPrefix run finished run'
    refine ⟨fun node aborts => ?_, fun wire => recorded'.safe run' wire⟩
    -- a process that aborts would not finish in any run
    rcases (recorded'.undergoes node).eq_or_exchanges (whole.undergoes node) (behind node) with
      ⟨-, stays⟩ | ⟨exchange, later, next, -, exchanged⟩
    · have finishes := finished node
      rw [stays] at finishes
      cases aborts.symm.trans finishes
    · rw [aborts] at exchanged
      cases exchanged
  · intro past' s' run' budget
    refine inevitable_of_bounded (fun wire thread => passed longest wire thread + 1) ?_ ?_ run'
      budget
    · intro past' s' run' wire thread
      obtain ⟨others, recorded', behind⟩ := whole.exists_isPrefix run finished run'
      refine (recorded'.length_called_le run' wire thread).trans ?_
      exact Nat.add_le_add_right (passed_le (behind _)) 1
    · intro past' s' run' atRest' node
      obtain ⟨history, others, recorded, recorded', before⟩ :=
        exists_recorded_of_larger larger run run' atRest'
      rcases (recorded.undergoes node).eq_or_exchanges (recorded'.undergoes node) (before node) with
        ⟨-, stays⟩ | ⟨exchange, later, next, -, exchanged⟩
      · rw [stays]
        exact finished node
      · rw [finished node] at exchanged
        cases exchanged

/-- A buffer between two threads that get by without one -/
theorem larger_capacities_handOver :
    ((handOver 0).withCapacity fun _ => 3).Finishes .compiledOut := by
  obtain ⟨past, s, run, finished⟩ :=
    ((handOver_finishes 0 .active).2 [] _ .nil 0).reachable
  exact (larger_capacities (fun _ => Nat.zero_le 3) run).2 finished

end Larger

end Network

end Gloc.Channel
