import Gloc.Channel.Accounts
import Gloc.Channel.Balance
import Gloc.Transition.Exchanges

/-!
# Streams through networks

What passes through the channels of a network is determined by its processes.
Neither the schedule nor the capacities of the channels make a difference to it;
they decide how much of it has passed, and whether all of it ever does.
-/

namespace Gloc.Channel

open Gloc.Transition

universe u v w

namespace Clients

variable {Thread : Type u} {T : Type v} [DecidableEq Thread] [Fintype Thread]
  {asserts : Asserts} {N : Nat} {programs : Thread → List (Op T)}
  {labels : List (Label Thread T)} {c : Clients Thread T}

omit [DecidableEq Thread] [Fintype Thread] in
theorem follows_append {action : Action Thread T} {rest : Thread → List (Op T)}
    (follows : action.follows rest) (more : Thread → List (Op T)) :
    action.follows fun thread => rest thread ++ more thread := by
  cases action with
  | call thread op =>
      obtain ⟨later, left⟩ := follows
      exact ⟨later ++ more thread, congrArg (· ++ more thread) left⟩
  | _ => trivial

omit [Fintype Thread] in
theorem advance_append {action : Action Thread T} {rest : Thread → List (Op T)}
    (follows : action.follows rest) (more : Thread → List (Op T)) :
    advance (fun thread => rest thread ++ more thread) action =
      fun thread => advance rest action thread ++ more thread := by
  cases action with
  | call caller op =>
      obtain ⟨later, left⟩ := follows
      funext thread
      by_cases same : thread = caller
      · subst same
        simp only [advance, Function.update_self, left, List.cons_append, List.tail_cons]
      · simp only [advance, Function.update_of_ne same]
  | _ => rfl

theorem Reaches.append_programs (run : Reaches asserts N programs labels c)
    (more : Thread → List (Op T)) :
    Reaches asserts N (fun thread => programs thread ++ more thread) labels
      ⟨c.system, fun thread => c.rest thread ++ more thread⟩ := by
  refine run.project (fun c => (⟨c.system, fun thread => c.rest thread ++ more thread⟩ :
    Clients Thread T)) ?_
  rintro c label next ⟨follows, moved, advanced⟩
  refine ⟨follows_append follows more, moved, ?_⟩
  simp only [advanced]
  exact (advance_append follows more).symm

/-- Threads on a channel are its clients, and the calls that they have made are their
programs. -/
theorem reaches_of_system {s : System Thread T} (run : System.Reaches asserts N labels s) :
    Reaches asserts N (fun thread => called thread (labels.map Prod.fst)) labels
      ⟨s, fun _ => []⟩ := by
  induction run with
  | nil => exact .nil
  | @snoc labels middle label last _ taken inductionHypothesis =>
      obtain ⟨action, event⟩ := label
      have longer := inductionHypothesis.append_programs fun thread => called thread [action]
      simp only [List.map_append, List.map_cons, List.map_nil, called_append]
      refine .snoc longer ⟨?_, taken, ?_⟩
      · cases action with
        | call thread op => exact ⟨[], by simp [called]⟩
        | _ => trivial
      · funext thread
        cases action with
        | call caller op =>
            by_cases same : thread = caller
            · subst same
              simp [advance, called]
            · simp [advance, called, Function.update_of_ne same, Ne.symm same]
        | _ => rfl

end Clients

namespace Network

variable {Node : Type u} {Wire : Type v} [DecidableEq Wire] {network : Network Node Wire}

def delivered (wire : Wire) (past : List network.Happens) : List (network.Value wire) :=
  Channel.received .receiver (trace (happensOn wire past))

namespace Follows

variable {asserts : Asserts} {script : network.Script} {past : List network.Happens}
  {s : network.State} {acts : Node → List (Act network.Value)}

theorem delivered_isPrefix (follows : Follows network asserts script past s acts) (wire : Wire) :
    delivered wire past <+: script.values wire := by
  have returned := (Piped.results_firstValues (follows.channels wire)).filterMap Result.value
  have values : ((script.values wire).map (Result.received .value)).filterMap Result.value =
      script.values wire := by
    rw [List.filterMap_map]
    exact List.filterMap_some
  rw [values] at returned
  exact returned

theorem delivered_of_finished (follows : Follows network asserts script past s acts)
    (finished : network.Finished s) {wire : Wire}
    (enough : (script.values wire).length ≤ script.calls wire) :
    delivered wire past = script.values wire := by
  have ended : (network.clients s acts wire).Ended .receiver := follows.ended (finished _)
  have returned := Piped.results_of_ended (follows.channels wire) ended
  rw [List.take_of_length_le enough] at returned
  rw [delivered, Channel.received, returned, List.filterMap_map]
  exact List.filterMap_some

end Follows

theorem delivered_of_script [DecidableEq Node] (script : network.Script) {asserts : Asserts}
    {past : List network.Happens} {s : network.State}
    (enough : script.Balanced → ∀ wire, (script.values wire).length ≤ script.calls wire)
    (run : network.Reaches asserts past s) (wire : Wire) :
    delivered wire past <+: script.values wire ∧
      (network.Finished s → delivered wire past = script.values wire) := by
  obtain ⟨acts, follows⟩ := Follows.of_reaches script run
  refine ⟨follows.delivered_isPrefix wire, fun finished => ?_⟩
  have balanced := follows.balanced_of_finished finished
  exact follows.delivered_of_finished finished (enough balanced wire)

section Ends

variable {Value : Wire → Type w} {Local : Type w} {instruction : Instruction Value Local}
  {wire : Wire} {thread : End} {exchange : Exchange Value} {next : Local}

omit [DecidableEq Wire]

inductive ExchangedAt (wire : Wire) : End → Exchange Value → Prop where
  | sent {value} : ExchangedAt wire .sender (.sent wire value)
  | received {value} : ExchangedAt wire .receiver (.received wire value)

theorem Calls.exchangedAt {op : Op (Value wire)} (calls : Calls instruction wire thread op)
    (exchanged : Exchanges instruction exchange next) : ExchangedAt wire thread exchange := by
  cases calls with
  | send =>
      cases exchanged
      exact .sent
  | recv =>
      cases exchanged
      exact .received

theorem Continues.calls {result : Result (Value wire)}
    (continues : Continues instruction wire thread result next) :
    ∃ op, Calls instruction wire thread op := by
  cases continues with
  | sent => exact ⟨_, .send⟩
  | received => exact ⟨_, .recv⟩

theorem Continues.exists_exchange [DecidableEq Wire] {result : Result (Value wire)}
    (continues : Continues instruction wire thread result next) :
    ∃ exchange : Exchange Value, Exchanges instruction exchange next ∧
      (∀ other, other ≠ wire → sentIn other [exchange] = [] ∧ receivedIn other [exchange] = []) ∧
      (thread = .sender → sentIn wire [exchange] = (instruction.offers wire).take 1 ∧
        result.value = none) ∧
      (thread = .receiver → receivedIn wire [exchange] = result.value.toList) := by
  cases continues with
  | @sent _ value _ =>
      refine ⟨.sent wire value, .sent, fun other different => ⟨?_, rfl⟩, fun _ => ⟨?_, rfl⟩, ?_⟩
      · rw [sentIn_sent_of_ne _ (Ne.symm different), sentIn_nil]
      · rw [sentIn_sent, Instruction.offers_send]
        rfl
      · intro same
        cases same
  | @received _ _ value =>
      refine ⟨.received wire value, .received, fun other different => ⟨rfl, ?_⟩, ?_, fun _ => ?_⟩
      · rw [receivedIn_received_of_ne _ (Ne.symm different), receivedIn_nil]
      · intro same
        cases same
      · rw [receivedIn_received]
        rfl

end Ends

def CallsAt (network : Network Node Wire) (place : (node : Node) → network.Local node)
    (wire : Wire) (thread : End) : Prop :=
  ∃ op, Calls (network.instruction _ (place (network.owner wire thread))) wire thread op

omit [DecidableEq Wire] in
theorem CallsAt.congr {place place' : (node : Node) → network.Local node} {wire : Wire}
    {thread : End}
    (stays : place' (network.owner wire thread) = place (network.owner wire thread))
    (calls : network.CallsAt place wire thread) : network.CallsAt place' wire thread := by
  rw [CallsAt, stays]
  exact calls

def calledAt (wire : Wire) (thread : End) (past : List network.Happens) :
    List (Op (network.Value wire)) :=
  Clients.called thread ((happensOn wire past).map Prod.fst)

/-- The histories of the processes in a run: they account for the calls at the channels
and for what has been received, and nobody is in two calls at a time. -/
structure Recorded (network : Network Node Wire) (past : List network.Happens)
    (s : network.State) (history : Node → List (Exchange network.Value)) : Prop where
  undergoes : ∀ node,
    Undergoes (network.instruction node) (network.start node) (history node) (s.node node)
  called : ∀ wire, calledAt wire .sender past =
    (sentIn wire (history (network.source wire)) ++
      ((network.instruction _ (s.node (network.source wire))).offers wire).take
        ((s.channel wire).phase .sender).busy).map .send
  asked : ∀ wire, ∃ calls, calledAt wire .receiver past = List.replicate calls (.recv .value)
  received : ∀ wire, delivered wire past = receivedIn wire (history (network.target wire))
  busy : ∀ wire thread node, ((s.channel wire).phase thread).busy = 1 →
    network.owner wire thread = node →
      ∃ op, Calls (network.instruction node (s.node node)) wire thread op

section Snoc

variable {wire other : Wire} {thread elsewhere : End} {past : List network.Happens}
  {action : Action End (network.Value wire)} {event : Option (Event End (network.Value wire))}

theorem calledAt_snoc_of_ne (different : wire ≠ other) :
    calledAt other thread (past ++ [⟨wire, action, event⟩]) = calledAt other thread past := by
  rw [calledAt, happensOn_snoc_of_ne different, calledAt]

theorem calledAt_snoc : calledAt wire thread (past ++ [⟨wire, action, event⟩]) =
    calledAt wire thread past ++ Clients.called thread [action] := by
  rw [calledAt, happensOn_snoc, List.map_append, Clients.called_append, calledAt, List.map_cons,
    List.map_nil]

theorem calledAt_snoc_of_noCall (noCall : ∀ thread op, action ≠ .call thread op) :
    calledAt other thread (past ++ [⟨wire, action, event⟩]) = calledAt other thread past := by
  by_cases same : wire = other
  · subst same
    have none : Clients.called thread [action] = [] := by
      cases action with
      | call caller op => exact absurd rfl (noCall caller op)
      | _ => rfl
    rw [calledAt_snoc, none, List.append_nil]
  · exact calledAt_snoc_of_ne same

theorem delivered_snoc_of_ne (different : wire ≠ other) :
    delivered other (past ++ [⟨wire, action, event⟩]) = delivered other past := by
  rw [delivered, happensOn_snoc_of_ne different, delivered]

theorem delivered_snoc : delivered wire (past ++ [⟨wire, action, event⟩]) =
    delivered wire past ++ Channel.received .receiver event.toList := by
  rw [delivered, happensOn_snoc, trace_append, trace_single, received_append, delivered]

theorem delivered_snoc_of_silent (silent : Channel.received .receiver event.toList = []) :
    delivered other (past ++ [⟨wire, action, event⟩]) = delivered other past := by
  by_cases same : wire = other
  · subst same
    rw [delivered_snoc, silent, List.append_nil]
  · exact delivered_snoc_of_ne same

end Snoc

theorem Step.onWire [DecidableEq Node] {asserts : Asserts} {happens : network.Happens}
    {s next : network.State} (taken : network.Step asserts s happens next) :
    System.Step asserts (network.capacity happens.1) (s.channel happens.1) happens.2
        (next.channel happens.1) ∧
      ∀ other, other ≠ happens.1 → next.channel other = s.channel other := by
  cases taken with
  | call _ moved =>
      rw [withChannel_self]
      exact ⟨moved, fun other different => withChannel_of_ne _ _ different _⟩
  | proceed _ _ moved =>
      rw [withChannel_self]
      exact ⟨moved, fun other different => withChannel_of_ne _ _ different _⟩
  | returns moved =>
      rw [withChannel_self]
      exact ⟨moved, fun other different => withChannel_of_ne _ _ different _⟩

theorem Reaches.onWire [DecidableEq Node] {asserts : Asserts} {past : List network.Happens}
    {s : network.State} (run : network.Reaches asserts past s) (wire : Wire) :
    System.Reaches asserts (network.capacity wire) (happensOn wire past) (s.channel wire) := by
  induction run with
  | nil => exact .nil
  | @snoc past middle happens next _ taken inductionHypothesis =>
      obtain ⟨moved, elsewhere⟩ := taken.onWire
      obtain ⟨other, label⟩ := happens
      by_cases same : other = wire
      · subst same
        rw [happensOn_snoc]
        exact .snoc inductionHypothesis moved
      · rw [happensOn_snoc_of_ne same, elsewhere wire (Ne.symm same)]
        exact inductionHypothesis

namespace Recorded

variable {asserts : Asserts} {past : List network.Happens} {s : network.State}
  {history : Node → List (Exchange network.Value)}

theorem init : Recorded network [] network.init fun _ => [] where
  undergoes _ := .nil
  called wire := by
    have idle : ((network.init.channel wire).phase .sender).busy = 0 := rfl
    rw [idle]
    rfl
  asked wire := ⟨0, rfl⟩
  received wire := rfl
  busy wire thread node busy := by cases busy

theorem reaches [DecidableEq Node] (recorded : Recorded network past s history)
    (run : network.Reaches asserts past s) (wire : Wire) :
    ∃ calls, Clients.Reaches asserts (network.capacity wire)
      (pipe (sentIn wire (history (network.source wire)) ++
        ((network.instruction _ (s.node (network.source wire))).offers wire).take
          ((s.channel wire).phase .sender).busy) calls)
      (happensOn wire past) ⟨s.channel wire, fun _ => []⟩ := by
  obtain ⟨calls, asked⟩ := recorded.asked wire
  have made := Clients.reaches_of_system (run.onWire wire)
  have programs : (fun thread => Clients.called thread ((happensOn wire past).map Prod.fst)) =
      pipe (sentIn wire (history (network.source wire)) ++
        ((network.instruction _ (s.node (network.source wire))).offers wire).take
          ((s.channel wire).phase .sender).busy) calls := by
    funext thread
    cases thread with
    | sender => exact recorded.called wire
    | receiver => exact asked
  rw [programs] at made
  exact ⟨calls, made⟩

theorem delivered_isPrefix [DecidableEq Node] (recorded : Recorded network past s history)
    (run : network.Reaches asserts past s) (wire : Wire) :
    delivered wire past <+: sentIn wire (history (network.source wire)) ++
      (network.instruction _ (s.node (network.source wire))).offers wire := by
  obtain ⟨calls, made⟩ := recorded.reaches run wire
  have returned := (Piped.results_firstValues made).filterMap Result.value
  rw [List.filterMap_map] at returned
  have whole : ∀ values : List (network.Value wire),
      values.filterMap (Result.value ∘ Result.received .value) = values :=
    fun values => List.filterMap_some
  rw [whole] at returned
  refine returned.trans ?_
  rw [List.prefix_append_right_inj]
  exact List.take_prefix ..

theorem idle_elsewhere (recorded : Recorded network past s history) {wire other : Wire}
    {thread elsewhere : End} {result : Result (network.Value wire)}
    {next : network.Local (network.owner wire thread)}
    (continues : Continues (network.instructionAt s wire thread) wire thread result next)
    (different : other ≠ wire ∨ elsewhere ≠ thread)
    (same : network.owner other elsewhere = network.owner wire thread) :
    ((s.channel other).phase elsewhere).busy = 0 := by
  rcases ((s.channel other).phase elsewhere).idle_or_busy with idle | busy
  · rw [idle]
    rfl
  · obtain ⟨op, calls⟩ := recorded.busy other elsewhere _ busy same
    change Calls (network.instructionAt s wire thread) other elsewhere op at calls
    generalize network.instructionAt s wire thread = instruction at continues calls
    cases continues with
    | sent =>
        cases calls
        simp at different
    | received =>
        cases calls
        simp at different

theorem call (recorded : Recorded network past s history) {wire : Wire} {thread : End}
    {op : Op (network.Value wire)} {event : Option (Event End (network.Value wire))}
    {t : System End (network.Value wire)}
    (calls : Calls (network.instructionAt s wire thread) wire thread op)
    (taken : System.Step asserts (network.capacity wire) (s.channel wire)
      (.call thread op, event) t) :
    Recorded network (past ++ [⟨wire, .call thread op, event⟩]) (network.withChannel s wire t)
      history := by
  obtain ⟨standing, rfl, rfl⟩ : (s.channel wire).phase thread = .idle ∧
      event = some (.called thread op) ∧ t = (s.channel wire).setPhase thread (.start op) := by
    cases System.Step.moves taken with
    | call standing => exact ⟨standing, rfl, rfl⟩
  have started : (Phase.start op).busy = 1 := by cases op <;> rfl
  refine ⟨recorded.undergoes, ?_, ?_, ?_, ?_⟩
  · intro other
    by_cases same : wire = other
    · subst same
      rw [calledAt_snoc, withChannel_self, recorded.called]
      cases thread with
      | sender =>
          rw [System.setPhase_self, standing, started]
          change Calls (network.instruction _ (s.node (network.source wire))) wire .sender op
            at calls
          change _ = (sentIn wire (history (network.source wire)) ++
            ((network.instruction _ (s.node (network.source wire))).offers wire).take 1).map Op.send
          generalize network.instruction _ (s.node (network.source wire)) = instruction at calls ⊢
          cases calls with
          | send => simp [Phase.busy, Clients.called]
      | receiver =>
          rw [System.setPhase_of_ne _ (by decide)]
          exact List.append_nil _
    · rw [calledAt_snoc_of_ne same, withChannel_of_ne _ _ (Ne.symm same)]
      exact recorded.called other
  · intro other
    by_cases same : wire = other
    · subst same
      obtain ⟨count, asked⟩ := recorded.asked wire
      rw [calledAt_snoc, asked]
      cases thread with
      | sender => exact ⟨count, List.append_nil _⟩
      | receiver =>
          generalize network.instructionAt s wire .receiver = instruction at calls
          cases calls with
          | recv =>
              refine ⟨count + 1, ?_⟩
              rw [List.replicate_succ']
              rfl
    · rw [calledAt_snoc_of_ne same]
      exact recorded.asked other
  · intro other
    rw [delivered_snoc_of_silent rfl]
    exact recorded.received other
  · intro other elsewhere node busy owned
    by_cases same : other = wire
    · subst same
      rw [withChannel_self] at busy
      by_cases here : elsewhere = thread
      · subst here
        subst owned
        exact ⟨op, calls⟩
      · rw [System.setPhase_of_ne _ here] at busy
        exact recorded.busy other elsewhere node busy owned
    · rw [withChannel_of_ne _ _ same] at busy
      exact recorded.busy other elsewhere node busy owned

theorem proceed (recorded : Recorded network past s history) {wire : Wire}
    {action : Action End (network.Value wire)}
    {event : Option (Event End (network.Value wire))} {t : System End (network.Value wire)}
    (noCall : ∀ thread op, action ≠ .call thread op)
    (noReturn : ∀ thread result, event ≠ some (.returned thread result))
    (taken : System.Step asserts (network.capacity wire) (s.channel wire) (action, event) t) :
    Recorded network (past ++ [⟨wire, action, event⟩]) (network.withChannel s wire t)
      history := by
  have moved := System.Step.moves taken
  have same : ∀ other thread, (((network.withChannel s wire t).channel other).phase thread).busy =
      ((s.channel other).phase thread).busy := by
    intro other thread
    by_cases equal : other = wire
    · subst equal
      rw [withChannel_self]
      exact moved.busy noCall (noReturn thread)
    · rw [withChannel_of_ne _ _ equal]
  have silent : Channel.received .receiver event.toList = [] := by
    cases event with
    | none => rfl
    | some seen =>
        cases seen with
        | returned thread result => exact absurd rfl (noReturn thread result)
        | _ => rfl
  refine ⟨recorded.undergoes, ?_, ?_, ?_, ?_⟩
  · intro other
    rw [calledAt_snoc_of_noCall noCall, same]
    exact recorded.called other
  · intro other
    rw [calledAt_snoc_of_noCall noCall]
    exact recorded.asked other
  · intro other
    rw [delivered_snoc_of_silent silent]
    exact recorded.received other
  · intro other thread node busy owned
    rw [same] at busy
    exact recorded.busy other thread node busy owned

theorem returns [DecidableEq Node] (recorded : Recorded network past s history) {wire : Wire}
    {action : Action End (network.Value wire)} {thread : End} {result : Result (network.Value wire)}
    {t : System End (network.Value wire)} {next : network.Local (network.owner wire thread)}
    (taken : System.Step asserts (network.capacity wire) (s.channel wire)
      (action, some (.returned thread result)) t)
    (continues : Continues (network.instructionAt s wire thread) wire thread result next) :
    ∃ exchange : Exchange network.Value, ExchangedAt wire thread exchange ∧
      Recorded network (past ++ [⟨wire, action, some (.returned thread result)⟩])
        { network.withChannel s wire t with
          node := Function.update s.node (network.owner wire thread) next }
        (Function.update history (network.owner wire thread)
          (history (network.owner wire thread) ++ [exchange])) := by
  have moved := System.Step.moves taken
  obtain ⟨noCall, idle, -⟩ := moved.returned
  have wasBusy := moved.busy_of_returned
  obtain ⟨exchange, exchanged, elsewhere, sent, received⟩ := continues.exists_exchange
  obtain ⟨op, calls⟩ := continues.calls
  have others : ∀ other seen, other ≠ wire ∨ seen ≠ thread →
      (((network.withChannel s wire t).channel other).phase seen).busy =
        ((s.channel other).phase seen).busy := by
    intro other seen different
    by_cases equal : other = wire
    · subst equal
      rw [withChannel_self]
      refine moved.busy noCall fun result observed => ?_
      cases observed
      simp at different
    · rw [withChannel_of_ne _ _ equal]
  have ended : (((network.withChannel s wire t).channel wire).phase thread).busy = 0 := by
    rw [withChannel_self, idle]
    rfl
  refine ⟨exchange, calls.exchangedAt exchanged, ?_, ?_, ?_, ?_, ?_⟩
  · intro node
    by_cases same : node = network.owner wire thread
    · subst same
      simp only [Function.update_self]
      exact .snoc (recorded.undergoes _) exchanged
    · simp only [Function.update_of_ne same]
      exact recorded.undergoes node
  · intro other
    rw [calledAt_snoc_of_noCall noCall, recorded.called]
    change _ = (sentIn other (Function.update history _ _ (network.source other)) ++
      ((network.instruction _ (Function.update s.node _ _ (network.source other))).offers
        other).take (((network.withChannel s wire t).channel other).phase .sender).busy).map Op.send
    by_cases same : network.source other = network.owner wire thread
    · by_cases here : other = wire
      · subst here
        obtain rfl : thread = .sender := by
          cases thread with
          | sender => rfl
          | receiver => exact absurd same (network.distinct other)
        rw [ended, wasBusy, List.take_zero, List.append_nil]
        change _ = (sentIn other (Function.update history (network.source other) _ _)).map Op.send
        rw [Function.update_self, sentIn_append, (sent rfl).1]
        rfl
      · have silent := recorded.idle_elsewhere continues (.inl here)
          (show network.owner other .sender = _ from same)
        rw [others other .sender (.inl here), silent, List.take_zero, List.take_zero,
          List.append_nil, List.append_nil, same, Function.update_self, sentIn_append,
          (elsewhere other here).1, List.append_nil]
    · have different : other ≠ wire ∨ End.sender ≠ thread := by
        by_contra here
        rw [not_or, not_not, not_not] at here
        obtain ⟨rfl, rfl⟩ := here
        exact same rfl
      rw [others other .sender different, Function.update_of_ne same, Function.update_of_ne same]
  · intro other
    rw [calledAt_snoc_of_noCall noCall]
    exact recorded.asked other
  · intro other
    by_cases here : wire = other
    · subst here
      rw [delivered_snoc, recorded.received]
      cases thread with
      | sender =>
          have untouched : network.target wire ≠ network.owner wire .sender :=
            (network.distinct wire).symm
          rw [Function.update_of_ne untouched]
          exact List.append_nil _
      | receiver =>
          change _ = receivedIn wire (Function.update history (network.target wire) _ _)
          rw [Function.update_self, receivedIn_append, received rfl, Option.toList_some,
            received_returned]
          rfl
    · rw [delivered_snoc_of_ne here, recorded.received]
      by_cases same : network.target other = network.owner wire thread
      · rw [same, Function.update_self, receivedIn_append, (elsewhere other (Ne.symm here)).2,
          List.append_nil]
      · rw [Function.update_of_ne same]
  · intro other seen node busy owned
    have different : other ≠ wire ∨ seen ≠ thread := by
      by_contra here
      rw [not_or, not_not, not_not] at here
      obtain ⟨rfl, rfl⟩ := here
      cases ended.symm.trans busy
    have before := (others other seen different).symm.trans busy
    by_cases same : node = network.owner wire thread
    · subst same
      cases (recorded.idle_elsewhere continues different owned).symm.trans before
    · obtain ⟨op, calls⟩ := recorded.busy other seen node before owned
      refine ⟨op, ?_⟩
      simpa only [Function.update_of_ne same] using calls

theorem step [DecidableEq Node] (recorded : Recorded network past s history)
    {happens : network.Happens} {next : network.State}
    (taken : network.Step asserts s happens next) :
    Recorded network (past ++ [happens]) next history ∨
      ∃ wire thread, network.CallsAt s.node wire thread ∧
        ∃ exchange, ExchangedAt wire thread exchange ∧
          Recorded network (past ++ [happens]) next
            (Function.update history (network.owner wire thread)
              (history (network.owner wire thread) ++ [exchange])) := by
  cases taken with
  | call calls moved => exact .inl (recorded.call calls moved)
  | proceed noCall noReturn moved => exact .inl (recorded.proceed noCall noReturn moved)
  | returns moved continues =>
      exact .inr ⟨_, _, continues.calls, recorded.returns moved continues⟩

theorem of_reaches [DecidableEq Node] (run : network.Reaches asserts past s) :
    ∃ history, Recorded network past s history := by
  refine Execution.invariant (fun past s => ∃ history, Recorded network past s history)
    ⟨_, init⟩ ?_ run
  rintro past s happens next - ⟨history, recorded⟩ taken
  rcases recorded.step taken with same | ⟨wire, thread, -, exchange, -, later⟩
  · exact ⟨_, same⟩
  · exact ⟨_, later⟩

end Recorded

/-- Histories that end at these places, in which nothing has been received that has not been
sent or is about to be. -/
structure Accords (network : Network Node Wire) (place : (node : Node) → network.Local node)
    (history : Node → List (Exchange network.Value)) : Prop where
  undergoes : ∀ node,
    Undergoes (network.instruction node) (network.start node) (history node) (place node)
  available : ∀ wire, receivedIn wire (history (network.target wire)) <+:
    sentIn wire (history (network.source wire)) ++
      (network.instruction _ (place (network.source wire))).offers wire

theorem Recorded.accords [DecidableEq Node] {asserts : Asserts} {past : List network.Happens}
    {s : network.State} {history : Node → List (Exchange network.Value)}
    (recorded : Recorded network past s history) (run : network.Reaches asserts past s) :
    network.Accords s.node history where
  undergoes := recorded.undergoes
  available wire := by
    rw [← recorded.received]
    exact recorded.delivered_isPrefix run wire

/-- If one process goes on, its history stays consistent with the other one. -/
theorem Accords.consistent_append {place place' : (node : Node) → network.Local node}
    {history after others : Node → List (Exchange network.Value)} {wire : Wire} {thread : End}
    {exchange : Exchange network.Value} (accords : network.Accords place' others)
    (later : network.Accords place after) (there : ExchangedAt wire thread exchange)
    (goesOn : after (network.owner wire thread) =
      history (network.owner wire thread) ++ [exchange])
    (elsewhere : ∀ other, other ≠ network.owner wire thread → after other = history other)
    (known : ∀ node, Consistent (history node) (others node)) :
    Consistent (after (network.owner wire thread)) (others (network.owner wire thread)) := by
  have undergoes := later.undergoes (network.owner wire thread)
  rw [goesOn] at undergoes ⊢
  refine undergoes.consistent_snoc (accords.undergoes _) (known _) ?_
  rintro other value rfl
  cases there with
  | received =>
      change after (network.target wire) = history (network.target wire) ++ _ at goesOn
      -- the sender has another history, which is consistent already
      have offered := (later.undergoes (network.source wire)).consistent_offers
        (accords.undergoes (network.source wire)) (by
          rw [elsewhere _ (network.distinct wire)]
          exact known _) wire
      have given := later.available wire
      rw [goesOn] at given
      exact ((offered.of_isPrefix given).symm.of_isPrefix (accords.available wire)).symm

/-- The histories in a run are consistent with all others. -/
theorem Accords.consistent [DecidableEq Node] {asserts : Asserts} {past : List network.Happens}
    {s : network.State} {place : (node : Node) → network.Local node}
    {others : Node → List (Exchange network.Value)} (accords : network.Accords place others)
    (run : network.Reaches asserts past s) :
    ∃ history, Recorded network past s history ∧
      ∀ node, Consistent (history node) (others node) := by
  induction run with
  | nil => exact ⟨_, .init, fun node => .inl List.nil_prefix⟩
  | snoc reached taken inductionHypothesis =>
      obtain ⟨history, recorded, known⟩ := inductionHypothesis
      rcases recorded.step taken with same | ⟨wire, thread, -, exchange, there, later⟩
      · exact ⟨history, same, known⟩
      · refine ⟨_, later, fun node => ?_⟩
        by_cases same : node = network.owner wire thread
        · subst same
          exact accords.consistent_append (later.accords (.snoc reached taken)) there
            (Function.update_self ..) (fun other => (Function.update_of_ne · ..)) known
        · rw [Function.update_of_ne same]
          exact known node

/-- The values that have been received from a channel of this network. -/
abbrev stream (network : Network Node Wire) (wire : Wire) (past : List network.Happens) :
    List (network.Value wire) :=
  delivered wire past

abbrev withCapacity (network : Network Node Wire) (capacity : Wire → Nat) : Network Node Wire :=
  { network with capacity := capacity }

/-- What passes through a channel is the same in all runs, whatever the schedule and
whatever the capacities, as far as it gets; and it does not get further than in a run in
which all processes finish. -/
theorem runs_agree [DecidableEq Node] (capacity : Wire → Nat) {asserts asserts' : Asserts}
    {past : List network.Happens} {s : network.State} (run : network.Reaches asserts past s)
    {past' : List (network.withCapacity capacity).Happens}
    {s' : (network.withCapacity capacity).State}
    (run' : (network.withCapacity capacity).Reaches asserts' past' s') (wire : Wire) :
    (network.stream wire past <+: (network.withCapacity capacity).stream wire past' ∨
        (network.withCapacity capacity).stream wire past' <+: network.stream wire past) ∧
      (network.Finished s →
        (network.withCapacity capacity).stream wire past' <+: network.stream wire past) ∧
      (network.Finished s → (network.withCapacity capacity).Finished s' →
        (network.withCapacity capacity).stream wire past' = network.stream wire past) := by
  obtain ⟨others, recorded'⟩ := Recorded.of_reaches run'
  have accords' := recorded'.accords run'
  have accords : network.Accords s'.node others := ⟨accords'.undergoes, accords'.available⟩
  obtain ⟨history, recorded, consistent⟩ := accords.consistent run
  have known := consistent (network.target wire)
  have here : network.stream wire past = receivedIn wire (history (network.target wire)) :=
    recorded.received wire
  have there : (network.withCapacity capacity).stream wire past' =
      receivedIn wire (others (network.target wire)) := recorded'.received wire
  rw [here, there]
  have behind : network.Finished s →
      receivedIn wire (others (network.target wire)) <+:
        receivedIn wire (history (network.target wire)) := fun finished =>
    ((recorded.undergoes _).isPrefix_of_finish (finished _) (accords.undergoes _)
      known).filterMap _
  refine ⟨?_, behind, fun finished finished' => ?_⟩
  · exact known.imp (fun before => before.filterMap _) fun before => before.filterMap _
  · have ahead : receivedIn wire (history (network.target wire)) <+:
        receivedIn wire (others (network.target wire)) :=
      ((accords.undergoes _).isPrefix_of_finish (finished' _) (recorded.undergoes _)
        known.symm).filterMap _
    exact (behind finished).eq_of_length_le ahead.length_le

def handOver (capacity : Nat) : Network End Unit where
  Value _ := Nat
  Local _ := Bool
  source _ := .sender
  target _ := .receiver
  distinct _ := by decide
  capacity _ := capacity
  instruction
    | .sender, false => .send () 7 true
    | .receiver, false => .recv () fun _ => true
    | .sender, true => .finish
    | .receiver, true => .finish
  start _ := false
  sends := by
    intro node state wire value next instructed
    cases node <;> cases state <;> cases instructed
    rfl
  receives := by
    intro node state wire next instructed
    cases node <;> cases state <;> cases instructed
    rfl

def handOverScript (capacity : Nat) : (handOver capacity).Script where
  acts
    | .sender => [.send () (7 : Nat)]
    | .receiver => [.recv ()]
  ending _ := .finished
  performs node := by
    cases node with
    | sender => exact .send rfl (.finish rfl)
    | receiver => exact .recv rfl rfl (.finish rfl)

theorem handOver_finishes (capacity : Nat) (asserts : Asserts) :
    (handOver capacity).Finishes asserts := by
  have layered : (handOver capacity).Layered :=
    { layer := fun node => if node = .sender then 0 else 1
      later := fun _ => Nat.zero_lt_one
      oneInlet := fun _ _ _ => rfl }
  refine (finishes_iff layered (handOverScript capacity)).mpr ⟨fun _ => rfl, ?_, ?_⟩
  · intro wire
    exact le_rfl
  · intro wire
    exact Nat.le_add_right ..

/-- The number is handed over with and without a buffer. -/
theorem runs_agree_handOver :
    ∃ past s past' s', (handOver 0).Reaches .active past s ∧ (handOver 0).Finished s ∧
      ((handOver 0).withCapacity fun _ => 3).Reaches .compiledOut past' s' ∧
      ((handOver 0).withCapacity fun _ => 3).stream () past' = (handOver 0).stream () past := by
  obtain ⟨past, s, run, finished⟩ :=
    ((handOver_finishes 0 .active).2 [] _ .nil 0).reachable
  obtain ⟨past', s', run', finished'⟩ :=
    ((handOver_finishes 3 .compiledOut).2 [] _ .nil 0).reachable
  exact ⟨past, s, past', s', run, finished, run',
    (runs_agree (fun _ => 3) run run' ()).2.2 finished finished'⟩

end Network

end Gloc.Channel
