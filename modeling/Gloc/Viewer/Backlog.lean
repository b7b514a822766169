import Gloc.Channel.Backlogs
import Gloc.Viewer.Traffic

/-!
# The frames in the viewer

A frame that has been handed over by `ReadNode` and not been answered for at the
end of the pipeline is in a channel, in the buffer of `BufferedMean`, or just
passing through a node.  The number of these frames does not grow with the file.
-/

namespace Gloc.Viewer

open Gloc.Channel Gloc.Channel.Network Gloc.Files Gloc.Transition

variable {Frame : Type}

def ReadNode.lag : ReadNode → Nat
  | .loop _ => 0
  | .sendHeader _ _ => 1
  | .last => 1
  | .done => 0

/-- The frames that have been received and not been answered for: those in the buffer,
and the one that has just come in. -/
def BufferedMean.lag (bufferSize : Nat) : BufferedMean Frame → Nat
  | .fill buffer => buffer.length
  | .loop _ => bufferSize
  | .emit _ _ => bufferSize + 1
  | .last => bufferSize + 1
  | .done => bufferSize

def BufferedMean.Filling (bufferSize : Nat) : BufferedMean Frame → Prop
  | .fill buffer => buffer.length < bufferSize
  | _ => True

def FrameMean.lag : FrameMean Frame → Nat
  | .first => 0
  | .failed => 1
  | .loop _ _ => 1
  | .pass _ _ _ => 2
  | .last => 2
  | .done => 1

theorem ReadNode.lag_le (state : ReadNode) : state.lag ≤ 1 := by
  cases state <;> simp [lag]

theorem FrameMean.lag_le (state : FrameMean Frame) : state.lag ≤ 2 := by
  cases state <;> simp [lag]

section Lags

variable {wire : Wire} {thread : End} {counts : Wire → End → Nat}
  {result : Result (wire.Value Frame)}

theorem ReadNode.lag_continues {F : CuboidFrame → Frame} {he : CuboidFrameHeader}
    {state next : ReadNode} (continues : Continues (run F he state) wire thread result next)
    (known : counts .frameChan .sender ≤ counts .headerChan .sender + state.lag) :
    countReturn counts wire thread .frameChan .sender ≤
      countReturn counts wire thread .headerChan .sender + next.lag := by
  cases state with
  | loop later =>
      cases later with
      | nil =>
          cases continues
          rw [countReturn_self, countReturn_of_ne _ (.inl (by decide))]
          exact Nat.succ_le_succ known
      | cons frame later =>
          cases continues
          rw [countReturn_self, countReturn_of_ne _ (.inl (by decide))]
          exact Nat.succ_le_succ known
  | sendHeader header later =>
      cases continues
      rw [countReturn_self, countReturn_of_ne _ (.inl (by decide))]
      exact known
  | last =>
      cases continues
      rw [countReturn_self, countReturn_of_ne _ (.inl (by decide))]
      exact known
  | done => cases continues

theorem BufferedMean.filling_start {bufferSize : Nat} :
    (fillTheBuffer bufferSize ([] : List Frame)).Filling bufferSize := by
  unfold fillTheBuffer
  split
  next short => exact short
  next => trivial

theorem BufferedMean.lag_le {bufferSize : Nat} {state : BufferedMean Frame}
    (filling : state.Filling bufferSize) : state.lag bufferSize ≤ bufferSize + 1 := by
  cases state with
  | fill buffer => exact (Nat.le_of_lt filling).trans (Nat.le_succ _)
  | loop => exact Nat.le_succ _
  | emit => exact le_rfl
  | last => exact le_rfl
  | done => exact Nat.le_succ _

theorem BufferedMean.lag_continues [Add Frame] {bufferSize : Nat}
    {state next : BufferedMean Frame}
    (continues : Continues (run bufferSize state) wire thread result next)
    (filling : state.Filling bufferSize)
    (known : counts .frameChan .receiver ≤ counts .bufferChan .sender + state.lag bufferSize) :
    next.Filling bufferSize ∧
    countReturn counts wire thread .frameChan .receiver ≤
      countReturn counts wire thread .bufferChan .sender + next.lag bufferSize := by
  cases state with
  | fill buffer =>
      have short : buffer.length < bufferSize := filling
      have known : counts .frameChan .receiver ≤ counts .bufferChan .sender + buffer.length :=
        known
      cases continues with
      | @received _ _ value =>
          rw [countReturn_self, countReturn_of_ne _ (.inl (by decide))]
          cases value with
          | none =>
              refine ⟨trivial, ?_⟩
              simp only [lag]
              omega
          | some frame =>
              simp only [fillTheBuffer]
              split
              next still =>
                refine ⟨still, ?_⟩
                simp only [lag, List.length_append, List.length_singleton]
                omega
              next =>
                refine ⟨trivial, ?_⟩
                simp only [lag]
                omega
  | loop buffer =>
      cases continues with
      | @received _ _ value =>
          rw [countReturn_self, countReturn_of_ne _ (.inl (by decide))]
          cases value with
          | none => exact ⟨trivial, Nat.succ_le_succ known⟩
          | some frame => exact ⟨trivial, Nat.succ_le_succ known⟩
  | emit fout buffer =>
      cases continues
      rw [countReturn_self, countReturn_of_ne _ (.inl (by decide)), Nat.succ_add]
      exact ⟨trivial, known⟩
  | last =>
      cases continues
      rw [countReturn_self, countReturn_of_ne _ (.inl (by decide)), Nat.succ_add]
      exact ⟨trivial, known⟩
  | done => cases continues

theorem FrameMean.lag_continues [Add Frame] {state next : FrameMean Frame}
    (continues : Continues (run state) wire thread result next)
    (known : counts .bufferChan .receiver ≤ counts .meanChan .sender + state.lag) :
    countReturn counts wire thread .bufferChan .receiver ≤
      countReturn counts wire thread .meanChan .sender + next.lag := by
  cases state with
  | first =>
      cases continues with
      | @received _ _ value =>
          rw [countReturn_self, countReturn_of_ne _ (.inl (by decide))]
          cases value with
          | none => exact Nat.succ_le_succ known
          | some frame => exact Nat.succ_le_succ known
  | failed => cases continues
  | loop M i =>
      cases continues with
      | @received _ _ value =>
          rw [countReturn_self, countReturn_of_ne _ (.inl (by decide))]
          cases value with
          | none => exact Nat.succ_le_succ known
          | some frame => exact Nat.succ_le_succ known
  | pass frame M i =>
      cases continues
      rw [countReturn_self, countReturn_of_ne _ (.inl (by decide)), Nat.succ_add]
      exact known
  | last =>
      cases continues
      rw [countReturn_self, countReturn_of_ne _ (.inl (by decide)), Nat.succ_add]
      exact known
  | done => cases continues

end Lags

/-- What each node has still to answer for is bounded by its place in its loops. -/
def Node.Answers (bufferSize : Nat) :
    (node : Node) → node.Local Frame → (Wire → End → Nat) → Prop
  | .readNode, state, counts =>
      counts .frameChan .sender ≤ counts .headerChan .sender + ReadNode.lag state
  | .bufferedMean, state, counts =>
      BufferedMean.Filling bufferSize state ∧ counts .frameChan .receiver ≤
        counts .bufferChan .sender + BufferedMean.lag bufferSize state
  | .frameMean, state, counts =>
      counts .bufferChan .receiver ≤ counts .meanChan .sender + FrameMean.lag state
  | .frameRecv, _, _ => True
  | .headerRecv, _, _ => True

section Backlog

variable [AddMonoid Frame] {bufferSize : Nat} {F : CuboidFrame → Frame}
  {frames : List CuboidFrame} {he : CuboidFrameHeader}

theorem viewer_counted :
    (viewer bufferSize F frames he).Counted (Node.Answers bufferSize) where
  start node := by
    cases node with
    | readNode => exact Nat.zero_le _
    | bufferedMean =>
        exact ⟨BufferedMean.filling_start, Nat.zero_le _⟩
    | frameMean => exact Nat.zero_le _
    | frameRecv => trivial
    | headerRecv => trivial
  continues {wire thread state counts result next} continues known := by
    cases wire with
    | frameChan =>
        cases thread with
        | sender => exact ReadNode.lag_continues continues known
        | receiver => exact BufferedMean.lag_continues continues known.1 known.2
    | bufferChan =>
        cases thread with
        | sender => exact BufferedMean.lag_continues continues known.1 known.2
        | receiver => exact FrameMean.lag_continues continues known
    | meanChan =>
        cases thread with
        | sender => exact FrameMean.lag_continues continues known
        | receiver => trivial
    | headerChan =>
        cases thread with
        | sender => exact ReadNode.lag_continues continues known
        | receiver => trivial
  elsewhere {node state counts wire thread} foreign known := by
    have untouched : ∀ (other : Wire) (elsewhere : End),
        (viewer bufferSize F frames he).owner other elsewhere = node →
        countReturn counts wire thread other elsewhere = counts other elsewhere := by
      intro other elsewhere own
      apply countReturn_of_ne
      by_contra same
      obtain ⟨rfl, rfl⟩ : other = wire ∧ elsewhere = thread := by simpa using same
      exact foreign own
    cases node with
    | readNode =>
        change countReturn counts wire thread .frameChan .sender ≤
          countReturn counts wire thread .headerChan .sender + _
        rw [untouched .frameChan .sender rfl, untouched .headerChan .sender rfl]
        exact known
    | bufferedMean =>
        refine ⟨known.1, ?_⟩
        rw [untouched .frameChan .receiver rfl, untouched .bufferChan .sender rfl]
        exact known.2
    | frameMean =>
        change countReturn counts wire thread .bufferChan .receiver ≤
          countReturn counts wire thread .meanChan .sender + _
        rw [untouched .bufferChan .receiver rfl, untouched .meanChan .sender rfl]
        exact known
    | frameRecv => trivial
    | headerRecv => trivial

/-- Under every schedule `ReadNode` has handed over at most `bufferSize + 21` pointers more
than `FrameRecv` has received, and at most two more than `HeaderRecv` has received
headers, however many frames there are. -/
theorem viewer_backlog (positive : 0 < bufferSize) {asserts : Asserts}
    {past : List (viewer bufferSize F frames he).Happens}
    {s : (viewer bufferSize F frames he).State}
    (run : (viewer bufferSize F frames he).Reaches asserts past s) :
    returned past .frameChan .sender ≤ returned past .meanChan .receiver + (bufferSize + 21) ∧
      returned past .frameChan .sender ≤ returned past .headerChan .receiver + 2 := by
  obtain ⟨script, -⟩ := @exists_script_traffic _ _ _ F frames he positive
  obtain ⟨acts, follows⟩ := Follows.of_reaches script run
  have channels := follows.returned_le
  have nodes := viewer_counted.of_reaches run
  have readNode : returned past .frameChan .sender ≤ returned past .headerChan .sender +
      ReadNode.lag (s.node .readNode) := nodes .readNode
  obtain ⟨filling, bufferedMean⟩ := nodes .bufferedMean
  have frameMean : returned past .bufferChan .receiver ≤ returned past .meanChan .sender +
      FrameMean.lag (s.node .frameMean) := nodes .frameMean
  have header := ReadNode.lag_le (s.node .readNode)
  have passing := FrameMean.lag_le (s.node .frameMean)
  have window := BufferedMean.lag_le filling
  have frameChan : returned past .frameChan .sender ≤ returned past .frameChan .receiver + 5 + 1 :=
    channels .frameChan
  have bufferChan : returned past .bufferChan .sender ≤
      returned past .bufferChan .receiver + 5 + 1 := channels .bufferChan
  have meanChan : returned past .meanChan .sender ≤ returned past .meanChan .receiver + 5 + 1 :=
    channels .meanChan
  have headerChan : returned past .headerChan .sender ≤
      returned past .headerChan .receiver + 0 + 1 := channels .headerChan
  omega

end Backlog

/-- There is a run to the end for three frames in windows of one frame. -/
theorem viewer_backlog_threeFrames :
    ∃ past s, (viewer 1 CuboidFrame.width (List.replicate 3 (frameWithStatus 1))
        (frameWithStatus 0).header).Reaches .active past s ∧
      returned past .frameChan .sender ≤ returned past .meanChan .receiver + 22 := by
  have finishes := (@viewer_finishes_iff _ _ 1 CuboidFrame.width
    (List.replicate 3 (frameWithStatus 1)) (frameWithStatus 0).header (by decide) .active).mpr
      (by decide)
  obtain ⟨past, s, run, -⟩ := (finishes.2 [] _ .nil 0).reachable
  exact ⟨past, s, run, (viewer_backlog (by decide) run).1⟩

end Gloc.Viewer
