import Gloc.Channel.Balance
import Gloc.Viewer.Nodes

/-!
# The pipeline of the viewer

What each node does with what it receives, and under which conditions the five
threads come to their end.
-/

namespace Gloc.Viewer

open Gloc.Channel Gloc.Files Gloc.Transition

variable {Frame : Type}

theorem ReadNode.performs (F : CuboidFrame → Frame) (he : CuboidFrameHeader)
    (frames : List CuboidFrame) :
    ∃ acts, (∀ inputs, Performs (run F he) (.loop frames) inputs acts .finished) ∧
      sentOn .frameChan acts = (frames.map F).map some ++ [none] ∧
      sentOn .headerChan acts = frames.map CuboidFrame.getFrameHeader ++ [he] := by
  induction frames with
  | nil =>
      refine ⟨[.send .frameChan none, .send .headerChan he], fun inputs => ?_, ?_, ?_⟩
      · refine .send rfl ?_
        refine .send rfl ?_
        exact .finish rfl
      · simp
      · simp
  | cons frame later inductionHypothesis =>
      obtain ⟨acts, performs, images, headers⟩ := inductionHypothesis
      refine ⟨.send .frameChan (some (F frame)) :: .send .headerChan frame.getFrameHeader :: acts,
        fun inputs => ?_, ?_, ?_⟩
      · refine .send rfl ?_
        refine .send rfl ?_
        exact performs inputs
      · simp [images]
      · simp [headers]

namespace BufferedMean

variable [Add Frame]

def emissions (bufferSize : Nat) : List Frame → List Frame → List (FramePtr Frame)
  | _, [] => []
  | buffer, frame :: later =>
      computeTheMean bufferSize buffer :: emissions bufferSize (buffer.tail ++ [frame]) later

theorem performs_last (bufferSize : Nat) {state : BufferedMean Frame}
    {next : FramePtr Frame → BufferedMean Frame}
    (receives : run bufferSize state = .recv .frameChan next) (ends : next none = .last)
    (inputs : (wire : Wire) → List (wire.Value Frame)) (available : inputs .frameChan = [none]) :
    Performs (run bufferSize) state inputs [.recv .frameChan, .send .bufferChan none]
      .finished := by
  refine .recv receives available ?_
  rw [ends]
  refine .send rfl ?_
  exact .finish rfl

theorem loop_performs (bufferSize : Nat) (buffer later : List Frame) :
    ∃ acts, (∀ inputs : (wire : Wire) → List (wire.Value Frame),
        inputs .frameChan = later.map some ++ [none] →
        Performs (run bufferSize) (.loop buffer) inputs acts .finished) ∧
      sentOn .bufferChan acts = emissions bufferSize buffer later ++ [none] ∧
      receivedOn .frameChan acts = later.length + 1 := by
  induction later generalizing buffer with
  | nil =>
      refine ⟨_, performs_last bufferSize rfl rfl, ?_, ?_⟩
      · simp [emissions]
      · simp
  | cons frame later inductionHypothesis =>
      obtain ⟨acts, performs, emitted, calls⟩ := inductionHypothesis (buffer.tail ++ [frame])
      refine ⟨.recv .frameChan :: .send .bufferChan (computeTheMean bufferSize buffer) :: acts,
        fun inputs available => ?_, ?_, ?_⟩
      · refine .recv rfl available ?_
        refine .send rfl ?_
        exact performs _ (Function.update_self ..)
      · simp [emitted, emissions]
      · simp [calls]

theorem fill_performs (bufferSize : Nat) (buffer frames : List Frame) :
    ∃ acts, (∀ inputs : (wire : Wire) → List (wire.Value Frame),
        inputs .frameChan = frames.map some ++ [none] →
        Performs (run bufferSize) (fillTheBuffer bufferSize buffer) inputs acts .finished) ∧
      sentOn .bufferChan acts =
        emissions bufferSize (buffer ++ frames.take (bufferSize - buffer.length))
          (frames.drop (bufferSize - buffer.length)) ++ [none] ∧
      receivedOn .frameChan acts = frames.length + 1 := by
  induction frames generalizing buffer with
  | nil =>
      rw [fillTheBuffer]
      split
      next =>
        refine ⟨_, performs_last bufferSize rfl rfl, ?_, ?_⟩
        · simp [emissions]
        · simp
      next => simpa [emissions] using loop_performs bufferSize buffer []
  | cons frame later inductionHypothesis =>
      rw [fillTheBuffer]
      split
      next short =>
        obtain ⟨acts, performs, emitted, calls⟩ := inductionHypothesis (buffer ++ [frame])
        refine ⟨.recv .frameChan :: acts, fun inputs available => ?_, ?_, ?_⟩
        · refine .recv rfl available ?_
          exact performs _ (Function.update_self ..)
        · have room : bufferSize - buffer.length =
              bufferSize - (buffer ++ [frame]).length + 1 := by
            simp only [List.length_append, List.length_singleton]
            omega
          rw [room, sentOn_recv, emitted, List.take_succ_cons, List.drop_succ_cons,
            List.append_assoc]
          rfl
        · simp [calls]
      next full =>
        obtain ⟨acts, performs, emitted, calls⟩ := loop_performs bufferSize buffer (frame :: later)
        rw [Nat.sub_eq_zero_of_le (Nat.not_lt.mp full)]
        exact ⟨acts, performs, by simpa using emitted, calls⟩

theorem performs (bufferSize : Nat) (frames : List Frame) :
    ∃ acts, (∀ inputs : (wire : Wire) → List (wire.Value Frame),
        inputs .frameChan = frames.map some ++ [none] →
        Performs (run bufferSize) (fillTheBuffer bufferSize []) inputs acts .finished) ∧
      sentOn .bufferChan acts =
        emissions bufferSize (frames.take bufferSize) (frames.drop bufferSize) ++ [none] ∧
      receivedOn .frameChan acts = frames.length + 1 :=
  fill_performs bufferSize [] frames

theorem length_emissions (bufferSize : Nat) (buffer later : List Frame) :
    (emissions bufferSize buffer later).length = later.length := by
  induction later generalizing buffer with
  | nil => rfl
  | cons frame later inductionHypothesis =>
      rw [emissions, List.length_cons, inductionHypothesis, List.length_cons]

theorem emissions_frames {bufferSize : Nat} (positive : 0 < bufferSize) {buffer : List Frame}
    (nonempty : buffer ≠ []) (later : List Frame) :
    ∃ sums : List Frame, emissions bufferSize buffer later = sums.map some := by
  induction later generalizing buffer with
  | nil => exact ⟨[], rfl⟩
  | cons frame later inductionHypothesis =>
      obtain ⟨sums, emitted⟩ := @inductionHypothesis (buffer.tail ++ [frame]) (by simp)
      rw [emissions, emitted, computeTheMean]
      cases taken : buffer.take bufferSize with
      | nil =>
          rw [List.take_eq_nil_iff] at taken
          exact absurd taken (not_or.mpr ⟨Nat.ne_of_gt positive, nonempty⟩)
      | cons first rest => exact ⟨rest.foldl (· + ·) first :: sums, rfl⟩

theorem emissions_length {bufferSize : Nat} (positive : 0 < bufferSize) (frames : List Frame) :
    ∃ sums : List Frame,
      emissions bufferSize (frames.take bufferSize) (frames.drop bufferSize) = sums.map some ∧
        sums.length = frames.length - bufferSize := by
  have length := length_emissions bufferSize (frames.take bufferSize) (frames.drop bufferSize)
  rw [List.length_drop] at length
  cases frames with
  | nil => exact ⟨[], by simp [emissions]⟩
  | cons first later =>
      have nonempty : (first :: later).take bufferSize ≠ [] := by
        rw [Ne, List.take_eq_nil_iff]
        simp [Nat.ne_of_gt positive]
      obtain ⟨sums, emitted⟩ :=
        emissions_frames positive nonempty ((first :: later).drop bufferSize)
      refine ⟨sums, emitted, ?_⟩
      rw [emitted, List.length_map] at length
      exact length

end BufferedMean

namespace FrameMean

variable [Add Frame]

theorem loop_performs (M : Frame) (i : Nat) (later : List Frame) :
    ∃ acts, (∀ inputs : (wire : Wire) → List (wire.Value Frame),
        inputs .bufferChan = later.map some ++ [none] →
        Performs run (.loop M i) inputs acts .finished) ∧
      sentOn .meanChan acts = later.map some ++ [none] ∧
      receivedOn .bufferChan acts = later.length + 1 := by
  induction later generalizing M i with
  | nil =>
      refine ⟨[.recv .bufferChan, .send .meanChan none], fun inputs available => ?_, ?_, ?_⟩
      · refine .recv rfl available ?_
        refine .send rfl ?_
        exact .finish rfl
      · simp
      · simp
  | cons frame later inductionHypothesis =>
      obtain ⟨acts, performs, passed, calls⟩ := inductionHypothesis (M + frame) (i + 1)
      refine ⟨.recv .bufferChan :: .send .meanChan (some frame) :: acts,
        fun inputs available => ?_, ?_, ?_⟩
      · refine .recv rfl available ?_
        refine .send rfl ?_
        exact performs _ (Function.update_self ..)
      · simp [passed]
      · simp [calls]

theorem performs (first : Frame) (later : List Frame) :
    ∃ acts, (∀ inputs : (wire : Wire) → List (wire.Value Frame),
        inputs .bufferChan = (first :: later).map some ++ [none] →
        Performs run .first inputs acts .finished) ∧
      sentOn .meanChan acts = later.map some ++ [none] ∧
      receivedOn .bufferChan acts = later.length + 2 := by
  obtain ⟨acts, performs, passed, calls⟩ := loop_performs first 1 later
  refine ⟨.recv .bufferChan :: acts, fun inputs available => ?_, ?_, ?_⟩
  · refine .recv rfl available ?_
    exact performs _ (Function.update_self ..)
  · simpa using passed
  · simp [calls]

theorem performs_nothing (inputs : (wire : Wire) → List (wire.Value Frame))
    (available : inputs .bufferChan = [none]) :
    Performs run .first inputs [.recv .bufferChan] .aborted := by
  refine .recv rfl available ?_
  exact .abort rfl

end FrameMean

namespace FrameRecv

theorem performs (i : Nat) (frames : List Frame) :
    ∃ acts, (∀ inputs : (wire : Wire) → List (wire.Value Frame),
        inputs .meanChan = frames.map some ++ [none] →
        Performs run (.loop i) inputs acts .finished) ∧
      receivedOn .meanChan acts = frames.length + 1 := by
  induction frames generalizing i with
  | nil =>
      refine ⟨[.recv .meanChan], fun inputs available => ?_, ?_⟩
      · refine .recv rfl available ?_
        exact .finish rfl
      · simp
  | cons frame later inductionHypothesis =>
      obtain ⟨acts, performs, calls⟩ := inductionHypothesis (i + 1)
      refine ⟨.recv .meanChan :: acts, fun inputs available => ?_, ?_⟩
      · refine .recv rfl available ?_
        exact performs _ (Function.update_self ..)
      · simp [calls]

theorem performs_nothing (inputs : (wire : Wire) → List (wire.Value Frame))
    (available : inputs .meanChan = []) :
    Performs run (.loop 0) inputs [.recv .meanChan] .starved :=
  .starve rfl available

end FrameRecv

theorem HeaderRecv.performs (Frame : Type) (i : Nat) (headers : List CuboidFrameHeader)
    (he : CuboidFrameHeader) :
    ∃ acts ending, (∀ inputs : (wire : Wire) → List (wire.Value Frame),
        inputs .headerChan = headers ++ [he] → Performs run (.loop i) inputs acts ending) ∧
      (ending = .finished ∧ receivedOn .headerChan acts = headers.length + 1 ↔
        (∀ header ∈ headers, header.status ≠ 0) ∧ he.status = 0) := by
  induction headers generalizing i with
  | nil =>
      by_cases zero : he.status = 0
      · refine ⟨[.recv .headerChan], .finished, fun inputs available => ?_, by simp [zero]⟩
        refine .recv rfl available ?_
        rw [if_pos zero]
        exact .finish rfl
      · refine ⟨[.recv .headerChan, .recv .headerChan], .starved, fun inputs available => ?_,
          by simp [zero]⟩
        refine .recv rfl available ?_
        rw [if_neg zero]
        exact .starve rfl (Function.update_self ..)
  | cons header later inductionHypothesis =>
      by_cases zero : header.status = 0
      · refine ⟨[.recv .headerChan], .finished, fun inputs available => ?_, by simp [zero]⟩
        refine .recv rfl available ?_
        rw [if_pos zero]
        exact .finish rfl
      · obtain ⟨acts, ending, performs, whole⟩ := inductionHypothesis (i + 1)
        refine ⟨.recv .headerChan :: acts, ending, fun inputs available => ?_, ?_⟩
        · refine .recv rfl available ?_
          rw [if_neg zero]
          exact performs _ (Function.update_self ..)
        · simpa [zero] using whole

theorem meanStages_perform [Add Frame] (sums : List Frame) :
    ∃ (meanActs recvActs : List (Act (Wire.Value Frame))) (meanEnding recvEnding : Ending),
      (∀ inputs : (wire : Wire) → List (wire.Value Frame),
        inputs .bufferChan = sums.map some ++ [none] →
        Performs FrameMean.run .first inputs meanActs meanEnding) ∧
      (∀ inputs : (wire : Wire) → List (wire.Value Frame),
        inputs .meanChan = sentOn .meanChan meanActs →
        Performs FrameRecv.run (.loop 0) inputs recvActs recvEnding) ∧
      (meanEnding = .finished ↔ 0 < sums.length) ∧
      (0 < sums.length → recvEnding = .finished ∧
        receivedOn .bufferChan meanActs = sums.length + 1 ∧
        receivedOn .meanChan recvActs = (sentOn .meanChan meanActs).length) := by
  cases sums with
  | nil =>
      exact ⟨[.recv .bufferChan], [.recv .meanChan], .aborted, .starved,
        FrameMean.performs_nothing, FrameRecv.performs_nothing, by simp, by simp⟩
  | cons first later =>
      obtain ⟨meanActs, passes, passed, meanCalls⟩ := FrameMean.performs first later
      obtain ⟨recvActs, receives, recvCalls⟩ := FrameRecv.performs 0 later
      refine ⟨meanActs, recvActs, .finished, .finished, passes, fun inputs available => ?_,
        by simp, fun _ => ⟨rfl, meanCalls, ?_⟩⟩
      · exact receives inputs (available.trans passed)
      · rw [recvCalls, passed, List.length_append, List.length_map, List.length_singleton]

def Node.table {α : Type} (readNode bufferedMean frameMean frameRecv headerRecv : α) : Node → α
  | .readNode => readNode
  | .bufferedMean => bufferedMean
  | .frameMean => frameMean
  | .frameRecv => frameRecv
  | .headerRecv => headerRecv

def Node.layer : Node → Nat :=
  Node.table 0 1 2 3 1

theorem Wire.layer_lt (wire : Wire) : wire.source.layer < wire.target.layer := by
  cases wire <;> decide

theorem Wire.eq_of_target_eq (wire other : Wire) (same : wire.target = other.target) :
    wire = other := by
  cases wire <;> cases other <;> first | rfl | cases same

section Pipeline

variable [Add Frame] {bufferSize : Nat} {F : CuboidFrame → Frame} {frames : List CuboidFrame}
  {he : CuboidFrameHeader}

/-- The frames pass through the nodes one after the other, the headers beside them. -/
def layered : (viewer bufferSize F frames he).Layered where
  layer := Node.layer
  later := Wire.layer_lt
  oneInlet := Wire.eq_of_target_eq

theorem exists_script (positive : 0 < bufferSize) :
    ∃ script : (viewer bufferSize F frames he).Script, script.Balanced ↔
      bufferSize < frames.length ∧ (∀ frame ∈ frames, frame.getFrameHeader.status ≠ 0) ∧
        he.status = 0 := by
  obtain ⟨readActs, reads, images, headers⟩ := ReadNode.performs F he frames
  obtain ⟨bufferActs, buffers, emitted, bufferCalls⟩ :=
    BufferedMean.performs bufferSize (frames.map F)
  obtain ⟨sums, sent, length⟩ := BufferedMean.emissions_length positive (frames.map F)
  obtain ⟨meanActs, recvActs, meanEnding, recvEnding, means, receives, meanFinishes, through⟩ :=
    meanStages_perform sums
  obtain ⟨headerActs, headerEnding, headerReceives, whole⟩ :=
    HeaderRecv.performs Frame 0 (frames.map CuboidFrame.getFrameHeader) he
  rw [sent] at emitted
  rw [List.length_map] at bufferCalls length whole
  simp only [List.forall_mem_map] at whole
  obtain ⟨acts, rfl, rfl, rfl, rfl, rfl⟩ : ∃ acts : Node → List (Act (Wire.Value Frame)),
      acts .readNode = readActs ∧ acts .bufferedMean = bufferActs ∧
      acts .frameMean = meanActs ∧ acts .frameRecv = recvActs ∧ acts .headerRecv = headerActs :=
    ⟨Node.table readActs bufferActs meanActs recvActs headerActs, rfl, rfl, rfl, rfl, rfl⟩
  refine ⟨{
    acts := acts
    ending := Node.table .finished .finished meanEnding recvEnding headerEnding
    performs := ?_ }, ?_⟩
  · intro node
    cases node with
    | readNode => exact reads _
    | bufferedMean => exact buffers _ images
    | frameMean => exact means _ emitted
    | frameRecv => exact receives _ rfl
    | headerRecv => exact headerReceives _ headers
  have headerCount : (sentOn .headerChan (acts .readNode)).length = frames.length + 1 := by
    rw [headers, List.length_append, List.length_map, List.length_singleton]
  constructor
  · intro balanced
    have something := meanFinishes.mp (balanced.finished .frameMean)
    have supplied : receivedOn .headerChan (acts .headerRecv) ≤
        (sentOn .headerChan (acts .readNode)).length := balanced.supplied .headerChan
    have drained : (sentOn .headerChan (acts .readNode)).length ≤
        receivedOn .headerChan (acts .headerRecv) := balanced.drained .headerChan
    exact ⟨by omega, whole.mp ⟨balanced.finished .headerRecv, by omega⟩⟩
  · rintro ⟨enough, marked⟩
    have something : 0 < sums.length := by omega
    obtain ⟨recvFinishes, meanCalls, recvCalls⟩ := through something
    obtain ⟨headerFinishes, headerCalls⟩ := whole.mpr marked
    have counted : ∀ wire : Wire, receivedOn wire (acts wire.target) =
        (sentOn wire (acts wire.source)).length := by
      intro wire
      cases wire with
      | frameChan => simp [Wire.target, Wire.source, images, bufferCalls]
      | bufferChan => simp [Wire.target, Wire.source, emitted, meanCalls]
      | meanChan => exact recvCalls
      | headerChan => exact headerCalls.trans headerCount.symm
    refine ⟨fun node => ?_, fun wire => (counted wire).le, fun wire => ?_⟩
    · cases node with
      | readNode => rfl
      | bufferedMean => rfl
      | frameMean => exact meanFinishes.mpr something
      | frameRecv => exact recvFinishes
      | headerRecv => exact headerFinishes
    · exact (counted wire).ge.trans (Nat.le_add_right _ _)

theorem viewer_finishes_iff (positive : 0 < bufferSize) (asserts : Asserts) :
    (viewer bufferSize F frames he).Finishes asserts ↔
      bufferSize < frames.length ∧ (∀ frame ∈ frames, frame.getFrameHeader.status ≠ 0) ∧
        he.status = 0 := by
  obtain ⟨script, balanced⟩ := @exists_script _ _ _ F frames he positive
  exact (Network.finishes_iff layered script).trans balanced

end Pipeline

def cubviewer [Add Frame] (F : CuboidFrame → Frame) (frames : List CuboidFrame)
    (he : CuboidFrameHeader) : Network Node Wire :=
  viewer 40 F frames he

/-- All threads of `cubviewer` come to their ends, whatever the schedule, if and only if
there are more frames than the window holds, no frame looks like the end of the headers,
and the memory of the last header happens to look like it. -/
theorem cubviewer_finishes_iff [Add Frame] (asserts : Asserts) (F : CuboidFrame → Frame)
    (frames : List CuboidFrame) (he : CuboidFrameHeader) :
    (cubviewer F frames he).Finishes asserts ↔
      40 < frames.length ∧ (∀ frame ∈ frames, frame.getFrameHeader.status ≠ 0) ∧
        he.status = 0 :=
  viewer_finishes_iff (by decide) asserts

def frameWithStatus (status : UInt8) : CuboidFrame :=
  .new ⟨⟨⟨[0, 0, 0, 0, 0, 0, 0, 0, 0, 0, 0, 0, status, 0, 0, 0], rfl⟩⟩, fun _ => 0⟩ 4 4

/-- Too few frames, a frame that looks like the end, and a last header that does not -/
theorem cubviewer_unfinished :
    ¬ (cubviewer CuboidFrame.width (List.replicate 40 (frameWithStatus 1))
        (frameWithStatus 0).header).Finishes .active ∧
      ¬ (cubviewer CuboidFrame.width (List.replicate 41 (frameWithStatus 0))
        (frameWithStatus 0).header).Finishes .active ∧
      ¬ (cubviewer CuboidFrame.width (List.replicate 41 (frameWithStatus 1))
        (frameWithStatus 1).header).Finishes .active := by
  refine ⟨fun finishes => ?_, fun finishes => ?_, fun finishes => ?_⟩
  · obtain ⟨enough, -⟩ := (viewer_finishes_iff (by decide) .active).mp finishes
    simp at enough
  · obtain ⟨-, unmarked, -⟩ := (viewer_finishes_iff (by decide) .active).mp finishes
    exact unmarked _ (List.mem_replicate.mpr ⟨by decide, rfl⟩) (by decide)
  · obtain ⟨-, -, marked⟩ := (viewer_finishes_iff (by decide) .active).mp finishes
    revert marked
    decide

end Gloc.Viewer
