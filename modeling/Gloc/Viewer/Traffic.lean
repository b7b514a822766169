import Gloc.Channel.Streams
import Gloc.Viewer.Windows

/-!
# What passes through the channels of the viewer

Whether or not the five threads of the viewer come to their ends, what each of
them is given is fixed: under every schedule the values that have been received
from a channel are the first ones of a list that depends on the frames only.
-/

namespace Gloc.Viewer

open Gloc.Channel Gloc.Files Gloc.Transition

variable {Frame : Type}

/-- What the channels of the viewer carry: the frames and then the null pointer, the
headers and then the last one, the sums of all windows but the last one, and of these all
but the first.  Nothing is passed on by `FrameMean` if there is no first one. -/
def traffic [AddMonoid Frame] (bufferSize : Nat) (F : CuboidFrame → Frame)
    (frames : List CuboidFrame) (he : CuboidFrameHeader) :
    (wire : Wire) → List (wire.Value Frame)
  | .frameChan => marked (frames.map F)
  | .headerChan => frames.map CuboidFrame.getFrameHeader ++ [he]
  | .bufferChan => marked ((windows bufferSize (frames.map F)).dropLast.map List.sum)
  | .meanChan =>
      if bufferSize < frames.length then
        marked ((windows bufferSize (frames.map F)).dropLast.tail.map List.sum)
      else []

section Traffic

variable [AddMonoid Frame] {bufferSize : Nat} {F : CuboidFrame → Frame}
  {frames : List CuboidFrame} {he : CuboidFrameHeader}

theorem length_sums (bufferSize : Nat) (F : CuboidFrame → Frame) (frames : List CuboidFrame) :
    ((windows bufferSize (frames.map F)).dropLast.map List.sum).length =
      frames.length - bufferSize := by
  rw [List.length_map, List.length_dropLast, windows, List.length_map, List.length_range,
    List.length_map]
  omega

theorem meanStages_pass (sums : List Frame) :
    ∃ (meanActs recvActs : List (Act (Wire.Value Frame))) (meanEnding recvEnding : Ending),
      (∀ inputs : (wire : Wire) → List (wire.Value Frame), inputs .bufferChan = marked sums →
        Performs FrameMean.run .first inputs meanActs meanEnding) ∧
      (∀ inputs : (wire : Wire) → List (wire.Value Frame),
        inputs .meanChan = sentOn .meanChan meanActs →
        Performs FrameRecv.run (.loop 0) inputs recvActs recvEnding) ∧
      (sums = [] → meanEnding = .aborted ∧ sentOn .meanChan meanActs = []) ∧
      (sums ≠ [] → sentOn .meanChan meanActs = marked sums.tail ∧
        receivedOn .bufferChan meanActs = (marked sums).length ∧
        receivedOn .meanChan recvActs = (marked sums.tail).length) := by
  cases sums with
  | nil =>
      exact ⟨[.recv .bufferChan], [.recv .meanChan], .aborted, .starved,
        FrameMean.performs_nothing, FrameRecv.performs_nothing, fun _ => ⟨rfl, rfl⟩,
        fun some => absurd rfl some⟩
  | cons first later =>
      obtain ⟨meanActs, passes, passed, meanCalls⟩ := FrameMean.performs first later
      obtain ⟨recvActs, receives, recvCalls⟩ := FrameRecv.performs 0 later
      refine ⟨meanActs, recvActs, .finished, .finished, passes,
        fun inputs available => receives inputs (available.trans passed),
        fun none => (by cases none), fun _ => ⟨passed, ?_, ?_⟩⟩
      · rw [meanCalls, marked, List.length_append, List.length_map, List.length_cons]
        rfl
      · rw [recvCalls, marked, List.length_append, List.length_map, List.tail_cons]
        rfl

/-- The script of the viewer, as far as it matters for its traffic. -/
theorem exists_script_traffic (positive : 0 < bufferSize) :
    ∃ script : (viewer bufferSize F frames he).Script,
      (∀ wire, script.values wire = traffic bufferSize F frames he wire) ∧
      (script.Balanced → ∀ wire, (script.values wire).length ≤ script.calls wire) := by
  obtain ⟨readActs, reads, images, headers⟩ := ReadNode.performs F he frames
  obtain ⟨bufferActs, buffers, emitted, bufferCalls⟩ :=
    BufferedMean.performs bufferSize (frames.map F)
  rw [BufferedMean.emissions_sums positive] at emitted
  obtain ⟨meanActs, recvActs, meanEnding, recvEnding, means, receives, nothing, something⟩ :=
    meanStages_pass ((windows bufferSize (frames.map F)).dropLast.map List.sum)
  obtain ⟨headerActs, headerEnding, headerReceives, -⟩ :=
    HeaderRecv.performs Frame 0 (frames.map CuboidFrame.getFrameHeader) he
  have length := length_sums bufferSize F frames
  have short : (windows bufferSize (frames.map F)).dropLast.map List.sum = [] ↔
      ¬ bufferSize < frames.length := by
    rw [← List.length_eq_zero_iff, length]
    omega
  obtain ⟨acts, rfl, rfl, rfl, rfl, rfl⟩ : ∃ acts : Node → List (Act (Wire.Value Frame)),
      acts .readNode = readActs ∧ acts .bufferedMean = bufferActs ∧
      acts .frameMean = meanActs ∧ acts .frameRecv = recvActs ∧ acts .headerRecv = headerActs :=
    ⟨Node.table readActs bufferActs meanActs recvActs headerActs, rfl, rfl, rfl, rfl, rfl⟩
  have performs : ∀ node, Performs ((viewer bufferSize F frames he).instruction node)
      ((viewer bufferSize F frames he).start node)
      (fun wire => sentOn wire (acts wire.source)) (acts node)
      (Node.table .finished .finished meanEnding recvEnding headerEnding node) := by
    intro node
    cases node with
    | readNode => exact reads _
    | bufferedMean => exact buffers _ images
    | frameMean => exact means _ emitted
    | frameRecv => exact receives _ rfl
    | headerRecv => exact headerReceives _ headers
  have values : ∀ wire : Wire,
      sentOn wire (acts wire.source) = traffic bufferSize F frames he wire := by
    intro wire
    cases wire with
    | frameChan => exact images
    | headerChan => exact headers
    | bufferChan => exact emitted
    | meanChan =>
        rw [traffic]
        by_cases enough : bufferSize < frames.length
        · rw [if_pos enough, List.map_tail]
          exact (something fun empty => short.mp empty enough).1
        · rw [if_neg enough]
          exact (nothing (short.mpr enough)).2
  refine ⟨⟨acts, _, performs⟩, values, fun balanced wire => ?_⟩
  have enough : bufferSize < frames.length := by
    by_contra few
    have finished : meanEnding = .finished := balanced.finished .frameMean
    rw [(nothing (short.mpr few)).1] at finished
    cases finished
  obtain ⟨passed, meanCalls, recvCalls⟩ := something fun empty => short.mp empty enough
  cases wire with
  | frameChan =>
      show (sentOn .frameChan (acts .readNode)).length ≤ receivedOn .frameChan (acts .bufferedMean)
      rw [images, bufferCalls, List.length_append, List.length_map, List.length_singleton]
  | bufferChan =>
      show (sentOn .bufferChan (acts .bufferedMean)).length ≤
        receivedOn .bufferChan (acts .frameMean)
      rw [emitted, meanCalls]
      exact le_rfl
  | meanChan =>
      show (sentOn .meanChan (acts .frameMean)).length ≤ receivedOn .meanChan (acts .frameRecv)
      rw [passed, recvCalls]
  | headerChan => exact balanced.drained .headerChan

/-- Under every schedule each channel of the viewer has passed on the first values of its
traffic, and all of them when the five threads have come to their ends. -/
theorem viewer_delivers (positive : 0 < bufferSize) {asserts : Asserts}
    {past : List (viewer bufferSize F frames he).Happens}
    {s : (viewer bufferSize F frames he).State}
    (run : (viewer bufferSize F frames he).Reaches asserts past s) (wire : Wire) :
    Network.delivered wire past <+: traffic bufferSize F frames he wire ∧
      ((viewer bufferSize F frames he).Finished s →
        Network.delivered wire past = traffic bufferSize F frames he wire) := by
  obtain ⟨script, values, enough⟩ := @exists_script_traffic _ _ _ F frames he positive
  rw [← values wire]
  exact Network.delivered_of_script script enough run wire

end Traffic

/-- Of three frames in windows of one frame, `FrameRecv` gets the one in the middle. -/
theorem viewer_delivers_middle :
    ∃ past s, (viewer 1 CuboidFrame.width (List.replicate 3 (frameWithStatus 1))
        (frameWithStatus 0).header).Reaches .active past s ∧
      Network.delivered .meanChan past = [some 4, none] := by
  have finishes := (@viewer_finishes_iff _ _ 1 CuboidFrame.width
    (List.replicate 3 (frameWithStatus 1)) (frameWithStatus 0).header (by decide) .active).mpr
      (by decide)
  obtain ⟨past, s, run, finished⟩ := (finishes.2 [] _ .nil 0).reachable
  exact ⟨past, s, run, (viewer_delivers (by decide) run .meanChan).2 finished⟩

end Gloc.Viewer
