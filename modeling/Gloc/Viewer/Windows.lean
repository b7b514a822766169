import Mathlib.Algebra.BigOperators.Group.List.Basic
import Mathlib.Algebra.Module.Pi
import Mathlib.Data.Rat.Defs
import Gloc.Viewer.Pipeline

/-!
# The windows of the viewer

`BufferedMean` is to send the mean of each window of consecutive frames, and
`FrameMean` to pass them on.  It sends the sums of the windows, without the last
one, and `FrameMean` keeps the first of them for itself.
-/

namespace Gloc.Viewer

open Gloc.Channel Gloc.Files Gloc.Transition

section Memory

/-- The frames that have been allocated; a pointer is the place of its frame. -/
abbrev Heap (Frame : Type) := List Frame

namespace Heap

variable {Frame : Type} [Add Frame]

/-- The rounds of the loop in `compute_the_mean ()` from the second one on.  Null pointers
end it; an invalid pointer is followed nowhere. -/
def addFrames (m0 : Nat) : List (FramePtr Nat) → Heap Frame → Option (Heap Frame)
  | [], heap => some heap
  | none :: _, heap => some heap
  | some pointer :: later, heap => do
      let sum ← heap[m0]?
      let frame ← heap[pointer]?
      addFrames m0 later (heap.set m0 (sum + frame))

def computeTheMean (bufferSize : Nat) (buffer : List (FramePtr Nat)) (heap : Heap Frame) :
    Option (FramePtr Nat × Heap Frame) :=
  if buffer.length < bufferSize then none
  else
    match buffer.take bufferSize with
    | [] => some (none, heap)
    | none :: _ => none
    | some pointer :: later => do
        let frame ← heap[pointer]?
        let after ← addFrames heap.length later (heap ++ [frame])
        pure (some heap.length, after)

variable {heap : Heap Frame} {pointers : List Nat} {frames : List Frame}

theorem addFrames_eq (sum : Frame)
    (valid : pointers.map (fun pointer => heap[pointer]?) = frames.map some) :
    addFrames heap.length (pointers.map some) (heap ++ [sum]) =
      some (heap ++ [frames.foldl (· + ·) sum]) := by
  induction pointers generalizing frames sum with
  | nil =>
      cases frames with
      | nil => rfl
      | cons => cases valid
  | cons pointer later inductionHypothesis =>
      cases frames with
      | nil => cases valid
      | cons frame rest =>
          obtain ⟨found, valid⟩ := List.cons.inj valid
          obtain ⟨inside, -⟩ := List.getElem?_eq_some_iff.mp found
          have old : (heap ++ [sum])[pointer]? = some frame :=
            (List.getElem?_append_left inside).trans found
          have new : (heap ++ [sum])[heap.length]? = some sum := List.getElem?_concat_length
          have added : (heap ++ [sum]).set heap.length (sum + frame) = heap ++ [sum + frame] := by
            rw [List.set_append_right _ _ (Nat.le_refl _), Nat.sub_self]
            rfl
          rw [List.map_cons, addFrames, new, old]
          simp only [Option.bind_eq_bind, Option.bind_some, added]
          exact inductionHypothesis (sum + frame) valid

/-- The frames in the buffer are left alone, and the new frame is the one that is computed
from them. -/
theorem computeTheMean_eq
    (valid : pointers.map (fun pointer => heap[pointer]?) = frames.map some) :
    computeTheMean pointers.length (pointers.map some) heap =
      some (match Viewer.computeTheMean pointers.length frames with
        | none => (none, heap)
        | some mean => (some heap.length, heap ++ [mean])) := by
  have count : pointers.length = frames.length := by
    simpa only [List.length_map] using congrArg List.length valid
  rw [computeTheMean, Viewer.computeTheMean, List.length_map, if_neg (Nat.lt_irrefl _),
    List.take_of_length_le (List.length_map _).le, List.take_of_length_le count.ge]
  cases pointers with
  | nil =>
      cases frames with
      | nil => rfl
      | cons => cases valid
  | cons pointer later =>
      cases frames with
      | nil => cases valid
      | cons frame rest =>
          obtain ⟨found, valid⟩ := List.cons.inj valid
          simp only [List.map_cons, found, Option.bind_eq_bind, Option.bind_some,
            addFrames_eq frame valid]
          rfl

theorem computeTheMean_unmodified (valid : ∀ pointer ∈ pointers, pointer < heap.length) :
    ∃ fout later, computeTheMean pointers.length (pointers.map some) heap =
      some (fout, heap ++ later) := by
  obtain ⟨frames, found⟩ : ∃ frames : List Frame,
      pointers.map (fun pointer => heap[pointer]?) = frames.map some := by
    refine ⟨pointers.pmap (fun pointer inside => heap[pointer]) valid, ?_⟩
    rw [List.map_pmap, ← List.pmap_eq_map valid]
    exact List.pmap_congr_left _ fun pointer _ inside _ => List.getElem?_eq_getElem inside
  rw [computeTheMean_eq found]
  cases Viewer.computeTheMean pointers.length frames with
  | none => exact ⟨none, [], by rw [List.append_nil]⟩
  | some mean => exact ⟨some heap.length, [mean], rfl⟩

end Heap

end Memory

section Windows

/-- The parts of a list that consist of `b` consecutive elements, in order -/
def windows {α : Type} (b : Nat) (frames : List α) : List (List α) :=
  (List.range (frames.length + 1 - b)).map fun i => (frames.drop i).take b

variable {Frame : Type}

theorem computeTheMean_eq_sum [AddMonoid Frame] {b : Nat} {buffer : List Frame}
    (nonempty : buffer.take b ≠ []) : computeTheMean b buffer = some (buffer.take b).sum := by
  rw [computeTheMean]
  cases taken : buffer.take b with
  | nil => exact absurd taken nonempty
  | cons first later =>
      rw [List.sum_eq_foldl, List.foldl_cons, zero_add]

/-- `BufferedMean` sends the sum of a window when it receives the frame after it. -/
theorem BufferedMean.emissions_eq [Add Frame] {b : Nat} (positive : 0 < b) {buffer : List Frame}
    (full : buffer.length = b) (later : List Frame) :
    emissions b buffer later = (List.range later.length).map fun i =>
      computeTheMean b ((buffer ++ later).drop i) := by
  induction later generalizing buffer with
  | nil => rfl
  | cons frame later inductionHypothesis =>
      cases buffer with
      | nil => exact absurd full (Nat.ne_of_lt positive)
      | cons first rest =>
          have next := @inductionHypothesis (rest ++ [frame]) (by simpa using full)
          have now : computeTheMean b (first :: rest) =
              computeTheMean b (first :: rest ++ frame :: later) := by
            rw [computeTheMean, computeTheMean, List.take_append_of_le_length full.ge]
          rw [emissions, List.tail_cons, next, now, List.length_cons, List.range_succ_eq_map,
            List.map_cons, List.map_map, List.append_assoc]
          rfl

theorem BufferedMean.emissions_sums [AddMonoid Frame] {b : Nat} (positive : 0 < b)
    (frames : List Frame) :
    emissions b (frames.take b) (frames.drop b) =
      ((windows b frames).dropLast.map List.sum).map some := by
  rw [windows]
  rcases Nat.lt_or_ge frames.length b with few | enough
  · rw [List.drop_eq_nil_of_le few.le, Nat.sub_eq_zero_of_le few]
    rfl
  · have length : (frames.take b).length = b := by
      rw [List.length_take]
      omega
    rw [emissions_eq positive length, List.take_append_drop, List.length_drop,
      Nat.sub_add_comm enough, ← List.map_dropLast, List.range_succ, List.dropLast_concat,
      List.map_map, List.map_map]
    refine List.map_congr_left fun i membership => ?_
    rw [List.mem_range] at membership
    apply computeTheMean_eq_sum
    rw [Ne, List.take_eq_nil_iff, List.drop_eq_nil_iff]
    omega

def marked (frames : List Frame) : List (FramePtr Frame) := frames.map some ++ [none]

def only (inlet : Wire) (values : List (inlet.Value Frame)) :
    (wire : Wire) → List (wire.Value Frame) :=
  Function.update (fun _ => []) inlet values

/-- A node that gets these values, and nothing else, sends those ones and finishes. -/
def Emits {Local : Type} (run : Local → Instruction (Wire.Value Frame) Local) (start : Local)
    (inlet : Wire) (received : List (inlet.Value Frame)) (outlet : Wire)
    (sent : List (outlet.Value Frame)) : Prop :=
  ∃ acts, Performs run start (only inlet received) acts .finished ∧
    receivedOn inlet acts = received.length ∧ sentOn outlet acts = sent

theorem Emits.unique {Local : Type} {run : Local → Instruction (Wire.Value Frame) Local}
    {start : Local} {inlet : Wire} {received : List (inlet.Value Frame)} {outlet : Wire}
    {sent other : List (outlet.Value Frame)} (emits : Emits run start inlet received outlet sent)
    (same : Emits run start inlet received outlet other) : other = sent := by
  obtain ⟨acts, performs, -, rfl⟩ := emits
  obtain ⟨_, again, -, rfl⟩ := same
  rw [(performs.unique again).1]

theorem BufferedMean.emits [Add Frame] (b : Nat) (frames : List Frame) :
    Emits (run b) (fillTheBuffer b []) .frameChan (marked frames) .bufferChan
      (emissions b (frames.take b) (frames.drop b) ++ [none]) := by
  obtain ⟨acts, performs, emitted, calls⟩ := performs b frames
  refine ⟨acts, performs _ (Function.update_self ..), ?_, emitted⟩
  rw [calls, marked, List.length_append, List.length_map, List.length_singleton]

theorem FrameMean.emits [Add Frame] (first : Frame) (later : List Frame) :
    Emits run .first .bufferChan (marked (first :: later)) .meanChan (marked later) := by
  obtain ⟨acts, performs, passed, calls⟩ := performs first later
  refine ⟨acts, performs _ (Function.update_self ..), ?_, passed⟩
  rw [calls, marked, List.length_append, List.length_map, List.length_singleton,
    List.length_cons]

theorem FrameMean.emits_nothing [Add Frame] (sent : List (FramePtr Frame)) :
    ¬ Emits run .first .bufferChan (marked ([] : List Frame)) .meanChan sent := by
  rintro ⟨acts, performs, -⟩
  cases (performs.unique (performs_nothing _ (Function.update_self ..))).2

/-- `FrameRecv` sees the sums of all windows but the first and the last one. -/
theorem frameRecv_sees [AddMonoid Frame] {b : Nat} (positive : 0 < b) (frames : List Frame)
    (enough : b < frames.length) :
    Emits (BufferedMean.run b) (.fillTheBuffer b []) .frameChan (marked frames) .bufferChan
        (marked ((windows b frames).dropLast.map List.sum)) ∧
      Emits FrameMean.run .first .bufferChan (marked ((windows b frames).dropLast.map List.sum))
        .meanChan (marked ((windows b frames).dropLast.tail.map List.sum)) := by
  have emitted := BufferedMean.emits b frames
  rw [BufferedMean.emissions_sums positive] at emitted
  refine ⟨emitted, ?_⟩
  have length : (windows b frames).dropLast.length = frames.length - b := by
    simp only [windows, List.length_dropLast, List.length_map, List.length_range]
    omega
  cases sums : (windows b frames).dropLast with
  | nil =>
      rw [sums, List.length_nil] at length
      omega
  | cons first later => exact FrameMean.emits _ _

section Images

variable {rows cols : Nat}

/-- A frame with exact numbers instead of floating point ones -/
abbrev Image (rows cols : Nat) := Fin rows → Fin cols → Rat

def mean (window : List (Image rows cols)) : Image rows cols :=
  (window.length : Rat)⁻¹ • window.sum

/-- What the two stages are for: the means of the windows are sent and passed on, and the
frames are left alone. -/
structure SlidingWindow (b : Nat) (frames : List (Image rows cols)) : Prop where
  emits : Emits (BufferedMean.run b) (.fillTheBuffer b []) .frameChan (marked frames)
    .bufferChan (marked ((windows b frames).map mean))
  unmodified : ∀ (heap : Heap (Image rows cols)) (pointers : List Nat), pointers.length = b →
    (∀ pointer ∈ pointers, pointer < heap.length) →
    ∃ fout later, Heap.computeTheMean b (pointers.map some) heap = some (fout, heap ++ later)
  passes : ∀ emitted, Emits (BufferedMean.run b) (.fillTheBuffer b []) .frameChan
      (marked frames) .bufferChan emitted →
    Emits FrameMean.run .first .bufferChan emitted .meanChan emitted
  sees : ∃ acts, Performs FrameRecv.run (.loop 0)
      (only .meanChan (marked ((windows b frames).map mean))) acts .finished ∧
    receivedOn .meanChan acts = (windows b frames).length + 1

theorem length_windows (b : Nat) (frames : List Frame) :
    (windows b frames).length = frames.length + 1 - b := by
  rw [windows, List.length_map, List.length_range]

/-- The means of the windows are sent if there are none. -/
theorem bufferedMean_emits_iff (b : Nat) (frames : List (Image rows cols)) :
    Emits (BufferedMean.run b) (.fillTheBuffer b []) .frameChan (marked frames) .bufferChan
      (marked ((windows b frames).map mean)) ↔ frames.length < b := by
  have actual := BufferedMean.emits b frames
  constructor
  · intro emits
    have lengths := congrArg List.length (actual.unique emits)
    simp only [marked, List.length_append, List.length_map, length_windows,
      BufferedMean.length_emissions, List.length_drop, List.length_singleton] at lengths
    omega
  · intro few
    rw [List.drop_eq_nil_of_le few.le] at actual
    rw [windows, Nat.sub_eq_zero_of_le few]
    exact actual

/-- The two stages never do what they are for: if there is a window then one is missing,
and if there is none then `FrameMean` fails. -/
theorem slidingWindow_never (b : Nat) (frames : List (Image rows cols)) :
    ¬ SlidingWindow b frames := by
  intro sliding
  have few := (bufferedMean_emits_iff b frames).mp sliding.emits
  have passes := sliding.passes _ sliding.emits
  rw [windows, Nat.sub_eq_zero_of_le few] at passes
  exact FrameMean.emits_nothing _ passes

/-- Of three frames the first two are added up, and that is all. -/
theorem slidingWindow_threeFrames :
    ¬ SlidingWindow 2 ([1, 2, 3].map fun value => (fun _ _ => value : Image 1 1)) ∧
      Emits (BufferedMean.run 2) (.fillTheBuffer 2 []) .frameChan
        (marked ([1, 2, 3].map fun value => (fun _ _ => value : Image 1 1)))
        .bufferChan (marked [fun _ _ => 3]) := by
  constructor
  · intro sliding
    have few := (bufferedMean_emits_iff _ _).mp sliding.emits
    simp at few
  · have emitted := BufferedMean.emits 2 ([1, 2, 3].map fun value => (fun _ _ => value : Image 1 1))
    have added : (fun _ _ => 1 : Image 1 1) + (fun _ _ => 2) = fun _ _ => 3 := by
      funext row col
      change (1 : Rat) + 2 = 3
      norm_num
    simpa [BufferedMean.emissions, computeTheMean, marked, added] using emitted

end Images

end Windows

end Gloc.Viewer
