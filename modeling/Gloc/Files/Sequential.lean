import Gloc.Files.Histories
import Mathlib.Data.List.Induction

/-!
# Frame after frame

`getNextFrame` counts its calls in an `int`.  The count is right for as long as
it fits; a file that has been read to its end is read again from its first
frame once the count has come round.
-/

namespace Gloc.Files

namespace CuboidFile

def Call.isNext : Call → Bool
  | .getFrame _ _ => false
  | .getNextFrame _ => true

def nextFrames (calls : List Call) : Nat :=
  calls.countP Call.isNext

/-- After these calls on a file that has been loaded, `getNextFrame` returns the next
frame, or throws when there is none. -/
def ReturnsNext (cub : CuboidFile) (earlier : List Call) (memory : Uninitialised) : Prop :=
  (nextFrames earlier + 1 ≤ cub.getFrameCount →
    ∃ frame, ((cub.afterCalls earlier).getFrame memory (nextFrames earlier)).1 = .ok frame ∧
      ((cub.afterCalls earlier).getNextFrame memory).1 = .ok frame) ∧
  (cub.getFrameCount < nextFrames earlier + 1 →
    ((cub.afterCalls earlier).getNextFrame memory).1 = .error .cubEnd)

def Sequential (cub : CuboidFile) (calls : List Call) : Prop :=
  ∀ earlier memory later, calls = earlier ++ .getNextFrame memory :: later →
    cub.ReturnsNext earlier memory

theorem afterCalls_snoc (cub : CuboidFile) (earlier : List Call) (call : Call) :
    cub.afterCalls (earlier ++ [call]) = (cub.afterCalls earlier).after call := by
  unfold afterCalls
  rw [List.foldl_append]
  rfl

theorem nextFrames_snoc (earlier : List Call) (call : Call) :
    nextFrames (earlier ++ [call]) = nextFrames earlier + if call.isNext then 1 else 0 := by
  unfold nextFrames
  rw [List.countP_append, List.countP_singleton]

theorem after_members (cub : CuboidFile) (call : Call) :
    (cub.after call).header = cub.header ∧ (cub.after call).frameCount = cub.frameCount ∧
      (cub.after call).currentFramePosition =
        if call.isNext then int32 (cub.currentFramePosition + 1)
        else cub.currentFramePosition := by
  cases call with
  | getFrame memory i =>
      obtain ⟨fileIn, done⟩ := cub.getFrame_snd memory i
      rw [after, done]
      exact ⟨rfl, rfl, rfl⟩
  | getNextFrame memory =>
      obtain ⟨fileIn, done⟩ := getFrame_snd
        { cub with currentFramePosition := int32 (cub.currentFramePosition + 1) } memory
        (sizeT (int32 (cub.currentFramePosition + 1)))
      rw [after, getNextFrame, done]
      exact ⟨rfl, rfl, rfl⟩

theorem int32_int32_add_one (value : Int) : int32 (int32 value + 1) = int32 (value + 1) := by
  unfold int32
  omega

theorem afterCalls_members {cub : CuboidFile} (start : cub.currentFramePosition = -1)
    (calls : List Call) :
    (cub.afterCalls calls).header = cub.header ∧
      (cub.afterCalls calls).frameCount = cub.frameCount ∧
      (cub.afterCalls calls).currentFramePosition = int32 (nextFrames calls - 1) := by
  induction calls using List.reverseRecOn with
  | nil => exact ⟨rfl, rfl, start⟩
  | append_singleton earlier call inductionHypothesis =>
      obtain ⟨header, frameCount, position⟩ := inductionHypothesis
      obtain ⟨headerAfter, frameCountAfter, positionAfter⟩ :=
        (cub.afterCalls earlier).after_members call
      rw [afterCalls_snoc, nextFrames_snoc]
      refine ⟨headerAfter.trans header, frameCountAfter.trans frameCount, ?_⟩
      rw [positionAfter, position]
      cases call.isNext with
      | false => rfl
      | true =>
          rw [if_pos rfl, if_pos rfl, int32_int32_add_one]
          apply congrArg
          push_cast
          omega

theorem getFrame_moved (cub : CuboidFile) (position : Int) (memory : Uninitialised) (i : Nat) :
    (getFrame { cub with currentFramePosition := position } memory i).1 =
      (cub.getFrame memory i).1 := by
  unfold getFrame
  split
  · rfl
  · rfl

theorem getNextFrame_eq {cub : CuboidFile} (start : cub.currentFramePosition = -1)
    (earlier : List Call) (memory : Uninitialised) :
    ((cub.afterCalls earlier).getNextFrame memory).1 =
      ((cub.afterCalls earlier).getFrame memory (sizeT (int32 (nextFrames earlier)))).1 := by
  obtain ⟨-, -, position⟩ := afterCalls_members start earlier
  unfold getNextFrame
  rw [getFrame_moved]
  change ((cub.afterCalls earlier).getFrame memory
    (sizeT (int32 ((cub.afterCalls earlier).currentFramePosition + 1)))).1 = _
  rw [position, int32_int32_add_one, Int.sub_add_cancel]

theorem loadCub_position {file : File} {blank cub : CuboidFile}
    (opened : blank.loadCub file = .ok cub) : cub.currentFramePosition = -1 := by
  unfold loadCub readHeader at opened
  simp only at opened
  split at opened
  next => cases opened
  next =>
    cases opened
    rfl

theorem index_of_fits {count : Nat} (fits : count < 2 ^ 31) : sizeT (int32 count) = count := by
  unfold sizeT int32
  omega

theorem returnsNext {cub : CuboidFile} (start : cub.currentFramePosition = -1)
    (large : 16 ≤ cub.header.vWidth * cub.header.hWidth) {earlier : List Call}
    (fits : nextFrames earlier < 2 ^ 31) (memory : Uninitialised) :
    cub.ReturnsNext earlier memory := by
  obtain ⟨header, frameCount, -⟩ := afterCalls_members start earlier
  have same := getNextFrame_eq start earlier memory
  rw [index_of_fits fits] at same
  constructor
  · intro counted
    rw [← header] at large
    obtain ⟨frame, read⟩ := (cub.afterCalls earlier).exists_getFrame memory
      (frameCount.symm ▸ counted : nextFrames earlier < _) large
    exact ⟨frame, read, same.trans read⟩
  · intro beyond
    have counted : (cub.afterCalls earlier).frameCount ≤ nextFrames earlier := by
      rw [frameCount]
      exact Nat.lt_succ_iff.mp beyond
    rw [same, getFrame_beyond _ memory counted]

theorem Filled.unique {cub other : CuboidFile} {memory : Uninitialised} {bytes : List UInt8}
    {frame copy : CuboidFrame} (header : cub.header = other.header)
    (filled : cub.Filled memory bytes frame) (filledCopy : other.Filled memory bytes copy) :
    frame = copy := by
  have pixels : frame.pixelValues.toList = copy.pixelValues.toList := by
    rw [filled.pixels, filledCopy.pixels]
    exact congrArg (fun header : CuboidHeader =>
      ((CuboidFrame.new memory header.vWidth header.hWidth).pixelValues.store bytes).toList) header
  have headers : frame.header.memory.toList = copy.header.memory.toList := by
    rw [filled.header, filledCopy.header, pixels]
  have width : frame.width = copy.width := by rw [filled.width, filledCopy.width, header]
  have height : frame.height = copy.height := by rw [filled.height, filledCopy.height, header]
  have frameOffset : frame.frameOffset = copy.frameOffset := by
    rw [filled.frameOffset, filledCopy.frameOffset, header]
  obtain ⟨⟨_⟩, _, _, _, _⟩ := frame
  obtain ⟨⟨_⟩, _, _, _, _⟩ := copy
  subst width height frameOffset
  obtain rfl := List.Vector.eq _ _ headers
  obtain rfl := List.Vector.eq _ _ pixels
  rfl

end CuboidFile

theorem CuboidHeader.eq_of_bytes {first second : CuboidHeader}
    (same : first.memory.toList = second.memory.toList) : first = second := by
  obtain ⟨memory⟩ := first
  obtain ⟨copy⟩ := second
  exact congrArg CuboidHeader.mk (List.Vector.eq _ _ same)

/-- Two objects loaded from the same file return the same frames while their streams are
in order. -/
theorem Kept.getFrame_same {file : File} {cub other : CuboidFile} (kept : Kept file cub)
    (keptOther : Kept file other) (fine : cub.fileIn.failbit = false)
    (fineOther : other.fileIn.failbit = false)
    (large : 16 ≤ file.vWidth * file.hWidth) (memory : Uninitialised) (i : Nat) :
    (cub.getFrame memory i).1 = (other.getFrame memory i).1 := by
  have header : cub.header = other.header :=
    CuboidHeader.eq_of_bytes (kept.header.trans keptOther.header.symm)
  by_cases counted : i < file.recordCount
  · have bytes : cub.pixelBytes i = other.pixelBytes i := by
      by_cases held : file.Holds (file.posHeader i, 16)
      · rw [(kept.pixelBytes i).1 fine held, (keptOther.pixelBytes i).1 fineOther held]
      · rw [(kept.pixelBytes i).2 fun both => held both.2,
          (keptOther.pixelBytes i).2 fun both => held both.2]
    obtain ⟨frame, read, filled⟩ := @CuboidFile.getFrame_filled cub memory i
      (kept.frameCount ▸ counted) (by rwa [kept.vWidth, kept.hWidth])
    obtain ⟨copy, readOther, filledCopy⟩ := @CuboidFile.getFrame_filled other memory i
      (keptOther.frameCount ▸ counted) (by rwa [keptOther.vWidth, keptOther.hWidth])
    rw [← bytes] at filledCopy
    rw [read, readOther, filled.unique header filledCopy]
  · rw [cub.getFrame_beyond memory (kept.frameCount ▸ Nat.not_lt.mp counted),
      other.getFrame_beyond memory (keptOther.frameCount ▸ Nat.not_lt.mp counted)]

/-- In every run with no more than 2 ^ 31 calls of `getNextFrame`, each of them returns
what `getFrame` returns for the next number, and throws behind the last frame.  While the
file has answered everything, that is what `getFrame` returns right after the load. -/
theorem getNextFrame_sequential {file : File} {blank cub : CuboidFile}
    (opened : blank.loadCub file = .ok cub)
    (large : 16 ≤ cub.header.vWidth * cub.header.hWidth) (calls : List CuboidFile.Call)
    (fits : CuboidFile.nextFrames calls ≤ 2 ^ 31) :
    cub.Sequential calls ∧
      (512 ≤ file.size → ∀ earlier memory later,
        calls = earlier ++ .getNextFrame memory :: later →
        file.Answers (CuboidFile.asked (-1) earlier) →
        ((cub.afterCalls earlier).getNextFrame memory).1 =
          (cub.getFrame memory (CuboidFile.nextFrames earlier)).1) := by
  have start := CuboidFile.loadCub_position opened
  have before : ∀ earlier memory later, calls = earlier ++ .getNextFrame memory :: later →
      CuboidFile.nextFrames earlier < 2 ^ 31 := by
    rintro earlier memory later rfl
    unfold CuboidFile.nextFrames at fits ⊢
    rw [List.countP_append, List.countP_cons_of_pos (by rfl)] at fits
    omega
  refine ⟨fun earlier memory later run =>
    CuboidFile.returnsNext start large (before earlier memory later run) memory, ?_⟩
  intro headed earlier memory later run answered
  have loaded := (Loaded.of_loadCub headed opened).1
  obtain ⟨position, stream⟩ := loaded.stream
  have fine : cub.fileIn.failbit = false := by
    rw [stream]
    rfl
  obtain ⟨kept, inOrder⟩ := (Kept.of_loaded loaded).afterCalls earlier
  rw [start] at inOrder
  rw [CuboidFile.getNextFrame_eq start,
    CuboidFile.index_of_fits (before earlier memory later run)]
  rw [loaded.vWidth, loaded.hWidth] at large
  exact kept.getFrame_same (Kept.of_loaded loaded) (inOrder.mpr ⟨fine, answered⟩) fine large
    memory _

theorem getNextFrame_sequential_black :
    ∃ cub, CuboidFile.loadCub default (.black 1 (by decide)) = .ok cub ∧
      cub.Sequential [.getNextFrame default, .getFrame default 0, .getNextFrame default] := by
  obtain ⟨cub, opened, -, large⟩ := @File.exists_loadCub_black 1 (by decide) default
  exact ⟨cub, opened, (getNextFrame_sequential opened large _ (by decide)).1⟩

/-- The call after 2 ^ 32 others returns the only frame of a file for the second time. -/
theorem getNextFrame_comesRound :
    ∃ cub, CuboidFile.loadCub default (.black 1 (by decide)) = .ok cub ∧
      16 ≤ cub.header.vWidth * cub.header.hWidth ∧ cub.getFrameCount = 1 ∧
      (∃ frame, ((cub.afterCalls
        (List.replicate (2 ^ 32) (.getNextFrame default))).getNextFrame default).1 = .ok frame) ∧
      ¬ cub.Sequential (List.replicate (2 ^ 32) (.getNextFrame default) ++
        [.getNextFrame default]) := by
  obtain ⟨cub, opened, count, large⟩ := @File.exists_loadCub_black 1 (by decide) default
  have start := CuboidFile.loadCub_position opened
  have calls : CuboidFile.nextFrames (List.replicate (2 ^ 32) (.getNextFrame default)) =
      2 ^ 32 := by
    unfold CuboidFile.nextFrames
    rw [List.countP_replicate, if_pos (by rfl)]
  have index : sizeT (int32 (2 ^ 32 : Nat)) = 0 := by decide
  obtain ⟨header, frameCount, -⟩ := CuboidFile.afterCalls_members start
    (List.replicate (2 ^ 32) (.getNextFrame default))
  have returned := CuboidFile.getNextFrame_eq start
    (List.replicate (2 ^ 32) (.getNextFrame default)) default
  rw [calls, index] at returned
  have counted : 0 < (cub.afterCalls
      (List.replicate (2 ^ 32) (.getNextFrame default))).frameCount := by
    rw [frameCount]
    exact Nat.lt_of_lt_of_eq Nat.one_pos count.symm
  obtain ⟨frame, read⟩ :=
    CuboidFile.exists_getFrame _ default counted (by rwa [header])
  refine ⟨cub, opened, large, count, ⟨frame, returned.trans read⟩, ?_⟩
  intro sequential
  obtain ⟨-, throws⟩ := sequential _ default [] rfl
  rw [calls, count] at throws
  cases (returned.trans read).symm.trans (throws (by decide))

end Gloc.Files
