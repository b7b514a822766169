import Gloc.Files.Records

/-!
# Counting and locating frames in any file

The number of frames is a quotient of signed numbers that is stored in an
unsigned one, and a frame is looked for at a multiple of a stride that has 32
bits only.  Which headers and which sizes these computations are right for is
the subject here; nothing is assumed about the layout of the file.
-/

namespace Gloc.Files

namespace File

variable {file : File} {i : Nat}

/-- A record is counted if and only if it lies in the file as a whole. -/
theorem counted_iff (positive : 0 < file.stride) :
    i < file.recordCount ↔ 512 + file.stride * (i + 1) ≤ file.size := by
  unfold recordCount
  rw [Nat.lt_iff_add_one_le, Nat.le_div_iff_mul_le positive, Nat.mul_comm]
  have some : file.stride ≤ file.stride * (i + 1) := Nat.le_mul_of_pos_right _ (Nat.succ_pos i)
  omega

theorem tdiv_truncated (truncated : file.size < 512) :
    ((file.size : Int) - (512 : Nat)).tdiv (2 * (file.length : Nat)) =
      -((512 - file.size) / file.stride : Nat) := by
  have missing : (file.size : Int) - (512 : Nat) = -((512 - file.size : Nat) : Int) := by omega
  rw [missing, Int.neg_tdiv]
  congr 1

end File

/-- `readHeader` counts the records that are in the file as a whole, so that
`getFrame` refuses all others. -/
def CountsRecords (file : File) (blank : CuboidFile) : Prop :=
  ∃ cub, blank.loadCub file = .ok cub ∧
    cub.getFrameCount =
      (if 512 ≤ file.size ∧ 0 < file.length then (file.size - 512) / (2 * file.length) else 0) ∧
    ∀ (earlier : List (Uninitialised × Nat)) (memory : Uninitialised) (i : Nat),
      ¬ 512 + 2 * file.length * (i + 1) ≤ file.size →
        ((cub.afterFrames earlier).getFrame memory i).1 = .error .cubEnd

namespace CuboidFile

theorem frameCount_afterFrames (cub : CuboidFile) (calls : List (Uninitialised × Nat)) :
    (cub.afterFrames calls).frameCount = cub.frameCount := by
  induction calls generalizing cub with
  | nil => rfl
  | cons call later inductionHypothesis =>
      obtain ⟨memory, i⟩ := call
      obtain ⟨fileIn, taken⟩ := cub.getFrame_snd memory i
      unfold afterFrames
      rw [inductionHypothesis, taken]

theorem getFrame_uncounted {cub : CuboidFile} {i : Nat} (uncounted : cub.frameCount ≤ i)
    (earlier : List (Uninitialised × Nat)) (memory : Uninitialised) :
    ((cub.afterFrames earlier).getFrame memory i).1 = .error .cubEnd := by
  rw [getFrame_beyond _ memory]
  rwa [frameCount_afterFrames]

end CuboidFile

/-- The frames of a file are counted correctly if and only if the header gives
them a length and no record would fit into what is missing before byte 512. -/
theorem countsRecords_iff {file : File} (headed : 20 ≤ file.size) (blank : CuboidFile) :
    CountsRecords file blank ↔
      0 < file.length ∧ (512 ≤ file.size ∨ 512 - file.size < 2 * file.length) := by
  constructor
  · rintro ⟨cub, opened, count, -⟩
    rw [CuboidFile.loadCub_headed headed] at opened
    split at opened
    next => cases opened
    next nonzero =>
      refine ⟨by omega, ?_⟩
      by_contra short
      rw [Except.ok.injEq] at opened
      subst opened
      rw [if_neg (by omega)] at count
      change sizeT _ = 0 at count
      rw [File.tdiv_truncated (by omega)] at count
      have missing : 0 < (512 - file.size) / file.stride := by
        apply Nat.div_pos
        · change 2 * file.length ≤ _
          omega
        · change 0 < 2 * file.length
          omega
      have few : (512 - file.size) / file.stride ≤ 512 - file.size := Nat.div_le_self ..
      unfold sizeT at count
      omega
  · rintro ⟨positive, enough⟩
    have stride : 0 < file.stride := by
      change 0 < 2 * file.length
      omega
    have opened := CuboidFile.loadCub_headed headed blank
    rw [if_neg (by omega)] at opened
    have count : sizeT (((file.size : Int) - (512 : Nat)).tdiv (2 * (file.length : Nat))) =
        file.recordCount := by
      by_cases whole : 512 ≤ file.size
      · exact File.sizeT_tdiv whole
      · have none : (512 - file.size) / file.stride = 0 := Nat.div_eq_of_lt (by
          change _ < 2 * file.length
          omega)
        have nothing : file.recordCount = 0 := by
          unfold File.recordCount
          rw [Nat.sub_eq_zero_of_le (by omega), Nat.zero_div]
        rw [File.tdiv_truncated (by omega), none, nothing]
        rfl
    rw [count] at opened
    refine ⟨_, opened, ?_, ?_⟩
    · change file.recordCount = _
      split
      next => rfl
      next short =>
        unfold File.recordCount
        rw [Nat.sub_eq_zero_of_le (by omega), Nat.zero_div]
    · intro earlier memory i outside
      apply CuboidFile.getFrame_uncounted
      change file.recordCount ≤ i
      rw [← Nat.not_lt, File.counted_iff stride]
      exact outside

def File.ofHeader (header : Block 12) (rest : Nat) (few : rest < 2 ^ 62) : File where
  content := List.replicate 8 0 ++ header.toList ++ List.replicate rest 0
  addressable := by
    rw [List.length_append, List.length_append, List.length_replicate, List.length_replicate,
      header.toList_length]
    omega

namespace File

variable {header : Block 12} {rest : Nat} {few : rest < 2 ^ 62}

theorem size_ofHeader : (ofHeader header rest few).size = 20 + rest := by
  unfold size ofHeader
  rw [List.length_append, List.length_append, List.length_replicate, List.length_replicate,
    header.toList_length]

theorem fieldAt_ofHeader {offset width : Nat} (inside : offset + width ≤ 12) :
    fieldAt (ofHeader header rest few).content (8 + offset) width =
      fieldAt header.toList offset width := by
  have length := header.toList_length
  have skipped : ((ofHeader header rest few).content).drop (8 + offset) =
      (header.toList ++ List.replicate rest 0).drop offset := by
    change (List.replicate 8 0 ++ header.toList ++ List.replicate rest 0).drop _ = _
    rw [List.append_assoc, List.drop_append, List.drop_eq_nil_of_le (by simp), List.nil_append,
      List.length_replicate, Nat.add_sub_cancel_left]
  rw [fieldAt, slice, skipped]
  exact congrArg littleEndian (slice_append_of_le (by omega))

theorem length_ofHeader :
    (ofHeader header rest few).length = fieldAt header.toList 8 4 :=
  @fieldAt_ofHeader header rest few 8 4 (by decide)

end File

/-- A file that ends after a header with the length 1024. -/
theorem countsRecords_iff_truncated :
    ∃ file : File, file.size = 20 ∧ file.length = 1024 ∧ CountsRecords file default := by
  obtain ⟨file, size, length⟩ : ∃ file : File, file.size = 20 ∧ file.length = 1024 :=
    ⟨.ofHeader ⟨[1, 0, 1, 0, 0, 0, 0, 0, 0, 4, 0, 0], rfl⟩ 0 (by decide), File.size_ofHeader,
      File.length_ofHeader.trans (by decide)⟩
  refine ⟨file, size, length, (countsRecords_iff size.ge default).mpr ?_⟩
  rw [size, length]
  decide

/-- A header with the length 0 ends the process; and if a file has nothing but the
headers then there are said to be 2 ^ 64 - 246 frames of length 1. -/
theorem truncated_miscounted :
    (∃ file : File, file.size = 20 ∧ file.length = 0 ∧
      CuboidFile.loadCub default file = .error .divisionByZero ∧
      ¬ CountsRecords file default) ∧
    ∃ (file : File) (cub : CuboidFile), file.size = 20 ∧ file.length = 1 ∧
      CuboidFile.loadCub default file = .ok cub ∧ cub.getFrameCount = 2 ^ 64 - 246 ∧
      ¬ CountsRecords file default := by
  constructor
  · obtain ⟨file, size, zero⟩ : ∃ file : File, file.size = 20 ∧ file.length = 0 :=
      ⟨.ofHeader ⟨[16, 0, 1, 0, 0, 0, 0, 0, 0, 0, 0, 0], rfl⟩ 0 (by decide),
        File.size_ofHeader, File.length_ofHeader.trans (by decide)⟩
    have ended := CuboidFile.loadCub_headed size.ge default
    rw [if_pos (by rw [zero])] at ended
    refine ⟨file, size, zero, ended, ?_⟩
    rintro ⟨cub, opened, -⟩
    cases ended.symm.trans opened
  · obtain ⟨file, size, one⟩ : ∃ file : File, file.size = 20 ∧ file.length = 1 :=
      ⟨.ofHeader ⟨[16, 0, 1, 0, 0, 0, 0, 0, 1, 0, 0, 0], rfl⟩ 0 (by decide),
        File.size_ofHeader, File.length_ofHeader.trans (by decide)⟩
    have opened := CuboidFile.loadCub_headed size.ge default
    rw [if_neg (by rw [one]; decide), size, one] at opened
    have count : sizeT (((20 : Nat) - (512 : Nat) : Int).tdiv (2 * (1 : Nat))) =
        2 ^ 64 - 246 := by decide
    refine ⟨file, _, size, one, opened, count, ?_⟩
    rintro ⟨cub, again, recorded, -⟩
    obtain rfl := Except.ok.inj (opened.symm.trans again)
    rw [size] at recorded
    cases count.symm.trans recorded

/-- `getFrame` looks for a frame where `readHeader` has counted it: at a multiple of
twice the length, apart from all other frames and inside the file. -/
def LocatesRecords (file : File) (cub : CuboidFile) : Prop :=
  (∀ i, i < cub.getFrameCount → cub.posHeader i = 512 + 2 * file.length * i) ∧
  (∀ i j, i < cub.getFrameCount → j < cub.getFrameCount → i ≠ j →
    cub.posHeader i + 2 * file.length ≤ cub.posHeader j ∨
      cub.posHeader j + 2 * file.length ≤ cub.posHeader i) ∧
  ∀ i, i < cub.getFrameCount → cub.posHeader i + 2 * file.length ≤ file.size

/-- Frames are looked for in the right place if and only if twice the length has 32
bits, or there is no frame after the first one. -/
theorem locatesRecords_iff {file : File} (headed : 512 ≤ file.size) {blank cub : CuboidFile}
    (opened : blank.loadCub file = .ok cub) :
    LocatesRecords file cub ↔ file.length < 2 ^ 31 ∨ file.size < 512 + 2 * (2 * file.length) := by
  obtain ⟨loaded, positive⟩ := Loaded.of_loadCub headed opened
  have count : cub.getFrameCount = file.recordCount := loaded.frameCount
  have first : sizeT cub.firstFrame = 512 := by
    rw [loaded.firstFrame]
    decide
  constructor
  · rintro ⟨located, -, -⟩
    by_contra condition
    -- the second frame is counted, and looked for less than 4 GiB after the first one
    have second : 1 < cub.getFrameCount := by
      rw [count, File.counted_iff positive]
      change 512 + 2 * file.length * 2 ≤ _
      omega
    have place := located 1 second
    have wrapped : 2 * file.length % 2 ^ 32 < 2 ^ 32 := Nat.mod_lt _ (by decide)
    have reduced : (512 + 2 * file.length % 2 ^ 32 * 1) % 2 ^ 64 ≤
        512 + 2 * file.length % 2 ^ 32 * 1 := Nat.mod_le ..
    rw [CuboidFile.posHeader, first, loaded.length] at place
    omega
  · intro condition
    have located : ∀ i, i < cub.getFrameCount →
        cub.posHeader i = 512 + 2 * file.length * i := by
      intro i below
      rw [count] at below
      rcases condition with fits | single
      · exact loaded.posHeader headed (by change 2 * file.length < _; omega) below
      · have inside := (File.counted_iff positive).mp below
        change 512 + 2 * file.length * (i + 1) ≤ _ at inside
        have zero : i = 0 := by
          by_contra later
          have twice : 2 * file.length * 2 ≤ 2 * file.length * (i + 1) :=
            Nat.mul_le_mul_left _ (by omega)
          omega
        subst zero
        rw [CuboidFile.posHeader, first, Nat.mul_zero, Nat.mul_zero]
        decide
    refine ⟨located, ?_, ?_⟩
    · intro i j iBelow jBelow different
      rw [located i iBelow, located j jBelow]
      rcases Nat.lt_or_gt_of_ne different with before | after
      · have apart : 2 * file.length * (i + 1) ≤ 2 * file.length * j :=
          Nat.mul_le_mul_left _ before
        rw [Nat.mul_add_one] at apart
        omega
      · have apart : 2 * file.length * (j + 1) ≤ 2 * file.length * i :=
          Nat.mul_le_mul_left _ after
        rw [Nat.mul_add_one] at apart
        omega
    · intro i below
      have inside := (File.counted_iff positive).mp (count ▸ below)
      rw [located i below]
      change 512 + 2 * file.length * (i + 1) ≤ _ at inside
      rw [Nat.mul_add_one] at inside
      omega

/-- Four frames with records of 64 bytes. -/
theorem locatesRecords_iff_black :
    ∃ cub, CuboidFile.loadCub default (.black 4 (by decide)) = .ok cub ∧
      LocatesRecords (.black 4 (by decide)) cub := by
  obtain ⟨cub, opened, -, -⟩ := @File.exists_loadCub_black 4 (by decide) default
  have wellFormed : WellFormed (.black 4 (by decide)) := File.wellFormed_column
  have fits := wellFormed.fits
  change 2 * File.length _ < _ at fits
  exact ⟨cub, opened, (locatesRecords_iff wellFormed.headed opened).mpr (.inl (by omega))⟩

/-- With records of 4 GiB the second frame is looked for where the first one is. -/
theorem second_frame_at_first :
    ∃ (file : File) (cub : CuboidFile), file.size = 512 + 2 ^ 33 ∧ file.length = 2 ^ 31 ∧
      CuboidFile.loadCub default file = .ok cub ∧ cub.getFrameCount = 2 ∧
      cub.posHeader 1 = cub.posHeader 0 ∧ ¬ LocatesRecords file cub := by
  obtain ⟨file, size, long⟩ : ∃ file : File, file.size = 20 + (492 + 2 ^ 33) ∧
      file.length = 2 ^ 31 :=
    ⟨.ofHeader ⟨[16, 0, 1, 0, 0, 0, 0, 0, 0, 0, 0, 128], rfl⟩ (492 + 2 ^ 33) (by decide),
      File.size_ofHeader, File.length_ofHeader.trans (by decide)⟩
  have headed : 512 ≤ file.size := by omega
  have opened := CuboidFile.loadCub_headed (by omega : 20 ≤ file.size) default
  rw [if_neg (by omega)] at opened
  obtain ⟨loaded, -⟩ := Loaded.of_loadCub headed opened
  have count : file.recordCount = 2 := by
    unfold File.recordCount File.stride
    rw [size, long]
    decide
  refine ⟨file, _, by omega, long, opened, loaded.frameCount.trans count, ?_, ?_⟩
  · rw [CuboidFile.posHeader, CuboidFile.posHeader, loaded.length, long]
    rfl
  · rintro ⟨located, -⟩
    have second := located 1 (by rw [CuboidFile.getFrameCount, loaded.frameCount, count]; decide)
    rw [CuboidFile.posHeader, loaded.length, loaded.firstFrame, long] at second
    revert second
    decide

end Gloc.Files
