import Gloc.Files.Laserxa

/-!
# Records of laser files

The number of records is computed as the size of the file minus a part of the
position of the first record.  It is too large for every file; in between, the
reader asks for records that are not there, and answers with memory that
nobody has written to.  The direction of a scan is read from such records.
-/

namespace Gloc.Files

universe u

namespace File

def laserRecords (file : File) : Nat := (file.size - 8) / 16

/-- What `LaserxaFile::init` takes for the number of records. -/
def laserCount (file : File) : Nat :=
  if 8 ≤ file.size then file.size else 2 ^ 64 - 2 ^ 60

variable {file : File} {i : Nat}

theorem laserCount_lt (file : File) : file.laserCount < 2 ^ 64 := by
  have addressable : file.size < 2 ^ 63 := file.addressable
  unfold laserCount
  split <;> omega

theorem laserRecords_lt_laserCount (file : File) : file.laserRecords < file.laserCount := by
  have addressable : file.size < 2 ^ 63 := file.addressable
  unfold laserRecords laserCount
  split <;> omega

theorem lt_laserRecords_iff : i < file.laserRecords ↔ 8 + 16 * i + 16 ≤ file.size := by
  unfold laserRecords
  omega

theorem pos_of_lt (inside : i < file.laserRecords) : LaserxaFile.pos i = 8 + 16 * i := by
  have addressable : file.size < 2 ^ 63 := file.addressable
  rw [lt_laserRecords_iff] at inside
  unfold LaserxaFile.pos
  omega

end File

/-- A `LaserxaFile` that has been opened on this file, whatever has been read from it
since. -/
structure Opened (file : File) (lxa : LaserxaFile) : Prop where
  dataCount : lxa.dataCount = file.laserCount
  stream : Reading file lxa.fileIn

namespace LaserxaFile

variable {file : File} {lxa : LaserxaFile}

theorem init_of_headed (blank : LaserxaFile) (headed : 8 ≤ file.size) :
    (blank.init file).dataCount = file.size ∧
      (blank.init file).fileIn = .onFile file file.size := by
  have addressable : file.size < 2 ^ 63 := file.addressable
  have start : Ifstream.seekgBeg (.onFile file 0) 0 = .onFile file 0 :=
    Ifstream.seekgBeg_onFile file 0 0
  have read : (Ifstream.onFile file 0).read 8 = _ :=
    Ifstream.read_onFile file 0 (by omega)
  simp only [init, Ifstream.openFile_eq, start, read, Ifstream.tellg_onFile,
    Ifstream.seekgEnd_onFile, and_true]
  unfold sizeT
  omega

theorem init_of_short (blank : LaserxaFile) (short : file.size < 8) :
    (blank.init file).dataCount = 2 ^ 64 - 2 ^ 60 ∧
      (blank.init file).fileIn.failbit = true := by
  have start : Ifstream.seekgBeg (.onFile file 0) 0 = .onFile file 0 :=
    Ifstream.seekgBeg_onFile file 0 0
  have failed : ((Ifstream.onFile file 0).read 8).2.failbit = true := by
    have few : (slice file.content 0 8).length < 8 := by
      rw [length_slice]
      simp only [File.size] at short
      omega
    simp [Ifstream.read, Ifstream.good, Ifstream.onFile, few]
  simp only [init, Ifstream.openFile_eq, start]
  generalize (Ifstream.onFile file 0).read 8 = answer at failed
  simp only [Ifstream.tellg, Ifstream.seekgEnd, failed, if_true]
  exact ⟨by decide, trivial⟩

end LaserxaFile

namespace Opened

variable {file : File} {lxa : LaserxaFile} {memory : LaserxaData} {i : Nat}

theorem init (file : File) (blank : LaserxaFile) : Opened file (blank.init file) := by
  by_cases headed : 8 ≤ file.size
  · obtain ⟨count, stream⟩ := blank.init_of_headed headed
    refine ⟨?_, .inl ⟨_, stream⟩⟩
    rw [count, File.laserCount, if_pos headed]
  · obtain ⟨count, failed⟩ := blank.init_of_short (Nat.lt_of_not_le headed)
    refine ⟨?_, .inr failed⟩
    rw [count, File.laserCount, if_neg headed]

theorem small (opened : Opened file lxa) : lxa.dataCount < 2 ^ 64 :=
  opened.dataCount ▸ file.laserCount_lt

theorem requests_small {call : LaserxaFile.Call} {size : Nat} {request : Nat × Nat}
    (membership : request ∈ call.requests size) : request.1 < 2 ^ 64 := by
  obtain ⟨i, -, rfl⟩ := List.mem_map.mp membership
  exact Nat.mod_lt _ (by decide)

theorem afterCalls (opened : Opened file lxa) (calls : List LaserxaFile.Call) :
    Opened file (lxa.afterCalls calls) ∧
      ((lxa.afterCalls calls).fileIn.failbit = false ↔
        lxa.fileIn.failbit = false ∧
          ∀ call ∈ calls, ∀ request ∈ call.requests file.laserCount, file.Holds request) := by
  induction calls generalizing lxa with
  | nil => exact ⟨opened, by simp [LaserxaFile.afterCalls]⟩
  | cons call later inductionHypothesis =>
      have requested := Ifstream.failbit_afterRequests opened.stream
        fun request membership => @requests_small call lxa.dataCount request membership
      have taken : Opened file (lxa.after call) := by
        rw [lxa.after_eq call opened.small]
        exact ⟨opened.dataCount, requested.1⟩
      obtain ⟨atLast, fine⟩ := inductionHypothesis taken
      refine ⟨atLast, ?_⟩
      change ((lxa.after call).afterCalls later).fileIn.failbit = false ↔ _
      rw [fine, lxa.after_eq call opened.small, List.forall_mem_cons, ← and_assoc,
        ← opened.dataCount]
      exact and_congr_left fun _ => requested.2

theorem getData_failed (failed : lxa.fileIn.failbit = true) (below : i < lxa.dataCount) :
    (lxa.getData memory i).1 = .ok memory ∧
      (lxa.getData memory i).2.fileIn.failbit = true := by
  obtain ⟨nothing, stillFailed⟩ := Ifstream.request_failed failed (LaserxaFile.pos i, 16)
  rw [lxa.getData_reads below, nothing]
  exact ⟨rfl, stillFailed⟩

theorem getData_returns (opened : Opened file lxa) (fine : lxa.fileIn.failbit = false)
    (inside : i < file.laserRecords) (memory : LaserxaData) :
    ∃ data, (lxa.getData memory i).1 = .ok data ∧
      data.memory.toList = slice file.content (8 + 16 * i) 16 := by
  have below : i < lxa.dataCount :=
    opened.dataCount ▸ inside.trans file.laserRecords_lt_laserCount
  have small : LaserxaFile.pos i < 2 ^ 64 := Nat.mod_lt _ (by decide)
  have read := @Ifstream.request_fst file _ (LaserxaFile.pos i, 16) opened.stream fine small
  rw [File.pos_of_lt inside] at read
  rw [lxa.getData_reads below, File.pos_of_lt inside, read]
  exact ⟨_, rfl, Block.toList_store_of_length _
    (length_slice_of_le (File.lt_laserRecords_iff.mp inside))⟩

end Opened

def HasDataOf (file : File) (i : Nat) (data : LaserxaData) : Prop :=
  data.frameNumber = fieldAt file.content (8 + 16 * i) 4 ∧
    data.timestampMs = fieldAt file.content (8 + 16 * i + 4) 4 ∧
    data.timestampTick = fieldAt file.content (8 + 16 * i + 8) 4 ∧
    data.eventCounter = fieldAt file.content (8 + 16 * i + 12) 4

theorem hasDataOf_of_eq {file : File} {i : Nat} {data : LaserxaData}
    (same : data.memory.toList = slice file.content (8 + 16 * i) 16) : HasDataOf file i data := by
  have members : ∀ offset, offset + 4 ≤ 16 →
      fieldAt data.memory.toList offset 4 = fieldAt file.content (8 + 16 * i + offset) 4 := by
    intro offset inside
    rw [same, fieldAt_slice inside]
  exact ⟨members 0 (by decide), members 4 (by decide), members 8 (by decide),
    members 12 (by decide)⟩

/-- The three ways to read a record treat an index as they should: they throw if there
is no such record, and return what is in the file otherwise. -/
structure ReadsRecord (double : Type u) [NatCast double] [Add double] [Div double]
    (file : File) (lxa : LaserxaFile) (i : Nat) : Prop where
  refuses : file.laserRecords ≤ i → ∀ memory, (lxa.getData memory i).1 = .error .lxaEnd ∧
    (lxa.get memory i).1 = .error .lxaEnd ∧ (lxa.getTimeAt double memory i).1 = .error .lxaEnd
  returns : i < file.laserRecords → ∀ memory, ∃ data, HasDataOf file i data ∧
    (lxa.getData memory i).1 = .ok data ∧ (lxa.get memory i).1 = .ok data ∧
    (lxa.getTimeAt double memory i).1 = .ok (LaserxaFile.time double data)

section Double

variable (double : Type u) [NatCast double] [Add double] [Div double]

theorem LaserxaFile.getTimeAt_fst (lxa : LaserxaFile) (memory : LaserxaData) (i : Nat) :
    (lxa.getTimeAt double memory i).1 = (lxa.getData memory i).1.map (time double) := by
  unfold getTimeAt
  split <;> rename_i taken <;> rw [taken] <;> rfl

/-- The number of records is wrong for every file.  Exactly those indices are treated
as they should that belong to a record, or that not even the wrong number
admits. -/
theorem readsRecord_iff (file : File) (blank : LaserxaFile) :
    ¬ ((blank.init file).size = file.laserRecords ∧
      ∀ i, i < 2 ^ 64 → ReadsRecord double file (blank.init file) i) ∧
    ∀ i, ReadsRecord double file (blank.init file) i ↔
      i < file.laserRecords ∨ (if 8 ≤ file.size then file.size else 2 ^ 64 - 2 ^ 60) ≤ i := by
  have opened := Opened.init file blank
  constructor
  · rintro ⟨count, -⟩
    have tooMany := file.laserRecords_lt_laserCount
    rw [LaserxaFile.size, opened.dataCount] at count
    omega
  · intro i
    change _ ↔ i < file.laserRecords ∨ file.laserCount ≤ i
    constructor
    · rintro ⟨refuses, -⟩
      by_contra condition
      simp only [not_or, Nat.not_lt, Nat.not_le] at condition
      have refused := (refuses condition.1 default).1
      rw [LaserxaFile.getData_reads (opened.dataCount ▸ condition.2)] at refused
      cases refused
    · rintro (inside | beyond)
      · refine ⟨fun outside => absurd inside (Nat.not_lt.mpr outside), fun _ memory => ?_⟩
        have fine : (blank.init file).fileIn.failbit = false := by
          have headed : 8 ≤ file.size := by
            have enough := File.lt_laserRecords_iff.mp inside
            omega
          rw [(blank.init_of_headed headed).2]
          rfl
        obtain ⟨data, read, same⟩ := opened.getData_returns fine inside memory
        refine ⟨data, hasDataOf_of_eq same, read, read, ?_⟩
        rw [LaserxaFile.getTimeAt_fst, read]
        rfl
      · have refused := fun memory =>
          @LaserxaFile.getData_refuses _ memory i (opened.dataCount ▸ beyond)
        refine ⟨fun _ memory => ?_, fun inside => ?_⟩
        · rw [LaserxaFile.get, LaserxaFile.getTimeAt_fst, refused]
          exact ⟨rfl, rfl, rfl⟩
        · exact absurd (inside.trans file.laserRecords_lt_laserCount) (Nat.not_lt.mpr beyond)

end Double

/-- A file that has nothing but the header is said to have eight records, and the first
of them is whatever was in memory. -/
theorem records_of_header :
    ∃ (file : File) (lxa : LaserxaFile), file.size = 8 ∧ lxa = LaserxaFile.init default file ∧
      lxa.size = 8 ∧ file.laserRecords = 0 ∧
      (∀ memory, (lxa.getData memory 0).1 = .ok memory) ∧
      ¬ (lxa.size = file.laserRecords ∧ ∀ i, i < 2 ^ 64 → ReadsRecord Nat file lxa i) := by
  obtain ⟨file, size⟩ : ∃ file : File, file.size = 8 :=
    ⟨⟨List.replicate 8 0, by decide⟩, List.length_replicate⟩
  have opened := Opened.init file default
  obtain ⟨count, stream⟩ := LaserxaFile.init_of_headed default size.ge
  rw [size] at count stream
  have none : file.laserRecords = 0 := by
    rw [File.laserRecords, size]
  refine ⟨file, _, size, rfl, count, none, fun memory => ?_, ?_⟩
  · have beyond : slice file.content 8 16 = [] := by
      rw [slice, List.drop_eq_nil_of_le size.le, List.take_nil]
    have read := @Ifstream.request_fst file _ (LaserxaFile.pos 0, 16) opened.stream
      (by rw [stream]; rfl) (by decide)
    rw [LaserxaFile.getData_reads (by rw [count]; decide), read]
    change Except.ok (⟨memory.memory.store (slice file.content 8 16)⟩ : LaserxaData) = _
    rw [beyond]
    rfl
  · rintro ⟨same, -⟩
    rw [LaserxaFile.size, count, none] at same
    cases same

namespace File

/-- The event counter of a record, as far as it is looked at. -/
def counter (file : File) (i : Nat) : Nat :=
  fieldAt file.content (8 + 16 * i + 12) 4 &&& 0xffffff

/-- The event counters of a forward scan, and of a backward scan. -/
def Increasing (file : File) : Prop :=
  ∀ i, i + 1 < file.laserRecords → file.counter i < file.counter (i + 1)

def Decreasing (file : File) : Prop :=
  ∀ i, i + 1 < file.laserRecords → file.counter (i + 1) < file.counter i

theorem counter_lt (file : File) (i : Nat) : file.counter i < 2 ^ 24 :=
  Nat.and_lt_two_pow _ (by decide)

theorem laserRecords_le (file : File) (monotone : file.Increasing ∨ file.Decreasing) :
    file.laserRecords ≤ 2 ^ 24 := by
  rcases monotone with increasing | decreasing
  · have above : ∀ i, i < file.laserRecords → i ≤ file.counter i := by
      intro i
      induction i with
      | zero => exact fun _ => Nat.zero_le _
      | succ i inductionHypothesis =>
          intro inside
          have before := inductionHypothesis (by omega)
          have step := increasing i inside
          omega
    by_contra many
    have last := above (2 ^ 24) (by omega)
    have bounded := file.counter_lt (2 ^ 24)
    omega
  · have below : ∀ i, i < file.laserRecords → file.counter i + i < 2 ^ 24 := by
      intro i
      induction i with
      | zero => exact fun _ => file.counter_lt 0
      | succ i inductionHypothesis =>
          intro inside
          have before := inductionHypothesis (by omega)
          have step := decreasing i inside
          omega
    by_contra many
    have last := below (2 ^ 24) (by omega)
    omega

end File

def TellsDirection (file : File) (lxa : LaserxaFile) : Prop :=
  (file.Increasing → ∀ memory1 memory2,
    (lxa.getDirectionFromLxa memory1 memory2).1 = .ok 0) ∧
  (file.Decreasing → ∀ memory1 memory2,
    (lxa.getDirectionFromLxa memory1 memory2).1 = .ok 1)

namespace Opened

variable {file : File} {lxa : LaserxaFile}

/-- The record in the middle of what is taken for their number is not in the file. -/
theorem getData_middle (opened : Opened file lxa) (headed : 8 ≤ file.size)
    (few : file.size < 2 ^ 60) (memory : LaserxaData) :
    lxa.getData memory (file.size / 2) =
        (.ok memory, { lxa with fileIn := (lxa.getData memory (file.size / 2)).2.fileIn }) ∧
      (lxa.getData memory (file.size / 2)).2.fileIn.failbit = true := by
  have count : lxa.dataCount = file.size := by
    rw [opened.dataCount, File.laserCount, if_pos headed]
  have below : file.size / 2 < lxa.dataCount := by omega
  have place : LaserxaFile.pos (file.size / 2) = 8 + 16 * (file.size / 2) := by
    unfold LaserxaFile.pos
    omega
  have answer : (lxa.fileIn.request (LaserxaFile.pos (file.size / 2), 16)).1 = [] ∧
      (lxa.fileIn.request (LaserxaFile.pos (file.size / 2), 16)).2.failbit = true := by
    rcases opened.stream with ⟨position, stream⟩ | failed
    · have missing : ¬ file.Holds (LaserxaFile.pos (file.size / 2), 16) := by
        rw [File.holds_iff (by decide), place]
        omega
      have beyond : slice file.content (LaserxaFile.pos (file.size / 2)) 16 = [] := by
        have outside : file.content.length ≤ LaserxaFile.pos (file.size / 2) := by
          change file.size ≤ _
          omega
        rw [slice, List.drop_eq_nil_of_le outside, List.take_nil]
      have short := @Ifstream.request_short file position
        (LaserxaFile.pos (file.size / 2), 16) (Nat.mod_lt _ (by decide)) missing
      rw [stream]
      exact ⟨short.1.trans beyond, short.2⟩
    · exact Ifstream.request_failed failed _
  rw [lxa.getData_reads below, answer.1]
  exact ⟨rfl, answer.2⟩

/-- What `get_direction_from_lxa` compares are two event counters out of nowhere. -/
theorem getDirection_eq (opened : Opened file lxa) (headed : 8 ≤ file.size)
    (few : file.size < 2 ^ 60) (memory1 memory2 : LaserxaData) :
    (lxa.getDirectionFromLxa memory1 memory2).1 = .ok
      (LaserxaFile.directionOf (LaserxaFile.maskedCounter memory1)
        (LaserxaFile.maskedCounter memory2)) := by
  have count : lxa.dataCount = file.size := by
    rw [opened.dataCount, File.laserCount, if_pos headed]
  obtain ⟨first, failed⟩ := opened.getData_middle headed few memory1
  have next : (file.size / 2 + 1) % 2 ^ 64 = file.size / 2 + 1 := Nat.mod_eq_of_lt (by omega)
  have second := @getData_failed
    { lxa with fileIn := (lxa.getData memory1 (file.size / 2)).2.fileIn } memory2
    (file.size / 2 + 1) failed
    (by change _ < lxa.dataCount; omega)
  simp only [LaserxaFile.getDirectionFromLxa, LaserxaFile.size, count, next]
  rw [first]
  generalize lxaFirst : LaserxaFile.mk _ _ _ = lxa' at second ⊢
  rcases taken : lxa'.getData memory2 (file.size / 2 + 1) with ⟨result, last⟩
  rw [taken] at second
  simp only [taken]
  rw [show result = .ok memory2 from second.1]

end Opened

def File.twoRecords (first second : UInt8) : File where
  content := List.replicate 20 0 ++ [first, 0, 0, 0] ++ List.replicate 12 0 ++ [second, 0, 0, 0]
  addressable := by
    simp only [List.length_append, List.length_replicate, List.length_cons, List.length_nil]
    decide

theorem File.increasing_twoRecords : (twoRecords 1 2).Increasing := by
  intro i inside
  obtain rfl : i = 0 := by
    change i + 1 < 2 at inside
    omega
  decide

theorem File.decreasing_twoRecords : (twoRecords 2 1).Decreasing := by
  intro i inside
  obtain rfl : i = 0 := by
    change i + 1 < 2 at inside
    omega
  decide

/-- The direction of a scan is not told: for every monotone scan, and after any calls, the
answer is 0 or 1 depending on what was in memory, and nothing is thrown. -/
theorem direction_from_memory {file : File} (some : 2 ≤ file.laserRecords)
    (monotone : file.Increasing ∨ file.Decreasing) (blank : LaserxaFile)
    (earlier : List LaserxaFile.Call) :
    ¬ TellsDirection file ((blank.init file).afterCalls earlier) ∧
      ∀ memory1 memory2, (((blank.init file).afterCalls earlier).getDirectionFromLxa memory1
        memory2).1 = .ok (if LaserxaFile.maskedCounter memory1 =
          LaserxaFile.maskedCounter memory2 then 1 else 0) := by
  have opened := ((Opened.init file blank).afterCalls earlier).1
  have few := file.laserRecords_le monotone
  unfold File.laserRecords at some few
  have answer := opened.getDirection_eq (by omega) (by omega)
  have masked : ∀ memory, LaserxaFile.maskedCounter memory < 2 ^ 24 :=
    fun memory => Nat.and_lt_two_pow _ (by decide)
  have decided : ∀ memory1 memory2, (((blank.init file).afterCalls earlier).getDirectionFromLxa
      memory1 memory2).1 = .ok (if LaserxaFile.maskedCounter memory1 =
        LaserxaFile.maskedCounter memory2 then 1 else 0) := by
    intro memory1 memory2
    have small1 := masked memory1
    have small2 := masked memory2
    rw [answer, LaserxaFile.directionOf]
    congr 1
    split <;> split <;> omega
  refine ⟨?_, decided⟩
  rintro ⟨forward, backward⟩
  rcases monotone with increasing | decreasing
  · have told := forward increasing default default
    rw [decided, if_pos rfl] at told
    cases told
  · have told := backward decreasing default ⟨.constant 16 1⟩
    rw [decided, if_neg (by decide)] at told
    cases told

theorem direction_from_memory_twoRecords :
    ¬ TellsDirection (.twoRecords 1 2) (.init default (.twoRecords 1 2)) ∧
      ¬ TellsDirection (.twoRecords 2 1) (.init default (.twoRecords 2 1)) :=
  ⟨(direction_from_memory (by decide) (.inl File.increasing_twoRecords) default []).1,
    (direction_from_memory (by decide) (.inr File.decreasing_twoRecords) default []).1⟩

/-- With zeros in memory a forward scan is told to be a backward scan, and with other
bytes a backward scan is told to be a forward scan. -/
theorem direction_told_wrongly :
    (∃ file : File, file.laserRecords = 2 ∧ file.counter 0 = 1 ∧ file.counter 1 = 2 ∧
      ((LaserxaFile.init default file).getDirectionFromLxa default default).1 = .ok 1 ∧
      ¬ TellsDirection file (.init default file)) ∧
    ∃ file : File, file.laserRecords = 2 ∧ file.counter 0 = 2 ∧ file.counter 1 = 1 ∧
      ((LaserxaFile.init default file).getDirectionFromLxa default ⟨.constant 16 1⟩).1 = .ok 0 ∧
      ¬ TellsDirection file (.init default file) := by
  have forward := ((Opened.init (.twoRecords 1 2) default).getDirection_eq (by decide)
    (by decide) default default).trans (congrArg Except.ok (by decide : _ = 1))
  have backward := ((Opened.init (.twoRecords 2 1) default).getDirection_eq (by decide)
    (by decide) default ⟨.constant 16 1⟩).trans (congrArg Except.ok (by decide : _ = 0))
  constructor
  · refine ⟨.twoRecords 1 2, rfl, by decide, by decide, forward, fun told => ?_⟩
    cases (told.1 File.increasing_twoRecords default default).symm.trans forward
  · refine ⟨.twoRecords 2 1, rfl, by decide, by decide, backward, fun told => ?_⟩
    cases (told.2 File.decreasing_twoRecords default ⟨.constant 16 1⟩).symm.trans backward

end Gloc.Files
