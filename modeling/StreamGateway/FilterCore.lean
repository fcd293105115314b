import StreamGateway.MpegtsFilter
import StreamGateway.Selector

/-!
# The filter never panics, and is a selector

The checked definitions of `MpegtsFilter` are compared with a panic-free reading:
byte access with a default, the learned tables as a state of their own, and one
learning step for each included packet. On whole packets the two agree, so no index
of the code is out of bounds there, and `filterPackets` is the run of a `Selector`
over the full 188-byte pieces of its input. Everything later about the filter is
proved about that selector.
-/
namespace StreamGateway.MpegtsFilter

/-- What the filter has learned; `programInfo` is the recorded program with its PIDs. -/
structure Learned where
  programInfo : Option ProgramInfo
  patVersion : Option UInt8
  pmtVersion : Option UInt8
  deriving DecidableEq

def ProgramFilter.learned (f : ProgramFilter) : Learned :=
  ⟨f.programInfo, f.patVersion, f.pmtVersion⟩

def ProgramFilter.withLearned (f : ProgramFilter) (s : Learned) : ProgramFilter :=
  { f with programInfo := s.programInfo, patVersion := s.patVersion, pmtVersion := s.pmtVersion }

@[simp] theorem learned_withLearned (f : ProgramFilter) (s : Learned) :
    (f.withLearned s).learned = s := rfl

@[simp] theorem withLearned_learned (f : ProgramFilter) : f.withLearned f.learned = f := rfl

@[simp] theorem withLearned_withLearned (f : ProgramFilter) (s t : Learned) :
    (f.withLearned s).withLearned t = f.withLearned t := rfl

/-! ## Panic-free access -/

def byteAt (data : Bytes) (i : ℕ) : UInt8 := data.getD i 0

def pidAt (data : Bytes) (i : ℕ) : UInt16 :=
  ((byteAt data i &&& 0x1F).toUInt16 <<< 8) ||| (byteAt data (i + 1)).toUInt16

def u16At (data : Bytes) (i : ℕ) : UInt16 :=
  ((byteAt data i).toUInt16 <<< 8) ||| (byteAt data (i + 1)).toUInt16

def lengthAt (data : Bytes) (i : ℕ) : ℕ :=
  ((byteAt data i &&& 0x0F).toNat <<< 8) ||| (byteAt data (i + 1)).toNat

def versionAt (data : Bytes) (offset : ℕ) : UInt8 := (byteAt data (offset + 5) >>> 1) &&& 0x1F

def unitStart (data : Bytes) : Bool := byteAt data 1 &&& 0x40 != 0

/-- Where the code looks for the section of a packet. -/
def offsetAt (data : Bytes) : ℕ :=
  if unitStart data then 4 + (1 + (byteAt data 4).toNat) else 4

theorem getElem?_eq_byteAt {data : Bytes} {i : ℕ} (h : i < data.length) :
    data[i]? = some (byteAt data i) := by
  simp [byteAt, h]

theorem readPid_eq {data : Bytes} {i : ℕ} (h : i + 1 < data.length) :
    readPid data i = some (pidAt data i) := by
  have hi : i < data.length := by omega
  simp [readPid, pidAt, getElem?_eq_byteAt h, getElem?_eq_byteAt hi]

theorem readU16_eq {data : Bytes} {i : ℕ} (h : i + 1 < data.length) :
    readU16 data i = some (u16At data i) := by
  have hi : i < data.length := by omega
  simp [readU16, u16At, getElem?_eq_byteAt h, getElem?_eq_byteAt hi]

theorem readLength_eq {data : Bytes} {i : ℕ} (h : i + 1 < data.length) :
    readLength data i = some (lengthAt data i) := by
  have hi : i < data.length := by omega
  simp [readLength, lengthAt, getElem?_eq_byteAt h, getElem?_eq_byteAt hi]

theorem readVersion_eq {data : Bytes} {i : ℕ} (h : i + 5 < data.length) :
    readVersion data i = some (versionAt data i) := by
  simp [readVersion, versionAt, getElem?_eq_byteAt h]

theorem sectionOffset_eq {data : Bytes} (h : 5 ≤ data.length) :
    sectionOffset data = some (offsetAt data) := by
  have h1 : 1 < data.length := by omega
  have h4 : 4 < data.length := by omega
  by_cases hu : byteAt data 1 &&& 0x40 = 0 <;>
    simp [sectionOffset, offsetAt, unitStart, getElem?_eq_byteAt h1, getElem?_eq_byteAt h4, hu]

theorem four_le_offsetAt (data : Bytes) : 4 ≤ offsetAt data := by
  unfold offsetAt; split <;> omega

theorem checkedSub_eq {a b : ℕ} (h : b ≤ a) : checkedSub a b = some (a - b) := if_pos h

/-! ## The two table parsers -/

def programAt (target : UInt16) (data : Bytes) : List ℕ → Option UInt16
  | [] => none
  | i :: rest =>
    if i + 4 > data.length then none
    else if u16At data i = target then some (pidAt data (i + 2))
    else programAt target data rest

def pidsAt (data : Bytes) (sectionEnd : ℕ) : ℕ → ℕ → Finset UInt16 → Finset UInt16
  | 0, _, pids => pids
  | budget + 1, streamOffset, pids =>
    if streamOffset + 5 ≤ sectionEnd ∧ streamOffset + 5 ≤ data.length then
      pidsAt data sectionEnd budget (streamOffset + (5 + lengthAt data (streamOffset + 3)))
        (insert (pidAt data (streamOffset + 1)) pids)
    else pids

theorem findProgram_eq (target : UInt16) (data : Bytes) (is : List ℕ) :
    findProgram target data is = some (programAt target data is) := by
  induction is with
  | nil => rfl
  | cons i rest ih =>
    by_cases h : i + 4 > data.length
    · simp [findProgram, programAt, h]
    · have h1 : i + 1 < data.length := by omega
      have h3 : i + 2 + 1 < data.length := by omega
      by_cases ht : u16At data i = target
      · simp [findProgram, programAt, h, readU16_eq h1, readPid_eq h3, ht]
      · simp [findProgram, programAt, h, readU16_eq h1, readPid_eq h3, ht, ih]

theorem collectPids_eq (data : Bytes) (sectionEnd budget streamOffset : ℕ)
    (pids : Finset UInt16) :
    collectPids data sectionEnd budget streamOffset pids =
      some (pidsAt data sectionEnd budget streamOffset pids) := by
  induction budget generalizing streamOffset pids with
  | zero => rfl
  | succ budget ih =>
    by_cases h : streamOffset + 5 ≤ sectionEnd ∧ streamOffset + 5 ≤ data.length
    · have h0 : streamOffset < data.length := by omega
      have h1 : streamOffset + 1 + 1 < data.length := by omega
      have h3 : streamOffset + 3 + 1 < data.length := by omega
      simp [collectPids, pidsAt, h, getElem?_eq_byteAt h0, readPid_eq h1, readLength_eq h3, ih]
    · simp [collectPids, pidsAt, h]

/-- A packet on which `process_pat` goes past its early returns. -/
def readsPat (s : Learned) (data : Bytes) : Bool :=
  offsetAt data + 8 ≤ data.length ∧ byteAt data (offsetAt data) = 0x00 ∧
    s.patVersion ≠ some (versionAt data (offsetAt data))

/-- The end of the section at `offset`, without its checksum. -/
def sectionEndAt (data : Bytes) (offset : ℕ) : ℕ :=
  offset + 3 + lengthAt data (offset + 1) - 4

/-- The PMT PID that the association loop finds for the target. -/
def pmtPidIn (target : UInt16) (data : Bytes) : Option UInt16 :=
  programAt target data (stepBy4 (offsetAt data + 8) (sectionEndAt data (offsetAt data)))

def patLearn (target : UInt16) (s : Learned) (data : Bytes) : Learned :=
  if readsPat s data then
    { s with
      patVersion := some (versionAt data (offsetAt data))
      programInfo := match pmtPidIn target data, s.programInfo with
        | some pid, none => some ⟨target, pid, ∅⟩
        | _, info => info }
  else s

/-- A packet on which `process_pmt` goes past its early returns. -/
def readsPmt (s : Learned) (data : Bytes) : Bool :=
  offsetAt data + 12 ≤ data.length ∧ byteAt data (offsetAt data) = 0x02 ∧
    s.pmtVersion ≠ some (versionAt data (offsetAt data))

/-- The PIDs that `process_pmt` takes from a packet: the PCR PID and the elementary ones. -/
def pmtPids (data : Bytes) : Finset UInt16 :=
  let offset := offsetAt data
  pidsAt data (sectionEndAt data offset) data.length
    (offset + 12 + lengthAt data (offset + 10)) {pidAt data (offset + 8)}

def pmtLearn (s : Learned) (data : Bytes) : Learned :=
  if readsPmt s data then
    { s with
      pmtVersion := some (versionAt data (offsetAt data))
      programInfo := s.programInfo.map fun info => { info with pids := pmtPids data } }
  else s

theorem processPat_eq (f : ProgramFilter) {data : Bytes} (h : 5 ≤ data.length) :
    f.processPat data = some (f.withLearned (patLearn f.targetProgram f.learned data)) := by
  unfold ProgramFilter.processPat
  simp only [sectionOffset_eq h, Option.bind_eq_bind, Option.bind_some, Option.pure_def]
  by_cases hs : offsetAt data + 8 > data.length
  · have hr : readsPat f.learned data = false := by simp [readsPat]; omega
    simp [hs, patLearn, hr]
  · have ho := four_le_offsetAt data
    have h0 : offsetAt data < data.length := by omega
    have h1 : offsetAt data + 1 + 1 < data.length := by omega
    have h5 : offsetAt data + 5 < data.length := by omega
    simp only [hs, if_false, getElem?_eq_byteAt h0, Option.bind_some, readLength_eq h1,
      readVersion_eq h5]
    by_cases ht : byteAt data (offsetAt data) = 0x00
    · by_cases hv : f.patVersion = some (versionAt data (offsetAt data))
      · have hr : readsPat f.learned data = false := by
          simp [readsPat, ProgramFilter.learned, hv]
        simp [ht, hv, patLearn, hr]
      · have hr : readsPat f.learned data = true := by
          have hle : offsetAt data + 8 ≤ data.length := by omega
          simp [readsPat, ProgramFilter.learned, hle, ht, hv]
        have hsub : 4 ≤ offsetAt data + 3 + lengthAt data (offsetAt data + 1) := by omega
        simp only [ht, ne_eq, not_true_eq_false, if_false, hv, checkedSub_eq hsub,
          Option.bind_some, findProgram_eq, patLearn, hr, if_true, pmtPidIn, sectionEndAt]
        rfl
    · have hr : readsPat f.learned data = false := by simp [readsPat, ht]
      simp [ht, patLearn, hr]

theorem processPmt_eq (f : ProgramFilter) {data : Bytes} (h : 5 ≤ data.length) :
    f.processPmt data = some (f.withLearned (pmtLearn f.learned data)) := by
  unfold ProgramFilter.processPmt
  simp only [sectionOffset_eq h, Option.bind_eq_bind, Option.bind_some, Option.pure_def]
  by_cases hs : offsetAt data + 12 > data.length
  · have hr : readsPmt f.learned data = false := by simp [readsPmt]; omega
    simp [hs, pmtLearn, hr]
  · have ho := four_le_offsetAt data
    have h0 : offsetAt data < data.length := by omega
    have h1 : offsetAt data + 1 + 1 < data.length := by omega
    have h5 : offsetAt data + 5 < data.length := by omega
    have h8 : offsetAt data + 8 + 1 < data.length := by omega
    have h10 : offsetAt data + 10 + 1 < data.length := by omega
    simp only [hs, if_false, getElem?_eq_byteAt h0, Option.bind_some, readLength_eq h1,
      readVersion_eq h5, readPid_eq h8, readLength_eq h10]
    by_cases ht : byteAt data (offsetAt data) = 0x02
    · by_cases hv : f.pmtVersion = some (versionAt data (offsetAt data))
      · have hr : readsPmt f.learned data = false := by
          simp [readsPmt, ProgramFilter.learned, hv]
        simp [ht, hv, pmtLearn, hr]
      · have hr : readsPmt f.learned data = true := by
          have hle : offsetAt data + 12 ≤ data.length := by omega
          simp [readsPmt, ProgramFilter.learned, hle, ht, hv]
        have hsub : 4 ≤ offsetAt data + 3 + lengthAt data (offsetAt data + 1) := by omega
        simp only [ht, ne_eq, not_true_eq_false, if_false, hv, checkedSub_eq hsub,
          Option.bind_some, collectPids_eq, pmtLearn, hr, if_true, pmtPids, sectionEndAt]
        rfl
    · have hr : readsPmt f.learned data = false := by simp [readsPmt, ht]
      simp [ht, pmtLearn, hr]

/-! ## The selector of a target program -/

def includes (s : Learned) (pid : UInt16) : Bool :=
  if pid = patPid ∨ pid = catPid then true
  else match s.programInfo with
    | some info => pid = info.pmtPid ∨ pid ∈ info.pids
    | none => false

/-- The tables that an included packet brings into the state. -/
def learnPacket (target : UInt16) (s : Learned) (data : Bytes) : Learned :=
  if pidAt data 1 = patPid ∧ unitStart data then patLearn target s data
  else match s.programInfo with
    | some info => if pidAt data 1 = info.pmtPid ∧ unitStart data then pmtLearn s data else s
    | none => s

def selector (target : UInt16) : Selector Learned Bytes where
  accepts s data := byteAt data 0 = tsSyncByte ∧ includes s (pidAt data 1)
  learn := learnPacket target

/-- The packets that leave the filter for the given pieces of a batch. -/
def emit (fillWithNulls : Bool) (target : UInt16) (s : Learned) (ps : List Bytes) :
    List Bytes :=
  if fillWithNulls then (selector target).fill nullPacket s ps else (selector target).keep s ps

theorem parse_eq {data : Bytes} (h : data.length = tsPacketSize) :
    TsPacket.parse data = some (if byteAt data 0 = tsSyncByte then
      some ⟨pidAt data 1, unitStart data, data⟩ else none) := by
  have hl : data.length = 188 := h
  have h0 : 0 < data.length := by omega
  have h1 : 1 < data.length := by omega
  have h2 : 1 + 1 < data.length := by omega
  by_cases hs : byteAt data 0 = tsSyncByte
  · simp [TsPacket.parse, h, getElem?_eq_byteAt h0, getElem?_eq_byteAt h1, readPid_eq h2, hs,
      unitStart]
  · simp [TsPacket.parse, h, getElem?_eq_byteAt h0, hs]

theorem process_eq (f : ProgramFilter) {data : Bytes} (h : 5 ≤ data.length) :
    f.process ⟨pidAt data 1, unitStart data, data⟩ =
      some (f.withLearned (learnPacket f.targetProgram f.learned data)) := by
  unfold ProgramFilter.process learnPacket
  by_cases hp : pidAt data 1 = patPid ∧ unitStart data
  · simp [hp, processPat_eq f h]
  · simp only [hp, if_false]
    cases hi : f.programInfo with
    | none => simp [ProgramFilter.learned, hi, ProgramFilter.withLearned]; simp [← hi]
    | some info =>
      by_cases hm : pidAt data 1 = info.pmtPid ∧ unitStart data
      · simp [ProgramFilter.learned, hi, hm, processPmt_eq f h]
      · simp only [ProgramFilter.learned, hi, hm, if_false, ProgramFilter.withLearned]
        simp [← hi]

/-- One packet: the state takes a selector step, the buffer gets what is emitted. -/
theorem filterPacket_eq (f : ProgramFilter) {data : Bytes} (h : data.length = tsPacketSize) :
    f.filterPacket data =
      some ((f.withLearned ((selector f.targetProgram).step f.learned data)).put
        (emit f.fillWithNulls f.targetProgram f.learned [data]).flatten) := by
  have h5 : 5 ≤ data.length := by rw [h]; decide
  have hput : f.put [] = f := by simp [ProgramFilter.put]
  unfold ProgramFilter.filterPacket
  simp only [parse_eq h, Option.bind_eq_bind, Option.bind_some, Option.pure_def]
  by_cases hs : byteAt data 0 = tsSyncByte
  · have hincl : f.shouldInclude (pidAt data 1) = includes f.learned (pidAt data 1) := rfl
    cases hi : includes f.learned (pidAt data 1) with
    | true =>
      have ha : (selector f.targetProgram).accepts f.learned data = true := by
        simp [selector, hs, hi]
      rw [Selector.step_of_accepts _ ha]
      cases hf : f.fillWithNulls <;>
        simp [hs, hincl, hi, process_eq f h5, emit, Selector.fill, Selector.keep, selector]
    | false =>
      have ha : (selector f.targetProgram).accepts f.learned data = false := by
        simp [selector, hi]
      rw [Selector.step_of_rejects _ ha]
      cases hf : f.fillWithNulls <;>
        simp [hs, hincl, hi, emit, Selector.fill, Selector.keep, ha, hput]
  · have ha : (selector f.targetProgram).accepts f.learned data = false := by
      simp [selector, hs]
    rw [Selector.step_of_rejects _ ha]
    cases hf : f.fillWithNulls <;>
      simp [hs, emit, Selector.fill, Selector.keep, ha, hput]

theorem emit_cons (fillWithNulls : Bool) (target : UInt16) (s : Learned) (p : Bytes)
    (ps : List Bytes) :
    emit fillWithNulls target s (p :: ps) = emit fillWithNulls target s [p] ++
      emit fillWithNulls target ((selector target).step s p) ps := by
  cases fillWithNulls <;> simp [emit, Selector.fill, Selector.keep]

/-- The loop from `offset` on is a run over the pieces that are left. -/
theorem filterLoop_eq (input : Bytes) (k budget : ℕ) (f : ProgramFilter) (offset : ℕ)
    (hk : (input.length - offset) / tsPacketSize = k) (hb : k ≤ budget)
    (ho : offset ≤ input.length) :
    ProgramFilter.filterLoop input budget f offset =
      some ((f.withLearned ((selector f.targetProgram).final f.learned
          (takePieces tsPacketSize k (input.drop offset)))).put
        (emit f.fillWithNulls f.targetProgram f.learned
          (takePieces tsPacketSize k (input.drop offset))).flatten) := by
  have hsz : tsPacketSize = 188 := rfl
  induction k generalizing budget f offset with
  | zero =>
    have hlt : ¬ offset + tsPacketSize ≤ input.length := by
      rw [Nat.div_eq_zero_iff] at hk
      omega
    have he : emit f.fillWithNulls f.targetProgram f.learned [] = [] := by
      cases f.fillWithNulls <;> rfl
    cases budget <;> simp [ProgramFilter.filterLoop, hlt, takePieces, he, ProgramFilter.put]
  | succ k ih =>
    obtain ⟨budget, rfl⟩ : ∃ b, budget = b + 1 := ⟨budget - 1, by omega⟩
    have hle : offset + tsPacketSize ≤ input.length := by
      have hmul := Nat.div_mul_le_self (input.length - offset) tsPacketSize
      rw [hk, Nat.succ_mul] at hmul
      omega
    have hslice : slice input offset (offset + tsPacketSize) =
        some ((input.drop offset).take tsPacketSize) := by
      simp [slice, hle]
    have hlen : ((input.drop offset).take tsPacketSize).length = tsPacketSize := by
      rw [List.length_take, List.length_drop]; omega
    have hk' : (input.length - (offset + tsPacketSize)) / tsPacketSize = k := by
      have hsplit : input.length - offset =
          input.length - (offset + tsPacketSize) + tsPacketSize := by omega
      rw [hsplit, Nat.add_div_right _ (by decide)] at hk
      omega
    simp only [ProgramFilter.filterLoop, hle, if_true, hslice, Option.bind_eq_bind,
      Option.bind_some, filterPacket_eq f hlen]
    rw [ih budget _ (offset + tsPacketSize) hk' (by omega) hle]
    simp only [takePieces, List.drop_drop]
    have hemit := emit_cons f.fillWithNulls f.targetProgram f.learned
      ((input.drop offset).take tsPacketSize)
      (takePieces tsPacketSize k (input.drop (offset + tsPacketSize)))
    rw [hemit]
    simp [ProgramFilter.put, ProgramFilter.withLearned, ProgramFilter.learned]

/-- `filter_packets` never panics: it is the selector's run over the full packets. -/
theorem filterPackets_eq (f : ProgramFilter) (input : Bytes) :
    f.filterPackets input =
      some ({ f.withLearned ((selector f.targetProgram).final f.learned
          (pieces tsPacketSize input)) with outputBuffer := [] },
        (emit f.fillWithNulls f.targetProgram f.learned (pieces tsPacketSize input)).flatten) := by
  have hloop := filterLoop_eq input (input.length / tsPacketSize) input.length
    { f with outputBuffer := [] } 0 rfl (Nat.div_le_self _ _) (Nat.zero_le _)
  rw [List.drop_zero] at hloop
  unfold ProgramFilter.filterPackets
  simp only [hloop, Option.bind_eq_bind, Option.bind_some, Option.pure_def]
  rfl

/-- The filters and outputs of a whole run, batch by batch. -/
def batchRun (f : ProgramFilter) : List Bytes → List (ProgramFilter × Bytes)
  | [] => []
  | input :: rest =>
    let f' := { f.withLearned ((selector f.targetProgram).final f.learned
      (pieces tsPacketSize input)) with outputBuffer := [] }
    (f', (emit f.fillWithNulls f.targetProgram f.learned (pieces tsPacketSize input)).flatten) ::
      batchRun f' rest

theorem filterBatches_eq (f : ProgramFilter) (batches : List Bytes) :
    f.filterBatches batches = some (batchRun f batches) := by
  induction batches generalizing f with
  | nil => rfl
  | cons input rest ih =>
    simp only [ProgramFilter.filterBatches, filterPackets_eq, Option.bind_eq_bind,
      Option.bind_some, ih, Option.pure_def, batchRun]

theorem length_nullPacket : nullPacket.length = tsPacketSize := by
  rw [nullPacket, List.length_append, List.length_replicate]
  rfl

theorem length_of_mem_emit {fillWithNulls : Bool} {target : UInt16} {s : Learned}
    {ps : List Bytes} (h : ∀ p ∈ ps, p.length = tsPacketSize) {p : Bytes}
    (hp : p ∈ emit fillWithNulls target s ps) : p.length = tsPacketSize := by
  cases fillWithNulls with
  | false => exact h p (Selector.keep_subset _ _ _ hp)
  | true =>
    simp only [emit, if_true] at hp
    induction ps generalizing s with
    | nil => simp [Selector.fill] at hp
    | cons q qs ih =>
      rcases List.mem_cons.mp hp with he | he
      · rw [he]
        split
        · exact h q List.mem_cons_self
        · exact length_nullPacket
      · exact ih (fun r hr => h r (List.mem_cons_of_mem _ hr)) he

/-- The output of a batch is made of whole packets, which can be read off again. -/
theorem pieces_emit (fillWithNulls : Bool) (target : UInt16) (s : Learned) (input : Bytes) :
    pieces tsPacketSize
        (emit fillWithNulls target s (pieces tsPacketSize input)).flatten =
      emit fillWithNulls target s (pieces tsPacketSize input) :=
  pieces_flatten (by decide) _ fun _ hp =>
    length_of_mem_emit (fun _ hq => length_of_mem_pieces hq) hp

end StreamGateway.MpegtsFilter
