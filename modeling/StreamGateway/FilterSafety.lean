import Mathlib
import StreamGateway.FilterCore

/-!
# Arithmetic of the filter

The filter once more, with every addition on `usize` checked as well, and with loops that
count their passes. A `none` result stands for a panic of any kind or for a loop that is not
done within its passes. On a pointer width of 16 bits or more neither happens: the length
fields have twelve bits, a packet has 188 bytes, and the input is no longer than a slice can
be. So the checked filter is the filter.
-/
namespace StreamGateway.MpegtsFilter

/-- `a + b` on a `usize` of `w` bits, which panics on overflow. -/
def checkedAdd (w a b : ℕ) : Option ℕ := if a + b < 2 ^ w then some (a + b) else none

/-- No slice is longer than `isize::MAX`. -/
def isizeMax (w : ℕ) : ℕ := 2 ^ (w - 1) - 1

theorem checkedAdd_eq {w a b : ℕ} (h : a + b < 2 ^ w) : checkedAdd w a b = some (a + b) :=
  if_pos h

/-! ## Checked reads -/

/-- `data[i + k]`. -/
def readAt (w : ℕ) (data : Bytes) (i k : ℕ) : Option UInt8 := do
  let j ← checkedAdd w i k
  data[j]?

def readPidAt (w : ℕ) (data : Bytes) (i k : ℕ) : Option UInt16 := do
  let hi ← readAt w data i k
  let lo ← readAt w data i (k + 1)
  return ((hi &&& 0x1F).toUInt16 <<< 8) ||| lo.toUInt16

def readU16At (w : ℕ) (data : Bytes) (i k : ℕ) : Option UInt16 := do
  let hi ← readAt w data i k
  let lo ← readAt w data i (k + 1)
  return (hi.toUInt16 <<< 8) ||| lo.toUInt16

def readLengthAt (w : ℕ) (data : Bytes) (i k : ℕ) : Option ℕ := do
  let hi ← readAt w data i k
  let lo ← readAt w data i (k + 1)
  return ((hi &&& 0x0F).toNat <<< 8) ||| lo.toNat

/-! ## The checked filter -/

def sectionOffsetChecked (w : ℕ) (data : Bytes) : Option ℕ := do
  let flags ← data[1]?
  if flags &&& 0x40 != 0 then
    let pointer ← data[4]?
    let skip ← checkedAdd w 1 pointer.toNat
    checkedAdd w 4 skip
  else return 4

/-- `offset + 3 + section_length - 4`. -/
def sectionEndChecked (w offset sectionLength : ℕ) : Option ℕ := do
  let start ← checkedAdd w offset 3
  let stop ← checkedAdd w start sectionLength
  checkedSub stop 4

/-- `(start..stop).step_by(4)` counts its passes beforehand, so it adds nothing up. -/
def findProgramChecked (w : ℕ) (target : UInt16) (data : Bytes) :
    List ℕ → Option (Option UInt16)
  | [] => some none
  | i :: rest => do
    let stop ← checkedAdd w i 4
    if stop > data.length then some none
    else do
      let programNumber ← readU16At w data i 0
      let pid ← readPidAt w data i 2
      if programNumber = target then return some pid
      else findProgramChecked w target data rest

def ProgramFilter.processPatChecked (w : ℕ) (f : ProgramFilter) (data : Bytes) :
    Option ProgramFilter := do
  let offset ← sectionOffsetChecked w data
  if (← checkedAdd w offset 8) > data.length then return f
  let tableId ← data[offset]?
  if tableId ≠ 0x00 then return f
  let sectionLength ← readLengthAt w data offset 1
  let version ← readAt w data offset 5
  let version := (version >>> 1) &&& 0x1F
  if f.patVersion = some version then return f
  let programsStart ← checkedAdd w offset 8
  let programsEnd ← sectionEndChecked w offset sectionLength
  let found ← findProgramChecked w f.targetProgram data (stepBy4 programsStart programsEnd)
  let programInfo := match found, f.programInfo with
    | some pid, none => some ⟨f.targetProgram, pid, ∅⟩
    | _, info => info
  return { f with patVersion := some version, programInfo := programInfo }

/-- The loop over the elementary streams, in the given number of passes. -/
def collectPidsChecked (w : ℕ) (data : Bytes) (sectionEnd : ℕ) :
    ℕ → ℕ → Finset UInt16 → Option (Finset UInt16)
  | 0, _, _ => none
  | passes + 1, streamOffset, pids => do
    let stop ← checkedAdd w streamOffset 5
    if stop ≤ sectionEnd ∧ stop ≤ data.length then
      let _streamType ← data[streamOffset]?
      let elementaryPid ← readPidAt w data streamOffset 1
      let esInfoLength ← readLengthAt w data streamOffset 3
      let skip ← checkedAdd w 5 esInfoLength
      let next ← checkedAdd w streamOffset skip
      collectPidsChecked w data sectionEnd passes next (insert elementaryPid pids)
    else return pids

def ProgramFilter.processPmtChecked (w : ℕ) (f : ProgramFilter) (data : Bytes) :
    Option ProgramFilter := do
  let offset ← sectionOffsetChecked w data
  if (← checkedAdd w offset 12) > data.length then return f
  let tableId ← data[offset]?
  if tableId ≠ 0x02 then return f
  let sectionLength ← readLengthAt w data offset 1
  let version ← readAt w data offset 5
  let version := (version >>> 1) &&& 0x1F
  if f.pmtVersion = some version then return f
  let pcrPid ← readPidAt w data offset 8
  let programInfoLength ← readLengthAt w data offset 10
  let streamsStart ← checkedAdd w offset 12
  let streamOffset ← checkedAdd w streamsStart programInfoLength
  let sectionEnd ← sectionEndChecked w offset sectionLength
  let pids ← collectPidsChecked w data sectionEnd (data.length + 1) streamOffset {pcrPid}
  return { f with
    pmtVersion := some version
    programInfo := f.programInfo.map fun info => { info with pids := pids } }

def ProgramFilter.processChecked (w : ℕ) (f : ProgramFilter) (packet : TsPacket) :
    Option ProgramFilter :=
  if packet.pid = patPid ∧ packet.payloadUnitStart then f.processPatChecked w packet.data
  else match f.programInfo with
    | some info =>
      if packet.pid = info.pmtPid ∧ packet.payloadUnitStart then
        f.processPmtChecked w packet.data
      else some f
    | none => some f

def ProgramFilter.filterPacketChecked (w : ℕ) (f : ProgramFilter) (packetData : Bytes) :
    Option ProgramFilter := do
  match ← TsPacket.parse packetData with
  | some packet =>
    if f.shouldInclude packet.pid then
      let f ← f.processChecked w packet
      return f.put packet.data
    else if f.fillWithNulls then return f.put nullPacket
    else return f
  | none =>
    if f.fillWithNulls then return f.put nullPacket
    else return f

/-- The packet loop, in the given number of passes. -/
def ProgramFilter.filterLoopChecked (w : ℕ) (input : Bytes) :
    ℕ → ProgramFilter → ℕ → Option ProgramFilter
  | 0, _, _ => none
  | passes + 1, f, offset => do
    let stop ← checkedAdd w offset tsPacketSize
    if stop ≤ input.length then
      let packetData ← slice input offset stop
      let f ← f.filterPacketChecked w packetData
      ProgramFilter.filterLoopChecked w input passes f stop
    else return f

def ProgramFilter.filterPacketsChecked (w : ℕ) (f : ProgramFilter) (input : Bytes) :
    Option (ProgramFilter × Bytes) := do
  let f ← ProgramFilter.filterLoopChecked w input (input.length + 1)
    { f with outputBuffer := [] } 0
  return ({ f with outputBuffer := [] }, f.outputBuffer)

/-! ## No overflow -/

theorem lengthAt_lt (data : Bytes) (i : ℕ) : lengthAt data i < 4096 := by
  have hhi : (byteAt data i &&& 0x0F).toNat <<< 8 < 2 ^ 12 := by
    have hand : (byteAt data i &&& 0x0F).toNat ≤ 15 := by
      rw [UInt8.toNat_and]
      exact Nat.and_le_right
    rw [Nat.shiftLeft_eq]
    omega
  have hlo : (byteAt data (i + 1)).toNat < 2 ^ 12 := by
    have := (byteAt data (i + 1)).toNat_lt
    omega
  exact Nat.or_lt_two_pow hhi hlo

theorem offsetAt_le (data : Bytes) : offsetAt data ≤ 260 := by
  have := (byteAt data 4).toNat_lt
  unfold offsetAt
  split <;> omega

section Widths

variable {w : ℕ} {data : Bytes} {i k : ℕ}

theorem readAt_eq (h : i + k < data.length) (hsize : data.length < 2 ^ w) :
    readAt w data i k = some (byteAt data (i + k)) := by
  have hadd : i + k < 2 ^ w := by omega
  simp [readAt, checkedAdd_eq hadd, getElem?_eq_byteAt h]

theorem readPidAt_eq (h : i + (k + 1) < data.length) (hsize : data.length < 2 ^ w) :
    readPidAt w data i k = some (pidAt data (i + k)) := by
  have hk : i + k < data.length := by omega
  simp [readPidAt, readAt_eq h hsize, readAt_eq hk hsize, pidAt, Nat.add_assoc]

theorem readU16At_eq (h : i + (k + 1) < data.length) (hsize : data.length < 2 ^ w) :
    readU16At w data i k = some (u16At data (i + k)) := by
  have hk : i + k < data.length := by omega
  simp [readU16At, readAt_eq h hsize, readAt_eq hk hsize, u16At, Nat.add_assoc]

theorem readLengthAt_eq (h : i + (k + 1) < data.length) (hsize : data.length < 2 ^ w) :
    readLengthAt w data i k = some (lengthAt data (i + k)) := by
  have hk : i + k < data.length := by omega
  simp [readLengthAt, readAt_eq h hsize, readAt_eq hk hsize, lengthAt, Nat.add_assoc]

theorem sectionOffsetChecked_eq (hw : 65536 ≤ 2 ^ w) (h : 5 ≤ data.length) :
    sectionOffsetChecked w data = some (offsetAt data) := by
  have h1 : 1 < data.length := by omega
  have h4 : 4 < data.length := by omega
  have hp := (byteAt data 4).toNat_lt
  have hskip : 1 + (byteAt data 4).toNat < 2 ^ w := by omega
  have hoffset : 4 + (1 + (byteAt data 4).toNat) < 2 ^ w := by omega
  by_cases hu : byteAt data 1 &&& 0x40 = 0
  · simp [sectionOffsetChecked, offsetAt, unitStart, getElem?_eq_byteAt h1, hu]
  · simp [sectionOffsetChecked, offsetAt, unitStart, getElem?_eq_byteAt h1,
      getElem?_eq_byteAt h4, hu, checkedAdd_eq hskip, checkedAdd_eq hoffset]

theorem sectionEndChecked_eq (hw : 65536 ≤ 2 ^ w) {offset : ℕ} (h4 : 4 ≤ offset)
    (ho : offset ≤ 260) (data : Bytes) :
    sectionEndChecked w offset (lengthAt data (offset + 1)) = some (sectionEndAt data offset) := by
  have hlen := lengthAt_lt data (offset + 1)
  have h3 : offset + 3 < 2 ^ w := by omega
  have hstop : offset + 3 + lengthAt data (offset + 1) < 2 ^ w := by omega
  have hsub : 4 ≤ offset + 3 + lengthAt data (offset + 1) := by omega
  simp [sectionEndChecked, sectionEndAt, checkedAdd_eq h3, checkedAdd_eq hstop,
    checkedSub_eq hsub]

theorem findProgramChecked_eq {target : UInt16} (hsize : data.length < 2 ^ w) {is : List ℕ}
    (his : ∀ i ∈ is, i + 4 < 2 ^ w) :
    findProgramChecked w target data is = some (programAt target data is) := by
  induction is with
  | nil => rfl
  | cons i rest ih =>
    have hi : i + 4 < 2 ^ w := his i List.mem_cons_self
    have hrest := ih fun j hj => his j (List.mem_cons_of_mem _ hj)
    by_cases h : i + 4 > data.length
    · simp [findProgramChecked, programAt, checkedAdd_eq hi, h]
    · have h1 : i + (0 + 1) < data.length := by omega
      have h3 : i + (2 + 1) < data.length := by omega
      by_cases ht : u16At data i = target
      · simp [findProgramChecked, programAt, checkedAdd_eq hi, h, readU16At_eq h1 hsize,
          readPidAt_eq h3 hsize, ht]
      · simp [findProgramChecked, programAt, checkedAdd_eq hi, h, readU16At_eq h1 hsize,
          readPidAt_eq h3 hsize, ht, hrest]

/-- Every pass moves at least five bytes on, so the passes suffice for the loop to end. -/
theorem collectPidsChecked_eq (hw : 65536 ≤ 2 ^ w) (hsize : data.length ≤ 4096)
    {sectionEnd passes streamOffset : ℕ} {pids : Finset UInt16}
    (hoffset : streamOffset < 16384) (hpasses : data.length ≤ streamOffset + passes) :
    collectPidsChecked w data sectionEnd (passes + 1) streamOffset pids =
      some (pidsAt data sectionEnd passes streamOffset pids) := by
  have hfull : data.length < 2 ^ w := by omega
  induction passes generalizing streamOffset pids with
  | zero =>
    have hstop : streamOffset + 5 < 2 ^ w := by omega
    have h : ¬ (streamOffset + 5 ≤ sectionEnd ∧ streamOffset + 5 ≤ data.length) := by omega
    simp [collectPidsChecked, pidsAt, checkedAdd_eq hstop, h]
  | succ passes ih =>
    have hstop : streamOffset + 5 < 2 ^ w := by omega
    rw [collectPidsChecked, pidsAt]
    by_cases h : streamOffset + 5 ≤ sectionEnd ∧ streamOffset + 5 ≤ data.length
    · have hlen := lengthAt_lt data (streamOffset + 3)
      have h0 : streamOffset < data.length := by omega
      have h1 : streamOffset + (1 + 1) < data.length := by omega
      have h3 : streamOffset + (3 + 1) < data.length := by omega
      have hskip : 5 + lengthAt data (streamOffset + 3) < 2 ^ w := by omega
      have hnext : streamOffset + (5 + lengthAt data (streamOffset + 3)) < 2 ^ w := by omega
      have hrest : collectPidsChecked w data sectionEnd (passes + 1)
          (streamOffset + (5 + lengthAt data (streamOffset + 3)))
          (insert (pidAt data (streamOffset + 1)) pids) =
            some (pidsAt data sectionEnd passes
              (streamOffset + (5 + lengthAt data (streamOffset + 3)))
              (insert (pidAt data (streamOffset + 1)) pids)) := ih (by omega) (by omega)
      simp [checkedAdd_eq hstop, h, getElem?_eq_byteAt h0, readPidAt_eq h1 hfull,
        readLengthAt_eq h3 hfull, checkedAdd_eq hskip, checkedAdd_eq hnext, hrest]
    · simp [checkedAdd_eq hstop, h]

theorem lt_of_mem_stepBy4 {start stop i : ℕ} (h : i ∈ stepBy4 start stop) : i < stop := by
  obtain ⟨k, hk, rfl⟩ := List.mem_range'.mp h
  omega

theorem processPatChecked_eq (hw : 65536 ≤ 2 ^ w) (f : ProgramFilter) (h : 5 ≤ data.length)
    (hsize : data.length ≤ 4096) : f.processPatChecked w data = f.processPat data := by
  have hfull : data.length < 2 ^ w := by omega
  have ho := four_le_offsetAt data
  have ho' := offsetAt_le data
  have h8 : offsetAt data + 8 < 2 ^ w := by omega
  unfold ProgramFilter.processPatChecked ProgramFilter.processPat
  simp only [sectionOffsetChecked_eq hw h, sectionOffset_eq h, Option.bind_eq_bind,
    Option.bind_some, checkedAdd_eq h8]
  by_cases hs : offsetAt data + 8 > data.length
  · simp [hs]
  have h0 : offsetAt data < data.length := by omega
  have h1 : offsetAt data + (1 + 1) < data.length := by omega
  have h5 : offsetAt data + 5 < data.length := by omega
  have hsub : 4 ≤ offsetAt data + 3 + lengthAt data (offsetAt data + 1) := by omega
  have hvisited : ∀ i ∈ stepBy4 (offsetAt data + 8) (sectionEndAt data (offsetAt data)),
      i + 4 < 2 ^ w := by
    intro i hi
    have hstop := lt_of_mem_stepBy4 hi
    have hlen := lengthAt_lt data (offsetAt data + 1)
    unfold sectionEndAt at hstop
    omega
  simp only [hs, if_false, getElem?_eq_byteAt h0, Option.bind_some, readLengthAt_eq h1 hfull,
    readLength_eq h1, readAt_eq h5 hfull, readVersion_eq h5, sectionEndChecked_eq hw ho ho',
    checkedSub_eq hsub, findProgramChecked_eq hfull hvisited, findProgram_eq]
  rfl

theorem processPmtChecked_eq (hw : 65536 ≤ 2 ^ w) (f : ProgramFilter) (h : 5 ≤ data.length)
    (hsize : data.length ≤ 4096) : f.processPmtChecked w data = f.processPmt data := by
  have hfull : data.length < 2 ^ w := by omega
  have ho := four_le_offsetAt data
  have ho' := offsetAt_le data
  have h12 : offsetAt data + 12 < 2 ^ w := by omega
  unfold ProgramFilter.processPmtChecked ProgramFilter.processPmt
  simp only [sectionOffsetChecked_eq hw h, sectionOffset_eq h, Option.bind_eq_bind,
    Option.bind_some, checkedAdd_eq h12]
  by_cases hs : offsetAt data + 12 > data.length
  · simp [hs]
  have hlen := lengthAt_lt data (offsetAt data + 10)
  have h0 : offsetAt data < data.length := by omega
  have h1 : offsetAt data + (1 + 1) < data.length := by omega
  have h5 : offsetAt data + 5 < data.length := by omega
  have h8 : offsetAt data + (8 + 1) < data.length := by omega
  have h10 : offsetAt data + (10 + 1) < data.length := by omega
  have hsub : 4 ≤ offsetAt data + 3 + lengthAt data (offsetAt data + 1) := by omega
  have hstreams : offsetAt data + 12 + lengthAt data (offsetAt data + 10) < 2 ^ w := by omega
  have hpids : collectPidsChecked w data (sectionEndAt data (offsetAt data)) (data.length + 1)
      (offsetAt data + 12 + lengthAt data (offsetAt data + 10)) {pidAt data (offsetAt data + 8)} =
        some (pidsAt data (sectionEndAt data (offsetAt data)) data.length
          (offsetAt data + 12 + lengthAt data (offsetAt data + 10))
          {pidAt data (offsetAt data + 8)}) :=
    collectPidsChecked_eq hw hsize (by omega) (by omega)
  simp only [hs, if_false, getElem?_eq_byteAt h0, Option.bind_some, readLengthAt_eq h1 hfull,
    readLength_eq h1, readAt_eq h5 hfull, readVersion_eq h5, readPidAt_eq h8 hfull,
    readPid_eq h8, readLengthAt_eq h10 hfull, readLength_eq h10, checkedAdd_eq hstreams,
    sectionEndChecked_eq hw ho ho', checkedSub_eq hsub, hpids, collectPids_eq]
  rfl

theorem filterPacketChecked_eq (hw : 65536 ≤ 2 ^ w) (f : ProgramFilter)
    (h : data.length = tsPacketSize) : f.filterPacketChecked w data = f.filterPacket data := by
  have h5 : 5 ≤ data.length := by rw [h]; decide
  have hsize : data.length ≤ 4096 := by rw [h]; decide
  have hprocess : ∀ pid start,
      f.processChecked w ⟨pid, start, data⟩ = f.process ⟨pid, start, data⟩ := by
    intro pid start
    have hpat := processPatChecked_eq hw f h5 hsize
    have hpmt := processPmtChecked_eq hw f h5 hsize
    unfold ProgramFilter.processChecked ProgramFilter.process
    cases f.programInfo with
    | none => simp only [hpat]
    | some info => simp only [hpat, hpmt]
  unfold ProgramFilter.filterPacketChecked ProgramFilter.filterPacket
  rw [parse_eq h]
  by_cases hs : byteAt data 0 = tsSyncByte
  · simp [hs, hprocess]
  · simp [hs]

theorem size_le_two_pow (hw : 16 ≤ w) : 65536 ≤ 2 ^ w := by
  have h : 2 ^ 16 ≤ 2 ^ w := Nat.pow_le_pow_right (by decide) hw
  omega

/-- There is room for one more packet behind any slice. -/
theorem isizeMax_add_lt (hw : 16 ≤ w) : isizeMax w + tsPacketSize < 2 ^ w := by
  obtain ⟨v, rfl⟩ : ∃ v, w = v + 1 := ⟨w - 1, by omega⟩
  have hv : 2 ^ 15 ≤ 2 ^ v := Nat.pow_le_pow_right (by decide) (by omega)
  have hsz : tsPacketSize = 188 := rfl
  rw [isizeMax, Nat.add_sub_cancel, Nat.pow_succ, hsz]
  omega

/-- Every pass takes a packet from the input, so the passes suffice for the loop to end. -/
theorem filterLoopChecked_eq (hw : 16 ≤ w) {input : Bytes} (hsize : input.length ≤ isizeMax w)
    {passes offset : ℕ} {f : ProgramFilter} (ho : offset ≤ input.length)
    (hpasses : input.length ≤ offset + passes) :
    ProgramFilter.filterLoopChecked w input (passes + 1) f offset =
      ProgramFilter.filterLoop input passes f offset := by
  have hroom := isizeMax_add_lt hw
  have hsz : tsPacketSize = 188 := rfl
  induction passes generalizing f offset with
  | zero =>
    have hstop : offset + tsPacketSize < 2 ^ w := by omega
    have hend : ¬ offset + tsPacketSize ≤ input.length := by omega
    simp [ProgramFilter.filterLoopChecked, ProgramFilter.filterLoop, checkedAdd_eq hstop, hend]
  | succ passes ih =>
    have hstop : offset + tsPacketSize < 2 ^ w := by omega
    rw [ProgramFilter.filterLoopChecked, ProgramFilter.filterLoop]
    by_cases h : offset + tsPacketSize ≤ input.length
    · have hslice : slice input offset (offset + tsPacketSize) =
          some ((input.drop offset).take tsPacketSize) := by
        simp [slice, h]
      have hlen : ((input.drop offset).take tsPacketSize).length = tsPacketSize := by
        rw [List.length_take, List.length_drop]
        omega
      have hpacket := filterPacketChecked_eq (size_le_two_pow hw) f hlen
      have hrest : ∀ f', ProgramFilter.filterLoopChecked w input (passes + 1) f'
          (offset + tsPacketSize) = ProgramFilter.filterLoop input passes f'
            (offset + tsPacketSize) := fun f' => ih h (by omega)
      simp only [checkedAdd_eq hstop, Option.bind_eq_bind, Option.bind_some, h, if_true, hslice,
        hpacket, hrest]
    · simp [checkedAdd_eq hstop, h]

end Widths

/-- In every state of the filter and on every input a slice can hold, nothing panics, nothing
overflows and every loop ends: the filter does what it does without these checks. -/
theorem filterPacketsChecked_eq {w : ℕ} (hw : 16 ≤ w) (f : ProgramFilter) {input : Bytes}
    (hsize : input.length ≤ isizeMax w) :
    (f.filterPacketsChecked w input).isSome ∧
      f.filterPacketsChecked w input = f.filterPackets input := by
  have heq : f.filterPacketsChecked w input = f.filterPackets input := by
    unfold ProgramFilter.filterPacketsChecked ProgramFilter.filterPackets
    rw [filterLoopChecked_eq hw hsize (Nat.zero_le _) (by omega)]
  refine ⟨?_, heq⟩
  rw [heq, filterPackets_eq]
  rfl

/-- A PAT that lists the program in its last entry, and two PMTs of the program. All sections are
given the greatest length, as are the descriptors of the first stream and those of the second
program. -/
def hostilePackets : Bytes :=
  ([tsSyncByte, 0x40, 0x00, 0x10, 0x00, 0x00] ++ List.replicate 175 0xFF ++
    [0x00, 0x01, 0xE1, 0x00] ++ List.replicate 3 0xFF) ++
  ([tsSyncByte, 0x41, 0x00, 0x10, 0x00, 0x02, 0xFF, 0xFF, 0x00, 0x01, 0xC1, 0x00, 0x00, 0xE1,
    0x01, 0xF0, 0x00, 0x1B, 0xE1, 0x02] ++ List.replicate 168 0xFF) ++
  ([tsSyncByte, 0x41, 0x00, 0x10, 0x00, 0x02] ++ List.replicate 182 0xFF)

/-- The filter finds the program, its PCR and its stream, and then a PCR without streams. -/
theorem hostilePackets_checked :
    (((ProgramFilter.new 1 true).filterPacketsChecked 64 hostilePackets).isSome ∧
      (ProgramFilter.new 1 true).filterPacketsChecked 64 hostilePackets =
        (ProgramFilter.new 1 true).filterPackets hostilePackets) ∧
    ((ProgramFilter.new 1 true).filterPackets (hostilePackets.take 376)).map
      (·.1.programInfo) = some (some ⟨1, 0x0100, {0x0102, 0x0101}⟩) ∧
    ((ProgramFilter.new 1 true).filterPackets hostilePackets).map (·.1.programInfo) =
      some (some ⟨1, 0x0100, {0x1FFF}⟩) :=
  ⟨filterPacketsChecked_eq (by decide) _ (by decide +kernel), by decide +kernel,
    by decide +kernel⟩

end StreamGateway.MpegtsFilter
