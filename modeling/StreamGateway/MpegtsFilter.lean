import Mathlib.Data.Finset.Insert

/-!
# The MPEG-TS program filter

Translation of `mpegts_filter.rs`. A byte string is a list of bytes. Every index,
slice and unsigned subtraction of the code is checked: a `none` result stands for
the panic that the out-of-range access or the underflow causes, so absence of
panics is a theorem about these definitions and not a convention. The fields that
the code marks as dead (continuity counters and table caches) are left out.
-/
namespace StreamGateway.MpegtsFilter

abbrev Bytes := List UInt8

def tsPacketSize : ℕ := 188

def tsSyncByte : UInt8 := 0x47

def patPid : UInt16 := 0x0000

def catPid : UInt16 := 0x0001

/-- `NULL_PACKET`: four header bytes, resized with `0xFF` to a whole packet. -/
def nullPacket : Bytes :=
  [tsSyncByte, 0x1F, 0xFF, 0x10] ++ List.replicate (tsPacketSize - 4) 0xFF

/-- `data.slice(a..b)`, which panics unless `a <= b <= data.len()`. -/
def slice (data : Bytes) (a b : ℕ) : Option Bytes :=
  if a ≤ b ∧ b ≤ data.length then some ((data.drop a).take (b - a)) else none

/-- Unsigned subtraction, which panics on underflow. -/
def checkedSub (a b : ℕ) : Option ℕ :=
  if b ≤ a then some (a - b) else none

/-- `((data[i] & 0x1F) as u16) << 8 | data[i + 1] as u16`, the shape of every PID field. -/
def readPid (data : Bytes) (i : ℕ) : Option UInt16 := do
  let hi ← data[i]?
  let lo ← data[i + 1]?
  return ((hi &&& 0x1F).toUInt16 <<< 8) ||| lo.toUInt16

/-- `(data[i] as u16) << 8 | data[i + 1] as u16`. -/
def readU16 (data : Bytes) (i : ℕ) : Option UInt16 := do
  let hi ← data[i]?
  let lo ← data[i + 1]?
  return (hi.toUInt16 <<< 8) ||| lo.toUInt16

/-- `((data[i] & 0x0F) as usize) << 8 | data[i + 1] as usize`, the shape of every
twelve-bit length field. -/
def readLength (data : Bytes) (i : ℕ) : Option ℕ := do
  let hi ← data[i]?
  let lo ← data[i + 1]?
  return ((hi &&& 0x0F).toNat <<< 8) ||| lo.toNat

structure TsPacket where
  pid : UInt16
  payloadUnitStart : Bool
  data : Bytes
  deriving DecidableEq, Repr

/-- The outer option is the panic, the inner one the code's own `Option`. -/
def TsPacket.parse (data : Bytes) : Option (Option TsPacket) :=
  if data.length ≠ tsPacketSize then some none
  else do
    let sync ← data[0]?
    if sync ≠ tsSyncByte then return none
    let pid ← readPid data 1
    let flags ← data[1]?
    return some ⟨pid, flags &&& 0x40 != 0, data⟩

structure ProgramInfo where
  programNumber : UInt16
  pmtPid : UInt16
  pids : Finset UInt16
  deriving DecidableEq

structure ProgramFilter where
  targetProgram : UInt16
  programInfo : Option ProgramInfo
  patVersion : Option UInt8
  pmtVersion : Option UInt8
  fillWithNulls : Bool
  outputBuffer : Bytes
  deriving DecidableEq

def ProgramFilter.new (programNumber : UInt16) (fillWithNulls : Bool) : ProgramFilter where
  targetProgram := programNumber
  programInfo := none
  patVersion := none
  pmtVersion := none
  fillWithNulls := fillWithNulls
  outputBuffer := []

/-- `let mut offset = 4; if data[1] & 0x40 != 0 { offset += 1 + data[4] }`. -/
def sectionOffset (data : Bytes) : Option ℕ := do
  let flags ← data[1]?
  if flags &&& 0x40 != 0 then
    let pointer ← data[4]?
    return 4 + (1 + pointer.toNat)
  else return 4

/-- The version field of a PSI header at `offset`. -/
def readVersion (data : Bytes) (offset : ℕ) : Option UInt8 := do
  let b ← data[offset + 5]?
  return (b >>> 1) &&& 0x1F

/-- The positions visited by `(start..stop).step_by(4)`. -/
def stepBy4 (start stop : ℕ) : List ℕ :=
  List.range' start ((stop - start + 3) / 4) 4

/-- The loop over the program associations: the PID of the first entry for the
target, if the loop reaches one before it runs past the packet. -/
def findProgram (target : UInt16) (data : Bytes) : List ℕ → Option (Option UInt16)
  | [] => some none
  | i :: rest =>
    if i + 4 > data.length then some none
    else do
      let programNumber ← readU16 data i
      let pid ← readPid data (i + 2)
      if programNumber = target then return some pid
      else findProgram target data rest

/-- `process_pat`. A known version, a short packet or another table leave the state alone. -/
def ProgramFilter.processPat (f : ProgramFilter) (data : Bytes) : Option ProgramFilter := do
  let offset ← sectionOffset data
  if offset + 8 > data.length then return f
  let tableId ← data[offset]?
  if tableId ≠ 0x00 then return f
  let sectionLength ← readLength data (offset + 1)
  let version ← readVersion data offset
  if f.patVersion = some version then return f
  let programsStart := offset + 8
  let programsEnd ← checkedSub (offset + 3 + sectionLength) 4
  let found ← findProgram f.targetProgram data (stepBy4 programsStart programsEnd)
  -- the program information is only initialised, never replaced
  let programInfo := match found, f.programInfo with
    | some pid, none => some ⟨f.targetProgram, pid, ∅⟩
    | _, info => info
  return { f with patVersion := some version, programInfo := programInfo }

/-- The loop over the elementary streams. Every pass moves at least five bytes on,
so a budget of `data.len()` passes is never used up. -/
def collectPids (data : Bytes) (sectionEnd : ℕ) :
    ℕ → ℕ → Finset UInt16 → Option (Finset UInt16)
  | 0, _, pids => some pids
  | budget + 1, streamOffset, pids =>
    if streamOffset + 5 ≤ sectionEnd ∧ streamOffset + 5 ≤ data.length then do
      let _streamType ← data[streamOffset]?
      let elementaryPid ← readPid data (streamOffset + 1)
      let esInfoLength ← readLength data (streamOffset + 3)
      collectPids data sectionEnd budget (streamOffset + (5 + esInfoLength))
        (insert elementaryPid pids)
    else some pids

/-- `process_pmt`. The section's own `program_number` field is not read. -/
def ProgramFilter.processPmt (f : ProgramFilter) (data : Bytes) : Option ProgramFilter := do
  let offset ← sectionOffset data
  if offset + 12 > data.length then return f
  let tableId ← data[offset]?
  if tableId ≠ 0x02 then return f
  let sectionLength ← readLength data (offset + 1)
  let version ← readVersion data offset
  if f.pmtVersion = some version then return f
  let pcrPid ← readPid data (offset + 8)
  let programInfoLength ← readLength data (offset + 10)
  let streamOffset := offset + 12 + programInfoLength
  let sectionEnd ← checkedSub (offset + 3 + sectionLength) 4
  let pids ← collectPids data sectionEnd data.length streamOffset {pcrPid}
  return { f with
    pmtVersion := some version
    programInfo := f.programInfo.map fun info => { info with pids := pids } }

/-- The inlined `should_include_packet`. -/
def ProgramFilter.shouldInclude (f : ProgramFilter) (pid : UInt16) : Bool :=
  if pid = patPid ∨ pid = catPid then true
  else match f.programInfo with
    | some info => pid = info.pmtPid ∨ pid ∈ info.pids
    | none => false

/-- The learning step on an included packet. -/
def ProgramFilter.process (f : ProgramFilter) (packet : TsPacket) : Option ProgramFilter :=
  if packet.pid = patPid ∧ packet.payloadUnitStart then f.processPat packet.data
  else match f.programInfo with
    | some info =>
      if packet.pid = info.pmtPid ∧ packet.payloadUnitStart then f.processPmt packet.data
      else some f
    | none => some f

def ProgramFilter.put (f : ProgramFilter) (data : Bytes) : ProgramFilter :=
  { f with outputBuffer := f.outputBuffer ++ data }

/-- One pass of the packet loop. -/
def ProgramFilter.filterPacket (f : ProgramFilter) (packetData : Bytes) :
    Option ProgramFilter := do
  match ← TsPacket.parse packetData with
  | some packet =>
    if f.shouldInclude packet.pid then
      let f ← f.process packet
      return f.put packet.data
    else if f.fillWithNulls then return f.put nullPacket
    else return f
  | none =>
    if f.fillWithNulls then return f.put nullPacket
    else return f

/-- The `while` loop of `filter_packets`, with a budget of one pass for each byte. -/
def ProgramFilter.filterLoop (input : Bytes) :
    ℕ → ProgramFilter → ℕ → Option ProgramFilter
  | 0, f, _ => some f
  | budget + 1, f, offset =>
    if offset + tsPacketSize ≤ input.length then do
      let packetData ← slice input offset (offset + tsPacketSize)
      let f ← f.filterPacket packetData
      ProgramFilter.filterLoop input budget f (offset + tsPacketSize)
    else some f

/-- `filter_packets`: clear the buffer, run the loop, split the buffer off. -/
def ProgramFilter.filterPackets (f : ProgramFilter) (input : Bytes) :
    Option (ProgramFilter × Bytes) := do
  let f ← ProgramFilter.filterLoop input input.length { f with outputBuffer := [] } 0
  return ({ f with outputBuffer := [] }, f.outputBuffer)

/-- A task's loop: batches arrive one after the other at the same filter. The result
lists, batch by batch, the filter left behind and the output. -/
def ProgramFilter.filterBatches (f : ProgramFilter) :
    List Bytes → Option (List (ProgramFilter × Bytes))
  | [] => some []
  | input :: rest => do
    let (f, output) ← f.filterPackets input
    let tail ← ProgramFilter.filterBatches f rest
    return (f, output) :: tail

end StreamGateway.MpegtsFilter
