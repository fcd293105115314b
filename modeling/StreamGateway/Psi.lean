import Mathlib

/-!
# Program specific information

The two tables by which an MPEG transport stream says what it carries, written as the
standard writes them. A program association section maps program numbers to PIDs, a program
map section lists the PIDs of one program. The bounds of the fields are part of the types, so
every value has an encoding. The checksum is any four bytes.

A section travels in packets of 188 bytes. The packet in which it starts has a pointer field
in front of the payload, which counts the bytes before the section.
-/
namespace StreamGateway.Psi

/-- Thirteen bits. -/
abbrev Pid := {pid : UInt16 // pid < 0x2000}

/-- Five bits. -/
abbrev Version := {version : UInt8 // version < 32}

/-- The number with the given high and low byte. -/
def word (high low : UInt8) : UInt16 := (high.toUInt16 <<< 8) ||| low.toUInt16

def highByte (n : UInt16) : UInt8 := (n >>> 8).toUInt8

def u16Bytes (n : UInt16) : List UInt8 := [highByte n, n.toUInt8]

/-- Three reserved bits and a PID. -/
def pidBytes (pid : Pid) : List UInt8 := [0xE0 ||| highByte pid, pid.1.toUInt8]

/-- Four bits of flags and a length of twelve bits. -/
def lengthBytes (flags : UInt8) (n : ℕ) : List UInt8 :=
  [flags ||| UInt8.ofNat (n / 256), UInt8.ofNat n]

/-- Two reserved bits, the version and the current-next indicator. -/
def versionByte (version : Version) (current : Bool) : UInt8 :=
  (0xC0 : UInt8) ||| (version.1 <<< 1) ||| current.toUInt8

/-! ## Sections -/

structure PatEntry where
  program : UInt16
  pid : Pid

def PatEntry.encode (e : PatEntry) : List UInt8 := u16Bytes e.program ++ pidBytes e.pid

/-- A program association section. The length field may be at most 1021. -/
structure Pat where
  transportStreamId : UInt16
  version : Version
  current : Bool
  sectionNumber : UInt8
  lastSectionNumber : UInt8
  entries : List PatEntry
  checksum : List UInt8
  length_checksum : checksum.length = 4
  fits : 9 + 4 * entries.length ≤ 1021

namespace Pat

variable (pat : Pat)

def head : List UInt8 :=
  [0x00] ++ lengthBytes 0xB0 (9 + 4 * pat.entries.length) ++ u16Bytes pat.transportStreamId ++
    [versionByte pat.version pat.current, pat.sectionNumber, pat.lastSectionNumber]

def encode : List UInt8 :=
  pat.head ++ (pat.entries.flatMap PatEntry.encode ++ pat.checksum)

/-- The PID that the section's first entry for the program gives. -/
def pidOf (program : UInt16) : Option UInt16 :=
  (pat.entries.find? fun e => e.program = program).map fun e => e.pid

/-- The standard reserves the PIDs below 0x0010 and the last one. -/
def WellFormed : Prop := ∀ e ∈ pat.entries, 0x0010 ≤ e.pid.1 ∧ e.pid.1 < 0x1FFF

end Pat

/-- An elementary stream, with its descriptors as bytes. -/
structure Stream where
  streamType : UInt8
  pid : Pid
  descriptors : List UInt8
  fits : descriptors.length < 1024

def Stream.head (s : Stream) : List UInt8 :=
  [s.streamType] ++ pidBytes s.pid ++ lengthBytes 0xF0 s.descriptors.length

def Stream.encode (s : Stream) : List UInt8 := s.head ++ s.descriptors

/-- A program map section, with the program's own descriptors as bytes. -/
structure Pmt where
  program : UInt16
  version : Version
  current : Bool
  pcrPid : Pid
  descriptors : List UInt8
  streams : List Stream
  checksum : List UInt8
  length_checksum : checksum.length = 4
  fits : 13 + descriptors.length + (streams.flatMap Stream.encode).length ≤ 1021

namespace Pmt

variable (pmt : Pmt)

def head : List UInt8 :=
  [0x02] ++
    lengthBytes 0xB0 (13 + pmt.descriptors.length +
      (pmt.streams.flatMap Stream.encode).length) ++
    u16Bytes pmt.program ++ [versionByte pmt.version pmt.current, 0x00, 0x00] ++
    pidBytes pmt.pcrPid ++ lengthBytes 0xF0 pmt.descriptors.length

def encode : List UInt8 :=
  pmt.head ++ (pmt.descriptors ++ (pmt.streams.flatMap Stream.encode ++ pmt.checksum))

/-- The PCR PID and the PIDs of the elementary streams. -/
def pids : List UInt16 := pmt.pcrPid.1 :: pmt.streams.map fun s => s.pid.1

end Pmt

/-! ## Packets -/

/-- What a packet header has besides the PID, the start indicator and the adaptation field
control. -/
structure Header where
  transportError : Bool
  priority : Bool
  scrambling : Fin 4
  counter : Fin 16

def Header.flags (h : Header) (unitStart : Bool) : UInt8 :=
  (h.transportError.toUInt8 <<< 7) ||| (unitStart.toUInt8 <<< 6) |||
    (h.priority.toUInt8 <<< 5)

def Header.control (h : Header) (adaptation : Fin 4) : UInt8 :=
  (UInt8.ofNat h.scrambling <<< 6) ||| (UInt8.ofNat adaptation <<< 4) ||| UInt8.ofNat h.counter

def Header.encode (h : Header) (pid : Pid) (unitStart : Bool) (adaptation : Fin 4) :
    List UInt8 :=
  [0x47, h.flags unitStart ||| highByte pid, pid.1.toUInt8, h.control adaptation]

/-- No errors, no priority, no scrambling, and the first packet of its PID. -/
def Header.plain : Header := ⟨false, false, 0, 0⟩

def packetSize : ℕ := 188

/-- A packet of the PID, without adaptation field, in which the given bytes start. -/
structure UnitPacket (pid : Pid) (psi : List UInt8) where
  header : Header
  filler : List UInt8
  rest : List UInt8
  full : 5 + filler.length + psi.length + rest.length = packetSize

/-- The bytes up to the section. -/
def UnitPacket.front {pid : Pid} {psi : List UInt8} (p : UnitPacket pid psi) : List UInt8 :=
  p.header.encode pid true 1 ++ [UInt8.ofNat p.filler.length] ++ p.filler

def UnitPacket.bytes {pid : Pid} {psi : List UInt8} (p : UnitPacket pid psi) : List UInt8 :=
  p.front ++ (psi ++ p.rest)

/-- A packet in which the given bytes start behind an adaptation field. -/
structure AdaptedPacket (pid : Pid) (psi : List UInt8) where
  header : Header
  adaptation : List UInt8
  filler : List UInt8
  rest : List UInt8
  full : 6 + adaptation.length + filler.length + psi.length + rest.length = packetSize

/-- The bytes up to the pointer field. -/
def AdaptedPacket.front {pid : Pid} {psi : List UInt8} (p : AdaptedPacket pid psi) :
    List UInt8 :=
  p.header.encode pid true 3 ++ [UInt8.ofNat p.adaptation.length] ++ p.adaptation

def AdaptedPacket.bytes {pid : Pid} {psi : List UInt8} (p : AdaptedPacket pid psi) :
    List UInt8 :=
  p.front ++ (UInt8.ofNat p.filler.length :: (p.filler ++ (psi ++ p.rest)))

/-- A packet of the PID that goes on with what an earlier one began, with or without an
adaptation field. -/
structure MorePacket (pid : Pid) where
  header : Header
  adaptation : Option (List UInt8)
  payload : List UInt8
  full : 4 + (adaptation.elim 0 fun field => 1 + field.length) + payload.length = packetSize

def MorePacket.bytes {pid : Pid} (p : MorePacket pid) : List UInt8 :=
  p.header.encode pid false (if p.adaptation.isSome then 3 else 1) ++
    (p.adaptation.elim [] fun field => UInt8.ofNat field.length :: field) ++ p.payload

/-- The packets of a PID carry the sections one after the other. The first argument is what
is left of a section that has begun; a section in which the packet ends goes on in the next
one, and behind the last section of a packet there may be stuffing. The list of pairs has
each section that a pointer field points to, with the number of bytes from there to the end
of the packet. -/
inductive Carries {σ : Type*} (encode : σ → List UInt8) (pid : Pid) :
    List UInt8 → List σ → List (ℕ × σ) → List (List UInt8) → Prop
  | done : Carries encode pid [] [] [] []
  | more {left stuffing : List UInt8} {sections starts packets} (chunk : List UInt8)
      (p : MorePacket pid) : p.payload = chunk ++ stuffing → stuffing = [] ∨ left = [] →
      Carries encode pid left sections starts packets →
      Carries encode pid (chunk ++ left) sections starts (p.bytes :: packets)
  | unit {left left' : List UInt8} {sections starts packets} (first : σ) (others : List σ)
      (psi : List UInt8) (p : UnitPacket pid psi) : left <+: p.filler →
      encode first ++ others.flatMap encode = psi ++ left' → p.rest = [] ∨ left' = [] →
      Carries encode pid left' sections starts packets →
      Carries encode pid left (first :: others ++ sections)
        (((psi ++ p.rest).length, first) :: starts) (p.bytes :: packets)

/-! ## Fields read back -/

theorem toNat_word (high low : UInt8) : (word high low).toNat = 256 * high.toNat + low.toNat := by
  have hlow : low.toNat < 2 ^ 8 := low.toNat_lt
  have hhigh : high.toNat < 2 ^ 8 := high.toNat_lt
  have hsum : high.toNat <<< 8 + low.toNat = 256 * high.toNat + low.toNat := by
    rw [Nat.shiftLeft_eq]
    omega
  have hmod : high.toNat <<< 8 % 2 ^ 16 = high.toNat <<< 8 := by
    rw [Nat.shiftLeft_eq]
    omega
  calc (word high low).toNat
      = high.toNat <<< 8 % 2 ^ 16 ||| low.toNat := by simp [word]
    _ = 256 * high.toNat + low.toNat := by
      rw [hmod, ← Nat.shiftLeft_add_eq_or_of_lt hlow, hsum]

theorem toNat_highByte (n : UInt16) : (highByte n).toNat = n.toNat / 256 := by
  have hn : n.toNat < 2 ^ 16 := n.toNat_lt
  have hshift : (n >>> 8).toNat = n.toNat / 256 := by
    rw [UInt16.toNat_shiftRight, Nat.shiftRight_eq_div_pow]
    rfl
  rw [highByte, UInt16.toNat_toUInt8, hshift]
  omega

@[simp] theorem word_highByte (n : UInt16) : word (highByte n) n.toUInt8 = n := by
  have hn : n.toNat < 2 ^ 16 := n.toNat_lt
  rw [← UInt16.toNat_inj, toNat_word, toNat_highByte, UInt16.toNat_toUInt8]
  omega

theorem highByte_lt (pid : Pid) : highByte pid < 32 := by
  have hp : pid.1.toNat < 0x2000 := UInt16.lt_iff_toNat_lt.mp pid.2
  rw [UInt8.lt_iff_toNat_lt, toNat_highByte]
  change pid.1.toNat / 256 < 32
  omega

@[simp] theorem reserved_and (pid : Pid) :
    (0xE0 ||| highByte pid) &&& 0x1F = highByte pid := by
  have h : ∀ x : UInt8, x < 32 → (0xE0 ||| x) &&& 0x1F = x := by decide +kernel
  exact h _ (highByte_lt pid)

@[simp] theorem flags_and (h : Header) (unitStart : Bool) (pid : Pid) :
    (h.flags unitStart ||| highByte pid) &&& 0x1F = highByte pid := by
  have hbits : ∀ x : UInt8, x < 32 → ∀ a b c : Bool,
      ((a.toUInt8 <<< 7) ||| (b.toUInt8 <<< 6) ||| (c.toUInt8 <<< 5) ||| x) &&& 0x1F = x := by
    decide +kernel
  exact hbits _ (highByte_lt pid) _ _ _

@[simp] theorem flags_start (h : Header) (unitStart : Bool) (pid : Pid) :
    ((h.flags unitStart ||| highByte pid) &&& 0x40 != 0) = unitStart := by
  have hbits : ∀ x : UInt8, x < 32 → ∀ a b c : Bool,
      (((a.toUInt8 <<< 7) ||| (b.toUInt8 <<< 6) ||| (c.toUInt8 <<< 5) ||| x) &&& 0x40 != 0) =
        b := by
    decide +kernel
  exact hbits _ (highByte_lt pid) _ _ _

@[simp] theorem versionByte_shift (version : Version) (current : Bool) :
    (versionByte version current >>> 1) &&& 0x1F = version.1 := by
  have hbits : ∀ v : UInt8, v < 32 → ∀ c : Bool,
      (((0xC0 : UInt8) ||| (v <<< 1) ||| c.toUInt8) >>> 1) &&& 0x1F = v := by
    decide +kernel
  exact hbits _ version.2 current

/-- The twelve bits of a length field. -/
theorem length_readBack {flags : UInt8} (hf : flags &&& 0x0F = 0) {n : ℕ} (hn : n < 4096) :
    (((flags ||| UInt8.ofNat (n / 256)) &&& 0x0F).toNat <<< 8) ||| (UInt8.ofNat n).toNat = n := by
  have hf' : flags.toNat &&& 15 = 0 := by
    have h := congrArg UInt8.toNat hf
    rwa [UInt8.toNat_and] at h
  have hhigh : (UInt8.ofNat (n / 256)).toNat &&& 15 = n / 256 := by
    rw [UInt8.toNat_ofNat', Nat.and_two_pow_sub_one_eq_mod _ 4]
    omega
  have hlow : (UInt8.ofNat n).toNat < 2 ^ 8 := (UInt8.ofNat n).toNat_lt
  have hand : ((flags ||| UInt8.ofNat (n / 256)) &&& 0x0F).toNat = n / 256 := by
    rw [UInt8.toNat_and, UInt8.toNat_or]
    change (flags.toNat ||| (UInt8.ofNat (n / 256)).toNat) &&& 15 = n / 256
    rw [Nat.and_or_distrib_right, hf', hhigh, Nat.zero_or]
  rw [hand, ← Nat.shiftLeft_add_eq_or_of_lt hlow, Nat.shiftLeft_eq, UInt8.toNat_ofNat']
  omega

/-! ## Lengths -/

@[simp] theorem length_patEntry (e : PatEntry) : e.encode.length = 4 := rfl

@[simp] theorem Pat.length_head (pat : Pat) : pat.head.length = 8 := rfl

@[simp] theorem Stream.length_head (s : Stream) : s.head.length = 5 := rfl

@[simp] theorem Stream.length_encode (s : Stream) :
    s.encode.length = 5 + s.descriptors.length := by
  simp [Stream.encode]

@[simp] theorem Pmt.length_head (pmt : Pmt) : pmt.head.length = 12 := rfl

theorem length_entries (es : List PatEntry) :
    (es.flatMap PatEntry.encode).length = 4 * es.length := by
  induction es with
  | nil => rfl
  | cons e es ih =>
    rw [List.flatMap_cons, List.length_append, ih, length_patEntry, List.length_cons]
    omega

theorem Pat.length_encode (pat : Pat) : pat.encode.length = 12 + 4 * pat.entries.length := by
  simp only [Pat.encode, List.length_append, Pat.length_head, length_entries,
    pat.length_checksum]
  omega

theorem Pmt.length_encode (pmt : Pmt) :
    pmt.encode.length =
      16 + pmt.descriptors.length + (pmt.streams.flatMap Stream.encode).length := by
  simp only [Pmt.encode, List.length_append, Pmt.length_head, pmt.length_checksum]
  omega

section Packets

variable {pid : Pid} {psi : List UInt8}

@[simp] theorem length_header (h : Header) (unitStart : Bool) (adaptation : Fin 4) :
    (h.encode pid unitStart adaptation).length = 4 := rfl

@[simp] theorem UnitPacket.length_front (p : UnitPacket pid psi) :
    p.front.length = 5 + p.filler.length := by
  simp [UnitPacket.front, Nat.add_comm]

theorem UnitPacket.length_bytes (p : UnitPacket pid psi) : p.bytes.length = packetSize := by
  have hfull := p.full
  simp only [UnitPacket.bytes, List.length_append, UnitPacket.length_front]
  omega

@[simp] theorem AdaptedPacket.length_front (p : AdaptedPacket pid psi) :
    p.front.length = 5 + p.adaptation.length := by
  simp [AdaptedPacket.front, Nat.add_comm]

theorem AdaptedPacket.length_bytes (p : AdaptedPacket pid psi) :
    p.bytes.length = packetSize := by
  have hfull := p.full
  simp only [AdaptedPacket.bytes, List.length_append, List.length_cons,
    AdaptedPacket.length_front]
  omega

end Packets

end StreamGateway.Psi
