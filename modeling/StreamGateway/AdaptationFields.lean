import StreamGateway.LongTables

/-!
# Packets with an adaptation field

The filter takes the byte behind the header for the pointer field, whether or not the header
announces an adaptation field there. Behind an adaptation field it therefore takes the real
pointer field for the table id of a section, and goes on reading one byte early, or as many
bytes as the pointer field counts. What it learns is the same as from a packet without the
field only when both readings teach nothing, or happen to teach the same.
-/
namespace StreamGateway.MpegtsFilter

open Psi

/-- The packets teach the filter the same. -/
def SameLearned (f : ProgramFilter) (data data' : Bytes) : Prop :=
  ∃ g g' output output', f.filterPackets data = some (g, output) ∧
    f.filterPackets data' = some (g', output') ∧ g.programInfo = g'.programInfo ∧
    g.patVersion = g'.patVersion ∧ g.pmtVersion = g'.pmtVersion

theorem learned_ext {s t : Learned} (hi : s.programInfo = t.programInfo)
    (hpat : s.patVersion = t.patVersion) (hpmt : s.pmtVersion = t.pmtVersion) : s = t := by
  cases s
  cases t
  simp only [Learned.mk.injEq]
  exact ⟨hi, hpat, hpmt⟩

theorem sameLearned_iff (f : ProgramFilter) {data data' : Bytes}
    (h : data.length = tsPacketSize) (h' : data'.length = tsPacketSize) :
    SameLearned f data data' ↔ (selector f.targetProgram).step f.learned data =
      (selector f.targetProgram).step f.learned data' := by
  have hfinal : ∀ {data : Bytes}, data.length = tsPacketSize →
      (selector f.targetProgram).final f.learned (pieces tsPacketSize data) =
        (selector f.targetProgram).step f.learned data := by
    intro data h
    rw [pieces_packet h]
    rfl
  rw [← hfinal h, ← hfinal h']
  constructor
  · rintro ⟨g, g', output, output', hg, hg', hi, hpat, hpmt⟩
    rw [filterPackets_eq] at hg hg'
    obtain ⟨rfl, _⟩ := Prod.mk.inj (Option.some.inj hg)
    obtain ⟨rfl, _⟩ := Prod.mk.inj (Option.some.inj hg')
    exact learned_ext hi hpat hpmt
  · intro heq
    refine ⟨_, _, _, _, filterPackets_eq f data, filterPackets_eq f data', ?_, ?_, ?_⟩
    · exact congrArg Learned.programInfo heq
    · exact congrArg Learned.patVersion heq
    · exact congrArg Learned.pmtVersion heq

/-! ## Reading behind an adaptation field -/

/-- The first group of four bytes that begins with the number, read as an association. -/
def groupPid (number : UInt16) : Bytes → Option UInt16
  | a :: b :: c :: d :: rest =>
    if word a b = number then some (word (c &&& 0x1F) d) else groupPid number rest
  | _ => none

theorem groupPid_of_lt {number : UInt16} {body : Bytes} (h : body.length < 4) :
    groupPid number body = none := by
  match body with
  | a :: b :: c :: d :: rest =>
    simp only [List.length_cons] at h
    omega
  | [] | [a] | [a, b] | [a, b, c] => rfl

theorem exists_group {body : Bytes} (h : ¬ body.length < 4) :
    ∃ a b c d rest, body = a :: b :: c :: d :: rest := by
  rcases body with _ | ⟨a, _ | ⟨b, _ | ⟨c, _ | ⟨d, rest⟩⟩⟩⟩
  case cons.cons.cons.cons => exact ⟨a, b, c, d, rest, rfl⟩
  all_goals exact absurd (by simp) h

theorem programAt_groups (target : UInt16) (n : ℕ) (pre body : Bytes) :
    programAt target (pre ++ body) (List.range' pre.length n 4) =
      groupPid target (body.take (4 * n)) := by
  induction n generalizing pre body with
  | zero => simp [programAt, groupPid]
  | succ n ih =>
    rw [List.range'_succ, programAt, List.length_append]
    by_cases hl : body.length < 4
    · have hshort : (body.take (4 * (n + 1))).length < 4 := by
        rw [List.length_take]
        omega
      rw [if_pos (by omega), groupPid_of_lt hshort]
    · obtain ⟨a, b, c, d, rest, rfl⟩ := exists_group hl
      have hroom : ¬ pre.length + 4 > pre.length + (a :: b :: c :: d :: rest).length := by
        simp only [List.length_cons]
        omega
      have hrest := ih (pre ++ [a, b, c, d]) rest
      rw [List.append_assoc, List.length_append] at hrest
      have hnumber : u16At (pre ++ (a :: b :: c :: d :: rest)) pre.length = word a b := by
        rw [← Nat.add_zero pre.length, u16At_append_right]
        rfl
      have hpid : pidAt (pre ++ (a :: b :: c :: d :: rest)) (pre.length + 2) =
          word (c &&& 0x1F) d := by
        rw [pidAt_append_right]
        rfl
      have htake : (a :: b :: c :: d :: rest).take (4 * (n + 1)) =
          a :: b :: c :: d :: rest.take (4 * n) := by
        rw [Nat.mul_succ]
        rfl
      rw [if_neg hroom, hnumber, hpid, htake, groupPid]
      exact if_congr Iff.rfl rfl hrest

section Adapted

variable {pid : Pid} {psi : Bytes} (q : AdaptedPacket pid psi)

theorem byteAt_adapted {i : ℕ} (h : i < 5) :
    byteAt q.bytes i =
      byteAt (q.header.encode pid true 3 ++ [UInt8.ofNat q.adaptation.length]) i := by
  have hfront : i <
      (q.header.encode pid true 3 ++ [UInt8.ofNat q.adaptation.length]).length := by
    simpa using h
  rw [AdaptedPacket.bytes, AdaptedPacket.front, List.append_assoc, byteAt_append_left hfront]

theorem onPid_adaptedPacket : onPid pid q.bytes = true := by
  rw [onPid_iff, pidAt_eq_word, byteAt_adapted q (by decide), byteAt_adapted q (by decide),
    byteAt_adapted q (by decide)]
  refine ⟨rfl, ?_⟩
  simp [Header.encode]

theorem unitStart_adaptedPacket : unitStart q.bytes = true := by
  rw [unitStart, byteAt_adapted q (by decide)]
  simp [Header.encode]

theorem offsetAt_adaptedPacket : offsetAt q.bytes = q.front.length := by
  have hfull := q.full
  have hsz : packetSize = 188 := rfl
  have hpointer : (UInt8.ofNat q.adaptation.length).toNat = q.adaptation.length := by
    rw [UInt8.toNat_ofNat']
    omega
  have hbyte : byteAt q.bytes 4 = UInt8.ofNat q.adaptation.length := by
    rw [byteAt_adapted q (by decide)]
    rfl
  rw [offsetAt, unitStart_adaptedPacket, if_pos rfl, hbyte, hpointer, q.length_front]
  omega

/-- The real pointer field stands where the filter expects the table id. -/
theorem tableId_adaptedPacket :
    byteAt q.bytes (offsetAt q.bytes) = UInt8.ofNat q.filler.length := by
  rw [offsetAt_adaptedPacket, ← Nat.add_zero q.front.length, AdaptedPacket.bytes,
    byteAt_append_right]
  rfl

theorem tableId_eq_iff {n : ℕ} (hn : n < 256) :
    byteAt q.bytes (offsetAt q.bytes) = UInt8.ofNat n ↔ q.filler.length = n := by
  have hfull := q.full
  have hsz : packetSize = 188 := rfl
  rw [tableId_adaptedPacket, ← UInt8.toNat_inj, UInt8.toNat_ofNat', UInt8.toNat_ofNat']
  omega

theorem length_adaptedPacket :
    q.bytes.length = offsetAt q.bytes + (1 + q.filler.length + psi.length + q.rest.length) := by
  rw [offsetAt_adaptedPacket, AdaptedPacket.bytes]
  simp only [List.length_append, List.length_cons]
  omega

end Adapted

/-! ## A PAT section behind an adaptation field -/

section Association

variable {pat : Pat} (q : AdaptedPacket ⟨patPid, by decide⟩ pat.encode)

/-- The version that the filter finds in the low byte of the transport stream id. -/
def misreadVersion (pat : Pat) : UInt8 := (pat.transportStreamId.toUInt8 >>> 1) &&& 0x1F

/-- The PMT PID that the filter finds in the groups that begin with the last section number,
one byte in front of the entries. -/
def misreadPid (q : AdaptedPacket ⟨patPid, patPid_lt⟩ pat.encode) (target : UInt16) :
    Option UInt16 :=
  groupPid target ((pat.lastSectionNumber ::
    (pat.entries.flatMap PatEntry.encode ++ pat.checksum ++ q.rest)).take 168)

theorem bytes_adaptedPat (hq : q.filler = []) :
    q.bytes = q.front ++ (0x00 :: (pat.head ++
      (pat.entries.flatMap PatEntry.encode ++ pat.checksum ++ q.rest))) := by
  have hsection : pat.encode ++ q.rest = pat.head ++
      (pat.entries.flatMap PatEntry.encode ++ pat.checksum ++ q.rest) := List.append_assoc _ _ _
  rw [AdaptedPacket.bytes, hq, hsection]
  rfl

theorem versionAt_adaptedPat (hq : q.filler = []) :
    versionAt q.bytes (offsetAt q.bytes) = misreadVersion pat := by
  rw [offsetAt_adaptedPacket, bytes_adaptedPat q hq, versionAt_append_right]
  rfl

theorem sectionEndAt_adaptedPat (hq : q.filler = []) :
    sectionEndAt q.bytes (offsetAt q.bytes) = offsetAt q.bytes + 175 := by
  have hfull := q.full
  have hsz : packetSize = 188 := rfl
  rw [pat.length_encode] at hfull
  have hlength : lengthAt q.bytes (offsetAt q.bytes + 1) = 176 := by
    rw [offsetAt_adaptedPacket, bytes_adaptedPat q hq, lengthAt_append_right]
    have hhigh : (9 + 4 * pat.entries.length) / 256 = 0 := by omega
    change ((0x00 &&& 0x0F : UInt8).toNat <<< 8) |||
      (0xB0 ||| UInt8.ofNat ((9 + 4 * pat.entries.length) / 256)).toNat = 176
    rw [hhigh]
    rfl
  rw [sectionEndAt, hlength]
  omega

theorem pmtPidIn_adaptedPat (hq : q.filler = []) (target : UInt16) :
    pmtPidIn target q.bytes = misreadPid q target := by
  have hdata : q.bytes = q.front ++ (0x00 :: pat.head.take 7) ++ (pat.lastSectionNumber ::
      (pat.entries.flatMap PatEntry.encode ++ pat.checksum ++ q.rest)) := by
    rw [bytes_adaptedPat q hq]
    exact (List.append_assoc q.front (0x00 :: pat.head.take 7) _).symm
  have hstart : offsetAt q.bytes + 8 = (q.front ++ (0x00 :: pat.head.take 7)).length := by
    rw [offsetAt_adaptedPacket, List.length_append]
    rfl
  have hcount : (offsetAt q.bytes + 175 - (offsetAt q.bytes + 8) + 3) / 4 = 42 := by omega
  rw [pmtPidIn, sectionEndAt_adaptedPat q hq, stepBy4, hcount, hstart, hdata,
    programAt_groups]
  rfl

theorem patLearn_adaptedPat (target : UInt16) (s : Learned) :
    patLearn target s q.bytes =
      if q.filler = [] ∧ s.patVersion ≠ some (misreadVersion pat) then
        { s with
          patVersion := some (misreadVersion pat)
          programInfo := s.programInfo.or
            ((misreadPid q target).map fun pid => ⟨target, pid, ∅⟩) }
      else s := by
  have htable : byteAt q.bytes (offsetAt q.bytes) = 0x00 ↔ q.filler = [] := by
    rw [← List.length_eq_zero_iff]
    exact tableId_eq_iff q (by decide)
  have hlen := length_adaptedPacket q
  rw [pat.length_encode] at hlen
  have hfits : offsetAt q.bytes + 8 ≤ q.bytes.length := by omega
  unfold patLearn
  by_cases hq : q.filler = []
  · have hv := versionAt_adaptedPat q hq
    by_cases hnew : s.patVersion = some (misreadVersion pat)
    · have hr : readsPat s q.bytes = false := by simp [readsPat, hv, hnew]
      simp [hr, hnew]
    · have hr : readsPat s q.bytes = true := by simp [readsPat, hv, hnew, hfits, htable, hq]
      rw [if_pos hr, if_pos ⟨hq, hnew⟩, pmtPidIn_adaptedPat q hq, hv]
      cases s.programInfo <;> cases misreadPid q target <;> rfl
  · have hr : readsPat s q.bytes = false := by simp [readsPat, htable, hq]
    simp [hr, hq]

end Association

/-! ## A PMT section behind an adaptation field -/

section Map

variable {pid : Pid} {pmt : Pmt} (q : AdaptedPacket pid pmt.encode)

/-- The version that the filter finds in the low byte of the section length. -/
def misreadPmtVersion (pmt : Pmt) : UInt8 :=
  (UInt8.ofNat (13 + pmt.descriptors.length + (pmt.streams.flatMap Stream.encode).length) >>> 1)
    &&& 0x1F

/-- The only PID that the filter finds. Its high bits are those of the version byte. -/
def misreadPcrPid (pmt : Pmt) : UInt16 :=
  word (versionByte pmt.version pmt.current &&& 0x1F) 0x00

theorem bytes_adaptedPmt {x y : UInt8} (hq : q.filler = [x, y]) :
    q.bytes = q.front ++ (0x02 :: x :: y :: (pmt.head ++ (pmt.descriptors ++
      (pmt.streams.flatMap Stream.encode ++ pmt.checksum) ++ q.rest))) := by
  have hsection : pmt.encode ++ q.rest = pmt.head ++ (pmt.descriptors ++
      (pmt.streams.flatMap Stream.encode ++ pmt.checksum) ++ q.rest) := List.append_assoc _ _ _
  rw [AdaptedPacket.bytes, hq, hsection]
  rfl

theorem versionAt_adaptedPmt {x y : UInt8} (hq : q.filler = [x, y]) :
    versionAt q.bytes (offsetAt q.bytes) = misreadPmtVersion pmt := by
  rw [offsetAt_adaptedPacket, bytes_adaptedPmt q hq, versionAt_append_right]
  rfl

/-- The length of the program's descriptors is taken from a byte of at least 224, so no
elementary stream is in the packet. -/
theorem pmtPids_adaptedPmt {x y : UInt8} (hq : q.filler = [x, y]) :
    pmtPids q.bytes = {misreadPcrPid pmt} := by
  have hfull := q.full
  have hsz : packetSize = 188 := rfl
  have hlen : q.bytes.length = packetSize := q.length_bytes
  have hdata := bytes_adaptedPmt q hq
  have hpcr : pidAt q.bytes (offsetAt q.bytes + 8) = misreadPcrPid pmt := by
    rw [offsetAt_adaptedPacket, hdata, pidAt_append_right]
    rfl
  have hlength : 188 ≤ lengthAt q.bytes (offsetAt q.bytes + 10) := by
    rw [offsetAt_adaptedPacket, hdata, lengthAt_append_right]
    have hbits : ∀ b : UInt8, b < 32 → 188 ≤ (0xE0 ||| b).toNat := by decide +kernel
    change 188 ≤ ((0x00 &&& 0x0F : UInt8).toNat <<< 8) ||| (0xE0 ||| highByte pmt.pcrPid).toNat
    rw [UInt8.zero_and, UInt8.toNat_zero, Nat.zero_shiftLeft, Nat.zero_or]
    exact hbits _ (highByte_lt pmt.pcrPid)
  ext z
  rw [mem_pmtPids, PmtPidAt, hpcr, Finset.mem_singleton]
  have hnone : ¬ ListsStream q.bytes (sectionEndAt q.bytes (offsetAt q.bytes))
      (offsetAt q.bytes + 12 + lengthAt q.bytes (offsetAt q.bytes + 10)) z :=
    not_listsStream_of_gt (by omega)
  simp [hnone]

theorem pmtLearn_adaptedPmt (s : Learned) :
    pmtLearn s q.bytes =
      if q.filler.length = 2 ∧ s.pmtVersion ≠ some (misreadPmtVersion pmt) then
        { s with
          pmtVersion := some (misreadPmtVersion pmt)
          programInfo := s.programInfo.map fun info =>
            { info with pids := {misreadPcrPid pmt} } }
      else s := by
  have htable : byteAt q.bytes (offsetAt q.bytes) = 0x02 ↔ q.filler.length = 2 :=
    tableId_eq_iff q (by decide)
  have hlen := length_adaptedPacket q
  rw [pmt.length_encode] at hlen
  have hfits : offsetAt q.bytes + 12 ≤ q.bytes.length := by omega
  unfold pmtLearn
  by_cases hq : q.filler.length = 2
  · obtain ⟨x, y, hxy⟩ := List.length_eq_two.mp hq
    have hv := versionAt_adaptedPmt q hxy
    by_cases hnew : s.pmtVersion = some (misreadPmtVersion pmt)
    · have hr : readsPmt s q.bytes = false := by simp [readsPmt, hv, hnew]
      simp [hr, hnew]
    · have hr : readsPmt s q.bytes = true := by simp [readsPmt, hv, hnew, hfits, htable, hq]
      rw [if_pos hr, if_pos ⟨hq, hnew⟩, pmtPids_adaptedPmt q hxy, hv]
  · have hr : readsPmt s q.bytes = false := by simp [readsPmt, htable, hq]
    simp [hr, hq]

end Map

/-! ## The two readings -/

/-- The section behind the adaptation field is not read as a table and its version is the
recorded one; or it is read as one, both readings give one version, and if this is new to a
filter without a program, they give one PMT PID. -/
def PatAlike (f : ProgramFilter) {pat : Pat}
    (q : AdaptedPacket ⟨patPid, patPid_lt⟩ pat.encode) : Prop :=
  (q.filler ≠ [] ∧ f.patVersion = some pat.version.1) ∨
    (q.filler = [] ∧ misreadVersion pat = pat.version.1 ∧
      (f.patVersion = some pat.version.1 ∨ f.programInfo ≠ none ∨
        pat.pidOf f.targetProgram = misreadPid q f.targetProgram))

/-- The same for a filter that follows the PID of the PMT section. -/
def PmtAlike (f : ProgramFilter) {pid : Pid} {pmt : Pmt}
    (q : AdaptedPacket pid pmt.encode) : Prop :=
  Follows pid f.learned →
    (q.filler.length ≠ 2 ∧ f.pmtVersion = some pmt.version.1) ∨
      (q.filler.length = 2 ∧ misreadPmtVersion pmt = pmt.version.1 ∧
        (f.pmtVersion = some pmt.version.1 ∨ pmt.pids.toFinset = {misreadPcrPid pmt}))

theorem or_map_eq_iff {target : UInt16} {info : Option ProgramInfo} {a b : Option UInt16} :
    info.or (a.map fun pid => ⟨target, pid, ∅⟩) = info.or (b.map fun pid => ⟨target, pid, ∅⟩) ↔
      info ≠ none ∨ a = b := by
  cases info with
  | some info => simp
  | none =>
    cases a <;> cases b <;> simp

theorem samePat_iff (f : ProgramFilter) {pat : Pat}
    (p : UnitPacket ⟨patPid, by decide⟩ pat.encode)
    (q : AdaptedPacket ⟨patPid, by decide⟩ pat.encode) :
    SameLearned f p.bytes q.bytes ↔ PatAlike f q := by
  have hversion : f.learned.patVersion = f.patVersion := rfl
  have hinfo : f.learned.programInfo = f.programInfo := rfl
  rw [sameLearned_iff f p.length_bytes q.length_bytes, step_onPat (onPid_unitPacket p),
    step_onPat (onPid_adaptedPacket q), unitStart_unitPacket, unitStart_adaptedPacket,
    if_pos rfl, if_pos rfl, patLearn_whole, patLearn_adaptedPat, hversion, hinfo]
  unfold PatAlike
  by_cases hq : q.filler = []
  · by_cases hv : f.patVersion = some pat.version.1
    · by_cases hm : misreadVersion pat = pat.version.1
      · simp [hq, hv, hm]
      · have hne : ¬ pat.version.1 = misreadVersion pat := fun h => hm h.symm
        simp [hq, hv, hm, hne, ProgramFilter.learned]
    · by_cases hm : misreadVersion pat = pat.version.1
      · simp [hq, hv, hm, or_map_eq_iff]
      · have hne : ¬ pat.version.1 = misreadVersion pat := fun h => hm h.symm
        by_cases hknown : f.patVersion = some (misreadVersion pat)
        · simp [hq, hm, hne, hknown, ProgramFilter.learned]
        · simp [hq, hm, hne, hv, hknown]
  · by_cases hv : f.patVersion = some pat.version.1
    · simp [hq, hv]
    · have hne : ¬ some pat.version.1 = f.patVersion := fun h => hv h.symm
      simp [hq, hv, hne, ProgramFilter.learned]

/-- A filter learns nothing from a PID that it does not follow. -/
theorem step_not_followed {target : UInt16} {s : Learned} {pid : Pid} (hpid : pid.1 ≠ patPid)
    (hfollows : ¬ Follows pid s) {data : Bytes} (hon : onPid pid data = true) :
    (selector target).step s data = s := by
  obtain ⟨hs, hp⟩ := onPid_iff.mp hon
  refine step_elsewhere ?_ ?_
  · rw [Bool.eq_false_iff]
    intro hpat
    exact hpid (hp.symm.trans (onPid_iff.mp hpat).2)
  · intro info hi
    rw [Bool.eq_false_iff]
    intro hpmt
    exact hfollows ⟨info, hi, (onPid_iff.mp hpmt).2.symm.trans hp⟩

theorem samePmt_iff (f : ProgramFilter) {pid : Pid} (hpid : pid.1 ≠ patPid) {pmt : Pmt}
    (p : UnitPacket pid pmt.encode) (q : AdaptedPacket pid pmt.encode) :
    SameLearned f p.bytes q.bytes ↔ PmtAlike f q := by
  have hversion : f.learned.pmtVersion = f.pmtVersion := rfl
  rw [sameLearned_iff f p.length_bytes q.length_bytes]
  unfold PmtAlike
  by_cases hfollows : Follows pid f.learned
  · rw [forall_prop_of_true hfollows]
    obtain ⟨info, hi, hsame⟩ := hfollows
    have hne : info.pmtPid ≠ patPid := hsame ▸ hpid
    rw [step_onPmt hi hne (hsame ▸ onPid_unitPacket p),
      step_onPmt hi hne (hsame ▸ onPid_adaptedPacket q), unitStart_unitPacket,
      unitStart_adaptedPacket, if_pos rfl, if_pos rfl, pmtLearn_whole, pmtLearn_adaptedPmt,
      hversion, hi]
    by_cases hq : q.filler.length = 2
    · by_cases hv : f.pmtVersion = some pmt.version.1
      · by_cases hm : misreadPmtVersion pmt = pmt.version.1
        · simp [hq, hv, hm]
        · have hne : ¬ pmt.version.1 = misreadPmtVersion pmt := fun h => hm h.symm
          simp [hq, hv, hm, hne, ProgramFilter.learned]
      · by_cases hm : misreadPmtVersion pmt = pmt.version.1
        · simp [hq, hv, hm]
        · have hne : ¬ pmt.version.1 = misreadPmtVersion pmt := fun h => hm h.symm
          by_cases hknown : f.pmtVersion = some (misreadPmtVersion pmt)
          · simp [hq, hm, hne, hknown, ProgramFilter.learned]
          · simp [hq, hm, hne, hv, hknown]
    · by_cases hv : f.pmtVersion = some pmt.version.1
      · simp [hq, hv]
      · have hne : ¬ some pmt.version.1 = f.pmtVersion := fun h => hv h.symm
        simp [hq, hv, hne, ProgramFilter.learned]
  · rw [step_not_followed hpid hfollows (onPid_unitPacket p),
      step_not_followed hpid hfollows (onPid_adaptedPacket q)]
    simp [hfollows]

/-- The sample PAT behind an adaptation field of one byte. -/
def adaptedPat : AdaptedPacket ⟨patPid, patPid_lt⟩ samplePat.encode where
  header := sampleHeader
  adaptation := [0x00]
  filler := []
  rest := List.replicate 157 0xFF
  full := by decide +kernel

/-- A new filter takes another version from the packet with the adaptation field, and no
program. -/
theorem adaptedPat_not_same :
    ¬ SameLearned (ProgramFilter.new 1 false) samplePatPacket.bytes adaptedPat.bytes := by
  rw [samePat_iff]
  rintro (⟨hq, _⟩ | ⟨_, hm, _⟩)
  · exact hq rfl
  · exact absurd hm (by decide)

/-- From every state, a PAT or PMT section in one packet teaches the filter the same with and
without an adaptation field if and only if the two readings are alike. -/
theorem adaptationField_iff (f : ProgramFilter) :
    (∀ (pat : Pat) (p : UnitPacket ⟨patPid, by decide⟩ pat.encode)
        (q : AdaptedPacket ⟨patPid, by decide⟩ pat.encode),
        SameLearned f p.bytes q.bytes ↔ PatAlike f q) ∧
      ∀ (pid : Pid) (pmt : Pmt) (p : UnitPacket pid pmt.encode)
        (q : AdaptedPacket pid pmt.encode), pid.1 ≠ patPid →
        (SameLearned f p.bytes q.bytes ↔ PmtAlike f q) := by
  refine ⟨?_, ?_⟩
  · intro pat p q
    exact samePat_iff f p q
  · intro pid pmt p q hpid
    exact samePmt_iff f hpid p q

/-- A PAT whose stream id is misread for its version, and whose first entry, read one byte too
early, gives program 1 the PID of the second. -/
def alignedPat : Pat where
  transportStreamId := 0x0010
  version := ⟨8, by decide⟩
  current := true
  sectionNumber := 0
  lastSectionNumber := 0
  entries := [⟨0x0101, ⟨0x0110, by decide⟩⟩, ⟨1, ⟨0x01E1, by decide⟩⟩]
  checksum := samplePat.checksum
  length_checksum := samplePat.length_checksum
  fits := by decide

def alignedPatPacket : UnitPacket ⟨patPid, patPid_lt⟩ alignedPat.encode where
  header := sampleHeader
  filler := []
  rest := List.replicate 163 0xFF
  full := by decide +kernel

def adaptedAlignedPat : AdaptedPacket ⟨patPid, patPid_lt⟩ alignedPat.encode where
  header := sampleHeader
  adaptation := [0x00]
  filler := []
  rest := List.replicate 161 0xFF
  full := by decide +kernel

/-- A PMT without streams, whose version and PCR are what its bytes are misread for. -/
def alignedPmt : Pmt where
  program := 1
  version := ⟨6, by decide⟩
  current := true
  pcrPid := ⟨0x0D00, by decide⟩
  descriptors := []
  streams := []
  checksum := samplePmt.checksum
  length_checksum := samplePmt.length_checksum
  fits := by decide

def alignedPmtPacket : UnitPacket ⟨0x0100, samplePid_lt⟩ alignedPmt.encode where
  header := sampleHeader
  filler := []
  rest := List.replicate 167 0xFF
  full := by decide +kernel

def adaptedAlignedPmt : AdaptedPacket ⟨0x0100, samplePid_lt⟩ alignedPmt.encode where
  header := sampleHeader
  adaptation := [0x00]
  filler := [0x00, 0x00]
  rest := List.replicate 163 0xFF
  full := by decide +kernel

/-- A new filter learns the program from the PAT, and a filter that has it learns the PIDs from the
PMT, with and without an adaptation field. -/
theorem aligned_same :
    (SameLearned (ProgramFilter.new 1 false) alignedPatPacket.bytes adaptedAlignedPat.bytes ∧
      ((ProgramFilter.new 1 false).filterPackets adaptedAlignedPat.bytes).map
        (·.1.programInfo) = some (some ⟨1, 0x01E1, ∅⟩)) ∧
    SameLearned sampleFilter alignedPmtPacket.bytes adaptedAlignedPmt.bytes ∧
      (sampleFilter.filterPackets adaptedAlignedPmt.bytes).map (·.1.programInfo) =
        some (some ⟨1, 0x0100, {0x0D00}⟩) := by
  refine ⟨⟨?_, by decide +kernel⟩, ?_, by decide +kernel⟩
  · refine ((adaptationField_iff _).1 alignedPat alignedPatPacket adaptedAlignedPat).mpr ?_
    exact .inr ⟨rfl, by decide, .inr (.inr (by decide +kernel))⟩
  · refine ((adaptationField_iff _).2 ⟨0x0100, by decide⟩ alignedPmt alignedPmtPacket
      adaptedAlignedPmt (by decide)).mpr fun _ => ?_
    exact .inr ⟨rfl, by decide, .inr (by decide)⟩

end StreamGateway.MpegtsFilter
