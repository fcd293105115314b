import StreamGateway.ProgramIsolation
import StreamGateway.Psi

/-!
# The parsers invert the encoding

The two parsers on packets in which an encoded section starts. Reading from the offset that
the code computes is reading the section, and each of the two loops reads the entries of its
table one by one, up to the end of the section or of the packet, whichever comes first. A
section that the packet holds whole is read in full.
-/
namespace StreamGateway.MpegtsFilter

open Psi

/-! ## Reading behind a prefix -/

section Reading

variable (l r : Bytes) (i : ℕ)

theorem byteAt_append_right : byteAt (l ++ r) (l.length + i) = byteAt r i := by
  unfold byteAt
  rw [List.getD_append_right _ _ _ _ (Nat.le_add_right _ _), Nat.add_sub_cancel_left]

theorem byteAt_append_left {l : Bytes} {i : ℕ} (h : i < l.length) (r : Bytes) :
    byteAt (l ++ r) i = byteAt l i := List.getD_append _ _ _ _ h

theorem pidAt_append_right : pidAt (l ++ r) (l.length + i) = pidAt r i := by
  simp only [pidAt, Nat.add_assoc, byteAt_append_right]

theorem u16At_append_right : u16At (l ++ r) (l.length + i) = u16At r i := by
  simp only [u16At, Nat.add_assoc, byteAt_append_right]

theorem lengthAt_append_right : lengthAt (l ++ r) (l.length + i) = lengthAt r i := by
  simp only [lengthAt, Nat.add_assoc, byteAt_append_right]

theorem versionAt_append_right : versionAt (l ++ r) l.length = versionAt r 0 := by
  simp only [versionAt, byteAt_append_right, Nat.zero_add]

end Reading

@[simp] theorem byteAt_zero (b : UInt8) (bs : Bytes) : byteAt (b :: bs) 0 = b := rfl

@[simp] theorem byteAt_succ (b : UInt8) (bs : Bytes) (i : ℕ) :
    byteAt (b :: bs) (i + 1) = byteAt bs i := rfl

theorem pidAt_eq_word (data : Bytes) (i : ℕ) :
    pidAt data i = word (byteAt data i &&& 0x1F) (byteAt data (i + 1)) := rfl

theorem u16At_eq_word (data : Bytes) (i : ℕ) :
    u16At data i = word (byteAt data i) (byteAt data (i + 1)) := rfl

/-! ## The packet -/

section Packets

variable {pid : Pid} {psi : Bytes}

theorem byteAt_front (p : UnitPacket pid psi) {i : ℕ} (h : i < 5) :
    byteAt p.bytes i =
      byteAt (p.header.encode pid true 1 ++ [UInt8.ofNat p.filler.length]) i := by
  have hfront : i < (p.header.encode pid true 1 ++ [UInt8.ofNat p.filler.length]).length := by
    simpa using h
  rw [UnitPacket.bytes, UnitPacket.front, List.append_assoc, byteAt_append_left hfront]

theorem syncByte_unitPacket (p : UnitPacket pid psi) : byteAt p.bytes 0 = tsSyncByte := by
  rw [byteAt_front p (by decide)]
  rfl

theorem pidAt_unitPacket (p : UnitPacket pid psi) : pidAt p.bytes 1 = pid := by
  rw [pidAt_eq_word, byteAt_front p (by decide), byteAt_front p (by decide)]
  simp [Header.encode]

theorem unitStart_unitPacket (p : UnitPacket pid psi) : unitStart p.bytes = true := by
  rw [unitStart, byteAt_front p (by decide)]
  simp [Header.encode]

theorem offsetAt_unitPacket (p : UnitPacket pid psi) : offsetAt p.bytes = p.front.length := by
  have hfull := p.full
  have hsz : packetSize = 188 := rfl
  have hpointer : (UInt8.ofNat p.filler.length).toNat = p.filler.length := by
    rw [UInt8.toNat_ofNat']
    omega
  have hbyte : byteAt p.bytes 4 = UInt8.ofNat p.filler.length := by
    rw [byteAt_front p (by decide)]
    rfl
  rw [offsetAt, unitStart_unitPacket, if_pos rfl, hbyte, hpointer, p.length_front]
  omega

end Packets

/-! ## The association loop -/

/-- What a prefix holds of the first of two parts. -/
theorem prefix_cases {l rest body : Bytes} (h : body <+: l ++ rest) :
    body <+: l ∨ ∃ body', body = l ++ body' ∧ body' <+: rest := by
  obtain ⟨t, ht⟩ := h
  obtain ⟨c, hc, hr⟩ | ⟨c, hc, hr⟩ := List.append_eq_append_iff.mp ht
  · exact Or.inl ⟨c, hc.symm⟩
  · exact Or.inr ⟨c, hc, t, hr.symm⟩

theorem prefix_of_length_le {l rest body : Bytes} (h : body <+: l ++ rest)
    (hl : l.length ≤ body.length) : ∃ body', body = l ++ body' ∧ body' <+: rest := by
  obtain hp | h' := prefix_cases h
  · exact ⟨[], by rw [List.append_nil, hp.eq_of_length_le hl], List.nil_prefix⟩
  · exact h'

/-- The loop reads the entries that are whole in the packet. -/
theorem programAt_entries (target : UInt16) (es : List PatEntry) (pre body tail : Bytes)
    (h : body <+: es.flatMap PatEntry.encode ++ tail) :
    programAt target (pre ++ body) (List.range' pre.length es.length 4) =
      ((es.take (body.length / 4)).find? fun e => e.program = target).map fun e => e.pid.1 := by
  induction es generalizing pre body with
  | nil => simp [programAt]
  | cons e es ih =>
    rw [List.length_cons, List.range'_succ, programAt, List.length_append]
    by_cases hl : 4 ≤ body.length
    · rw [List.flatMap_cons, List.append_assoc] at h
      obtain ⟨body', rfl, hprefix⟩ := prefix_of_length_le h hl
      have hroom : ¬ pre.length + 4 > pre.length + (e.encode ++ body').length := by omega
      have hprogram : u16At (pre ++ (e.encode ++ body')) pre.length = e.program := by
        rw [← Nat.add_zero pre.length, u16At_append_right, u16At_eq_word]
        exact word_highByte _
      have hpid : pidAt (pre ++ (e.encode ++ body')) (pre.length + 2) = e.pid := by
        rw [pidAt_append_right, pidAt_eq_word]
        change word ((0xE0 ||| highByte e.pid) &&& 0x1F) e.pid.1.toUInt8 = e.pid
        rw [reserved_and, word_highByte]
      have hrest := ih (pre ++ e.encode) body' hprefix
      rw [List.append_assoc, List.length_append, length_patEntry] at hrest
      have htake : (e.encode ++ body').length / 4 = body'.length / 4 + 1 := by
        rw [List.length_append, length_patEntry]
        omega
      rw [if_neg hroom, hprogram, hpid, hrest, htake, List.take_succ_cons, List.find?_cons]
      by_cases ht : e.program = target
      · simp [ht]
      · simp [ht]
    · have hroom : pre.length + 4 > pre.length + body.length := by omega
      have htake : body.length / 4 = 0 := by omega
      rw [if_pos hroom, htake]
      rfl

/-! ## The elementary stream loop -/

/-- The streams whose five bytes in front of the descriptors lie in the given room. -/
def visible : ℕ → List Stream → List Stream
  | _, [] => []
  | room, s :: rest =>
    if 5 ≤ room then s :: visible (room - (5 + s.descriptors.length)) rest else []

theorem visible_all {room : ℕ} {streams : List Stream}
    (h : (streams.flatMap Stream.encode).length ≤ room) : visible room streams = streams := by
  induction streams generalizing room with
  | nil => rfl
  | cons s rest ih =>
    rw [List.flatMap_cons, List.length_append, Stream.length_encode] at h
    rw [visible, if_pos (by omega), ih (by omega)]

theorem not_listsStream_of_gt {data : Bytes} {sectionEnd i : ℕ} {pid : UInt16}
    (h : data.length < i + 5) : ¬ ListsStream data sectionEnd i pid := by
  rintro (⟨_, hl⟩ | ⟨_, hl⟩) <;> omega

theorem visible_of_lt {room : ℕ} (h : room < 5) (streams : List Stream) :
    visible room streams = [] := by
  cases streams with
  | nil => rfl
  | cons s rest => rw [visible, if_neg (by omega)]

/-- What the loop reads of one stream. -/
theorem listsStream_head (s : Stream) (pre body : Bytes) {sectionEnd : ℕ} {pid : UInt16}
    (hend : pre.length + 5 ≤ sectionEnd) :
    ListsStream (pre ++ (s.head ++ body)) sectionEnd pre.length pid ↔
      pid = s.pid.1 ∨ ListsStream (pre ++ (s.head ++ body)) sectionEnd
        (pre.length + (5 + s.descriptors.length)) pid := by
  have hpid : pidAt (pre ++ (s.head ++ body)) (pre.length + 1) = s.pid := by
    rw [pidAt_append_right, pidAt_eq_word]
    change word ((0xE0 ||| highByte s.pid) &&& 0x1F) s.pid.1.toUInt8 = s.pid
    rw [reserved_and, word_highByte]
  have hlength : lengthAt (pre ++ (s.head ++ body)) (pre.length + 3) =
      s.descriptors.length := by
    rw [lengthAt_append_right]
    exact length_readBack (by decide) (by have := s.fits; omega)
  have hroom : pre.length + 5 ≤ (pre ++ (s.head ++ body)).length := by
    simp only [List.length_append, Stream.length_head]
    omega
  constructor
  · intro h
    cases h with
    | here => exact Or.inl hpid
    | next _ _ h => exact Or.inr (hlength ▸ h)
  · rintro (h | h)
    · rw [h, ← hpid]
      exact .here hend hroom
    · exact .next hend hroom (by rwa [hlength])

/-- The loop lists the streams that are visible in the packet. -/
theorem listsStream_streams (streams : List Stream) (pre body tail : Bytes)
    (h : body <+: streams.flatMap Stream.encode ++ tail) {sectionEnd : ℕ} (pid : UInt16)
    (hend : sectionEnd = pre.length + (streams.flatMap Stream.encode).length) :
    ListsStream (pre ++ body) sectionEnd pre.length pid ↔
      ∃ s ∈ visible body.length streams, pid = s.pid.1 := by
  induction streams generalizing pre body with
  | nil =>
    have hshort : ¬ pre.length + 5 ≤ sectionEnd := by
      simp only [List.flatMap_nil, List.length_nil] at hend
      omega
    constructor
    · rintro (⟨hc, _⟩ | ⟨hc, _⟩)
      · exact absurd hc hshort
      · exact absurd hc hshort
    · rintro ⟨s, hs, _⟩
      simp [visible] at hs
  | cons s rest ih =>
    by_cases hl : 5 ≤ body.length
    · rw [List.flatMap_cons, List.length_append, Stream.length_encode] at hend
      rw [List.flatMap_cons, List.append_assoc, Stream.encode, List.append_assoc] at h
      obtain ⟨body', rfl, hbody⟩ := prefix_of_length_le h hl
      rw [listsStream_head s pre body' (by omega), visible, if_pos hl]
      have hroom : (s.head ++ body').length - (5 + s.descriptors.length) =
          body'.length - s.descriptors.length := by
        rw [List.length_append, Stream.length_head]
        omega
      rw [hroom]
      obtain hd | ⟨body'', rfl, hbody'⟩ := prefix_cases hbody
      · -- the packet ends within the stream's descriptors
        have hlen := hd.length_le
        have hnone : ¬ ListsStream (pre ++ (s.head ++ body')) sectionEnd
            (pre.length + (5 + s.descriptors.length)) pid :=
          not_listsStream_of_gt (by simp only [List.length_append, Stream.length_head]; omega)
        rw [visible_of_lt (by omega)]
        simp [hnone]
      · have hrest := ih (pre ++ (s.head ++ s.descriptors)) body'' hbody' (by
          simp only [List.length_append, Stream.length_head]
          omega)
        have hdata : pre ++ (s.head ++ (s.descriptors ++ body'')) =
            pre ++ (s.head ++ s.descriptors) ++ body'' := by
          simp only [List.append_assoc]
        have hpos : pre.length + (5 + s.descriptors.length) =
            (pre ++ (s.head ++ s.descriptors)).length := by
          simp only [List.length_append, Stream.length_head]
        rw [hdata, hpos, hrest, List.length_append, Nat.add_sub_cancel_left]
        simp
    · have hnone : ¬ ListsStream (pre ++ body) sectionEnd pre.length pid :=
        not_listsStream_of_gt (by rw [List.length_append]; omega)
      rw [visible_of_lt (by omega)]
      simp [hnone]

/-! ## What a packet teaches -/

/-- The PID for the program among the entries that are whole in the given room. -/
def visiblePid (room : ℕ) (pat : Pat) (program : UInt16) : Option UInt16 :=
  ((pat.entries.take ((room - 8) / 4)).find? fun e => e.program = program).map fun e => e.pid.1

/-- The PCR PID, and the PIDs of the streams that are visible in the given room. -/
def visiblePids (room : ℕ) (pmt : Pmt) : Finset UInt16 :=
  insert pmt.pcrPid.1
    ((visible (room - (12 + pmt.descriptors.length)) pmt.streams).map fun s => s.pid.1).toFinset

theorem visiblePid_all {room : ℕ} {pat : Pat} (h : pat.encode.length ≤ room)
    (program : UInt16) : visiblePid room pat program = pat.pidOf program := by
  rw [pat.length_encode] at h
  rw [visiblePid, List.take_of_length_le (by omega), Pat.pidOf]

theorem visiblePids_all {room : ℕ} {pmt : Pmt} (h : pmt.encode.length ≤ room) :
    visiblePids room pmt = pmt.pids.toFinset := by
  rw [pmt.length_encode] at h
  rw [visiblePids, visible_all (by omega), Pmt.pids, List.toFinset_cons]

section Learning

variable {pid : Pid} {psi : Bytes} {p : UnitPacket pid psi} {tail : Bytes}

theorem length_unitPacket (p : UnitPacket pid psi) :
    p.bytes.length = offsetAt p.bytes + (psi ++ p.rest).length := by
  rw [offsetAt_unitPacket, UnitPacket.bytes, List.length_append]

/-- The header fields of a PAT section of which the packet has the first eight bytes. -/
theorem patHead_unitPacket {pat : Pat} (h : psi ++ p.rest <+: pat.encode ++ tail)
    (hroom : 8 ≤ (psi ++ p.rest).length) :
    byteAt p.bytes (offsetAt p.bytes) = 0x00 ∧
      versionAt p.bytes (offsetAt p.bytes) = pat.version ∧
      sectionEndAt p.bytes (offsetAt p.bytes) =
        offsetAt p.bytes + 8 + 4 * pat.entries.length := by
  rw [Pat.encode, List.append_assoc] at h
  obtain ⟨body, hbody, _⟩ := prefix_of_length_le h hroom
  have hdata : p.bytes = p.front ++ (pat.head ++ body) := by rw [UnitPacket.bytes, hbody]
  have hfits := pat.fits
  have hlength : lengthAt (pat.head ++ body) 1 = 9 + 4 * pat.entries.length :=
    length_readBack (by decide) (by omega)
  rw [offsetAt_unitPacket, hdata, sectionEndAt, lengthAt_append_right, versionAt_append_right,
    hlength]
  refine ⟨?_, versionByte_shift _ _, by omega⟩
  rw [← Nat.add_zero p.front.length, byteAt_append_right]
  rfl

theorem readsPat_unitPacket {pat : Pat} (h : psi ++ p.rest <+: pat.encode ++ tail)
    (s : Learned) :
    readsPat s p.bytes = true ↔
      8 ≤ (psi ++ p.rest).length ∧ s.patVersion ≠ some pat.version.1 := by
  have hlen := length_unitPacket p
  simp only [readsPat, Bool.decide_and, Bool.and_eq_true, decide_eq_true_eq]
  constructor
  · rintro ⟨hroom, _, hversion⟩
    have hroom' : 8 ≤ (psi ++ p.rest).length := by omega
    rw [(patHead_unitPacket h hroom').2.1] at hversion
    exact ⟨hroom', hversion⟩
  · rintro ⟨hroom, hversion⟩
    obtain ⟨htable, hv, _⟩ := patHead_unitPacket h hroom
    rw [hv]
    exact ⟨by omega, htable, hversion⟩

theorem pmtPidIn_unitPacket {pat : Pat} (h : psi ++ p.rest <+: pat.encode ++ tail)
    (hroom : 8 ≤ (psi ++ p.rest).length) (target : UInt16) :
    pmtPidIn target p.bytes = visiblePid (psi ++ p.rest).length pat target := by
  obtain ⟨_, _, hend⟩ := patHead_unitPacket h hroom
  rw [Pat.encode, List.append_assoc] at h
  obtain ⟨body, hbody, hprefix⟩ := prefix_of_length_le h hroom
  have hdata : p.bytes = p.front ++ pat.head ++ body := by
    rw [UnitPacket.bytes, hbody, List.append_assoc]
  have hstart : offsetAt p.bytes + 8 = (p.front ++ pat.head).length := by
    rw [offsetAt_unitPacket, List.length_append, Pat.length_head]
  have hcount : (offsetAt p.bytes + 8 + 4 * pat.entries.length -
      (offsetAt p.bytes + 8) + 3) / 4 = pat.entries.length := by
    omega
  rw [List.append_assoc] at hprefix
  rw [pmtPidIn, hend, stepBy4, hcount, hstart, hdata,
    programAt_entries target pat.entries _ body _ hprefix, hbody, visiblePid, List.length_append,
    Pat.length_head, Nat.add_sub_cancel_left]

/-- A packet in which a PAT section starts: nothing, or the version and the PID that is
visible. -/
theorem patLearn_unitPacket {pat : Pat} (h : psi ++ p.rest <+: pat.encode ++ tail)
    (target : UInt16) (s : Learned) :
    patLearn target s p.bytes =
      if 8 ≤ (psi ++ p.rest).length ∧ s.patVersion ≠ some pat.version.1 then
        { s with
          patVersion := some pat.version.1
          programInfo := s.programInfo.or
            ((visiblePid (psi ++ p.rest).length pat target).map fun pid => ⟨target, pid, ∅⟩) }
      else s := by
  unfold patLearn
  by_cases hr : 8 ≤ (psi ++ p.rest).length ∧ s.patVersion ≠ some pat.version.1
  · rw [if_pos ((readsPat_unitPacket h s).mpr hr), if_pos hr,
      pmtPidIn_unitPacket h hr.1, (patHead_unitPacket h hr.1).2.1]
    cases s.programInfo <;> cases visiblePid (psi ++ p.rest).length pat target <;> rfl
  · rw [if_neg (fun hreads => hr ((readsPat_unitPacket h s).mp hreads)), if_neg hr]

/-- The header fields of a PMT section of which the packet has the first twelve bytes. -/
theorem pmtHead_unitPacket {pmt : Pmt} (h : psi ++ p.rest <+: pmt.encode ++ tail)
    (hroom : 12 ≤ (psi ++ p.rest).length) :
    byteAt p.bytes (offsetAt p.bytes) = 0x02 ∧
      versionAt p.bytes (offsetAt p.bytes) = pmt.version ∧
      u16At p.bytes (offsetAt p.bytes + 3) = pmt.program ∧
      sectionEndAt p.bytes (offsetAt p.bytes) = offsetAt p.bytes + 12 +
        pmt.descriptors.length + (pmt.streams.flatMap Stream.encode).length ∧
      pidAt p.bytes (offsetAt p.bytes + 8) = pmt.pcrPid ∧
      lengthAt p.bytes (offsetAt p.bytes + 10) = pmt.descriptors.length := by
  rw [Pmt.encode, List.append_assoc] at h
  obtain ⟨body, hbody, _⟩ := prefix_of_length_le h hroom
  have hdata : p.bytes = p.front ++ (pmt.head ++ body) := by rw [UnitPacket.bytes, hbody]
  have hfits := pmt.fits
  have hlength : lengthAt (pmt.head ++ body) 1 =
      13 + pmt.descriptors.length + (pmt.streams.flatMap Stream.encode).length :=
    length_readBack (by decide) (by omega)
  have hdescriptors : lengthAt (pmt.head ++ body) 10 = pmt.descriptors.length :=
    length_readBack (by decide) (by omega)
  have hpcr : pidAt (pmt.head ++ body) 8 = pmt.pcrPid := by
    rw [pidAt_eq_word]
    change word ((0xE0 ||| highByte pmt.pcrPid) &&& 0x1F) pmt.pcrPid.1.toUInt8 = pmt.pcrPid
    rw [reserved_and, word_highByte]
  have hprogram : u16At (pmt.head ++ body) 3 = pmt.program := word_highByte _
  rw [offsetAt_unitPacket, hdata, sectionEndAt, lengthAt_append_right, lengthAt_append_right,
    versionAt_append_right, pidAt_append_right, u16At_append_right, hlength]
  refine ⟨?_, versionByte_shift _ _, hprogram, by omega, hpcr, hdescriptors⟩
  rw [← Nat.add_zero p.front.length, byteAt_append_right]
  rfl

theorem readsPmt_unitPacket {pmt : Pmt} (h : psi ++ p.rest <+: pmt.encode ++ tail)
    (s : Learned) :
    readsPmt s p.bytes = true ↔
      12 ≤ (psi ++ p.rest).length ∧ s.pmtVersion ≠ some pmt.version.1 := by
  have hlen := length_unitPacket p
  simp only [readsPmt, Bool.decide_and, Bool.and_eq_true, decide_eq_true_eq]
  constructor
  · rintro ⟨hroom, _, hversion⟩
    have hroom' : 12 ≤ (psi ++ p.rest).length := by omega
    rw [(pmtHead_unitPacket h hroom').2.1] at hversion
    exact ⟨hroom', hversion⟩
  · rintro ⟨hroom, hversion⟩
    obtain ⟨htable, hv, _⟩ := pmtHead_unitPacket h hroom
    rw [hv]
    exact ⟨by omega, htable, hversion⟩

theorem pmtPids_unitPacket {pmt : Pmt} (h : psi ++ p.rest <+: pmt.encode ++ tail)
    (hroom : 12 ≤ (psi ++ p.rest).length) :
    pmtPids p.bytes = visiblePids (psi ++ p.rest).length pmt := by
  obtain ⟨_, _, _, hend, hpcr, hdescriptors⟩ := pmtHead_unitPacket h hroom
  rw [Pmt.encode, List.append_assoc] at h
  obtain ⟨body, hbody, hprefix⟩ := prefix_of_length_le h hroom
  simp only [List.append_assoc] at hprefix
  have hlen := length_unitPacket p
  have hroom' : (psi ++ p.rest).length = 12 + body.length := by
    rw [hbody, List.length_append, Pmt.length_head]
  ext q
  rw [mem_pmtPids, PmtPidAt, hend, hpcr, hdescriptors, visiblePids, Finset.mem_insert,
    List.mem_toFinset, List.mem_map]
  refine or_congr_right ?_
  obtain hshort | ⟨body', hbody', hprefix'⟩ := prefix_cases hprefix
  · -- the packet ends within the program's descriptors
    have hd := hshort.length_le
    have hnone : ¬ ListsStream p.bytes (offsetAt p.bytes + 12 + pmt.descriptors.length +
        (pmt.streams.flatMap Stream.encode).length)
        (offsetAt p.bytes + 12 + pmt.descriptors.length) q :=
      not_listsStream_of_gt (by omega)
    rw [visible_of_lt (by omega)]
    constructor
    · intro hlists
      exact absurd hlists hnone
    · rintro ⟨_, hs, _⟩
      exact absurd hs List.not_mem_nil
  · have hdata : p.bytes = p.front ++ pmt.head ++ pmt.descriptors ++ body' := by
      rw [UnitPacket.bytes, hbody, hbody']
      simp only [List.append_assoc]
    have hstart : offsetAt p.bytes + 12 + pmt.descriptors.length =
        (p.front ++ pmt.head ++ pmt.descriptors).length := by
      rw [offsetAt_unitPacket]
      simp only [List.length_append, Pmt.length_head]
    have hleft : (psi ++ p.rest).length - (12 + pmt.descriptors.length) = body'.length := by
      rw [hroom', hbody', List.length_append]
      omega
    have hlist := listsStream_streams pmt.streams _ body' _ hprefix' q
      (by rw [← hstart] : offsetAt p.bytes + 12 + pmt.descriptors.length +
        (pmt.streams.flatMap Stream.encode).length =
          (p.front ++ pmt.head ++ pmt.descriptors).length +
            (pmt.streams.flatMap Stream.encode).length)
    rw [hstart] at hlist
    rw [hstart, hdata, hlist, hleft]
    exact exists_congr fun s => and_congr_right fun _ => eq_comm

/-- A packet in which a PMT section starts: nothing, or the version and the PIDs that are
visible. -/
theorem pmtLearn_unitPacket {pmt : Pmt} (h : psi ++ p.rest <+: pmt.encode ++ tail)
    (s : Learned) :
    pmtLearn s p.bytes =
      if 12 ≤ (psi ++ p.rest).length ∧ s.pmtVersion ≠ some pmt.version.1 then
        { s with
          pmtVersion := some pmt.version.1
          programInfo := s.programInfo.map fun info =>
            { info with pids := visiblePids (psi ++ p.rest).length pmt } }
      else s := by
  unfold pmtLearn
  by_cases hr : 12 ≤ (psi ++ p.rest).length ∧ s.pmtVersion ≠ some pmt.version.1
  · rw [if_pos ((readsPmt_unitPacket h s).mpr hr), if_pos hr, pmtPids_unitPacket h hr.1,
      (pmtHead_unitPacket h hr.1).2.1]
  · rw [if_neg (fun hreads => hr ((readsPmt_unitPacket h s).mp hreads)), if_neg hr]

end Learning

/-! ## Sections in one packet -/

section Whole

variable {pid : Pid}

theorem patLearn_whole {pat : Pat} (p : UnitPacket pid pat.encode) (target : UInt16)
    (s : Learned) :
    patLearn target s p.bytes =
      if s.patVersion ≠ some pat.version.1 then
        { s with
          patVersion := some pat.version.1
          programInfo := s.programInfo.or
            ((pat.pidOf target).map fun pid => ⟨target, pid, ∅⟩) }
      else s := by
  have hroom : 8 ≤ (pat.encode ++ p.rest).length := by
    rw [List.length_append, Pat.length_encode]
    omega
  have hwhole : visiblePid (pat.encode ++ p.rest).length pat target = pat.pidOf target :=
    visiblePid_all (by rw [List.length_append]; omega) _
  rw [patLearn_unitPacket (List.prefix_refl _) target s, hwhole]
  simp only [hroom, true_and]

theorem pmtLearn_whole {pmt : Pmt} (p : UnitPacket pid pmt.encode) (s : Learned) :
    pmtLearn s p.bytes =
      if s.pmtVersion ≠ some pmt.version.1 then
        { s with
          pmtVersion := some pmt.version.1
          programInfo := s.programInfo.map fun info =>
            { info with pids := pmt.pids.toFinset } }
      else s := by
  have hroom : 12 ≤ (pmt.encode ++ p.rest).length := by
    rw [List.length_append, Pmt.length_encode]
    omega
  have hwhole : visiblePids (pmt.encode ++ p.rest).length pmt = pmt.pids.toFinset :=
    visiblePids_all (by rw [List.length_append]; omega)
  rw [pmtLearn_unitPacket (List.prefix_refl _) s, hwhole]
  simp only [hroom, true_and]

/-- On a packet with a whole PAT section of another version, a filter without a program takes
the PID of the first entry for the target; on one with a whole PMT section of another version,
it takes the PCR PID and the elementary PIDs, and nothing else. -/
theorem process_wholeSection (f : ProgramFilter) :
    (∀ (pat : Pat) (p : UnitPacket pid pat.encode), f.programInfo = none →
        f.patVersion ≠ some pat.version →
        f.processPat p.bytes = some { f with
          patVersion := some pat.version
          programInfo := (pat.pidOf f.targetProgram).map fun q => ⟨f.targetProgram, q, ∅⟩ }) ∧
      ∀ (pmt : Pmt) (p : UnitPacket pid pmt.encode) (info : ProgramInfo),
        f.programInfo = some info → f.pmtVersion ≠ some pmt.version →
        f.processPmt p.bytes = some { f with
          pmtVersion := some pmt.version
          programInfo := some { info with pids := pmt.pids.toFinset } } := by
  have hlen : ∀ {psi : Bytes} (p : UnitPacket pid psi), 5 ≤ p.bytes.length := by
    intro psi p
    rw [p.length_bytes]
    decide
  refine ⟨?_, ?_⟩
  · intro pat p hinfo hversion
    have hnew : f.learned.patVersion ≠ some pat.version.1 := hversion
    have hlearn := patLearn_whole p f.targetProgram f.learned
    rw [if_pos hnew] at hlearn
    rw [processPat_eq f (hlen p), hlearn]
    simp [ProgramFilter.withLearned, ProgramFilter.learned, hinfo]
  · intro pmt p info hinfo hversion
    have hnew : f.learned.pmtVersion ≠ some pmt.version.1 := hversion
    have hlearn := pmtLearn_whole p f.learned
    rw [if_pos hnew] at hlearn
    rw [processPmt_eq f (hlen p), hlearn]
    simp [ProgramFilter.withLearned, ProgramFilter.learned, hinfo]

theorem patPid_lt : patPid < 0x2000 := by decide

theorem samplePid_lt : 0x0100 < (0x2000 : UInt16) := by decide

/-- A network PID and two programs. -/
def samplePat : Pat where
  transportStreamId := 1
  version := ⟨3, by decide⟩
  current := true
  sectionNumber := 0
  lastSectionNumber := 0
  entries := [⟨0, ⟨0x0010, by decide⟩⟩, ⟨1, ⟨0x0100, by decide⟩⟩, ⟨2, ⟨0x0200, by decide⟩⟩]
  checksum := [0, 0, 0, 0]
  length_checksum := rfl
  fits := by decide

/-- Video, and audio with a language descriptor. -/
def samplePmt : Pmt where
  program := 1
  version := ⟨5, by decide⟩
  current := true
  pcrPid := ⟨0x0101, by decide⟩
  descriptors := [0x0E, 0x03, 0xC0, 0x00, 0x00]
  streams := [⟨0x1B, ⟨0x0101, by decide⟩, [], by decide⟩,
    ⟨0x0F, ⟨0x0102, by decide⟩, [0x0A, 0x04, 0x65, 0x6E, 0x67, 0x00], by decide⟩]
  checksum := [0, 0, 0, 0]
  length_checksum := rfl
  fits := by decide

def sampleHeader : Header := .plain

def samplePatPacket : UnitPacket ⟨patPid, patPid_lt⟩ samplePat.encode where
  header := sampleHeader
  filler := [0xFF]
  rest := List.replicate 158 0xFF
  full := by decide +kernel

def samplePmtPacket : UnitPacket ⟨0x0100, samplePid_lt⟩ samplePmt.encode where
  header := sampleHeader
  filler := []
  rest := List.replicate 146 0xFF
  full := by decide +kernel

/-- The program of a filter that has seen the association section. -/
def sampleFilter : ProgramFilter :=
  { ProgramFilter.new 1 false with programInfo := some ⟨1, 0x0100, ∅⟩, patVersion := some 3 }

theorem process_wholeSection_sample :
    (ProgramFilter.new 1 false).processPat samplePatPacket.bytes = some sampleFilter ∧
      sampleFilter.processPmt samplePmtPacket.bytes = some { sampleFilter with
        pmtVersion := some 5, programInfo := some ⟨1, 0x0100, {0x0101, 0x0102}⟩ } := by
  refine ⟨?_, ?_⟩
  · exact (process_wholeSection (ProgramFilter.new 1 false)).1 samplePat samplePatPacket rfl
      (by decide)
  · have h := (process_wholeSection sampleFilter).2 samplePmt samplePmtPacket
      ⟨1, 0x0100, ∅⟩ rfl (by decide)
    have hpids : samplePmt.pids.toFinset = {0x0101, 0x0102} := by decide
    rw [hpids] at h
    exact h

end Whole

end StreamGateway.MpegtsFilter
