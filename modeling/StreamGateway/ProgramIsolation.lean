import StreamGateway.FilterLaws

/-!
# Program isolation

The PIDs that a transport stream assigns to a program are read off the packets by the
rules of the standard, independently of the filter: a section starts behind the
adaptation field and the pointer field, a PAT section maps program numbers to PMT PIDs,
and a PMT section lists a PCR PID and elementary streams for the program whose number
it carries. The filter lets only such PIDs through as long as it learns only from
sections that start where it looks for them and, on the PMT PID, carry the target's own
program number. It checks neither, and a PMT section of another program on a shared
PMT PID breaks the isolation.
-/
namespace StreamGateway.MpegtsFilter

/-! ## Sections of the standard -/

/-- The payload starts behind the header, or behind the adaptation field when the
adaptation field control says that there is one. -/
def payloadStart (data : Bytes) : Option ℕ :=
  let control := (byteAt data 3 >>> 4) &&& 0x03
  if control = 1 then some 4
  else if control = 3 then some (5 + (byteAt data 4).toNat)
  else none

/-- The first section of a payload unit starts behind the pointer field. -/
def sectionStart (data : Bytes) : Option ℕ :=
  if unitStart data then (payloadStart data).map fun p => p + 1 + (byteAt data p).toNat
  else none

/-- The packet carries a PAT section with an entry for `program`. -/
def PatGives (data : Bytes) (program pid : UInt16) : Prop :=
  pidAt data 1 = patPid ∧ ∃ o, sectionStart data = some o ∧ byteAt data o = 0x00 ∧
    ∃ k, o + 8 + 4 * k < sectionEndAt data o ∧ o + 8 + 4 * k + 4 ≤ data.length ∧
      u16At data (o + 8 + 4 * k) = program ∧ pidAt data (o + 8 + 4 * k + 2) = pid

/-- The elementary stream loop that starts at a position lists a PID. -/
inductive ListsStream (data : Bytes) (sectionEnd : ℕ) : ℕ → UInt16 → Prop
  | here {i : ℕ} : i + 5 ≤ sectionEnd → i + 5 ≤ data.length →
      ListsStream data sectionEnd i (pidAt data (i + 1))
  | next {i : ℕ} {pid : UInt16} : i + 5 ≤ sectionEnd → i + 5 ≤ data.length →
      ListsStream data sectionEnd (i + (5 + lengthAt data (i + 3))) pid →
      ListsStream data sectionEnd i pid

/-- The PCR PID and the elementary PIDs of the PMT section at `o`. -/
def PmtPidAt (data : Bytes) (o : ℕ) (pid : UInt16) : Prop :=
  pid = pidAt data (o + 8) ∨
    ListsStream data (sectionEndAt data o) (o + 12 + lengthAt data (o + 10)) pid

/-- The packet carries a PMT section of `program` that lists the PID. -/
def PmtLists (data : Bytes) (program pid : UInt16) : Prop :=
  ∃ o, sectionStart data = some o ∧ byteAt data o = 0x02 ∧ u16At data (o + 3) = program ∧
    PmtPidAt data o pid

/-- The packets seen assign the PID to the program. -/
def Assigned (program : UInt16) (seen : List Bytes) (pid : UInt16) : Prop :=
  ∃ data ∈ seen, PatGives data program pid ∨ PmtLists data program pid

theorem Assigned.append {program pid : UInt16} {seen : List Bytes}
    (h : Assigned program seen pid) (data : Bytes) : Assigned program (seen ++ [data]) pid := by
  obtain ⟨d, hd, hg⟩ := h
  exact ⟨d, List.mem_append_left _ hd, hg⟩

theorem Assigned.last {program pid : UInt16} {data : Bytes}
    (h : PatGives data program pid ∨ PmtLists data program pid) (seen : List Bytes) :
    Assigned program (seen ++ [data]) pid :=
  ⟨data, List.mem_append_right _ List.mem_cons_self, h⟩

/-! ## What the parsers take from a packet -/

theorem programAt_range' (target : UInt16) (data : Bytes) (start n : ℕ) {pid : UInt16}
    (h : programAt target data (List.range' start n 4) = some pid) :
    ∃ k, k < n ∧ start + 4 * k + 4 ≤ data.length ∧ u16At data (start + 4 * k) = target ∧
      pidAt data (start + 4 * k + 2) = pid := by
  induction n generalizing start with
  | zero => simp [programAt] at h
  | succ n ih =>
    rw [List.range'_succ, programAt] at h
    split_ifs at h with hl ht
    · exact ⟨0, Nat.succ_pos n, by omega, ht, Option.some.inj h⟩
    · obtain ⟨k, hk, hlen, hu, hp⟩ := ih (start + 4) h
      have he : start + 4 * (k + 1) = start + 4 + 4 * k := by omega
      exact ⟨k + 1, by omega, by rw [he]; exact hlen, by rw [he]; exact hu, by rw [he]; exact hp⟩

/-- A PMT PID found by the association loop is given by a PAT entry at the place where
the filter looks for the section. -/
theorem pmtPidIn_spec {target pid : UInt16} {data : Bytes}
    (h : pmtPidIn target data = some pid) :
    ∃ k, offsetAt data + 8 + 4 * k < sectionEndAt data (offsetAt data) ∧
      offsetAt data + 8 + 4 * k + 4 ≤ data.length ∧
      u16At data (offsetAt data + 8 + 4 * k) = target ∧
      pidAt data (offsetAt data + 8 + 4 * k + 2) = pid := by
  obtain ⟨k, hk, hlen, hu, hp⟩ := programAt_range' target data _ _ h
  exact ⟨k, by omega, hlen, hu, hp⟩

/-- The elementary stream loop collects exactly the listed PIDs: each pass moves at least
five bytes on, so the budget does not run out before the loop ends. -/
theorem mem_pidsAt (data : Bytes) (sectionEnd budget i : ℕ) (pids : Finset UInt16)
    (hb : data.length ≤ i + budget) (pid : UInt16) :
    pid ∈ pidsAt data sectionEnd budget i pids ↔
      pid ∈ pids ∨ ListsStream data sectionEnd i pid := by
  induction budget generalizing i pids with
  | zero =>
    refine ⟨Or.inl, ?_⟩
    rintro (h | h)
    · exact h
    · cases h <;> omega
  | succ budget ih =>
    rw [pidsAt]
    split_ifs with hc
    · rw [ih _ _ (by omega), Finset.mem_insert]
      constructor
      · rintro ((he | hp) | hl)
        · exact Or.inr (he ▸ .here hc.1 hc.2)
        · exact Or.inl hp
        · exact Or.inr (.next hc.1 hc.2 hl)
      · rintro (hp | hl)
        · exact Or.inl (Or.inr hp)
        · cases hl with
          | here => exact Or.inl (Or.inl rfl)
          | next _ _ hl => exact Or.inr hl
    · refine ⟨Or.inl, ?_⟩
      rintro (h | h)
      · exact h
      · cases h <;> exact absurd ⟨‹_›, ‹_›⟩ hc

theorem mem_pmtPids (data : Bytes) (pid : UInt16) :
    pid ∈ pmtPids data ↔ PmtPidAt data (offsetAt data) pid := by
  unfold pmtPids PmtPidAt
  rw [mem_pidsAt _ _ _ _ _ (by omega), Finset.mem_singleton]

/-! ## The condition -/

/-- The filter takes the target's PMT PID from the packet. -/
def TakesPmtPid (target : UInt16) (s : Learned) (data : Bytes) : Prop :=
  byteAt data 0 = tsSyncByte ∧ pidAt data 1 = patPid ∧ unitStart data ∧ readsPat s data ∧
    s.programInfo = none ∧ (pmtPidIn target data).isSome

/-- The filter takes a new PID set from the packet. -/
def TakesPids (s : Learned) (data : Bytes) : Prop :=
  byteAt data 0 = tsSyncByte ∧ pidAt data 1 ≠ patPid ∧ unitStart data ∧ readsPmt s data ∧
    ∃ info, s.programInfo = some info ∧ pidAt data 1 = info.pmtPid

/-- If the filter learns from the packet, then the section starts where the filter looks
for it and, on the PMT PID, belongs to the target. -/
def LearnsOwn (target : UInt16) (s : Learned) (data : Bytes) : Prop :=
  (TakesPmtPid target s data → sectionStart data = some (offsetAt data)) ∧
    (TakesPids s data → sectionStart data = some (offsetAt data) ∧
      u16At data (offsetAt data + 3) = target)

/-- Every PID recorded for the target was assigned to it by the packets seen. -/
def OwnPids (target : UInt16) (seen : List Bytes) (s : Learned) : Prop :=
  ∀ info, s.programInfo = some info →
    Assigned target seen info.pmtPid ∧ ∀ pid ∈ info.pids, Assigned target seen pid

theorem OwnPids.append {target : UInt16} {seen : List Bytes} {s : Learned}
    (h : OwnPids target seen s) (data : Bytes) : OwnPids target (seen ++ [data]) s := by
  intro info hi
  obtain ⟨hm, hp⟩ := h info hi
  exact ⟨hm.append data, fun pid hpid => (hp pid hpid).append data⟩

theorem ownPids_patLearn {target : UInt16} {seen : List Bytes} {s : Learned} {data : Bytes}
    (h : OwnPids target seen s) (hs : byteAt data 0 = tsSyncByte)
    (hp : pidAt data 1 = patPid) (hu : unitStart data) (hown : LearnsOwn target s data) :
    OwnPids target (seen ++ [data]) (patLearn target s data) := by
  unfold patLearn
  split_ifs with hr
  · intro info hi
    cases hs' : s.programInfo with
    | some old =>
      have he : old = info := by
        cases hf : pmtPidIn target data <;> simpa [hs', hf] using hi
      exact he ▸ h.append data old hs'
    | none =>
      cases hf : pmtPidIn target data with
      | none => simp [hs', hf] at hi
      | some pid =>
        have he : info = ⟨target, pid, ∅⟩ := by
          simpa [hs', hf] using hi.symm
        have hstart := hown.1 ⟨hs, hp, hu, hr, hs', by simp [hf]⟩
        have htable : byteAt data (offsetAt data) = 0x00 := by
          have hr' := hr
          simp only [readsPat, Bool.decide_and, Bool.and_eq_true, decide_eq_true_eq] at hr'
          exact hr'.2.1
        subst he
        refine ⟨Assigned.last (Or.inl ⟨hp, _, hstart, htable, pmtPidIn_spec hf⟩) seen, ?_⟩
        intro q hq
        exact absurd hq (Finset.notMem_empty q)
  · exact h.append data

theorem ownPids_pmtLearn {target : UInt16} {seen : List Bytes} {s : Learned} {data : Bytes}
    {old : ProgramInfo} (h : OwnPids target seen s) (hs : byteAt data 0 = tsSyncByte)
    (hp : pidAt data 1 ≠ patPid) (hu : unitStart data) (hold : s.programInfo = some old)
    (hm : pidAt data 1 = old.pmtPid) (hown : LearnsOwn target s data) :
    OwnPids target (seen ++ [data]) (pmtLearn s data) := by
  unfold pmtLearn
  split_ifs with hr
  · intro info hi
    have he : info = { old with pids := pmtPids data } := by
      simpa [hold] using hi.symm
    obtain ⟨hstart, hnum⟩ := hown.2 ⟨hs, hp, hu, hr, old, hold, hm⟩
    have htable : byteAt data (offsetAt data) = 0x02 := by
      have hr' := hr
      simp only [readsPmt, Bool.decide_and, Bool.and_eq_true, decide_eq_true_eq] at hr'
      exact hr'.2.1
    subst he
    refine ⟨(h old hold).1.append data, ?_⟩
    intro pid hpid
    exact Assigned.last (Or.inr ⟨_, hstart, htable, hnum, (mem_pmtPids data pid).mp hpid⟩) seen
  · exact h.append data

theorem ownPids_step {target : UInt16} {seen : List Bytes} {s : Learned} {data : Bytes}
    (h : OwnPids target seen s) (hown : LearnsOwn target s data) :
    OwnPids target (seen ++ [data]) ((selector target).step s data) := by
  cases ha : (selector target).accepts s data with
  | false =>
    rw [Selector.step_of_rejects _ ha]
    exact h.append data
  | true =>
    rw [Selector.step_of_accepts _ ha]
    have hs : byteAt data 0 = tsSyncByte := by
      simp only [selector, Bool.decide_and, Bool.and_eq_true, decide_eq_true_eq] at ha
      exact ha.1
    change OwnPids target (seen ++ [data]) (learnPacket target s data)
    unfold learnPacket
    by_cases hp : pidAt data 1 = patPid ∧ unitStart data
    · rw [if_pos hp]
      exact ownPids_patLearn h hs hp.1 hp.2 hown
    · rw [if_neg hp]
      cases hi : s.programInfo with
      | none => exact h.append data
      | some info =>
        by_cases hm : pidAt data 1 = info.pmtPid ∧ unitStart data
        · simp only [if_pos hm]
          exact ownPids_pmtLearn h hs (fun hpat => hp ⟨hpat, hm.2⟩) hm.2 hi hm.1 hown
        · simp only [if_neg hm]
          exact h.append data

theorem assigned_of_accepts {target : UInt16} {seen : List Bytes} {s : Learned} {data : Bytes}
    (h : OwnPids target seen s) (ha : (selector target).accepts s data = true) :
    pidAt data 1 = patPid ∨ pidAt data 1 = catPid ∨
      Assigned target seen (pidAt data 1) := by
  have hi : includes s (pidAt data 1) = true := by
    simp only [selector, Bool.decide_and, Bool.and_eq_true, decide_eq_true_eq] at ha
    simpa using ha.2
  unfold includes at hi
  split_ifs at hi with hp
  · exact hp.imp_right Or.inl
  · cases hs : s.programInfo with
    | none => simp [hs] at hi
    | some info =>
      obtain ⟨hm, hpids⟩ := h info hs
      simp only [hs, decide_eq_true_eq] at hi
      rcases hi with he | he
      · exact Or.inr (Or.inr (he ▸ hm))
      · exact Or.inr (Or.inr (hpids _ he))

/-! ## Isolation of a run -/

/-- Each packet of the output comes with the input packets in front of it, and has the
PID of the PAT, the PID of the CAT or one that those packets assign to the target. -/
def Isolated (target : UInt16) (batches : List Bytes) : Prop :=
  ∃ run before, (ProgramFilter.new target false).filterBatches batches = some run ∧
    List.Forall₂ (fun seen data =>
        seen ++ [data] <+: batches.flatMap (pieces tsPacketSize) ∧
        (pidAt data 1 = patPid ∨ pidAt data 1 = catPid ∨ Assigned target seen (pidAt data 1)))
      before (pieces tsPacketSize (run.map Prod.snd).flatten)

theorem foldlM_filterPacket (f : ProgramFilter) (ps : List Bytes)
    (h : ∀ p ∈ ps, p.length = tsPacketSize) :
    ∃ f', ps.foldlM ProgramFilter.filterPacket f = some f' ∧
      f'.learned = (selector f.targetProgram).final f.learned ps := by
  induction ps generalizing f with
  | nil => exact ⟨f, rfl, rfl⟩
  | cons p ps ih =>
    obtain ⟨f', hf', hl⟩ := ih ((f.withLearned ((selector f.targetProgram).step f.learned p)).put
      (emit f.fillWithNulls f.targetProgram f.learned [p]).flatten)
      fun q hq => h q (List.mem_cons_of_mem _ hq)
    refine ⟨f', ?_, hl⟩
    rw [List.foldlM_cons, filterPacket_eq f (h p List.mem_cons_self)]
    exact hf'

/-- What holds of the filter in front of each packet holds of the state in front of it. -/
theorem final_of_foldlM {target : UInt16} {fillWithNulls : Bool} {batches : List Bytes}
    {Allowed : Learned → Bytes → Prop}
    (hall : ∀ pre data post, batches.flatMap (pieces tsPacketSize) = pre ++ data :: post →
      ∀ f, pre.foldlM ProgramFilter.filterPacket (ProgramFilter.new target fillWithNulls) =
        some f → Allowed f.learned data)
    (pre : List Bytes) (data : Bytes) (post : List Bytes)
    (he : batches.flatMap (pieces tsPacketSize) = pre ++ data :: post) :
    Allowed ((selector target).final ⟨none, none, none⟩ pre) data := by
  have hlen : ∀ p ∈ pre, p.length = tsPacketSize := by
    intro p hp
    have hmem : p ∈ batches.flatMap (pieces tsPacketSize) :=
      he ▸ List.mem_append_left _ hp
    obtain ⟨b, _, hb⟩ := List.mem_flatMap.mp hmem
    exact length_of_mem_pieces hb
  obtain ⟨f, hf, hl⟩ := foldlM_filterPacket (ProgramFilter.new target fillWithNulls) pre hlen
  have h := hall pre data post he f hf
  rw [hl] at h
  exact h

/-- The packets that a dropping filter passes. -/
theorem pieces_outputs (target : UInt16) (batches : List Bytes) :
    pieces tsPacketSize
        ((batchRun (ProgramFilter.new target false) batches).map Prod.snd).flatten =
      (selector target).keep ⟨none, none, none⟩ (batches.flatMap (pieces tsPacketSize)) := by
  rw [batchRun_outputs]
  refine pieces_flatten (by decide) _ fun p hp => ?_
  obtain ⟨b, _, hb⟩ := List.mem_flatMap.mp (Selector.keep_subset _ _ _ hp)
  exact length_of_mem_pieces hb

/-- The dropping filter isolates its program in every run in which each packet, at the
filter that the packets before it have left, is one the filter does not learn from or one
whose section is the target's own and starts where the filter looks for it. -/
theorem isolated_of_learnsOwn (target : UInt16) (batches : List Bytes)
    (hown : ∀ pre data post, batches.flatMap (pieces tsPacketSize) = pre ++ data :: post →
      ∀ f, pre.foldlM ProgramFilter.filterPacket (ProgramFilter.new target false) = some f →
        LearnsOwn target f.learned data) :
    Isolated target batches := by
  obtain ⟨before, hb⟩ := (selector target).keep_good (OwnPids target)
    (fun seen data => pidAt data 1 = patPid ∨ pidAt data 1 = catPid ∨
      Assigned target seen (pidAt data 1))
    (LearnsOwn target)
    (fun _ _ _ h ha => assigned_of_accepts h ha) (fun _ _ _ h hl => ownPids_step h hl)
    [] ⟨none, none, none⟩ (batches.flatMap (pieces tsPacketSize)) (fun _ hi => by simp at hi)
    (final_of_foldlM hown)
  refine ⟨_, before, filterBatches_eq _ _, ?_⟩
  rw [pieces_outputs]
  exact hb

/-! ## Two programs on one PMT PID -/

/-- A packet with one PSI section right behind the header and an empty pointer field. -/
def psiPacket (pidHigh pidLow : UInt8) (psi : Bytes) : Bytes :=
  [tsSyncByte, 0x40 ||| pidHigh, pidLow, 0x10, 0x00] ++ psi ++
    List.replicate (tsPacketSize - 5 - psi.length) 0xFF

/-- A PAT that maps program 1 to the PMT PID 0x0100. -/
def sharedPat : Bytes :=
  psiPacket 0x00 0x00 [0x00, 0xB0, 0x0D, 0x00, 0x01, 0xC1, 0x00, 0x00,
    0x00, 0x01, 0xE1, 0x00, 0x00, 0x00, 0x00, 0x00]

/-- The PMT section of program 2 on the same PID, with everything on PID 0x0201. -/
def foreignPmt : Bytes :=
  psiPacket 0x01 0x00 [0x02, 0xB0, 0x12, 0x00, 0x02, 0xC1, 0x00, 0x00,
    0xE2, 0x01, 0xF0, 0x00, 0x1B, 0xE2, 0x01, 0xF0, 0x00, 0x00, 0x00, 0x00, 0x00]

/-- A packet on that PID. -/
def foreignStream : Bytes :=
  [tsSyncByte, 0x02, 0x01, 0x10] ++ List.replicate (tsPacketSize - 4) 0x00

theorem keep_foreign :
    (selector 1).keep ⟨none, none, none⟩ [sharedPat, foreignPmt, foreignStream] =
      [sharedPat, foreignPmt, foreignStream] := by
  decide +kernel

theorem not_patGives_shared : ¬ PatGives sharedPat 1 0x0201 := by
  rintro ⟨_, o, ho, _, k, hk, _, _, hp⟩
  have hstart : sectionStart sharedPat = some 5 := by decide +kernel
  obtain rfl : 5 = o := Option.some.inj (hstart.symm.trans ho)
  have hend : sectionEndAt sharedPat 5 = 17 := by decide +kernel
  obtain rfl : k = 0 := by omega
  exact absurd hp (by decide +kernel)

theorem not_assigned_foreign :
    ¬ Assigned 1 [sharedPat, foreignPmt, foreignStream] 0x0201 := by
  rintro ⟨data, hd, h⟩
  have hpat : sectionStart sharedPat = some 5 := by decide +kernel
  have hpmt : sectionStart foreignPmt = some 5 := by decide +kernel
  have hes : sectionStart foreignStream = none := by decide +kernel
  simp only [List.mem_cons, List.not_mem_nil, or_false] at hd
  rcases hd with rfl | rfl | rfl
  · rcases h with h | ⟨o, ho, ht, _⟩
    · exact not_patGives_shared h
    · obtain rfl : 5 = o := Option.some.inj (hpat.symm.trans ho)
      exact absurd ht (by decide +kernel)
  · rcases h with ⟨hp, _⟩ | ⟨o, ho, _, hn, _⟩
    · exact absurd hp (by decide +kernel)
    · obtain rfl : 5 = o := Option.some.inj (hpmt.symm.trans ho)
      exact absurd hn (by decide +kernel)
  · rcases h with ⟨_, o, ho, _⟩ | ⟨o, ho, _⟩ <;> simp [hes] at ho

/-- The target is program 1, and the filter follows the PMT of program 2 that arrives on
the shared PMT PID: the stream of program 2 passes. -/
theorem foreignPmt_not_isolated :
    ¬ Isolated 1 [sharedPat, foreignPmt, foreignStream] := by
  rintro ⟨run, before, hrun, hall⟩
  have hlen : ∀ p ∈ [sharedPat, foreignPmt, foreignStream], p.length = tsPacketSize := by
    decide +kernel
  have hpackets : [sharedPat, foreignPmt, foreignStream].flatMap (pieces tsPacketSize) =
      [sharedPat, foreignPmt, foreignStream] :=
    flatMap_pieces_self (by decide) _ hlen
  have hout : pieces tsPacketSize (run.map Prod.snd).flatten =
      [sharedPat, foreignPmt, foreignStream] := by
    rw [filterBatches_eq] at hrun
    rw [← Option.some.inj hrun, batchRun_outputs, hpackets]
    change pieces tsPacketSize ((selector 1).keep ⟨none, none, none⟩ _).flatten = _
    rw [keep_foreign, pieces_flatten (by decide) _ hlen]
  rw [hout, hpackets] at hall
  -- the third packet of the output is the one on PID 0x0201
  cases hall with
  | cons _ hall => cases hall with
    | cons _ hall => cases hall with
      | cons hes _ =>
        obtain ⟨hbefore, hpid⟩ := hes
        have hstream : pidAt foreignStream 1 = 0x0201 := by decide +kernel
        rw [hstream] at hpid
        rcases hpid with h | h | ⟨data, hd, h⟩
        · exact absurd h (by decide)
        · exact absurd h (by decide)
        · exact not_assigned_foreign
            ⟨data, hbefore.subset (List.mem_append_left _ hd), h⟩

/-- The PMT section of program 1 itself on that PID, with everything on PID 0x0201. -/
def ownPmt : Bytes :=
  psiPacket 0x01 0x00 [0x02, 0xB0, 0x12, 0x00, 0x01, 0xC1, 0x00, 0x00,
    0xE2, 0x01, 0xF0, 0x00, 0x1B, 0xE2, 0x01, 0xF0, 0x00, 0x00, 0x00, 0x00, 0x00]

theorem learnsOwn_own (s : Learned) {data : Bytes}
    (hd : data ∈ [sharedPat, ownPmt, foreignStream]) : LearnsOwn 1 s data := by
  simp only [List.mem_cons, List.not_mem_nil, or_false] at hd
  rcases hd with rfl | rfl | rfl
  · refine ⟨fun _ => by decide +kernel, ?_⟩
    rintro ⟨_, hp, _⟩
    exact absurd (by decide +kernel) hp
  · refine ⟨?_, fun _ => ⟨by decide +kernel, by decide +kernel⟩⟩
    rintro ⟨_, hp, _⟩
    exact absurd hp (by decide +kernel)
  · have hu : unitStart foreignStream = false := by decide +kernel
    refine ⟨?_, ?_⟩
    · rintro ⟨_, _, h, _⟩
      exact absurd h (by simp [hu])
    · rintro ⟨_, _, h, _⟩
      exact absurd h (by simp [hu])

/-- The same stream with the PMT section of program 1 in place of the foreign one meets the
condition. -/
theorem ownPmt_isolated : Isolated 1 [sharedPat, ownPmt, foreignStream] := by
  refine isolated_of_learnsOwn 1 [sharedPat, ownPmt, foreignStream] ?_
  have hlen : ∀ p ∈ [sharedPat, ownPmt, foreignStream], p.length = tsPacketSize := by
    decide +kernel
  have hpackets : [sharedPat, ownPmt, foreignStream].flatMap (pieces tsPacketSize) =
      [sharedPat, ownPmt, foreignStream] :=
    flatMap_pieces_self (by decide) _ hlen
  intro pre data post he f _
  rw [hpackets] at he
  refine learnsOwn_own f.learned ?_
  rw [he]
  exact List.mem_append_right _ List.mem_cons_self

end StreamGateway.MpegtsFilter
