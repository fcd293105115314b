import StreamGateway.LongTables

/-!
# Null packets in the output

A null packet carries no data, and a filter that drops what it does not pass is expected to
drop it. It passes a null packet if `PID` 0x1FFF is among the PIDs it has recorded. The PCR PID
of a PMT gets there like any other, also when it is 0x1FFF, which says that the program has no
PCR. As long as no such PMT is taken, and every section that is taken starts where the filter
looks for it, the null packets stay out.
-/
namespace StreamGateway.MpegtsFilter

open Psi

/-- `NULL_PID`, which the code defines and does not use. -/
def nullPid : UInt16 := 0x1FFF

/-- No PAT section in the packet gives the null PID to the program, and no PMT section in it
has an elementary stream there. -/
def LeavesNullPid (target : UInt16) (data : Bytes) : Prop :=
  ¬ PatGives data target nullPid ∧
    ∀ o, sectionStart data = some o → byteAt data o = 0x02 →
      ¬ ListsStream data (sectionEndAt data o) (o + 12 + lengthAt data (o + 10)) nullPid

/-- If the filter learns from the packet, then the section starts where the filter looks for
it, and a PMT does not have the null PID as its PCR PID. -/
def TakesRealPcr (target : UInt16) (s : Learned) (data : Bytes) : Prop :=
  (TakesPmtPid target s data → sectionStart data = some (offsetAt data)) ∧
    (TakesPids s data → sectionStart data = some (offsetAt data) ∧
      pidAt data (offsetAt data + 8) ≠ nullPid)

/-- The null PID is not among the recorded ones. -/
def NullFree (s : Learned) : Prop :=
  ∀ info, s.programInfo = some info → info.pmtPid ≠ nullPid ∧ nullPid ∉ info.pids

section Steps

variable {target : UInt16} {s : Learned} {data : Bytes}

theorem nullFree_patLearn (h : NullFree s) (hon : onPid patPid data = true)
    (hu : unitStart data = true) (hleaves : LeavesNullPid target data)
    (htakes : TakesRealPcr target s data) : NullFree (patLearn target s data) := by
  obtain ⟨hs, hp⟩ := onPid_iff.mp hon
  unfold patLearn
  split_ifs with hr
  · intro info hi
    cases hold : s.programInfo with
    | some old =>
      have he : old = info := by
        cases hf : pmtPidIn target data <;> simpa [hold, hf] using hi
      exact he ▸ h old hold
    | none =>
      cases hf : pmtPidIn target data with
      | none => simp [hold, hf] at hi
      | some pid =>
        have he : info = ⟨target, pid, ∅⟩ := by simpa [hold, hf] using hi.symm
        have hstart := htakes.1 ⟨hs, hp, hu, hr, hold, by simp [hf]⟩
        have htable : byteAt data (offsetAt data) = 0x00 := by
          have hr' := hr
          simp only [readsPat, Bool.decide_and, Bool.and_eq_true, decide_eq_true_eq] at hr'
          exact hr'.2.1
        subst he
        refine ⟨?_, Finset.notMem_empty _⟩
        intro hnull
        exact hleaves.1 ⟨hp, _, hstart, htable, hnull ▸ pmtPidIn_spec hf⟩
  · exact h

theorem nullFree_pmtLearn {info : ProgramInfo} (h : NullFree s)
    (hi : s.programInfo = some info) (hpat : info.pmtPid ≠ patPid)
    (hon : onPid info.pmtPid data = true) (hu : unitStart data = true)
    (hleaves : LeavesNullPid target data) (htakes : TakesRealPcr target s data) :
    NullFree (pmtLearn s data) := by
  obtain ⟨hs, hp⟩ := onPid_iff.mp hon
  unfold pmtLearn
  split_ifs with hr
  · intro info' hi'
    have he : info' = { info with pids := pmtPids data } := by simpa [hi] using hi'.symm
    have hne : pidAt data 1 ≠ patPid := by
      rw [hp]
      exact hpat
    obtain ⟨hstart, hpcr⟩ := htakes.2 ⟨hs, hne, hu, hr, info, hi, hp⟩
    have htable : byteAt data (offsetAt data) = 0x02 := by
      have hr' := hr
      simp only [readsPmt, Bool.decide_and, Bool.and_eq_true, decide_eq_true_eq] at hr'
      exact hr'.2.1
    subst he
    refine ⟨(h info hi).1, ?_⟩
    intro hnull
    obtain hnull | hnull := (mem_pmtPids data nullPid).mp hnull
    · exact hpcr hnull.symm
    · exact hleaves.2 _ hstart htable hnull
  · exact h

theorem NullFree.step (h : NullFree s) (hleaves : LeavesNullPid target data)
    (htakes : TakesRealPcr target s data) : NullFree ((selector target).step s data) := by
  cases hon : onPid patPid data with
  | true =>
    rw [step_onPat hon]
    split_ifs with hu
    · exact nullFree_patLearn h hon hu hleaves htakes
    · exact h
  | false =>
    by_cases hpmt : ∃ info, s.programInfo = some info ∧ onPid info.pmtPid data = true
    · obtain ⟨info, hi, hon'⟩ := hpmt
      have hpat : info.pmtPid ≠ patPid := by
        intro he
        rw [he, hon] at hon'
        exact absurd hon' (by decide)
      rw [step_onPmt hi hpat hon']
      split_ifs with hu
      · exact nullFree_pmtLearn h hi hpat hon' hu hleaves htakes
      · exact h
    · rw [step_elsewhere hon]
      · exact h
      · intro info hi
        rw [Bool.eq_false_iff]
        exact fun hon' => hpmt ⟨info, hi, hon'⟩

/-- A packet with the null PID is not accepted. -/
theorem NullFree.rejects (h : NullFree s) (ha : (selector target).accepts s data = true) :
    pidAt data 1 ≠ nullPid := by
  have hi := (accepts_iff.mp ha).2
  intro hnull
  rw [hnull] at hi
  unfold includes at hi
  split_ifs at hi with hp
  · exact absurd hp (by decide)
  · cases hs : s.programInfo with
    | none => simp [hs] at hi
    | some info =>
      obtain ⟨hm, hpids⟩ := h info hs
      simp only [hs, decide_eq_true_eq] at hi
      exact hi.elim (fun he => hm he.symm) hpids

end Steps

/-- The dropping filter passes no packet with the null PID. -/
def DropsNulls (target : UInt16) (batches : List Bytes) : Prop :=
  ∃ run, (ProgramFilter.new target false).filterBatches batches = some run ∧
    ∀ data ∈ pieces tsPacketSize (run.map Prod.snd).flatten, pidAt data 1 ≠ nullPid

/-- In every run over packets that do not put the program or a stream on the null PID, and in
which the filter, as the packets before have left it, takes each table from its place and
never with the null PID for the PCR, no null packet passes. -/
theorem dropsNulls_of_takesRealPcr (target : UInt16) (batches : List Bytes)
    (hleaves : ∀ data ∈ batches.flatMap (pieces tsPacketSize), LeavesNullPid target data)
    (htakes : ∀ pre data post, batches.flatMap (pieces tsPacketSize) = pre ++ data :: post →
      ∀ f, pre.foldlM ProgramFilter.filterPacket (ProgramFilter.new target false) = some f →
        TakesRealPcr target f.learned data) :
    DropsNulls target batches := by
  refine ⟨_, filterBatches_eq _ _, ?_⟩
  rw [pieces_outputs]
  refine (selector target).keep_all NullFree (fun data => pidAt data 1 ≠ nullPid)
    (fun s data => LeavesNullPid target data ∧ TakesRealPcr target s data)
    (fun _ _ h ha => h.rejects ha) (fun _ _ h ha => h.step ha.1 ha.2)
    ⟨none, none, none⟩ (batches.flatMap (pieces tsPacketSize)) (fun _ hi => by simp at hi) ?_
  intro pre data post he
  have hmem : data ∈ batches.flatMap (pieces tsPacketSize) :=
    he ▸ List.mem_append_right _ List.mem_cons_self
  exact ⟨hleaves data hmem, final_of_foldlM htakes pre data post he⟩

/-! ## A program without a PCR -/

/-- The sample PMT with the PCR PID that stands for no PCR. -/
def noPcrPmt : Pmt :=
  { samplePmt with pcrPid := ⟨0x1FFF, by decide⟩ }

def noPcrPacket : UnitPacket ⟨0x0100, samplePid_lt⟩ noPcrPmt.encode where
  header := sampleHeader
  filler := []
  rest := List.replicate 146 0xFF
  full := by decide +kernel

theorem sectionStart_nullPacket : sectionStart nullPacket = none := by decide +kernel

theorem not_patGives_sample : ¬ PatGives samplePatPacket.bytes 1 nullPid := by
  rintro ⟨_, o, ho, _, k, hk, _, hprogram, hpid⟩
  have hstart : sectionStart samplePatPacket.bytes = some 6 := by decide +kernel
  obtain rfl : 6 = o := Option.some.inj (hstart.symm.trans ho)
  have hend : sectionEndAt samplePatPacket.bytes 6 = 26 := by decide +kernel
  have hcases : k = 0 ∨ k = 1 ∨ k = 2 := by omega
  rcases hcases with rfl | rfl | rfl
  · exact absurd hprogram (by decide +kernel)
  · exact absurd hpid (by decide +kernel)
  · exact absurd hprogram (by decide +kernel)

/-- A packet with a PMT section at the fifth byte, none of whose streams is on the null PID. -/
theorem leavesNullPid_of_pmt {data : Bytes} (hp : pidAt data 1 ≠ patPid)
    (hstart : sectionStart data = some 5)
    (hstreams : nullPid ∉ pidsAt data (sectionEndAt data 5) data.length
      (17 + lengthAt data 15) ∅) (target : UInt16) : LeavesNullPid target data := by
  refine ⟨fun h => hp h.1, ?_⟩
  intro o ho _ hlists
  obtain rfl : 5 = o := Option.some.inj (hstart.symm.trans ho)
  exact hstreams ((mem_pidsAt _ _ _ _ _ (by omega) _).mpr (Or.inr hlists))

theorem leavesNullPid_of_none {data : Bytes} (h : sectionStart data = none) (target : UInt16) :
    LeavesNullPid target data := by
  refine ⟨?_, ?_⟩
  · rintro ⟨_, o, ho, _⟩
    simp [h] at ho
  · intro o ho
    simp [h] at ho

theorem leavesNullPid_samplePat : LeavesNullPid 1 samplePatPacket.bytes := by
  refine ⟨not_patGives_sample, ?_⟩
  intro o ho htable
  have hstart : sectionStart samplePatPacket.bytes = some 6 := by decide +kernel
  obtain rfl : 6 = o := Option.some.inj (hstart.symm.trans ho)
  exact absurd htable (by decide +kernel)

/-- The packets leave the null PID alone, and the null packet behind them passes. -/
theorem noPcr_passes :
    (∀ data ∈ [samplePatPacket.bytes, noPcrPacket.bytes, nullPacket].flatMap
        (pieces tsPacketSize), LeavesNullPid 1 data) ∧
      ¬ DropsNulls 1 [samplePatPacket.bytes, noPcrPacket.bytes, nullPacket] := by
  have hpackets : [samplePatPacket.bytes, noPcrPacket.bytes, nullPacket].flatMap
      (pieces tsPacketSize) = [samplePatPacket.bytes, noPcrPacket.bytes, nullPacket] :=
    flatMap_pieces_self (by decide) _ (by decide +kernel)
  refine ⟨?_, ?_⟩
  · rw [hpackets]
    intro data hdata
    simp only [List.mem_cons, List.not_mem_nil, or_false] at hdata
    rcases hdata with rfl | rfl | rfl
    · exact leavesNullPid_samplePat
    · exact leavesNullPid_of_pmt (by decide +kernel) (by decide +kernel) (by decide +kernel) 1
    · exact leavesNullPid_of_none sectionStart_nullPacket 1
  · rintro ⟨run, hrun, hall⟩
    rw [filterBatches_eq] at hrun
    have hkeep : (selector 1).keep ⟨none, none, none⟩
        [samplePatPacket.bytes, noPcrPacket.bytes, nullPacket] =
          [samplePatPacket.bytes, noPcrPacket.bytes, nullPacket] := by decide +kernel
    rw [← Option.some.inj hrun, pieces_outputs, hpackets, hkeep] at hall
    exact hall nullPacket (by simp) (by decide +kernel)

/-- With a PCR on the video PID, the null packet is dropped. -/
theorem samplePcr_drops :
    DropsNulls 1 [samplePatPacket.bytes, samplePmtPacket.bytes, nullPacket] := by
  have hpackets : [samplePatPacket.bytes, samplePmtPacket.bytes, nullPacket].flatMap
      (pieces tsPacketSize) = [samplePatPacket.bytes, samplePmtPacket.bytes, nullPacket] :=
    flatMap_pieces_self (by decide) _ (by decide +kernel)
  refine dropsNulls_of_takesRealPcr 1
    [samplePatPacket.bytes, samplePmtPacket.bytes, nullPacket] ?_ ?_
  · rw [hpackets]
    intro data hdata
    simp only [List.mem_cons, List.not_mem_nil, or_false] at hdata
    rcases hdata with rfl | rfl | rfl
    · exact leavesNullPid_samplePat
    · exact leavesNullPid_of_pmt (by decide +kernel) (by decide +kernel) (by decide +kernel) 1
    · exact leavesNullPid_of_none sectionStart_nullPacket 1
  · intro pre data post he f _
    rw [hpackets] at he
    have hdata : data ∈ [samplePatPacket.bytes, samplePmtPacket.bytes, nullPacket] := by
      rw [he]
      exact List.mem_append_right _ List.mem_cons_self
    simp only [List.mem_cons, List.not_mem_nil, or_false] at hdata
    rcases hdata with rfl | rfl | rfl
    · refine ⟨fun _ => by decide +kernel, ?_⟩
      rintro ⟨_, hp, _⟩
      exact absurd (by decide +kernel) hp
    · exact ⟨fun _ => by decide +kernel, fun _ => ⟨by decide +kernel, by decide +kernel⟩⟩
    · have hu : unitStart nullPacket = false := by decide +kernel
      refine ⟨?_, ?_⟩
      · rintro ⟨_, _, h, _⟩
        exact absurd h (by simp [hu])
      · rintro ⟨_, _, h, _⟩
        exact absurd h (by simp [hu])

end StreamGateway.MpegtsFilter
