import StreamGateway.LongTables

/-!
# A PAT that changes

When the filter reads a PAT of a new version, it takes the PMT PID from it only if it has no
program yet. A program once recorded keeps its PMT PID and the version of its last PMT, so
the filter does not follow a PMT that moves to another PID, keeps a program that has been
taken off the air, and skips a PMT whose version number happens to be the last one again.
-/
namespace StreamGateway.MpegtsFilter

open Psi

/-- The filter has this state after some batches. -/
def ProgramFilter.Reached (f : ProgramFilter) : Prop :=
  ∃ target fillWithNulls batches run,
    (ProgramFilter.new target fillWithNulls).filterBatches batches = some run ∧
      (ProgramFilter.new target fillWithNulls).after run = f

/-- A filter without a program has not read any PMT. -/
def NoPmtYet (s : Learned) : Prop := s.programInfo = none → s.pmtVersion = none

theorem NoPmtYet.step {s : Learned} (h : NoPmtYet s) (target : UInt16) (data : Bytes) :
    NoPmtYet ((selector target).step s data) := by
  cases hi : s.programInfo with
  | some info =>
    have hfollows : Follows info.pmtPid s := ⟨info, hi, rfl⟩
    obtain ⟨info', hi', _⟩ := hfollows.step target data
    intro hnone
    rw [hi'] at hnone
    exact absurd hnone (by simp)
  | none =>
    have hpmt : s.pmtVersion = none := h hi
    cases hon : onPid patPid data with
    | true =>
      rw [step_onPat hon]
      intro _
      unfold patLearn
      split_ifs <;> exact hpmt
    | false =>
      rw [step_elsewhere hon fun info hi' => by simp [hi] at hi']
      exact h

theorem NoPmtYet.final {s : Learned} (h : NoPmtYet s) (target : UInt16) (ps : List Bytes) :
    NoPmtYet ((selector target).final s ps) := by
  induction ps generalizing s with
  | nil => exact h
  | cons p ps ih => exact ih (h.step target p)

theorem ProgramFilter.Reached.noPmtYet {f : ProgramFilter} (h : f.Reached) :
    NoPmtYet f.learned := by
  obtain ⟨target, fillWithNulls, batches, run, hrun, rfl⟩ := h
  rw [filterBatches_eq] at hrun
  rw [← Option.some.inj hrun, (after_batchRun _ _).1]
  exact NoPmtYet.final (fun _ => rfl) _ _

/-! ## Following the change -/

/-- After the packet the filter has the PMT PID that the PAT gives to its program, and no
program if the PAT does not list it. -/
def TakesPat (f : ProgramFilter) (data : Bytes) (pat : Pat) : Prop :=
  ∃ g output, f.filterPackets data = some (g, output) ∧
    g.programInfo.map (fun info => info.pmtPid) = pat.pidOf f.targetProgram

/-- After the packet and the batches the filter has the PIDs of the PMT. -/
def LearnsNext (f : ProgramFilter) (data : Bytes) (pmt : Pmt) (batches : List Bytes) : Prop :=
  ∃ g output run, f.filterPackets data = some (g, output) ∧ g.filterBatches batches = some run ∧
    (g.after run).programInfo.map (fun info => info.pids) = some pmt.pids.toFinset

/-- The filter has no program, and the packet in which the PMT section starts shows all its
PIDs; or it has the PMT PID already, and the PIDs that it has or takes from this packet are
those of the PMT. -/
def KeepsUp (f : ProgramFilter) (pid : UInt16) (room : ℕ) (pmt : Pmt) : Prop :=
  match f.programInfo with
  | none => 12 ≤ room ∧ visiblePids room pmt = pmt.pids.toFinset
  | some info => info.pmtPid = pid ∧ shownPids f info room pmt = pmt.pids.toFinset

section Change

variable {f : ProgramFilter} {pat : Pat} {p : UnitPacket ⟨patPid, by decide⟩ pat.encode}

theorem takesPat_of {data output : Bytes} {g : ProgramFilter}
    (hg : f.filterPackets data = some (g, output)) : TakesPat f data pat ↔
      g.programInfo.map (fun info => info.pmtPid) = pat.pidOf f.targetProgram := by
  constructor
  · rintro ⟨g', output', hg', h⟩
    rw [hg] at hg'
    obtain ⟨rfl, rfl⟩ := Prod.mk.inj (Option.some.inj hg')
    exact h
  · exact fun h => ⟨g, output, hg, h⟩

theorem learnsNext_of {data output : Bytes} {g : ProgramFilter} {pmt : Pmt} {batches : List Bytes}
    (hg : f.filterPackets data = some (g, output)) : LearnsNext f data pmt batches ↔
      (g.after (batchRun g batches)).programInfo.map (fun info => info.pids) =
        some pmt.pids.toFinset := by
  constructor
  · rintro ⟨g', output', run, hg', hrun, h⟩
    rw [hg] at hg'
    obtain ⟨rfl, rfl⟩ := Prod.mk.inj (Option.some.inj hg')
    rw [filterBatches_eq] at hrun
    rwa [Option.some.inj hrun]
  · exact fun h => ⟨g, output, _, hg, filterBatches_eq _ _, h⟩

/-- No program has the PID of the PAT. -/
theorem ne_patPid_of_pidOf (hpat : pat.WellFormed) {target pid : UInt16}
    (h : pat.pidOf target = some pid) : pid ≠ patPid := by
  obtain ⟨e, he, hep⟩ := Option.map_eq_some_iff.mp h
  have hrange := (hpat e (List.mem_of_find?_eq_some he)).1
  rw [hep] at hrange
  intro hzero
  rw [hzero] at hrange
  exact absurd hrange (by decide)

/-- The filter behind the PAT packet. -/
theorem filterPackets_pat (hv : f.patVersion ≠ some pat.version.1) :
    ∃ g output, f.filterPackets p.bytes = some (g, output) ∧
      g.targetProgram = f.targetProgram ∧ g.pmtVersion = f.pmtVersion ∧
      g.programInfo = f.programInfo.or
        ((pat.pidOf f.targetProgram).map fun pid => ⟨f.targetProgram, pid, ∅⟩) := by
  have hfinal : (selector f.targetProgram).final f.learned (pieces tsPacketSize p.bytes) =
      patLearn f.targetProgram f.learned p.bytes := by
    rw [pieces_packet p.length_bytes, Selector.final_cons, Selector.final_nil,
      step_onPat (onPid_unitPacket p), unitStart_unitPacket, if_pos rfl]
  have hnew : f.learned.patVersion ≠ some pat.version.1 := hv
  rw [patLearn_whole, if_pos hnew] at hfinal
  refine ⟨_, _, filterPackets_eq f p.bytes, rfl, ?_, ?_⟩
  · exact congrArg Learned.pmtVersion hfinal
  · exact congrArg Learned.programInfo hfinal

theorem takesPat_iff (hv : f.patVersion ≠ some pat.version.1) :
    TakesPat f p.bytes pat ↔ f.programInfo = none ∨
      f.programInfo.map (fun info => info.pmtPid) = pat.pidOf f.targetProgram := by
  obtain ⟨g, output, hg, _, _, hi⟩ := filterPackets_pat (p := p) hv
  rw [takesPat_of hg, hi]
  cases f.programInfo with
  | none => cases pat.pidOf f.targetProgram <;> simp
  | some info => simp

theorem learnsNext_iff (hf : f.Reached) (hv : f.patVersion ≠ some pat.version.1)
    (hpat : pat.WellFormed) {pid : Pid} (hpid : pat.pidOf f.targetProgram = some pid.1)
    {pmt : Pmt} {starts : List (ℕ × Pmt)} {batches : List Bytes}
    (hc : Carries Pmt.encode pid [] [pmt] starts (packetsOn pid batches)) :
    TakesPat f p.bytes pat ∧ LearnsNext f p.bytes pmt batches ↔
      ∀ start ∈ starts, KeepsUp f pid start.1 pmt := by
  have hne : pid.1 ≠ patPid := ne_patPid_of_pidOf hpat hpid
  obtain ⟨g, output, hg, htarget, hversion, hi⟩ := filterPackets_pat (p := p) hv
  have hshown : ∀ info room, shownPids g info room pmt = shownPids f info room pmt := by
    intro info room
    rw [shownPids, hversion, shownPids]
  rw [learnsNext_of hg, takesPat_iff hv, hpid]
  unfold KeepsUp
  cases hinfo : f.programInfo with
  | none =>
    have hgi : g.programInfo = some ⟨f.targetProgram, pid, ∅⟩ := by rw [hi, hinfo, hpid]; rfl
    obtain ⟨room, rfl, hafter⟩ := tracked_after hgi rfl hne hc
    have hnew : f.pmtVersion = none := hf.noPmtYet hinfo
    rw [hafter, hshown, shownPids, hnew]
    by_cases hroom : 12 ≤ room
    · simp [hroom]
    · have hpids : pmt.pids.toFinset ≠ ∅ := by simp [Pmt.pids]
      simp [hroom, hpids.symm]
  | some info =>
    have hgi : g.programInfo = some info := by rw [hi, hinfo]; rfl
    by_cases hsame : info.pmtPid = pid.1
    · obtain ⟨room, rfl, hafter⟩ := tracked_after hgi hsame hne hc
      rw [hafter, hshown]
      simp [hsame]
    · obtain ⟨room, hstarts, _⟩ := foldl_trackedNext hc (tracked f.learned)
      simp [hsame, hstarts]

end Change

/-- The filter takes the PMT PID of a new PAT if and only if it has no program or the PID is
the one that it has. The PMT that comes next on that PID, in one packet or in several, is
then learned if and only if the PIDs that the filter has or takes from the packet in which the
section starts are those of the PMT. -/
theorem patChange_iff {f : ProgramFilter} (hf : f.Reached) {pat : Pat} (hpat : pat.WellFormed)
    (p : UnitPacket ⟨patPid, by decide⟩ pat.encode) (hv : f.patVersion ≠ some pat.version.1) :
    (TakesPat f p.bytes pat ↔ f.programInfo = none ∨
        f.programInfo.map (fun info => info.pmtPid) = pat.pidOf f.targetProgram) ∧
      ∀ (pid : Pid) (pmt : Pmt) (starts : List (ℕ × Pmt)) (batches : List Bytes),
        pat.pidOf f.targetProgram = some pid.1 →
        Carries Pmt.encode pid [] [pmt] starts (packetsOn pid batches) →
        (TakesPat f p.bytes pat ∧ LearnsNext f p.bytes pmt batches ↔
          ∀ start ∈ starts, KeepsUp f pid start.1 pmt) := by
  refine ⟨takesPat_iff hv, ?_⟩
  intro pid pmt starts batches hpid hc
  exact learnsNext_iff hf hv hpat hpid hc

/-! ## A program that moves -/

theorem samplePat_wellFormed : samplePat.WellFormed := by
  intro e he
  simp only [samplePat, List.mem_cons, List.not_mem_nil, or_false] at he
  rcases he with rfl | rfl | rfl <;> decide

theorem reached_new (target : UInt16) (fillWithNulls : Bool) :
    (ProgramFilter.new target fillWithNulls).Reached := ⟨target, fillWithNulls, [], [], rfl, rfl⟩

/-- A new filter keeps up with the sample tables. -/
theorem patChange_sample :
    TakesPat (ProgramFilter.new 1 false) samplePatPacket.bytes samplePat ∧
      LearnsNext (ProgramFilter.new 1 false) samplePatPacket.bytes samplePmt
        [samplePmtPacket.bytes] := by
  have h := patChange_iff (reached_new 1 false) samplePat_wellFormed samplePatPacket (by decide)
  refine (h.2 ⟨0x0100, by decide⟩ samplePmt _ _ (by decide) samplePmt_carried).mpr ?_
  intro start hstart
  rw [List.mem_singleton.mp hstart]
  exact ⟨by decide, visiblePids_all (by decide)⟩

/-- The next version of the sample PAT, with program 1 on another PID. -/
def movedPat : Pat :=
  { samplePat with
    version := ⟨4, by decide⟩
    entries := samplePat.entries.set 1 ⟨1, ⟨0x0300, by decide⟩⟩
    fits := by decide }

def movedPacket : UnitPacket ⟨patPid, patPid_lt⟩ movedPat.encode where
  header := sampleHeader
  filler := []
  rest := List.replicate 159 0xFF
  full := by decide +kernel

theorem sampleFilter_reached : sampleFilter.Reached := by
  have hrun : (ProgramFilter.new 1 false).filterBatches [samplePatPacket.bytes] =
      some [(sampleFilter, samplePatPacket.bytes)] := by decide +kernel
  exact ⟨1, false, _, _, hrun, rfl⟩

theorem movedPat_wellFormed : movedPat.WellFormed := by
  intro e he
  simp only [movedPat, samplePat, List.set_cons_succ, List.set_cons_zero, List.mem_cons,
    List.not_mem_nil, or_false] at he
  rcases he with rfl | rfl | rfl <;> decide

/-- A filter that has the program on the old PID does not take the new one. -/
theorem movedPat_not_taken :
    sampleFilter.Reached ∧ movedPat.WellFormed ∧
      sampleFilter.patVersion ≠ some movedPat.version.1 ∧
      ¬ TakesPat sampleFilter movedPacket.bytes movedPat := by
  refine ⟨sampleFilter_reached, movedPat_wellFormed, by decide, ?_⟩
  rw [takesPat_iff (by decide)]
  decide

end StreamGateway.MpegtsFilter
