import StreamGateway.PsiParsing

/-!
# Tables over several packets

The filter looks at the first packet of a section only. What it takes from a table that is
carried over several packets, between packets of other PIDs, is therefore what this packet
shows: of a PAT in several sections the first section of which a packet shows at least eight
bytes, since the version counts as known from then on, and of a PMT the streams whose entries
begin in the packet.
-/
namespace StreamGateway.MpegtsFilter

open Psi

/-- A transport packet of the PID. -/
def onPid (pid : UInt16) (data : Bytes) : Bool :=
  byteAt data 0 = tsSyncByte ∧ pidAt data 1 = pid

theorem onPid_iff {pid : UInt16} {data : Bytes} :
    onPid pid data = true ↔ byteAt data 0 = tsSyncByte ∧ pidAt data 1 = pid := by
  simp [onPid]

theorem accepts_iff {target : UInt16} {s : Learned} {data : Bytes} :
    (selector target).accepts s data = true ↔
      byteAt data 0 = tsSyncByte ∧ includes s (pidAt data 1) = true := by
  simp [selector]

theorem includes_pat (s : Learned) : includes s patPid = true := by simp [includes]

theorem includes_pmt {s : Learned} {info : ProgramInfo} (h : s.programInfo = some info) :
    includes s info.pmtPid = true := by
  unfold includes
  split_ifs
  · rfl
  · simp [h]

/-! ## Steps -/

section Steps

variable {target : UInt16} {s : Learned} {data : Bytes}

/-- A packet on the PID of the PAT is parsed if it starts a unit. -/
theorem step_onPat (h : onPid patPid data = true) :
    (selector target).step s data = if unitStart data then patLearn target s data else s := by
  obtain ⟨hs, hp⟩ := onPid_iff.mp h
  have ha : (selector target).accepts s data = true :=
    accepts_iff.mpr ⟨hs, by rw [hp]; exact includes_pat s⟩
  rw [Selector.step_of_accepts _ ha]
  change learnPacket target s data = _
  unfold learnPacket
  by_cases hu : unitStart data = true
  · rw [if_pos ⟨hp, hu⟩, if_pos hu]
  · rw [if_neg (fun h => hu h.2), if_neg hu]
    cases s.programInfo with
    | none => rfl
    | some info => exact if_neg fun h => hu h.2

/-- So is a packet on the PMT PID. -/
theorem step_onPmt {info : ProgramInfo} (hi : s.programInfo = some info)
    (hpat : info.pmtPid ≠ patPid) (h : onPid info.pmtPid data = true) :
    (selector target).step s data = if unitStart data then pmtLearn s data else s := by
  obtain ⟨hs, hp⟩ := onPid_iff.mp h
  have ha : (selector target).accepts s data = true :=
    accepts_iff.mpr ⟨hs, by rw [hp]; exact includes_pmt hi⟩
  rw [Selector.step_of_accepts _ ha]
  change learnPacket target s data = _
  have hne : ¬ (info.pmtPid = patPid ∧ unitStart data = true) := fun h => hpat h.1
  simp only [learnPacket, hi, hp, if_neg hne, true_and]

/-- No other packet teaches the filter anything. -/
theorem step_elsewhere (hpat : onPid patPid data = false)
    (hpmt : ∀ info, s.programInfo = some info → onPid info.pmtPid data = false) :
    (selector target).step s data = s := by
  cases ha : (selector target).accepts s data with
  | false => exact Selector.step_of_rejects _ ha
  | true =>
    rw [Selector.step_of_accepts _ ha]
    have hs := (accepts_iff.mp ha).1
    have hne : ¬ (pidAt data 1 = patPid ∧ unitStart data = true) := by
      intro h
      rw [onPid_iff.mpr ⟨hs, h.1⟩] at hpat
      exact absurd hpat (by decide)
    change learnPacket target s data = s
    rw [learnPacket, if_neg hne]
    cases hi : s.programInfo with
    | none => rfl
    | some info =>
      refine if_neg fun h => ?_
      have hoff := hpmt info hi
      rw [onPid_iff.mpr ⟨hs, h.1⟩] at hoff
      exact absurd hoff (by decide)

end Steps

/-! ## What the PAT packets decide -/

/-- The recorded version of the PAT and the recorded PMT PID. -/
def route (s : Learned) : Option UInt8 × Option UInt16 :=
  (s.patVersion, s.programInfo.map fun info => info.pmtPid)

/-- A packet on the PID of the PAT, as far as the route goes. -/
def routeNext (target : UInt16) (r : Option UInt8 × Option UInt16) (data : Bytes) :
    Option UInt8 × Option UInt16 :=
  if unitStart data ∧ offsetAt data + 8 ≤ data.length ∧ byteAt data (offsetAt data) = 0x00 ∧
      r.1 ≠ some (versionAt data (offsetAt data)) then
    (some (versionAt data (offsetAt data)), r.2.or (pmtPidIn target data))
  else r

theorem route_patLearn (target : UInt16) (s : Learned) {data : Bytes}
    (hu : unitStart data = true) :
    route (patLearn target s data) = routeNext target (route s) data := by
  unfold patLearn routeNext
  by_cases hr : readsPat s data = true
  · have hr' := hr
    simp only [readsPat, Bool.decide_and, Bool.and_eq_true, decide_eq_true_eq] at hr'
    rw [if_pos hr, if_pos ⟨hu, hr'⟩]
    cases hi : s.programInfo with
    | none => cases hf : pmtPidIn target data <;> simp [route, hi]
    | some info => simp [route, hi]
  · rw [if_neg hr, if_neg]
    rintro ⟨_, hr'⟩
    exact hr (by simpa [readsPat, route] using hr')

theorem route_pmtLearn (s : Learned) (data : Bytes) : route (pmtLearn s data) = route s := by
  unfold pmtLearn
  split_ifs
  · cases hi : s.programInfo <;> simp [route, hi]
  · rfl

theorem route_step (target : UInt16) (s : Learned) {data : Bytes}
    (h : onPid patPid data = true) :
    route ((selector target).step s data) = routeNext target (route s) data := by
  rw [step_onPat h]
  by_cases hu : unitStart data = true
  · rw [if_pos hu, route_patLearn target s hu]
  · rw [if_neg hu, routeNext, if_neg fun h => hu h.1]

theorem route_step_elsewhere (target : UInt16) (s : Learned) {data : Bytes}
    (h : onPid patPid data = false) : route ((selector target).step s data) = route s := by
  by_cases hpmt : ∃ info, s.programInfo = some info ∧ onPid info.pmtPid data = true
  · obtain ⟨info, hi, hon⟩ := hpmt
    have hne : info.pmtPid ≠ patPid := by
      intro he
      rw [he] at hon
      exact absurd hon (by simp [h])
    rw [step_onPmt hi hne hon]
    split_ifs
    · exact route_pmtLearn s data
    · rfl
  · rw [step_elsewhere h]
    intro info hi
    by_contra hon
    exact hpmt ⟨info, hi, by simpa using hon⟩

/-- The route after a run, from the packets on the PID of the PAT. -/
theorem route_final (target : UInt16) (s : Learned) (ps : List Bytes) :
    route ((selector target).final s ps) =
      (ps.filter (onPid patPid)).foldl (routeNext target) (route s) :=
  (selector target).view_final route (onPid patPid) (routeNext target) (fun _ => True)
    (fun _ _ _ => trivial) (fun s _ _ h => route_step_elsewhere target s h)
    (fun s _ _ h => route_step target s h) s ps trivial

/-! ## What the PMT packets decide -/

/-- The recorded version of the PMT and the recorded program. -/
def tracked (s : Learned) : Option UInt8 × Option ProgramInfo := (s.pmtVersion, s.programInfo)

/-- A packet on the PMT PID, as far as the program goes. -/
def trackedNext (r : Option UInt8 × Option ProgramInfo) (data : Bytes) :
    Option UInt8 × Option ProgramInfo :=
  if unitStart data ∧ offsetAt data + 12 ≤ data.length ∧ byteAt data (offsetAt data) = 0x02 ∧
      r.1 ≠ some (versionAt data (offsetAt data)) then
    (some (versionAt data (offsetAt data)),
      r.2.map fun info => { info with pids := pmtPids data })
  else r

theorem tracked_pmtLearn (s : Learned) {data : Bytes} (hu : unitStart data = true) :
    tracked (pmtLearn s data) = trackedNext (tracked s) data := by
  unfold pmtLearn trackedNext
  by_cases hr : readsPmt s data = true
  · have hr' := hr
    simp only [readsPmt, Bool.decide_and, Bool.and_eq_true, decide_eq_true_eq] at hr'
    rw [if_pos hr, if_pos ⟨hu, hr'⟩]
    rfl
  · rw [if_neg hr, if_neg]
    rintro ⟨_, hr'⟩
    exact hr (by simpa [readsPmt, tracked] using hr')

theorem tracked_patLearn {s : Learned} {info : ProgramInfo} (hi : s.programInfo = some info)
    (target : UInt16) (data : Bytes) : tracked (patLearn target s data) = tracked s := by
  unfold patLearn
  split_ifs
  · cases hf : pmtPidIn target data <;> simp [tracked, hi]
  · rfl

/-- The filter follows the PMT PID. -/
def Follows (pid : UInt16) (s : Learned) : Prop :=
  ∃ info, s.programInfo = some info ∧ info.pmtPid = pid

theorem Follows.step {pid : UInt16} {s : Learned} (h : Follows pid s) (target : UInt16)
    (data : Bytes) : Follows pid ((selector target).step s data) := by
  obtain ⟨info, hi, hp⟩ := h
  have hroute : ((selector target).step s data).programInfo.map (fun info => info.pmtPid) =
      some pid := by
    cases hon : onPid patPid data with
    | true =>
      have hr := congrArg Prod.snd (route_step target s hon)
      refine hr.trans ?_
      unfold routeNext
      split_ifs <;> simp [route, hi, hp]
    | false =>
      have hr := congrArg Prod.snd (route_step_elsewhere target s hon)
      exact hr.trans (by simp [route, hi, hp])
  simpa [Follows] using hroute

/-- The program after a run of a filter that follows the PMT PID, from the packets on it. -/
theorem tracked_final (target : UInt16) {pid : UInt16} (hpid : pid ≠ patPid) {s : Learned}
    (hs : Follows pid s) (ps : List Bytes) :
    tracked ((selector target).final s ps) =
      (ps.filter (onPid pid)).foldl trackedNext (tracked s) := by
  refine (selector target).view_final tracked (onPid pid) trackedNext (Follows pid)
    (fun _ _ h => h.step target _) ?_ ?_ s ps hs
  · rintro s data ⟨info, hi, hp⟩ hoff
    cases hon : onPid patPid data with
    | true =>
      rw [step_onPat hon]
      split_ifs
      · exact tracked_patLearn hi target data
      · rfl
    | false =>
      rw [step_elsewhere hon]
      intro info' hi'
      rw [hi] at hi'
      rwa [← Option.some.inj hi', hp]
  · rintro s data ⟨info, hi, hp⟩ hon
    rw [← hp] at hpid hon
    rw [step_onPmt hi hpid hon]
    by_cases hu : unitStart data = true
    · rw [if_pos hu, tracked_pmtLearn s hu]
    · rw [if_neg hu, trackedNext, if_neg fun h => hu h.1]

/-! ## Packets that carry sections -/

section Carriage

variable {pid : Pid}

theorem byteAt_morePacket (p : MorePacket pid) {i : ℕ} (h : i < 4) :
    byteAt p.bytes i = byteAt (p.header.encode pid false
      (if p.adaptation.isSome then 3 else 1)) i := by
  rw [MorePacket.bytes, List.append_assoc, byteAt_append_left (by simpa using h)]

theorem unitStart_morePacket (p : MorePacket pid) : unitStart p.bytes = false := by
  rw [unitStart, byteAt_morePacket p (by decide)]
  simp [Header.encode]

theorem onPid_morePacket (p : MorePacket pid) : onPid pid p.bytes = true := by
  rw [onPid_iff, pidAt_eq_word, byteAt_morePacket p (by decide),
    byteAt_morePacket p (by decide), byteAt_morePacket p (by decide)]
  refine ⟨rfl, ?_⟩
  simp [Header.encode]

theorem onPid_unitPacket {psi : Bytes} (p : UnitPacket pid psi) : onPid pid p.bytes = true :=
  onPid_iff.mpr ⟨syncByte_unitPacket p, pidAt_unitPacket p⟩

theorem prefix_of_cut {σ : Type*} {encode : σ → Bytes} {first : σ} {others : List σ}
    {psi rest left : Bytes} (hcut : encode first ++ others.flatMap encode = psi ++ left)
    (hrest : rest = [] ∨ left = []) :
    ∃ tail, psi ++ rest <+: encode first ++ tail := by
  obtain hrest | hleft := hrest
  · exact ⟨others.flatMap encode, left, by rw [hrest, List.append_nil, hcut]⟩
  · rw [hleft, List.append_nil] at hcut
    exact ⟨others.flatMap encode ++ rest, by rw [← hcut, List.append_assoc]⟩

/-- Of the sections of one version, the first of which a packet shows eight bytes decides. -/
theorem foldl_routeNext {version : UInt8} (target : UInt16) {left : Bytes} {pats : List Pat}
    {starts : List (ℕ × Pat)} {packets : List Bytes}
    (hc : Carries Pat.encode pid left pats starts packets)
    (hv : ∀ pat ∈ pats, pat.version.1 = version) (r : Option UInt8 × Option UInt16) :
    packets.foldl (routeNext target) r =
      if r.1 = some version then r
      else match starts.find? fun start => 8 ≤ start.1 with
        | some start => (some version, r.2.or (visiblePid start.1 start.2 target))
        | none => r := by
  induction hc generalizing r with
  | done => simp
  | more chunk p _ _ _ ih =>
    have hskip : routeNext target r p.bytes = r := by simp [routeNext, unitStart_morePacket]
    rw [List.foldl_cons, hskip, ih hv]
  | unit first others psi p _ hcut hrest _ ih =>
    have hfirst : first.version.1 = version := hv first (by simp)
    have hrest' := ih fun pat hpat => hv pat (List.mem_append_right _ hpat)
    obtain ⟨tail, hprefix⟩ := prefix_of_cut hcut hrest
    have hlen := length_unitPacket p
    rw [List.foldl_cons, hrest', List.find?_cons]
    generalize hroom : (psi ++ p.rest).length = room at hlen
    by_cases hle : 8 ≤ room
    · have hle' : 8 ≤ (psi ++ p.rest).length := by omega
      obtain ⟨htable, hversion, _⟩ := patHead_unitPacket hprefix hle'
      rw [hfirst] at hversion
      have hfits : offsetAt p.bytes + 8 ≤ p.bytes.length := by omega
      have hnext : routeNext target r p.bytes = if r.1 = some version then r
          else (some version, r.2.or (visiblePid room first target)) := by
        rw [routeNext, hversion, pmtPidIn_unitPacket hprefix hle', hroom]
        by_cases hr : r.1 = some version <;>
          simp [unitStart_unitPacket, hfits, htable, hr]
      rw [hnext]
      by_cases hr : r.1 = some version <;> simp [hr, hle]
    · have hnext : routeNext target r p.bytes = r := by
        rw [routeNext, if_neg]
        rintro ⟨_, hfits, _⟩
        omega
      simp [hnext, hle]

theorem foldl_trackedNext_nil {left : Bytes} {starts : List (ℕ × Pmt)} {packets : List Bytes}
    (hc : Carries Pmt.encode pid left [] starts packets)
    (r : Option UInt8 × Option ProgramInfo) :
    starts = [] ∧ packets.foldl trackedNext r = r := by
  generalize hs : ([] : List Pmt) = sections at hc
  induction hc with
  | done => exact ⟨rfl, rfl⟩
  | more chunk p _ _ _ ih =>
    have hskip : trackedNext r p.bytes = r := by simp [trackedNext, unitStart_morePacket]
    rw [List.foldl_cons, hskip]
    exact ih hs
  | unit first others psi p _ _ _ _ _ => simp at hs

/-- Of a PMT section, the packet in which it starts decides. -/
theorem foldl_trackedNext {pmt : Pmt} {left : Bytes} {starts : List (ℕ × Pmt)}
    {packets : List Bytes} (hc : Carries Pmt.encode pid left [pmt] starts packets)
    (r : Option UInt8 × Option ProgramInfo) :
    ∃ room, starts = [(room, pmt)] ∧ packets.foldl trackedNext r =
      if 12 ≤ room ∧ r.1 ≠ some pmt.version.1 then
        (some pmt.version.1, r.2.map fun info => { info with pids := visiblePids room pmt })
      else r := by
  generalize hs : [pmt] = sections at hc
  induction hc with
  | done => simp at hs
  | more chunk p _ _ _ ih =>
    have hskip : trackedNext r p.bytes = r := by simp [trackedNext, unitStart_morePacket]
    rw [List.foldl_cons, hskip]
    exact ih hs
  | unit first others psi p _ hcut hrest hcarries _ =>
    obtain ⟨rfl, hnil⟩ := List.cons.inj hs
    obtain ⟨rfl, rfl⟩ := List.append_eq_nil_iff.mp hnil.symm
    obtain ⟨rfl, hskip⟩ := foldl_trackedNext_nil hcarries (trackedNext r p.bytes)
    obtain ⟨tail, hprefix⟩ := prefix_of_cut hcut hrest
    have hlen := length_unitPacket p
    refine ⟨_, rfl, ?_⟩
    rw [List.foldl_cons, hskip, trackedNext]
    generalize hroom : (psi ++ p.rest).length = room at hlen
    by_cases hle : 12 ≤ room
    · have hle' : 12 ≤ (psi ++ p.rest).length := by omega
      obtain ⟨htable, hversion, _⟩ := pmtHead_unitPacket hprefix hle'
      have hfits : offsetAt p.bytes + 12 ≤ p.bytes.length := by omega
      rw [hversion, pmtPids_unitPacket hprefix hle', hroom]
      simp [unitStart_unitPacket, hfits, htable, hle]
    · have hshort : ¬ offsetAt p.bytes + 12 ≤ p.bytes.length := by omega
      simp [hshort, hle]

end Carriage

/-! ## What is learned of a table -/

/-- The packets of a PID in the input. -/
def packetsOn (pid : UInt16) (batches : List Bytes) : List Bytes :=
  (batches.flatMap (pieces tsPacketSize)).filter (onPid pid)

theorem pieces_packet {data : Bytes} (h : data.length = tsPacketSize) :
    pieces tsPacketSize data = [data] := by
  have hone := pieces_flatten (by decide : 0 < tsPacketSize) [data] (by simp [h])
  simpa using hone

/-- The PID that the first entry for the program gives, over all sections. -/
def pidIn (pats : List Pat) (program : UInt16) : Option UInt16 :=
  ((pats.flatMap fun pat => pat.entries).find? fun e => e.program = program).map fun e => e.pid.1

/-- After the input the filter has the PMT PID that the PAT gives to its program, if any. -/
def LearnsPmtPid (f : ProgramFilter) (pats : List Pat) (batches : List Bytes) : Prop :=
  ∃ run, f.filterBatches batches = some run ∧ ∀ pid, pidIn pats f.targetProgram = some pid →
    ∃ info, (f.after run).programInfo = some info ∧ info.pmtPid = pid

/-- After the input the filter has all PIDs of the PMT. -/
def LearnsPids (f : ProgramFilter) (pmt : Pmt) (batches : List Bytes) : Prop :=
  ∃ run, f.filterBatches batches = some run ∧ ∃ info, (f.after run).programInfo = some info ∧
    ∀ pid ∈ pmt.pids, pid ∈ info.pids

/-- The filter has the PMT PID already, or it has no program, the version is new to it, and
the first section of which a packet shows eight bytes shows the entry. -/
def ShowsPmtPid (f : ProgramFilter) (version : UInt8) (starts : List (ℕ × Pat))
    (pid : UInt16) : Prop :=
  match f.programInfo with
  | some info => info.pmtPid = pid
  | none => f.patVersion ≠ some version ∧ ∃ start,
      (starts.find? fun start => 8 ≤ start.1) = some start ∧
        visiblePid start.1 start.2 f.targetProgram = some pid

/-- The PIDs that the filter has after the packet in which the section starts. -/
def shownPids (f : ProgramFilter) (info : ProgramInfo) (room : ℕ) (pmt : Pmt) : Finset UInt16 :=
  if 12 ≤ room ∧ f.pmtVersion ≠ some pmt.version.1 then visiblePids room pmt else info.pids

theorem tracked_after {f : ProgramFilter} {info : ProgramInfo} {pmt : Pmt} {pid : Pid}
    (hi : f.programInfo = some info) (hpid : info.pmtPid = pid) (hpat : pid.1 ≠ patPid)
    {starts : List (ℕ × Pmt)} {batches : List Bytes}
    (hc : Carries Pmt.encode pid [] [pmt] starts (packetsOn pid batches)) :
    ∃ room, starts = [(room, pmt)] ∧
      (f.after (batchRun f batches)).programInfo =
        some { info with pids := shownPids f info room pmt } := by
  have hrun := (after_batchRun f batches).1
  have hfinal := tracked_final f.targetProgram hpat (s := f.learned) ⟨info, hi, hpid⟩
    (batches.flatMap (pieces tsPacketSize))
  obtain ⟨room, hstarts, hfold⟩ := foldl_trackedNext hc (tracked f.learned)
  refine ⟨room, hstarts, ?_⟩
  rw [← hrun] at hfinal
  have hprogram := congrArg Prod.snd (hfinal.trans hfold)
  refine hprogram.trans ?_
  have hversion : (tracked f.learned).1 = f.pmtVersion := rfl
  rw [hversion, shownPids]
  split_ifs
  · simp [tracked, ProgramFilter.learned, hi]
  · exact hi

theorem learnsPids_iff {f : ProgramFilter} {info : ProgramInfo} {pmt : Pmt} {pid : Pid}
    (hi : f.programInfo = some info) (hpid : info.pmtPid = pid) (hpat : pid.1 ≠ patPid)
    {starts : List (ℕ × Pmt)} {batches : List Bytes}
    (hc : Carries Pmt.encode pid [] [pmt] starts (packetsOn pid batches)) :
    LearnsPids f pmt batches ↔
      ∀ start ∈ starts, ∀ q ∈ pmt.pids, q ∈ shownPids f info start.1 pmt := by
  obtain ⟨room, hstarts, hafter⟩ := tracked_after hi hpid hpat hc
  rw [hstarts]
  constructor
  · rintro ⟨run, hrun, info', hi', hall⟩ start hstart q hq
    rw [filterBatches_eq] at hrun
    rw [← Option.some.inj hrun, hafter] at hi'
    obtain rfl := Option.some.inj hi'
    rw [List.mem_singleton.mp hstart]
    exact hall q hq
  · intro hall
    exact ⟨_, filterBatches_eq _ _, _, hafter, hall _ (List.mem_singleton_self _)⟩

theorem learnsPmtPid_iff {f : ProgramFilter} {version : UInt8} {pats : List Pat}
    (hv : ∀ pat ∈ pats, pat.version.1 = version) {starts : List (ℕ × Pat)}
    {batches : List Bytes}
    (hc : Carries Pat.encode ⟨patPid, by decide⟩ [] pats starts (packetsOn patPid batches)) :
    LearnsPmtPid f pats batches ↔
      ∀ pid, pidIn pats f.targetProgram = some pid → ShowsPmtPid f version starts pid := by
  have hfinal := route_final f.targetProgram f.learned (batches.flatMap (pieces tsPacketSize))
  have hfold := foldl_routeNext f.targetProgram hc hv (route f.learned)
  have hroute := hfinal.trans hfold
  rw [← (after_batchRun f batches).1] at hroute
  have hafter : LearnsPmtPid f pats batches ↔ ∀ pid, pidIn pats f.targetProgram = some pid →
      (route (f.after (batchRun f batches)).learned).2 = some pid := by
    constructor
    · rintro ⟨run, hrun, hall⟩ pid hpid
      rw [filterBatches_eq] at hrun
      rw [Option.some.inj hrun]
      exact Option.map_eq_some_iff.mpr (hall pid hpid)
    · intro hall
      exact ⟨_, filterBatches_eq _ _, fun pid hpid => Option.map_eq_some_iff.mp (hall pid hpid)⟩
  rw [hafter, hroute]
  refine forall_congr' fun pid => imp_congr_right fun _ => ?_
  unfold ShowsPmtPid
  cases hi : f.programInfo with
  | some info =>
    have hr : (route f.learned).2 = some info.pmtPid := by
      simp [route, ProgramFilter.learned, hi]
    split_ifs
    · simp [hr]
    · cases starts.find? fun start => 8 ≤ start.1 <;> simp [hr]
  | none =>
    have hr : (route f.learned).2 = none := by simp [route, ProgramFilter.learned, hi]
    have hversion : (route f.learned).1 = f.patVersion := rfl
    rw [hversion]
    split_ifs with hknown
    · simp [hr, hknown]
    · cases starts.find? fun start => 8 ≤ start.1 <;> simp [hr, hknown]

/-! ## A table of fifty programs -/

def longEntry (i : Fin 50) : PatEntry where
  program := UInt16.ofNat (i + 1)
  pid := ⟨UInt16.ofNat (0x0100 + i), by revert i; decide +kernel⟩

/-- A PAT section of 212 bytes. -/
def longPat : Pat where
  transportStreamId := 1
  version := ⟨0, by decide⟩
  current := true
  sectionNumber := 0
  lastSectionNumber := 0
  entries := List.ofFn longEntry
  checksum := [0, 0, 0, 0]
  length_checksum := samplePat.length_checksum
  fits := by decide +kernel

def longFirst : UnitPacket ⟨patPid, patPid_lt⟩ (longPat.encode.take 183) where
  header := sampleHeader
  filler := []
  rest := []
  full := by decide +kernel

def longSecond : MorePacket ⟨patPid, patPid_lt⟩ where
  header := sampleHeader
  adaptation := none
  payload := longPat.encode.drop 183 ++ List.replicate 155 0xFF
  full := by decide +kernel

theorem longPat_carried :
    Carries Pat.encode ⟨patPid, by decide⟩ [] [longPat] [(183, longPat)]
      [longFirst.bytes, longSecond.bytes] := by
  have hsecond : Carries Pat.encode ⟨patPid, by decide⟩ (longPat.encode.drop 183 ++ []) [] []
      [longSecond.bytes] := .more _ longSecond rfl (Or.inr rfl) .done
  have hcut : longPat.encode ++ ([] : List Pat).flatMap Pat.encode =
      longPat.encode.take 183 ++ (longPat.encode.drop 183 ++ []) := by
    rw [List.flatMap_nil, List.append_nil, List.append_nil, List.take_append_drop]
  exact .unit longPat [] _ longFirst List.nil_prefix hcut (Or.inl rfl) hsecond

theorem packetsOn_long :
    packetsOn patPid [longFirst.bytes ++ longSecond.bytes] =
      [longFirst.bytes, longSecond.bytes] := by
  have hsecond : longSecond.bytes.length = tsPacketSize := by decide +kernel
  have hpieces : pieces tsPacketSize (longFirst.bytes ++ longSecond.bytes) =
      [longFirst.bytes, longSecond.bytes] := by
    have h := pieces_flatten (by decide : 0 < tsPacketSize) [longFirst.bytes, longSecond.bytes]
      (by simp [hsecond, longFirst.length_bytes, packetSize, tsPacketSize])
    simpa using h
  simp [packetsOn, hpieces, onPid_unitPacket longFirst, onPid_morePacket longSecond]

/-- The entry for program 50 is in the second packet, which the filter does not look at. -/
theorem longPat_not_learned :
    Carries Pat.encode ⟨patPid, by decide⟩ [] [longPat] [(183, longPat)]
        (packetsOn patPid [longFirst.bytes ++ longSecond.bytes]) ∧
      ¬ LearnsPmtPid (ProgramFilter.new 50 false) [longPat]
        [longFirst.bytes ++ longSecond.bytes] := by
  have hc := longPat_carried
  rw [← packetsOn_long] at hc
  have hv : ∀ pat ∈ [longPat], pat.version.1 = 0 := by
    intro pat hpat
    rw [List.mem_singleton.mp hpat]
    rfl
  refine ⟨hc, ?_⟩
  rw [learnsPmtPid_iff hv hc]
  intro hshows
  have hgiven : pidIn [longPat] 50 = some 0x0131 := by decide +kernel
  obtain ⟨_, start, hstart, hvisible⟩ := hshows _ hgiven
  obtain rfl : (183, longPat) = start := Option.some.inj hstart
  have hhidden : visiblePid 183 longPat 50 = none := by decide +kernel
  exact absurd (hhidden.symm.trans hvisible) (by decide)

/-- From every state, the target's PMT PID is learned from a PAT of any number of sections if
and only if the filter has it already or the section that decides shows it, and the PIDs of a
PMT on the PMT PID are learned if and only if the ones that the filter has or takes from the
packet in which the section starts include them. -/
theorem longTables_iff (f : ProgramFilter) (batches : List Bytes) :
    (∀ (version : UInt8) (pats : List Pat) (starts : List (ℕ × Pat)),
        (∀ pat ∈ pats, pat.version.1 = version) →
        Carries Pat.encode ⟨patPid, by decide⟩ [] pats starts (packetsOn patPid batches) →
        (LearnsPmtPid f pats batches ↔
          ∀ pid, pidIn pats f.targetProgram = some pid → ShowsPmtPid f version starts pid)) ∧
      ∀ (info : ProgramInfo) (pid : Pid) (pmt : Pmt) (starts : List (ℕ × Pmt)),
        f.programInfo = some info → info.pmtPid = pid → pid.1 ≠ patPid →
        Carries Pmt.encode pid [] [pmt] starts (packetsOn pid batches) →
        (LearnsPids f pmt batches ↔
          ∀ start ∈ starts, ∀ q ∈ pmt.pids, q ∈ shownPids f info start.1 pmt) := by
  refine ⟨?_, ?_⟩
  · intro version pats starts hv hc
    exact learnsPmtPid_iff hv hc
  · intro info pid pmt starts hi hpid hpat hc
    exact learnsPids_iff hi hpid hpat hc

theorem samplePmt_carried :
    Carries Pmt.encode ⟨0x0100, by decide⟩ [] [samplePmt] [(183, samplePmt)]
      (packetsOn 0x0100 [samplePmtPacket.bytes]) := by
  have hpieces := pieces_packet samplePmtPacket.length_bytes
  have hon : onPid 0x0100 samplePmtPacket.bytes = true := onPid_unitPacket samplePmtPacket
  have hcut : samplePmt.encode ++ ([] : List Pmt).flatMap Pmt.encode =
      samplePmt.encode ++ [] := rfl
  have hpackets : packetsOn 0x0100 [samplePmtPacket.bytes] = [samplePmtPacket.bytes] := by
    simp [packetsOn, hpieces, hon]
  rw [hpackets]
  exact .unit samplePmt [] _ samplePmtPacket List.nil_prefix hcut (Or.inr rfl) .done

/-- Program 1 is in the first packet of the long PAT, and the sample PMT is in one packet. -/
theorem longTables_learned :
    LearnsPmtPid (ProgramFilter.new 1 false) [longPat] [longFirst.bytes ++ longSecond.bytes] ∧
      LearnsPids sampleFilter samplePmt [samplePmtPacket.bytes] := by
  refine ⟨?_, ?_⟩
  · have hc := longPat_carried
    rw [← packetsOn_long] at hc
    have hv : ∀ pat ∈ [longPat], pat.version.1 = 0 := by
      intro pat hpat
      rw [List.mem_singleton.mp hpat]
      rfl
    refine ((longTables_iff _ _).1 0 [longPat] _ hv hc).mpr ?_
    intro pid hpid
    have hvisible : visiblePid 183 longPat 1 = pidIn [longPat] 1 := by decide +kernel
    exact ⟨by decide, _, rfl, hvisible.trans hpid⟩
  · refine ((longTables_iff _ _).2 ⟨1, 0x0100, ∅⟩ ⟨0x0100, by decide⟩ samplePmt _ rfl rfl
      (by decide) samplePmt_carried).mpr ?_
    have hall : visiblePids 183 samplePmt = samplePmt.pids.toFinset :=
      visiblePids_all (by decide)
    have hshown : shownPids sampleFilter ⟨1, 0x0100, ∅⟩ 183 samplePmt =
        samplePmt.pids.toFinset := by
      rw [shownPids, if_pos (by decide), hall]
    intro start hstart q hq
    rw [List.mem_singleton.mp hstart, hshown]
    exact List.mem_toFinset.mpr hq

end StreamGateway.MpegtsFilter
