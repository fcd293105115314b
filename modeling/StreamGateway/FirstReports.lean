import StreamGateway.InputIds
import StreamGateway.StaleMessages

/-!
# The first reports of an input

`create_input` spawns the task of an input and enters the input into memory afterwards. The
task can report before, and the processor drops a report on an input that is not there. Here
is what the handler does to the input, and what is recorded of the reports: as long as the
entry comes in time, the last report is underway or in the entry.
-/
namespace StreamGateway

open Prog

/-! ## The creation -/

/-- The status that an input has once its task is spawned. -/
def CreateInputRequest.firstStatus : CreateInputRequest → StreamStatus
  | .udp .. => .listening
  | .srt _ config => srtInputStatus config
  | .spts .. => .listening

@[simp] theorem firstStatus_withAssignedPort (req : CreateInputRequest) (port : UInt16) :
    (req.withAssignedPort port).firstStatus = req.firstStatus := by
  cases req with
  | udp | spts => rfl
  | srt name config => cases config <;> rfl

/-- The id that the next input gets. -/
def World.nextInputId (w : World) : Int := w.db.inputs.lastId + 1

/-- The input is not in memory, and no task was spawned for it. -/
structure Unborn (k : Int) (w : World) : Prop where
  absent : k ∉ w.streams
  tasks : ∀ t ∈ w.rt.spawned, t.spec.owner ≠ .input k

theorem World.IdsGiven.unborn {w : World} (h : w.IdsGiven) : Unborn w.nextInputId w := by
  unfold World.nextInputId
  refine ⟨fun hk => ?_, fun t ht ho => ?_⟩
  · have := h.entries _ hk
    omega
  · have := h.tasks t ht _ ho
    omega

/-- The processor and the tasks write no row, spawn no task and enter no input. -/
def creationRely : Guarded World := fun _ w w' =>
  w'.db = w.db ∧ w'.rt.spawned = w.rt.spawned ∧ ∀ i ∈ w'.streams, i ∈ w.streams

instance (h : Option LockMode) : IsTrans World (creationRely h) :=
  ⟨fun _ _ _ h₁ h₂ => ⟨h₂.1.trans h₁.1, h₂.2.1.trans h₁.2.1, fun i hi => h₁.2.2 i (h₂.2.2 i hi)⟩⟩

theorem Unborn.later {k : Int} {h : Option LockMode} {w w' : World} (hu : Unborn k w)
    (hrely : creationRely h w w') : Unborn k w' := by
  refine ⟨fun hk => hu.absent (hrely.2.2 k hk), ?_⟩
  rw [hrely.2.1]
  exact hu.tasks

/-- A creation spawns a task, or it enters the input with its first status. Without a task it
may be entered otherwise. -/
inductive CreationAct (k : Int) (status : StreamStatus) : World → World → Prop
  | aside {w w' : World} (ts : List Task) : w'.streams = w.streams → Launches ts w.rt w'.rt →
      CreationAct k status w w'
  | enter {w : World} (info : InputInfo) : info.id = k → k ∉ w.streams →
      info.status = status ∨ Unborn k w → CreationAct k status w (insertInput info w).2

theorem CreationAct.refl {k : Int} {status : StreamStatus} (w : World) :
    CreationAct k status w w :=
  .aside [] rfl (.refl w.rt)

theorem CreationAct.of_quiet {k : Int} {status : StreamStatus} {w w' : World}
    (h : Quiet w w') : CreationAct k status w w' :=
  .aside [] h.streams h.runtime

/-- The program does what a creation does. -/
abbrev Creates {α : Type} (k : Int) (status : StreamStatus) (p : Prog World α)
    (h : Option LockMode) (w : World)
    (Q : α → Option LockMode → World → Prop := fun _ _ _ => True) : Prop :=
  p.Behaves creationRely (fun _ => CreationAct k status) h w Q

variable {k : Int} {status : StreamStatus} {h : Option LockMode}

theorem creates_spawnInput (req : CreateInputRequest) (name : Option String) (w : World)
    (hw : Unborn k w) :
    Creates k req.firstStatus (spawnInput req k name) h w fun r _ w' => k ∉ w'.streams ∧
      (∀ info, r = .ok info → info.id = k ∧ info.status = req.firstStatus) ∧
      ∀ e, r = .error e → Unborn k w' := by
  cases req with
  | udp =>
    refine Behaves.bind (Q := fun info _ w' => k ∉ w'.streams ∧ info.id = k ∧
      info.status = .listening) (Behaves.atomic fun w' hrely =>
        ⟨.aside _ rfl (launches_input w'.rt _), (hw.later hrely).absent, rfl, rfl⟩)
      fun info h w' hinfo => Behaves.ret ⟨hinfo.1, fun info' hi => ?_,
        fun e he => absurd he (by simp)⟩
    obtain rfl := Except.ok.inj hi
    exact hinfo.2
  | srt name config =>
    refine Behaves.bind (Q := fun info _ w' => k ∉ w'.streams ∧ info.id = k ∧
      info.status = srtInputStatus config) (Behaves.atomic fun w' hrely =>
        ⟨.aside _ rfl (launches_input w'.rt _), (hw.later hrely).absent, rfl, rfl⟩)
      fun info h w' hinfo => ?_
    refine Behaves.bind (Q := fun _ _ w' => k ∉ w'.streams) (Behaves.atomic fun w'' hrely =>
        ⟨.refl w'', fun hk => hinfo.1 (hrely.2.2 k hk)⟩)
      fun stateTx h w'' habsent => Behaves.ret ⟨habsent, fun info' hi => ?_,
        fun e he => absurd he (by simp)⟩
    obtain rfl := Except.ok.inj hi
    exact hinfo.2
  | spts sourceInputId programNumber fillWithNulls reqName =>
    refine Behaves.locked fun w₁ w₂ h₁ h₂ => ?_
    have hw₂ : Unborn k w₂ := (hw.later h₁).later h₂
    unfold spawnSptsSection
    split
    · exact ⟨.refl w₂, fun w₃ h₃ => ⟨(hw₂.later h₃).absent, fun _ hi => absurd hi (by simp),
        fun _ _ => hw₂.later h₃⟩⟩
    · refine ⟨.aside _ rfl (launches_input w₂.rt _), fun w₃ h₃ =>
        ⟨fun hk => hw₂.absent (h₃.2.2 k hk), fun info hi => ?_, fun _ he => absurd he (by simp)⟩⟩
      obtain rfl := Except.ok.inj hi
      exact ⟨rfl, rfl⟩

theorem creates_assignInputPort (env : Env) (req : CreateInputRequest) (w : World)
    (hw : Unborn w.nextInputId w) (hk : w.nextInputId = k) :
    Creates k status (assignInputPort env req) h w fun r _ w' =>
      (w'.nextInputId = k ∧ Unborn k w') ∧ ∀ finalReq assignedPort,
        r = .ok (finalReq, assignedPort) → finalReq.firstStatus = req.firstStatus := by
  subst hk
  have hlater : ∀ (h : Option LockMode) (w' w'' : World),
      w'.nextInputId = w.nextInputId ∧ Unborn w.nextInputId w' → creationRely h w' w'' →
      w''.nextInputId = w.nextInputId ∧ Unborn w.nextInputId w'' := by
    intro h w' w'' hw' hrely
    refine ⟨?_, hw'.2.later hrely⟩
    rw [World.nextInputId, hrely.1]
    exact hw'.1
  unfold assignInputPort
  split
  · refine Behaves.bind ((looks_findAvailablePort env).behaves (fun _ w => .refl w) hlater
      ⟨rfl, hw⟩) fun r h w' hr => ?_
    cases r with
    | error e => exact Behaves.ret ⟨hr.2, fun _ _ heq => absurd heq (by simp)⟩
    | ok port =>
      refine Behaves.ret ⟨hr.2, fun finalReq assignedPort heq => ?_⟩
      obtain ⟨rfl, _⟩ := Prod.mk.inj (Except.ok.inj heq)
      exact firstStatus_withAssignedPort req port
  · refine Behaves.ret ⟨⟨rfl, hw⟩, fun finalReq assignedPort heq => ?_⟩
    obtain ⟨rfl, _⟩ := Prod.mk.inj (Except.ok.inj heq)
    rfl

theorem creates_createInput (env : Env) (req : CreateInputRequest) (w : World)
    (hw : Unborn w.nextInputId w) :
    Creates w.nextInputId req.firstStatus (createInput env req) none w := by
  unfold createInput
  split
  · exact Behaves.ret trivial
  refine Behaves.bind (creates_assignInputPort env req w hw rfl) fun r h w₁ hr => ?_
  obtain ⟨⟨hk, hw₁⟩, hstatus⟩ := hr
  rcases r with r | ⟨finalReq, assignedPort⟩
  · exact Behaves.ret trivial
  rw [← hstatus finalReq assignedPort rfl]
  refine Behaves.bind (Q := fun r _ w' => Unborn w.nextInputId w' ∧
    ∀ id, r = .ok id → id = w.nextInputId) (Behaves.atomic fun w' hrely => ?_) fun r h w₂ hr => ?_
  · refine ⟨.of_quiet (quiet_query env _ _ w'), ?_, fun id hid => ?_⟩
    · obtain ⟨habsent, htasks⟩ := hw₁.later hrely
      refine ⟨?_, ?_⟩
      · rw [saveInputToDb, query_streams]
        exact habsent
      · rw [saveInputToDb, query_rt]
        exact htasks
    · rw [(saveInputToDb_given hid).1, ← hk, hrely.1]
      rfl
  obtain ⟨hw₂, hid⟩ := hr
  cases r with
  | error e => exact Behaves.ret trivial
  | ok id =>
  obtain rfl := hid id rfl
  refine Behaves.bind (creates_spawnInput finalReq (inputName req) w₂ hw₂) fun r h w₃ hr => ?_
  obtain ⟨habsent, hok, herror⟩ := hr
  cases r with
  | ok info =>
    obtain ⟨hid, hfirst⟩ := hok info rfl
    refine Behaves.bind (Q := fun _ _ _ => True) (Behaves.locked fun w₄ w₅ h₁ h₂ =>
      ⟨.enter info hid (fun hk => habsent (h₁.2.2 _ (h₂.2.2 _ hk))) (.inl hfirst),
        fun _ _ => trivial⟩) fun _ _ _ _ => Behaves.ret trivial
  | error e =>
    have hunborn := herror e rfl
    refine Behaves.bind (Q := fun info _ w' => info.id = w.nextInputId ∧
      Unborn w.nextInputId w') (Behaves.atomic fun w' hrely =>
        ⟨.aside [] rfl (.nil rfl rfl rfl rfl rfl), rfl, (hunborn.later hrely).absent,
          (hunborn.later hrely).tasks⟩) fun info h w₄ hinfo w₅ h₁ => ?_
    have hw₅ := hinfo.2.later h₁
    refine Behaves.bind (Q := fun _ _ _ => True) (Behaves.atomic fun w' hrely =>
      ⟨.enter info hinfo.1 (hw₅.later hrely).absent (.inr (hw₅.later hrely)), trivial⟩)
      fun _ h w₆ _ => ?_
    exact Behaves.bind (Q := fun _ _ _ => True) (Behaves.atomic fun w' _ =>
      ⟨.of_quiet (quiet_query env _ _ w'), trivial⟩) fun _ _ _ _ _ _ => trivial

/-! ## Reports -/

/-- The status that a message reports on the input. -/
def StateChange.reportOn (k : Int) : StateChange → Option StreamStatus
  | .inputStateChanged inputId newStatus _ _ => if inputId = k then some newStatus else none
  | .outputStateChanged .. => none

/-- The reports on the input that are queued or in processing. -/
def World.reports (w : World) (k : Int) : List StreamStatus :=
  w.rt.underway.filterMap fun e => e.change.reportOn k

/-- The reports come from a task of the input. -/
theorem Sends.owner_of_report {spec : TaskSpec} {change : StateChange} (h : spec.Sends change)
    {s : StreamStatus} (hs : change.reportOn k = some s) : spec.owner = .input k := by
  cases h with
  | srtOutput => exact absurd hs (by simp [StateChange.reportOn])
  | udpInput | srtInput | sptsInput =>
    simp only [StateChange.reportOn] at hs
    split at hs
    · rename_i hk
      rw [← hk]
      rfl
    · exact absurd hs (by simp)

/-- The entry of the input has the status that the message reports, or the one it had. -/
theorem applyChange_status {change : StateChange} {streams : HashMap Int InputInfo}
    {info' : InputInfo} (h : (applyChange change streams).2.lookup k = some info') :
    ∃ info, streams.lookup k = some info ∧
      info'.status = (change.reportOn k).getD info.status := by
  cases change with
  | inputStateChanged inputId newStatus connectedAt sourceAddress =>
    cases hi : streams.lookup inputId with
    | none =>
      simp only [applyChange, hi] at h
      have hne : inputId ≠ k := by
        rintro rfl
        exact absurd (hi.symm.trans h) (by simp)
      exact ⟨info', h, by simp [StateChange.reportOn, hne]⟩
    | some info =>
      simp only [applyChange, hi] at h
      rcases HashMap.lookup_insert_eq_some.mp h with ⟨rfl, rfl⟩ | ⟨hne, h⟩
      · exact ⟨info, hi, by simp [StateChange.reportOn, InputInfo.withStatus]⟩
      · exact ⟨info', h, by simp [StateChange.reportOn, Ne.symm hne]⟩
  | outputStateChanged inputId outputId newStatus connectedAt peerAddress =>
    cases hi : streams.lookup inputId with
    | none =>
      simp only [applyChange, hi] at h
      exact ⟨info', h, rfl⟩
    | some info =>
      cases ho : info.outputTasks.lookup outputId with
      | none =>
        simp only [applyChange, hi, ho] at h
        exact ⟨info', h, rfl⟩
      | some output =>
        simp only [applyChange, hi, ho] at h
        rcases HashMap.lookup_insert_eq_some.mp h with ⟨rfl, rfl⟩ | ⟨_, h⟩
        · exact ⟨info, hi, rfl⟩
        · exact ⟨info', h, rfl⟩

/-! ## The record of the reports -/

/-- The log has the reports of the run. The last one is the last that is underway, and when
none is underway, the entry has its status. -/
structure Recorded (k : Int) (w : World) (log : List StreamStatus) : Prop where
  sent : log ≠ [] → ∃ t ∈ w.rt.spawned, t.spec.owner = .input k
  order : w.reports k ≠ [] → log ≠ [] → (w.reports k).getLast? = log.getLast?
  status : w.reports k = [] → ∀ info s, w.streams.lookup k = some info →
    log.getLast? = some s → info.status = s

section Recorded

variable {w w' : World} {log : List StreamStatus}

theorem Recorded.start : Recorded k w [] :=
  ⟨fun h => absurd rfl h, fun _ h => absurd rfl h, fun _ _ _ _ hs => absurd hs (by simp)⟩

theorem reports_of_underway (h : w'.rt.underway = w.rt.underway) :
    w'.reports k = w.reports k := by
  rw [World.reports, h, World.reports]

/-- Nothing happens to the messages and to the entry. -/
theorem Recorded.of_same (h : Recorded k w log) (hs : w'.streams = w.streams)
    (hu : w'.rt.underway = w.rt.underway) (hspawned : w.rt.spawned ⊆ w'.rt.spawned) :
    Recorded k w' log := by
  refine ⟨fun hlog => ?_, ?_, ?_⟩
  · obtain ⟨t, ht, ho⟩ := h.sent hlog
    exact ⟨t, hspawned ht, ho⟩
  · rw [reports_of_underway hu]
    exact h.order
  · rw [reports_of_underway hu, hs]
    exact h.status

theorem Recorded.launches (h : Recorded k w log) {ts : List Task} (hs : w'.streams = w.streams)
    (hl : Launches ts w.rt w'.rt) : Recorded k w' log :=
  h.of_same hs hl.moves.underway hl.moves.later

/-- The input is entered in time. -/
theorem Recorded.enter (h : Recorded k w log) {info : InputInfo} (hid : info.id = k)
    (hstatus : info.status = status ∨ Unborn k w)
    (htime : ∀ s, log.getLast? = some s → w.reports k ≠ [] ∨ s = status) :
    Recorded k (insertInput info w).2 log := by
  refine ⟨h.sent, h.order, fun hnone info' s hi hlast => ?_⟩
  obtain rfl : info' = info := by
    rw [← hid] at hi
    exact (Option.some.inj ((AList.lookup_insert w.streams).symm.trans hi)).symm
  have hs : s = status := (htime s hlast).resolve_left (fun hne => hne hnone)
  rcases hstatus with hfirst | hunborn
  · exact hfirst.trans hs.symm
  · have hne : log ≠ [] := by
      rintro rfl
      exact absurd hlast (by simp)
    obtain ⟨t, ht, ho⟩ := h.sent hne
    exact absurd ho (hunborn.tasks t ht)

theorem receive_spec (w : World) : (receive w).2.streams = w.streams ∧
    (receive w).2.rt.underway = w.rt.underway ∧ (receive w).2.rt.spawned = w.rt.spawned := by
  unfold receive
  split
  · rename_i e queue hp hq
    refine ⟨rfl, ?_, rfl⟩
    simp [Runtime.underway, hp, hq]
  · exact ⟨rfl, rfl, rfl⟩

theorem Recorded.receive (h : Recorded k w log) : Recorded k (receive w).2 log := by
  obtain ⟨hs, hu, hspawned⟩ := receive_spec w
  refine h.of_same hs hu ?_
  rw [hspawned]
  exact List.Subset.refl _

/-- A message is applied. When it was the last report underway, it is the last of the log. -/
theorem Recorded.apply (h : Recorded k w log) : Recorded k (applyProcessing w).2 log := by
  unfold applyProcessing
  cases hp : w.rt.processing with
  | none => exact h
  | some e =>
    have hreports : w.reports k = (e.change.reportOn k).toList ++
        w.rt.queue.filterMap fun e => e.change.reportOn k := by
      simp only [World.reports, Runtime.underway, hp, Option.toList_some, List.singleton_append,
        List.filterMap_cons]
      cases e.change.reportOn k <;> rfl
    refine ⟨h.sent, fun hne hlog => ?_, fun hnone info' s hi hlast => ?_⟩
    · have hne' : (w.rt.queue.filterMap fun e => e.change.reportOn k) ≠ [] := hne
      have hlast := h.order (by rw [hreports]; simp [hne']) hlog
      rw [hreports, List.getLast?_append_of_ne_nil _ hne'] at hlast
      exact hlast
    · have hnone' : (w.rt.queue.filterMap fun e => e.change.reportOn k) = [] := hnone
      rw [hnone', List.append_nil] at hreports
      obtain ⟨info, hinfo, hs⟩ := applyChange_status hi
      cases hreport : e.change.reportOn k with
      | none =>
        rw [hreport] at hreports hs
        exact hs.trans (h.status hreports info s hinfo hlast)
      | some s' =>
        rw [hreport] at hreports hs
        have hlog : log ≠ [] := by
          rintro rfl
          exact absurd hlast (by simp)
        have horder := h.order (by rw [hreports]; simp) hlog
        rw [hreports, hlast] at horder
        obtain rfl : s' = s := by simpa using horder
        exact hs

theorem reports_send (w : World) (e : Envelope) :
    (w.send e).reports k = w.reports k ++ (e.change.reportOn k).toList := by
  simp only [World.reports, Runtime.underway, World.send, ← List.append_assoc,
    List.filterMap_append, List.filterMap_cons, List.filterMap_nil]
  cases e.change.reportOn k <;> rfl

/-- A message is sent. A report is the last of the queue and of the log. -/
theorem Recorded.send (h : Recorded k w log) {e : Envelope}
    (hrunning : w.rt.Running e.sender) (hsends : e.sender.spec.Sends e.change) :
    Recorded k (w.send e) (log ++ (e.change.reportOn k).toList) := by
  have hreports : (w.send e).reports k = w.reports k ++ (e.change.reportOn k).toList :=
    reports_send w e
  cases hreport : e.change.reportOn k with
  | none =>
    rw [hreport, Option.toList_none, List.append_nil] at hreports
    rw [Option.toList_none, List.append_nil]
    refine ⟨h.sent, ?_, ?_⟩
    · rw [hreports]
      exact h.order
    · rw [hreports]
      exact h.status
  | some s =>
    rw [hreport] at hreports
    refine ⟨fun _ => ⟨e.sender, hrunning.1, Sends.owner_of_report hsends hreport⟩,
      fun _ _ => ?_, fun hnone => ?_⟩
    · rw [hreports]
      simp
    · rw [hreports] at hnone
      exact absurd hnone (by simp)

end Recorded

end StreamGateway
