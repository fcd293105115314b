import StreamGateway.ConnectionGauges
import StreamGateway.OutputLosses
import StreamGateway.OutputRecords
import StreamGateway.Updates

/-!
# Connection times

A stream that is not connected should have no connection time. A message clears the time only
when the new status is not active, and the operations that set the status of an input themselves
do not write the time at all. So the times follow the statuses in the runs in which no stream
leaves `connected` in one of these ways.
-/
namespace StreamGateway

open Prog

def InputInfo.TimeFollows (info : InputInfo) : Prop :=
  info.status.isConnected = false → info.connectedAt = none

def OutputInfo.TimeFollows (o : OutputInfo) : Prop :=
  o.status.isConnected = false → o.connectedAt = none

/-- As the documentation of the fields says. -/
structure World.TimesFollow (w : World) : Prop where
  inputs : w.Each fun _ info => info.TimeFollows
  outputs : w.EachOutput OutputInfo.TimeFollows

/-- A message with an active status other than `connected` is not for a stream that has a
connection time. -/
def StateChange.ClearsTime (streams : HashMap Int InputInfo) : StateChange → Prop
  | .inputStateChanged inputId newStatus _ _ => newStatus.isActive = true →
      newStatus.isConnected = false → ∀ info, streams.lookup inputId = some info →
        info.connectedAt = none
  | .outputStateChanged inputId outputId newStatus _ _ => newStatus.isActive = true →
      newStatus.isConnected = false → ∀ info o, streams.lookup inputId = some info →
        info.outputTasks.lookup outputId = some o → o.connectedAt = none

/-- Such messages are not applied, and an input that is stopped or started again has no
connection time. -/
structure World.ClearsTimes (w w' : World) : Prop where
  messages : w' = (applyProcessing w).2 → ∀ e, w.rt.processing = some e →
    e.change.ClearsTime w.streams
  stops : ∀ i info, w' = (stopInputSection i w).2 → w.streams.lookup i = some info →
    info.status ≠ .stopped → info.connectedAt = none
  restarts : ∀ env plan info, plan.config.isSpts = false → w' = (restartSection env plan w).2 →
    w.streams.lookup plan.inputId = some info → info.connectedAt = none
  installs : ∀ env i new info, w' = (sptsInstallSection env i new w).2 →
    w.streams.lookup i = some info → info.connectedAt = none

/-! ## Messages -/

theorem InputInfo.TimeFollows.withStatus {info : InputInfo} {status : StreamStatus}
    (h : status.isActive = true → status.isConnected = false → info.connectedAt = none)
    (connectedAt : Option ℕ) (address : Option String) :
    (info.withStatus status connectedAt address).TimeFollows := by
  intro hc
  simp only [InputInfo.withStatus, updateMetadata] at hc ⊢
  rw [if_neg (by simp [hc])]
  split
  · next ha => exact h ha hc
  · rfl

theorem OutputInfo.TimeFollows.withStatus {o : OutputInfo} {status : StreamStatus}
    (h : status.isActive = true → status.isConnected = false → o.connectedAt = none)
    (connectedAt : Option ℕ) (address : Option String) :
    (o.withStatus status connectedAt address).TimeFollows := by
  intro hc
  simp only [OutputInfo.withStatus, updateMetadata] at hc ⊢
  rw [if_neg (by simp [hc])]
  split
  · next ha => exact h ha hc
  · rfl

section Steps

variable {w w' : World}

theorem inputTimes_apply (hw : w.Each fun _ info => info.TimeFollows)
    (hc : ∀ e, w.rt.processing = some e → e.change.ClearsTime w.streams) :
    (applyProcessing w).2.Each fun _ info => info.TimeFollows := by
  rcases applyProcessing_streams w with hs | ⟨e, he, hs⟩
  · exact hw.of_eq hs
  have hclears := hc e he
  rcases applyChange_cases e.change w.streams with happly | ⟨i, info, info', hi, happly, hinfo⟩
  · exact hw.of_eq (hs.trans happly)
  refine hw.insert (hs.trans happly) ?_
  rcases hinfo with ⟨status, connectedAt, address, hchange, rfl⟩ | ⟨_, _, _, _, _, _, _, rfl⟩
  · rw [hchange] at hclears
    exact .withStatus (fun ha hc => hclears ha hc info hi) connectedAt address
  · exact hw i info hi

theorem outputTimes_apply (hw : w.EachOutput OutputInfo.TimeFollows)
    (hc : ∀ e, w.rt.processing = some e → e.change.ClearsTime w.streams) :
    (applyProcessing w).2.EachOutput OutputInfo.TimeFollows := by
  rcases applyProcessing_streams w with hs | ⟨e, he, hs⟩
  · exact hw.of_eq hs
  have hclears := hc e he
  rcases applyChange_cases e.change w.streams with happly | ⟨i, info, info', hi, happly, hinfo⟩
  · exact hw.of_eq (hs.trans happly)
  refine hw.insert (hs.trans happly) ?_
  rcases hinfo with ⟨_, _, _, _, rfl⟩ | ⟨k, o, status, connectedAt, address, hchange, ho, rfl⟩
  · exact (hw i info hi).of_eq rfl
  · rw [hchange] at hclears
    exact (hw i info hi).insert
      (.withStatus (fun ha hc => hclears ha hc info o hi ho) connectedAt address) rfl

end Steps

/-! ## Calls -/

theorem recreateTask_connectedAt (plan : StartPlan) (info : InputInfo) (rt : Runtime) :
    (recreateTask plan info rt).1.connectedAt = info.connectedAt := by
  unfold recreateTask
  split <;> rfl

theorem restartStopped_connectedAt (env : Env) (info : InputInfo) (rt : Runtime) :
    (restartStopped env info rt).1.connectedAt = info.connectedAt := by
  rw [restartStopped_frame]

theorem InputInfo.TimeFollows.of_none {info : InputInfo} (h : info.connectedAt = none) :
    info.TimeFollows := fun _ => h

theorem InputInfo.TimeFollows.of_eq {info info' : InputInfo} (h : info.TimeFollows)
    (hstatus : info'.status = info.status) (htime : info'.connectedAt = info.connectedAt) :
    info'.TimeFollows := by
  intro hc
  rw [htime]
  exact h (hstatus ▸ hc)

section Calls

variable {edits : Prop} {k k' : Stage} {w w' : World}

theorem Update.inputTimes (hu : Update edits k k' w w') (hc : w.ClearsTimes w')
    (hw : w.Each fun _ info => info.TimeFollows) :
    w'.Each fun _ info => info.TimeFollows := by
  have hentry : ∀ {i info info'} {w' : World}, w.streams.lookup i = some info →
      w'.streams = w.streams.insert i info' → info'.status = info.status →
      info'.connectedAt = info.connectedAt → w'.Each fun _ info => info.TimeFollows :=
    fun hi hs hstatus htime => hw.insert hs ((hw _ _ hi).of_eq hstatus htime)
  cases hu with
  | quiet hq => exact hw.of_eq hq.streams
  | start hs =>
    cases hs with
    | draw | refuse | subscribe | analyse => exact hw
    | insert i a =>
      rcases insertAnalysis_ok i a w with hw' | ⟨info, hi, hw'⟩ <;> rw [hw']
      · exact hw
      · exact hentry hi rfl rfl rfl
  | launch i t _ _ hs => exact hw.of_eq hs
  | tend launched aborted ht =>
    rcases ht.streams with hs | ⟨i, info, info', hi, hs, hsame⟩
    · exact hw.of_eq hs
    · exact hentry hi hs hsame.status hsame.connectedAt
  | stopAnalysis i analysisType =>
    rcases stopAnalysisSection_ok i analysisType w with hw' | ⟨info, _, _, hi, _, hw'⟩ <;>
      rw [hw']
    · exact hw
    · exact hentry hi rfl rfl rfl
  | stopAllAnalysis i =>
    rcases stopAllAnalysisSection_ok i w with hw' | ⟨info, hi, hw'⟩ <;> rw [hw']
    · exact hw
    · exact hentry hi rfl rfl rfl
  | restart env plan hspts =>
    have hnone := hc.restarts env plan
    unfold restartSection at hnone ⊢
    split
    · exact hw
    · rename_i info hi
      refine hw.insert rfl (.of_none ((restartStopped_connectedAt env _ _).trans ?_))
      exact (recreateTask_connectedAt plan info w.rt).trans (hnone info hspts (by rw [hi]) hi)
  | install env i new =>
    have hnone := hc.installs env i new
    unfold sptsInstallSection at hnone ⊢
    split
    · exact hw
    · rename_i info hi
      refine hw.insert rfl (.of_none ((restartStopped_connectedAt env _ _).trans ?_))
      exact hnone info (by rw [hi]) hi
  | stopInput i =>
    have hnone := hc.stops i
    unfold stopInputSection at hnone ⊢
    split
    · exact hw
    rename_i info hi
    split
    · exact hw
    · rename_i hstatus
      exact hw.insert rfl (.of_none (hnone info (by rw [hi]) hi hstatus))
  | removeInput i =>
    rcases removeInputSection_ok i w with hw' | ⟨_, _, _, hs, _⟩
    · rwa [hw']
    · exact hw.erase hs
  | insertInput info _ hblank => exact hw.insert rfl (.of_none hblank.connectedAt)
  | insertInputs loaded _ hblank =>
    exact hw.extend rfl fun i info hi => .of_none (hblank i info hi).connectedAt
  | receive => exact hw.of_eq (receive_streams w)
  | apply => exact inputTimes_apply hw (hc.messages rfl)

/-- A UDP output is made connected with a time, an SRT output without. -/
theorem OutputInfo.New.timeFollows {o : OutputInfo} (h : o.New) : o.TimeFollows := by
  cases h with
  | udp => exact fun hc => absurd hc (by simp [udpOutputInfo, StreamStatus.isConnected])
  | srt => exact fun _ => rfl

theorem Act.outputTimes {rely : Guarded World} {ops : Option Operation → Prop}
    {h : Option LockMode} (ha : Act rely ops h w w') (hc : w.ClearsTimes w')
    (hw : w.EachOutput OutputInfo.TimeFollows) : w'.EachOutput OutputInfo.TimeFollows := by
  refine ha.eachOutput (fun _ hnew => hnew.timeFollows) (fun happly => ?_) hw
  have happlied := outputTimes_apply hw (hc.messages happly)
  rwa [← happly] at happlied

end Calls

/-! ## Runs -/

theorem outputTimes_fits : Pool.Fits (World.EachOutput OutputInfo.TimeFollows) anyRely
    (Act anyRely fun _ => True) GatewayCall TaskStep fun a b => a.shared.ClearsTimes b.shared where
  refl := fun _ => trivial
  calls := fun hp _ => hp.acts _
  keeps := by
    rintro h w w' hw (ha | ho) hc
    · exact ha.outputTimes hc hw
    · exact hw.of_eq ho.streams
  relies := fun _ _ _ _ => trivial

theorem inputTimes_maintained : Pool.Maintains (Update True) .idle GatewayCall TaskStep
    World.ClearsTimes fun _ w => w.Each fun _ info => info.TimeFollows where
  calls := fun _ hp => hp.updates.mono fun _ _ h => h.2
  arrives := fun _ _ hw => hw
  acts := fun _ _ _ _ _ _ hw hu hc => hu.inputTimes hc hw
  outside := fun _ _ _ hw ho _ => hw.of_eq ho.streams

/-- In the runs in which no stream leaves `connected` in such a way, the connection times follow
the statuses in every state. -/
theorem connectedAt_follows {env : Env} {db : Database} {w : World}
    {threads : List (Thread World)} (hruns : Pool.Runs GatewayCall TaskStep World.ClearsTimes
      (bootPool env db) ⟨w, threads⟩) : w.TimesFollow := by
  have hboot : ∀ {P : Int → InputInfo → Prop}, (World.boot db).Each P :=
    fun _ _ hi => absurd hi (by simp [World.boot])
  obtain ⟨_, _, hinputs⟩ := inputTimes_maintained.runs (tracked_bootPool env db) hboot hruns
  exact ⟨hinputs, ((behaving_bootPool _ env db trivial hboot).runs outputTimes_fits hruns).inv⟩

/-! ## A first connection -/

/-- No stream has a connection time. -/
def World.untimed (w : World) : Bool :=
  w.streams.toPairs.all fun e =>
    e.2.connectedAt = none ∧ e.2.outputTasks.toPairs.all fun o => o.2.connectedAt = none

theorem clearsTimes_of_untimed {w w' : World} (h : w.untimed = true) : w.ClearsTimes w' := by
  have hinput : ∀ i info, w.streams.lookup i = some info → info.connectedAt = none ∧
      ∀ k o, info.outputTasks.lookup k = some o → o.connectedAt = none := by
    intro i info hi
    have hinfo := of_decide_eq_true (List.all_eq_true.mp h (i, info) (HashMap.mem_toPairs.mpr hi))
    exact ⟨hinfo.1, fun k o ho => of_decide_eq_true
      (List.all_eq_true.mp hinfo.2 (k, o) (HashMap.mem_toPairs.mpr ho))⟩
  refine ⟨fun _ e _ => ?_, fun i info _ hi _ => (hinput i info hi).1,
    fun _ plan info _ _ hi => (hinput plan.inputId info hi).1,
    fun _ i _ info _ hi => (hinput i info hi).1⟩
  cases e.change with
  | inputStateChanged i => exact fun _ _ info hi => (hinput i info hi).1
  | outputStateChanged i k => exact fun _ _ info o hi ho => (hinput i info hi).2 k o ho

/-- The first packet has arrived, and its message has been applied. -/
def firstConnectedWorld : World :=
  (applyProcessing (receive (runningWorld.send firstPacketMessage)).2).2

theorem connectedAt_follows_first : firstConnectedWorld.TimesFollow := by
  have hclears : ∀ w w' : World, w.untimed = true → w.ClearsTimes w' :=
    fun _ _ => clearsTimes_of_untimed
  have hprocess : Pool.Step GatewayCall TaskStep
      ⟨runningWorld.send firstPacketMessage, [idle, idle]⟩
      ⟨runningWorld.send firstPacketMessage, [idle, idle, ⟨processMessage, none⟩]⟩ :=
    .call (.inr rfl)
  have hcreated : Pool.Runs GatewayCall TaskStep World.ClearsTimes
      (bootPool localEnv emptyDatabase) ⟨runningWorld, [idle, idle]⟩ :=
    runs_creation hclears rfl (.inl ⟨localEnv, _, rfl⟩) (hclears _ _ (by decide +kernel)) rfl
  have hsent := hcreated.tail ⟨.outside sends_firstPacket, hclears _ _ (by decide +kernel)⟩
  exact connectedAt_follows ((hsent.tail ⟨hprocess, hclears _ _ (by decide +kernel)⟩).trans
    (Pool.runs_of_advances hclears [2, 2, 2] rfl))

/-- A stopped input keeps its connection time. -/
theorem stopInput_keeps_connectedAt : ¬ ∀ w, Reachable w → w.TimesFollow := by
  intro h
  have hrests : Rests connectedWorld :=
    (rests_runningWorld.task sends_firstPacket).call (.inr rfl) rfl
  have hstopped := (@Rests.after localEnv _ hrests (.stopInput 1) (by decide +kernel)).reachable
  have hview : ((connectedWorld.after ((Operation.stopInput 1).prog localEnv)).streams.lookup
      1).map (fun info => (info.status, info.connectedAt)) = some (.stopped, some 0) := by
    decide +kernel
  obtain ⟨info, hi, hinfo⟩ := Option.map_eq_some_iff.mp hview
  obtain ⟨hstatus, htime⟩ := Prod.mk.inj hinfo
  have hnone := (h _ hstopped).inputs 1 info hi (by rw [hstatus]; rfl)
  rw [htime] at hnone
  exact absurd hnone (by simp)

end StreamGateway
