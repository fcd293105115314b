import StreamGateway.OutputOwnership
import StreamGateway.StaleMessages

/-!
# The records of running outputs

Two functions make the records in `output_tasks`, and afterwards only the processor writes to
them. So a property of new records that every status message keeps holds of every record in
every reachable state.
-/
namespace StreamGateway

open Prog

/-- A record as it is made when the task of the output is spawned. -/
inductive OutputInfo.New : OutputInfo → Prop
  | udp (destinationAddr : String) (input : InputInfo) (outputId : Int)
      (finalName bindHost : Option String) (multicastConfig : Option MulticastOutputConfig)
      (stateTx : Option StateChangeSender) (abortHandle : Task) (now : ℕ) :
      New (udpOutputInfo destinationAddr input outputId finalName bindHost multicastConfig
        stateTx abortHandle now)
  | srt (inputId : Int) (cfg : SrtOutputConfig) (outputId : Int) (finalName : Option String)
      (stateTx : Option StateChangeSender) (abortHandle : Task) (now : ℕ) :
      New (srtOutputInfo inputId cfg outputId finalName stateTx abortHandle now)

/-- Every record of the entry has the property. -/
def InputInfo.EachOutput (P : OutputInfo → Prop) (info : InputInfo) : Prop :=
  ∀ k o, info.outputTasks.lookup k = some o → P o

section Entries

variable {P : OutputInfo → Prop} {info info' : InputInfo} {rt rt' : Runtime} {env : Env}

theorem InputInfo.EachOutput.of_eq (h : info.EachOutput P)
    (ho : info'.outputTasks = info.outputTasks) : info'.EachOutput P := by
  intro k o hk
  rw [ho] at hk
  exact h k o hk

theorem InputInfo.EachOutput.of_empty (ho : info.outputTasks = ∅) : info.EachOutput P := by
  intro k o hk
  rw [ho] at hk
  exact absurd hk (by simp)

theorem InputInfo.EachOutput.insert (h : info.EachOutput P) {k : Int} {o : OutputInfo} (hP : P o)
    (ho : info'.outputTasks = info.outputTasks.insert k o) : info'.EachOutput P := by
  intro k' o' hk'
  rw [ho] at hk'
  rcases HashMap.lookup_insert_eq_some.mp hk' with ⟨_, rfl⟩ | ⟨_, hk'⟩
  · exact hP
  · exact h k' o' hk'

theorem InputInfo.EachOutput.erase (h : info.EachOutput P) {k : Int}
    (ho : info'.outputTasks = info.outputTasks.erase k) : info'.EachOutput P := by
  intro k' o' hk'
  rw [ho] at hk'
  exact h k' o' (HashMap.lookup_erase_eq_some.mp hk').2

theorem new_createUdpOutput {destinationAddr : String} {outputId : Int}
    {name bindHost : Option String} {multicastConfig : Option MulticastOutputConfig}
    {stateTx : Option StateChangeSender} {output : OutputInfo}
    (h : createUdpOutput env destinationAddr info outputId name bindHost multicastConfig stateTx
      rt = .ok (output, rt')) : output.New := by
  obtain ⟨_, _, rfl, _⟩ := createUdpOutput_ok h
  exact .udp _ _ _ _ _ _ _ _ _

theorem new_createSrtOutput (inputId : Int) (cfg : SrtOutputConfig) (input : InputInfo)
    (outputId : Int) (name : Option String) (stateTx : Option StateChangeSender) (rt : Runtime) :
    (createSrtOutput inputId cfg input outputId name stateTx rt).1.New :=
  .srt _ _ _ _ _ _ _

theorem startOutputInternal_new {outputId : Int} {config : CreateOutputRequest}
    (h : startOutputInternal env info outputId config rt = .ok (info', rt')) :
    ∃ output : OutputInfo, output.New ∧
      info' = { info with outputTasks := info.outputTasks.insert outputId output } := by
  cases config with
  | udp =>
    simp only [startOutputInternal] at h
    split at h
    · exact absurd h (by simp)
    · rename_i output rt'' hc
      obtain ⟨rfl, _⟩ := Prod.mk.inj (Except.ok.inj h)
      exact ⟨output, new_createUdpOutput hc, rfl⟩
  | srt inputId name config =>
    obtain ⟨rfl, _⟩ := Prod.mk.inj (Except.ok.inj h)
    exact ⟨_, new_createSrtOutput inputId config info outputId name rt.stateChangeTx rt, rfl⟩

theorem InputInfo.EachOutput.startOutputs (hnew : ∀ o : OutputInfo, o.New → P o)
    {outputs : List (Int × CreateOutputRequest)} (h : info.EachOutput P) :
    (startOutputs env outputs info rt).1.EachOutput P := by
  refine startOutputs_keeps (P := fun input _ => input.EachOutput P)
    (fun k config input rt input' rt' _ hinput hr => ?_) h
  obtain ⟨o, ho, rfl⟩ := startOutputInternal_new hr
  exact hinput.insert (hnew o ho) rfl

theorem InputInfo.EachOutput.restartStopped (hnew : ∀ o : OutputInfo, o.New → P o)
    (h : info.EachOutput P) : (restartStopped env info rt).1.EachOutput P := by
  have hdrained : InputInfo.EachOutput P { info with stoppedOutputs := ∅ } := h
  exact hdrained.startOutputs hnew

theorem InputInfo.EachOutput.recreateTask (h : info.EachOutput P) (plan : StartPlan) :
    (recreateTask plan info rt).1.EachOutput P := by
  unfold StreamGateway.recreateTask
  split <;> exact h

theorem spawnOutput_new {req : CreateOutputRequest} {inputId outputId : Int}
    {destinationAddr : String} {output : OutputInfo}
    (h : spawnOutput env req info inputId outputId destinationAddr rt = .ok (output, rt')) :
    output.New := by
  cases req with
  | udp => exact new_createUdpOutput h
  | srt inputId' name config =>
    obtain ⟨rfl, _⟩ := Prod.mk.inj (Except.ok.inj h)
    exact new_createSrtOutput inputId config info outputId name rt.stateChangeTx rt

theorem recreateOutput_new {inputId id : Int} {row : OutputRow} {output : OutputInfo}
    (h : recreateOutput env inputId info id row rt = .ok (some (output, rt'))) : output.New := by
  rcases recreateOutput_some h with hr | ⟨config, hr⟩
  · exact new_createUdpOutput hr
  · obtain ⟨rfl, _⟩ := Prod.mk.inj hr
    exact new_createSrtOutput inputId config info id row.name rt.stateChangeTx rt

theorem InputInfo.EachOutput.loadOutputs (hnew : ∀ o : OutputInfo, o.New → P o) {inputId : Int}
    {outputs : List (Int × OutputRow)} (h : info.EachOutput P) :
    (loadOutputs env inputId outputs info rt).2.1.EachOutput P := by
  refine loadOutputs_keeps (P := fun input _ => input.EachOutput P)
    (fun id row input rt input' rt' _ hinput hload => ?_) h
  cases hload with
  | skipped | stopped => exact hinput
  | running hr => exact hinput.insert (hnew _ (recreateOutput_new hr)) rfl

end Entries

/-! ## Steps -/

section Steps

variable {P : OutputInfo → Prop} {w w' : World}

/-- Every record of every entry has the property. -/
abbrev World.EachOutput (P : OutputInfo → Prop) (w : World) : Prop :=
  w.Each fun _ info => info.EachOutput P

namespace World.EachOutput

theorem restartSection (hw : w.EachOutput P) (hnew : ∀ o : OutputInfo, o.New → P o) (env : Env)
    (plan : StartPlan) : (restartSection env plan w).2.EachOutput P := by
  unfold StreamGateway.restartSection
  split
  · exact hw
  · rename_i info hi
    have hinfo : (recreateTask plan info w.rt).1.EachOutput P := (hw _ info hi).recreateTask plan
    exact hw.insert rfl (hinfo.restartStopped hnew)

theorem sptsInstallSection (hw : w.EachOutput P) (hnew : ∀ o : OutputInfo, o.New → P o)
    (env : Env) (i : Int) (new : InputInfo) : (sptsInstallSection env i new w).2.EachOutput P := by
  unfold StreamGateway.sptsInstallSection
  split
  · exact hw
  · rename_i info hi
    have hinfo : InputInfo.EachOutput P { info with
        taskHandle := new.taskHandle
        packetTx := new.packetTx
        status := .listening
        startedAt := some w.rt.clock } := hw i info hi
    exact hw.insert rfl (hinfo.restartStopped hnew)

theorem stopInputSection (hw : w.EachOutput P) (i : Int) :
    (stopInputSection i w).2.EachOutput P := by
  unfold StreamGateway.stopInputSection
  split
  · exact hw
  split
  · exact hw
  · exact hw.insert rfl (.of_empty rfl)

theorem startOutputSection (hw : w.EachOutput P) (hnew : ∀ o : OutputInfo, o.New → P o)
    (env : Env) (i k : Int) : (startOutputSection env i k w).2.EachOutput P := by
  unfold StreamGateway.startOutputSection
  split
  · exact hw
  rename_i info hi
  split
  · exact hw
  split
  · dsimp only
    split
    · rename_i info' rt' hstart
      obtain ⟨o, ho, rfl⟩ := startOutputInternal_new hstart
      exact hw.insert rfl ((hw i info hi).insert (hnew o ho) rfl)
    · exact hw.insert rfl (hw i info hi)
  · split <;> exact hw

theorem stopOutputSection (hw : w.EachOutput P) (i k : Int) :
    (stopOutputSection i k w).2.EachOutput P := by
  unfold StreamGateway.stopOutputSection
  split
  · exact hw
  rename_i info hi
  split
  · exact hw.insert rfl ((hw i info hi).erase rfl)
  · split <;> exact hw

theorem setStoppedConfig (hw : w.EachOutput P) (i k : Int) (merged : CreateOutputRequest) :
    (setStoppedConfig i k merged w).2.EachOutput P := by
  unfold StreamGateway.setStoppedConfig
  split
  · exact hw
  · rename_i info hi
    exact hw.insert rfl (hw i info hi)

theorem removeInputSection (hw : w.EachOutput P) (i : Int) :
    (removeInputSection i w).2.EachOutput P := by
  unfold StreamGateway.removeInputSection
  split
  · exact hw
  · exact hw.erase rfl

theorem removeOutputSection (hw : w.EachOutput P) (i k : Int) :
    (removeOutputSection i k w).2.EachOutput P := by
  unfold StreamGateway.removeOutputSection
  split
  · exact hw
  rename_i info hi
  split
  · exact hw.insert rfl ((hw i info hi).erase rfl)
  · split
    · exact hw.insert rfl (hw i info hi)
    · exact hw

theorem installOutputSection (hw : w.EachOutput P) (hnew : ∀ o : OutputInfo, o.New → P o)
    (env : Env) (req : CreateOutputRequest) (i k : Int) (destination : String) :
    (installOutputSection env req i k destination w).2.EachOutput P := by
  unfold StreamGateway.installOutputSection
  split
  · exact hw
  split
  · exact hw
  rename_i output rt' hspawn
  split
  · exact hw.of_eq rfl
  · rename_i target htarget
    exact hw.insert rfl ((hw _ target htarget).insert (hnew _ (spawnOutput_new hspawn)) rfl)

theorem loadGroupSection (hw : w.EachOutput P) (hnew : ∀ o : OutputInfo, o.New → P o)
    (env : Env) (i : Int) (outputs : List (Int × OutputRow)) :
    (loadGroupSection env i outputs w).2.EachOutput P := by
  unfold StreamGateway.loadGroupSection
  split
  · exact hw
  · rename_i info hi
    exact hw.insert rfl ((hw i info hi).loadOutputs hnew)

end World.EachOutput

/-- Only the application of a message writes to a record. -/
theorem Act.eachOutput {rely : Guarded World} {ops : Option Operation → Prop}
    {h : Option LockMode} (hnew : ∀ o : OutputInfo, o.New → P o) (ha : Act rely ops h w w')
    (happly : w' = (applyProcessing w).2 → w'.EachOutput P) (hw : w.EachOutput P) :
    w'.EachOutput P := by
  cases ha with
  | quiet hs => exact hw.of_eq hs
  | launch _ _ _ hs => exact hw.of_eq hs
  | edit i info info' _ hi hs hsame => exact hw.insert hs ((hw i info hi).of_eq hsame.outputTasks)
  | restart env plan => exact hw.restartSection hnew env plan
  | install env i new => exact hw.sptsInstallSection hnew env i new
  | stopInput i => exact hw.stopInputSection i
  | startOutput env i k => exact hw.startOutputSection hnew env i k
  | stopOutput i k => exact hw.stopOutputSection i k
  | setStopped env i k req merged => exact hw.setStoppedConfig i k merged
  | removeInput i => exact hw.removeInputSection i
  | removeOutput i k => exact hw.removeOutputSection i k
  | insertInput called info _ hno => exact hw.insert rfl (.of_empty hno.outputTasks)
  | insertInputs loaded _ hno =>
    exact hw.extend rfl fun i info hi => .of_empty (hno i info hi).outputTasks
  | installOutput env called req i k row destination =>
    exact hw.installOutputSection hnew env req i k destination
  | loadGroup env i => exact hw.loadGroupSection hnew env i _
  | receive => exact hw.of_eq (receive_streams _)
  | apply => exact happly rfl
  | saveInput => exact hw.of_eq (query_streams _ _ _ _)
  | inputStatus => exact hw.of_eq (query_streams _ _ _ _)
  | updateInput => exact hw.of_eq (query_streams _ _ _ _)
  | deleteInput env i => exact hw.of_eq (quiet_deleteInputFromDb env i _).streams
  | saveOutput => exact hw.of_eq (quiet_saveOutputToDb _ _ _ _ _ _ _ _).streams
  | outputStatus => exact hw.of_eq (query_streams _ _ _ _)
  | updateOutput => exact hw.of_eq (query_streams _ _ _ _)
  | deleteOutput => exact hw.of_eq (query_streams _ _ _ _)

theorem underway_sptsInstallSection (env : Env) (i : Int) (new : InputInfo) (w : World) :
    ∀ e ∈ (sptsInstallSection env i new w).2.rt.underway, e ∈ w.rt.underway := by
  intro e he
  rcases sptsInstallSection_ok env i new w with hw | ⟨_, _, _, _, _, _, _, _, _, hts⟩
  · rwa [hw] at he
  · rwa [hts.launches.moves.underway] at he

theorem Section.underway {k : SectionKind} (hs : Section k w w') :
    ∀ e ∈ w'.rt.underway, e ∈ w.rt.underway := by
  intro e he
  cases hs with
  | spawn t hl | create t hl => rwa [hl.moves.underway] at he
  | tend i info info' launched aborted _ _ _ _ hm => rwa [hm.underway] at he
  | analyse i a =>
    rwa [insertAnalysis_rt] at he
  | restart i info info' t launched _ _ _ _ _ hl => rwa [hl.moves.underway] at he
  | install env i new => exact underway_sptsInstallSection env i new w e he
  | stop i =>
    rcases stopInputSection_ok i w with ⟨_, hw⟩ | ⟨_, _, _, _, _, _, _, _, _, _, ha, _⟩
    · rwa [hw] at he
    · rwa [ha.moves.underway] at he
  | remove i =>
    rcases removeInputSection_ok i w with hw | ⟨_, _, _, _, ha⟩
    · rwa [hw] at he
    · rwa [ha.moves.underway] at he
  | enter | load => exact he
  | receive => rwa [receive_underway] at he
  | apply => exact applyProcessing_underway w e he

theorem Quiet.underway (hq : Quiet w w') : ∀ e ∈ w'.rt.underway, e ∈ w.rt.underway := by
  intro e he
  rwa [hq.runtime.moves.underway] at he

theorem Sections.underway {ks : List SectionKind} (hs : Sections ks w w') :
    ∀ e ∈ w'.rt.underway, e ∈ w.rt.underway := by
  rcases hs with hq | ⟨k, _, hs⟩
  · exact hq.underway
  · exact hs.underway

/-- Calls send no messages. -/
theorem Act.underway {rely : Guarded World} {ops : Option Operation → Prop}
    {h : Option LockMode} (ha : Act rely ops h w w') :
    ∀ e ∈ w'.rt.underway, e ∈ w.rt.underway := by
  intro e he
  cases ha with
  | quiet _ hl | launch _ hl => rwa [hl.moves.underway] at he
  | edit _ _ _ _ _ _ _ haborts => rwa [haborts.moves.underway] at he
  | restart env plan hspts => exact (section_restart env hspts w).underway e he
  | install env i new => exact underway_sptsInstallSection env i new w e he
  | stopInput i => exact (Section.stop i).underway e he
  | startOutput env i k => exact (section_startOutput env i k w).underway e he
  | stopOutput i k => exact (section_stopOutput i k w).underway e he
  | setStopped env i k req merged => exact (section_setStoppedConfig i k merged w).underway e he
  | removeInput i => exact (Section.remove i).underway e he
  | removeOutput i k => exact (section_removeOutput i k w).underway e he
  | insertInput | insertInputs => exact he
  | installOutput env called req i k row destination =>
    exact (section_installOutput env req i k destination w).underway e he
  | @loadGroup _ _ _ w₀ _ env i =>
    have hids := w₀.db.outputs.nodup_keys_filter fun o => o.2.inputId = i
    exact (section_loadGroup env i _ hids w).underway e he
  | receive => exact Section.receive.underway e he
  | apply => exact Section.apply.underway e he
  | saveInput | inputStatus | updateInput | outputStatus | updateOutput | deleteOutput =>
    exact (quiet_query _ _ _ w).underway e he
  | deleteInput env i => exact (quiet_deleteInputFromDb env i w).underway e he
  | saveOutput => exact (quiet_saveOutputToDb _ _ _ _ _ _ _ w).underway e he

end Steps

/-! ## Runs -/

/-- A UDP output has no explicit port in its configuration, and no running output is shown as
stopped. -/
structure OutputInfo.Live (o : OutputInfo) : Prop where
  remotePort : ∀ inputId remoteHost remotePort automaticPort name bindHost multicastTtl
    multicastInterface destinationAddr, o.config = .udp inputId remoteHost remotePort automaticPort
      name bindHost multicastTtl multicastInterface destinationAddr → remotePort = none
  status : o.status ≠ .stopped

theorem OutputInfo.New.live {o : OutputInfo} (h : o.New) : o.Live := by
  cases h with
  | udp =>
    refine ⟨?_, by simp [udpOutputInfo]⟩
    intro _ _ _ _ _ _ _ _ _ hconfig
    simp only [udpOutputInfo, CreateOutputRequest.udp.injEq] at hconfig
    exact hconfig.2.2.1.symm
  | srt inputId cfg =>
    refine ⟨fun _ _ _ _ _ _ _ _ _ hconfig => ?_, ?_⟩
    · exact absurd hconfig (by simp [srtOutputInfo])
    · cases cfg <;> simp [srtOutputInfo]

/-- Messages were sent by code that has a line for them. -/
structure World.OutputsLive (w : World) : Prop where
  records : w.Each fun _ info => info.EachOutput OutputInfo.Live
  messages : ∀ e ∈ w.rt.underway, e.sender.spec.Sends e.change

theorem World.OutputsLive.apply {w : World} (h : w.OutputsLive) :
    (applyProcessing w).2.Each fun _ info => info.EachOutput OutputInfo.Live := by
  rcases applyProcessing_streams w with hs | ⟨e, he, hs⟩
  · exact h.records.of_eq hs
  rcases applyChange_cases e.change w.streams with hc | ⟨i, info, info', hi, hc, hinfo⟩
  · exact h.records.of_eq (hs.trans hc)
  refine h.records.insert (hs.trans hc) ?_
  rcases hinfo with ⟨_, _, _, _, rfl⟩ | ⟨k, o, status, connectedAt, peerAddress, hchange, ho, rfl⟩
  · exact h.records i info hi
  have hsent := h.messages e (by simp [Runtime.underway, he])
  rw [hchange] at hsent
  have hstatus : status ≠ .stopped := by
    rintro rfl
    generalize e.sender.spec = spec at hsent
    cases hsent with
    | srtOutput _ _ hmem => simp at hmem
  have hlive : (o.withStatus status connectedAt peerAddress).Live :=
    ⟨(h.records i info hi k o ho).remotePort, hstatus⟩
  exact (h.records i info hi).insert hlive rfl

theorem outputsLive_step {rely : Guarded World} {ops : Option Operation → Prop}
    {h : Option LockMode} {w w' : World} (hstep : Act rely ops h w w' ∨ TaskStep w w')
    (hw : w.OutputsLive) : w'.OutputsLive := by
  rcases hstep with ha | ho
  · exact ⟨ha.eachOutput (fun _ hnew => hnew.live) (fun h => h ▸ hw.apply) hw.records,
      fun e he => hw.messages e (ha.underway e he)⟩
  · refine ⟨hw.records.of_eq ho.streams, fun e he => ?_⟩
    cases ho with
    | send _ hsends =>
      rcases mem_underway_send.mp he with he | rfl
      · exact hw.messages e he
      · exact hsends
    | finish => exact hw.messages e he
    | tick => exact hw.messages e he

theorem outputsLive_fits : Pool.Fits World.OutputsLive anyRely (Act anyRely fun _ => True)
    GatewayCall TaskStep (fun _ _ => True) where
  refl := fun _ => trivial
  calls := fun hp _ => hp.acts _
  keeps := fun hw hstep _ => outputsLive_step hstep hw
  relies := fun _ _ _ _ => trivial

theorem reachable_outputsLive {w : World} (h : Reachable w) : w.OutputsLive := by
  obtain ⟨env, db, threads, hruns⟩ := h
  have hboot : (World.boot db).OutputsLive := by
    refine ⟨fun i info hi => ?_, fun e he => ?_⟩
    · exact absurd hi (by simp [World.boot])
    · exact absurd he (by simp [World.boot, Runtime.init, Runtime.underway])
  exact ((behaving_bootPool World.OutputsLive env db trivial hboot).runs outputsLive_fits
    hruns).inv

end StreamGateway
