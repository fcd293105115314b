import StreamGateway.LegacyAddresses
import StreamGateway.OutputCreation

/-!
# Outputs over stops and starts

A created output keeps a configuration of its own. For UDP it has the destination in the
legacy form, and the next start takes it apart again. If the start gives the same
configuration back, then so do all later ones.
-/
namespace StreamGateway

open Prog

/-- A request without legacy fields, to a host without a colon. -/
def CreateOutputRequest.NewStyle : CreateOutputRequest → Prop
  | .udp _ remoteHost _ _ _ _ _ _ destinationAddr =>
    destinationAddr = none ∧ ∀ host, remoteHost = some host → ':' ∉ host.toList
  | .srt _ _ (.listener _ _ _ _ listenPort) => listenPort = none
  | .srt _ _ (.caller remoteHost _ _ _ destinationAddr) =>
    destinationAddr = none ∧ ∀ host, remoteHost = some host → ':' ∉ host.toList

/-- The configuration holds the name, the bind host, the TTL and interface of a UDP output,
and the whole configuration of an SRT output. The settings are those of the socket. -/
structure SameRecord (o o' : OutputInfo) : Prop where
  id : o'.id = o.id
  inputId : o'.inputId = o.inputId
  name : o'.name = o.name
  kind : o'.kind = o.kind
  destination : o'.destination = o.destination
  config : o'.config = o.config
  settings : o'.settings = o.settings

theorem SameRecord.refl (o : OutputInfo) : SameRecord o o := ⟨rfl, rfl, rfl, rfl, rfl, rfl, rfl⟩

theorem SameRecord.trans {o o' o'' : OutputInfo} (h : SameRecord o o') (h' : SameRecord o' o'') :
    SameRecord o o'' :=
  ⟨h'.id.trans h.id, h'.inputId.trans h.inputId, h'.name.trans h.name, h'.kind.trans h.kind,
    h'.destination.trans h.destination, h'.config.trans h.config,
    h'.settings.trans h.settings⟩

/-- A start with the configuration of the output gives the same record. -/
def OutputInfo.Restores (o : OutputInfo) : Prop :=
  ∀ env input rt input' rt', input.id = o.inputId →
    startOutputInternal env input o.id o.config rt = .ok (input', rt') →
    ∃ o', input' = { input with outputTasks := input.outputTasks.insert o.id o' } ∧
      SameRecord o o'

/-! ## The created output -/

/-- The TTL and the interface of a multicast configuration give it back. -/
theorem multicastConfigFor_again (host : String) (multicastTtl : Option UInt8)
    (multicastInterface : Option String) :
    multicastConfigFor host
        ((multicastConfigFor host multicastTtl multicastInterface).map (·.ttl))
        ((multicastConfigFor host multicastTtl multicastInterface).bind (·.interface)) =
      multicastConfigFor host multicastTtl multicastInterface := by
  unfold multicastConfigFor
  cases parseIpAddr host with
  | none => rfl
  | some ip => by_cases h : ip.isMulticast = true <;> simp [h]

/-- A UDP output to a host without a colon. -/
theorem restores_udp {env : Env} {host : String} {port : UInt16} {input : InputInfo}
    {outputId : Int} {name bindHost : Option String} {multicastTtl : Option UInt8}
    {multicastInterface : Option String} {stateTx : Option StateChangeSender} {rt rt' : Runtime}
    {output : OutputInfo} (hcolon : ':' ∉ host.toList)
    (h : createUdpOutput env (hostPort host port) input outputId name bindHost
      (multicastConfigFor host multicastTtl multicastInterface) stateTx rt = .ok (output, rt')) :
    output.Restores := by
  have hsettings := createUdpOutput_settings h
  obtain ⟨addr, _, rfl, _⟩ := createUdpOutput_ok h
  intro env₁ input₁ rt₁ input' rt₂ hid hs
  simp only [udpOutputInfo] at hid hs
  simp only [startOutputInternal, CreateOutputRequest.getRemoteHost,
    CreateOutputRequest.getRemotePort, preferHost, preferPort, hostPart_hostPort hcolon,
    portPart_hostPort hcolon, Option.getD_some, multicastConfigFor_again] at hs
  split at hs
  · exact absurd hs (by simp)
  rename_i output rt₃ hc
  obtain ⟨rfl, rfl⟩ := Prod.mk.inj (Except.ok.inj hs)
  refine ⟨output, rfl, ?_⟩
  have hsettings' := createUdpOutput_settings hc
  obtain ⟨addr₁, _, rfl, _⟩ := createUdpOutput_ok hc
  have hname : (name.or (some ("UDP Output to " ++ hostPort host port))).or
      (some ("UDP Output to " ++ hostPort host port)) =
        name.or (some ("UDP Output to " ++ hostPort host port)) := by cases name <;> rfl
  refine ⟨rfl, hid, hname, rfl, rfl, ?_, hsettings'.trans hsettings.symm⟩
  simp only [udpOutputInfo, hid, hname]

/-- An SRT output keeps the whole configuration. -/
theorem restores_srt (inputId : Int) (cfg : SrtOutputConfig) (input : InputInfo) (k : Int)
    (name : Option String) (stateTx : Option StateChangeSender) (rt : Runtime) :
    (createSrtOutput inputId cfg input k name stateTx rt).1.Restores := by
  intro env input₁ rt₁ input' rt' hid hs
  obtain ⟨rfl, rfl⟩ := Prod.mk.inj (Except.ok.inj hs)
  refine ⟨_, rfl, rfl, rfl, ?_, rfl, rfl, ?_, rfl⟩
  · cases name <;> rfl
  · cases name <;> rfl

/-- What the stored request of a new-style request still is. -/
def CreateOutputRequest.PlainHost : CreateOutputRequest → Prop
  | .udp _ remoteHost _ _ _ _ _ _ destinationAddr =>
    destinationAddr = none ∧ ∀ host, remoteHost = some host → ':' ∉ host.toList
  | .srt .. => True

theorem CreateOutputRequest.NewStyle.plainHost {req stored : CreateOutputRequest}
    (h : req.NewStyle) (hstored : stored = req ∨ ∃ port, stored = req.withAssignedPort port) :
    stored.PlainHost := by
  rcases hstored with rfl | ⟨port, rfl⟩
  · cases stored with
    | udp => exact h
    | srt => trivial
  · cases req with
    | udp => exact h
    | srt inputId name config => cases config <;> trivial

/-- The effective host is the one that is given, if any. -/
theorem colon_notMem_effectiveHost {remoteHost : Option String}
    (h : ∀ host, remoteHost = some host → ':' ∉ host.toList) :
    ':' ∉ ((preferHost remoteHost none).getD "127.0.0.1").toList := by
  cases remoteHost with
  | none => decide
  | some host =>
    by_cases hhost : host = ""
    · subst hhost
      decide
    · simpa [preferHost, hhost] using h host rfl

theorem spawnOutput_restores {env : Env} {stored : CreateOutputRequest} {input : InputInfo}
    {inputId k : Int} {rt rt' : Runtime} {output : OutputInfo} (hplain : stored.PlainHost)
    (h : spawnOutput env stored input inputId k (outputDestination stored).1 rt =
      .ok (output, rt')) : output.Restores := by
  cases stored with
  | srt _ name config =>
    obtain ⟨rfl, rfl⟩ := Prod.mk.inj (Except.ok.inj h)
    exact restores_srt inputId config input k name rt.stateChangeTx rt
  | udp inputId' remoteHost remotePort automaticPort name bindHost multicastTtl
      multicastInterface destinationAddr =>
    obtain ⟨rfl, hcolon⟩ := hplain
    have hmulticast := (createMulticastConfig_eq_iff remoteHost none multicastTtl
      multicastInterface).mpr fun ⟨_, _, _, _, haddr, _⟩ => absurd haddr (by simp)
    simp only [spawnOutput, hmulticast] at h
    exact restores_udp (colon_notMem_effectiveHost hcolon) h

/-! ## Cycles -/

/-- What may happen meanwhile: the processor takes a message, or a task goes on. -/
inductive Meanwhile : World → World → Prop
  | message {w w' : World} {held : Bool} : processMessage.alone false w = some ((), held, w') →
      Meanwhile w w'
  | task {w w' : World} : TaskStep w w' → Meanwhile w w'

/-- The output is stopped and started, and both succeed. -/
def OutputCycle (env : Env) (i k : Int) (w w' : World) : Prop :=
  ∃ w₁ w₂, (stopOutput i k).alone false w = some (.ok (), false, w₁) ∧
    Relation.ReflTransGen Meanwhile w₁ w₂ ∧
    (startOutput env i k).alone false w₂ = some (.ok (), false, w')

/-- So many cycles, each with a name resolution of its own. -/
inductive OutputCycles (i k : Int) : ℕ → World → World → Prop
  | zero {w w' : World} : Relation.ReflTransGen Meanwhile w w' → OutputCycles i k 0 w w'
  | succ {n : ℕ} {env : Env} {w w₁ w₂ w' : World} : OutputCycles i k n w w₁ →
      OutputCycle env i k w₁ w₂ → Relation.ReflTransGen Meanwhile w₂ w' →
      OutputCycles i k (n + 1) w w'

def World.runningOutput (w : World) (i k : Int) : Option OutputInfo :=
  (w.streams.lookup i).bind fun info => info.outputTasks.lookup k

/-- The entry still runs the outputs that it ran, and has the stopped ones. -/
structure KeepsRecords (info info' : InputInfo) : Prop where
  id : info'.id = info.id
  running : ∀ k o, info.outputTasks.lookup k = some o →
    ∃ o', info'.outputTasks.lookup k = some o' ∧ SameRecord o o'
  stopped : info'.stoppedOutputs = info.stoppedOutputs

theorem KeepsRecords.refl (info : InputInfo) : KeepsRecords info info :=
  ⟨rfl, fun _ o h => ⟨o, h, .refl o⟩, rfl⟩

theorem sameRecord_withStatus (o : OutputInfo) (newStatus : StreamStatus)
    (connectedAt : Option ℕ) (peerAddress : Option String) :
    SameRecord o (o.withStatus newStatus connectedAt peerAddress) :=
  ⟨rfl, rfl, rfl, rfl, rfl, rfl, rfl⟩

/-- A message leaves an entry as it is, or gives its input or one of its outputs a status. -/
theorem applyChange_lookup (change : StateChange) {streams : HashMap Int InputInfo}
    {i : Int} {info : InputInfo} (h : streams.lookup i = some info) :
    ∃ info', (applyChange change streams).2.lookup i = some info' ∧ (info' = info ∨
      (∃ status connectedAt sourceAddress,
        info' = info.withStatus status connectedAt sourceAddress) ∨
      ∃ k output status connectedAt peerAddress, info.outputTasks.lookup k = some output ∧
        info' = { info with
          outputTasks := info.outputTasks.insert k
            (output.withStatus status connectedAt peerAddress) }) := by
  rcases applyChange_cases change streams with hc | ⟨j, info₁, info', hj, hc, hinfo⟩
  · rw [hc]
    exact ⟨info, h, .inl rfl⟩
  rw [hc]
  by_cases hij : i = j
  · subst hij
    obtain rfl := Option.some.inj (h.symm.trans hj)
    refine ⟨info', AList.lookup_insert _, .inr ?_⟩
    rcases hinfo with ⟨status, connectedAt, sourceAddress, _, rfl⟩ |
      ⟨k, output, status, connectedAt, peerAddress, _, hk, rfl⟩
    · exact .inl ⟨status, connectedAt, sourceAddress, rfl⟩
    · exact .inr ⟨k, output, status, connectedAt, peerAddress, hk, rfl⟩
  · exact ⟨info, by rwa [AList.lookup_insert_ne hij], .inl rfl⟩

theorem applyChange_keepsRecords (change : StateChange) {streams : HashMap Int InputInfo}
    {i : Int} {info : InputInfo} (h : streams.lookup i = some info) :
    ∃ info', (applyChange change streams).2.lookup i = some info' ∧
      KeepsRecords info info' := by
  obtain ⟨info', hi', hinfo⟩ := applyChange_lookup change h
  refine ⟨info', hi', ?_⟩
  rcases hinfo with rfl | ⟨status, connectedAt, sourceAddress, rfl⟩ |
    ⟨m, output, status, connectedAt, peerAddress, hm, rfl⟩
  · exact .refl info'
  · exact ⟨rfl, fun _ o ho => ⟨o, ho, .refl o⟩, rfl⟩
  refine ⟨rfl, fun k o ho => ?_, rfl⟩
  by_cases hk : k = m
  · subst hk
    obtain rfl := Option.some.inj (hm.symm.trans ho)
    exact ⟨_, AList.lookup_insert _, sameRecord_withStatus _ _ _ _⟩
  · exact ⟨o, by rwa [AList.lookup_insert_ne hk], .refl o⟩

theorem processMessage_streams {w w' : World} {held : Bool}
    (h : processMessage.alone false w = some ((), held, w')) :
    w'.streams = w.streams ∨ ∃ change, w'.streams = (applyChange change w.streams).2 := by
  have happly : (applyProcessing (receive w).2).2.streams = w.streams ∨
      ∃ change, (applyProcessing (receive w).2).2.streams =
        (applyChange change w.streams).2 := by
    rcases applyProcessing_streams (receive w).2 with hs | ⟨e, _, hs⟩
    · exact .inl (hs.trans (receive_streams w))
    · exact .inr ⟨e.change, by rw [hs, receive_streams]⟩
  unfold processMessage at h
  rw [alone_atomic_bind, alone_locked_bind] at h
  split at h
  · obtain ⟨_, _, rfl⟩ := alone_ret_eq_some.mp h
    exact happly
  · rw [alone_atomic] at h
    obtain ⟨_, hrest⟩ := Prod.mk.inj (Option.some.inj h)
    obtain ⟨_, rfl⟩ := Prod.mk.inj hrest
    exact happly

theorem Meanwhile.keepsRecords {w w' : World} (h : Meanwhile w w') {i : Int} {info : InputInfo}
    (hi : w.streams.lookup i = some info) :
    ∃ info', w'.streams.lookup i = some info' ∧ KeepsRecords info info' := by
  cases h with
  | message hr =>
    rcases processMessage_streams hr with hs | ⟨change, hs⟩
    · exact ⟨info, by rw [hs, hi], .refl info⟩
    · rw [hs]
      exact applyChange_keepsRecords change hi
  | task hstep => exact ⟨info, by rw [hstep.streams, hi], .refl info⟩

/-- The output runs, with the record of `o`. -/
def World.RunsAs (w : World) (i k : Int) (o : OutputInfo) : Prop :=
  ∃ info o', w.streams.lookup i = some info ∧ info.id = i ∧
    info.outputTasks.lookup k = some o' ∧ SameRecord o o'

/-- The output is stopped, with the configuration of `o`. -/
def World.StopsAs (w : World) (i k : Int) (o : OutputInfo) : Prop :=
  ∃ info, w.streams.lookup i = some info ∧ info.id = i ∧
    info.stoppedOutputs.lookup k = some o.config

section Cycles

variable {env : Env} {w w' : World} {i k : Int} {o : OutputInfo}

theorem World.RunsAs.meanwhile (hw : w.RunsAs i k o)
    (h : Relation.ReflTransGen Meanwhile w w') : w'.RunsAs i k o := by
  induction h with
  | refl => exact hw
  | tail _ hstep ih =>
    obtain ⟨info, o', hi, hid, hk, hsame⟩ := ih
    obtain ⟨info', hi', hkeeps⟩ := hstep.keepsRecords hi
    obtain ⟨o'', hk', hsame'⟩ := hkeeps.running k o' hk
    exact ⟨info', o'', hi', hkeeps.id.trans hid, hk', hsame.trans hsame'⟩

theorem World.StopsAs.meanwhile (hw : w.StopsAs i k o)
    (h : Relation.ReflTransGen Meanwhile w w') : w'.StopsAs i k o := by
  induction h with
  | refl => exact hw
  | tail _ hstep ih =>
    obtain ⟨info, hi, hid, hk⟩ := ih
    obtain ⟨info', hi', hkeeps⟩ := hstep.keepsRecords hi
    exact ⟨info', hi', hkeeps.id.trans hid, by rw [hkeeps.stopped, hk]⟩

/-- The stop of a running output succeeds and keeps its configuration. -/
theorem World.RunsAs.stop (hw : w.RunsAs i k o) :
    ∃ w₁, (stopOutput i k).alone false w = some (.ok (), false, w₁) ∧ w₁.StopsAs i k o ∧
      ∀ info₁, w₁.streams.lookup i = some info₁ →
        ∃ info, w.streams.lookup i = some info ∧ info₁.status = info.status := by
  obtain ⟨info, o', hi, hid, hk, hsame⟩ := hw
  have hs : (stopOutputSection i k w).1 = .ok () ∧
      (stopOutputSection i k w).2.streams = w.streams.insert i { info with
        outputTasks := info.outputTasks.erase k
        stoppedOutputs := info.stoppedOutputs.insert k o'.config } := by
    simp only [stopOutputSection, hi, hk, and_self]
  refine ⟨(stopOutputSection i k w).2, ?_, ?_, fun info₁ hi₁ => ?_⟩
  · rw [← hs.1]
    rfl
  · rw [World.StopsAs, hs.2, AList.lookup_insert]
    exact ⟨_, rfl, hid, by rw [AList.lookup_insert, hsame.config]⟩
  · rw [hs.2, AList.lookup_insert] at hi₁
    obtain rfl := Option.some.inj hi₁
    exact ⟨info, hi, rfl⟩

theorem World.StopsAs.start (hw : w.StopsAs i k o) (hrestores : o.Restores) (hid : o.id = k)
    (hinput : o.inputId = i)
    (h : (startOutput env i k).alone false w = some (.ok (), false, w')) :
    w'.RunsAs i k o := by
  obtain ⟨info, hi, hinfo, hk⟩ := hw
  rw [alone_startOutput] at h
  obtain ⟨hok, -, rfl⟩ := by simpa using h
  rcases startOutputSection_cases env i k w with ⟨⟨e, hs⟩, _⟩ |
    ⟨info₁, config, hi₁, hstart, ⟨⟨e, hs⟩, _⟩ | ⟨_, info', rt, hr, hs⟩⟩
  · rw [hs] at hok
    exact absurd hok (by simp)
  · rw [hs] at hok
    exact absurd hok (by simp)
  obtain rfl := Option.some.inj (hi.symm.trans hi₁)
  obtain rfl := Option.some.inj (hk.symm.trans hstart.2)
  subst hid
  have howner : (info.withoutStopped o.id).id = o.inputId := hinfo.trans hinput.symm
  obtain ⟨o', rfl, hsame⟩ := hrestores _ _ _ _ _ howner hr
  rw [hs]
  exact ⟨_, o', AList.lookup_insert _, hinfo, AList.lookup_insert _, hsame⟩

/-- The step lemma: a cycle brings the record back. -/
theorem OutputCycle.runsAs (h : OutputCycle env i k w w') (hw : w.RunsAs i k o)
    (hrestores : o.Restores) (hid : o.id = k) (hinput : o.inputId = i) : w'.RunsAs i k o := by
  obtain ⟨w₁, w₂, hstop, hmeanwhile, hstart⟩ := h
  obtain ⟨w₁', hstop', hstops, _⟩ := hw.stop
  obtain rfl : w₁' = w₁ := by simpa using hstop'.symm.trans hstop
  exact (hstops.meanwhile hmeanwhile).start hrestores hid hinput hstart

/-- The run lemma, by induction on the number of cycles. -/
theorem OutputCycles.runsAs {n : ℕ} (h : OutputCycles i k n w w') (hw : w.RunsAs i k o)
    (hrestores : o.Restores) (hid : o.id = k) (hinput : o.inputId = i) : w'.RunsAs i k o := by
  induction h with
  | zero hmeanwhile => exact hw.meanwhile hmeanwhile
  | succ _ hcycle hmeanwhile ih =>
    exact (hcycle.runsAs (ih hw) hrestores hid hinput).meanwhile hmeanwhile

/-- A further cycle can take place when the input is not stopped and the destination
resolves. -/
theorem World.RunsAs.cycle (hw : w.RunsAs i k o) (hres : o.config.Resolves env)
    (hstatus : ∀ info, w.streams.lookup i = some info → info.status ≠ .stopped) :
    ∃ w', OutputCycle env i k w w' := by
  obtain ⟨w₁, hstop, ⟨info, hi, _, hk⟩, hentry⟩ := hw.stop
  obtain ⟨info₀, hi₀, hsame⟩ := hentry info hi
  have hstart : info.ToStart k o.config := ⟨hsame ▸ hstatus info₀ hi₀, hk⟩
  have halone := alone_startOutput env i k w₁
  rcases startOutputSection_cases env i k w₁ with ⟨_, hnone⟩ |
    ⟨info₁, config, hi₁, hstart₁, ⟨_, hnot⟩ | ⟨_, info', rt, _, hs⟩⟩
  · exact absurd hstart (hnone info o.config hi)
  · obtain rfl := Option.some.inj (hi.symm.trans hi₁)
    obtain rfl := Option.some.inj (hk.symm.trans hstart₁.2)
    exact absurd hres hnot
  · rw [hs] at halone
    exact ⟨_, w₁, w₁, hstop, .refl, halone⟩

end Cycles

/-- A created output has its record again after any number of cycles, and as long as its
input is not stopped and its destination resolves there can be one more. -/
theorem outputCycles_same {env : Env} {req : CreateOutputRequest} {w w₁ : World} {held : Bool}
    {response : Response} (hw : Reachable w) (hnew : req.NewStyle)
    (h : (createOutput env req).alone false w = some (response, held, w₁))
    (hs : response.status = 201) :
    ∃ o, w₁.runningOutput req.inputId (w.db.outputs.lastId + 1) = some o ∧
      ∀ n w', OutputCycles req.inputId (w.db.outputs.lastId + 1) n w₁ w' →
        (∃ o', w'.runningOutput req.inputId (w.db.outputs.lastId + 1) = some o' ∧
          SameRecord o o') ∧
        ∀ env', o.config.Resolves env' →
          (∀ info, w'.streams.lookup req.inputId = some info → info.status ≠ .stopped) →
          ∃ w'', OutputCycle env' req.inputId (w.db.outputs.lastId + 1) w' w'' := by
  cases createOutput_outcome hw.idsMatch h with
  | refused hstatus _ => omega
  | rowLeft _ hstatus _ _ => omega
  | created stored input output _ hstores _ hinstalls =>
    have hrestores := spawnOutput_restores (hnew.plainHost hstores.request) hinstalls.spawn
    obtain ⟨i, spec, hor, hl⟩ := spawnOutput_launch hinstalls.spawn
    have hid : input.id = req.inputId := hw.idsMatch _ input hinstalls.found
    rw [hid, or_self] at hor
    have hruns : w₁.RunsAs req.inputId (w.db.outputs.lastId + 1) output := by
      rw [World.RunsAs, hinstalls.streams, AList.lookup_insert]
      exact ⟨_, output, rfl, hid, AList.lookup_insert _, .refl output⟩
    refine ⟨output, ?_, fun n w' hcycles => ?_⟩
    · simp only [World.runningOutput, hinstalls.streams, AList.lookup_insert, Option.bind_some]
    have hruns' := hcycles.runsAs hruns hrestores hl.outputId_eq (hl.inputId_eq.trans hor)
    refine ⟨?_, fun env' hres hstatus => hruns'.cycle hres hstatus⟩
    obtain ⟨info, o', hi, _, hk, hsame⟩ := hruns'
    exact ⟨o', by simp only [World.runningOutput, hi, Option.bind_some, hk], hsame⟩

/-- The UDP output of the state with one input and one output. -/
theorem pairedWorld_cycles :
    ∃ o, pairedWorld.runningOutput 1 1 = some o ∧
      ∀ n w', OutputCycles 1 1 n pairedWorld w' →
        (∃ o', w'.runningOutput 1 1 = some o' ∧ SameRecord o o') ∧
        ∀ env', o.config.Resolves env' →
          (∀ info, w'.streams.lookup 1 = some info → info.status ≠ .stopped) →
          ∃ w'', OutputCycle env' 1 1 w' w'' := by
  obtain ⟨response, held, hr, hstatus⟩ := pairedWorld_created
  have hnew : (udpOutputRequest "127.0.0.1").NewStyle :=
    ⟨rfl, fun host hhost => Option.some.inj hhost ▸ by decide⟩
  exact outputCycles_same rests_runningWorld.reachable hnew hr hstatus

end StreamGateway
