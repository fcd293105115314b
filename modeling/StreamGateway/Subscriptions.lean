import StreamGateway.LockSafety

/-!
# Subscriptions

Outputs and analyses receive from a channel of their input, and starting an input opens a
new one. Outputs that the start finds in `output_tasks` stay on the old channel. When every
start finds none, every output and every analysis receives from the channel of its input.
-/
namespace StreamGateway

open Prog

/-- Every output and every analysis of the entry receives from its channel. -/
structure InputInfo.Subscribed (info : InputInfo) : Prop where
  outputs : ∀ k o, info.outputTasks.lookup k = some o →
    ∃ t, o.abortHandle = some t ∧ t.spec.packetRx = some info.packetTx
  analyses : ∀ k a, info.analysisTasks.lookup k = some a →
    a.taskHandle.spec.packetRx = some info.packetTx

/-! ## Runs of one call after the other -/

/-- The operations that bring streams up and take them down. -/
def Operation.isBasic : Operation → Bool
  | createInput .. | createOutput .. | startInput .. | stopInput .. | startOutput ..
  | stopOutput .. | startAnalysis .. => true
  | _ => false

/-- The states that the load of some database and then calls and messages, one after the
other, lead to. Each call meets the condition in the state it is made in. -/
inductive Sequence (C : Operation → World → Prop) : World → Prop
  | load {env : Env} {db : Database} {r : Except String Unit} {held : Bool} {w : World} :
      (loadFromDb env).alone false (.boot db) = some (r, held, w) → Sequence C w
  | call {env : Env} {op : Operation} {held : Bool} {w w' : World} : Sequence C w →
      op.isBasic = true → C op w → (op.prog env).alone false w = some ((), held, w') →
      Sequence C w'
  | task {w w' : World} : Sequence C w → TaskStep w w' → Sequence C w'
  | process {held : Bool} {w w' : World} : Sequence C w →
      processMessage.alone false w = some ((), held, w') → Sequence C w'

/-- The source of a program filter is there and active. -/
def SourceActive (config : CreateInputRequest) (w : World) : Prop :=
  match config with
  | .spts sourceInputId .. =>
    ∃ source, w.streams.lookup sourceInputId = some source ∧ source.status.isActive = true
  | _ => True

/-- A start of an input that goes through finds no output and no analysis in its entry. -/
def StartsClean : Operation → World → Prop
  | .startInput inputId, w => ∀ info, w.streams.lookup inputId = some info →
      info.status.isActive = false → SourceActive info.config w →
      info.outputTasks = ∅ ∧ info.analysisTasks = ∅
  | _, _ => True

/-! ## The invariant -/

/-- Every entry is found under its id and every stream receives from its input. -/
structure Connected (w : World) : Prop where
  ids : w.IdsMatch
  each : w.Each fun _ info => info.Subscribed

theorem Connected.of_eq {w w' : World} (h : Connected w) (hs : w'.streams = w.streams) :
    Connected w' :=
  ⟨World.Each.of_eq (P := fun i info => info.id = i) h.ids hs, h.each.of_eq hs⟩

theorem Connected.insert {w w' : World} {i : Int} {info : InputInfo} (h : Connected w)
    (hs : w'.streams = w.streams.insert i info) (hid : info.id = i) (hi : info.Subscribed) :
    Connected w' :=
  ⟨World.Each.insert (P := fun i info => info.id = i) h.ids hs hid, h.each.insert hs hi⟩

theorem subscribed_of_empty {info : InputInfo} (ho : info.outputTasks = ∅)
    (ha : info.analysisTasks = ∅) : info.Subscribed := by
  refine ⟨fun k o h => ?_, fun k a h => ?_⟩
  · rw [ho] at h
    exact absurd h (by simp)
  · rw [ha] at h
    exact absurd h (by simp)

theorem Tended.subscribed {info info' : InputInfo} {launched aborted : List Task}
    (ht : Tended info info' launched aborted)
    (hrx : ∀ t ∈ launched, t.spec.packetRx = some info.packetTx) (h : info.Subscribed) :
    info'.Subscribed := by
  refine ⟨fun k o ho => ?_, fun k a ha => ?_⟩
  · rw [ht.packetTx]
    rcases ht.outputs k o ho with ho | ⟨t, htl, hh⟩
    · exact h.outputs k o ho
    · exact ⟨t, hh, hrx t htl⟩
  · rw [ht.packetTx]
    exact h.analyses k a (ht.analyses k a ha)

/-- An input that begins anew without old outputs and analyses. -/
theorem Begun.subscribed {info info' : InputInfo} {t : Task} {launched : List Task}
    (hb : Begun info info' t launched) (ho : info.outputTasks = ∅)
    (ha : info.analysisTasks = ∅) : info'.Subscribed := by
  refine ⟨fun k o h => ?_, fun k a h => ?_⟩
  · rcases hb.outputs k o h with h | ⟨t, ht, hh⟩
    · rw [ho] at h
      exact absurd h (by simp)
    · exact ⟨t, hh, hb.packetRx t ht⟩
  · rw [hb.analyses, ha] at h
    exact absurd h (by simp)

theorem InputInfo.Subscribed.withStatus {info : InputInfo} (h : info.Subscribed)
    (status : StreamStatus) (connectedAt : Option ℕ) (sourceAddress : Option String) :
    (info.withStatus status connectedAt sourceAddress).Subscribed :=
  ⟨h.outputs, h.analyses⟩

theorem InputInfo.Subscribed.outputStatus {info : InputInfo} {o : Int} {output : OutputInfo}
    (h : info.Subscribed) (ho : info.outputTasks.lookup o = some output) (status : StreamStatus)
    (connectedAt : Option ℕ) (peerAddress : Option String) :
    InputInfo.Subscribed { info with
      outputTasks := info.outputTasks.insert o
        (output.withStatus status connectedAt peerAddress) } := by
  refine ⟨fun k o' hk => ?_, h.analyses⟩
  rcases HashMap.lookup_insert_eq_some.mp hk with ⟨_, rfl⟩ | ⟨_, hk⟩
  · exact h.outputs o output ho
  · exact h.outputs k o' hk

/-- The kinds of sections that no start of an input takes. -/
def steadyKinds : List SectionKind := [.create, .tend, .stop, .enter, .receive, .apply]

theorem Section.connected {k : SectionKind} {w w' : World} (hk : k ∈ steadyKinds)
    (hs : Section k w w') (h : Connected w) : Connected w' := by
  refine ⟨hs.idsMatch h.ids, ?_⟩
  cases hs with
  | spawn | analyse | restart | install | remove => simp [steadyKinds] at hk
  | create t _ hs => exact h.each.of_eq hs
  | tend i info info' launched aborted hi hs ht hrx =>
    exact h.each.insert hs (ht.subscribed (hrx h.ids) (h.each i info hi))
  | stop i =>
    rcases stopInputSection_ok i w with
      ⟨e, hw⟩ | ⟨info, info', _, _, hs, _, _, _, ho, ha, _⟩
    · rw [hw]
      exact h.each
    · exact h.each.insert hs (subscribed_of_empty ho ha)
  | enter info hf => exact h.each.insert rfl (subscribed_of_empty hf.outputTasks hf.analysisTasks)
  | load loaded hl =>
    refine h.each.extend rfl fun i info hi => ?_
    have hf := (hl i info hi).1
    exact subscribed_of_empty hf.outputTasks hf.analysisTasks
  | receive => exact h.each.of_eq (receive_streams w)
  | apply =>
    exact h.each.apply (fun _ _ status at' address hsub => hsub.withStatus status at' address)
      fun _ _ _ _ status at' address hsub ho => hsub.outputStatus ho status at' address

theorem Sections.connected {ks : List SectionKind} (hks : ks ⊆ steadyKinds) (w w' : World)
    (h : Connected w) (hs : Sections ks w w') : Connected w' := by
  rcases hs with hs | ⟨k, hk, hs⟩
  · exact h.of_eq hs.streams
  · exact hs.connected (hks hk) h

/-- A call that starts no input and no analysis. -/
theorem Takes.connected {α : Type} {ks : List SectionKind} {p : Prog World α}
    {Q : α → World → Prop} {w w' : World} {held held' : Bool} {r : α} (hp : Takes ks p w Q)
    (hks : ks ⊆ steadyKinds) (h : Connected w) (hr : p.alone held w = some (r, held', w')) :
    Connected w' :=
  (Follows.alone (Sections.connected hks) hp h hr).1

/-! ## Starting an analysis -/

/-- Alone, a start is refused where an analysis of the type runs or the timeout panics, and else
it enters the analysis into the entry that it has subscribed to. -/
theorem alone_startAnalysis (env : Env) (inputId : Int) (analysisType : AnalysisType)
    (timeoutMinutes : Option UInt64) (w : World) :
    (∃ e, (startAnalysis env inputId analysisType timeoutMinutes).alone false w =
        some (.error e, false, (newAnalysisId w).2)) ∧
      (∀ info, w.streams.lookup inputId = some info → info.runsAnalysis analysisType = true ∨
        ∃ e, analysisTimeout env.overflowChecks w.rt.clock timeoutMinutes = .error e) ∨
    ∃ info timeout a w₁, w.streams.lookup inputId = some info ∧
      info.runsAnalysis analysisType = false ∧
      analysisTimeout env.overflowChecks w.rt.clock timeoutMinutes = .ok timeout ∧
      launchAnalysis inputId (newAnalysisId w).1 analysisType timeoutMinutes timeout info.packetTx
        (newAnalysisId w).2 = (a, w₁) ∧ w₁.streams = w.streams ∧
      (startAnalysis env inputId analysisType timeoutMinutes).alone false w =
        some (.ok a.id, false, (insertAnalysis inputId a w₁).2) := by
  unfold startAnalysis
  rw [alone_atomic_bind, alone_locked_bind]
  have hs : (newAnalysisId w).2.streams = w.streams := rfl
  unfold subscribeAnalysis
  rw [hs]
  cases hi : w.streams.lookup inputId with
  | none => exact .inl ⟨⟨_, rfl⟩, fun _ h => absurd h (by simp)⟩
  | some info =>
    dsimp only
    by_cases hruns : info.runsAnalysis analysisType = true
    · rw [if_pos hruns]
      exact .inl ⟨⟨_, rfl⟩, fun _ h => .inl (Option.some.inj h ▸ hruns)⟩
    rw [if_neg hruns]
    dsimp only
    rw [alone_atomic_bind]
    rcases spawnAnalysis_ok env inputId (newAnalysisId w).1 analysisType timeoutMinutes
        info.packetTx (newAnalysisId w).2 with ⟨e, htimeout, hspawn⟩ | ⟨timeout, htimeout, hspawn⟩
    · rw [hspawn]
      exact .inl ⟨⟨e, rfl⟩, fun _ _ => .inr ⟨e, htimeout⟩⟩
    · rcases hlaunch : launchAnalysis inputId (newAnalysisId w).1 analysisType timeoutMinutes
        timeout info.packetTx (newAnalysisId w).2 with ⟨a, w₁⟩
      have hs' : w₁.streams = w.streams := congrArg (fun r => r.2.streams) hlaunch.symm
      refine .inr ⟨info, timeout, a, w₁, rfl, by simpa using hruns, htimeout, hlaunch, hs', ?_⟩
      rw [hspawn, hlaunch]
      dsimp only
      rw [alone_locked, insertAnalysis_found (hs' ▸ hi)]

theorem InputInfo.Subscribed.insertAnalysis {info : InputInfo} {a : AnalysisInfo}
    (h : info.Subscribed) (ha : a.taskHandle.spec.packetRx = some info.packetTx) :
    InputInfo.Subscribed { info with analysisTasks := info.analysisTasks.insert a.id a } := by
  refine ⟨h.outputs, fun k a' hk => ?_⟩
  rcases HashMap.lookup_insert_eq_some.mp hk with ⟨_, rfl⟩ | ⟨_, hk⟩
  · exact ha
  · exact h.analyses k a' hk

theorem connected_startAnalysis {env : Env} {inputId : Int} {analysisType : AnalysisType}
    {timeoutMinutes : Option UInt64} {w w' : World} {held : Bool} {r : Except String ℕ}
    (h : Connected w)
    (hr : (startAnalysis env inputId analysisType timeoutMinutes).alone false w =
      some (r, held, w')) : held = false ∧ Connected w' := by
  rcases alone_startAnalysis env inputId analysisType timeoutMinutes w with
    ⟨⟨e, ha⟩, _⟩ | ⟨info, timeout, a, w₁, hi, _, _, hlaunch, hs, ha⟩
  · obtain ⟨_, rfl, rfl⟩ : .error e = r ∧ false = held ∧ (newAnalysisId w).2 = w' := by
      simpa [ha] using hr
    exact ⟨rfl, h.of_eq rfl⟩
  · obtain ⟨_, rfl, rfl⟩ : .ok a.id = r ∧ false = held ∧ (insertAnalysis inputId a w₁).2 = w' := by
      simpa [ha] using hr
    rw [insertAnalysis_found (hs ▸ hi)]
    obtain ⟨rfl, rfl⟩ := Prod.mk.inj hlaunch
    exact ⟨rfl, h.insert rfl (h.ids inputId info hi)
      ((h.each inputId info hi).insertAnalysis rfl)⟩

theorem connected_restartPaused {env : Env} {inputId : Int} {paused : List AnalysisType}
    {w w' : World} {held : Bool} {r : Unit} (h : Connected w)
    (hr : (restartPaused env inputId paused).alone false w = some (r, held, w')) :
    Connected w' := by
  induction paused generalizing w with
  | nil =>
    obtain ⟨_, _, rfl⟩ := alone_ret_eq_some.mp hr
    exact h
  | cons analysisType rest ih =>
    obtain ⟨_, _, _, ha, hrest⟩ := alone_bind_eq_some.mp hr
    obtain ⟨rfl, hc⟩ := connected_startAnalysis h ha
    exact ih hc hrest

/-! ## Starting an input -/

theorem connected_restartSection (env : Env) {plan : StartPlan} {w : World}
    (hspts : plan.config.isSpts = false) (h : Connected w)
    (hclean : ∀ info, w.streams.lookup plan.inputId = some info →
      info.outputTasks = ∅ ∧ info.analysisTasks = ∅) :
    Connected (restartSection env plan w).2 := by
  rcases restartSection_ok env hspts w with
    hw | ⟨info, info', t, tasks, hi, hs, _, _, hb, _⟩
  · rwa [hw]
  · obtain ⟨ho, ha⟩ := hclean info hi
    exact h.insert hs (hb.id.trans (h.ids _ info hi)) (hb.subscribed ho ha)

theorem connected_sptsInstallSection (env : Env) {inputId : Int} (new : InputInfo) {w : World}
    (h : Connected w) (hclean : ∀ info, w.streams.lookup inputId = some info →
      info.outputTasks = ∅ ∧ info.analysisTasks = ∅) :
    Connected (sptsInstallSection env inputId new w).2 := by
  rcases sptsInstallSection_ok env inputId new w with
    hw | ⟨info, info', tasks, hi, hs, hid, _, hanalyses, htx, hstarted⟩
  · rwa [hw]
  obtain ⟨ho, ha⟩ := hclean info hi
  refine h.insert hs (hid.trans (h.ids _ info hi)) ⟨fun k o hk => ?_, fun k a hk => ?_⟩
  · rcases hstarted.handle k o hk with hk | ⟨_, t, ht, hh⟩
    · rw [show InputInfo.outputTasks _ = info.outputTasks from rfl, ho] at hk
      exact absurd hk (by simp)
    · refine ⟨t, hh, ?_⟩
      rw [htx]
      exact hstarted.packetRx t ht
  · rw [hanalyses, ha] at hk
    exact absurd hk (by simp)

theorem connected_startBase {env : Env} {plan : StartPlan} {w w' : World} {held : Bool}
    {r : Except String Unit} (hspts : plan.config.isSpts = false) (h : Connected w)
    (hclean : ∀ info, w.streams.lookup plan.inputId = some info →
      info.outputTasks = ∅ ∧ info.analysisTasks = ∅)
    (hr : (startBase env plan).alone false w = some (r, held, w')) : Connected w' := by
  have hc := connected_restartSection env hspts h hclean
  rw [alone_startBase] at hr
  rcases hw : restartSection env plan w with ⟨e | paused, w''⟩
  · rw [hw] at hr hc
    obtain ⟨_, _, rfl⟩ : _ ∧ _ ∧ w'' = w' := by simpa using hr
    exact hc
  · rw [hw] at hr hc
    dsimp only at hr
    split at hr
    · obtain ⟨_, _, rfl⟩ : _ ∧ _ ∧ w'' = w' := by simpa using hr
      exact hc
    · exact absurd hr (by simp)

theorem sptsSourceSection_ok {inputId sourceInputId : Int} {w : World}
    (h : sptsSourceSection inputId sourceInputId w = .ok ()) :
    ∃ source, w.streams.lookup sourceInputId = some source ∧ source.status.isActive = true := by
  unfold sptsSourceSection at h
  split at h
  · rename_i hany
    exact (Option.any_eq_true _ _).mp hany
  · exact absurd h (by simp)

/-- Alone, a program filter's start refuses, or installs a new task and then restarts the
paused analyses. -/
theorem alone_startSpts {env : Env} {plan : StartPlan} {sourceInputId : Int}
    {programNumber : UInt16} {fillWithNulls : Option Bool} {w w' : World} {held : Bool}
    {r : Except String Unit}
    (hr : (startSpts env plan sourceInputId programNumber fillWithNulls).alone false w =
      some (r, held, w')) :
    (∃ e, r = .error e) ∧ w'.streams = w.streams ∨
      (∃ source, w.streams.lookup sourceInputId = some source ∧
        source.status.isActive = true) ∧
      ∃ new w₁ paused held', w₁.streams = w.streams ∧ w₁.db = w.db ∧
        (sptsInstallSection env plan.inputId new w₁).1 = .ok paused ∧
        (restartPaused env plan.inputId paused).alone false
          (sptsInstallSection env plan.inputId new w₁).2 = some ((), held', w') := by
  unfold startSpts at hr
  rw [alone_locked_bind] at hr
  cases hentry : sptsEntrySection plan.inputId w with
  | error e =>
    simp only [hentry] at hr
    obtain ⟨rfl, _, rfl⟩ := alone_ret_eq_some.mp hr
    exact .inl ⟨⟨e, rfl⟩, rfl⟩
  | ok _ =>
  simp only [hentry] at hr
  rw [alone_locked_bind] at hr
  cases hsource : sptsSourceSection plan.inputId sourceInputId w with
  | error e =>
    simp only [hsource] at hr
    obtain ⟨rfl, _, rfl⟩ := alone_ret_eq_some.mp hr
    exact .inl ⟨⟨e, rfl⟩, rfl⟩
  | ok _ =>
  obtain ⟨source, hsrc, hactive⟩ := sptsSourceSection_ok hsource
  simp only [hsource] at hr
  rw [alone_locked_bind] at hr
  have hspawn : (sptsSpawnSection plan sourceInputId programNumber fillWithNulls w).2.streams =
      w.streams ∧ (sptsSpawnSection plan sourceInputId programNumber fillWithNulls w).2.db =
        w.db := by
    unfold sptsSpawnSection
    rw [hsrc]
    exact ⟨rfl, rfl⟩
  cases hnew : (sptsSpawnSection plan sourceInputId programNumber fillWithNulls w).1 with
  | error e =>
    simp only [hnew] at hr
    obtain ⟨rfl, _, rfl⟩ := alone_ret_eq_some.mp hr
    exact .inl ⟨⟨e, rfl⟩, hspawn.1⟩
  | ok new =>
  simp only [hnew] at hr
  rw [alone_locked_bind] at hr
  split at hr
  · rename_i e he
    obtain ⟨rfl, _, rfl⟩ := alone_ret_eq_some.mp hr
    refine .inl ⟨⟨e, rfl⟩, ?_⟩
    rw [sptsInstallSection_error he, hspawn.1]
  · rename_i paused hpaused
    obtain ⟨_, held', _, hp, hr⟩ := alone_bind_eq_some.mp hr
    obtain ⟨_, _, rfl⟩ := alone_ret_eq_some.mp hr
    exact .inr ⟨⟨source, hsrc, hactive⟩, new, _, paused, held', hspawn.1, hspawn.2, hpaused, hp⟩

theorem connected_startSpts {env : Env} {plan : StartPlan} {sourceInputId : Int}
    {programNumber : UInt16} {fillWithNulls : Option Bool} {w w' : World} {held : Bool}
    {r : Except String Unit} (h : Connected w)
    (hclean : (∃ source, w.streams.lookup sourceInputId = some source ∧
        source.status.isActive = true) → ∀ info, w.streams.lookup plan.inputId = some info →
      info.outputTasks = ∅ ∧ info.analysisTasks = ∅)
    (hr : (startSpts env plan sourceInputId programNumber fillWithNulls).alone false w =
      some (r, held, w')) : Connected w' := by
  rcases alone_startSpts hr with ⟨_, hs⟩ | ⟨hsource, new, w₁, paused, held', hs, _, _, hp⟩
  · exact h.of_eq hs
  · refine connected_restartPaused (connected_sptsInstallSection env new (h.of_eq hs) ?_) hp
    rw [hs]
    exact hclean hsource

theorem connected_startInput {env : Env} {inputId : Int} {w w' : World} {held : Bool}
    {r : Except String Unit} (h : Connected w) (hclean : StartsClean (.startInput inputId) w)
    (hr : (startInput env inputId).alone false w = some (r, held, w')) : Connected w' := by
  rcases alone_startInput env inputId w with ⟨e, ha, _⟩ | ⟨info, stateTx, hi, hinactive, ha⟩
  · rw [ha] at hr
    obtain ⟨_, _, rfl⟩ : _ ∧ _ ∧ w = w' := by simpa using hr
    exact h
  have hid := h.ids inputId info hi
  have hentry : SourceActive info.config w → ∀ info', w.streams.lookup info.id = some info' →
      info'.outputTasks = ∅ ∧ info'.analysisTasks = ∅ := by
    intro hs info' hi'
    rw [hid] at hi'
    obtain rfl := Option.some.inj (hi.symm.trans hi')
    exact hclean info hi hinactive hs
  rw [ha] at hr
  cases hc : info.config with
  | spts sourceInputId programNumber fillWithNulls name =>
    simp only [hc] at hr
    refine connected_startSpts h (fun hs => hentry ?_) hr
    rw [hc]
    exact hs
  | udp =>
    simp only [hc] at hr
    exact connected_startBase rfl h (hentry (by rw [hc]; trivial)) hr
  | srt =>
    simp only [hc] at hr
    exact connected_startBase rfl h (hentry (by rw [hc]; trivial)) hr

/-! ## Runs -/

theorem Operation.connected {env : Env} {op : Operation} {w w' : World} {held : Bool}
    (hop : op.isBasic = true) (hclean : StartsClean op w) (h : Connected w)
    (hr : (op.prog env).alone false w = some ((), held, w')) : Connected w' := by
  cases op with
  | startInput inputId =>
    obtain ⟨r, hp⟩ := alone_of_ignore hr
    exact connected_startInput h hclean hp
  | startAnalysis inputId analysisType timeoutMinutes =>
    obtain ⟨r, hp⟩ := alone_of_ignore hr
    exact (connected_startAnalysis h hp).2
  | createInput | createOutput | stopInput | startOutput | stopOutput =>
    exact (Operation.takes env _ w).connected (by simp [Operation.kinds, steadyKinds]) h hr
  | _ => exact absurd hop (by simp [Operation.isBasic])

/-- In every state of a run whose starts all find their entries without outputs and
analyses, every output and every analysis receives from the channel of its input. -/
theorem subscribed_of_sequence {w : World} (h : Sequence StartsClean w) (i : Int) (info : InputInfo)
    (hi : w.streams.lookup i = some info) : info.Subscribed := by
  have hc : Connected w := by
    clear hi
    induction h with
    | @load env db r held w hr =>
      refine (takes_loadFromDb env _).connected (by simp [steadyKinds]) ⟨?_, ?_⟩ hr
      · exact fun i info hi => absurd hi (by simp [World.boot])
      · exact fun i info hi => absurd hi (by simp [World.boot])
    | call _ hop hclean hr ih => exact Operation.connected hop hclean ih hr
    | task _ hstep ih => exact ih.of_eq hstep.streams
    | process _ hr ih => exact (takes_processMessage _).connected (by simp [steadyKinds]) ih hr
  exact hc.each i info hi

theorem Sequence.after {C : Operation → World → Prop} {env : Env} {w : World}
    (h : Sequence C w) (op : Operation) (hop : op.isBasic = true) (hc : C op w)
    (hr : ((op.prog env).alone false w).isSome) : Sequence C (w.after (op.prog env)) := by
  obtain ⟨held, ha⟩ := alone_after hr
  exact h.call hop hc ha

/-- A UDP input was created, stopped and started again, and then an output was created for it. -/
def restartedWorld : World :=
  ((runningWorld.after ((Operation.stopInput 1).prog localEnv)).after
    ((Operation.startInput 1).prog localEnv)).after
    ((Operation.createOutput (udpOutputRequest "127.0.0.1")).prog localEnv)

theorem startsClean_stopped :
    StartsClean (.startInput 1) (runningWorld.after ((Operation.stopInput 1).prog localEnv)) := by
  have hview : ((runningWorld.after ((Operation.stopInput 1).prog localEnv)).streams.lookup 1).map
      (fun info => (info.outputTasks, info.analysisTasks)) = some (∅, ∅) := rfl
  intro info hi _ _
  rw [hi] at hview
  exact Prod.mk.inj (Option.some.inj hview)

theorem sequence_restartedWorld : Sequence StartsClean restartedWorld := by
  have hload : Sequence StartsClean (.boot emptyDatabase) :=
    @Sequence.load StartsClean localEnv emptyDatabase (.ok ()) false _ rfl
  refine (((hload.after (.createInput (udpInputRequest 5000)) rfl trivial rfl).after
    (.stopInput 1) rfl trivial rfl).after (.startInput 1) rfl startsClean_stopped ?_).after
    (.createOutput (udpOutputRequest "127.0.0.1")) rfl trivial ?_ <;> decide +kernel

/-- The output receives from the channel that the start has opened. -/
theorem restartedWorld_subscribed : ∃ info, restartedWorld.streams.lookup 1 = some info ∧
    info.packetTx = 1 ∧ info.outputTasks.keys = [1] ∧ info.Subscribed := by
  have hview : (restartedWorld.streams.lookup 1).map
      (fun info => (info.packetTx, info.outputTasks.keys)) = some (1, [1]) := by
    decide +kernel
  obtain ⟨info, hi, hview⟩ := Option.map_eq_some_iff.mp hview
  obtain ⟨htx, hkeys⟩ := Prod.mk.inj hview
  exact ⟨info, hi, htx, hkeys, subscribed_of_sequence sequence_restartedWorld 1 info hi⟩

/-! ## An output that is left behind -/

/-- A UDP input was created and stopped, and then an output was created for it. -/
def attachedWorld : World :=
  (runningWorld.after ((Operation.stopInput 1).prog localEnv)).after
    ((Operation.createOutput (udpOutputRequest "127.0.0.1")).prog localEnv)

theorem sequence_attachedWorld : Sequence (fun _ _ => True) attachedWorld := by
  have hload : Sequence (fun _ _ => True) (.boot emptyDatabase) :=
    @Sequence.load _ localEnv emptyDatabase (.ok ()) false _ rfl
  refine ((hload.after (.createInput (udpInputRequest 5000)) rfl trivial rfl).after
    (.stopInput 1) rfl trivial rfl).after
    (.createOutput (udpOutputRequest "127.0.0.1")) rfl trivial ?_
  decide +kernel

/-- Starting that input opens a new channel, and the output stays on the old one. -/
theorem startInput_leaves_output :
    ¬ ∀ w, Sequence (fun _ _ => True) w → ∀ i info, w.streams.lookup i = some info →
      info.status.isActive = true → info.Subscribed := by
  intro h
  have hrun : Sequence (fun _ _ => True)
      (attachedWorld.after ((Operation.startInput 1).prog localEnv)) :=
    sequence_attachedWorld.after (.startInput 1) rfl trivial
      (by decide +kernel)
  have hview : ((attachedWorld.after ((Operation.startInput 1).prog localEnv)).streams.lookup
      1).map (fun info => (info.status.isActive, info.packetTx, (info.outputTasks.lookup 1).map
        fun o => o.abortHandle.map fun t => t.spec.packetRx)) =
      some (true, 1, some (some (some 0))) := by
    decide +kernel
  obtain ⟨info, hi, hview⟩ := Option.map_eq_some_iff.mp hview
  simp only [Prod.mk.injEq, Option.map_eq_some_iff] at hview
  obtain ⟨hactive, htx, o, ho, t, ht, hrx⟩ := hview
  obtain ⟨t', ht', hrx'⟩ := (h _ hrun 1 info hi hactive).outputs 1 o ho
  obtain rfl := Option.some.inj (ht.symm.trans ht')
  rw [hrx, htx] at hrx'
  exact absurd hrx' (by decide)

end StreamGateway
