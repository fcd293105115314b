import StreamGateway.LoadedGauges

/-!
# Gauges along a run

Once the load has gone through, requests and messages come one after the other, and the tasks go
on next to them. A message changes the status of an entry and reports that change, so it leaves
the balance as it is. A request changes the balance by the drift of its deed. Nothing else does.
-/
namespace StreamGateway

open Prog

/-! ## Messages -/

/-- The balance stays, and so do the inputs that have a task and the ids of the outputs. -/
structure KeepsGauges (w w' : World) : Prop where
  balance : w'.balance = w.balance
  serves : ∀ served, w.Serves served → w'.Serves served
  keyed : w.OutputsKeyed → w'.OutputsKeyed

/-- The change of an entry is what is reported. Its task and the ids of its outputs stay. -/
structure Reported (ms : List Metric) (info info' : InputInfo) : Prop where
  shares : readings ms + info.shares = info'.shares
  handle : info'.taskHandle = info.taskHandle
  running : ∀ k, k ∈ info'.outputTasks ↔ k ∈ info.outputTasks
  stopped : info'.stoppedOutputs = info.stoppedOutputs

section Messages

variable {w w' w'' : World} {i : Int} {info info' : InputInfo} {ms : List Metric}

theorem KeepsGauges.trans (h : KeepsGauges w w') (h' : KeepsGauges w' w'') : KeepsGauges w w'' :=
  ⟨h'.balance.trans h.balance, fun served hw => h'.serves served (h.serves served hw),
    fun hw => h'.keyed (h.keyed hw)⟩

theorem KeepsGauges.of_eq (hs : w'.streams = w.streams) (hm : w'.rt.metrics = w.rt.metrics)
    (hdb : w'.db = w.db) : KeepsGauges w w' := by
  refine ⟨?_, fun served hw i => ?_, fun hw => ⟨?_, ?_⟩⟩
  · rw [World.balance, World.balance, hs, hm]
  · rw [hs]
    exact hw i
  · rw [hs]
    exact hw.apart
  · rw [hs, hdb]
    exact hw.given

theorem Reported.hasOutput (h : Reported ms info info') (k : Int) :
    info'.HasOutput k ↔ info.HasOutput k := by
  rw [InputInfo.HasOutput, h.running, h.stopped, InputInfo.HasOutput]

theorem Reported.keysApart (h : Reported ms info info') (hapart : info.KeysApart) :
    info'.KeysApart := by
  intro k hk
  rw [h.stopped]
  exact hapart k ((h.running k).mp hk)

theorem Reported.keepsGauges (h : Reported ms info info')
    (ht : Touches i (some info) (some info') ms [] w w') (hdb : w'.db = w.db) :
    KeepsGauges w w' := by
  refine ⟨?_, fun served hw => ht.serves h.handle hw, fun hw => ?_⟩
  · have hbalance := ht.balance ((h.shares.trans (add_zero _).symm :
      readings ms + Totals.weight InputInfo.shares (some info) =
        Totals.weight InputInfo.shares (some info') + 0))
    rw [hbalance, add_zero]
  · refine ht.outputsKeyed hdb (h.keysApart (hw.apart i info ht.before)) (fun k hk => ?_) hw
    exact hw.given i info ht.before k ((h.hasOutput k).mp hk)

/-- What the reports of a transition move the gauge for connections by. -/
def connectionMove (direction : String) (oldStatus newStatus : StreamStatus) : Gauges :=
  if direction = "input" then
    (0, 0, (if newStatus.isConnected then 1 else 0) - (if oldStatus.isConnected then 1 else 0))
  else 0

theorem readings_transitionMetrics (t : Transition) (id : Int) (direction : String)
    (newStatus : StreamStatus) (connectedAt : Option ℕ) (address : Option String) (now : ℕ) :
    readings (transitionMetrics t id direction newStatus connectedAt address now) =
      connectionMove direction t.1 newStatus := by
  obtain ⟨oldStatus, streamType, streamName⟩ := t
  have hduration : ∀ (direction : String) (l : List ℕ), readings (l.map fun connected =>
      .recordConnectionDuration streamName id streamType direction (now - connected)) = 0 := by
    intro direction l
    induction l with
    | nil => rfl
    | cons _ _ ih => rw [List.map_cons, readings_cons, ih, Metric.moves, add_zero]
  unfold transitionMetrics connectionMove
  cases newStatus.isConnected <;> cases hold : oldStatus.isConnected <;>
    by_cases hd : direction = "input" <;>
    simp [hold, hd, hduration, Metric.moves, Prod.ext_iff]

theorem reported_withStatus (info : InputInfo) (newStatus : StreamStatus) (connectedAt : Option ℕ)
    (sourceAddress : Option String)
    (h : readings ms = connectionMove "input" info.status newStatus) :
    Reported ms info (info.withStatus newStatus connectedAt sourceAddress) := by
  refine ⟨?_, rfl, fun k => Iff.rfl, rfl⟩
  rw [h]
  simp only [connectionMove, if_true, InputInfo.shares, Prod.mk_add_mk, zero_add, sub_add_cancel]
  rfl

theorem reported_outputStatus {k : Int} {output : OutputInfo} (output' : OutputInfo)
    (hk : info.outputTasks.lookup k = some output) (h : readings ms = 0) :
    Reported ms info { info with outputTasks := info.outputTasks.insert k output' } := by
  have hmem : k ∈ info.outputTasks := HashMap.mem_iff.mpr ⟨_, hk⟩
  refine ⟨?_, rfl, fun j => ?_, rfl⟩
  · have hcount : InputInfo.outputCount { info with
        outputTasks := info.outputTasks.insert k output' } = info.outputCount := by
      have herased : InputInfo.outputCount { info with
          outputTasks := info.outputTasks.erase k } + 1 = info.outputCount :=
        outputCount_erase hmem rfl
      rw [← herased, InputInfo.outputCount, AList.entries_insert, List.length_cons]
      rfl
    rw [h, zero_add, InputInfo.shares, InputInfo.shares, hcount]
  · rw [AList.mem_insert]
    constructor
    · rintro (rfl | hj)
      · exact hmem
      · exact hj
    · exact .inr

/-- A message that is applied changes one entry by what is reported then. -/
theorem applyChange_reported {change : StateChange} {streams streams' : HashMap Int InputInfo}
    {t : Transition} (h : applyChange change streams = (some t, streams')) :
    ∃ i info info', streams.lookup i = some info ∧ streams' = streams.insert i info' ∧
      ∀ now, Reported (changeMetrics change t now) info info' := by
  cases change with
  | inputStateChanged i status connectedAt sourceAddress =>
    simp only [applyChange] at h
    cases hi : streams.lookup i with
    | none => simp [hi] at h
    | some info =>
      rw [hi] at h
      obtain ⟨ht, rfl⟩ := Prod.mk.inj h
      obtain rfl := Option.some.inj ht
      refine ⟨i, info, _, hi, rfl, fun now => reported_withStatus info status _ _ ?_⟩
      exact readings_transitionMetrics (info.status, getInputStreamType info.config, info.name)
        i "input" status connectedAt sourceAddress now
  | outputStateChanged i k status connectedAt peerAddress =>
    simp only [applyChange] at h
    cases hi : streams.lookup i with
    | none => simp [hi] at h
    | some info =>
      cases hk : info.outputTasks.lookup k with
      | none => simp [hi, hk] at h
      | some output =>
        simp only [hi, hk] at h
        obtain ⟨ht, rfl⟩ := Prod.mk.inj h
        obtain rfl := Option.some.inj ht
        refine ⟨i, info, _, hi, rfl, fun now => reported_outputStatus _ hk ?_⟩
        refine (readings_transitionMetrics
          (output.status, getOutputStreamType output.config, output.name) k "output" status
          connectedAt peerAddress now).trans (if_neg ?_)
        decide

theorem applyChange_none {change : StateChange} {streams streams' : HashMap Int InputInfo}
    (h : applyChange change streams = (none, streams')) : streams' = streams := by
  unfold applyChange at h
  split at h
  all_goals split at h
  · exact (Prod.mk.inj h).2.symm
  · exact absurd (Prod.mk.inj h).1 (by simp)
  · exact (Prod.mk.inj h).2.symm
  · split at h
    · exact (Prod.mk.inj h).2.symm
    · exact absurd (Prod.mk.inj h).1 (by simp)

/-- One round of the processor, from the queue to the reports. -/
theorem keepsGauges_processMessage {held : Bool}
    (h : processMessage.alone false w = some ((), held, w')) : KeepsGauges w w' := by
  have hreceive : KeepsGauges w (receive w).2 := by
    refine .of_eq (receive_streams w) ?_ ?_
    all_goals
      unfold receive
      split <;> rfl
  unfold processMessage at h
  rw [alone_atomic_bind, alone_locked_bind] at h
  refine hreceive.trans ?_
  generalize (receive w).2 = w₁ at h
  unfold applyProcessing at h
  cases hp : w₁.rt.processing with
  | none =>
    rw [hp] at h
    obtain ⟨_, _, rfl⟩ := alone_ret_eq_some.mp h
    exact .of_eq rfl rfl rfl
  | some e =>
    rw [hp] at h
    dsimp only at h
    rcases hc : applyChange e.change w₁.streams with ⟨_ | t, streams⟩
    · rw [hc] at h
      obtain ⟨_, _, rfl⟩ := alone_ret_eq_some.mp h
      exact .of_eq (applyChange_none hc) rfl rfl
    · rw [hc] at h
      obtain ⟨i, info, info', hi, hs, hreported⟩ := applyChange_reported hc
      obtain ⟨_, _, rfl⟩ := alone_ret_eq_some.mp h
      have hadds : Adds (changeMetrics e.change t w₁.rt.clock) [] w₁.rt
          (recordTransition e.change t
            { w₁ with streams := streams, rt := { w₁.rt with processing := none } }).2.rt :=
        ⟨rfl, (List.append_nil _).symm⟩
      exact (hreported w₁.rt.clock).keepsGauges (touches_insert hi hs hadds) rfl

theorem TaskStep.keepsGauges (h : TaskStep w w') : KeepsGauges w w' := by
  cases h <;> exact .of_eq rfl rfl rfl

end Messages

/-! ## Runs -/

/-- The states that the load of some database and then requests, messages and steps of the tasks
lead to, one after the other, with the inputs whose task was spawned and that were neither stopped
nor deleted since. Each request meets the condition in the state it is made in. -/
inductive GaugeRun (C : Deed → World → Prop) : Finset Int → World → Prop
  | load {env : Env} {db : Database} {held : Bool} {w : World} :
      (loadFromDb env).alone false (.boot db) = some (.ok (), held, w) →
      GaugeRun C (taskInputs w.rt.spawned) w
  | call {env : Env} {op : Operation} {held : Bool} {served : Finset Int} {w w' : World} :
      GaugeRun C served w → op.isLifecycle = true → C (op.deed env w) w →
      (op.prog env).alone false w = some ((), held, w') →
      GaugeRun C (servedAfter served (op.deed env w) w w') w'
  | process {held : Bool} {served : Finset Int} {w w' : World} : GaugeRun C served w →
      processMessage.alone false w = some ((), held, w') → GaugeRun C served w'
  | task {served : Finset Int} {w w' : World} : GaugeRun C served w → TaskStep w w' →
      GaugeRun C served w'

section Runs

variable {C : Deed → World → Prop} {served : Finset Int} {env : Env} {op : Operation}
  {held : Bool} {w w' : World}

/-- The ids are those of the entries, and they were given. -/
structure World.Identified (w : World) : Prop where
  ids : w.IdsMatch
  given : w.IdsGiven

theorem identified_boot (db : Database) : (World.boot db).Identified :=
  ⟨fun i info hi => absurd hi (by simp [World.boot]),
    ⟨fun i hi => absurd hi (AList.notMem_empty i), fun _ ht => absurd ht List.not_mem_nil,
      fun _ ht => absurd ht List.not_mem_nil⟩⟩

/-- A program of acts, alone, keeps the ids and takes none back. -/
theorem World.Identified.alone {α : Type} {ops : Option Operation → Prop} {p : Prog World α} {r : α}
    (h : w.Identified) (htakes : Takes allKinds p w) (hacts : Acts givenRely ops p none w)
    (hr : p.alone false w = some (r, held, w')) :
    w'.Identified ∧ w.db.outputs.lastId ≤ w'.db.outputs.lastId := by
  have hids := (Follows.alone (fun _ _ hids hstep => hstep.idsMatch hids) htakes h.ids hr).1
  have hgiven : w'.IdsGiven ∧ w.db.outputs.lastId ≤ w'.db.outputs.lastId := by
    refine Behaves.visits (I := fun v => v.IdsGiven ∧ w.db.outputs.lastId ≤ v.db.outputs.lastId)
      (fun _ v hv => ⟨hv.1, Int.le_refl _⟩) (fun h v v' hv hact => ?_) hacts
      ⟨h.given, Int.le_refl _⟩ (visits_of_alone hr)
    exact ⟨hact.idsGiven hv.1, Int.le_trans hv.2 hact.givesOnce.1⟩
  exact ⟨⟨hids, hgiven.1⟩, hgiven.2⟩

theorem identified_load {db : Database} {r : Except String Unit}
    (h : (loadFromDb env).alone false (.boot db) = some (r, held, w)) : w.Identified := by
  have htakes : Takes allKinds (loadFromDb env) (.boot db) :=
    (takes_loadFromDb env _).mono (by simp [allKinds])
  have hacts : Acts givenRely (fun _ => True) (loadFromDb env) none (.boot db) :=
    acts_loadFromDb env trivial _
  exact ((identified_boot db).alone htakes hacts h).1

theorem World.Identified.call {p : Prog World Unit} (h : w.Identified) (hp : GatewayCall p)
    (hr : p.alone false w = some ((), held, w')) :
    w'.Identified ∧ w.db.outputs.lastId ≤ w'.db.outputs.lastId :=
  h.alone (hp.takes w) (hp.acts w) hr

theorem World.Identified.task (h : w.Identified) (hstep : TaskStep w w') : w'.Identified :=
  ⟨World.Each.of_eq (P := fun i info => info.id = i) h.ids hstep.streams, hstep.idsGiven h.given⟩

/-- What holds along every run. -/
structure World.Tracked (served : Finset Int) (w : World) : Prop where
  identified : w.Identified
  keyed : w.OutputsKeyed
  serves : w.Serves served

theorem World.Tracked.does (h : w.Tracked served) (hop : op.isLifecycle = true)
    (hr : (op.prog env).alone false w = some ((), held, w')) : (op.deed env w).Does w w' :=
  Operation.does hop h.identified.ids h.identified.given hr

theorem World.Tracked.call (h : w.Tracked served) (hop : op.isLifecycle = true)
    (hr : (op.prog env).alone false w = some ((), held, w')) :
    w'.Tracked (servedAfter served (op.deed env w) w w') := by
  obtain ⟨hidentified, hlast⟩ := h.identified.call (.inl ⟨env, op, rfl⟩) hr
  have hdoes := h.does hop hr
  exact ⟨hidentified, hdoes.outputsKeyed h.keyed hlast, hdoes.serves h.serves⟩

theorem World.Tracked.keeps (h : w.Tracked served) (hidentified : w'.Identified)
    (hkeeps : KeepsGauges w w') : w'.Tracked served :=
  ⟨hidentified, hkeeps.keyed h.keyed, hkeeps.serves served h.serves⟩

theorem GaugeRun.tracked (h : GaugeRun C served w) : w.Tracked served := by
  induction h with
  | load hr =>
    have haccounted := accounted_load hr
    exact ⟨identified_load hr, haccounted.keyed, haccounted.serves⟩
  | call _ hop _ hr ih => exact ih.call hop hr
  | process _ hr ih =>
    exact ih.keeps (ih.identified.call (.inr rfl) hr).1 (keepsGauges_processMessage hr)
  | task _ hstep ih => exact ih.keeps (ih.identified.task hstep) hstep.keepsGauges

/-- A part of the balance that is zero is the drift after one more request. -/
theorem GaugeRun.balance_call {M : Type} [AddCommMonoid M] (g : Gauges →+ M)
    (h : GaugeRun C served w) (hzero : g w.balance = 0) (hop : op.isLifecycle = true)
    (hr : (op.prog env).alone false w = some ((), held, w')) :
    g w'.balance = g ((op.deed env w).drift w) := by
  have htracked := h.tracked
  rw [(htracked.does hop hr).balance htracked.keyed, map_add, hzero, zero_add]

/-- A part of the balance that no request of the run changes stays zero. -/
theorem GaugeRun.balance {M : Type} [AddCommMonoid M] (g : Gauges →+ M)
    (hC : ∀ d w, C d w → g (d.drift w) = 0) (h : GaugeRun C served w) : g w.balance = 0 := by
  induction h with
  | load hr => rw [(accounted_load hr).balance, map_zero]
  | call hrun hop hc hr ih => rw [hrun.balance_call g ih hop hr, hC _ _ hc]
  | process _ hr ih => rw [(keepsGauges_processMessage hr).balance, ih]
  | task _ hstep ih => rw [hstep.keepsGauges.balance, ih]

theorem GaugeRun.after (h : GaugeRun C served w) (env : Env) (op : Operation)
    (hop : op.isLifecycle = true) (hc : C (op.deed env w) w)
    (hr : ((op.prog env).alone false w).isSome) :
    GaugeRun C (servedAfter served (op.deed env w) w (w.after (op.prog env)))
      (w.after (op.prog env)) := by
  obtain ⟨held, ha⟩ := alone_after hr
  exact h.call hop hc ha

theorem GaugeRun.processed (h : GaugeRun C served w)
    (hr : (processMessage.alone false w).isSome) : GaugeRun C served (w.after processMessage) := by
  obtain ⟨held, ha⟩ := alone_after hr
  exact h.process ha

/-- An input is created in the empty gateway. -/
theorem gaugeRun_runningWorld (hC : ∀ w, C .openInput w) : GaugeRun C {1} runningWorld := by
  have hload : GaugeRun C ∅ (.boot emptyDatabase) :=
    @GaugeRun.load C localEnv emptyDatabase false _ rfl
  have hserved : servedAfter ∅ .openInput (.boot emptyDatabase) runningWorld = {1} := by
    decide +kernel
  rw [← hserved]
  exact hload.after localEnv (.createInput (udpInputRequest 5000)) rfl (hC _) rfl

end Runs

end StreamGateway
