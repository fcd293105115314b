import StreamGateway.KeptStanding

/-!
# Standing after a restart

The load gives an input the standing of its row when its spawn finds what it needs, and it
loads each output from the row of the output alone. So the gateway comes back with the standing
of the rows, and with the one it was shut down with as long as memory and rows agree.
-/
namespace StreamGateway

open Prog

/-! ## The inputs -/

/-- The entry runs or is stopped as its row says, and has no outputs. -/
structure InputInfo.LoadedFrom (info : InputInfo) (row : InputRow) : Prop where
  bare : info.Bare
  standing : info.standing = .ofText row.status

theorem openIdle_loadedFrom (id : Int) (req : CreateInputRequest) (errorMessage : Option String)
    {row : InputRow} (h : row.status = "stopped") (w : World) :
    LeavesStreams (atomic (openIdle id row.name .stopped req errorMessage)) w
      fun info => info.LoadedFrom row := by
  refine ⟨_, _, rfl, rfl, rfl, ⟨rfl, rfl⟩, ?_⟩
  rw [h]
  rfl

theorem respawnInput_loadedFrom (id : Int) (req : CreateInputRequest) (failure : String)
    {row : InputRow} (h : row.status ≠ "stopped") (w : World) :
    LeavesStreams (respawnInput req id row.name failure) w fun info => info.LoadedFrom row := by
  have htext : Standing.ofText row.status = .running := if_neg h
  refine (spawnInput_started req id row.name w).bind fun r w hr => ?_
  cases r with
  | ok info =>
    have hinfo := hr info rfl
    exact .ret ⟨hinfo.bare, (InputInfo.standing_running hinfo.running).trans htext.symm⟩
  | error e => exact ⟨_, _, rfl, rfl, rfl, ⟨rfl, rfl⟩, htext.symm⟩

theorem loadBaseInput_loadedFrom (id : Int) (row : InputRow) (req : CreateInputRequest)
    (w : World) :
    LeavesStreams (loadBaseInput id row req) w fun info => info.LoadedFrom row := by
  unfold loadBaseInput
  split
  · rename_i h
    exact openIdle_loadedFrom id req none h w
  · rename_i h
    exact respawnInput_loadedFrom id req _ h w

/-- A program filter runs again when its source is in memory. -/
theorem loadSptsInput_loadedFrom (id : Int) (row : InputRow) {req : CreateInputRequest}
    {w : World} (hsource : ∀ i, req.source = some i → i ∈ w.streams) :
    LeavesStreams (loadSptsInput id row req) w fun info => info.LoadedFrom row := by
  have hfound : missingSource req w = (none, w) := by
    unfold missingSource
    cases req with
    | udp | srt => rfl
    | spts sourceInputId => simp [hsource sourceInputId rfl]
  unfold loadSptsInput
  split
  · rename_i h
    exact openIdle_loadedFrom id req none h w
  · rename_i h
    refine LeavesStreams.bind (Q := fun r => r = none) (LeavesStreams.locked ?_ ?_)
      fun r w hr => ?_
    · rw [hfound]
      exact ⟨rfl, rfl⟩
    · rw [hfound]
    · subst hr
      exact respawnInput_loadedFrom id req _ h w

/-- Every entry satisfies the property. -/
def Entries (P : Int → InputInfo → Prop) (loaded : HashMap Int InputInfo) : Prop :=
  ∀ j info, loaded.lookup j = some info → P j info

theorem entries_empty (P : Int → InputInfo → Prop) : Entries P ∅ :=
  fun _ _ h => absurd h (by simp)

section Entries

variable {P : Int → InputInfo → Prop} {loaded loaded' : HashMap Int InputInfo}

theorem Entries.insert (h : Entries P loaded) {id : Int} {info : InputInfo} (hp : P id info) :
    Entries P (loaded.insert id info) := by
  intro j info' hj
  rcases HashMap.lookup_insert_eq_some.mp hj with ⟨rfl, rfl⟩ | ⟨_, hj⟩
  · exact hp
  · exact h j info' hj

theorem Entries.extend (h : Entries P loaded) (h' : Entries P loaded') :
    Entries P (loaded.extend loaded') := by
  intro j info hj
  rcases HashMap.lookup_extend_eq_some.mp hj with hj | ⟨_, hj⟩
  · exact h' j info hj
  · exact h j info hj

theorem loadBaseInputs_entries (env : Env) {rows : List (Int × InputRow)}
    (hrows : ∀ r ∈ rows, ∀ req w, LeavesStreams (loadBaseInput r.1 r.2 req) w (P r.1))
    (h : Entries P loaded) (w : World) :
    LeavesStreams (loadBaseInputs env rows loaded) w fun r => ∀ loaded', r = .ok loaded' →
      Entries P loaded' := by
  induction rows generalizing loaded w with
  | nil =>
    refine .ret fun loaded' h' => ?_
    obtain rfl := Except.ok.inj h'
    exact h
  | cons r rest ih =>
    obtain ⟨id, row⟩ := r
    have hrest := fun r hr => hrows r (List.mem_cons_of_mem _ hr)
    unfold loadBaseInputs
    split
    · exact ih hrest h w
    · exact .ret fun _ h' => absurd h' (by simp)
    · rename_i req _
      exact (hrows _ List.mem_cons_self req w).bind fun info w hp => ih hrest (h.insert hp) w

/-- The streams in memory do not change in between. -/
theorem loadSptsInputs_entries (env : Env) {rows : List (Int × InputRow)}
    {streams : HashMap Int InputInfo}
    (hrows : ∀ r ∈ rows, ∀ req, r.2.configJson.read CreateInputRequest.ofFields = some req →
      ∀ w : World, w.streams = streams → LeavesStreams (loadSptsInput r.1 r.2 req) w (P r.1))
    (h : Entries P loaded) {w : World} (hw : w.streams = streams) :
    LeavesStreams (loadSptsInputs env rows loaded) w fun r => ∀ loaded', r = .ok loaded' →
      Entries P loaded' := by
  induction rows generalizing loaded w with
  | nil =>
    refine .ret fun loaded' h' => ?_
    obtain rfl := Except.ok.inj h'
    exact h
  | cons r rest ih =>
    obtain ⟨id, row⟩ := r
    have hrest := fun r hr => hrows r (List.mem_cons_of_mem _ hr)
    unfold loadSptsInputs
    split
    · exact .ret fun _ h' => absurd h' (by simp)
    · rename_i req hreq
      obtain ⟨info, w', hr, hdb, hs, hp⟩ := hrows _ List.mem_cons_self req hreq w hw
      obtain ⟨r', w'', hr', hdb', hs', hq⟩ := ih hrest (h.insert hp) (hs.trans hw)
      refine ⟨r', w'', ?_, hdb'.trans hdb, hs'.trans hs, hq⟩
      rw [alone_bind, hr]
      exact hr'

end Entries

/-- The load comes to the outputs with an entry for each row of an input, and no other. -/
theorem loadFromDb_entries {env : Env} {db : Database} {held : Bool} {w' : World}
    (hdb : db.Recoverable)
    (h : (loadFromDb env).alone false (.boot db) = some (.ok (), held, w')) :
    ∃ w, Entries (fun j info => ∃ row, (j, row) ∈ db.inputs.rows ∧ info.LoadedFrom row)
        w.streams ∧ (∀ j row, (j, row) ∈ db.inputs.rows → j ∈ w.streams) ∧
      (loadGroups env db.outputs.rows (db.outputs.rows.map fun o => o.2.inputId).dedup).alone
        false w = some (.ok (), held, w') := by
  obtain ⟨loaded, sptsLoaded, w₁, w₂, hbase, hspts, hs₁, hs₂, hgroups⟩ := loadFromDb_parts h
  obtain ⟨_, _, _, hcovers⟩ := (loadBaseInputs_covers env _ _ covers_empty).eq hbase
  obtain ⟨_, _, _, hsptsCovers⟩ := (loadSptsInputs_covers env _ _ covers_empty).eq hspts
  have hstored : ∀ j row, (j, row) ∈ db.inputs.rows → row.kind ∈ storedKinds := by
    intro j row hrow
    obtain ⟨req, hkind, _⟩ := hdb.inputs j row hrow
    exact hkind ▸ inputKindString_mem req
  have hloaded := (loadBaseInputs_entries env (P := fun j info => ∃ row,
    (j, row) ∈ db.inputs.rows ∧ info.LoadedFrom row) (fun r hr req w =>
      (loadBaseInput_loadedFrom r.1 r.2 req w).mono fun info hinfo =>
        ⟨r.2, List.mem_of_mem_filter hr, hinfo⟩) (entries_empty _) _).eq hbase
  have hbaseStreams : (insertInputs loaded w₁).2.streams = HashMap.extend ∅ loaded := by
    show w₁.streams.extend loaded = _
    rw [hs₁]
  have hsource : ∀ r ∈ db.inputs.rows.filter (fun r => r.2.kind = "spts"), ∀ req,
      r.2.configJson.read CreateInputRequest.ofFields = some req → ∀ w : World,
      w.streams = HashMap.extend ∅ loaded → ∀ i, req.source = some i → i ∈ w.streams := by
    intro r hr req hread w hw i hi
    obtain ⟨req', _, hjson, hsource⟩ := hdb.inputs r.1 r.2 (List.mem_of_mem_filter hr)
    rw [hjson] at hread
    obtain rfl : req' = req :=
      Option.some.inj ((CreateInputRequest.ofFields_toFields req').symm.trans hread)
    obtain ⟨row, hrow, hkind⟩ := hsource i hi
    rw [hw, (covers_empty.extend (hcovers loaded rfl)).2]
    exact .inr (.inr ⟨row, List.mem_filter.mpr ⟨hrow, by simpa using hkind⟩, hstored i row hrow,
      hkind⟩)
  have hsptsLoaded := (loadSptsInputs_entries env (P := fun j info => ∃ row,
    (j, row) ∈ db.inputs.rows ∧ info.LoadedFrom row) (fun r hr req hread w hw =>
      (loadSptsInput_loadedFrom r.1 r.2 (hsource r hr req hread w hw)).mono fun info hinfo =>
        ⟨r.2, List.mem_of_mem_filter hr, hinfo⟩) (entries_empty _) hbaseStreams).eq hspts
  refine ⟨_, ?_, fun j row hrow => ?_, hgroups⟩
  · show Entries _ (w₂.streams.extend sptsLoaded)
    rw [hs₂]
    exact ((entries_empty _).extend (hloaded.2.2.2 loaded rfl)).extend
      (hsptsLoaded.2.2.2 sptsLoaded rfl)
  · show j ∈ w₂.streams.extend sptsLoaded
    rw [hs₂, ((hcovers loaded rfl).phases (hsptsCovers sptsLoaded rfl)).2]
    exact ⟨row, hrow, hstored j row hrow⟩

/-! ## The outputs -/

theorem SameOutput.outputStanding {k : Int} {info info' : InputInfo}
    (h : SameOutput k info info') : info'.outputStanding k = info.outputStanding k := by
  have htasks : k ∈ info'.outputTasks ↔ k ∈ info.outputTasks := by
    rw [← AList.lookup_isSome, ← AList.lookup_isSome, h.1]
  have hstopped : k ∈ info'.stoppedOutputs ↔ k ∈ info.stoppedOutputs := by
    rw [← AList.lookup_isSome, ← AList.lookup_isSome, h.2]
  simp only [InputInfo.outputStanding, htasks, hstopped]

theorem outputStanding_none {k : Int} {info : InputInfo} :
    info.outputStanding k = none ↔
      info.outputTasks.lookup k = none ∧ info.stoppedOutputs.lookup k = none := by
  rw [AList.lookup_eq_none, AList.lookup_eq_none, InputInfo.outputStanding]
  split
  · simp_all
  · split <;> simp_all

theorem loadOutputs_status {env : Env} {inputId : Int} {outs : List (Int × OutputRow)}
    {input input' : InputInfo} {rt rt' : Runtime}
    (h : loadOutputs env inputId outs input rt = (.ok (), input', rt')) :
    input'.standing = input.standing := by
  have hkept : (loadOutputs env inputId outs input rt).2.1.standing = input.standing := by
    refine loadOutputs_keeps (P := fun input' _ => input'.standing = input.standing)
      (fun id row input₁ rt₁ input₂ rt₂ _ hsame hload => ?_) rfl
    cases hload with
    | skipped | stopped | running => exact hsame
  rwa [h] at hkept

/-- The destinations of the UDP outputs that run can be resolved, and the rows can be read. -/
structure Env.Loads (env : Env) (db : Database) : Prop where
  inputs : env.queryError .getAllInputs = none
  outputs : env.queryError .getAllOutputs = none
  resolves : ∀ k row, (k, row) ∈ db.outputs.rows → row.kind = "udp" → row.status ≠ "stopped" →
    ∃ addr, resolve env (row.destination.getD "") = .ok addr

theorem stoppedOutputConfig_isSome {row : OutputRow} (h : row.Loadable) (inputId : Int) :
    ∃ config, stoppedOutputConfig inputId row = some config := by
  obtain ⟨req, hrow⟩ := h
  unfold stoppedOutputConfig
  rw [hrow.kind]
  cases req with
  | udp => exact ⟨_, rfl⟩
  | srt reqInputId name config => cases config <;> exact ⟨_, rfl⟩

/-- A running output is spawned again. -/
theorem recreateOutput_isSome {env : Env} {row : OutputRow} {db : Database}
    (h : row.Recoverable db) (hresolves : row.kind = "udp" →
      ∃ addr, resolve env (row.destination.getD "") = .ok addr) (inputId id : Int)
    (input : InputInfo) (rt : Runtime) :
    ∃ output rt', recreateOutput env inputId input id row rt = .ok (some (output, rt')) := by
  obtain ⟨req, hrow⟩ := h.loadable
  unfold recreateOutput
  by_cases hudp : row.kind = "udp"
  · obtain ⟨addr, haddr⟩ := hresolves hudp
    simp only [hudp, h.parses hudp, if_true, createUdpOutput, haddr]
    exact ⟨_, _, rfl⟩
  · obtain ⟨common, hcommon⟩ := hrow.storedCommon env hudp
    rw [if_neg hudp, hcommon]
    split_ifs with hcaller hlistener
    · exact ⟨_, _, rfl⟩
    · obtain ⟨port, hport⟩ := Option.isSome_iff_exists.mp (hrow.listenPort hlistener)
      rw [hport]
      exact ⟨_, _, rfl⟩
    · have hkind := hrow.kind
      cases req with
      | udp => exact absurd hkind hudp
      | srt reqInputId name config =>
        cases config with
        | caller => exact absurd hkind hcaller
        | listener => exact absurd hkind hlistener

/-- An output is loaded with the standing of its row. -/
theorem loadOutput_outputStanding {env : Env} {db : Database} {inputId k : Int}
    {input input' : InputInfo} {row : OutputRow} {rt rt' : Runtime} (hloads : env.Loads db)
    (hrow : (k, row) ∈ db.outputs.rows) (hrecover : row.Recoverable db)
    (hnone : input.outputStanding k = none)
    (h : loadOutput env inputId input k row rt = .ok (input', rt')) :
    input'.outputStanding k = some (.ofText row.status) := by
  obtain ⟨htasks, _⟩ := outputStanding_none.mp hnone
  unfold loadOutput at h
  by_cases hs : row.status = "stopped"
  · obtain ⟨config, hconfig⟩ := stoppedOutputConfig_isSome hrecover.loadable inputId
    rw [if_pos hs, hconfig] at h
    obtain ⟨rfl, _⟩ := Prod.mk.inj (Except.ok.inj h)
    have hnotMem : k ∉ input.outputTasks := AList.lookup_eq_none.mp htasks
    simp [InputInfo.outputStanding, hnotMem, Standing.ofText, hs]
  · obtain ⟨output, rt'', hr⟩ := recreateOutput_isSome hrecover
      (fun hudp => hloads.resolves k row hrow hudp hs) inputId k input rt
    rw [if_neg hs, hr] at h
    obtain ⟨rfl, _⟩ := Prod.mk.inj (Except.ok.inj h)
    rw [outputStanding_insertOutput, if_pos rfl, Standing.ofText, if_neg hs]

/-- The outputs of an input are loaded, each with the standing of its row. -/
theorem loadOutputs_outputStanding {env : Env} {db : Database} {i : Int}
    {info info' : InputInfo} {rt rt' : Runtime} (hloads : env.Loads db) (hdb : db.Recoverable)
    (hbare : info.Bare)
    (h : loadOutputs env i (db.outputs.rows.filter fun o => o.2.inputId = i) info rt =
      (.ok (), info', rt')) (k : Int) :
    info'.outputStanding k = db.standings.outputs i k := by
  have hnone : info.outputStanding k = none := by
    rw [outputStanding_none, hbare.1, hbare.2]
    exact ⟨rfl, rfl⟩
  have hids := db.outputs.nodup_keys_filter fun o => o.2.inputId = i
  by_cases hk : k ∈ (db.outputs.rows.filter fun o => o.2.inputId = i).map Prod.fst
  · obtain ⟨⟨k', row⟩, hmem, hkeq⟩ := List.mem_map.mp hk
    obtain rfl : k' = k := hkeq
    obtain ⟨hrow, hi⟩ := List.mem_filter.mp hmem
    have hi : row.inputId = i := by simpa using hi
    obtain ⟨info₁, rt₁, info₂, rt₂, hsame, hload, hsame'⟩ := loadOutputs_at hids hmem h
    rw [hsame'.outputStanding, loadOutput_outputStanding hloads hrow (hdb.outputs k' row hrow)
      (hsame.outputStanding.trans hnone) hload]
    simp [Database.standings, Table.find_eq_some.mpr hrow, hi]
  · rw [(loadOutputs_other hk h).outputStanding, hnone]
    symm
    rw [Database.standings, Option.bind_eq_none_iff]
    intro row hrow
    refine if_neg fun hi => hk ?_
    exact List.mem_map.mpr ⟨(k, row), List.mem_filter.mpr ⟨Table.find_eq_some.mp hrow, by simpa⟩,
      rfl⟩

/-- The load of rows that can be loaded goes through. -/
theorem Database.Recoverable.loads {env : Env} {db : Database} (hdb : db.Recoverable)
    (hloads : env.Loads db) :
    ∃ held w', (loadFromDb env).alone false (.boot db) = some (.ok (), held, w') := by
  obtain ⟨r, held, w', hload, herror⟩ := hdb.loadable.goesThrough env
  cases r with
  | ok _ => exact ⟨held, w', hload⟩
  | error e =>
    rcases herror e rfl with h | h
    · exact absurd (hloads.inputs.symm.trans h) (by simp)
    · exact absurd (hloads.outputs.symm.trans h) (by simp)

/-- After the load, the streams have the standing of the rows. -/
theorem loadFromDb_standings {env : Env} {db : Database} {held : Bool} {w' : World}
    (hdb : db.Recoverable) (hloads : env.Loads db)
    (h : (loadFromDb env).alone false (.boot db) = some (.ok (), held, w')) :
    w'.standings = db.standings := by
  obtain ⟨w, hentries, hmem, hgroups⟩ := loadFromDb_entries hdb h
  have hinput : ∀ i, (w'.streams.lookup i).map InputInfo.standing = db.standings.inputs i ∧
      ∀ k, ((w'.streams.lookup i).bind fun info => info.outputStanding k) =
        db.standings.outputs i k := by
    intro i
    cases hi : w.streams.lookup i with
    | none =>
      have hnone : db.inputs.find i = none := by
        refine Option.eq_none_iff_forall_ne_some.mpr fun row hrow => ?_
        have := hmem i row (Table.find_eq_some.mp hrow)
        rw [← AList.lookup_isSome, hi] at this
        exact absurd this (by simp)
      rw [loadGroups_none hi hgroups]
      refine ⟨by simp [Database.standings, hnone], fun k => ?_⟩
      symm
      rw [Option.bind_none, Database.standings, Option.bind_eq_none_iff]
      intro row hrow
      refine if_neg fun heq => ?_
      obtain ⟨inputRow, hinputRow⟩ := (hdb.outputs k row (Table.find_eq_some.mp hrow)).input
      rw [heq, ← Table.find_eq_some, hnone] at hinputRow
      exact absurd hinputRow (by simp)
    | some info =>
      obtain ⟨row, hrow, hinfo⟩ := hentries i info hi
      have hinputs : db.standings.inputs i = some info.standing := by
        simp [Database.standings, Table.find_eq_some.mpr hrow, hinfo.standing]
      by_cases hout : i ∈ (db.outputs.rows.map fun o => o.2.inputId).dedup
      · obtain ⟨rt, info', rt', hload, hi'⟩ := loadGroups_at (List.nodup_dedup _) hout hi hgroups
        rw [hi', hinputs, Option.map_some, loadOutputs_status hload]
        exact ⟨rfl, loadOutputs_outputStanding hloads hdb hinfo.bare hload⟩
      · rw [loadGroups_other hout hgroups, hi, hinputs]
        refine ⟨rfl, fun k => ?_⟩
        have hempty : (db.outputs.rows.filter fun o => o.2.inputId = i) = [] := by
          refine List.filter_eq_nil_iff.mpr fun o ho => ?_
          simp only [decide_eq_true_eq]
          exact fun heq => hout (List.mem_dedup.mpr (List.mem_map.mpr ⟨o, ho, heq⟩))
        have hload : loadOutputs env i (db.outputs.rows.filter fun o => o.2.inputId = i) info
            w.rt = (.ok (), info, w.rt) := by
          rw [hempty]
          rfl
        exact loadOutputs_outputStanding hloads hdb hinfo.bare hload k
  rw [World.standings, Standings.mk.injEq]
  exact ⟨funext fun i => (hinput i).1, funext fun i => funext (hinput i).2⟩

/-! ## The restart -/

/-- The load of the rows goes through, and each stream has the standing that it had before. An
input that is stopped runs no output. -/
def World.ComesBack (w : World) (env : Env) : Prop :=
  ∃ held w', (loadFromDb env).alone false (.boot w.db) = some (.ok (), held, w') ∧
    w'.standings = w.standings ∧ ∀ i info, w'.streams.lookup i = some info →
      info.status = .stopped → info.outputTasks = ∅

theorem Standings.Idle.outputTasks {w : World} (h : w.standings.Idle) {i : Int}
    {info : InputInfo} (hi : w.streams.lookup i = some info) (hs : info.status = .stopped) :
    info.outputTasks = ∅ := by
  refine HashMap.eq_empty fun k output hk => ?_
  have hstopped : w.standings.inputs i = some .stopped := by
    rw [World.standings_inputs hi, InputInfo.standing, if_pos hs]
  refine h i k hstopped ?_
  have hmem : k ∈ info.outputTasks := HashMap.mem_iff.mpr ⟨_, hk⟩
  simp [World.standings, hi, InputInfo.outputStanding, hmem]

theorem standingRun_comesBack {env : Env} {w : World}
    (h : StandingRun Turn.KeepsStanding (.boot emptyDatabase) w) (hloads : env.Loads w.db) :
    w.ComesBack env := by
  have hw := h.kept kept_boot
  obtain ⟨held, w', hload⟩ := hw.recoverable.loads hloads
  have hback := (loadFromDb_standings hw.recoverable hloads hload).trans hw.agree.symm
  have hidle : w'.standings.Idle := hback ▸ hw.idle
  exact ⟨held, w', hload, hback, fun i info hi hs => hidle.outputTasks hi hs⟩

/-! ## A stopped input with an output -/

/-- A request that succeeds alone is the next turn of a run. -/
theorem StandingRun.after {C : World → Turn → Prop} {w w' : World} (h : StandingRun C w w')
    (req : StreamRequest) (hC : C w' (.request req))
    (hr : ((req.respond localEnv).alone false w').any (fun r => decide r.1.Succeeds) = true) :
    StandingRun C w (w'.after (req.operation.prog localEnv)) := by
  obtain ⟨response, held, halone, hs⟩ :=
    @alone_eq_after _ _ _ (fun response : Response => decide response.Succeeds) hr
  rw [← req.prog_operation] at halone
  have hwrites : localEnv.WritesSucceed := fun _ _ => rfl
  exact h.tail ⟨_, hC, .request hwrites halone (of_decide_eq_true hs)⟩

theorem loads_localEnv (db : Database) : localEnv.Loads db :=
  ⟨rfl, rfl, fun _ _ _ _ _ => ⟨_, rfl⟩⟩

/-- An input with an SRT listener as output was created, and the listener stopped. -/
def mutedWorld : World :=
  (runningWorld.after ((Operation.createOutput listenerOutputRequest).prog localEnv)).after
    ((Operation.stopOutputEndpoint 1).prog localEnv)

/-- Then the input was stopped. -/
def silentWorld : World :=
  mutedWorld.after ((Operation.stopInputEndpoint 1).prog localEnv)

theorem standingRun_silentWorld :
    StandingRun Turn.KeepsStanding (.boot emptyDatabase) silentWorld := by
  have hinput : Turn.KeepsStanding (.boot emptyDatabase)
      (.request (.createInput (udpInputRequest 5000))) :=
    fun i row hi => absurd hi (by simp [udpInputRequest, CreateInputRequest.source])
  have houtput : Turn.KeepsStanding runningWorld
      (.request (.createOutput listenerOutputRequest)) := by
    refine ⟨trivial, fun info hi hs => ?_⟩
    have hstatus : (runningWorld.streams.lookup 1).all
        (fun info => decide (info.status ≠ .stopped)) = true := by decide +kernel
    rw [show runningWorld.streams.lookup 1 = some info from hi] at hstatus
    simp [hs] at hstatus
  have hstop : Turn.KeepsStanding mutedWorld (.request (.stopInput 1)) := by
    intro info hi
    have hnone : (mutedWorld.streams.lookup 1).all
        (fun info => decide (info.outputTasks.keys = [])) = true := by decide +kernel
    rw [hi] at hnone
    refine HashMap.eq_empty fun k output hk => ?_
    have hmem : k ∈ info.outputTasks.keys := HashMap.mem_iff.mpr ⟨_, hk⟩
    simp_all
  have hempty : StandingRun Turn.KeepsStanding (.boot emptyDatabase) (.boot emptyDatabase) := .refl
  have hrunning := hempty.after _ hinput (by decide +kernel)
  have hlistening := hrunning.after _ houtput (by decide +kernel)
  have hmuted := hlistening.after (.stopOutput 1) trivial (by decide +kernel)
  exact hmuted.after _ hstop (by decide +kernel)

/-- Both come back stopped. -/
theorem silentWorld_comesBack : silentWorld.ComesBack localEnv ∧
    silentWorld.standings.inputs 1 = some .stopped ∧
    silentWorld.standings.outputs 1 1 = some .stopped := by
  refine ⟨?_, by decide +kernel, by decide +kernel⟩
  exact standingRun_comesBack standingRun_silentWorld (loads_localEnv _)

/-- An input was stopped while its output ran. -/
def haltedWorld : World :=
  (sendingWorld "127.0.0.1").after ((Operation.stopInputEndpoint 1).prog localEnv)

/-- The output comes back running, under an input that does not. -/
theorem stopInput_forgets_outputs :
    ¬ ∀ (env : Env) (w : World),
      StandingRun (fun _ t => ∃ req, t = .request req) (.boot emptyDatabase) w →
      env.Loads w.db → w.ComesBack env := by
  intro h
  have hempty : StandingRun (fun _ t => ∃ req, t = .request req) (.boot emptyDatabase)
      (.boot emptyDatabase) := .refl
  have hrunning := hempty.after (.createInput (udpInputRequest 5000)) ⟨_, rfl⟩
    (by decide +kernel)
  have hsending := hrunning.after (.createOutput (udpOutputRequest "127.0.0.1")) ⟨_, rfl⟩
    (by decide +kernel)
  have hhalted := hsending.after (.stopInput 1) ⟨_, rfl⟩ (by decide +kernel)
  obtain ⟨held, w', hload, hback, _⟩ := h localEnv haltedWorld hhalted (loads_localEnv _)
  have hstopped : haltedWorld.standings.outputs 1 1 = some .stopped := by decide +kernel
  have hrestarted : ((loadFromDb localEnv).alone false (.boot haltedWorld.db)).any
      (fun r => decide (r.2.2.standings.outputs 1 1 = some .running)) = true := by decide +kernel
  rw [hload] at hrestarted
  simp [hback, hstopped] at hrestarted

end StreamGateway
