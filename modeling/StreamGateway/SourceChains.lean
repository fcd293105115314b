import StreamGateway.RestoredStanding

/-!
# Chains of program filters

The load makes all program filters before it puts the first of them into memory. So a filter
finds its source there if and only if the source is not a filter itself, in whatever order the
rows are.
-/
namespace StreamGateway

open Prog

/-! ## Sources -/

/-- The task of the entry is live and receives from the channel. -/
def InputInfo.ReceivesFrom (info : InputInfo) (packetTx : ChannelId) (rt : Runtime) : Prop :=
  ∃ t ∈ rt.live, info.taskHandle = some t ∧ t.spec.packetRx = some packetTx

/-- Both inputs are in memory, and the task of the first receives from the second. -/
def World.SubscribedTo (w : World) (id sourceId : Int) : Prop :=
  ∃ info source, w.streams.lookup id = some info ∧ w.streams.lookup sourceId = some source ∧
    info.ReceivesFrom source.packetTx w.rt

instance (info : InputInfo) (packetTx : ChannelId) (rt : Runtime) :
    Decidable (info.ReceivesFrom packetTx rt) :=
  inferInstanceAs (Decidable (∃ t ∈ rt.live, _))

instance (w : World) (id sourceId : Int) : Decidable (w.SubscribedTo id sourceId) :=
  decidable_of_iff ((w.streams.lookup id).any (fun info => (w.streams.lookup sourceId).any
      fun source => decide (info.ReceivesFrom source.packetTx w.rt)) = true)
    (by simp [World.SubscribedTo, Option.any_eq_true])

/-- A filter runs on its source if that is in memory, and has no task if it is not. -/
def InputInfo.FollowsSource (info : InputInfo) (source : Option InputInfo) (rt : Runtime) :
    Prop :=
  match source with
  | none => info.taskHandle = none
  | some source => info.ReceivesFrom source.packetTx rt

theorem InputInfo.ReceivesFrom.mono {info : InputInfo} {packetTx : ChannelId} {rt rt' : Runtime}
    (h : info.ReceivesFrom packetTx rt) (hlive : rt.live ⊆ rt'.live) :
    info.ReceivesFrom packetTx rt' := by
  obtain ⟨t, ht, hinfo⟩ := h
  exact ⟨t, hlive ht, hinfo⟩

theorem InputInfo.FollowsSource.mono {info : InputInfo} {source : Option InputInfo}
    {rt rt' : Runtime} (h : info.FollowsSource source rt) (hlive : rt.live ⊆ rt'.live) :
    info.FollowsSource source rt' := by
  cases source with
  | none => exact h
  | some source => exact InputInfo.ReceivesFrom.mono h hlive

/-! ## The second phase -/

section Filters

variable {env : Env} {w w' : World} {held : Bool} {id : Int} {row : InputRow}
  {req : CreateInputRequest} {info : InputInfo}

/-- The row is of a filter that is to run on the given source. -/
structure InputRow.Filters (row : InputRow) (sourceId : Int) : Prop where
  kind : row.kind = "spts"
  runs : row.status ≠ "stopped"
  source : (row.configJson.read CreateInputRequest.ofFields).bind CreateInputRequest.source =
    some sourceId

instance (row : InputRow) (sourceId : Int) : Decidable (row.Filters sourceId) :=
  decidable_of_iff (row.kind = "spts" ∧ row.status ≠ "stopped" ∧
      (row.configJson.read CreateInputRequest.ofFields).bind CreateInputRequest.source =
        some sourceId)
    ⟨fun h => ⟨h.1, h.2.1, h.2.2⟩, fun h => ⟨h.kind, h.runs, h.source⟩⟩

theorem live_spawnInput {name : Option String} {r : Except HttpError InputInfo}
    (h : (spawnInput req id name).alone false w = some (r, held, w')) :
    w.rt.live ⊆ w'.rt.live := by
  cases req with
  | udp =>
    obtain ⟨_, _, rfl⟩ := alone_ret_eq_some.mp h
    exact List.subset_append_left _ _
  | srt reqName config =>
    obtain ⟨_, _, rfl⟩ := alone_ret_eq_some.mp h
    exact List.subset_append_left _ _
  | spts sourceInputId programNumber fillWithNulls reqName =>
    obtain ⟨_, _, rfl⟩ : _ ∧ _ ∧ (spawnSptsSection id sourceInputId programNumber fillWithNulls
      name w).2 = w' := by simpa [spawnInput] using h
    unfold spawnSptsSection
    split
    · exact List.Subset.refl _
    · exact List.subset_append_left _ _

theorem live_respawnInput {name : Option String} {failure : String}
    (h : (respawnInput req id name failure).alone false w = some (info, held, w')) :
    w.rt.live ⊆ w'.rt.live := by
  obtain ⟨r, _, w₁, hspawn, h⟩ := alone_bind_eq_some.mp h
  have hlive := live_spawnInput hspawn
  cases r with
  | ok info =>
    obtain ⟨_, _, rfl⟩ := alone_ret_eq_some.mp h
    exact hlive
  | error e =>
    obtain ⟨_, _, rfl⟩ := alone_ret_eq_some.mp h
    exact hlive

theorem missingSource_world (req : CreateInputRequest) (w : World) :
    (missingSource req w).2 = w := by
  unfold missingSource
  split <;> rfl

theorem live_loadSptsInput
    (h : (loadSptsInput id row req).alone false w = some (info, held, w')) :
    w.rt.live ⊆ w'.rt.live := by
  unfold loadSptsInput at h
  split at h
  · obtain ⟨_, _, rfl⟩ := alone_ret_eq_some.mp h
    exact List.Subset.refl _
  rw [alone_locked_bind, missingSource_world] at h
  split at h
  · obtain ⟨_, _, rfl⟩ := alone_ret_eq_some.mp h
    exact List.Subset.refl _
  · exact live_respawnInput h

/-- A filter looks for its source among the streams in memory. -/
theorem loadSptsInput_followsSource {sourceId : Int} (hruns : row.status ≠ "stopped")
    (hreq : req.source = some sourceId)
    (h : (loadSptsInput id row req).alone false w = some (info, held, w')) :
    info.FollowsSource (w.streams.lookup sourceId) w'.rt := by
  obtain ⟨programNumber, fillWithNulls, name, rfl⟩ : ∃ programNumber fillWithNulls name,
      req = .spts sourceId programNumber fillWithNulls name := by
    cases req with
    | udp | srt => exact absurd hreq (by simp [CreateInputRequest.source])
    | spts i programNumber fillWithNulls name =>
      obtain rfl : i = sourceId := Option.some.inj hreq
      exact ⟨_, _, _, rfl⟩
  unfold loadSptsInput at h
  rw [if_neg hruns, alone_locked_bind, missingSource_world] at h
  cases hsource : w.streams.lookup sourceId with
  | none =>
    have hmissing : sourceId ∉ w.streams := AList.lookup_eq_none.mp hsource
    simp only [missingSource, if_neg hmissing] at h
    obtain ⟨rfl, _, rfl⟩ := alone_ret_eq_some.mp h
    rfl
  | some source =>
    have hfound : sourceId ∈ w.streams := HashMap.mem_iff.mpr ⟨_, hsource⟩
    simp only [missingSource, if_pos hfound] at h
    obtain ⟨r, _, w₁, hspawn, h⟩ := alone_bind_eq_some.mp h
    obtain ⟨rfl, _, rfl⟩ : (spawnSptsSection id sourceId programNumber fillWithNulls row.name
      w).1 = r ∧ _ ∧ (spawnSptsSection id sourceId programNumber fillWithNulls row.name w).2 =
        w₁ := by simpa [spawnInput] using hspawn
    unfold spawnSptsSection at h
    rw [hsource] at h
    obtain ⟨rfl, _, rfl⟩ := alone_ret_eq_some.mp h
    exact ⟨_, List.mem_append_right _ (List.mem_singleton_self _), rfl, rfl⟩

/-- The filters of the rows are made, on the sources that were in memory before. -/
structure LoadsFilters (rows : List (Int × InputRow)) (loaded loaded' : HashMap Int InputInfo)
    (w w' : World) : Prop where
  live : w.rt.live ⊆ w'.rt.live
  others : ∀ j, j ∉ rows.map Prod.fst → loaded'.lookup j = loaded.lookup j
  filters : ∀ id row sourceId, (id, row) ∈ rows → row.Filters sourceId →
    ∃ info, loaded'.lookup id = some info ∧
      info.FollowsSource (w.streams.lookup sourceId) w'.rt

theorem loadsFilters_loadSptsInputs {rows : List (Int × InputRow)}
    {loaded loaded' : HashMap Int InputInfo} (hids : (rows.map Prod.fst).Nodup)
    (h : (loadSptsInputs env rows loaded).alone false w = some (.ok loaded', held, w')) :
    LoadsFilters rows loaded loaded' w w' := by
  induction rows generalizing loaded w with
  | nil =>
    obtain ⟨hloaded, _, rfl⟩ := alone_ret_eq_some.mp h
    obtain rfl := Except.ok.inj hloaded
    exact ⟨List.Subset.refl _, fun _ _ => rfl, fun _ _ _ hr => absurd hr List.not_mem_nil⟩
  | cons r rest ih =>
    obtain ⟨id, row⟩ := r
    obtain ⟨hid, hids⟩ := List.nodup_cons.mp hids
    unfold loadSptsInputs at h
    split at h
    · exact absurd (alone_ret_eq_some.mp h).1 (by simp)
    rename_i req hreq
    obtain ⟨info, _, w₁, hload, h⟩ := alone_bind_eq_some.mp h
    obtain ⟨rfl, _, hstreams, _⟩ := (loadSptsInput_bare id row req w).eq hload
    have hrest := ih hids h
    refine ⟨List.Subset.trans (live_loadSptsInput hload) hrest.live, fun j hj => ?_,
      fun id' row' sourceId hr hfilters => ?_⟩
    · simp only [List.map_cons, List.mem_cons, not_or] at hj
      rw [hrest.others j hj.2, AList.lookup_insert_ne hj.1]
    · rcases List.mem_cons.mp hr with heq | hr
      · obtain ⟨rfl, rfl⟩ := Prod.mk.inj heq
        have hsource := hfilters.source
        rw [hreq, Option.bind_some] at hsource
        refine ⟨info, ?_, ?_⟩
        · rw [hrest.others id' hid, AList.lookup_insert]
        · exact (loadSptsInput_followsSource hfilters.runs hsource hload).mono hrest.live
      · obtain ⟨info', hinfo, hfollows⟩ := hrest.filters id' row' sourceId hr hfilters
        exact ⟨info', hinfo, hstreams ▸ hfollows⟩

end Filters

/-! ## The outputs -/

/-- Live tasks stay live, and each entry keeps its task and its channel. -/
structure World.KeepsTasks (w w' : World) : Prop where
  live : w.rt.live ⊆ w'.rt.live
  entries : ∀ j, (w'.streams.lookup j).map (fun info => (info.taskHandle, info.packetTx)) =
    (w.streams.lookup j).map fun info => (info.taskHandle, info.packetTx)

theorem World.KeepsTasks.refl (w : World) : w.KeepsTasks w := ⟨List.Subset.refl _, fun _ => rfl⟩

theorem World.KeepsTasks.trans {w w' w'' : World} (h : w.KeepsTasks w')
    (h' : w'.KeepsTasks w'') : w.KeepsTasks w'' :=
  ⟨List.Subset.trans h.live h'.live, fun j => (h'.entries j).trans (h.entries j)⟩

theorem World.KeepsTasks.lookup {w w' : World} (h : w.KeepsTasks w') {j : Int}
    {info : InputInfo} (hj : w.streams.lookup j = some info) :
    ∃ info', w'.streams.lookup j = some info' ∧ info'.taskHandle = info.taskHandle ∧
      info'.packetTx = info.packetTx := by
  have hentry := h.entries j
  rw [hj] at hentry
  obtain ⟨info', hinfo', heq⟩ := Option.map_eq_some_iff.mp hentry
  exact ⟨info', hinfo', Prod.mk.inj heq⟩

theorem keepsTasks_loadGroupSection (env : Env) (i : Int) (outs : List (Int × OutputRow))
    (w : World) : w.KeepsTasks (loadGroupSection env i outs w).2 := by
  unfold loadGroupSection
  split
  · exact .refl w
  rename_i info hinfo
  obtain ⟨ts, hstarted⟩ := loadOutputs_started env i outs info w.rt
  refine ⟨?_, fun j => ?_⟩
  · show w.rt.live ⊆ (loadOutputs env i outs info w.rt).2.2.live
    rw [hstarted.launches.live]
    exact List.subset_append_left _ _
  · show ((w.streams.insert i (loadOutputs env i outs info w.rt).2.1).lookup j).map _ = _
    rw [HashMap.lookup_insert_eq]
    split
    · rename_i hj
      rw [hj, hinfo, Option.map_some, Option.map_some, hstarted.frame]
    · rfl

/-- Also when the load of the outputs stops at an error. -/
theorem keepsTasks_loadGroups (env : Env) (outs : List (Int × OutputRow)) (inputIds : List Int)
    (w : World) : ∃ r w', (loadGroups env outs inputIds).alone false w = some (r, false, w') ∧
      w.KeepsTasks w' := by
  induction inputIds generalizing w with
  | nil => exact ⟨_, _, rfl, .refl w⟩
  | cons i rest ih =>
    have hkeeps := keepsTasks_loadGroupSection env i (outs.filter fun o => o.2.inputId = i) w
    unfold loadGroups
    rw [alone_locked_bind]
    split
    · exact ⟨_, _, rfl, hkeeps⟩
    · obtain ⟨r, w', hr, hrest⟩ := ih _
      exact ⟨r, w', hr, hkeeps.trans hrest⟩

/-! ## The load -/

/-- The rows can be read. -/
structure Env.Reads (env : Env) : Prop where
  inputs : env.queryError .getAllInputs = none
  outputs : env.queryError .getAllOutputs = none

theorem Env.Reads.getAllInputs {env : Env} (h : env.Reads) (w : World) :
    StreamGateway.getAllInputs env w = (.ok w.db.inputs.rows, w) := by
  unfold StreamGateway.getAllInputs select query
  rw [h.inputs]

theorem Env.Reads.getAllOutputs {env : Env} (h : env.Reads) (w : World) :
    StreamGateway.getAllOutputs env w = (.ok w.db.outputs.rows, w) := by
  unfold StreamGateway.getAllOutputs select query
  rw [h.outputs]

def baseRows (db : Database) : List (Int × InputRow) :=
  db.inputs.rows.filter fun r => r.2.kind ≠ "spts"

def sptsRows (db : Database) : List (Int × InputRow) :=
  db.inputs.rows.filter fun r => r.2.kind = "spts"

/-- The other inputs are in memory when the filters are made, and the outputs come last. -/
structure LoadsChains (db : Database) (loaded sptsLoaded : HashMap Int InputInfo)
    (w₁ w₂ w' : World) : Prop where
  streams : w₁.streams = HashMap.extend ∅ loaded
  base : ∀ j, j ∈ loaded ↔ ∃ row, (j, row) ∈ baseRows db
  spts : ∀ j, j ∈ sptsLoaded ↔ ∃ row, (j, row) ∈ sptsRows db
  filters : LoadsFilters (sptsRows db) ∅ sptsLoaded w₁ w₂
  keeps : World.KeepsTasks
    { w₂ with streams := (HashMap.extend ∅ loaded).extend sptsLoaded } w'

theorem loadFromDb_chains {env : Env} {db : Database}
    (hrows : ∀ i row, (i, row) ∈ db.inputs.rows → row.Loadable) (hreads : env.Reads) :
    ∃ r w', (loadFromDb env).alone false (.boot db) = some (r, false, w') ∧
      ∃ loaded sptsLoaded w₁ w₂, LoadsChains db loaded sptsLoaded w₁ w₂ w' := by
  have hbaseRows : ∀ r ∈ baseRows db, r.2.Loadable :=
    fun r hr => hrows r.1 r.2 (List.mem_of_mem_filter hr)
  have hsptsRows : ∀ r ∈ sptsRows db, r.2.Loadable :=
    fun r hr => hrows r.1 r.2 (List.mem_of_mem_filter hr)
  obtain ⟨_, w₁, hbase, _, _, loaded, rfl⟩ := loadBaseInputs_ok env hbaseRows ∅ (.boot db)
  obtain ⟨_, _, hs₁, hcovers⟩ := (loadBaseInputs_covers env _ _ covers_empty).eq hbase
  obtain ⟨_, w₂, hspts, _, _, sptsLoaded, rfl⟩ :=
    loadSptsInputs_ok env hsptsRows ∅ (insertInputs loaded w₁).2
  obtain ⟨_, _, hs₂, hcovers'⟩ := (loadSptsInputs_covers env _ _ covers_empty).eq hspts
  have hstreams : (insertInputs loaded w₁).2.streams = HashMap.extend ∅ loaded := by
    show w₁.streams.extend loaded = _
    rw [hs₁]
    rfl
  have hfinal : (insertInputs sptsLoaded w₂).2 =
      { w₂ with streams := (HashMap.extend ∅ loaded).extend sptsLoaded } := by
    show { w₂ with streams := w₂.streams.extend sptsLoaded } = _
    rw [hs₂, hstreams]
  obtain ⟨r, w', hgroups, hkeeps⟩ := keepsTasks_loadGroups env w₂.db.outputs.rows
    (w₂.db.outputs.rows.map fun o => o.2.inputId).dedup (insertInputs sptsLoaded w₂).2
  refine ⟨r, w', ?_, loaded, sptsLoaded, _, w₂, hstreams, fun j => ?_, fun j => ?_,
    loadsFilters_loadSptsInputs (db.inputs.nodup_keys_filter _) hspts, hfinal ▸ hkeeps⟩
  · unfold loadFromDb
    rw [alone_atomic_bind, hreads.getAllInputs]
    dsimp only
    rw [alone_bind, show (World.boot db).db.inputs.rows.filter _ = baseRows db from rfl, hbase]
    dsimp only [Option.bind_some]
    rw [alone_locked_bind, alone_bind, show (World.boot db).db.inputs.rows.filter _ = sptsRows db
      from rfl, hspts]
    dsimp only [Option.bind_some]
    rw [alone_atomic_bind, hreads.getAllOutputs]
    dsimp only
    rw [alone_locked_bind]
    exact hgroups
  · refine (((hcovers loaded rfl).2 j).trans (iff_of_eq (false_or _))).trans ?_
    refine exists_congr fun row => and_iff_left_of_imp fun hrow => ?_
    obtain ⟨req, hkind, _⟩ := hbaseRows _ hrow
    exact ⟨hkind ▸ inputKindString_mem req, by simpa using (List.mem_filter.mp hrow).2⟩
  · refine (((hcovers' sptsLoaded rfl).2 j).trans (iff_of_eq (false_or _))).trans ?_
    exact exists_congr fun row => iff_of_eq (and_true _)

/-- After the load, a filter that is to run is subscribed to its source if and only if the
source is not a filter. -/
theorem loadFromDb_subscribes_iff {env : Env} {db : Database}
    (hrows : ∀ i row, (i, row) ∈ db.inputs.rows → row.Loadable) (hreads : env.Reads) :
    ∃ r w', (loadFromDb env).alone false (.boot db) = some (r, false, w') ∧
      ∀ id row sourceId sourceRow, (id, row) ∈ db.inputs.rows → row.Filters sourceId →
        (sourceId, sourceRow) ∈ db.inputs.rows →
        (w'.SubscribedTo id sourceId ↔ sourceRow.kind ≠ "spts") := by
  obtain ⟨r, w', hrun, loaded, sptsLoaded, w₁, w₂, hchains⟩ := loadFromDb_chains hrows hreads
  refine ⟨r, w', hrun, fun id row sourceId sourceRow hrow hfilters hsource => ?_⟩
  have hspts : (id, row) ∈ sptsRows db :=
    List.mem_filter.mpr ⟨hrow, by simpa using hfilters.kind⟩
  obtain ⟨info, hinfo, hfollows⟩ := hchains.filters.filters id row sourceId hspts hfilters
  have hentry : (AList.lookup id ((HashMap.extend ∅ loaded).extend sptsLoaded)) = some info :=
    HashMap.lookup_extend_eq_some.mpr (.inl hinfo)
  obtain ⟨info', hinfo', hhandle, _⟩ := hchains.keeps.lookup hentry
  have hrow_eq : ∀ row', (sourceId, row') ∈ db.inputs.rows → row' = sourceRow :=
    fun row' h => (Prod.mk.inj (Table.eq_of_mem h hsource rfl)).2
  rw [hchains.streams] at hfollows
  constructor
  · rintro ⟨info₁, source, hinfo₁, _, t, _, ht, _⟩ hchain
    have hnone : (HashMap.extend ∅ loaded).lookup sourceId = none := by
      refine AList.lookup_eq_none.mpr fun hmem => ?_
      rcases AList.mem_union.mp hmem with hmem | hmem
      · obtain ⟨row', hrow'⟩ := (hchains.base sourceId).mp hmem
        obtain ⟨hrow', hother⟩ := List.mem_filter.mp hrow'
        rw [hrow_eq row' hrow'] at hother
        simp [hchain] at hother
      · exact AList.notMem_empty _ hmem
    rw [hnone] at hfollows
    obtain rfl : info' = info₁ := Option.some.inj (hinfo'.symm.trans hinfo₁)
    rw [hhandle, hfollows] at ht
    exact absurd ht (by simp)
  · intro hother
    have hbase : (sourceId, sourceRow) ∈ baseRows db :=
      List.mem_filter.mpr ⟨hsource, by simpa using hother⟩
    obtain ⟨source, hloaded⟩ := HashMap.mem_iff.mp ((hchains.base sourceId).mpr ⟨sourceRow, hbase⟩)
    have hmem : (HashMap.extend ∅ loaded).lookup sourceId = some source :=
      HashMap.lookup_extend_eq_some.mpr (.inl hloaded)
    have hnotFilter : sourceId ∉ sptsLoaded := by
      intro h
      obtain ⟨row', hrow'⟩ := (hchains.spts sourceId).mp h
      obtain ⟨hrow', hfilter⟩ := List.mem_filter.mp hrow'
      rw [hrow_eq row' hrow'] at hfilter
      exact hother (by simpa using hfilter)
    have hsourceEntry :
        (AList.lookup sourceId ((HashMap.extend ∅ loaded).extend sptsLoaded)) = some source :=
      HashMap.lookup_extend_eq_some.mpr (.inr ⟨hnotFilter, hmem⟩)
    obtain ⟨source', hsource', _, hpacketTx⟩ := hchains.keeps.lookup hsourceEntry
    rw [hmem] at hfollows
    obtain ⟨t, ht, hinfoHandle, hrx⟩ := hfollows
    exact ⟨info', source', hinfo', hsource', t, hchains.keeps.live ht, hhandle.trans hinfoHandle,
      hpacketTx ▸ hrx⟩

def filterRequest (sourceId : Int) : CreateInputRequest := .spts sourceId 1 none none

/-- A UDP input, a filter on it and a filter on that filter are created. -/
def chainCalls : List Operation :=
  [.createInput (udpInputRequest 5000), .createInput (filterRequest 1),
    .createInput (filterRequest 2)]

/-- The rows that they leave can be loaded. -/
theorem chainCalls_loadable {w : World}
    (h : World.afterLoad localEnv emptyDatabase chainCalls = some w) : w.db.Loadable := by
  have hkeeps : ∀ op ∈ chainCalls, ∀ w, op.KeepsPort w := by
    intro op hop w
    simp only [chainCalls, List.mem_cons, List.not_mem_nil, or_false] at hop
    rcases hop with rfl | rfl | rfl <;> trivial
  exact (written_afterLoad .empty hkeeps h).loadable

/-- The first filter comes back on its source. -/
theorem loadFromDb_subscribes_iff_chain :
    ∃ w r w', World.afterLoad localEnv emptyDatabase chainCalls = some w ∧
      (loadFromDb localEnv).alone false (.boot w.db) = some (r, false, w') ∧
      w'.SubscribedTo 2 1 := by
  have hview : (World.afterLoad localEnv emptyDatabase chainCalls).any (fun w =>
      (w.db.inputs.find 2).any (fun row => decide (row.Filters 1)) &&
        (w.db.inputs.find 1).any fun row => decide (row.kind ≠ "spts")) = true := by
    decide +kernel
  obtain ⟨w, hw, hview⟩ := (Option.any_eq_true _ _).mp hview
  obtain ⟨hfilter, hsource⟩ := Bool.and_eq_true_iff.mp hview
  obtain ⟨row, hrow, hfilter⟩ := (Option.any_eq_true _ _).mp hfilter
  obtain ⟨sourceRow, hsourceRow, hkind⟩ := (Option.any_eq_true _ _).mp hsource
  obtain ⟨r, w', hload, hiff⟩ :=
    @loadFromDb_subscribes_iff localEnv w.db (chainCalls_loadable hw).inputs ⟨rfl, rfl⟩
  refine ⟨w, r, w', hw, hload, ?_⟩
  exact (hiff 2 row 1 sourceRow (Table.find_eq_some.mp hrow) (of_decide_eq_true hfilter)
    (Table.find_eq_some.mp hsourceRow)).mpr (of_decide_eq_true hkind)

/-- The second one ran on its source, and comes back without a task. -/
theorem loadFromDb_breaks_chain :
    ¬ ∀ (env : Env) (db : Database), (∀ i row, (i, row) ∈ db.inputs.rows → row.Loadable) →
      env.Reads → ∀ r held w', (loadFromDb env).alone false (.boot db) = some (r, held, w') →
      ∀ id row sourceId sourceRow, (id, row) ∈ db.inputs.rows → row.Filters sourceId →
        (sourceId, sourceRow) ∈ db.inputs.rows → w'.SubscribedTo id sourceId := by
  intro h
  have hview : (World.afterLoad localEnv emptyDatabase chainCalls).any (fun w =>
      decide (w.SubscribedTo 3 2) &&
        (w.db.inputs.find 3).any (fun row => decide (row.Filters 2)) &&
        (w.db.inputs.find 2).isSome &&
        ((loadFromDb localEnv).alone false (.boot w.db)).any fun r =>
          !decide (r.2.2.SubscribedTo 3 2)) = true := by
    decide +kernel
  obtain ⟨w, hw, hview⟩ := (Option.any_eq_true _ _).mp hview
  simp only [Bool.and_eq_true] at hview
  obtain ⟨⟨⟨_, hfilter⟩, hsource⟩, hbroken⟩ := hview
  obtain ⟨row, hrow, hfilter⟩ := (Option.any_eq_true _ _).mp hfilter
  obtain ⟨sourceRow, hsourceRow⟩ := Option.isSome_iff_exists.mp hsource
  obtain ⟨⟨r, held, w'⟩, hload, hbroken⟩ := (Option.any_eq_true _ _).mp hbroken
  have hsubscribed := h localEnv w.db (chainCalls_loadable hw).inputs ⟨rfl, rfl⟩ r held w' hload
    3 row 2 sourceRow (Table.find_eq_some.mp hrow) (of_decide_eq_true hfilter)
    (Table.find_eq_some.mp hsourceRow)
  simp [hsubscribed] at hbroken

end StreamGateway
