import StreamGateway.Gauges

/-!
# Gauges after the load

The load puts each entry aside that it makes, and enters many at once. Counted as if each were
entered when it is made, the gauges are right all the time, and so they are right at the end.
-/
namespace StreamGateway

open Prog

/-- The gauges are right, and the tasks for inputs are those of the inputs in memory. -/
structure World.Accounted (w : World) : Prop where
  balance : w.balance = 0
  serves : w.Serves (taskInputs w.rt.spawned)
  keyed : w.OutputsKeyed

theorem taskInputs_append (ts ts' : List Task) :
    taskInputs (ts ++ ts') = taskInputs ts ∪ taskInputs ts' := by
  ext i
  simp only [mem_taskInputs, Finset.mem_union, List.mem_append, or_and_right, exists_or]

theorem Deed.Does.accounted {w w' : World} (h : Deed.openInput.Does w w') (hw : w.Accounted)
    (hdb : w'.db = w.db) : w'.Accounted := by
  have hbalance := h.balance hw.keyed
  have hserves := h.serves hw.serves
  have hkeyed := h.outputsKeyed hw.keyed (Int.le_of_eq (by rw [hdb]))
  obtain ⟨i, before, after, ms, ts, ht, hc⟩ := h
  refine ⟨?_, ?_, hkeyed⟩
  · rw [hbalance, hw.balance]
    rfl
  · rw [ht.adds.spawned, taskInputs_append]
    rw [servedAfter, ht.spawned] at hserves
    simpa [Deed.ended] using hserves

/-! ## Loaded inputs -/

/-- The loaded entries are counted as if they were in memory. -/
def World.holding (w : World) (loaded : HashMap Int InputInfo) : World := (insertInputs loaded w).2

/-- An entry is made without outputs, and nothing else is done. -/
structure MakesInput (id : Int) (info : InputInfo) (w w' : World) : Prop where
  opens : Opens id info w.rt w'.rt
  idle : info.status.isConnected = false
  bare : info.Bare
  streams : w'.streams = w.streams
  db : w'.db = w.db

section Inputs

variable {env : Env} {w w' : World} {held : Bool} {id : Int} {row : InputRow}
  {req : CreateInputRequest} {info : InputInfo} {loaded loaded' : HashMap Int InputInfo}

theorem makesInput_openIdle (id : Int) (name : Option String) {status : StreamStatus}
    (config : CreateInputRequest) (errorMessage : Option String) (w : World)
    (hs : status.isConnected = false) :
    MakesInput id (openIdle id name status config errorMessage w).1 w
      (openIdle id name status config errorMessage w).2 :=
  ⟨.idle rfl (.of_eq rfl rfl), hs, ⟨rfl, rfl⟩, rfl, rfl⟩

theorem makesInput_respawnInput {name : Option String} {failure : String}
    (h : (respawnInput req id name failure).alone false w = some (info, held, w')) :
    MakesInput id info w w' := by
  obtain ⟨_, hdb, hs, hbare⟩ := (respawnInput_bare req id name failure w).eq h
  obtain ⟨r, _, w₁, hspawn, h⟩ := alone_bind_eq_some.mp h
  rcases spawnInput_opens hspawn with ⟨info, rfl, hopens, hidle⟩ | ⟨⟨e, rfl⟩, hrt⟩
  · obtain ⟨rfl, _, rfl⟩ := alone_ret_eq_some.mp h
    exact ⟨hopens, hidle, hbare, hs, hdb⟩
  · obtain ⟨rfl, _, rfl⟩ := alone_ret_eq_some.mp h
    have hadds : Adds [] [] w.rt w₁.rt := .of_eq (by rw [hrt]) (by rw [hrt])
    exact ⟨.idle rfl ⟨hadds.metrics, hadds.spawned⟩, rfl, hbare, hs, hdb⟩

theorem makesInput_loadBaseInput
    (h : (loadBaseInput id row req).alone false w = some (info, held, w')) :
    MakesInput id info w w' := by
  unfold loadBaseInput at h
  split at h
  · obtain ⟨rfl, _, rfl⟩ := alone_ret_eq_some.mp h
    exact makesInput_openIdle id _ _ _ w rfl
  · exact makesInput_respawnInput h

theorem makesInput_loadSptsInput
    (h : (loadSptsInput id row req).alone false w = some (info, held, w')) :
    MakesInput id info w w' := by
  have hworld : (missingSource req w).2 = w := by
    unfold missingSource
    split <;> rfl
  unfold loadSptsInput at h
  split at h
  · obtain ⟨rfl, _, rfl⟩ := alone_ret_eq_some.mp h
    exact makesInput_openIdle id _ _ _ w rfl
  rw [alone_locked_bind, hworld] at h
  split at h
  · obtain ⟨rfl, _, rfl⟩ := alone_ret_eq_some.mp h
    exact makesInput_openIdle id _ _ _ w rfl
  · exact makesInput_respawnInput h

theorem mem_holding {j : Int} : j ∈ (w.holding loaded).streams ↔ j ∈ loaded ∨ j ∈ w.streams :=
  AList.mem_union

/-- A loaded entry is counted when it is made. -/
theorem MakesInput.accounted (h : MakesInput id info w w')
    (hnew : id ∉ (w.holding loaded).streams) (hw : (w.holding loaded).Accounted) :
    (w'.holding (loaded.insert id info)).Accounted := by
  have hentered : ∀ ms ts, Adds ms ts w.rt w'.rt → Touches id none (some info) ms ts
      (w.holding loaded) (w'.holding (loaded.insert id info)) := by
    intro ms ts hadds
    refine ⟨AList.lookup_eq_none.mpr hnew, ?_, fun j hj => ?_, hadds⟩
    · show (loaded.insert id info ∪ w'.streams).lookup id = some info
      rw [AList.lookup_union_left ((AList.mem_insert _).mpr (.inl rfl)), AList.lookup_insert]
    · show (loaded.insert id info ∪ w'.streams).lookup j = (loaded ∪ w.streams).lookup j
      by_cases hmem : j ∈ loaded
      · rw [AList.lookup_union_left ((AList.mem_insert _).mpr (.inr hmem)),
          AList.lookup_union_left hmem, AList.lookup_insert_ne hj]
      · have hmem' : j ∉ loaded.insert id info := by
          rw [AList.mem_insert]
          exact not_or_intro hj hmem
        rw [AList.lookup_union_right hmem', AList.lookup_union_right hmem, h.streams]
  have hdeed : Deed.openInput.Does (w.holding loaded) (w'.holding (loaded.insert id info)) :=
    does_openInput info h.opens hentered h.bare h.idle
  exact hdeed.accounted hw h.db

/-- The ids of the other rows are still new. -/
theorem MakesInput.new (h : MakesInput id info w w') {rest : List (Int × InputRow)}
    (hid : id ∉ rest.map Prod.fst)
    (hnew : ∀ r ∈ (id, row) :: rest, r.1 ∉ (w.holding loaded).streams) :
    ∀ r ∈ rest, r.1 ∉ (w'.holding (loaded.insert id info)).streams := by
  intro r hr hmem
  rw [mem_holding, AList.mem_insert, h.streams, or_assoc] at hmem
  rcases hmem with rfl | hmem
  · exact hid (List.mem_map_of_mem hr)
  · exact hnew r (List.mem_cons_of_mem _ hr) (mem_holding.mpr hmem)

theorem accounted_loadBaseInputs {rows : List (Int × InputRow)} (hids : (rows.map Prod.fst).Nodup)
    (hnew : ∀ r ∈ rows, r.1 ∉ (w.holding loaded).streams) (hw : (w.holding loaded).Accounted)
    (h : (loadBaseInputs env rows loaded).alone false w = some (.ok loaded', held, w')) :
    (w'.holding loaded').Accounted := by
  induction rows generalizing loaded w with
  | nil =>
    obtain ⟨hloaded, _, rfl⟩ := alone_ret_eq_some.mp h
    obtain rfl := Except.ok.inj hloaded
    exact hw
  | cons r rest ih =>
    obtain ⟨id, row⟩ := r
    obtain ⟨hid, hids⟩ := List.nodup_cons.mp hids
    unfold loadBaseInputs at h
    split at h
    · exact ih hids (fun r hr => hnew r (List.mem_cons_of_mem _ hr)) hw h
    · exact absurd (alone_ret_eq_some.mp h).1 (by simp)
    · rename_i req _
      obtain ⟨info, _, w₁, hload, h⟩ := alone_bind_eq_some.mp h
      obtain ⟨rfl, _⟩ := (loadBaseInput_bare id row req w).eq hload
      have hmakes := makesInput_loadBaseInput hload
      refine ih hids (hmakes.new hid hnew) ?_ h
      exact hmakes.accounted (hnew _ List.mem_cons_self) hw

theorem accounted_loadSptsInputs {rows : List (Int × InputRow)} (hids : (rows.map Prod.fst).Nodup)
    (hnew : ∀ r ∈ rows, r.1 ∉ (w.holding loaded).streams) (hw : (w.holding loaded).Accounted)
    (h : (loadSptsInputs env rows loaded).alone false w = some (.ok loaded', held, w')) :
    (w'.holding loaded').Accounted := by
  induction rows generalizing loaded w with
  | nil =>
    obtain ⟨hloaded, _, rfl⟩ := alone_ret_eq_some.mp h
    obtain rfl := Except.ok.inj hloaded
    exact hw
  | cons r rest ih =>
    obtain ⟨id, row⟩ := r
    obtain ⟨hid, hids⟩ := List.nodup_cons.mp hids
    unfold loadSptsInputs at h
    split at h
    · exact absurd (alone_ret_eq_some.mp h).1 (by simp)
    · rename_i req _
      obtain ⟨info, _, w₁, hload, h⟩ := alone_bind_eq_some.mp h
      obtain ⟨rfl, _⟩ := (loadSptsInput_bare id row req w).eq hload
      have hmakes := makesInput_loadSptsInput hload
      refine ih hids (hmakes.new hid hnew) ?_ h
      exact hmakes.accounted (hnew _ List.mem_cons_self) hw

end Inputs

/-! ## Loaded outputs -/

section Outputs

variable {env : Env} {i id k : Int} {info info' info'' : InputInfo} {ids : List Int}
  {rt rt' rt'' : Runtime}

/-- Outputs with some of the given ids are loaded into the entry, running or stopped. -/
structure LoadsOutputs (ids : List Int) (info info' : InputInfo) (rt rt' : Runtime) : Prop where
  starts : StartsOutputs ids info info' rt rt'
  stopped : ∀ k ∈ info'.stoppedOutputs, k ∈ info.stoppedOutputs ∨ k ∈ ids
  apart : (∀ k ∈ ids, ¬ info.HasOutput k) → info.KeysApart → info'.KeysApart

theorem LoadsOutputs.refl (ids : List Int) (info : InputInfo) (rt : Runtime) :
    LoadsOutputs ids info info rt rt :=
  ⟨.none ids rfl rt, fun _ => .inl, fun _ => id⟩

theorem LoadsOutputs.hasOutput (h : LoadsOutputs ids info info' rt rt') (hk : info'.HasOutput k) :
    info.HasOutput k ∨ k ∈ ids := by
  rcases hk with hk | hk
  · exact (h.starts.running k hk).imp_left .inl
  · exact (h.stopped k hk).imp_left .inr

theorem LoadsOutputs.cons (h : LoadsOutputs [k] info info' rt rt')
    (h' : LoadsOutputs ids info' info'' rt' rt'') (hk : k ∉ ids) :
    LoadsOutputs (k :: ids) info info'' rt rt'' := by
  refine ⟨h.starts.cons h'.starts hk, fun j hj => ?_, fun hnew hapart => ?_⟩
  · rcases h'.stopped j hj with hj | hj
    · exact (h.stopped j hj).imp_right fun hj => List.mem_cons.mpr (.inl (List.mem_singleton.mp hj))
    · exact .inr (List.mem_cons_of_mem k hj)
  · refine h'.apart (fun j hj hhas => ?_) (h.apart (fun j hj => ?_) hapart)
    · rcases h.hasOutput hhas with hhas | hjk
      · exact hnew j (List.mem_cons_of_mem k hj) hhas
      · exact hk (List.mem_singleton.mp hjk ▸ hj)
    · rw [List.mem_singleton.mp hj]
      exact hnew k List.mem_cons_self

theorem loads_loadOutput {inputId : Int} {row : OutputRow}
    (h : loadOutput env inputId info id row rt = .ok (info', rt')) :
    LoadsOutputs [id] info info' rt rt' := by
  cases loadOutput_loaded h with
  | skipped => exact .refl [id] info rt
  | stopped =>
    refine ⟨.none [id] (by rfl) rt, fun k hk => ?_, fun hnew hapart k hk hstopped => ?_⟩
    · exact ((AList.mem_insert _).mp hk).symm.imp_right List.mem_singleton.mpr
    · rcases (AList.mem_insert _).mp hstopped with rfl | hstopped
      · exact hnew _ (List.mem_singleton_self _) (.inl hk)
      · exact hapart k hk hstopped
  | running hr =>
    obtain ⟨i, spec, hl⟩ := recreateOutput_launch hr
    refine ⟨hl.starts, fun _ => .inl, fun hnew hapart k hk hstopped => ?_⟩
    rcases (AList.mem_insert _).mp hk with rfl | hk
    · exact hnew _ (List.mem_singleton_self _) (.inr hstopped)
    · exact hapart k hk hstopped

theorem loads_loadOutputs {inputId : Int} {outputs : List (Int × OutputRow)}
    (hids : (outputs.map Prod.fst).Nodup)
    (h : loadOutputs env inputId outputs info rt = (.ok (), info', rt')) :
    LoadsOutputs (outputs.map Prod.fst) info info' rt rt' := by
  induction outputs generalizing info rt with
  | nil =>
    obtain ⟨rfl, rfl⟩ : info = info' ∧ rt = rt' := by simpa [loadOutputs] using h
    exact .refl [] info rt
  | cons output outputs ih =>
    obtain ⟨id, row⟩ := output
    obtain ⟨hid, hids⟩ := List.nodup_cons.mp hids
    simp only [loadOutputs] at h
    split at h
    · exact absurd (Prod.mk.inj h).1 (by simp)
    · rename_i info₁ rt₁ hload
      exact (loads_loadOutput hload).cons (ih hids h) hid

end Outputs

section Groups

variable {env : Env} {w w' : World} {held : Bool} {outs : List (Int × OutputRow)}

/-- The outputs of one input are counted when they are loaded. -/
theorem accounted_loadGroupSection {i : Int} (hids : (outs.map Prod.fst).Nodup)
    (hgiven : ∀ o ∈ outs, o.1 ≤ w.db.outputs.lastId)
    (hbare : ∀ info, w.streams.lookup i = some info → info.Bare) (hw : w.Accounted)
    (hok : (loadGroupSection env i outs w).1 = .ok ()) :
    (loadGroupSection env i outs w).2.Accounted ∧ (loadGroupSection env i outs w).2.db = w.db ∧
      ∀ j, j ≠ i → (loadGroupSection env i outs w).2.streams.lookup j = w.streams.lookup j := by
  unfold loadGroupSection at hok ⊢
  cases hi : w.streams.lookup i with
  | none => exact ⟨hw, rfl, fun _ _ => rfl⟩
  | some info =>
  rw [hi] at hok
  dsimp only at hok ⊢
  obtain ⟨ts, hframe⟩ := loadOutputs_started env i outs info w.rt
  rcases hload : loadOutputs env i outs info w.rt with ⟨r, info', rt'⟩
  rw [hload] at hok hframe
  obtain rfl : r = .ok () := hok
  have hloads := loads_loadOutputs hids hload
  obtain ⟨n, ts, hadds, hnone, hcount⟩ := hloads.starts.reports
  have hbareInfo := hbare info hi
  have hnew : ∀ k ∈ outs.map Prod.fst, ¬ info.HasOutput k := fun k _ =>
    not_hasOutput_of_empty hbareInfo.1 hbareInfo.2 k
  have hframe : info' = { info with
      stoppedOutputs := info'.stoppedOutputs
      outputTasks := info'.outputTasks } := hframe.frame
  have hhandle : info'.taskHandle = info.taskHandle := by rw [hframe]
  have hstatus : info'.status = info.status := by rw [hframe]
  have hshares : readings (List.replicate n .incrementActiveOutputs) +
      Totals.weight InputInfo.shares (some info) =
        Totals.weight InputInfo.shares (some info') + 0 := by
    have hcount' := hcount fun k hk hrunning => hnew k hk (.inl hrunning)
    simp [Metric.moves, InputInfo.shares, hhandle, hstatus, hcount', Int.add_comm]
  have ht : Touches i (some info) (some info') _ ts w
      { w with streams := w.streams.insert i info', rt := rt' } := touches_insert hi rfl hadds
  refine ⟨⟨?_, ?_, ?_⟩, rfl, ht.others⟩
  · rw [ht.balance hshares, hw.balance, add_zero]
  · have hserves := ht.serves hhandle hw.serves
    rwa [hadds.spawned, taskInputs_append, taskInputs_eq_empty hnone, Finset.union_empty]
  · refine ht.outputsKeyed rfl (hloads.apart hnew (hw.keyed.apart i info hi)) (fun k hk => ?_)
      hw.keyed
    rcases hloads.hasOutput hk with hk | hk
    · exact hw.keyed.given i info hi k hk
    · obtain ⟨o, ho, rfl⟩ := List.mem_map.mp hk
      exact hgiven o ho

theorem accounted_loadGroups {inputIds : List Int} (hinputs : inputIds.Nodup)
    (hids : (outs.map Prod.fst).Nodup) (hgiven : ∀ o ∈ outs, o.1 ≤ w.db.outputs.lastId)
    (hbare : ∀ i ∈ inputIds, ∀ info, w.streams.lookup i = some info → info.Bare)
    (hw : w.Accounted)
    (h : (loadGroups env outs inputIds).alone false w = some (.ok (), held, w')) :
    w'.Accounted := by
  induction inputIds generalizing w with
  | nil =>
    obtain ⟨_, _, rfl⟩ := alone_ret_eq_some.mp h
    exact hw
  | cons i rest ih =>
    obtain ⟨hi, hinputs⟩ := List.nodup_cons.mp hinputs
    have hgroup : ((outs.filter fun o => o.2.inputId = i).map Prod.fst).Nodup :=
      hids.sublist (List.filter_sublist.map _)
    unfold loadGroups at h
    rw [alone_locked_bind] at h
    split at h
    · exact absurd (alone_ret_eq_some.mp h).1 (by simp)
    · rename_i hok
      obtain ⟨haccounted, hdb, hothers⟩ := accounted_loadGroupSection hgroup
        (fun o ho => hgiven o (List.mem_of_mem_filter ho)) (hbare i List.mem_cons_self) hw hok
      refine ih hinputs (by rwa [hdb]) (fun j hj info hlookup => ?_) haccounted h
      have hji : j ≠ i := fun heq => hi (heq ▸ hj)
      exact hbare j (List.mem_cons_of_mem i hj) info ((hothers j hji).symm.trans hlookup)

end Groups

/-! ## The load -/

theorem accounted_boot (db : Database) : (World.boot db).Accounted := by
  refine ⟨rfl, fun i => iff_of_false (Finset.notMem_empty i) ?_, fun i info hi => ?_,
    fun i info hi => ?_⟩
  · rintro ⟨info, hi, _⟩
    exact absurd hi (by simp [World.boot])
  · exact absurd hi (by simp [World.boot])
  · exact absurd hi (by simp [World.boot])

theorem holding_empty (w : World) : w.holding ∅ = w := by
  show { w with streams := ∅ ∪ w.streams } = w
  rw [AList.empty_union]

/-- After a load that goes through the gauges are right. -/
theorem accounted_load {env : Env} {db : Database} {held : Bool} {w : World}
    (h : (loadFromDb env).alone false (.boot db) = some (.ok (), held, w)) : w.Accounted := by
  obtain ⟨loaded, sptsLoaded, w₁, w₂, hbase, hspts, hs₁, hs₂, hgroups⟩ := loadFromDb_parts h
  obtain ⟨_, hdb₁, _, hcovers⟩ := (loadBaseInputs_covers env _ _ covers_empty).eq hbase
  obtain ⟨_, hdb₂, _, hcovers'⟩ := (loadSptsInputs_covers env _ _ covers_empty).eq hspts
  have hfirst : (w₁.holding loaded).Accounted := by
    refine accounted_loadBaseInputs (db.inputs.nodup_keys_filter _) (fun r _ hr => ?_) ?_ hbase
    · rw [holding_empty] at hr
      exact AList.notMem_empty r.1 hr
    · rw [holding_empty]
      exact accounted_boot db
  have hsecond : (w₂.holding sptsLoaded).Accounted := by
    refine accounted_loadSptsInputs (db.inputs.nodup_keys_filter _) (fun r hr hmem => ?_) ?_ hspts
    · rw [holding_empty, ← World.holding, mem_holding, hs₁] at hmem
      obtain ⟨hr, hkind⟩ := List.mem_filter.mp hr
      rcases ((hcovers loaded rfl).2 r.1).mp (hmem.resolve_right (AList.notMem_empty r.1)) with
        hnone | ⟨row, hrow, _, hother⟩
      · exact hnone
      · have hrow := Table.find_eq_some.mpr (List.mem_filter.mp hrow).1
        have hsame := Option.some.inj ((Table.find_eq_some.mpr hr).symm.trans hrow)
        rw [← hsame] at hother
        exact hother (by simpa using hkind)
    · rw [holding_empty]
      exact hfirst
  have hstreams : (w₂.holding sptsLoaded).streams =
      (HashMap.extend ∅ loaded).extend sptsLoaded := by
    show w₂.streams.extend sptsLoaded = _
    rw [hs₂]
  have hdb : (w₂.holding sptsLoaded).db = db := hdb₂.trans hdb₁
  refine accounted_loadGroups (List.nodup_dedup _) ?_ (fun o ho => ?_) (fun i _ info hi => ?_)
    hsecond hgroups
  · exact db.outputs.nodup_keys
  · rw [hdb]
    exact db.outputs.le_lastId o ho
  · rw [hstreams] at hi
    exact ((hcovers loaded rfl).phases (hcovers' sptsLoaded rfl)).1 i info hi

end StreamGateway
