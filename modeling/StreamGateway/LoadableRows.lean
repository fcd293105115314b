import StreamGateway.OutputRows
import StreamGateway.Reload

/-!
# Rows that can be loaded

The load gives up when it cannot read a row. Every row has the request that it was written
from, next to the columns taken from it, so it can be read. The one exception is the port
column of a listener: an update takes it from the new field of the merged configuration, while
the old field is dropped, and the load insists on a port.
-/
namespace StreamGateway

open Prog

/-! ## The rows -/

def InputRow.Loadable (row : InputRow) : Prop :=
  ∃ req : CreateInputRequest, row.kind = inputKindString req ∧ row.configJson = .obj req.toFields

/-- The columns that belong to a request. The port matters to a listener alone. -/
structure OutputRow.WrittenFrom (row : OutputRow) (req : CreateOutputRequest) : Prop where
  kind : row.kind = outputRowKind req
  configJson : row.configJson = some (.obj req.toFields)
  listenPort : row.kind = "srt_listener" → row.listenPort.isSome = true

def OutputRow.Loadable (row : OutputRow) : Prop := ∃ req, row.WrittenFrom req

structure Database.Loadable (db : Database) : Prop where
  inputs : ∀ i row, (i, row) ∈ db.inputs.rows → row.Loadable
  outputs : ∀ k row, (k, row) ∈ db.outputs.rows → row.Loadable

theorem loadable_empty : emptyDatabase.Loadable :=
  ⟨fun _ _ h => absurd h List.not_mem_nil, fun _ _ h => absurd h List.not_mem_nil⟩

/-! ## The load of such rows -/

theorem InputRow.Loadable.baseRequest_isSome {row : InputRow} (h : row.Loadable)
    (srtName : Option String) : baseRequest row srtName ≠ some none := by
  obtain ⟨req, hkind, hjson⟩ := h
  unfold baseRequest
  rw [hjson]
  cases req with
  | udp =>
    have hudp : row.kind = "udp" := hkind
    simp [hudp, Json.read, CreateInputRequest.ofFields_toFields]
  | spts =>
    have hspts : row.kind = "spts" := hkind
    simp [hspts]
  | srt name config =>
    have hread := SrtInputConfig.ofFields_of_sameConfig (sameConfig_srtInput name config)
    split_ifs <;> simp [Json.read, hread, CreateInputRequest.ofFields_toFields]

theorem InputRow.Loadable.request {row : InputRow} (h : row.Loadable) :
    ∃ req, row.configJson.read CreateInputRequest.ofFields = some req := by
  obtain ⟨req, _, hjson⟩ := h
  refine ⟨req, ?_⟩
  rw [hjson]
  exact CreateInputRequest.ofFields_toFields req

theorem loadBaseInputs_ok (env : Env) {rows : List (Int × InputRow)}
    (hrows : ∀ r ∈ rows, r.2.Loadable) (loaded : HashMap Int InputInfo) (w : World) :
    LeavesStreams (loadBaseInputs env rows loaded) w fun r => ∃ loaded', r = .ok loaded' := by
  induction rows generalizing loaded w with
  | nil => exact .ret ⟨loaded, rfl⟩
  | cons r rest ih =>
    obtain ⟨id, row⟩ := r
    have hrest : ∀ r ∈ rest, r.2.Loadable := fun r hr => hrows r (List.mem_cons_of_mem _ hr)
    unfold loadBaseInputs
    split
    · exact ih hrest loaded w
    · rename_i hnone
      exact absurd hnone ((hrows _ List.mem_cons_self).baseRequest_isSome _)
    · rename_i req _
      exact (loadBaseInput_bare id row req w).bind fun info w _ => ih hrest _ w

theorem loadSptsInputs_ok (env : Env) {rows : List (Int × InputRow)}
    (hrows : ∀ r ∈ rows, r.2.Loadable) (loaded : HashMap Int InputInfo) (w : World) :
    LeavesStreams (loadSptsInputs env rows loaded) w fun r => ∃ loaded', r = .ok loaded' := by
  induction rows generalizing loaded w with
  | nil => exact .ret ⟨loaded, rfl⟩
  | cons r rest ih =>
    obtain ⟨id, row⟩ := r
    have hrest : ∀ r ∈ rest, r.2.Loadable := fun r hr => hrows r (List.mem_cons_of_mem _ hr)
    obtain ⟨req, hread⟩ := (hrows _ List.mem_cons_self).request
    unfold loadSptsInputs
    rw [hread]
    exact (loadSptsInput_bare id row req w).bind fun info w _ => ih hrest _ w

theorem OutputRow.WrittenFrom.storedCommon {row : OutputRow} {req : CreateOutputRequest}
    (h : row.WrittenFrom req) (env : Env) (hkind : row.kind ≠ "udp") :
    ∃ common, StreamGateway.storedCommon env row = .ok common := by
  cases req with
  | udp => exact absurd h.kind hkind
  | srt inputId name config => exact ⟨_, storedCommon_row env h.configJson⟩

theorem OutputRow.Loadable.recreateOutput {row : OutputRow} (h : row.Loadable) (env : Env)
    (inputId : Int) (input : InputInfo) (id : Int) (rt : Runtime) :
    ∃ r, StreamGateway.recreateOutput env inputId input id row rt = .ok r := by
  obtain ⟨req, hrow⟩ := h
  unfold StreamGateway.recreateOutput
  by_cases hudp : row.kind = "udp"
  · rw [if_pos hudp]
    split
    · split <;> exact ⟨_, rfl⟩
    · exact ⟨_, rfl⟩
  · obtain ⟨common, hcommon⟩ := hrow.storedCommon env hudp
    rw [if_neg hudp, hcommon]
    split_ifs with hcaller hlistener
    · exact ⟨_, rfl⟩
    · obtain ⟨port, hport⟩ := Option.isSome_iff_exists.mp (hrow.listenPort hlistener)
      rw [hport]
      exact ⟨_, rfl⟩
    · exact ⟨_, rfl⟩

theorem OutputRow.Loadable.loadOutput {row : OutputRow} (h : row.Loadable) (env : Env)
    (inputId : Int) (input : InputInfo) (id : Int) (rt : Runtime) :
    ∃ r, StreamGateway.loadOutput env inputId input id row rt = .ok r := by
  unfold StreamGateway.loadOutput
  split
  · split <;> exact ⟨_, rfl⟩
  · obtain ⟨r, hr⟩ := h.recreateOutput env inputId input id rt
    rw [hr]
    cases r <;> exact ⟨_, rfl⟩

theorem loadOutputs_ok (env : Env) (inputId : Int) {outs : List (Int × OutputRow)}
    (houts : ∀ o ∈ outs, o.2.Loadable) (input : InputInfo) (rt : Runtime) :
    (loadOutputs env inputId outs input rt).1 = .ok () := by
  induction outs generalizing input rt with
  | nil => rfl
  | cons o rest ih =>
    obtain ⟨id, row⟩ := o
    obtain ⟨⟨input', rt'⟩, hload⟩ :=
      (houts _ List.mem_cons_self).loadOutput env inputId input id rt
    unfold loadOutputs
    rw [hload]
    exact ih (fun o ho => houts o (List.mem_cons_of_mem _ ho)) input' rt'

theorem loadGroupSection_ok (env : Env) (inputId : Int) {outs : List (Int × OutputRow)}
    (houts : ∀ o ∈ outs, o.2.Loadable) (w : World) :
    (loadGroupSection env inputId outs w).1 = .ok () := by
  unfold loadGroupSection
  split
  · rfl
  · exact loadOutputs_ok env inputId houts _ w.rt

theorem loadGroups_ok (env : Env) {outs : List (Int × OutputRow)}
    (houts : ∀ o ∈ outs, o.2.Loadable) (inputIds : List Int) (w : World) :
    ∃ w', (loadGroups env outs inputIds).alone false w = some (.ok (), false, w') := by
  induction inputIds generalizing w with
  | nil => exact ⟨w, rfl⟩
  | cons inputId rest ih =>
    unfold loadGroups
    have hgroup : (loadGroupSection env inputId (outs.filter fun o => o.2.inputId = inputId) w).1 =
        .ok () := loadGroupSection_ok env inputId
      (fun o ho => houts o (List.mem_of_mem_filter ho)) w
    rw [alone_locked_bind, hgroup]
    exact ih _

theorem getAllInputs_error {env : Env} {w : World} {e : String}
    (h : (getAllInputs env w).1 = .error e) : env.queryError .getAllInputs = some e := by
  unfold getAllInputs select query at h
  split at h
  · rename_i e' he
    rw [he, Except.error.inj h]
  · exact absurd h (by simp)

theorem getAllOutputs_error {env : Env} {w : World} {e : String}
    (h : (getAllOutputs env w).1 = .error e) : env.queryError .getAllOutputs = some e := by
  unfold getAllOutputs select query at h
  split at h
  · rename_i e' he
    rw [he, Except.error.inj h]
  · exact absurd h (by simp)

/-- The load gives an error if one of its two queries does, and not otherwise. -/
def LoadGoesThrough (env : Env) (db : Database) : Prop :=
  ∃ r held w', (loadFromDb env).alone false (.boot db) = some (r, held, w') ∧
    ∀ e, r = .error e → env.queryError .getAllInputs = some e ∨
      env.queryError .getAllOutputs = some e

theorem Database.Loadable.goesThrough {db : Database} (h : db.Loadable) (env : Env) :
    LoadGoesThrough env db := by
  have hrows : ∀ (p : Int × InputRow → Bool) (r : Int × InputRow), r ∈ db.inputs.rows.filter p →
      r.2.Loadable := fun p r hr => h.inputs r.1 r.2 (List.mem_of_mem_filter hr)
  unfold LoadGoesThrough loadFromDb
  rw [alone_atomic_bind]
  have hboot : (getAllInputs env (.boot db)).2 = .boot db := select_world env _ _ _
  cases hinputs : (getAllInputs env (.boot db)).1 with
  | error e =>
    refine ⟨_, _, _, rfl, fun e' he => .inl ?_⟩
    rw [← Except.error.inj he]
    exact getAllInputs_error hinputs
  | ok rows =>
  obtain rfl : rows = db.inputs.rows := getAllInputs_ok hinputs
  obtain ⟨_, w₁, hbase, hdb₁, _, loaded, rfl⟩ :=
    loadBaseInputs_ok env (hrows fun r => r.2.kind ≠ "spts") ∅ (.boot db)
  rw [hboot, alone_bind, hbase]
  dsimp only [Option.bind_some]
  rw [alone_locked_bind]
  obtain ⟨_, w₂, hspts, hdb₂, _, sptsLoaded, rfl⟩ :=
    loadSptsInputs_ok env (hrows fun r => r.2.kind = "spts") ∅ (insertInputs loaded w₁).2
  rw [alone_bind, hspts]
  dsimp only [Option.bind_some]
  rw [alone_atomic_bind]
  have hw₂ : (getAllOutputs env w₂).2 = w₂ := select_world env _ _ _
  cases houts : (getAllOutputs env w₂).1 with
  | error e =>
    refine ⟨_, _, _, rfl, fun e' he => .inr ?_⟩
    rw [← Except.error.inj he]
    exact getAllOutputs_error houts
  | ok outs =>
  obtain rfl : outs = db.outputs.rows := by
    rw [getAllOutputs_ok houts, hdb₂]
    exact congrArg (fun db => db.outputs.rows) hdb₁
  rw [hw₂]
  dsimp only
  rw [alone_locked_bind]
  obtain ⟨w', hgroups⟩ := loadGroups_ok env (fun o ho => h.outputs o.1 o.2 ho)
    (db.outputs.rows.map fun o => o.2.inputId).dedup (insertInputs sptsLoaded w₂).2
  exact ⟨_, _, _, hgroups, fun e he => absurd he (by simp)⟩

/-! ## The writers -/

/-- The update of a listener names the port to listen on, or the configuration does in the new
field. -/
def UpdateOutputRequest.NamesPort (req : UpdateOutputRequest) (config : CreateOutputRequest) :
    Prop :=
  match config, req with
  | .srt _ _ (.listener _ bindPort ..), .srt _ (.listener _ newBindPort _) =>
    newBindPort.isSome = true ∨ bindPort.isSome = true
  | _, _ => True

/-- An update of a listener leaves a port. -/
def Operation.KeepsPort : Operation → World → Prop
  | .updateOutput k req, w => ∀ config, w.storedRequest k = some config → req.NamesPort config
  | _, _ => True

theorem mergeInputConfig_kind {current merged : CreateInputRequest} {update : UpdateInputRequest}
    (h : mergeInputConfig current update = .ok merged) :
    inputKindString merged = inputKindString current := by
  unfold mergeInputConfig at h
  split at h
  · obtain rfl := Except.ok.inj h
    rfl
  · split at h
    · obtain rfl := Except.ok.inj h
      rfl
    · obtain rfl := Except.ok.inj h
      rfl
    · exact absurd h (by simp)
  · obtain rfl := Except.ok.inj h
    rfl
  · exact absurd h (by simp)

/-- The port of a merged listener is the one that is named, and it is in the new field. -/
theorem mergeOutputConfig_port {current merged : CreateOutputRequest}
    {update : UpdateOutputRequest} (h : mergeOutputConfig current update = .ok merged)
    (hport : update.NamesPort current) :
    (outputRowKind merged = "srt_listener" → (updatedDestination merged).2.isSome = true) ∧
      update.NamesPort merged := by
  unfold mergeOutputConfig at h
  split at h
  · obtain rfl := Except.ok.inj h
    exact ⟨fun hkind => absurd hkind (by simp [outputRowKind]), trivial⟩
  · split at h
    · obtain rfl := Except.ok.inj h
      rename_i bindPort _ _ _ _ newBindPort _
      have hsome : (newBindPort.or bindPort).isSome = true := by
        rw [Option.isSome_or, Bool.or_eq_true]
        exact hport
      refine ⟨fun _ => ?_, .inr hsome⟩
      obtain ⟨port, hp⟩ := Option.isSome_iff_exists.mp hsome
      simp [updatedDestination, SrtOutputConfig.getBindPort, hp]
    · obtain rfl := Except.ok.inj h
      exact ⟨fun hkind => absurd hkind (by simp [outputRowKind]), trivial⟩
    · exact absurd h (by simp)
  · exact absurd h (by simp)

theorem InputRow.Loadable.merged {row : InputRow} (h : row.Loadable) {env : Env}
    {req : UpdateInputRequest} {merged : CreateInputRequest}
    (hm : mergedInput env req row = .ok merged) :
    InputRow.Loadable { row with
      name := getNameFromRequest merged
      configJson := .obj merged.toFields } := by
  obtain ⟨stored, hkind, hjson⟩ := h
  refine ⟨merged, ?_, rfl⟩
  unfold mergedInput at hm
  rw [hjson] at hm
  simp only [Json.read, CreateInputRequest.ofFields_toFields] at hm
  split at hm
  · exact absurd hm (by simp)
  rename_i hmerge
  split at hm
  · exact absurd hm (by simp)
  · obtain rfl := Except.ok.inj hm
    exact hkind.trans (mergeInputConfig_kind hmerge).symm

theorem OutputRow.WrittenFrom.merged {row : OutputRow} {stored merged : CreateOutputRequest}
    (h : row.WrittenFrom stored) {env : Env} {req : UpdateOutputRequest}
    (hm : mergedOutput env req row = .ok merged) (hport : req.NamesPort stored) :
    (row.withConfig merged).WrittenFrom merged ∧ req.NamesPort merged := by
  unfold mergedOutput currentOutputConfig at hm
  rw [h.configJson] at hm
  simp only [Json.read, CreateOutputRequest.ofFields_toFields] at hm
  split at hm
  · exact absurd hm (by simp)
  rename_i hmerge
  split at hm
  · exact absurd hm (by simp)
  obtain rfl := (Except.ok.inj hm).symm
  have hkind : row.kind = outputRowKind merged :=
    h.kind.trans (mergeOutputConfig_same hmerge).1.symm
  obtain ⟨hlistener, hnames⟩ := mergeOutputConfig_port hmerge hport
  exact ⟨⟨hkind, rfl, fun hl => hlistener (hkind.symm.trans hl)⟩, hnames⟩

theorem newOutputRow_loadable (req : CreateOutputRequest) : (newOutputRow req).Loadable := by
  refine ⟨req, rfl, rfl, fun hkind => ?_⟩
  cases req with
  | udp => exact absurd hkind (by simp [newOutputRow, outputRowKind])
  | srt inputId name config =>
    cases config with
    | caller => exact absurd hkind (by simp [newOutputRow, outputRowKind])
    | listener => rfl

theorem World.storedRequest_eq {w : World} {k : Int} {row : OutputRow} {req : CreateOutputRequest}
    (hk : (k, row) ∈ w.db.outputs.rows) (h : row.WrittenFrom req) :
    w.storedRequest k = some req := by
  simp [World.storedRequest, Table.find_eq_some.mpr hk, h.configJson, Json.read,
    CreateOutputRequest.ofFields_toFields]

/-! ## One step -/

/-- Nothing happens between the steps of a call. -/
def aloneRely : Guarded World := fun _ w w' => w' = w

instance (h : Option LockMode) : IsTrans World (aloneRely h) := ⟨fun _ _ _ h₁ h₂ => h₂.trans h₁⟩

/-- The rows can be loaded, and the request that runs, if one does, keeps it so. -/
structure LoadableFor (op : Option Operation) (w : World) : Prop where
  loadable : w.db.Loadable
  keepsPort : ∀ request, op = some request → request.KeepsPort w

/-- The rows of inputs are inserted, rewritten after an update, or deleted, and statuses are
written. -/
theorem Act.inputRows {ops : Option Operation → Prop} {h : Option LockMode} {w w' : World}
    (ha : Act aloneRely ops h w w') (hw : ∀ i row, (i, row) ∈ w.db.inputs.rows → row.Loadable) :
    ∀ i row, (i, row) ∈ w'.db.inputs.rows → row.Loadable := by
  revert hw
  refine ha.databaseCases ?same ?saveInput ?inputStatus ?updateInput ?deleteInput ?saveOutput
    ?outputStatus ?updateOutput ?deleteOutput
  case same =>
    intro h w w' hdb hw
    rwa [hdb]
  case saveInput =>
    intro h w w' called name req _ hdb hw i row hrow
    rw [hdb] at hrow
    rcases Table.mem_insert.mp hrow with hrow | hrow
    · exact hw i row hrow
    · obtain ⟨_, rfl⟩ := Prod.mk.inj hrow
      exact ⟨req, rfl, rfl⟩
  case inputStatus =>
    intro h w w' i status hdb hw j row hrow
    rw [hdb] at hrow
    obtain ⟨row, hold, rfl⟩ := Table.mem_update hrow
    split
    · exact hw j row hold
    · exact hw j row hold
  case updateInput =>
    intro h w w' env i req merged _ hmerged hdb hw j row hrow
    obtain ⟨_, stored, rfl, hfind, hm⟩ := hmerged
    rw [hdb] at hrow
    obtain ⟨row, hold, rfl⟩ := Table.mem_update hrow
    split
    · rename_i hj
      subst hj
      obtain rfl := Option.some.inj (hfind.symm.trans (Table.find_eq_some.mpr hold))
      exact (hw j stored hold).merged hm
    · exact hw j row hold
  case deleteInput =>
    intro w w' i _ hinputs _ hw j row hrow
    rcases hinputs with hinputs | hinputs
    · exact hw j row (hinputs ▸ hrow)
    · rw [hinputs] at hrow
      exact hw j row (List.mem_of_mem_filter hrow)
  case saveOutput =>
    intro w w₁ w' called req _ _ _ _ hdb hw
    rwa [hdb]
  case outputStatus =>
    intro h w w' k status hdb hw
    rwa [hdb]
  case updateOutput =>
    intro w w' env i k req merged _ _ hdb hw
    rwa [hdb]
  case deleteOutput =>
    intro w w' i k _ hdb hw
    rwa [hdb]

theorem LoadableFor.act {op : Option Operation} {h : Option LockMode} {w w' : World}
    (hw : LoadableFor op w) (ha : Act aloneRely (Eq op) h w w') : LoadableFor op w' := by
  have hinputs := ha.inputRows hw.loadable.inputs
  rcases ha.outputRows with hthin | ⟨_, req, hins⟩ | ⟨_, env, i, k, req, merged, hrw⟩
  · refine ⟨⟨hinputs, fun k row' hk => ?_⟩, fun request hop => ?_⟩
    · obtain ⟨row, hold, heq⟩ := hthin.rows k row' hk
      obtain ⟨req, hkind, hjson, hport⟩ := hw.loadable.outputs k row hold
      rw [heq]
      exact ⟨req, hkind, hjson, hport⟩
    · cases request with
      | updateOutput k req =>
        intro config hconfig
        refine hw.keepsPort _ hop config ?_
        obtain ⟨row', hfind, hread⟩ := Option.bind_eq_some_iff.mp hconfig
        obtain ⟨row, hold, heq⟩ := hthin.rows k row' (Table.find_eq_some.mp hfind)
        rw [heq] at hread
        exact Option.bind_eq_some_iff.mpr ⟨row, Table.find_eq_some.mpr hold, hread⟩
      | _ => trivial
  · obtain ⟨called, rfl⟩ := hins.called
    refine ⟨⟨hinputs, fun k row hk => ?_⟩, fun request hop => ?_⟩
    · rw [hins.row] at hk
      rcases Table.mem_insert.mp hk with hold | hnew
      · exact hw.loadable.outputs k row hold
      · obtain ⟨_, rfl⟩ := Prod.mk.inj hnew
        exact newOutputRow_loadable req
    · obtain rfl := Option.some.inj hop
      trivial
  · obtain rfl := hrw.called
    obtain ⟨_, row, rfl, hfind, _, hm⟩ := hrw.known
    have hold := Table.find_eq_some.mp hfind
    obtain ⟨stored, hstored⟩ := hw.loadable.outputs k row hold
    obtain ⟨hmerged, hnames⟩ :=
      hstored.merged hm (hw.keepsPort _ rfl stored (World.storedRequest_eq hold hstored))
    have hnew : (k, row.withConfig merged) ∈ w'.db.outputs.rows := by
      rw [hrw.rows]
      exact Table.mem_update_self hold
    refine ⟨⟨hinputs, fun k' row' hk' => ?_⟩, fun request hop => ?_⟩
    · rw [hrw.rows] at hk'
      obtain ⟨old, hold', rfl⟩ := Table.mem_update hk'
      split
      · rename_i heq
        subst heq
        obtain ⟨_, rfl⟩ := Prod.mk.inj (Table.eq_of_mem hold' hold rfl)
        exact ⟨merged, hmerged⟩
      · exact hw.loadable.outputs k' old hold'
    · obtain rfl := Option.some.inj hop
      intro config hconfig
      obtain rfl := Option.some.inj ((World.storedRequest_eq hnew hmerged).symm.trans hconfig)
      exact hnames

theorem Database.Loadable.idle {w : World} (h : w.db.Loadable) : LoadableFor none w :=
  ⟨h, fun _ hop => absurd hop (by simp)⟩

/-- In every state on the way of a program that takes acts of the request, the rows can be
loaded. -/
theorem LoadableFor.visits {α : Type} {op : Option Operation} {p : Prog World α} {w w' : World}
    (hw : LoadableFor op w) (hp : Acts aloneRely (Eq op) p none w)
    (hv : p.Visits false w w') : w'.db.Loadable := by
  have hrely : ∀ (h : Option LockMode) (w : World), LoadableFor op w → aloneRely h w w :=
    fun _ _ _ => rfl
  exact (Behaves.visits hrely (fun _ _ _ hi ha => hi.act ha) hp hw hv).loadable

/-! ## Runs -/

/-- One request after the other, next to the processor and the tasks. A request may be cut off
on its way, and one that waits for itself is. -/
inductive RequestStep (C : Operation → World → Prop) : World → World → Prop
  | request {env : Env} {op : Operation} {w w' : World} : C op w →
      (op.prog env).Visits false w w' → RequestStep C w w'
  | process {w w' : World} : processMessage.Visits false w w' → RequestStep C w w'
  | task {w w' : World} : TaskStep w w' → RequestStep C w w'

/-- The databases that requests leave, from an empty one on, over any number of restarts. -/
inductive WrittenDatabase (C : Operation → World → Prop) : Database → Prop
  | empty : WrittenDatabase C emptyDatabase
  | left {env : Env} {db : Database} {r : Except String Unit} {held : Bool} {w w' : World} :
      WrittenDatabase C db → (loadFromDb env).alone false (.boot db) = some (r, held, w) →
      Relation.ReflTransGen (RequestStep C) w w' → WrittenDatabase C w'.db

theorem RequestStep.loadable {w w' : World} (h : RequestStep Operation.KeepsPort w w')
    (hw : w.db.Loadable) : w'.db.Loadable := by
  cases h with
  | @request env op _ _ hc hv =>
    have hop : LoadableFor (some op) w :=
      ⟨hw, fun request heq => Option.some.inj heq ▸ hc⟩
    exact hop.visits (op.acts env rfl w) hv
  | process hv => exact hw.idle.visits (acts_processMessage w) hv
  | task hstep =>
    rw [hstep.db]
    exact hw

theorem WrittenDatabase.loadable {db : Database} (h : WrittenDatabase Operation.KeepsPort db) :
    db.Loadable := by
  induction h with
  | empty => exact loadable_empty
  | @left env db r held w w' _ hload hruns ih =>
    have hstart : LoadableFor none (.boot db) := Database.Loadable.idle (w := .boot db) ih
    have hloaded := hstart.visits (acts_loadFromDb env rfl _) (visits_of_alone hload)
    clear hload
    induction hruns with
    | refl => exact hloaded
    | tail _ hstep ih => exact hstep.loadable ih

/-- Every database that requests leave can be loaded, if updates of listeners leave a port. -/
theorem written_goesThrough (env : Env) {db : Database}
    (h : WrittenDatabase Operation.KeepsPort db) : LoadGoesThrough env db :=
  h.loadable.goesThrough env

theorem requestSteps_afterCalls {C : Operation → World → Prop} {env : Env}
    {ops : List Operation} {w w' : World} (hC : ∀ op ∈ ops, ∀ w, C op w)
    (h : w.afterCalls env ops = some w') : Relation.ReflTransGen (RequestStep C) w w' := by
  induction ops generalizing w with
  | nil =>
    obtain rfl := Option.some.inj h
    exact .refl
  | cons op ops ih =>
    unfold World.afterCalls at h
    split at h
    · rename_i w₁ hr
      have hstep : RequestStep C w w₁ :=
        .request (hC op List.mem_cons_self w) (visits_of_alone hr)
      exact .head hstep (ih (fun o ho => hC o (List.mem_cons_of_mem _ ho)) h)
    · exact absurd h (by simp)

theorem written_afterLoad {C : Operation → World → Prop} {env : Env} {db : Database}
    {ops : List Operation} {w : World} (hdb : WrittenDatabase C db)
    (hC : ∀ op ∈ ops, ∀ w, C op w) (h : World.afterLoad env db ops = some w) :
    WrittenDatabase C w.db := by
  unfold World.afterLoad at h
  split at h
  · rename_i w₁ hload
    rw [alone_ignore, Option.map_eq_some_iff] at hload
    obtain ⟨⟨r, held, w₁'⟩, hload, heq⟩ := hload
    obtain ⟨_, rfl, rfl⟩ := heq
    exact .left hdb hload (requestSteps_afterCalls hC h)
  · exact absurd h (by simp)

/-- A request for an SRT listener as output of the first input, with its port in the old
field. -/
def listenerOutputRequest : CreateOutputRequest :=
  .srt 1 none (.listener none none (some false) .default (some 9001))

/-- An update that gives a listener a name, and may move it to another port. -/
def listenerUpdate (port : Option UInt16) : UpdateOutputRequest :=
  .srt (some "backup") (.listener none port ⟨none, none, none, none, none⟩)

def listenerCalls (port : Option UInt16) : List Operation :=
  [.createInput (udpInputRequest 5000), .createOutput listenerOutputRequest,
    .updateOutput 1 (listenerUpdate port)]

/-- The listener is renamed and gets a port in the new field. -/
theorem listenerCalls_goesThrough :
    ∃ w, World.afterLoad localEnv emptyDatabase (listenerCalls (some 9002)) = some w ∧
      w.db.outputs.rows.map (fun r => r.2.listenPort) = [some 9002] ∧
      LoadGoesThrough localEnv w.db := by
  have hview : (World.afterLoad localEnv emptyDatabase (listenerCalls (some 9002))).map
      (fun w => w.db.outputs.rows.map fun r => r.2.listenPort) = some [some 9002] := by
    decide +kernel
  obtain ⟨w, hw, hview⟩ := Option.map_eq_some_iff.mp hview
  have hkeeps : ∀ op ∈ listenerCalls (some 9002), ∀ w, op.KeepsPort w := by
    intro op hop w
    simp only [listenerCalls, List.mem_cons, List.not_mem_nil, or_false] at hop
    rcases hop with rfl | rfl | rfl
    · trivial
    · trivial
    · intro config _
      cases config with
      | udp => trivial
      | srt inputId name config =>
        cases config with
        | listener => exact .inl rfl
        | caller => trivial
  exact ⟨w, hw, hview, written_goesThrough localEnv (written_afterLoad .empty hkeeps hw)⟩

/-- The listener is renamed alone. -/
theorem updateOutput_breaks_load :
    ¬ ∀ (env : Env) (db : Database), WrittenDatabase (fun _ _ => True) db →
      LoadGoesThrough env db := by
  intro h
  have herror : (World.afterLoad localEnv emptyDatabase (listenerCalls none)).any (fun w =>
      ((loadFromDb localEnv).alone false (.boot w.db)).any fun r => !r.1.isOk) = true := by
    decide +kernel
  obtain ⟨w, hw, herror⟩ := (Option.any_eq_true _ _).mp herror
  obtain ⟨r, hload, herror⟩ := (Option.any_eq_true _ _).mp herror
  obtain ⟨r', held, w', hload', hcause⟩ :=
    h localEnv w.db (written_afterLoad .empty (fun _ _ _ => trivial) hw)
  rw [hload] at hload'
  obtain rfl := Option.some.inj hload'
  cases r' with
  | ok _ => exact absurd herror (by simp [Except.isOk, Except.toBool])
  | error e => exact absurd (hcause e rfl) (by simp [localEnv])

end StreamGateway
