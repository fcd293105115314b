import StreamGateway.StreamSpecs
import StreamGateway.Loader
import Mathlib.Data.List.Dedup

/-!
# Loading one output

The load first puts the inputs into memory, without outputs, and then loads the outputs one
by one. Whatever the other rows are, a load that goes through loads each output into the
entry of its input as if it were the only one.
-/
namespace StreamGateway

open Prog

def InputInfo.Bare (info : InputInfo) : Prop :=
  info.outputTasks = ∅ ∧ info.stoppedOutputs = ∅

/-- The kinds that `save_input_to_db` writes. -/
def storedKinds : List String := ["udp", "srt_listener", "srt_caller", "spts"]

theorem inputKindString_mem (req : CreateInputRequest) : inputKindString req ∈ storedKinds := by
  cases req with
  | udp | spts => simp [inputKindString, storedKinds]
  | srt name config => cases config <;> simp [inputKindString, storedKinds]

/-! ## The inputs -/

/-- Alone, the program leaves the streams and the database as they are, and the result
satisfies `Q`. -/
def LeavesStreams {α : Type} (p : Prog World α) (w : World) (Q : α → Prop) : Prop :=
  ∃ r w', p.alone false w = some (r, false, w') ∧ w'.db = w.db ∧ w'.streams = w.streams ∧ Q r

namespace LeavesStreams

variable {α β : Type} {w : World} {Q : α → Prop} {Q' : β → Prop}

theorem ret {r : α} (h : Q r) : LeavesStreams (Prog.ret r) w Q := ⟨r, w, rfl, rfl, rfl, h⟩

theorem bind {p : Prog World α} {f : α → Prog World β} (h : LeavesStreams p w Q)
    (hf : ∀ r w', Q r → LeavesStreams (f r) w' Q') : LeavesStreams (p >>= f) w Q' := by
  obtain ⟨r, w', hr, hdb, hs, hq⟩ := h
  obtain ⟨r', w'', hr', hdb', hs', hq'⟩ := hf r w' hq
  refine ⟨r', w'', ?_, hdb'.trans hdb, hs'.trans hs, hq'⟩
  rw [alone_bind, hr]
  exact hr'

theorem mono {p : Prog World α} {Q' : α → Prop} (h : LeavesStreams p w Q)
    (hq : ∀ r, Q r → Q' r) : LeavesStreams p w Q' := by
  obtain ⟨r, w', hr, hdb, hs, h⟩ := h
  exact ⟨r, w', hr, hdb, hs, hq r h⟩

theorem locked {mode : LockMode} {f : World → α × World} (hw : (f w).2.db = w.db ∧
    (f w).2.streams = w.streams) (hq : Q (f w).1) : LeavesStreams (Prog.locked mode f) w Q :=
  ⟨(f w).1, (f w).2, rfl, hw.1, hw.2, hq⟩

theorem eq {p : Prog World α} {r : α} {held : Bool} {w' : World} (h : LeavesStreams p w Q)
    (hr : p.alone false w = some (r, held, w')) :
    held = false ∧ w'.db = w.db ∧ w'.streams = w.streams ∧ Q r := by
  obtain ⟨r', w'', hr', hdb, hs, hq⟩ := h
  obtain ⟨rfl, rfl, rfl⟩ : r' = r ∧ false = held ∧ w'' = w' := by simpa [hr'] using hr
  exact ⟨rfl, hdb, hs, hq⟩

end LeavesStreams

/-- A new entry that runs and has no outputs. -/
structure InputInfo.Started (info : InputInfo) (id : Int) : Prop where
  id_eq : info.id = id
  bare : info.Bare
  running : info.status ≠ .stopped

theorem spawnInput_started (req : CreateInputRequest) (id : Int) (name : Option String)
    (w : World) :
    LeavesStreams (spawnInput req id name) w fun r => ∀ info, r = .ok info → info.Started id := by
  cases req with
  | udp =>
    refine ⟨_, _, rfl, rfl, rfl, fun info h => ?_⟩
    obtain rfl := Except.ok.inj h
    exact ⟨rfl, ⟨rfl, rfl⟩, by simp [spawnUdpSection, spawnUdpInputWithStats, idleInput]⟩
  | srt reqName config =>
    refine ⟨_, _, rfl, rfl, rfl, fun info h => ?_⟩
    obtain rfl := Except.ok.inj h
    exact ⟨rfl, ⟨rfl, rfl⟩, by cases config <;> simp [spawnSrtSection, srtInputStatus, idleInput]⟩
  | spts sourceInputId programNumber fillWithNulls reqName =>
    refine LeavesStreams.locked ?_ fun info h => ?_
    · unfold spawnSptsSection
      split <;> exact ⟨rfl, rfl⟩
    · unfold spawnSptsSection at h
      split at h
      · exact absurd h (by simp)
      · obtain rfl := Except.ok.inj h
        exact ⟨rfl, ⟨rfl, rfl⟩, by simp [spawnSptsInput, idleInput]⟩

theorem spawnInput_bare (req : CreateInputRequest) (id : Int) (name : Option String)
    (w : World) :
    LeavesStreams (spawnInput req id name) w fun r => ∀ info, r = .ok info → info.Bare :=
  (spawnInput_started req id name w).mono fun _ h info hinfo => (h info hinfo).bare

theorem openIdle_bare (id : Int) (name : Option String) (status : StreamStatus)
    (config : CreateInputRequest) (errorMessage : Option String) (w : World) :
    LeavesStreams (atomic (openIdle id name status config errorMessage)) w InputInfo.Bare :=
  ⟨_, _, rfl, rfl, rfl, rfl, rfl⟩

theorem respawnInput_bare (req : CreateInputRequest) (id : Int) (name : Option String)
    (failure : String) (w : World) :
    LeavesStreams (respawnInput req id name failure) w InputInfo.Bare := by
  refine (spawnInput_bare req id name w).bind fun r w hr => ?_
  cases r with
  | ok info => exact .ret (hr info rfl)
  | error e => exact openIdle_bare id name .error req _ w

theorem loadBaseInput_bare (id : Int) (row : InputRow) (req : CreateInputRequest) (w : World) :
    LeavesStreams (loadBaseInput id row req) w InputInfo.Bare := by
  unfold loadBaseInput
  split
  · exact openIdle_bare id row.name .stopped req none w
  · exact respawnInput_bare req id row.name _ w

theorem loadSptsInput_bare (id : Int) (row : InputRow) (req : CreateInputRequest) (w : World) :
    LeavesStreams (loadSptsInput id row req) w InputInfo.Bare := by
  unfold loadSptsInput
  split
  · exact openIdle_bare id row.name .stopped req none w
  refine LeavesStreams.bind (Q := fun _ => True) (LeavesStreams.locked ?_ trivial)
    fun r w _ => ?_
  · unfold missingSource
    split <;> exact ⟨rfl, rfl⟩
  cases r with
  | none => exact respawnInput_bare req id row.name _ w
  | some sourceId => exact openIdle_bare id row.name .stopped req _ w

/-- The loaded entries have no outputs, and they are those of the given ids. -/
def Covers (ids : Int → Prop) (loaded : HashMap Int InputInfo) : Prop :=
  (∀ j info, loaded.lookup j = some info → info.Bare) ∧ ∀ j, j ∈ loaded ↔ ids j

theorem covers_empty : Covers (fun _ => False) ∅ :=
  ⟨fun _ _ h => absurd h (by simp), fun _ => iff_of_false (AList.notMem_empty _) id⟩

theorem Covers.congr {ids ids' : Int → Prop} {loaded : HashMap Int InputInfo}
    (h : Covers ids loaded) (hids : ∀ j, ids j ↔ ids' j) : Covers ids' loaded :=
  ⟨h.1, fun j => (h.2 j).trans (hids j)⟩

theorem Covers.insert {ids : Int → Prop} {loaded : HashMap Int InputInfo} {id : Int}
    {info : InputInfo} (h : Covers ids loaded) (hb : info.Bare) :
    Covers (fun j => j = id ∨ ids j) (loaded.insert id info) := by
  refine ⟨fun j info' hj => ?_, fun j => ?_⟩
  · rcases HashMap.lookup_insert_eq_some.mp hj with ⟨_, rfl⟩ | ⟨_, hj⟩
    · exact hb
    · exact h.1 j info' hj
  · rw [AList.mem_insert, h.2]

theorem Covers.extend {ids ids' : Int → Prop} {loaded loaded' : HashMap Int InputInfo}
    (h : Covers ids loaded) (h' : Covers ids' loaded') :
    Covers (fun j => ids j ∨ ids' j) (loaded.extend loaded') := by
  refine ⟨fun j info hj => ?_, fun j => ?_⟩
  · rcases HashMap.lookup_extend_eq_some.mp hj with hj | ⟨_, hj⟩
    · exact h'.1 j info hj
    · exact h.1 j info hj
  · unfold HashMap.extend
    rw [AList.mem_union, h.2, h'.2, or_comm]

theorem mem_storedKinds {kind : String} :
    kind ∈ storedKinds ↔ kind = "udp" ∨ kind = "srt_listener" ∨ kind = "srt_caller" ∨
      kind = "spts" := by
  simp [storedKinds]

theorem baseRequest_isSome {row : InputRow} {srtName : Option String} :
    (baseRequest row srtName).isSome = true ↔ row.kind ∈ storedKinds ∧ row.kind ≠ "spts" := by
  rw [mem_storedKinds]
  unfold baseRequest
  split_ifs with hudp hsrt
  · simp [hudp]
  · rcases hsrt with hsrt | hsrt <;> simp [hsrt]
  · simp only [Option.isSome_none, Bool.false_eq_true, false_iff]
    tauto

/-- The ids of the first row and of the others. -/
theorem exists_mem_cons {j id : Int} {row : InputRow} {rest : List (Int × InputRow)}
    {P : InputRow → Prop} : (∃ row', (j, row') ∈ (id, row) :: rest ∧ P row') ↔
      (j = id ∧ P row) ∨ ∃ row', (j, row') ∈ rest ∧ P row' := by
  constructor
  · rintro ⟨row', hmem, hp⟩
    rcases List.mem_cons.mp hmem with heq | hmem
    · obtain ⟨rfl, rfl⟩ := Prod.mk.inj heq
      exact .inl ⟨rfl, hp⟩
    · exact .inr ⟨row', hmem, hp⟩
  · rintro (⟨rfl, hp⟩ | ⟨row', hmem, hp⟩)
    · exact ⟨row, List.mem_cons_self, hp⟩
    · exact ⟨row', List.mem_cons_of_mem _ hmem, hp⟩

/-- Every row of a kind that is stored gets an entry, unless it is of a program filter. -/
theorem loadBaseInputs_covers (env : Env) (rows : List (Int × InputRow))
    {ids : Int → Prop} {loaded : HashMap Int InputInfo} (w : World) (h : Covers ids loaded) :
    LeavesStreams (loadBaseInputs env rows loaded) w fun r => ∀ loaded', r = .ok loaded' →
      Covers (fun j => ids j ∨ ∃ row, (j, row) ∈ rows ∧ row.kind ∈ storedKinds ∧
        row.kind ≠ "spts") loaded' := by
  induction rows generalizing ids loaded w with
  | nil =>
    refine .ret fun loaded' h' => ?_
    obtain rfl := Except.ok.inj h'
    simpa using h
  | cons r rest ih =>
    obtain ⟨id, row⟩ := r
    unfold loadBaseInputs
    have hkind := @baseRequest_isSome row (if row.status = "stopped" then row.name else none)
    split
    · rename_i hreq
      rw [hreq] at hkind
      refine (ih w h).mono fun r hr loaded' h' => (hr loaded' h').congr fun j => ?_
      rw [exists_mem_cons, ← hkind]
      simp
    · exact .ret fun _ h' => absurd h' (by simp)
    · rename_i req hreq
      rw [hreq] at hkind
      refine (loadBaseInput_bare id row req w).bind fun info w hb => ?_
      refine (ih w (h.insert hb)).mono fun r hr loaded' h' => (hr loaded' h').congr fun j => ?_
      rw [exists_mem_cons, ← hkind]
      simp only [Option.isSome_some, and_true]
      tauto

theorem loadSptsInputs_covers (env : Env) (rows : List (Int × InputRow))
    {ids : Int → Prop} {loaded : HashMap Int InputInfo} (w : World) (h : Covers ids loaded) :
    LeavesStreams (loadSptsInputs env rows loaded) w fun r => ∀ loaded', r = .ok loaded' →
      Covers (fun j => ids j ∨ ∃ row, (j, row) ∈ rows ∧ True) loaded' := by
  induction rows generalizing ids loaded w with
  | nil =>
    refine .ret fun loaded' h' => ?_
    obtain rfl := Except.ok.inj h'
    simpa using h
  | cons r rest ih =>
    obtain ⟨id, row⟩ := r
    unfold loadSptsInputs
    split
    · exact .ret fun _ h' => absurd h' (by simp)
    · rename_i req _
      refine (loadSptsInput_bare id row req w).bind fun info w hb => ?_
      refine (ih w (h.insert hb)).mono fun r hr loaded' h' => (hr loaded' h').congr fun j => ?_
      rw [exists_mem_cons]
      tauto

theorem getAllInputs_ok {env : Env} {w : World} {rows : List (Int × InputRow)}
    (h : (getAllInputs env w).1 = .ok rows) : rows = w.db.inputs.rows := by
  unfold getAllInputs select query at h
  split at h
  · exact absurd h (by simp)
  · exact (Except.ok.inj h).symm

theorem getAllOutputs_ok {env : Env} {w : World} {outs : List (Int × OutputRow)}
    (h : (getAllOutputs env w).1 = .ok outs) : outs = w.db.outputs.rows := by
  unfold getAllOutputs select query at h
  split at h
  · exact absurd h (by simp)
  · exact (Except.ok.inj h).symm

/-- The rows of both phases are the rows of the kinds that are stored. -/
theorem Covers.phases {rows : List (Int × InputRow)} {loaded sptsLoaded : HashMap Int InputInfo}
    (h : Covers (fun j => False ∨ ∃ row, (j, row) ∈ rows.filter (fun r => r.2.kind ≠ "spts") ∧
      row.kind ∈ storedKinds ∧ row.kind ≠ "spts") loaded)
    (h' : Covers (fun j => False ∨ ∃ row, (j, row) ∈ rows.filter (fun r => r.2.kind = "spts") ∧
      True) sptsLoaded) :
    Covers (fun j => ∃ row, (j, row) ∈ rows ∧ row.kind ∈ storedKinds)
      ((HashMap.extend ∅ loaded).extend sptsLoaded) := by
  refine ((covers_empty.extend h).extend h').congr fun j => ?_
  simp only [List.mem_filter, decide_eq_true_eq, false_or, and_true]
  constructor
  · rintro (⟨row, ⟨hrow, _⟩, hkind, _⟩ | ⟨row, hrow, hspts⟩)
    · exact ⟨row, hrow, hkind⟩
    · exact ⟨row, hrow, mem_storedKinds.mpr (.inr (.inr (.inr hspts)))⟩
  · rintro ⟨row, hrow, hkind⟩
    by_cases hspts : row.kind = "spts"
    · exact .inr ⟨row, hrow, hspts⟩
    · exact .inl ⟨row, ⟨hrow, hspts⟩, hkind, hspts⟩

/-- A load that goes through has gone through its parts, from the rows of the database. -/
theorem loadFromDb_parts {env : Env} {db : Database} {held : Bool} {w' : World}
    (h : (loadFromDb env).alone false (.boot db) = some (.ok (), held, w')) :
    ∃ loaded sptsLoaded w₁ w₂,
      (loadBaseInputs env (db.inputs.rows.filter fun r => r.2.kind ≠ "spts") ∅).alone false
        (.boot db) = some (.ok loaded, false, w₁) ∧
      (loadSptsInputs env (db.inputs.rows.filter fun r => r.2.kind = "spts") ∅).alone false
        (insertInputs loaded w₁).2 = some (.ok sptsLoaded, false, w₂) ∧
      w₁.streams = ∅ ∧ w₂.streams = HashMap.extend ∅ loaded ∧
      (loadGroups env db.outputs.rows (db.outputs.rows.map fun o => o.2.inputId).dedup).alone
        false (insertInputs sptsLoaded w₂).2 = some (.ok (), held, w') := by
  unfold loadFromDb at h
  rw [alone_atomic_bind] at h
  cases hrows : (getAllInputs env (.boot db)).1 with
  | error e =>
    rw [hrows] at h
    exact absurd h (by simp)
  | ok rows =>
  have hboot : (getAllInputs env (.boot db)).2 = .boot db := select_world env _ _ _
  rw [hrows, hboot] at h
  obtain rfl : rows = db.inputs.rows := getAllInputs_ok hrows
  obtain ⟨r, _, w₁, hbase, h⟩ := alone_bind_eq_some.mp h
  obtain ⟨rfl, hdb₁, hs₁, _⟩ := (loadBaseInputs_covers env _ _ covers_empty).eq hbase
  cases r with
  | error e => exact absurd h (by simp)
  | ok loaded =>
  dsimp only at h
  rw [alone_locked_bind] at h
  obtain ⟨r, _, w₂, hspts, h⟩ := alone_bind_eq_some.mp h
  obtain ⟨rfl, hdb₂, hs₂, _⟩ := (loadSptsInputs_covers env _ _ covers_empty).eq hspts
  cases r with
  | error e => exact absurd h (by simp)
  | ok sptsLoaded =>
  dsimp only at h
  rw [alone_atomic_bind] at h
  have hworld : (getAllOutputs env w₂).2 = w₂ := select_world env _ _ _
  cases houts : (getAllOutputs env w₂).1 with
  | error e =>
    rw [houts] at h
    exact absurd h (by simp)
  | ok outs =>
  have hdb : w₂.db = db := hdb₂.trans hdb₁
  rw [houts, hworld] at h
  dsimp only at h
  rw [alone_locked_bind, getAllOutputs_ok houts, hdb] at h
  refine ⟨loaded, sptsLoaded, w₁, w₂, hbase, hspts, hs₁, ?_, h⟩
  rw [hs₂]
  show w₁.streams.extend loaded = _
  rw [hs₁]
  rfl

/-- A load that goes through comes to the outputs with all inputs in memory and no outputs. -/
theorem loadFromDb_inputs {env : Env} {db : Database} {held : Bool} {w' : World}
    (h : (loadFromDb env).alone false (.boot db) = some (.ok (), held, w')) :
    ∃ w, Covers (fun j => ∃ row, (j, row) ∈ db.inputs.rows ∧ row.kind ∈ storedKinds) w.streams ∧
      (loadGroups env db.outputs.rows (db.outputs.rows.map fun o => o.2.inputId).dedup).alone
        false w = some (.ok (), held, w') := by
  obtain ⟨loaded, sptsLoaded, w₁, w₂, hbase, hspts, _, hs₂, hgroups⟩ := loadFromDb_parts h
  obtain ⟨_, _, _, hloaded⟩ := (loadBaseInputs_covers env _ _ covers_empty).eq hbase
  obtain ⟨_, _, _, hsptsLoaded⟩ := (loadSptsInputs_covers env _ _ covers_empty).eq hspts
  refine ⟨_, ?_, hgroups⟩
  show Covers _ (w₂.streams.extend sptsLoaded)
  rw [hs₂]
  exact (hloaded loaded rfl).phases (hsptsLoaded sptsLoaded rfl)

/-! ## The outputs -/

/-- The two entries have the same output under the id, running or stopped. -/
def SameOutput (k : Int) (info info' : InputInfo) : Prop :=
  info'.outputTasks.lookup k = info.outputTasks.lookup k ∧
    info'.stoppedOutputs.lookup k = info.stoppedOutputs.lookup k

theorem SameOutput.refl (k : Int) (info : InputInfo) : SameOutput k info info := ⟨rfl, rfl⟩

theorem SameOutput.trans {k : Int} {info info' info'' : InputInfo} (h : SameOutput k info info')
    (h' : SameOutput k info' info'') : SameOutput k info info'' :=
  ⟨h'.1.trans h.1, h'.2.trans h.2⟩

/-- Loading one output does not touch the others. -/
theorem OutputLoaded.other {env : Env} {inputId id k : Int} {input input' : InputInfo}
    {row : OutputRow} {rt rt' : Runtime} (hk : k ≠ id)
    (h : OutputLoaded env inputId input id row rt input' rt') : SameOutput k input input' := by
  cases h with
  | skipped => exact .refl k input
  | stopped => exact ⟨rfl, AList.lookup_insert_ne hk⟩
  | running => exact ⟨AList.lookup_insert_ne hk, rfl⟩

theorem loadOutputs_other {env : Env} {inputId k : Int} {outs : List (Int × OutputRow)}
    {input input' : InputInfo} {rt rt' : Runtime} (hk : k ∉ outs.map Prod.fst)
    (h : loadOutputs env inputId outs input rt = (.ok (), input', rt')) :
    SameOutput k input input' := by
  have hsame : SameOutput k input (loadOutputs env inputId outs input rt).2.1 := by
    refine loadOutputs_keeps (P := fun input' _ => SameOutput k input input')
      (fun id row input₁ rt₁ input₂ rt₂ hmem hsame hload => ?_) (.refl k input)
    refine hsame.trans (hload.other ?_)
    rintro rfl
    exact hk (List.mem_map.mpr ⟨_, hmem, rfl⟩)
  rwa [h] at hsame

/-- In a list that is loaded, each output is loaded, and the others do not matter to it. -/
theorem loadOutputs_at {env : Env} {inputId k : Int} {row : OutputRow}
    {outs : List (Int × OutputRow)} {input input' : InputInfo} {rt rt' : Runtime}
    (hids : (outs.map Prod.fst).Nodup) (hk : (k, row) ∈ outs)
    (h : loadOutputs env inputId outs input rt = (.ok (), input', rt')) :
    ∃ input₁ rt₁ input₂ rt₂, SameOutput k input input₁ ∧
      loadOutput env inputId input₁ k row rt₁ = .ok (input₂, rt₂) ∧
      SameOutput k input₂ input' := by
  induction outs generalizing input rt with
  | nil => exact absurd hk List.not_mem_nil
  | cons o outs ih =>
    obtain ⟨id, row'⟩ := o
    obtain ⟨hid, hids⟩ := List.nodup_cons.mp hids
    simp only [loadOutputs] at h
    split at h
    · exact absurd h (by simp)
    rename_i input₁ rt₁ ho
    rcases List.mem_cons.mp hk with heq | hmem
    · obtain ⟨rfl, rfl⟩ := Prod.mk.inj heq
      exact ⟨input, rt, input₁, rt₁, .refl k input, ho, loadOutputs_other hid h⟩
    · have hne : k ≠ id := by
        intro he
        apply hid
        simpa only [he] using List.mem_map_of_mem (f := Prod.fst) hmem
      obtain ⟨input₂, rt₂, input₃, rt₃, hsame, hload, hsame'⟩ := ih hids hmem h
      exact ⟨input₂, rt₂, input₃, rt₃, ((loadOutput_loaded ho).other hne).trans hsame, hload,
        hsame'⟩

theorem loadGroupSection_other {env : Env} {i j : Int} {outs : List (Int × OutputRow)}
    {w : World} (h : i ≠ j) :
    (loadGroupSection env j outs w).2.streams.lookup i = w.streams.lookup i := by
  unfold loadGroupSection
  split
  · rfl
  · exact AList.lookup_insert_ne h

theorem loadGroups_other {env : Env} {i : Int} {outs : List (Int × OutputRow)}
    {inputIds : List Int} {w w' : World} {held : Bool} {r : Except String Unit} (h : i ∉ inputIds)
    (hr : (loadGroups env outs inputIds).alone false w = some (r, held, w')) :
    w'.streams.lookup i = w.streams.lookup i := by
  induction inputIds generalizing w with
  | nil =>
    obtain ⟨_, _, rfl⟩ := alone_ret_eq_some.mp hr
    rfl
  | cons j rest ih =>
    simp only [List.mem_cons, not_or] at h
    unfold loadGroups at hr
    rw [alone_locked_bind] at hr
    split at hr
    · obtain ⟨_, _, rfl⟩ := alone_ret_eq_some.mp hr
      exact loadGroupSection_other h.1
    · exact (ih h.2 hr).trans (loadGroupSection_other h.1)

/-- The outputs of an input that is not in memory are skipped. -/
theorem loadGroups_none {env : Env} {i : Int} {outs : List (Int × OutputRow)}
    {inputIds : List Int} {w w' : World} {held : Bool} {r : Except String Unit}
    (h : w.streams.lookup i = none)
    (hr : (loadGroups env outs inputIds).alone false w = some (r, held, w')) :
    w'.streams.lookup i = none := by
  induction inputIds generalizing w with
  | nil =>
    obtain ⟨_, _, rfl⟩ := alone_ret_eq_some.mp hr
    exact h
  | cons j rest ih =>
    have hsection : ∀ outs, (loadGroupSection env j outs w).2.streams.lookup i = none := by
      intro outs
      by_cases hij : i = j
      · subst hij
        unfold loadGroupSection
        rw [h]
        exact h
      · exact (loadGroupSection_other hij).trans h
    unfold loadGroups at hr
    rw [alone_locked_bind] at hr
    split at hr
    · obtain ⟨_, _, rfl⟩ := alone_ret_eq_some.mp hr
      exact hsection _
    · exact ih (hsection _) hr

/-- The outputs of an input are loaded into its entry. -/
theorem loadGroups_at {env : Env} {i : Int} {outs : List (Int × OutputRow)}
    {inputIds : List Int} {w w' : World} {held : Bool} {info : InputInfo}
    (hids : inputIds.Nodup) (hi : i ∈ inputIds) (hinfo : w.streams.lookup i = some info)
    (hr : (loadGroups env outs inputIds).alone false w = some (.ok (), held, w')) :
    ∃ rt info' rt',
      loadOutputs env i (outs.filter fun o => o.2.inputId = i) info rt = (.ok (), info', rt') ∧
      w'.streams.lookup i = some info' := by
  induction inputIds generalizing w with
  | nil => exact absurd hi List.not_mem_nil
  | cons j rest ih =>
    obtain ⟨hj, hrest⟩ := List.nodup_cons.mp hids
    unfold loadGroups at hr
    rw [alone_locked_bind] at hr
    split at hr
    · exact absurd hr (by simp)
    rename_i hok
    by_cases hij : i = j
    · subst hij
      have hkeep := loadGroups_other hj hr
      unfold loadGroupSection at hok hkeep
      rw [hinfo] at hok hkeep
      refine ⟨w.rt, _, _, Prod.ext hok rfl, ?_⟩
      rw [hkeep]
      exact AList.lookup_insert _
    · refine ih hrest ((List.mem_cons.mp hi).resolve_left hij) ?_ hr
      exact (loadGroupSection_other hij).trans hinfo

/-- A load that goes through loads the output of each row whose input has a row into the
entry of that input, where nothing was under its id. -/
theorem loadFromDb_output {env : Env} {db : Database} {held : Bool} {w' : World} {k : Int}
    {row : OutputRow} {inputRow : InputRow}
    (h : (loadFromDb env).alone false (.boot db) = some (.ok (), held, w'))
    (hrow : (k, row) ∈ db.outputs.rows) (hinput : (row.inputId, inputRow) ∈ db.inputs.rows)
    (hkind : inputRow.kind ∈ storedKinds) :
    ∃ info rt info' rt' info'', info.outputTasks.lookup k = none ∧
      info.stoppedOutputs.lookup k = none ∧
      loadOutput env row.inputId info k row rt = .ok (info', rt') ∧
      w'.streams.lookup row.inputId = some info'' ∧ SameOutput k info' info'' := by
  obtain ⟨w, hcovers, hgroups⟩ := loadFromDb_inputs h
  obtain ⟨info, hinfo⟩ := HashMap.mem_iff.mp ((hcovers.2 _).mpr ⟨inputRow, hinput, hkind⟩)
  obtain ⟨houtputs, hstopped⟩ := hcovers.1 _ info hinfo
  obtain ⟨rt, info', rt', hload, hi⟩ := loadGroups_at (List.nodup_dedup _)
    (List.mem_dedup.mpr (List.mem_map_of_mem hrow)) hinfo hgroups
  have hids := db.outputs.nodup_keys_filter fun o => o.2.inputId = row.inputId
  obtain ⟨info₁, rt₁, info₂, rt₂, hsame, hout, hsame'⟩ :=
    loadOutputs_at hids (List.mem_filter.mpr ⟨hrow, by simp⟩) hload
  refine ⟨info₁, rt₁, info₂, rt₂, info', ?_, ?_, hout, hi, hsame'⟩
  · rw [hsame.1, houtputs]
    rfl
  · rw [hsame.2, hstopped]
    rfl

/-- An input of a kind that is not stored is not in memory after the load. -/
theorem loadFromDb_unknown {env : Env} {db : Database} {held : Bool} {w' : World} {i : Int}
    {inputRow : InputRow}
    (h : (loadFromDb env).alone false (.boot db) = some (.ok (), held, w'))
    (hinput : (i, inputRow) ∈ db.inputs.rows) (hkind : inputRow.kind ∉ storedKinds) :
    w'.streams.lookup i = none := by
  obtain ⟨w, hcovers, hgroups⟩ := loadFromDb_inputs h
  refine loadGroups_none (AList.lookup_eq_none.mpr fun hi => ?_) hgroups
  obtain ⟨row, hrow, hstored⟩ := (hcovers.2 i).mp hi
  obtain ⟨_, rfl⟩ := Prod.mk.inj (Table.eq_of_mem hrow hinput rfl)
  exact hkind hstored

end StreamGateway
