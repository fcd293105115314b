import StreamGateway.Deletions

/-!
# Deeds

What a request on streams comes to is one deed on the entry of one input: the entry is made, put
to work, brought to rest or taken away, or one of its outputs is. A deed also reports to the
metrics and spawns tasks. Which deed a request is can be told from the state that it finds.
-/
namespace StreamGateway

open Prog

/-! ## Reports and spawns -/

/-- These metrics are reported, and these tasks spawned. -/
structure Adds (ms : List Metric) (ts : List Task) (rt rt' : Runtime) : Prop where
  metrics : rt'.metrics = rt.metrics ++ ms
  spawned : rt'.spawned = rt.spawned ++ ts

section Adds

variable {rt rt' rt'' : Runtime} {ms ms' : List Metric} {ts ts' : List Task}

theorem Adds.of_eq (hm : rt'.metrics = rt.metrics) (hs : rt'.spawned = rt.spawned) :
    Adds [] [] rt rt' :=
  ⟨by rw [hm, List.append_nil], by rw [hs, List.append_nil]⟩

theorem Adds.refl (rt : Runtime) : Adds [] [] rt rt := .of_eq rfl rfl

theorem Adds.trans (h : Adds ms ts rt rt') (h' : Adds ms' ts' rt' rt'') :
    Adds (ms ++ ms') (ts ++ ts') rt rt'' :=
  ⟨by rw [h'.metrics, h.metrics, List.append_assoc],
    by rw [h'.spawned, h.spawned, List.append_assoc]⟩

theorem Adds.record (h : Adds ms ts rt rt') (m : Metric) :
    Adds (ms ++ [m]) ts rt (rt'.record m) := by
  refine ⟨?_, h.spawned⟩
  show rt'.metrics ++ [m] = _
  rw [h.metrics, List.append_assoc]

theorem adds_abortHandle (rt : Runtime) (handle : Option Task) :
    Adds [] [] rt (rt.abortHandle handle) := by
  cases handle <;> exact .of_eq rfl rfl

theorem adds_abortOutputs (outputs : List (Int × OutputInfo)) (rt : Runtime) :
    Adds [] [] rt (abortOutputs outputs rt) := by
  induction outputs generalizing rt with
  | nil => exact .refl rt
  | cons o outputs ih => exact (adds_abortHandle rt o.2.abortHandle).trans (ih _)

theorem adds_abortAnalyses (analyses : List (ℕ × AnalysisInfo)) (rt : Runtime) :
    Adds [] [] rt (abortAnalyses analyses rt) := by
  induction analyses generalizing rt with
  | nil => exact .refl rt
  | cons a analyses ih =>
    have hone : Adds [] [] rt (rt.abort a.2.taskHandle) := .of_eq rfl rfl
    exact hone.trans (ih _)

theorem adds_stopOutputs (outputs : List (Int × OutputInfo)) (rt : Runtime) :
    Adds [] [] rt (stopOutputs outputs rt).2 := by
  induction outputs generalizing rt with
  | nil => exact .refl rt
  | cons o outputs ih =>
    obtain ⟨outputId, info⟩ := o
    unfold stopOutputs
    split
    · exact (adds_abortHandle rt info.abortHandle).trans (ih _)
    · exact ih rt

/-- One report for each element of a list. -/
theorem adds_records {α : Type} (m : Metric) (l : List α) (rt : Runtime) :
    Adds (List.replicate l.length m) [] rt (l.foldl (fun rt _ => rt.record m) rt) := by
  induction l generalizing rt with
  | nil => exact .refl rt
  | cons a l ih => exact ((Adds.refl rt).record m).trans (ih (rt.record m))

theorem adds_input (rt : Runtime) (spec : TaskSpec) : Adds [.incrementActiveInputs]
    [rt.newTask spec] rt ((rt.openChannel.spawn spec).record .incrementActiveInputs) :=
  ⟨rfl, rfl⟩

theorem Launch.adds {input : InputInfo} {inputId outputId : Int} {spec : TaskSpec}
    {output : OutputInfo} (h : Launch input inputId outputId rt spec output rt') :
    Adds [.incrementActiveOutputs] [rt.newTask spec] rt rt' := by
  rw [h.runtime]
  exact ⟨rfl, rfl⟩

end Adds

/-! ## Starting outputs -/

/-- The input that a task reads for. -/
def Task.input (t : Task) : Option Int :=
  match t.spec.owner with
  | .input id => some id
  | _ => none

/-- No output of the entry is both running and stopped. -/
def InputInfo.KeysApart (info : InputInfo) : Prop :=
  ∀ k ∈ info.outputTasks, k ∉ info.stoppedOutputs

def InputInfo.outputCount (info : InputInfo) : ℕ := info.outputTasks.entries.length

theorem outputCount_insert {info info' : InputInfo} {k : Int} {o : OutputInfo}
    (h : k ∉ info.outputTasks) (ho : info'.outputTasks = info.outputTasks.insert k o) :
    info'.outputCount = info.outputCount + 1 := by
  rw [InputInfo.outputCount, ho, AList.entries_insert_of_notMem h, List.length_cons,
    InputInfo.outputCount]

theorem outputCount_erase {info info' : InputInfo} {k : Int}
    (h : k ∈ info.outputTasks) (ho : info'.outputTasks = info.outputTasks.erase k) :
    info'.outputCount + 1 = info.outputCount := by
  have hkeys : ∀ m : HashMap Int OutputInfo, m.entries.length = m.keys.length := by
    intro m
    exact (List.length_map _).symm
  have hpos := List.length_pos_of_mem (AList.mem_keys.mp h)
  rw [InputInfo.outputCount, ho, InputInfo.outputCount, hkeys, hkeys, AList.keys_erase,
    List.length_erase_of_mem (AList.mem_keys.mp h)]
  omega

theorem Launch.input {input : InputInfo} {inputId outputId : Int} {rt rt' : Runtime}
    {spec : TaskSpec} {output : OutputInfo}
    (h : Launch input inputId outputId rt spec output rt') : (rt.newTask spec).input = none := by
  unfold Task.input
  rw [show (rt.newTask spec).spec.owner = .output inputId outputId from h.owner]

/-- Outputs with some of the given ids are started for an entry. Each is reported once, and is one
more if its id was not running. -/
structure StartsOutputs (ids : List Int) (info info' : InputInfo) (rt rt' : Runtime) : Prop where
  running : ∀ k ∈ info'.outputTasks, k ∈ info.outputTasks ∨ k ∈ ids
  reports : ∃ n ts, Adds (List.replicate n .incrementActiveOutputs) ts rt rt' ∧
    (∀ t ∈ ts, t.input = none) ∧ ((∀ k ∈ ids, k ∉ info.outputTasks) →
      info'.outputCount = info.outputCount + n)

section Starts

variable {info info' info'' : InputInfo} {ids : List Int} {rt rt' rt'' : Runtime} {k : Int}

theorem StartsOutputs.none (ids : List Int) (h : info'.outputTasks = info.outputTasks)
    (rt : Runtime) : StartsOutputs ids info info' rt rt := by
  refine ⟨fun k hk => .inl (h ▸ hk), 0, [], .refl rt, fun _ ht => absurd ht List.not_mem_nil, ?_⟩
  intro _
  rw [InputInfo.outputCount, h, InputInfo.outputCount, Nat.add_zero]

theorem Launch.starts {inputId : Int} {spec : TaskSpec} {output : OutputInfo}
    (h : Launch info inputId k rt spec output rt') :
    StartsOutputs [k] info { info with outputTasks := info.outputTasks.insert k output }
      rt rt' := by
  refine ⟨fun j hj => ?_, 1, [rt.newTask spec], h.adds, fun t ht => ?_, fun hnew => ?_⟩
  · exact ((AList.mem_insert _).mp hj).symm.imp_right List.mem_singleton.mpr
  · rw [List.mem_singleton.mp ht]
    exact h.input
  · exact outputCount_insert (hnew k (List.mem_singleton_self k)) rfl

theorem StartsOutputs.cons (h : StartsOutputs [k] info info' rt rt')
    (h' : StartsOutputs ids info' info'' rt' rt'') (hk : k ∉ ids) :
    StartsOutputs (k :: ids) info info'' rt rt'' := by
  obtain ⟨n, ts, hadds, hts, hcount⟩ := h.reports
  obtain ⟨m, us, hadds', hus, hcount'⟩ := h'.reports
  refine ⟨fun j hj => ?_, n + m, ts ++ us, ?_, fun t ht => ?_, fun hnew => ?_⟩
  · rcases h'.running j hj with hj | hj
    · exact (h.running j hj).imp_right fun hj => List.mem_cons.mpr (.inl (List.mem_singleton.mp hj))
    · exact .inr (List.mem_cons_of_mem k hj)
  · rw [List.replicate_add]
    exact hadds.trans hadds'
  · exact (List.mem_append.mp ht).elim (hts t) (hus t)
  · have hfirst : info'.outputCount = info.outputCount + n := hcount fun j hj => by
      rw [List.mem_singleton.mp hj]
      exact hnew k List.mem_cons_self
    have hrest : ∀ j ∈ ids, j ∉ info'.outputTasks := by
      intro j hj hrunning
      rcases h.running j hrunning with hrunning | hjk
      · exact hnew j (List.mem_cons_of_mem k hj) hrunning
      · exact hk (List.mem_singleton.mp hjk ▸ hj)
    rw [hcount' hrest, hfirst, Nat.add_assoc]

theorem starts_startOutputs (env : Env) {outputs : List (Int × CreateOutputRequest)}
    (info : InputInfo) (rt : Runtime) (hids : (outputs.map Prod.fst).Nodup) :
    StartsOutputs (outputs.map Prod.fst) info (startOutputs env outputs info rt).1 rt
      (startOutputs env outputs info rt).2 := by
  induction outputs generalizing info rt with
  | nil => exact .none [] rfl rt
  | cons output outputs ih =>
    obtain ⟨outputId, config⟩ := output
    obtain ⟨hnew, hids⟩ := List.nodup_cons.mp hids
    simp only [startOutputs]
    split
    · rename_i info' rt' hstart
      obtain ⟨spec, o, hl, rfl⟩ := startOutputInternal_ok hstart
      exact hl.starts.cons (ih _ rt' hids) hnew
    · exact (StartsOutputs.none [outputId] rfl rt).cons (ih info rt hids) hnew

theorem starts_restartStopped (env : Env) (info : InputInfo) (rt : Runtime) :
    StartsOutputs (info.stoppedOutputs.toPairs.map Prod.fst) { info with stoppedOutputs := ∅ }
      (restartStopped env info rt).1 rt (restartStopped env info rt).2 :=
  starts_startOutputs env { info with stoppedOutputs := ∅ } rt
    (HashMap.nodup_keys_toPairs info.stoppedOutputs)

/-- The stopped outputs are one more each if none of them was running. -/
theorem restartStopped_adds (env : Env) (info : InputInfo) (rt : Runtime) :
    ∃ n ts, Adds (List.replicate n .incrementActiveOutputs) ts rt (restartStopped env info rt).2 ∧
      (∀ t ∈ ts, t.input = none) ∧ (info.KeysApart →
        (restartStopped env info rt).1.outputCount = info.outputCount + n) := by
  obtain ⟨n, ts, hadds, hts, hcount⟩ := (starts_restartStopped env info rt).reports
  exact ⟨n, ts, hadds, hts, fun hapart => hcount fun k hk hrunning =>
    hapart k hrunning (HashMap.mem_keys_toPairs.mp hk)⟩

end Starts

/-! ## Deeds -/

inductive Deed
  | nothing
  | openInput
  | startInput (i : Int)
  | stopInput (i : Int)
  | closeInput (i : Int)
  | openOutput
  | startOutput (i k : Int)
  | stopOutput (i k : Int)
  | closeOutput (i k : Int)
  deriving DecidableEq, Repr

namespace Deed

/-- Only a creation that is tried may come to nothing. -/
def mayFail : Deed → Bool
  | nothing | openInput | openOutput => true
  | _ => false

/-- What a deed does to the entry of an input, and what it reports and spawns. A new output gets
a fresh id. -/
inductive Changes (fresh : Int → Prop) :
    Deed → Int → Option InputInfo → Option InputInfo → List Metric → List Task → Prop
  | keep {d : Deed} {i : Int} {entry : Option InputInfo} : d.mayFail = true →
      Changes fresh d i entry entry [] []
  | openInput {i : Int} {info : InputInfo} {t : Task} : info.taskHandle = some t →
      t.input = some i → info.outputTasks = ∅ → info.stoppedOutputs = ∅ →
      info.status.isConnected = false →
      Changes fresh openInput i none (some info) [.incrementActiveInputs] [t]
  | openIdle {i : Int} {info : InputInfo} : info.taskHandle = none → info.outputTasks = ∅ →
      info.stoppedOutputs = ∅ → info.status.isConnected = false →
      Changes fresh openInput i none (some info) [] []
  | startInput {i : Int} {info info' : InputInfo} {t : Task} {n : ℕ} {ts : List Task} :
      info.status.isActive = false → info'.taskHandle = some t → t.input = some i →
      info'.status.isConnected = false → info'.stoppedOutputs = ∅ →
      (∀ k ∈ info'.outputTasks, info.HasOutput k) → (∀ t ∈ ts, t.input = none) →
      (info.KeysApart → info'.outputCount = info.outputCount + n) →
      Changes fresh (startInput i) i (some info) (some info')
        (.incrementActiveInputs :: List.replicate n .incrementActiveOutputs) (t :: ts)
  | stopInput {i : Int} {info info' : InputInfo} : info'.taskHandle = none →
      info'.outputTasks = ∅ → info'.status.isConnected = false →
      (∀ k ∈ info'.stoppedOutputs, info.HasOutput k) →
      Changes fresh (stopInput i) i (some info) (some info') [] []
  | closeInput {i : Int} {info : InputInfo} {n : ℕ} : n = info.outputCount →
      Changes fresh (closeInput i) i (some info) none
        (.decrementActiveInputs :: List.replicate n .decrementActiveOutputs) []
  | openOutput {i k : Int} {info : InputInfo} {o : OutputInfo} {t : Task} : fresh k →
      t.input = none → Changes fresh openOutput i (some info)
        (some { info with outputTasks := info.outputTasks.insert k o })
        [.incrementActiveOutputs] [t]
  | startOutput {i k : Int} {info : InputInfo} {o : OutputInfo} {t : Task} :
      k ∈ info.stoppedOutputs → t.input = none →
      Changes fresh (startOutput i k) i (some info)
        (some { info with
          stoppedOutputs := info.stoppedOutputs.erase k
          outputTasks := info.outputTasks.insert k o })
        [.incrementActiveOutputs] [t]
  | loseOutput {i k : Int} {info : InputInfo} :
      Changes fresh (startOutput i k) i (some info)
        (some { info with stoppedOutputs := info.stoppedOutputs.erase k }) [] []
  | stopOutput {i k : Int} {info : InputInfo} {config : CreateOutputRequest} :
      k ∈ info.outputTasks → Changes fresh (stopOutput i k) i (some info)
        (some { info with
          outputTasks := info.outputTasks.erase k
          stoppedOutputs := info.stoppedOutputs.insert k config }) [] []
  | closeOutput {i k : Int} {info : InputInfo} : k ∈ info.outputTasks →
      Changes fresh (closeOutput i k) i (some info)
        (some { info with outputTasks := info.outputTasks.erase k })
        [.decrementActiveOutputs] []
  | closeStopped {i k : Int} {info : InputInfo} :
      Changes fresh (closeOutput i k) i (some info)
        (some { info with stoppedOutputs := info.stoppedOutputs.erase k }) [] []

end Deed

/-- The entry of one input changes, and no other. -/
structure Touches (i : Int) (before after : Option InputInfo) (ms : List Metric) (ts : List Task)
    (w w' : World) : Prop where
  before : w.streams.lookup i = before
  after : w'.streams.lookup i = after
  others : ∀ j, j ≠ i → w'.streams.lookup j = w.streams.lookup j
  adds : Adds ms ts w.rt w'.rt

/-- An id that the database gives to an output meanwhile. -/
def GivenMeanwhile (w w' : World) (k : Int) : Prop :=
  w.db.outputs.lastId < k ∧ k ≤ w'.db.outputs.lastId

/-- The deed is done. -/
def Deed.Does (d : Deed) (w w' : World) : Prop :=
  ∃ i before after ms ts, Touches i before after ms ts w w' ∧
    d.Changes (GivenMeanwhile w w') i before after ms ts

section Touches

variable {i : Int} {before after after' : Option InputInfo} {ms ms' : List Metric}
  {ts ts' : List Task} {w w' w'' : World} {d : Deed}

theorem Touches.trans (h : Touches i before after ms ts w w')
    (h' : Touches i after after' ms' ts' w' w'') :
    Touches i before after' (ms ++ ms') (ts ++ ts') w w'' :=
  ⟨h.before, h'.after, fun j hj => (h'.others j hj).trans (h.others j hj), h.adds.trans h'.adds⟩

theorem touches_insert {info' : InputInfo} (hi : w.streams.lookup i = before)
    (hs : w'.streams = w.streams.insert i info') (ha : Adds ms ts w.rt w'.rt) :
    Touches i before (some info') ms ts w w' := by
  refine ⟨hi, ?_, fun j hj => ?_, ha⟩
  · rw [hs, AList.lookup_insert]
  · rw [hs, AList.lookup_insert_ne hj]

theorem touches_same (hi : w.streams.lookup i = before) (hs : w'.streams = w.streams)
    (ha : Adds ms ts w.rt w'.rt) : Touches i before before ms ts w w' := by
  refine ⟨hi, ?_, fun j _ => ?_, ha⟩
  · rw [hs, hi]
  · rw [hs]

theorem Deed.Does.of_quiet (hd : d.mayFail = true) (hs : w'.streams = w.streams)
    (hrt : w'.rt = w.rt) : d.Does w w' := by
  have hadds : Adds [] [] w.rt w'.rt := by
    rw [hrt]
    exact .refl w.rt
  exact ⟨0, _, _, [], [], touches_same rfl hs hadds, .keep hd⟩

theorem Deed.Does.refl (hd : d.mayFail = true) (w : World) : d.Does w w :=
  .of_quiet hd rfl rfl

theorem Deed.Changes.mono {fresh fresh' : Int → Prop} (hf : ∀ k, fresh k → fresh' k)
    (h : d.Changes fresh i before after ms ts) : d.Changes fresh' i before after ms ts := by
  cases h with
  | keep hd => exact .keep hd
  | openInput hh hin ho hs hc => exact .openInput hh hin ho hs hc
  | openIdle hh ho hs hc => exact .openIdle hh ho hs hc
  | startInput ha hh hin hc hs hk hts hn => exact .startInput ha hh hin hc hs hk hts hn
  | stopInput hh ho hc hk => exact .stopInput hh ho hc hk
  | closeInput hn => exact .closeInput hn
  | openOutput hk hin => exact .openOutput (hf _ hk) hin
  | startOutput hk hin => exact .startOutput hk hin
  | loseOutput => exact .loseOutput
  | stopOutput hk => exact .stopOutput hk
  | closeOutput hk => exact .closeOutput hk
  | closeStopped => exact .closeStopped

/-- What comes after is a write to the database. -/
theorem Deed.Does.of_eq (h : d.Does w w') (hs : w''.streams = w'.streams)
    (hrt : w''.rt = w'.rt) (hlast : w'.db.outputs.lastId ≤ w''.db.outputs.lastId) :
    d.Does w w'' := by
  obtain ⟨i, before, after, ms, ts, ht, hc⟩ := h
  refine ⟨i, before, after, ms, ts, ⟨ht.before, ?_, ?_, ?_⟩,
    hc.mono fun k hk => ⟨hk.1, Int.le_trans hk.2 hlast⟩⟩
  · rw [hs]
    exact ht.after
  · rw [hs]
    exact ht.others
  · rw [hrt]
    exact ht.adds

theorem Deed.Does.query {α : Type} (h : d.Does w w') (env : Env) (q : Query)
    {f : Database → α × Database} (hf : ∀ db, (f db).2.outputs.lastId = db.outputs.lastId) :
    d.Does w (query env q f w').2 := by
  refine h.of_eq (query_streams env q f w') (query_rt env q f w') (Int.le_of_eq ?_)
  unfold StreamGateway.query
  split
  · rfl
  · exact (hf w'.db).symm

/-- The entry of an input is made with a task of its own, or without one. -/
inductive Opens (i : Int) (info : InputInfo) (rt rt' : Runtime) : Prop
  | running (t : Task) : info.taskHandle = some t → t.input = some i →
      Adds [.incrementActiveInputs] [t] rt rt' → Opens i info rt rt'
  | idle : info.taskHandle = none → Adds [] [] rt rt' → Opens i info rt rt'

/-- A new entry without outputs appears. -/
theorem does_openInput (info : InputInfo) (ho : Opens i info w.rt w'.rt)
    (ht : ∀ ms ts, Adds ms ts w.rt w'.rt → Touches i none (some info) ms ts w w')
    (houtputs : info.outputTasks = ∅ ∧ info.stoppedOutputs = ∅)
    (hidle : info.status.isConnected = false) : Deed.openInput.Does w w' := by
  cases ho with
  | running t hhandle hinput hadds =>
    exact ⟨i, _, _, _, _, ht _ _ hadds,
      .openInput hhandle hinput houtputs.1 houtputs.2 hidle⟩
  | idle hhandle hadds =>
    exact ⟨i, _, _, _, _, ht _ _ hadds, .openIdle hhandle houtputs.1 houtputs.2 hidle⟩

end Touches

/-! ## The ids of the outputs -/

/-- The outputs in memory have ids that were given, and none is both running and stopped. -/
structure World.OutputsKeyed (w : World) : Prop where
  apart : ∀ i info, w.streams.lookup i = some info → info.KeysApart
  given : ∀ i info, w.streams.lookup i = some info → ∀ k, info.HasOutput k →
    k ≤ w.db.outputs.lastId

theorem keysApart_of_empty {info : InputInfo} (h : info.stoppedOutputs = ∅) : info.KeysApart := by
  intro k _ hk
  rw [h] at hk
  exact AList.notMem_empty k hk

theorem not_hasOutput_of_empty {info : InputInfo} (ho : info.outputTasks = ∅)
    (hs : info.stoppedOutputs = ∅) (k : Int) : ¬ info.HasOutput k := by
  rw [InputInfo.HasOutput, ho, hs]
  exact not_or_intro (AList.notMem_empty k) (AList.notMem_empty k)

/-- An entry that a deed leaves has the outputs that it had, and those with fresh ids. -/
theorem Deed.Changes.hasOutput {d : Deed} {fresh : Int → Prop} {i : Int}
    {before : Option InputInfo} {info' : InputInfo} {ms : List Metric} {ts : List Task}
    (h : d.Changes fresh i before (some info') ms ts) {k : Int} (hk : info'.HasOutput k) :
    fresh k ∨ ∃ info, before = some info ∧ info.HasOutput k := by
  cases h with
  | keep => exact .inr ⟨info', rfl, hk⟩
  | openInput _ _ ho hs => exact absurd hk (not_hasOutput_of_empty ho hs k)
  | openIdle _ ho hs => exact absurd hk (not_hasOutput_of_empty ho hs k)
  | startInput _ _ _ _ hs hrunning =>
    rw [InputInfo.HasOutput, hs] at hk
    exact .inr ⟨_, rfl, hrunning k (hk.resolve_right (AList.notMem_empty k))⟩
  | stopInput _ ho _ hstopped =>
    rw [InputInfo.HasOutput, ho] at hk
    exact .inr ⟨_, rfl, hstopped k (hk.resolve_left (AList.notMem_empty k))⟩
  | openOutput hfresh =>
    rcases hk with hk | hk
    · rcases (AList.mem_insert _).mp hk with rfl | hk
      · exact .inl hfresh
      · exact .inr ⟨_, rfl, .inl hk⟩
    · exact .inr ⟨_, rfl, .inr hk⟩
  | startOutput hstopped =>
    rcases hk with hk | hk
    · rcases (AList.mem_insert _).mp hk with rfl | hk
      · exact .inr ⟨_, rfl, .inr hstopped⟩
      · exact .inr ⟨_, rfl, .inl hk⟩
    · exact .inr ⟨_, rfl, .inr (AList.mem_erase.mp hk).2⟩
  | loseOutput | closeStopped =>
    exact .inr ⟨_, rfl, hk.imp_right fun hk => (AList.mem_erase.mp hk).2⟩
  | stopOutput hrunning =>
    rcases hk with hk | hk
    · exact .inr ⟨_, rfl, .inl (AList.mem_erase.mp hk).2⟩
    · rcases (AList.mem_insert _).mp hk with rfl | hk
      · exact .inr ⟨_, rfl, .inl hrunning⟩
      · exact .inr ⟨_, rfl, .inr hk⟩
  | closeOutput =>
    exact .inr ⟨_, rfl, hk.imp_left fun hk => (AList.mem_erase.mp hk).2⟩

theorem Deed.Changes.keysApart {d : Deed} {fresh : Int → Prop} {i : Int}
    {before : Option InputInfo} {info' : InputInfo} {ms : List Metric} {ts : List Task}
    (h : d.Changes fresh i before (some info') ms ts)
    (hbefore : ∀ info, before = some info → info.KeysApart)
    (hfresh : ∀ k, fresh k → ∀ info, before = some info → ¬ info.HasOutput k) :
    info'.KeysApart := by
  cases h with
  | keep => exact hbefore info' rfl
  | openInput _ _ _ hs => exact keysApart_of_empty hs
  | openIdle _ _ hs => exact keysApart_of_empty hs
  | startInput _ _ _ _ hs => exact keysApart_of_empty hs
  | stopInput _ ho =>
    intro k hk
    rw [ho] at hk
    exact absurd hk (AList.notMem_empty k)
  | openOutput hk =>
    intro k' hk' hstopped
    rcases (AList.mem_insert _).mp hk' with rfl | hk'
    · exact hfresh _ hk _ rfl (.inr hstopped)
    · exact hbefore _ rfl k' hk' hstopped
  | startOutput =>
    intro k' hk' hstopped
    obtain ⟨hne, hstopped⟩ := AList.mem_erase.mp hstopped
    rcases (AList.mem_insert _).mp hk' with rfl | hk'
    · exact hne rfl
    · exact hbefore _ rfl k' hk' hstopped
  | loseOutput | closeStopped =>
    exact fun k' hk' hstopped => hbefore _ rfl k' hk' (AList.mem_erase.mp hstopped).2
  | stopOutput =>
    intro k' hk' hstopped
    obtain ⟨hne, hk'⟩ := AList.mem_erase.mp hk'
    rcases (AList.mem_insert _).mp hstopped with rfl | hstopped
    · exact hne rfl
    · exact hbefore _ rfl k' hk' hstopped
  | closeOutput =>
    exact fun k' hk' => hbefore _ rfl k' (AList.mem_erase.mp hk').2

theorem Deed.Does.outputsKeyed {d : Deed} {w w' : World} (h : d.Does w w') (hw : w.OutputsKeyed)
    (hlast : w.db.outputs.lastId ≤ w'.db.outputs.lastId) : w'.OutputsKeyed := by
  obtain ⟨i, before, after, ms, ts, ht, hc⟩ := h
  have hafter : ∀ info', w'.streams.lookup i = some info' →
      d.Changes (GivenMeanwhile w w') i (w.streams.lookup i) (some info') ms ts := by
    intro info' hi
    rw [ht.before, ← hi, ht.after]
    exact hc
  refine ⟨fun j info' hj => ?_, fun j info' hj k hk => ?_⟩
  · by_cases hji : j = i
    · subst hji
      refine (hafter info' hj).keysApart (hw.apart j) fun k hk info hi hhas => ?_
      exact absurd (hw.given j info hi k hhas) (Int.not_le.mpr hk.1)
    · exact hw.apart j info' ((ht.others j hji).symm.trans hj)
  · by_cases hji : j = i
    · subst hji
      rcases (hafter info' hj).hasOutput hk with hk | ⟨info, hi, hk⟩
      · exact hk.2
      · exact Int.le_trans (hw.given j info hi k hk) hlast
    · exact Int.le_trans (hw.given j info' ((ht.others j hji).symm.trans hj) k hk) hlast

theorem Touches.outputsKeyed {i : Int} {before : Option InputInfo} {info' : InputInfo}
    {ms : List Metric} {ts : List Task} {w w' : World}
    (h : Touches i before (some info') ms ts w w') (hdb : w'.db = w.db)
    (hapart : info'.KeysApart) (hgiven : ∀ k, info'.HasOutput k → k ≤ w.db.outputs.lastId)
    (hw : w.OutputsKeyed) : w'.OutputsKeyed := by
  rw [← hdb] at hgiven
  refine ⟨fun j info hj => ?_, fun j info hj => ?_⟩
  · by_cases hji : j = i
    · rw [hji, h.after] at hj
      exact Option.some.inj hj ▸ hapart
    · exact hw.apart j info ((h.others j hji).symm.trans hj)
  · by_cases hji : j = i
    · rw [hji, h.after] at hj
      exact Option.some.inj hj ▸ hgiven
    · rw [hdb]
      exact hw.given j info ((h.others j hji).symm.trans hj)

/-! ## Deeds of one section -/

section Sections

variable {w : World}

def World.stopDeed (i : Int) (w : World) : Deed :=
  match w.streams.lookup i with
  | some info => if info.status = .stopped then .nothing else .stopInput i
  | none => .nothing

theorem does_stopInputSection (i : Int) (w : World) :
    (w.stopDeed i).Does w (stopInputSection i w).2 := by
  unfold World.stopDeed stopInputSection
  cases hi : w.streams.lookup i with
  | none => exact .refl rfl w
  | some info =>
    by_cases hstopped : info.status = .stopped
    · simp only [hstopped, if_true]
      exact .refl rfl w
    · simp only [hstopped, if_false]
      have hadds := ((adds_abortHandle w.rt info.taskHandle).trans
        (adds_stopOutputs info.outputTasks.toPairs _)).trans
          (adds_abortAnalyses info.analysisTasks.toPairs _)
      refine ⟨i, _, _, _, _, touches_insert hi rfl hadds, .stopInput rfl rfl rfl fun k hk => ?_⟩
      exact (stopInputInfo_contained i info w.rt).outputs k (.inr hk)

def World.closeDeed (i : Int) (w : World) : Deed :=
  if i ∈ w.streams then .closeInput i else .nothing

theorem does_removeInputSection (i : Int) (w : World) :
    (w.closeDeed i).Does w (removeInputSection i w).2 := by
  unfold World.closeDeed removeInputSection
  cases hi : w.streams.lookup i with
  | none =>
    rw [if_neg (AList.lookup_eq_none.mp hi)]
    exact .refl rfl w
  | some info =>
    rw [if_pos (HashMap.mem_iff.mpr ⟨_, hi⟩)]
    have hadds := ((((adds_abortHandle w.rt info.taskHandle).record .decrementActiveInputs).trans
      (adds_abortOutputs info.outputTasks.toPairs _)).trans
        (adds_records .decrementActiveOutputs info.outputTasks.toPairs _)).trans
          (adds_abortAnalyses info.analysisTasks.toPairs _)
    have hcount : info.outputTasks.toPairs.length = info.outputCount := List.length_map _
    refine ⟨i, _, _, _, _, ⟨hi, ?_, fun j hj => ?_, ?_⟩, .closeInput hcount⟩
    · exact AList.lookup_erase i w.streams
    · exact AList.lookup_erase_ne hj
    · simpa using hadds

def World.startOutputDeed (i k : Int) (w : World) : Deed :=
  match w.streams.lookup i with
  | some info =>
    if info.status = .stopped then .nothing
    else if k ∈ info.stoppedOutputs then .startOutput i k
    else .nothing
  | none => .nothing

theorem does_startOutputSection (env : Env) (i k : Int) (w : World) :
    (w.startOutputDeed i k).Does w (startOutputSection env i k w).2 := by
  unfold World.startOutputDeed startOutputSection
  cases hi : w.streams.lookup i with
  | none => exact .refl rfl w
  | some info =>
    by_cases hstopped : info.status = .stopped
    · simp only [hstopped, if_true]
      exact .refl rfl w
    simp only [hstopped, if_false]
    cases hc : info.stoppedOutputs.lookup k with
    | none =>
      rw [if_neg (AList.lookup_eq_none.mp hc)]
      dsimp only
      split <;> exact .refl rfl w
    | some config =>
      have hk : k ∈ info.stoppedOutputs := HashMap.mem_iff.mpr ⟨_, hc⟩
      rw [if_pos hk]
      dsimp only
      split
      · rename_i info' rt' hstart
        obtain ⟨spec, o, hl, rfl⟩ := startOutputInternal_ok hstart
        exact ⟨i, _, _, _, _, touches_insert hi rfl hl.adds, .startOutput hk hl.input⟩
      · exact ⟨i, _, _, _, _, touches_insert hi rfl (.refl w.rt), .loseOutput⟩

def World.stopOutputDeed (i k : Int) (w : World) : Deed :=
  match w.streams.lookup i with
  | some info => if k ∈ info.outputTasks then .stopOutput i k else .nothing
  | none => .nothing

theorem does_stopOutputSection (i k : Int) (w : World) :
    (w.stopOutputDeed i k).Does w (stopOutputSection i k w).2 := by
  unfold World.stopOutputDeed stopOutputSection
  cases hi : w.streams.lookup i with
  | none => exact .refl rfl w
  | some info =>
    dsimp only
    cases ho : info.outputTasks.lookup k with
    | none =>
      rw [if_neg (AList.lookup_eq_none.mp ho)]
      dsimp only
      split <;> exact .refl rfl w
    | some o =>
      have hk : k ∈ info.outputTasks := HashMap.mem_iff.mpr ⟨_, ho⟩
      rw [if_pos hk]
      exact ⟨i, _, _, _, _, touches_insert hi rfl (adds_abortHandle w.rt o.abortHandle),
        .stopOutput hk⟩

def World.closeOutputDeed (i k : Int) (w : World) : Deed :=
  match w.streams.lookup i with
  | some info =>
    if k ∈ info.outputTasks ∨ k ∈ info.stoppedOutputs then .closeOutput i k else .nothing
  | none => .nothing

theorem does_removeOutputSection (i k : Int) (w : World) :
    (w.closeOutputDeed i k).Does w (removeOutputSection i k w).2 := by
  unfold World.closeOutputDeed removeOutputSection
  cases hi : w.streams.lookup i with
  | none => exact .refl rfl w
  | some info =>
    dsimp only
    cases ho : info.outputTasks.lookup k with
    | none =>
      have hk : k ∉ info.outputTasks := AList.lookup_eq_none.mp ho
      by_cases hc : k ∈ info.stoppedOutputs
      · rw [if_pos (.inr hc)]
        simp only [hc, if_true]
        exact ⟨i, _, _, _, _, touches_insert hi rfl (.refl w.rt), .closeStopped⟩
      · rw [if_neg (not_or_intro hk hc)]
        simp only [hc, if_false]
        exact .refl rfl w
    | some o =>
      have hk : k ∈ info.outputTasks := HashMap.mem_iff.mpr ⟨_, ho⟩
      rw [if_pos (.inl hk)]
      exact ⟨i, _, _, _, _, touches_insert hi rfl
        ((adds_abortHandle w.rt o.abortHandle).record _), .closeOutput hk⟩

end Sections

end StreamGateway
