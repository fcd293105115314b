import StreamGateway.OutputRows
import StreamGateway.TaskOwnership

/-!
# The ids of inputs

The database gives each input an id behind the last one. A call uses the id of an input that
it has found in memory or in the database before, so no entry and no task ever has an id that
is still to be given.
-/
namespace StreamGateway

open Prog

/-- The ids in use were given before, and live tasks were spawned. -/
structure World.IdsGiven (w : World) : Prop where
  entries : ∀ i ∈ w.streams, i ≤ w.db.inputs.lastId
  tasks : ∀ t ∈ w.rt.spawned, ∀ i, t.spec.owner = .input i → i ≤ w.db.inputs.lastId
  live : ∀ t ∈ w.rt.live, t ∈ w.rt.spawned

/-- The ids that are in use are given, and no id is taken back. -/
def givenRely : Guarded World :=
  fun _ w w' => w.IdsGiven ∧ w.db.inputs.lastId ≤ w'.db.inputs.lastId

instance (h : Option LockMode) : IsTrans World (givenRely h) :=
  ⟨fun _ _ _ h₁ h₂ => ⟨h₁.1, Int.le_trans h₁.2 h₂.2⟩⟩

/-- An input that a call knows of has an id that was given. -/
theorem KnownInput.given {i : Int} {w : World} (h : KnownInput givenRely i w)
    (hw : ∀ j ∈ w.streams, j ≤ w.db.inputs.lastId) : i ≤ w.db.inputs.lastId := by
  induction h with
  | here hi => exact hi.elim (hw i) id
  | later _ hrely ih => exact Int.le_trans (ih hrely.1.entries) hrely.2
  | own _ hdb hkeys ih =>
    rw [hdb] at hw ⊢
    exact ih fun j hj => hw j (hkeys j hj)

/-! ## What a step can do -/

/-- No entry is new, a new task for an input is for one that is in memory, and a task that is
live was live before or is new. -/
structure Confined (w w' : World) : Prop where
  entries : ∀ i ∈ w'.streams, i ∈ w.streams
  tasks : ∀ t ∈ w'.rt.spawned, t ∈ w.rt.spawned ∨
    ∀ i, t.spec.owner = .input i → i ∈ w.streams
  spawned : w.rt.spawned ⊆ w'.rt.spawned
  live : ∀ t ∈ w'.rt.live, t ∈ w.rt.live ∨ t ∈ w'.rt.spawned

section Confined

variable {w w' : World}

theorem Confined.refl (w : World) : Confined w w :=
  ⟨fun _ hi => hi, fun _ ht => .inl ht, List.Subset.refl _, fun _ ht => .inl ht⟩

theorem mem_of_insert_eq {streams streams' : HashMap Int InputInfo} {i : Int}
    {info info' : InputInfo} (hi : streams.lookup i = some info)
    (hs : streams' = streams.insert i info') : ∀ j ∈ streams', j ∈ streams := by
  intro j hj
  rw [hs] at hj
  rcases (AList.mem_insert _).mp hj with rfl | hj
  · exact HashMap.mem_iff.mpr ⟨_, hi⟩
  · exact hj

theorem Confined.of_moves {launched aborted : List Task} (hs : ∀ i ∈ w'.streams, i ∈ w.streams)
    (hm : Moves launched aborted w.rt w'.rt)
    (hl : ∀ t ∈ launched, ∀ i, t.spec.owner = .input i → i ∈ w.streams) : Confined w w' := by
  refine ⟨hs, fun t ht => ?_, hm.later, fun t ht => ?_⟩
  · rw [hm.spawned] at ht
    exact (List.mem_append.mp ht).imp_right (hl t)
  · rw [hm.live] at ht
    refine (List.mem_append.mp ht).imp List.mem_of_mem_filter fun ht => ?_
    rw [hm.spawned]
    exact List.mem_append_right _ ht

theorem Confined.of_aborts {aborted : List Task} (hs : ∀ i ∈ w'.streams, i ∈ w.streams)
    (ha : Aborts aborted w.rt w'.rt) : Confined w w' :=
  .of_moves hs ha.moves fun _ ht => absurd ht List.not_mem_nil

/-- A task of an output is not one of an input. -/
theorem input_of_output {t : Task} (ht : t.spec.owner.outputId.isSome = true) (i : Int)
    (ho : t.spec.owner = .input i) : i ∈ w.streams := by
  rw [ho] at ht
  exact absurd ht (by simp [Owner.outputId])

/-- The kinds of sections that spawn no task for an input, except for one that is there. -/
def confinedKinds : List SectionKind := [.tend, .restart, .stop, .remove, .receive, .apply]

theorem Section.confined {k : SectionKind} (hk : k ∈ confinedKinds) (hs : Section k w w') :
    Confined w w' := by
  cases hs with
  | spawn | create | analyse | install | enter | load => simp [confinedKinds] at hk
  | tend i info info' launched aborted hi hs ht _ hm =>
    exact .of_moves (mem_of_insert_eq hi hs) hm fun t h => input_of_output (ht.outputIds t h)
  | restart i info info' t launched hi hs howner _ hb hl =>
    refine .of_moves (mem_of_insert_eq hi hs) hl.moves fun t' ht' j ho => ?_
    rcases List.mem_cons.mp ht' with rfl | ht'
    · obtain rfl := Owner.input.inj (howner.symm.trans ho)
      exact HashMap.mem_iff.mpr ⟨_, hi⟩
    · exact input_of_output (hb.outputIds t' ht') j ho
  | stop i =>
    rcases stopInputSection_ok i w with
      ⟨e, hw⟩ | ⟨info, info', _, hi, hs, _, _, _, _, _, ha, _⟩
    · rw [hw]
      exact .refl w
    · exact .of_aborts (mem_of_insert_eq hi hs) ha
  | remove i =>
    rcases removeInputSection_ok i w with hw | ⟨info, aborted, _, hs, ha⟩
    · rw [hw]
      exact .refl w
    · refine .of_aborts (fun j hj => ?_) ha
      rw [hs] at hj
      exact (AList.mem_erase.mp hj).2
  | receive =>
    unfold StreamGateway.receive
    split <;> exact ⟨fun _ hi => hi, fun _ ht => .inl ht, List.Subset.refl _, fun _ ht => .inl ht⟩
  | apply =>
    have hrt : (applyProcessing w).2.rt.spawned = w.rt.spawned := by
      unfold applyProcessing
      split <;> rfl
    refine ⟨?_, fun t ht => .inl (by rwa [hrt] at ht), by rw [hrt]; exact List.Subset.refl _,
      fun t ht => .inl (by rwa [applyProcessing_live] at ht)⟩
    rcases applyProcessing_streams w with hs | ⟨e, _, hs⟩
    · rw [hs]
      exact fun _ hi => hi
    · rcases applyChange_cases e.change w.streams with hc | ⟨i, info, info', hi, hc, _⟩
      · rw [hs, hc]
        exact fun _ hi => hi
      · exact mem_of_insert_eq hi (hs.trans hc)

theorem Quiet.confined (h : Quiet w w') : Confined w w' := by
  refine .of_moves (fun i hi => ?_) h.runtime.moves fun _ ht => absurd ht List.not_mem_nil
  rwa [h.streams] at hi

theorem Sections.confined {ks : List SectionKind} (hks : ks ⊆ confinedKinds)
    (h : Sections ks w w') : Confined w w' := by
  rcases h with hq | ⟨k, hk, hs⟩
  · exact hq.confined
  · exact hs.confined (hks hk)

theorem confined_sptsInstallSection (env : Env) (i : Int) (new : InputInfo) (w : World) :
    Confined w (sptsInstallSection env i new w).2 := by
  rcases sptsInstallSection_ok env i new w with hw | ⟨info, info', _, hi, hs, _, _, _, _, hts⟩
  · rw [hw]
    exact .refl w
  · exact .of_moves (mem_of_insert_eq hi hs) hts.launches.moves
      fun t ht => input_of_output (hts.outputIds t ht)

theorem confined_installOutputSection (env : Env) (req : CreateOutputRequest) (i k : Int)
    (destination : String) (w : World) :
    Confined w (installOutputSection env req i k destination w).2 := by
  unfold installOutputSection
  split
  · exact .refl w
  split
  · exact .refl w
  rename_i output rt' hspawn
  obtain ⟨j, spec, _, hl⟩ := spawnOutput_launch hspawn
  have hnone : ∀ t ∈ [w.rt.newTask spec], ∀ i, t.spec.owner = .input i → i ∈ w.streams :=
    fun t ht => input_of_output (hl.started.outputIds t ht)
  split
  · exact .of_moves (fun _ hi => hi) hl.launches.moves hnone
  · rename_i target htarget
    exact .of_moves (mem_of_insert_eq htarget rfl) hl.launches.moves hnone

end Confined

/-! ## Runs -/

/-- No id of an input is taken back. -/
theorem Act.lastId {rely : Guarded World} {ops : Option Operation → Prop} {h : Option LockMode}
    {w w' : World} (ha : Act rely ops h w w') :
    w.db.inputs.lastId ≤ w'.db.inputs.lastId := by
  refine ha.databaseCases ?same ?saveInput ?inputStatus ?updateInput ?deleteInput ?saveOutput
    ?outputStatus ?updateOutput ?deleteOutput
  case same => exact fun h w w' hdb => Int.le_of_eq (by rw [hdb])
  case saveInput =>
    intro h w w' called name req _ hdb
    have hlast : w'.db.inputs.lastId = w.db.inputs.lastId + 1 := by rw [hdb]; rfl
    omega
  case inputStatus => exact fun h w w' i status hdb => Int.le_of_eq (by rw [hdb]; rfl)
  case updateInput =>
    exact fun h w w' env i req merged _ _ hdb => Int.le_of_eq (by rw [hdb]; rfl)
  case deleteInput =>
    intro w w' i _ hinputs _
    rcases hinputs with hinputs | hinputs
    · exact Int.le_of_eq (by rw [hinputs])
    · exact Int.le_of_eq (by rw [hinputs]; rfl)
  case saveOutput => exact fun w w₁ w' called req _ _ _ _ hdb => Int.le_of_eq (by rw [hdb])
  case outputStatus => exact fun h w w' k status hdb => Int.le_of_eq (by rw [hdb])
  case updateOutput =>
    exact fun w w' env i k req merged _ _ hdb => Int.le_of_eq (by rw [hdb])
  case deleteOutput => exact fun w w' i k _ hdb => Int.le_of_eq (by rw [hdb])

theorem Confined.idsGiven {w w' : World} (h : Confined w w') (hw : w.IdsGiven)
    (hlast : w.db.inputs.lastId ≤ w'.db.inputs.lastId) : w'.IdsGiven := by
  refine ⟨fun i hi => Int.le_trans (hw.entries i (h.entries i hi)) hlast, fun t ht i ho => ?_,
    fun t ht => ?_⟩
  · rcases h.tasks t ht with ht | hnew
    · exact Int.le_trans (hw.tasks t ht i ho) hlast
    · exact Int.le_trans (hw.entries i (hnew i ho)) hlast
  · exact (h.live t ht).elim (fun ht => h.spawned (hw.live t ht)) id

/-- A step on entries and tasks that are there, or on the database alone. -/
theorem Act.confined {rely : Guarded World} {ops : Option Operation → Prop}
    {h : Option LockMode} {w w' : World} (ha : Act rely ops h w w') :
    Confined w w' ∨ (∃ t, Launches [t] w.rt w'.rt ∧ w'.streams = w.streams ∧ w'.db = w.db ∧
        ∀ i, t.spec.owner = .input i → KnownInput rely i w) ∨
      (w'.rt = w.rt ∧ w'.db = w.db ∧ ∀ i ∈ w'.streams, i ∈ w.streams ∨ KnownInput rely i w) := by
  cases ha with
  | quiet hs hl => exact .inl (Quiet.mk hs hl).confined
  | launch t hl _ hs hdb' hknown => exact .inr (.inl ⟨t, hl, hs, hdb', hknown⟩)
  | edit i info info' aborted hi hs _ haborts =>
    exact .inl (.of_aborts (mem_of_insert_eq hi hs) haborts)
  | restart env plan hspts =>
    exact .inl ((section_restart env hspts w).confined (by simp [confinedKinds]))
  | install env i new => exact .inl (confined_sptsInstallSection env i new w)
  | stopInput i => exact .inl ((Section.stop i).confined (by simp [confinedKinds]))
  | startOutput env i k =>
    exact .inl ((section_startOutput env i k w).confined (by simp [confinedKinds]))
  | stopOutput i k => exact .inl ((section_stopOutput i k w).confined (by simp [confinedKinds]))
  | setStopped env i k req merged =>
    exact .inl ((section_setStoppedConfig i k merged w).confined (by simp [confinedKinds]))
  | removeInput i => exact .inl ((Section.remove i).confined (by simp [confinedKinds]))
  | removeOutput i k => exact .inl ((section_removeOutput i k w).confined (by simp [confinedKinds]))
  | insertInput called info _ _ hknown =>
    refine .inr (.inr ⟨rfl, rfl, fun i hi => ?_⟩)
    rcases (AList.mem_insert _).mp hi with rfl | hi
    · exact .inr hknown
    · exact .inl hi
  | insertInputs loaded _ _ hknown =>
    refine .inr (.inr ⟨rfl, rfl, fun i hi => ?_⟩)
    exact (AList.mem_union.mp hi).symm.imp_right (hknown i)
  | installOutput env called req i k row destination =>
    exact .inl (confined_installOutputSection env req i k destination w)
  | @loadGroup _ _ _ w₀ _ env i =>
    have hids := w₀.db.outputs.nodup_keys_filter fun o => o.2.inputId = i
    exact .inl ((section_loadGroup env i _ hids w).confined (by simp [confinedKinds]))
  | receive => exact .inl (Section.receive.confined (by simp [confinedKinds]))
  | apply => exact .inl (Section.apply.confined (by simp [confinedKinds]))
  | saveInput => exact .inl (quiet_query _ _ _ w).confined
  | inputStatus => exact .inl (quiet_query _ _ _ w).confined
  | updateInput => exact .inl (quiet_query _ _ _ w).confined
  | deleteInput env i => exact .inl (quiet_deleteInputFromDb env i w).confined
  | saveOutput =>
    unfold saveOutputToDb
    split
    · exact .inl (.refl w)
    · exact .inl (quiet_query _ _ _ w).confined
  | outputStatus => exact .inl (quiet_query _ _ _ w).confined
  | updateOutput => exact .inl (quiet_query _ _ _ w).confined
  | deleteOutput => exact .inl (quiet_query _ _ _ w).confined

theorem Act.idsGiven {ops : Option Operation → Prop} {h : Option LockMode} {w w' : World}
    (ha : Act givenRely ops h w w') (hw : w.IdsGiven) : w'.IdsGiven := by
  rcases ha.confined with hc | ⟨t, hl, hs, hdb, hknown⟩ | ⟨hrt, hdb, hkeys⟩
  · exact hc.idsGiven hw ha.lastId
  · refine ⟨?_, fun t' ht' i ho => ?_, fun t' ht' => ?_⟩
    · rw [hs, hdb]
      exact hw.entries
    · rw [hdb]
      rw [hl.spawned] at ht'
      rcases List.mem_append.mp ht' with ht' | ht'
      · exact hw.tasks t' ht' i ho
      · obtain rfl := List.mem_singleton.mp ht'
        exact (hknown i ho).given hw.entries
    · rw [hl.spawned]
      rw [hl.live] at ht'
      exact List.mem_append.mpr ((List.mem_append.mp ht').imp_left (hw.live t'))
  · refine ⟨fun i hi => ?_, ?_, ?_⟩
    · rw [hdb]
      exact (hkeys i hi).elim (hw.entries i) fun hknown => hknown.given hw.entries
    · rw [hrt, hdb]
      exact hw.tasks
    · rw [hrt]
      exact hw.live

theorem TaskStep.idsGiven {w w' : World} (h : TaskStep w w') (hw : w.IdsGiven) : w'.IdsGiven := by
  cases h with
  | send => exact ⟨hw.entries, hw.tasks, hw.live⟩
  | finish => exact ⟨hw.entries, hw.tasks, fun t ht => hw.live t (List.mem_of_mem_filter ht)⟩
  | tick => exact ⟨hw.entries, hw.tasks, hw.live⟩

theorem idsGiven_fits : Pool.Fits World.IdsGiven givenRely (Act givenRely fun _ => True)
    GatewayCall TaskStep (fun _ _ => True) where
  refl := fun hi => ⟨hi, Int.le_refl _⟩
  calls := fun hp _ => hp.acts _
  keeps := fun hi hstep _ => hstep.elim (fun ha => ha.idsGiven hi) fun ho => ho.idsGiven hi
  relies := by
    intro a b t h _ hi hstep _
    refine ⟨hi, ?_⟩
    rcases hstep with ⟨_, ha⟩ | ho
    · exact ha.lastId
    · exact Int.le_of_eq (by rw [ho.db])

/-- In every state of every run, no entry and no task has an id that is still to be given. -/
theorem reachable_idsGiven {w : World} (h : Reachable w) : w.IdsGiven := by
  obtain ⟨env, db, threads, hruns⟩ := h
  have hboot : (World.boot db).IdsGiven :=
    ⟨fun i hi => absurd hi (AList.notMem_empty i), fun _ ht => absurd ht List.not_mem_nil,
      fun _ ht => absurd ht List.not_mem_nil⟩
  exact ((behaving_bootPool World.IdsGiven env db trivial hboot).runs idsGiven_fits hruns).inv

end StreamGateway
