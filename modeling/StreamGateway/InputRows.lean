import StreamGateway.InputIds
import StreamGateway.Loading
import StreamGateway.OutputOwnership
import StreamGateway.Tracking

/-!
# The rows of inputs

`create_input` writes the row of an input long before its entry, and `delete_input` takes the
entry out before it deletes the row. In between the id is in no entry, and belongs to the one
call that has it. So every entry has a row at every moment, and the process may be killed at any
of them.
-/
namespace StreamGateway

open Prog

/-! ## Steps that leave the inputs alone -/

/-- The kind of the input, if it has a row. -/
def World.rowKind (w : World) (i : Int) : Option String := (w.db.inputs.find i).map (·.kind)

def SameEntries (w w' : World) : Prop := ∀ i, i ∈ w'.streams ↔ i ∈ w.streams

/-- No input is new, none is gone, and the rows keep their kinds. -/
structure SameInputs (w w' : World) : Prop where
  entries : SameEntries w w'
  kinds : ∀ i, w'.rowKind i = w.rowKind i
  lastId : w'.db.inputs.lastId = w.db.inputs.lastId

section SameInputs

variable {w w' : World}

theorem SameEntries.of_eq (h : w'.streams = w.streams) : SameEntries w w' := fun i => by rw [h]

theorem SameInputs.of_eq (hs : w'.streams = w.streams) (hdb : w'.db.inputs = w.db.inputs) :
    SameInputs w w' :=
  ⟨.of_eq hs, fun i => by rw [World.rowKind, hdb, World.rowKind], by rw [hdb]⟩

theorem SameEntries.of_insert {i : Int} {info info' : InputInfo}
    (hi : w.streams.lookup i = some info) (h : w'.streams = w.streams.insert i info') :
    SameEntries w w' := by
  intro j
  refine ⟨mem_of_insert_eq hi h j, fun hj => ?_⟩
  rw [h]
  exact (AList.mem_insert _).mpr (.inr hj)

theorem Section.sameEntries {k : SectionKind} (hk : k ∈ confinedKinds) (hne : k ≠ .remove)
    (hs : Section k w w') : SameEntries w w' := by
  cases hs with
  | spawn | create | analyse | install | enter | load => simp [confinedKinds] at hk
  | remove => exact absurd rfl hne
  | tend i info info' launched aborted hi hs => exact .of_insert hi hs
  | restart i info info' t launched hi hs => exact .of_insert hi hs
  | stop i =>
    rcases stopInputSection_ok i w with ⟨e, hw⟩ | ⟨info, info', _, hi, hs, _⟩
    · exact .of_eq (by rw [hw])
    · exact .of_insert hi hs
  | receive => exact .of_eq (receive_streams w)
  | apply =>
    rcases applyProcessing_streams w with hs | ⟨e, _, hs⟩
    · exact .of_eq hs
    · rcases applyChange_cases e.change w.streams with hc | ⟨i, info, info', hi, hc, _⟩
      · exact .of_eq (hs.trans hc)
      · exact .of_insert hi (hs.trans hc)

theorem Sections.sameEntries {ks : List SectionKind} (hks : ks ⊆ confinedKinds)
    (hne : .remove ∉ ks) (h : Sections ks w w') : SameEntries w w' := by
  rcases h with hq | ⟨k, hk, hs⟩
  · exact .of_eq hq.streams
  · exact hs.sameEntries (hks hk) fun heq => hne (heq ▸ hk)

theorem sameEntries_sptsInstallSection (env : Env) (i : Int) (new : InputInfo) (w : World) :
    SameEntries w (sptsInstallSection env i new w).2 := by
  rcases sptsInstallSection_ok env i new w with hw | ⟨info, info', _, hi, hs, _⟩
  · exact .of_eq (by rw [hw])
  · exact .of_insert hi hs

theorem sameEntries_installOutputSection (env : Env) (req : CreateOutputRequest) (i k : Int)
    (destination : String) (w : World) :
    SameEntries w (installOutputSection env req i k destination w).2 := by
  unfold installOutputSection
  split
  · exact .of_eq rfl
  split
  · exact .of_eq rfl
  split
  · exact .of_eq rfl
  · rename_i target htarget
    exact .of_insert htarget rfl

/-- The acts of a load, of a creation and of a deletion of an input aside. -/
def outsideInputs (op : Option Operation) : Prop :=
  ∃ o, op = some o ∧ (∀ req, o ≠ .createInput req) ∧ ∀ i, o ≠ .deleteInput i

@[simp] theorem outsideInputs_some {o : Operation} : outsideInputs (some o) ↔
    (∀ req, o ≠ .createInput req) ∧ ∀ i, o ≠ .deleteInput i := by
  simp [outsideInputs]

@[simp] theorem not_outsideInputs_none : ¬ outsideInputs none := by simp [outsideInputs]

theorem Act.sameEntries {rely : Guarded World} {h : Option LockMode}
    (ha : Act rely outsideInputs h w w') : SameEntries w w' := by
  cases ha with
  | quiet hs => exact .of_eq hs
  | launch t hl _ hs => exact .of_eq hs
  | edit i info info' aborted hi hs => exact .of_insert hi hs
  | restart env plan hspts =>
    exact (section_restart env hspts w).sameEntries (by simp [confinedKinds]) (by simp)
  | install env i new => exact sameEntries_sptsInstallSection env i new w
  | stopInput i => exact (Section.stop i).sameEntries (by simp [confinedKinds]) (by simp)
  | startOutput env i k =>
    exact (section_startOutput env i k w).sameEntries (by simp [confinedKinds]) (by simp)
  | stopOutput i k =>
    exact (section_stopOutput i k w).sameEntries (by simp [confinedKinds]) (by simp)
  | setStopped env i k req merged =>
    exact (section_setStoppedConfig i k merged w).sameEntries (by simp [confinedKinds]) (by simp)
  | removeOutput i k =>
    exact (section_removeOutput i k w).sameEntries (by simp [confinedKinds]) (by simp)
  | installOutput env called req i k row destination =>
    exact sameEntries_installOutputSection env req i k destination w
  | receive => exact Section.receive.sameEntries (by simp [confinedKinds]) (by simp)
  | apply => exact Section.apply.sameEntries (by simp [confinedKinds]) (by simp)
  | removeInput i hops => simp at hops
  | insertInput called info hops => simp at hops
  | insertInputs loaded hops => simp at hops
  | loadGroup env i hops => simp at hops
  | saveInput => exact .of_eq (query_streams _ _ _ w)
  | inputStatus => exact .of_eq (query_streams _ _ _ w)
  | updateInput => exact .of_eq (query_streams _ _ _ w)
  | deleteInput env i => exact .of_eq (quiet_deleteInputFromDb env i w).streams
  | saveOutput => exact .of_eq (quiet_saveOutputToDb _ _ _ _ _ _ _ w).streams
  | outputStatus => exact .of_eq (query_streams _ _ _ w)
  | updateOutput => exact .of_eq (query_streams _ _ _ w)
  | deleteOutput => exact .of_eq (query_streams _ _ _ w)

theorem rowKind_update {i : Int} {f : InputRow → InputRow}
    (h : w'.db.inputs = w.db.inputs.update i f) (hf : ∀ row, (f row).kind = row.kind) (j : Int) :
    w'.rowKind j = w.rowKind j := by
  unfold World.rowKind
  rw [h, Table.find_update]
  split
  · rename_i hj
    rw [hj, Option.map_map]
    congr 1
    exact funext hf
  · rfl

theorem Act.sameInputs {rely : Guarded World} {h : Option LockMode}
    (ha : Act rely outsideInputs h w w') : SameInputs w w' := by
  suffices hrows : (∀ i, w'.rowKind i = w.rowKind i) ∧
      w'.db.inputs.lastId = w.db.inputs.lastId from ⟨ha.sameEntries, hrows.1, hrows.2⟩
  have hsame : ∀ w w' : World, w'.db.inputs = w.db.inputs →
      (∀ i, w'.rowKind i = w.rowKind i) ∧ w'.db.inputs.lastId = w.db.inputs.lastId :=
    fun w w' heq => ⟨fun i => by rw [World.rowKind, heq, World.rowKind], by rw [heq]⟩
  refine ha.databaseCases ?same ?saveInput ?inputStatus ?updateInput ?deleteInput ?saveOutput
    ?outputStatus ?updateOutput ?deleteOutput
  case same => exact fun h w w' hdb => hsame w w' (by rw [hdb])
  case saveInput =>
    intro h w w' called name req hops
    simp at hops
  case inputStatus =>
    intro h w w' i status hdb
    have hinputs : w'.db.inputs =
        w.db.inputs.update i fun row => { row with status := status } := by
      rw [hdb]
    exact ⟨rowKind_update hinputs fun _ => rfl, by rw [hinputs]; rfl⟩
  case updateInput =>
    intro h w w' env i req merged _ _ hdb
    have hinputs : w'.db.inputs = w.db.inputs.update i fun row => { row with
        name := getNameFromRequest merged
        configJson := .obj merged.toFields } := by
      rw [hdb]
    exact ⟨rowKind_update hinputs fun _ => rfl, by rw [hinputs]; rfl⟩
  case deleteInput =>
    intro w w' i hops
    simp at hops
  case saveOutput => exact fun w _ w' called req _ _ _ _ hdb => hsame w w' (by rw [hdb])
  case outputStatus => exact fun h w w' k status hdb => hsame w w' (by rw [hdb])
  case updateOutput => exact fun w w' env i k req merged _ _ hdb => hsame w w' (by rw [hdb])
  case deleteOutput => exact fun w w' i k _ hdb => hsame w w' (by rw [hdb])

theorem TaskStep.sameInputs (h : TaskStep w w') : SameInputs w w' :=
  .of_eq h.streams (by rw [h.db])

end SameInputs

/-! ## What a call has -/

/-- The input that only this call knows of: its row is new, or its entry was just taken out. -/
inductive Holding
  | idle
  | created (i : Int)
  | removed (i : Int)

def Holding.inputId : Holding → Option Int
  | idle => none
  | created i | removed i => some i

/-- The steps, with what the call has before and after. A deletion may fail to delete the row only
if `lossy` says so. -/
inductive InputStep (lossy : Prop) : Holding → Holding → World → World → Prop
  | same {k : Holding} {w w' : World} : SameInputs w w' → InputStep lossy k k w w'
  | save {kind : String} {w w' : World} : kind ∈ storedKinds → SameEntries w w' →
      w'.db.inputs.lastId = w.db.inputs.lastId + 1 →
      (∀ i, w'.rowKind i = if i = w.db.inputs.lastId + 1 then some kind else w.rowKind i) →
      InputStep lossy .idle (.created (w.db.inputs.lastId + 1)) w w'
  | enter {w : World} (info : InputInfo) :
      InputStep lossy (.created info.id) .idle w (insertInput info w).2
  | remove {w : World} {i : Int} : i ∈ w.streams →
      InputStep lossy .idle (.removed i) w (removeInputSection i w).2
  | delete {i : Int} {w w' : World} : SameEntries w w' →
      w'.db.inputs.lastId = w.db.inputs.lastId →
      (∀ j, w'.rowKind j = if j = i then none else w.rowKind j) →
      InputStep lossy (.removed i) .idle w w'
  | keep {i : Int} {w w' : World} : lossy → SameInputs w w' →
      InputStep lossy (.removed i) .idle w w'

/-- Every entry has a row, as has every input that is about to be entered. No input is in two
hands, and if deletions do not fail, each row is that of an entry or of such an input. -/
structure InputsKept (lossy : Prop) (ks : List Holding) (w : World) : Prop where
  entries : ∀ i ∈ w.streams, (w.rowKind i).isSome = true
  created : ∀ i, .created i ∈ ks → (w.rowKind i).isSome = true
  apart : ∀ i ∈ ks.filterMap Holding.inputId, i ∉ w.streams ∧ i ≤ w.db.inputs.lastId
  distinct : (ks.filterMap Holding.inputId).Nodup
  kinds : ∀ i kind, w.rowKind i = some kind → kind ∈ storedKinds
  complete : ¬ lossy → ∀ i, (w.rowKind i).isSome = true →
    i ∈ w.streams ∨ i ∈ ks.filterMap Holding.inputId

section Kept

variable {lossy : Prop} {ks ks' : List Holding} {k k' : Holding} {w w' : World}

theorem le_lastId_of_rowKind {i : Int} (h : (w.rowKind i).isSome = true) :
    i ≤ w.db.inputs.lastId := by
  rw [World.rowKind, Option.isSome_map] at h
  obtain ⟨row, hrow⟩ := Option.isSome_iff_exists.mp h
  exact w.db.inputs.le_lastId _ (Table.find_eq_some.mp hrow)

theorem InputsKept.perm (h : InputsKept lossy ks w) (hp : ks.Perm ks') :
    InputsKept lossy ks' w := by
  have hids := hp.filterMap Holding.inputId
  refine ⟨h.entries, fun i hi => h.created i (hp.mem_iff.mpr hi),
    fun i hi => h.apart i (hids.mem_iff.mpr hi), hids.nodup_iff.mp h.distinct, h.kinds,
    fun hl i hi => (h.complete hl i hi).imp_right hids.mem_iff.mp⟩

theorem InputsKept.same (h : InputsKept lossy ks w) (hs : SameInputs w w') :
    InputsKept lossy ks w' where
  entries := fun i hi => by
    rw [hs.kinds]
    exact h.entries i ((hs.entries i).mp hi)
  created := fun i hi => by
    rw [hs.kinds]
    exact h.created i hi
  apart := fun i hi => by
    rw [hs.lastId]
    exact ⟨fun hmem => (h.apart i hi).1 ((hs.entries i).mp hmem), (h.apart i hi).2⟩
  distinct := h.distinct
  kinds := fun i kind hk => h.kinds i kind ((hs.kinds i).symm.trans hk)
  complete := fun hl i hi => by
    rw [hs.kinds] at hi
    exact (h.complete hl i hi).imp_left (hs.entries i).mpr

/-- The new row is that of the call. -/
theorem InputsKept.save {kind : String} (h : InputsKept lossy (.idle :: ks) w)
    (hkind : kind ∈ storedKinds) (hs : SameEntries w w')
    (hlast : w'.db.inputs.lastId = w.db.inputs.lastId + 1)
    (hrows : ∀ i, w'.rowKind i =
      if i = w.db.inputs.lastId + 1 then some kind else w.rowKind i) :
    InputsKept lossy (.created (w.db.inputs.lastId + 1) :: ks) w' := by
  have hkeeps : ∀ i, (w.rowKind i).isSome = true → (w'.rowKind i).isSome = true := by
    intro i hi
    rw [hrows]
    split
    · rfl
    · exact hi
  have hbound : ∀ i ∈ ks.filterMap Holding.inputId, i ∉ w.streams ∧ i ≤ w.db.inputs.lastId :=
    h.apart
  refine ⟨fun i hi => hkeeps i (h.entries i ((hs i).mp hi)), fun i hi => ?_, fun i hi => ?_, ?_,
    fun i kind' hi => ?_, fun hl i hi => ?_⟩
  · rcases List.mem_cons.mp hi with heq | hi
    · rw [hrows, if_pos (Holding.created.inj heq)]
      rfl
    · exact hkeeps i (h.created i (List.mem_cons_of_mem _ hi))
  · rw [hs i, hlast]
    rcases List.mem_cons.mp hi with rfl | hi
    · refine ⟨fun hmem => ?_, Int.le_refl _⟩
      have := le_lastId_of_rowKind (h.entries _ hmem)
      omega
    · exact ⟨(hbound i hi).1, by have := (hbound i hi).2; omega⟩
  · refine List.nodup_cons.mpr ⟨fun hmem => ?_, h.distinct⟩
    have := (hbound _ hmem).2
    omega
  · rw [hrows] at hi
    split at hi
    · exact Option.some.inj hi ▸ hkind
    · exact h.kinds i kind' hi
  · by_cases heq : i = w.db.inputs.lastId + 1
    · exact .inr (List.mem_cons.mpr (.inl heq))
    · rw [hrows, if_neg heq] at hi
      exact (h.complete hl i hi).imp (hs i).mpr (List.mem_cons_of_mem _)

/-- The entry is made, and the call has the input no more. -/
theorem InputsKept.enter {info : InputInfo} (h : InputsKept lossy (.created info.id :: ks) w) :
    InputsKept lossy (.idle :: ks) (insertInput info w).2 := by
  have hrow := h.created info.id List.mem_cons_self
  obtain ⟨hnew, hdistinct⟩ : info.id ∉ ks.filterMap Holding.inputId ∧
      (ks.filterMap Holding.inputId).Nodup := List.nodup_cons.mp h.distinct
  have hmem : ∀ i, i ∈ (insertInput info w).2.streams ↔ i = info.id ∨ i ∈ w.streams :=
    fun i => AList.mem_insert _
  refine ⟨fun i hi => ?_, fun i hi => ?_, fun i hi => ?_, hdistinct, h.kinds, fun hl i hi => ?_⟩
  · rcases (hmem i).mp hi with rfl | hi
    · exact hrow
    · exact h.entries i hi
  · exact h.created i (List.mem_cons_of_mem _ ((List.mem_cons.mp hi).resolve_left (by simp)))
  · obtain ⟨hgone, hle⟩ := h.apart i (List.mem_cons_of_mem _ hi)
    refine ⟨fun hentry => ?_, hle⟩
    rcases (hmem i).mp hentry with rfl | hentry
    · exact hnew hi
    · exact hgone hentry
  · rcases h.complete hl i hi with hi | hi
    · exact .inl ((hmem i).mpr (.inr hi))
    · exact (List.mem_cons.mp hi).imp_left fun heq => (hmem i).mpr (.inl heq)

/-- The entry is taken out, and the call has its input. -/
theorem InputsKept.remove {i : Int} (h : InputsKept lossy (.idle :: ks) w) (hi : i ∈ w.streams) :
    InputsKept lossy (.removed i :: ks) (removeInputSection i w).2 := by
  have hdistinct : (ks.filterMap Holding.inputId).Nodup := h.distinct
  have hmem : ∀ j, j ∈ (removeInputSection i w).2.streams ↔ j ≠ i ∧ j ∈ w.streams := by
    obtain ⟨info, hinfo⟩ := HashMap.mem_iff.mp hi
    intro j
    unfold removeInputSection
    rw [hinfo]
    exact AList.mem_erase
  have hkinds : ∀ j, (removeInputSection i w).2.rowKind j = w.rowKind j := fun j => by
    rw [World.rowKind, removeInputSection_db, World.rowKind]
  refine ⟨fun j hj => ?_, fun j hj => ?_, fun j hj => ?_, ?_, fun j kind hj => ?_,
    fun hl j hj => ?_⟩
  · rw [hkinds]
    exact h.entries j ((hmem j).mp hj).2
  · rw [hkinds]
    exact h.created j (List.mem_cons_of_mem _ ((List.mem_cons.mp hj).resolve_left (by simp)))
  · rw [removeInputSection_db]
    rcases List.mem_cons.mp hj with rfl | hj
    · exact ⟨fun hentry => ((hmem _).mp hentry).1 rfl, le_lastId_of_rowKind (h.entries _ hi)⟩
    · exact ⟨fun hentry => (h.apart j hj).1 ((hmem j).mp hentry).2, (h.apart j hj).2⟩
  · exact List.nodup_cons.mpr ⟨fun hheld => (h.apart i hheld).1 hi, hdistinct⟩
  · exact h.kinds j kind ((hkinds j).symm.trans hj)
  · rw [hkinds] at hj
    by_cases heq : j = i
    · exact .inr (List.mem_cons.mpr (.inl heq))
    · exact (h.complete hl j hj).imp (fun hj => (hmem j).mpr ⟨heq, hj⟩) (List.mem_cons_of_mem _)

/-- The row is deleted. -/
theorem InputsKept.delete {i : Int} (h : InputsKept lossy (.removed i :: ks) w)
    (hs : SameEntries w w') (hlast : w'.db.inputs.lastId = w.db.inputs.lastId)
    (hrows : ∀ j, w'.rowKind j = if j = i then none else w.rowKind j) :
    InputsKept lossy (.idle :: ks) w' := by
  obtain ⟨hnew, hdistinct⟩ : i ∉ ks.filterMap Holding.inputId ∧
      (ks.filterMap Holding.inputId).Nodup := List.nodup_cons.mp h.distinct
  have hgone := (h.apart i List.mem_cons_self).1
  refine ⟨fun j hj => ?_, fun j hj => ?_, fun j hj => ?_, hdistinct, fun j kind hj => ?_,
    fun hl j hj => ?_⟩
  · have hentry := (hs j).mp hj
    have hne : j ≠ i := fun heq => hgone (heq ▸ hentry)
    rw [hrows, if_neg hne]
    exact h.entries j hentry
  · have hj := (List.mem_cons.mp hj).resolve_left (by simp)
    have hheld : j ∈ ks.filterMap Holding.inputId := List.mem_filterMap.mpr ⟨_, hj, rfl⟩
    have hne : j ≠ i := fun heq => hnew (heq ▸ hheld)
    rw [hrows, if_neg hne]
    exact h.created j (List.mem_cons_of_mem _ hj)
  · rw [hs j, hlast]
    exact h.apart j (List.mem_cons_of_mem _ hj)
  · rw [hrows] at hj
    split at hj
    · exact absurd hj (by simp)
    · exact h.kinds j kind hj
  · rw [hrows] at hj
    split at hj
    · exact absurd hj (by simp)
    · rename_i hne
      exact (h.complete hl j hj).imp (hs j).mpr fun hj => (List.mem_cons.mp hj).resolve_left hne

/-- The row stays, which only a deletion that fails leaves. -/
theorem InputsKept.drop (h : InputsKept lossy (k :: ks) w) (hl : lossy) :
    InputsKept lossy (.idle :: ks) w := by
  have hsub : (ks.filterMap Holding.inputId).Sublist ((k :: ks).filterMap Holding.inputId) :=
    (List.sublist_cons_self k ks).filterMap _
  refine ⟨h.entries, fun i hi => ?_, fun i hi => h.apart i (hsub.subset hi),
    h.distinct.sublist hsub, h.kinds, fun hn => absurd hl hn⟩
  exact h.created i (List.mem_cons_of_mem _ ((List.mem_cons.mp hi).resolve_left (by simp)))

theorem InputsKept.first (h : InputsKept lossy (k :: ks) w) (hstep : InputStep lossy k k' w w') :
    InputsKept lossy (k' :: ks) w' := by
  cases hstep with
  | same hs => exact h.same hs
  | save hkind hs hlast hrows => exact h.save hkind hs hlast hrows
  | enter info => exact h.enter
  | remove hi => exact h.remove hi
  | delete hs hlast hrows => exact h.delete hs hlast hrows
  | keep hl hs => exact (h.drop hl).same hs

/-- One step of one call among others. -/
theorem InputsKept.step {pre post : List Holding} (h : InputsKept lossy (pre ++ k :: post) w)
    (hstep : InputStep lossy k k' w w') : InputsKept lossy (pre ++ k' :: post) w' :=
  ((h.perm List.perm_middle).first hstep).perm List.perm_middle.symm

/-- A call that comes has no input yet. -/
theorem InputsKept.arrive (h : InputsKept lossy ks w) : InputsKept lossy (ks ++ [.idle]) w := by
  have hids : (ks ++ [Holding.idle]).filterMap Holding.inputId = ks.filterMap Holding.inputId := by
    rw [List.filterMap_append]
    exact List.append_nil _
  refine ⟨h.entries, fun i hi => h.created i ?_, ?_, ?_, h.kinds, ?_⟩
  · exact (List.mem_append.mp hi).resolve_right (by simp)
  · rw [hids]
    exact h.apart
  · rw [hids]
    exact h.distinct
  · rw [hids]
    exact h.complete

end Kept

/-! ## All calls -/

section Calls

variable {lossy : Prop} {α : Type} {env : Env} {k : Holding} {w w' : World}

/-- What does not make or delete an input leaves the call with what it has. -/
theorem tracked_acts {p : Prog World α} {w : World} {Q : α → Option LockMode → World → Prop}
    (h : Acts anyRely outsideInputs p none w Q) :
    p.Tracked (InputStep lossy) k fun r k' => k' = k ∧ ∃ h w, Q r h w :=
  .of_behaves (fun _ _ _ => trivial) (fun _ _ _ ha => .same ha.sameInputs) h

/-- A deletion does not fail to delete the rows. -/
def Env.Deletes (env : Env) : Prop :=
  env.queryError .deleteOutputsOfInput = none ∧ env.queryError .deleteInput = none

theorem inputStep_saveInput (env : Env) (name : Option String) (req : CreateInputRequest)
    (w : World) : ∃ k, InputStep lossy .idle k w (saveInputToDb env name req w).2 ∧
      (∀ e, (saveInputToDb env name req w).1 = .error e → k = .idle) ∧
      ∀ id, (saveInputToDb env name req w).1 = .ok id → k = .created id := by
  unfold saveInputToDb query
  split
  · exact ⟨.idle, .same (.of_eq rfl rfl), fun _ _ => rfl, fun _ h => absurd h (by simp)⟩
  · refine ⟨_, .save (inputKindString_mem req) (.of_eq rfl) rfl fun i => ?_,
      fun _ h => absurd h (by simp), fun id h => congrArg Holding.created (Except.ok.inj h)⟩
    show ((w.db.inputs.insert _).find i).map _ = _
    rw [Table.find_insert]
    split <;> rfl

theorem tracked_createInput (req : CreateInputRequest) :
    (createInput env req).Tracked (InputStep lossy) .idle fun _ k => k = .idle := by
  unfold createInput
  split
  · exact rfl
  refine Tracked.bind (tracked_acts (acts_assignInputPort env req (.boot emptyDatabase)))
    fun r k' hr => ?_
  obtain ⟨rfl, _⟩ := hr
  rcases r with r | ⟨finalReq, assignedPort⟩
  · exact rfl
  refine Tracked.bind (Q := fun r k' => (∀ e, r = .error e → k' = .idle) ∧
    ∀ id, r = .ok id → k' = .created id)
    (Tracked.atomic fun w => inputStep_saveInput env (inputName req) finalReq w) fun r k' hr => ?_
  cases r with
  | error e => exact hr.1 e rfl
  | ok id =>
  obtain rfl := hr.2 id rfl
  have hknown : KnownInput anyRely id (.boot ⟨⟨[], id, .nil, by simp⟩, .empty⟩) :=
    .here (.inr (Int.le_refl id))
  refine Tracked.bind (tracked_acts (acts_spawnInput finalReq id (inputName req) _ hknown))
    fun r k' hr => ?_
  obtain ⟨rfl, _, _, hinfo, _⟩ := hr
  cases r with
  | ok info =>
    obtain rfl := (hinfo info rfl).id
    exact Tracked.bind (Q := fun _ k' => k' = .idle)
      (Tracked.locked fun w => ⟨.idle, .enter info, rfl⟩) fun _ _ hk => Tracked.ret hk
  | error e =>
    refine Tracked.bind (Q := fun info k' => k' = .created id ∧ info.id = id)
      (Tracked.atomic fun w => ⟨_, .same (.of_eq rfl rfl), rfl, rfl⟩)
      fun info k' hinfo => ?_
    obtain ⟨rfl, rfl⟩ := hinfo
    refine Tracked.bind (Q := fun _ k' => k' = .idle)
      (Tracked.atomic fun w => ⟨.idle, .enter info, rfl⟩) fun _ k' hk => ?_
    subst hk
    refine Tracked.bind (tracked_acts (acts_atomic (fun w =>
      .inputStatus env info.id "error") (.boot emptyDatabase))) fun _ k' hk => ?_
    exact hk.1

theorem inputStep_deleteInputFromDb (hlossy : ¬ env.Deletes → lossy) (i : Int) (w : World) :
    InputStep lossy (.removed i) .idle w (deleteInputFromDb env i w).2 := by
  have hquiet := quiet_deleteInputFromDb env i w
  unfold deleteInputFromDb query at hquiet ⊢
  cases ho : env.queryError .deleteOutputsOfInput with
  | some e => exact .keep (hlossy fun h => by simp [h.1] at ho) (.of_eq rfl rfl)
  | none =>
    cases hi : env.queryError .deleteInput with
    | some e => exact .keep (hlossy fun h => by simp [h.2] at hi) (.of_eq rfl rfl)
    | none =>
      refine .delete (.of_eq rfl) rfl fun j => ?_
      show ((w.db.inputs.delete _).find j).map _ = _
      rw [Table.find_delete]
      split <;> rfl

theorem tracked_deleteInput (hlossy : ¬ env.Deletes → lossy) (i : Int) :
    (deleteInput env i).Tracked (InputStep lossy) .idle fun _ k => k = .idle := by
  refine Tracked.bind (Q := fun found k => k = if found = true then .removed i else .idle)
    (Tracked.atomic fun w => ?_) fun found k hk => ?_
  · cases hi : w.streams.lookup i with
    | none =>
      have hsection : removeInputSection i w = (false, w) := by
        unfold removeInputSection
        rw [hi]
      rw [hsection]
      exact ⟨.idle, .same (.of_eq rfl rfl), rfl⟩
    | some info =>
      have hfound : (removeInputSection i w).1 = true := by
        unfold removeInputSection
        rw [hi]
      exact ⟨.removed i, .remove (HashMap.mem_iff.mpr ⟨info, hi⟩), by rw [hfound]; rfl⟩
  · subst hk
    cases found with
    | false => exact rfl
    | true =>
      exact Tracked.bind (Q := fun _ k => k = .idle)
        (Tracked.atomic fun w => ⟨.idle, inputStep_deleteInputFromDb hlossy i w, rfl⟩)
        fun _ _ hk => Tracked.release (Tracked.ret hk)

theorem Operation.tracksInputs (op : Operation) (hlossy : ¬ env.Deletes → lossy) :
    (op.prog env).Tracked (InputStep lossy) .idle fun _ k => k = .idle := by
  have hother : outsideInputs (some op) →
      (op.prog env).Tracked (InputStep lossy) .idle fun _ k => k = .idle := fun hops =>
    (tracked_acts (op.acts env hops (.boot emptyDatabase))).mono fun _ _ hk => hk.1
  cases op with
  | createInput req => exact Tracked.bind (tracked_createInput req) fun _ _ hk => hk
  | deleteInput i => exact Tracked.bind (tracked_deleteInput hlossy i) fun _ _ hk => hk
  | _ => exact hother (by simp)

theorem tracksInputs_processMessage :
    processMessage.Tracked (InputStep lossy) .idle fun _ k => k = .idle :=
  (tracked_acts (acts_processMessage (.boot emptyDatabase))).mono fun _ _ hk => hk.1

end Calls

/-! ## The load -/

section Load

variable {env : Env} {db : Database} {held : Bool} {w w' : World}

theorem sameEntries_loadGroupSection (env : Env) (i : Int) (outs : List (Int × OutputRow))
    (w : World) : SameEntries w (loadGroupSection env i outs w).2 := by
  unfold loadGroupSection
  split
  · exact .of_eq rfl
  · rename_i info hi
    exact .of_insert hi rfl

/-- The outputs are loaded into entries that are there. -/
theorem loadGroups_frame {outs : List (Int × OutputRow)} {inputIds : List Int}
    {r : Except String Unit}
    (h : (loadGroups env outs inputIds).alone false w = some (r, held, w')) :
    w'.db = w.db ∧ SameEntries w w' := by
  induction inputIds generalizing w with
  | nil =>
    obtain ⟨_, _, rfl⟩ := alone_ret_eq_some.mp h
    exact ⟨rfl, .of_eq rfl⟩
  | cons i rest ih =>
    have hentries := sameEntries_loadGroupSection env i (outs.filter fun o => o.2.inputId = i) w
    unfold loadGroups at h
    rw [alone_locked_bind] at h
    split at h
    · obtain ⟨_, _, rfl⟩ := alone_ret_eq_some.mp h
      exact ⟨loadGroupSection_db .., hentries⟩
    · obtain ⟨hdb, hrest⟩ := ih h
      exact ⟨hdb.trans (loadGroupSection_db ..), fun j => (hrest j).trans (hentries j)⟩

/-- A load that goes through puts the inputs of all rows into memory, and writes nothing. -/
theorem loadFromDb_frame
    (h : (loadFromDb env).alone false (.boot db) = some (.ok (), held, w)) :
    w.db = db ∧ ∀ i, i ∈ w.streams ↔ ∃ row, (i, row) ∈ db.inputs.rows ∧ row.kind ∈ storedKinds := by
  obtain ⟨loaded, sptsLoaded, w₁, w₂, hbase, hspts, _, hs₂, hgroups⟩ := loadFromDb_parts h
  obtain ⟨_, hdb₁, _, hcovers⟩ := (loadBaseInputs_covers env _ _ covers_empty).eq hbase
  obtain ⟨_, hdb₂, _, hcovers'⟩ := (loadSptsInputs_covers env _ _ covers_empty).eq hspts
  obtain ⟨hdb, hentries⟩ := loadGroups_frame hgroups
  refine ⟨(hdb.trans hdb₂).trans hdb₁, fun i => (hentries i).trans ?_⟩
  show i ∈ w₂.streams.extend sptsLoaded ↔ _
  rw [hs₂]
  exact ((hcovers loaded rfl).phases (hcovers' sptsLoaded rfl)).2 i

/-- After a load memory and rows have the same inputs, and no call has one of its own. -/
theorem InputsKept.load {lossy : Prop}
    (h : (loadFromDb env).alone false (.boot db) = some (.ok (), held, w))
    (hkinds : ∀ i row, db.inputs.find i = some row → row.kind ∈ storedKinds) :
    InputsKept lossy [] w := by
  obtain ⟨rfl, hentries⟩ := loadFromDb_frame h
  have hrow : ∀ i, (w.rowKind i).isSome = true ↔ i ∈ w.streams := by
    intro i
    rw [World.rowKind, Option.isSome_map, Option.isSome_iff_exists, hentries]
    refine exists_congr fun row => ?_
    rw [Table.find_eq_some]
    exact ⟨fun hmem => ⟨hmem, hkinds i row (Table.find_eq_some.mpr hmem)⟩, fun hmem => hmem.1⟩
  refine ⟨fun i hi => (hrow i).mpr hi, fun i hi => absurd hi List.not_mem_nil,
    fun i hi => absurd hi List.not_mem_nil, List.nodup_nil, fun i kind hi => ?_,
    fun _ i hi => .inl ((hrow i).mp hi)⟩
  obtain ⟨row, hfind, rfl⟩ := Option.map_eq_some_iff.mp hi
  exact hkinds i row hfind

end Load

/-! ## The life of a gateway -/

/-- The states of a gateway over its whole life, from an empty database on. The process may be
killed in any of them, also in the middle of calls, and goes on from what is stored. -/
inductive Life (calls : Prog World Unit → Prop) : Pool World → Prop
  | start : Life calls ⟨.boot emptyDatabase, []⟩
  | step {p p' : Pool World} : Life calls p → Pool.Step calls TaskStep p p' → Life calls p'
  | restart {env : Env} {p : Pool World} {held : Bool} {w : World} : Life calls p →
      (loadFromDb env).alone false (.boot p.shared.db) = some (.ok (), held, w) →
      Life calls ⟨w, []⟩

/-- The calls whose deletions do not fail to delete the rows. -/
def DeletingCall (p : Prog World Unit) : Prop :=
  (∃ (env : Env) (op : Operation), env.Deletes ∧ p = op.prog env) ∨ p = processMessage

section Life

variable {calls : Prog World Unit → Prop} {lossy : Prop} {env : Env} {p : Pool World} {held : Bool}
  {w : World}

theorem inputsKept_maintains
    (hcalls : ∀ p, calls p → p.Tracked (InputStep lossy) .idle fun _ k => k = .idle) :
    Pool.Maintains (InputStep lossy) .idle calls TaskStep (fun _ _ => True) (InputsKept lossy) where
  calls := hcalls
  arrives := fun _ _ h => h.arrive
  acts := fun _ _ _ _ _ _ h hstep _ => h.step hstep
  outside := fun _ _ _ h ho _ => h.same ho.sameInputs

theorem Life.inputsKept (h : Life calls p)
    (hcalls : ∀ p, calls p → p.Tracked (InputStep lossy) .idle fun _ k => k = .idle) :
    ∃ ks, p.Tracked (InputStep lossy) .idle ks ∧ InputsKept lossy ks p.shared := by
  induction h with
  | start =>
    exact ⟨[], .nil, @InputsKept.load localEnv emptyDatabase false _ lossy rfl fun i row hrow =>
      absurd (Table.find_eq_some.mp hrow) List.not_mem_nil⟩
  | step _ hstep ih =>
    obtain ⟨ks, htracked, hkept⟩ := ih
    exact (inputsKept_maintains hcalls).step htracked hkept hstep trivial
  | restart _ hload ih =>
    obtain ⟨ks, _, hkept⟩ := ih
    exact ⟨[], .nil, .load hload fun i row hrow => hkept.kinds i row.kind (by
      rw [World.rowKind, hrow]
      rfl)⟩

theorem Life.kept (h : Life GatewayCall p) : ∃ ks, InputsKept True ks p.shared := by
  obtain ⟨ks, _, hkept⟩ := @Life.inputsKept _ True _ h fun p hp => by
    rcases hp with ⟨env, op, rfl⟩ | rfl
    · exact op.tracksInputs fun _ => trivial
    · exact tracksInputs_processMessage
  exact ⟨ks, hkept⟩

/-- In a state in which no call is under way, the rows are those of the entries. -/
theorem Life.settled (h : Life DeletingCall p) (hended : ∀ t ∈ p.threads, t.rest = .ret ()) :
    ∀ i, (p.shared.rowKind i).isSome = true ↔ i ∈ p.shared.streams := by
  obtain ⟨ks, htracked, hkept⟩ := @Life.inputsKept _ False _ h fun p hp => by
    rcases hp with ⟨env, op, henv, rfl⟩ | rfl
    · exact op.tracksInputs fun hnot => hnot henv
    · exact tracksInputs_processMessage
  have hidle := htracked.all_idle hended
  have hnone : ks.filterMap Holding.inputId = [] := by
    rw [List.filterMap_eq_nil_iff]
    intro k hk
    rw [hidle k hk]
    rfl
  refine fun i => ⟨fun hi => (hkept.complete id i hi).resolve_right ?_, hkept.entries i⟩
  rw [hnone]
  exact List.not_mem_nil

theorem Life.mono {calls' : Prog World Unit → Prop} (hcalls : ∀ p, calls p → calls' p)
    (h : Life calls p) : Life calls' p := by
  induction h with
  | start => exact .start
  | step _ hstep ih => exact ih.step (hstep.mono hcalls)
  | restart _ hload ih => exact ih.restart hload

theorem Life.of_deleting (h : Life DeletingCall p) : Life GatewayCall p :=
  h.mono fun _ hp => hp.imp_left fun ⟨env, op, _, heq⟩ => ⟨env, op, heq⟩

/-- An invariant that calls keep next to each other, and that a load restores. -/
theorem Life.behaving {I : World → Prop} {rely guar : Guarded World}
    [∀ h, IsTrans World (rely h)]
    (hfits : Pool.Fits I rely guar calls TaskStep fun _ _ => True)
    (hempty : I (.boot emptyDatabase))
    (hload : ∀ (env : Env) (w₁ : World) (held : Bool) (w : World), I w₁ →
      (loadFromDb env).alone false (.boot w₁.db) = some (.ok (), held, w) → I w)
    (h : Life calls p) : Pool.Behaving I rely guar p := by
  induction h with
  | start => exact ⟨hempty, .nil, fun t ht => absurd ht List.not_mem_nil⟩
  | step _ hstep ih => exact (ih.step hfits hstep trivial).1
  | restart _ hr ih =>
    exact ⟨hload _ _ _ _ ih.inv hr, .nil, fun t ht => absurd ht List.not_mem_nil⟩

theorem Life.runs {p' : Pool World} (h : Life calls p)
    (hruns : Pool.Runs calls TaskStep (fun _ _ => True) p p') : Life calls p' := by
  induction hruns with
  | refl => exact h
  | tail _ hstep ih => exact ih.step hstep.1

/-- Calls made one after the other. -/
theorem Life.afterCalls {ops : List Operation} {w' : World} {pre : List (Thread World)}
    (h : Life calls ⟨w, pre⟩) (hpre : ∀ t ∈ pre, t = ⟨.ret (), none⟩)
    (hcalls : ∀ op ∈ ops, calls (op.prog env)) (hw : w.afterCalls env ops = some w') :
    ∃ threads, (∀ t ∈ threads, t = ⟨.ret (), none⟩) ∧ Life calls ⟨w', threads⟩ := by
  induction ops generalizing w pre with
  | nil =>
    obtain rfl := Option.some.inj hw
    exact ⟨pre, hpre, h⟩
  | cons op ops ih =>
    unfold World.afterCalls at hw
    split at hw
    · rename_i w₁ hr
      have hfree : ∀ t ∈ pre, t.held = none := fun t ht => by rw [hpre t ht]
      obtain ⟨mode, hmode, hruns⟩ := @Pool.runs_of_alone World calls TaskStep
        (op.prog env) none _ _ _ _ hfree hr
      obtain rfl : mode = none := by simpa using hmode
      have hcalled := h.step (.call (hcalls op List.mem_cons_self))
      refine ih (hcalled.runs hruns) (fun t ht => ?_)
        (fun o ho => hcalls o (List.mem_cons_of_mem _ ho)) hw
      rcases List.mem_append.mp ht with ht | ht
      · exact hpre t ht
      · exact List.mem_singleton.mp ht
    · exact absurd hw (by simp)

/-- A load that goes through puts exactly the inputs with a row into memory. -/
theorem Life.mem_loaded (h : Life GatewayCall p)
    (hload : (loadFromDb env).alone false (.boot p.shared.db) = some (.ok (), held, w)) (i : Int) :
    i ∈ w.streams ↔ (p.shared.rowKind i).isSome = true := by
  obtain ⟨ks, hkept⟩ := h.kept
  rw [(loadFromDb_frame hload).2 i, World.rowKind, Option.isSome_map, Option.isSome_iff_exists]
  refine exists_congr fun row => ?_
  rw [← Table.find_eq_some]
  refine ⟨fun hrow => hrow.1, fun hrow => ⟨hrow, hkept.kinds i _ ?_⟩⟩
  rw [World.rowKind, hrow]
  rfl

/-- Two inputs are created, and the first is deleted. -/
def deletedPair : List Operation :=
  [.createInput (udpInputRequest 5000), .createInput (udpInputRequest 5001), .deleteInput 1]

theorem exists_life_deletedPair : ∃ (w : World) (threads : List (Thread World)) (held : Bool)
    (w' : World), Life DeletingCall ⟨w, threads⟩ ∧ (∀ t ∈ threads, t.rest = .ret ()) ∧
      2 ∈ w.streams ∧ (loadFromDb localEnv).alone false (.boot w.db) = some (.ok (), held, w') := by
  have hview : ((World.boot emptyDatabase).afterCalls localEnv deletedPair).any (fun w =>
      decide (2 ∈ w.streams) &&
        ((loadFromDb localEnv).alone false (.boot w.db)).any fun r => r.1.isOk) = true := by
    decide +kernel
  obtain ⟨w, hw, hview⟩ := (Option.any_eq_true _ _).mp hview
  obtain ⟨hmem, hview⟩ := (Bool.and_eq_true _ _).mp hview
  obtain ⟨⟨r, held, w'⟩, hload, hok⟩ := (Option.any_eq_true _ _).mp hview
  have hcalls : ∀ op ∈ deletedPair, DeletingCall (op.prog localEnv) :=
    fun op _ => .inl ⟨localEnv, op, ⟨rfl, rfl⟩, rfl⟩
  obtain ⟨threads, hthreads, hlife⟩ :=
    Life.start.afterCalls (fun t ht => absurd ht List.not_mem_nil) hcalls hw
  refine ⟨w, threads, held, w', hlife, fun t ht => ?_, of_decide_eq_true hmem, ?_⟩
  · rw [hthreads t ht]
  cases r with
  | ok _ => exact hload
  | error e => exact absurd hok (by simp [Except.isOk, Except.toBool])

/-- No crash loses an input. Every input that is in memory, in any state, has a row of a kind that
the loader knows, and is in memory again after a restart that goes through. -/
theorem restart_keeps_inputs (h : Life GatewayCall p) : ∀ i ∈ p.shared.streams,
    (∃ kind ∈ storedKinds, p.shared.rowKind i = some kind) ∧
      ∀ (env : Env) (held : Bool) (w : World),
        (loadFromDb env).alone false (.boot p.shared.db) = some (.ok (), held, w) →
          i ∈ w.streams := by
  obtain ⟨ks, hkept⟩ := h.kept
  intro i hi
  have hrow := hkept.entries i hi
  obtain ⟨kind, hkind⟩ := Option.isSome_iff_exists.mp hrow
  exact ⟨⟨kind, hkept.kinds i kind hkind, hkind⟩,
    fun env held w hload => (h.mem_loaded hload i).mpr hrow⟩

theorem restart_keeps_inputs_deletedPair : ∃ (p : Pool World) (held : Bool) (w : World),
    (loadFromDb localEnv).alone false (.boot p.shared.db) = some (.ok (), held, w) ∧
      2 ∈ p.shared.streams ∧ (∃ kind ∈ storedKinds, p.shared.rowKind 2 = some kind) ∧
      2 ∈ w.streams := by
  obtain ⟨w, threads, held, w', hlife, _, hmem, hload⟩ := exists_life_deletedPair
  obtain ⟨hrow, hloaded⟩ := restart_keeps_inputs hlife.of_deleting 2 hmem
  exact ⟨⟨w, threads⟩, held, w', hload, hmem, hrow, hloaded localEnv held w' hload⟩

/-- When no call is under way, and deletions do not fail to delete rows, a restart that goes
through brings exactly the inputs back that are in memory. -/
theorem restart_same_inputs (h : Life DeletingCall p)
    (hended : ∀ t ∈ p.threads, t.rest = .ret ())
    (hload : (loadFromDb env).alone false (.boot p.shared.db) = some (.ok (), held, w)) (i : Int) :
    i ∈ w.streams ↔ i ∈ p.shared.streams :=
  (h.of_deleting.mem_loaded hload i).trans (h.settled hended i)

theorem restart_same_inputs_deletedPair : ∃ (p : Pool World) (held : Bool) (w : World),
    (loadFromDb localEnv).alone false (.boot p.shared.db) = some (.ok (), held, w) ∧
      2 ∈ p.shared.streams ∧ ∀ i, i ∈ w.streams ↔ i ∈ p.shared.streams := by
  obtain ⟨w, threads, held, w', hlife, hended, hmem, hload⟩ := exists_life_deletedPair
  exact ⟨⟨w, threads⟩, held, w', hload, hmem, restart_same_inputs hlife hended hload⟩

end Life

end StreamGateway
