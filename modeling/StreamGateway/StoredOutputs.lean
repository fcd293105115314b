import StreamGateway.GaugeRuns
import StreamGateway.InputRows

/-!
# Outputs and their rows

A row of an output is written and deleted under the guard under which the output enters the
memory and leaves it. So each output in memory has a row of its own input, in every state and
after every crash. Only `update_output` enters an output without such a guard.
-/
namespace StreamGateway

open Prog

/-! ## Steps that leave the outputs alone -/

/-- The entry of the input has the output, running or stopped. -/
def World.HasOutput (w : World) (i k : Int) : Prop :=
  ∃ info, w.streams.lookup i = some info ∧ info.HasOutput k

/-- No output is both running and stopped. -/
def World.OutputsApart (w : World) : Prop := w.Each fun _ info => info.KeysApart

/-- No output is new in memory or gets into both maps, and the rows are still there. -/
structure OutputsContained (w w' : World) : Prop where
  ids : w.IdsMatch → w'.IdsMatch
  has : ∀ i k, w'.HasOutput i k → w.HasOutput i k
  apart : w.OutputsApart → w'.OutputsApart
  rows : ∀ k, rowInput w' k = rowInput w k

section Contained

variable {w w' w'' : World} {i : Int} {info info' : InputInfo} {d : Deed}

theorem OutputsContained.of_eq (hs : w'.streams = w.streams)
    (hrows : ∀ k, rowInput w' k = rowInput w k) : OutputsContained w w' := by
  refine ⟨fun h => World.Each.of_eq (P := fun i info => info.id = i) h hs,
    fun i k ⟨info, hi, hk⟩ => ⟨info, hs ▸ hi, hk⟩, fun h => World.Each.of_eq h hs, hrows⟩

theorem OutputsContained.refl (w : World) : OutputsContained w w := .of_eq rfl fun _ => rfl

theorem OutputsContained.trans (h : OutputsContained w w') (h' : OutputsContained w' w'') :
    OutputsContained w w'' :=
  ⟨fun hw => h'.ids (h.ids hw), fun i k hk => h.has i k (h'.has i k hk),
    fun hw => h'.apart (h.apart hw), fun k => (h'.rows k).trans (h.rows k)⟩

theorem rowInput_of_db (h : w'.db.outputs = w.db.outputs) (k : Int) :
    rowInput w' k = rowInput w k := by
  rw [rowInput, h, rowInput]

/-- One entry changes, and no other. -/
theorem OutputsContained.of_insert (hi : w.streams.lookup i = some info)
    (hs : w'.streams = w.streams.insert i info') (hid : info'.id = info.id)
    (hhas : ∀ k, info'.HasOutput k → info.HasOutput k)
    (hapart : info.KeysApart → info'.KeysApart) (hdb : w'.db.outputs = w.db.outputs) :
    OutputsContained w w' := by
  refine ⟨fun h => World.Each.insert (P := fun i info => info.id = i) h hs
    (hid.trans (h i info hi)), fun j k ⟨info₀, hj, hk⟩ => ?_,
    fun h => World.Each.insert h hs (hapart (h i info hi)), rowInput_of_db hdb⟩
  rw [hs] at hj
  rcases HashMap.lookup_insert_eq_some.mp hj with ⟨rfl, rfl⟩ | ⟨_, hj⟩
  · exact ⟨info, hi, hhas k hk⟩
  · exact ⟨info₀, hj, hk⟩

/-- A deed that gives no new output to the database. -/
theorem Deed.Does.contained (h : d.Does w w') (hids : w.IdsMatch → w'.IdsMatch)
    (hdb : w'.db = w.db) : OutputsContained w w' := by
  obtain ⟨i, before, after, ms, ts, ht, hc⟩ := h
  have hfresh : ∀ k, ¬ GivenMeanwhile w w' k := by
    intro k hk
    rw [GivenMeanwhile, hdb] at hk
    omega
  have hafter : ∀ info', w'.streams.lookup i = some info' →
      d.Changes (GivenMeanwhile w w') i (w.streams.lookup i) (some info') ms ts := by
    intro info' hi
    rw [ht.before, ← hi, ht.after]
    exact hc
  refine ⟨hids, fun j k ⟨info', hj, hk⟩ => ?_, fun hw j info' hj => ?_,
    rowInput_of_db (by rw [hdb])⟩
  · by_cases hji : j = i
    · subst hji
      rcases (hafter info' hj).hasOutput hk with hk | hk
      · exact absurd hk (hfresh k)
      · exact hk
    · exact ⟨info', (ht.others j hji).symm.trans hj, hk⟩
  · by_cases hji : j = i
    · subst hji
      exact (hafter info' hj).keysApart (hw j) fun k hk => absurd hk (hfresh k)
    · exact hw j info' ((ht.others j hji).symm.trans hj)

theorem SameOutputs.keysApart (h : SameOutputs info info') (hapart : info.KeysApart) :
    info'.KeysApart := by
  rw [InputInfo.KeysApart, h.outputTasks, h.stoppedOutputs]
  exact hapart

/-- The entry of a stream that starts again has its stopped outputs in the other map. -/
theorem contained_restarted (env : Env) {info₁ : InputInfo} {rt : Runtime}
    (hi : w.streams.lookup i = some info) (hsame : SameOutputs info info₁)
    (hs : w'.streams = w.streams.insert i
      { (restartStopped env info₁ rt).1 with pausedAnalysis := [] })
    (hdb : w'.db.outputs = w.db.outputs) : OutputsContained w w' := by
  have hstopped := restartStopped_stoppedOutputs env info₁ rt
  refine .of_insert hi hs ?_ (fun k hk => ?_) (fun _ => keysApart_of_empty hstopped) hdb
  · show (restartStopped env info₁ rt).1.id = info.id
    rw [restartStopped_frame]
    exact hsame.id
  · exact (hsame.hasOutput k).mp (hasOutput_restartStopped env hk)

theorem contained_restartSection (env : Env) {plan : StartPlan} (h : plan.config.isSpts = false)
    (w : World) : OutputsContained w (restartSection env plan w).2 := by
  cases hi : w.streams.lookup plan.inputId with
  | none =>
    have hw : (restartSection env plan w).2 = w := by
      unfold restartSection
      rw [hi]
    rw [hw]
    exact .refl w
  | some info =>
    obtain ⟨spec, status, startedAt, _, _, _, hframe, _⟩ := recreateTask_spawns h info w.rt
    have hsame : SameOutputs info (recreateTask plan info w.rt).1 := by
      rw [hframe]
      exact ⟨rfl, rfl, rfl⟩
    refine @contained_restarted w _ _ info env _ (recreateTask plan info w.rt).2 hi hsame ?_ ?_
    · unfold restartSection
      rw [hi]
      rfl
    · rw [restartSection_db]

theorem contained_sptsInstallSection (env : Env) (i : Int) (new : InputInfo) (w : World) :
    OutputsContained w (sptsInstallSection env i new w).2 := by
  cases hi : w.streams.lookup i with
  | none =>
    have hw : (sptsInstallSection env i new w).2 = w := by
      unfold sptsInstallSection
      rw [hi]
    rw [hw]
    exact .refl w
  | some info =>
    refine @contained_restarted w _ i info env { info with
      taskHandle := new.taskHandle
      packetTx := new.packetTx
      status := .listening
      startedAt := some w.rt.clock } w.rt hi ⟨rfl, rfl, rfl⟩ ?_ ?_
    · unfold sptsInstallSection
      rw [hi]
      rfl
    · rw [sptsInstallSection_db]

theorem contained_stopInputSection (i : Int) (w : World) :
    OutputsContained w (stopInputSection i w).2 :=
  (does_stopInputSection i w).contained (Section.stop i).idsMatch (stopInputSection_db i w)

theorem contained_removeInputSection (i : Int) (w : World) :
    OutputsContained w (removeInputSection i w).2 :=
  (does_removeInputSection i w).contained (Section.remove i).idsMatch (removeInputSection_db i w)

theorem contained_startOutputSection (env : Env) (i k : Int) (w : World) :
    OutputsContained w (startOutputSection env i k w).2 :=
  (does_startOutputSection env i k w).contained (section_startOutput env i k w).idsMatch
    (startOutputSection_db env i k w)

theorem contained_stopOutputSection (i k : Int) (w : World) :
    OutputsContained w (stopOutputSection i k w).2 :=
  (does_stopOutputSection i k w).contained (section_stopOutput i k w).idsMatch
    (stopOutputSection_db i k w)

theorem contained_removeOutputSection (i k : Int) (w : World) :
    OutputsContained w (removeOutputSection i k w).2 :=
  (does_removeOutputSection i k w).contained (section_removeOutput i k w).idsMatch
    (removeOutputSection_db i k w)

theorem contained_applyProcessing (w : World) : OutputsContained w (applyProcessing w).2 := by
  have hdb : (applyProcessing w).2.db.outputs = w.db.outputs := by rw [applyProcessing_db]
  rcases applyProcessing_streams w with hs | ⟨e, _, hs⟩
  · exact .of_eq hs (rowInput_of_db hdb)
  rcases applyChange_cases e.change w.streams with hc | ⟨i, info, info', hi, hc, hinfo⟩
  · exact .of_eq (hs.trans hc) (rowInput_of_db hdb)
  rcases hinfo with ⟨status, connectedAt, sourceAddress, _, rfl⟩ |
    ⟨k, output, status, connectedAt, peerAddress, _, hk, rfl⟩
  · exact .of_insert hi (hs.trans hc) rfl (fun _ hk => hk) id hdb
  · have hmem : k ∈ info.outputTasks := HashMap.mem_iff.mpr ⟨_, hk⟩
    have hrunning : ∀ j, j ∈ info.outputTasks.insert k
        (output.withStatus status connectedAt peerAddress) → j ∈ info.outputTasks := fun j hj =>
      ((AList.mem_insert _).mp hj).elim (fun heq => heq ▸ hmem) id
    exact .of_insert hi (hs.trans hc) rfl (fun j hj => hj.imp_left (hrunning j))
      (fun hapart j hj => hapart j (hrunning j hj)) hdb

/-- An input that is entered has no outputs. -/
theorem contained_insertInput (h : info.NoOutputs info.id) (w : World) :
    OutputsContained w (insertInput info w).2 := by
  refine ⟨fun hw => World.Each.insert (P := fun i info => info.id = i) hw rfl rfl,
    fun j k ⟨info₀, hj, hk⟩ => ?_,
    fun hw => World.Each.insert hw rfl (keysApart_of_empty h.stoppedOutputs), fun _ => rfl⟩
  rcases HashMap.lookup_insert_eq_some.mp hj with ⟨rfl, rfl⟩ | ⟨_, hj⟩
  · exact absurd hk (not_hasOutput_of_empty h.outputTasks h.stoppedOutputs k)
  · exact ⟨info₀, hj, hk⟩

theorem TaskStep.contained (h : TaskStep w w') : OutputsContained w w' :=
  .of_eq h.streams (rowInput_of_db (by rw [h.db]))

end Contained

/-! ## Acts -/

/-- The acts of a load and of the four requests that write the rows of outputs aside. -/
def outsideOutputs (op : Option Operation) : Prop :=
  ∃ o, op = some o ∧ (∀ i, o ≠ .deleteInput i) ∧ (∀ req, o ≠ .createOutput req) ∧
    (∀ k req, o ≠ .updateOutput k req) ∧ ∀ i k, o ≠ .deleteOutput i k

@[simp] theorem outsideOutputs_some {o : Operation} : outsideOutputs (some o) ↔
    (∀ i, o ≠ .deleteInput i) ∧ (∀ req, o ≠ .createOutput req) ∧
      (∀ k req, o ≠ .updateOutput k req) ∧ ∀ i k, o ≠ .deleteOutput i k := by
  simp [outsideOutputs]

@[simp] theorem not_outsideOutputs_none : ¬ outsideOutputs none := by simp [outsideOutputs]

theorem contained_query {α : Type} (env : Env) (q : Query) {f : Database → α × Database} (w : World)
    (hf : ∀ k, ((f w.db).2.outputs.find k).map (·.inputId) = rowInput w k) :
    OutputsContained w (query env q f w).2 := by
  refine .of_eq (query_streams env q f w) fun k => ?_
  rcases query_db_cases env q f w with h | h
  · exact rowInput_of_db (by rw [h]) k
  · rw [rowInput, h]
    exact hf k

theorem inputId_update {t : Table OutputRow} {k : Int} {f : OutputRow → OutputRow}
    (hf : ∀ row, (f row).inputId = row.inputId) (j : Int) :
    ((t.update k f).find j).map (·.inputId) = (t.find j).map (·.inputId) := by
  rw [Table.find_update]
  split
  · rename_i hj
    rw [hj, Option.map_map]
    congr 1
    exact funext hf
  · rfl

theorem Act.contained {rely : Guarded World} {h : Option LockMode} {w w' : World}
    (ha : Act rely outsideOutputs h w w') : OutputsContained w w' := by
  cases ha with
  | quiet hs _ hdb => exact .of_eq hs (rowInput_of_db (by rw [hdb]))
  | launch t _ _ hs hdb => exact .of_eq hs (rowInput_of_db (by rw [hdb]))
  | edit i info info' aborted hi hs hsame _ hdb =>
    exact .of_insert hi hs hsame.id (fun k hk => (hsame.hasOutput k).mp hk) hsame.keysApart
      (by rw [hdb])
  | restart env plan hspts => exact contained_restartSection env hspts w
  | install env i new => exact contained_sptsInstallSection env i new w
  | stopInput i => exact contained_stopInputSection i w
  | startOutput env i k => exact contained_startOutputSection env i k w
  | stopOutput i k => exact contained_stopOutputSection i k w
  | insertInput called info _ hinfo => exact contained_insertInput hinfo w
  | receive =>
    exact .of_eq (receive_streams w) (rowInput_of_db (by simp))
  | apply => exact contained_applyProcessing w
  | saveInput => exact contained_query _ _ w fun _ => rfl
  | inputStatus => exact contained_query _ _ w fun _ => rfl
  | updateInput => exact contained_query _ _ w fun _ => rfl
  | outputStatus => exact contained_query _ _ w (inputId_update fun _ => rfl)
  | removeInput i hops => simp at hops
  | deleteInput env i hops => simp at hops
  | installOutput env called req i k row destination hops => simp at hops
  | saveOutput env called req hops => simp at hops
  | setStopped env i k req merged hops => simp at hops
  | updateOutput env i k req merged hops => simp at hops
  | removeOutput i k hops => simp at hops
  | deleteOutput env i k hops => simp at hops
  | insertInputs loaded hops => simp at hops
  | loadGroup env i hops => simp at hops

/-! ## What calls rely on -/

/-- Each output in memory has a row of its own input, and is not both running and stopped. -/
structure World.OutputsBacked (w : World) : Prop where
  ids : w.IdsMatch
  apart : w.OutputsApart
  rows : ∀ i k, w.HasOutput i k → rowInput w k = some i

/-- Next to the write guard the outputs are left alone. -/
def backedRely : Guarded World := fun h w w' =>
  w'.OutputsBacked ∧ (h = some .write → OutputsContained w w')

instance (h : Option LockMode) : IsTrans World (backedRely h) :=
  ⟨fun _ _ _ h₁ h₂ => ⟨h₂.1, fun hh => (h₁.2 hh).trans (h₂.2 hh)⟩⟩

/-- Without the write guard the outputs are left alone. -/
def backedGuar : Guarded World := fun h w w' =>
  (w.OutputsBacked → w'.OutputsBacked) ∧ (h = some .write ∨ OutputsContained w w')

abbrev Backs {α : Type} (p : Prog World α) (h : Option LockMode) (w : World)
    (Q : α → Option LockMode → World → Prop := fun _ _ _ => True) : Prop :=
  p.Behaves backedRely backedGuar h w Q

section Backed

variable {w w' : World} {i k : Int}

theorem OutputsContained.backed (h : OutputsContained w w') (hw : w.OutputsBacked) :
    w'.OutputsBacked :=
  ⟨h.ids hw.ids, h.apart hw.apart, fun i k hk => (h.rows k).trans (hw.rows i k (h.has i k hk))⟩

/-- The entries stay, and with them the rows of their outputs. -/
theorem World.OutputsBacked.of_rows (hw : w.OutputsBacked) (hs : w'.streams = w.streams)
    (hrows : ∀ i k, w.HasOutput i k → rowInput w' k = some i) : w'.OutputsBacked :=
  ⟨World.Each.of_eq (P := fun i info => info.id = i) hw.ids hs, World.Each.of_eq hw.apart hs,
    fun i k ⟨info, hi, hk⟩ => hrows i k ⟨info, hs ▸ hi, hk⟩⟩

theorem OutputsContained.guar (h : OutputsContained w w') (held : Option LockMode) :
    backedGuar held w w' :=
  ⟨h.backed, .inr h⟩

theorem backs_acts {α : Type} {p : Prog World α} {held : Option LockMode}
    {Q : α → Option LockMode → World → Prop} (h : Acts backedRely outsideOutputs p held w Q) :
    Backs p held w Q :=
  h.imp fun held _ _ ha => ha.contained.guar held

/-! ## Deleting an input -/

theorem not_hasOutput_removed (i k : Int) (w : World) :
    ¬ (removeInputSection i w).2.HasOutput i k := by
  rintro ⟨info, hi, _⟩
  unfold removeInputSection at hi
  cases hi' : w.streams.lookup i with
  | none =>
    rw [hi'] at hi
    exact absurd (hi'.symm.trans hi) (by simp)
  | some info' =>
    rw [hi'] at hi
    exact absurd ((AList.lookup_erase i w.streams).symm.trans hi) (by simp)

/-- The rows of the outputs go with those of the input, which has none in memory any more. -/
theorem World.OutputsBacked.deleteInputFromDb (hw : w.OutputsBacked) (env : Env)
    (hnone : ∀ k, ¬ w.HasOutput i k) : (deleteInputFromDb env i w).2.OutputsBacked := by
  have hs := (quiet_deleteInputFromDb env i w).streams
  rcases deleteInputFromDb_db_cases env i w with hdb | ⟨_, houtputs⟩
  · exact (OutputsContained.of_eq hs (rowInput_of_db (by rw [hdb]))).backed hw
  · refine hw.of_rows hs fun j k hk => ?_
    have hne : j ≠ i := by
      rintro rfl
      exact hnone k hk
    obtain ⟨row, hrow, hinput⟩ := rowInput_eq_some.mp (hw.rows j k hk)
    refine rowInput_eq_some.mpr ⟨row, ?_, hinput⟩
    rw [houtputs, Table.delete]
    exact List.mem_filter.mpr ⟨hrow, by simp [hinput, hne]⟩

theorem backs_deleteInput (env : Env) (i : Int) (w : World) : Backs (deleteInput env i) none w := by
  intro w₁ _
  refine Behaves.bind (Q := fun _ h w => h = some .write ∧ ∀ k, ¬ w.HasOutput i k)
    (Behaves.atomic fun w₂ _ => ⟨(contained_removeInputSection i w₂).guar _, rfl,
      fun k => not_hasOutput_removed i k w₂⟩) fun found h w hw => ?_
  obtain ⟨rfl, hnone⟩ := hw
  cases found with
  | false => exact fun _ _ => trivial
  | true =>
    refine Behaves.bind (Q := fun _ _ _ => True)
      (Behaves.atomic fun w' hw => ⟨⟨fun _ => ?_, .inl rfl⟩, trivial⟩) fun _ _ _ _ _ _ => trivial
    exact hw.1.deleteInputFromDb env fun k hk => hnone k ((hw.2 rfl).has i k hk)

/-! ## Deleting an output -/

/-- An output that was removed was in one map of one entry. -/
theorem World.OutputsBacked.removed (hw : w.OutputsBacked)
    (hok : (removeOutputSection i k w).1 = .ok ()) (j : Int) :
    ¬ (removeOutputSection i k w).2.HasOutput j k := by
  intro hj
  have hbefore := (contained_removeOutputSection i k w).has j k hj
  obtain ⟨info', hinfo', hhas⟩ := hj
  unfold removeOutputSection at hok hinfo'
  cases hi : w.streams.lookup i with
  | none => simp [hi] at hok
  | some info =>
    have hsame : info.HasOutput k → j = i := fun hk =>
      Option.some.inj ((hw.rows j k hbefore).symm.trans (hw.rows i k ⟨info, hi, hk⟩))
    rw [hi] at hok hinfo'
    dsimp only at hok hinfo'
    cases ho : info.outputTasks.lookup k with
    | some o =>
      have hrunning : k ∈ info.outputTasks := HashMap.mem_iff.mpr ⟨o, ho⟩
      obtain rfl := hsame (.inl hrunning)
      rw [ho] at hinfo'
      obtain rfl := Option.some.inj ((AList.lookup_insert _).symm.trans hinfo')
      rcases hhas with hk | hk
      · exact (AList.mem_erase.mp hk).1 rfl
      · exact hw.apart j info hi k hrunning hk
    | none =>
      rw [ho] at hok hinfo'
      dsimp only at hok hinfo'
      split at hok
      · rename_i hstopped
        obtain rfl := hsame (.inr hstopped)
        rw [if_pos hstopped] at hinfo'
        obtain rfl := Option.some.inj ((AList.lookup_insert _).symm.trans hinfo')
        rcases hhas with hk | hk
        · exact AList.lookup_eq_none.mp ho hk
        · exact (AList.mem_erase.mp hk).1 rfl
      · exact absurd hok (by simp)

theorem World.OutputsBacked.deleteOutputFromDb (hw : w.OutputsBacked) (env : Env)
    (hnone : ∀ j, ¬ w.HasOutput j k) : (deleteOutputFromDb env k w).2.OutputsBacked := by
  have hs : (StreamGateway.deleteOutputFromDb env k w).2.streams = w.streams :=
    query_streams _ _ _ w
  refine hw.of_rows hs fun j k' hk => ?_
  have hne : k' ≠ k := by
    rintro rfl
    exact hnone j hk
  have hrow := hw.rows j k' hk
  rcases query_db_cases env .deleteOutput _ w with hdb | hdb
  · exact (rowInput_of_db (by rw [StreamGateway.deleteOutputFromDb, hdb]) k').trans hrow
  · rw [rowInput, StreamGateway.deleteOutputFromDb, hdb, Table.find_delete, if_neg hne]
    exact hrow

theorem backs_deleteOutput (env : Env) (i k : Int) (w : World) :
    Backs (deleteOutput env i k) none w := by
  intro w₁ _
  refine Behaves.bind (Q := fun r h w => h = some .write ∧ (r = .ok () → ∀ j, ¬ w.HasOutput j k))
    (Behaves.atomic fun w₂ hw => ⟨(contained_removeOutputSection i k w₂).guar _, rfl,
      hw.1.removed⟩) fun r h w hw => ?_
  obtain ⟨rfl, hnone⟩ := hw
  cases r with
  | error r => exact fun _ _ => trivial
  | ok _ =>
    refine Behaves.bind (Q := fun _ _ _ => True)
      (Behaves.atomic fun w' hw => ⟨⟨fun _ => ?_, .inl rfl⟩, trivial⟩) fun _ _ _ _ _ _ => trivial
    exact hw.1.deleteOutputFromDb env fun j hj => hnone rfl j ((hw.2 rfl).has j k hj)

/-! ## Creating an output -/

/-- The row is there, and the output is in no entry yet. -/
structure World.OutputReady (i k : Int) (w : World) : Prop where
  row : rowInput w k = some i
  absent : ∀ j, ¬ w.HasOutput j k

theorem OutputsContained.ready (h : OutputsContained w w') (hw : w.OutputReady i k) :
    w'.OutputReady i k :=
  ⟨(h.rows k).trans hw.row, fun j hj => hw.absent j (h.has j k hj)⟩

theorem saveOutputToDb_backed (env : Env) (name : Option String) (kind destination : String)
    (configJson : Option Json) (listenPort : Option UInt16) (hw : w.OutputsBacked) :
    (saveOutputToDb env name i kind destination configJson listenPort w).2.OutputsBacked ∧
      ∀ k, (saveOutputToDb env name i kind destination configJson listenPort w).1 = .ok k →
        (saveOutputToDb env name i kind destination configJson listenPort w).2.OutputReady i k := by
  unfold saveOutputToDb
  split
  · exact ⟨hw, fun _ h => absurd h (by simp)⟩
  unfold query
  split
  · exact ⟨hw, fun _ h => absurd h (by simp)⟩
  -- the key is new, so no entry has it and the other rows stay
  have hnew : ∀ j, ¬ w.HasOutput j (w.db.outputs.lastId + 1) := by
    intro j hj
    have hle : w.db.outputs.lastId + 1 ≤ w.db.outputs.lastId := rowInput_le w _ j (hw.rows j _ hj)
    omega
  refine ⟨hw.of_rows rfl fun j k hj => ?_, fun k hk => ⟨?_, fun j hj => ?_⟩⟩
  · have hne : k ≠ w.db.outputs.lastId + 1 := by
      rintro rfl
      exact hnew j hj
    rw [rowInput, Table.find_insert, if_neg hne]
    exact hw.rows j k hj
  · obtain rfl := Except.ok.inj hk
    rw [rowInput, Table.find_insert, if_pos rfl]
    rfl
  · obtain rfl := Except.ok.inj hk
    exact hnew j hj

/-- The output enters the entry of the input that its row names. -/
theorem World.OutputsBacked.installOutput (hw : w.OutputsBacked) (hready : w.OutputReady i k)
    (env : Env) (req : CreateOutputRequest) (destination : String) :
    (installOutputSection env req i k destination w).2.OutputsBacked := by
  have hids : (installOutputSection env req i k destination w).2.IdsMatch :=
    (section_installOutput env req i k destination w).idsMatch hw.ids
  unfold installOutputSection at hids ⊢
  cases hi : w.streams.lookup i with
  | none => exact hw
  | some input =>
  rw [hi] at hids
  dsimp only at hids ⊢
  cases hspawn : spawnOutput env req input i k destination w.rt with
  | error e => exact hw
  | ok r =>
  obtain ⟨output, rt⟩ := r
  obtain ⟨j, spec, hj, hl⟩ := spawnOutput_launch hspawn
  have hid : output.inputId = i := by
    rw [hw.ids i input hi, or_self] at hj
    rw [hl.inputId_eq, hj]
  rw [hspawn] at hids
  dsimp only at hids ⊢
  rw [hid, hi, hl.outputId_eq] at hids ⊢
  refine ⟨hids, World.Each.insert hw.apart rfl fun k' hk' hstopped => ?_,
    fun j k' ⟨info, hj, hk'⟩ => ?_⟩
  · rcases (AList.mem_insert _).mp hk' with rfl | hk'
    · exact hready.absent i ⟨input, hi, .inr hstopped⟩
    · exact hw.apart i input hi k' hk' hstopped
  · rcases HashMap.lookup_insert_eq_some.mp hj with ⟨rfl, rfl⟩ | ⟨_, hj⟩
    · rcases hk' with hk' | hk'
      · rcases (AList.mem_insert _).mp hk' with rfl | hk'
        · exact hready.row
        · exact hw.rows _ k' ⟨input, hi, .inl hk'⟩
      · exact hw.rows _ k' ⟨input, hi, .inr hk'⟩
    · exact hw.rows j k' ⟨info, hj, hk'⟩

theorem backs_createOutputHeld (env : Env) (req : CreateOutputRequest) (w : World) :
    Backs (createOutputHeld env req) (some .write) w (Same (some .write)) := by
  refine Behaves.bind (backs_acts (acts_assignOutputPort env req w)) fun r h w hr => ?_
  obtain ⟨rfl, _⟩ := hr
  rcases r with r | ⟨finalReq, assignedPort⟩
  · exact Behaves.ret rfl
  refine Behaves.bind (backs_acts (acts_checkConflicts env req.inputId
    (outputDestination finalReq).1 (outputDestination finalReq).2 w)) fun r h w hr => ?_
  obtain ⟨rfl, _⟩ := hr
  cases r with
  | error r => exact Behaves.ret rfl
  | ok _ =>
  refine Behaves.bind (Q := fun r h w => h = some .write ∧ ∀ k, r = .ok k →
      w.OutputReady req.inputId k) (Behaves.atomic fun w' hw => ?_) fun r h w hr => ?_
  · obtain ⟨hbacked, hready⟩ := saveOutputToDb_backed env
      (outputRowName finalReq (outputDestination finalReq).1) (outputRowKind finalReq)
      (outputDestination finalReq).1 (some (.obj finalReq.toFields)) (outputDestination finalReq).2
      hw.1
    exact ⟨⟨fun _ => hbacked, .inl rfl⟩, rfl, hready⟩
  obtain ⟨rfl, hready⟩ := hr
  cases r with
  | error e => exact Behaves.ret rfl
  | ok k =>
  refine Behaves.bind (Q := Same (some .write)) (Behaves.atomic fun w' hw => ⟨⟨fun hbacked => ?_,
    .inl rfl⟩, rfl⟩) fun r h w hh => ?_
  · exact hbacked.installOutput ((hw.2 rfl).ready (hready k rfl)) env finalReq _
  · cases r <;> exact Behaves.ret hh

theorem backs_createOutput (env : Env) (req : CreateOutputRequest) (w : World) :
    Backs (createOutput env req) none w := by
  unfold createOutput
  split
  · exact Behaves.ret trivial
  intro w₁ _
  refine Behaves.bind (Q := fun _ _ _ => True) ?_ fun _ _ _ _ _ _ => trivial
  refine Behaves.bind (backs_acts (acts_read w₁)) fun found h w hh => ?_
  subst hh
  cases found with
  | false => exact Behaves.ret trivial
  | true => exact (backs_createOutputHeld env req w).weaken fun _ _ _ _ => trivial

/-! ## All calls -/

/-- All calls but the updates of outputs. -/
def KeepingCall (p : Prog World Unit) : Prop :=
  (∃ (env : Env) (op : Operation), (∀ k req, op ≠ .updateOutput k req) ∧ p = op.prog env) ∨
    p = processMessage

theorem KeepingCall.backs {p : Prog World Unit} (h : KeepingCall p) (w : World) :
    Backs p none w := by
  rcases h with ⟨env, op, hop, rfl⟩ | rfl
  · have hother : outsideOutputs (some op) → Backs (op.prog env) none w := fun hops =>
      backs_acts (op.acts env hops w)
    cases op with
    | deleteInput i => exact Behaves.ignore (backs_deleteInput env i w)
    | createOutput req => exact Behaves.ignore (backs_createOutput env req w)
    | deleteOutput i k => exact Behaves.ignore (backs_deleteOutput env i k w)
    | updateOutput k req => exact absurd rfl (hop k req)
    | _ => exact hother (by simp)
  · exact backs_acts (acts_processMessage w)

theorem outputsBacked_fits : Pool.Fits World.OutputsBacked backedRely backedGuar KeepingCall
    TaskStep (fun _ _ => True) where
  refl := fun hi => ⟨hi, fun _ => .refl _⟩
  calls := fun hp _ => hp.backs _
  keeps := fun hi hstep _ => hstep.elim (fun hg => hg.1 hi) fun ho => ho.contained.backed hi
  relies := by
    intro a b t h _ hi hstep _
    rcases hstep with ⟨hapart, hg⟩ | ho
    · refine ⟨hg.1 hi, fun hwrite => hg.2.resolve_left fun hh => ?_⟩
      rw [hapart.2 hwrite] at hh
      exact absurd hh (by simp)
    · exact ⟨ho.contained.backed hi, fun _ => ho.contained⟩

end Backed

end StreamGateway
