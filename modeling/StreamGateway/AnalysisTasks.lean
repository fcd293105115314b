import StreamGateway.Invariants
import StreamGateway.Updates

/-!
# The tasks of analyses

What each update does to the entries of `analysis_tasks` and to the tasks of analyses. Besides
the four parts of a start, an update can only remove entries. The tasks that end then are those
of the removed entries, and as long as no input is deleted or replaced, all of them do.
-/
namespace StreamGateway

open Prog

def TaskSpec.isAnalysis : TaskSpec → Bool
  | .analysis .. => true
  | _ => false

theorem TaskSpec.isAnalysis_iff {spec : TaskSpec} :
    spec.isAnalysis = true ↔ ∃ i id, spec.owner = .analysis i id := by
  cases spec <;> simp [isAnalysis, owner]

/-- The input has the entry in `analysis_tasks`. -/
def World.Analysis (w : World) (i : Int) (k : ℕ) (a : AnalysisInfo) : Prop :=
  ∃ info, w.streams.lookup i = some info ∧ info.analysisTasks.lookup k = some a

/-! ## Handles -/

/-- The input and its outputs hold no tasks of analyses, and its analyses hold their own. -/
structure InputInfo.Handles (i : Int) (info : InputInfo) : Prop where
  taskHandle : ∀ t, info.taskHandle = some t → t.spec.isAnalysis = false
  outputs : ∀ k o t, info.outputTasks.lookup k = some o → o.abortHandle = some t →
    t.spec.isAnalysis = false
  analyses : ∀ k a, info.analysisTasks.lookup k = some a → a.OwnTask i

section Handles

variable {i : Int} {info info' : InputInfo} {t : Task}

theorem not_isAnalysis_of_input (h : t.spec.owner = .input i) : t.spec.isAnalysis = false := by
  rw [Bool.eq_false_iff]
  intro ha
  obtain ⟨_, _, howner⟩ := TaskSpec.isAnalysis_iff.mp ha
  rw [h] at howner
  exact absurd howner (by simp)

theorem not_isAnalysis_of_output (h : t.spec.owner.outputId.isSome) :
    t.spec.isAnalysis = false := by
  rw [Bool.eq_false_iff]
  intro ha
  obtain ⟨_, _, howner⟩ := TaskSpec.isAnalysis_iff.mp ha
  rw [howner] at h
  exact absurd h (by simp [Owner.outputId])

theorem AnalysisInfo.OwnTask.isAnalysis {a : AnalysisInfo} (h : a.OwnTask i) :
    a.taskHandle.spec.isAnalysis = true :=
  TaskSpec.isAnalysis_iff.mpr ⟨i, a.id, h⟩

/-- Outputs are as before or have a task that was just launched. -/
theorem InputInfo.Handles.begun {launched : List Task} (h : info.Handles i)
    (hhandle : ∀ t, info'.taskHandle = some t → t.spec.isAnalysis = false)
    (houtputs : ∀ k o, info'.outputTasks.lookup k = some o →
      info.outputTasks.lookup k = some o ∨ ∃ t ∈ launched, o.abortHandle = some t)
    (hlaunched : ∀ t ∈ launched, t.spec.owner.outputId.isSome)
    (hanalyses : ∀ k a, info'.analysisTasks.lookup k = some a →
      info.analysisTasks.lookup k = some a) : info'.Handles i := by
  refine ⟨hhandle, fun k o t ho ht => ?_, fun k a ha => h.analyses k a (hanalyses k a ha)⟩
  rcases houtputs k o ho with ho | ⟨t', ht', hh⟩
  · exact h.outputs k o t ho ht
  · obtain rfl := Option.some.inj (ht.symm.trans hh)
    exact not_isAnalysis_of_output (hlaunched t ht')

theorem InputInfo.Handles.bare (hhandle : ∀ t, info.taskHandle = some t →
    t.spec.owner = .input i) (houts : info.outputTasks = ∅) (hanalyses : info.analysisTasks = ∅) :
    info.Handles i := by
  refine ⟨fun t ht => not_isAnalysis_of_input (hhandle t ht), fun k o t ho => ?_, fun k a ha => ?_⟩
  · rw [houts] at ho
    exact absurd ho (by simp)
  · rw [hanalyses] at ha
    exact absurd ha (by simp)

theorem FreshInput.handles {rt : Runtime} (h : FreshInput info rt) : info.Handles info.id :=
  .bare (fun t ht => (h.handle t ht).2) h.outputTasks h.analysisTasks

theorem InputInfo.Handles.withOutput (h : info.Handles i) {k : Int} {o : OutputInfo}
    (ho : info.outputTasks.lookup k = some o) (status : StreamStatus) (connectedAt : Option ℕ)
    (peerAddress : Option String) : InputInfo.Handles i { info with
      outputTasks := info.outputTasks.insert k
        (o.withStatus status connectedAt peerAddress) } := by
  refine ⟨h.taskHandle, fun k' o' t ho' ht => ?_, h.analyses⟩
  rcases HashMap.lookup_insert_eq_some.mp ho' with ⟨_, rfl⟩ | ⟨_, ho'⟩
  · exact h.outputs k o t ho ht
  · exact h.outputs k' o' t ho' ht

theorem Section.handles {k : SectionKind} {w w' : World} (hs : Section k w w')
    (h : w.Each InputInfo.Handles) : w'.Each InputInfo.Handles := by
  cases hs with
  | spawn t _ _ hs => exact h.of_eq hs
  | create t _ hs => exact h.of_eq hs
  | tend i info info' launched _ hi hs ht =>
    have hinfo := h i info hi
    exact h.insert hs (hinfo.begun (ht.taskHandle ▸ hinfo.taskHandle) ht.outputs ht.outputIds
      ht.analyses)
  | analyse i a hown =>
    rcases insertAnalysis_ok i a w with hw | ⟨info, hi, hw⟩ <;> rw [hw]
    · exact h
    have hinfo := h i info hi
    refine h.insert rfl ⟨hinfo.taskHandle, hinfo.outputs, fun k b hb => ?_⟩
    rcases HashMap.lookup_insert_eq_some.mp hb with ⟨_, rfl⟩ | ⟨_, hb⟩
    · exact hown
    · exact hinfo.analyses k b hb
  | restart i info info' t launched hi hs howner _ hb =>
    refine h.insert hs ((h i info hi).begun (fun t' ht' => ?_) hb.outputs hb.outputIds
      fun k a ha => hb.analyses ▸ ha)
    obtain rfl := Option.some.inj (ht'.symm.trans hb.taskHandle)
    exact not_isAnalysis_of_input howner
  | install env i new t hnew _ howner =>
    rcases sptsInstallSection_ok env i new w with
      hw | ⟨info, info', tasks, hi, hs, _, hhandle, hanalyses, _, hts⟩
    · rwa [hw]
    refine h.insert hs ((h i info hi).begun (fun t' ht' => ?_)
      (fun k o ho => (hts.handle k o ho).imp_right fun ho => ho.2) hts.outputIds
      fun k a ha => hanalyses ▸ ha)
    obtain rfl := Option.some.inj (ht'.symm.trans (hhandle.trans hnew))
    exact not_isAnalysis_of_input howner
  | stop i =>
    rcases stopInputSection_ok i w with
      ⟨e, hw⟩ | ⟨info, info', _, hi, hs, _, hhandle, _, houts, hanalyses, _⟩
    · rwa [hw]
    · refine h.insert hs (.bare (fun t ht => ?_) houts hanalyses)
      rw [hhandle] at ht
      exact absurd ht (by simp)
  | remove i =>
    rcases removeInputSection_ok i w with hw | ⟨_, _, _, hs, _⟩
    · rwa [hw]
    · exact h.erase hs
  | enter info hf => exact h.insert rfl hf.handles
  | load loaded hl =>
    refine h.extend rfl fun i info hi => ?_
    obtain ⟨hf, hid⟩ := hl i info hi
    exact hid ▸ hf.handles
  | receive => exact h.of_eq (receive_streams w)
  | apply =>
    refine h.apply (fun _ _ _ _ _ hinfo => ?_)
      fun _ _ _ _ status connectedAt peerAddress hinfo ho =>
        hinfo.withOutput ho status connectedAt peerAddress
    exact ⟨hinfo.taskHandle, hinfo.outputs, hinfo.analyses⟩

theorem Reachable.handles {w : World} (h : Reachable w) : w.Each InputInfo.Handles := by
  obtain ⟨env, db, threads, hruns⟩ := h
  have hboot : Pool.Safe (World.Each InputInfo.Handles) (Sections allKinds) Later
      (bootPool env db) := by
    refine ⟨fun i info hi => absurd hi (by simp [bootPool, World.boot]), fun t ht => ?_⟩
    obtain rfl := List.mem_singleton.mp ht
    exact ((takes_loadFromDb env _).mono (by simp [allKinds])).ignore
  refine (hboot.runs (fun p w hp => hp.takes w) later_of_step (fun w w' hi hs _ => ?_) hruns).1
  rcases hs with (hq | ⟨k, _, hs⟩) | hs
  · exact hi.of_eq hq.streams
  · exact hs.handles hi
  · exact hi.of_eq hs.streams

end Handles

/-! ## Entries that go -/

/-- Of the tasks of analyses, those in the list end. -/
structure Runtime.Ends (aborted : List Task) (rt rt' : Runtime) : Prop where
  live : ∀ t, t.spec.isAnalysis = true → (t ∈ rt'.live ↔ t ∈ rt.live ∧ t ∉ aborted)
  nextUuid : rt'.nextUuid = rt.nextUuid

/-- No entry comes, and the tasks that end are those of entries that go. Unless inputs are made
or deleted, the tasks of the entries that go have ended, and all inputs stay. -/
structure World.Drops (edits : Prop) (w w' : World) : Prop where
  analyses : ∀ i k a, w'.Analysis i k a → w.Analysis i k a
  live : ∀ t ∈ w'.rt.live, t.spec.isAnalysis = true → t ∈ w.rt.live
  ends : ∀ t ∈ w.rt.live, t.spec.isAnalysis = true → t ∉ w'.rt.live →
    ∃ i k a, w.Analysis i k a ∧ a.taskHandle = t ∧ ¬ w'.Analysis i k a
  kept : ¬ edits → ∀ i k a, w.Analysis i k a → ¬ w'.Analysis i k a → a.taskHandle ∉ w'.rt.live
  inputs : ¬ edits → ∀ i ∈ w.streams, i ∈ w'.streams
  nextUuid : w'.rt.nextUuid = w.rt.nextUuid

section Drops

variable {edits : Prop} {w w' : World} {i : Int} {info info' : InputInfo}
  {launched aborted : List Task} {rt rt' : Runtime}

theorem Moves.ends (h : Moves launched aborted rt rt')
    (hl : ∀ t ∈ launched, t.spec.isAnalysis = false) (hn : rt'.nextUuid = rt.nextUuid) :
    Runtime.Ends aborted rt rt' := by
  refine ⟨fun t ht => ?_, hn⟩
  rw [h.live, List.mem_append, List.mem_filter, decide_eq_true_eq, or_iff_left]
  intro hmem
  exact absurd ht (by simp [hl t hmem])

theorem Runtime.Ends.of_eq (hl : rt'.live = rt.live) (hn : rt'.nextUuid = rt.nextUuid) :
    Runtime.Ends [] rt rt' :=
  ⟨fun t _ => by simp [hl], hn⟩

theorem analysis_insert (hs : w'.streams = w.streams.insert i info') {j : Int} {k : ℕ}
    {a : AnalysisInfo} : w'.Analysis j k a ↔
      j = i ∧ info'.analysisTasks.lookup k = some a ∨ j ≠ i ∧ w.Analysis j k a := by
  unfold World.Analysis
  simp only [hs, HashMap.lookup_insert_eq_some]
  constructor
  · rintro ⟨info, ⟨hj, rfl⟩ | ⟨hj, hi⟩, hk⟩
    · exact .inl ⟨hj, hk⟩
    · exact .inr ⟨hj, info, hi, hk⟩
  · rintro (⟨hj, hk⟩ | ⟨hj, info, hi, hk⟩)
    · exact ⟨info', .inl ⟨hj, rfl⟩, hk⟩
    · exact ⟨info, .inr ⟨hj, hi⟩, hk⟩

theorem analysis_of_eq (hs : w'.streams = w.streams) {j : Int} {k : ℕ} {a : AnalysisInfo} :
    w'.Analysis j k a ↔ w.Analysis j k a := by
  unfold World.Analysis
  rw [hs]

theorem World.Drops.of_eq (hs : w'.streams = w.streams) (he : Runtime.Ends aborted w.rt w'.rt)
    (ha : ∀ t ∈ aborted, t.spec.isAnalysis = false) : w.Drops edits w' := by
  refine ⟨fun i k a => (analysis_of_eq hs).mp, fun t ht hta => ((he.live t hta).mp ht).1,
    fun t ht hta hends => ?_, fun _ i k a h hgone => absurd ((analysis_of_eq hs).mpr h) hgone,
    fun _ i hi => by rwa [hs], he.nextUuid⟩
  refine absurd ((he.live t hta).mpr ⟨ht, fun hmem => ?_⟩) hends
  exact absurd hta (by simp [ha t hmem])

/-- Entries of one input go, and their tasks are aborted. -/
theorem World.Drops.entry (hinfo : info.Handles i) (hi : w.streams.lookup i = some info)
    (hs : w'.streams = w.streams.insert i info') (he : Runtime.Ends aborted w.rt w'.rt)
    (hsub : ∀ k a, info'.analysisTasks.lookup k = some a → info.analysisTasks.lookup k = some a)
    (haborted : ∀ t ∈ aborted, t.spec.isAnalysis = true → ∃ k a,
      info.analysisTasks.lookup k = some a ∧ a.taskHandle = t ∧
      info'.analysisTasks.lookup k = none)
    (hgone : ∀ k a, info.analysisTasks.lookup k = some a → info'.analysisTasks.lookup k = none →
      a.taskHandle ∈ aborted) : w.Drops edits w' := by
  refine ⟨fun j k a h => ?_, fun t ht hta => ((he.live t hta).mp ht).1, fun t ht hta hends => ?_,
    fun _ j k a h hnot hlive => ?_, fun _ j hj => ?_, he.nextUuid⟩
  · rcases (analysis_insert hs).mp h with ⟨rfl, hk⟩ | ⟨_, h⟩
    · exact ⟨info, hi, hsub k a hk⟩
    · exact h
  · have hmem : t ∈ aborted := by
      by_contra hmem
      exact hends ((he.live t hta).mpr ⟨ht, hmem⟩)
    obtain ⟨k, a, hk, hat, hnone⟩ := haborted t hmem hta
    refine ⟨i, k, a, ⟨info, hi, hk⟩, hat, fun h => ?_⟩
    rcases (analysis_insert hs).mp h with ⟨_, hk'⟩ | ⟨hne, _⟩
    · rw [hnone] at hk'
      exact absurd hk' (by simp)
    · exact hne rfl
  · obtain ⟨info₁, hj, hk⟩ := h
    by_cases hji : j = i
    · subst hji
      obtain rfl := Option.some.inj (hi.symm.trans hj)
      have hnone : info'.analysisTasks.lookup k = none := by
        rw [Option.eq_none_iff_forall_ne_some]
        intro b hb
        obtain rfl := Option.some.inj (hk.symm.trans (hsub k b hb))
        exact hnot ((analysis_insert hs).mpr (.inl ⟨rfl, hb⟩))
      have hta := (hinfo.analyses k a hk).isAnalysis
      exact ((he.live _ hta).mp hlive).2 (hgone k a hk hnone)
    · exact hnot ((analysis_insert hs).mpr (.inr ⟨hji, info₁, hj, hk⟩))
  · rw [hs]
    exact (AList.mem_insert _).mpr (.inr hj)

theorem World.Drops.same (hinfo : info.Handles i) (hi : w.streams.lookup i = some info)
    (hs : w'.streams = w.streams.insert i info') (he : Runtime.Ends aborted w.rt w'.rt)
    (ha : info'.analysisTasks = info.analysisTasks)
    (haborted : ∀ t ∈ aborted, t.spec.isAnalysis = false) : w.Drops edits w' := by
  refine .entry hinfo hi hs he (fun k a hk => ha ▸ hk) (fun t ht hta => ?_) fun k a hk hnone => ?_
  · exact absurd hta (by simp [haborted t ht])
  · rw [ha, hk] at hnone
    exact absurd hnone (by simp)

@[simp] theorem nextUuid_abortAnalyses (analyses : List (ℕ × AnalysisInfo)) (rt : Runtime) :
    (abortAnalyses analyses rt).nextUuid = rt.nextUuid := by
  unfold abortAnalyses
  induction analyses generalizing rt with
  | nil => rfl
  | cons a rest ih => exact ih (rt.abort a.2.taskHandle)

@[simp] theorem nextUuid_abortOutputs (outputs : List (Int × OutputInfo)) (rt : Runtime) :
    (abortOutputs outputs rt).nextUuid = rt.nextUuid := by
  unfold abortOutputs
  induction outputs generalizing rt with
  | nil => rfl
  | cons o rest ih => exact (ih _).trans (nextUuid_abortHandle rt o.2.abortHandle)

@[simp] theorem nextUuid_stopOutputs (outputs : List (Int × OutputInfo)) (rt : Runtime) :
    (stopOutputs outputs rt).2.nextUuid = rt.nextUuid := by
  induction outputs generalizing rt with
  | nil => rfl
  | cons o rest ih =>
    unfold stopOutputs
    split
    · exact (ih _).trans (nextUuid_abortHandle rt o.2.abortHandle)
    · exact ih rt

@[simp] theorem nextUuid_record (metric : Metric) (rt : Runtime) :
    (rt.record metric).nextUuid = rt.nextUuid := rfl

@[simp] theorem nextUuid_records {α : Type} (metric : Metric) (l : List α) (rt : Runtime) :
    (l.foldl (fun rt _ => rt.record metric) rt).nextUuid = rt.nextUuid := by
  induction l generalizing rt with
  | nil => rfl
  | cons _ l ih => exact ih (rt.record metric)

theorem mem_analyses_iff {info : InputInfo} {t : Task} :
    t ∈ info.analysisTasks.toPairs.map (fun a => a.2.taskHandle) ↔
      ∃ k a, info.analysisTasks.lookup k = some a ∧ a.taskHandle = t := by
  simp [HashMap.mem_toPairs]

/-- The tasks that are aborted with an input. -/
def InputInfo.abortedTasks (info : InputInfo) (outputs : List (Int × OutputInfo)) : List Task :=
  info.taskHandle.toList ++ ((outputs.flatMap fun o => o.2.abortHandle.toList) ++
    info.analysisTasks.toPairs.map fun a => a.2.taskHandle)

/-- Those of analyses are those of its own. -/
theorem InputInfo.Handles.abortedTasks (hinfo : info.Handles i)
    {outputs : List (Int × OutputInfo)} (houts : outputs ⊆ info.outputTasks.toPairs) {t : Task}
    (ht : t ∈ info.abortedTasks outputs) (hta : t.spec.isAnalysis = true) :
    ∃ k a, info.analysisTasks.lookup k = some a ∧ a.taskHandle = t := by
  simp only [InputInfo.abortedTasks, List.mem_append, Option.mem_toList] at ht
  rcases ht with ht | ht | ht
  · exact absurd hta (by simp [hinfo.taskHandle t ht])
  · obtain ⟨⟨k, o⟩, ho, ht⟩ := List.mem_flatMap.mp ht
    have hnot := hinfo.outputs k o t (HashMap.mem_toPairs.mp (houts ho)) (Option.mem_toList.mp ht)
    exact absurd hta (by simp [hnot])
  · exact mem_analyses_iff.mp ht

theorem mem_abortedTasks {outputs : List (Int × OutputInfo)} {k : ℕ} {a : AnalysisInfo}
    (h : info.analysisTasks.lookup k = some a) : a.taskHandle ∈ info.abortedTasks outputs :=
  List.mem_append_right _ (List.mem_append_right _ (mem_analyses_iff.mpr ⟨k, a, h, rfl⟩))

theorem Aborts.ends (h : Aborts aborted rt rt') (hn : rt'.nextUuid = rt.nextUuid) :
    Runtime.Ends aborted rt rt' :=
  h.moves.ends (fun _ h => absurd h List.not_mem_nil) hn

theorem drops_stopInput (hw : w.Each InputInfo.Handles) (i : Int) :
    w.Drops edits (stopInputSection i w).2 := by
  unfold stopInputSection
  split
  · exact .of_eq rfl (.of_eq rfl rfl) (by simp)
  rename_i info hi
  split
  · exact .of_eq rfl (.of_eq rfl rfl) (by simp)
  have haborts : Aborts (info.abortedTasks (info.outputTasks.toPairs.filter fun o =>
      o.2.status.isActive)) w.rt (stopInputInfo info w.rt).2 :=
    (aborts_abortHandle w.rt info.taskHandle).trans
      ((aborts_stopOutputs info.outputTasks.toPairs _).trans (aborts_abortAnalyses _ _))
  have hn : (stopInputInfo info w.rt).2.nextUuid = w.rt.nextUuid := by
    simp [stopInputInfo]
  refine .entry (hw i info hi) hi rfl (haborts.ends hn) (fun k a hk => ?_) (fun t ht hta => ?_)
    fun k a hk _ => mem_abortedTasks hk
  · exact absurd hk (by simp [stopInputInfo])
  · obtain ⟨k, a, hk, hat⟩ := (hw i info hi).abortedTasks List.filter_sublist.subset ht hta
    exact ⟨k, a, hk, hat, rfl⟩

theorem drops_removeInput (he : edits) (hw : w.Each InputInfo.Handles) (i : Int) :
    w.Drops edits (removeInputSection i w).2 := by
  unfold removeInputSection
  split
  · exact .of_eq rfl (.of_eq rfl rfl) (by simp)
  rename_i info hi
  have hinput := (aborts_abortHandle w.rt info.taskHandle).record .decrementActiveInputs
  have houtputs := (aborts_abortOutputs info.outputTasks.toPairs
    ((w.rt.abortHandle info.taskHandle).record .decrementActiveInputs)).records
      .decrementActiveOutputs info.outputTasks.toPairs
  have haborts := hinput.trans (houtputs.trans
    (aborts_abortAnalyses info.analysisTasks.toPairs _))
  have hends := haborts.ends (by simp)
  have hgone : ∀ {j k a}, World.Analysis { w with streams := w.streams.erase i } j k a ↔
      j ≠ i ∧ w.Analysis j k a := by
    intro j k a
    simp only [World.Analysis, HashMap.lookup_erase_eq_some, and_assoc, exists_and_left]
  refine ⟨fun j k a h => (hgone.mp h).2, fun t ht hta => ((hends.live t hta).mp ht).1,
    fun t ht hta hdead => ?_, fun hne => absurd he hne, fun hne => absurd he hne, hends.nextUuid⟩
  have hmem : t ∈ info.abortedTasks info.outputTasks.toPairs := by
    by_contra hmem
    exact hdead ((hends.live t hta).mpr ⟨ht, hmem⟩)
  obtain ⟨k, a, hk, hat⟩ := (hw i info hi).abortedTasks (List.Subset.refl _) hmem hta
  exact ⟨i, k, a, ⟨info, hi, hk⟩, hat, fun h => (hgone.mp h).1 rfl⟩

theorem drops_stopAnalysis (hw : w.Each InputInfo.Handles) (i : Int)
    (analysisType : AnalysisType) : w.Drops edits (stopAnalysisSection i analysisType w).2 := by
  rcases stopAnalysisSection_ok i analysisType w with hw' | ⟨info, id, a, hi, ha, hw'⟩ <;>
    rw [hw']
  · exact .of_eq rfl (.of_eq rfl rfl) (by simp)
  refine .entry (hw i info hi) hi rfl ((aborts_abort w.rt a.taskHandle).ends rfl)
    (fun k b hk => (HashMap.lookup_erase_eq_some.mp hk).2) (fun t ht _ => ?_)
    fun k b hk hnone => ?_
  · obtain rfl := List.mem_singleton.mp ht
    exact ⟨id, a, ha, rfl, by simp⟩
  · dsimp only at hnone
    rw [HashMap.lookup_erase_eq, hk, ite_eq_left_iff] at hnone
    obtain rfl : k = id := by
      by_contra hne
      exact absurd (hnone hne) (by simp)
    obtain rfl := Option.some.inj (hk.symm.trans ha)
    exact List.mem_singleton_self _

theorem drops_stopAllAnalysis (hw : w.Each InputInfo.Handles) (i : Int) :
    w.Drops edits (stopAllAnalysisSection i w).2 := by
  rcases stopAllAnalysisSection_ok i w with hw' | ⟨info, hi, hw'⟩ <;> rw [hw']
  · exact .of_eq rfl (.of_eq rfl rfl) (by simp)
  refine .entry (hw i info hi) hi rfl ((aborts_abortAnalyses _ w.rt).ends (by simp))
    (fun k a hk => absurd hk (by simp)) (fun t ht _ => ?_)
    fun k a hk _ => mem_analyses_iff.mpr ⟨k, a, hk, rfl⟩
  obtain ⟨k, a, hk, hat⟩ := mem_analyses_iff.mp ht
  exact ⟨k, a, hk, hat, rfl⟩

theorem drops_restart (hw : w.Each InputInfo.Handles) (env : Env) {plan : StartPlan}
    (h : plan.config.isSpts = false) : w.Drops edits (restartSection env plan w).2 := by
  have hn : (restartSection env plan w).2.rt.nextUuid = w.rt.nextUuid := by
    unfold restartSection
    split
    · rfl
    · exact (nextUuid_restartStopped env _ _).trans (nextUuid_recreateTask plan _ w.rt)
  rcases restartSection_ok env h w with
    hw' | ⟨info, info', t, tasks, hi, hs, howner, _, hbegun, hlaunches⟩
  · rw [hw']
    exact .of_eq rfl (.of_eq rfl rfl) (by simp)
  refine .same (hw _ info hi) hi hs (hlaunches.moves.ends (fun u hu => ?_) hn) hbegun.analyses
    (by simp)
  rcases List.mem_cons.mp hu with rfl | hu
  · exact not_isAnalysis_of_input howner
  · exact not_isAnalysis_of_output (hbegun.outputIds u hu)

theorem drops_install (hw : w.Each InputInfo.Handles) (env : Env) (i : Int) (new : InputInfo) :
    w.Drops edits (sptsInstallSection env i new w).2 := by
  have hn : (sptsInstallSection env i new w).2.rt.nextUuid = w.rt.nextUuid := by
    unfold sptsInstallSection
    split
    · rfl
    · exact nextUuid_restartStopped env _ w.rt
  rcases sptsInstallSection_ok env i new w with
    hw' | ⟨info, info', tasks, hi, hs, _, _, hanalyses, _, hts⟩
  · rw [hw']
    exact .of_eq rfl (.of_eq rfl rfl) (by simp)
  · exact .same (hw i info hi) hi hs (hts.launches.moves.ends
      (fun t ht => not_isAnalysis_of_output (hts.outputIds t ht)) hn) hanalyses (by simp)

theorem drops_tend (hw : w.Each InputInfo.Handles) (h : World.Tends launched aborted w w') :
    w.Drops edits w' := by
  have hends := h.moves.ends (fun t ht => not_isAnalysis_of_output (h.launched t ht)) h.nextUuid
  have haborted : ∀ t ∈ aborted, t.spec.isAnalysis = false := by
    intro t ht
    obtain ⟨i, info, k, o, hi, ho, hh⟩ := h.aborted t ht
    exact (hw i info hi).outputs k o t ho hh
  rcases h.streams with hs | ⟨i, info, info', hi, hs, hsame⟩
  · exact .of_eq hs hends haborted
  · exact .same (hw i info hi) hi hs hends hsame.analysisTasks haborted

theorem drops_insert (he : edits) (hrt : w'.rt = w.rt)
    (hs : ∀ i info, w'.streams.lookup i = some info →
      w.streams.lookup i = some info ∨ info.analysisTasks = ∅) : w.Drops edits w' := by
  refine ⟨fun i k a ⟨info, hi, hk⟩ => ?_, fun t ht _ => by rwa [← hrt],
    fun t ht _ hdead => absurd (hrt ▸ ht) hdead, fun hne => absurd he hne,
    fun hne => absurd he hne, by rw [hrt]⟩
  rcases hs i info hi with hi | hempty
  · exact ⟨info, hi, hk⟩
  · rw [hempty] at hk
    exact absurd hk (by simp)

theorem nextUuid_receive (w : World) : (receive w).2.rt.nextUuid = w.rt.nextUuid := by
  unfold receive
  split <;> rfl

theorem nextUuid_applyProcessing (w : World) :
    (applyProcessing w).2.rt.nextUuid = w.rt.nextUuid := by
  unfold applyProcessing
  split <;> rfl

theorem drops_apply (hw : w.Each InputInfo.Handles) : w.Drops edits (applyProcessing w).2 := by
  have hends := Runtime.Ends.of_eq (applyProcessing_live w) (nextUuid_applyProcessing w)
  rcases applyProcessing_streams w with hs | ⟨e, _, hs⟩
  · exact .of_eq hs hends (by simp)
  rcases applyChange_cases e.change w.streams with happly | ⟨i, info, info', hi, happly, hinfo⟩
  · exact .of_eq (hs.trans happly) hends (by simp)
  refine .same (hw i info hi) hi (hs.trans happly) hends ?_ (by simp)
  rcases hinfo with ⟨_, _, _, _, rfl⟩ | ⟨_, _, _, _, _, _, _, rfl⟩ <;> rfl

/-- Besides the parts of a start, an update can only remove entries. -/
theorem Update.drops {k k' : Stage} (hu : Update edits k k' w w')
    (hw : w.Each InputInfo.Handles) : k' = k ∧ w.Drops edits w' ∨ StartStep k k' w w' := by
  cases hu with
  | quiet hq hn =>
    exact .inl ⟨rfl, .of_eq hq.streams (hq.runtime.moves.ends (by simp) hn) (by simp)⟩
  | start hs => exact .inr hs
  | launch i t hl howner hs hn =>
    refine .inl ⟨rfl, .of_eq hs (hl.moves.ends (fun u hu => ?_) hn) (by simp)⟩
    obtain rfl := List.mem_singleton.mp hu
    exact not_isAnalysis_of_input howner
  | tend launched aborted ht => exact .inl ⟨rfl, drops_tend hw ht⟩
  | stopAnalysis i analysisType => exact .inl ⟨rfl, drops_stopAnalysis hw i analysisType⟩
  | stopAllAnalysis i => exact .inl ⟨rfl, drops_stopAllAnalysis hw i⟩
  | restart env plan hspts => exact .inl ⟨rfl, drops_restart hw env hspts⟩
  | install env i new => exact .inl ⟨rfl, drops_install hw env i new⟩
  | stopInput i => exact .inl ⟨rfl, drops_stopInput hw i⟩
  | removeInput i he => exact .inl ⟨rfl, drops_removeInput he hw i⟩
  | insertInput info he hblank =>
    refine .inl ⟨rfl, drops_insert he rfl fun i info' hi => ?_⟩
    rcases HashMap.lookup_insert_eq_some.mp hi with ⟨_, rfl⟩ | ⟨_, hi⟩
    · exact .inr hblank.analysisTasks
    · exact .inl hi
  | insertInputs loaded he hblank =>
    refine .inl ⟨rfl, drops_insert he rfl fun i info' hi => ?_⟩
    rcases HashMap.lookup_extend_eq_some.mp hi with hi | ⟨_, hi⟩
    · exact .inr (hblank i info' hi).analysisTasks
    · exact .inl hi
  | receive =>
    exact .inl ⟨rfl, .of_eq (receive_streams w)
      (.of_eq (receive_live w) (nextUuid_receive w)) (by simp)⟩
  | apply => exact .inl ⟨rfl, drops_apply hw⟩

end Drops

/-! ## Ids -/

/-- The id that a call has drawn for an analysis, until it has made the entry. -/
def Stage.analysisId : Stage → Option ℕ
  | .idle => none
  | .drawn id | .subscribed _ id => some id
  | .spawned _ a => some a.id

/-- The task of the entry is one for it and of its type. -/
def AnalysisInfo.SpawnedFor (i : Int) (a : AnalysisInfo) : Prop :=
  ∃ timeout rx, a.taskHandle.spec = .analysis i a.id a.analysisType timeout rx

theorem AnalysisInfo.SpawnedFor.ownTask {i : Int} {a : AnalysisInfo} (h : a.SpawnedFor i) :
    a.OwnTask i := by
  obtain ⟨timeout, rx, hspec⟩ := h
  rw [AnalysisInfo.OwnTask, hspec]
  rfl

/-- No id is given twice: those of the entries and those of the calls are all different, and the
next one is new. -/
structure AnalysisIds (ks : List Stage) (w : World) : Prop where
  entries : ∀ i k a, w.Analysis i k a → a.id = k ∧ k < w.rt.nextUuid ∧ a.SpawnedFor i
  records : ∀ id ∈ ks.filterMap Stage.analysisId,
    id < w.rt.nextUuid ∧ ∀ i a, ¬ w.Analysis i id a
  spawned : ∀ i a, .spawned i a ∈ ks → a.SpawnedFor i
  distinct : (ks.filterMap Stage.analysisId).Nodup

section Ids

variable {edits : Prop} {w w' : World} {pre post ks : List Stage} {k k' : Stage}

theorem analysis_insertAnalysis {i j : Int} {id : ℕ} {a b : AnalysisInfo} :
    (insertAnalysis i a w).2.Analysis j id b ↔
      j = i ∧ id = a.id ∧ a = b ∧ i ∈ w.streams ∨ ¬ (j = i ∧ id = a.id) ∧ w.Analysis j id b := by
  unfold insertAnalysis
  cases hi : w.streams.lookup i with
  | none =>
    have hmem : i ∉ w.streams := AList.lookup_eq_none.mp hi
    have hne : ∀ {id b}, ¬ w.Analysis i id b := by
      rintro id b ⟨info, hinfo, _⟩
      rw [hi] at hinfo
      exact absurd hinfo (by simp)
    constructor
    · intro h
      exact .inr ⟨fun heq => hne (heq.1 ▸ h), h⟩
    · rintro (⟨_, _, _, h⟩ | ⟨_, h⟩)
      · exact absurd h hmem
      · exact h
  | some info =>
    have hmem : i ∈ w.streams := HashMap.mem_iff.mpr ⟨_, hi⟩
    rw [analysis_insert rfl]
    dsimp only
    rw [HashMap.lookup_insert_eq_some]
    constructor
    · rintro (⟨rfl, ⟨rfl, rfl⟩ | ⟨hid, h⟩⟩ | ⟨hj, h⟩)
      · exact .inl ⟨rfl, rfl, rfl, hmem⟩
      · exact .inr ⟨fun heq => hid heq.2, info, hi, h⟩
      · exact .inr ⟨fun heq => hj heq.1, h⟩
    · rintro (⟨rfl, rfl, rfl, _⟩ | ⟨hne, info', hj, h⟩)
      · exact .inl ⟨rfl, .inl ⟨rfl, rfl⟩⟩
      · by_cases hji : j = i
        · subst hji
          obtain rfl := Option.some.inj (hi.symm.trans hj)
          exact .inl ⟨rfl, .inr ⟨fun hid => hne ⟨rfl, hid⟩, h⟩⟩
        · exact .inr ⟨hji, info', hj, h⟩

theorem analysis_inserted {i : Int} {a : AnalysisInfo} (hi : i ∈ w.streams) :
    (insertAnalysis i a w).2.Analysis i a.id a :=
  analysis_insertAnalysis.mpr (.inl ⟨rfl, rfl, rfl, hi⟩)

theorem ids_split : (pre ++ k :: post).filterMap Stage.analysisId =
    pre.filterMap Stage.analysisId ++ (k.analysisId.toList ++
      post.filterMap Stage.analysisId) := by
  rw [List.filterMap_append, List.filterMap_cons]
  cases k.analysisId <;> rfl

theorem AnalysisIds.drops (h : AnalysisIds ks w) (hd : w.Drops edits w') : AnalysisIds ks w' := by
  refine ⟨fun i k a ha => ?_, fun id hid => ?_, h.spawned, h.distinct⟩
  · rw [hd.nextUuid]
    exact h.entries i k a (hd.analyses i k a ha)
  · rw [hd.nextUuid]
    obtain ⟨hlt, hnew⟩ := h.records id hid
    exact ⟨hlt, fun i a ha => hnew i a (hd.analyses i id a ha)⟩

theorem AnalysisIds.of_eq (h : AnalysisIds ks w) (hs : w'.streams = w.streams)
    (hn : w'.rt.nextUuid = w.rt.nextUuid) : AnalysisIds ks w' := by
  refine ⟨fun i k a ha => ?_, fun id hid => ?_, h.spawned, h.distinct⟩
  · rw [hn]
    exact h.entries i k a ((analysis_of_eq hs).mp ha)
  · rw [hn]
    obtain ⟨hlt, hnew⟩ := h.records id hid
    exact ⟨hlt, fun i a ha => hnew i a ((analysis_of_eq hs).mp ha)⟩

/-- A call goes on with the id that it has, or lets it go. -/
theorem AnalysisIds.advance (h : AnalysisIds (pre ++ k :: post) w)
    (hid : k'.analysisId = k.analysisId ∨ k'.analysisId = none)
    (hspawned : ∀ i a, k' = .spawned i a → a.SpawnedFor i) :
    AnalysisIds (pre ++ k' :: post) w := by
  have hsub : List.Sublist ((pre ++ k' :: post).filterMap Stage.analysisId)
      ((pre ++ k :: post).filterMap Stage.analysisId) := by
    rw [ids_split, ids_split]
    refine (List.Sublist.refl _).append (.append ?_ (.refl _))
    rcases hid with hid | hid
    · rw [hid]
    · rw [hid]
      exact List.nil_sublist _
  refine ⟨h.entries, fun id hmem => h.records id (hsub.subset hmem), fun i a hmem => ?_,
    h.distinct.sublist hsub⟩
  rcases List.mem_append.mp hmem with hmem | hmem
  · exact h.spawned i a (List.mem_append_left _ hmem)
  rcases List.mem_cons.mp hmem with heq | hmem
  · exact hspawned i a heq.symm
  · exact h.spawned i a (List.mem_append_right _ (List.mem_cons_of_mem _ hmem))

theorem AnalysisIds.draw (h : AnalysisIds (pre ++ .idle :: post) w) :
    AnalysisIds (pre ++ .drawn w.rt.nextUuid :: post) (newAnalysisId w).2 := by
  have hidle : (pre ++ .idle :: post).filterMap Stage.analysisId =
      pre.filterMap Stage.analysisId ++ post.filterMap Stage.analysisId := ids_split
  have hdrawn : (pre ++ .drawn w.rt.nextUuid :: post).filterMap Stage.analysisId =
      pre.filterMap Stage.analysisId ++ w.rt.nextUuid :: post.filterMap Stage.analysisId :=
    ids_split
  refine ⟨fun i k a ha => ?_, fun id hid => ?_, fun i a hmem => ?_, ?_⟩
  · obtain ⟨hid, hlt, hspawned⟩ := h.entries i k a ha
    exact ⟨hid, Nat.lt_succ_of_lt hlt, hspawned⟩
  · rw [hdrawn, List.mem_append, List.mem_cons, or_left_comm, ← List.mem_append, ← hidle] at hid
    rcases hid with rfl | hid
    · exact ⟨Nat.lt_succ_self _, fun i a ha => absurd (h.entries i _ a ha).2.1 (lt_irrefl _)⟩
    · obtain ⟨hlt, hnew⟩ := h.records id hid
      exact ⟨Nat.lt_succ_of_lt hlt, hnew⟩
  · refine h.spawned i a (List.mem_append.mpr ((List.mem_append.mp hmem).imp_right fun hmem => ?_))
    rcases List.mem_cons.mp hmem with heq | hmem
    · exact absurd heq (by simp)
    · exact List.mem_cons_of_mem _ hmem
  · rw [hdrawn, List.nodup_middle, List.nodup_cons, ← hidle]
    exact ⟨fun hid => absurd (h.records _ hid).1 (lt_irrefl _), h.distinct⟩

theorem AnalysisIds.insert {i : Int} {a : AnalysisInfo}
    (h : AnalysisIds (pre ++ .spawned i a :: post) w) :
    AnalysisIds (pre ++ .idle :: post) (insertAnalysis i a w).2 := by
  have hrest : AnalysisIds (pre ++ .idle :: post) w := h.advance (.inr rfl) (by simp)
  have hmem : a.id ∈ (pre ++ .spawned i a :: post).filterMap Stage.analysisId := by
    rw [ids_split]
    simp [Stage.analysisId]
  have hfresh : a.id ∉ (pre ++ .idle :: post).filterMap Stage.analysisId := by
    have hdistinct := h.distinct
    rw [ids_split] at hdistinct ⊢
    exact (List.nodup_cons.mp (List.nodup_middle.mp hdistinct)).1
  refine ⟨fun j k b hb => ?_, fun id hid => ?_, hrest.spawned, hrest.distinct⟩
  · rw [insertAnalysis_rt]
    rcases analysis_insertAnalysis.mp hb with ⟨rfl, rfl, rfl, _⟩ | ⟨_, hb⟩
    · exact ⟨rfl, (h.records _ hmem).1, h.spawned j a (by simp)⟩
    · exact h.entries j k b hb
  · rw [insertAnalysis_rt]
    obtain ⟨hlt, hnew⟩ := hrest.records id hid
    refine ⟨hlt, fun j b hb => ?_⟩
    rcases analysis_insertAnalysis.mp hb with ⟨_, rfl, _⟩ | ⟨_, hb⟩
    · exact hfresh hid
    · exact hnew j b hb

theorem AnalysisIds.start (h : AnalysisIds (pre ++ k :: post) w) (hs : StartStep k k' w w') :
    AnalysisIds (pre ++ k' :: post) w' := by
  cases hs with
  | draw => exact h.draw
  | refuse => exact h.advance (.inr rfl) (by simp)
  | subscribe i id => exact h.advance (.inl rfl) (by simp)
  | analyse i id analysisType timeoutMinutes timeout rx =>
    have hspawned :
        (launchAnalysis i id analysisType timeoutMinutes timeout rx w).1.SpawnedFor i :=
      ⟨timeout.map Prod.fst, rx, rfl⟩
    refine AnalysisIds.of_eq (h.advance (.inl rfl) ?_) rfl rfl
    rintro _ _ heq
    obtain ⟨rfl, rfl⟩ := Stage.spawned.inj heq
    exact hspawned
  | insert i a => exact h.insert

theorem AnalysisIds.update (h : AnalysisIds (pre ++ k :: post) w) (hu : Update edits k k' w w')
    (hw : w.Each InputInfo.Handles) : AnalysisIds (pre ++ k' :: post) w' := by
  rcases hu.drops hw with ⟨rfl, hd⟩ | hs
  · exact h.drops hd
  · exact h.start hs

theorem AnalysisIds.arrives (h : AnalysisIds ks w) : AnalysisIds (ks ++ [.idle]) w := by
  have hids : (ks ++ [Stage.idle]).filterMap Stage.analysisId = ks.filterMap Stage.analysisId := by
    simp [Stage.analysisId]
  refine ⟨h.entries, fun id hid => h.records id (hids ▸ hid), fun i a hmem => ?_,
    hids ▸ h.distinct⟩
  exact h.spawned i a (by simpa using hmem)

theorem TaskStep.nextUuid (h : TaskStep w w') : w'.rt.nextUuid = w.rt.nextUuid := by
  cases h <;> rfl

theorem analysisIds_boot (db : Database) : AnalysisIds [.idle] (World.boot db) :=
  ⟨fun _ _ _ ⟨_, hi, _⟩ => absurd hi (by simp [World.boot]),
    fun _ hid => absurd hid (by simp [Stage.analysisId]),
    fun _ _ hmem => absurd hmem (by simp), List.nodup_nil⟩

theorem analysisIds_maintained : Pool.Maintains (Update True) .idle GatewayCall TaskStep
    (fun w _ => w.Each InputInfo.Handles ∧ True) AnalysisIds where
  calls := fun _ hp => hp.updates.mono fun _ _ h => h.2
  arrives := fun _ _ h => h.arrives
  acts := fun _ _ _ _ _ _ h hu hc => h.update hu hc.1
  outside := fun _ _ _ h ho _ => h.of_eq ho.streams ho.nextUuid

end Ids

theorem Reachable.analysisIds {w : World} (h : Reachable w) : AnalysisIds [] w := by
  obtain ⟨env, db, threads, hruns⟩ := h
  have hhandles : ∀ c, Pool.Runs GatewayCall TaskStep (fun _ _ => True) (bootPool env db) c →
      c.shared.Each InputInfo.Handles := fun c hc => Reachable.handles ⟨env, db, c.threads, hc⟩
  obtain ⟨ks, _, hids⟩ := analysisIds_maintained.runs (tracked_bootPool env db)
    (analysisIds_boot db) (Pool.runs_with hruns hhandles)
  exact ⟨hids.entries, by simp, by simp, List.nodup_nil⟩

end StreamGateway
