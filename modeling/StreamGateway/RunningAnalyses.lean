import StreamGateway.AnalysisTasks
import StreamGateway.OutputLosses
import StreamGateway.StaleMessages
import StreamGateway.Subscriptions

/-!
# Analyses that run

Only calls write to `analysis_tasks`, and the tasks of analyses do not report their end. So all
entries are those of running tasks in the runs in which no task with an entry returns by itself,
and no task returns before its entry is made.
-/
namespace StreamGateway

open Prog

/-- A `SystemTime` holds the time at which a timeout that begins now is over. -/
def World.Expires (w : World) (minutes : UInt64) : Prop :=
  w.rt.clock + minutes.toNat * 60 * 1000 < 0x8000000000000000 * 1000

/-- The entries are those of live tasks. So an analysis that is shown runs, and an analysis of a
type of which no task runs can be started, with any timeout whose end there is a time for. -/
structure World.AnalysesRun (w : World) : Prop where
  entries : ∀ i k a, w.Analysis i k a → a.taskHandle ∈ w.rt.live
  active : ∀ i analyses, getActiveAnalyses i w = .ok analyses → ∀ x ∈ analyses,
    ∃ t ∈ w.rt.live, t.spec.owner = .analysis i x.1
  restarts : ∀ env i analysisType timeoutMinutes, i ∈ w.streams →
    (∀ t ∈ w.rt.live, ∀ id timeout rx, t.spec ≠ .analysis i id analysisType timeout rx) →
    (∀ minutes ∈ timeoutMinutes, w.Expires minutes) →
    ∃ id w', (startAnalysis env i analysisType timeoutMinutes).alone false w =
      some (.ok id, false, w')

/-- No task with an entry returns by itself, and the entries that are made are those of tasks
that have not returned. -/
structure World.NoneReturns (w w' : World) : Prop where
  returns : ∀ t ∈ w.rt.live, w' = w.finish t → ∀ i k a, w.Analysis i k a → a.taskHandle ≠ t
  entries : ∀ i a info, w' = (insertAnalysis i a w).2 → w.streams.lookup i = some info →
    a.id ∉ info.analysisTasks → a.taskHandle ∈ w.rt.live

/-! ## Timeouts -/

/-- A timeout that is over at a time that there is does not panic, with or without checks. -/
theorem analysisTimeout_ok {w : World} {timeoutMinutes : Option UInt64} (overflowChecks : Bool)
    (h : ∀ minutes ∈ timeoutMinutes, w.Expires minutes) (e : String) :
    analysisTimeout overflowChecks w.rt.clock timeoutMinutes ≠ .error e := by
  cases timeoutMinutes with
  | none => simp [analysisTimeout]
  | some minutes =>
    have hexpires : w.rt.clock + minutes.toNat * 60 * 1000 < 0x8000000000000000 * 1000 :=
      h minutes rfl
    have hsmall : minutes.toNat * 60 < UInt64.size := by unfold UInt64.size; omega
    have hproduct : (minutes * 60).toNat = minutes.toNat * 60 := by
      rw [UInt64.toNat_mul]
      exact Nat.mod_eq_of_lt hsmall
    have hduration : minutesDuration overflowChecks minutes = .ok (minutes.toNat * 60 * 1000) := by
      rw [minutesDuration, if_neg (fun hover => absurd hover.2 (by omega)), hproduct]
    have hexpiry : expiryTime w.rt.clock (minutes.toNat * 60 * 1000) =
        .ok (w.rt.clock + minutes.toNat * 60 * 1000) := by
      rw [expiryTime, if_pos hexpires]
    dsimp only [analysisTimeout]
    rw [hduration]
    dsimp only [Bind.bind, Except.bind]
    rw [hexpiry]
    simp [pure, Except.pure]

section Running

variable {w w' : World} {edits : Prop} {ks pre post : List Stage} {k k' : Stage}

/-- The ids and types of the analyses are right, and the tasks of the entries are live. -/
structure EntriesRun (ks : List Stage) (w : World) : Prop where
  ids : AnalysisIds ks w
  live : ∀ i k a, w.Analysis i k a → a.taskHandle ∈ w.rt.live

/-- Two entries have different tasks. -/
theorem AnalysisIds.injective (h : AnalysisIds ks w) {i i' : Int} {k k' : ℕ} {a a' : AnalysisInfo}
    (ha : w.Analysis i k a) (ha' : w.Analysis i' k' a') (ht : a.taskHandle = a'.taskHandle) :
    i = i' ∧ k = k' ∧ a = a' := by
  obtain ⟨rfl, _, hspawned⟩ := h.entries i k a ha
  obtain ⟨rfl, _, hspawned'⟩ := h.entries i' k' a' ha'
  have hown : a.taskHandle.spec.owner = .analysis i a.id := hspawned.ownTask
  have hown' : a'.taskHandle.spec.owner = .analysis i' a'.id := hspawned'.ownTask
  have howner := hown.symm.trans (ht ▸ hown')
  obtain ⟨rfl, hid⟩ := Owner.analysis.inj howner
  obtain ⟨info, hi, hk⟩ := ha
  obtain ⟨info', hi', hk'⟩ := ha'
  obtain rfl := Option.some.inj (hi.symm.trans hi')
  rw [hid, hk'] at hk
  exact ⟨rfl, hid, (Option.some.inj hk).symm⟩

theorem EntriesRun.drops (h : EntriesRun ks w) (hd : w.Drops edits w') : EntriesRun ks w' := by
  refine ⟨h.ids.drops hd, fun i k a ha => ?_⟩
  have hbefore := hd.analyses i k a ha
  by_contra hdead
  obtain ⟨i', k', a', ha', ht, hgone⟩ := hd.ends a.taskHandle (h.live i k a hbefore)
    ((h.ids.entries i k a hbefore).2.2.ownTask.isAnalysis) hdead
  obtain ⟨rfl, rfl, rfl⟩ := h.ids.injective hbefore ha' ht.symm
  exact hgone ha

theorem EntriesRun.update (h : EntriesRun (pre ++ k :: post) w) (hu : Update edits k k' w w')
    (hw : w.Each InputInfo.Handles) (hc : w.NoneReturns w') :
    EntriesRun (pre ++ k' :: post) w' := by
  rcases hu.drops hw with ⟨rfl, hd⟩ | hs
  · exact h.drops hd
  refine ⟨h.ids.start hs, ?_⟩
  cases hs with
  | draw | refuse | subscribe => exact h.live
  | analyse => exact fun i k a ha => List.mem_append_left _ (h.live i k a ha)
  | insert i a =>
    intro j id b hb
    rw [insertAnalysis_rt]
    rcases analysis_insertAnalysis.mp hb with ⟨rfl, rfl, rfl, hmem⟩ | ⟨_, hb⟩
    · obtain ⟨info, hi⟩ := HashMap.mem_iff.mp hmem
      -- the id is that of a call, so it is in no entry
      refine hc.entries j a info rfl hi fun hkey => ?_
      obtain ⟨b, hb⟩ := HashMap.mem_iff.mp hkey
      exact (h.ids.records a.id (by rw [ids_split]; simp [Stage.analysisId])).2 j b ⟨info, hi, hb⟩
    · exact h.live j id b hb

theorem EntriesRun.task (h : EntriesRun ks w) (hs : TaskStep w w') (hc : w.NoneReturns w') :
    EntriesRun ks w' := by
  refine ⟨h.ids.of_eq hs.streams hs.nextUuid, fun i k a ha => ?_⟩
  have hbefore := (analysis_of_eq hs.streams).mp ha
  have hlive := h.live i k a hbefore
  cases hs with
  | send | tick => exact hlive
  | @finish t =>
    have hne : a.taskHandle ≠ t := fun heq => hc.returns t (heq ▸ hlive) rfl i k a hbefore heq
    exact List.mem_filter.mpr ⟨hlive, by simpa using hne⟩

theorem EntriesRun.run (h : EntriesRun ks w) : w.AnalysesRun := by
  refine ⟨h.live, fun i analyses hactive x hx => ?_,
    fun env i analysisType timeoutMinutes hmem hnone hexpires => ?_⟩
  · unfold getActiveAnalyses at hactive
    split at hactive
    · exact absurd hactive (by simp)
    rename_i info hi
    obtain rfl := Except.ok.inj hactive
    obtain ⟨⟨k, a⟩, ha, rfl⟩ := List.mem_map.mp hx
    have hentry : w.Analysis i k a := ⟨info, hi, HashMap.mem_toPairs.mp ha⟩
    obtain ⟨rfl, _, hspawned⟩ := h.ids.entries i k a hentry
    exact ⟨a.taskHandle, h.live i _ a hentry, hspawned.ownTask⟩
  · obtain ⟨info, hi⟩ := HashMap.mem_iff.mp hmem
    rcases alone_startAnalysis env i analysisType timeoutMinutes w with
      ⟨_, hruns⟩ | ⟨_, _, a, w₁, _, _, _, _, _, ha⟩
    · have hany : info.runsAnalysis analysisType = true := (hruns info hi).resolve_right
        fun ⟨e, htimeout⟩ => analysisTimeout_ok env.overflowChecks hexpires e htimeout
      obtain ⟨⟨k, a⟩, ha, htype⟩ := List.any_eq_true.mp hany
      have hentry : w.Analysis i k a := ⟨info, hi, HashMap.mem_toPairs.mp ha⟩
      obtain ⟨timeout, rx, hspec⟩ := (h.ids.entries i k a hentry).2.2
      rw [of_decide_eq_true htype] at hspec
      exact absurd hspec (hnone a.taskHandle (h.live i k a hentry) _ timeout rx)
    · exact ⟨a.id, _, ha⟩

theorem entriesRun_maintained : Pool.Maintains (Update True) .idle GatewayCall TaskStep
    (fun w w' => w.Each InputInfo.Handles ∧ w.NoneReturns w') EntriesRun where
  calls := fun _ hp => hp.updates.mono fun _ _ h => h.2
  arrives := fun _ _ h => ⟨h.ids.arrives, h.live⟩
  acts := fun _ _ _ _ _ _ h hu hc => h.update hu hc.1 hc.2
  outside := fun _ _ _ h ho hc => h.task ho hc.2

end Running

/-- As long as no analysis returns by itself, the entries are those of running analyses. -/
theorem analyses_run {env : Env} {db : Database} {w : World} {threads : List (Thread World)}
    (hruns : Pool.Runs GatewayCall TaskStep World.NoneReturns (bootPool env db) ⟨w, threads⟩) :
    w.AnalysesRun := by
  have hhandles : ∀ c, Pool.Runs GatewayCall TaskStep World.NoneReturns (bootPool env db) c →
      c.shared.Each InputInfo.Handles := fun c hc =>
    Reachable.handles ⟨env, db, c.threads, Pool.runs_any hc⟩
  have hboot : EntriesRun [.idle] (World.boot db) :=
    ⟨analysisIds_boot db, fun _ _ _ ⟨_, hi, _⟩ => absurd hi (by simp [World.boot])⟩
  obtain ⟨ks, _, h⟩ := entriesRun_maintained.runs (tracked_bootPool env db) hboot
    (Pool.runs_with hruns hhandles)
  exact h.run

/-! ## A timed analysis -/

/-- No task ends, and the tasks of all entries afterwards were live before. -/
def noneReturns (w w' : World) : Bool :=
  (∀ t ∈ w.rt.live, t ∈ w'.rt.live) ∧ w'.streams.toPairs.all fun e =>
    e.2.analysisTasks.toPairs.all fun a => a.2.taskHandle ∈ w.rt.live

theorem noneReturns_of_check {w w' : World} (h : noneReturns w w' = true) : w.NoneReturns w' := by
  obtain ⟨hlive, hentries⟩ := of_decide_eq_true h
  refine ⟨fun t ht hfinish => ?_, fun i a info hinsert hi _ => ?_⟩
  · have hends := hlive t ht
    rw [hfinish] at hends
    exact absurd rfl (of_decide_eq_true (List.mem_filter.mp hends).2)
  · have hentry : w'.Analysis i a.id a := by
      rw [hinsert]
      exact analysis_inserted (HashMap.mem_iff.mpr ⟨_, hi⟩)
    obtain ⟨info', hi', ha⟩ := hentry
    have hinfo := List.all_eq_true.mp hentries (i, info') (HashMap.mem_toPairs.mpr hi')
    exact of_decide_eq_true
      (List.all_eq_true.mp hinfo (a.id, a) (HashMap.mem_toPairs.mpr ha))

/-- A call of `start_analysis` with a timeout of one minute. -/
def timedCall : Operation := .startAnalysis 1 .mux (some 1)

def timedWorld : World := runningWorld.after (timedCall.prog localEnv)

theorem analyses_run_timed : timedWorld.AnalysesRun := by
  have hcheck : ∀ w w' : World, noneReturns w w' = true → w.NoneReturns w' :=
    fun _ _ => noneReturns_of_check
  have hstart : Pool.Step GatewayCall TaskStep ⟨runningWorld, [idle, idle]⟩
      ⟨runningWorld, [idle, idle, ⟨timedCall.prog localEnv, none⟩]⟩ :=
    .call (.inl ⟨localEnv, _, rfl⟩)
  have hcreated : Pool.Runs GatewayCall TaskStep World.NoneReturns
      (bootPool localEnv emptyDatabase) ⟨runningWorld, [idle, idle]⟩ :=
    runs_creation hcheck rfl (.inl ⟨localEnv, _, rfl⟩) (hcheck _ _ (by decide +kernel)) rfl
  exact analyses_run ((hcreated.tail ⟨hstart, hcheck _ _ (by decide +kernel)⟩).trans
    (Pool.runs_of_advances hcheck [2, 2, 2, 2, 2, 2, 2, 2] rfl))

/-- The task of that analysis. -/
def timedTask : Task := ⟨1, .analysis 1 0 .mux (some 60000) 0⟩

/-- The minute is over, and the task has returned. -/
def timedOutWorld : World :=
  World.finish { timedWorld with rt := { timedWorld.rt with clock := 60000 } } timedTask

/-- The entry of an analysis that has timed out stays. -/
theorem timeout_leaves_entry : ¬ ∀ w, Reachable w → w.AnalysesRun := by
  intro h
  have hrests : Rests timedWorld := rests_runningWorld.after timedCall (by decide +kernel)
  have hlater : Rests { timedWorld with rt := { timedWorld.rt with clock := 60000 } } :=
    hrests.task (.tick (by decide +kernel))
  have hover : Rests timedOutWorld := hlater.task (.finish (by decide +kernel))
  have hview : ((timedOutWorld.streams.lookup 1).bind fun info =>
      (info.analysisTasks.lookup 0).map fun a => decide (a.taskHandle ∈ timedOutWorld.rt.live)) =
        some false := by
    decide +kernel
  obtain ⟨info, hi, hview⟩ := Option.bind_eq_some_iff.mp hview
  obtain ⟨a, ha, hdead⟩ := Option.map_eq_some_iff.mp hview
  exact absurd ((h timedOutWorld hover.reachable).entries 1 0 a ⟨info, hi, ha⟩)
    (of_decide_eq_false hdead)

end StreamGateway
