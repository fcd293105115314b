import StreamGateway.AnalysisTasks
import StreamGateway.OperationDeeds
import StreamGateway.OutputLosses
import StreamGateway.OutputRoundTrips
import StreamGateway.SourceChains

/-!
# Timed analyses over stops and starts

A stop keeps the types of the analyses and nothing else, and the next start restarts each type
without a timeout. So after any stops and starts an input runs an analysis of each of its types,
none of which expires.
-/
namespace StreamGateway

open Prog

/-- What happens to an input: it is stopped or started, with whatever result, and meanwhile the
processor and the tasks go on. Whether a start may succeed is `starts`. -/
inductive StopStart (i : Int) (starts : Prop) : World → World → Prop
  | stop {w w' : World} {r : Except String Unit} :
      (stopInput i).alone false w = some (r, false, w') → StopStart i starts w w'
  | start {env : Env} {w w' : World} : starts →
      (startInput env i).alone false w = some (.ok (), false, w') → StopStart i starts w w'
  | refused {env : Env} {w w' : World} {e : String} :
      (startInput env i).alone false w = some (.error e, false, w') → StopStart i starts w w'
  | meanwhile {w w' : World} : Meanwhile w w' → StopStart i starts w w'

/-- Any number of cycles, the last of which has just ended with a start. -/
def Restarts (i : Int) (w w' : World) : Prop :=
  ∃ env w₁ w₂ w₃, Relation.ReflTransGen (StopStart i True) w w₁ ∧
    (stopInput i).alone false w₁ = some (.ok (), false, w₂) ∧
    Relation.ReflTransGen (StopStart i False) w₂ w₃ ∧
    (startInput env i).alone false w₃ = some (.ok (), false, w')

/-- The analyses of the input, each of which is known by its type, are kept: a timed one is absent
or runs and does not expire later, and an untimed one runs untimed or is still to be restarted. -/
structure KeepsAnalyses (i : Int) (w w' : World) : Prop where
  timed : ∀ k a m, w.Analysis i k a → a.timeoutMinutes = some m → ∀ k' b, w'.Analysis i k' b →
    b.analysisType = a.analysisType → b.taskHandle ∈ w'.rt.live ∧
      ∃ e e', a.expiresAt = some e ∧ b.expiresAt = some e' ∧ e' ≤ e
  untimed : ∀ k a, w.Analysis i k a → a.timeoutMinutes = none →
    (∃ k' b, w'.Analysis i k' b ∧ b.analysisType = a.analysisType ∧ b.timeoutMinutes = none ∧
      b.taskHandle ∈ w'.rt.live) ∨
    ∃ info, w'.streams.lookup i = some info ∧ a.analysisType ∈ info.pausedAnalysis

/-! ## Starting again -/

/-- The next id is in no entry of the input. -/
def World.IdsBelow (w : World) (i : Int) : Prop := ∀ k a, w.Analysis i k a → k < w.rt.nextUuid

/-- The types run, and analyses that are new are untimed and live. -/
structure RestartsUntimed (i : Int) (types : List AnalysisType) (w w' : World) : Prop where
  input : ∃ info, w'.streams.lookup i = some info
  keeps : ∀ k a, w.Analysis i k a → w'.Analysis i k a
  runs : ∀ analysisType ∈ types, ∃ k a, w'.Analysis i k a ∧ a.analysisType = analysisType
  new : ∀ k a, w'.Analysis i k a → w.Analysis i k a ∨
    a.timeoutMinutes = none ∧ a.expiresAt = none ∧ a.taskHandle ∈ w'.rt.live
  live : ∀ t ∈ w.rt.live, t ∈ w'.rt.live
  below : w'.IdsBelow i

section Restarting

variable {env : Env} {w w' w'' : World} {i : Int} {info : InputInfo} {held : Bool}
  {types types' : List AnalysisType}

theorem RestartsUntimed.trans (h : RestartsUntimed i types w w')
    (h' : RestartsUntimed i types' w' w'') : RestartsUntimed i (types ++ types') w w'' := by
  refine ⟨h'.input, fun k a ha => h'.keeps k a (h.keeps k a ha), fun analysisType hmem => ?_,
    fun k a ha => ?_, fun t ht => h'.live t (h.live t ht), h'.below⟩
  · rcases List.mem_append.mp hmem with hmem | hmem
    · obtain ⟨k, a, ha, htype⟩ := h.runs analysisType hmem
      exact ⟨k, a, h'.keeps k a ha, htype⟩
    · exact h'.runs analysisType hmem
  · rcases h'.new k a ha with ha | hnew
    · exact (h.new k a ha).imp_right fun hnew => ⟨hnew.1, hnew.2.1, h'.live _ hnew.2.2⟩
    · exact .inr hnew

/-- The entry gets its new task. -/
theorem restartsUntimed_takePaused {input : InputInfo} {rt : Runtime}
    (hi : w.streams.lookup i = some info) (hbelow : w.IdsBelow i)
    (ha : input.analysisTasks = info.analysisTasks) (hl : ∀ t ∈ w.rt.live, t ∈ rt.live)
    (hn : rt.nextUuid = w.rt.nextUuid) : RestartsUntimed i [] w (takePaused w i input rt).2 := by
  have hsame : ∀ k a, (takePaused w i input rt).2.Analysis i k a ↔ w.Analysis i k a := by
    intro k a
    rw [analysis_insert rfl]
    dsimp only
    rw [ha]
    constructor
    · rintro (⟨_, hk⟩ | ⟨hne, _⟩)
      · exact ⟨info, hi, hk⟩
      · exact absurd rfl hne
    · rintro ⟨info', hi', hk⟩
      obtain rfl := Option.some.inj (hi.symm.trans hi')
      exact .inl ⟨rfl, hk⟩
  refine ⟨⟨_, AList.lookup_insert _⟩, fun k a => (hsame k a).mpr, by simp,
    fun k a ha => .inl ((hsame k a).mp ha), hl, fun k a ha => ?_⟩
  exact hn ▸ hbelow k a ((hsame k a).mp ha)

/-- The entry of a new analysis without a timeout. -/
theorem restartsUntimed_insertAnalysis {a : AnalysisInfo} {analysisType : AnalysisType}
    (hs : w'.streams = w.streams) (hi : i ∈ w.streams) (hbelow : w.IdsBelow i)
    (hid : a.id = w.rt.nextUuid) (hn : w'.rt.nextUuid = w.rt.nextUuid + 1)
    (htype : a.analysisType = analysisType) (htimeout : a.timeoutMinutes = none)
    (hexpires : a.expiresAt = none) (htask : a.taskHandle ∈ w'.rt.live)
    (hl : ∀ t ∈ w.rt.live, t ∈ w'.rt.live) :
    RestartsUntimed i [analysisType] w (insertAnalysis i a w').2 := by
  have hentry : (insertAnalysis i a w').2.Analysis i a.id a := analysis_inserted (hs ▸ hi)
  have ⟨info, hinput, _⟩ := hentry
  refine ⟨⟨info, hinput⟩, fun k b hb => ?_, fun analysisType hmem => ?_, fun k b hb => ?_,
    fun t ht => ?_, fun k b hb => ?_⟩
  · refine analysis_insertAnalysis.mpr (.inr ⟨fun heq => ?_, (analysis_of_eq hs).mpr hb⟩)
    have hlt := hbelow k b hb
    omega
  · obtain rfl := List.mem_singleton.mp hmem
    exact ⟨a.id, a, hentry, htype⟩
  · rcases analysis_insertAnalysis.mp hb with ⟨_, _, rfl, _⟩ | ⟨_, hb⟩
    · exact .inr ⟨htimeout, hexpires, by rwa [insertAnalysis_rt]⟩
    · exact .inl ((analysis_of_eq hs).mp hb)
  · rw [insertAnalysis_rt]
    exact hl t ht
  · rw [insertAnalysis_rt, hn]
    rcases analysis_insertAnalysis.mp hb with ⟨_, rfl, _, _⟩ | ⟨_, hb⟩
    · omega
    · have hlt := hbelow k b ((analysis_of_eq hs).mp hb)
      omega

/-- A start without a timeout runs the type, whether it is refused or not. -/
theorem restartsUntimed_startAnalysis {env : Env} {analysisType : AnalysisType}
    {r : Except String ℕ} (hi : w.streams.lookup i = some info) (hbelow : w.IdsBelow i)
    (h : (startAnalysis env i analysisType none).alone false w = some (r, held, w')) :
    held = false ∧ RestartsUntimed i [analysisType] w w' := by
  rcases alone_startAnalysis env i analysisType none w with
    ⟨⟨e, ha⟩, hruns⟩ | ⟨info', timeout, a, w₁, hi', _, htimeout, hlaunch, hs, ha⟩
  · obtain ⟨_, rfl, rfl⟩ : .error e = r ∧ false = held ∧ (newAnalysisId w).2 = w' := by
      simpa [ha] using h
    have hany : info.runsAnalysis analysisType = true :=
      (hruns info hi).resolve_right fun ⟨_, htimeout⟩ => absurd htimeout (by simp [analysisTimeout])
    obtain ⟨⟨k, b⟩, hb, htype⟩ := List.any_eq_true.mp hany
    refine ⟨rfl, ⟨info, hi⟩, fun _ _ h => h, fun analysisType' hmem => ?_, fun _ _ h => .inl h,
      fun _ h => h, fun k a ha => Nat.lt_succ_of_lt (hbelow k a ha)⟩
    obtain rfl := List.mem_singleton.mp hmem
    exact ⟨k, b, ⟨info, hi, HashMap.mem_toPairs.mp hb⟩, of_decide_eq_true htype⟩
  · obtain ⟨_, rfl, rfl⟩ : .ok a.id = r ∧ false = held ∧ (insertAnalysis i a w₁).2 = w' := by
      simpa [ha] using h
    obtain rfl := Except.ok.inj htimeout
    obtain ⟨rfl, rfl⟩ := Prod.mk.inj hlaunch
    exact ⟨rfl, restartsUntimed_insertAnalysis hs (HashMap.mem_iff.mpr ⟨_, hi⟩) hbelow rfl rfl rfl
      rfl rfl (List.mem_append_right _ List.mem_cons_self) fun t ht => List.mem_append_left _ ht⟩

theorem restartsUntimed_restartPaused {env : Env} {paused : List AnalysisType}
    (hi : w.streams.lookup i = some info) (hbelow : w.IdsBelow i)
    (h : (restartPaused env i paused).alone false w = some ((), held, w')) :
    held = false ∧ RestartsUntimed i paused w w' := by
  induction paused generalizing w info with
  | nil =>
    obtain ⟨_, rfl, rfl⟩ := alone_ret_eq_some.mp h
    exact ⟨rfl, ⟨info, hi⟩, fun _ _ h => h, by simp, fun _ _ h => .inl h, fun _ h => h, hbelow⟩
  | cons analysisType rest ih =>
    obtain ⟨_, _, w₁, hstart, hrest⟩ := alone_bind_eq_some.mp h
    obtain ⟨rfl, hfirst⟩ := restartsUntimed_startAnalysis hi hbelow hstart
    obtain ⟨info₁, hi₁⟩ := hfirst.input
    obtain ⟨rfl, hothers⟩ := ih hi₁ hfirst.below hrest
    exact ⟨rfl, hfirst.trans hothers⟩

/-- The entry has got a new task, and its stopped outputs are started. -/
theorem restartsUntimed_restarted (env : Env) (info₁ : InputInfo) (rt₁ : Runtime)
    (hi : w.streams.lookup i = some info) (hbelow : w.IdsBelow i)
    (ha : info₁.analysisTasks = info.analysisTasks) (hl : ∀ t ∈ w.rt.live, t ∈ rt₁.live)
    (hn : rt₁.nextUuid = w.rt.nextUuid) :
    RestartsUntimed i [] w (takePaused w i (restartStopped env info₁ rt₁).1
      (restartStopped env info₁ rt₁).2).2 := by
  obtain ⟨tasks, hts⟩ := restartStopped_started env info₁ rt₁
  refine restartsUntimed_takePaused hi hbelow ?_ (fun t ht => ?_)
    ((nextUuid_restartStopped env info₁ rt₁).trans hn)
  · rw [restartStopped_frame]
    exact ha
  · rw [hts.launches.live]
    exact List.mem_append_left _ (hl t ht)

theorem restartsUntimed_startBase (plan : StartPlan) {r : Except String Unit}
    (hi : w.streams.lookup plan.inputId = some info) (hbelow : w.IdsBelow plan.inputId)
    (hspts : plan.config.isSpts = false)
    (h : (startBase env plan).alone false w = some (r, held, w')) :
    r = .ok () ∧ RestartsUntimed plan.inputId info.pausedAnalysis w w' := by
  obtain ⟨spec, status, startedAt, _, _, _, hinput, hlaunch⟩ := recreateTask_spawns hspts info w.rt
  have ha : (recreateTask plan info w.rt).1.analysisTasks = info.analysisTasks := by rw [hinput]
  have hl : ∀ t ∈ w.rt.live, t ∈ (recreateTask plan info w.rt).2.live := by
    intro t ht
    rw [hlaunch.live]
    exact List.mem_append_left _ ht
  have hrestarted := restartsUntimed_restarted env _ _ hi hbelow ha hl
    (nextUuid_recreateTask plan info w.rt)
  rw [alone_startBase] at h
  unfold restartSection at h
  rw [hi] at h
  dsimp only at h
  split at h
  · rename_i hpaused
    obtain ⟨rfl, _, rfl⟩ : .ok () = r ∧ _ ∧ _ = w' := by simpa using h
    have hempty : info.pausedAnalysis = [] := by
      rw [← hpaused]
      dsimp only [takePaused]
      rw [restartStopped_pausedAnalysis, recreateTask_pausedAnalysis]
    rw [hempty]
    exact ⟨rfl, hrestarted⟩
  · exact absurd h (by simp)

theorem restartsUntimed_startSpts (plan : StartPlan) {sourceInputId : Int}
    {programNumber : UInt16} {fillWithNulls : Option Bool} {r : Except String Unit}
    (hi : w.streams.lookup plan.inputId = some info) (hbelow : w.IdsBelow plan.inputId)
    (hsource : (w.streams.lookup sourceInputId).any (fun src => src.status.isActive) = true)
    (h : (startSpts env plan sourceInputId programNumber fillWithNulls).alone false w =
      some (r, held, w')) : r = .ok () ∧ RestartsUntimed plan.inputId info.pausedAnalysis w w' := by
  obtain ⟨source, hsrc, hactive⟩ := (Option.any_eq_true _ _).mp hsource
  have hl : ∀ t ∈ w.rt.live, t ∈ (spawnSptsInput source plan.inputId programNumber
      (fillWithNulls.getD false) plan.name plan.stateTx w.rt).2.live :=
    fun t ht => List.mem_append_left _ ht
  rcases hspawn : spawnSptsInput source plan.inputId programNumber (fillWithNulls.getD false)
    plan.name plan.stateTx w.rt with ⟨new, rt₁⟩
  have hn : rt₁.nextUuid = w.rt.nextUuid :=
    congrArg (fun r => r.2.nextUuid) hspawn.symm
  rw [hspawn] at hl
  obtain ⟨rfl, held', hpaused⟩ := alone_startSpts_active plan hi hsrc hactive hspawn rfl h
  have hrestarted := restartsUntimed_restarted env { info with
    taskHandle := new.taskHandle
    packetTx := new.packetTx
    status := .listening
    startedAt := some rt₁.clock } rt₁ hi hbelow rfl hl hn
  obtain ⟨info', hi'⟩ := hrestarted.input
  rw [restartStopped_pausedAnalysis] at hpaused
  exact ⟨rfl, hrestarted.trans (restartsUntimed_restartPaused hi' hrestarted.below hpaused).2⟩

/-- A start refuses, or it takes the paused analyses and restarts each of them. -/
theorem startInput_restartsUntimed {r : Except String Unit} (hids : w.IdsMatch)
    (hbelow : w.IdsBelow i) (h : (startInput env i).alone false w = some (r, held, w')) :
    (∃ e, r = .error e) ∧ w' = w ∨ r = .ok () ∧ ∃ info, w.streams.lookup i = some info ∧
      RestartsUntimed i info.pausedAnalysis w w' := by
  rcases alone_startInput env i w with ⟨e, ha, _⟩ | ⟨info, stateTx, hi, _, ha⟩
  · rw [ha] at h
    obtain ⟨rfl, _, rfl⟩ : .error e = r ∧ _ ∧ w = w' := by simpa using h
    exact .inl ⟨⟨e, rfl⟩, rfl⟩
  rw [ha] at h
  obtain rfl : info.id = i := hids i info hi
  cases hc : info.config with
  | udp =>
    rw [hc] at h
    obtain ⟨rfl, hr⟩ :=
      restartsUntimed_startBase ⟨_, info.id, info.name, stateTx⟩ hi hbelow rfl h
    exact .inr ⟨rfl, info, hi, hr⟩
  | srt =>
    rw [hc] at h
    obtain ⟨rfl, hr⟩ :=
      restartsUntimed_startBase ⟨_, info.id, info.name, stateTx⟩ hi hbelow rfl h
    exact .inr ⟨rfl, info, hi, hr⟩
  | spts sourceInputId programNumber fillWithNulls name =>
    rw [hc] at h
    dsimp only at h
    by_cases hsource : (w.streams.lookup sourceInputId).any fun src => src.status.isActive
    · obtain ⟨rfl, hr⟩ :=
        restartsUntimed_startSpts ⟨_, info.id, info.name, stateTx⟩ hi hbelow hsource h
      exact .inr ⟨rfl, info, hi, hr⟩
    · rw [Bool.not_eq_true] at hsource
      obtain ⟨e, hrefused⟩ := alone_startSpts_refused ⟨_, info.id, info.name, stateTx⟩ hi hsource
      rw [hrefused] at h
      obtain ⟨rfl, _, rfl⟩ : .error e = r ∧ _ ∧ w = w' := by simpa using h
      exact .inl ⟨⟨e, rfl⟩, rfl⟩

end Restarting

/-! ## Cycles -/

/-- The input is stopped, and an analysis of the type is paused. -/
def World.Pauses (w : World) (i : Int) (analysisType : AnalysisType) : Prop :=
  ∃ info, w.streams.lookup i = some info ∧ info.analysisTasks = ∅ ∧
    analysisType ∈ info.pausedAnalysis

/-- The input runs an analysis of the type or has paused one. -/
def InputInfo.Remembers (info : InputInfo) (analysisType : AnalysisType) : Prop :=
  analysisType ∈ info.pausedAnalysis ∨
    ∃ k a, info.analysisTasks.lookup k = some a ∧ a.analysisType = analysisType

def World.Remembers (w : World) (i : Int) (analysisType : AnalysisType) : Prop :=
  ∃ info, w.streams.lookup i = some info ∧ info.Remembers analysisType

section Cycles

variable {env : Env} {starts : Prop} {w w' : World} {i : Int} {held : Bool}
  {analysisType : AnalysisType}

/-- A stop refuses, or pauses all that there is. -/
theorem stopInput_pauses {r : Except String Unit}
    (h : (stopInput i).alone false w = some (r, held, w')) :
    (∃ e, r = .error e) ∧ w' = w ∨
      r = .ok () ∧ (w.Remembers i analysisType → w'.Pauses i analysisType) := by
  obtain ⟨rfl, _, rfl⟩ : (stopInputSection i w).1 = r ∧ _ ∧ (stopInputSection i w).2 = w' := by
    simpa [stopInput] using h
  unfold stopInputSection
  cases hi : w.streams.lookup i with
  | none => exact .inl ⟨⟨_, rfl⟩, rfl⟩
  | some info =>
    dsimp only
    split
    · exact .inl ⟨⟨_, rfl⟩, rfl⟩
    refine .inr ⟨rfl, ?_⟩
    rintro ⟨info', hi', hremembers⟩
    obtain rfl := Option.some.inj (hi.symm.trans hi')
    refine ⟨_, AList.lookup_insert _, rfl, List.mem_append.mpr ?_⟩
    rcases hremembers with hpaused | ⟨k, a, ha, htype⟩
    · exact .inl hpaused
    · exact .inr (List.mem_map.mpr ⟨(k, a), HashMap.mem_toPairs.mpr ha, htype⟩)

theorem World.Pauses.remembers (h : w.Pauses i analysisType) : w.Remembers i analysisType := by
  obtain ⟨info, hi, _, hmem⟩ := h
  exact ⟨info, hi, .inl hmem⟩

/-- Messages and tasks leave the analyses alone. -/
theorem Meanwhile.analyses (h : Meanwhile w w') {info : InputInfo}
    (hi : w.streams.lookup i = some info) : ∃ info', w'.streams.lookup i = some info' ∧
      info'.analysisTasks = info.analysisTasks ∧ info'.pausedAnalysis = info.pausedAnalysis := by
  cases h with
  | task hstep => exact ⟨info, by rw [hstep.streams, hi], rfl, rfl⟩
  | message hr =>
    rcases processMessage_streams hr with hs | ⟨change, hs⟩
    · exact ⟨info, by rw [hs, hi], rfl, rfl⟩
    rw [hs]
    obtain ⟨info', hi', hinfo⟩ := applyChange_lookup change hi
    refine ⟨info', hi', ?_⟩
    rcases hinfo with rfl | ⟨_, _, _, rfl⟩ | ⟨_, _, _, _, _, _, rfl⟩ <;> exact ⟨rfl, rfl⟩

theorem processMessage_held (h : processMessage.alone false w = some ((), held, w')) :
    held = false := by
  unfold processMessage at h
  rw [alone_atomic_bind, alone_locked_bind] at h
  split at h
  · exact (alone_ret_eq_some.mp h).2.1.symm
  · rw [alone_atomic] at h
    exact (Prod.mk.inj (Prod.mk.inj (Option.some.inj h)).2).1.symm

theorem Rests.stopStart (hw : Rests w) (h : StopStart i starts w w') : Rests w' := by
  cases h with
  | stop hr => exact hw.call (.inl ⟨localEnv, .stopInput i, rfl⟩) (alone_ignore_of hr)
  | @start env _ _ _ hr => exact hw.call (.inl ⟨env, .startInput i, rfl⟩) (alone_ignore_of hr)
  | @refused env _ _ _ hr => exact hw.call (.inl ⟨env, .startInput i, rfl⟩) (alone_ignore_of hr)
  | meanwhile hm =>
    cases hm with
    | task hstep => exact hw.task hstep
    | message hr =>
      obtain rfl := processMessage_held hr
      exact hw.call (.inr rfl) hr

theorem Rests.restartsUntimed {r : Except String Unit} (hw : Rests w)
    (h : (startInput env i).alone false w = some (r, held, w')) :
    (∃ e, r = .error e) ∧ w' = w ∨ r = .ok () ∧ ∃ info, w.streams.lookup i = some info ∧
      RestartsUntimed i info.pausedAnalysis w w' :=
  startInput_restartsUntimed hw.reachable.idsMatch
    (fun k a ha => (hw.reachable.analysisIds.entries i k a ha).2.1) h

/-- The step lemma of any stops and starts. -/
theorem World.Remembers.stopStart (hw : w.Remembers i analysisType) (hrests : Rests w)
    (h : StopStart i starts w w') : w'.Remembers i analysisType := by
  cases h with
  | stop hr =>
    rcases stopInput_pauses hr with ⟨_, rfl⟩ | ⟨_, hpauses⟩
    · exact hw
    · exact (hpauses hw).remembers
  | start _ hr =>
    rcases hrests.restartsUntimed hr with ⟨⟨_, he⟩, _⟩ | ⟨_, info, hi, hu⟩
    · exact absurd he (by simp)
    obtain ⟨info₀, hi₀, hremembers⟩ := hw
    obtain rfl := Option.some.inj (hi.symm.trans hi₀)
    have hruns : ∃ k a, w'.Analysis i k a ∧ a.analysisType = analysisType := by
      rcases hremembers with hmem | ⟨k, a, ha, htype⟩
      · exact hu.runs analysisType hmem
      · exact ⟨k, a, hu.keeps k a ⟨info, hi, ha⟩, htype⟩
    obtain ⟨k, a, ⟨info', hi', ha⟩, htype⟩ := hruns
    exact ⟨info', hi', .inr ⟨k, a, ha, htype⟩⟩
  | refused hr =>
    rcases hrests.restartsUntimed hr with ⟨_, rfl⟩ | ⟨hok, _⟩
    · exact hw
    · exact absurd hok (by simp)
  | meanwhile hm =>
    obtain ⟨info, hi, hremembers⟩ := hw
    obtain ⟨info', hi', htasks, hpaused⟩ := hm.analyses hi
    exact ⟨info', hi', by rwa [InputInfo.Remembers, htasks, hpaused]⟩

/-- The step lemma of a stopped input. -/
theorem World.Pauses.stopStart (hw : w.Pauses i analysisType) (hrests : Rests w)
    (h : StopStart i False w w') : w'.Pauses i analysisType := by
  cases h with
  | stop hr =>
    rcases stopInput_pauses hr with ⟨_, rfl⟩ | ⟨_, hpauses⟩
    · exact hw
    · exact hpauses hw.remembers
  | start hstarts => exact absurd hstarts id
  | refused hr =>
    rcases hrests.restartsUntimed hr with ⟨_, rfl⟩ | ⟨hok, _⟩
    · exact hw
    · exact absurd hok (by simp)
  | meanwhile hm =>
    obtain ⟨info, hi, hnone, hmem⟩ := hw
    obtain ⟨info', hi', htasks, hpaused⟩ := hm.analyses hi
    exact ⟨info', hi', htasks.trans hnone, hpaused ▸ hmem⟩

theorem remembers_run (h : Relation.ReflTransGen (StopStart i starts) w w') (hrests : Rests w)
    (hw : w.Remembers i analysisType) : Rests w' ∧ w'.Remembers i analysisType := by
  induction h with
  | refl => exact ⟨hrests, hw⟩
  | tail _ hstep ih => exact ⟨ih.1.stopStart hstep, ih.2.stopStart ih.1 hstep⟩

theorem pauses_run (h : Relation.ReflTransGen (StopStart i False) w w') (hrests : Rests w)
    (hw : w.Pauses i analysisType) : Rests w' ∧ w'.Pauses i analysisType := by
  induction h with
  | refl => exact ⟨hrests, hw⟩
  | tail _ hstep ih => exact ⟨ih.1.stopStart hstep, ih.2.stopStart ih.1 hstep⟩

/-- After all cycles an analysis of the type runs, and it is untimed. -/
theorem Restarts.runsUntimed (h : Restarts i w w') (hrests : Rests w)
    (hw : w.Remembers i analysisType) : ∃ k a, w'.Analysis i k a ∧
      a.analysisType = analysisType ∧ a.timeoutMinutes = none ∧ a.expiresAt = none ∧
      a.taskHandle ∈ w'.rt.live := by
  obtain ⟨env, w₁, w₂, w₃, hcycles, hstop, hstopped, hstart⟩ := h
  obtain ⟨hrests₁, hremembers⟩ := remembers_run hcycles hrests hw
  have hpauses₂ : w₂.Pauses i analysisType := by
    rcases stopInput_pauses hstop with ⟨⟨_, he⟩, _⟩ | ⟨_, hpauses⟩
    · exact absurd he (by simp)
    · exact hpauses hremembers
  have hstep : StopStart i True w₁ w₂ := .stop hstop
  obtain ⟨hrests₃, info₃, hi₃, hnone, hmem⟩ :=
    pauses_run hstopped (hrests₁.stopStart hstep) hpauses₂
  rcases hrests₃.restartsUntimed hstart with ⟨⟨_, he⟩, _⟩ | ⟨_, info, hi, hu⟩
  · exact absurd he (by simp)
  obtain rfl := Option.some.inj (hi.symm.trans hi₃)
  obtain ⟨k, a, ha, htype⟩ := hu.runs analysisType hmem
  refine ⟨k, a, ha, htype, (hu.new k a ha).resolve_left ?_⟩
  -- the stopped input had no entries
  rintro ⟨info', hi', hk⟩
  obtain rfl := Option.some.inj (hi.symm.trans hi')
  rw [hnone] at hk
  exact absurd hk (by simp)

theorem World.Analysis.remembers {k : ℕ} {a : AnalysisInfo} (h : w.Analysis i k a) :
    w.Remembers i a.analysisType := by
  obtain ⟨info, hi, hk⟩ := h
  exact ⟨info, hi, .inr ⟨k, a, hk, rfl⟩⟩

/-- A timed analysis is not kept. -/
theorem Restarts.loses {k : ℕ} {a : AnalysisInfo} {minutes : UInt64} (h : Restarts i w w')
    (hrests : Rests w) (ha : w.Analysis i k a) (hm : a.timeoutMinutes = some minutes) :
    ¬ KeepsAnalyses i w w' := by
  intro hkeeps
  obtain ⟨k', b, hb, htype, _, hnever, _⟩ := h.runsUntimed hrests ha.remembers
  obtain ⟨_, _, e', _, he', _⟩ := hkeeps.timed k a minutes ha hm k' b hb htype
  rw [hnever] at he'
  exact absurd he' (by simp)

/-- Stops and starts keep the analyses of an input exactly when none of them is timed. -/
theorem restarts_keep_iff (hrests : Rests w) (h : Restarts i w w') :
    KeepsAnalyses i w w' ↔ ∀ k a, w.Analysis i k a → a.timeoutMinutes = none := by
  constructor
  · intro hkeeps k a ha
    rw [Option.eq_none_iff_forall_ne_some]
    intro minutes hm
    exact h.loses hrests ha hm hkeeps
  · intro hnone
    refine ⟨fun k a m ha hm => ?_, fun k a ha _ => ?_⟩
    · rw [hnone k a ha] at hm
      exact absurd hm (by simp)
    · obtain ⟨k', b, hb, htype, huntimed, _, hlive⟩ := h.runsUntimed hrests ha.remembers
      exact .inl ⟨k', b, hb, htype, huntimed, hlive⟩

end Cycles

/-- A program filter with an analysis. -/
def analysedFilter (timeoutMinutes : Option UInt64) : World :=
  (runningWorld.after ((Operation.createInput (filterRequest 1)).prog localEnv)).after
    ((Operation.startAnalysis 2 .mux timeoutMinutes).prog localEnv)

/-- It has been stopped. -/
def stoppedFilter (timeoutMinutes : Option UInt64) : World :=
  (analysedFilter timeoutMinutes).after (stopInput 2).ignore

/-- It has been started again. -/
def restartedFilter (timeoutMinutes : Option UInt64) : World :=
  (stoppedFilter timeoutMinutes).after (startInput localEnv 2).ignore

/-- The stop and the start succeed. -/
def restartSucceeds (timeoutMinutes : Option UInt64) : Bool :=
  ((stopInput 2).alone false (analysedFilter timeoutMinutes)).any (fun r => Except.isOk r.1) &&
    ((startInput localEnv 2).alone false (stoppedFilter timeoutMinutes)).any
      fun r => Except.isOk r.1

theorem restarts_of_succeeds {timeoutMinutes : Option UInt64}
    (h : restartSucceeds timeoutMinutes = true) :
    Restarts 2 (analysedFilter timeoutMinutes) (restartedFilter timeoutMinutes) := by
  obtain ⟨hstop, hstart⟩ := Bool.and_eq_true_iff.mp h
  obtain ⟨r, held, hstop, hok⟩ := alone_eq_after hstop
  obtain ⟨r', held', hstart, hok'⟩ := alone_eq_after hstart
  obtain rfl : false = held := congrArg (fun r => (r.map fun r => r.2.1).getD held) hstop
  obtain rfl := alone_startInput_held hstart
  rcases r with _ | _
  · exact absurd hok (by simp [Except.isOk, Except.toBool])
  rcases r' with _ | _
  · exact absurd hok' (by simp [Except.isOk, Except.toBool])
  exact ⟨localEnv, _, _, _, .refl, hstop, .refl, hstart⟩

theorem rests_analysedFilter {timeoutMinutes : Option UInt64}
    (h : (((Operation.startAnalysis 2 .mux timeoutMinutes).prog localEnv).alone false
      (runningWorld.after ((Operation.createInput (filterRequest 1)).prog localEnv))).map
        (fun r => r.2.1) = some false) : Rests (analysedFilter timeoutMinutes) :=
  (rests_runningWorld.after (.createInput (filterRequest 1)) (by decide +kernel)).after
    (.startAnalysis 2 .mux timeoutMinutes) h

/-- An untimed analysis of a program filter runs again. -/
theorem restarts_keep_untimed : KeepsAnalyses 2 (analysedFilter none) (restartedFilter none) := by
  refine (restarts_keep_iff (rests_analysedFilter (by decide +kernel))
    (restarts_of_succeeds (by decide +kernel))).mpr fun k a ⟨info, hi, ha⟩ => ?_
  have huntimed : ∀ e ∈ (analysedFilter none).streams.toPairs,
      ∀ a ∈ e.2.analysisTasks.toPairs, a.2.timeoutMinutes = none := by
    decide +kernel
  exact huntimed (2, info) (HashMap.mem_toPairs.mpr hi) (k, a) (HashMap.mem_toPairs.mpr ha)

/-- One with a timeout runs again too, without a timeout. -/
theorem restarts_drop_timeout : ¬ ∀ i info w w', Rests w → w.streams.lookup i = some info →
    info.config.isSpts = true → Restarts i w w' → KeepsAnalyses i w w' := by
  intro h
  have hview : ((analysedFilter (some 1)).streams.lookup 2).any (fun info =>
      info.config.isSpts && info.analysisTasks.toPairs.any fun a =>
        decide (a.2.timeoutMinutes = some 1)) = true := by
    decide +kernel
  obtain ⟨info, hi, hview⟩ := (Option.any_eq_true _ _).mp hview
  obtain ⟨hspts, hview⟩ := Bool.and_eq_true_iff.mp hview
  obtain ⟨⟨k, a⟩, ha, htimed⟩ := List.any_eq_true.mp hview
  have hrests : Rests (analysedFilter (some 1)) := rests_analysedFilter (by decide +kernel)
  have hrestarts : Restarts 2 (analysedFilter (some 1)) (restartedFilter (some 1)) :=
    restarts_of_succeeds (by decide +kernel)
  exact hrestarts.loses hrests ⟨info, hi, HashMap.mem_toPairs.mp ha⟩ (of_decide_eq_true htimed)
    (h 2 info _ _ hrests hi hspts hrestarts)

end StreamGateway
