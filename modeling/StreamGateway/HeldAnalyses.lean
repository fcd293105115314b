import StreamGateway.AnalysisTasks
import StreamGateway.StaleMessages

/-!
# Analyses that can be stopped

A start looks for an analysis of its type when it subscribes, and makes its entry later without
looking again. So two starts of a type can both succeed. As long as each entry is made while
there is none of its type, there is at most one of each, and every task of an analysis is in an
entry or about to be entered by the call that spawned it.
-/
namespace StreamGateway

open Prog

/-- No input has two entries of one type. -/
def World.OneOfEach (w : World) : Prop :=
  ∀ i k k' a a', w.Analysis i k a → w.Analysis i k' a' → a.analysisType = a'.analysisType → k = k'

/-- Some entry has the task. -/
def World.HasEntry (w : World) (t : Task) : Prop := ∃ i k a, w.Analysis i k a ∧ a.taskHandle = t

/-- At most one analysis of each type, and every live one can be stopped. -/
structure World.HoldsAnalyses (w : World) : Prop where
  oneOfEach : w.OneOfEach
  held : ∀ t ∈ w.rt.live, t.spec.isAnalysis = true → w.HasEntry t

/-- The same while calls are under way: a live analysis without an entry is one that a call has
spawned and enters before it ends. -/
structure Pool.HoldsAnalyses (p : Pool World) : Prop where
  oneOfEach : p.shared.OneOfEach
  held : ∃ ks, p.Tracked (Update False) .idle ks ∧
    ∀ t ∈ p.shared.rt.live, t.spec.isAnalysis = true →
      p.shared.HasEntry t ∨ ∃ i a, .spawned i a ∈ ks ∧ a.taskHandle = t
  ended : (∀ t ∈ p.threads, t.rest = .ret ()) → p.shared.HoldsAnalyses

/-- All operations but those that make and delete inputs, and the processor. -/
def AnalysisCall (p : Prog World Unit) : Prop :=
  (∃ env op, Operation.editsInputs op = false ∧ p = op.prog env) ∨ p = processMessage

/-- An entry is only made while the input has none of its type. -/
def World.EntersOnce (w w' : World) : Prop :=
  ∀ i a info, w' = (insertAnalysis i a w).2 → w.streams.lookup i = some info →
    a.id ∉ info.analysisTasks → info.runsAnalysis a.analysisType = false

/-- The input that an analysis is being started for. -/
def Stage.inputId : Stage → Option Int
  | .subscribed i _ | .spawned i _ => some i
  | _ => none

/-- The invariant, with the records of the calls. -/
structure EntriesHeld (ks : List Stage) (w : World) : Prop where
  ids : AnalysisIds ks w
  oneOfEach : w.OneOfEach
  held : ∀ t ∈ w.rt.live, t.spec.isAnalysis = true →
    w.HasEntry t ∨ ∃ i a, .spawned i a ∈ ks ∧ a.taskHandle = t
  inputs : ∀ k ∈ ks, ∀ i ∈ k.inputId, i ∈ w.streams

section Held

variable {w w' : World} {ks pre post : List Stage} {k k' : Stage}

theorem AnalysisCall.gatewayCall {p : Prog World Unit} (h : AnalysisCall p) : GatewayCall p :=
  h.imp_left fun ⟨env, op, _, hp⟩ => ⟨env, op, hp⟩

theorem AnalysisCall.updates {p : Prog World Unit} (h : AnalysisCall p) :
    Updates False p .idle := by
  rcases h with ⟨env, op, hop, rfl⟩ | rfl
  · exact op.updates env fun hedits => absurd hedits (by simp [hop])
  · exact updates_processMessage

theorem mem_replaced {x : Stage} (h : x ∈ pre ++ k :: post) (hne : x ≠ k) :
    x ∈ pre ++ k' :: post := by
  rcases List.mem_append.mp h with h | h
  · exact List.mem_append_left _ h
  rcases List.mem_cons.mp h with h | h
  · exact absurd h hne
  · exact List.mem_append_right _ (List.mem_cons_of_mem _ h)

theorem EntriesHeld.drops (h : EntriesHeld ks w) (hd : w.Drops False w') : EntriesHeld ks w' := by
  refine ⟨h.ids.drops hd, fun i k k' a a' ha ha' htype => ?_, fun t ht hta => ?_,
    fun k hk i hi => hd.inputs id i (h.inputs k hk i hi)⟩
  · exact h.oneOfEach i k k' a a' (hd.analyses i k a ha) (hd.analyses i k' a' ha') htype
  · refine (h.held t (hd.live t ht hta) hta).imp_left fun ⟨i, k, a, ha, hat⟩ => ?_
    refine ⟨i, k, a, ?_, hat⟩
    by_contra hgone
    exact hd.kept id i k a ha hgone (hat ▸ ht)

/-- A call goes on without a task, and nothing happens to entries and tasks. -/
theorem EntriesHeld.advance (h : EntriesHeld (pre ++ k :: post) w)
    (hids : AnalysisIds (pre ++ k' :: post) w') (hs : w'.streams = w.streams)
    (hl : w'.rt.live = w.rt.live) (hk : ∀ i a, k ≠ .spawned i a)
    (hinput : ∀ i ∈ k'.inputId, i ∈ w.streams) : EntriesHeld (pre ++ k' :: post) w' := by
  refine ⟨hids, fun i k k' a a' ha ha' => ?_, fun t ht hta => ?_, fun x hx i hi => ?_⟩
  · exact h.oneOfEach i k k' a a' ((analysis_of_eq hs).mp ha) ((analysis_of_eq hs).mp ha')
  · rcases h.held t (hl ▸ ht) hta with ⟨i, k, a, ha, hat⟩ | ⟨i, a, hmem, hat⟩
    · exact .inl ⟨i, k, a, (analysis_of_eq hs).mpr ha, hat⟩
    · exact .inr ⟨i, a, mem_replaced hmem (hk i a).symm, hat⟩
  · rw [hs]
    by_cases hx' : x = k'
    · exact hinput i (hx' ▸ hi)
    · exact h.inputs x (mem_replaced hx hx') i hi

theorem EntriesHeld.analyse {i : Int} {id : ℕ} (h : EntriesHeld (pre ++ .subscribed i id :: post) w)
    (analysisType : AnalysisType) (timeoutMinutes : Option UInt64) (timeout : Option (ℕ × ℕ))
    (rx : ChannelId) :
    EntriesHeld (pre ++
        .spawned i (launchAnalysis i id analysisType timeoutMinutes timeout rx w).1 :: post)
      (launchAnalysis i id analysisType timeoutMinutes timeout rx w).2 := by
  refine ⟨h.ids.start (.analyse i id analysisType timeoutMinutes timeout rx), h.oneOfEach,
    fun t ht hta => ?_, fun x hx j hj => ?_⟩
  · rcases List.mem_append.mp ht with ht | ht
    · refine (h.held t ht hta).imp_right fun ⟨j, a, hmem, hat⟩ => ⟨j, a, ?_, hat⟩
      exact mem_replaced hmem (by simp)
    · obtain rfl := List.mem_singleton.mp ht
      exact .inr ⟨i, _, List.mem_append_right _ List.mem_cons_self, rfl⟩
  · by_cases hx' : x = .spawned i
        (launchAnalysis i id analysisType timeoutMinutes timeout rx w).1
    · rw [hx'] at hj
      obtain rfl := Option.some.inj hj
      exact h.inputs (.subscribed i id) (List.mem_append_right _ List.mem_cons_self) i rfl
    · exact h.inputs x (mem_replaced hx hx') j hj

/-- The id of a call that is about to make its entry is in no entry. -/
theorem EntriesHeld.fresh {i : Int} {a : AnalysisInfo}
    (h : EntriesHeld (pre ++ .spawned i a :: post) w) (j : Int) (b : AnalysisInfo) :
    ¬ w.Analysis j a.id b :=
  (h.ids.records a.id (List.mem_filterMap.mpr
    ⟨.spawned i a, List.mem_append_right _ List.mem_cons_self, rfl⟩)).2 j b

/-- An entry that is made alone is the first of its type. -/
theorem EntriesHeld.newType {i : Int} {a : AnalysisInfo} {info : InputInfo}
    (h : EntriesHeld (pre ++ .spawned i a :: post) w) (hi : w.streams.lookup i = some info)
    (hc : w.EntersOnce (insertAnalysis i a w).2) (k : ℕ) (b : AnalysisInfo)
    (hb : w.Analysis i k b) : b.analysisType ≠ a.analysisType := by
  intro htype
  obtain ⟨info', hi', hb⟩ := hb
  obtain rfl := Option.some.inj (hi.symm.trans hi')
  have hkey : a.id ∉ info.analysisTasks := by
    intro hkey
    obtain ⟨c, hc⟩ := HashMap.mem_iff.mp hkey
    exact h.fresh i c ⟨info, hi, hc⟩
  have hruns : info.runsAnalysis a.analysisType = true :=
    List.any_eq_true.mpr ⟨(k, b), HashMap.mem_toPairs.mpr hb, by simp [htype]⟩
  rw [hc i a info rfl hi hkey] at hruns
  exact absurd hruns (by simp)

theorem EntriesHeld.insert {i : Int} {a : AnalysisInfo}
    (h : EntriesHeld (pre ++ .spawned i a :: post) w)
    (hc : w.EntersOnce (insertAnalysis i a w).2) :
    EntriesHeld (pre ++ .idle :: post) (insertAnalysis i a w).2 := by
  have hmem : Stage.spawned i a ∈ pre ++ .spawned i a :: post :=
    List.mem_append_right _ List.mem_cons_self
  have hinput := h.inputs _ hmem i rfl
  obtain ⟨info, hi⟩ := HashMap.mem_iff.mp hinput
  have hkeeps : ∀ j, j ∈ w.streams → j ∈ (insertAnalysis i a w).2.streams := by
    intro j hj
    rw [insertAnalysis_found hi]
    exact (AList.mem_insert _).mpr (.inr hj)
  refine ⟨h.ids.insert, fun j k k' b b' hb hb' htype => ?_, fun t ht hta => ?_,
    fun x hx j hj => ?_⟩
  · rcases analysis_insertAnalysis.mp hb with ⟨rfl, rfl, rfl, _⟩ | ⟨_, hold⟩
    · rcases analysis_insertAnalysis.mp hb' with ⟨_, rfl, _⟩ | ⟨_, hold'⟩
      · rfl
      · exact absurd htype.symm (h.newType hi hc k' b' hold')
    · rcases analysis_insertAnalysis.mp hb' with ⟨rfl, rfl, rfl, _⟩ | ⟨_, hold'⟩
      · exact absurd htype (h.newType hi hc k b hold)
      · exact h.oneOfEach j k k' b b' hold hold' htype
  · rw [insertAnalysis_rt] at ht
    rcases h.held t ht hta with ⟨j, k, b, hb, hbt⟩ | ⟨j, b, hb, hbt⟩
    · refine .inl ⟨j, k, b, analysis_insertAnalysis.mpr (.inr ⟨fun heq => ?_, hb⟩), hbt⟩
      obtain ⟨rfl, rfl⟩ := heq
      exact h.fresh j b hb
    · by_cases heq : Stage.spawned j b = .spawned i a
      · obtain ⟨rfl, rfl⟩ := Stage.spawned.inj heq
        exact .inl ⟨j, b.id, b, analysis_inserted hinput, hbt⟩
      · exact .inr ⟨j, b, mem_replaced hb heq, hbt⟩
  · by_cases hx' : x = .idle
    · rw [hx'] at hj
      exact absurd hj (by simp [Stage.inputId])
    · exact hkeeps j (h.inputs x (mem_replaced hx hx') j hj)

theorem EntriesHeld.update (h : EntriesHeld (pre ++ k :: post) w) (hu : Update False k k' w w')
    (hw : w.Each InputInfo.Handles) (hc : w.EntersOnce w') :
    EntriesHeld (pre ++ k' :: post) w' := by
  rcases hu.drops hw with ⟨rfl, hd⟩ | hs
  · exact h.drops hd
  have hids := h.ids.start hs
  cases hs with
  | draw => exact h.advance hids rfl rfl (by simp) (by simp [Stage.inputId])
  | refuse hearly => exact h.advance hids rfl rfl hearly (by simp [Stage.inputId])
  | subscribe i id analysisType rx hok =>
    refine h.advance hids rfl rfl (by simp) fun j hj => ?_
    obtain rfl := Option.some.inj hj
    unfold subscribeAnalysis at hok
    split at hok
    · exact absurd hok (by simp)
    · rename_i info hi
      exact HashMap.mem_iff.mpr ⟨_, hi⟩
  | analyse i id analysisType timeoutMinutes timeout rx =>
    exact h.analyse analysisType timeoutMinutes timeout rx
  | insert i a => exact h.insert hc

theorem EntriesHeld.task (h : EntriesHeld ks w) (hs : TaskStep w w') : EntriesHeld ks w' := by
  have hlive : ∀ t ∈ w'.rt.live, t ∈ w.rt.live := by
    cases hs with
    | send | tick => exact fun _ ht => ht
    | finish => exact fun _ ht => List.mem_of_mem_filter ht
  refine ⟨h.ids.of_eq hs.streams hs.nextUuid, fun i k k' a a' ha ha' => ?_, fun t ht hta => ?_, ?_⟩
  · exact h.oneOfEach i k k' a a' ((analysis_of_eq hs.streams).mp ha)
      ((analysis_of_eq hs.streams).mp ha')
  · exact (h.held t (hlive t ht) hta).imp_left fun ⟨i, k, a, ha, hat⟩ =>
      ⟨i, k, a, (analysis_of_eq hs.streams).mpr ha, hat⟩
  · rw [hs.streams]
    exact h.inputs

theorem EntriesHeld.arrives (h : EntriesHeld ks w) : EntriesHeld (ks ++ [.idle]) w := by
  refine ⟨h.ids.arrives, h.oneOfEach, fun t ht hta => ?_, fun x hx i hi => ?_⟩
  · exact (h.held t ht hta).imp_right fun ⟨i, a, hmem, hat⟩ =>
      ⟨i, a, List.mem_append_left _ hmem, hat⟩
  · rcases List.mem_append.mp hx with hx | hx
    · exact h.inputs x hx i hi
    · obtain rfl := List.mem_singleton.mp hx
      exact absurd hi (by simp [Stage.inputId])

theorem entriesHeld_maintained : Pool.Maintains (Update False) .idle AnalysisCall TaskStep
    (fun w w' => w.Each InputInfo.Handles ∧ w.EntersOnce w') EntriesHeld where
  calls := fun _ hp => hp.updates.mono fun _ _ h => h.2
  arrives := fun _ _ h => h.arrives
  acts := fun _ _ _ _ _ _ h hu hc => h.update hu hc.1 hc.2
  outside := fun _ _ _ h ho _ => h.task ho

/-- Records of calls that have ended are of no entries. -/
theorem EntriesHeld.holdsAnalyses {p : Pool World} (h : EntriesHeld ks p.shared)
    (ht : p.Tracked (Update False) .idle ks) : p.HoldsAnalyses := by
  refine ⟨h.oneOfEach, ⟨ks, ht, h.held⟩, fun hended => ⟨h.oneOfEach, fun t hlive hta => ?_⟩⟩
  refine (h.held t hlive hta).resolve_right ?_
  rintro ⟨i, a, hmem, _⟩
  exact absurd (ht.all_idle hended _ hmem) (by simp)

end Held

/-- From any state at rest in which analyses are held, they are held in all states of the runs in
which entries are made one at a time. -/
theorem analyses_held {env : Env} {db : Database} {w : World} {ended : List (Thread World)}
    {p : Pool World} (hboot : Pool.Runs GatewayCall TaskStep (fun _ _ => True) (bootPool env db)
      ⟨w, ended⟩) (hended : ∀ t ∈ ended, t.rest = .ret ()) (hw : w.HoldsAnalyses)
    (hruns : Pool.Runs AnalysisCall TaskStep World.EntersOnce ⟨w, ended⟩ p) :
    p.HoldsAnalyses := by
  have hhandles : ∀ c, Pool.Runs AnalysisCall TaskStep World.EntersOnce ⟨w, ended⟩ c →
      c.shared.Each InputInfo.Handles := fun c hc => Reachable.handles ⟨env, db, c.threads,
    hboot.trans (Pool.runs_any (Pool.runs_calls (fun _ hp => hp.gatewayCall) hc))⟩
  have hids := Reachable.analysisIds ⟨env, db, ended, hboot⟩
  have hidle : ∀ k ∈ List.replicate ended.length Stage.idle, k = .idle :=
    fun k hk => List.eq_of_mem_replicate hk
  have hnone : (List.replicate ended.length Stage.idle).filterMap Stage.analysisId = [] :=
    List.filterMap_eq_nil_iff.mpr fun k hk => by rw [hidle k hk]; rfl
  have hstart : EntriesHeld (List.replicate ended.length .idle) w := by
    refine ⟨⟨hids.entries, by simp [hnone], fun i a hmem => ?_, by simp [hnone]⟩, hw.oneOfEach,
      fun t ht hta => .inl (hw.held t ht hta), fun k hk i hi => ?_⟩
    · exact absurd (hidle _ hmem) (by simp)
    · rw [hidle k hk] at hi
      exact absurd hi (by simp [Stage.inputId])
  obtain ⟨ks, ht, h⟩ := entriesHeld_maintained.runs (Pool.tracked_ended hended) hstart
    (Pool.runs_with hruns hhandles)
  exact h.holdsAnalyses ht

/-! ## Two starts at a time -/

theorem runs_runningWorld : Pool.Runs GatewayCall TaskStep (fun _ _ => True)
    (bootPool localEnv emptyDatabase) ⟨runningWorld, [idle, idle]⟩ := by
  have htrue : ∀ s s' : World, (fun _ _ => true) s s' = true → True := fun _ _ _ => trivial
  exact runs_creation htrue rfl (.inl ⟨localEnv, _, rfl⟩) trivial rfl

theorem holdsAnalyses_runningWorld : runningWorld.HoldsAnalyses := by
  have hnone : ∀ e ∈ runningWorld.streams.toPairs, e.2.analysisTasks.toPairs.length = 0 := by
    decide +kernel
  have hlive : ∀ t ∈ runningWorld.rt.live, t.spec.isAnalysis = false := by decide +kernel
  refine ⟨fun i k _ a _ ⟨info, hi, ha⟩ => ?_, fun t ht hta => absurd hta (by simp [hlive t ht])⟩
  have hempty := List.eq_nil_of_length_eq_zero (hnone (i, info) (HashMap.mem_toPairs.mpr hi))
  exact absurd (HashMap.mem_toPairs.mpr ha) (by simp [hempty])

/-- Two calls of `start_analysis` that arrive together. -/
def startPool (first second : AnalysisType) : Pool World :=
  ⟨runningWorld, [idle, idle, ⟨(Operation.startAnalysis 1 first none).prog localEnv, none⟩,
    ⟨(Operation.startAnalysis 1 second none).prog localEnv, none⟩]⟩

/-- Both subscribe and spawn their tasks before one makes its entry. -/
def togetherSchedule : List ℕ := [2, 2, 2, 2, 2, 3, 3, 3, 3, 3, 2, 2, 2, 3, 3, 3]

theorem runs_startPool {C : World → World → Prop} (hC : C runningWorld runningWorld)
    (first second : AnalysisType) :
    Pool.Runs AnalysisCall TaskStep C ⟨runningWorld, [idle, idle]⟩ (startPool first second) := by
  have hcall : ∀ analysisType,
      AnalysisCall ((Operation.startAnalysis 1 analysisType none).prog localEnv) :=
    fun analysisType => .inl ⟨localEnv, _, rfl, rfl⟩
  exact .tail (.single ⟨.call (hcall first), hC⟩) ⟨.call (hcall second), hC⟩

/-- Each new entry is the only one of its type. -/
def entersOnce (w w' : World) : Bool :=
  w'.streams.toPairs.all fun e => e.2.analysisTasks.toPairs.all fun a =>
    (w.streams.lookup e.1).all fun info =>
      a.1 ∈ info.analysisTasks ∨ info.runsAnalysis a.2.analysisType = false

theorem entersOnce_of_check {w w' : World} (h : entersOnce w w' = true) : w.EntersOnce w' := by
  intro i a info hinsert hi hnew
  have hentry : w'.Analysis i a.id a := by
    rw [hinsert]
    exact analysis_inserted (HashMap.mem_iff.mpr ⟨_, hi⟩)
  obtain ⟨info', hi', ha⟩ := hentry
  have hinfo := List.all_eq_true.mp h (i, info') (HashMap.mem_toPairs.mpr hi')
  have hcheck := List.all_eq_true.mp hinfo (a.id, a) (HashMap.mem_toPairs.mpr ha)
  simp only [hi, Option.all_some, decide_eq_true_eq] at hcheck
  exact hcheck.resolve_left hnew

/-- An analysis of each type. -/
def bothTypesWorld : World :=
  (runningWorld.after ((Operation.startAnalysis 1 .mux none).prog localEnv)).after
    ((Operation.startAnalysis 1 .tr101 none).prog localEnv)

theorem analyses_held_together :
    (Pool.mk bothTypesWorld [idle, idle, idle, idle]).HoldsAnalyses := by
  have hcheck : ∀ w w' : World, entersOnce w w' = true → w.EntersOnce w' :=
    fun _ _ => entersOnce_of_check
  refine analyses_held runs_runningWorld (fun t ht => ?_) holdsAnalyses_runningWorld
    ((runs_startPool (hcheck _ _ (by decide +kernel)) .mux .tr101).trans
      (Pool.runs_of_advances hcheck togetherSchedule rfl))
  have : t = idle := by simpa using ht
  rw [this]
  rfl

/-- Two starts of one type that overlap both make their entries. -/
theorem startAnalysis_twice : ¬ ∀ env db w ended p,
    Pool.Runs GatewayCall TaskStep (fun _ _ => True) (bootPool env db) ⟨w, ended⟩ →
    (∀ t ∈ ended, t.rest = .ret ()) → w.HoldsAnalyses →
    Pool.Runs AnalysisCall TaskStep (fun _ _ => True) ⟨w, ended⟩ p → p.HoldsAnalyses := by
  intro h
  have hview : ((startPool .mux .mux).advances (fun _ _ => true) togetherSchedule).map (fun p =>
      (p.shared.streams.lookup 1).bind fun info => (info.analysisTasks.lookup 0).bind fun a =>
        (info.analysisTasks.lookup 1).map fun b => (a.analysisType, b.analysisType)) =
        some (some (.mux, .mux)) := by
    decide +kernel
  obtain ⟨p, hp, hview⟩ := Option.map_eq_some_iff.mp hview
  obtain ⟨info, hi, hview⟩ := Option.bind_eq_some_iff.mp hview
  obtain ⟨a, ha, hview⟩ := Option.bind_eq_some_iff.mp hview
  obtain ⟨b, hb, htypes⟩ := Option.map_eq_some_iff.mp hview
  obtain ⟨ha', hb'⟩ := Prod.mk.inj htypes
  have hruns := (runs_startPool (C := fun _ _ => True) trivial .mux .mux).trans
    (Pool.runs_of_advances (fun _ _ _ => trivial) togetherSchedule hp)
  have hended : ∀ t ∈ [idle, idle], t.rest = .ret () := by
    intro t ht
    have : t = idle := by simpa using ht
    rw [this]
    rfl
  have hheld := h localEnv emptyDatabase runningWorld [idle, idle] p runs_runningWorld hended
    holdsAnalyses_runningWorld hruns
  exact absurd (hheld.oneOfEach 1 0 1 a b ⟨info, hi, ha⟩ ⟨info, hi, hb⟩ (ha'.trans hb'.symm))
    (by decide)

end StreamGateway
