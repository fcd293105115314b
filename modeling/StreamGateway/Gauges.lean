import StreamGateway.OperationDeeds
import StreamGateway.Totals
import Mathlib.Algebra.Group.Prod

/-!
# Gauges

Three gauges go up and down with the reports. Each is to show how much of something there is in
memory: how many inputs have a task, how many outputs are running, and how many inputs are
connected. The balance is what the gauges show too much. A deed changes it by its drift, which
can be told from the state before.
-/
namespace StreamGateway

open Prog

/-- `ACTIVE_INPUTS`, `ACTIVE_OUTPUTS`, and `ACTIVE_CONNECTIONS` for inputs under all labels. -/
abbrev Gauges := ℤ × ℤ × ℤ

def Metric.moves : Metric → Gauges
  | incrementActiveInputs => (1, 0, 0)
  | decrementActiveInputs => (-1, 0, 0)
  | incrementActiveOutputs => (0, 1, 0)
  | decrementActiveOutputs => (0, -1, 0)
  | updateActiveConnections _ _ _ direction connected =>
    if direction = "input" then (0, 0, if connected then 1 else -1) else 0
  | recordConnectionEvent .. | recordConnectionDuration .. => 0

def readings (ms : List Metric) : Gauges := (ms.map Metric.moves).sum

@[simp] theorem readings_nil : readings [] = 0 := rfl

@[simp] theorem readings_cons (m : Metric) (ms : List Metric) :
    readings (m :: ms) = m.moves + readings ms := by
  simp [readings]

@[simp] theorem readings_append (ms ms' : List Metric) :
    readings (ms ++ ms') = readings ms + readings ms' := by
  simp [readings]

@[simp] theorem readings_replicate (n : ℕ) (m : Metric) :
    readings (List.replicate n m) = n • m.moves := by
  simp [readings]

/-- What an entry is to count for. -/
def InputInfo.shares (info : InputInfo) : Gauges :=
  (if info.taskHandle.isSome then 1 else 0, info.outputCount,
    if info.status.isConnected then 1 else 0)

def World.balance (w : World) : Gauges :=
  readings w.rt.metrics - Totals.total InputInfo.shares w.streams

/-- What the balance changes by. -/
def Deed.drift (w : World) : Deed → Gauges
  | startInput i => ((Totals.weight InputInfo.shares (w.streams.lookup i)).1, 0, 0)
  | stopInput i => Totals.weight InputInfo.shares (w.streams.lookup i)
  | closeInput i => ((Totals.weight InputInfo.shares (w.streams.lookup i)).1 - 1, 0,
      (Totals.weight InputInfo.shares (w.streams.lookup i)).2.2)
  | stopOutput _ _ => (0, 1, 0)
  | _ => 0

section Balance

variable {i : Int} {before after : Option InputInfo} {ms : List Metric} {ts : List Task}
  {w w' : World} {d : Deed}

theorem Touches.balance (h : Touches i before after ms ts w w') {drift : Gauges}
    (hd : readings ms + Totals.weight InputInfo.shares before =
      Totals.weight InputInfo.shares after + drift) : w'.balance = w.balance + drift := by
  have htotal := Totals.total_touched InputInfo.shares h.others
  rw [h.before, h.after] at htotal
  rw [World.balance, World.balance, h.adds.metrics, readings_append, eq_sub_of_add_eq htotal,
    eq_sub_of_add_eq hd]
  abel

theorem outputCount_of_empty {info : InputInfo} (h : info.outputTasks = ∅) :
    info.outputCount = 0 := by
  rw [InputInfo.outputCount, h]
  rfl

theorem isConnected_of_not_isActive {status : StreamStatus} (h : status.isActive = false) :
    status.isConnected = false := by
  cases status <;> first | rfl | exact absurd h (by simp [StreamStatus.isActive])

theorem drift_of_mayFail (h : d.mayFail = true) : d.drift w = 0 := by
  cases d <;> first | rfl | exact absurd h (by simp [Deed.mayFail])

theorem Deed.Changes.drift {fresh : Int → Prop} (h : d.Changes fresh i before after ms ts)
    (hi : w.streams.lookup i = before) (hapart : ∀ info, before = some info → info.KeysApart)
    (hfresh : ∀ k, fresh k → ∀ info, before = some info → ¬ info.HasOutput k) :
    readings ms + Totals.weight InputInfo.shares before =
      Totals.weight InputInfo.shares after + d.drift w := by
  cases h with
  | keep hd =>
    simp [drift_of_mayFail hd]
  | openInput hh _ ho _ hc =>
    have hcount := outputCount_of_empty ho
    simp [Metric.moves, Deed.drift, InputInfo.shares, hh, hcount, hc]
  | openIdle hh ho _ hc =>
    have hcount := outputCount_of_empty ho
    simp [Deed.drift, InputInfo.shares, hh, hcount, hc, Prod.ext_iff]
  | @startInput _ info info' t n _ ha hh _ hc _ _ _ hn =>
    have hcount := hn (hapart info rfl)
    have hidle := isConnected_of_not_isActive ha
    simp [Metric.moves, Deed.drift, InputInfo.shares, hi, hh, hcount, hc, hidle, Int.add_comm]
  | stopInput hh ho hc _ =>
    have hcount := outputCount_of_empty ho
    simp [Deed.drift, InputInfo.shares, hi, hh, hcount, hc]
  | closeInput hn =>
    simp [Metric.moves, Deed.drift, InputInfo.shares, hi, hn]
    omega
  | @openOutput _ k info o _ hk _ =>
    have hcount : InputInfo.outputCount { info with
        outputTasks := info.outputTasks.insert k o } = info.outputCount + 1 :=
      outputCount_insert (fun hk' => hfresh k hk info rfl (.inl hk')) rfl
    simp [Metric.moves, Deed.drift, InputInfo.shares, hcount, Int.add_comm]
  | @startOutput _ k info o _ hk _ =>
    have hcount : InputInfo.outputCount { info with
        stoppedOutputs := info.stoppedOutputs.erase k
        outputTasks := info.outputTasks.insert k o } = info.outputCount + 1 :=
      outputCount_insert (fun hk' => hapart info rfl k hk' hk) rfl
    simp [Metric.moves, Deed.drift, InputInfo.shares, hcount, Int.add_comm]
  | loseOutput => simp [Deed.drift, InputInfo.shares, InputInfo.outputCount]
  | @stopOutput _ k info config hk =>
    have hcount : InputInfo.outputCount { info with
        outputTasks := info.outputTasks.erase k
        stoppedOutputs := info.stoppedOutputs.insert k config } + 1 = info.outputCount :=
      outputCount_erase hk rfl
    simp [Deed.drift, InputInfo.shares, ← hcount]
  | @closeOutput _ k info hk =>
    have hcount : InputInfo.outputCount { info with
        outputTasks := info.outputTasks.erase k } + 1 = info.outputCount := outputCount_erase hk rfl
    simp [Metric.moves, Deed.drift, InputInfo.shares, ← hcount]
  | closeStopped => simp [Deed.drift, InputInfo.shares, InputInfo.outputCount]

theorem Deed.Does.balance (h : d.Does w w') (hw : w.OutputsKeyed) :
    w'.balance = w.balance + d.drift w := by
  obtain ⟨i, before, after, ms, ts, ht, hc⟩ := h
  refine ht.balance (hc.drift ht.before (fun info hi => ?_) fun k hk info hi hhas => ?_)
  · exact hw.apart i info (ht.before.trans hi)
  · exact absurd (hw.given i info (ht.before.trans hi) k hhas) (Int.not_le.mpr hk.1)

end Balance

/-! ## Inputs with a task -/

/-- The inputs of the set are those that have a task in memory. -/
def World.Serves (served : Finset Int) (w : World) : Prop :=
  ∀ i, i ∈ served ↔ ∃ info, w.streams.lookup i = some info ∧ info.taskHandle.isSome = true

/-- The inputs that the tasks read for. -/
def taskInputs (ts : List Task) : Finset Int := (ts.filterMap Task.input).toFinset

theorem mem_taskInputs {ts : List Task} {i : Int} :
    i ∈ taskInputs ts ↔ ∃ t ∈ ts, t.input = some i := by
  rw [taskInputs, List.mem_toFinset, List.mem_filterMap]

/-- The input that is stopped or deleted. -/
def Deed.ended : Deed → Finset Int
  | stopInput i | closeInput i => {i}
  | _ => ∅

/-- The inputs whose task was spawned, and that were neither stopped nor deleted since, after one
more request. -/
def servedAfter (served : Finset Int) (d : Deed) (w w' : World) : Finset Int :=
  (served \ d.ended) ∪ taskInputs (w'.rt.spawned.drop w.rt.spawned.length)

section Served

variable {fresh : Int → Prop} {i : Int} {before after : Option InputInfo} {ms : List Metric}
  {ts : List Task} {w w' : World} {d : Deed} {served : Finset Int}

theorem taskInputs_eq_empty (h : ∀ t ∈ ts, t.input = none) : taskInputs ts = ∅ := by
  refine Finset.eq_empty_of_forall_notMem fun i hi => ?_
  obtain ⟨t, ht, hin⟩ := mem_taskInputs.mp hi
  rw [h t ht] at hin
  exact absurd hin (by simp)

theorem ended_of_mayFail (h : d.mayFail = true) : d.ended = ∅ := by
  cases d <;> first | rfl | exact absurd h (by simp [Deed.mayFail])

/-- A deed ends the task of its input only. -/
theorem Deed.Changes.ended (h : d.Changes fresh i before after ms ts) {j : Int}
    (hj : j ∈ d.ended) : j = i := by
  cases h with
  | keep hd =>
    rw [ended_of_mayFail hd] at hj
    exact absurd hj (Finset.notMem_empty j)
  | stopInput | closeInput => simpa [Deed.ended] using hj
  | _ => exact absurd hj (by simp [Deed.ended])

/-- Tasks for inputs are spawned for the input of the deed only. -/
theorem Deed.Changes.input_spawned (h : d.Changes fresh i before after ms ts) {j : Int}
    (hj : j ∈ taskInputs ts) : j = i := by
  obtain ⟨t, ht, hin⟩ := mem_taskInputs.mp hj
  have hone : ∀ {t' : Task}, t'.input = some i → t = t' → j = i := by
    rintro t' hin' rfl
    exact Option.some.inj (hin.symm.trans hin')
  have hnone : t.input = none → j = i := fun h => absurd (hin.symm.trans h) (by simp)
  cases h with
  | openInput _ hin' => exact hone hin' (List.mem_singleton.mp ht)
  | startInput _ _ hin' _ _ _ hts =>
    exact (List.mem_cons.mp ht).elim (hone hin') fun ht => hnone (hts t ht)
  | openOutput _ hin' | startOutput _ hin' =>
    exact hnone (List.mem_singleton.mp ht ▸ hin')
  | _ => exact absurd ht List.not_mem_nil

/-- The entry has a task afterwards if it is spawned, or was there and is not ended. -/
theorem Deed.Changes.handled (h : d.Changes fresh i before after ms ts) :
    (∃ info, after = some info ∧ info.taskHandle.isSome = true) ↔
      (∃ info, before = some info ∧ info.taskHandle.isSome = true) ∧ i ∉ d.ended ∨
        i ∈ taskInputs ts := by
  cases h with
  | keep hd => simp [ended_of_mayFail hd, mem_taskInputs]
  | openInput hh hin => simp [Deed.ended, mem_taskInputs, hh, hin]
  | openIdle hh => simp [Deed.ended, mem_taskInputs, hh]
  | startInput _ hh hin => simp [Deed.ended, mem_taskInputs, hh, hin]
  | stopInput hh => simp [Deed.ended, mem_taskInputs, hh]
  | closeInput => simp [Deed.ended, mem_taskInputs]
  | openOutput _ hin => simp [Deed.ended, mem_taskInputs, hin]
  | startOutput _ hin => simp [Deed.ended, mem_taskInputs, hin]
  | _ => simp [Deed.ended, mem_taskInputs]

theorem Touches.spawned (h : Touches i before after ms ts w w') :
    w'.rt.spawned.drop w.rt.spawned.length = ts := by
  rw [h.adds.spawned, List.drop_left]

theorem Deed.Does.serves (h : d.Does w w') (hw : w.Serves served) :
    w'.Serves (servedAfter served d w w') := by
  obtain ⟨i, before, after, ms, ts, ht, hc⟩ := h
  intro j
  rw [servedAfter, ht.spawned, Finset.mem_union, Finset.mem_sdiff, hw j]
  by_cases hj : j = i
  · subst hj
    rw [ht.before, ht.after]
    exact hc.handled.symm
  · have hended : j ∉ d.ended := fun hmem => hj (hc.ended hmem)
    have hspawned : j ∉ taskInputs ts := fun hmem => hj (hc.input_spawned hmem)
    rw [ht.others j hj]
    simp only [hended, hspawned, not_false_eq_true, and_true, or_false]

/-- The entry keeps its task, and no task for an input is spawned. -/
theorem Touches.serves {info info' : InputInfo}
    (h : Touches i (some info) (some info') ms ts w w')
    (hhandle : info'.taskHandle = info.taskHandle) (hw : w.Serves served) : w'.Serves served := by
  intro j
  rw [hw j]
  by_cases hj : j = i
  · subst hj
    simp only [h.before, h.after, Option.some.injEq, exists_eq_left', hhandle]
  · rw [h.others j hj]

end Served

end StreamGateway
