import StreamGateway.GaugeRuns

/-!
# The activity gauges

`ACTIVE_INPUTS` is raised where the task of an input is spawned, and `ACTIVE_OUTPUTS` where an
output is. Only a deletion lowers them. A stop lowers neither, and a deletion takes an input for
active whether it has a task or not.
-/
namespace StreamGateway

open Prog

/-- What `ACTIVE_INPUTS` shows. -/
def activeInputs (w : World) : ℤ := (readings w.rt.metrics).1

/-- What `ACTIVE_OUTPUTS` shows. -/
def activeOutputs (w : World) : ℤ := (readings w.rt.metrics).2.1

/-- The gauges show the inputs with a task that was spawned and neither stopped nor deleted, and
the entries of all `output_tasks`. -/
structure World.CountsActivity (served : Finset Int) (w : World) : Prop where
  inputs : activeInputs w = served.card
  outputs : activeOutputs w = Totals.total InputInfo.outputCount w.streams
  inputs_nonneg : 0 ≤ activeInputs w
  outputs_nonneg : 0 ≤ activeOutputs w

/-- A start finds no task that was left behind, a stop finds no task and no running output, and a
deletion finds a task. No output is stopped. -/
def Deed.KeepsActivity (w : World) : Deed → Prop
  | startInput i => ∀ info ∈ w.streams.lookup i, info.taskHandle = none
  | stopInput i => ∀ info ∈ w.streams.lookup i, info.taskHandle = none ∧ info.outputTasks = ∅
  | closeInput i => ∃ info ∈ w.streams.lookup i, info.taskHandle.isSome = true
  | stopOutput _ _ => False
  | _ => True

instance (w : World) : (d : Deed) → Decidable (d.KeepsActivity w)
  | .startInput i => inferInstanceAs (Decidable (∀ info ∈ w.streams.lookup i, _))
  | .stopInput i => inferInstanceAs (Decidable (∀ info ∈ w.streams.lookup i, _))
  | .closeInput i => inferInstanceAs (Decidable (∃ info ∈ w.streams.lookup i, _))
  | .stopOutput _ _ => inferInstanceAs (Decidable False)
  | .nothing | .openInput | .openOutput | .startOutput _ _ | .closeOutput _ _ =>
    inferInstanceAs (Decidable True)

/-- The first two parts of the balance. -/
def activity : Gauges →+ ℤ × ℤ :=
  (AddMonoidHom.fst ℤ (ℤ × ℤ)).prod ((AddMonoidHom.fst ℤ ℤ).comp (AddMonoidHom.snd ℤ (ℤ × ℤ)))

section Activity

variable {served : Finset Int} {w w' : World}

theorem outputCount_eq_zero {info : InputInfo} : info.outputCount = 0 ↔ info.outputTasks = ∅ := by
  rw [InputInfo.outputCount, List.length_eq_zero_iff]
  exact ⟨fun h => AList.ext h, fun h => by rw [h]; rfl⟩

theorem activity_drift (d : Deed) (w : World) :
    activity (d.drift w) = 0 ↔ d.KeepsActivity w := by
  cases d with
  | startInput i =>
    cases hi : w.streams.lookup i <;>
      simp [activity, Deed.drift, Deed.KeepsActivity, InputInfo.shares, hi]
  | stopInput i =>
    cases hi : w.streams.lookup i <;>
      simp [activity, Deed.drift, Deed.KeepsActivity, InputInfo.shares, hi, outputCount_eq_zero]
  | closeInput i =>
    cases hi : w.streams.lookup i with
    | none => simp [activity, Deed.drift, Deed.KeepsActivity, hi]
    | some info =>
      cases hh : info.taskHandle <;>
        simp [activity, Deed.drift, Deed.KeepsActivity, InputInfo.shares, hi, hh]
  | _ => simp [activity, Deed.drift, Deed.KeepsActivity]

theorem total_inputs (h : w.Serves served) :
    (Totals.total InputInfo.shares w.streams).1 = served.card := by
  have hcard := Totals.total_eq_card (fun info : InputInfo => info.taskHandle.isSome = true)
    w.streams served h
  rw [← hcard, Totals.cast_total]
  refine (Totals.map_total (AddMonoidHom.fst ℤ (ℤ × ℤ)) InputInfo.shares w.streams).trans ?_
  refine congrArg (fun f => Totals.total f w.streams) (funext fun info => ?_)
  simp [InputInfo.shares]

theorem total_outputs (w : World) : (Totals.total InputInfo.shares w.streams).2.1 =
    Totals.total InputInfo.outputCount w.streams := by
  rw [Totals.cast_total]
  exact Totals.map_total ((AddMonoidHom.fst ℤ ℤ).comp (AddMonoidHom.snd ℤ (ℤ × ℤ)))
    InputInfo.shares w.streams

/-- The gauges are right if and only if that part of the balance is zero. -/
theorem countsActivity_iff (h : w.Serves served) :
    w.CountsActivity served ↔ activity w.balance = 0 := by
  have hbalance : activity w.balance = (activeInputs w - served.card,
      activeOutputs w - (Totals.total InputInfo.outputCount w.streams : ℕ)) := by
    rw [← total_inputs h, ← total_outputs]
    rfl
  rw [hbalance, Prod.mk_eq_zero, sub_eq_zero, sub_eq_zero]
  constructor
  · exact fun hw => ⟨hw.inputs, hw.outputs⟩
  · rintro ⟨hinputs, houtputs⟩
    refine ⟨hinputs, houtputs, ?_, ?_⟩
    · rw [hinputs]
      exact Int.natCast_nonneg _
    · rw [houtputs]
      exact Int.natCast_nonneg _

/-- In every state of a run whose requests all meet the condition, the gauges are right. The next
request leaves them right if and only if it meets the condition. -/
theorem activity_gauges (h : GaugeRun (fun d w => d.KeepsActivity w) served w) :
    w.CountsActivity served ∧ ∀ (env : Env) (op : Operation) (held : Bool) (w' : World),
      op.isLifecycle = true → (op.prog env).alone false w = some ((), held, w') →
      (w'.CountsActivity (servedAfter served (op.deed env w) w w') ↔
        (op.deed env w).KeepsActivity w) := by
  have htracked := h.tracked
  have hzero : activity w.balance = 0 := h.balance activity fun d w => (activity_drift d w).mpr
  refine ⟨(countsActivity_iff htracked.serves).mpr hzero, fun env op held w' hop hr => ?_⟩
  rw [countsActivity_iff (htracked.call hop hr).serves, h.balance_call activity hzero hop hr,
    activity_drift]

end Activity

/-! ## A deleted and a stopped input -/

/-- An input with a task is deleted. -/
theorem activity_gauges_deleted :
    (runningWorld.after ((Operation.deleteInput 1).prog localEnv)).CountsActivity ∅ := by
  have hrun := (gaugeRun_runningWorld (C := fun d w => d.KeepsActivity w) fun _ => trivial).after
    localEnv (.deleteInput 1) rfl (by decide +kernel) (by decide +kernel)
  have hserved : servedAfter {1} ((Operation.deleteInput 1).deed localEnv runningWorld)
      runningWorld (runningWorld.after ((Operation.deleteInput 1).prog localEnv)) = ∅ := by
    decide +kernel
  rw [hserved] at hrun
  exact (activity_gauges hrun).1

/-- A stopped input is still counted. -/
theorem stopInput_leaves_activity :
    ¬ ∀ served w, GaugeRun (fun _ _ => True) served w → w.CountsActivity served := by
  intro h
  have hrun := (gaugeRun_runningWorld (C := fun _ _ => True) fun _ => trivial).after localEnv
    (.stopInput 1) rfl trivial (by decide +kernel)
  have hserved : servedAfter {1} ((Operation.stopInput 1).deed localEnv runningWorld)
      runningWorld (runningWorld.after ((Operation.stopInput 1).prog localEnv)) = ∅ := by
    decide +kernel
  rw [hserved] at hrun
  have hshown : activeInputs (runningWorld.after ((Operation.stopInput 1).prog localEnv)) = 1 := by
    decide +kernel
  have hcounts := (h _ _ hrun).inputs
  rw [hshown] at hcounts
  exact absurd hcounts (by decide)

/-- An input whose source is missing has no task, and its deletion lowers the gauge below zero. -/
example : activeInputs (((World.boot emptyDatabase).after
    ((Operation.createInput (.spts 7 1 none none)).prog localEnv)).after
    ((Operation.deleteInput 1).prog localEnv)) = -1 := by
  decide +kernel

end StreamGateway
