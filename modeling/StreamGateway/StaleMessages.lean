import StreamGateway.TaskOwnership

/-!
# Messages of earlier tasks

A message does not say which task sent it, so a message that is still underway when its task
is stopped changes the status of a stream that has no task, or another one. So does a message
that the task sends after it was aborted, in the poll that the abort did not stop. When a
stream is only stopped and started with no message underway and no aborted task sends any,
every message that is processed is one of the current task, and a stopped input stays stopped
until it is started.
-/
namespace StreamGateway

open Prog

/-- The messages that are queued or in processing. -/
def Runtime.underway (rt : Runtime) : List Envelope := rt.processing.toList ++ rt.queue

/-- The last task that was spawned for a stream. -/
def Runtime.currentTask (rt : Runtime) (o : Owner) : Option Task :=
  (rt.spawned.filter fun t => t.spec.owner = o).getLast?

/-- Analyses send no messages. -/
def Owner.isAnalysis : Owner → Bool
  | .analysis .. => true
  | _ => false

/-- The step stops the input. -/
def Stops (i : Int) (w w' : World) : Prop :=
  (stopInputSection i w).1 = .ok () ∧ w' = (stopInputSection i w).2

/-- The step is one of a `start_input` that spawns a task for the input or enters it. -/
def Begins (i : Int) (w w' : World) : Prop :=
  (∃ t ∈ w'.rt.spawned, t ∉ w.rt.spawned ∧ t.spec.owner = .input i) ∨
    ∃ env new paused, (sptsInstallSection env i new w).1 = .ok paused ∧
      w' = (sptsInstallSection env i new w).2

/-- Only live tasks send messages, and none that was aborted. A step that aborts a task finds none
of its messages underway. A step that stops an input finds no message of its tasks underway, and no
live task but the one that the entry holds. A step that spawns a task for a stream finds no
live task and no message of the stream. -/
structure Settles (w w' : World) : Prop where
  sent : ∀ e, w' = w.send e → e.sender ∈ w.rt.live
  aborted : ∀ t ∈ w'.rt.aborted, t ∉ w.rt.aborted → ∀ e ∈ w.rt.underway, e.sender ≠ t
  stopped : ∀ i, Stops i w w' → (∀ e ∈ w.rt.underway, e.sender.spec.owner ≠ .input i) ∧
    ∀ t ∈ w.rt.live, t.spec.owner = .input i →
      ∃ info, w.streams.lookup i = some info ∧ info.taskHandle = some t
  spawned : ∀ t ∈ w'.rt.spawned, t ∉ w.rt.spawned → t.spec.owner.isAnalysis = false →
    (∀ u ∈ w.rt.live, u.spec.owner ≠ t.spec.owner) ∧
      ∀ e ∈ w.rt.underway, e.sender.spec.owner ≠ t.spec.owner

/-! ## Tasks in order -/

/-- Tasks are numbered as they are spawned, live and aborted tasks were spawned, and a live
task and the sender of a message are the current tasks of their streams and not aborted. -/
structure Runtime.Ordered (rt : Runtime) : Prop where
  numbered : ∀ t ∈ rt.spawned, t.id < rt.spawned.length
  live : ∀ t ∈ rt.live, t ∈ rt.spawned ∧ t ∉ rt.aborted ∧
    (t.spec.owner.isAnalysis = false → rt.currentTask t.spec.owner = some t)
  aborted : ∀ t ∈ rt.aborted, t ∈ rt.spawned
  underway : ∀ e ∈ rt.underway, e.sender.spec.Sends e.change ∧ e.sender ∉ rt.aborted ∧
    rt.currentTask e.sender.spec.owner = some e.sender

theorem Sends.isAnalysis {spec : TaskSpec} {change : StateChange} (h : spec.Sends change) :
    spec.owner.isAnalysis = false := by
  cases h <;> rfl

theorem currentTask_of_spawned {rt rt' : Runtime} (h : rt'.spawned = rt.spawned) (o : Owner) :
    rt'.currentTask o = rt.currentTask o := by
  rw [Runtime.currentTask, h, Runtime.currentTask]

/-- The tasks of other streams do not matter. -/
theorem currentTask_append_of_ne {rt rt' : Runtime} {launched : List Task} {o : Owner}
    (h : rt'.spawned = rt.spawned ++ launched) (ho : ∀ t ∈ launched, t.spec.owner ≠ o) :
    rt'.currentTask o = rt.currentTask o := by
  have hnil : launched.filter (fun t => t.spec.owner = o) = [] := by
    rw [List.filter_eq_nil_iff]
    intro t ht
    simpa using ho t ht
  rw [Runtime.currentTask, h, List.filter_append, hnil, List.append_nil, Runtime.currentTask]

/-- A new task is the current one when no other new task is for the same stream. -/
theorem currentTask_append_of_mem {rt rt' : Runtime} {launched : List Task} {t : Task}
    (h : rt'.spawned = rt.spawned ++ launched) (ht : t ∈ launched)
    (hu : ∀ u ∈ launched, u.spec.owner = t.spec.owner → u = t) :
    rt'.currentTask t.spec.owner = some t := by
  have hmem : t ∈ launched.filter (fun u => u.spec.owner = t.spec.owner) :=
    List.mem_filter.mpr ⟨ht, by simp⟩
  have hne : launched.filter (fun u => u.spec.owner = t.spec.owner) ≠ [] :=
    List.ne_nil_of_mem hmem
  rw [Runtime.currentTask, h, List.filter_append, List.getLast?_append_of_ne_nil _ hne,
    List.getLast?_eq_some_getLast hne]
  obtain ⟨hl, ho⟩ := List.mem_filter.mp (List.getLast_mem hne)
  exact congrArg some (hu _ hl (by simpa using ho))

theorem Moves.underway {launched aborted : List Task} {rt rt' : Runtime}
    (h : Moves launched aborted rt rt') : rt'.underway = rt.underway := by
  rw [Runtime.underway, h.processing, h.queue, Runtime.underway]

theorem Moves.launched_spawned {rt rt' : Runtime} {launched aborted : List Task}
    (hm : Moves launched aborted rt rt') : ∀ t ∈ launched, t ∈ rt'.spawned := by
  intro t ht
  rw [hm.spawned]
  exact List.mem_append_right _ ht

/-- A task that is spawned has a number that no task had before. -/
theorem Runtime.Ordered.launched_new {rt rt' : Runtime} {launched aborted : List Task}
    (h : rt.Ordered) (hm : Moves launched aborted rt rt') : ∀ t ∈ launched, t ∉ rt.spawned := by
  intro t ht hs
  have hlt := h.numbered t hs
  have hle := (hm.fresh t ht).1
  omega

/-- Spawns and aborts keep the order under the conditions of a step. -/
theorem Runtime.Ordered.moves {rt rt' : Runtime} {launched aborted : List Task}
    (h : rt.Ordered) (hm : Moves launched aborted rt rt') (ha : ∀ t ∈ aborted, t ∈ rt.spawned)
    (hstale : ∀ t ∈ rt'.aborted, t ∉ rt.aborted → ∀ e ∈ rt.underway, e.sender ≠ t)
    (hsettled : ∀ t ∈ rt'.spawned, t ∉ rt.spawned → t.spec.owner.isAnalysis = false →
      (∀ u ∈ rt.live, u.spec.owner ≠ t.spec.owner) ∧
        ∀ e ∈ rt.underway, e.sender.spec.owner ≠ t.spec.owner)
    (hdistinct : ∀ t ∈ launched, ∀ u ∈ launched, u.spec.owner = t.spec.owner → u = t) :
    rt'.Ordered := by
  have hnew := h.launched_new hm
  have hspawned := hm.launched_spawned
  refine ⟨fun t ht => ?_, fun t ht => ?_, fun t ht => ?_, fun e he => ?_⟩
  · rw [hm.spawned] at ht
    rcases List.mem_append.mp ht with ht | ht
    · have hlt := h.numbered t ht
      have hlength : rt'.spawned.length = rt.spawned.length + launched.length := by
        simp [hm.spawned]
      omega
    · exact (hm.fresh t ht).2
  · rw [hm.live] at ht
    rcases List.mem_append.mp ht with ht | ht
    · obtain ⟨hlive, hkept⟩ := List.mem_filter.mp ht
      obtain ⟨hs, hna, hcur⟩ := h.live t hlive
      refine ⟨?_, ?_, fun hr => ?_⟩
      · rw [hm.spawned]
        exact List.mem_append_left _ hs
      · rw [hm.aborted, List.mem_append, not_or]
        exact ⟨hna, by simpa using hkept⟩
      · rw [currentTask_append_of_ne hm.spawned fun u hu howner => ?_]
        · exact hcur hr
        · refine (hsettled u (hspawned u hu) (hnew u hu) ?_).1 t hlive howner.symm
          rw [howner]
          exact hr
    · refine ⟨hspawned t ht, ?_, fun _ => currentTask_append_of_mem hm.spawned ht
        fun u hu => hdistinct t ht u hu⟩
      rw [hm.aborted, List.mem_append, not_or]
      exact ⟨fun hab => hnew t ht (h.aborted t hab), fun hab => hnew t ht (ha t hab)⟩
  · rw [hm.aborted] at ht
    rw [hm.spawned]
    exact List.mem_append_left _ ((List.mem_append.mp ht).elim (h.aborted t) (ha t))
  · rw [hm.underway] at he
    obtain ⟨hsends, hna, hcur⟩ := h.underway e he
    refine ⟨hsends, fun hab => ?_, ?_⟩
    · exact hstale _ hab hna e he rfl
    · rw [currentTask_append_of_ne hm.spawned fun u hu howner => ?_]
      · exact hcur
      · refine (hsettled u (hspawned u hu) (hnew u hu) ?_).2 e he howner.symm
        rw [howner]
        exact Sends.isAnalysis hsends

/-- Nothing changes but the messages, which become fewer. -/
theorem Runtime.Ordered.messages {rt rt' : Runtime} (h : rt.Ordered)
    (hs : rt'.spawned = rt.spawned) (hl : ∀ t ∈ rt'.live, t ∈ rt.live)
    (ha : rt'.aborted = rt.aborted) (hu : ∀ e ∈ rt'.underway, e ∈ rt.underway) :
    rt'.Ordered := by
  refine ⟨?_, fun t ht => ?_, ?_, fun e he => ?_⟩
  · rw [hs]
    exact h.numbered
  · rw [hs, ha, currentTask_of_spawned hs]
    exact h.live t (hl t ht)
  · rw [hs, ha]
    exact h.aborted
  · rw [ha, currentTask_of_spawned hs]
    exact h.underway e (hu e he)

/-! ## Handles -/

/-- Every task that an entry holds was spawned. -/
structure InOrder (w : World) : Prop where
  ordered : w.rt.Ordered
  spawned : w.Each fun _ info => ∀ t, info.Holds t → t ∈ w.rt.spawned

/-- The entries change. -/
theorem InOrder.of_each {w w' : World} (h : InOrder w) (ho : w'.rt.Ordered)
    (hl : w.rt.spawned ⊆ w'.rt.spawned)
    (he : (w.Each fun _ info => ∀ t, info.Holds t → t ∈ w'.rt.spawned) →
      w'.Each fun _ info => ∀ t, info.Holds t → t ∈ w'.rt.spawned) : InOrder w' :=
  ⟨ho, he fun i info hi t ht => hl (h.spawned i info hi t ht)⟩

theorem InOrder.of_streams {w w' : World} (h : InOrder w) (ho : w'.rt.Ordered)
    (hl : w.rt.spawned ⊆ w'.rt.spawned) (hs : w'.streams = w.streams) : InOrder w' :=
  h.of_each ho hl fun he => he.of_eq hs

theorem FreshInput.spawned {info : InputInfo} {rt : Runtime} (h : FreshInput info rt) :
    ∀ t, info.Holds t → t ∈ rt.spawned := by
  intro t ht
  cases ht with
  | input hh => exact (h.handle t hh).1
  | output k o ho hh =>
    rw [h.outputTasks] at ho
    exact absurd ho (by simp)
  | analysis k a ha hh =>
    rw [h.analysisTasks] at ha
    exact absurd ha (by simp)

theorem Tended.holds {info info' : InputInfo} {launched aborted : List Task}
    (h : Tended info info' launched aborted) {t : Task} (ht : info'.Holds t) :
    info.Holds t ∨ t ∈ launched := by
  cases ht with
  | input hh => exact .inl (.input (h.taskHandle ▸ hh))
  | output k o ho hh =>
    rcases h.outputs k o ho with ho | ⟨u, hu, huh⟩
    · exact .inl (.output k o ho hh)
    · obtain rfl := Option.some.inj (huh.symm.trans hh)
      exact .inr hu
  | analysis k a ha hh => exact .inl (.analysis k a (h.analyses k a ha) hh)

theorem Begun.holds {info info' : InputInfo} {t u : Task} {launched : List Task}
    (h : Begun info info' t launched) (hu : info'.Holds u) : info.Holds u ∨ u ∈ t :: launched := by
  cases hu with
  | input hh =>
    obtain rfl := Option.some.inj (h.taskHandle.symm.trans hh)
    exact .inr List.mem_cons_self
  | output k o ho hh =>
    rcases h.outputs k o ho with ho | ⟨v, hv, hvh⟩
    · exact .inl (.output k o ho hh)
    · obtain rfl := Option.some.inj (hvh.symm.trans hh)
      exact .inr (List.mem_cons_of_mem _ hv)
  | analysis k a ha hh =>
    rw [h.analyses] at ha
    exact .inl (.analysis k a ha hh)

/-- Outputs of one section are for different streams. -/
theorem distinct_outputs {launched : List Task}
    (h : (launched.map fun t => t.spec.owner.outputId).Nodup) :
    ∀ t ∈ launched, ∀ u ∈ launched, u.spec.owner = t.spec.owner → u = t := by
  intro t ht u hu howner
  refine List.inj_on_of_nodup_map h hu ht ?_
  rw [howner]

theorem distinct_begun {info info' : InputInfo} {i : Int} {t : Task} {launched : List Task}
    (h : Begun info info' t launched) (ht : t.spec.owner = .input i) :
    ∀ u ∈ t :: launched, ∀ v ∈ t :: launched, v.spec.owner = u.spec.owner → v = u := by
  have hne : ∀ u ∈ launched, u.spec.owner ≠ t.spec.owner := by
    intro u hu howner
    have := h.outputIds u hu
    rw [howner, ht] at this
    exact absurd this (by simp [Owner.outputId])
  intro u hu v hv howner
  rcases List.mem_cons.mp hu with rfl | hu'
  · rcases List.mem_cons.mp hv with rfl | hv'
    · rfl
    · exact absurd howner (hne v hv')
  · rcases List.mem_cons.mp hv with rfl | hv'
    · exact absurd howner.symm (hne u hu')
    · exact distinct_outputs h.distinct u hu' v hv' howner

theorem distinct_singleton (t : Task) :
    ∀ u ∈ [t], ∀ v ∈ [t], v.spec.owner = u.spec.owner → v = u := by
  intro u hu v hv _
  rw [List.mem_singleton.mp hu, List.mem_singleton.mp hv]

theorem receive_underway (w : World) : (receive w).2.rt.underway = w.rt.underway := by
  unfold receive
  split
  · rename_i e queue hp hq
    simp only [Runtime.underway, hp, hq]
    rfl
  · rfl

theorem applyProcessing_underway (w : World) :
    ∀ e ∈ (applyProcessing w).2.rt.underway, e ∈ w.rt.underway := by
  unfold applyProcessing
  split
  · exact fun _ h => h
  · exact fun e h => List.mem_append_right _ h

/-- What is known of spawns and aborts suffices for an order without aborts. -/
theorem InOrder.launches {w w' : World} {launched : List Task} (h : InOrder w)
    (hc : Settles w w') (hl : Launches launched w.rt w'.rt)
    (hd : ∀ t ∈ launched, ∀ u ∈ launched, u.spec.owner = t.spec.owner → u = t) :
    w'.rt.Ordered :=
  h.ordered.moves hl.moves (fun _ h => absurd h List.not_mem_nil) hc.aborted hc.spawned hd

/-! ## Sections -/

theorem InOrder.tend {w w' : World} {i : Int} {info info' : InputInfo}
    {launched aborted : List Task} (h : InOrder w) (hc : Settles w w')
    (hi : w.streams.lookup i = some info) (hs : w'.streams = w.streams.insert i info')
    (ht : Tended info info' launched aborted) (hm : Moves launched aborted w.rt w'.rt) :
    InOrder w' := by
  have hheld : ∀ t ∈ aborted, t ∈ w.rt.spawned := fun t hta => h.spawned i info hi t (ht.held t hta)
  have hordered : w'.rt.Ordered :=
    h.ordered.moves hm hheld hc.aborted hc.spawned (distinct_outputs ht.distinct)
  refine h.of_each hordered hm.later fun he => he.insert hs fun t hh => ?_
  rcases ht.holds hh with hh | hl
  · exact he i info hi t hh
  · exact hm.launched_spawned t hl

theorem InOrder.insertAnalysis {w : World} (h : InOrder w) (i : Int) {a : AnalysisInfo}
    (ha : a.taskHandle ∈ w.rt.spawned) : InOrder (insertAnalysis i a w).2 := by
  unfold StreamGateway.insertAnalysis
  split
  · exact h
  rename_i info hi
  refine ⟨h.ordered, h.spawned.insert rfl fun t hh => ?_⟩
  cases hh with
  | input hh => exact h.spawned i info hi t (.input hh)
  | output k o ho hh => exact h.spawned i info hi t (.output k o ho hh)
  | analysis k b hb hh =>
    rcases HashMap.lookup_insert_eq_some.mp hb with ⟨_, rfl⟩ | ⟨_, hb⟩
    · rw [← hh]
      exact ha
    · exact h.spawned i info hi t (.analysis k b hb hh)

theorem InOrder.restart {w w' : World} {i : Int} {info info' : InputInfo} {t : Task}
    {launched : List Task} (h : InOrder w) (hc : Settles w w')
    (hi : w.streams.lookup i = some info) (hs : w'.streams = w.streams.insert i info')
    (howner : t.spec.owner = .input i) (hb : Begun info info' t launched)
    (hl : Launches (t :: launched) w.rt w'.rt) : InOrder w' := by
  have hordered : w'.rt.Ordered := h.launches hc hl (distinct_begun hb howner)
  refine h.of_each hordered hl.later fun he => he.insert hs fun u hu => ?_
  rcases hb.holds hu with hu | hu
  · exact he i info hi u hu
  · exact hl.subset hu

theorem InOrder.install {env : Env} {w : World} {i : Int} {new : InputInfo} {t : Task}
    (h : InOrder w) (hc : Settles w (sptsInstallSection env i new w).2)
    (hnew : new.taskHandle = some t) (ht : t ∈ w.rt.spawned) :
    InOrder (sptsInstallSection env i new w).2 := by
  rcases sptsInstallSection_ok env i new w with
    hw | ⟨info, info', tasks, hi, hs, _, hh, ha, _, hst⟩
  · rwa [hw]
  have hdistinct := distinct_outputs (hst.distinct (HashMap.nodup_keys_toPairs _))
  have hordered := h.launches hc hst.launches hdistinct
  refine h.of_each hordered hst.launches.later fun he => he.insert hs fun u hu => ?_
  cases hu with
  | input hu =>
    obtain rfl := Option.some.inj ((hh.trans hnew).symm.trans hu)
    exact hst.launches.later ht
  | output k o ho hu =>
    rcases hst.handle k o ho with ho | ⟨_, v, hv, hvh⟩
    · exact he i info hi u (.output k o ho hu)
    · obtain rfl := Option.some.inj (hvh.symm.trans hu)
      exact hst.launches.subset hv
  | analysis k a hk hu =>
    rw [ha] at hk
    exact he i info hi u (.analysis k a hk hu)

theorem InOrder.stop {w : World} {i : Int} (h : InOrder w)
    (hc : Settles w (stopInputSection i w).2) : InOrder (stopInputSection i w).2 := by
  rcases stopInputSection_ok i w with
    ⟨e, hw⟩ | ⟨info, info', aborted, hi, hs, _, hh, _, ho, ha, hab, hheld⟩
  · rw [hw]
    exact h
  have hspawned : ∀ t ∈ info.taskHandle.toList ++ aborted, t ∈ w.rt.spawned := by
    intro t ht
    apply h.spawned i info hi t
    rcases List.mem_append.mp ht with ht | ht
    · exact .input (Option.mem_toList.mp ht)
    · exact hheld t ht
  have hordered : (stopInputSection i w).2.rt.Ordered :=
    h.ordered.moves hab.moves hspawned hc.aborted hc.spawned fun _ ht => absurd ht List.not_mem_nil
  -- a stopped entry holds no task
  refine h.of_each hordered hab.later fun he => he.insert hs fun t ht => ?_
  cases ht with
  | input hu =>
    rw [hh] at hu
    exact absurd hu (by simp)
  | output k o hk _ =>
    rw [ho] at hk
    exact absurd hk (by simp)
  | analysis k a hk _ =>
    rw [ha] at hk
    exact absurd hk (by simp)

theorem InOrder.receive {w : World} (h : InOrder w) : InOrder (receive w).2 := by
  have hs : (StreamGateway.receive w).2.rt.spawned = w.rt.spawned := by
    unfold StreamGateway.receive
    split <;> rfl
  have ha : (StreamGateway.receive w).2.rt.aborted = w.rt.aborted := by
    unfold StreamGateway.receive
    split <;> rfl
  have hordered : (StreamGateway.receive w).2.rt.Ordered := by
    apply h.ordered.messages hs ?_ ha
    · intro e he
      rwa [receive_underway] at he
    · intro t ht
      rwa [receive_live] at ht
  refine h.of_streams hordered ?_ (receive_streams w)
  rw [hs]
  exact List.Subset.refl _

theorem holds_of_withStatus {info : InputInfo} {status : StreamStatus} {connectedAt : Option ℕ}
    {sourceAddress : Option String} {t : Task}
    (h : (info.withStatus status connectedAt sourceAddress).Holds t) : info.Holds t := by
  cases h with
  | input hh => exact .input hh
  | output k o hk hh => exact .output k o hk hh
  | analysis k a hk hh => exact .analysis k a hk hh

theorem holds_of_outputStatus {info : InputInfo} {k : Int} {o : OutputInfo} {status : StreamStatus}
    {connectedAt : Option ℕ} {peerAddress : Option String} {t : Task}
    (ho : info.outputTasks.lookup k = some o)
    (h : InputInfo.Holds { info with
      outputTasks := info.outputTasks.insert k (o.withStatus status connectedAt peerAddress) } t) :
    info.Holds t := by
  cases h with
  | input hh => exact .input hh
  | output k' o' hk hh =>
    rcases HashMap.lookup_insert_eq_some.mp hk with ⟨_, rfl⟩ | ⟨_, hk⟩
    · exact .output k o ho hh
    · exact .output k' o' hk hh
  | analysis k a hk hh => exact .analysis k a hk hh

theorem InOrder.apply {w : World} (h : InOrder w) : InOrder (applyProcessing w).2 := by
  have hs : (applyProcessing w).2.rt.spawned = w.rt.spawned := by
    unfold applyProcessing
    split <;> rfl
  have ha : (applyProcessing w).2.rt.aborted = w.rt.aborted := by
    unfold applyProcessing
    split <;> rfl
  have hordered : (applyProcessing w).2.rt.Ordered := by
    apply h.ordered.messages hs ?_ ha (applyProcessing_underway w)
    intro t ht
    rwa [applyProcessing_live] at ht
  have hsub : w.rt.spawned ⊆ (applyProcessing w).2.rt.spawned := by
    rw [hs]
    exact List.Subset.refl _
  refine h.of_each hordered hsub fun he => World.Each.apply he ?_ ?_
  · intro i info status connectedAt sourceAddress hinfo t ht
    exact hinfo t (holds_of_withStatus ht)
  · intro i info k o status connectedAt peerAddress hinfo ho t ht
    exact hinfo t (holds_of_outputStatus ho ht)

theorem Section.inOrder {k : SectionKind} {w w' : World} (hk : k ≠ .remove)
    (hs : Section k w w') (h : InOrder w) (hc : Settles w w') : InOrder w' := by
  cases hs with
  | remove => exact absurd rfl hk
  | spawn t hl _ hs => exact h.of_streams (h.launches hc hl (distinct_singleton t)) hl.later hs
  | create t hl hs => exact h.of_streams (h.launches hc hl (distinct_singleton t)) hl.later hs
  | tend i info info' launched aborted hi hs ht _ hm => exact h.tend hc hi hs ht hm
  | analyse i a _ ha => exact h.insertAnalysis i ha
  | restart i info info' t launched hi hs howner _ hb hl => exact h.restart hc hi hs howner hb hl
  | install env i new t hnew ht _ => exact h.install hc hnew ht
  | stop i => exact h.stop hc
  | enter info hf => exact ⟨h.ordered, h.spawned.insert rfl hf.spawned⟩
  | load loaded hl =>
    exact ⟨h.ordered, h.spawned.extend rfl fun i info hi => (hl i info hi).1.spawned⟩
  | receive => exact h.receive
  | apply => exact h.apply

theorem mem_underway_send {w : World} {e e' : Envelope} :
    e' ∈ (w.send e).rt.underway ↔ e' ∈ w.rt.underway ∨ e' = e := by
  simp only [Runtime.underway, World.send, List.mem_append, List.mem_singleton]
  tauto

theorem TaskStep.inOrder {w w' : World} (hs : TaskStep w w') (h : InOrder w)
    (hc : Settles w w') : InOrder w' := by
  cases hs with
  | @send e _ hsends =>
    refine ⟨⟨h.ordered.numbered, h.ordered.live, h.ordered.aborted, fun e' he => ?_⟩, h.spawned⟩
    rcases mem_underway_send.mp he with he | rfl
    · exact h.ordered.underway e' he
    · obtain ⟨_, hna, hcur⟩ := h.ordered.live e'.sender (hc.sent e' rfl)
      exact ⟨hsends, hna, hcur (Sends.isAnalysis hsends)⟩
  | finish =>
    exact ⟨h.ordered.messages rfl (fun t ht => List.mem_of_mem_filter ht) rfl fun _ he => he,
      h.spawned⟩
  | tick =>
    exact ⟨h.ordered.messages rfl (fun _ ht => ht) rfl fun _ he => he, h.spawned⟩

/-! ## Runs -/

/-- The calls after which every stream is still there: streams are created, started and
stopped, but not updated or deleted. -/
def Operation.keepsStreams : Operation → Bool
  | updateInput .. | deleteInput .. | updateOutput .. | deleteOutput .. => false
  | _ => true

def StreamCall (p : Prog World Unit) : Prop :=
  (∃ env op, op.keepsStreams = true ∧ p = Operation.prog env op) ∨ p = processMessage

/-- The calls that start and stop streams and analyses, and the processor. -/
def Operation.startsOrStops : Operation → Bool
  | createInput .. => false
  | op => op.keepsStreams

def ControlCall (p : Prog World Unit) : Prop :=
  (∃ env op, op.startsOrStops = true ∧ p = Operation.prog env op) ∨ p = processMessage

/-- The gateway starts, and any calls that keep streams come to their ends. Then streams are
started and stopped. -/
def ControlRun (C : World → World → Prop) (p : Pool World) : Prop :=
  ∃ env db w threads, Pool.Runs StreamCall TaskStep C (bootPool env db) ⟨w, threads⟩ ∧
    (∀ t ∈ threads, t.rest = .ret ()) ∧ Pool.Runs ControlCall TaskStep C ⟨w, threads⟩ p

/-- The message in processing is one of the current task of its stream, which was not
aborted, and an input that a step stops is stopped in every state up to the next step that
begins it. -/
def Fresh (C : World → World → Prop) (p : Pool World) : Prop :=
  (∀ e ∈ p.shared.rt.processing, e.sender ∉ p.shared.rt.aborted ∧
    p.shared.rt.currentTask e.sender.spec.owner = some e.sender) ∧
  ∀ i q r, Pool.Step ControlCall TaskStep p q → C p.shared q.shared →
    Stops i p.shared q.shared →
    Pool.Runs ControlCall TaskStep (fun w w' => C w w' ∧ ¬ Begins i w w') q r →
    ∀ info, r.shared.streams.lookup i = some info → info.status = .stopped

/-- The kinds of the sections of these calls. -/
def controlKinds : List SectionKind :=
  [.spawn, .create, .tend, .analyse, .restart, .install, .stop, .receive, .apply]

theorem ControlCall.takes {p : Prog World Unit} (h : ControlCall p) (w : World) :
    Takes controlKinds p w := by
  rcases h with ⟨env, op, hop, rfl⟩ | rfl
  · refine (op.takes env w).mono ?_
    cases op with
    | startInput | startInputEndpoint => simp [Operation.kinds, startKinds, controlKinds]
    | createInput | updateInput | deleteInput =>
      exact absurd hop (by simp [Operation.startsOrStops, Operation.keepsStreams])
    | _ => simp [Operation.kinds, controlKinds]
  · exact (takes_processMessage w).mono (by simp [controlKinds])

/-- All kinds of sections but the deletion of an input. -/
def streamKinds : List SectionKind := .enter :: controlKinds

theorem StreamCall.takes {p : Prog World Unit} (h : StreamCall p) (w : World) :
    Takes streamKinds p w := by
  rcases h with ⟨env, op, hop, rfl⟩ | rfl
  · refine (op.takes env w).mono ?_
    cases op with
    | startInput | startInputEndpoint =>
      simp [Operation.kinds, startKinds, streamKinds, controlKinds]
    | updateInput | deleteInput => exact absurd hop (by simp [Operation.keepsStreams])
    | _ => simp [Operation.kinds, streamKinds, controlKinds]
  · exact (takes_processMessage w).mono (by simp [streamKinds, controlKinds])

theorem inOrder_step {ks : List SectionKind} (hks : ks ⊆ streamKinds) (w w' : World)
    (h : InOrder w) (hs : Sections ks w w' ∨ TaskStep w w') (hc : Settles w w') :
    InOrder w' := by
  rcases hs with (hs | ⟨k, hk, hs⟩) | hs
  · exact h.of_streams (h.launches hc hs.runtime fun _ ht => absurd ht List.not_mem_nil)
      hs.runtime.later hs.streams
  · refine hs.inOrder (fun hr => ?_) h hc
    subst hr
    exact absurd (hks hk) (by simp [streamKinds, controlKinds])
  · exact hs.inOrder h hc

theorem inOrder_boot (db : Database) : InOrder (.boot db) := by
  refine ⟨⟨?_, ?_, ?_, ?_⟩, fun i info hi => absurd hi (by simp [World.boot])⟩ <;>
    exact fun _ h => absurd h List.not_mem_nil

/-- A run of the gateway that settles keeps the order. -/
theorem safe_of_controlRun {p : Pool World} (h : ControlRun Settles p) :
    Pool.Safe InOrder (Sections controlKinds) Later p := by
  obtain ⟨env, db, w, threads, hboot, hidle, hruns⟩ := h
  have hload : Pool.Safe InOrder (Sections streamKinds) Later (bootPool env db) := by
    refine ⟨inOrder_boot db, fun t ht => ?_⟩
    obtain rfl := List.mem_singleton.mp ht
    exact ((takes_loadFromDb env _).mono (by simp [streamKinds, controlKinds])).ignore
  have hw := (hload.runs (fun p w hp => hp.takes w) later_of_step
    (inOrder_step (List.Subset.refl _)) hboot).1
  refine Pool.Safe.runs (fun p w hp => hp.takes w) later_of_step
    (inOrder_step (by simp [streamKinds])) ⟨hw, fun t ht => ?_⟩ hruns
  rw [hidle t ht]
  exact Follows.ret trivial

/-! ## Stopped inputs -/

/-- The input has no live task and no message of one underway, and its entry is stopped. -/
structure AtRest (i : Int) (w : World) : Prop where
  live : ∀ t ∈ w.rt.live, t.spec.owner ≠ .input i
  underway : ∀ e ∈ w.rt.underway, e.sender.spec.owner ≠ .input i
  stopped : w.Each fun j info => j = i → info.status = .stopped

/-- A stop that settles leaves nothing of the input behind. -/
theorem AtRest.of_stops {i : Int} {w w' : World} (hc : Settles w w') (hs : Stops i w w') :
    AtRest i w' := by
  obtain ⟨hunderway, hlive⟩ := hc.stopped i hs
  obtain ⟨hok, rfl⟩ := hs
  rcases stopInputSection_ok i w with
    ⟨e, hw⟩ | ⟨info, info', aborted, hi, hstreams, _, _, hstatus, _, _, hab, _⟩
  · rw [hw] at hok
    exact absurd hok (by simp)
  refine ⟨fun t ht howner => ?_, ?_, ?_⟩
  · obtain ⟨ht, hna⟩ := hab.live_subset t ht
    obtain ⟨info₀, hi₀, hh⟩ := hlive t ht howner
    obtain rfl := Option.some.inj (hi.symm.trans hi₀)
    exact hna (List.mem_append_left _ (Option.mem_toList.mpr hh))
  · rw [hab.moves.underway]
    exact hunderway
  · intro j info₀ hj hji
    subst hji
    rw [hstreams, AList.lookup_insert] at hj
    obtain rfl := Option.some.inj hj
    exact hstatus

/-- The tasks that a step spawns are new. -/
theorem owner_of_not_begins {i : Int} {w w' : World} {launched aborted : List Task}
    (h : w.rt.Ordered) (hm : Moves launched aborted w.rt w'.rt) (hb : ¬ Begins i w w') :
    ∀ t ∈ launched, t.spec.owner ≠ .input i := by
  intro t ht howner
  apply hb
  exact .inl ⟨t, hm.launched_spawned t ht, h.launched_new hm t ht, howner⟩

theorem AtRest.moves {i : Int} {w w' : World} {launched aborted : List Task} (h : AtRest i w)
    (ho : w.rt.Ordered) (hm : Moves launched aborted w.rt w'.rt) (hb : ¬ Begins i w w')
    (hs : w'.Each fun j info => j = i → info.status = .stopped) : AtRest i w' := by
  refine ⟨fun t ht => ?_, ?_, hs⟩
  · rw [hm.live] at ht
    rcases List.mem_append.mp ht with ht | ht
    · exact h.live t (List.mem_of_mem_filter ht)
    · exact owner_of_not_begins ho hm hb t ht
  · rw [hm.underway]
    exact h.underway

/-- Live tasks return and messages are processed. -/
theorem AtRest.fewer {i : Int} {w w' : World} (h : AtRest i w)
    (hl : ∀ t ∈ w'.rt.live, t ∈ w.rt.live) (hu : ∀ e ∈ w'.rt.underway, e ∈ w.rt.underway)
    (hs : w'.Each fun j info => j = i → info.status = .stopped) : AtRest i w' :=
  ⟨fun t ht => h.live t (hl t ht), fun e he => h.underway e (hu e he), hs⟩

theorem Sends.owner {spec : TaskSpec} {i : Int} {status : StreamStatus} {connectedAt : Option ℕ}
    {sourceAddress : Option String}
    (h : spec.Sends (.inputStateChanged i status connectedAt sourceAddress)) :
    spec.owner = .input i := by
  cases h <;> rfl

/-- A message in processing is not about the input. -/
theorem AtRest.applied {i : Int} {w : World} (h : AtRest i w) (ho : w.rt.Ordered) :
    (applyProcessing w).2.Each fun j info => j = i → info.status = .stopped := by
  rcases applyProcessing_streams w with hs | ⟨e, hp, hs⟩
  · exact h.stopped.of_eq hs
  have he : e ∈ w.rt.underway := by simp [Runtime.underway, hp]
  rcases applyChange_cases e.change w.streams with hc | ⟨j, info, info', hj, hc, hinfo⟩
  · exact h.stopped.of_eq (hs.trans hc)
  refine h.stopped.insert (hs.trans hc) ?_
  rcases hinfo with ⟨_, _, _, hchange, _⟩ | ⟨_, _, _, _, _, _, _, rfl⟩
  · rintro rfl
    have hsends := (ho.underway e he).1
    rw [hchange] at hsends
    exact absurd (Sends.owner hsends) (h.underway e he)
  · exact h.stopped j info hj

theorem Section.atRest {k : SectionKind} {i : Int} {w w' : World} (hk : k ∈ controlKinds)
    (hs : Section k w w') (ho : InOrder w) (h : AtRest i w) (hb : ¬ Begins i w w') :
    AtRest i w' := by
  cases hs with
  | remove | enter | load => simp [controlKinds] at hk
  | spawn t hl _ hs => exact h.moves ho.ordered hl.moves hb (h.stopped.of_eq hs)
  | create t hl hs => exact h.moves ho.ordered hl.moves hb (h.stopped.of_eq hs)
  | tend j info info' launched aborted hj hs ht _ hm =>
    refine h.moves ho.ordered hm hb (h.stopped.insert hs fun hji => ?_)
    rw [ht.status]
    exact h.stopped j info hj hji
  | analyse j a =>
    rcases insertAnalysis_ok j a w with hw | ⟨info, hj, hw⟩
    · rwa [hw]
    · rw [hw]
      exact ⟨h.live, h.underway, h.stopped.insert rfl (h.stopped j info hj)⟩
  | restart j info info' t launched hj hs howner _ _ hl =>
    refine h.moves ho.ordered hl.moves hb (h.stopped.insert hs fun hji => ?_)
    rw [hji] at howner
    exact absurd howner
      (owner_of_not_begins ho.ordered hl.moves hb t List.mem_cons_self)
  | install env j new =>
    rcases sptsInstallSection_ok env j new w with
      hw | ⟨info, info', tasks, hj, hs, _, _, _, _, hst⟩
    · rwa [hw]
    refine h.moves ho.ordered hst.launches.moves hb (h.stopped.insert hs fun hji => ?_)
    subst hji
    obtain ⟨paused, hfound⟩ := sptsInstallSection_found env new hj
    exact absurd (.inr ⟨env, new, paused, hfound, rfl⟩) hb
  | stop j =>
    rcases stopInputSection_ok j w with
      ⟨e, hw⟩ | ⟨info, info', aborted, _, hs, _, _, hstatus, _, _, hab, _⟩
    · rw [hw]
      exact h
    · exact h.moves ho.ordered hab.moves hb (h.stopped.insert hs fun _ => hstatus)
  | receive =>
    have hlive : ∀ t ∈ (StreamGateway.receive w).2.rt.live, t ∈ w.rt.live := by
      intro t ht
      rwa [receive_live] at ht
    have hunderway : ∀ e ∈ (StreamGateway.receive w).2.rt.underway, e ∈ w.rt.underway := by
      intro e he
      rwa [receive_underway] at he
    exact h.fewer hlive hunderway (h.stopped.of_eq (receive_streams w))
  | apply =>
    have hlive : ∀ t ∈ (applyProcessing w).2.rt.live, t ∈ w.rt.live := by
      intro t ht
      rwa [applyProcessing_live] at ht
    exact h.fewer hlive (applyProcessing_underway w) (h.applied ho.ordered)

theorem TaskStep.atRest {i : Int} {w w' : World} (hs : TaskStep w w') (h : AtRest i w)
    (hc : Settles w w') : AtRest i w' := by
  cases hs with
  | send =>
    refine ⟨h.live, fun e' he => ?_, h.stopped⟩
    rcases mem_underway_send.mp he with he | rfl
    · exact h.underway e' he
    · exact h.live _ (hc.sent e' rfl)
  | finish => exact h.fewer (fun t ht => List.mem_of_mem_filter ht) (fun _ he => he) h.stopped
  | tick => exact h.fewer (fun _ ht => ht) (fun _ he => he) h.stopped

theorem atRest_step {i : Int} (w w' : World) (h : InOrder w ∧ AtRest i w)
    (hs : Sections controlKinds w w' ∨ TaskStep w w') (hc : Settles w w' ∧ ¬ Begins i w w') :
    InOrder w' ∧ AtRest i w' := by
  refine ⟨inOrder_step (by simp [streamKinds]) w w' h.1 hs hc.1, ?_⟩
  rcases hs with (hs | ⟨k, hk, hs⟩) | hs
  · exact h.2.moves h.1.ordered hs.runtime.moves hc.2 (h.2.stopped.of_eq hs.streams)
  · exact hs.atRest hk h.1 h.2 hc.2
  · exact hs.atRest h.2 hc.1

/-- In every run that settles, only messages of current tasks are processed, and a stopped
input stays so until it begins anew. -/
theorem fresh_of_controlRun {p : Pool World} (h : ControlRun Settles p) : Fresh Settles p := by
  have hp := safe_of_controlRun h
  refine ⟨fun e he => ?_, fun i q r hstep hc hstops hruns info hi => ?_⟩
  · have he : e ∈ p.shared.rt.underway := List.mem_append_left _ (Option.mem_toList.mpr he)
    exact (hp.1.ordered.underway e he).2
  · have hq : Pool.Safe InOrder (Sections controlKinds) Later q :=
      hp.step (fun p w hp => hp.takes w) later_of_step (inOrder_step (by simp [streamKinds]))
        hstep hc
    have hrest : Pool.Safe (fun w => InOrder w ∧ AtRest i w) (Sections controlKinds) Later q :=
      ⟨⟨hq.1, .of_stops hc hstops⟩, hq.2⟩
    have hr := hrest.runs (fun p w hp => hp.takes w) later_of_step atRest_step hruns
    exact hr.1.2.stopped i info hi rfl

/-! ## A stop that settles -/

def idle : Thread World := ⟨.ret (), none⟩

/-- Nothing was to be loaded, and the call that creates the input has arrived. -/
def creatingPool : Pool World :=
  ⟨.boot emptyDatabase,
    [idle, ⟨(Operation.createInput (udpInputRequest 5000)).prog localEnv, none⟩]⟩

/-- The run that creates the input, if each of its steps passes the check. -/
theorem runs_creation {calls : Prog World Unit → Prop} {C : World → World → Prop}
    {check : World → World → Bool} (hC : ∀ w w', check w w' = true → C w w')
    (hload : (bootPool localEnv emptyDatabase).advances check [0, 0, 0, 0, 0, 0, 0, 0] =
      some ⟨.boot emptyDatabase, [idle]⟩)
    (hcall : calls ((Operation.createInput (udpInputRequest 5000)).prog localEnv))
    (hboot : C (.boot emptyDatabase) (.boot emptyDatabase))
    (hcreate : creatingPool.advances check [1, 1, 1, 1, 1] =
      some ⟨runningWorld, [idle, idle]⟩) :
    Pool.Runs calls TaskStep C (bootPool localEnv emptyDatabase) ⟨runningWorld, [idle, idle]⟩ := by
  have hstep : Pool.Step calls TaskStep ⟨.boot emptyDatabase, [idle]⟩ creatingPool := .call hcall
  exact (Pool.runs_of_advances hC _ hload).trans
    (.head ⟨hstep, hboot⟩ (Pool.runs_of_advances hC _ hcreate))

/-- The task of the input reports a connection. -/
def connectedMessage : Envelope :=
  ⟨⟨0, .udpInput 1 (some "UDP Listener 5000") 5000 none none none (some ⟨⟩) 0⟩,
    .inputStateChanged 1 .connected none none⟩

/-- A message of a live task settles. -/
theorem settles_send {w : World} {e : Envelope} (h : e.sender ∈ w.rt.live) :
    Settles w (w.send e) := by
  refine ⟨fun e' heq => ?_, fun _ ht hnew => absurd ht hnew, fun i ⟨hok, heq⟩ => ?_,
    fun _ ht hnew => absurd ht hnew⟩
  · have hqueue : w.rt.queue ++ [e] = w.rt.queue ++ [e'] := congrArg (fun w => w.rt.queue) heq
    obtain rfl : e = e' := by simpa using hqueue
    exact h
  · have hqueue : w.rt.queue ++ [e] = (stopInputSection i w).2.rt.queue :=
      congrArg (fun w => w.rt.queue) heq
    rcases stopInputSection_ok i w with ⟨e, hw⟩ | ⟨_, _, _, _, _, _, _, _, _, _, hab, _⟩
    · rw [hw] at hok
      exact absurd hok (by simp)
    · rw [hab.queue] at hqueue
      exact absurd hqueue (by simp)

/-- A step that sends no message settles if this is so. -/
def settles (w w' : World) : Bool :=
  w'.rt.queue.length ≤ w.rt.queue.length ∧
  (∀ t ∈ w'.rt.aborted, t ∈ w.rt.aborted ∨ ∀ e ∈ w.rt.underway, e.sender ≠ t) ∧
  (∀ t ∈ w'.rt.spawned, t ∈ w.rt.spawned ∨ (∀ u ∈ w.rt.live, u.spec.owner ≠ t.spec.owner) ∧
    ∀ e ∈ w.rt.underway, e.sender.spec.owner ≠ t.spec.owner) ∧
  ((∀ s ∈ w'.streams.toPairs, s.2.status ≠ .stopped) ∨ w.rt.underway = [] ∧
    ∀ t ∈ w.rt.live, ∃ s ∈ w.streams.toPairs, t.spec.owner = .input s.1 ∧
      s.2.taskHandle = some t)

theorem settles_of_check {w w' : World} (h : settles w w' = true) : Settles w w' := by
  obtain ⟨hqueue, haborted, hspawned, hstopped⟩ := of_decide_eq_true h
  refine ⟨fun e heq => ?_, fun t ht hnew => (haborted t ht).resolve_left hnew,
    fun i ⟨hok, heq⟩ => ?_, fun t ht hnew _ => (hspawned t ht).resolve_left hnew⟩
  · rw [heq] at hqueue
    simp only [World.send, List.length_append, List.length_singleton] at hqueue
    omega
  · rcases hstopped with hnone | ⟨hnone, hheld⟩
    · rcases stopInputSection_ok i w with ⟨e, hw⟩ | ⟨_, info', _, _, hs, _, _, hstatus, _⟩
      · rw [hw] at hok
        exact absurd hok (by simp)
      · refine absurd hstatus (hnone (i, info') (HashMap.mem_toPairs.mpr ?_))
        rw [heq, hs]
        exact AList.lookup_insert _
    · refine ⟨fun e he => absurd (hnone ▸ he) List.not_mem_nil, fun t ht howner => ?_⟩
      obtain ⟨⟨j, info⟩, hmem, howner', hhandle⟩ := hheld t ht
      obtain rfl := Owner.input.inj (howner.symm.trans howner')
      exact ⟨info, HashMap.mem_toPairs.mp hmem, hhandle⟩

/-- The report was processed. -/
def settledWorld : World := (runningWorld.send connectedMessage).after processMessage

/-- The input is about to be stopped. -/
def settledPool : Pool World :=
  ⟨settledWorld, [idle, idle, idle, ⟨.step (fun w => (stopInputSection 1 w).2) fun _ =>
    .release (.ret ()), some .write⟩]⟩

theorem controlRun_settled : ControlRun Settles settledPool := by
  have hcheck : ∀ w w', settles w w' = true → Settles w w' := fun _ _ => settles_of_check
  refine ⟨localEnv, emptyDatabase, runningWorld, [idle, idle], ?_, ?_, ?_⟩
  · exact runs_creation hcheck rfl (.inl ⟨_, .createInput (udpInputRequest 5000), rfl, rfl⟩)
      (hcheck _ _ (by decide +kernel)) rfl
  · intro t ht
    have : t = idle := by simpa using ht
    rw [this]
    rfl
  · have hsend : Pool.Step ControlCall TaskStep ⟨runningWorld, [idle, idle]⟩
        ⟨runningWorld.send connectedMessage, [idle, idle]⟩ :=
      .outside (.send (by decide +kernel) (.udpInput none none (by simp)))
    have hprocess : Pool.Step ControlCall TaskStep
        ⟨runningWorld.send connectedMessage, [idle, idle]⟩
        ⟨runningWorld.send connectedMessage, [idle, idle, ⟨processMessage, none⟩]⟩ :=
      .call (.inr rfl)
    have hstop : Pool.Step ControlCall TaskStep ⟨settledWorld, [idle, idle, idle]⟩
        ⟨settledWorld, [idle, idle, idle, ⟨(Operation.stopInput 1).prog localEnv, none⟩]⟩ :=
      .call (.inl ⟨_, .stopInput 1, rfl, rfl⟩)
    have hprocessed : Pool.Runs ControlCall TaskStep Settles
        ⟨runningWorld.send connectedMessage, [idle, idle, ⟨processMessage, none⟩]⟩
        ⟨settledWorld, [idle, idle, idle]⟩ :=
      Pool.runs_of_advances hcheck [2, 2, 2, 2, 2] rfl
    exact .head ⟨hsend, settles_send (by decide +kernel)⟩
      (.head ⟨hprocess, hcheck _ _ (by decide +kernel)⟩
        ((hprocessed.tail ⟨hstop, hcheck _ _ (by decide +kernel)⟩).trans
          (Pool.runs_of_advances hcheck [3] rfl)))

theorem stopInput_fresh : Fresh Settles settledPool := fresh_of_controlRun controlRun_settled

/-! ## A message that is late -/

theorem sptsInstallSection_listening {env : Env} {i : Int} {new : InputInfo} {w : World}
    {paused : List AnalysisType} (h : (sptsInstallSection env i new w).1 = .ok paused) :
    ((sptsInstallSection env i new w).2.streams.lookup i).map (fun info => info.status) =
      some .listening := by
  unfold sptsInstallSection at h ⊢
  split at h
  · exact absurd h (by simp)
  · simp only [takePaused, AList.lookup_insert]
    rw [restartStopped_frame]
    rfl

/-- No task is spawned, and the input does not listen. -/
def keepsOff (i : Int) (w w' : World) : Bool :=
  w'.rt.spawned = w.rt.spawned ∧
    (w'.streams.lookup i).map (fun info => info.status) ≠ some .listening

theorem not_begins_of_keepsOff {i : Int} {w w' : World} (h : keepsOff i w w' = true) :
    ¬ Begins i w w' := by
  obtain ⟨hs, hl⟩ := of_decide_eq_true h
  rintro (⟨t, ht, hnew, _⟩ | ⟨env, new, paused, hok, rfl⟩)
  · rw [hs] at ht
    exact hnew ht
  · exact hl (sptsInstallSection_listening hok)

/-- The message is in the queue when the input is stopped. -/
def lateWorld : World := stopInputSection 1 (runningWorld.send connectedMessage) |>.2

/-- The call that stops the input holds the guard. -/
def stoppingPool : Pool World :=
  ⟨runningWorld.send connectedMessage,
    [idle, idle, ⟨.step (fun w => (stopInputSection 1 w).2) fun _ => .release (.ret ()),
      some .write⟩]⟩

theorem controlRun_stopping : ControlRun (fun _ _ => True) stoppingPool := by
  have htrue : ∀ s s' : World, (fun _ _ => true) s s' = true → True := fun _ _ _ => trivial
  refine ⟨localEnv, emptyDatabase, runningWorld, [idle, idle], ?_, ?_, ?_⟩
  · exact runs_creation htrue rfl
      (.inl ⟨_, .createInput (udpInputRequest 5000), rfl, rfl⟩) trivial rfl
  · intro t ht
    have : t = idle := by simpa using ht
    rw [this]
    rfl
  · have hsend : Pool.Step ControlCall TaskStep ⟨runningWorld, [idle, idle]⟩
        ⟨runningWorld.send connectedMessage, [idle, idle]⟩ :=
      .outside (.send (by decide +kernel) (.udpInput none none (by simp)))
    have hcall : Pool.Step ControlCall TaskStep ⟨runningWorld.send connectedMessage, [idle, idle]⟩
        ⟨runningWorld.send connectedMessage,
          [idle, idle, ⟨(Operation.stopInput 1).prog localEnv, none⟩]⟩ :=
      .call (.inl ⟨_, .stopInput 1, rfl, rfl⟩)
    exact .head ⟨hsend, trivial⟩ (.head ⟨hcall, trivial⟩
      (Pool.runs_of_advances htrue [2] rfl))

/-- The message is processed after the stop, and the stopped input is shown connected. -/
theorem stopInput_shown_connected :
    ¬ ∀ p, ControlRun (fun _ _ => True) p → Fresh (fun _ _ => True) p := by
  intro h
  have hview : ((Pool.mk lateWorld [idle, idle, idle, ⟨processMessage, none⟩]).advances
      (keepsOff 1) [3, 3, 3]).map (fun p => (p.shared.streams.lookup 1).map
        fun info => info.status) = some (some .connected) := by
    decide +kernel
  obtain ⟨r, hr, hview⟩ := Option.map_eq_some_iff.mp hview
  obtain ⟨info, hi, hstatus⟩ := Option.map_eq_some_iff.mp hview
  have hkeeps : ∀ w w', keepsOff 1 w w' = true → True ∧ ¬ Begins 1 w w' :=
    fun w w' h => ⟨trivial, not_begins_of_keepsOff h⟩
  have hruns : Pool.Runs ControlCall TaskStep (fun w w' => True ∧ ¬ Begins 1 w w')
      ⟨lateWorld, [idle, idle, ⟨.release (.ret ()), some .write⟩]⟩ r := by
    have hcall : Pool.Step ControlCall TaskStep ⟨lateWorld, [idle, idle, idle]⟩
        ⟨lateWorld, [idle, idle, idle, ⟨processMessage, none⟩]⟩ := .call (.inr rfl)
    refine (Pool.runs_of_advances hkeeps [2] rfl).trans
      (.head ⟨hcall, hkeeps _ _ (by decide +kernel)⟩ ?_)
    exact Pool.runs_of_advances hkeeps [3, 3, 3] hr
  have hstep : Pool.Step ControlCall TaskStep stoppingPool
      ⟨lateWorld, [idle, idle, ⟨.release (.ret ()), some .write⟩]⟩ :=
    Pool.step_of_advance (k := 2) rfl
  have hstopped := (h stoppingPool controlRun_stopping).2 1 _ r hstep trivial ⟨rfl, rfl⟩ hruns
    info hi
  rw [hstatus] at hstopped
  exact absurd hstopped (by decide)

end StreamGateway
