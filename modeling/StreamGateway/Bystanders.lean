import StreamGateway.Isolation
import StreamGateway.OutputRecords

/-!
# Inputs that no request is about

An input stays as it is while requests about other inputs come and go, however their steps
interleave. Its tasks run on and report, and their messages are all that happens to its entry.
Its channel, its handles, its outputs, its analyses and its rows stay, and no task of it is
aborted or spawned.
-/
namespace StreamGateway

variable {K : Int → Prop} {held : Option LockMode} {i : Int}

/-! ## Entries -/

/-- The output is the same, whatever its task has reported. -/
def OutputInfo.Reported (o o' : OutputInfo) : Prop :=
  o' = { o with
    status := o'.status
    connectedAt := o'.connectedAt
    peerAddress := o'.peerAddress }

theorem OutputInfo.Reported.refl (o : OutputInfo) : o.Reported o := rfl

theorem OutputInfo.Reported.trans {o o' o'' : OutputInfo} (h : o.Reported o')
    (h' : o'.Reported o'') : o.Reported o'' :=
  Eq.trans h' (congrArg (fun x : OutputInfo => { x with
    status := o''.status
    connectedAt := o''.connectedAt
    peerAddress := o''.peerAddress }) h)

theorem OutputInfo.reported_withStatus (o : OutputInfo) (status : StreamStatus)
    (connectedAt : Option ℕ) (peerAddress : Option String) :
    o.Reported (o.withStatus status connectedAt peerAddress) := rfl

/-- The entry is the same, whatever the tasks have reported. -/
structure InputInfo.Reported (info info' : InputInfo) : Prop where
  same : info' = { info with
    status := info'.status
    connectedAt := info'.connectedAt
    sourceAddress := info'.sourceAddress
    outputTasks := info'.outputTasks }
  outputs : ∀ k, Option.Rel OutputInfo.Reported (info.outputTasks.lookup k)
    (info'.outputTasks.lookup k)

section Relation

variable {α : Type} {R : α → α → Prop}

theorem rel_refl (hR : ∀ a, R a a) : ∀ x : Option α, Option.Rel R x x
  | none => .none
  | some a => .some (hR a)

theorem rel_trans (hR : ∀ {a b c}, R a b → R b c → R a c) {x y z : Option α}
    (h : Option.Rel R x y) (h' : Option.Rel R y z) : Option.Rel R x z := by
  cases h with
  | none => exact h'
  | some hab =>
    cases h' with
    | some hbc => exact .some (hR hab hbc)

/-- One value is replaced by a related one. -/
theorem rel_lookup_insert {κ : Type} [DecidableEq κ] (hR : ∀ a, R a a) {m : HashMap κ α} {k : κ}
    {a a' : α} (ha : m.lookup k = some a) (hr : R a a') (j : κ) :
    Option.Rel R (m.lookup j) ((m.insert k a').lookup j) := by
  by_cases hj : j = k
  · subst hj
    rw [AList.lookup_insert, ha]
    exact .some hr
  · rw [AList.lookup_insert_ne hj]
    exact rel_refl hR _

end Relation

theorem InputInfo.Reported.refl (info : InputInfo) : info.Reported info :=
  ⟨rfl, fun _ => rel_refl .refl _⟩

theorem InputInfo.Reported.trans {info info' info'' : InputInfo} (h : info.Reported info')
    (h' : info'.Reported info'') : info.Reported info'' := by
  refine ⟨h'.same.trans ?_, fun k => rel_trans .trans (h.outputs k) (h'.outputs k)⟩
  exact congrArg (fun x : InputInfo => { x with
    status := info''.status
    connectedAt := info''.connectedAt
    sourceAddress := info''.sourceAddress
    outputTasks := info''.outputTasks }) h.same

/-! ## Steps -/

/-- The tasks that were ever spawned for the input. -/
def Runtime.spawnedFor (rt : Runtime) (i : Int) : List Task :=
  rt.spawned.filter fun t => t.spec.owner.inputId = i

def Runtime.abortedFor (rt : Runtime) (i : Int) : List Task :=
  rt.aborted.filter fun t => t.spec.owner.inputId = i

/-- The input is as it was: its entry but for what its tasks have reported, its tasks, and its
rows. -/
structure Unaffected (i : Int) (w w' : World) : Prop where
  entry : Option.Rel InputInfo.Reported (w.streams.lookup i) (w'.streams.lookup i)
  spawned : w'.rt.spawnedFor i = w.rt.spawnedFor i
  aborted : w'.rt.abortedFor i = w.rt.abortedFor i
  row : w'.db.inputs.find i = w.db.inputs.find i
  outputRows : w'.db.outputsOf i = w.db.outputsOf i

section Steps

variable {w w' : World}

theorem Unaffected.trans {w'' : World} (h : Unaffected i w w') (h' : Unaffected i w' w'') :
    Unaffected i w w'' where
  entry := rel_trans .trans h.entry h'.entry
  spawned := h'.spawned.trans h.spawned
  aborted := h'.aborted.trans h.aborted
  row := h'.row.trans h.row
  outputRows := h'.outputRows.trans h.outputRows

/-- The tasks and the rows stay as they are. -/
theorem Unaffected.of_entry
    (hentry : Option.Rel InputInfo.Reported (w.streams.lookup i) (w'.streams.lookup i))
    (hspawned : w'.rt.spawned = w.rt.spawned) (haborted : w'.rt.aborted = w.rt.aborted)
    (hdb : w'.db = w.db) : Unaffected i w w' where
  entry := hentry
  spawned := by rw [Runtime.spawnedFor, hspawned, Runtime.spawnedFor]
  aborted := by rw [Runtime.abortedFor, haborted, Runtime.abortedFor]
  row := by rw [hdb]
  outputRows := by rw [hdb]

theorem Unaffected.refl (w : World) : Unaffected i w w :=
  .of_entry (rel_refl .refl _) rfl rfl rfl

/-- Tasks of other inputs do not count. -/
theorem filter_append_others {ts us : List Task} (hi : ¬ K i)
    (h : ∀ t ∈ us, K t.spec.owner.inputId) :
    (ts ++ us).filter (fun t => t.spec.owner.inputId = i) =
      ts.filter fun t => t.spec.owner.inputId = i := by
  have hnone : us.filter (fun t => t.spec.owner.inputId = i) = [] := by
    refine List.filter_eq_nil_iff.mpr fun t ht heq => hi ?_
    exact of_decide_eq_true heq ▸ h t ht
  rw [List.filter_append, hnone, List.append_nil]

theorem KeepsTo.unaffected (h : KeepsTo K w w') (hi : ¬ K i) : Unaffected i w w' := by
  obtain ⟨ts, hts, hfor⟩ := h.runtime.spawned
  obtain ⟨us, hus, husfor⟩ := h.runtime.aborted
  refine ⟨?_, ?_, ?_, h.rows.inputs i hi, h.rows.outputs i hi⟩
  · rw [h.entries i hi]
    exact rel_refl .refl _
  · rw [Runtime.spawnedFor, hts]
    exact filter_append_others hi fun t ht => (hfor t ht).1
  · rw [Runtime.abortedFor, hus]
    exact filter_append_others hi husfor

/-- A message writes what a task has reported, and nothing else. -/
theorem unaffected_applyProcessing (i : Int) (w : World) :
    Unaffected i w (applyProcessing w).2 := by
  have hentry : Option.Rel InputInfo.Reported (w.streams.lookup i)
      ((applyProcessing w).2.streams.lookup i) := by
    rcases applyProcessing_streams w with hs | ⟨e, _, hs⟩
    · rw [hs]
      exact rel_refl .refl _
    rcases applyChange_cases e.change w.streams with hc | ⟨j, info, info', hj, hc, hinfo⟩
    · rw [hs, hc]
      exact rel_refl .refl _
    rw [hs, hc]
    refine rel_lookup_insert .refl hj ?_ i
    rcases hinfo with ⟨status, connectedAt, sourceAddress, _, rfl⟩ |
      ⟨k, output, status, connectedAt, peerAddress, _, ho, rfl⟩
    · exact ⟨rfl, fun _ => rel_refl .refl _⟩
    · exact ⟨rfl, rel_lookup_insert .refl ho (output.reported_withStatus _ _ _)⟩
  refine .of_entry hentry ?_ ?_ (applyProcessing_db w)
  · unfold applyProcessing
    split <;> rfl
  · unfold applyProcessing
    split <;> rfl

/-- Tasks report, end and wait on their own. -/
theorem TaskStep.unaffected (ho : TaskStep w w') (i : Int) : Unaffected i w w' := by
  cases ho with
  | send => exact .of_entry (rel_refl .refl _) rfl rfl rfl
  | finish => exact .of_entry (rel_refl .refl _) rfl rfl rfl
  | tick => exact .of_entry (rel_refl .refl _) rfl rfl rfl

theorem unaffected_of_moved (h : Pool.Moved (keepsGuar K) TaskStep w w') (hi : ¬ K i) :
    Unaffected i w w' := by
  rcases h with rfl | ⟨_, hkeeps | rfl⟩ | ho
  · exact .refl _
  · exact hkeeps.unaffected hi
  · exact unaffected_applyProcessing i w
  · exact ho.unaffected i

end Steps

/-! ## Messages -/

def StateChange.inputId : StateChange → Int
  | .inputStateChanged inputId .. => inputId
  | .outputStateChanged inputId .. => inputId

theorem Sends.inputId {spec : TaskSpec} {change : StateChange} (h : spec.Sends change) :
    spec.owner.inputId = change.inputId := by
  cases h <;> rfl

/-- The messages were sent by tasks of the input or of its outputs. -/
def OwnMessages (i : Int) (es : List Envelope) : Prop :=
  ∀ e ∈ es, e.sender.spec.Sends e.change ∧ e.sender.spec.owner.inputId = i

/-- Messages are applied one after the other. -/
def applyChanges (es : List Envelope) (streams : HashMap Int InputInfo) : HashMap Int InputInfo :=
  es.foldl (fun streams e => (applyChange e.change streams).2) streams

/-- A message about one input does nothing to the others. -/
theorem lookup_applyChange_ne {change : StateChange} (hi : change.inputId ≠ i)
    (streams : HashMap Int InputInfo) :
    (applyChange change streams).2.lookup i = streams.lookup i := by
  rcases applyChange_cases change streams with hc | ⟨j, info, info', _, hc, hinfo⟩
  · rw [hc]
  · have hj : change.inputId = j := by
      rcases hinfo with ⟨_, _, _, rfl, _⟩ | ⟨_, _, _, _, _, rfl, _⟩ <;> rfl
    rw [hc, AList.lookup_insert_ne]
    rintro rfl
    exact hi hj

/-- What a message does to an entry depends on that entry alone. -/
theorem lookup_applyChange_congr {streams streams' : HashMap Int InputInfo} (change : StateChange)
    (h : streams.lookup i = streams'.lookup i) :
    (applyChange change streams).2.lookup i = (applyChange change streams').2.lookup i := by
  by_cases hi : change.inputId = i
  · subst hi
    cases change with
    | inputStateChanged inputId newStatus connectedAt sourceAddress =>
      have h : streams.lookup inputId = streams'.lookup inputId := h
      simp only [applyChange, StateChange.inputId, ← h]
      cases hinfo : streams.lookup inputId with
      | none => exact hinfo.trans (hinfo.symm.trans h)
      | some info => simp only [AList.lookup_insert]
    | outputStateChanged inputId outputId newStatus connectedAt peerAddress =>
      have h : streams.lookup inputId = streams'.lookup inputId := h
      simp only [applyChange, StateChange.inputId, ← h]
      cases hinfo : streams.lookup inputId with
      | none => exact hinfo.trans (hinfo.symm.trans h)
      | some info =>
        cases ho : info.outputTasks.lookup outputId with
        | none => simpa only [ho] using h
        | some output => simp only [ho, AList.lookup_insert]
  · rw [lookup_applyChange_ne hi, lookup_applyChange_ne hi, h]

/-- A step applies a message of the input's own tasks to its entry, or it leaves the entry. -/
def Heeds (i : Int) (w w' : World) : Prop :=
  w'.streams.lookup i = w.streams.lookup i ∨ ∃ e, OwnMessages i [e] ∧
    w'.streams.lookup i = (applyChange e.change w.streams).2.lookup i

theorem heeds_of_moved {w w' : World} (h : Pool.Moved (keepsGuar K) TaskStep w w')
    (hi : ¬ K i) (hmessages : ∀ e ∈ w.rt.underway, e.sender.spec.Sends e.change) :
    Heeds i w w' := by
  rcases h with rfl | ⟨_, hkeeps | rfl⟩ | ho
  · exact .inl rfl
  · exact .inl (hkeeps.entries i hi)
  · rcases applyProcessing_streams w with hs | ⟨e, he, hs⟩
    · exact .inl (by rw [hs])
    · have hsends := hmessages e (by simp [Runtime.underway, he])
      by_cases hown : e.change.inputId = i
      · refine .inr ⟨e, fun e' he' => ?_, by rw [hs]⟩
        obtain rfl := List.mem_singleton.mp he'
        exact ⟨hsends, (Sends.inputId hsends).trans hown⟩
      · exact .inl (by rw [hs, lookup_applyChange_ne hown])
  · exact .inl (by rw [ho.streams])

/-! ## Runs -/

/-- No call is under way, so all that come are requests about other inputs. -/
theorem behaving_returned {p : Pool World} (hreturned : p.Returned)
    (hsettled : SettledFrom p.shared K p.shared) :
    Pool.Behaving (SettledFrom p.shared K) (settledRely p.shared K) (keepsGuar K) p := by
  refine ⟨hsettled, ?_, fun t ht => ?_⟩
  · refine List.pairwise_of_forall_mem_list fun t ht u hu => ?_
    rw [(hreturned u hu).2]
    exact apart_none _
  · rw [(hreturned t ht).1]
    exact keeps_ret

/-- Whatever requests about other inputs come once no call is under way, and however their steps
interleave with each other, with the tasks and with the processor, an input that was made before
is left as it is. What becomes of its entry is what messages of its own tasks make of it. -/
theorem bystander_unaffected {env : Env} {db : Database} {p q : Pool World} {i : Int}
    (hdb : db.Consistent)
    (hp : Pool.Runs GatewayCall TaskStep (fun _ _ => True) (bootPool env db) p)
    (hreturned : p.Returned) (hi : i ≤ p.shared.db.inputs.lastId)
    (hq : Pool.Runs (CallsIn p.shared fun j => j ≠ i) TaskStep (fun _ _ => True) p q) :
    Unaffected i p.shared q.shared ∧ ∃ es, OwnMessages i es ∧
      q.shared.streams.lookup i = (applyChanges es p.shared.streams).lookup i := by
  have hsettled : SettledFrom p.shared (fun j => j ≠ i) p.shared := by
    refine ⟨runs_wired hdb hp, runs_attributed hdb hp, fun j hj => ?_, .of_eq rfl⟩
    rwa [not_not.mp hj]
  have howners := (runs_keepOwners hdb hp (fun _ h => CallsIn.gatewayCall h) hq).1
  have hmoves := (behaving_returned hreturned hsettled).moves settled_fits howners
  have hall : Pool.Runs GatewayCall TaskStep (fun _ _ => True) (bootPool env db) q ∧
      Unaffected i p.shared q.shared ∧ ∃ es, OwnMessages i es ∧
        q.shared.streams.lookup i = (applyChanges es p.shared.streams).lookup i := by
    clear hq howners
    induction hmoves with
    | refl => exact ⟨hp, .refl _, [], fun e he => absurd he List.not_mem_nil, rfl⟩
    | tail _ hstep ih =>
      obtain ⟨hruns, hsame, es, hes, hentry⟩ := ih
      have hreach := reachable_outputsLive ⟨env, db, _, hruns⟩
      refine ⟨hruns.tail ⟨hstep.1.mono fun _ hc => hc.gatewayCall, trivial⟩,
        hsame.trans (unaffected_of_moved hstep.2.2 (not_not.mpr rfl)), ?_⟩
      rcases heeds_of_moved hstep.2.2 (not_not.mpr rfl) hreach.messages with hs | ⟨e, he, hs⟩
      · exact ⟨es, hes, hs.trans hentry⟩
      · refine ⟨es ++ [e], fun e' he' => ?_, ?_⟩
        · exact (List.mem_append.mp he').elim (hes e') (he e')
        · rw [hs, applyChanges, List.foldl_append]
          exact lookup_applyChange_congr e.change hentry
  exact hall.2

/-- After a restart with one input, another one is made. -/
theorem bystander_unaffected_createInput : ∃ p q : Pool World,
    (p.shared.streams.lookup 1).map (·.outputTasks.keys) = some [1] ∧
    q.shared.streams.keys = [2, 1] ∧ Unaffected 1 p.shared q.shared ∧
    ∃ es, OwnMessages 1 es ∧
      q.shared.streams.lookup 1 = (applyChanges es p.shared.streams).lookup 1 := by
  have hload : ((loadFromDb localEnv).ignore.alone false (.boot halfServingWorld.db)).any
      (fun r => !r.2.1 && decide ((r.2.2.streams.lookup 1).map (·.outputTasks.keys) = some [1]) &&
        decide (1 ≤ r.2.2.db.inputs.lastId) &&
        ((Operation.createInput (udpInputRequest 6000)).prog localEnv |>.alone false r.2.2).any
          fun r => decide (r.2.2.streams.keys = [2, 1])) = true := by
    decide +kernel
  obtain ⟨⟨⟨⟩, held, w⟩, halone, hview⟩ := (Option.any_eq_true _ _).mp hload
  simp only [Bool.and_eq_true, decide_eq_true_eq, Bool.not_eq_true'] at hview
  obtain ⟨⟨⟨rfl, hentry⟩, hlast⟩, hcreate⟩ := hview
  obtain ⟨⟨⟨⟩, held', w'⟩, hcreated, hkeys⟩ := (Option.any_eq_true _ _).mp hcreate
  obtain ⟨mode, hmode, hp⟩ := @Pool.runs_of_alone World GatewayCall TaskStep
    (loadFromDb localEnv).ignore none _ _ [] _ (fun _ ht => absurd ht List.not_mem_nil) halone
  obtain rfl : mode = none := by simpa using hmode
  have hreturned : ∀ t ∈ [(⟨.ret (), none⟩ : Thread World)], t.rest = .ret () ∧ t.held = none := by
    intro t ht
    obtain rfl := List.mem_singleton.mp ht
    exact ⟨rfl, rfl⟩
  obtain ⟨_, _, hq⟩ := @Pool.runs_of_alone World (CallsIn w fun j => j ≠ 1) TaskStep
    (Operation.prog localEnv (.createInput (udpInputRequest 6000))) none _ _ _ _
    (fun t ht => (hreturned t ht).2) hcreated
  have hcall : Pool.Step (CallsIn w fun j => j ≠ 1) TaskStep ⟨w, [⟨.ret (), none⟩]⟩
      ⟨w, [⟨.ret (), none⟩] ++ [⟨Operation.prog localEnv (.createInput (udpInputRequest 6000)),
        none⟩]⟩ :=
    .call (.inl ⟨localEnv, _, fun _ h => absurd h (by simp [Operation.concerns]), rfl⟩)
  exact ⟨⟨w, [⟨.ret (), none⟩]⟩, _, hentry, of_decide_eq_true hkeys,
    bystander_unaffected stored_halfServingWorld.consistent hp hreturned hlast
      (.head ⟨hcall, trivial⟩ hq)⟩

end StreamGateway
