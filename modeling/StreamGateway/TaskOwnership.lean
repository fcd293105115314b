import StreamGateway.Invariants

/-!
# One task for each input

`start_input` looks at the status of an input under one guard and spawns the task of the
input under another. When no two starts interleave there, and the input is not a program
filter, the entry holds the one live task of the input.
-/
namespace StreamGateway

open Prog

/-- At most one task of the input is live, and the entry of the input holds it. -/
structure Owned (i : Int) (w : World) : Prop where
  unique : ∀ t ∈ w.rt.live, ∀ t' ∈ w.rt.live, t.spec.owner = .input i →
    t'.spec.owner = .input i → t = t'
  held : ∀ t ∈ w.rt.live, t.spec.owner = .input i →
    ∃ info, w.streams.lookup i = some info ∧ info.taskHandle = some t

/-- The second part says it all. -/
theorem owned_of_held {i : Int} {w : World} (h : ∀ t ∈ w.rt.live, t.spec.owner = .input i →
    ∃ info, w.streams.lookup i = some info ∧ info.taskHandle = some t) : Owned i w := by
  refine ⟨fun t ht t' ht' howner howner' => ?_, h⟩
  obtain ⟨info, hi, hh⟩ := h t ht howner
  obtain ⟨info', hi', hh'⟩ := h t' ht' howner'
  obtain rfl := Option.some.inj (hi.symm.trans hi')
  exact Option.some.inj (hh.symm.trans hh')

/-- The calls that start, stop, update and delete inputs, and the processor. -/
def Operation.controlsInput : Operation → Bool
  | startInput .. | stopInput .. | updateInput .. | deleteInput .. | startInputEndpoint ..
  | stopInputEndpoint .. => true
  | _ => false

def InputCall (p : Prog World Unit) : Prop :=
  (∃ env op, op.controlsInput = true ∧ p = Operation.prog env op) ∨ p = processMessage

/-- A step that spawns a task for the input does not spawn that of a program filter, and a
step that enters a new task finds the old one no longer live. -/
structure TakesTurns (i : Int) (w w' : World) : Prop where
  spawned : ∀ t ∈ w'.rt.live, t ∉ w.rt.live → t.spec.owner = .input i → ¬ t.spec.Deferred
  entered : ∀ info info', w.streams.lookup i = some info → w'.streams.lookup i = some info' →
    info'.taskHandle ≠ none → info'.taskHandle ≠ info.taskHandle →
    ∀ t ∈ info.taskHandle, t ∉ w.rt.live

/-! ## Sections -/

/-- No task of the input is new, and the entry keeps its task as long as that is live. -/
theorem Owned.keep {i : Int} {w w' : World} (h : Owned i w)
    (hlive : ∀ t ∈ w'.rt.live, t.spec.owner = .input i → t ∈ w.rt.live)
    (hentry : ∀ info, w.streams.lookup i = some info → ∀ t ∈ info.taskHandle,
      t ∈ w'.rt.live → ∃ info', w'.streams.lookup i = some info' ∧ info'.taskHandle = some t) :
    Owned i w' := by
  refine owned_of_held fun t ht howner => ?_
  obtain ⟨info, hi, hh⟩ := h.held t (hlive t ht howner) howner
  exact hentry info hi t hh ht

theorem Owned.keep_streams {i : Int} {w w' : World} (h : Owned i w)
    (hlive : ∀ t ∈ w'.rt.live, t.spec.owner = .input i → t ∈ w.rt.live)
    (hs : w'.streams = w.streams) : Owned i w' := by
  refine h.keep hlive fun info hi t hh _ => ⟨info, ?_, hh⟩
  rwa [hs]

/-- An entry is replaced by one with the same task. -/
theorem Owned.keep_insert {i j : Int} {w w' : World} {info info' : InputInfo} (h : Owned i w)
    (hlive : ∀ t ∈ w'.rt.live, t.spec.owner = .input i → t ∈ w.rt.live)
    (hj : w.streams.lookup j = some info) (hs : w'.streams = w.streams.insert j info')
    (hh : info'.taskHandle = info.taskHandle) : Owned i w' := by
  refine h.keep hlive fun entry hi t ht _ => ?_
  rw [hs]
  by_cases hij : i = j
  · subst hij
    obtain rfl := Option.some.inj (hj.symm.trans hi)
    exact ⟨info', AList.lookup_insert _, hh.trans ht⟩
  · exact ⟨entry, by rw [AList.lookup_insert_ne hij, hi], ht⟩

/-- A new task is entered when the old one is not live. -/
theorem Owned.enter {i j : Int} {w w' : World} {info info' : InputInfo} {t : Task}
    (h : Owned i w) (hc : TakesTurns i w w') (hj : w.streams.lookup j = some info)
    (hs : w'.streams = w.streams.insert j info') (hh : info'.taskHandle = some t)
    (hlive : ∀ u ∈ w'.rt.live, u.spec.owner = .input i → u ∈ w.rt.live ∨ i = j ∧ u = t) :
    Owned i w' := by
  refine owned_of_held fun u hu howner => ?_
  rw [hs]
  by_cases hij : i = j
  · subst hij
    have hlookup : w'.streams.lookup i = some info' := by rw [hs]; exact AList.lookup_insert _
    refine ⟨info', AList.lookup_insert _, ?_⟩
    rcases hlive u hu howner with hlive | ⟨_, rfl⟩
    · obtain ⟨entry, hi, hentry⟩ := h.held u hlive howner
      obtain rfl := Option.some.inj (hj.symm.trans hi)
      by_contra hne
      refine hc.entered info info' hj hlookup ?_ ?_ u hentry hlive
      · simp [hh]
      · rw [hentry]
        exact hne
    · exact hh
  · obtain ⟨entry, hi, hentry⟩ := h.held u
      ((hlive u hu howner).resolve_right fun h => hij h.1) howner
    exact ⟨entry, by rw [AList.lookup_insert_ne hij, hi], hentry⟩

theorem Moves.live_of_owner {i : Int} {launched aborted : List Task} {rt rt' : Runtime}
    (h : Moves launched aborted rt rt') (ho : ∀ t ∈ launched, t.spec.owner.outputId.isSome) :
    ∀ t ∈ rt'.live, t.spec.owner = .input i → t ∈ rt.live := by
  intro t ht howner
  rw [h.live] at ht
  rcases List.mem_append.mp ht with ht | ht
  · exact List.mem_of_mem_filter ht
  · have := ho t ht
    rw [howner] at this
    exact absurd this (by simp [Owner.outputId])

/-- The task of an entry is aborted, and no other entry changes. -/
theorem Owned.vacate {i j : Int} {w w' : World} {info : InputInfo} {aborted : List Task}
    (h : Owned i w) (hj : w.streams.lookup j = some info)
    (ha : Aborts (info.taskHandle.toList ++ aborted) w.rt w'.rt)
    (hs : ∀ i, i ≠ j → w'.streams.lookup i = w.streams.lookup i) : Owned i w' := by
  refine h.keep (fun t ht _ => (ha.live_subset t ht).1) fun entry hi t ht hlive => ?_
  by_cases hij : i = j
  · subst hij
    obtain rfl := Option.some.inj (hj.symm.trans hi)
    have hmem : t ∈ info.taskHandle.toList ++ aborted :=
      List.mem_append_left _ (Option.mem_toList.mpr ht)
    exact absurd hmem (ha.live_subset t hlive).2
  · exact ⟨entry, by rw [hs i hij, hi], ht⟩

/-- The kinds of the sections of the calls and of the processor. -/
def inputKinds : List SectionKind :=
  [.spawn, .tend, .analyse, .restart, .install, .stop, .remove, .receive, .apply]

theorem Section.owned {k : SectionKind} {i : Int} {w w' : World} (hk : k ∈ inputKinds)
    (hs : Section k w w') (h : Owned i w) (hc : TakesTurns i w w') : Owned i w' := by
  cases hs with
  | create | enter | load => simp [inputKinds] at hk
  | spawn t hl hd hs =>
    refine h.keep_streams (fun u hu howner => ?_) hs
    by_contra hnew
    refine hc.spawned u hu hnew howner ?_
    rw [hl.live] at hu
    obtain rfl := List.mem_singleton.mp ((List.mem_append.mp hu).resolve_left hnew)
    exact hd
  | tend j info info' launched aborted hj hs ht _ hm =>
    exact h.keep_insert (hm.live_of_owner ht.outputIds) hj hs ht.taskHandle
  | analyse j a =>
    rcases insertAnalysis_ok j a w with hw | ⟨info, hj, hw⟩
    · rwa [hw]
    · rw [hw]
      exact h.keep_insert (fun t ht _ => ht) hj rfl rfl
  | restart j info info' t launched hj hs howner _ hb hl =>
    refine h.enter hc hj hs hb.taskHandle fun u hu hui => ?_
    rw [hl.live] at hu
    rcases List.mem_append.mp hu with hu | hu
    · exact .inl hu
    rcases List.mem_cons.mp hu with rfl | hu
    · rw [howner] at hui
      exact .inr ⟨(Owner.input.inj hui).symm, rfl⟩
    · have := hb.outputIds u hu
      rw [hui] at this
      exact absurd this (by simp [Owner.outputId])
  | install env j new t hnew hspawned howner =>
    rcases sptsInstallSection_ok env j new w with
      hw | ⟨info, info', tasks, hj, hs, _, hh, _, _, hstarted⟩
    · rwa [hw]
    · exact h.enter hc hj hs (hh.trans hnew) fun u hu hui =>
        .inl (hstarted.launches.moves.live_of_owner hstarted.outputIds u hu hui)
  | stop j =>
    rcases stopInputSection_ok j w with
      ⟨e, hw⟩ | ⟨info, info', aborted, hj, hs, _, _, _, _, _, ha, _⟩
    · rwa [hw]
    · apply h.vacate hj ha
      intro i hij
      rw [hs, AList.lookup_insert_ne hij]
  | remove j =>
    rcases removeInputSection_ok j w with hw | ⟨info, aborted, hj, hs, ha⟩
    · rwa [hw]
    · apply h.vacate hj ha
      intro i hij
      rw [hs, AList.lookup_erase_ne hij]
  | receive => exact h.keep_streams (fun t ht _ => by rwa [receive_live] at ht) (receive_streams w)
  | apply =>
    have hlive : ∀ t ∈ (applyProcessing w).2.rt.live, t.spec.owner = .input i → t ∈ w.rt.live :=
      fun t ht _ => by rwa [applyProcessing_live] at ht
    rcases applyProcessing_streams w with hs | ⟨e, _, hs⟩
    · exact h.keep_streams hlive hs
    rcases applyChange_cases e.change w.streams with hc | ⟨j, info, info', hj, hc, hinfo⟩
    · exact h.keep_streams hlive (hs.trans hc)
    · refine h.keep_insert hlive hj (hs.trans hc) ?_
      rcases hinfo with ⟨_, _, _, _, rfl⟩ | ⟨_, _, _, _, _, _, _, rfl⟩ <;> rfl

/-! ## Runs -/

theorem InputCall.takes {p : Prog World Unit} (h : InputCall p) (w : World) :
    Takes inputKinds p w := by
  rcases h with ⟨env, op, hop, rfl⟩ | rfl
  · refine (op.takes env w).mono ?_
    cases op with
    | startInput | startInputEndpoint => simp [Operation.kinds, startKinds, inputKinds]
    | stopInput | stopInputEndpoint => simp [Operation.kinds, inputKinds]
    | updateInput => simp [Operation.kinds, updateKinds, startKinds, inputKinds]
    | deleteInput => simp [Operation.kinds, inputKinds]
    | _ => exact absurd hop (by simp [Operation.controlsInput])
  · exact (takes_processMessage w).mono (by simp [inputKinds])

theorem TaskStep.owned {i : Int} {w w' : World} (hs : TaskStep w w') (h : Owned i w) :
    Owned i w' := by
  refine h.keep_streams (fun t ht _ => ?_) hs.streams
  cases hs with
  | send => exact ht
  | finish => exact List.mem_of_mem_filter ht
  | tick => exact ht

/-- In every run of such calls whose steps take turns, at most one task of the input is live
and the entry holds it. -/
theorem runs_owned {i : Int} {w : World} {p : Pool World} (h : Owned i w)
    (hruns : Pool.Runs InputCall TaskStep (TakesTurns i) ⟨w, []⟩ p) : Owned i p.shared := by
  have hsafe : Pool.Safe (Owned i) (Sections inputKinds) Later ⟨w, []⟩ :=
    ⟨h, fun _ ht => absurd ht List.not_mem_nil⟩
  refine (hsafe.runs (fun p w hp => hp.takes w) later_of_step (fun w w' h hs hc => ?_) hruns).1
  rcases hs with (hs | ⟨k, hk, hs⟩) | hs
  · refine h.keep_streams (fun t ht _ => ?_) hs.streams
    rwa [hs.runtime.live, List.append_nil] at ht
  · exact hs.owned hk h hc
  · exact hs.owned h

/-! ## One start and two -/

/-- A UDP input was created and stopped. -/
def stoppedWorld : World :=
  runningWorld.after ((Operation.stopInput 1).prog localEnv)

theorem owned_stoppedWorld : Owned 1 stoppedWorld :=
  owned_of_held fun t ht => absurd (show t ∈ ([] : List Task) from ht) List.not_mem_nil

def startCall : Thread World :=
  ⟨(Operation.startInput 1).prog localEnv, none⟩

theorem inputCall_start : InputCall startCall.rest := .inl ⟨_, .startInput 1, rfl, rfl⟩

theorem TakesTurns.refl (i : Int) (w : World) : TakesTurns i w w := by
  refine ⟨fun t ht hnew => absurd ht hnew, fun info info' h h' _ hne => ?_⟩
  obtain rfl := Option.some.inj (h.symm.trans h')
  exact absurd rfl hne

theorem takesTurns_start : TakesTurns 1 stoppedWorld (stoppedWorld.after startCall.rest) := by
  have hlive : ∀ t ∈ (stoppedWorld.after startCall.rest).rt.live, ¬ t.spec.Deferred := by
    decide +kernel
  refine ⟨fun t ht _ _ => hlive t ht, fun info info' h _ _ _ t ht => ?_⟩
  show t ∉ ([] : List Task)
  exact List.not_mem_nil

/-- The run of one start. -/
theorem runs_start : Pool.Runs InputCall TaskStep (TakesTurns 1) ⟨stoppedWorld, []⟩
    ⟨stoppedWorld.after startCall.rest, [⟨.ret (), none⟩]⟩ := by
  refine .head ⟨.call inputCall_start, .refl 1 _⟩ ?_
  refine .head (b := ⟨stoppedWorld, [⟨_, some .write⟩]⟩)
    ⟨@Pool.Step.acquire _ _ _ stoppedWorld [] [] .write _ (by simp), .refl 1 _⟩ ?_
  refine .head (b := ⟨stoppedWorld, [⟨_, some .write⟩]⟩)
    ⟨@Pool.Step.act _ _ _ stoppedWorld [] [] _ _ _, .refl 1 _⟩ ?_
  refine .head (b := ⟨stoppedWorld, [⟨_, none⟩]⟩)
    ⟨@Pool.Step.release _ _ _ stoppedWorld [] [] _ _, .refl 1 _⟩ ?_
  refine .head (b := ⟨stoppedWorld, [⟨_, some .write⟩]⟩)
    ⟨@Pool.Step.acquire _ _ _ stoppedWorld [] [] .write _ (by simp), .refl 1 _⟩ ?_
  refine .head (b := ⟨stoppedWorld.after startCall.rest, [⟨_, some .write⟩]⟩)
    ⟨@Pool.Step.act _ _ _ stoppedWorld [] [] _ _ _, takesTurns_start⟩ ?_
  exact .single ⟨@Pool.Step.release _ _ _ (stoppedWorld.after startCall.rest) [] [] _ _,
    .refl 1 _⟩

theorem startInput_owned : Owned 1 (stoppedWorld.after startCall.rest) :=
  runs_owned owned_stoppedWorld runs_start

/-- Both calls look at the status before one of them spawns. -/
theorem startInput_twice :
    ¬ ∀ i w p, Owned i w → Pool.Runs InputCall TaskStep (fun _ _ => True) ⟨w, []⟩ p →
      Owned i p.shared := by
  intro h
  have hview : ((Pool.mk stoppedWorld [startCall, startCall]).advances (fun _ _ => true)
      [0, 0, 0, 1, 1, 1, 0, 0, 0, 1, 1, 1]).map (fun p => p.shared.rt.live.map
        fun t => (t.id, t.spec.owner)) = some [(1, .input 1), (2, .input 1)] := by
    decide +kernel
  obtain ⟨p, hp, hview⟩ := Option.map_eq_some_iff.mp hview
  have hcalls : Pool.Runs InputCall TaskStep (fun _ _ => True) ⟨stoppedWorld, []⟩
      ⟨stoppedWorld, [startCall, startCall]⟩ :=
    (Relation.ReflTransGen.refl.tail ⟨.call inputCall_start, trivial⟩).tail
      ⟨.call inputCall_start, trivial⟩
  have howned := h 1 stoppedWorld p owned_stoppedWorld
    (hcalls.trans (Pool.runs_of_advances (fun _ _ _ => trivial) _ hp))
  have hmem : ∀ n ∈ [1, 2], ∃ t ∈ p.shared.rt.live, (t.id, t.spec.owner) = (n, .input 1) := by
    intro n hn
    refine List.mem_map.mp ?_
    rw [hview]
    simpa using hn
  obtain ⟨t, ht, htid⟩ := hmem 1 (by simp)
  obtain ⟨t', ht', htid'⟩ := hmem 2 (by simp)
  obtain ⟨hid, howner⟩ := Prod.mk.inj htid
  obtain ⟨hid', howner'⟩ := Prod.mk.inj htid'
  have heq := howned.unique t ht t' ht' howner howner'
  rw [heq, hid'] at hid
  exact absurd hid (by decide)

end StreamGateway
