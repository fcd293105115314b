import StreamGateway.Calls

/-!
# Invariants of single entries

A property of an entry and its id holds of every entry in every reachable state when every
kind of section keeps it. The first such property is that an entry is found under its own id.
-/
namespace StreamGateway

/-- Every entry has the property. -/
def World.Each (P : Int → InputInfo → Prop) (w : World) : Prop :=
  ∀ i info, w.streams.lookup i = some info → P i info

theorem World.Each.insert {P : Int → InputInfo → Prop} {w w' : World} {i : Int}
    {info : InputInfo} (h : w.Each P) (hs : w'.streams = w.streams.insert i info)
    (hi : P i info) : w'.Each P := by
  intro j info' hj
  rw [hs] at hj
  rcases HashMap.lookup_insert_eq_some.mp hj with ⟨rfl, rfl⟩ | ⟨_, hj⟩
  · exact hi
  · exact h j info' hj

theorem World.Each.of_eq {P : Int → InputInfo → Prop} {w w' : World} (h : w.Each P)
    (hs : w'.streams = w.streams) : w'.Each P := by
  unfold World.Each
  rwa [hs]

theorem World.Each.erase {P : Int → InputInfo → Prop} {w w' : World} {i : Int}
    (h : w.Each P) (hs : w'.streams = w.streams.erase i) : w'.Each P := by
  intro j info hj
  rw [hs] at hj
  exact h j info (HashMap.lookup_erase_eq_some.mp hj).2

theorem World.Each.extend {P : Int → InputInfo → Prop} {w w' : World}
    {loaded : HashMap Int InputInfo} (h : w.Each P)
    (hs : w'.streams = w.streams.extend loaded)
    (hl : ∀ i info, loaded.lookup i = some info → P i info) : w'.Each P := by
  intro j info hj
  rw [hs] at hj
  rcases HashMap.lookup_extend_eq_some.mp hj with hj | ⟨_, hj⟩
  · exact hl j info hj
  · exact h j info hj

/-! ## Messages -/

theorem receive_streams (w : World) : (receive w).2.streams = w.streams := by
  unfold receive
  split <;> rfl

theorem receive_live (w : World) : (receive w).2.rt.live = w.rt.live := by
  unfold receive
  split <;> rfl

theorem applyProcessing_live (w : World) : (applyProcessing w).2.rt.live = w.rt.live := by
  unfold applyProcessing
  split <;> rfl

/-- A message changes the status and the metadata of one entry, or of one of its outputs. -/
theorem applyChange_cases (change : StateChange) (streams : HashMap Int InputInfo) :
    (applyChange change streams).2 = streams ∨ ∃ i info info', streams.lookup i = some info ∧
      (applyChange change streams).2 = streams.insert i info' ∧
      ((∃ status connectedAt sourceAddress,
          change = .inputStateChanged i status connectedAt sourceAddress ∧
          info' = info.withStatus status connectedAt sourceAddress) ∨
        ∃ o output status connectedAt peerAddress,
          change = .outputStateChanged i o status connectedAt peerAddress ∧
          info.outputTasks.lookup o = some output ∧
          info' = { info with
            outputTasks := info.outputTasks.insert o
              (output.withStatus status connectedAt peerAddress) }) := by
  cases change with
  | inputStateChanged i status connectedAt sourceAddress =>
    simp only [applyChange]
    cases hi : streams.lookup i with
    | none => exact .inl rfl
    | some info => exact .inr ⟨i, info, _, hi, rfl, .inl ⟨_, _, _, rfl, rfl⟩⟩
  | outputStateChanged i o status connectedAt peerAddress =>
    simp only [applyChange]
    cases hi : streams.lookup i with
    | none => exact .inl rfl
    | some info =>
      cases ho : info.outputTasks.lookup o with
      | none =>
        simp only [ho]
        exact .inl trivial
      | some output =>
        simp only [ho]
        exact .inr ⟨i, info, _, hi, rfl, .inr ⟨_, _, _, _, _, rfl, ho, rfl⟩⟩

theorem applyProcessing_streams (w : World) :
    (applyProcessing w).2.streams = w.streams ∨
      ∃ e, w.rt.processing = some e ∧
        (applyProcessing w).2.streams = (applyChange e.change w.streams).2 := by
  unfold applyProcessing
  cases hp : w.rt.processing with
  | none => exact .inl rfl
  | some e => exact .inr ⟨e, rfl, rfl⟩

theorem World.Each.apply {P : Int → InputInfo → Prop} {w : World} (h : w.Each P)
    (hinput : ∀ i info status connectedAt sourceAddress, P i info →
      P i (info.withStatus status connectedAt sourceAddress))
    (houtput : ∀ i info o output status connectedAt peerAddress, P i info →
      info.outputTasks.lookup o = some output →
      P i { info with
        outputTasks := info.outputTasks.insert o
          (output.withStatus status connectedAt peerAddress) }) :
    (applyProcessing w).2.Each P := by
  rcases applyProcessing_streams w with hs | ⟨e, _, hs⟩
  · exact h.of_eq hs
  rcases applyChange_cases e.change w.streams with hc | ⟨i, info, info', hi, hc, hinfo⟩
  · exact h.of_eq (hs.trans hc)
  refine h.insert (hs.trans hc) ?_
  rcases hinfo with ⟨status, connectedAt, sourceAddress, _, rfl⟩ |
    ⟨o, output, status, connectedAt, peerAddress, _, ho, rfl⟩
  · exact hinput i info status connectedAt sourceAddress (h i info hi)
  · exact houtput i info o output status connectedAt peerAddress (h i info hi) ho

/-! ## Ids -/

theorem Section.idsMatch {k : SectionKind} {w w' : World} (hs : Section k w w')
    (h : w.IdsMatch) : w'.IdsMatch := by
  have hE : w.Each fun i info => info.id = i := h
  cases hs with
  | spawn t _ _ hs => exact hE.of_eq hs
  | create t _ hs => exact hE.of_eq hs
  | tend i info info' _ _ hi hs ht => exact hE.insert hs (ht.id.trans (h i info hi))
  | analyse i a =>
    rcases insertAnalysis_ok i a w with hw | ⟨info, hi, hw⟩
    · rwa [hw]
    · rw [hw]
      exact hE.insert rfl (h i info hi)
  | restart i info info' _ _ hi hs _ _ hb => exact hE.insert hs (hb.id.trans (h i info hi))
  | install env i new =>
    rcases sptsInstallSection_ok env i new w with
      hw | ⟨info, info', _, hi, hs, hid, _⟩
    · rwa [hw]
    · exact hE.insert hs (hid.trans (h i info hi))
  | stop i =>
    rcases stopInputSection_ok i w with ⟨e, hw⟩ | ⟨info, info', _, hi, hs, hid, _⟩
    · rwa [hw]
    · exact hE.insert hs (hid.trans (h i info hi))
  | remove i =>
    rcases removeInputSection_ok i w with hw | ⟨_, _, _, hs, _⟩
    · rwa [hw]
    · exact hE.erase hs
  | enter info => exact hE.insert rfl rfl
  | load loaded hl => exact hE.extend rfl fun i info hi => (hl i info hi).2
  | receive => exact hE.of_eq (receive_streams w)
  | apply => exact World.Each.apply hE (fun _ _ _ _ _ h => h) fun _ _ _ _ _ _ _ h _ => h

theorem Sections.idsMatch {ks : List SectionKind} {w w' : World} (hs : Sections ks w w')
    (h : w.IdsMatch) : w'.IdsMatch := by
  rcases hs with hs | ⟨k, _, hs⟩
  · exact World.Each.of_eq (P := fun i info => info.id = i) h hs.streams
  · exact hs.idsMatch h

theorem TaskStep.streams {w w' : World} (h : TaskStep w w') : w'.streams = w.streams := by
  cases h <;> rfl

theorem TaskStep.later {w w' : World} (h : TaskStep w w') : Later w w' := by
  cases h <;> exact List.Subset.refl _

/-- All kinds. -/
def allKinds : List SectionKind :=
  [.spawn, .create, .tend, .analyse, .restart, .install, .stop, .remove, .enter, .receive, .apply]

theorem GatewayCall.takes {p : Prog World Unit} (h : GatewayCall p) (w : World) :
    Takes allKinds p w := by
  rcases h with ⟨env, op, rfl⟩ | rfl
  · refine (op.takes env w).mono fun k _ => ?_
    cases k <;> simp [allKinds]
  · exact (takes_processMessage w).mono (by simp [allKinds])

theorem later_of_step {ks : List SectionKind} (w w' : World)
    (h : Sections ks w w' ∨ TaskStep w w') : Later w w' :=
  h.elim (Sections.later w w') TaskStep.later

theorem Reachable.idsMatch {w : World} (h : Reachable w) : w.IdsMatch := by
  obtain ⟨env, db, threads, hruns⟩ := h
  have hboot : Pool.Safe World.IdsMatch (Sections allKinds) Later (bootPool env db) := by
    refine ⟨fun i info hi => absurd hi (by simp [bootPool, World.boot]), fun t ht => ?_⟩
    obtain rfl := List.mem_singleton.mp ht
    exact ((takes_loadFromDb env _).mono (by simp [allKinds])).ignore
  refine (hboot.runs (fun p w hp => hp.takes w) later_of_step (fun w w' hi hs _ => ?_) hruns).1
  rcases hs with hs | hs
  · exact hs.idsMatch hi
  · exact World.Each.of_eq (P := fun i info => info.id = i) hi hs.streams

end StreamGateway
