import StreamGateway.OutputRows

/-!
# Conflicts between outputs

No two outputs of an input are to have the same destination, and no two outputs the same
listener port. `create_output` asks the database for both and then inserts, with the write
guard held all the time, so no other `create_output` comes in between. `update_output` does
not ask, and holds no guard. The invariant holds as long as its rewriting does no harm.
-/
namespace StreamGateway

open Prog

/-- The two rows have the same destination for the same input, or the same port. -/
inductive OutputRow.Clashes (row row' : OutputRow) : Prop
  | destination (d : String) : row.inputId = row'.inputId → row.destination = some d →
      row'.destination = some d → Clashes row row'
  | port (p : UInt16) : row.listenPort = some p → row'.listenPort = some p → Clashes row row'

theorem OutputRow.Clashes.symm {row row' : OutputRow} (h : row.Clashes row') :
    row'.Clashes row := by
  cases h with
  | destination d hi hd hd' => exact .destination d hi.symm hd' hd
  | port p hp hp' => exact .port p hp' hp

def Database.ConflictFree (db : Database) : Prop :=
  ∀ k row k' row', (k, row) ∈ db.outputs.rows → (k', row') ∈ db.outputs.rows → k ≠ k' →
    ¬ row.Clashes row'

/-- What counts for a clash is the same in both rows. -/
structure OutputRow.Aligned (row row' : OutputRow) : Prop where
  inputId : row'.inputId = row.inputId
  destination : row'.destination = row.destination
  listenPort : row'.listenPort = row.listenPort

theorem OutputRow.Aligned.clashes {row row' other : OutputRow} (h : row.Aligned row')
    (hc : row'.Clashes other) : row.Clashes other := by
  cases hc with
  | destination d hi hd hd' =>
    exact .destination d (h.inputId.symm.trans hi) (h.destination.symm.trans hd) hd'
  | port p hp hp' => exact .port p (h.listenPort.symm.trans hp) hp'

/-- A row that gets a configuration with another destination or port clashes with none of the
other rows, and nobody holds the write guard, so no `create_output` is between its queries and
its insertion. -/
def UpdatesApart (a b : Pool World) : Prop :=
  ∀ k row config, (k, row) ∈ a.shared.db.outputs.rows →
    (k, row.withConfig config) ∈ b.shared.db.outputs.rows →
    ¬ row.Aligned (row.withConfig config) →
    (∀ t ∈ a.threads, t.held ≠ some .write) ∧
      ∀ k' other, (k', other) ∈ a.shared.db.outputs.rows → k' ≠ k →
        ¬ (row.withConfig config).Clashes other

/-- Every row was there before, as far as clashes go. -/
def Shrinks (w w' : World) : Prop :=
  ∀ k row', (k, row') ∈ w'.db.outputs.rows → ∃ row, (k, row) ∈ w.db.outputs.rows ∧ row.Aligned row'

theorem Shrinks.refl (w : World) : Shrinks w w := fun _ row h => ⟨row, h, rfl, rfl, rfl⟩

theorem Shrinks.trans {w w' w'' : World} (h : Shrinks w w') (h' : Shrinks w' w'') :
    Shrinks w w'' := by
  intro k row'' hk
  obtain ⟨row', hk', ha'⟩ := h' k row'' hk
  obtain ⟨row, hk, ha⟩ := h k row' hk'
  exact ⟨row, hk, ha'.inputId.trans ha.inputId, ha'.destination.trans ha.destination,
    ha'.listenPort.trans ha.listenPort⟩

theorem Thinned.shrinks {w w' : World} (h : Thinned w.db.outputs w'.db.outputs) :
    Shrinks w w' := by
  intro k row' hk
  obtain ⟨row, hrow, heq⟩ := h.rows k row' hk
  refine ⟨row, hrow, ?_, ?_, ?_⟩ <;> rw [heq]

/-- Whoever holds the write guard relies on the rows not to get more or to change. -/
def conflictRely : Guarded World := fun h w w' => h = some .write → Shrinks w w'

instance (h : Option LockMode) : IsTrans World (conflictRely h) :=
  ⟨fun _ _ _ h₁ h₂ hh => (h₁ hh).trans (h₂ hh)⟩

theorem Database.ConflictFree.shrinks {w w' : World} (h : w.db.ConflictFree) (hs : Shrinks w w') :
    w'.db.ConflictFree := by
  intro k row k' row' hk hk' hne hc
  obtain ⟨row₀, hrow₀, ha⟩ := hs k row hk
  obtain ⟨row₀', hrow₀', ha'⟩ := hs k' row' hk'
  exact h k row₀ k' row₀' hrow₀ hrow₀' hne (ha'.clashes (ha.clashes hc).symm).symm

/-- The row that `create_output` inserts clashes with none. -/
theorem Inserted.clashFree {ops : Option Operation → Prop} {req : CreateOutputRequest}
    {w w' : World} (h : Inserted conflictRely ops req w w') {k : Int} {row : OutputRow}
    (hrow : (k, row) ∈ w.db.outputs.rows) : ¬ (newOutputRow req).Clashes row := by
  intro hc
  cases hc with
  | destination d hi hd hd' =>
    obtain ⟨w₁, hw₁, hfree⟩ := h.destination
    obtain ⟨row₁, hrow₁, ha⟩ := hw₁ rfl k row hrow
    refine hfree _ hrow₁ ⟨ha.inputId.symm.trans hi.symm, ?_⟩
    rw [← ha.destination, hd', ← hd]
    rfl
  | port p hp hp' =>
    obtain ⟨w₂, hw₂, hfree⟩ := h.port p hp
    obtain ⟨row₂, hrow₂, ha⟩ := hw₂ rfl k row hrow
    exact hfree _ hrow₂ (ha.listenPort.symm.trans hp')

theorem Inserted.conflictFree {ops : Option Operation → Prop} {req : CreateOutputRequest}
    {w w' : World} (h : Inserted conflictRely ops req w w') (hw : w.db.ConflictFree) :
    w'.db.ConflictFree := by
  intro k row k' row' hk hk' hne hc
  rw [h.row] at hk hk'
  rcases Table.mem_insert.mp hk with hk | hk <;> rcases Table.mem_insert.mp hk' with hk' | hk'
  · exact hw k row k' row' hk hk' hne hc
  · obtain ⟨rfl, rfl⟩ := Prod.mk.inj hk'
    exact h.clashFree hk hc.symm
  · obtain ⟨rfl, rfl⟩ := Prod.mk.inj hk
    exact h.clashFree hk' hc
  · obtain ⟨rfl, rfl⟩ := Prod.mk.inj hk
    obtain ⟨rfl, _⟩ := Prod.mk.inj hk'
    exact hne rfl

section Rewritten

variable {ops : Option Operation → Prop} {env : Env} {i k : Int} {req : UpdateOutputRequest}
  {merged : CreateOutputRequest} {a b : Pool World}

/-- A row after the rewriting is aligned with the one before, or it clashes with no other. -/
theorem Rewritten.aligned_or
    (h : Rewritten conflictRely ops env i k req merged a.shared b.shared) (hc : UpdatesApart a b)
    {k' : Int} {row' : OutputRow} (hk : (k', row') ∈ b.shared.db.outputs.rows) :
    ∃ row, (k', row) ∈ a.shared.db.outputs.rows ∧ row'.inputId = row.inputId ∧
      (row.Aligned row' ∨ (∀ t ∈ a.threads, t.held ≠ some .write) ∧
        ∀ k'' other, (k'', other) ∈ a.shared.db.outputs.rows → k'' ≠ k' →
          ¬ row'.Clashes other) := by
  have hmem := hk
  rw [h.rows] at hmem
  obtain ⟨row, hrow, heq⟩ := Table.mem_update hmem
  by_cases hid : k' = k
  · rw [if_pos hid] at heq
    subst heq
    refine ⟨row, hrow, rfl, ?_⟩
    by_cases hsame : row.Aligned (row.withConfig merged)
    · exact .inl hsame
    · exact .inr (hc k' row merged hrow hk hsame)
  · rw [if_neg hid] at heq
    subst heq
    exact ⟨row', hrow, rfl, .inl ⟨rfl, rfl, rfl⟩⟩

theorem Rewritten.conflictFree
    (h : Rewritten conflictRely ops env i k req merged a.shared b.shared) (hc : UpdatesApart a b)
    (ha : a.shared.db.ConflictFree) : b.shared.db.ConflictFree := by
  -- at most one of two rows is not aligned, the one that was rewritten
  have hother : ∀ k' row', (k', row') ∈ b.shared.db.outputs.rows → k' ≠ k →
      (k', row') ∈ a.shared.db.outputs.rows := by
    intro k' row' hk' hne
    rw [h.rows] at hk'
    obtain ⟨row, hrow, rfl⟩ := Table.mem_update hk'
    rwa [if_neg hne]
  have hone : ∀ k' row' k'' row'', (k', row') ∈ b.shared.db.outputs.rows →
      (k'', row'') ∈ a.shared.db.outputs.rows → k' ≠ k'' → ¬ row'.Clashes row'' := by
    intro k' row' k'' row'' hk' hk'' hne hclash
    obtain ⟨row, hrow, _, haligned | ⟨_, hfree⟩⟩ := h.aligned_or hc hk'
    · exact ha k' row k'' row'' hrow hk'' hne (haligned.clashes hclash)
    · exact hfree k'' row'' hk'' (Ne.symm hne) hclash
  intro k' row' k'' row'' hk' hk'' hne hclash
  by_cases heq : k'' = k
  · have hne' : k' ≠ k := fun he => hne (he.trans heq.symm)
    exact hone k'' row'' k' row' hk'' (hother k' row' hk' hne') (Ne.symm hne) hclash.symm
  · exact hone k' row' k'' row'' hk' (hother k'' row'' hk'' heq) hne hclash

theorem Rewritten.shrinks
    (h : Rewritten conflictRely ops env i k req merged a.shared b.shared) (hc : UpdatesApart a b)
    {t : Thread World} (ht : t ∈ a.threads) (hheld : t.held = some .write) :
    Shrinks a.shared b.shared := by
  intro k' row' hk'
  obtain ⟨row, hrow, _, haligned | ⟨hnone, _⟩⟩ := h.aligned_or hc hk'
  · exact ⟨row, hrow, haligned⟩
  · exact absurd hheld (hnone t ht)

end Rewritten

theorem conflictFree_fits : Pool.Fits (fun w => w.db.ConflictFree) conflictRely
    (Act conflictRely fun _ => True) GatewayCall TaskStep UpdatesApart where
  refl := fun _ _ => .refl _
  calls := fun hp _ => hp.acts _
  keeps := by
    intro a b h hi hstep hc
    rcases hstep with ha | ho
    · rcases ha.outputRows with hthin | ⟨_, req, hins⟩ | ⟨_, env, i, k, req, merged, hrw⟩
      · exact hi.shrinks hthin.shrinks
      · exact hins.conflictFree hi
      · exact hrw.conflictFree hc hi
    · rw [ho.db]
      exact hi
  relies := by
    intro a b t h ht hi hstep hc hheld
    rcases hstep with ⟨hapart, ha⟩ | ho
    · rcases ha.outputRows with hthin | ⟨hh, _⟩ | ⟨_, env, i, k, req, merged, hrw⟩
      · exact hthin.shrinks
      · have hnone := hapart.1 hh
        exact absurd (hnone.symm.trans hheld) (by simp)
      · exact hrw.shrinks hc ht hheld
    · intro k row hk
      rw [ho.db] at hk
      exact ⟨row, hk, rfl, rfl, rfl⟩

/-- From any state without conflicts, no run whose updates do no harm leads to one. -/
theorem runs_conflictFree {w : World} {p : Pool World} (h : w.db.ConflictFree)
    (hruns : Pool.RunsUnder GatewayCall TaskStep UpdatesApart ⟨w, []⟩ p) :
    p.shared.db.ConflictFree := by
  have hbehaving : Pool.Behaving (fun w => w.db.ConflictFree) conflictRely
      (Act conflictRely fun _ => True) ⟨w, []⟩ :=
    ⟨h, List.Pairwise.nil, fun _ ht => absurd ht List.not_mem_nil⟩
  exact (hbehaving.runs conflictFree_fits hruns).inv

def World.destinations (w : World) : List (Int × Int × Option String × Option UInt16) :=
  w.db.outputs.rows.map fun r => (r.1, r.2.inputId, r.2.destination, r.2.listenPort)

theorem World.mem_destinations {w : World} {k : Int} {row : OutputRow}
    (h : (k, row) ∈ w.db.outputs.rows) :
    (k, row.inputId, row.destination, row.listenPort) ∈ w.destinations :=
  List.mem_map.mpr ⟨(k, row), h, rfl⟩

/-- Every row that is there before and after has the same destination and port. -/
def keepsDestinations (w w' : World) : Bool :=
  w.destinations.all fun d => w'.destinations.all fun d' => d.1 ≠ d'.1 ∨ d = d'

theorem updatesApart_of_keeps {a b : Pool World} (h : keepsDestinations a.shared b.shared = true) :
    UpdatesApart a b := by
  intro k row config hk hk' hmoved
  have hsame := List.all_eq_true.mp (List.all_eq_true.mp h _ (World.mem_destinations hk)) _
    (World.mem_destinations hk')
  simp only [ne_eq, not_true_eq_false, Prod.mk.injEq, true_and, false_or,
    decide_eq_true_eq] at hsame
  exact absurd ⟨hsame.1.symm, hsame.2.1.symm, hsame.2.2.symm⟩ hmoved

theorem conflictFree_empty : emptyDatabase.ConflictFree :=
  fun _ _ _ _ hk => absurd hk List.not_mem_nil

/-- A UDP input was created, and an output for it. -/
def servingWorld : World :=
  runningWorld.after ((Operation.createOutput (udpOutputRequest "127.0.0.1")).prog localEnv)

/-- No `create_output` has begun, and a row that is now different has a destination and a port of
its own. -/
def movesApart (a b : Pool World) : Bool :=
  (a.threads.all fun t => t.held ≠ some .write) &&
    b.shared.destinations.all fun d => a.shared.destinations.all fun d' =>
      d.1 = d'.1 ∨ ¬ (d.2.1 = d'.2.1 ∧ d.2.2.1.isSome ∧ d.2.2.1 = d'.2.2.1) ∧
        ¬ (d.2.2.2.isSome ∧ d.2.2.2 = d'.2.2.2)

theorem updatesApart_of_moves {a b : Pool World} (h : movesApart a b = true) :
    UpdatesApart a b := by
  obtain ⟨hheld, hdestinations⟩ := (Bool.and_eq_true _ _).mp h
  intro k row config _ hk' _
  refine ⟨fun t ht => of_decide_eq_true (List.all_eq_true.mp hheld t ht),
    fun k' other hother hne hclash => ?_⟩
  have hfree := of_decide_eq_true (List.all_eq_true.mp (List.all_eq_true.mp hdestinations _
    (World.mem_destinations hk')) _ (World.mem_destinations hother))
  rcases hfree with heq | ⟨hdestination, hport⟩
  · exact hne heq.symm
  · cases hclash with
    | destination d hi hd hd' => exact hdestination ⟨hi, by simp [hd], by rw [hd, hd']⟩
    | port p hp hp' => exact hport ⟨by simp [hp], by rw [hp, hp']⟩

/-- Another output is created while the output is moved to a destination that is free. -/
theorem servingWorld_conflictFree :
    ∃ p, Pool.RunsUnder GatewayCall TaskStep UpdatesApart ⟨servingWorld, []⟩ p ∧
      p.shared.destinations = [(1, 1, some "127.0.0.3:9000", none),
        (2, 1, some "127.0.0.2:9000", none)] ∧ p.shared.db.ConflictFree := by
  let p : Pool World := ⟨servingWorld, [⟨(Operation.createOutput
    (udpOutputRequest "127.0.0.2")).prog localEnv, none⟩, ⟨(Operation.updateOutput 1
    (outputUpdate (some "127.0.0.3"))).prog localEnv, none⟩]⟩
  -- the update reads its row, the creation runs, and then the update writes its row
  have hview : (p.advances keepsDestinations [1, 0, 0, 0, 0, 0, 0]).any (fun q₁ =>
      (q₁.advance 1).any fun q₂ => movesApart q₁ q₂ &&
        (q₂.advances keepsDestinations (List.replicate 13 1)).any fun q =>
          q.shared.destinations = [(1, 1, some "127.0.0.3:9000", none),
            (2, 1, some "127.0.0.2:9000", none)]) = true := by
    decide +kernel
  obtain ⟨q₁, hq₁, hview⟩ := (Option.any_eq_true _ _).mp hview
  obtain ⟨q₂, hq₂, hview⟩ := (Option.any_eq_true _ _).mp hview
  obtain ⟨hmoves, hview⟩ := (Bool.and_eq_true _ _).mp hview
  obtain ⟨q, hq, hview⟩ := (Option.any_eq_true _ _).mp hview
  have hself : keepsDestinations servingWorld servingWorld = true := by decide +kernel
  have hcalls : Pool.RunsUnder GatewayCall TaskStep UpdatesApart ⟨servingWorld, []⟩ p :=
    (Relation.ReflTransGen.single ⟨.call (.inl ⟨localEnv, _, rfl⟩),
      updatesApart_of_keeps hself⟩).tail ⟨.call (.inl ⟨localEnv, _, rfl⟩),
        updatesApart_of_keeps hself⟩
  have hquiet : ∀ {a b : Pool World} {ks : List ℕ}, a.advances keepsDestinations ks = some b →
      Pool.RunsUnder GatewayCall TaskStep UpdatesApart a b := fun h =>
    Pool.runsUnder_of_runs (C := fun w w' => keepsDestinations w w' = true)
      (fun _ _ => updatesApart_of_keeps) (Pool.runs_of_advances (fun _ _ h => h) _ h)
  have hruns : Pool.RunsUnder GatewayCall TaskStep UpdatesApart ⟨servingWorld, []⟩ q :=
    (hcalls.trans (hquiet hq₁)).trans
      (.head ⟨Pool.step_of_advance hq₂, updatesApart_of_moves hmoves⟩ (hquiet hq))
  have hfree : servingWorld.db.ConflictFree := by
    have hone : servingWorld.db.outputs.rows.map (·.1) = [1] := by decide +kernel
    intro k row k' row' hk hk' hne
    have h := List.mem_map_of_mem (f := (·.1)) hk
    have h' := List.mem_map_of_mem (f := (·.1)) hk'
    rw [hone] at h h'
    exact absurd ((List.mem_singleton.mp h).trans (List.mem_singleton.mp h').symm) hne
  exact ⟨q, hruns, of_decide_eq_true hview, runs_conflictFree hfree hruns⟩

/-- The second output is moved to the destination of the first. -/
theorem updateOutput_conflicts :
    ¬ ∀ w p, w.db.ConflictFree →
      Pool.RunsUnder GatewayCall TaskStep (fun _ _ => True) ⟨w, []⟩ p →
      p.shared.db.ConflictFree := by
  intro h
  have hmoved : ((World.boot emptyDatabase).afterCalls localEnv
      [.createInput (udpInputRequest 5000), .createOutput (udpOutputRequest "127.0.0.1"),
        .createOutput (udpOutputRequest "127.0.0.2"),
        .updateOutput 2 (outputUpdate (some "127.0.0.1"))]).map World.destinations =
      some [(1, 1, some "127.0.0.1:9000", none), (2, 1, some "127.0.0.1:9000", none)] := by
    decide +kernel
  obtain ⟨w, hw, hdestinations⟩ := Option.map_eq_some_iff.mp hmoved
  obtain ⟨threads, _, hruns⟩ := runs_afterCalls (fun _ ht => absurd ht List.not_mem_nil) hw
  have hfree := h _ ⟨w, threads⟩ conflictFree_empty hruns
  have hrow : ∀ k, (k, (1 : Int), some "127.0.0.1:9000", (none : Option UInt16)) ∈ w.destinations →
      ∃ row, (k, row) ∈ w.db.outputs.rows ∧ row.inputId = 1 ∧
        row.destination = some "127.0.0.1:9000" := by
    intro k hk
    obtain ⟨⟨k', row⟩, hrow, heq⟩ := List.mem_map.mp hk
    simp only [Prod.mk.injEq] at heq
    obtain ⟨rfl, hinput, hdestination, _⟩ := heq
    exact ⟨row, hrow, hinput, hdestination⟩
  rw [hdestinations] at hrow
  obtain ⟨row, hk, hinput, hdestination⟩ := hrow 1 (by simp)
  obtain ⟨row', hk', hinput', hdestination'⟩ := hrow 2 (by simp)
  exact hfree 1 row 2 row' hk hk' (by decide)
    (.destination _ (hinput.trans hinput'.symm) hdestination hdestination')

end StreamGateway
