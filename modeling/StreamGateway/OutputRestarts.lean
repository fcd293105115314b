import StreamGateway.StoredOutputs

/-!
# Outputs after a crash

An output in memory has a row of its own input, whose kind the loader knows. So after a restart
it is under that input again, but for a UDP output that ran: the loader skips it when its
destination is no address or cannot be resolved.
-/
namespace StreamGateway

open Prog

/-! ## The kinds of the rows -/

/-- The kinds that `save_output_to_db` writes. -/
def storedOutputKinds : List String := ["udp", "srt_caller", "srt_listener"]

theorem outputRowKind_mem (req : CreateOutputRequest) : outputRowKind req ∈ storedOutputKinds := by
  cases req with
  | udp => simp [outputRowKind, storedOutputKinds]
  | srt inputId name config => cases config <;> simp [outputRowKind, storedOutputKinds]

def World.OutputKinds (w : World) : Prop :=
  ∀ k row, (k, row) ∈ w.db.outputs.rows → row.kind ∈ storedOutputKinds

theorem Act.outputKinds {rely : Guarded World} {ops : Option Operation → Prop} {h : Option LockMode}
    {w w' : World} (ha : Act rely ops h w w') (hw : w.OutputKinds) : w'.OutputKinds := by
  intro k row' hk
  rcases ha.outputRows with hthin | ⟨_, req, hins⟩ | ⟨_, env, i, j, req, merged, hrw⟩
  · obtain ⟨row, hold, heq⟩ := hthin.rows k row' hk
    rw [heq]
    exact hw k row hold
  · rw [hins.row] at hk
    rcases Table.mem_insert.mp hk with hold | hnew
    · exact hw k row' hold
    · obtain ⟨_, rfl⟩ := Prod.mk.inj hnew
      exact outputRowKind_mem req
  · rw [hrw.rows] at hk
    obtain ⟨row, hold, rfl⟩ := Table.mem_update hk
    split
    · exact hw k row hold
    · exact hw k row hold

/-! ## One output -/

/-- The loader makes the output again. -/
def OutputRow.Reopens (env : Env) (row : OutputRow) : Prop :=
  row.kind = "udp" → row.status ≠ "stopped" →
    (parseSocketAddr (row.destination.getD "")).isSome = true ∧
      ∃ addr, resolve env (row.destination.getD "") = .ok addr

section Load

variable {env : Env} {inputId i k : Int} {input input' : InputInfo} {row : OutputRow}
  {rt rt' : Runtime} {db : Database} {held : Bool} {w : World}

theorem stoppedOutputConfig_of_kind (hkind : row.kind ∈ storedOutputKinds) :
    ∃ config, stoppedOutputConfig inputId row = some config := by
  unfold stoppedOutputConfig
  by_cases hudp : row.kind = "udp"
  · exact ⟨_, if_pos hudp⟩
  by_cases hcaller : row.kind = "srt_caller"
  · exact ⟨_, (if_neg hudp).trans (if_pos hcaller)⟩
  by_cases hlistener : row.kind = "srt_listener"
  · exact ⟨_, (if_neg hudp).trans ((if_neg hcaller).trans (if_pos hlistener))⟩
  · simp [storedOutputKinds, hudp, hcaller, hlistener] at hkind

/-- Without an error, the loader skips running UDP outputs only. -/
theorem recreateOutput_isSome_iff {r : Option (OutputInfo × Runtime)}
    (hkind : row.kind ∈ storedOutputKinds) (hs : row.status ≠ "stopped")
    (h : recreateOutput env inputId input k row rt = .ok r) :
    r.isSome = true ↔ row.Reopens env := by
  unfold recreateOutput at h
  dsimp only at h
  by_cases hudp : row.kind = "udp"
  · have hreopens : row.Reopens env ↔ (parseSocketAddr (row.destination.getD "")).isSome = true ∧
        ∃ addr, resolve env (row.destination.getD "") = .ok addr :=
      ⟨fun hr => hr hudp hs, fun hr _ _ => hr⟩
    rw [hreopens]
    rw [if_pos hudp] at h
    split at h
    · rename_i hparse
      split at h
      · rename_i created hr
        obtain rfl := Except.ok.inj h
        obtain ⟨addr, haddr, _⟩ := createUdpOutput_ok hr
        exact iff_of_true rfl ⟨hparse, addr, haddr⟩
      · rename_i e hr
        obtain rfl := Except.ok.inj h
        refine iff_of_false (by simp) fun ⟨_, addr, haddr⟩ => ?_
        unfold createUdpOutput at hr
        rw [haddr] at hr
        exact absurd (show (Except.ok _ : Except HttpError (OutputInfo × Runtime)) = .error e
          from hr) (by simp)
    · rename_i hparse
      obtain rfl := Except.ok.inj h
      exact iff_of_false (by simp) fun hr => hparse hr.1
  · have hreopens : row.Reopens env := fun heq => absurd heq hudp
    refine iff_of_true ?_ hreopens
    rw [if_neg hudp] at h
    split at h
    · split at h
      · exact absurd h (by simp)
      · obtain rfl := Except.ok.inj h
        rfl
    split at h
    · split at h
      · exact absurd h (by simp)
      · exact absurd h (by simp)
      · obtain rfl := Except.ok.inj h
        rfl
    · rename_i hcaller hlistener
      simp [storedOutputKinds, hudp, hcaller, hlistener] at hkind

/-- Where the output was not, it is after its row was loaded, if it is not skipped. -/
theorem loadOutput_hasOutput_iff (hkind : row.kind ∈ storedOutputKinds)
    (hnone : ¬ input.HasOutput k)
    (h : loadOutput env inputId input k row rt = .ok (input', rt')) :
    input'.HasOutput k ↔ row.Reopens env := by
  unfold loadOutput at h
  by_cases hs : row.status = "stopped"
  · obtain ⟨config, hconfig⟩ := @stoppedOutputConfig_of_kind inputId row hkind
    rw [if_pos hs, hconfig] at h
    obtain ⟨rfl, _⟩ := Prod.mk.inj (Except.ok.inj h)
    exact iff_of_true (.inr ((AList.mem_insert _).mpr (.inl rfl))) fun _ hne => absurd hs hne
  · rw [if_neg hs] at h
    cases hr : recreateOutput env inputId input k row rt with
    | error e =>
      rw [hr] at h
      exact absurd h (by simp)
    | ok r =>
      rw [← recreateOutput_isSome_iff hkind hs hr]
      rw [hr] at h
      cases r with
      | none =>
        obtain ⟨rfl, _⟩ := Prod.mk.inj (Except.ok.inj h)
        exact iff_of_false hnone (by simp)
      | some r =>
        obtain ⟨rfl, _⟩ := Prod.mk.inj (Except.ok.inj h)
        exact iff_of_true (.inl ((AList.mem_insert _).mpr (.inl rfl))) rfl

/-! ## The load -/

theorem SameOutput.hasOutput {info info' : InputInfo} (h : SameOutput k info info') :
    info'.HasOutput k ↔ info.HasOutput k := by
  simp only [InputInfo.HasOutput, ← AList.lookup_isSome, h.1, h.2]

theorem not_hasOutput_bare {info : InputInfo} (h : info.Bare) : ¬ info.HasOutput k :=
  not_hasOutput_of_empty h.1 h.2 k

/-- Outputs come from rows that name the input. -/
theorem loadFromDb_hasRow
    (h : (loadFromDb env).alone false (.boot db) = some (.ok (), held, w))
    (hout : w.HasOutput i k) :
    ∃ row, (k, row) ∈ db.outputs.rows ∧ row.inputId = i := by
  obtain ⟨info', hinfo', hk⟩ := hout
  obtain ⟨w₀, hcovers, hgroups⟩ := loadFromDb_inputs h
  cases hinfo : w₀.streams.lookup i with
  | none => exact absurd ((loadGroups_none hinfo hgroups).symm.trans hinfo') (by simp)
  | some info =>
  have hbare := hcovers.1 i info hinfo
  by_cases hi : i ∈ (db.outputs.rows.map fun o => o.2.inputId).dedup
  · obtain ⟨rt, info'', rt', hload, hinfo''⟩ := loadGroups_at (List.nodup_dedup _) hi hinfo hgroups
    obtain rfl := Option.some.inj (hinfo'.symm.trans hinfo'')
    by_contra hnone
    refine not_hasOutput_bare hbare (((loadOutputs_other ?_ hload).hasOutput).mp hk)
    rintro hmem
    obtain ⟨⟨k', row⟩, hrow, rfl⟩ := List.mem_map.mp hmem
    obtain ⟨hrow, hinput⟩ := List.mem_filter.mp hrow
    exact hnone ⟨row, hrow, by simpa using hinput⟩
  · have hsame := (loadGroups_other hi hgroups).symm.trans hinfo'
    obtain rfl := Option.some.inj (hinfo.symm.trans hsame)
    exact absurd hk (not_hasOutput_bare hbare)

theorem World.OutputsBacked.load
    (h : (loadFromDb env).alone false (.boot db) = some (.ok (), held, w)) : w.OutputsBacked := by
  refine ⟨(identified_load h).ids, (accounted_load h).keyed.apart, fun i k hk => ?_⟩
  obtain ⟨row, hrow, hi⟩ := loadFromDb_hasRow h hk
  obtain ⟨hdb, _⟩ := loadFromDb_frame h
  rw [← hdb] at hrow
  exact rowInput_eq_some.mpr ⟨row, hrow, hi⟩

/-- The output of a row whose input has a row is loaded, if it is not skipped. -/
theorem loadFromDb_hasOutput_iff {inputRow : InputRow}
    (h : (loadFromDb env).alone false (.boot db) = some (.ok (), held, w))
    (hrow : (k, row) ∈ db.outputs.rows) (hkind : row.kind ∈ storedOutputKinds)
    (hinput : (row.inputId, inputRow) ∈ db.inputs.rows) (hinputKind : inputRow.kind ∈ storedKinds) :
    w.HasOutput row.inputId k ↔ row.Reopens env := by
  obtain ⟨info, rt, info', rt', info'', htasks, hstopped, hload, hi, hsame⟩ :=
    loadFromDb_output h hrow hinput hinputKind
  have hnone : ¬ info.HasOutput k := by
    rintro (hk | hk)
    · exact AList.lookup_eq_none.mp htasks hk
    · exact AList.lookup_eq_none.mp hstopped hk
  rw [← loadOutput_hasOutput_iff hkind hnone hload, ← hsame.hasOutput]
  refine ⟨fun ⟨found, hfound, hk⟩ => ?_, fun hk => ⟨info'', hi, hk⟩⟩
  obtain rfl := Option.some.inj (hi.symm.trans hfound)
  exact hk

end Load

/-! ## The life of a gateway -/

section Life

variable {env : Env} {p : Pool World} {held : Bool} {w : World} {i k : Int}

theorem KeepingCall.gateway {q : Prog World Unit} (h : KeepingCall q) : GatewayCall q :=
  h.imp_left fun ⟨env, op, _, heq⟩ => ⟨env, op, heq⟩

theorem outputKinds_fits : Pool.Fits World.OutputKinds anyRely
    (fun _ w w' => w.OutputKinds → w'.OutputKinds) GatewayCall TaskStep (fun _ _ => True) where
  refl := fun _ => trivial
  calls := fun hp _ => (hp.acts _).imp fun _ _ _ ha => ha.outputKinds
  keeps := fun hi hstep _ => hstep.elim (fun hg => hg hi) fun ho k row hk =>
    hi k row (by rwa [← ho.db])
  relies := fun _ _ _ _ => trivial

theorem Life.outputKinds (h : Life GatewayCall p) : p.shared.OutputKinds := by
  refine (h.behaving outputKinds_fits ?empty ?load).inv
  case empty => exact fun k row hk => absurd hk List.not_mem_nil
  case load =>
    intro env w₁ held w hw hload k row hk
    rw [(loadFromDb_frame hload).1] at hk
    exact hw k row hk

theorem Life.outputsBacked (h : Life KeepingCall p) : p.shared.OutputsBacked := by
  refine (h.behaving outputsBacked_fits ?_ fun env w₁ held w _ hload => .load hload).inv
  exact @World.OutputsBacked.load localEnv emptyDatabase false _ rfl

/-- No crash loses an output, as long as none is updated. Every output that is in memory, in any
state, has a row of its own input. After a restart that goes through it is in memory under this
input, unless the loader skips it, and under no other. -/
theorem restart_keeps_outputs (h : Life KeepingCall p) (hout : p.shared.HasOutput i k) :
    ∃ row, (k, row) ∈ p.shared.db.outputs.rows ∧ row.inputId = i ∧
      ∀ (env : Env) (held : Bool) (w : World),
        (loadFromDb env).alone false (.boot p.shared.db) = some (.ok (), held, w) →
          ∀ j, w.HasOutput j k ↔ j = i ∧ row.Reopens env := by
  have hlife : Life GatewayCall p := h.mono fun _ hp => hp.gateway
  obtain ⟨row, hrow, rfl⟩ := rowInput_eq_some.mp (h.outputsBacked.rows i k hout)
  refine ⟨row, hrow, rfl, fun env held w hload j => ?_⟩
  have hiff : w.HasOutput row.inputId k ↔ row.Reopens env := by
    obtain ⟨ks, hkept⟩ := hlife.kept
    obtain ⟨info, hinfo, _⟩ := hout
    have hentry := hkept.entries row.inputId (HashMap.mem_iff.mpr ⟨info, hinfo⟩)
    obtain ⟨kind, hkind⟩ := Option.isSome_iff_exists.mp hentry
    obtain ⟨inputRow, hinput, rfl⟩ := Option.map_eq_some_iff.mp hkind
    exact loadFromDb_hasOutput_iff hload hrow (hlife.outputKinds k row hrow)
      (Table.find_eq_some.mp hinput) (hkept.kinds _ _ hkind)
  refine ⟨fun hj => ?_, fun hj => hj.1 ▸ hiff.mpr hj.2⟩
  obtain ⟨row', hrow', rfl⟩ := loadFromDb_hasRow hload hj
  obtain ⟨_, rfl⟩ := Prod.mk.inj (Table.eq_of_mem hrow' hrow rfl)
  exact ⟨rfl, hiff.mp hj⟩

/-- A UDP input with a UDP output. -/
def sentOnward : List Operation :=
  [.createInput (udpInputRequest 5000), .createOutput (udpOutputRequest "127.0.0.1")]

theorem restart_keeps_outputs_sentOnward : ∃ (p : Pool World) (held : Bool) (w : World),
    (loadFromDb localEnv).alone false (.boot p.shared.db) = some (.ok (), held, w) ∧
      p.shared.HasOutput 1 1 ∧ ∃ row, (1, row) ∈ p.shared.db.outputs.rows ∧ row.inputId = 1 ∧
        ∀ j, w.HasOutput j 1 ↔ j = 1 ∧ row.Reopens localEnv := by
  have hview : ((World.boot emptyDatabase).afterCalls localEnv sentOnward).any (fun w =>
      (w.streams.lookup 1).any (fun info => decide (1 ∈ info.outputTasks)) &&
        ((loadFromDb localEnv).alone false (.boot w.db)).any fun r => r.1.isOk) = true := by
    decide +kernel
  obtain ⟨w, hw, hview⟩ := (Option.any_eq_true _ _).mp hview
  obtain ⟨hout, hview⟩ := (Bool.and_eq_true _ _).mp hview
  obtain ⟨info, hinfo, hout⟩ := (Option.any_eq_true _ _).mp hout
  obtain ⟨⟨r, held, w'⟩, hload, hok⟩ := (Option.any_eq_true _ _).mp hview
  have hkeeping : ∀ op ∈ sentOnward, KeepingCall (op.prog localEnv) := by
    intro op hop
    refine .inl ⟨localEnv, op, fun k req heq => ?_, rfl⟩
    subst heq
    simp [sentOnward] at hop
  obtain ⟨threads, _, hlife⟩ :=
    Life.start.afterCalls (fun t ht => absurd ht List.not_mem_nil) hkeeping hw
  have hhas : w.HasOutput 1 1 := ⟨info, hinfo, .inl (of_decide_eq_true hout)⟩
  cases r with
  | error e => exact absurd hok (by simp [Except.isOk, Except.toBool])
  | ok _ =>
    obtain ⟨row, hrow, hi, hloaded⟩ := restart_keeps_outputs hlife hhas
    exact ⟨⟨w, threads⟩, held, w', hload, hhas, row, hrow, hi, hloaded localEnv held w' hload⟩

end Life

end StreamGateway
