import StreamGateway.Delivery
import StreamGateway.Isolation

/-!
# Packets keep to their streams

The channels are handed on from entry to entry while inputs are created, stopped, started again
and deleted. A task still hears nothing but what one task of its source has broadcast, even when
the two were spawned by calls whose steps interleave.
-/
namespace StreamGateway

open MpegtsFilter (Bytes)
open Reception

theorem TaskSpec.exists_packetRx {spec : TaskSpec} {i : Int} (h : spec.source = some i) :
    ∃ c, spec.packetRx = some c := by
  cases spec <;> simp_all [TaskSpec.source, TaskSpec.packetRx]

namespace Traffic

variable {tr : Traffic} {env : Env} {db : Database}

/-- The packets that a task has heard. -/
def heard (tr : Traffic) (t : Task) : List Bytes := values (tr.state t).receiver.heard

/-- The calls of a run with traffic are those of a run without. -/
theorem Runs.pool (h : Runs (boot env db) tr) :
    Pool.Runs GatewayCall TaskStep (fun _ _ => True) (bootPool env db) tr.pool := by
  induction h with
  | refl => exact .refl
  | tail _ hs ih =>
    cases hs with
    | control hs => exact ih.tail ⟨hs, trivial⟩
    | packet _ hp =>
      obtain ⟨_, _, rfl⟩ := pass_eq_some hp
      exact ih

/-- What is on a channel comes from a task that has it. -/
theorem Sound.exists_sender (h : tr.Sound) {c : ChannelId} (hsent : tr.sent c ≠ []) :
    ∃ t ∈ tr.rt.spawned, t.spec.packetTx = some c ∧ tr.log t = tr.sent c := by
  by_contra hnone
  refine hsent (h.silent c fun t ht htx => hnone ⟨t, ht, htx, ?_⟩)
  simp [log, htx]

/-- In every state of every run, all that a task has heard was broadcast by one task of its source,
in the same order. So an output only sends what a task of its own input has broadcast, and a
filter is only fed by its source, whatever other streams are doing. -/
theorem no_crosstalk (hdb : db.Consistent) (hruns : Runs (boot env db) tr) {u : Task} {i : Int}
    (hu : u ∈ tr.rt.spawned) (hsource : u.spec.source = some i) (hheard : tr.heard u ≠ []) :
    ∃ t ∈ tr.rt.spawned, t.spec.owner = .input i ∧ (tr.heard u).Sublist (tr.log t) ∧
      ∀ inputId outputId, u.spec.owner = .output inputId outputId →
        inputId = i ∧ tr.taken u = tr.heard u := by
  have h := sound_of_runs hruns
  obtain ⟨c, hrx⟩ := TaskSpec.exists_packetRx hsource
  have hsublist := h.heard_sublist hu hrx
  obtain ⟨t, ht, htx, hlog⟩ := h.exists_sender fun hnil => hheard (by
    rw [hnil] at hsublist
    exact List.sublist_nil.mp hsublist)
  have hfeeds := (runs_wired hdb hruns.pool).runtime.subscribes u hu i c hsource hrx
  refine ⟨t, ht, hfeeds.2 t ht htx, hlog ▸ hsublist, fun inputId outputId howner => ⟨?_, ?_⟩⟩
  · exact Option.some.inj ((TaskSpec.source_of_output howner).symm.trans hsource)
  · exact h.taken_eq hu howner

theorem no_crosstalk_relay : ∃ tr, Runs (boot localEnv emptyDatabase) tr ∧
    tr.taken relayOutput = [[71], [72]] ∧
    ∃ t ∈ tr.rt.spawned, t.spec.owner = .input 1 ∧ [[71], [72]].Sublist (tr.log t) := by
  obtain ⟨_, tr, hbefore, hclose, _, hspawned, _, _, htaken⟩ := exists_relayed
  have hruns := hbefore.runs.trans hclose.runs
  have hheard : tr.heard relayOutput = [[71], [72]] := by
    rw [← htaken]
    exact ((sound_of_runs hruns).taken_eq hspawned rfl).symm
  obtain ⟨t, ht, howner, hsublist, _⟩ := no_crosstalk consistent_empty hruns hspawned rfl
    (by simp [hheard])
  exact ⟨tr, hruns, htaken, t, ht, howner, hheard ▸ hsublist⟩

end Traffic

end StreamGateway
