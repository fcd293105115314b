import Mathlib.Order.Interval.Finset.Nat
import StreamGateway.Delivery
import StreamGateway.OutputSenders

/-!
# Outputs that are started again

An output that is stopped and started again goes on with a new task, and the new task may receive
from the channel that the old one did. The old task was aborted, but it runs until its poll returns.
As long as no output has two tasks that run, the parts of the channel that its tasks have gone
through do not overlap, so nothing is sent twice. That is so when the outputs have one sender each
and an output is started only after the abort of its last task has taken effect.
-/
namespace StreamGateway

/-- No output has two tasks that run. -/
def Runtime.Singly (rt : Runtime) : Prop :=
  ∀ t u, rt.Running t → rt.Running u → ∀ k, t.spec.owner.outputId = some k →
    u.spec.owner.outputId = some k → t = u

/-- When a task is spawned for an output, no aborted task of the output runs any more. -/
def CleanStart (rt rt' : Runtime) : Prop :=
  ∀ u ∈ rt'.spawned, u ∉ rt.spawned → ∀ t, rt'.Running t → ∀ k, u.spec.owner.outputId = some k →
    t.spec.owner.outputId = some k → t ∈ rt'.live

namespace Traffic

variable {tr tr' : Traffic} {t u : Task} {c : ChannelId}

/-- The runs in all of whose states no output has two tasks that run. -/
def RunsSingly : Traffic → Traffic → Prop :=
  Relation.ReflTransGen fun tr tr' => Step tr tr' ∧ tr'.rt.Singly

theorem RunsSingly.runs (h : RunsSingly tr tr') : Runs tr tr' := by
  induction h with
  | refl => exact .refl
  | tail _ hs ih => exact ih.tail hs.1

/-! ## Positions -/

/-- The positions of the channel that the task has gone through. -/
def passed (tr : Traffic) (t : Task) : Finset ℕ :=
  Finset.Ico (tr.state t).receiver.start (tr.state t).receiver.next

/-- The first task has ended before the second one began. -/
structure Precedes (tr : Traffic) (t u : Task) : Prop where
  ended : t ∈ tr.rt.ended
  next_le : (tr.state t).receiver.next ≤ (tr.state u).receiver.start

/-- The task has ended where it began. -/
structure Idle (tr : Traffic) (t : Task) : Prop where
  ended : t ∈ tr.rt.ended
  next_le : (tr.state t).receiver.next ≤ (tr.state t).receiver.start

/-- How two tasks of one output lie on their channel. -/
def Apart (tr : Traffic) (t u : Task) : Prop :=
  tr.Precedes t u ∨ tr.Precedes u t ∨ tr.Idle t ∨ tr.Idle u

theorem Apart.symm (h : tr.Apart t u) : tr.Apart u t := by
  rcases h with h | h | h | h
  · exact .inr (.inl h)
  · exact .inl h
  · exact .inr (.inr (.inr h))
  · exact .inr (.inr (.inl h))

theorem Apart.disjoint (h : tr.Apart t u) : Disjoint (tr.passed t) (tr.passed u) := by
  refine Finset.disjoint_left.mpr fun n hn hn' => ?_
  obtain ⟨hstart, hnext⟩ := Finset.mem_Ico.mp hn
  obtain ⟨hstart', hnext'⟩ := Finset.mem_Ico.mp hn'
  rcases h with h | h | h | h
  · have := h.next_le
    omega
  · have := h.next_le
    omega
  · have := h.next_le
    omega
  · have := h.next_le
    omega

/-! ## Steps -/

/-- A task that has ended stays where it is, and any other goes on from where it began. -/
theorem Step.stays (h : tr.Sound) (hs : Step tr tr') (ht : t ∈ tr.rt.spawned)
    (hrx : t.spec.packetRx = some c) :
    (tr'.state t).receiver.start = (tr.state t).receiver.start ∧
      (t ∈ tr.rt.ended → t ∈ tr'.rt.ended ∧ tr'.state t = tr.state t) := by
  refine ⟨?_, hs.ended h ht⟩
  · rcases hs.receiver ((hs.grows h).extends.subset ht) hrx with ⟨_, hr | ⟨x, _, hr⟩⟩ | ⟨hnew, _⟩
    · rw [hr]
    · rw [hr]
      rfl
    · exact absurd ht hnew

theorem Precedes.step (hp : tr.Precedes t u) (h : tr.Sound) (hs : Step tr tr')
    (ht : t ∈ tr.rt.spawned) (hu : u ∈ tr.rt.spawned) (hrx : t.spec.packetRx = some c)
    (hrx' : u.spec.packetRx = some c) : tr'.Precedes t u := by
  obtain ⟨hended, hstate⟩ := (hs.stays h ht hrx).2 hp.ended
  refine ⟨hended, ?_⟩
  rw [hstate, (hs.stays h hu hrx').1]
  exact hp.next_le

theorem Idle.step (hi : tr.Idle t) (h : tr.Sound) (hs : Step tr tr') (ht : t ∈ tr.rt.spawned)
    (hrx : t.spec.packetRx = some c) : tr'.Idle t := by
  obtain ⟨hended, hstate⟩ := (hs.stays h ht hrx).2 hi.ended
  refine ⟨hended, ?_⟩
  rw [hstate]
  exact hi.next_le

/-- A task that has just been spawned begins behind all that is sent. -/
theorem Step.apart_new (h : tr.Sound) (hs : Step tr tr') (hu : u ∈ tr'.rt.spawned)
    (hnew : u ∉ tr.rt.spawned) (ht : t ∈ tr'.rt.spawned) (hrx : t.spec.packetRx = some c)
    (hrx' : u.spec.packetRx = some c) (hdead : t ∈ tr'.rt.ended ∨ u ∈ tr'.rt.ended) :
    tr'.Apart t u := by
  have hsubscribed : (tr'.state u).receiver = .subscribe (tr.sent c) := by
    rcases hs.receiver hu hrx' with ⟨hold, _⟩ | ⟨_, hr⟩
    · exact absurd hold hnew
    · exact hr
  rcases hdead with hdead | hdead
  · refine .inl ⟨hdead, ?_⟩
    rw [hsubscribed]
    rcases hs.receiver ht hrx with ⟨hold, hr | ⟨x, hx, hr⟩⟩ | ⟨_, hr⟩
    · rw [hr]
      exact (h.follows t c hold hrx).next_le
    · rw [hr]
      exact ((h.follows t c hold hrx).hear hx).next_le
    · rw [hr]
      exact Nat.le_refl _
  · refine .inr (.inr (.inr ⟨hdead, ?_⟩))
    rw [hsubscribed]
    exact Nat.le_refl _

/-- What holds in the runs in which no output has two tasks that run. -/
def Resumes (tr : Traffic) : Prop :=
  ∀ t ∈ tr.rt.spawned, ∀ u ∈ tr.rt.spawned, t ≠ u → ∀ k c, t.spec.owner.outputId = some k →
    u.spec.owner.outputId = some k → t.spec.packetRx = some c → u.spec.packetRx = some c →
    tr.Apart t u

theorem Resumes.step (hr : tr.Resumes) (h : tr.Sound) (hs : Step tr tr')
    (hsingly : tr'.rt.Singly) : tr'.Resumes := by
  intro t ht u hu hne k c hk hk' hrx hrx'
  have hdead : t ∈ tr'.rt.ended ∨ u ∈ tr'.rt.ended := by
    by_contra hboth
    rw [not_or] at hboth
    exact hne (hsingly t u ⟨ht, hboth.1⟩ ⟨hu, hboth.2⟩ k hk hk')
  by_cases hold : t ∈ tr.rt.spawned
  · by_cases hold' : u ∈ tr.rt.spawned
    · rcases hr t hold u hold' hne k c hk hk' hrx hrx' with hp | hp | hi | hi
      · exact .inl (hp.step h hs hold hold' hrx hrx')
      · exact .inr (.inl (hp.step h hs hold' hold hrx' hrx))
      · exact .inr (.inr (.inl (hi.step h hs hold hrx)))
      · exact .inr (.inr (.inr (hi.step h hs hold' hrx')))
    · exact hs.apart_new h hu hold' ht hrx hrx' hdead
  · exact (hs.apart_new h ht hold hu hrx' hrx hdead.symm).symm

theorem RunsSingly.resumes {env : Env} {db : Database} (h : RunsSingly (boot env db) tr) :
    tr.Resumes := by
  induction h with
  | refl => exact fun t ht => absurd ht List.not_mem_nil
  | tail hruns hs ih => exact ih.step (sound_of_runs (RunsSingly.runs hruns)) hs.1 hs.2

/-! ## Nothing is sent twice -/

/-- In every run in whose states no output has two tasks that run, the tasks that an output has had
on one channel have gone through different parts of it. What each has taken is from its own part,
so no packet is sent twice by an output, however often it is stopped and started. -/
theorem sent_once {env : Env} {db : Database} (hruns : RunsSingly (boot env db) tr)
    (ht : t ∈ tr.rt.spawned) (hu : u ∈ tr.rt.spawned) (hne : t ≠ u) {i j k : Int}
    (howner : t.spec.owner = .output i k) (howner' : u.spec.owner = .output j k)
    (hrx : t.spec.packetRx = some c) (hrx' : u.spec.packetRx = some c) :
    Disjoint (tr.passed t) (tr.passed u) ∧
      (tr.taken t).Sublist (((tr.sent c).take (tr.state t).receiver.next).drop
        (tr.state t).receiver.start) ∧
      (tr.taken u).Sublist (((tr.sent c).take (tr.state u).receiver.next).drop
        (tr.state u).receiver.start) := by
  have h := sound_of_runs hruns.runs
  rw [h.taken_eq ht howner, h.taken_eq hu howner']
  refine ⟨?_, (h.follows t c ht hrx).sublist, (h.follows u c hu hrx').sublist⟩
  exact (hruns.resumes t ht u hu hne k c (by rw [howner]; rfl) (by rw [howner']; rfl) hrx
    hrx').disjoint

/-! ## One sender -/

theorem singly_step (h : tr.Sound) (hsingly : tr.rt.Singly) (hs : Step tr tr')
    (hone : tr'.pool.shared.OneSender) (hclean : CleanStart tr.rt tr'.rt) : tr'.rt.Singly := by
  intro t u ht hu k hk hk'
  have hold : ∀ {t : Task}, tr'.rt.Running t → t ∈ tr.rt.spawned → tr.rt.Running t :=
    fun ht hspawned => ⟨hspawned, fun hended => ht.2 (hs.ended h hspawned hended).1⟩
  by_cases hnew : ∃ v ∈ tr'.rt.spawned, v ∉ tr.rt.spawned ∧ v.spec.owner.outputId = some k
  · obtain ⟨v, hv, hvnew, hvk⟩ := hnew
    exact hone.unique t (hclean v hv hvnew t ht k hvk hk) u (hclean v hv hvnew u hu k hvk hk') k
      hk hk'
  · have hspawned : ∀ {t : Task}, tr'.rt.Running t → t.spec.owner.outputId = some k →
        t ∈ tr.rt.spawned := by
      intro t ht hk
      by_contra hnot
      exact hnew ⟨t, ht.1, hnot, hk⟩
    exact hsingly t u (hold ht (hspawned ht hk)) (hold hu (hspawned hu hk')) k hk hk'

/-- When every output has one sender at any time, and is started only after the abort of its last
task has taken effect, no output has two tasks that run. -/
theorem runsSingly_of_oneSender {env : Env} {db : Database}
    (hruns : Relation.ReflTransGen (fun tr tr' => Step tr tr' ∧ tr'.pool.shared.OneSender ∧
      CleanStart tr.rt tr'.rt) (boot env db) tr) : RunsSingly (boot env db) tr ∧ tr.rt.Singly := by
  induction hruns with
  | refl => exact ⟨.refl, fun t _ ht => absurd ht.1 List.not_mem_nil⟩
  | tail _ hs ih =>
    have hsingly := singly_step (sound_of_runs ih.1.runs) ih.2 hs.1 hs.2.1 hs.2.2
    exact ⟨ih.1.tail ⟨hs.1, hsingly⟩, hsingly⟩

/-! ## An output that goes on -/

/-- The task with which `relayOutput` goes on. -/
def restartedOutput : Task := { relayOutput with id := 2 }

/-- The output has sent two packets and is stopped, and the abort takes effect. It is started again,
and sends the next packet. -/
def resumedScript : List Cue :=
  relayInputScript ++ relayOutputScript ++ [.packet relayOutput (.sendTo true),
    .arrive localEnv (.stopOutput 1 1)] ++ List.replicate 3 (.call 3) ++ [.finish relayOutput,
    .arrive localEnv (.startOutput 1 1)] ++ List.replicate 3 (.call 4) ++
    [.packet relayInput (.recvFrom [73]), .packet restartedOutput .recv]

/-- No two running tasks name one output. -/
def singlyCheck (rt : Runtime) : Bool :=
  rt.spawned.all fun t => rt.spawned.all fun u =>
    t ∈ rt.ended || u ∈ rt.ended || t.spec.owner.outputId.isNone ||
      t.spec.owner.outputId ≠ u.spec.owner.outputId || t = u

theorem singly_of_check {rt : Runtime} (h : singlyCheck rt = true) : rt.Singly := by
  intro t u ht hu k hk hk'
  have hpair := List.all_eq_true.mp (List.all_eq_true.mp h t ht.1) u hu.1
  simpa [hk, hk', ht.2, hu.2] using hpair

/-- The output of the relay is stopped and started. -/
theorem sent_once_restarted : ∃ tr, RunsSingly (boot localEnv emptyDatabase) tr ∧
    tr.taken relayOutput = [[71], [72]] ∧ tr.taken restartedOutput = [[73]] ∧
    Disjoint (tr.passed relayOutput) (tr.passed restartedOutput) := by
  have hview : ((boot localEnv emptyDatabase).play (fun _ tr => singlyCheck tr.rt)
      resumedScript).any (fun tr => decide (relayOutput ∈ tr.rt.spawned ∧
        restartedOutput ∈ tr.rt.spawned ∧ tr.taken relayOutput = [[71], [72]] ∧
        tr.taken restartedOutput = [[73]])) = true := by
    decide +kernel
  obtain ⟨tr, hplay, hview⟩ := (Option.any_eq_true _ _).mp hview
  obtain ⟨hold, hnew, htaken, htaken'⟩ := of_decide_eq_true hview
  have hruns : RunsSingly (boot localEnv emptyDatabase) tr :=
    runs_of_play (fun _ _ h => singly_of_check h) _ hplay
  exact ⟨tr, hruns, htaken, htaken',
    (sent_once hruns hold hnew (by decide) rfl rfl rfl rfl).1⟩

end Traffic

end StreamGateway
