import Mathlib.Data.List.Forall2
import StreamGateway.Interference

/-!
# Records next to calls

Some of what a call knows is its own and in no shared state: what it has made and not yet entered
anywhere. Here each call has a record of that next to its program. An invariant may speak of the
shared state and of all records together.
-/
namespace StreamGateway

namespace Prog

variable {σ κ ρ α β : Type} {R : κ → κ → σ → σ → Prop}

/-- With the record `k`, each step of the program is one of `R` from whatever state, and `R` says
what the record is afterwards. The result and the last record satisfy `Q`. -/
def Tracked (R : κ → κ → σ → σ → Prop) : Prog σ ρ → κ → (ρ → κ → Prop) → Prop
  | ret r, k, Q => Q r k
  | acquire _ rest, k, Q => Tracked R rest k Q
  | release rest, k, Q => Tracked R rest k Q
  | step update rest, k, Q => ∀ s, ∃ k', R k k' s (update s) ∧ Tracked R (rest s) k' Q

namespace Tracked

variable {k : κ} {Q : ρ → κ → Prop}

theorem ret {r : ρ} (h : Q r k) : Tracked R (Prog.ret r) k Q := h

theorem acquire {mode : LockMode} {p : Prog σ ρ} (h : Tracked R p k Q) :
    Tracked R (Prog.acquire mode p) k Q := h

theorem release {p : Prog σ ρ} (h : Tracked R p k Q) : Tracked R (Prog.release p) k Q := h

theorem bind {p : Prog σ α} {f : α → Prog σ β} {Q : α → κ → Prop} {Q' : β → κ → Prop}
    (h : Tracked R p k Q) (hf : ∀ r k', Q r k' → Tracked R (f r) k' Q') :
    Tracked R (p >>= f) k Q' := by
  induction p generalizing k with
  | ret r => exact hf r k h
  | acquire mode rest ih => exact ih h
  | release rest ih => exact ih h
  | step update rest ih =>
    intro s
    obtain ⟨k', hstep, hrest⟩ := h s
    exact ⟨k', hstep, ih s hrest⟩

theorem mono {p : Prog σ α} {Q Q' : α → κ → Prop} (h : Tracked R p k Q)
    (hQ : ∀ r k, Q r k → Q' r k) : Tracked R p k Q' := by
  induction p generalizing k with
  | ret r => exact hQ r k h
  | acquire mode rest ih => exact ih h
  | release rest ih => exact ih h
  | step update rest ih =>
    intro s
    obtain ⟨k', hstep, hrest⟩ := h s
    exact ⟨k', hstep, ih s hrest⟩

theorem atomic {f : σ → α × σ} {Q : α → κ → Prop}
    (h : ∀ s, ∃ k', R k k' s (f s).2 ∧ Q (f s).1 k') : Tracked R (Prog.atomic f) k Q := h

theorem locked {mode : LockMode} {f : σ → α × σ} {Q : α → κ → Prop}
    (h : ∀ s, ∃ k', R k k' s (f s).2 ∧ Q (f s).1 k') : Tracked R (Prog.locked mode f) k Q := h

/-- A program that relies on nothing and guarantees steps that keep the record. -/
theorem of_behaves {rely guar : Guarded σ} {p : Prog σ α} {held : Option LockMode} {s : σ}
    {Q : α → Option LockMode → σ → Prop} (hrely : ∀ h s s', rely h s s')
    (hguar : ∀ h s s', guar h s s' → R k k s s') (h : p.Behaves rely guar held s Q) :
    Tracked R p k fun r k' => k' = k ∧ ∃ h s, Q r h s := by
  induction p generalizing held s with
  | ret r => exact ⟨rfl, held, s, h⟩
  | acquire mode rest ih => exact ih (h s (hrely held s s))
  | release rest ih => exact ih (h s (hrely held s s))
  | step update rest ih =>
    intro s'
    obtain ⟨hstep, hrest⟩ := h s' (hrely held s s')
    exact ⟨k, hguar held _ _ hstep, ih s' hrest⟩

end Tracked

end Prog

/-! ## In a pool -/

namespace Pool

variable {σ κ : Type} {R : κ → κ → σ → σ → Prop} {idle : κ} {calls : Prog σ Unit → Prop}
  {outside C : σ → σ → Prop} {I : List κ → σ → Prop}

/-- Each call has its record, and at its end none is left but the idle one. -/
def Tracked (R : κ → κ → σ → σ → Prop) (idle : κ) (ks : List κ) (p : Pool σ) : Prop :=
  List.Forall₂ (fun t k => t.rest.Tracked R k fun _ k => k = idle) p.threads ks

/-- A call that has ended has the idle record. -/
theorem Tracked.ended {ks : List κ} {p : Pool σ} (h : p.Tracked R idle ks) :
    List.Forall₂ (fun t k => t.rest = .ret () → k = idle) p.threads ks := by
  refine h.imp fun t k ht hret => ?_
  rw [hret] at ht
  exact ht

theorem Tracked.all_idle {ks : List κ} {p : Pool σ} (h : p.Tracked R idle ks)
    (hended : ∀ t ∈ p.threads, t.rest = .ret ()) : ∀ k ∈ ks, k = idle := by
  have hts := h.ended
  clear h
  generalize p.threads = ts at hended hts
  induction hts with
  | nil => simp
  | cons hk _ ih =>
    rw [List.forall_mem_cons]
    exact ⟨hk (hended _ List.mem_cons_self), ih fun u hu => hended u (List.mem_cons_of_mem _ hu)⟩

/-- Calls that have all ended have idle records. -/
theorem tracked_ended {s : σ} {ts : List (Thread σ)} (h : ∀ t ∈ ts, t.rest = .ret ()) :
    Tracked R idle (List.replicate ts.length idle) ⟨s, ts⟩ := by
  induction ts with
  | nil => exact .nil
  | cons t ts ih =>
    refine .cons ?_ (ih fun u hu => h u (List.mem_cons_of_mem _ hu))
    rw [h t List.mem_cons_self]
    exact Prog.Tracked.ret rfl

/-- The invariant is kept by what the calls do, each with its own record, and from outside. -/
structure Maintains (R : κ → κ → σ → σ → Prop) (idle : κ) (calls : Prog σ Unit → Prop)
    (outside C : σ → σ → Prop) (I : List κ → σ → Prop) : Prop where
  calls : ∀ p, calls p → p.Tracked R idle fun _ k => k = idle
  arrives : ∀ ks s, I ks s → I (ks ++ [idle]) s
  acts : ∀ pre post k k' s s', I (pre ++ k :: post) s → R k k' s s' → C s s' →
    I (pre ++ k' :: post) s'
  outside : ∀ ks s s', I ks s → outside s s' → C s s' → I ks s'

/-- One call takes a step, and the others keep their records. -/
theorem Tracked.split {s : σ} {pre post : List (Thread σ)} {t : Thread σ} {ks : List κ}
    (h : Tracked R idle ks ⟨s, pre ++ t :: post⟩) : ∃ ks₁ k ks₂, ks = ks₁ ++ k :: ks₂ ∧
      t.rest.Tracked R k (fun _ k => k = idle) ∧ ∀ (s' : σ) (t' : Thread σ) k',
        t'.rest.Tracked R k' (fun _ k => k = idle) →
        Tracked R idle (ks₁ ++ k' :: ks₂) ⟨s', pre ++ t' :: post⟩ := by
  have hpre := List.forall₂_take_append _ _ _ (List.Forall₂.flip h)
  have hpost := List.forall₂_drop_append _ _ _ (List.Forall₂.flip h)
  have hks := (List.take_append_drop pre.length ks).symm
  generalize ks.take pre.length = ks₁ at hpre hks
  generalize ks.drop pre.length = ks₂ at hpost hks
  subst hks
  cases hpost with
  | @cons k _ ks₂ _ ht hpost =>
    exact ⟨ks₁, k, ks₂, rfl, ht, fun s' t' k' ht' =>
      List.rel_append hpre.flip (.cons ht' hpost.flip)⟩

theorem Maintains.step (h : Maintains R idle calls outside C I) {a b : Pool σ} {ks : List κ}
    (ha : a.Tracked R idle ks) (hi : I ks a.shared) (hstep : Step calls outside a b)
    (hc : C a.shared b.shared) : ∃ ks', b.Tracked R idle ks' ∧ I ks' b.shared := by
  cases hstep with
  | @call s ts p hp =>
    exact ⟨ks ++ [idle], List.rel_append ha (.cons (h.calls p hp) .nil), h.arrives ks s hi⟩
  | outside ho => exact ⟨ks, ha, h.outside ks _ _ hi ho hc⟩
  | @act s pre post update rest held =>
    obtain ⟨ks₁, k, ks₂, rfl, ht, hnext⟩ := ha.split
    obtain ⟨k', hr, hrest⟩ := ht s
    exact ⟨_, hnext _ _ k' hrest, h.acts ks₁ ks₂ k k' s _ hi hr hc⟩
  | @acquire s pre post mode rest =>
    obtain ⟨ks₁, k, ks₂, rfl, ht, hnext⟩ := ha.split
    exact ⟨_, hnext s _ k ht, hi⟩
  | @release s pre post rest held =>
    obtain ⟨ks₁, k, ks₂, rfl, ht, hnext⟩ := ha.split
    exact ⟨_, hnext s _ k ht, hi⟩

theorem runs_any {a b : Pool σ} (hruns : Runs calls outside C a b) :
    Runs calls outside (fun _ _ => True) a b :=
  Relation.ReflTransGen.mono (fun _ _ h => ⟨h.1, trivial⟩) a b hruns

theorem runs_calls {calls' : Prog σ Unit → Prop} (h : ∀ p, calls p → calls' p) {a b : Pool σ}
    (hruns : Runs calls outside C a b) : Runs calls' outside C a b :=
  Relation.ReflTransGen.mono (fun _ _ hstep => ⟨hstep.1.mono h, hstep.2⟩) a b hruns

/-- What holds in all states of the run may be assumed before each step. -/
theorem runs_with {P : σ → Prop} {a b : Pool σ} (hruns : Runs calls outside C a b)
    (hP : ∀ c, Runs calls outside C a c → P c.shared) :
    Runs calls outside (fun s s' => P s ∧ C s s') a b := by
  induction hruns with
  | refl => exact .refl
  | tail hab hstep ih => exact ih.tail ⟨hstep.1, hP _ hab, hstep.2⟩

/-- The invariant holds in every state of every run. -/
theorem Maintains.runs (h : Maintains R idle calls outside C I) {a b : Pool σ} {ks : List κ}
    (ha : a.Tracked R idle ks) (hi : I ks a.shared) (hruns : Runs calls outside C a b) :
    ∃ ks', b.Tracked R idle ks' ∧ I ks' b.shared := by
  induction hruns with
  | refl => exact ⟨ks, ha, hi⟩
  | tail _ hstep ih =>
    obtain ⟨ks', hb, hi'⟩ := ih
    exact h.step hb hi' hstep.1 hstep.2

end Pool

end StreamGateway
