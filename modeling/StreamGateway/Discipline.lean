import StreamGateway.Async
import Mathlib.Logic.Hydra

/-!
# Guards that are let go

A program keeps to the discipline if it requests a guard only while it holds none, and holds none
at its end. The rule follows the program along its text, whatever its steps find in the state. In
a pool of such programs some call can always go on until all have returned, and each step uses up
a part of a program, so that all do return, in whatever order they take their steps.
-/
namespace StreamGateway

namespace Prog

variable {σ ρ α β : Type}

/-- Every atomic step of the program is one of `R`, whatever state it finds, and the program
requests a guard while it holds one only if that one is `nested`. The result, and the guard held
at the end, satisfy `Q`. -/
def Disciplined (R : σ → σ → Prop) (nested : LockMode → Prop) :
    Prog σ ρ → Option LockMode → (ρ → Option LockMode → Prop) → Prop
  | ret r, held, Q => Q r held
  | acquire mode rest, held, Q =>
    (∀ m, held = some m → nested m) ∧ Disciplined R nested rest (some mode) Q
  | release rest, _, Q => Disciplined R nested rest none Q
  | step update rest, held, Q => ∀ s, R s (update s) ∧ Disciplined R nested (rest s) held Q

namespace Disciplined

variable {R later : σ → σ → Prop} {nested : LockMode → Prop} {held : Option LockMode}

theorem ret {r : ρ} {Q : ρ → Option LockMode → Prop} (h : Q r held) :
    Disciplined R nested (Prog.ret r) held Q := h

theorem acquire {mode : LockMode} {p : Prog σ ρ} {Q : ρ → Option LockMode → Prop}
    (h : Disciplined R nested p (some mode) Q) :
    Disciplined R nested (Prog.acquire mode p) none Q :=
  ⟨fun _ hheld => absurd hheld (by simp), h⟩

theorem release {p : Prog σ ρ} {Q : ρ → Option LockMode → Prop}
    (h : Disciplined R nested p none Q) : Disciplined R nested (Prog.release p) held Q := h

theorem bind {p : Prog σ α} {f : α → Prog σ β} {Q : α → Option LockMode → Prop}
    {Q' : β → Option LockMode → Prop} (h : Disciplined R nested p held Q)
    (hf : ∀ r held', Q r held' → Disciplined R nested (f r) held' Q') :
    Disciplined R nested (p >>= f) held Q' := by
  induction p generalizing held with
  | ret r => exact hf r held h
  | acquire mode rest ih => exact ⟨h.1, ih h.2⟩
  | release rest ih => exact ih h
  | step update rest ih => exact fun s => ⟨(h s).1, ih s (h s).2⟩

theorem atomic {f : σ → α × σ} {Q : α → Option LockMode → Prop}
    (h : ∀ s, R s (f s).2 ∧ Q (f s).1 held) : Disciplined R nested (Prog.atomic f) held Q := h

theorem locked {mode : LockMode} {f : σ → α × σ} {Q : α → Option LockMode → Prop}
    (hn : ∀ m, held = some m → nested m) (h : ∀ s, R s (f s).2 ∧ Q (f s).1 none) :
    Disciplined R nested (Prog.locked mode f) held Q :=
  ⟨hn, h⟩

theorem ignore {p : Prog σ α} {Q : α → Option LockMode → Prop} {Q' : Option LockMode → Prop}
    (h : Disciplined R nested p held Q) (hQ : ∀ r held', Q r held' → Q' held') :
    Disciplined R nested p.ignore held fun _ held' => Q' held' :=
  bind h fun r held' hq => hQ r held' hq

/-- Wherever the program is, its steps are those of `R`. -/
theorem follows {p : Prog σ ρ} {Q : ρ → Option LockMode → Prop}
    (h : Disciplined R nested p held Q) (s : σ) :
    p.Follows R later s fun _ _ => True := by
  induction p generalizing held s with
  | ret r => trivial
  | acquire mode rest ih => exact ih h.2 s
  | release rest ih => exact ih h s
  | step update rest ih => exact fun s' _ => ⟨(h s').1, ih s' (h s').2 (update s')⟩

end Disciplined

/-- What is left of a program after its next step. -/
inductive Remains : Prog σ ρ → Prog σ ρ → Prop
  | acquire {mode : LockMode} {rest : Prog σ ρ} : Remains rest (acquire mode rest)
  | release {rest : Prog σ ρ} : Remains rest (release rest)
  | step {update : σ → σ} {rest : σ → Prog σ ρ} (s : σ) : Remains (rest s) (step update rest)

theorem wellFounded_remains : WellFounded (Remains : Prog σ ρ → Prog σ ρ → Prop) := by
  refine ⟨fun p => ?_⟩
  induction p with
  | ret r => exact ⟨_, fun q h => nomatch h⟩
  | acquire mode rest ih =>
    refine ⟨_, fun q h => ?_⟩
    cases h
    exact ih
  | release rest ih =>
    refine ⟨_, fun q h => ?_⟩
    cases h
    exact ih
  | step update rest ih =>
    refine ⟨_, fun q h => ?_⟩
    cases h with
    | step s => exact ih s

end Prog

open Prog

/-- The call requests a guard. -/
def Thread.Requests {σ : Type} (t : Thread σ) : Prop := ∃ mode rest, t.rest = .acquire mode rest

/-- The call requests a guard while it holds one. -/
def Thread.WaitsForItself {σ : Type} (t : Thread σ) : Prop := t.held ≠ none ∧ t.Requests

instance {σ : Type} : DecidablePred (Thread.Requests (σ := σ)) := fun t =>
  match t with
  | ⟨.acquire mode rest, _⟩ => .isTrue ⟨mode, rest, rfl⟩
  | ⟨.ret _, _⟩ => .isFalse (by simp [Thread.Requests])
  | ⟨.release _, _⟩ => .isFalse (by simp [Thread.Requests])
  | ⟨.step _ _, _⟩ => .isFalse (by simp [Thread.Requests])

instance {σ : Type} : DecidablePred (Thread.WaitsForItself (σ := σ)) := fun t =>
  inferInstanceAs (Decidable (t.held ≠ none ∧ t.Requests))

namespace Pool

variable {σ : Type} {calls : Prog σ Unit → Prop} {outside R : σ → σ → Prop}
  {nested : LockMode → Prop}

/-- One of the calls under way takes its next step. -/
def Advances (a b : Pool σ) : Prop := ∃ k, a.advance k = some b

/-- Between two steps of the calls the state may change from outside. -/
def Elapses (outside : σ → σ → Prop) (a b : Pool σ) : Prop :=
  a.threads = b.threads ∧ Relation.ReflTransGen outside a.shared b.shared

/-- In whatever order the calls under way take their steps, the pool comes to a state of `P`. No
new calls arrive. -/
inductive Inevitable (outside : σ → σ → Prop) (P : Pool σ → Prop) : Pool σ → Prop
  | reached {a : Pool σ} : P a → Inevitable outside P a
  | advance {a : Pool σ} : (∀ m, Elapses outside a m → ∃ b, Advances m b) →
      (∀ m b, Elapses outside a m → Advances m b → Inevitable outside P b) →
      Inevitable outside P a

/-- All calls have returned, and none holds a guard. -/
def Returned (p : Pool σ) : Prop := ∀ t ∈ p.threads, t.rest = .ret () ∧ t.held = none

/-! ## Each call under way -/

theorem advance_append (s : σ) (pre post : List (Thread σ)) (t : Thread σ) :
    (⟨s, pre ++ t :: post⟩ : Pool σ).advance pre.length = advanceThread s pre t post := by
  simp [advance]

/-- A step of a call replaces it by what is left of it. -/
theorem Advances.remains {a b : Pool σ} (h : Advances a b) :
    ∃ pre t t' post, a.threads = pre ++ t :: post ∧ b.threads = pre ++ t' :: post ∧
      Remains t'.rest t.rest := by
  obtain ⟨k, h⟩ := h
  unfold advance at h
  split at h
  · rename_i t post hdrop
    have hsplit : a.threads = a.threads.take k ++ t :: post := by
      rw [← hdrop]
      exact (List.take_append_drop k a.threads).symm
    unfold advanceThread at h
    split at h
    · obtain rfl := Option.some.inj h
      exact ⟨_, _, _, _, hsplit, rfl, .step _⟩
    · split at h
      · obtain rfl := Option.some.inj h
        exact ⟨_, _, _, _, hsplit, rfl, .acquire⟩
      · exact absurd h (by simp)
    · obtain rfl := Option.some.inj h
      exact ⟨_, _, _, _, hsplit, rfl, .release⟩
    · exact absurd h (by simp)
  · exact absurd h (by simp)

/-- The calls under way keep to the discipline. -/
def Orderly (R : σ → σ → Prop) (nested : LockMode → Prop) (p : Pool σ) : Prop :=
  ∀ t ∈ p.threads, t.rest.Disciplined R nested t.held fun _ held => held = none

theorem Orderly.replace {s s' : σ} {pre post : List (Thread σ)} {t t' : Thread σ}
    (h : Orderly R nested ⟨s, pre ++ t :: post⟩)
    (ht : t'.rest.Disciplined R nested t'.held fun _ held => held = none) :
    Orderly R nested ⟨s', pre ++ t' :: post⟩ := by
  intro u hu
  rcases List.mem_append.mp hu with hu | hu
  · exact h u (List.mem_append_left _ hu)
  · rcases List.mem_cons.mp hu with rfl | hu
    · exact ht
    · exact h u (List.mem_append_right _ (List.mem_cons_of_mem _ hu))

theorem Orderly.step (hcalls : ∀ p, calls p → p.Disciplined R nested none fun _ held =>
      held = none) {a b : Pool σ} (h : Orderly R nested a) (hs : Step calls outside a b) :
    Orderly R nested b := by
  have hthread : ∀ {s : σ} {pre post : List (Thread σ)} {t : Thread σ},
      Orderly R nested ⟨s, pre ++ t :: post⟩ →
      t.rest.Disciplined R nested t.held fun _ held => held = none :=
    fun h => h _ (List.mem_append_right _ List.mem_cons_self)
  cases hs with
  | call hp =>
    intro t ht
    rcases List.mem_append.mp ht with ht | ht
    · exact h t ht
    · obtain rfl := List.mem_singleton.mp ht
      exact hcalls _ hp
  | outside _ => exact h
  | @act s => exact h.replace ((hthread h s).2)
  | acquire _ => exact h.replace (hthread h).2
  | release =>
    have ht := hthread h
    exact h.replace ht

theorem Orderly.runs (hcalls : ∀ p, calls p → p.Disciplined R nested none fun _ held =>
      held = none) {C : σ → σ → Prop} {a b : Pool σ} (h : Orderly R nested a)
    (hruns : Runs calls outside C a b) : Orderly R nested b := by
  induction hruns with
  | refl => exact h
  | tail _ hs ih => exact ih.step hcalls hs.1

/-! ## Some call can go on -/

/-- A call that holds a guard goes on without the others, unless it waits for itself. -/
theorem Orderly.advances_holder {s : σ} {pre post : List (Thread σ)} {t : Thread σ}
    (h : Orderly R nested ⟨s, pre ++ t :: post⟩) (hheld : t.held ≠ none)
    (hwaits : ¬ t.WaitsForItself) : ∃ b, (⟨s, pre ++ t :: post⟩ : Pool σ).Advances b := by
  have ht := h t (List.mem_append_right _ List.mem_cons_self)
  obtain ⟨rest, held⟩ := t
  cases rest with
  | ret r => simp_all [Disciplined]
  | acquire mode rest => exact absurd ⟨hheld, mode, rest, rfl⟩ hwaits
  | release rest => exact ⟨_, pre.length, advance_append ..⟩
  | step update rest => exact ⟨_, pre.length, advance_append ..⟩

/-- With no guard held, every call that has not returned can go on. -/
theorem advances_free {s : σ} {pre post : List (Thread σ)} {t : Thread σ}
    (hfree : ∀ u ∈ pre ++ t :: post, u.held = none) (ht : t.rest ≠ .ret ()) :
    ∃ b, (⟨s, pre ++ t :: post⟩ : Pool σ).Advances b := by
  have hheld := hfree t (List.mem_append_right _ List.mem_cons_self)
  obtain ⟨rest, held⟩ := t
  obtain rfl : held = none := hheld
  cases rest with
  | ret r => exact absurd rfl ht
  | acquire mode rest =>
    have hall : ((pre ++ post).all fun u => mode.compatible u.held) = true := by
      refine List.all_eq_true.mpr fun u hu => ?_
      have hu' : u ∈ pre ++ ⟨.acquire mode rest, none⟩ :: post := by
        rcases List.mem_append.mp hu with hu | hu
        · exact List.mem_append_left _ hu
        · exact List.mem_append_right _ (List.mem_cons_of_mem _ hu)
      rw [hfree u hu']
      cases mode <;> rfl
    refine ⟨⟨s, pre ++ ⟨rest, some mode⟩ :: post⟩, pre.length, ?_⟩
    rw [advance_append]
    exact if_pos hall
  | release rest => exact ⟨_, pre.length, advance_append ..⟩
  | step update rest => exact ⟨_, pre.length, advance_append ..⟩

/-- As long as some call has not returned, one can go on, unless one waits for itself. -/
theorem Orderly.progress {a : Pool σ} (h : Orderly R nested a) (hreturned : ¬ a.Returned)
    (hwaits : ∀ t ∈ a.threads, ¬ t.WaitsForItself) : ∃ b, a.Advances b := by
  obtain ⟨s, ts⟩ := a
  by_cases hfree : ∀ u ∈ ts, u.held = none
  · obtain ⟨t, ht, hne⟩ : ∃ t ∈ ts, t.rest ≠ .ret () := by
      by_contra hall
      push Not at hall
      exact hreturned fun t ht => ⟨hall t ht, hfree t ht⟩
    obtain ⟨pre, post, rfl⟩ := List.append_of_mem ht
    exact advances_free hfree hne
  · push Not at hfree
    obtain ⟨t, ht, hheld⟩ := hfree
    obtain ⟨pre, post, rfl⟩ := List.append_of_mem ht
    exact h.advances_holder hheld (hwaits t ht)

/-! ## All calls return -/

/-- The programs of the calls under way, in no order. -/
def rests (p : Pool σ) : Multiset (Prog σ Unit) := (p.threads.map Thread.rest : List _)

theorem Advances.cutExpand {a b : Pool σ} (h : Advances a b) :
    Relation.CutExpand Remains b.rests a.rests := by
  obtain ⟨pre, t, t', post, ha, hb, hr⟩ := h.remains
  have hsplit : ∀ u : Thread σ, (((pre ++ u :: post).map Thread.rest : List _) :
      Multiset (Prog σ Unit)) = {u.rest} + ((pre ++ post).map Thread.rest : List _) := by
    intro u
    rw [Multiset.singleton_add, Multiset.cons_coe, List.map_append, List.map_cons]
    simp
  unfold rests
  rw [ha, hb, hsplit, hsplit]
  exact Relation.cutExpand_single_add hr _

/-- Every order of the steps leads to a state of `P`, if from the states that have a property
that the steps keep some call can go on until `P` holds. -/
theorem inevitable_of_progress {P K : Pool σ → Prop}
    (hstep : ∀ a b, K a → Advances a b → K b) (helapse : ∀ a m, K a → Elapses outside a m → K m)
    (hprogress : ∀ a, K a → P a ∨ ∃ b, a.Advances b)
    (hP : ∀ a m, P m → Elapses outside a m → P a) {a : Pool σ} (h : K a) :
    Inevitable outside P a := by
  have hwf : WellFounded (InvImage (Relation.CutExpand Remains) (rests (σ := σ))) :=
    InvImage.wf _ wellFounded_remains.cutExpand
  induction a using hwf.induction with
  | _ a ih =>
    by_cases hp : P a
    · exact .reached hp
    refine .advance (fun m hm => ?_) fun m b hm hb => ?_
    · exact (hprogress m (helapse a m h hm)).resolve_left fun hpm => hp (hP a m hpm hm)
    · refine ih b ?_ (hstep m b (helapse a m h hm) hb)
      have hrests : a.rests = m.rests := by rw [rests, rests, hm.1]
      have hcut := hb.cutExpand
      rwa [← hrests] at hcut

theorem Orderly.advances {a b : Pool σ} (h : Orderly R nested a) (hs : Advances a b) :
    Orderly R nested b := by
  obtain ⟨k, hk⟩ := hs
  have hstep : Step (fun _ => False) (fun _ _ => False) a b := step_of_advance hk
  exact h.step (fun _ hp => hp.elim) hstep

theorem Orderly.elapses {a m : Pool σ} (h : Orderly R nested a) (hm : Elapses outside a m) :
    Orderly R nested m :=
  fun t ht => h t (hm.1 ▸ ht)

theorem Inevitable.mono {P P' : Pool σ → Prop} {a : Pool σ} (h : Inevitable outside P a)
    (hP : ∀ a, P a → P' a) : Inevitable outside P' a := by
  induction h with
  | reached hp => exact .reached (hP _ hp)
  | advance hsome _ ih => exact .advance hsome ih

/-- Calls that keep to the discipline come to an end, in whatever order they take their steps:
they all return, or one of them requests a guard while it holds a nested one. -/
theorem Orderly.ends {a : Pool σ} (h : Orderly R nested a) :
    Inevitable outside (fun p => p.Returned ∨
      ∃ t ∈ p.threads, t.Requests ∧ ∃ m, t.held = some m ∧ nested m) a := by
  refine inevitable_of_progress (K := Orderly R nested) (fun _ _ => .advances)
    (fun _ _ => .elapses) (fun b hb => ?_) (fun b m hp hm => ?_) h
  · by_cases hr : b.Returned
    · exact .inl (.inl hr)
    by_cases hw : ∃ t ∈ b.threads, t.WaitsForItself
    · obtain ⟨t, ht, hheld, mode, rest, hrest⟩ := hw
      obtain ⟨m, hm⟩ := Option.ne_none_iff_exists'.mp hheld
      have hd := hb t ht
      rw [hrest] at hd
      exact .inl (.inr ⟨t, ht, ⟨mode, rest, hrest⟩, m, hm, hd.1 m hm⟩)
    · push Not at hw
      exact .inr (hb.progress hr hw)
  · exact hp.imp (fun hr t ht => hr t (hm.1 ▸ ht)) fun ⟨t, ht, hw⟩ => ⟨t, hm.1 ▸ ht, hw⟩

/-- Calls that never request a second guard all return. -/
theorem Orderly.returns {a : Pool σ} (h : Orderly R (fun _ => False) a) :
    Inevitable outside Returned a :=
  h.ends.mono fun _ hp => hp.resolve_right fun ⟨_, _, _, _, _, hfalse⟩ => hfalse

/-! ## A call that stalls the others -/

/-- The call at the position writes, and waits for a guard of its own. -/
def Stalled (k : ℕ) (p : Pool σ) : Prop :=
  ∃ t, p.threads[k]? = some t ∧ t.held = some .write ∧ t.Requests

/-- Calls that request a second guard only under a write guard all return, or one stalls. -/
theorem Orderly.stalls {a : Pool σ} (h : Orderly R (fun m => m = .write) a) :
    Inevitable outside (fun p => p.Returned ∨ ∃ k, p.Stalled k) a := by
  refine h.ends.mono fun p hp => hp.imp_right ?_
  rintro ⟨t, ht, hrequests, m, hheld, rfl⟩
  obtain ⟨k, hk⟩ := List.getElem?_of_mem ht
  exact ⟨k, t, hk, hheld, hrequests⟩

end Pool

end StreamGateway
