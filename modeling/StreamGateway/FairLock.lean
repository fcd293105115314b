import Mathlib.Data.Fintype.Basic
import StreamGateway.Interference

/-!
# A fair lock

In a fair pool the calls that wait for a guard stand in line, and only the first of the line
is granted one. A call joins the line as soon as it comes to a request: it does not pause when
it gives a guard back. What was asked for first is granted first, and that decides races that
are open in a pool whose lock serves the calls in any order.
-/
namespace StreamGateway

open Prog

/-- The call asks for a guard. -/
def Thread.asks {σ : Type} (t : Thread σ) : Bool :=
  match t.rest with
  | .acquire .. => true
  | _ => false

/-- The call up to its next step or request. -/
def Thread.settled {σ : Type} : Prog σ Unit → Option LockMode → Thread σ
  | .release rest, _ => settled rest none
  | p, held => ⟨p, held⟩

namespace Thread

variable {σ : Type}

@[simp] theorem settled_ret (r : Unit) (held : Option LockMode) :
    settled (σ := σ) (.ret r) held = ⟨.ret r, held⟩ := rfl

@[simp] theorem settled_acquire (mode : LockMode) (rest : Prog σ Unit)
    (held : Option LockMode) : settled (.acquire mode rest) held = ⟨.acquire mode rest, held⟩ :=
  rfl

@[simp] theorem settled_release (rest : Prog σ Unit) (held : Option LockMode) :
    settled (.release rest) held = settled rest none := rfl

@[simp] theorem settled_step (update : σ → σ) (rest : σ → Prog σ Unit)
    (held : Option LockMode) : settled (.step update rest) held = ⟨.step update rest, held⟩ := rfl

theorem settled_held (p : Prog σ Unit) (held : Option LockMode) :
    (settled p held).held = held ∨ (settled p held).held = none := by
  induction p generalizing held with
  | ret r => exact .inl rfl
  | acquire mode rest => exact .inl rfl
  | release rest ih => exact .inr ((ih none).elim id id)
  | step update rest => exact .inl rfl

/-- A call that goes on without a pause behaves as before. -/
theorem settled_behaves {rely guar : Guarded σ} {p : Prog σ Unit} {held : Option LockMode}
    {s : σ} (hrefl : ∀ h s, rely h s s) (hp : p.Behaves rely guar held s fun _ _ _ => True) :
    (settled p held).rest.Behaves rely guar (settled p held).held s fun _ _ _ => True := by
  induction p generalizing held with
  | ret r => exact hp
  | acquire mode rest => exact hp
  | release rest ih => exact ih (hp s (hrefl held s))
  | step update rest => exact hp

end Thread

/-- A pool of named calls, with the line of those that wait. -/
structure FairPool (ι σ : Type) where
  shared : σ
  threads : ι → Thread σ
  line : List ι

namespace FairPool

/-- Each call stands in line at most once, only those that ask do, and the guards are
compatible. -/
structure Orderly {ι σ : Type} (p : FairPool ι σ) : Prop where
  nodup : p.line.Nodup
  asks : ∀ i ∈ p.line, (p.threads i).asks = true
  apart : ∀ i j, i ≠ j → Apart (p.threads i).held (p.threads j).held

theorem Orderly.not_mem {ι σ : Type} {p : FairPool ι σ} {i : ι} (h : p.Orderly)
    (hi : (p.threads i).asks = false) : i ∉ p.line := by
  intro hmem
  rw [h.asks i hmem] at hi
  exact absurd hi (by simp)

/-- A guard that is kept or given back is as compatible as before. -/
theorem Orderly.apart_settled {ι σ : Type} {p : FairPool ι σ} {i j : ι} (h : p.Orderly)
    {held : Option LockMode} {q : Prog σ Unit} (hheld : (p.threads i).held = held)
    (hj : j ≠ i) : Apart (Thread.settled q held).held (p.threads j).held := by
  rcases Thread.settled_held q held with hs | hs
  · rw [hs, ← hheld]
    exact h.apart i j hj.symm
  · rw [hs]
    exact (apart_none _).symm

variable {ι σ : Type} [DecidableEq ι]

/-- One call goes on. If it asks for a guard, it joins the line. -/
def goOn (p : FairPool ι σ) (i : ι) (t : Thread σ) : FairPool ι σ where
  shared := p.shared
  threads := Function.update p.threads i t
  line := if t.asks then p.line ++ [i] else p.line

/-- The steps of a fair pool. A new call takes the place of one that has returned. -/
inductive Step (calls : ι → Prog σ Unit → Prop) (outside : σ → σ → Prop) :
    FairPool ι σ → FairPool ι σ → Prop
  | call {a : FairPool ι σ} {i : ι} {held : Option LockMode} {p : Prog σ Unit} :
      a.threads i = ⟨.ret (), held⟩ → calls i p →
      Step calls outside a (a.goOn i (.settled p none))
  | outside {a : FairPool ι σ} {s : σ} : outside a.shared s →
      Step calls outside a { a with shared := s }
  | act {a : FairPool ι σ} {i : ι} {update : σ → σ} {rest : σ → Prog σ Unit}
      {held : Option LockMode} : a.threads i = ⟨.step update rest, held⟩ →
      Step calls outside a
        (goOn { a with shared := update a.shared } i (.settled (rest a.shared) held))
  | grant {a : FairPool ι σ} {i : ι} {line : List ι} {mode : LockMode} {rest : Prog σ Unit} :
      a.line = i :: line → a.threads i = ⟨.acquire mode rest, none⟩ →
      (∀ j, j ≠ i → mode.compatible (a.threads j).held) →
      Step calls outside a (goOn { a with line := line } i (.settled rest (some mode)))

section goOn

variable {p : FairPool ι σ} {i j : ι} {t : Thread σ}

@[simp] theorem goOn_shared : (p.goOn i t).shared = p.shared := rfl

@[simp] theorem goOn_threads_self : (p.goOn i t).threads i = t := by
  simp only [goOn, Function.update_self]

theorem goOn_threads_of_ne (h : j ≠ i) : (p.goOn i t).threads j = p.threads j := by
  simp only [goOn, Function.update_of_ne h]

theorem mem_line_goOn (h : j ∈ p.line) : j ∈ (p.goOn i t).line := by
  unfold goOn
  split
  · exact List.mem_append_left _ h
  · exact h

theorem goOn_line_of_asks (h : t.asks = true) : (p.goOn i t).line = p.line ++ [i] := if_pos h

end goOn

variable {calls : ι → Prog σ Unit → Prop} {outside : σ → σ → Prop} {a b p : FairPool ι σ}
  {i j : ι}

theorem Orderly.goOn {t : Thread σ} (h : p.Orderly) (hi : i ∉ p.line)
    (ht : ∀ j, j ≠ i → Apart t.held (p.threads j).held) : (p.goOn i t).Orderly := by
  refine ⟨?_, fun j hj => ?_, fun j j' hne => ?_⟩
  · unfold FairPool.goOn
    split
    · exact List.nodup_append.mpr ⟨h.nodup, List.nodup_singleton i, fun j hj j' hj' hjj => hi
        (List.mem_singleton.mp hj' ▸ hjj ▸ hj)⟩
    · exact h.nodup
  · by_cases hji : j = i
    · subst hji
      rw [goOn_threads_self]
      by_contra hasks
      unfold FairPool.goOn at hj
      rw [if_neg hasks] at hj
      exact hi hj
    · rw [goOn_threads_of_ne hji]
      refine h.asks j ?_
      unfold FairPool.goOn at hj
      split at hj
      · exact (List.mem_append.mp hj).resolve_right fun hj => hji (List.mem_singleton.mp hj)
      · exact hj
  · by_cases hji : j = i
    · subst hji
      rw [goOn_threads_self, goOn_threads_of_ne hne.symm]
      exact ht j' hne.symm
    · rw [goOn_threads_of_ne hji]
      by_cases hji' : j' = i
      · subst hji'
        rw [goOn_threads_self]
        exact (ht j hne).symm
      · rw [goOn_threads_of_ne hji']
        exact h.apart j j' hne

theorem Orderly.step (h : a.Orderly) (hstep : Step calls outside a b) : b.Orderly := by
  cases hstep with
  | @call i held p hi _ =>
    have hline : i ∉ a.line := h.not_mem (by rw [hi]; rfl)
    refine h.goOn hline fun j _ => ?_
    rcases Thread.settled_held p none with hs | hs <;> rw [hs] <;> exact (apart_none _).symm
  | outside _ => exact ⟨h.nodup, h.asks, h.apart⟩
  | @act i update rest held hi =>
    have hline : i ∉ a.line := h.not_mem (by rw [hi]; rfl)
    refine Orderly.goOn ⟨h.nodup, h.asks, h.apart⟩ hline fun j hj => ?_
    exact h.apart_settled (by rw [hi]) hj
  | @grant i line mode rest hline _ hall =>
    have hnodup := h.nodup
    rw [hline] at hnodup
    obtain ⟨hi, hnodup⟩ := List.nodup_cons.mp hnodup
    refine Orderly.goOn ⟨hnodup, fun j hj => h.asks j ?_, h.apart⟩ hi fun j hj => ?_
    · rw [hline]
      exact List.mem_cons_of_mem _ hj
    · rcases Thread.settled_held rest (some mode) with hs | hs
      · rw [hs]
        exact LockMode.apart_of_compatible (hall j hj)
      · rw [hs]
        exact (apart_none _).symm

/-! ## Who comes first -/

/-- The first call waits, and the second one does not wait before it. -/
def Before (i j : ι) (line : List ι) : Prop := line.idxOf i < line.idxOf j

theorem before_of_mem {line : List ι} (hi : i ∈ line) (hj : j ∉ line) : Before i j line := by
  rw [Before, List.idxOf_eq_length hj]
  exact List.idxOf_lt_length_of_mem hi

theorem Before.append {line : List ι} (h : Before i j line) (line' : List ι) :
    Before i j (line ++ line') := by
  unfold Before at h ⊢
  have hi : i ∈ line := List.idxOf_lt_length_iff.mp (h.trans_le List.idxOf_le_length)
  rw [List.idxOf_append_of_mem hi]
  by_cases hj : j ∈ line
  · rwa [List.idxOf_append_of_mem hj]
  · rw [List.idxOf_append_of_notMem hj]
    exact (List.idxOf_lt_length_of_mem hi).trans_le (Nat.le_add_right _ _)

theorem Before.goOn {i' : ι} {t : Thread σ} (h : Before i j p.line) :
    Before i j (p.goOn i' t).line := by
  unfold FairPool.goOn
  split
  · exact h.append _
  · exact h

/-- Who waits first is not passed over. -/
theorem Before.not_first {line : List ι} (h : Before i j (j :: line)) : False := by
  rw [Before, List.idxOf_cons_self] at h
  exact absurd h (Nat.not_lt_zero _)

/-! ## Schedules -/

variable [Fintype ι]

/-- The next step of the call, or the next grant. -/
def turn (p : FairPool ι σ) : Option ι → Option (FairPool ι σ)
  | some i =>
    match p.threads i with
    | ⟨.step update rest, held⟩ => some
        (goOn { p with shared := update p.shared } i (.settled (rest p.shared) held))
    | _ => none
  | none =>
    match p.line with
    | i :: line =>
      match p.threads i with
      | ⟨.acquire mode rest, none⟩ =>
        if ∀ j, j ≠ i → mode.compatible (p.threads j).held then
          some (goOn { p with line := line } i (.settled rest (some mode)))
        else none
      | _ => none
    | [] => none

theorem step_of_turn {k : Option ι} (h : a.turn k = some b) : Step calls outside a b := by
  unfold turn at h
  split at h
  · split at h
    · rename_i hi
      obtain rfl := Option.some.inj h
      exact .act hi
    · exact absurd h (by simp)
  · split at h
    · rename_i hline
      split at h
      · rename_i hi
        split at h
        · rename_i hall
          obtain rfl := Option.some.inj h
          exact .grant hline hi hall
        · exact absurd h (by simp)
      · exact absurd h (by simp)
    · exact absurd h (by simp)

end FairPool

end StreamGateway
