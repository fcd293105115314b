import Mathlib.Algebra.BigOperators.Group.Finset.Basic
import Mathlib.Algebra.BigOperators.Group.List.Basic
import Mathlib.Data.List.AList
import Mathlib.Tactic.Abel

/-!
# Totals over a map

Each entry of a finite map weighs something, and the total is the sum. A total only depends on
what is found under each key. So a change of one entry changes the total by the difference of
two weights, whatever the change does to the order of the entries.
-/
namespace Totals

variable {κ β M : Type*} [AddCommMonoid M]

/-- The total of the weights of all entries. -/
def total (f : β → M) (m : AList fun _ : κ => β) : M := (m.entries.map fun e => f e.2).sum

/-- The weight of what is found, if anything is. -/
def weight (f : β → M) (o : Option β) : M := o.elim 0 f

@[simp] theorem weight_none (f : β → M) : weight f none = 0 := rfl

@[simp] theorem weight_some (f : β → M) (b : β) : weight f (some b) = f b := rfl

/-- What is additive in the weights is additive in the totals. -/
theorem map_total {N : Type*} [AddCommMonoid N] (g : M →+ N) (f : β → M)
    (m : AList fun _ : κ => β) : g (total f m) = total (fun b => g (f b)) m := by
  rw [total, map_list_sum, List.map_map]
  rfl

/-- A total of integers that are natural numbers. -/
theorem cast_total (f : β → ℕ) (m : AList fun _ : κ => β) :
    ((total f m : ℕ) : ℤ) = total (fun b => (f b : ℤ)) m :=
  map_total (Nat.castAddMonoidHom ℤ) f m

/-- A total of ones and zeros counts the entries that weigh one. -/
theorem total_eq_countP (p : β → Prop) [DecidablePred p] (m : AList fun _ : κ => β) :
    total (fun b => if p b then (1 : ℕ) else 0) m = m.entries.countP fun e => p e.2 := by
  rw [total]
  induction m.entries with
  | nil => rfl
  | cons e rest ih =>
    rw [List.map_cons, List.sum_cons, ih, List.countP_cons, Nat.add_comm]
    simp

variable [DecidableEq κ]

/-- The order of the entries does not matter. -/
theorem total_congr (f : β → M) {m m' : AList fun _ : κ => β}
    (h : ∀ k, m'.lookup k = m.lookup k) : total f m' = total f m := by
  have hperm : m'.entries.Perm m.entries := by
    refine List.lookup_ext m'.nodupKeys m.nodupKeys fun k b => ?_
    show b ∈ m'.lookup k ↔ b ∈ m.lookup k
    rw [h k]
  exact (hperm.map _).sum_eq

theorem total_insert_of_notMem (f : β → M) {m : AList fun _ : κ => β} {k : κ} (b : β)
    (h : k ∉ m) : total f (m.insert k b) = f b + total f m := by
  rw [total, AList.entries_insert_of_notMem h, List.map_cons, List.sum_cons, total]

/-- The total is the weight under one key and the total of the rest. -/
theorem total_erase (f : β → M) (m : AList fun _ : κ => β) (k : κ) :
    total f m = weight f (m.lookup k) + total f (m.erase k) := by
  have hnot : k ∉ m.erase k := fun hk => (AList.mem_erase.mp hk).1 rfl
  cases hb : m.lookup k with
  | none =>
    have hsame : total f (m.erase k) = total f m := by
      refine total_congr f fun j => ?_
      by_cases hj : j = k
      · rw [hj, hb, AList.lookup_erase]
      · exact AList.lookup_erase_ne hj
    rw [weight_none, zero_add, hsame]
  | some b =>
    have hsame : total f m = total f ((m.erase k).insert k b) := by
      refine total_congr f fun j => ?_
      by_cases hj : j = k
      · rw [hj, hb, AList.lookup_insert]
      · rw [AList.lookup_insert_ne hj, AList.lookup_erase_ne hj]
    rw [hsame, total_insert_of_notMem f b hnot, weight_some]

/-- Of two maps that differ under one key at most, the totals differ by what they have there. -/
theorem total_touched (f : β → M) {m m' : AList fun _ : κ => β} {k : κ}
    (h : ∀ j, j ≠ k → m'.lookup j = m.lookup j) :
    total f m' + weight f (m.lookup k) = total f m + weight f (m'.lookup k) := by
  have hrest : total f (m'.erase k) = total f (m.erase k) := by
    refine total_congr f fun j => ?_
    by_cases hj : j = k
    · rw [hj, AList.lookup_erase, AList.lookup_erase]
    · rw [AList.lookup_erase_ne hj, AList.lookup_erase_ne hj, h j hj]
  rw [total_erase f m' k, total_erase f m k, hrest]
  abel

/-- The entries that weigh one are counted by their keys. -/
theorem total_eq_card (p : β → Prop) [DecidablePred p] (m : AList fun _ : κ => β) (s : Finset κ)
    (h : ∀ k, k ∈ s ↔ ∃ b, m.lookup k = some b ∧ p b) :
    total (fun b => if p b then (1 : ℕ) else 0) m = s.card := by
  have hs : s = ((m.entries.filter fun e => p e.2).map Sigma.fst).toFinset := by
    ext k
    rw [h k, List.mem_toFinset, List.mem_map]
    constructor
    · rintro ⟨b, hb, hp⟩
      exact ⟨⟨k, b⟩, List.mem_filter.mpr ⟨AList.mem_lookup_iff.mp hb, by simpa using hp⟩, rfl⟩
    · rintro ⟨⟨k', b⟩, hmem, rfl⟩
      obtain ⟨hmem, hp⟩ := List.mem_filter.mp hmem
      exact ⟨b, AList.mem_lookup_iff.mpr hmem, by simpa using hp⟩
  have hnodup : ((m.entries.filter fun e => p e.2).map Sigma.fst).Nodup :=
    (List.filter_sublist.map Sigma.fst).nodup m.keys_nodup
  rw [hs, List.toFinset_card_of_nodup hnodup, List.length_map, total_eq_countP,
    List.countP_eq_length_filter]

end Totals
