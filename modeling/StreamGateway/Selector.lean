import Mathlib.Data.List.Basic
import Mathlib.Data.List.Forall2

/-!
# Selective stream filters

A selector looks at one item at a time. It accepts or rejects the item in its
current state, and only an accepted item changes the state. Two outputs are
attached to a run: `keep` drops the rejected items, `fill` puts a fixed filler in
their places. Nothing below depends on what the items or the states are.

The second half cuts a list into full pieces of a fixed length, as a reader of
fixed-size records does.
-/
namespace StreamGateway

structure Selector (σ α : Type*) where
  accepts : σ → α → Bool
  learn : σ → α → σ

namespace Selector

variable {σ α : Type*} (S : Selector σ α)

def step (s : σ) (x : α) : σ := if S.accepts s x then S.learn s x else s

def final (s : σ) (xs : List α) : σ := xs.foldl S.step s

/-- The decisions of a run, one for each item. -/
def mask : σ → List α → List Bool
  | _, [] => []
  | s, x :: xs => S.accepts s x :: mask (S.step s x) xs

def keep : σ → List α → List α
  | _, [] => []
  | s, x :: xs => (if S.accepts s x then [x] else []) ++ keep (S.step s x) xs

def fill (d : α) : σ → List α → List α
  | _, [] => []
  | s, x :: xs => (if S.accepts s x then x else d) :: fill d (S.step s x) xs

/-- The items of `xs` at the positions where the mask is set. -/
def pick (bs : List Bool) (xs : List α) : List α :=
  (bs.zip xs).filterMap fun p => if p.1 then some p.2 else none

/-- The items of `xs` where the mask is set, and the filler elsewhere. -/
def blank (d : α) (bs : List Bool) (xs : List α) : List α :=
  List.zipWith (fun b x => if b then x else d) bs xs

@[simp] theorem step_of_accepts {s : σ} {x : α} (h : S.accepts s x = true) :
    S.step s x = S.learn s x := if_pos h

@[simp] theorem step_of_rejects {s : σ} {x : α} (h : S.accepts s x = false) :
    S.step s x = s := by simp [step, h]

@[simp] theorem final_nil (s : σ) : S.final s [] = s := rfl

@[simp] theorem final_cons (s : σ) (x : α) (xs : List α) :
    S.final s (x :: xs) = S.final (S.step s x) xs := rfl

theorem final_append (s : σ) (xs ys : List α) :
    S.final s (xs ++ ys) = S.final (S.final s xs) ys := List.foldl_append

theorem keep_append (s : σ) (xs ys : List α) :
    S.keep s (xs ++ ys) = S.keep s xs ++ S.keep (S.final s xs) ys := by
  induction xs generalizing s with
  | nil => rfl
  | cons x xs ih => simp [keep, ih]

theorem fill_append (d : α) (s : σ) (xs ys : List α) :
    S.fill d s (xs ++ ys) = S.fill d s xs ++ S.fill d (S.final s xs) ys := by
  induction xs generalizing s with
  | nil => rfl
  | cons x xs ih => simp [fill, ih]

@[simp] theorem length_fill (d : α) (s : σ) (xs : List α) :
    (S.fill d s xs).length = xs.length := by
  induction xs generalizing s with
  | nil => rfl
  | cons x xs ih => simp [fill, ih]

theorem keep_eq_pick (s : σ) (xs : List α) : S.keep s xs = pick (S.mask s xs) xs := by
  induction xs generalizing s with
  | nil => rfl
  | cons x xs ih =>
    cases h : S.accepts s x <;> simp [keep, mask, pick, h, ih]

theorem fill_eq_blank (d : α) (s : σ) (xs : List α) :
    S.fill d s xs = blank d (S.mask s xs) xs := by
  induction xs generalizing s with
  | nil => rfl
  | cons x xs ih => simp [fill, mask, blank, ih]

theorem keep_subset (s : σ) (xs : List α) {x : α} (hx : x ∈ S.keep s xs) : x ∈ xs := by
  induction xs generalizing s with
  | nil => simp [keep] at hx
  | cons y ys ih =>
    rcases List.mem_append.mp hx with h | h
    · cases ha : S.accepts s y <;> simp [ha] at h
      simp [h]
    · exact List.mem_cons_of_mem _ (ih _ h)

theorem keep_sublist (s : σ) (xs : List α) : (S.keep s xs).Sublist xs := by
  induction xs generalizing s with
  | nil => exact List.nil_sublist _
  | cons x xs ih =>
    cases h : S.accepts s x with
    | false => simpa [keep, h] using (ih s).cons x
    | true => simpa [keep, h] using ih (S.learn s x)

/-- Where the filled output has another item than the input, it has the filler. -/
theorem fill_forall₂ (d : α) (s : σ) (xs : List α) :
    List.Forall₂ (fun y x => y = x ∨ y = d) (S.fill d s xs) xs := by
  induction xs generalizing s with
  | nil => exact .nil
  | cons x xs ih =>
    refine .cons ?_ (ih _)
    cases h : S.accepts s x <;> simp

/-- A rejected item teaches nothing, so running again over what was kept repeats
the same decisions. -/
theorem keep_keep (s : σ) (xs : List α) :
    S.keep s (S.keep s xs) = S.keep s xs ∧ S.final s (S.keep s xs) = S.final s xs := by
  induction xs generalizing s with
  | nil => exact ⟨rfl, rfl⟩
  | cons x xs ih =>
    cases h : S.accepts s x with
    | false => simpa [keep, h] using ih s
    | true => simpa [keep, h] using ih (S.learn s x)

/-- The same with a filler, provided that a filler which happens to be accepted
teaches nothing. -/
theorem fill_fill (d : α) (hd : ∀ s, S.accepts s d = true → S.learn s d = s)
    (s : σ) (xs : List α) :
    S.fill d s (S.fill d s xs) = S.fill d s xs ∧ S.final s (S.fill d s xs) = S.final s xs := by
  have hstep : ∀ s, S.step s d = s := by
    intro s
    cases h : S.accepts s d with
    | false => exact S.step_of_rejects h
    | true => rw [S.step_of_accepts h, hd s h]
  induction xs generalizing s with
  | nil => exact ⟨rfl, rfl⟩
  | cons x xs ih =>
    cases h : S.accepts s x with
    | false => simpa [fill, h, hstep] using ih s
    | true => simpa [fill, h] using ih (S.learn s x)

/-- Induction over a run that remembers the items seen. If `Inv seen s` is kept by
every step and an item accepted under it is `Good` for the items seen before it,
then every item kept is good for the items in front of it. -/
theorem keep_good (Inv : List α → σ → Prop) (Good : List α → α → Prop)
    (Allowed : σ → α → Prop)
    (hgood : ∀ seen s x, Inv seen s → S.accepts s x = true → Good seen x)
    (hinv : ∀ seen s x, Inv seen s → Allowed s x → Inv (seen ++ [x]) (S.step s x))
    (seen : List α) (s : σ) (xs : List α) (h0 : Inv seen s)
    (hall : ∀ pre x post, xs = pre ++ x :: post → Allowed (S.final s pre) x) :
    ∃ before : List (List α),
      List.Forall₂ (fun h x => h ++ [x] <+: seen ++ xs ∧ Good h x) before (S.keep s xs) := by
  induction xs generalizing seen s with
  | nil => exact ⟨[], List.Forall₂.nil⟩
  | cons x xs ih =>
    have hx : Allowed s x := hall [] x xs rfl
    obtain ⟨before, hb⟩ := ih (seen ++ [x]) (S.step s x) (hinv seen s x h0 hx)
      (fun pre y post he => hall (x :: pre) y post (by simp [he]))
    rw [List.append_assoc, List.singleton_append] at hb
    cases ha : S.accepts s x with
    | false => exact ⟨before, by simpa [keep, ha] using hb⟩
    | true =>
      refine ⟨seen :: before, ?_⟩
      simp only [keep, ha, if_true, List.singleton_append]
      exact .cons ⟨⟨xs, by simp⟩, hgood seen s x h0 ha⟩ hb

/-- The same for an invariant and a goodness that do not depend on the items seen. -/
theorem keep_all (Inv : σ → Prop) (Good : α → Prop) (Allowed : σ → α → Prop)
    (hgood : ∀ s x, Inv s → S.accepts s x = true → Good x)
    (hinv : ∀ s x, Inv s → Allowed s x → Inv (S.step s x)) (s : σ) (xs : List α) (h0 : Inv s)
    (hall : ∀ pre x post, xs = pre ++ x :: post → Allowed (S.final s pre) x) :
    ∀ x ∈ S.keep s xs, Good x := by
  obtain ⟨before, hb⟩ := S.keep_good (fun _ => Inv) (fun _ => Good) Allowed
    (fun _ => hgood) (fun _ => hinv) [] s xs h0 hall
  generalize S.keep s xs = kept at hb
  induction hb with
  | nil => simp
  | cons hx _ ih =>
    intro y hy
    obtain rfl | hy := List.mem_cons.mp hy
    · exact hx.2
    · exact ih y hy

/-- A view of the state that only the relevant items change can be computed from these
items alone. -/
theorem view_final {τ : Type*} (view : σ → τ) (relevant : α → Bool) (next : τ → α → τ)
    (Inv : σ → Prop) (hinv : ∀ s x, Inv s → Inv (S.step s x))
    (hskip : ∀ s x, Inv s → relevant x = false → view (S.step s x) = view s)
    (hnext : ∀ s x, Inv s → relevant x = true → view (S.step s x) = next (view s) x)
    (s : σ) (xs : List α) (hs : Inv s) :
    view (S.final s xs) = (xs.filter relevant).foldl next (view s) := by
  induction xs generalizing s with
  | nil => rfl
  | cons x xs ih =>
    rw [final_cons, ih _ (hinv s x hs)]
    cases hx : relevant x with
    | true => rw [List.filter_cons_of_pos hx, List.foldl_cons, hnext s x hs hx]
    | false => rw [List.filter_cons_of_neg (by simp [hx]), hskip s x hs hx]

end Selector

/-! ## Records of a fixed length -/

/-- The first `k` pieces of length `n`. -/
def takePieces {α : Type*} (n : ℕ) : ℕ → List α → List (List α)
  | 0, _ => []
  | k + 1, l => l.take n :: takePieces n k (l.drop n)

/-- All full pieces of length `n`; a shorter rest is not a piece. -/
def pieces {α : Type*} (n : ℕ) (l : List α) : List (List α) :=
  takePieces n (l.length / n) l

section Pieces

variable {α : Type*} {n : ℕ}

theorem length_pieces (l : List α) : (pieces n l).length = l.length / n := by
  unfold pieces
  generalize l.length / n = k
  induction k generalizing l with
  | zero => rfl
  | succ k ih => simp [takePieces, ih]

theorem length_of_mem_takePieces {k : ℕ} {l p : List α} (hk : k * n ≤ l.length)
    (hp : p ∈ takePieces n k l) : p.length = n := by
  induction k generalizing l with
  | zero => simp [takePieces] at hp
  | succ k ih =>
    have hk' : k * n + n ≤ l.length := by simpa [Nat.succ_mul] using hk
    rcases List.mem_cons.mp hp with h | h
    · rw [h, List.length_take]; omega
    · exact ih (by rw [List.length_drop]; omega) h

theorem length_of_mem_pieces {l p : List α} (hp : p ∈ pieces n l) : p.length = n :=
  length_of_mem_takePieces (Nat.div_mul_le_self _ _) hp

theorem takePieces_add (k j : ℕ) (l : List α) :
    takePieces n (k + j) l = takePieces n k l ++ takePieces n j (l.drop (k * n)) := by
  induction k generalizing l with
  | zero => simp [takePieces]
  | succ k ih =>
    have hd : (l.drop n).drop (k * n) = l.drop ((k + 1) * n) := by
      rw [List.drop_drop, Nat.succ_mul, Nat.add_comm]
    rw [Nat.add_right_comm, takePieces, ih, hd]
    rfl

theorem takePieces_append (k : ℕ) (l r : List α) (hk : k * n ≤ l.length) :
    takePieces n k (l ++ r) = takePieces n k l := by
  induction k generalizing l with
  | zero => rfl
  | succ k ih =>
    have hk' : k * n + n ≤ l.length := by simpa [Nat.succ_mul] using hk
    simp only [takePieces]
    rw [List.take_append_of_le_length (by omega), List.drop_append_of_le_length (by omega),
      ih _ (by rw [List.length_drop]; omega)]

/-- Cutting commutes with appending whole records. -/
theorem pieces_append (hn : 0 < n) (l r : List α) (hl : n ∣ l.length) :
    pieces n (l ++ r) = pieces n l ++ pieces n r := by
  obtain ⟨k, hk⟩ := hl
  have hd : (l ++ r).length / n = k + r.length / n := by
    rw [List.length_append, hk, Nat.mul_add_div hn]
  have hdl : l.length / n = k := by rw [hk, Nat.mul_div_cancel_left _ hn]
  have hkn : k * n = l.length := by rw [hk, Nat.mul_comm]
  unfold pieces
  rw [hd, hdl, takePieces_add, takePieces_append _ _ _ (Nat.le_of_eq hkn), hkn,
    List.drop_left]

/-- The pieces of a concatenation of whole records are those records. -/
theorem pieces_flatten (hn : 0 < n) (ps : List (List α)) (h : ∀ p ∈ ps, p.length = n) :
    pieces n ps.flatten = ps := by
  induction ps with
  | nil => simp [pieces, takePieces]
  | cons p ps ih =>
    have hp : p.length = n := h p List.mem_cons_self
    rw [List.flatten_cons, pieces_append hn _ _ (by simp [hp]),
      ih fun q hq => h q (List.mem_cons_of_mem _ hq)]
    simp [pieces, hp, Nat.div_self hn, takePieces, List.take_of_length_le]

/-- Regrouping whole records into other batches leaves the sequence of records alone. -/
theorem flatMap_pieces (hn : 0 < n) (bs : List (List α)) (h : ∀ b ∈ bs, n ∣ b.length) :
    bs.flatMap (pieces n) = pieces n bs.flatten := by
  induction bs with
  | nil => simp [pieces, takePieces]
  | cons b bs ih =>
    rw [List.flatMap_cons, List.flatten_cons,
      pieces_append hn _ _ (h b List.mem_cons_self),
      ih fun c hc => h c (List.mem_cons_of_mem _ hc)]

theorem flatMap_pieces_self (hn : 0 < n) (ps : List (List α)) (h : ∀ p ∈ ps, p.length = n) :
    ps.flatMap (pieces n) = ps := by
  rw [flatMap_pieces hn ps fun p hp => by simp [h p hp], pieces_flatten hn ps h]

theorem length_flatten_of_length (ps : List (List α)) (h : ∀ p ∈ ps, p.length = n) :
    ps.flatten.length = n * ps.length := by
  induction ps with
  | nil => simp
  | cons p ps ih =>
    rw [List.flatten_cons, List.length_append, h p List.mem_cons_self,
      ih fun q hq => h q (List.mem_cons_of_mem _ hq), List.length_cons, Nat.mul_succ,
      Nat.add_comm]

end Pieces

end StreamGateway
