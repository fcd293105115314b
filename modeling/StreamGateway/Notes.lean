import Mathlib.Data.List.Forall2
import StreamGateway.Interference

/-!
# Programs that take notes

A program may be run next to notes that its steps do not look at. They are written in the step
with which it begins, or in the one with which it ends, so they need no steps of their own. A
pool without the notes has the runs of the pool with them.
-/
namespace StreamGateway

namespace Prog

variable {σ τ ρ α β : Type}

/-- The notes once the program has come to the given state. An end is written down. -/
def noteEnd (last : ρ → σ → τ → τ) (p : Prog σ ρ) (s : σ) (notes : τ) : τ :=
  match p with
  | ret r => last r s notes
  | _ => notes

/-- The program, with a note of its result in its last step. -/
def noted (last : ρ → σ → τ → τ) : Prog σ ρ → Prog (σ × τ) ρ
  | ret r => ret r
  | acquire mode rest => acquire mode (noted last rest)
  | release rest => release (noted last rest)
  | step update rest =>
    step (fun s => (update s.1, noteEnd last (rest s.1) (update s.1) s.2)) fun s =>
      noted last (rest s.1)

/-- The program writes no notes. -/
def beside (p : Prog σ ρ) : Prog (σ × τ) ρ :=
  p.noted fun _ _ notes => notes

/-- The program, with a note in front of its first step. -/
def opened (first : σ → τ → τ) : Prog (σ × τ) ρ → Prog (σ × τ) ρ
  | step update rest => step (fun s => update (s.1, first s.1 s.2)) fun s =>
      rest (s.1, first s.1 s.2)
  | p => p

@[simp] theorem noteEnd_keeps (p : Prog σ ρ) (s : σ) (notes : τ) :
    noteEnd (fun _ _ notes => notes) p s notes = notes := by
  cases p <;> rfl

/-! ## Without the notes -/

/-- The two programs take the same steps, apart from the notes. -/
def Erases : Prog (σ × τ) ρ → Prog σ ρ → Prop
  | ret r, q => q = ret r
  | acquire mode rest, q => ∃ rest', q = acquire mode rest' ∧ Erases rest rest'
  | release rest, q => ∃ rest', q = release rest' ∧ Erases rest rest'
  | step update rest, q => ∃ update' rest', q = step update' rest' ∧
      ∀ s, (update s).1 = update' s.1 ∧ Erases (rest s) (rest' s.1)

namespace Erases

theorem ret (r : ρ) : Erases (Prog.ret (σ := σ × τ) r) (Prog.ret r) := rfl

theorem acquire {mode : LockMode} {p : Prog (σ × τ) ρ} {q : Prog σ ρ} (h : p.Erases q) :
    (Prog.acquire mode p).Erases (.acquire mode q) :=
  ⟨q, rfl, h⟩

theorem release {p : Prog (σ × τ) ρ} {q : Prog σ ρ} (h : p.Erases q) :
    (Prog.release p).Erases (.release q) :=
  ⟨q, rfl, h⟩

theorem bind {p : Prog (σ × τ) α} {q : Prog σ α} {f : α → Prog (σ × τ) β} {g : α → Prog σ β}
    (hp : p.Erases q) (hf : ∀ r, (f r).Erases (g r)) : (p >>= f).Erases (q >>= g) := by
  induction p generalizing q with
  | ret r =>
    obtain rfl := hp
    exact hf r
  | acquire mode rest ih =>
    obtain ⟨rest', rfl, hrest⟩ := hp
    exact (ih hrest).acquire
  | release rest ih =>
    obtain ⟨rest', rfl, hrest⟩ := hp
    exact (ih hrest).release
  | step update rest ih =>
    obtain ⟨update', rest', rfl, hstep⟩ := hp
    exact ⟨_, _, rfl, fun s => ⟨(hstep s).1, ih s (hstep s).2⟩⟩

theorem noted (last : ρ → σ → τ → τ) (p : Prog σ ρ) : (p.noted last).Erases p := by
  induction p with
  | ret r => rfl
  | acquire mode rest ih => exact ih.acquire
  | release rest ih => exact ih.release
  | step update rest ih => exact ⟨update, rest, rfl, fun s => ⟨rfl, ih s.1⟩⟩

theorem beside (p : Prog σ ρ) : (p.beside (τ := τ)).Erases p :=
  noted _ p

theorem opened {p : Prog (σ × τ) ρ} {q : Prog σ ρ} (h : p.Erases q) (first : σ → τ → τ) :
    (p.opened first).Erases q := by
  cases p with
  | ret | acquire | release => exact h
  | step update rest =>
    obtain ⟨update', rest', rfl, hstep⟩ := h
    exact ⟨update', rest', rfl, fun s => hstep (s.1, first s.1 s.2)⟩

theorem ignore {p : Prog (σ × τ) ρ} {q : Prog σ ρ} (h : p.Erases q) :
    p.ignore.Erases q.ignore :=
  h.bind fun _ => rfl

theorem of_acquire {p : Prog (σ × τ) ρ} {mode : LockMode} {rest : Prog σ ρ}
    (h : p.Erases (.acquire mode rest)) :
    ∃ rest', p = .acquire mode rest' ∧ rest'.Erases rest := by
  cases p with
  | acquire mode' rest' =>
    obtain ⟨q, heq, hrest⟩ := h
    obtain ⟨rfl, rfl⟩ := Prog.acquire.inj heq
    exact ⟨rest', rfl, hrest⟩
  | ret => exact absurd h (by simp [Erases])
  | release | step => exact absurd h (by simp [Erases])

theorem of_release {p : Prog (σ × τ) ρ} {rest : Prog σ ρ} (h : p.Erases (.release rest)) :
    ∃ rest', p = .release rest' ∧ rest'.Erases rest := by
  cases p with
  | release rest' =>
    obtain ⟨q, heq, hrest⟩ := h
    obtain rfl := Prog.release.inj heq
    exact ⟨rest', rfl, hrest⟩
  | ret => exact absurd h (by simp [Erases])
  | acquire | step => exact absurd h (by simp [Erases])

theorem of_step {p : Prog (σ × τ) ρ} {update : σ → σ} {rest : σ → Prog σ ρ}
    (h : p.Erases (.step update rest)) : ∃ update' rest', p = .step update' rest' ∧
      ∀ s, (update' s).1 = update s.1 ∧ (rest' s).Erases (rest s.1) := by
  cases p with
  | step update' rest' =>
    obtain ⟨_, _, heq, hstep⟩ := h
    obtain ⟨rfl, rfl⟩ := Prog.step.inj heq
    exact ⟨update', rest', rfl, hstep⟩
  | ret => exact absurd h (by simp [Erases])
  | acquire | release => exact absurd h (by simp [Erases])

end Erases

/-! ## What the notes say -/

/-- Every end of the program, in whatever states, has such a result. -/
def Returns (P : ρ → Prop) : Prog σ ρ → Prop
  | ret r => P r
  | acquire _ rest => Returns P rest
  | release rest => Returns P rest
  | step _ rest => ∀ s, Returns P (rest s)

theorem Returns.mono {P P' : ρ → Prop} {p : Prog σ ρ} (h : p.Returns P)
    (hP : ∀ r, P r → P' r) : p.Returns P' := by
  induction p with
  | ret r => exact hP r h
  | acquire _ _ ih => exact ih h
  | release _ ih => exact ih h
  | step update rest ih => exact fun s => ih s (h s)

theorem Returns.ret {P : ρ → Prop} {r : ρ} (h : P r) : (Prog.ret (σ := σ) r).Returns P := h

theorem returns_true (p : Prog σ ρ) : p.Returns fun _ => True := by
  induction p with
  | ret r => trivial
  | acquire _ _ ih => exact ih
  | release _ ih => exact ih
  | step update rest ih => exact ih

theorem Returns.bind {P : α → Prop} {P' : β → Prop} {p : Prog σ α} {f : α → Prog σ β}
    (hp : p.Returns P) (hf : ∀ r, P r → (f r).Returns P') : (p >>= f).Returns P' := by
  induction p with
  | ret r => exact hf r hp
  | acquire _ _ ih => exact ih hp
  | release _ ih => exact ih hp
  | step update rest ih => exact fun s => ih s (hp s)

variable {rely guar : Guarded (σ × τ)} {held : Option LockMode}

/-- From `s` on, the program behaves when its end is noted, and `s` may be its end. -/
def EndsNoted (rely guar : Guarded (σ × τ)) (last : ρ → σ → τ → τ) (p : Prog σ ρ)
    (held : Option LockMode) (s : σ × τ) (Q : ρ → Option LockMode → σ × τ → Prop) : Prop :=
  guar held s (s.1, noteEnd last p s.1 s.2) ∧
    (p.noted last).Behaves rely guar held (s.1, noteEnd last p s.1 s.2) Q

/-- A search of which only the end is noted. What it knows must survive what the others do. -/
theorem Looks.endsNoted {last : ρ → σ → τ → τ} {p : Prog σ ρ} {P : ρ → Prop}
    {I : σ × τ → Prop} {Q : ρ → Option LockMode → σ × τ → Prop} (hp : p.Looks)
    (hreturns : p.Returns P) (hguar : ∀ s, I s → guar held s s)
    (hrely : ∀ s s', I s → rely held s s' → I s')
    (hlast : ∀ r s, P r → I s → guar held s (s.1, last r s.1 s.2) ∧
      Q r held (s.1, last r s.1 s.2)) {s : σ × τ} (hi : I s) :
    EndsNoted rely guar last p held s Q := by
  induction p generalizing s with
  | ret r => exact hlast r s hreturns hi
  | acquire mode rest => exact absurd hp id
  | release rest => exact absurd hp id
  | step update rest ih =>
    refine ⟨hguar s hi, fun s' hs => ?_⟩
    obtain ⟨hsame, hrest⟩ := hp s'.1
    have hnext := ih s'.1 hrest (hreturns s'.1) (hrely s s' hi hs)
    simp only [hsame]
    exact hnext

/-- The first step of a search only looks. -/
theorem endsNoted_atomic {last : ρ → σ → τ → τ} {f : σ → α × σ} {k : α → Prog σ ρ}
    {Q : ρ → Option LockMode → σ × τ → Prop} {s : σ × τ} (hf : ∀ s, (f s).2 = s)
    (hguar : guar held s s)
    (hk : ∀ s', rely held s s' → EndsNoted rely guar last (k (f s'.1).1) held s' Q) :
    EndsNoted rely guar last (atomic f >>= k) held s Q := by
  refine ⟨hguar, fun s' hs => ?_⟩
  have hnext := hk s' hs
  simp only [hf]
  exact hnext

/-- The same with a note in front of the first step. -/
theorem opened_atomic {last : ρ → σ → τ → τ} {first : σ → τ → τ} {f : σ → α × σ}
    {k : α → Prog σ ρ} {Q : ρ → Option LockMode → σ × τ → Prop} {s : σ × τ}
    (hf : ∀ s, (f s).2 = s)
    (hfirst : ∀ s' t, rely held s s' → guar held (s'.1, first s'.1 s'.2) t → guar held s' t)
    (hk : ∀ s', rely held s s' →
      EndsNoted rely guar last (k (f s'.1).1) held (s'.1, first s'.1 s'.2) Q) :
    (((atomic f >>= k).noted last).opened first).Behaves rely guar held s Q := by
  intro s' hs
  obtain ⟨hstep, hrest⟩ := hk s' hs
  simp only [hf]
  exact ⟨hfirst s' _ hs hstep, hrest⟩

theorem behaves_true {rely : Guarded σ} (p : Prog σ ρ) (held : Option LockMode) (s : σ) :
    p.Behaves rely (fun _ _ _ => True) held s fun _ _ _ => True := by
  induction p generalizing held s with
  | ret r => trivial
  | acquire mode rest ih => exact fun s' _ => ih _ s'
  | release rest ih => exact fun s' _ => ih _ s'
  | step update rest ih => exact fun s' _ => ⟨trivial, ih s' _ _⟩

/-- Next to notes that it does not write, the program behaves as without them. -/
theorem Behaves.beside {rely' guar' : Guarded σ} {p : Prog σ ρ}
    {Q : ρ → Option LockMode → σ → Prop} {s : σ} (h : p.Behaves rely' guar' held s Q)
    (hrely : ∀ h s s', rely h s s' → rely' h s.1 s'.1)
    (hguar : ∀ h s s', guar' h s.1 s'.1 → s'.2 = s.2 → guar h s s') (notes : τ) :
    p.beside.Behaves rely guar held (s, notes) fun r h s => Q r h s.1 := by
  induction p generalizing held s notes with
  | ret r => exact h
  | acquire mode rest ih =>
    intro s' hs
    exact ih (h s'.1 (hrely _ _ _ hs)) s'.2
  | release rest ih =>
    intro s' hs
    exact ih (h s'.1 (hrely _ _ _ hs)) s'.2
  | step update rest ih =>
    intro s' hs
    obtain ⟨hstep, hrest⟩ := h s'.1 (hrely _ _ _ hs)
    simp only [noteEnd_keeps]
    exact ⟨hguar _ _ _ hstep rfl, ih s'.1 hrest s'.2⟩

end Prog

/-! ## In a pool -/

namespace Pool

variable {σ τ : Type}

/-- The pools have the same calls, apart from the notes. -/
structure Erases (a : Pool (σ × τ)) (b : Pool σ) : Prop where
  shared : a.shared.1 = b.shared
  threads : List.Forall₂ (fun t u : Thread _ => t.held = u.held ∧ t.rest.Erases u.rest)
    a.threads b.threads

/-- A call of the pool is a call of the pool with notes. -/
theorem Erases.split {a : Pool (σ × τ)} {s : σ} {pre post : List (Thread σ)} {t : Thread σ}
    (h : a.Erases ⟨s, pre ++ t :: post⟩) : ∃ notes pre' t' post',
      a = ⟨(s, notes), pre' ++ t' :: post'⟩ ∧ t'.held = t.held ∧ t'.rest.Erases t.rest ∧
      (∀ u ∈ pre' ++ post', ∃ v ∈ pre ++ post, u.held = v.held) ∧
      ∀ (s' : σ × τ) (u : Thread (σ × τ)) (v : Thread σ), u.held = v.held →
        u.rest.Erases v.rest → Erases ⟨s', pre' ++ u :: post'⟩ ⟨s'.1, pre ++ v :: post⟩ := by
  obtain ⟨⟨s₀, notes⟩, ts'⟩ := a
  obtain ⟨hshared, hthreads⟩ := h
  obtain rfl : s₀ = s := hshared
  have hpre := List.forall₂_take_append _ _ _ hthreads
  have hpost := List.forall₂_drop_append _ _ _ hthreads
  have hts := (List.take_append_drop pre.length ts').symm
  generalize ts'.take pre.length = pre' at hpre hts
  generalize ts'.drop pre.length = post' at hpost hts
  subst hts
  cases hpost with
  | @cons t' _ post' _ ht hpost =>
    refine ⟨notes, pre', t', post', rfl, ht.1, ht.2, fun u hu => ?_, fun s' u v hheld hrest =>
      ⟨rfl, List.rel_append hpre (.cons ⟨hheld, hrest⟩ hpost)⟩⟩
    obtain ⟨i, hi, rfl⟩ := List.mem_iff_getElem.mp hu
    have hall := List.rel_append hpre hpost
    have hlen : i < (pre ++ post).length := hall.length_eq ▸ hi
    exact ⟨(pre ++ post)[i], List.getElem_mem hlen, (hall.get hi hlen).1⟩

/-- What one pool does, the pool with notes does, too. -/
theorem Erases.step {calls : Prog σ Unit → Prop} {calls' : Prog (σ × τ) Unit → Prop}
    {outside : σ → σ → Prop} (hcalls : ∀ q, calls q → ∃ p, calls' p ∧ p.Erases q)
    {a b : Pool σ} {a' : Pool (σ × τ)} (h : a'.Erases a) (hstep : Step calls outside a b) :
    ∃ b', Step calls' (fun s s' => outside s.1 s'.1 ∧ s'.2 = s.2) a' b' ∧ b'.Erases b := by
  cases hstep with
  | @call s ts q hq =>
    obtain ⟨p, hp, herases⟩ := hcalls q hq
    exact ⟨⟨a'.shared, a'.threads ++ [⟨p, none⟩]⟩, .call hp, h.shared,
      List.rel_append h.threads (.cons ⟨rfl, herases⟩ .nil)⟩
  | @outside s s' ts ho =>
    refine ⟨⟨(s', a'.shared.2), a'.threads⟩, .outside ⟨?_, rfl⟩, rfl, h.threads⟩
    rw [h.shared]
    exact ho
  | @act s pre post update rest held =>
    obtain ⟨notes, pre', ⟨q, held'⟩, post', rfl, hheld, hrest, _, hnext⟩ := h.split
    obtain rfl : held' = held := hheld
    obtain ⟨update', rest', rfl, hact⟩ := Prog.Erases.of_step hrest
    refine ⟨_, .act, ?_⟩
    have hb := hnext (update' (s, notes)) ⟨rest' (s, notes), held'⟩ ⟨rest s, held'⟩ rfl
      (hact (s, notes)).2
    rwa [(hact (s, notes)).1] at hb
  | @acquire s pre post mode rest hall =>
    obtain ⟨notes, pre', ⟨q, held'⟩, post', rfl, hheld, hrest, hothers, hnext⟩ := h.split
    obtain rfl : held' = none := hheld
    obtain ⟨rest', rfl, herases⟩ := Prog.Erases.of_acquire hrest
    refine ⟨_, .acquire fun u hu => ?_, hnext (s, notes) ⟨rest', some mode⟩ _ rfl herases⟩
    obtain ⟨v, hv, hheld⟩ := hothers u hu
    rw [hheld]
    exact hall v hv
  | @release s pre post rest held =>
    obtain ⟨notes, pre', ⟨q, held'⟩, post', rfl, hheld, hrest, _, hnext⟩ := h.split
    obtain ⟨rest', rfl, herases⟩ := Prog.Erases.of_release hrest
    exact ⟨_, .release, hnext (s, notes) ⟨rest', none⟩ _ rfl herases⟩

/-- Every run is one of the pool with notes. -/
theorem Erases.runs {calls : Prog σ Unit → Prop} {calls' : Prog (σ × τ) Unit → Prop}
    {outside : σ → σ → Prop} (hcalls : ∀ q, calls q → ∃ p, calls' p ∧ p.Erases q)
    {a b : Pool σ} {a' : Pool (σ × τ)} (h : a'.Erases a)
    (hruns : Runs calls outside (fun _ _ => True) a b) :
    ∃ b', Runs calls' (fun s s' => outside s.1 s'.1 ∧ s'.2 = s.2) (fun _ _ => True) a' b' ∧
      b'.Erases b := by
  induction hruns with
  | refl => exact ⟨a', .refl, h⟩
  | tail _ hstep ih =>
    obtain ⟨b', hruns, hb⟩ := ih
    obtain ⟨c', hstep', hc⟩ := hb.step hcalls hstep.1
    exact ⟨c', hruns.tail ⟨hstep', trivial⟩, hc⟩

end Pool

end StreamGateway
