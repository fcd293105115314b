import StreamGateway.Async

/-!
# Rely and guarantee

A call relies on what the others do between two of its steps, and guarantees what its own
steps do. Both depend on the guard that the call holds: while one call has the write guard,
no other call has a guard. When what each call guarantees is what the others rely on, the
calls can be looked at one by one.
-/
namespace StreamGateway

namespace Prog

variable {σ ρ α β : Type}

/-- The steps that a call with the given guard takes, or lets others take. -/
abbrev Guarded (σ : Type) := Option LockMode → σ → σ → Prop

/-- The states that the program goes through alone, until it ends or waits for itself. -/
def Visits : Prog σ ρ → Bool → σ → σ → Prop
  | ret _, _, s, s' => s' = s
  | acquire _ rest, held, s, s' => s' = s ∨ held = false ∧ Visits rest true s s'
  | release rest, _, s, s' => Visits rest false s s'
  | step update rest, held, s, s' => s' = s ∨ Visits (rest s) held (update s) s'

theorem visits_of_alone {p : Prog σ ρ} {held held' : Bool} {s s' : σ} {r : ρ}
    (h : p.alone held s = some (r, held', s')) : p.Visits held s s' := by
  induction p generalizing held s with
  | ret r₀ =>
    obtain ⟨_, _, rfl⟩ := alone_ret_eq_some.mp h
    rfl
  | acquire mode rest ih =>
    cases held with
    | false => exact .inr ⟨rfl, ih h⟩
    | true => exact absurd h (by simp)
  | release rest ih => exact ih h
  | step update rest ih => exact .inr (ih s h)

/-- From `s` on, the program takes steps of `guar` if the others take steps of `rely`, and its
result, its guard and its last state satisfy `Q`. -/
def Behaves (rely guar : Guarded σ) :
    Prog σ ρ → Option LockMode → σ → (ρ → Option LockMode → σ → Prop) → Prop
  | ret r, held, s, Q => Q r held s
  | acquire mode rest, held, s, Q =>
    ∀ s', rely held s s' → Behaves rely guar rest (some mode) s' Q
  | release rest, held, s, Q => ∀ s', rely held s s' → Behaves rely guar rest none s' Q
  | step update rest, held, s, Q => ∀ s', rely held s s' →
    guar held s' (update s') ∧ Behaves rely guar (rest s') held (update s') Q

namespace Behaves

variable {rely guar : Guarded σ} {held : Option LockMode} {s : σ}

theorem bind {p : Prog σ α} {f : α → Prog σ β} {Q : α → Option LockMode → σ → Prop}
    {Q' : β → Option LockMode → σ → Prop} (hp : p.Behaves rely guar held s Q)
    (hf : ∀ r held' s', Q r held' s' → (f r).Behaves rely guar held' s' Q') :
    (p >>= f).Behaves rely guar held s Q' := by
  induction p generalizing held s with
  | ret r => exact hf r held s hp
  | acquire mode rest ih => exact fun s' hs => ih (hp s' hs)
  | release rest ih => exact fun s' hs => ih (hp s' hs)
  | step update rest ih => exact fun s' hs => ⟨(hp s' hs).1, ih s' (hp s' hs).2⟩

theorem ret {r : ρ} {Q : ρ → Option LockMode → σ → Prop} (h : Q r held s) :
    (Prog.ret (σ := σ) r).Behaves rely guar held s Q := h

theorem atomic {f : σ → α × σ} {Q : α → Option LockMode → σ → Prop}
    (h : ∀ s', rely held s s' → guar held s' (f s').2 ∧ Q (f s').1 held (f s').2) :
    (Prog.atomic f).Behaves rely guar held s Q := h

/-- The others may also act before and after the step, when the guard changes. -/
theorem locked {mode : LockMode} {f : σ → α × σ} {Q : α → Option LockMode → σ → Prop}
    (h : ∀ s₁ s₂, rely held s s₁ → rely (some mode) s₁ s₂ →
      guar (some mode) s₂ (f s₂).2 ∧
        ∀ s₃, rely (some mode) (f s₂).2 s₃ → Q (f s₂).1 none s₃) :
    (Prog.locked mode f).Behaves rely guar held s Q :=
  fun s₁ h₁ s₂ h₂ => h s₁ s₂ h₁ h₂

theorem weaken {p : Prog σ ρ} {Q Q' : ρ → Option LockMode → σ → Prop}
    (h : p.Behaves rely guar held s Q) (hQ : ∀ r h s, Q r h s → Q' r h s) :
    p.Behaves rely guar held s Q' := by
  induction p generalizing held s with
  | ret r => exact hQ r held s h
  | acquire mode rest ih => exact fun s' hs => ih (h s' hs)
  | release rest ih => exact fun s' hs => ih (h s' hs)
  | step update rest ih => exact fun s' hs => ⟨(h s' hs).1, ih s' (h s' hs).2⟩

/-- The steps may be seen as others. -/
theorem imp {guar' : Guarded σ} {p : Prog σ ρ} {Q : ρ → Option LockMode → σ → Prop}
    (h : p.Behaves rely guar held s Q) (hguar : ∀ h s s', guar h s s' → guar' h s s') :
    p.Behaves rely guar' held s Q := by
  induction p generalizing held s with
  | ret r => exact h
  | acquire mode rest ih => exact fun s' hs => ih (h s' hs)
  | release rest ih => exact fun s' hs => ih (h s' hs)
  | step update rest ih =>
    exact fun s' hs => ⟨hguar held _ _ (h s' hs).1, ih s' (h s' hs).2⟩

/-- What the others do does not change the behaviour. -/
theorem of_rely [∀ h, IsTrans σ (rely h)] {p : Prog σ ρ} {s' : σ}
    (h : p.Behaves rely guar held s fun _ _ _ => True) (hs : rely held s s') :
    p.Behaves rely guar held s' fun _ _ _ => True := by
  cases p with
  | ret r => trivial
  | acquire mode rest => exact fun s'' hs' => h s'' (trans_of (rely held) hs hs')
  | release rest => exact fun s'' hs' => h s'' (trans_of (rely held) hs hs')
  | step update rest => exact fun s'' hs' => h s'' (trans_of (rely held) hs hs')

theorem ignore {p : Prog σ ρ} {Q : ρ → Option LockMode → σ → Prop}
    (h : p.Behaves rely guar held s Q) :
    p.ignore.Behaves rely guar held s fun _ _ _ => True :=
  bind h fun _ _ _ _ => trivial

/-- What each step keeps holds in every state that the program goes through alone. -/
theorem visits {p : Prog σ ρ} {I : σ → Prop} {Q : ρ → Option LockMode → σ → Prop} {s' : σ}
    (hrely : ∀ h s, I s → rely h s s) (hguar : ∀ h s s', I s → guar h s s' → I s')
    (h : p.Behaves rely guar held s Q) (hi : I s) (hv : p.Visits held.isSome s s') : I s' := by
  induction p generalizing held s with
  | ret r =>
    obtain rfl : s' = s := hv
    exact hi
  | acquire mode rest ih =>
    rcases hv with rfl | ⟨_, hv⟩
    · exact hi
    · exact ih (h s (hrely held s hi)) hi hv
  | release rest ih => exact ih (h s (hrely held s hi)) hi hv
  | step update rest ih =>
    rcases hv with rfl | hv
    · exact hi
    · obtain ⟨hstep, hrest⟩ := h s (hrely held s hi)
      exact ih s hrest (hguar held s _ hi hstep) hv

end Behaves

/-! ## Programs that only look -/

/-- No step of the program changes the state, and it asks for no guard. -/
def Looks : Prog σ ρ → Prop
  | ret _ => True
  | acquire _ _ => False
  | release _ => False
  | step update rest => ∀ s, update s = s ∧ Looks (rest s)

namespace Looks

theorem ret (r : ρ) : Looks (Prog.ret (σ := σ) r) := trivial

theorem atomic {f : σ → α × σ} (h : ∀ s, (f s).2 = s) : Looks (Prog.atomic f) :=
  fun s => ⟨h s, trivial⟩

theorem bind {p : Prog σ α} {f : α → Prog σ β} (hp : Looks p) (hf : ∀ r, Looks (f r)) :
    Looks (p >>= f) := by
  induction p with
  | ret r => exact hf r
  | acquire mode rest => exact absurd hp id
  | release rest => exact absurd hp id
  | step update rest ih => exact fun s => ⟨(hp s).1, ih s (hp s).2⟩

/-- What the others leave alone holds at the end, too. -/
theorem behaves {rely guar : Guarded σ} {held : Option LockMode} {s : σ} {I : σ → Prop}
    {p : Prog σ ρ} (hp : Looks p) (hguar : ∀ h s, guar h s s)
    (hrely : ∀ h s s', I s → rely h s s' → I s') (hi : I s) :
    p.Behaves rely guar held s fun _ held' s' => held' = held ∧ I s' := by
  induction p generalizing s with
  | ret r => exact ⟨rfl, hi⟩
  | acquire mode rest => exact absurd hp id
  | release rest => exact absurd hp id
  | step update rest ih =>
    intro s' hs
    obtain ⟨hsame, hrest⟩ := hp s'
    rw [hsame]
    exact ⟨hguar held s', ih s' hrest (hrely held s s' hi hs)⟩

end Looks

end Prog

/-! ## In a pool -/

/-- Next to a write guard there is no guard. -/
def Apart (h h' : Option LockMode) : Prop :=
  (h = some .write → h' = none) ∧ (h' = some .write → h = none)

theorem Apart.symm {h h' : Option LockMode} (ha : Apart h h') : Apart h' h := ⟨ha.2, ha.1⟩

theorem apart_none (h : Option LockMode) : Apart h none :=
  ⟨fun _ => rfl, fun h' => absurd h' (by simp)⟩

theorem LockMode.apart_of_compatible {mode : LockMode} {held : Option LockMode}
    (h : mode.compatible held = true) : Apart (some mode) held := by
  cases held with
  | none => exact apart_none _
  | some m => cases mode <;> cases m <;> simp_all [Apart, LockMode.compatible]

namespace Pool

variable {σ : Type}

/-- The runs of a pool all of whose steps the condition allows. It may look at the calls. -/
def RunsUnder (calls : Prog σ Unit → Prop) (outside : σ → σ → Prop)
    (C : Pool σ → Pool σ → Prop) : Pool σ → Pool σ → Prop :=
  Relation.ReflTransGen fun a b => Step calls outside a b ∧ C a b

theorem RunsUnder.mono {calls : Prog σ Unit → Prop} {outside : σ → σ → Prop}
    {C C' : Pool σ → Pool σ → Prop} {a b : Pool σ} (hC : ∀ a b, C a b → C' a b)
    (hruns : RunsUnder calls outside C a b) : RunsUnder calls outside C' a b := by
  induction hruns with
  | refl => exact .refl
  | tail _ hstep ih => exact ih.tail ⟨hstep.1, hC _ _ hstep.2⟩

theorem runsUnder_of_runs {calls : Prog σ Unit → Prop} {outside C : σ → σ → Prop}
    {C' : Pool σ → Pool σ → Prop} {a b : Pool σ} (hC : ∀ a b, C a.shared b.shared → C' a b)
    (hruns : Runs calls outside C a b) : RunsUnder calls outside C' a b :=
  RunsUnder.mono (C := fun a b => C a.shared b.shared) hC hruns

/-- The invariant holds, the guards are compatible, and each call behaves. -/
structure Behaving (I : σ → Prop) (rely guar : Prog.Guarded σ) (p : Pool σ) : Prop where
  inv : I p.shared
  apart : p.threads.Pairwise fun t u => Apart t.held u.held
  threads : ∀ t ∈ p.threads, t.rest.Behaves rely guar t.held p.shared fun _ _ _ => True

/-- What the calls guarantee keeps the invariant, and is what the other calls rely on. -/
structure Fits (I : σ → Prop) (rely guar : Prog.Guarded σ) (calls : Prog σ Unit → Prop)
    (outside : σ → σ → Prop) (C : Pool σ → Pool σ → Prop) : Prop where
  refl : ∀ {h s}, I s → rely h s s
  calls : ∀ {p s}, calls p → I s → p.Behaves rely guar none s fun _ _ _ => True
  keeps : ∀ {a b : Pool σ} {h}, I a.shared →
    guar h a.shared b.shared ∨ outside a.shared b.shared → C a b → I b.shared
  relies : ∀ {a b : Pool σ} {t : Thread σ} {h}, t ∈ a.threads → I a.shared →
    (Apart h t.held ∧ guar h a.shared b.shared) ∨ outside a.shared b.shared → C a b →
    rely t.held a.shared b.shared

variable {I : σ → Prop} {rely guar : Prog.Guarded σ} {calls : Prog σ Unit → Prop}
  {outside : σ → σ → Prop} {C : Pool σ → Pool σ → Prop}

theorem Behaving.apart_of_mem {s : σ} {pre post : List (Thread σ)} {t u : Thread σ}
    (h : Behaving I rely guar ⟨s, pre ++ t :: post⟩) (hu : u ∈ pre ++ post) :
    Apart t.held u.held := by
  obtain ⟨_, hpost, hpre⟩ := List.pairwise_append.mp h.apart
  rcases List.mem_append.mp hu with hu | hu
  · exact (hpre u hu t List.mem_cons_self).symm
  · exact List.rel_of_pairwise_cons hpost hu

/-- One call takes a step, and the others have relied on it. -/
theorem Behaving.replace [∀ h, IsTrans σ (rely h)] {s s' : σ} {pre post : List (Thread σ)}
    {t t' : Thread σ} (h : Behaving I rely guar ⟨s, pre ++ t :: post⟩) (hi : I s')
    (hrely : ∀ u ∈ pre ++ post, rely u.held s s')
    (hapart : ∀ u ∈ pre ++ post, Apart t'.held u.held)
    (ht : t'.rest.Behaves rely guar t'.held s' fun _ _ _ => True) :
    Behaving I rely guar ⟨s', pre ++ t' :: post⟩ := by
  have hother : ∀ u ∈ pre ++ post, u.rest.Behaves rely guar u.held s' fun _ _ _ => True := by
    intro u hu
    refine (h.threads u ?_).of_rely (hrely u hu)
    rcases List.mem_append.mp hu with hu | hu
    · exact List.mem_append_left _ hu
    · exact List.mem_append_right _ (List.mem_cons_of_mem _ hu)
  refine ⟨hi, ?_, fun u hu => ?_⟩
  · obtain ⟨hpre, hpost, hboth⟩ := List.pairwise_append.mp h.apart
    refine List.pairwise_append.mpr ⟨hpre, List.pairwise_cons.mpr
      ⟨fun u hu => hapart u (List.mem_append_right _ hu), (List.pairwise_cons.mp hpost).2⟩, ?_⟩
    intro u hu v hv
    rcases List.mem_cons.mp hv with rfl | hv
    · exact (hapart u (List.mem_append_left _ hu)).symm
    · exact hboth u hu v (List.mem_cons_of_mem _ hv)
  · rcases List.mem_append.mp hu with hu | hu
    · exact hother u (List.mem_append_left _ hu)
    · rcases List.mem_cons.mp hu with rfl | hu
      · exact ht
      · exact hother u (List.mem_append_right _ hu)

/-- The step leaves the state alone, is one of a call, or comes from outside. -/
def Moved (guar : Prog.Guarded σ) (outside : σ → σ → Prop) (s s' : σ) : Prop :=
  s' = s ∨ (∃ h, guar h s s') ∨ outside s s'

theorem Behaving.step [∀ h, IsTrans σ (rely h)] (hfits : Fits I rely guar calls outside C)
    {a b : Pool σ} (h : Behaving I rely guar a) (hstep : Step calls outside a b) (hc : C a b) :
    Behaving I rely guar b ∧ Moved guar outside a.shared b.shared := by
  have hmem : ∀ {pre post : List (Thread σ)} {t u : Thread σ}, u ∈ pre ++ post →
      u ∈ pre ++ t :: post := by
    intro pre post t u hu
    rcases List.mem_append.mp hu with hu | hu
    · exact List.mem_append_left _ hu
    · exact List.mem_append_right _ (List.mem_cons_of_mem _ hu)
  have hself : ∀ {pre post : List (Thread σ)} {t : Thread σ}, t ∈ pre ++ t :: post :=
    List.mem_append_right _ List.mem_cons_self
  cases hstep with
  | @call s ts p hp =>
    refine ⟨⟨h.inv, ?_, fun t ht => ?_⟩, .inl rfl⟩
    · refine List.pairwise_append.mpr ⟨h.apart, List.pairwise_singleton _ _, ?_⟩
      intro t _ u hu
      obtain rfl := List.mem_singleton.mp hu
      exact apart_none _
    · rcases List.mem_append.mp ht with ht | ht
      · exact h.threads t ht
      · obtain rfl := List.mem_singleton.mp ht
        exact hfits.calls hp h.inv
  | outside ho =>
    refine ⟨⟨@Fits.keeps _ _ _ _ _ _ _ hfits _ _ none h.inv (.inr ho) hc, h.apart, ?_⟩,
      .inr (.inr ho)⟩
    intro t ht
    exact (h.threads t ht).of_rely
      (@Fits.relies _ _ _ _ _ _ _ hfits _ _ _ none ht h.inv (.inr ho) hc)
  | @act s pre post update rest held =>
    obtain ⟨hguar, hrest⟩ := h.threads _ hself s (hfits.refl h.inv)
    refine ⟨h.replace (hfits.keeps h.inv (.inl hguar) hc) (fun u hu => ?_)
      (fun u hu => h.apart_of_mem hu) hrest, .inr (.inl ⟨held, hguar⟩)⟩
    exact hfits.relies (hmem hu) h.inv (.inl ⟨h.apart_of_mem hu, hguar⟩) hc
  | @acquire s pre post mode rest hall =>
    exact ⟨h.replace h.inv (fun _ _ => hfits.refl h.inv)
      (fun u hu => LockMode.apart_of_compatible (hall u hu))
      (h.threads _ hself s (hfits.refl h.inv)), .inl rfl⟩
  | @release s pre post rest held =>
    exact ⟨h.replace h.inv (fun _ _ => hfits.refl h.inv)
      (fun u _ => (apart_none u.held).symm) (h.threads _ hself s (hfits.refl h.inv)), .inl rfl⟩

/-- The invariant holds in every state of every run. -/
theorem Behaving.runs [∀ h, IsTrans σ (rely h)] (hfits : Fits I rely guar calls outside C)
    {a b : Pool σ} (h : Behaving I rely guar a) (hruns : RunsUnder calls outside C a b) :
    Behaving I rely guar b := by
  induction hruns with
  | refl => exact h
  | tail _ hstep ih => exact (ih.step hfits hstep.1 hstep.2).1

/-- Every step of the run is one that the calls guarantee, or comes from outside. -/
theorem Behaving.moves [∀ h, IsTrans σ (rely h)] (hfits : Fits I rely guar calls outside C)
    {a b : Pool σ} (h : Behaving I rely guar a) (hruns : RunsUnder calls outside C a b) :
    RunsUnder calls outside (fun a b => C a b ∧ Moved guar outside a.shared b.shared) a b := by
  have hall : Behaving I rely guar b ∧
      RunsUnder calls outside (fun a b => C a b ∧ Moved guar outside a.shared b.shared) a b := by
    induction hruns with
    | refl => exact ⟨h, .refl⟩
    | tail _ hstep ih =>
      obtain ⟨hb, hmoved⟩ := ih.1.step hfits hstep.1 hstep.2
      exact ⟨hb, ih.2.tail ⟨hstep.1, hstep.2, hmoved⟩⟩
  exact hall.2

/-! ## One call among others -/

/-- The call relies on nothing that the others do. -/
abbrev Anywhere (guar : Prog.Guarded σ) (t : Thread σ) (s : σ) : Prop :=
  t.rest.Behaves (fun _ _ _ => True) guar t.held s fun _ _ _ => True

/-- The first call of the pool behaves, and the others do so anywhere. -/
def Led (rely guar guar' : Prog.Guarded σ) (p : Pool σ) : Prop :=
  ∃ t ts, p.threads = t :: ts ∧
    t.rest.Behaves rely guar t.held p.shared (fun _ _ _ => True) ∧
    ∀ u ∈ ts, Anywhere guar' u p.shared

section Led

variable {guar' : Prog.Guarded σ} {s s' : σ} {pre post : List (Thread σ)} {x x' : Thread σ}

theorem Anywhere.at {t : Thread σ} (h : Anywhere guar' t s) (s' : σ) :
    Anywhere guar' t s' := by
  have : ∀ _ : Option LockMode, IsTrans σ fun _ _ => True := fun _ => ⟨fun _ _ _ _ _ => trivial⟩
  exact h.of_rely trivial

/-- A call of the pool is the first or one of the others. -/
theorem Led.cases (h : Led rely guar guar' ⟨s, pre ++ x :: post⟩) :
    (pre = [] ∧ x.rest.Behaves rely guar x.held s (fun _ _ _ => True) ∧
      ∀ u ∈ post, Anywhere guar' u s) ∨
    ∃ t pre', pre = t :: pre' ∧ t.rest.Behaves rely guar t.held s (fun _ _ _ => True) ∧
      Anywhere guar' x s ∧ ∀ u ∈ pre' ++ post, Anywhere guar' u s := by
  obtain ⟨t, ts, hthreads, ht, hts⟩ := h
  cases pre with
  | nil =>
    obtain ⟨rfl, rfl⟩ := List.cons.inj hthreads
    exact .inl ⟨rfl, ht, hts⟩
  | cons t' pre' =>
    obtain ⟨rfl, rfl⟩ := List.cons.inj hthreads
    refine .inr ⟨t', pre', rfl, ht, hts x (List.mem_append_right _ List.mem_cons_self),
      fun u hu => hts u ?_⟩
    rcases List.mem_append.mp hu with hu | hu
    · exact List.mem_append_left _ hu
    · exact List.mem_append_right _ (List.mem_cons_of_mem _ hu)

theorem Led.of_first (hx : x'.rest.Behaves rely guar x'.held s' fun _ _ _ => True)
    (hpost : ∀ u ∈ post, Anywhere guar' u s) :
    Led rely guar guar' ⟨s', [] ++ x' :: post⟩ :=
  ⟨x', post, rfl, hx, fun u hu => (hpost u hu).at s'⟩

theorem Led.of_other {t : Thread σ} (ht : t.rest.Behaves rely guar t.held s' fun _ _ _ => True)
    (hx : Anywhere guar' x' s')
    (hothers : ∀ u ∈ pre ++ post, Anywhere guar' u s) :
    Led rely guar guar' ⟨s', (t :: pre) ++ x' :: post⟩ := by
  refine ⟨t, pre ++ x' :: post, rfl, ht, fun u hu => ?_⟩
  rcases List.mem_append.mp hu with hu | hu
  · exact (hothers u (List.mem_append_left _ hu)).at s'
  · rcases List.mem_cons.mp hu with rfl | hu
    · exact hx
    · exact (hothers u (List.mem_append_right _ hu)).at s'

/-- A step in a pool that is led is one of the first call, or one that it relies on. -/
theorem Led.step [∀ h, IsTrans σ (rely h)] (hrefl : ∀ h s, rely h s s)
    (hcalls : ∀ p s, calls p → Anywhere guar' ⟨p, none⟩ s)
    {a b : Pool σ} (hothers : ∀ h h', guar' h a.shared b.shared ∨ outside a.shared b.shared →
      rely h' a.shared b.shared)
    (h : Led rely guar guar' a) (hstep : Step calls outside a b) :
    Led rely guar guar' b ∧ (b.shared = a.shared ∨ (∃ h, guar h a.shared b.shared) ∨
      (∃ h, guar' h a.shared b.shared) ∨ outside a.shared b.shared) := by
  cases hstep with
  | @call s ts p hp =>
    obtain ⟨t, others, rfl, ht, hts⟩ := h
    refine ⟨⟨t, others ++ [⟨p, none⟩], rfl, ht, fun u hu => ?_⟩, .inl rfl⟩
    rcases List.mem_append.mp hu with hu | hu
    · exact hts u hu
    · obtain rfl := List.mem_singleton.mp hu
      exact hcalls p s hp
  | @outside s s' ts ho =>
    obtain ⟨t, others, rfl, ht, hts⟩ := h
    exact ⟨⟨t, others, rfl, ht.of_rely (hothers none _ (.inr ho)),
      fun u hu => (hts u hu).at s'⟩, .inr (.inr (.inr ho))⟩
  | @act s pre post update rest held =>
    rcases h.cases with ⟨rfl, hx, hpost⟩ | ⟨t, pre', rfl, ht, hx, hrest⟩
    · obtain ⟨hguar, hrest⟩ := hx s (hrefl held s)
      exact ⟨.of_first hrest hpost, .inr (.inl ⟨held, hguar⟩)⟩
    · obtain ⟨hguar, hnext⟩ := hx s trivial
      exact ⟨.of_other (ht.of_rely (hothers held _ (.inl hguar))) hnext hrest,
        .inr (.inr (.inl ⟨held, hguar⟩))⟩
  | @acquire s pre post mode rest hall =>
    rcases h.cases with ⟨rfl, hx, hpost⟩ | ⟨t, pre', rfl, ht, hx, hrest⟩
    · exact ⟨.of_first (hx s (hrefl none s)) hpost, .inl rfl⟩
    · exact ⟨.of_other ht (hx s trivial) hrest, .inl rfl⟩
  | @release s pre post rest held =>
    rcases h.cases with ⟨rfl, hx, hpost⟩ | ⟨t, pre', rfl, ht, hx, hrest⟩
    · exact ⟨.of_first (hx s (hrefl held s)) hpost, .inl rfl⟩
    · exact ⟨.of_other ht (hx s trivial) hrest, .inl rfl⟩

end Led

/-! ## Keys that are given once -/

section Keys

variable {β : Type} (view : σ → Int → Option β) (last : σ → Int)

/-- The step gives no key up to the last one a new value. -/
def GivesOnce (s s' : σ) : Prop :=
  last s ≤ last s' ∧ ∀ k ≤ last s, ∀ b, view s' k = some b → view s k = some b

/-- The value that a key has, if it has one, is the given one. -/
def Means (f : Int → β) (s : σ) : Prop := ∀ k b, view s k = some b → f k = b

variable {view last}

/-- In a run in which no key is given twice, each key has one value for the whole run. -/
theorem exists_means [Inhabited β] (hbound : ∀ s k b, view s k = some b → k ≤ last s)
    {a b : Pool σ} (hruns : RunsUnder calls outside C a b)
    (honce : ∀ a b, C a b → GivesOnce view last a.shared b.shared) :
    ∃ f : Int → β, Means view f a.shared ∧
      RunsUnder calls outside (fun a b => C a b ∧ Means view f b.shared) a b := by
  -- the values of the keys behind the last one are open, so a later step may choose them
  have hopen : ∃ f : Int → β, ∀ g : Int → β, (∀ k ≤ last b.shared, g k = f k) →
      Means view g a.shared ∧
        RunsUnder calls outside (fun a b => C a b ∧ Means view g b.shared) a b := by
    induction hruns with
    | refl =>
      refine ⟨fun k => (view a.shared k).getD default, fun g hg => ⟨fun k v hk => ?_, .refl⟩⟩
      simp [hg k (hbound _ k v hk), hk]
    | @tail b c _ hstep ih =>
      obtain ⟨f, hf⟩ := ih
      obtain ⟨hlast, hkeeps⟩ := honce b c hstep.2
      refine ⟨fun k => if k ≤ last b.shared then f k else (view c.shared k).getD default, ?_⟩
      intro g hg
      have hgf : ∀ k ≤ last b.shared, g k = f k := by
        intro k hk
        have := hg k (by omega)
        simpa [hk] using this
      obtain ⟨ha, hruns⟩ := hf g hgf
      have hmeans : Means view g b.shared := by
        rcases hruns.cases_tail with rfl | ⟨_, _, hlaststep⟩
        · exact ha
        · exact hlaststep.2.2
      refine ⟨ha, hruns.tail ⟨hstep.1, hstep.2, fun k v hk => ?_⟩⟩
      by_cases hold : k ≤ last b.shared
      · exact hmeans k v (hkeeps k hold v hk)
      · simp [hg k (hbound _ k v hk), hold, hk]
  obtain ⟨f, hf⟩ := hopen
  exact ⟨f, hf f fun _ _ => rfl⟩

end Keys

end Pool

end StreamGateway
