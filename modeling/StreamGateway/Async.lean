import Mathlib.Logic.Relation
import Mathlib.Data.List.Basic

/-!
# Programs over a state behind one lock

A program is a sequence of atomic steps on a shared state, with requests for a guard of one
lock that is not re-entrant. Two meanings are attached to it. Alone, it runs from a state
to its end unless it requests a guard while it holds one. In a pool, any number of programs
take their steps in any order, the lock permitting, next to steps from outside. The proof
rule for both is the same: the atomic steps are of a few kinds, and each kind keeps an
invariant.
-/
namespace StreamGateway

inductive LockMode
  | read | write
  deriving DecidableEq, Repr

/-- A step gives the new state, and the rest of the program from the old one. -/
inductive Prog (σ ρ : Type) : Type
  | ret (r : ρ)
  | acquire (mode : LockMode) (rest : Prog σ ρ)
  | release (rest : Prog σ ρ)
  | step (update : σ → σ) (rest : σ → Prog σ ρ)

namespace Prog

variable {σ ρ α β : Type}

def bind : Prog σ α → (α → Prog σ β) → Prog σ β
  | ret r, f => f r
  | acquire mode rest, f => acquire mode (rest.bind f)
  | release rest, f => release (rest.bind f)
  | step update rest, f => step update fun s => (rest s).bind f

instance : Monad (Prog σ) where
  pure := ret
  bind := bind

/-- One step that also gives a result. -/
def atomic (f : σ → α × σ) : Prog σ α :=
  step (fun s => (f s).2) fun s => ret (f s).1

/-- One step under a guard. -/
def locked (mode : LockMode) (f : σ → α × σ) : Prog σ α :=
  acquire mode (step (fun s => (f s).2) fun s => release (ret (f s).1))

/-- The result does not matter. -/
def ignore (p : Prog σ α) : Prog σ Unit :=
  p.bind fun _ => ret ()

@[simp] theorem pure_eq (r : α) : (pure r : Prog σ α) = ret r := rfl

@[simp] theorem ret_bind (r : α) (f : α → Prog σ β) : (ret r >>= f) = f r := rfl

@[simp] theorem acquire_bind (mode : LockMode) (p : Prog σ α) (f : α → Prog σ β) :
    (acquire mode p >>= f) = acquire mode (p >>= f) := rfl

@[simp] theorem release_bind (p : Prog σ α) (f : α → Prog σ β) :
    (release p >>= f) = release (p >>= f) := rfl

@[simp] theorem step_bind (update : σ → σ) (rest : σ → Prog σ α) (f : α → Prog σ β) :
    (step update rest >>= f) = step update fun s => rest s >>= f := rfl

/-! ## Alone -/

/-- The run of a program that has the lock to itself. It has no end when the program
requests a guard while it holds one. -/
def alone : Prog σ ρ → Bool → σ → Option (ρ × Bool × σ)
  | ret r, held, s => some (r, held, s)
  | acquire _ rest, held, s => if held then none else alone rest true s
  | release rest, _, s => alone rest false s
  | step update rest, held, s => alone (rest s) held (update s)

@[simp] theorem alone_ret (r : ρ) (held : Bool) (s : σ) :
    alone (ret r) held s = some (r, held, s) := rfl

@[simp] theorem alone_acquire (mode : LockMode) (p : Prog σ ρ) (s : σ) :
    alone (acquire mode p) false s = alone p true s := rfl

@[simp] theorem alone_acquire_held (mode : LockMode) (p : Prog σ ρ) (s : σ) :
    alone (acquire mode p) true s = none := rfl

@[simp] theorem alone_release (p : Prog σ ρ) (held : Bool) (s : σ) :
    alone (release p) held s = alone p false s := rfl

@[simp] theorem alone_step (update : σ → σ) (rest : σ → Prog σ ρ) (held : Bool) (s : σ) :
    alone (step update rest) held s = alone (rest s) held (update s) := rfl

theorem alone_bind (p : Prog σ α) (f : α → Prog σ β) (held : Bool) (s : σ) :
    alone (p >>= f) held s =
      (alone p held s).bind fun (r, held', s') => alone (f r) held' s' := by
  induction p generalizing held s with
  | ret r => rfl
  | acquire mode rest ih =>
    cases held with
    | false => exact ih true s
    | true => rfl
  | release rest ih => exact ih false s
  | step update rest ih => exact ih s held (update s)

/-- A run of two parts is a run of the first and then one of the second. -/
theorem alone_bind_eq_some {p : Prog σ α} {f : α → Prog σ β} {held held' : Bool} {s s' : σ}
    {r : β} : alone (p >>= f) held s = some (r, held', s') ↔
      ∃ r₁ held₁ s₁, alone p held s = some (r₁, held₁, s₁) ∧
        alone (f r₁) held₁ s₁ = some (r, held', s') := by
  rw [alone_bind, Option.bind_eq_some_iff]
  constructor
  · rintro ⟨⟨r₁, held₁, s₁⟩, h, h'⟩
    exact ⟨r₁, held₁, s₁, h, h'⟩
  · rintro ⟨r₁, held₁, s₁, h, h'⟩
    exact ⟨(r₁, held₁, s₁), h, h'⟩

theorem alone_ret_eq_some {r r' : ρ} {held held' : Bool} {s s' : σ} :
    alone (ret r) held s = some (r', held', s') ↔ r = r' ∧ held = held' ∧ s = s' := by
  simp

@[simp] theorem alone_atomic (f : σ → α × σ) (held : Bool) (s : σ) :
    alone (atomic f) held s = some ((f s).1, held, (f s).2) := rfl

@[simp] theorem alone_locked (mode : LockMode) (f : σ → α × σ) (s : σ) :
    alone (locked mode f) false s = some ((f s).1, false, (f s).2) := rfl

@[simp] theorem alone_locked_held (mode : LockMode) (f : σ → α × σ) (s : σ) :
    alone (locked mode f) true s = none := rfl

@[simp] theorem alone_atomic_bind (f : σ → α × σ) (g : α → Prog σ β) (held : Bool) (s : σ) :
    alone (atomic f >>= g) held s = alone (g (f s).1) held (f s).2 := rfl

@[simp] theorem alone_locked_bind (mode : LockMode) (f : σ → α × σ) (g : α → Prog σ β) (s : σ) :
    alone (locked mode f >>= g) false s = alone (g (f s).1) false (f s).2 := rfl

/-! ## Guards at the end -/

/-- From every state the program runs to its end alone. It starts with or without a guard,
and ends with or without one. -/
def Ends (held held' : Bool) (p : Prog σ ρ) : Prop :=
  ∀ s, ∃ r s', alone p held s = some (r, held', s')

namespace Ends

variable {held held' held'' : Bool}

theorem ret (r : ρ) : Ends held held (Prog.ret (σ := σ) r) := fun s => ⟨r, s, rfl⟩

theorem acquire {mode : LockMode} {p : Prog σ ρ} (h : Ends true held' p) :
    Ends false held' (Prog.acquire mode p) := h

theorem release {p : Prog σ ρ} (h : Ends false held' p) : Ends held held' (Prog.release p) := h

theorem bind {p : Prog σ α} {f : α → Prog σ β} (h : Ends held held' p)
    (hf : ∀ r, Ends held' held'' (f r)) : Ends held held'' (p >>= f) := by
  intro s
  obtain ⟨r, s', hr⟩ := h s
  obtain ⟨r', s'', hr'⟩ := hf r s'
  refine ⟨r', s'', ?_⟩
  rw [alone_bind, hr]
  exact hr'

theorem atomic (f : σ → α × σ) : Ends held held (Prog.atomic f) :=
  fun s => ⟨(f s).1, (f s).2, rfl⟩

theorem locked (mode : LockMode) (f : σ → α × σ) : Ends false false (Prog.locked mode f) :=
  fun s => ⟨(f s).1, (f s).2, rfl⟩

theorem ne_none {p : Prog σ ρ} (h : Ends held held' p) (s : σ) : alone p held s ≠ none := by
  obtain ⟨r, s', hr⟩ := h s
  rw [hr]
  exact Option.some_ne_none _

theorem held_eq {p : Prog σ ρ} (h : Ends held held' p) {s s' : σ} {r : ρ}
    (hr : alone p held s = some (r, held'', s')) : held'' = held' := by
  obtain ⟨r', s'', h'⟩ := h s
  rw [h'] at hr
  exact (Prod.mk.inj (Prod.mk.inj (Option.some.inj hr)).2).1.symm

end Ends

/-- When the rest always ends, the program ends with its first part. -/
theorem alone_bind_eq_none {p : Prog σ α} {f : α → Prog σ β} {held : Bool} {s : σ}
    (hf : ∀ r held' s', alone p held s = some (r, held', s') → alone (f r) held' s' ≠ none) :
    alone (p >>= f) held s = none ↔ alone p held s = none := by
  rw [alone_bind]
  cases hp : alone p held s with
  | none => simp
  | some r => simpa using hf r.1 r.2.1 r.2.2 hp

theorem alone_ignore_eq_none {p : Prog σ α} {held : Bool} {s : σ} :
    alone p.ignore held s = none ↔ alone p held s = none :=
  alone_bind_eq_none (f := fun _ => ret ()) fun _ _ _ _ => Option.some_ne_none _

theorem alone_ignore (p : Prog σ α) (held : Bool) (s : σ) :
    alone p.ignore held s = (alone p held s).map fun (_, held', s') => ((), held', s') := by
  rw [ignore, show p.bind _ = (p >>= fun _ => ret ()) from rfl, alone_bind]
  cases alone p held s <;> rfl

theorem alone_ignore_of {p : Prog σ α} {held held' : Bool} {s s' : σ} {r : α}
    (h : alone p held s = some (r, held', s')) :
    alone p.ignore held s = some ((), held', s') := by
  rw [alone_ignore, h]
  rfl

theorem alone_of_ignore {p : Prog σ α} {held held' : Bool} {s s' : σ}
    (h : alone p.ignore held s = some ((), held', s')) :
    ∃ r, alone p held s = some (r, held', s') := by
  obtain ⟨r, _, _, hp, hret⟩ := alone_bind_eq_some.mp h
  obtain ⟨_, rfl, rfl⟩ := alone_ret_eq_some.mp hret
  exact ⟨r, hp⟩

/-- The program ends in the state it started in, with its guard or without one, and the
result satisfies `Q`. -/
def Reads (p : Prog σ ρ) (Q : ρ → Prop := fun _ => True) : Prop :=
  ∀ held s, ∃ r, alone p held s = some (r, held, s) ∧ Q r

namespace Reads

variable {Q : ρ → Prop}

theorem ret {r : ρ} (h : Q r) : Reads (Prog.ret (σ := σ) r) Q := fun _ _ => ⟨r, rfl, h⟩

theorem bind {p : Prog σ α} {f : α → Prog σ β} {Q : α → Prop} {Q' : β → Prop}
    (h : Reads p Q) (hf : ∀ r, Q r → Reads (f r) Q') : Reads (p >>= f) Q' := by
  intro held s
  obtain ⟨r, hr, hq⟩ := h held s
  obtain ⟨r', hr', hq'⟩ := hf r hq held s
  refine ⟨r', ?_, hq'⟩
  rw [alone_bind, hr]
  exact hr'

theorem andThen {p : Prog σ α} {f : α → Prog σ β} {Q' : β → Prop} (h : Reads p)
    (hf : ∀ r, Reads (f r) Q') : Reads (p >>= f) Q' :=
  h.bind fun r _ => hf r

theorem atomic {f : σ → α × σ} (h : ∀ s, (f s).2 = s) : Reads (Prog.atomic f) := fun held s =>
  ⟨(f s).1, by rw [alone_atomic, h], trivial⟩

theorem ends {held : Bool} {p : Prog σ ρ} (h : Reads p Q) : Ends held held p := by
  intro s
  obtain ⟨r, hr, _⟩ := h held s
  exact ⟨r, s, hr⟩

theorem eq {p : Prog σ ρ} {held held' : Bool} {s s' : σ} {r : ρ} (h : Reads p Q)
    (hr : alone p held s = some (r, held', s')) : held' = held ∧ s' = s ∧ Q r := by
  obtain ⟨r', hr', hq⟩ := h held s
  obtain ⟨rfl, rfl, rfl⟩ : r' = r ∧ held = held' ∧ s = s' := by simpa [hr'] using hr
  exact ⟨rfl, rfl, hq⟩

end Reads

/-! ## What the steps do -/

/-- From `s` on, every atomic step of the program is one of `R`, and the result satisfies
`Q`. Between two steps the state may be replaced by any later one. -/
def Follows (R later : σ → σ → Prop) : Prog σ ρ → σ → (ρ → σ → Prop) → Prop
  | ret r, s, Q => Q r s
  | acquire _ rest, s, Q => Follows R later rest s Q
  | release rest, s, Q => Follows R later rest s Q
  | step update rest, s, Q => ∀ s', later s s' →
      R s' (update s') ∧ Follows R later (rest s') (update s') Q

namespace Follows

variable {R R' later : σ → σ → Prop}

theorem bind [IsPreorder σ later] (hR : ∀ s s', R s s' → later s s') {p : Prog σ α}
    {f : α → Prog σ β} {s : σ} {Q : α → σ → Prop} {Q' : β → σ → Prop}
    (h : Follows R later p s Q)
    (hf : ∀ r s', later s s' → Q r s' → Follows R later (f r) s' Q') :
    Follows R later (p >>= f) s Q' := by
  induction p generalizing s with
  | ret r => exact hf r s (refl_of later s) h
  | acquire mode rest ih => exact ih h hf
  | release rest ih => exact ih h hf
  | step update rest ih =>
    intro s' hs'
    obtain ⟨hr, hrest⟩ := h s' hs'
    exact ⟨hr, ih s' hrest fun r s'' hs'' hq =>
      hf r s'' (trans_of later (trans_of later hs' (hR _ _ hr)) hs'') hq⟩

theorem ret {r : ρ} {s : σ} {Q : ρ → σ → Prop} (h : Q r s) :
    Follows R later (Prog.ret r) s Q := h

theorem acquire {mode : LockMode} {p : Prog σ ρ} {s : σ} {Q : ρ → σ → Prop}
    (h : Follows R later p s Q) : Follows R later (Prog.acquire mode p) s Q := h

theorem release {p : Prog σ ρ} {s : σ} {Q : ρ → σ → Prop} (h : Follows R later p s Q) :
    Follows R later (Prog.release p) s Q := h

theorem atomic {f : σ → α × σ} {s : σ} {Q : α → σ → Prop}
    (h : ∀ s', later s s' → R s' (f s').2 ∧ Q (f s').1 (f s').2) :
    Follows R later (Prog.atomic f) s Q := h

theorem locked {mode : LockMode} {f : σ → α × σ} {s : σ} {Q : α → σ → Prop}
    (h : ∀ s', later s s' → R s' (f s').2 ∧ Q (f s').1 (f s').2) :
    Follows R later (Prog.locked mode f) s Q := h

theorem mono {p : Prog σ α} {s : σ} {Q : α → σ → Prop} (h : Follows R later p s Q)
    (hR : ∀ s s', R s s' → R' s s') : Follows R' later p s Q := by
  induction p generalizing s with
  | ret r => exact h
  | acquire mode rest ih => exact ih h
  | release rest ih => exact ih h
  | step update rest ih =>
    intro s' hs'
    obtain ⟨hr, hrest⟩ := h s' hs'
    exact ⟨hR _ _ hr, ih s' hrest⟩

/-- What is known of a state is known of the later ones. -/
theorem of_later [IsPreorder σ later] {p : Prog σ α} {s s' : σ}
    (h : Follows R later p s fun _ _ => True) (hs : later s s') :
    Follows R later p s' fun _ _ => True := by
  induction p with
  | ret r => trivial
  | acquire mode rest ih => exact ih h
  | release rest ih => exact ih h
  | step update rest ih => exact fun s'' hs'' => h s'' (trans_of later hs hs'')

theorem ignore [IsPreorder σ later] (hR : ∀ s s', R s s' → later s s') {p : Prog σ α} {s : σ}
    {Q : α → σ → Prop} (h : Follows R later p s Q) :
    Follows R later p.ignore s fun _ _ => True :=
  bind hR h fun _ _ _ _ => trivial

/-- A run alone keeps what each step keeps. -/
theorem alone [IsPreorder σ later] {p : Prog σ ρ} {Q : ρ → σ → Prop} {I : σ → Prop}
    (hR : ∀ s s', I s → R s s' → I s') {held held' : Bool} {s s' : σ} {r : ρ}
    (h : Follows R later p s Q) (hi : I s)
    (hr : p.alone held s = some (r, held', s')) : I s' ∧ Q r s' := by
  induction p generalizing held s with
  | ret r' =>
    obtain ⟨rfl, rfl, rfl⟩ : r' = r ∧ held = held' ∧ s = s' := by simpa using hr
    exact ⟨hi, h⟩
  | acquire mode rest ih =>
    cases held with
    | false => exact ih h hi hr
    | true => exact absurd hr (by simp)
  | release rest ih => exact ih h hi hr
  | step update rest ih =>
    obtain ⟨hstep, hrest⟩ := h s (refl_of later s)
    exact ih s hrest (hR _ _ hi hstep) hr

end Follows

end Prog

/-! ## In a pool -/

/-- A call under way: what is left of its program, and the guard it holds. -/
structure Thread (σ : Type) where
  rest : Prog σ Unit
  held : Option LockMode

structure Pool (σ : Type) where
  shared : σ
  threads : List (Thread σ)

/-- Readers share the lock, a writer has it alone. -/
def LockMode.compatible : LockMode → Option LockMode → Bool
  | _, none => true
  | .read, some .read => true
  | _, _ => false

namespace Pool

variable {σ : Type}

/-- The steps of a pool. New calls arrive at any time, and a guard is granted when no other
call holds one that excludes it. -/
inductive Step (calls : Prog σ Unit → Prop) (outside : σ → σ → Prop) : Pool σ → Pool σ → Prop
  | call {s : σ} {ts : List (Thread σ)} {p : Prog σ Unit} : calls p →
      Step calls outside ⟨s, ts⟩ ⟨s, ts ++ [⟨p, none⟩]⟩
  | outside {s s' : σ} {ts : List (Thread σ)} : outside s s' →
      Step calls outside ⟨s, ts⟩ ⟨s', ts⟩
  | act {s : σ} {pre post : List (Thread σ)} {update : σ → σ} {rest : σ → Prog σ Unit}
      {held : Option LockMode} :
      Step calls outside ⟨s, pre ++ ⟨.step update rest, held⟩ :: post⟩
        ⟨update s, pre ++ ⟨rest s, held⟩ :: post⟩
  | acquire {s : σ} {pre post : List (Thread σ)} {mode : LockMode} {rest : Prog σ Unit} :
      (∀ t ∈ pre ++ post, mode.compatible t.held) →
      Step calls outside ⟨s, pre ++ ⟨.acquire mode rest, none⟩ :: post⟩
        ⟨s, pre ++ ⟨rest, some mode⟩ :: post⟩
  | release {s : σ} {pre post : List (Thread σ)} {rest : Prog σ Unit}
      {held : Option LockMode} :
      Step calls outside ⟨s, pre ++ ⟨.release rest, held⟩ :: post⟩
        ⟨s, pre ++ ⟨rest, none⟩ :: post⟩

theorem Step.mono {calls calls' : Prog σ Unit → Prop} {outside : σ → σ → Prop} {a b : Pool σ}
    (h : Step calls outside a b) (hcalls : ∀ p, calls p → calls' p) :
    Step calls' outside a b := by
  cases h with
  | call hp => exact .call (hcalls _ hp)
  | outside ho => exact .outside ho
  | act => exact .act
  | acquire hall => exact .acquire hall
  | release => exact .release

/-- The runs of a pool all of whose steps the condition allows. -/
def Runs (calls : Prog σ Unit → Prop) (outside C : σ → σ → Prop) : Pool σ → Pool σ → Prop :=
  Relation.ReflTransGen fun a b => Step calls outside a b ∧ C a.shared b.shared

variable {calls : Prog σ Unit → Prop} {outside R later C : σ → σ → Prop} {I : σ → Prop}

/-- The invariant holds, and the calls under way take no other steps than those of `R`. -/
def Safe (I : σ → Prop) (R later : σ → σ → Prop) (p : Pool σ) : Prop :=
  I p.shared ∧ ∀ t ∈ p.threads, t.rest.Follows R later p.shared fun _ _ => True

theorem Safe.replace [IsPreorder σ later] {s s' : σ} {pre post : List (Thread σ)}
    {t t' : Thread σ} (h : Safe I R later ⟨s, pre ++ t :: post⟩) (hi : I s') (hs : later s s')
    (ht : t'.rest.Follows R later s' fun _ _ => True) :
    Safe I R later ⟨s', pre ++ t' :: post⟩ := by
  refine ⟨hi, fun u hu => ?_⟩
  rcases List.mem_append.mp hu with hu | hu
  · exact (h.2 u (List.mem_append_left _ hu)).of_later hs
  · rcases List.mem_cons.mp hu with rfl | hu
    · exact ht
    · exact (h.2 u (List.mem_append_right _ (List.mem_cons_of_mem _ hu))).of_later hs

theorem Safe.thread {s : σ} {pre post : List (Thread σ)} {t : Thread σ}
    (h : Safe I R later ⟨s, pre ++ t :: post⟩) : t.rest.Follows R later s fun _ _ => True :=
  h.2 t (List.mem_append_right _ List.mem_cons_self)

/-- A step of the pool is one of `R`, one from outside, or none at all for the state. -/
theorem Safe.step [IsPreorder σ later]
    (hcalls : ∀ p s, calls p → p.Follows R later s fun _ _ => True)
    (hlater : ∀ s s', R s s' ∨ outside s s' → later s s')
    (hI : ∀ s s', I s → R s s' ∨ outside s s' → C s s' → I s') {a b : Pool σ}
    (h : Safe I R later a) (hstep : Step calls outside a b) (hc : C a.shared b.shared) :
    Safe I R later b := by
  cases hstep with
  | call hp =>
    refine ⟨h.1, fun t ht => ?_⟩
    rcases List.mem_append.mp ht with ht | ht
    · exact h.2 t ht
    · obtain rfl := List.mem_singleton.mp ht
      exact hcalls _ _ hp
  | outside ho =>
    exact ⟨hI _ _ h.1 (.inr ho) hc, fun t ht => (h.2 t ht).of_later (hlater _ _ (.inr ho))⟩
  | @act s =>
    obtain ⟨hr, hrest⟩ := h.thread s (refl_of later s)
    exact h.replace (hI _ _ h.1 (.inl hr) hc) (hlater _ _ (.inl hr)) hrest
  | @acquire s => exact h.replace h.1 (refl_of later s) h.thread
  | @release s => exact h.replace h.1 (refl_of later s) h.thread

/-- An invariant that every step of `R` and every step from outside keeps holds in every
state of every run. -/
theorem Safe.runs [IsPreorder σ later]
    (hcalls : ∀ p s, calls p → p.Follows R later s fun _ _ => True)
    (hlater : ∀ s s', R s s' ∨ outside s s' → later s s')
    (hI : ∀ s s', I s → R s s' ∨ outside s s' → C s s' → I s') {a b : Pool σ}
    (h : Safe I R later a) (hruns : Runs calls outside C a b) : Safe I R later b := by
  induction hruns with
  | refl => exact h
  | tail _ hstep ih => exact ih.step hcalls hlater hI hstep.1 hstep.2

/-- A program that runs to its end alone does so in a pool in which no other call holds a
guard. -/
theorem runs_of_alone (p : Prog σ Unit) (held : Option LockMode) {s s' : σ}
    {pre : List (Thread σ)} {held' : Bool} (hpre : ∀ t ∈ pre, t.held = none)
    (hr : p.alone held.isSome s = some ((), held', s')) :
    ∃ mode, mode.isSome = held' ∧ Runs calls outside (fun _ _ => True) ⟨s, pre ++ [⟨p, held⟩]⟩
      ⟨s', pre ++ [⟨.ret (), mode⟩]⟩ := by
  induction p generalizing s held with
  | ret r =>
    simp only [Prog.alone_ret, Option.some.injEq, Prod.mk.injEq, true_and] at hr
    obtain ⟨hh, rfl⟩ := hr
    exact ⟨held, hh, .refl⟩
  | acquire mode rest ih =>
    cases held with
    | some m => simp at hr
    | none =>
      obtain ⟨m, hm, hruns⟩ := ih (some mode) hr
      refine ⟨m, hm, .head ⟨.acquire fun t ht => ?_, trivial⟩ hruns⟩
      rw [List.append_nil] at ht
      rw [hpre t ht]
      cases mode <;> rfl
  | release rest ih =>
    obtain ⟨m, hm, hruns⟩ := ih none hr
    exact ⟨m, hm, .head ⟨.release, trivial⟩ hruns⟩
  | step update rest ih =>
    obtain ⟨m, hm, hruns⟩ := ih s held hr
    exact ⟨m, hm, .head ⟨.act, trivial⟩ hruns⟩

/-! ## Schedules -/

/-- The next step of a call between other calls, if the lock grants it. -/
def advanceThread (s : σ) (pre : List (Thread σ)) (t : Thread σ) (post : List (Thread σ)) :
    Option (Pool σ) :=
  match t with
  | ⟨.step update rest, held⟩ => some ⟨update s, pre ++ ⟨rest s, held⟩ :: post⟩
  | ⟨.acquire mode rest, none⟩ =>
    if (pre ++ post).all fun t => mode.compatible t.held then
      some ⟨s, pre ++ ⟨rest, some mode⟩ :: post⟩
    else none
  | ⟨.release rest, _⟩ => some ⟨s, pre ++ ⟨rest, none⟩ :: post⟩
  | _ => none

/-- The next step of the call at a position. -/
def advance (p : Pool σ) (k : ℕ) : Option (Pool σ) :=
  match p.threads.drop k with
  | t :: post => advanceThread p.shared (p.threads.take k) t post
  | [] => none

theorem step_of_advanceThread {s : σ} {pre post : List (Thread σ)} {t : Thread σ} {p' : Pool σ}
    (h : advanceThread s pre t post = some p') :
    Step calls outside ⟨s, pre ++ t :: post⟩ p' := by
  unfold advanceThread at h
  split at h
  · obtain rfl := Option.some.inj h
    exact .act
  · split at h
    · rename_i hall
      obtain rfl := Option.some.inj h
      exact .acquire (List.all_eq_true.mp hall)
    · exact absurd h (by simp)
  · obtain rfl := Option.some.inj h
    exact .release
  · exact absurd h (by simp)

theorem step_of_advance {p p' : Pool σ} {k : ℕ} (h : p.advance k = some p') :
    Step calls outside p p' := by
  obtain ⟨s, ts⟩ := p
  unfold advance at h
  split at h
  · rename_i t post hdrop
    have hsplit : ts = ts.take k ++ t :: post := by
      rw [← hdrop]
      exact (List.take_append_drop k ts).symm
    have hstep : Step calls outside _ p' := step_of_advanceThread h
    rwa [← hsplit] at hstep
  · exact absurd h (by simp)

/-- The steps that a schedule of positions gives, as long as each passes the check. -/
def advances (check : σ → σ → Bool) (p : Pool σ) : List ℕ → Option (Pool σ)
  | [] => some p
  | k :: ks => (p.advance k).bind fun q =>
    if check p.shared q.shared then q.advances check ks else none

theorem runs_of_advances {check : σ → σ → Bool} (hC : ∀ s s', check s s' = true → C s s')
    {p p' : Pool σ} (ks : List ℕ) (h : p.advances check ks = some p') :
    Runs calls outside C p p' := by
  induction ks generalizing p with
  | nil =>
    obtain rfl := Option.some.inj h
    exact .refl
  | cons k ks ih =>
    obtain ⟨q, hq, h⟩ := Option.bind_eq_some_iff.mp h
    split at h
    · rename_i hcheck
      exact .head ⟨step_of_advance hq, hC _ _ hcheck⟩ (ih h)
    · exact absurd h (by simp)

/-- The pool after calls have arrived, each followed by the steps of a schedule. -/
def play (p : Pool σ) : List (Prog σ Unit × List ℕ) → Option (Pool σ)
  | [] => some p
  | (call, ks) :: script =>
    (advances (fun _ _ => true) ⟨p.shared, p.threads ++ [⟨call, none⟩]⟩ ks).bind fun q =>
      q.play script

theorem runs_of_play {script : List (Prog σ Unit × List ℕ)}
    (hcalls : ∀ e ∈ script, calls e.1) {p p' : Pool σ} (h : p.play script = some p') :
    Runs calls outside (fun _ _ => True) p p' := by
  induction script generalizing p with
  | nil =>
    obtain rfl := Option.some.inj h
    exact .refl
  | cons e script ih =>
    obtain ⟨q, hq, h⟩ := Option.bind_eq_some_iff.mp h
    have hsteps : Runs calls outside (fun _ _ => True) _ q :=
      runs_of_advances (fun _ _ _ => trivial) _ hq
    exact .head ⟨.call (hcalls e List.mem_cons_self), trivial⟩
      (hsteps.trans (ih (fun e he => hcalls e (List.mem_cons_of_mem _ he)) h))

end Pool

end StreamGateway
