import Mathlib.Data.List.Basic

/-!
# Clients that reconnect

A client calls for a connection, uses it until it breaks, and calls again. It gives notice
when it begins to call, when it is connected, when a call has failed or the connection is
lost, and when it gives up, which it does after a number of failures in a row. It can be
stopped at any time. Its notices are of any type, and so is what it does with a connection.
-/
namespace StreamGateway

structure Client (μ : Type*) where
  /-- The failures in a row after which it gives up. -/
  limit : ℕ
  limit_pos : 0 < limit
  opening : μ
  connected : μ
  lost : μ
  gaveUp : μ
  opening_ne : opening ≠ gaveUp
  connected_ne : connected ≠ gaveUp
  lost_ne : lost ≠ gaveUp
  /-- Whether there is anyone to give notice to. -/
  speaks : Bool

namespace Client

/-- What becomes of a call: it is cancelled before it begins, it waits for an answer, it
fails, or it connects, and then the connection is lost or not. -/
inductive Outcome
  | cancelled
  | pending
  | failed
  | connected (lost : Bool)

/-- The failures in a row behind a call with the given outcome. -/
def after (k : ℕ) : Outcome → ℕ
  | .failed => k + 1
  | .connected _ => 0
  | _ => k

inductive Event (μ : Type*)
  | call
  | succeeded
  | failed
  | notice (m : μ)

section Events

variable {μ : Type*}

def notices (t : List (Event μ)) : List μ :=
  t.filterMap fun
    | .notice m => some m
    | _ => none

/-- The failures in a row behind an event. -/
def count (k : ℕ) : Event μ → ℕ
  | .failed => k + 1
  | .succeeded => 0
  | _ => k

/-- The failures at the end, counted from the start or from the last success. -/
def streak (t : List (Event μ)) : ℕ := t.foldl count 0

end Events

variable {μ : Type*} (c : Client μ)

def say (m : μ) : List (Event μ) := if c.speaks then [.notice m] else []

/-- The events of a client with the given number of failures behind it, for calls with the
given outcomes, up to the time it gives up, is stopped or is looked at. -/
inductive Run : ℕ → List Outcome → List (Event μ) → Prop
  | stopped {k : ℕ} : Run k [] []
  | asked {k : ℕ} {os : List Outcome} : Run k (.cancelled :: os) [.call]
  | waiting {k : ℕ} {os : List Outcome} : Run k (.pending :: os) (.call :: c.say c.opening)
  | holding {k : ℕ} {os : List Outcome} : Run k (.connected false :: os)
      (.call :: (c.say c.opening ++ (c.say c.connected ++ [.succeeded])))
  | session {k : ℕ} {os : List Outcome} {t : List (Event μ)} : Run 0 os t →
      Run k (.connected true :: os) (.call :: (c.say c.opening ++ (c.say c.connected ++
        .succeeded :: (c.say c.lost ++ t))))
  | failure {k : ℕ} {os : List Outcome} {t : List (Event μ)} :
      k + 1 < c.limit → Run (k + 1) os t →
      Run k (.failed :: os) (.call :: (c.say c.opening ++ .failed :: (c.say c.lost ++ t)))
  | exhausted {k : ℕ} {os : List Outcome} : c.limit ≤ k + 1 →
      Run k (.failed :: os) (.call :: (c.say c.opening ++ .failed :: c.say c.gaveUp))

/-! ## The protocol -/

/-- Whether a client calls again after a call, given the outcomes of those before it. -/
def GoesOn (k : ℕ) (earlier : List Outcome) (o : Outcome) : Prop :=
  o = .connected true ∨ o = .failed ∧ earlier.foldl after k + 1 < c.limit

/-- The calls that are made, of the given ones: one after the other, as long as the client
calls again. -/
structure Makes (k : ℕ) (outcomes made : List Outcome) : Prop where
  among : made <+: outcomes
  goesOn : ∀ pre o post, made = pre ++ o :: post → post ≠ [] → c.GoesOn k pre o
  all_or_last : made = outcomes ∨ ∃ pre o, made = pre ++ [o] ∧ ¬ c.GoesOn k pre o

/-- What is seen of one call. -/
def shown (k : ℕ) : Outcome → List (Event μ)
  | .cancelled => [.call]
  | .pending => .call :: c.say c.opening
  | .failed => .call :: (c.say c.opening ++
      .failed :: c.say (if k + 1 = c.limit then c.gaveUp else c.lost))
  | .connected lost => .call :: (c.say c.opening ++ (c.say c.connected ++
      .succeeded :: if lost then c.say c.lost else []))

/-- What is seen of the calls that are made. -/
def trace : ℕ → List Outcome → List (Event μ)
  | _, [] => []
  | k, o :: made => c.shown k o ++ trace (after k o) made

/-- The words of notices: blocks for sessions and for failures, and at most one end. -/
inductive Word : List μ → Prop
  | nil : Word []
  | gaveUp : Word [c.opening, c.gaveUp]
  | session {w : List μ} : Word w → Word (c.opening :: c.connected :: c.lost :: w)
  | failure {w : List μ} : Word w → Word (c.opening :: c.lost :: w)

/-- The protocol, for calls with the given outcomes: every call shows what became of it, the
client calls again until `limit` calls in a row have failed, and then it gives up. -/
structure Lawful (outcomes : List Outcome) (t : List (Event μ)) : Prop where
  calls : ∃ made, c.Makes 0 outcomes made ∧ t = c.trace 0 made ∧
    (.notice c.gaveUp ∈ t ↔ c.speaks = true ∧ made.foldl after 0 = c.limit)
  word : ∃ w, c.Word w ∧ notices t <+: w
  gaveUp_last : ∀ pre post, t = pre ++ .notice c.gaveUp :: post →
    streak pre = c.limit ∧ post = []
  gives_up : ∀ pre post, t = pre ++ .failed :: post → streak (pre ++ [.failed]) = c.limit →
    post = c.say c.gaveUp

/-! ## The notices -/

theorem notices_say (m : μ) : notices (c.say m) = if c.speaks then [m] else [] := by
  unfold say
  split <;> rfl

theorem notices_append (t u : List (Event μ)) : notices (t ++ u) = notices t ++ notices u :=
  List.filterMap_append

theorem Run.word {k : ℕ} {os : List Outcome} {t : List (Event μ)} (h : c.Run k os t) :
    ∃ w, c.Word w ∧ notices t <+: w := by
  have hcall : ∀ t : List (Event μ), notices (.call :: t) = notices t := fun _ => rfl
  have hfailed : ∀ t : List (Event μ), notices (.failed :: t) = notices t := fun _ => rfl
  have hsucceeded : ∀ t : List (Event μ), notices (.succeeded :: t) = notices t := fun _ => rfl
  have hnil : notices ([] : List (Event μ)) = [] := rfl
  cases hs : c.speaks with
  | false =>
    refine ⟨[], .nil, ?_⟩
    have hsilent : notices t = [] := by
      induction h <;> simp_all [notices_append, notices_say]
    exact hsilent ▸ List.nil_prefix
  | true =>
    have hsay : ∀ m, notices (c.say m) = [m] := by
      intro m
      rw [notices_say, hs, if_pos rfl]
    induction h with
    | stopped => exact ⟨[], .nil, List.nil_prefix⟩
    | asked => exact ⟨[], .nil, List.nil_prefix⟩
    | waiting =>
      refine ⟨_, .failure .nil, ?_⟩
      rw [hcall, hsay]
      exact ⟨[c.lost], rfl⟩
    | holding =>
      refine ⟨_, .session .nil, ?_⟩
      rw [hcall, notices_append, notices_append, hsay, hsay]
      exact ⟨[c.lost], rfl⟩
    | session _ ih =>
      obtain ⟨w, hw, hprefix⟩ := ih
      refine ⟨_, .session hw, ?_⟩
      simp only [hcall, hsucceeded, notices_append, hsay]
      simpa using hprefix
    | failure _ _ ih =>
      obtain ⟨w, hw, hprefix⟩ := ih
      refine ⟨_, .failure hw, ?_⟩
      simp only [hcall, hfailed, notices_append, hsay]
      simpa using hprefix
    | exhausted _ =>
      refine ⟨_, .gaveUp, ?_⟩
      simp only [hcall, hfailed, notices_append, hsay]
      exact List.prefix_refl _

/-! ## The calls -/

section Calls

variable {c} {k : ℕ} {outcomes made : List Outcome} {o : Outcome}

theorem goesOn_cons {o' : Outcome} {pre : List Outcome} :
    c.GoesOn k (o :: pre) o' ↔ c.GoesOn (after k o) pre o' := Iff.rfl

theorem Makes.nil : c.Makes k [] [] where
  among := List.nil_prefix
  goesOn := by simp
  all_or_last := .inl rfl

theorem Makes.last (h : ¬ c.GoesOn k [] o) : c.Makes k (o :: outcomes) [o] where
  among := ⟨outcomes, rfl⟩
  goesOn pre o' post he hpost := by
    cases pre with
    | nil => exact absurd (List.cons.inj he).2.symm hpost
    | cons p pre => simp at he
  all_or_last := .inr ⟨[], o, rfl, h⟩

theorem Makes.cons (hgo : c.GoesOn k [] o) (h : c.Makes (after k o) outcomes made) :
    c.Makes k (o :: outcomes) (o :: made) where
  among := List.cons_prefix_cons.mpr ⟨rfl, h.among⟩
  goesOn pre o' post he hpost := by
    cases pre with
    | nil =>
      obtain ⟨rfl, rfl⟩ := List.cons.inj he
      exact hgo
    | cons p pre =>
      obtain ⟨rfl, hrest⟩ := List.cons.inj he
      exact goesOn_cons.mpr (h.goesOn pre o' post hrest hpost)
  all_or_last := by
    rcases h.all_or_last with rfl | ⟨pre, o', rfl, hlast⟩
    · exact .inl rfl
    · exact .inr ⟨o :: pre, o', rfl, fun h => hlast (goesOn_cons.mp h)⟩

end Calls

theorem notice_mem_say {m m' : μ} : .notice m ∈ c.say m' ↔ c.speaks = true ∧ m = m' := by
  unfold say
  split <;> simp_all

/-- The events of a run are those of the calls that are made. -/
theorem Run.calls {k : ℕ} {os : List Outcome} {t : List (Event μ)} (h : c.Run k os t)
    (hk : k < c.limit) : ∃ made, c.Makes k os made ∧ t = c.trace k made ∧
      (.notice c.gaveUp ∈ t ↔ c.speaks = true ∧ made.foldl after k = c.limit) := by
  have hopening := c.opening_ne.symm
  have hconnected := c.connected_ne.symm
  have hlost := c.lost_ne.symm
  induction h with
  | stopped => exact ⟨[], .nil, rfl, by simp [Nat.ne_of_lt hk]⟩
  | asked =>
    refine ⟨[.cancelled], .last (by simp [GoesOn]), by simp [trace, shown], ?_⟩
    simp [after, Nat.ne_of_lt hk]
  | waiting =>
    refine ⟨[.pending], .last (by simp [GoesOn]), by simp [trace, shown], ?_⟩
    simp [after, Nat.ne_of_lt hk, notice_mem_say, hopening]
  | holding =>
    refine ⟨[.connected false], .last (by simp [GoesOn]), by simp [trace, shown], ?_⟩
    simp [after, Nat.ne_of_lt c.limit_pos, notice_mem_say, hopening, hconnected]
  | session _ ih =>
    obtain ⟨made, hmakes, rfl, hgaveUp⟩ := ih c.limit_pos
    refine ⟨.connected true :: made, .cons (.inl rfl) hmakes, by simp [trace, shown, after], ?_⟩
    simp [after, notice_mem_say, hopening, hconnected, hlost, hgaveUp]
  | @failure k os t hlt _ ih =>
    obtain ⟨made, hmakes, rfl, hgaveUp⟩ := ih hlt
    refine ⟨.failed :: made, .cons (.inr ⟨rfl, hlt⟩) hmakes,
      by simp [trace, shown, after, Nat.ne_of_lt hlt], ?_⟩
    simp [after, notice_mem_say, hopening, hlost, hgaveUp]
  | @exhausted k os hle =>
    have he : k + 1 = c.limit := by omega
    refine ⟨[.failed], .last (by simp [GoesOn, hle]), by simp [trace, shown, he], ?_⟩
    simp [after, notice_mem_say, hopening, he]

/-! ## The end -/

/-- A trace read event by event: at the failure that reaches the limit the client gives up,
and nowhere else. -/
def Judged : ℕ → List (Event μ) → Prop
  | _, [] => True
  | k, .call :: t => Judged k t
  | _, .succeeded :: t => Judged 0 t
  | k, .failed :: t => if k + 1 = c.limit then t = c.say c.gaveUp else Judged (k + 1) t
  | k, .notice m :: t => m ≠ c.gaveUp ∧ Judged k t

theorem judged_say {m : μ} (hm : m ≠ c.gaveUp) {k : ℕ} {t : List (Event μ)}
    (h : c.Judged k t) : c.Judged k (c.say m ++ t) := by
  unfold say
  split
  · exact ⟨hm, h⟩
  · exact h

theorem Run.judged {k : ℕ} {os : List Outcome} {t : List (Event μ)} (h : c.Run k os t)
    (hk : k < c.limit) : c.Judged k t := by
  induction h with
  | stopped => trivial
  | asked => trivial
  | waiting =>
    rw [← List.append_nil (c.say c.opening)]
    exact judged_say c c.opening_ne trivial
  | holding => exact judged_say c c.opening_ne (judged_say c c.connected_ne trivial)
  | session _ ih =>
    exact judged_say c c.opening_ne
      (judged_say c c.connected_ne (judged_say c c.lost_ne (ih c.limit_pos)))
  | @failure k os t hlt _ ih =>
    refine judged_say c c.opening_ne ?_
    have hne : k + 1 ≠ c.limit := by omega
    rw [Judged, if_neg hne]
    exact judged_say c c.lost_ne (ih hlt)
  | @exhausted k os hle =>
    refine judged_say c c.opening_ne ?_
    have he : k + 1 = c.limit := by omega
    rw [Judged, if_pos he]

theorem say_eq_append {m : μ} {pre post : List (Event μ)} {e : Event μ}
    (h : c.say m = pre ++ e :: post) : pre = [] ∧ e = .notice m ∧ post = [] := by
  unfold say at h
  split at h
  · cases pre with
    | nil =>
      obtain ⟨he, hp⟩ := List.cons.inj h
      exact ⟨rfl, he.symm, hp.symm⟩
    | cons d pre => simp at h
  · simp at h

theorem Judged.gaveUp_last {k : ℕ} {pre post : List (Event μ)}
    (h : c.Judged k (pre ++ .notice c.gaveUp :: post)) :
    pre.foldl count k = c.limit ∧ post = [] := by
  induction pre generalizing k with
  | nil => exact absurd rfl h.1
  | cons e pre ih =>
    cases e with
    | call => exact ih h
    | succeeded => exact ih h
    | notice m => exact ih h.2
    | failed =>
      rw [List.cons_append, Judged] at h
      split_ifs at h with hlimit
      · obtain ⟨rfl, _, rfl⟩ := say_eq_append c h.symm
        exact ⟨hlimit, rfl⟩
      · exact ih h

theorem Judged.gives_up {k : ℕ} {pre post : List (Event μ)}
    (h : c.Judged k (pre ++ .failed :: post))
    (hlimit : (pre ++ [Event.failed]).foldl count k = c.limit) : post = c.say c.gaveUp := by
  induction pre generalizing k with
  | nil =>
    have hreached : k + 1 = c.limit := hlimit
    rw [List.nil_append, Judged, if_pos hreached] at h
    exact h
  | cons e pre ih =>
    cases e with
    | call => exact ih h hlimit
    | succeeded => exact ih h hlimit
    | notice m => exact ih h.2 hlimit
    | failed =>
      rw [List.cons_append, Judged] at h
      split_ifs at h with hreached
      · obtain ⟨_, hfailed, _⟩ := say_eq_append c h.symm
        exact absurd hfailed (by simp)
      · exact ih h hlimit

/-- Every run of a client keeps the protocol. -/
theorem Run.lawful {outcomes : List Outcome} {t : List (Event μ)} (h : c.Run 0 outcomes t) :
    c.Lawful outcomes t where
  calls := Run.calls c h c.limit_pos
  word := Run.word c h
  gaveUp_last := by
    rintro pre post rfl
    exact Judged.gaveUp_last c (Run.judged c h c.limit_pos)
  gives_up := by
    rintro pre post rfl hlimit
    exact Judged.gives_up c (Run.judged c h c.limit_pos) hlimit

end Client

end StreamGateway
