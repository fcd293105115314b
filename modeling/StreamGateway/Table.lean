import Mathlib.Data.List.Nodup

/-!
# Tables with automatic keys

A table lists its rows in the order of their keys. An insertion takes the key behind the
last one that was ever given, so no key is given twice, not even after a deletion.
-/
namespace StreamGateway

structure Table (ρ : Type) where
  rows : List (Int × ρ)
  lastId : Int
  sorted : rows.Pairwise fun a b => a.1 < b.1
  le_lastId : ∀ r ∈ rows, r.1 ≤ lastId

namespace Table

variable {ρ : Type}

def empty : Table ρ := ⟨[], 0, List.Pairwise.nil, fun _ h => absurd h List.not_mem_nil⟩

def find (t : Table ρ) (id : Int) : Option ρ :=
  (t.rows.find? fun r => r.1 = id).map Prod.snd

def insert (t : Table ρ) (row : ρ) : Table ρ where
  rows := t.rows ++ [(t.lastId + 1, row)]
  lastId := t.lastId + 1
  sorted := by
    refine List.pairwise_append.mpr ⟨t.sorted, List.pairwise_singleton _ _, ?_⟩
    intro a ha b hb
    obtain rfl := List.mem_singleton.mp hb
    have := t.le_lastId a ha
    show a.1 < t.lastId + 1
    omega
  le_lastId := by
    intro r hr
    rcases List.mem_append.mp hr with hr | hr
    · have := t.le_lastId r hr
      omega
    · obtain rfl := List.mem_singleton.mp hr
      exact Int.le_refl _

/-- The rows keep their keys. -/
def update (t : Table ρ) (id : Int) (f : ρ → ρ) : Table ρ where
  rows := t.rows.map fun r => if r.1 = id then (r.1, f r.2) else r
  lastId := t.lastId
  sorted := by
    refine List.pairwise_map.mpr (t.sorted.imp fun {a b} h => ?_)
    split_ifs <;> exact h
  le_lastId := by
    intro r hr
    obtain ⟨q, hq, rfl⟩ := List.mem_map.mp hr
    have := t.le_lastId q hq
    split_ifs <;> exact this

def delete (t : Table ρ) (p : Int → ρ → Bool) : Table ρ where
  rows := t.rows.filter fun r => !p r.1 r.2
  lastId := t.lastId
  sorted := t.sorted.filter _
  le_lastId := fun r hr => t.le_lastId r (List.mem_of_mem_filter hr)

theorem mem_insert {t : Table ρ} {row : ρ} {r : Int × ρ} :
    r ∈ (t.insert row).rows ↔ r ∈ t.rows ∨ r = (t.lastId + 1, row) := by
  simp [insert]

theorem mem_update {t : Table ρ} {id k : Int} {f : ρ → ρ} {row' : ρ}
    (h : (k, row') ∈ (t.update id f).rows) :
    ∃ row, (k, row) ∈ t.rows ∧ row' = if k = id then f row else row := by
  obtain ⟨⟨k₀, row⟩, hmem, heq⟩ := List.mem_map.mp h
  dsimp only at heq
  split at heq
  · rename_i hid
    obtain ⟨rfl, rfl⟩ := Prod.mk.inj heq
    exact ⟨row, hmem, by rw [if_pos hid]⟩
  · rename_i hid
    obtain ⟨rfl, rfl⟩ := Prod.mk.inj heq
    exact ⟨row, hmem, by rw [if_neg hid]⟩

theorem mem_update_self {t : Table ρ} {k : Int} {f : ρ → ρ} {row : ρ}
    (h : (k, row) ∈ t.rows) : (k, f row) ∈ (t.update k f).rows :=
  List.mem_map.mpr ⟨(k, row), h, if_pos rfl⟩

theorem nodup_keys (t : Table ρ) : (t.rows.map Prod.fst).Nodup :=
  List.pairwise_map.mpr (t.sorted.imp Int.ne_of_lt)

/-- The keys of the rows that satisfy a condition. -/
theorem nodup_keys_filter (t : Table ρ) (p : Int × ρ → Bool) :
    ((t.rows.filter p).map Prod.fst).Nodup :=
  t.nodup_keys.sublist (List.filter_sublist.map _)

/-- A key has one row. -/
theorem eq_of_mem {t : Table ρ} {a b : Int × ρ} (ha : a ∈ t.rows) (hb : b ∈ t.rows)
    (h : a.1 = b.1) : a = b :=
  List.inj_on_of_nodup_map t.nodup_keys ha hb h

theorem find_eq_some {t : Table ρ} {id : Int} {row : ρ} :
    t.find id = some row ↔ (id, row) ∈ t.rows := by
  constructor
  · intro h
    obtain ⟨r, hr, rfl⟩ := Option.map_eq_some_iff.mp h
    have hid : r.1 = id := by simpa using List.find?_some hr
    have hm := List.mem_of_find?_eq_some hr
    rw [← hid]
    exact hm
  · intro h
    cases hf : t.rows.find? fun r => r.1 = id with
    | none =>
      have := List.find?_eq_none.mp hf _ h
      simp at this
    | some r =>
      have hid : r.1 = id := by simpa using List.find?_some hf
      have he := eq_of_mem (List.mem_of_find?_eq_some hf) h hid
      rw [find, hf, he]
      rfl

theorem find_insert (t : Table ρ) (row : ρ) (id : Int) :
    (t.insert row).find id = if id = t.lastId + 1 then some row else t.find id := by
  refine Option.ext fun row' => ?_
  rw [find_eq_some, mem_insert]
  by_cases hid : id = t.lastId + 1
  · rw [if_pos hid]
    constructor
    · rintro (hmem | heq)
      · have := t.le_lastId _ hmem
        dsimp only at this
        omega
      · rw [(Prod.mk.inj heq).2]
    · intro h
      exact .inr (Prod.ext hid (Option.some.inj h).symm)
  · rw [if_neg hid, find_eq_some]
    refine ⟨fun h => h.resolve_right fun heq => hid (Prod.mk.inj heq).1, .inl⟩

theorem find_update (t : Table ρ) (k id : Int) (f : ρ → ρ) :
    (t.update k f).find id = if id = k then (t.find k).map f else t.find id := by
  refine Option.ext fun row' => ?_
  rw [find_eq_some]
  by_cases hid : id = k
  · subst hid
    rw [if_pos rfl, Option.map_eq_some_iff]
    constructor
    · intro h
      obtain ⟨row, hrow, heq⟩ := mem_update h
      rw [if_pos rfl] at heq
      exact ⟨row, find_eq_some.mpr hrow, heq.symm⟩
    · rintro ⟨row, hrow, rfl⟩
      exact mem_update_self (find_eq_some.mp hrow)
  · rw [if_neg hid, find_eq_some]
    constructor
    · intro h
      obtain ⟨row, hrow, heq⟩ := mem_update h
      rw [if_neg hid] at heq
      rw [heq]
      exact hrow
    · intro h
      exact List.mem_map.mpr ⟨(id, row'), h, if_neg hid⟩

theorem find_delete (t : Table ρ) (k id : Int) :
    (t.delete fun rowId _ => rowId = k).find id = if id = k then none else t.find id := by
  refine Option.ext fun row => ?_
  rw [find_eq_some, delete, List.mem_filter]
  split
  · rename_i hid
    simp [hid]
  · rename_i hid
    simp [hid, find_eq_some]

/-- An update that changes nothing. -/
theorem find_update_eq_iff {t : Table ρ} {k : Int} {f : ρ → ρ} :
    (t.update k f).find k = t.find k ↔ ∀ row, t.find k = some row → f row = row := by
  rw [find_update, if_pos rfl]
  cases t.find k <;> simp

theorem find_lastId (t : Table ρ) : t.find (t.lastId + 1) = none := by
  refine Option.eq_none_iff_forall_ne_some.mpr fun row hrow => ?_
  have := t.le_lastId _ (find_eq_some.mp hrow)
  dsimp only at this
  omega

end Table

end StreamGateway
