import StreamGateway.ConnectionGauges
import StreamGateway.UnicodeTables

/-!
# Names in labels

The label of a stream is its name without the characters that a label may not have. They become
underscores, and the underscores at both ends are cut off. A stream without a name gets its id for
a label. Whether there is a name is asked before the underscores are cut off, so a name may leave
nothing for the label.
-/
namespace StreamGateway

/-! ## Versions of Unicode -/

/-- The tables of a version of Unicode, with what all versions have in common. -/
structure UnicodeVersion extends CharTables where
  ascii : ∀ c : Char, c.toNat < 128 → isAlphanumeric c = c.isAlphanum
  underscore : isWhitespace '_' = false
  apart : ∀ c, isWhitespace c = true → isAlphanumeric c = false

def unicode15 : UnicodeVersion where
  isWhitespace := Unicode15.isWhitespace
  isAlphanumeric := Unicode15.isAlphanumeric
  ascii _ := Unicode15.isAlphanumeric_ascii
  underscore := by decide +kernel
  apart _ := Unicode15.isAlphanumeric_of_isWhitespace

/-! ## Trimming -/

section Trimming

variable {p : Char → Bool} {cs : List Char}

theorem mem_of_mem_trimMatches {c : Char} (h : c ∈ trimMatches p cs) : c ∈ cs :=
  (List.dropWhile_sublist p).mem ((List.rdropWhile_prefix p _).mem h)

theorem mem_trimMatches_of_not {c : Char} (h : c ∈ cs) (hc : p c = false) :
    c ∈ trimMatches p cs := by
  rw [← List.takeWhile_append_dropWhile (p := p) (l := cs), List.mem_append] at h
  have hdrop : c ∈ cs.dropWhile p := h.resolve_left fun htake => by
    simp [List.mem_takeWhile_imp htake] at hc
  rw [← List.rdropWhile_append_rtakeWhile (p := p) (l := cs.dropWhile p), List.mem_append] at hdrop
  exact hdrop.resolve_right fun htake => by simp [List.mem_rtakeWhile_imp htake] at hc

theorem trimMatches_head {c : Char} (h : c ∈ (trimMatches p cs).head?) : p c = false := by
  obtain ⟨rest, hrest⟩ := List.head?_eq_some_iff.mp h
  obtain ⟨tail, htail⟩ := List.rdropWhile_prefix p (cs.dropWhile p)
  rw [← trimMatches, hrest] at htail
  have hhead := List.head?_dropWhile_not p cs
  rw [← htail] at hhead
  exact hhead

theorem trimMatches_getLast {c : Char} (h : c ∈ (trimMatches p cs).getLast?) : p c = false := by
  obtain ⟨hne, rfl⟩ := List.mem_getLast?_eq_getLast h
  exact Bool.eq_false_of_not_eq_true (List.rdropWhile_last_not p _ hne)

theorem trimMatches_eq_nil_iff : trimMatches p cs = [] ↔ ∀ c ∈ cs, p c = true := by
  constructor
  · intro h c hc
    by_contra hstays
    have hmem := mem_trimMatches_of_not hc (by simpa using hstays)
    rw [h] at hmem
    cases hmem
  · intro h
    rw [trimMatches, List.dropWhile_eq_nil_iff.mpr h, List.rdropWhile_nil]

/-- Nothing is cut off if both ends stay. -/
theorem trimMatches_eq_self (hfirst : ∀ c ∈ cs.head?, p c = false)
    (hlast : ∀ c ∈ cs.getLast?, p c = false) : trimMatches p cs = cs := by
  have hdrop : cs.dropWhile p = cs := by
    cases cs with
    | nil => rfl
    | cons c rest => exact List.dropWhile_cons_of_neg (by simp [hfirst c rfl])
  rw [trimMatches, hdrop, List.rdropWhile_eq_self_iff]
  intro hne
  rw [hlast _ (List.getLast?_eq_some_getLast hne)]
  exact Bool.false_ne_true

theorem trimMatches_idem : trimMatches p (trimMatches p cs) = trimMatches p cs :=
  trimMatches_eq_self (fun _ => trimMatches_head) fun _ => trimMatches_getLast

end Trimming

/-! ## Characters of a label -/

section Labels

variable {v : UnicodeVersion} {c : Char}

def UnicodeVersion.InLabel (v : UnicodeVersion) (c : Char) : Prop :=
  v.isAlphanumeric c = true ∨ c = '_'

theorem inLabel_labelChar (c : Char) : v.InLabel (labelChar v.toCharTables c) := by
  unfold labelChar
  split
  · exact .inr rfl
  · split
    · assumption
    · exact .inr rfl

theorem labelChar_of_inLabel (h : v.InLabel c) : labelChar v.toCharTables c = c := by
  have hplain : ¬ (c = ' ' ∨ c = '-') := by
    rintro (rfl | rfl) <;> rcases h with h | h
    · simp [v.ascii ' ' (by decide)] at h
    · simp at h
    · simp [v.ascii '-' (by decide)] at h
    · simp at h
  rw [labelChar, if_neg hplain]
  exact if_pos h

/-- Only what is not alphanumeric becomes an underscore. -/
theorem labelChar_eq_underscore_iff :
    labelChar v.toCharTables c = '_' ↔ v.isAlphanumeric c = false := by
  constructor
  · intro h
    by_contra halpha
    have halpha' : v.isAlphanumeric c = true := by simpa using halpha
    rw [labelChar_of_inLabel (.inl halpha')] at h
    rw [h, v.ascii '_' (by decide)] at halpha'
    cases halpha'
  · intro h
    unfold labelChar
    simp [h]

theorem not_isWhitespace_of_inLabel (h : v.InLabel c) : v.isWhitespace c = false := by
  rcases h with h | rfl
  · by_contra hspace
    rw [v.apart c (by simpa using hspace)] at h
    cases h
  · exact v.underscore

end Labels

/-! ## Normalized names -/

/-- The name has something that a label may have. -/
def UnicodeVersion.HasAlphanumeric (v : UnicodeVersion) (name : Option String) : Prop :=
  ∃ n ∈ name, ∃ c ∈ n.toList, v.isAlphanumeric c = true

/-- There is no name, or nothing but white space in it. -/
def UnicodeVersion.IsBlank (v : UnicodeVersion) (name : Option String) : Prop :=
  ∀ n ∈ name, ∀ c ∈ n.toList, v.isWhitespace c = true

section Names

variable {v : UnicodeVersion} {name : Option String} {n : String} {id : Int}

theorem normalizeStreamName_of_isBlank (h : v.IsBlank name) :
    normalizeStreamName v.toCharTables name id = "stream_" ++ toString id := by
  cases name with
  | none => rfl
  | some n => simp [normalizeStreamName, trimMatches_eq_nil_iff.mpr (h n rfl)]

theorem normalizeStreamName_of_trim (h : trimMatches v.isWhitespace n.toList ≠ []) :
    normalizeStreamName v.toCharTables (some n) id =
      String.ofList (trimMatches (· = '_')
        ((trimMatches v.isWhitespace n.toList).map (labelChar v.toCharTables))) := by
  obtain ⟨c, cs, hcs⟩ := List.exists_cons_of_ne_nil h
  simp only [normalizeStreamName, Option.map_some, hcs]

/-- A name that could be a label only loses the underscores at its ends. -/
theorem normalizeStreamName_of_inLabel (hne : n ≠ "") (h : ∀ c ∈ n.toList, v.InLabel c) :
    normalizeStreamName v.toCharTables (some n) id =
      String.ofList (trimMatches (· = '_') n.toList) := by
  have htrim : trimMatches v.isWhitespace n.toList = n.toList :=
    trimMatches_eq_self
      (fun c hc => not_isWhitespace_of_inLabel (h c (List.mem_of_mem_head? hc)))
      (fun c hc => not_isWhitespace_of_inLabel (h c (List.mem_of_getLast? hc)))
  have hmap : n.toList.map (labelChar v.toCharTables) = n.toList :=
    (List.map_congr_left fun c hc => labelChar_of_inLabel (h c hc)).trans (List.map_id _)
  rw [normalizeStreamName_of_trim (by rwa [htrim, ne_eq, String.toList_eq_nil_iff]), htrim, hmap]

/-- A name without alphanumeric characters that is not blank leaves nothing. -/
theorem normalizeStreamName_eq_empty (halpha : ¬ v.HasAlphanumeric name)
    (hblank : ¬ v.IsBlank name) : normalizeStreamName v.toCharTables name id = "" := by
  cases name with
  | none => exact absurd (fun _ hn => nomatch hn) hblank
  | some n =>
    have htrim : trimMatches v.isWhitespace n.toList ≠ [] := fun hnil =>
      hblank fun _ hn => Option.some_inj.mp hn ▸ trimMatches_eq_nil_iff.mp hnil
    have hcut : trimMatches (· = '_')
        ((trimMatches v.isWhitespace n.toList).map (labelChar v.toCharTables)) = [] := by
      rw [trimMatches_eq_nil_iff]
      intro d hd
      obtain ⟨c, hc, rfl⟩ := List.mem_map.mp hd
      rw [decide_eq_true_iff, labelChar_eq_underscore_iff]
      by_contra hc'
      exact halpha ⟨n, rfl, c, mem_of_mem_trimMatches hc, by simpa using hc'⟩
    rw [normalizeStreamName_of_trim htrim, hcut, String.ofList_nil]

/-- An id that is not negative is written with digits. -/
theorem toList_idLabel (k : ℕ) :
    ("stream_" ++ toString (k : ℤ)).toList = "stream_".toList ++ Nat.toDigits 10 k := by
  rw [String.toList_append]
  exact congrArg ("stream_".toList ++ ·) Nat.toList_repr

theorem inLabel_of_isDigit {c : Char} (h : c.isDigit = true) : v.InLabel c := by
  refine .inl ?_
  rw [v.ascii c ?_, Char.isAlphanum, h, Bool.or_true]
  simp only [Char.isDigit, Bool.and_eq_true, decide_eq_true_eq, UInt32.le_iff_toNat_le] at h
  exact lt_of_le_of_lt h.2 (by decide)

theorem inLabel_idLabel (k : ℕ) {c : Char} (hc : c ∈ ("stream_" ++ toString (k : ℤ)).toList) :
    v.InLabel c := by
  rw [toList_idLabel, List.mem_append] at hc
  rcases hc with hc | hc
  · have hword : "stream_".toList.all fun c => c = '_' ∨ c.toNat < 128 ∧ c.isAlphanum = true := by
      decide
    rcases of_decide_eq_true (List.all_eq_true.mp hword c hc) with rfl | ⟨hascii, halpha⟩
    · exact .inr rfl
    · exact .inl ((v.ascii c hascii).trans halpha)
  · exact inLabel_of_isDigit (Nat.isDigit_of_mem_toDigits (by decide) (by decide) hc)

theorem trimMatches_idLabel (k : ℕ) :
    trimMatches (· = '_') ("stream_" ++ toString (k : ℤ)).toList =
      ("stream_" ++ toString (k : ℤ)).toList := by
  rw [toList_idLabel]
  refine trimMatches_eq_self ?_ ?_
  · rintro c ⟨⟩
    decide
  · intro c hc
    rw [List.getLast?_append_of_ne_nil _ Nat.toDigits_ne_nil] at hc
    have hdigit := Nat.isDigit_of_mem_toDigits (by decide) (by decide) (List.mem_of_getLast? hc)
    refine decide_eq_false ?_
    rintro rfl
    cases hdigit

end Names

/-! ## Usable labels -/

/-- The label is not empty, has only characters of a label, and is its own label. -/
structure UnicodeVersion.Usable (v : UnicodeVersion) (name : Option String) (id : Int) : Prop where
  nonempty : normalizeStreamName v.toCharTables name id ≠ ""
  inLabel : ∀ c ∈ (normalizeStreamName v.toCharTables name id).toList,
    v.isAlphanumeric c = true ∨ c = '_'
  idempotent : normalizeStreamName v.toCharTables
      (some (normalizeStreamName v.toCharTables name id)) id =
    normalizeStreamName v.toCharTables name id

section Usable

variable {v : UnicodeVersion} {name : Option String} {id : Int}

theorem usable_of_label {cs : List Char}
    (hlabel : normalizeStreamName v.toCharTables name id = String.ofList cs) (hne : cs ≠ [])
    (hin : ∀ c ∈ cs, v.InLabel c) (htrim : trimMatches (· = '_') cs = cs) :
    v.Usable name id where
  nonempty := by rwa [hlabel, ne_eq, String.ofList_eq_empty_iff]
  inLabel := by rwa [hlabel, String.toList_ofList]
  idempotent := by
    have hne' : String.ofList cs ≠ "" := by rwa [ne_eq, String.ofList_eq_empty_iff]
    rw [hlabel, normalizeStreamName_of_inLabel hne' (by rwa [String.toList_ofList]),
      String.toList_ofList, htrim]

theorem usable_of_hasAlphanumeric (h : v.HasAlphanumeric name) : v.Usable name id := by
  obtain ⟨n, rfl, c, hc, halpha⟩ := h
  have hkept : c ∈ trimMatches v.isWhitespace n.toList :=
    mem_trimMatches_of_not hc (not_isWhitespace_of_inLabel (.inl halpha))
  have hchar : labelChar v.toCharTables c ≠ '_' := by
    rw [ne_eq, labelChar_eq_underscore_iff, halpha]
    exact Bool.true_eq_false.mp
  refine usable_of_label (normalizeStreamName_of_trim (List.ne_nil_of_mem hkept)) ?_ ?_
    trimMatches_idem
  · have hmem := mem_trimMatches_of_not (p := (· = '_')) (List.mem_map_of_mem hkept)
      (decide_eq_false hchar)
    exact List.ne_nil_of_mem hmem
  · intro d hd
    obtain ⟨c', -, rfl⟩ := List.mem_map.mp (mem_of_mem_trimMatches hd)
    exact inLabel_labelChar c'

theorem usable_of_isBlank (h : v.IsBlank name) (hid : 0 ≤ id) : v.Usable name id := by
  obtain ⟨k, rfl⟩ := Int.eq_ofNat_of_zero_le hid
  have hlabel : normalizeStreamName v.toCharTables name k =
      String.ofList ("stream_" ++ toString (k : ℤ)).toList := by
    rw [String.ofList_toList, normalizeStreamName_of_isBlank h]
  refine usable_of_label hlabel ?_ (fun c => inLabel_idLabel k) (trimMatches_idLabel k)
  rw [toList_idLabel]
  exact List.cons_ne_nil _ _

/-- The minus sign of an id is no character of a label. -/
theorem nonneg_of_usable (h : v.IsBlank name) (husable : v.Usable name id) : 0 ≤ id := by
  cases id with
  | ofNat k => exact Int.natCast_nonneg k
  | negSucc k =>
    have hsign : '-' ∈ ("stream_" ++ toString (Int.negSucc k)).toList := by
      have hid : toString (Int.negSucc k) = "-" ++ toString (k + 1) := rfl
      rw [hid, String.toList_append, String.toList_append]
      exact List.mem_append_right _ List.mem_cons_self
    rw [← normalizeStreamName_of_isBlank h] at hsign
    rcases husable.inLabel '-' hsign with halpha | hsame
    · rw [v.ascii '-' (by decide)] at halpha
      cases halpha
    · cases hsame

end Usable

/-- A label is usable if and only if the name has an alphanumeric character, or is blank and the
id is not negative. -/
theorem normalizeStreamName_usable_iff (v : UnicodeVersion) (name : Option String) (id : Int) :
    v.Usable name id ↔ v.HasAlphanumeric name ∨ v.IsBlank name ∧ 0 ≤ id := by
  constructor
  · intro husable
    by_cases halpha : v.HasAlphanumeric name
    · exact .inl halpha
    by_cases hblank : v.IsBlank name
    · exact .inr ⟨hblank, nonneg_of_usable hblank husable⟩
    exact absurd (normalizeStreamName_eq_empty halpha hblank) husable.nonempty
  · rintro (halpha | ⟨hblank, hid⟩)
    · exact usable_of_hasAlphanumeric halpha
    · exact usable_of_isBlank hblank hid

/-- The stream with the id 1 and the name `---` has no label. -/
theorem dashes_unusable : ¬ ∀ (v : UnicodeVersion) (name : Option String) (id : Int),
    v.Usable name id := by
  intro h
  exact (h unicode15 (some "---") 1).nonempty (by decide +kernel)

end StreamGateway
