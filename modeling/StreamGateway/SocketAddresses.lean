import Mathlib.Data.List.TakeWhile
import StreamGateway.Text

/-!
# Hosts in socket addresses

A socket is bound to the text of a host, a colon and a port, which is parsed as a socket
address. An IPv4 address stops at the colon by itself. An IPv6 address has colons of its own
and would need brackets around it, which the formatter does not write.
-/
namespace StreamGateway

namespace Reader

/-! ## Readers that stop at a character -/

/-- The reader does not take the character, so the character ends its input as well as the end
does. -/
structure StopsAt {α : Type} (c : Char) (r : Reader α) : Prop where
  take : ∀ {s a rest}, r s = some (a, rest) → ∃ taken, s = taken ++ rest ∧ c ∉ taken
  append : ∀ {s a rest}, r s = some (a, rest) → ∀ t, r (s ++ c :: t) = some (a, rest ++ c :: t)

section StopsAt
variable {α β : Type} {c : Char}

theorem bind_eq_some {r : Reader α} {f : α → Reader β} {s rest : List Char} {b : β} :
    (r >>= f) s = some (b, rest) ↔ ∃ a mid, r s = some (a, mid) ∧ f a mid = some (b, rest) := by
  simp only [bind, StateT.bind, Option.bind_eq_some_iff, Prod.exists]

theorem StopsAt.pure (a : α) : StopsAt c (Pure.pure a : Reader α) where
  take h := by
    obtain ⟨rfl, rfl⟩ := Prod.mk.inj (Option.some.inj h)
    exact ⟨[], rfl, List.not_mem_nil⟩
  append h _ := by
    obtain ⟨rfl, rfl⟩ := Prod.mk.inj (Option.some.inj h)
    rfl

theorem StopsAt.bind {r : Reader α} {f : α → Reader β} (hr : StopsAt c r)
    (hf : ∀ a, StopsAt c (f a)) : StopsAt c (r >>= f) where
  take h := by
    obtain ⟨a, mid, hmid, hrest⟩ := bind_eq_some.mp h
    obtain ⟨taken, rfl, htaken⟩ := hr.take hmid
    obtain ⟨taken', rfl, htaken'⟩ := (hf a).take hrest
    refine ⟨taken ++ taken', by rw [List.append_assoc], fun hc => ?_⟩
    exact (List.mem_append.mp hc).elim htaken htaken'
  append h t := by
    obtain ⟨a, mid, hmid, hrest⟩ := bind_eq_some.mp h
    exact bind_eq_some.mpr ⟨a, _, hr.append hmid t, (hf a).append hrest t⟩

theorem StopsAt.mapM {γ : Type} {f : γ → Reader α} (hf : ∀ i, StopsAt c (f i)) (l : List γ) :
    StopsAt c (l.mapM f) := by
  induction l with
  | nil => exact .pure []
  | cons i l ih =>
    rw [List.mapM_cons]
    exact (hf i).bind fun a => ih.bind fun as => .pure (a :: as)

theorem stopsAt_readGivenChar {target : Char} (h : target ≠ c) :
    StopsAt c (readGivenChar target) where
  take {s a rest} hr := by
    cases s with
    | nil => exact absurd hr (by simp [readGivenChar])
    | cons d s =>
      simp only [readGivenChar, Option.ite_none_right_eq_some, Option.some.injEq,
        Prod.mk.injEq] at hr
      obtain ⟨rfl, _, rfl⟩ := hr
      exact ⟨[d], rfl, fun hc => h (List.mem_singleton.mp hc).symm⟩
  append {s a rest} hr t := by
    cases s with
    | nil => exact absurd hr (by simp [readGivenChar])
    | cons d s =>
      simp only [readGivenChar, Option.ite_none_right_eq_some, Option.some.injEq,
        Prod.mk.injEq] at hr
      obtain ⟨rfl, _, rfl⟩ := hr
      simp [readGivenChar]

theorem takeWhile_append_cons {γ : Type} {p : γ → Bool} {x : γ} (h : p x = false)
    (s t : List γ) : (s ++ x :: t).takeWhile p = s.takeWhile p := by
  induction s with
  | nil => simp [h]
  | cons y s ih => simp [List.takeWhile_cons, ih]

theorem stopsAt_readNumber {radix bound : ℕ} {maxDigits : Option ℕ} {allowZeroPrefix : Bool}
    (h : toDigit radix c = none) :
    StopsAt c (readNumber radix bound maxDigits allowZeroPrefix) where
  take {s a rest} hr := by
    simp only [readNumber] at hr
    generalize hdigits : (s.takeWhile fun c => (toDigit radix c).isSome).filterMap
      (toDigit radix) = digits at hr
    split_ifs at hr
    obtain ⟨_, rfl⟩ := Prod.mk.inj (Option.some.inj hr)
    refine ⟨s.take digits.length, (List.take_append_drop _ s).symm, fun hc => ?_⟩
    -- The digits are at the front of the run of digits.
    have hle : digits.length ≤ (s.takeWhile fun c => (toDigit radix c).isSome).length :=
      hdigits ▸ List.length_filterMap_le ..
    have hfront : s.take digits.length <+: s.takeWhile fun c => (toDigit radix c).isSome := by
      refine List.prefix_of_prefix_length_le (List.take_prefix _ s) (List.takeWhile_prefix _) ?_
      exact le_trans (List.length_take_le _ s) hle
    have hdigit := List.mem_takeWhile_imp (hfront.subset hc)
    simp [h] at hdigit
  append {s a rest} hr t := by
    simp only [readNumber] at hr ⊢
    rw [takeWhile_append_cons (by simp [h])]
    have hle : ((s.takeWhile fun c => (toDigit radix c).isSome).filterMap
        (toDigit radix)).length ≤ s.length :=
      le_trans (List.length_filterMap_le ..) (List.takeWhile_prefix _).length_le
    generalize (s.takeWhile fun c => (toDigit radix c).isSome).filterMap
      (toDigit radix) = digits at hr hle ⊢
    split_ifs at hr ⊢
    obtain ⟨rfl, rfl⟩ := Prod.mk.inj (Option.some.inj hr)
    rw [List.drop_append_of_le_length hle]

theorem StopsAt.readSeparator {sep : Char} {index : ℕ} {inner : Reader α} (hsep : sep ≠ c)
    (h : StopsAt c inner) : StopsAt c (readSeparator sep index inner) := by
  unfold Reader.readSeparator
  split
  · exact (stopsAt_readGivenChar hsep).bind fun _ => h
  · exact (StopsAt.pure ()).bind fun _ => h

end StopsAt

theorem stopsAt_readIpv4Addr : StopsAt ':' readIpv4Addr :=
  .mapM (fun _ => .readSeparator (by decide) (stopsAt_readNumber (by decide))) _

/-! ## Ports -/

theorem toDigit_of_isDigit {c : Char} (h : c.isDigit = true) :
    toDigit 10 c = some (c.toNat - '0'.toNat) := by
  obtain ⟨_, hhi⟩ := Char.isDigit_iff_toNat.mp h
  have hlt : c.toNat - '0'.toNat < 10 := by
    have h0 : '0'.toNat = 48 := rfl
    have h9 : '9'.toNat = 57 := rfl
    omega
  simp only [toDigit, h, if_true, if_pos hlt]

theorem readNumber_toDigits {n bound : ℕ} (h : n < bound) :
    readNumber 10 bound none true (Nat.toDigits 10 n) = some (n, []) := by
  have hdigit : ∀ c ∈ Nat.toDigits 10 n, toDigit 10 c = some (c.toNat - '0'.toNat) :=
    fun c hc => toDigit_of_isDigit (Nat.isDigit_of_mem_toDigits (by decide) (by decide) hc)
  have htake : (Nat.toDigits 10 n).takeWhile (fun c => (toDigit 10 c).isSome) =
      Nat.toDigits 10 n :=
    List.takeWhile_eq_self_iff.mpr fun c hc => by simp [hdigit c hc]
  have hmap : (Nat.toDigits 10 n).filterMap (toDigit 10) =
      (Nat.toDigits 10 n).map fun c => c.toNat - '0'.toNat := by
    rw [← List.filterMap_eq_map]
    exact List.filterMap_congr hdigit
  have hvalue : ((Nat.toDigits 10 n).map fun c => c.toNat - '0'.toNat).foldl
      (fun n d => n * 10 + d) 0 = n := by
    rw [List.foldl_map]
    simpa only [Nat.ofDigitChars, Nat.mul_comm] using
      @Nat.ofDigitChars_ten_toDigits n
  simp only [readNumber, htake, hmap, hvalue, h, if_true]
  simp [Nat.toDigits_ne_nil]

theorem readPort_toString (port : UInt16) :
    readPort (':' :: (toString port).toList) = some (port.toNat, []) := by
  have hl : (toString port).toList = Nat.toDigits 10 port.toNat := Nat.toList_repr
  rw [hl]
  exact readNumber_toDigits port.toNat_lt

theorem stopsAt_readPort_number : StopsAt ':' (readNumber 10 65536 none true) :=
  stopsAt_readNumber (by decide)

/-- A port that takes the rest of the input has the last colon before it. -/
theorem colon_notMem_of_readPort {s : List Char} {n : ℕ} (h : readPort s = some (n, [])) :
    ∃ digits, s = ':' :: digits ∧ ':' ∉ digits := by
  obtain ⟨_, mid, hmid, hrest⟩ := bind_eq_some.mp h
  obtain ⟨digits, hdigits, hc⟩ := stopsAt_readPort_number.take hrest
  rw [List.append_nil] at hdigits
  subst hdigits
  cases s with
  | nil => exact absurd hmid (by simp [readGivenChar])
  | cons d s =>
    simp only [readGivenChar, Option.ite_none_right_eq_some, Option.some.injEq,
      Prod.mk.injEq] at hmid
    obtain ⟨rfl, _, rfl⟩ := hmid
    exact ⟨s, rfl, hc⟩

/-! ## IPv6 addresses -/

theorem readGivenChar_of_notMem {c : Char} {s : List Char} (h : c ∉ s) :
    readGivenChar c s = none := by
  cases s with
  | nil => rfl
  | cons d s => exact if_neg fun he : d = c => h (he ▸ List.mem_cons_self)

theorem readSeparator_of_notMem {α : Type} {inner : Reader α} {i : ℕ} {s : List Char}
    (h : ':' ∉ s) : readSeparator ':' (i + 1) inner s = none := by
  show (readGivenChar ':' >>= fun _ => inner) s = none
  simp only [bind, StateT.bind, readGivenChar_of_notMem h, Option.bind_none]

theorem readSeparator_zero {α : Type} (inner : Reader α) (s : List Char) :
    readSeparator ':' 0 inner s = inner s := rfl

theorem readGroups_of_notMem {limit todo i : ℕ} {s : List Char} (h : ':' ∉ s) :
    readGroups limit todo (i + 1) s = (([], false), s) := by
  cases todo with
  | zero => rfl
  | succ todo => simp [readGroups, readSeparator_of_notMem h]

/-- Without a colon there is one group, or an embedded IPv4 address. -/
theorem readGroups_zero_of_notMem {s : List Char} (h : ':' ∉ s) :
    (readGroups 8 8 0 s).1.1.length ≤ 2 ∧ ':' ∉ (readGroups 8 8 0 s).2 := by
  have hrest : ∀ {α : Type} {r : Reader α} {a : α} {rest : List Char}, StopsAt ':' r →
      r s = some (a, rest) → ':' ∉ rest := by
    intro α r a rest hr hs hc
    obtain ⟨taken, rfl, _⟩ := hr.take hs
    exact h (List.mem_append_right taken hc)
  unfold readGroups
  simp only [readSeparator_zero]
  split
  · rename_i hs
    exact ⟨le_refl 2, hrest stopsAt_readIpv4Addr (by simpa using hs)⟩
  · split
    · rename_i hs
      have hmid := hrest (stopsAt_readNumber (by decide)) hs
      simp [readGroups_of_notMem hmid, hmid]
    · exact ⟨Nat.zero_le 2, h⟩

theorem colon_mem_of_readIpv6Addr {s rest : List Char} {groups : List ℕ}
    (h : readIpv6Addr s = some (groups, rest)) : ':' ∈ s := by
  by_contra hs
  obtain ⟨hlength, hrest⟩ := readGroups_zero_of_notMem hs
  have hne : (readGroups 8 8 0 s).1.1.length ≠ 8 := by omega
  simp only [readIpv6Addr, readGivenChar_of_notMem hrest, if_neg hne] at h
  split_ifs at h <;> exact absurd h (by simp)

/-! ## Hosts -/

theorem readIpAddr_bracket (s : List Char) : readIpAddr ('[' :: s) = none := by
  have hnumber : ∀ {radix bound : ℕ} {maxDigits : Option ℕ} {zero : Bool},
      toDigit radix '[' = none → readNumber radix bound maxDigits zero ('[' :: s) = none := by
    intro radix bound maxDigits zero h
    simp [readNumber, h]
  have hv4 : readIpv4Addr ('[' :: s) = none := by
    show (readNumber 10 256 (some 3) false >>= _) ('[' :: s) = none
    simp only [bind, StateT.bind, hnumber (show toDigit 10 '[' = none by decide), Option.bind_none]
  have hgroups : readGroups 8 8 0 ('[' :: s) = (([], false), '[' :: s) := by
    unfold readGroups
    simp only [readSeparator_zero, hv4, hnumber (show toDigit 16 '[' = none by decide)]
    rfl
  have hv6 : readIpv6Addr ('[' :: s) = none := by
    simp [readIpv6Addr, hgroups, readGivenChar]
  simp [readIpAddr, hv4, hv6]

end Reader

open Reader

theorem parseWith_isSome {α : Type} {inner : Reader α} {s : String} :
    (parseWith inner s).isSome ↔ ∃ a, inner s.toList = some (a, []) := by
  unfold parseWith
  split
  · rename_i a h
    simp [h]
  · rename_i h
    exact ⟨fun hs => absurd hs (by simp), fun ⟨a, ha⟩ => absurd ha (h a)⟩

/-- The text is an IPv4 address. -/
theorem parseIpAddr_v4 {host : String} (h : (parseIpAddr host).isSome) (hc : ':' ∉ host.toList) :
    ∃ octets, readIpv4Addr host.toList = some (octets, []) := by
  obtain ⟨ip, hip⟩ := parseWith_isSome.mp h
  unfold readIpAddr at hip
  cases hv4 : readIpv4Addr host.toList with
  | some r =>
    obtain ⟨octets, rest⟩ := r
    rw [hv4] at hip
    obtain ⟨_, rfl⟩ := Prod.mk.inj (Option.some.inj hip)
    exact ⟨octets, rfl⟩
  | none =>
    rw [hv4] at hip
    obtain ⟨r, hv6, _⟩ := Option.map_eq_some_iff.mp hip
    exact absurd (colon_mem_of_readIpv6Addr hv6) hc

/-- What an IPv4 socket address has before its port has no colon. -/
theorem colon_notMem_of_readSocketAddrV4 {host : String} {port : UInt16} {addr : IpAddr × ℕ}
    (h : readSocketAddrV4 (hostPort host port).toList = some (addr, [])) :
    ':' ∉ host.toList := by
  obtain ⟨octets, mid, hip, h⟩ := bind_eq_some.mp h
  obtain ⟨n, rest, hport, h⟩ := bind_eq_some.mp h
  obtain ⟨_, rfl⟩ := Prod.mk.inj (Option.some.inj h)
  obtain ⟨taken, htext, htaken⟩ := stopsAt_readIpv4Addr.take hip
  obtain ⟨digits, rfl, hdigits⟩ := colon_notMem_of_readPort hport
  rw [hostPort_toList] at htext
  -- The text has one colon, the one before the port.
  have hcount := congrArg (List.count ':') htext
  simp only [List.count_append, List.count_cons_self, List.count_eq_zero_of_not_mem htaken,
    List.count_eq_zero_of_not_mem hdigits,
    List.count_eq_zero_of_not_mem (colon_notMem_port port)] at hcount
  exact List.count_eq_zero.mp (by omega)

theorem readSocketAddrV6_of_ne {c : Char} {s : List Char} (h : c ≠ '[') :
    readSocketAddrV6 (c :: s) = none := by
  show (readGivenChar '[' >>= _) (c :: s) = none
  simp only [bind, StateT.bind, readGivenChar, if_neg h, Option.bind_none]

/-- An address without brackets makes a socket address when it has no colons. -/
theorem parseSocketAddr_hostPort_iff {host : String} (h : (parseIpAddr host).isSome)
    (port : UInt16) : (parseSocketAddr (hostPort host port)).isSome ↔ ':' ∉ host.toList := by
  unfold parseSocketAddr
  rw [parseWith_isSome]
  constructor
  · rintro ⟨addr, haddr⟩
    unfold readSocketAddr at haddr
    cases hv4 : readSocketAddrV4 (hostPort host port).toList with
    | some r =>
      rw [hv4] at haddr
      obtain rfl := Option.some.inj haddr
      exact colon_notMem_of_readSocketAddrV4 hv4
    | none =>
      rw [hv4] at haddr
      -- Only a bracket can start the other form, and no address starts with one.
      obtain ⟨ip, hip⟩ := parseWith_isSome.mp h
      rw [hostPort_toList] at haddr
      cases hl : host.toList with
      | nil => exact List.not_mem_nil
      | cons c s =>
        rw [hl] at hip haddr
        have hne : c ≠ '[' := by
          rintro rfl
          exact absurd hip (by simp [readIpAddr_bracket])
        exact absurd haddr (by simp [readSocketAddrV6_of_ne hne])
  · intro hc
    obtain ⟨octets, hoctets⟩ := parseIpAddr_v4 h hc
    have hv4 : readSocketAddrV4 (hostPort host port).toList =
        some ((.v4 octets, port.toNat), []) := by
      rw [hostPort_toList]
      refine bind_eq_some.mpr ⟨octets, _, stopsAt_readIpv4Addr.append hoctets _, ?_⟩
      exact bind_eq_some.mpr ⟨port.toNat, [], readPort_toString port, rfl⟩
    exact ⟨(.v4 octets, port.toNat), by simp [readSocketAddr, hv4]⟩

theorem parseSocketAddr_hostPort_empty (port : UInt16) :
    parseSocketAddr (hostPort "" port) = none := by
  have h : (hostPort "" port).toList = ':' :: (toString port).toList := hostPort_toList "" port
  have hip : readIpv4Addr (':' :: (toString port).toList) = none := by
    show (readNumber 10 256 (some 3) false >>= _) _ = none
    simp [bind, StateT.bind, readNumber, show toDigit 10 ':' = none by decide]
  have hv4 : readSocketAddrV4 (':' :: (toString port).toList) = none := by
    show (readIpv4Addr >>= _) _ = none
    simp only [bind, StateT.bind, hip, Option.bind_none]
  simp [parseSocketAddr, parseWith, h, readSocketAddr, hv4, readSocketAddrV6_of_ne]

end StreamGateway
