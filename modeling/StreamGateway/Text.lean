import Mathlib.Data.List.Basic
import Mathlib.Tactic.SplitIfs

/-!
# Addresses as text

Hosts, ports and socket addresses travel through the program as strings. This module
has the parts of the standard library that take them apart: splitting at colons, the
decimal parser of `u16`, and the address parser behind `str::parse::<IpAddr>` and
`str::parse::<SocketAddr>`, which reads its input from the left and must use all of it.
-/
namespace StreamGateway

/-- `s.split(':')`. -/
def splitColon (s : String) : List String :=
  (s.toList.splitOn ':').map String.ofList

/-- `s.split(':').next()`, the part before the first colon. -/
def hostPart (s : String) : Option String :=
  (splitColon s).head?

/-- The digits of `str::parse::<u16>` are all decimal and at least one. -/
def parseDigits (cs : List Char) : Option UInt16 :=
  let n := Nat.ofDigitChars 10 cs 0
  if cs ≠ [] ∧ cs.all Char.isDigit ∧ n < UInt16.size then some (UInt16.ofNat n) else none

/-- `s.parse::<u16>().ok()`, with the one leading plus sign that it allows. -/
def parseU16 (s : String) : Option UInt16 :=
  match s.toList with
  | '+' :: cs => parseDigits cs
  | cs => parseDigits cs

/-- `s.split(':').nth(1).and_then(|s| s.parse().ok())`. -/
def portPart (s : String) : Option UInt16 :=
  (splitColon s)[1]?.bind parseU16

/-- `format!("{}:{}", host, port)`. -/
def hostPort (host : String) (port : UInt16) : String :=
  host ++ ":" ++ toString port

/-! ## The address parser -/

/-- An IPv4 address as its four octets or an IPv6 address as its eight groups. -/
inductive IpAddr
  | v4 (octets : List ℕ)
  | v6 (groups : List ℕ)
  deriving DecidableEq, Repr

/-- `IpAddr::is_multicast`: 224.0.0.0/4 and ff00::/8. -/
def IpAddr.isMulticast : IpAddr → Bool
  | .v4 octets => 224 ≤ octets.headD 0 ∧ octets.headD 0 ≤ 239
  | .v6 groups => groups.headD 0 / 256 = 255

/-- A reader takes what it can from the front of the input. A reader that fails leaves the
input as it was. -/
abbrev Reader := StateT (List Char) Option

namespace Reader

def readGivenChar (target : Char) : Reader Unit
  | c :: s => if c = target then some ((), s) else none
  | [] => none

/-- `c.to_digit(radix)` for the radixes 10 and 16. -/
def toDigit (radix : ℕ) (c : Char) : Option ℕ :=
  let d := if c.isDigit then c.toNat - '0'.toNat
    else if 'a' ≤ c ∧ c ≤ 'f' then c.toNat - 'a'.toNat + 10
    else if 'A' ≤ c ∧ c ≤ 'F' then c.toNat - 'A'.toNat + 10
    else radix
  if d < radix then some d else none

/-- The longest run of digits, which must not be empty, not be longer than `maxDigits` and
not reach `bound`. -/
def readNumber (radix bound : ℕ) (maxDigits : Option ℕ) (allowZeroPrefix : Bool) : Reader ℕ :=
  fun s =>
    let digits := (s.takeWhile fun c => (toDigit radix c).isSome).filterMap (toDigit radix)
    let n := digits.foldl (fun n d => n * radix + d) 0
    if digits = [] then none
    else if maxDigits.any (· < digits.length) then none
    else if !allowZeroPrefix && digits.head? == some 0 && 1 < digits.length then none
    else if n < bound then some (n, s.drop digits.length)
    else none

/-- Every element but the first comes behind the separator. -/
def readSeparator {α : Type} (sep : Char) (index : ℕ) (inner : Reader α) : Reader α := do
  if 0 < index then readGivenChar sep
  inner

def readIpv4Addr : Reader (List ℕ) :=
  (List.range 4).mapM fun i => readSeparator '.' i (readNumber 10 256 (some 3) false)

/-- Reads up to `limit` groups from index `i` on and gives them together with whether the
last two are an embedded IPv4 address. -/
def readGroups (limit : ℕ) : ℕ → ℕ → List Char → (List ℕ × Bool) × List Char
  | 0, _, s => (([], false), s)
  | todo + 1, i, s =>
    match if i + 1 < limit then readSeparator ':' i readIpv4Addr s else none with
    | some ([a, b, c, d], s) => (([a * 256 + b, c * 256 + d], true), s)
    | _ =>
      match readSeparator ':' i (readNumber 16 65536 (some 4) true) s with
      | some (g, s) =>
        let ((gs, v4), s) := readGroups limit todo (i + 1) s
        ((g :: gs, v4), s)
      | none => (([], false), s)

/-- All eight groups, or a head and a tail around a `::` that stands for at least one group
of zeros. -/
def readIpv6Addr : Reader (List ℕ) := fun s => do
  let ((head, headIpv4), s) := readGroups 8 8 0 s
  if head.length = 8 then return (head, s)
  if headIpv4 then none
  let ((), s) ← readGivenChar ':' s
  let ((), s) ← readGivenChar ':' s
  let limit := 8 - (head.length + 1)
  let ((tail, _), s) := readGroups limit limit 0 s
  return (head ++ List.replicate (8 - head.length - tail.length) 0 ++ tail, s)

def readIpAddr : Reader IpAddr := fun s =>
  (readIpv4Addr s).map (fun r => (IpAddr.v4 r.1, r.2)) <|>
    (readIpv6Addr s).map (fun r => (IpAddr.v6 r.1, r.2))

def readPort : Reader ℕ := do
  readGivenChar ':'
  readNumber 10 65536 none true

def readScopeId : Reader ℕ := do
  readGivenChar '%'
  readNumber 10 4294967296 none true

def readSocketAddrV4 : Reader (IpAddr × ℕ) := do
  let ip ← readIpv4Addr
  let port ← readPort
  return (.v4 ip, port)

def readSocketAddrV6 : Reader (IpAddr × ℕ) := do
  readGivenChar '['
  let ip ← readIpv6Addr
  let _ ← optional readScopeId
  readGivenChar ']'
  let port ← readPort
  return (.v6 ip, port)

def readSocketAddr : Reader (IpAddr × ℕ) := fun s =>
  readSocketAddrV4 s <|> readSocketAddrV6 s

/-- The reader must use the whole input. -/
def parseWith {α : Type} (inner : Reader α) (s : String) : Option α :=
  match inner s.toList with
  | some (a, []) => some a
  | _ => none

end Reader

/-- `s.parse::<IpAddr>().ok()`. -/
def parseIpAddr (s : String) : Option IpAddr :=
  Reader.parseWith Reader.readIpAddr s

/-- `s.parse::<SocketAddr>().ok()`. -/
def parseSocketAddr (s : String) : Option (IpAddr × ℕ) :=
  Reader.parseWith Reader.readSocketAddr s

example : parseIpAddr "::ffff:1.2.3.4" =
    some (.v6 [0, 0, 0, 0, 0, 0xFFFF, 0x0102, 0x0304]) := by decide +kernel
example : parseSocketAddr "[fe80::1%2]:80" = some (.v6 [0xFE80, 0, 0, 0, 0, 0, 0, 1], 80) := by
  decide +kernel

/-! ## Splitting what was formatted -/

theorem splitOn_append_cons {a : Char} {xs : List Char} (h : a ∉ xs) (ys : List Char) :
    (xs ++ a :: ys).splitOn a = xs :: ys.splitOn a := by
  induction xs with
  | nil => simp [List.splitOn, List.splitOnP_cons_eq_if_modifyHead]
  | cons x xs ih =>
    obtain ⟨hx, hxs⟩ := List.ne_and_not_mem_of_not_mem_cons h
    have hne : (x == a) = false := beq_eq_false_iff_ne.mpr (Ne.symm hx)
    have ih' := ih hxs
    simp only [List.splitOn] at ih' ⊢
    rw [List.cons_append, List.splitOnP_cons_eq_if_modifyHead, hne, ih']
    rfl

theorem splitOn_of_notMem {a : Char} {xs : List Char} (h : a ∉ xs) : xs.splitOn a = [xs] := by
  refine List.splitOnP_eq_singleton fun x hx => ?_
  exact beq_eq_false_iff_ne.mpr fun he => h (he ▸ hx)

theorem colon_notMem_port (port : UInt16) : ':' ∉ (toString port).toList := by
  intro h
  have hd : ':' ∈ Nat.toDigits 10 port.toNat := by
    rw [← Nat.toList_repr]
    exact h
  exact absurd (Nat.isDigit_of_mem_toDigits (by decide) (by decide) hd) (by decide)

theorem hostPort_toList (host : String) (port : UInt16) :
    (hostPort host port).toList = host.toList ++ ':' :: (toString port).toList := by
  simp [hostPort, String.toList_append]

theorem splitColon_hostPort {host : String} (h : ':' ∉ host.toList) (port : UInt16) :
    splitColon (hostPort host port) = [host, toString port] := by
  rw [splitColon, hostPort_toList, splitOn_append_cons h,
    splitOn_of_notMem (colon_notMem_port port)]
  simp [String.ofList_toList]

theorem hostPart_hostPort {host : String} (h : ':' ∉ host.toList) (port : UInt16) :
    hostPart (hostPort host port) = some host := by
  rw [hostPart, splitColon_hostPort h]
  rfl

theorem parseU16_toString (port : UInt16) : parseU16 (toString port) = some port := by
  have hl : (toString port).toList = Nat.toDigits 10 port.toNat := Nat.toList_repr
  have hdigits : ∀ c ∈ Nat.toDigits 10 port.toNat, c.isDigit = true := fun c hc =>
    Nat.isDigit_of_mem_toDigits (by decide) (by decide) hc
  have hparse : parseDigits (Nat.toDigits 10 port.toNat) = some port := by
    have hlt : port.toNat < UInt16.size := port.toNat_lt
    simp [parseDigits, Nat.ofDigitChars_ten_toDigits, Nat.toDigits_ne_nil,
      List.all_eq_true.mpr hdigits, hlt]
  unfold parseU16
  rw [hl]
  split
  · rename_i cs heq
    exact absurd (hdigits '+' (heq ▸ List.mem_cons_self)) (by decide)
  · exact hparse

theorem portPart_hostPort {host : String} (h : ':' ∉ host.toList) (port : UInt16) :
    portPart (hostPort host port) = some port := by
  rw [portPart, splitColon_hostPort h]
  exact parseU16_toString port

theorem notMem_of_mem_splitOn {a : Char} {xs ys : List Char} (h : ys ∈ xs.splitOn a) :
    a ∉ ys := by
  induction xs generalizing ys with
  | nil =>
    obtain rfl : ys = [] := by simpa [List.splitOn] using h
    exact List.not_mem_nil
  | cons x xs ih =>
    rw [List.splitOn, List.splitOnP_cons_eq_if_modifyHead] at h
    split_ifs at h with hx
    · rcases List.mem_cons.mp h with rfl | h
      · exact List.not_mem_nil
      · exact ih h
    · obtain ⟨zs, rest, hs⟩ := List.exists_cons_of_ne_nil (List.splitOnP_ne_nil (· == a) xs)
      rw [hs, List.modifyHead_cons] at h
      rcases List.mem_cons.mp h with rfl | h
      · intro hm
        rcases List.mem_cons.mp hm with rfl | hm
        · simp at hx
        · refine ih ?_ hm
          rw [List.splitOn, hs]
          exact List.mem_cons_self
      · refine ih ?_
        rw [List.splitOn, hs]
        exact List.mem_cons_of_mem _ h

theorem colon_notMem_hostPart {s host : String} (h : hostPart s = some host) :
    ':' ∉ host.toList := by
  obtain ⟨cs, hcs, rfl⟩ := List.mem_map.mp (List.mem_of_mem_head? h)
  rw [String.toList_ofList]
  exact notMem_of_mem_splitOn hcs

/-- The port is behind the last colon, so the formatter is injective. -/
theorem hostPort_inj {host host' : String} {port port' : UInt16} :
    hostPort host port = hostPort host' port' ↔ host = host' ∧ port = port' := by
  refine ⟨fun h => ?_, fun h => by rw [h.1, h.2]⟩
  have hl := congrArg (fun s => s.toList.reverse) h
  simp only [hostPort_toList, List.reverse_append, List.reverse_cons, List.append_assoc,
    List.singleton_append] at hl
  have hp : ∀ q : UInt16, ':' ∉ (toString q).toList.reverse := fun q hq =>
    colon_notMem_port q (List.mem_reverse.mp hq)
  have hs := congrArg (List.splitOn ':') hl
  rw [splitOn_append_cons (hp port), splitOn_append_cons (hp port'), List.cons.injEq] at hs
  have hport : port = port' := by
    have ht : toString port = toString port' :=
      String.toList_inj.mp (List.reverse_injective hs.1)
    have := parseU16_toString port
    rw [ht, parseU16_toString] at this
    exact (Option.some.inj this).symm
  subst hport
  have hrest := List.append_cancel_left hl
  rw [List.cons.injEq] at hrest
  exact ⟨String.toList_inj.mp (List.reverse_injective hrest.2), rfl⟩

end StreamGateway
