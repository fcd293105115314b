import Mathlib
import StreamGateway.Gateway

/-!
# Buffer sizes

The buffers of an SRT socket are sized by the bitrate and the latency in the request. The size is
a product of floats, which here is an exact rational. The cast to `i32` saturates, and the size is
doubled after the cast.
-/
namespace StreamGateway

/-! ## Arithmetic on `i32` -/

/-- `x as i32` of a float with the value `x`. -/
def asI32 (x : ℚ) : Int32 :=
  Int32.ofIntClamp (if 0 ≤ x then x.floor else x.ceil)

/-- `a * b` on `i32`. It panics on overflow in a build with checks, and else wraps around. -/
def mulI32 (overflowChecks : Bool) (a b : Int32) : Option Int32 :=
  if overflowChecks ∧ (a * b).toInt ≠ a.toInt * b.toInt then none else some (a * b)

theorem intCast_lt_div {k n d : ℤ} (hd : 0 < d) : (k : ℚ) < (n : ℚ) / d ↔ k * d < n := by
  rw [Rat.lt_div_iff (Rat.intCast_pos.mpr hd), ← Rat.intCast_mul, Rat.intCast_lt_intCast]

theorem div_lt_intCast {k n d : ℤ} (hd : 0 < d) : (n : ℚ) / d < k ↔ n < k * d := by
  rw [Rat.div_lt_iff (Rat.intCast_pos.mpr hd), ← Rat.intCast_mul, Rat.intCast_lt_intCast]

theorem toInt_ofIntClamp (n : ℤ) :
    (Int32.ofIntClamp n).toInt = max (-2 ^ 31) (min (2 ^ 31 - 1) n) := by
  have hmin : Int32.minValue.toInt = -2 ^ 31 := by decide
  have hmax : Int32.maxValue.toInt = 2 ^ 31 - 1 := by decide
  by_cases hl : Int32.minValue.toInt ≤ n
  · by_cases hr : n ≤ Int32.maxValue.toInt
    · rw [Int32.toInt_ofIntClamp hl hr]
      omega
    · rw [Int32.ofIntClamp, dif_pos hl, dif_neg hr]
      omega
  · rw [Int32.ofIntClamp, dif_neg hl]
    omega

theorem asI32_nonneg_iff (x : ℚ) : 0 ≤ (asI32 x).toInt ↔ ((-1 : ℤ) : ℚ) < x := by
  rw [asI32, toInt_ofIntClamp]
  split
  case isTrue hx =>
    have hfloor : 0 ≤ x.floor := Rat.le_floor_iff.mpr hx
    exact iff_of_true (by omega) (by grind)
  case isFalse hx =>
    rw [← Rat.lt_ceil_iff]
    omega

/-- The cast goes towards zero, so it reaches no positive integer that the value does not reach. -/
theorem asI32_lt_iff {x : ℚ} {n : ℤ} (hpos : 0 < n) (hn : n < 2 ^ 31) :
    (asI32 x).toInt < n ↔ x < n := by
  rw [asI32, toInt_ofIntClamp]
  split
  case isTrue hx =>
    rw [← Rat.floor_lt_iff]
    omega
  case isFalse hx =>
    have hceil : x.ceil ≤ 0 := Rat.ceil_le_iff.mpr (Rat.le_of_lt (Rat.not_le.mp hx))
    have hn' : (0 : ℚ) < n := Rat.intCast_pos.mpr hpos
    exact iff_of_true (by omega) (by grind)

/-- The product is exact if and only if it is in range, whatever the build. -/
theorem mulI32_exact_iff (overflowChecks : Bool) (a b : Int32) :
    (∃ c, mulI32 overflowChecks a b = some c ∧ c.toInt = a.toInt * b.toInt) ↔
      -2 ^ 31 ≤ a.toInt * b.toInt ∧ a.toInt * b.toInt < 2 ^ 31 := by
  constructor
  · rintro ⟨c, -, hexact⟩
    rw [← hexact]
    exact ⟨c.le_toInt, c.toInt_lt⟩
  · rintro ⟨hlower, hupper⟩
    have hexact : (a * b).toInt = a.toInt * b.toInt := by
      rw [Int32.toInt_mul, Int.bmod_eq_of_le] <;> omega
    exact ⟨a * b, if_neg fun h => h.2 hexact, hexact⟩

theorem mulI32_two_iff (overflowChecks : Bool) (a : Int32) :
    (∃ c, mulI32 overflowChecks a 2 = some c ∧ c.toInt = 2 * a.toInt) ↔
      -2 ^ 30 ≤ a.toInt ∧ a.toInt < 2 ^ 30 := by
  have htwo : (2 : Int32).toInt = 2 := by decide
  have hexact := mulI32_exact_iff overflowChecks a 2
  rw [htwo, Int.mul_comm] at hexact
  rw [hexact]
  omega

/-! ## The sizes -/

structure BufferSizes where
  rcvBuf : Int32
  sndBuf : Int32
  fc : Int32
  udpRcvBuf : Int32
  udpSndBuf : Int32
  deriving DecidableEq, Repr

namespace SrtCommonConfig

/-- A panic leaves no sizes. -/
def calculateBufferSizes (overflowChecks : Bool) (bitrateKbps : UInt32) (latencyMs : Int32) :
    Option BufferSizes := do
  let bitrateBps : ℚ := bitrateKbps.toNat * 1000
  let latencySec : ℚ := latencyMs.toInt / 1000
  let rcvBuf := asI32 (bitrateBps * latencySec * 1.25 / 8)
  let sndBuf := rcvBuf
  let fc := rcvBuf / 1316
  let udpRcvBuf ← mulI32 overflowChecks rcvBuf 2
  let udpSndBuf ← mulI32 overflowChecks sndBuf 2
  return { rcvBuf, sndBuf, fc, udpRcvBuf, udpSndBuf }

end SrtCommonConfig

/-- The options of `srt::SrtAsyncBuilder` that are set. -/
structure SrtAsyncBuilder where
  peerLatency : Option Int32
  receiveLatency : Option Int32
  buffers : Option BufferSizes
  fecConfig : Option FecConfig
  streamId : Option String
  passphrase : Option String
  liveTransmissionType : Bool
  deriving DecidableEq, Repr

/-- The sizes are set only if there are both a latency and a bitrate. -/
def SrtCommonConfig.asyncBuilder (overflowChecks : Bool) (common : SrtCommonConfig) :
    Option SrtAsyncBuilder := do
  let buffers ← match common.latencyMs, common.expectedBitrateKbps with
    | some lat, some bitrateKbps => (calculateBufferSizes overflowChecks bitrateKbps lat).map some
    | _, _ => some none
  return {
    peerLatency := common.latencyMs
    receiveLatency := common.latencyMs
    buffers
    fecConfig := common.fec
    streamId := common.streamId
    passphrase := common.passphrase
    liveTransmissionType := true }

def SrtInputConfig.common : SrtInputConfig → SrtCommonConfig
  | .listener _ _ _ common _ => common
  | .caller _ _ common _ _ => common

/-! ## Sizes that fit -/

/-- No size is negative, and the sizes for UDP are the doubles of the others. -/
structure BufferSizes.Fit (sizes : BufferSizes) : Prop where
  rcvBuf : 0 ≤ sizes.rcvBuf.toInt
  sndBuf : 0 ≤ sizes.sndBuf.toInt
  fc : 0 ≤ sizes.fc.toInt
  udpRcvBuf : 0 ≤ sizes.udpRcvBuf.toInt
  udpSndBuf : 0 ≤ sizes.udpSndBuf.toInt
  udpRcvBuf_eq : sizes.udpRcvBuf.toInt = 2 * sizes.rcvBuf.toInt
  udpSndBuf_eq : sizes.udpSndBuf.toInt = 2 * sizes.sndBuf.toInt

section Sizes

variable {overflowChecks : Bool} {bitrateKbps : UInt32} {latencyMs : Int32} {rcvBuf : Int32}
  {sizes : BufferSizes} {common : SrtCommonConfig}

/-- All sizes come from the first one. -/
theorem calculateBufferSizes_eq_some_iff
    (hrcv : rcvBuf = asI32 (bitrateKbps.toNat * 1000 * (latencyMs.toInt / 1000) * 1.25 / 8)) :
    SrtCommonConfig.calculateBufferSizes overflowChecks bitrateKbps latencyMs = some sizes ↔
      ∃ udp, mulI32 overflowChecks rcvBuf 2 = some udp ∧
        sizes = ⟨rcvBuf, rcvBuf, rcvBuf / 1316, udp, udp⟩ := by
  subst hrcv
  simp only [SrtCommonConfig.calculateBufferSizes]
  cases mulI32 overflowChecks _ 2 <;> simp [eq_comm]

theorem div_packet_nonneg {a : Int32} (h : 0 ≤ a.toInt) : 0 ≤ (a / 1316).toInt := by
  rw [Int32.toInt_div_of_ne_right a 1316 (by decide)]
  exact Int.tdiv_nonneg h (by decide)

/-- The sizes fit if and only if the first one does and can be doubled. -/
theorem fit_iff_rcvBuf
    (hrcv : rcvBuf = asI32 (bitrateKbps.toNat * 1000 * (latencyMs.toInt / 1000) * 1.25 / 8)) :
    (∃ sizes, SrtCommonConfig.calculateBufferSizes overflowChecks bitrateKbps latencyMs =
        some sizes ∧ sizes.Fit) ↔
      0 ≤ rcvBuf.toInt ∧ rcvBuf.toInt < 2 ^ 30 := by
  constructor
  · rintro ⟨sizes, hsizes, hfit⟩
    obtain ⟨udp, hudp, rfl⟩ := (calculateBufferSizes_eq_some_iff hrcv).mp hsizes
    exact ⟨hfit.rcvBuf, ((mulI32_two_iff overflowChecks rcvBuf).mp ⟨udp, hudp, hfit.udpRcvBuf_eq⟩).2⟩
  · rintro ⟨hlower, hupper⟩
    obtain ⟨udp, hudp, hdouble⟩ :=
      (mulI32_two_iff overflowChecks rcvBuf).mpr ⟨by omega, hupper⟩
    have hudp_nonneg : 0 ≤ udp.toInt := by omega
    exact ⟨_, (calculateBufferSizes_eq_some_iff hrcv).mpr ⟨udp, hudp, rfl⟩,
      ⟨hlower, hlower, div_packet_nonneg hlower, hudp_nonneg, hudp_nonneg, hdouble, hdouble⟩⟩

/-- The first size before the cast, from the product of the two settings. -/
theorem rcvBuf_formula (bitrateKbps : ℕ) (latencyMs : ℤ) :
    (bitrateKbps * 1000 * (latencyMs / 1000) * 1.25 / 8 : ℚ) =
      ((5 * (bitrateKbps * latencyMs) : ℤ) : ℚ) / (32 : ℤ) := by
  push_cast
  grind

/-- The builder of a stream with both settings gets the calculated sizes. -/
theorem asyncBuilder_buffers (hlat : common.latencyMs = some latencyMs)
    (hbitrate : common.expectedBitrateKbps = some bitrateKbps) :
    (common.asyncBuilder overflowChecks).map SrtAsyncBuilder.buffers =
      (SrtCommonConfig.calculateBufferSizes overflowChecks bitrateKbps latencyMs).map some := by
  cases hsizes : SrtCommonConfig.calculateBufferSizes overflowChecks bitrateKbps latencyMs <;>
    simp [SrtCommonConfig.asyncBuilder, hlat, hbitrate, hsizes]

end Sizes

/-- Validation looks at neither setting. -/
theorem validateInput_listener (env : Env) (common : SrtCommonConfig) :
    validateInput env (.srt none (.listener none none none common none)) = .ok () := rfl

/-- The sizes fit if and only if the product of bitrate and latency is in a range. This is so
with and without overflow checks. -/
theorem calculateBufferSizes_fit_iff (overflowChecks : Bool) (bitrateKbps : UInt32)
    (latencyMs : Int32) :
    (∃ sizes, SrtCommonConfig.calculateBufferSizes overflowChecks bitrateKbps latencyMs =
        some sizes ∧ sizes.Fit) ↔
      -6 ≤ (bitrateKbps.toNat : ℤ) * latencyMs.toInt ∧
        (bitrateKbps.toNat : ℤ) * latencyMs.toInt ≤ 6871947673 := by
  rw [fit_iff_rcvBuf rfl, asI32_nonneg_iff, asI32_lt_iff (by decide) (by decide), rcvBuf_formula,
    intCast_lt_div (by decide), div_lt_intCast (by decide)]
  omega

example : SrtCommonConfig.calculateBufferSizes true 10000 200 =
    some ⟨312500, 312500, 237, 625000, 625000⟩ := by decide +kernel

/-- A latency of 70 seconds at 100 Mbps. -/
def longLatency : SrtCommonConfig :=
  { SrtCommonConfig.default with latencyMs := some 70000, expectedBitrateKbps := some 100000 }

theorem asyncBuilder_longLatency : longLatency.asyncBuilder true = none := by
  decide +kernel

/-- The doubled sizes of an accepted request do not fit. -/
theorem longLatency_overflows :
    ¬ ∀ (overflowChecks : Bool) (env : Env) (name : Option String) (config : SrtInputConfig)
      (bitrateKbps : UInt32) (latencyMs : Int32),
      validateInput env (.srt name config) = .ok () →
      config.common.latencyMs = some latencyMs →
      config.common.expectedBitrateKbps = some bitrateKbps →
      ∃ sizes, SrtCommonConfig.calculateBufferSizes overflowChecks bitrateKbps latencyMs =
        some sizes ∧ sizes.Fit := by
  intro h
  obtain ⟨sizes, hsizes, -⟩ := h true localEnv none (.listener none none none longLatency none)
    100000 70000 (validateInput_listener localEnv longLatency) rfl rfl
  have hbuilder : (longLatency.asyncBuilder true).map SrtAsyncBuilder.buffers = some (some sizes) :=
    (asyncBuilder_buffers rfl rfl).trans (congrArg (Option.map some) hsizes)
  rw [asyncBuilder_longLatency] at hbuilder
  cases hbuilder

end StreamGateway
