import StreamGateway.Models

/-!
# Stored configurations

A configuration is stored as the JSON object that the derived serializer writes. A tagged
enumeration puts its tag next to the fields of the variant, and a flattened field shares
the object of its parent. The derived deserializer ignores keys it does not know, and reads
an absent optional field as absent. So one stored request can be read at several types, and
the results are the parts of the request.
-/
namespace StreamGateway

/-- A JSON value without arrays and fractions, which no configuration has. -/
inductive Json
  | null
  | bool (b : Bool)
  | num (n : Int)
  | str (s : String)
  | obj (fields : List (String × Json))

/-- A type whose values are written as JSON values other than `null` and read back. -/
class Serde (α : Type) where
  toJson : α → Json
  ofJson : Json → Option α
  toJson_ne_null : ∀ a, toJson a ≠ .null
  ofJson_toJson : ∀ a, ofJson (toJson a) = some a

attribute [simp] Serde.ofJson_toJson Serde.toJson_ne_null

export Serde (toJson ofJson)

instance : Serde String where
  toJson := .str
  ofJson
    | .str s => some s
    | _ => none
  toJson_ne_null _ := Json.noConfusion
  ofJson_toJson _ := rfl

instance : Serde Bool where
  toJson := .bool
  ofJson
    | .bool b => some b
    | _ => none
  toJson_ne_null _ := Json.noConfusion
  ofJson_toJson _ := rfl

instance : Serde Int where
  toJson := .num
  ofJson
    | .num n => some n
    | _ => none
  toJson_ne_null _ := Json.noConfusion
  ofJson_toJson _ := rfl

/-- A number of the JSON value that is below a bound. -/
def Json.natBelow (bound : ℕ) : Json → Option ℕ
  | .num n => if 0 ≤ n ∧ n < bound then some n.toNat else none
  | _ => none

theorem Json.natBelow_num {bound n : ℕ} (h : n < bound) :
    Json.natBelow bound (.num n) = some n := by
  simp [Json.natBelow, h]

instance : Serde UInt8 where
  toJson n := .num n.toNat
  ofJson j := (j.natBelow UInt8.size).map UInt8.ofNat
  toJson_ne_null _ := Json.noConfusion
  ofJson_toJson n := by simp [Json.natBelow_num n.toNat_lt]

instance : Serde UInt16 where
  toJson n := .num n.toNat
  ofJson j := (j.natBelow UInt16.size).map UInt16.ofNat
  toJson_ne_null _ := Json.noConfusion
  ofJson_toJson n := by simp [Json.natBelow_num n.toNat_lt]

instance : Serde UInt32 where
  toJson n := .num n.toNat
  ofJson j := (j.natBelow UInt32.size).map UInt32.ofNat
  toJson_ne_null _ := Json.noConfusion
  ofJson_toJson n := by simp [Json.natBelow_num n.toNat_lt]

instance : Serde Int32 where
  toJson n := .num n.toInt
  ofJson
    | .num n => if -2147483648 ≤ n ∧ n ≤ 2147483647 then some (Int32.ofInt n) else none
    | _ => none
  toJson_ne_null _ := Json.noConfusion
  ofJson_toJson n := by
    have hlo := n.le_toInt
    have hhi := n.toInt_lt
    simp only
    rw [if_pos ⟨by omega, by omega⟩, Int32.ofInt_toInt]

/-! ## Fields -/

/-- The fields of one object, in the order they are written. -/
abbrev Fields := List (String × Json)

/-- An optional field is written as `null` when absent. -/
def optionJson {α : Type} [Serde α] : Option α → Json
  | none => .null
  | some a => toJson a

/-- A field under `skip_serializing_if = "Option::is_none"`. -/
def skipNone {α : Type} [Serde α] (key : String) : Option α → Fields
  | none => []
  | some a => [(key, toJson a)]

def requiredField {α : Type} [Serde α] (key : String) (o : Fields) : Option α :=
  (o.lookup key).bind ofJson

/-- An optional field may be absent or `null`, but not of another type. -/
def optionField {α : Type} [Serde α] (key : String) (o : Fields) : Option (Option α) :=
  match o.lookup key with
  | none => some none
  | some .null => some none
  | some j => (ofJson j).map some

section Fields
variable {α : Type} [Serde α] {key : String} {o : Fields}

theorem requiredField_of_lookup {a : α} (h : o.lookup key = some (toJson a)) :
    requiredField key o = some a := by
  simp [requiredField, h]

theorem optionField_of_lookup_none (h : o.lookup key = none) :
    (optionField key o : Option (Option α)) = some none := by
  simp [optionField, h]

theorem optionField_of_lookup_some {a : α} (h : o.lookup key = some (toJson a)) :
    optionField key o = some (some a) := by
  have hne := Serde.toJson_ne_null a
  have hof := Serde.ofJson_toJson a
  rw [optionField, h]
  generalize toJson a = j at hne hof
  cases j with
  | null => exact absurd rfl hne
  | _ => simp [hof]

theorem optionField_of_lookup {a : Option α} (h : o.lookup key = some (optionJson a)) :
    optionField key o = some a := by
  cases a with
  | none => simp [optionField, h, optionJson]
  | some a => exact optionField_of_lookup_some h

/-- A skipped field reads back as absent. -/
theorem optionField_of_lookup_skip {a : Option α} (h : o.lookup key = a.map toJson) :
    optionField key o = some a := by
  cases a with
  | none => exact optionField_of_lookup_none h
  | some a => exact optionField_of_lookup_some h

@[simp] theorem lookup_skipNone (a : Option α) :
    (skipNone key a).lookup key = a.map toJson := by
  cases a <;> simp [skipNone]

end Fields

/-! ## SRT settings -/

instance : Serde FecConfig where
  toJson fec := .obj [("cols", toJson fec.cols), ("rows", toJson fec.rows),
    ("arq_level", optionJson fec.arqLevel), ("staircase", toJson fec.staircase)]
  ofJson
    | .obj o => do
      let cols ← requiredField "cols" o
      let rows ← requiredField "rows" o
      let arqLevel ← optionField "arq_level" o
      let staircase ← requiredField "staircase" o
      return ⟨cols, rows, arqLevel, staircase⟩
    | _ => none
  toJson_ne_null _ := Json.noConfusion
  ofJson_toJson fec := by
    simp only
    rw [requiredField_of_lookup (a := fec.cols) (by simp),
      requiredField_of_lookup (a := fec.rows) (by simp [List.lookup_cons]),
      optionField_of_lookup (a := fec.arqLevel) (by simp [List.lookup_cons]),
      requiredField_of_lookup (a := fec.staircase) (by simp [List.lookup_cons])]
    rfl

namespace SrtCommonConfig

def toFields (c : SrtCommonConfig) : Fields :=
  [("latency_ms", optionJson c.latencyMs), ("stream_id", optionJson c.streamId),
    ("passphrase", optionJson c.passphrase),
    ("expected_bitrate_kbps", optionJson c.expectedBitrateKbps), ("fec", optionJson c.fec)]

def ofFields (o : Fields) : Option SrtCommonConfig := do
  let latencyMs ← optionField "latency_ms" o
  let streamId ← optionField "stream_id" o
  let passphrase ← optionField "passphrase" o
  let expectedBitrateKbps ← optionField "expected_bitrate_kbps" o
  let fec ← optionField "fec" o
  return ⟨latencyMs, streamId, passphrase, expectedBitrateKbps, fec⟩

/-- The keys of the common settings. -/
def keys : List String :=
  ["latency_ms", "stream_id", "passphrase", "expected_bitrate_kbps", "fec"]

/-- The object may have other fields around the common ones. -/
theorem ofFields_of_lookup {o : Fields} {c : SrtCommonConfig}
    (h : ∀ key ∈ keys, o.lookup key = c.toFields.lookup key) : ofFields o = some c := by
  have hl := h "latency_ms" (by decide)
  have hs := h "stream_id" (by decide)
  have hp := h "passphrase" (by decide)
  have he := h "expected_bitrate_kbps" (by decide)
  have hf := h "fec" (by decide)
  simp [toFields, List.lookup_cons] at hl hs hp he hf
  simp [ofFields, optionField_of_lookup hl, optionField_of_lookup hs, optionField_of_lookup hp,
    optionField_of_lookup he, optionField_of_lookup hf]

end SrtCommonConfig

/-! ## SRT configurations -/

/-- The fields of a listener, which inputs and outputs share. -/
def listenerFields (bindHost : Option String) (bindPort : Option UInt16)
    (automaticPort : Option Bool) (common : SrtCommonConfig) (listenPort : Option UInt16) :
    Fields :=
  [("mode", .str "listener"), ("bind_host", optionJson bindHost),
    ("bind_port", optionJson bindPort), ("automatic_port", optionJson automaticPort)] ++
    common.toFields ++ skipNone "listen_port" listenPort

/-- The fields of a caller, whose legacy address has a key of its own. -/
def callerFields (legacyKey : String) (remoteHost : Option String) (remotePort : Option UInt16)
    (common : SrtCommonConfig) (bindHost legacyAddr : Option String) : Fields :=
  [("mode", .str "caller"), ("remote_host", optionJson remoteHost),
    ("remote_port", optionJson remotePort)] ++
    common.toFields ++ [("bind_host", optionJson bindHost)] ++ skipNone legacyKey legacyAddr

def SrtInputConfig.toFields : SrtInputConfig → Fields
  | .listener bindHost bindPort automaticPort common listenPort =>
    listenerFields bindHost bindPort automaticPort common listenPort
  | .caller remoteHost remotePort common bindHost targetAddr =>
    callerFields "target_addr" remoteHost remotePort common bindHost targetAddr

def SrtOutputConfig.toFields : SrtOutputConfig → Fields
  | .listener bindHost bindPort automaticPort common listenPort =>
    listenerFields bindHost bindPort automaticPort common listenPort
  | .caller remoteHost remotePort common bindHost destinationAddr =>
    callerFields "destination_addr" remoteHost remotePort common bindHost destinationAddr

/-- The tag, which must be a string. -/
def tagField (key : String) (o : Fields) : Option String :=
  requiredField key o

def SrtInputConfig.ofFields (o : Fields) : Option SrtInputConfig := do
  let mode ← tagField "mode" o
  if mode = "listener" then
    return .listener (← optionField "bind_host" o) (← optionField "bind_port" o)
      (← optionField "automatic_port" o) (← SrtCommonConfig.ofFields o)
      (← optionField "listen_port" o)
  else if mode = "caller" then
    return .caller (← optionField "remote_host" o) (← optionField "remote_port" o)
      (← SrtCommonConfig.ofFields o) (← optionField "bind_host" o)
      (← optionField "target_addr" o)
  else none

def SrtOutputConfig.ofFields (o : Fields) : Option SrtOutputConfig := do
  let mode ← tagField "mode" o
  if mode = "listener" then
    return .listener (← optionField "bind_host" o) (← optionField "bind_port" o)
      (← optionField "automatic_port" o) (← SrtCommonConfig.ofFields o)
      (← optionField "listen_port" o)
  else if mode = "caller" then
    return .caller (← optionField "remote_host" o) (← optionField "remote_port" o)
      (← SrtCommonConfig.ofFields o) (← optionField "bind_host" o)
      (← optionField "destination_addr" o)
  else none

/-! ## Requests -/

def CreateInputRequest.toFields : CreateInputRequest → Fields
  | .udp bindHost bindPort automaticPort name multicastGroup sourceSpecificMulticast
      listenPort =>
    [("type", .str "udp"), ("bind_host", optionJson bindHost),
      ("bind_port", optionJson bindPort), ("automatic_port", optionJson automaticPort),
      ("name", optionJson name), ("multicast_group", optionJson multicastGroup),
      ("source_specific_multicast", optionJson sourceSpecificMulticast)] ++
      skipNone "listen_port" listenPort
  | .srt name config => [("type", .str "srt"), ("name", optionJson name)] ++ config.toFields
  | .spts sourceInputId programNumber fillWithNulls name =>
    [("type", .str "spts"), ("source_input_id", toJson sourceInputId),
      ("program_number", toJson programNumber), ("fill_with_nulls", optionJson fillWithNulls),
      ("name", optionJson name)]

def CreateInputRequest.ofFields (o : Fields) : Option CreateInputRequest := do
  let type ← tagField "type" o
  if type = "udp" then
    return .udp (← optionField "bind_host" o) (← optionField "bind_port" o)
      (← optionField "automatic_port" o) (← optionField "name" o)
      (← optionField "multicast_group" o) (← optionField "source_specific_multicast" o)
      (← optionField "listen_port" o)
  else if type = "srt" then
    return .srt (← optionField "name" o) (← SrtInputConfig.ofFields o)
  else if type = "spts" then
    return .spts (← requiredField "source_input_id" o) (← requiredField "program_number" o)
      (← optionField "fill_with_nulls" o) (← optionField "name" o)
  else none

def CreateOutputRequest.toFields : CreateOutputRequest → Fields
  | .udp inputId remoteHost remotePort automaticPort name bindHost multicastTtl
      multicastInterface destinationAddr =>
    [("type", .str "udp"), ("input_id", toJson inputId),
      ("remote_host", optionJson remoteHost), ("remote_port", optionJson remotePort),
      ("automatic_port", optionJson automaticPort), ("name", optionJson name),
      ("bind_host", optionJson bindHost), ("multicast_ttl", optionJson multicastTtl),
      ("multicast_interface", optionJson multicastInterface)] ++
      skipNone "destination_addr" destinationAddr
  | .srt inputId name config =>
    [("type", .str "srt"), ("input_id", toJson inputId), ("name", optionJson name)] ++
      config.toFields

def CreateOutputRequest.ofFields (o : Fields) : Option CreateOutputRequest := do
  let type ← tagField "type" o
  if type = "udp" then
    return .udp (← requiredField "input_id" o) (← optionField "remote_host" o)
      (← optionField "remote_port" o) (← optionField "automatic_port" o)
      (← optionField "name" o) (← optionField "bind_host" o) (← optionField "multicast_ttl" o)
      (← optionField "multicast_interface" o) (← optionField "destination_addr" o)
  else if type = "srt" then
    return .srt (← requiredField "input_id" o) (← optionField "name" o)
      (← SrtOutputConfig.ofFields o)
  else none

/-! ## Reading back -/

/-- The keys of a request that stand next to those of its SRT configuration. -/
def requestKeys : List String := ["type", "input_id", "name"]

/-- The two objects agree at every key that is not one of a request. -/
def SameConfig (o o' : Fields) : Prop :=
  ∀ key, key ∉ requestKeys → o.lookup key = o'.lookup key

theorem SameConfig.append {xs : Fields} (h : ∀ x ∈ xs, x.1 ∈ requestKeys) (o : Fields) :
    SameConfig (xs ++ o) o := by
  intro key hkey
  have hnone : xs.lookup key = none := by
    refine List.lookup_eq_none_iff.mpr fun x hx => ?_
    refine bne_iff_ne.mpr ?_
    rintro rfl
    exact hkey (h x hx)
  rw [List.lookup_append, hnone, Option.none_or]

/-- The object has the common settings and the given fields around them. -/
theorem SrtCommonConfig.ofFields_of_sameConfig {o before after : Fields} {common : SrtCommonConfig}
    (hb : ∀ x ∈ before, x.1 ∉ SrtCommonConfig.keys)
    (h : SameConfig o (before ++ common.toFields ++ after)) :
    SrtCommonConfig.ofFields o = some common := by
  have hout : ∀ key ∈ SrtCommonConfig.keys, key ∉ requestKeys := by decide
  refine SrtCommonConfig.ofFields_of_lookup fun key hkey => ?_
  have hbefore : before.lookup key = none := by
    refine List.lookup_eq_none_iff.mpr fun x hx => bne_iff_ne.mpr ?_
    rintro rfl
    exact hb x hx hkey
  have hsome : (common.toFields.lookup key).isSome := by
    simp only [SrtCommonConfig.keys, List.mem_cons, List.not_mem_nil, or_false] at hkey
    rcases hkey with rfl | rfl | rfl | rfl | rfl <;>
      simp [SrtCommonConfig.toFields, List.lookup_cons]
  rw [h key (hout key hkey), List.append_assoc, List.lookup_append, hbefore,
    Option.none_or, List.lookup_append, Option.or_of_isSome hsome]

section ReadBack
variable {o : Fields}

theorem common_of_listenerFields {bindHost : Option String} {bindPort : Option UInt16}
    {automaticPort : Option Bool} {common : SrtCommonConfig} {listenPort : Option UInt16}
    (h : SameConfig o (listenerFields bindHost bindPort automaticPort common listenPort)) :
    SrtCommonConfig.ofFields o = some common := by
  refine SrtCommonConfig.ofFields_of_sameConfig (fun x hx => ?_) h
  simp only [List.mem_cons, List.not_mem_nil, or_false] at hx
  rcases hx with rfl | rfl | rfl | rfl <;> simp [SrtCommonConfig.keys]

theorem common_of_callerFields {legacyKey : String} {remoteHost : Option String}
    {remotePort : Option UInt16} {common : SrtCommonConfig} {bindHost legacyAddr : Option String}
    (h : SameConfig o
      (callerFields legacyKey remoteHost remotePort common bindHost legacyAddr)) :
    SrtCommonConfig.ofFields o = some common := by
  rw [callerFields, List.append_assoc (_ ++ _)] at h
  refine SrtCommonConfig.ofFields_of_sameConfig (fun x hx => ?_) h
  simp only [List.mem_cons, List.not_mem_nil, or_false] at hx
  rcases hx with rfl | rfl | rfl <;> simp [SrtCommonConfig.keys]

theorem SrtOutputConfig.common_ofFields {config : SrtOutputConfig}
    (h : SameConfig o config.toFields) : SrtCommonConfig.ofFields o = some config.common := by
  cases config with
  | listener => exact common_of_listenerFields h
  | caller => exact common_of_callerFields h

theorem SrtOutputConfig.ofFields_of_sameConfig {config : SrtOutputConfig}
    (h : SameConfig o config.toFields) : SrtOutputConfig.ofFields o = some config := by
  have hcommon := SrtOutputConfig.common_ofFields h
  cases config with
  | listener bindHost bindPort automaticPort common listenPort =>
    have hl := h "listen_port" (by decide)
    have hp := h "bind_port" (by decide)
    have hh := h "bind_host" (by decide)
    have ha := h "automatic_port" (by decide)
    have hm := h "mode" (by decide)
    simp [SrtOutputConfig.toFields, listenerFields, SrtCommonConfig.toFields,
      List.lookup_cons] at hl hp hh ha hm
    simp [SrtOutputConfig.ofFields, tagField, requiredField_of_lookup (a := "listener") hm,
      optionField_of_lookup hh, optionField_of_lookup hp, optionField_of_lookup ha, hcommon,
      optionField_of_lookup_skip hl, SrtOutputConfig.common]
  | caller remoteHost remotePort common bindHost destinationAddr =>
    have hd := h "destination_addr" (by decide)
    have hp := h "remote_port" (by decide)
    have hh := h "remote_host" (by decide)
    have hb := h "bind_host" (by decide)
    have hm := h "mode" (by decide)
    simp [SrtOutputConfig.toFields, callerFields, SrtCommonConfig.toFields,
      List.lookup_cons] at hd hp hh hb hm
    simp [SrtOutputConfig.ofFields, tagField, requiredField_of_lookup (a := "caller") hm,
      optionField_of_lookup hh, optionField_of_lookup hp, optionField_of_lookup hb, hcommon,
      optionField_of_lookup_skip hd, SrtOutputConfig.common]

theorem SrtInputConfig.ofFields_of_sameConfig {config : SrtInputConfig}
    (h : SameConfig o config.toFields) : SrtInputConfig.ofFields o = some config := by
  cases config with
  | listener bindHost bindPort automaticPort common listenPort =>
    have hcommon := common_of_listenerFields h
    have hl := h "listen_port" (by decide)
    have hp := h "bind_port" (by decide)
    have hh := h "bind_host" (by decide)
    have ha := h "automatic_port" (by decide)
    have hm := h "mode" (by decide)
    simp [SrtInputConfig.toFields, listenerFields, SrtCommonConfig.toFields,
      List.lookup_cons] at hl hp hh ha hm
    simp [SrtInputConfig.ofFields, tagField, requiredField_of_lookup (a := "listener") hm,
      optionField_of_lookup hh, optionField_of_lookup hp, optionField_of_lookup ha, hcommon,
      optionField_of_lookup_skip hl]
  | caller remoteHost remotePort common bindHost targetAddr =>
    have hcommon := common_of_callerFields h
    have hd := h "target_addr" (by decide)
    have hp := h "remote_port" (by decide)
    have hh := h "remote_host" (by decide)
    have hb := h "bind_host" (by decide)
    have hm := h "mode" (by decide)
    simp [SrtInputConfig.toFields, callerFields, SrtCommonConfig.toFields,
      List.lookup_cons] at hd hp hh hb hm
    simp [SrtInputConfig.ofFields, tagField, requiredField_of_lookup (a := "caller") hm,
      optionField_of_lookup hh, optionField_of_lookup hp, optionField_of_lookup hb, hcommon,
      optionField_of_lookup_skip hd]

end ReadBack

theorem sameConfig_srtOutput (inputId : Int) (name : Option String) (config : SrtOutputConfig) :
    SameConfig (CreateOutputRequest.srt inputId name config).toFields config.toFields := by
  refine SameConfig.append (fun x hx => ?_) _
  simp only [List.mem_cons, List.not_mem_nil, or_false] at hx
  rcases hx with rfl | rfl | rfl <;> simp [requestKeys]

theorem sameConfig_srtInput (name : Option String) (config : SrtInputConfig) :
    SameConfig (CreateInputRequest.srt name config).toFields config.toFields := by
  refine SameConfig.append (fun x hx => ?_) _
  simp only [List.mem_cons, List.not_mem_nil, or_false] at hx
  rcases hx with rfl | rfl <;> simp [requestKeys]

/-- A stored output request reads back as the request. -/
theorem CreateOutputRequest.ofFields_toFields (req : CreateOutputRequest) :
    CreateOutputRequest.ofFields req.toFields = some req := by
  cases req with
  | udp inputId remoteHost remotePort automaticPort name bindHost multicastTtl
      multicastInterface destinationAddr =>
    generalize ho : (CreateOutputRequest.udp inputId remoteHost remotePort automaticPort name
      bindHost multicastTtl multicastInterface destinationAddr).toFields = o
    have lookup : ∀ key, o.lookup key = (CreateOutputRequest.udp inputId remoteHost remotePort
      automaticPort name bindHost multicastTtl multicastInterface
      destinationAddr).toFields.lookup key := fun key => by rw [ho]
    have ht := lookup "type"
    have hi := lookup "input_id"
    have hh := lookup "remote_host"
    have hp := lookup "remote_port"
    have ha := lookup "automatic_port"
    have hn := lookup "name"
    have hb := lookup "bind_host"
    have hl := lookup "multicast_ttl"
    have hm := lookup "multicast_interface"
    have hd := lookup "destination_addr"
    simp [CreateOutputRequest.toFields, List.lookup_cons] at ht hi hh hp ha hn hb hl hm hd
    simp [CreateOutputRequest.ofFields, tagField, requiredField_of_lookup (a := "udp") ht,
      requiredField_of_lookup hi, optionField_of_lookup hh, optionField_of_lookup hp,
      optionField_of_lookup ha, optionField_of_lookup hn, optionField_of_lookup hb,
      optionField_of_lookup hl, optionField_of_lookup hm, optionField_of_lookup_skip hd]
  | srt inputId name config =>
    have hc := SrtOutputConfig.ofFields_of_sameConfig (sameConfig_srtOutput inputId name config)
    generalize ho : (CreateOutputRequest.srt inputId name config).toFields = o at hc
    have lookup : ∀ key, o.lookup key =
      (CreateOutputRequest.srt inputId name config).toFields.lookup key := fun key => by rw [ho]
    have ht := lookup "type"
    have hi := lookup "input_id"
    have hn := lookup "name"
    simp [CreateOutputRequest.toFields, List.lookup_cons] at ht hi hn
    simp [CreateOutputRequest.ofFields, tagField, requiredField_of_lookup (a := "srt") ht,
      requiredField_of_lookup hi, optionField_of_lookup hn, hc]

/-- A stored input request reads back as the request. -/
theorem CreateInputRequest.ofFields_toFields (req : CreateInputRequest) :
    CreateInputRequest.ofFields req.toFields = some req := by
  cases req with
  | udp bindHost bindPort automaticPort name multicastGroup sourceSpecificMulticast
      listenPort =>
    generalize ho : (CreateInputRequest.udp bindHost bindPort automaticPort name multicastGroup
      sourceSpecificMulticast listenPort).toFields = o
    have lookup : ∀ key, o.lookup key = (CreateInputRequest.udp bindHost bindPort automaticPort
      name multicastGroup sourceSpecificMulticast listenPort).toFields.lookup key :=
      fun key => by rw [ho]
    have ht := lookup "type"
    have hh := lookup "bind_host"
    have hp := lookup "bind_port"
    have ha := lookup "automatic_port"
    have hn := lookup "name"
    have hg := lookup "multicast_group"
    have hs := lookup "source_specific_multicast"
    have hl := lookup "listen_port"
    simp [CreateInputRequest.toFields, List.lookup_cons] at ht hh hp ha hn hg hs hl
    simp [CreateInputRequest.ofFields, tagField, requiredField_of_lookup (a := "udp") ht,
      optionField_of_lookup hh, optionField_of_lookup hp, optionField_of_lookup ha,
      optionField_of_lookup hn, optionField_of_lookup hg, optionField_of_lookup hs,
      optionField_of_lookup_skip hl]
  | srt name config =>
    have hc := SrtInputConfig.ofFields_of_sameConfig (sameConfig_srtInput name config)
    generalize ho : (CreateInputRequest.srt name config).toFields = o at hc
    have lookup : ∀ key, o.lookup key =
      (CreateInputRequest.srt name config).toFields.lookup key := fun key => by rw [ho]
    have ht := lookup "type"
    have hn := lookup "name"
    simp [CreateInputRequest.toFields, List.lookup_cons] at ht hn
    simp [CreateInputRequest.ofFields, tagField, requiredField_of_lookup (a := "srt") ht,
      optionField_of_lookup hn, hc]
  | spts sourceInputId programNumber fillWithNulls name =>
    generalize ho :
      (CreateInputRequest.spts sourceInputId programNumber fillWithNulls name).toFields = o
    have lookup : ∀ key, o.lookup key = (CreateInputRequest.spts sourceInputId programNumber
      fillWithNulls name).toFields.lookup key := fun key => by rw [ho]
    have ht := lookup "type"
    have hs := lookup "source_input_id"
    have hp := lookup "program_number"
    have hf := lookup "fill_with_nulls"
    have hn := lookup "name"
    simp [CreateInputRequest.toFields, List.lookup_cons] at ht hs hp hf hn
    simp [CreateInputRequest.ofFields, tagField, requiredField_of_lookup (a := "spts") ht,
      requiredField_of_lookup hs, requiredField_of_lookup hp, optionField_of_lookup hf,
      optionField_of_lookup hn]

/-- Only an object can be read at one of the types above. -/
def Json.read {α : Type} (ofFields : Fields → Option α) : Json → Option α
  | .obj o => ofFields o
  | _ => none

end StreamGateway
