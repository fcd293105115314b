import StreamGateway.Endpoints

/-!
# Composition of updates

An update takes the place of a configuration field by field. Two updates of one kind combine
into the update that takes each field from the later one where that one provides it. The
laws of such updates are stated for any merge, and proved of the merges of inputs and
outputs from the laws of their fields.
-/
namespace StreamGateway

/-! ## Laws of updates -/

/-- What a merge of configurations with updates should satisfy, where `combine` puts a later
update on top of an earlier one, and `Fits` tells which updates a configuration takes. -/
structure PatchLaws {C U ε : Type} (merge : C → U → Except ε C) (combine : U → U → U)
    (Fits : C → U → Prop) : Prop where
  composes : ∀ c u₁ u₂, Fits c u₁ → Fits c u₂ →
    ((merge c u₁).bind fun merged => merge merged u₂) = merge c (combine u₁ u₂)
  repeated : ∀ c u, Fits c u → ((merge c u).bind fun merged => merge merged u) = merge c u
  fails_iff : ∀ c u, (∃ e, merge c u = .error e) ↔ ¬ Fits c u

/-- A repeated update needs no law of its own when it combines with itself to itself. -/
theorem PatchLaws.of_combine_self {C U ε : Type} {merge : C → U → Except ε C}
    {combine : U → U → U} {Fits : C → U → Prop} (hself : ∀ u, combine u u = u)
    (hcomposes : ∀ c u₁ u₂, Fits c u₁ → Fits c u₂ →
      ((merge c u₁).bind fun merged => merge merged u₂) = merge c (combine u₁ u₂))
    (hfails : ∀ c u, (∃ e, merge c u = .error e) ↔ ¬ Fits c u) :
    PatchLaws merge combine Fits where
  composes := hcomposes
  repeated c u hfits := by rw [hcomposes c u u hfits hfits, hself]
  fails_iff := hfails

/-! ## Optional strings -/

/-- `deserialize_optional_string`: an empty string is provided, and clears the field. -/
def deserializeOptionalString (opt : Option String) : Option (Option String) :=
  match opt with
  | none => none
  | some s => if s = "" then some none else some (some s)

/-- The later of two requests decides, also when it clears the field. -/
theorem deserializeOptionalString_or (later earlier : Option String) :
    deserializeOptionalString (later.or earlier) =
      (deserializeOptionalString later).or (deserializeOptionalString earlier) := by
  cases later with
  | none => rfl
  | some s =>
    by_cases hs : s = ""
    · simp [deserializeOptionalString, hs]
    · simp [deserializeOptionalString, hs]

theorem mergeOptionalField_or (later earlier : Option (Option String))
    (current : Option String) :
    mergeOptionalField (later.or earlier) current =
      mergeOptionalField later (mergeOptionalField earlier current) := by
  cases later <;> rfl

/-! ## SRT settings -/

def SrtUpdate.combine (earlier later : SrtUpdate) : SrtUpdate where
  latencyMs := later.latencyMs.or earlier.latencyMs
  passphrase := later.passphrase.or earlier.passphrase
  streamId := later.streamId.or earlier.streamId
  expectedBitrateKbps := later.expectedBitrateKbps.or earlier.expectedBitrateKbps
  fec := later.fec.or earlier.fec

theorem SrtUpdate.combine_self (u : SrtUpdate) : u.combine u = u := by
  simp [SrtUpdate.combine]

theorem mergeCommon_combine (common : SrtCommonConfig) (earlier later : SrtUpdate) :
    mergeCommon common (earlier.combine later) =
      mergeCommon (mergeCommon common earlier) later := by
  simp only [mergeCommon, SrtUpdate.combine, mergeOptionalField_or, Option.or_assoc]

/-- Updates of different modes do not combine, and the later one is left. -/
def UpdateSrtConfig.combine : UpdateSrtConfig → UpdateSrtConfig → UpdateSrtConfig
  | .listener bindHost bindPort common, .listener bindHost' bindPort' common' =>
    .listener (bindHost'.or bindHost) (bindPort'.or bindPort) (common.combine common')
  | .caller remoteHost remotePort bindHost common,
    .caller remoteHost' remotePort' bindHost' common' =>
    .caller (remoteHost'.or remoteHost) (remotePort'.or remotePort) (bindHost'.or bindHost)
      (common.combine common')
  | _, later => later

theorem UpdateSrtConfig.combine_self (u : UpdateSrtConfig) : u.combine u = u := by
  cases u <;> simp [UpdateSrtConfig.combine, SrtUpdate.combine_self]

/-! ## Types and modes -/

inductive SrtMode
  | listener | caller
  deriving DecidableEq, Repr

def SrtInputConfig.mode : SrtInputConfig → SrtMode
  | .listener .. => .listener
  | .caller .. => .caller

def SrtOutputConfig.mode : SrtOutputConfig → SrtMode
  | .listener .. => .listener
  | .caller .. => .caller

def UpdateSrtConfig.mode : UpdateSrtConfig → SrtMode
  | .listener .. => .listener
  | .caller .. => .caller

inductive StreamType
  | udp
  | srt (mode : SrtMode)
  | spts
  deriving DecidableEq, Repr

def CreateInputRequest.streamType : CreateInputRequest → StreamType
  | .udp .. => .udp
  | .srt _ config => .srt config.mode
  | .spts .. => .spts

def CreateOutputRequest.streamType : CreateOutputRequest → StreamType
  | .udp .. => .udp
  | .srt _ _ config => .srt config.mode

def UpdateInputRequest.streamType : UpdateInputRequest → StreamType
  | .udp .. => .udp
  | .srt _ config => .srt config.mode
  | .spts .. => .spts

def UpdateOutputRequest.streamType : UpdateOutputRequest → StreamType
  | .udp .. => .udp
  | .srt _ config => .srt config.mode

theorem UpdateSrtConfig.eq_listener {u : UpdateSrtConfig} (h : u.mode = .listener) :
    ∃ bindHost bindPort common, u = .listener bindHost bindPort common := by
  cases u with
  | listener bindHost bindPort common => exact ⟨bindHost, bindPort, common, rfl⟩
  | caller => exact absurd h SrtMode.noConfusion

theorem UpdateSrtConfig.eq_caller {u : UpdateSrtConfig} (h : u.mode = .caller) :
    ∃ remoteHost remotePort bindHost common,
      u = .caller remoteHost remotePort bindHost common := by
  cases u with
  | listener => exact absurd h SrtMode.noConfusion
  | caller remoteHost remotePort bindHost common =>
    exact ⟨remoteHost, remotePort, bindHost, common, rfl⟩

namespace UpdateInputRequest

variable {u : UpdateInputRequest}

theorem eq_udp (h : u.streamType = .udp) : ∃ bindHost bindPort name multicastGroup ssm,
    u = .udp bindHost bindPort name multicastGroup ssm := by
  cases u with
  | udp bindHost bindPort name multicastGroup ssm =>
    exact ⟨bindHost, bindPort, name, multicastGroup, ssm, rfl⟩
  | srt => exact absurd h StreamType.noConfusion
  | spts => exact absurd h StreamType.noConfusion

theorem eq_srt {mode : SrtMode} (h : u.streamType = .srt mode) :
    ∃ name config, u = .srt name config ∧ config.mode = mode := by
  cases u with
  | udp => exact absurd h StreamType.noConfusion
  | srt name config => exact ⟨name, config, rfl, StreamType.srt.inj h⟩
  | spts => exact absurd h StreamType.noConfusion

theorem eq_spts (h : u.streamType = .spts) :
    ∃ name fillWithNulls, u = .spts name fillWithNulls := by
  cases u with
  | udp => exact absurd h StreamType.noConfusion
  | srt => exact absurd h StreamType.noConfusion
  | spts name fillWithNulls => exact ⟨name, fillWithNulls, rfl⟩

end UpdateInputRequest

namespace UpdateOutputRequest

variable {u : UpdateOutputRequest}

theorem eq_udp (h : u.streamType = .udp) :
    ∃ remoteHost remotePort bindHost multicastTtl multicastInterface name,
      u = .udp remoteHost remotePort bindHost multicastTtl multicastInterface name := by
  cases u with
  | udp remoteHost remotePort bindHost multicastTtl multicastInterface name =>
    exact ⟨remoteHost, remotePort, bindHost, multicastTtl, multicastInterface, name, rfl⟩
  | srt => exact absurd h StreamType.noConfusion

theorem eq_srt {mode : SrtMode} (h : u.streamType = .srt mode) :
    ∃ name config, u = .srt name config ∧ config.mode = mode := by
  cases u with
  | udp => exact absurd h StreamType.noConfusion
  | srt name config => exact ⟨name, config, rfl, StreamType.srt.inj h⟩

end UpdateOutputRequest

/-! ## Inputs -/

def UpdateInputRequest.combine : UpdateInputRequest → UpdateInputRequest → UpdateInputRequest
  | .udp bindHost bindPort name multicastGroup ssm,
    .udp bindHost' bindPort' name' multicastGroup' ssm' =>
    .udp (bindHost'.or bindHost) (bindPort'.or bindPort) (name'.or name)
      (multicastGroup'.or multicastGroup) (ssm'.or ssm)
  | .srt name config, .srt name' config' => .srt (name'.or name) (config.combine config')
  | .spts name fillWithNulls, .spts name' fillWithNulls' =>
    .spts (name'.or name) (fillWithNulls'.or fillWithNulls)
  | _, later => later

theorem UpdateInputRequest.combine_self (u : UpdateInputRequest) : u.combine u = u := by
  cases u <;> simp [UpdateInputRequest.combine, UpdateSrtConfig.combine_self]

theorem mergeInputConfig_combine {c : CreateInputRequest} {u₁ u₂ : UpdateInputRequest}
    (h₁ : c.streamType = u₁.streamType) (h₂ : c.streamType = u₂.streamType) :
    ((mergeInputConfig c u₁).bind fun merged => mergeInputConfig merged u₂) =
      mergeInputConfig c (u₁.combine u₂) := by
  cases c with
  | udp =>
    obtain ⟨_, _, _, _, _, rfl⟩ := UpdateInputRequest.eq_udp h₁.symm
    obtain ⟨_, _, _, _, _, rfl⟩ := UpdateInputRequest.eq_udp h₂.symm
    simp only [mergeInputConfig, Except.bind, UpdateInputRequest.combine, Option.or_assoc]
  | srt name config =>
    obtain ⟨_, config₁, rfl, hmode₁⟩ := UpdateInputRequest.eq_srt h₁.symm
    obtain ⟨_, config₂, rfl, hmode₂⟩ := UpdateInputRequest.eq_srt h₂.symm
    cases config with
    | listener =>
      obtain ⟨_, _, _, rfl⟩ := UpdateSrtConfig.eq_listener hmode₁
      obtain ⟨_, _, _, rfl⟩ := UpdateSrtConfig.eq_listener hmode₂
      simp only [mergeInputConfig, Except.bind, UpdateInputRequest.combine,
        UpdateSrtConfig.combine, mergeCommon_combine, Option.or_assoc]
    | caller =>
      obtain ⟨_, _, _, _, rfl⟩ := UpdateSrtConfig.eq_caller hmode₁
      obtain ⟨_, _, _, _, rfl⟩ := UpdateSrtConfig.eq_caller hmode₂
      simp only [mergeInputConfig, Except.bind, UpdateInputRequest.combine,
        UpdateSrtConfig.combine, mergeCommon_combine, Option.or_assoc]
  | spts =>
    obtain ⟨_, _, rfl⟩ := UpdateInputRequest.eq_spts h₁.symm
    obtain ⟨_, _, rfl⟩ := UpdateInputRequest.eq_spts h₂.symm
    simp only [mergeInputConfig, Except.bind, UpdateInputRequest.combine, Option.or_assoc]

theorem mergeInputConfig_error_iff (c : CreateInputRequest) (u : UpdateInputRequest) :
    (∃ e, mergeInputConfig c u = .error e) ↔ ¬ c.streamType = u.streamType := by
  cases c with
  | udp =>
    cases u <;>
      simp [mergeInputConfig, CreateInputRequest.streamType, UpdateInputRequest.streamType]
  | spts =>
    cases u <;>
      simp [mergeInputConfig, CreateInputRequest.streamType, UpdateInputRequest.streamType]
  | srt name config =>
    cases u with
    | udp =>
      simp [mergeInputConfig, CreateInputRequest.streamType, UpdateInputRequest.streamType]
    | spts =>
      simp [mergeInputConfig, CreateInputRequest.streamType, UpdateInputRequest.streamType]
    | srt newName updateConfig =>
      cases config <;> cases updateConfig <;>
        simp [mergeInputConfig, CreateInputRequest.streamType, UpdateInputRequest.streamType,
          SrtInputConfig.mode, UpdateSrtConfig.mode]

/-! ## Outputs -/

def UpdateOutputRequest.combine :
    UpdateOutputRequest → UpdateOutputRequest → UpdateOutputRequest
  | .udp remoteHost remotePort bindHost multicastTtl multicastInterface name,
    .udp remoteHost' remotePort' bindHost' multicastTtl' multicastInterface' name' =>
    .udp (remoteHost'.or remoteHost) (remotePort'.or remotePort) (bindHost'.or bindHost)
      (multicastTtl'.or multicastTtl) (multicastInterface'.or multicastInterface)
      (name'.or name)
  | .srt name config, .srt name' config' => .srt (name'.or name) (config.combine config')
  | _, later => later

theorem UpdateOutputRequest.combine_self (u : UpdateOutputRequest) : u.combine u = u := by
  cases u <;> simp [UpdateOutputRequest.combine, UpdateSrtConfig.combine_self]

theorem mergeOutputConfig_combine {c : CreateOutputRequest} {u₁ u₂ : UpdateOutputRequest}
    (h₁ : c.streamType = u₁.streamType) (h₂ : c.streamType = u₂.streamType) :
    ((mergeOutputConfig c u₁).bind fun merged => mergeOutputConfig merged u₂) =
      mergeOutputConfig c (u₁.combine u₂) := by
  cases c with
  | udp =>
    obtain ⟨_, _, _, _, _, _, rfl⟩ := UpdateOutputRequest.eq_udp h₁.symm
    obtain ⟨_, _, _, _, _, _, rfl⟩ := UpdateOutputRequest.eq_udp h₂.symm
    simp only [mergeOutputConfig, Except.bind, UpdateOutputRequest.combine, Option.or_assoc]
  | srt inputId name config =>
    obtain ⟨_, config₁, rfl, hmode₁⟩ := UpdateOutputRequest.eq_srt h₁.symm
    obtain ⟨_, config₂, rfl, hmode₂⟩ := UpdateOutputRequest.eq_srt h₂.symm
    cases config with
    | listener =>
      obtain ⟨_, _, _, rfl⟩ := UpdateSrtConfig.eq_listener hmode₁
      obtain ⟨_, _, _, rfl⟩ := UpdateSrtConfig.eq_listener hmode₂
      simp only [mergeOutputConfig, Except.bind, UpdateOutputRequest.combine,
        UpdateSrtConfig.combine, mergeCommon_combine, Option.or_assoc]
    | caller =>
      obtain ⟨_, _, _, _, rfl⟩ := UpdateSrtConfig.eq_caller hmode₁
      obtain ⟨_, _, _, _, rfl⟩ := UpdateSrtConfig.eq_caller hmode₂
      simp only [mergeOutputConfig, Except.bind, UpdateOutputRequest.combine,
        UpdateSrtConfig.combine, mergeCommon_combine, Option.or_assoc]

theorem mergeOutputConfig_error_iff (c : CreateOutputRequest) (u : UpdateOutputRequest) :
    (∃ e, mergeOutputConfig c u = .error e) ↔ ¬ c.streamType = u.streamType := by
  cases c with
  | udp =>
    cases u <;>
      simp [mergeOutputConfig, CreateOutputRequest.streamType, UpdateOutputRequest.streamType]
  | srt inputId name config =>
    cases u with
    | udp =>
      simp [mergeOutputConfig, CreateOutputRequest.streamType, UpdateOutputRequest.streamType]
    | srt newName updateConfig =>
      cases config <;> cases updateConfig <;>
        simp [mergeOutputConfig, CreateOutputRequest.streamType, UpdateOutputRequest.streamType,
          SrtOutputConfig.mode, UpdateSrtConfig.mode]

/-- Updates of inputs and of outputs compose. The strings that an update can clear are
combined as the client writes them, so an empty string is one that the update provides. -/
theorem patchLaws :
    PatchLaws mergeInputConfig UpdateInputRequest.combine
      (fun c u => c.streamType = u.streamType) ∧
    PatchLaws mergeOutputConfig UpdateOutputRequest.combine
      (fun c u => c.streamType = u.streamType) ∧
    ∀ later earlier, deserializeOptionalString (later.or earlier) =
      (deserializeOptionalString later).or (deserializeOptionalString earlier) := by
  refine ⟨?_, ?_, deserializeOptionalString_or⟩
  · refine .of_combine_self UpdateInputRequest.combine_self ?_ mergeInputConfig_error_iff
    intro c u₁ u₂ h₁ h₂
    exact mergeInputConfig_combine h₁ h₂
  · refine .of_combine_self UpdateOutputRequest.combine_self ?_ mergeOutputConfig_error_iff
    intro c u₁ u₂ h₁ h₂
    exact mergeOutputConfig_combine h₁ h₂

/-- An SRT output with a passphrase, one update that replaces it and one that clears it. -/
example : mergeOutputConfig
    (.srt 1 none (.listener none (some 9000) none
      { SrtCommonConfig.default with passphrase := some "a passphrase" } none))
    ((UpdateOutputRequest.srt none (.listener none none
      ⟨none, deserializeOptionalString (some "another one"), none, none, none⟩)).combine
      (.srt none (.listener none none
        ⟨none, deserializeOptionalString (some ""), none, none, none⟩))) =
    .ok (.srt 1 none (.listener none (some 9000) none .default none)) := rfl

end StreamGateway
