import StreamGateway.Endpoints
import StreamGateway.OutputLosses

/-!
# Legacy addresses

The older fields `target_addr` and `destination_addr` hold a host and a port in one string.
The string is written with the formatter, and the getters cut it at its first colon. It is
also the only form of the destination in the configuration of a UDP output that runs.
-/
namespace StreamGateway

/-! ## The parsers -/

/-- A configuration with the given address in its legacy field, and no host or port in the
new ones. -/
def CreateRequest.LegacyOnly (addr : String) : CreateRequest → Prop
  | .input (.srt _ (.caller remoteHost remotePort _ _ targetAddr)) =>
    remoteHost = none ∧ remotePort = none ∧ targetAddr = some addr
  | .output (.udp _ remoteHost remotePort _ _ _ _ _ destinationAddr) =>
    remoteHost = none ∧ remotePort = none ∧ destinationAddr = some addr
  | .output (.srt _ _ (.caller remoteHost remotePort _ _ destinationAddr)) =>
    remoteHost = none ∧ remotePort = none ∧ destinationAddr = some addr
  | _ => False

/-- The getters give the host and the port that the address was made of, and an output that
is started with the configuration has the address as its destination. -/
structure CreateRequest.Recovers (req : CreateRequest) (host : String) (port : UInt16) :
    Prop where
  endpoint : req.endpoint = ⟨some host, some port⟩
  restarted : ∀ config, req = .output config → ∀ env input k rt input' rt',
    startOutputInternal env input k config rt = .ok (input', rt') →
    (input'.outputTasks.lookup k).map OutputInfo.destination = some (hostPort host port)

theorem CreateRequest.LegacyOnly.endpoint_eq {addr : String} {req : CreateRequest}
    (h : req.LegacyOnly addr) : req.endpoint = ⟨hostPart addr, portPart addr⟩ := by
  cases req with
  | input req =>
    cases req with
    | udp => exact absurd h id
    | spts => exact absurd h id
    | srt name config =>
      cases config with
      | listener => exact absurd h id
      | caller =>
        obtain ⟨rfl, rfl, rfl⟩ := h
        rfl
  | output req =>
    cases req with
    | udp =>
      obtain ⟨rfl, rfl, rfl⟩ := h
      rfl
    | srt inputId name config =>
      cases config with
      | listener => exact absurd h id
      | caller =>
        obtain ⟨rfl, rfl, rfl⟩ := h
        rfl

/-- An output that is started shows the destination that its configuration showed. -/
theorem startOutputInternal_destination {env : Env} {input input' : InputInfo} {k : Int}
    {config : CreateOutputRequest} {rt rt' : Runtime}
    (h : startOutputInternal env input k config rt = .ok (input', rt')) :
    (input'.outputTasks.lookup k).map OutputInfo.destination =
      some (stoppedDestination config).1 := by
  cases config with
  | srt inputId name config =>
    obtain ⟨rfl, rfl⟩ := Prod.mk.inj (Except.ok.inj h)
    rw [AList.lookup_insert]
    rfl
  | udp inputId remoteHost remotePort automaticPort name bindHost multicastTtl
      multicastInterface destinationAddr =>
    simp only [startOutputInternal] at h
    split at h
    · exact absurd h (by simp)
    rename_i output rt₁ hc
    obtain ⟨rfl, rfl⟩ := Prod.mk.inj (Except.ok.inj h)
    obtain ⟨addr, _, rfl, _⟩ := createUdpOutput_ok hc
    rw [AList.lookup_insert]
    rfl

theorem CreateRequest.LegacyOnly.recovers_iff {req : CreateRequest} {host : String}
    {port : UInt16} (h : req.LegacyOnly (hostPort host port)) :
    req.Recovers host port ↔ ':' ∉ host.toList := by
  constructor
  · intro hrecovers
    have hendpoint := hrecovers.endpoint
    rw [h.endpoint_eq, Endpoint.mk.injEq] at hendpoint
    exact colon_notMem_hostPart hendpoint.1
  · intro hcolon
    have hendpoint : req.endpoint = ⟨some host, some port⟩ := by
      rw [h.endpoint_eq, hostPart_hostPort hcolon, portPart_hostPort hcolon]
    refine ⟨hendpoint, ?_⟩
    rintro config rfl env input k rt input' rt' hs
    rw [startOutputInternal_destination hs]
    cases config with
    | udp =>
      obtain ⟨hhost, hport⟩ := Endpoint.mk.inj hendpoint
      simp only [stoppedDestination, hhost, hport, Option.getD_some]
    | srt inputId name config =>
      cases config with
      | listener => exact absurd h id
      | caller =>
        obtain ⟨hhost, hport⟩ := Endpoint.mk.inj hendpoint
        simp only [stoppedDestination, srtDestination, hhost, hport, Option.getD_some]

/-- A UDP output as `create_udp_output` stores it. -/
def storedOutputRequest (addr : String) : CreateRequest :=
  .output (.udp 1 none none none (some "TV Channel 1 Backup") none none none (some addr))

theorem storedOutput_recovers :
    (storedOutputRequest (hostPort "127.0.0.1" 9000)).Recovers "127.0.0.1" 9000 := by
  have hlegacy : (storedOutputRequest (hostPort "127.0.0.1" 9000)).LegacyOnly
      (hostPort "127.0.0.1" 9000) := ⟨rfl, rfl, rfl⟩
  exact hlegacy.recovers_iff.mpr (by decide)

/-- An IPv6 address is cut inside. -/
theorem ipv6_not_recovered :
    ¬ ∀ (req : CreateRequest) (host : String) (port : UInt16), port ≠ 0 →
      req.LegacyOnly (hostPort host port) → req.Recovers host port := by
  intro h
  have hrecovers := h (storedOutputRequest (hostPort "[::1]" 9000)) "[::1]" 9000 (by decide)
    ⟨rfl, rfl, rfl⟩
  exact absurd hrecovers.endpoint (by decide)

/-! ## Two ways to a sender -/

/-- The arguments of `create_udp_output` that decide where and how it sends. -/
structure UdpSender where
  destinationAddr : String
  bindHost : Option String
  multicastConfig : Option MulticastOutputConfig

/-- The sender under the name and for the output that are given. -/
def UdpSender.create (s : UdpSender) (env : Env) (input : InputInfo) (outputId : Int)
    (name : Option String) (rt : Runtime) : Except HttpError (OutputInfo × Runtime) :=
  createUdpOutput env s.destinationAddr input outputId name s.bindHost s.multicastConfig
    rt.stateChangeTx rt

namespace CreateOutputRequest

/-- `create_output` creates this sender for the request. -/
def CreatesSender (req : CreateOutputRequest) (s : UdpSender) : Prop :=
  ∀ env input inputId k rt, spawnOutput env req input inputId k (outputDestination req).1 rt =
    s.create env input k req.name rt

/-- `start_output_internal` creates this sender for the request. -/
def RestartsSender (req : CreateOutputRequest) (s : UdpSender) : Prop :=
  ∀ env input k rt, startOutputInternal env input k req rt =
    match s.create env input k req.name rt with
    | .error e => .error ("Failed to create UDP output: " ++ e.message)
    | .ok (output, rt) =>
      .ok ({ input with outputTasks := input.outputTasks.insert k output }, rt)

end CreateOutputRequest

/-- The sender can be read off the output that it creates. -/
theorem UdpSender.eq_of_create {s s' : UdpSender} {env : Env} {input : InputInfo} {k : Int}
    {name : Option String} {rt rt₁ rt₂ : Runtime} {output : OutputInfo}
    (h : s.create env input k name rt = .ok (output, rt₁))
    (h' : s'.create env input k name rt = .ok (output, rt₂)) : s = s' := by
  obtain ⟨addr, _, heq, _⟩ := createUdpOutput_ok h
  obtain ⟨addr', _, heq', _⟩ := createUdpOutput_ok h'
  have hdestination : s.destinationAddr = s'.destinationAddr :=
    congrArg OutputInfo.destination (heq.symm.trans heq')
  have hspec := congrArg (fun o => o.abortHandle.map Task.spec) (heq.symm.trans heq')
  simp only [udpOutputInfo, Runtime.newTask, Option.map_some, Option.some.injEq,
    TaskSpec.udpOutput.injEq] at hspec
  obtain ⟨-, -, -, -, hbind, hmulticast, -⟩ := hspec
  cases s
  cases s'
  simp only at hdestination hbind hmulticast
  rw [hdestination, hbind, hmulticast]

theorem UdpSender.create_localEnv (s : UdpSender) (input : InputInfo) (k : Int)
    (name : Option String) (rt : Runtime) :
    ∃ output rt', s.create localEnv input k name rt = .ok (output, rt') := ⟨_, _, rfl⟩

/-- An entry to try senders on. -/
def sampleInput : InputInfo :=
  idleInput 1 none .listening 0 (udpInputRequest 5000) none none

namespace CreateOutputRequest

variable {req : CreateOutputRequest} {s s' : UdpSender}

theorem CreatesSender.eq (h : req.CreatesSender s) (h' : req.CreatesSender s') : s = s' := by
  obtain ⟨output, rt, hs⟩ := s.create_localEnv sampleInput 1 req.name (.init none)
  have hs' : s'.create localEnv sampleInput 1 req.name (.init none) = .ok (output, rt) := by
    rw [← h' localEnv sampleInput 1, h localEnv sampleInput 1, hs]
  exact UdpSender.eq_of_create hs hs'

theorem RestartsSender.eq (h : req.RestartsSender s) (h' : req.RestartsSender s') : s = s' := by
  obtain ⟨output, rt, hs⟩ := s.create_localEnv sampleInput 1 req.name (.init none)
  obtain ⟨output', rt', hs'⟩ := s'.create_localEnv sampleInput 1 req.name (.init none)
  have hstart := (h localEnv sampleInput 1 (.init none)).symm.trans (h' localEnv _ _ _)
  rw [hs, hs'] at hstart
  have hlookup := congrArg (fun i => i.outputTasks.lookup 1)
    (Prod.mk.inj (Except.ok.inj hstart)).1
  simp only [AList.lookup_insert, Option.some.injEq] at hlookup
  rw [hlookup] at hs
  exact UdpSender.eq_of_create hs hs'

/-- What `create_output` passes. -/
theorem createsSender_udp (inputId : Int) (remoteHost : Option String)
    (remotePort : Option UInt16) (automaticPort : Option Bool) (name bindHost : Option String)
    (multicastTtl : Option UInt8) (multicastInterface destinationAddr : Option String) :
    CreatesSender (.udp inputId remoteHost remotePort automaticPort name bindHost multicastTtl
        multicastInterface destinationAddr)
      ⟨hostPort ((preferHost remoteHost destinationAddr).getD "127.0.0.1")
        ((preferPort remotePort destinationAddr).getD 8000), bindHost,
        createMulticastConfig remoteHost multicastTtl multicastInterface⟩ :=
  fun _ _ _ _ _ => rfl

/-- What `start_output_internal` passes. -/
theorem restartsSender_udp (inputId : Int) (remoteHost : Option String)
    (remotePort : Option UInt16) (automaticPort : Option Bool) (name bindHost : Option String)
    (multicastTtl : Option UInt8) (multicastInterface destinationAddr : Option String) :
    RestartsSender (.udp inputId remoteHost remotePort automaticPort name bindHost multicastTtl
        multicastInterface destinationAddr)
      ⟨hostPort ((preferHost remoteHost destinationAddr).getD "127.0.0.1")
        ((preferPort remotePort destinationAddr).getD 8000), bindHost,
        multicastConfigFor ((preferHost remoteHost destinationAddr).getD "127.0.0.1")
          multicastTtl multicastInterface⟩ :=
  fun _ _ _ _ => rfl

end CreateOutputRequest

/-- The group address is in the legacy field alone, where `create_output` does not look for
it. -/
def NamesLegacyGroup (remoteHost destinationAddr : Option String) : Prop :=
  remoteHost = none ∧ ∃ addr host ip, destinationAddr = some addr ∧ hostPart addr = some host ∧
    parseIpAddr host = some ip ∧ ip.isMulticast = true

theorem multicastConfigFor_eq_none {host : String} {multicastTtl : Option UInt8}
    {multicastInterface : Option String} :
    multicastConfigFor host multicastTtl multicastInterface = none ↔
      ¬ ∃ ip, parseIpAddr host = some ip ∧ ip.isMulticast = true := by
  unfold multicastConfigFor
  cases parseIpAddr host with
  | none => simp
  | some ip => by_cases h : ip.isMulticast = true <;> simp [h]

/-- The defaults of both paths are no group addresses. -/
theorem multicastConfigFor_default (multicastTtl : Option UInt8)
    (multicastInterface : Option String) :
    multicastConfigFor "127.0.0.1" multicastTtl multicastInterface = none ∧
      multicastConfigFor "" multicastTtl multicastInterface = none := by
  have hlocal : parseIpAddr "127.0.0.1" = some (.v4 [127, 0, 0, 1]) := by decide +kernel
  have hempty : parseIpAddr "" = none := by decide +kernel
  constructor
  · simp [multicastConfigFor, hlocal, IpAddr.isMulticast]
  · simp [multicastConfigFor, hempty]

/-- The field and the effective host give the same multicast configuration, but for a group
address in the legacy field. -/
theorem createMulticastConfig_eq_iff (remoteHost destinationAddr : Option String)
    (multicastTtl : Option UInt8) (multicastInterface : Option String) :
    createMulticastConfig remoteHost multicastTtl multicastInterface =
      multicastConfigFor ((preferHost remoteHost destinationAddr).getD "127.0.0.1") multicastTtl
        multicastInterface ↔ ¬ NamesLegacyGroup remoteHost destinationAddr := by
  obtain ⟨hlocal, hempty⟩ := multicastConfigFor_default multicastTtl multicastInterface
  cases remoteHost with
  | some host =>
    refine iff_of_true ?_ fun h => absurd h.1 (by simp)
    by_cases hhost : host = ""
    · subst hhost
      simp [createMulticastConfig, preferHost, hlocal, hempty]
    · simp [createMulticastConfig, preferHost, hhost]
  | none =>
    cases destinationAddr with
    | none =>
      refine iff_of_true ?_ ?_
      · simp [createMulticastConfig, preferHost, hlocal]
      · rintro ⟨_, addr, _, _, haddr, _⟩
        cases haddr
    | some addr =>
      obtain ⟨host, hhost⟩ := Option.isSome_iff_exists.mp (hostPart_isSome addr)
      have hgroup : NamesLegacyGroup none (some addr) ↔
          ∃ ip, parseIpAddr host = some ip ∧ ip.isMulticast = true := by
        constructor
        · rintro ⟨_, addr', host', ip, haddr, hhost', hip⟩
          obtain rfl := Option.some.inj haddr
          obtain rfl := Option.some.inj (hhost.symm.trans hhost')
          exact ⟨ip, hip⟩
        · rintro ⟨ip, hip⟩
          exact ⟨rfl, addr, host, ip, rfl, hhost, hip⟩
      rw [hgroup, ← @multicastConfigFor_eq_none host multicastTtl multicastInterface]
      simp only [createMulticastConfig, preferHost, hhost, Option.getD_some, Option.bind_none]
      exact eq_comm

/-- The two paths set up one sender, if and only if no group address is in the legacy field
alone. -/
theorem sameSender_iff (inputId : Int) (remoteHost : Option String) (remotePort : Option UInt16)
    (automaticPort : Option Bool) (name bindHost : Option String) (multicastTtl : Option UInt8)
    (multicastInterface destinationAddr : Option String) :
    (∃ s, CreateOutputRequest.CreatesSender (.udp inputId remoteHost remotePort automaticPort
        name bindHost multicastTtl multicastInterface destinationAddr) s ∧
      CreateOutputRequest.RestartsSender (.udp inputId remoteHost remotePort automaticPort
        name bindHost multicastTtl multicastInterface destinationAddr) s) ↔
    ¬ NamesLegacyGroup remoteHost destinationAddr := by
  have hcreates := CreateOutputRequest.createsSender_udp inputId remoteHost remotePort
    automaticPort name bindHost multicastTtl multicastInterface destinationAddr
  have hrestarts := CreateOutputRequest.restartsSender_udp inputId remoteHost remotePort
    automaticPort name bindHost multicastTtl multicastInterface destinationAddr
  rw [← createMulticastConfig_eq_iff remoteHost destinationAddr multicastTtl multicastInterface]
  constructor
  · rintro ⟨s, hs, hs'⟩
    have heq := (hcreates.eq hs).trans (hs'.eq hrestarts)
    exact congrArg UdpSender.multicastConfig heq
  · intro heq
    refine ⟨_, hcreates, ?_⟩
    rw [heq]
    exact hrestarts

/-- A multicast output in the legacy form, with a TTL, is created as a unicast output and
restarted as a multicast output. -/
theorem legacyGroup_senders_differ :
    ¬ ∀ (inputId : Int) (remoteHost : Option String) (remotePort : Option UInt16)
      (automaticPort : Option Bool) (name bindHost : Option String)
      (multicastTtl : Option UInt8) (multicastInterface destinationAddr : Option String),
      ∃ s, CreateOutputRequest.CreatesSender (.udp inputId remoteHost remotePort automaticPort
          name bindHost multicastTtl multicastInterface destinationAddr) s ∧
        CreateOutputRequest.RestartsSender (.udp inputId remoteHost remotePort automaticPort
          name bindHost multicastTtl multicastInterface destinationAddr) s := by
  intro h
  obtain ⟨s, hs, hs'⟩ :=
    h 1 none none (some false) none none (some 8) none (some "239.1.1.1:5000")
  have hcreates := CreateOutputRequest.createsSender_udp 1 none none (some false) none none
    (some 8) none (some "239.1.1.1:5000")
  have hrestarts := CreateOutputRequest.restartsSender_udp 1 none none (some false) none none
    (some 8) none (some "239.1.1.1:5000")
  have heq := (hcreates.eq hs).trans (hs'.eq hrestarts)
  exact absurd (congrArg UdpSender.multicastConfig heq) (by decide +kernel)

end StreamGateway
