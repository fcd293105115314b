import StreamGateway.InputUpdates
import StreamGateway.SocketAddresses

/-!
# Addresses that are accepted and addresses that can be bound

The validation of a request skips an empty host and takes IPv6 addresses. The task of the
stream writes the host in front of a port and parses the result as a socket address. So a
request may be accepted and answered, while its task cannot open a socket.
-/
namespace StreamGateway

open Prog

/-! ## The texts that are parsed -/

/-- The address that `create_multicast_socket` binds to. A group replaces the interface. -/
def multicastSocketText (bindAddr : String) (port : UInt16) (multicastGroup : Option String) :
    String :=
  let actualBindAddr := match multicastGroup with
    | some group => group
    | none => bindAddr
  hostPort actualBindAddr port

/-- The address that `create_multicast_output_socket` binds to, with a port of the system. -/
def multicastOutputSocketText (bindHost : Option String) : String :=
  match bindHost with
  | some host => host ++ ":0"
  | none => "0.0.0.0:0"

/-- The address that the task of a UDP stream binds its socket to. -/
def TaskSpec.socketText : TaskSpec → Option String
  | .udpInput _ _ listenPort bindHost multicastGroup _ _ _ =>
    some (multicastSocketText (bindHost.getD "0.0.0.0") listenPort multicastGroup)
  | .udpOutput _ _ _ _ bindHost _ _ => some (multicastOutputSocketText bindHost)
  | _ => none

/-- The task of the stream gets past the parser. -/
def TaskSpec.ParsesSocket (spec : TaskSpec) : Prop :=
  ∃ text, spec.socketText = some text ∧ (parseSocketAddr text).isSome

/-- The host is there and is not an IPv6 address. -/
def PlainHost (host : String) : Prop := host ≠ "" ∧ ':' ∉ host.toList

instance (host : String) : Decidable (PlainHost host) := inferInstanceAs (Decidable (_ ∧ _))

theorem multicastSocketText_eq (bindAddr : String) (port : UInt16)
    (multicastGroup : Option String) : multicastSocketText bindAddr port multicastGroup =
      hostPort (multicastGroup.getD bindAddr) port := by
  cases multicastGroup <;> rfl

theorem multicastOutputSocketText_eq (bindHost : Option String) :
    multicastOutputSocketText bindHost = hostPort (bindHost.getD "0.0.0.0") 0 := by
  have h0 : ":" ++ toString (0 : UInt16) = ":0" := by decide +kernel
  cases bindHost with
  | none => decide +kernel
  | some host =>
    show host ++ ":0" = host ++ ":" ++ toString (0 : UInt16)
    rw [String.append_assoc, h0]

/-! ## What the validation accepts -/

theorem parseIpAddr_wildcard : (parseIpAddr "0.0.0.0").isSome ∧ (parseIpAddr "::").isSome := by
  decide +kernel

theorem validateBindAddress_parses {env : Env} {host : String}
    (h : validateBindAddress env host = .ok ()) : (parseIpAddr host).isSome := by
  unfold validateBindAddress at h
  split at h
  · rename_i hwild
    rcases hwild with rfl | rfl
    · exact parseIpAddr_wildcard.1
    · exact parseIpAddr_wildcard.2
  · cases hp : parseIpAddr host with
    | none =>
      rw [hp] at h
      exact absurd h (by simp)
    | some ip => rfl

theorem validateMulticastGroup_parses {group : String}
    (h : validateMulticastGroup group = .ok ()) : (parseIpAddr group).isSome := by
  unfold validateMulticastGroup at h
  cases hp : parseIpAddr group with
  | none =>
    rw [hp] at h
    exact absurd h (by simp)
  | some ip => rfl

/-- A field that is there and not empty has passed the check. -/
theorem validateOptional_ok {check : String → Except String Unit} {field : Option String}
    {addr : String} (h : validateOptional check field = .ok ()) (hf : field = some addr)
    (hne : addr ≠ "") : check addr = .ok () := by
  subst hf
  simpa [validateOptional, hne] using h

/-- A host that is an address if it is not empty makes a socket address when it is plain. -/
theorem parseSocketAddr_iff_plain {host : String}
    (h : host ≠ "" → (parseIpAddr host).isSome) (port : UInt16) :
    (parseSocketAddr (hostPort host port)).isSome ↔ PlainHost host := by
  by_cases hempty : host = ""
  · subst hempty
    simp [parseSocketAddr_hostPort_empty, PlainHost]
  · rw [parseSocketAddr_hostPort_iff (h hempty) port]
    exact ⟨fun hc => ⟨hempty, hc⟩, fun hp => hp.2⟩

section Accepted
variable {env : Env} {bindHost multicastGroup : Option String}

theorem validateUdpInputConfig_ok {bindPort : Option UInt16} {automaticPort : Option Bool}
    {name sourceSpecificMulticast : Option String} {listenPort : Option UInt16}
    (h : validateUdpInputConfig env (.udp bindHost bindPort automaticPort name multicastGroup
      sourceSpecificMulticast listenPort) = .ok ()) :
    validateOptional (validateBindAddress env) bindHost = .ok () ∧
      validateOptional validateMulticastGroup multicastGroup = .ok () := by
  cases hb : validateOptional (validateBindAddress env) bindHost with
  | error e => simp [validateUdpInputConfig, hb, Bind.bind, Except.bind] at h
  | ok _ =>
    cases hg : validateOptional validateMulticastGroup multicastGroup with
    | error e => simp [validateUdpInputConfig, hb, hg, Bind.bind, Except.bind] at h
    | ok _ => exact ⟨rfl, rfl⟩

theorem validateUdpOutputConfig_ok {inputId : Int} {remoteHost : Option String}
    {remotePort : Option UInt16} {automaticPort : Option Bool} {name : Option String}
    {multicastTtl : Option UInt8} {multicastInterface destinationAddr : Option String}
    (h : validateUdpOutputConfig env (.udp inputId remoteHost remotePort automaticPort name
      bindHost multicastTtl multicastInterface destinationAddr) = .ok ()) :
    validateOptional (validateBindAddress env) bindHost = .ok () := by
  cases hb : validateOptional (validateBindAddress env) bindHost with
  | error e => simp [validateUdpOutputConfig, hb, Bind.bind, Except.bind] at h
  | ok _ => rfl

theorem bindHost_parses (h : validateOptional (validateBindAddress env) bindHost = .ok ())
    (hne : bindHost.getD "0.0.0.0" ≠ "") : (parseIpAddr (bindHost.getD "0.0.0.0")).isSome := by
  cases bindHost with
  | none => exact parseIpAddr_wildcard.1
  | some host => exact validateBindAddress_parses (validateOptional_ok h rfl hne)

theorem multicastHost_parses (hb : validateOptional (validateBindAddress env) bindHost = .ok ())
    (hg : validateOptional validateMulticastGroup multicastGroup = .ok ())
    (hne : multicastGroup.getD (bindHost.getD "0.0.0.0") ≠ "") :
    (parseIpAddr (multicastGroup.getD (bindHost.getD "0.0.0.0"))).isSome := by
  cases multicastGroup with
  | none => exact bindHost_parses hb hne
  | some group => exact validateMulticastGroup_parses (validateOptional_ok hg rfl hne)

end Accepted

/-! ## The spawned tasks -/

/-- The task of an accepted UDP input or output gets past the parser if and only if the host
that it uses is plain: the group or else the interface, where an absent interface is the
wildcard. -/
theorem accepted_parsesSocket_iff (env : Env) (name bindHost : Option String) :
    (∀ (bindPort : Option UInt16) (automaticPort : Option Bool)
      (multicastGroup sourceSpecificMulticast : Option String) (listenPort : Option UInt16)
      (id : Int) (inputName : Option String) (w w' : World) (held : Bool) (info : InputInfo),
      let req := CreateInputRequest.udp bindHost bindPort automaticPort name multicastGroup
        sourceSpecificMulticast listenPort
      validateUdpInputConfig env req = .ok () →
      (spawnInput req id inputName).alone false w = some (.ok info, held, w') →
      ((∃ task, info.taskHandle = some task ∧ task.spec.ParsesSocket) ↔
        PlainHost (multicastGroup.getD (bindHost.getD "0.0.0.0")))) ∧
    ∀ (reqInput : Int) (remoteHost : Option String) (remotePort : Option UInt16)
      (automaticPort : Option Bool) (multicastTtl : Option UInt8)
      (multicastInterface destination : Option String) (input : InputInfo)
      (inputId outputId : Int) (destinationAddr : String) (rt rt' : Runtime)
      (output : OutputInfo),
      let req := CreateOutputRequest.udp reqInput remoteHost remotePort automaticPort name
        bindHost multicastTtl multicastInterface destination
      validateUdpOutputConfig env req = .ok () →
      spawnOutput env req input inputId outputId destinationAddr rt = .ok (output, rt') →
      ((∃ task, output.abortHandle = some task ∧ task.spec.ParsesSocket) ↔
        PlainHost (bindHost.getD "0.0.0.0")) := by
  constructor
  · intro bindPort automaticPort multicastGroup ssm listenPort id inputName w w' held info req
      hvalid hspawn
    obtain ⟨hb, hg⟩ := validateUdpInputConfig_ok hvalid
    simp only [req, spawnInput, alone_atomic_bind] at hspawn
    obtain ⟨hinfo, _, _⟩ := alone_ret_eq_some.mp hspawn
    obtain rfl := Except.ok.inj hinfo
    have htext : multicastSocketText ((bindHostFilter req.getBindHost).getD "0.0.0.0")
        req.getBindPort multicastGroup =
        hostPort (multicastGroup.getD (bindHost.getD "0.0.0.0")) req.getBindPort := by
      rw [multicastSocketText_eq, bindHostFilter_getD]
      rfl
    rw [← parseSocketAddr_iff_plain (multicastHost_parses hb hg) req.getBindPort, ← htext]
    constructor
    · rintro ⟨_, ⟨rfl⟩, _, ⟨rfl⟩, hparse⟩
      exact hparse
    · exact fun hparse => ⟨_, rfl, _, rfl, hparse⟩
  · intro reqInput remoteHost remotePort automaticPort ttl interface destination input inputId
      outputId destinationAddr rt rt' output req hvalid hspawn
    have hb := validateUdpOutputConfig_ok hvalid
    obtain ⟨destAddr, _, rfl, _⟩ := createUdpOutput_ok hspawn
    rw [← parseSocketAddr_iff_plain (bindHost_parses hb) 0, ← multicastOutputSocketText_eq]
    constructor
    · rintro ⟨_, ⟨rfl⟩, _, ⟨rfl⟩, hparse⟩
      exact hparse
    · exact fun hparse => ⟨_, rfl, _, rfl, hparse⟩

/-- The host has one interface. -/
def interfaceEnv : Env := { localEnv with interfaces := some [.v4 [10, 0, 0, 2]] }

/-- An input that joins a group on the interface, and an output bound to it. -/
theorem accepted_parsesSocket_iff_interface :
    let info := (spawnUdpSection 5000 (some "10.0.0.2") (some "239.0.0.1") none 1 none
      (.boot emptyDatabase)).1
    (∃ task, info.taskHandle = some task ∧ task.spec.ParsesSocket) ∧
      ∃ (output : OutputInfo) (rt' : Runtime),
        spawnOutput interfaceEnv (.udp 1 (some "localhost") (some 9000) none none (some "10.0.0.2")
          none none none) info 1 1 "localhost:9000" (.init none) = .ok (output, rt') ∧
        ∃ task, output.abortHandle = some task ∧ task.spec.ParsesSocket := by
  have hinput : validateUdpInputConfig interfaceEnv (.udp (some "10.0.0.2") (some 5000) none none
      (some "239.0.0.1") none none) = .ok () := by
    decide +kernel
  have houtput : validateUdpOutputConfig interfaceEnv (.udp 1 (some "localhost") (some 9000) none
      none (some "10.0.0.2") none none none) = .ok () := by
    decide +kernel
  have hplain : PlainHost "239.0.0.1" ∧ PlainHost "10.0.0.2" := by decide +kernel
  obtain ⟨hin, hout⟩ := accepted_parsesSocket_iff interfaceEnv none (some "10.0.0.2")
  refine ⟨(hin (some 5000) none (some "239.0.0.1") none none 1 none (.boot emptyDatabase) _ false _
    hinput rfl).mpr hplain.1, _, _, rfl, ?_⟩
  exact (hout 1 (some "localhost") (some 9000) none none none none _ 1 1 "localhost:9000"
    (.init none) _ _ houtput rfl).mpr hplain.2

/-- An empty host and the IPv6 wildcard are accepted, and their sockets cannot be opened. -/
theorem accepted_hosts_unparsable :
    let input := CreateInputRequest.udp (some "") (some 5000) none none none none none
    let output := CreateOutputRequest.udp 1 (some "localhost") (some 9000) none none (some "::")
      none none none
    let info := (spawnUdpSection 5000 (bindHostFilter input.getBindHost) none none 1 none
      (.boot emptyDatabase)).1
    validateUdpInputConfig localEnv input = .ok () ∧
      (spawnInput input 1 none).alone false (.boot emptyDatabase) = some (.ok info, false,
        (spawnUdpSection 5000 (some "") none none 1 none (.boot emptyDatabase)).2) ∧
      info.taskHandle.bind (·.spec.socketText) = some ":5000" ∧
      parseSocketAddr ":5000" = none ∧
    validateUdpOutputConfig localEnv output = .ok () ∧
      (∃ sender rt', spawnOutput localEnv output info 1 1 "localhost:9000" (.init none) =
        .ok (sender, rt') ∧ sender.abortHandle.bind (·.spec.socketText) = some ":::0") ∧
      parseSocketAddr ":::0" = none :=
  ⟨rfl, rfl, by decide +kernel, by decide +kernel, rfl, ⟨_, _, rfl, by decide +kernel⟩,
    by decide +kernel⟩

end StreamGateway
