import StreamGateway.Gateway

/-!
# Effective endpoints

A request names its host and its port in new or in legacy fields. What counts is what the
getters make of them. Here the getters are compared with the two functions that rewrite a
request: the assignment of a port when a stream is created, and the merge of an update.
-/
namespace StreamGateway

open Prog

/-- A request to create a stream, which is also its stored configuration. -/
inductive CreateRequest
  | input (req : CreateInputRequest)
  | output (req : CreateOutputRequest)
  deriving DecidableEq, Repr

structure Endpoint where
  host : Option String
  port : Option UInt16
  deriving DecidableEq, Repr

namespace CreateRequest

def isAutomaticPort : CreateRequest → Bool
  | input req => req.isAutomaticPort
  | output req => req.isAutomaticPort

/-- The request that a stream is created with. -/
def assignPort (env : Env) : CreateRequest → Prog World (Except Response CreateRequest)
  | input req => do
    match ← assignInputPort env req with
    | .error r => return .error r
    | .ok (finalReq, _) => return .ok (.input finalReq)
  | output req => do
    match ← assignOutputPort env req with
    | .error r => return .error r
    | .ok (finalReq, _) => return .ok (.output finalReq)

/-- What the getters give: where a listener or a UDP input listens, and where a caller or a
UDP output sends to. A program filter has no endpoint. -/
def endpoint : CreateRequest → Endpoint
  | input (.udp bindHost bindPort automaticPort name multicastGroup sourceSpecificMulticast
      listenPort) =>
    let req := CreateInputRequest.udp bindHost bindPort automaticPort name multicastGroup
      sourceSpecificMulticast listenPort
    ⟨some req.getBindHost, some req.getBindPort⟩
  | input (.srt _ config) =>
    match config with
    | .listener .. => ⟨some config.getBindHost, some config.getBindPort⟩
    | .caller .. => ⟨config.getRemoteHost, config.getRemotePort⟩
  | input (.spts ..) => ⟨none, none⟩
  | output (.srt _ _ config) =>
    match config with
    | .listener .. => ⟨config.getBindHost, config.getBindPort⟩
    | .caller .. => ⟨config.getRemoteHost, config.getRemotePort⟩
  | output req => ⟨req.getRemoteHost, req.getRemotePort⟩

end CreateRequest

/-! ## One port -/

/-- A legacy address with the given port. -/
def NamesAddr (addr : String) (port : UInt16) : Prop :=
  ∃ host text, ':' ∉ host.toList ∧ addr = host ++ ":" ++ text ∧ parseU16 text = some port

/-- One of the two fields is the port, and the other one is absent. -/
def OnlyBindPort (bindPort listenPort : Option UInt16) (port : UInt16) : Prop :=
  (bindPort = some port ∧ listenPort = none) ∨ (bindPort = none ∧ listenPort = some port)

/-- The new field is the port, or the legacy address has it, and the other one is absent. -/
def OnlyRemotePort (remotePort : Option UInt16) (legacyAddr : Option String) (port : UInt16) :
    Prop :=
  (remotePort = some port ∧ legacyAddr = none) ∨
    (remotePort = none ∧ ∃ addr, legacyAddr = some addr ∧ NamesAddr addr port)

namespace CreateRequest

/-- The request names the port once, and does not ask for an automatic one. -/
def NamesPort (port : UInt16) : CreateRequest → Prop
  | input (.udp _ bindPort automaticPort _ _ _ listenPort) =>
    automaticPort ≠ some true ∧ OnlyBindPort bindPort listenPort port
  | input (.srt _ (.listener _ bindPort automaticPort _ listenPort)) =>
    automaticPort ≠ some true ∧ OnlyBindPort bindPort listenPort port
  | input (.srt _ (.caller _ remotePort _ _ targetAddr)) =>
    OnlyRemotePort remotePort targetAddr port
  | input (.spts ..) => False
  | output (.udp _ _ remotePort automaticPort _ _ _ _ destinationAddr) =>
    automaticPort ≠ some true ∧ OnlyRemotePort remotePort destinationAddr port
  | output (.srt _ _ (.listener _ bindPort automaticPort _ listenPort)) =>
    automaticPort ≠ some true ∧ OnlyBindPort bindPort listenPort port
  | output (.srt _ _ (.caller _ remotePort _ _ destinationAddr)) =>
    OnlyRemotePort remotePort destinationAddr port

/-- The stream gets the port that its request names. -/
def HonoursPort (req : CreateRequest) (port : UInt16) : Prop :=
  req.isAutomaticPort = false ∧ ∀ env held w finalReq held' w',
    (req.assignPort env).alone held w = some (.ok finalReq, held', w') →
      finalReq.endpoint.port = some port

/-- The new field is absent, and `automatic_port` does not say that no port is to be
searched. For these two requests the legacy field is not asked. -/
def IgnoresLegacyPort : CreateRequest → Prop
  | output (.udp _ _ remotePort automaticPort ..) => remotePort = none ∧ automaticPort = none
  | output (.srt _ _ (.listener _ bindPort automaticPort ..)) =>
    bindPort = none ∧ automaticPort = none
  | _ => False

end CreateRequest

theorem parseDigits_digits {cs : List Char} {port : UInt16} (h : parseDigits cs = some port) :
    ∀ c ∈ cs, c.isDigit = true := by
  unfold parseDigits at h
  dsimp only at h
  split at h
  · rename_i hc
    exact List.all_eq_true.mp hc.2.1
  · exact absurd h (by simp)

theorem colon_notMem_of_parseU16 {text : String} {port : UInt16}
    (h : parseU16 text = some port) : ':' ∉ text.toList := by
  intro hmem
  unfold parseU16 at h
  split at h
  · rename_i cs hcs
    rw [hcs] at hmem
    rcases List.mem_cons.mp hmem with hc | hc
    · exact absurd hc (by decide)
    · exact absurd (parseDigits_digits h _ hc) (by decide)
  · exact absurd (parseDigits_digits h _ hmem) (by decide)

theorem NamesAddr.portPart {addr : String} {port : UInt16} (h : NamesAddr addr port) :
    portPart addr = some port := by
  obtain ⟨host, text, hhost, rfl, htext⟩ := h
  have hsplit : splitColon (host ++ ":" ++ text) = [host, text] := by
    have hl : (host ++ ":" ++ text).toList = host.toList ++ ':' :: text.toList := by simp
    rw [splitColon, hl, splitOn_append_cons hhost,
      splitOn_of_notMem (colon_notMem_of_parseU16 htext)]
    simp
  rw [StreamGateway.portPart, hsplit]
  exact htext

/-- Only port 0 is written as `:0` at the end. -/
theorem NamesAddr.not_automatic {addr : String} {port : UInt16} (h : NamesAddr addr port)
    (hport : port ≠ 0) : ¬ (addr = "auto" ∨ [':', '0'] <:+ addr.toList ∨ addr = ":0") := by
  have hpart := h.portPart
  obtain ⟨host, text, hhost, rfl, htext⟩ := h
  have hzero : ¬ [':', '0'] <:+ (host ++ ":" ++ text).toList := by
    rintro ⟨front, hfront⟩
    have hl : (host ++ ":" ++ text).toList = host.toList ++ ':' :: text.toList := by simp
    have hr := congrArg List.reverse (hfront.trans hl)
    have htext' : ':' ∉ text.toList.reverse := fun hm =>
      colon_notMem_of_parseU16 htext (List.mem_reverse.mp hm)
    simp only [List.reverse_append, List.reverse_cons, List.append_assoc,
      List.singleton_append, List.reverse_nil, List.nil_append] at hr
    have hs := congrArg (List.splitOn ':') hr
    rw [splitOn_append_cons htext', show ['0', ':'] ++ front.reverse =
      ['0'] ++ ':' :: front.reverse from rfl, splitOn_append_cons (by simp)] at hs
    have hchars : text.toList = ['0'] := by
      rw [← List.reverse_reverse text.toList, ← (List.cons.inj hs).1]
      rfl
    have : text = "0" := String.toList_inj.mp hchars
    subst this
    exact hport (Option.some.inj (htext.symm.trans (by decide)))
  rintro (hauto | hsuffix | heq)
  · rw [hauto, show StreamGateway.portPart "auto" = none by decide +kernel] at hpart
    exact absurd hpart (by simp)
  · exact hzero hsuffix
  · rw [heq] at hzero
    exact hzero List.suffix_rfl

theorem OnlyBindPort.explicit {bindPort listenPort : Option UInt16} {port : UInt16}
    (h : OnlyBindPort bindPort listenPort port) (hport : port ≠ 0) :
    shouldUseAutoPortInput bindPort listenPort = false ∧ listenPort.or bindPort = some port := by
  rcases h with ⟨rfl, rfl⟩ | ⟨rfl, rfl⟩
  · refine ⟨?_, rfl⟩
    unfold shouldUseAutoPortInput
    split <;> simp_all
  · refine ⟨?_, rfl⟩
    unfold shouldUseAutoPortInput
    split <;> simp_all

theorem OnlyRemotePort.preferPort {remotePort : Option UInt16} {legacyAddr : Option String}
    {port : UInt16} (h : OnlyRemotePort remotePort legacyAddr port) (hport : port ≠ 0) :
    preferPort remotePort legacyAddr = some port := by
  rcases h with ⟨rfl, rfl⟩ | ⟨rfl, addr, rfl, haddr⟩
  · exact if_pos hport
  · exact haddr.portPart

/-- Without a new field there is an automatic port, whatever the legacy address says. -/
theorem OnlyRemotePort.automatic {remotePort : Option UInt16} {legacyAddr : Option String}
    {port : UInt16} (h : OnlyRemotePort remotePort legacyAddr port) (hport : port ≠ 0) :
    shouldUseAutoPortOutput remotePort none legacyAddr = remotePort.isNone := by
  rcases h with ⟨rfl, rfl⟩ | ⟨rfl, addr, rfl, haddr⟩
  · unfold shouldUseAutoPortOutput
    split
    · simp_all
    · split <;> simp_all
  · have := haddr.not_automatic hport
    simp [shouldUseAutoPortOutput, this]

theorem shouldUseAutoPortOutput_bindPort {bindPort : Option UInt16} (h : bindPort ≠ some 0) :
    shouldUseAutoPortOutput none bindPort none = bindPort.isNone := by
  cases bindPort with
  | none => rfl
  | some port => simp_all [shouldUseAutoPortOutput]

/-- Unless a port is to be searched in any case, the ports decide if nothing else does. -/
theorem automaticPortOr_eq_true {automaticPort : Option Bool} (h : automaticPort ≠ some true)
    (byPorts : Bool) :
    automaticPortOr automaticPort byPorts = true ↔ byPorts = true ∧ automaticPort = none := by
  cases automaticPort with
  | none => simp [automaticPortOr]
  | some b =>
    obtain rfl : b = false := by simpa using h
    simp [automaticPortOr]

namespace CreateRequest

/-- A request without an automatic port stays as it is. -/
theorem assignPort_explicit {req : CreateRequest} (h : req.isAutomaticPort = false) (env : Env) :
    req.assignPort env = ret (.ok req) := by
  cases req with
  | input req =>
    have h' : req.isAutomaticPort = false := h
    simp [assignPort, assignInputPort, h']
  | output req =>
    have h' : req.isAutomaticPort = false := h
    simp [assignPort, assignOutputPort, h']

/-- The getters find the port that the request names. -/
theorem endpoint_port {req : CreateRequest} {port : UInt16} (hport : port ≠ 0)
    (h : req.NamesPort port) : req.endpoint.port = some port := by
  cases req with
  | input req =>
    cases req with
    | udp => simp [endpoint, CreateInputRequest.getBindPort, (h.2.explicit hport).2]
    | srt name config =>
      cases config with
      | listener => simp [endpoint, SrtInputConfig.getBindPort, (h.2.explicit hport).2]
      | caller => exact OnlyRemotePort.preferPort h hport
    | spts => exact absurd h id
  | output req =>
    cases req with
    | udp => exact h.2.preferPort hport
    | srt inputId name config =>
      cases config with
      | listener => simp [endpoint, SrtOutputConfig.getBindPort, (h.2.explicit hport).2]
      | caller => exact OnlyRemotePort.preferPort h hport

theorem isAutomaticPort_iff {req : CreateRequest} {port : UInt16} (hport : port ≠ 0)
    (h : req.NamesPort port) : req.isAutomaticPort = true ↔ req.IgnoresLegacyPort := by
  cases req with
  | input req =>
    refine iff_of_false ?_ id
    cases req with
    | udp =>
      simp only [isAutomaticPort, CreateInputRequest.isAutomaticPort,
        automaticPortOr_eq_true h.1, (h.2.explicit hport).1]
      simp
    | srt name config =>
      cases config with
      | listener =>
        simp only [isAutomaticPort, CreateInputRequest.isAutomaticPort,
          SrtInputConfig.isAutomaticPort, automaticPortOr_eq_true h.1,
          (h.2.explicit hport).1]
        simp
      | caller => exact Bool.false_ne_true
    | spts => exact Bool.false_ne_true
  | output req =>
    cases req with
    | udp =>
      simp only [isAutomaticPort, CreateOutputRequest.isAutomaticPort,
        automaticPortOr_eq_true h.1, h.2.automatic hport, IgnoresLegacyPort,
        Option.isNone_iff_eq_none]
    | srt inputId name config =>
      cases config with
      | listener bindHost bindPort automaticPort common listenPort =>
        have hbind : bindPort ≠ some 0 := by
          rcases h.2 with ⟨rfl, _⟩ | ⟨rfl, _⟩
          · simpa using hport
          · simp
        simp only [isAutomaticPort, CreateOutputRequest.isAutomaticPort,
          SrtOutputConfig.isAutomaticPort, automaticPortOr_eq_true h.1,
          (h.2.explicit hport).1, shouldUseAutoPortOutput_bindPort hbind, Bool.or_false,
          IgnoresLegacyPort, Option.isNone_iff_eq_none]
      | caller => exact iff_of_false Bool.false_ne_true id

/-- A request that names one port gets it, unless it is for a UDP output or an SRT listener
output and the new field is absent. -/
theorem honoursPort_iff {req : CreateRequest} {port : UInt16} (hport : port ≠ 0)
    (h : req.NamesPort port) : req.HonoursPort port ↔ ¬ req.IgnoresLegacyPort := by
  rw [← isAutomaticPort_iff hport h, Bool.not_eq_true]
  constructor
  · exact And.left
  · intro hexplicit
    refine ⟨hexplicit, ?_⟩
    intro env held w finalReq held' w' hr
    rw [assignPort_explicit hexplicit] at hr
    obtain rfl : req = finalReq := by simpa using (alone_ret_eq_some.mp hr).1
    exact endpoint_port hport h

end CreateRequest

/-- A UDP output to a host and a port in the legacy field. -/
def legacyOutputRequest : CreateRequest :=
  .output (.udp 1 none none none (some "TV Channel 1 Backup") none none none
    (some "127.0.0.1:5002"))

theorem namesPort_legacyOutputRequest : legacyOutputRequest.NamesPort 5002 :=
  ⟨by simp, .inr ⟨rfl, _, rfl, "127.0.0.1", "5002", by decide, by decide, by decide⟩⟩

/-- Its port is searched. -/
theorem legacyOutputRequest_port_ignored :
    ¬ ∀ (req : CreateRequest) (port : UInt16), port ≠ 0 → req.NamesPort port →
      req.HonoursPort port := by
  intro h
  have hexplicit := (h _ 5002 (by decide) namesPort_legacyOutputRequest).1
  exact absurd hexplicit (by decide +kernel)

/-- The same output in the new fields. -/
def newOutputRequest : CreateRequest :=
  .output (.udp 1 (some "127.0.0.1") (some 5002) none (some "TV Channel 1 Backup") none none none
    none)

theorem newOutputRequest_port_honoured : newOutputRequest.HonoursPort 5002 := by
  have hnames : newOutputRequest.NamesPort 5002 := ⟨by simp, .inl ⟨rfl, rfl⟩⟩
  exact (CreateRequest.honoursPort_iff (by decide) hnames).mpr fun h => absurd h.1 (by simp)

/-! ## Updates -/

/-- A request to update a stream. -/
inductive UpdateRequest
  | input (req : UpdateInputRequest)
  | output (req : UpdateOutputRequest)
  deriving DecidableEq, Repr

/-- The host and the port that an update names: where a listener or a UDP input is to listen,
and where a caller or a UDP output is to send to. -/
def UpdateRequest.endpoint : UpdateRequest → Endpoint
  | input (.udp bindHost bindPort ..) => ⟨bindHost, bindPort⟩
  | input (.srt _ (.listener bindHost bindPort _)) => ⟨bindHost, bindPort⟩
  | input (.srt _ (.caller remoteHost remotePort ..)) => ⟨remoteHost, remotePort⟩
  | input (.spts ..) => ⟨none, none⟩
  | output (.udp remoteHost remotePort ..) => ⟨remoteHost, remotePort⟩
  | output (.srt _ (.listener bindHost bindPort _)) => ⟨bindHost, bindPort⟩
  | output (.srt _ (.caller remoteHost remotePort ..)) => ⟨remoteHost, remotePort⟩

/-- The merge is accepted and gives the last configuration. -/
inductive Merges : CreateRequest → UpdateRequest → CreateRequest → Prop
  | input {current merged : CreateInputRequest} {update : UpdateInputRequest} :
      mergeInputConfig current update = .ok merged →
      Merges (.input current) (.input update) (.input merged)
  | output {current merged : CreateOutputRequest} {update : UpdateOutputRequest} :
      mergeOutputConfig current update = .ok merged →
      Merges (.output current) (.output update) (.output merged)

/-- What the update does not name is as it was. -/
def KeepsUnnamed (current : CreateRequest) (update : UpdateRequest) (merged : CreateRequest) :
    Prop :=
  (update.endpoint.host = none → merged.endpoint.host = current.endpoint.host) ∧
    (update.endpoint.port = none → merged.endpoint.port = current.endpoint.port)

/-- The port of a listener or a UDP input is in `listen_port`, and `bind_port` has another one
or none. -/
def LegacyBindPort (bindPort listenPort : Option UInt16) : Prop :=
  ∃ port, listenPort = some port ∧ bindPort ≠ some port

namespace CreateRequest

/-- The effective host is in the legacy address only. -/
def HasLegacyHost : CreateRequest → Prop
  | input (.srt _ (.caller remoteHost _ _ _ targetAddr)) => remoteHost = none ∧ targetAddr.isSome
  | output (.udp _ remoteHost _ _ _ _ _ _ destinationAddr) =>
    remoteHost = none ∧ destinationAddr.isSome
  | output (.srt _ _ (.caller remoteHost _ _ _ destinationAddr)) =>
    remoteHost = none ∧ destinationAddr.isSome
  | _ => False

/-- The effective port is in the legacy field only. For an input, no port is port 0. -/
def HasLegacyPort : CreateRequest → Prop
  | input (.udp _ bindPort _ _ _ _ listenPort) => LegacyBindPort (some (bindPort.getD 0)) listenPort
  | input (.srt _ (.listener _ bindPort _ _ listenPort)) =>
    LegacyBindPort (some (bindPort.getD 0)) listenPort
  | input (.srt _ (.caller _ remotePort _ _ targetAddr)) =>
    remotePort = none ∧ (targetAddr.bind portPart).isSome
  | input (.spts ..) => False
  | output (.udp _ _ remotePort _ _ _ _ _ destinationAddr) =>
    remotePort = none ∧ (destinationAddr.bind portPart).isSome
  | output (.srt _ _ (.listener _ bindPort _ _ listenPort)) => LegacyBindPort bindPort listenPort
  | output (.srt _ _ (.caller _ remotePort _ _ destinationAddr)) =>
    remotePort = none ∧ (destinationAddr.bind portPart).isSome

end CreateRequest

theorem hostPart_isSome (addr : String) : (hostPart addr).isSome := by
  have hne : splitColon addr ≠ [] := by
    simp [splitColon, List.splitOn]
  rw [hostPart, List.isSome_head?]
  simpa using hne

theorem preferHost_none_eq {remoteHost legacyAddr : Option String} :
    preferHost remoteHost none = preferHost remoteHost legacyAddr ↔
      ¬ (remoteHost = none ∧ legacyAddr.isSome) := by
  cases remoteHost with
  | some host => simp [preferHost]
  | none =>
    cases legacyAddr with
    | none => simp
    | some addr =>
      obtain ⟨host, hhost⟩ := Option.isSome_iff_exists.mp (hostPart_isSome addr)
      simp [preferHost, hhost]

theorem preferPort_none_eq {remotePort : Option UInt16} {legacyAddr : Option String} :
    preferPort remotePort none = preferPort remotePort legacyAddr ↔
      ¬ (remotePort = none ∧ (legacyAddr.bind portPart).isSome) := by
  cases remotePort with
  | some port => simp [preferPort]
  | none =>
    cases legacyAddr with
    | none => simp
    | some addr =>
      cases hport : portPart addr with
      | none => simp [preferPort, hport]
      | some port => simp [preferPort, hport]

theorem bindPort_eq {bindPort listenPort : Option UInt16} :
    bindPort = listenPort.or bindPort ↔ ¬ LegacyBindPort bindPort listenPort := by
  cases listenPort with
  | none => simp [LegacyBindPort]
  | some port => simp [LegacyBindPort]

theorem bindPort_getD_eq {bindPort listenPort : Option UInt16} :
    bindPort.getD 0 = (listenPort.or bindPort).getD 0 ↔
      ¬ LegacyBindPort (some (bindPort.getD 0)) listenPort := by
  cases listenPort with
  | none => simp [LegacyBindPort]
  | some port => simp [LegacyBindPort]

/-- An update leaves the rest as it was if and only if no legacy field had it. -/
theorem keepsUnnamed_iff {current merged : CreateRequest} {update : UpdateRequest}
    (h : Merges current update merged) : KeepsUnnamed current update merged ↔
      (update.endpoint.host = none → ¬ current.HasLegacyHost) ∧
        (update.endpoint.port = none → ¬ current.HasLegacyPort) := by
  cases h with
  | input h =>
    unfold mergeInputConfig at h
    split at h
    · obtain rfl := Except.ok.inj h
      refine and_congr (imp_congr_right fun hhost => ?_) (imp_congr_right fun hport => ?_)
      · obtain rfl : _ = none := hhost
        exact iff_of_true rfl id
      · obtain rfl : _ = none := hport
        exact Option.some_inj.trans bindPort_getD_eq
    · split at h
      · obtain rfl := Except.ok.inj h
        refine and_congr (imp_congr_right fun hhost => ?_) (imp_congr_right fun hport => ?_)
        · obtain rfl : _ = none := hhost
          exact iff_of_true rfl id
        · obtain rfl : _ = none := hport
          exact Option.some_inj.trans bindPort_getD_eq
      · obtain rfl := Except.ok.inj h
        refine and_congr (imp_congr_right fun hhost => ?_) (imp_congr_right fun hport => ?_)
        · obtain rfl : _ = none := hhost
          exact preferHost_none_eq
        · obtain rfl : _ = none := hport
          exact preferPort_none_eq
      · exact absurd h (by simp)
    · obtain rfl := Except.ok.inj h
      exact and_congr (imp_congr_right fun _ => iff_of_true rfl id)
        (imp_congr_right fun _ => iff_of_true rfl id)
    · exact absurd h (by simp)
  | output h =>
    unfold mergeOutputConfig at h
    split at h
    · obtain rfl := Except.ok.inj h
      refine and_congr (imp_congr_right fun hhost => ?_) (imp_congr_right fun hport => ?_)
      · obtain rfl : _ = none := hhost
        exact preferHost_none_eq
      · obtain rfl : _ = none := hport
        exact preferPort_none_eq
    · split at h
      · obtain rfl := Except.ok.inj h
        refine and_congr (imp_congr_right fun hhost => ?_) (imp_congr_right fun hport => ?_)
        · obtain rfl : _ = none := hhost
          exact iff_of_true rfl id
        · obtain rfl : _ = none := hport
          exact bindPort_eq
      · obtain rfl := Except.ok.inj h
        refine and_congr (imp_congr_right fun hhost => ?_) (imp_congr_right fun hport => ?_)
        · obtain rfl : _ = none := hhost
          exact preferHost_none_eq
        · obtain rfl : _ = none := hport
          exact preferPort_none_eq
      · exact absurd h (by simp)
    · exact absurd h (by simp)

/-- A UDP input on a port in the legacy field. -/
def legacyInputRequest : CreateRequest :=
  .input (.udp none none none none none none (some 5000))

/-- An update that names nothing but the name. -/
def renameInput (name : String) : UpdateRequest :=
  .input (.udp none none (some name) none none)

/-- A new name takes the port away from an input that has it in the legacy field. -/
theorem rename_moves_legacyInput :
    ¬ ∀ current update merged, Merges current update merged →
      KeepsUnnamed current update merged := by
  intro h
  have hport := (h legacyInputRequest (renameInput "News") _ (.input rfl)).2 rfl
  exact absurd hport (by decide +kernel)

theorem rename_keeps_newInput :
    KeepsUnnamed (.input (udpInputRequest 5000)) (renameInput "News")
      (.input (.udp none (some 5000) none (some "News") none none none)) := by
  refine (keepsUnnamed_iff (.input rfl)).mpr ⟨fun _ h => absurd h id, fun _ h => ?_⟩
  obtain ⟨port, hlisten, _⟩ := h
  exact absurd hlisten (by simp)

end StreamGateway
