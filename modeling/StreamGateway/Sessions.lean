import Mathlib.Data.List.Chain
import StreamGateway.SrtTasks
import StreamGateway.StreamTasks

/-!
# Connection sessions

A session of a stream is a maximal run of `Connected` messages. When it ends, the processor
takes the time of the connection from the message that ends it. Only `Connected` messages have
such a time, so a session ends without a duration.
-/
namespace StreamGateway

/-! ## The messages of the tasks -/

def StateChange.connectedAt : StateChange → Option ℕ
  | .inputStateChanged _ _ connectedAt _ => connectedAt
  | .outputStateChanged _ _ _ connectedAt _ => connectedAt

def StateChange.owner : StateChange → Owner
  | .inputStateChanged inputId .. => .input inputId
  | .outputStateChanged inputId outputId .. => .output inputId outputId

def SrtAction.sent : SrtAction → Option StateChange
  | .send change => some change
  | _ => none

/-- The messages that one task of a stream has sent, when it waits, is done or is aborted. -/
inductive TaskMessages : Owner → List StateChange → Prop
  | udpInput (task : UdpInputTask) (ties : ℕ → Bool) (opened : Bool) (now : ℕ)
      (arrivals : List (ℕ × UdpEvent)) : TaskMessages (.input task.id)
        (task.run ties opened now arrivals).sent
  | srtInput (id : Int) (config : SrtInputConfig) (stateTx : Option StateChangeSender)
      (attempts : List (Attempt ReadEvent)) : TaskMessages (.input id)
        ((srtInputTask id config stateTx attempts).filterMap SrtAction.sent)
  | sptsInput (task : SptsTask) (now : ℕ) (arrivals : List (ℕ × SptsEvent)) :
      TaskMessages (.input task.sptsId)
        (task.run now arrivals).sent
  | srtOutput (inputId outputId : Int) (config : SrtOutputConfig)
      (stateTx : Option StateChangeSender) (attempts : List (Attempt SendEvent)) :
      TaskMessages (.output inputId outputId)
        ((srtOutputTask inputId outputId config stateTx attempts).filterMap SrtAction.sent)
  | aborted {o : Owner} {sent sent' : List StateChange} : TaskMessages o sent → sent' <+: sent →
      TaskMessages o sent'

/-- The messages of a stream, whose tasks follow one another. -/
inductive StreamMessages : Owner → List StateChange → Prop
  | none {o : Owner} : StreamMessages o []
  | task {o : Owner} {sent rest : List StateChange} : TaskMessages o sent →
      StreamMessages o rest → StreamMessages o (sent ++ rest)

/-- A message about the stream that says since when it is connected only if it is. -/
structure Telling (o : Owner) (change : StateChange) : Prop where
  owner : change.owner = o
  connectedAt : change.newStatus.isConnected = false → change.connectedAt = none

theorem owner_of_sends {spec : TaskSpec} {change : StateChange} (h : spec.Sends change) :
    change.owner = spec.owner := by
  cases h <;> rfl

theorem mem_filterMap_sent {t : List SrtAction} {change : StateChange}
    (h : change ∈ t.filterMap SrtAction.sent) : .send change ∈ t := by
  obtain ⟨a, ha, hs⟩ := List.mem_filterMap.mp h
  cases a with
  | send change' =>
    obtain rfl := Option.some.inj hs
    exact ha
  | _ => exact absurd hs (by simp [SrtAction.sent])

/-- The gateway lets a task of the stream send what its code sends. -/
theorem TaskMessages.sends {o : Owner} {sent : List StateChange} (h : TaskMessages o sent) :
    ∃ spec : TaskSpec, spec.owner = o ∧ ∀ change ∈ sent, spec.Sends change := by
  induction h with
  | udpInput task ties opened now arrivals =>
    exact ⟨_, rfl, fun change hc => UdpInputTask.run_sends hc none none none none 0⟩
  | srtInput id config stateTx attempts =>
    exact ⟨_, rfl, fun change hc => srtInputTask_sends (mem_filterMap_sent hc) none 0⟩
  | sptsInput task now arrivals =>
    exact ⟨_, rfl, fun change hc => SptsTask.run_sends hc none 0 0⟩
  | srtOutput inputId outputId config stateTx attempts =>
    exact ⟨_, rfl, fun change hc => srtOutputTask_sends (mem_filterMap_sent hc) none 0⟩
  | aborted _ hfront ih =>
    obtain ⟨spec, howner, hsends⟩ := ih
    exact ⟨spec, howner, fun change hc => hsends change (hfront.subset hc)⟩

/-- Only the news of a connection has a time. -/
def StateChange.Timeless (change : StateChange) : Prop :=
  change.newStatus.isConnected = false → change.connectedAt = none

theorem timeless_notify {stateTx : Option StateChangeSender} {change change' : StateChange}
    (h : change.Timeless) (hs : .send change' ∈ notify stateTx change) : change'.Timeless := by
  obtain ⟨_, rfl⟩ := eq_of_mem_notify hs
  exact h

theorem timeless_source {config : SrtInputConfig} {id : Int}
    {stateTx : Option StateChangeSender} {outcome : SocketOutcome} {change : StateChange}
    (h : .send change ∈ SrtSourceWithState.getSocket ⟨config, id, stateTx⟩ outcome) :
    change.Timeless := by
  obtain ⟨_, rfl | ⟨now, peer, rfl⟩⟩ := source_tells h
  · exact fun _ => rfl
  · exact fun h => absurd h (by simp [StateChange.newStatus, StreamStatus.isConnected])

theorem timeless_sink {config : SrtOutputConfig} {inputId outputId : Int}
    {stateTx : Option StateChangeSender} {outcome : SocketOutcome} {change : StateChange}
    (h : .send change ∈
      SrtSinkWithState.getSocket ⟨config, inputId, outputId, stateTx⟩ outcome) :
    change.Timeless := by
  obtain ⟨_, ⟨status, _, rfl⟩ | ⟨now, peer, rfl⟩⟩ := sink_tells h
  · exact fun _ => rfl
  · exact fun h => absurd h (by simp [StateChange.newStatus, StreamStatus.isConnected])

theorem TaskMessages.timeless {o : Owner} {sent : List StateChange} (h : TaskMessages o sent) :
    ∀ change ∈ sent, change.Timeless := by
  induction h with
  | udpInput task ties opened now arrivals =>
    intro change hc
    obtain ⟨_, htold⟩ := UdpInputTask.says_run hc
    cases htold with
    | listening => exact fun _ => rfl
    | error => exact fun _ => rfl
    | connected =>
      exact fun h => absurd h (by simp [StateChange.newStatus, StreamStatus.isConnected])
  | srtInput id config stateTx attempts =>
    intro change hc
    have hc := mem_filterMap_sent hc
    rw [srtInputTask, forwarderLoop_eq] at hc
    rcases mem_reconnectLoop hc with ⟨outcome, hc⟩ | hc | hc
    · exact timeless_source hc
    · exact timeless_notify (fun _ => rfl) hc
    · exact timeless_notify (fun _ => rfl) hc
  | sptsInput task now arrivals =>
    intro change hc
    obtain ⟨_, htold⟩ := SptsTask.says_run hc
    cases htold with
    | listening => exact fun _ => rfl
    | stopped => exact fun _ => rfl
    | connected =>
      exact fun h => absurd h (by simp [StateChange.newStatus, StreamStatus.isConnected])
  | srtOutput inputId outputId config stateTx attempts =>
    intro change hc
    have hc := mem_filterMap_sent hc
    rw [srtOutputTask, spawnSrtOutputLoop_eq] at hc
    rcases mem_reconnectLoop hc with ⟨outcome, hc⟩ | hc | hc
    · exact timeless_sink hc
    · exact timeless_notify (fun _ => rfl) hc
    · exact timeless_notify (fun _ => rfl) hc
  | aborted _ hfront ih => exact fun change hc => ih change (hfront.subset hc)

theorem TaskMessages.telling {o : Owner} {sent : List StateChange} (h : TaskMessages o sent) :
    ∀ change ∈ sent, Telling o change := by
  obtain ⟨spec, rfl, hsends⟩ := h.sends
  exact fun change hc => ⟨owner_of_sends (hsends change hc), h.timeless change hc⟩

theorem StreamMessages.telling {o : Owner} {sent : List StateChange}
    (h : StreamMessages o sent) : ∀ change ∈ sent, Telling o change := by
  induction h with
  | none => exact fun _ hc => absurd hc List.not_mem_nil
  | task hsent _ ih =>
    intro change hc
    rcases List.mem_append.mp hc with hc | hc
    · exact hsent.telling change hc
    · exact ih change hc

/-! ## The reports of the processor -/

/-- What the entry of a stream says about its connection. -/
def connectionOf (streams : HashMap Int InputInfo) : Owner → Option (StreamStatus × Option ℕ)
  | .input id => (streams.lookup id).map fun info => (info.status, info.connectedAt)
  | .output inputId outputId =>
    (streams.lookup inputId).bind fun info =>
      (info.outputTasks.lookup outputId).map fun output => (output.status, output.connectedAt)
  | .analysis .. => none

/-- The streams after messages, each with the time at which it is handled. -/
def handled (streams : HashMap Int InputInfo) (sent : List (StateChange × ℕ)) :
    HashMap Int InputInfo :=
  sent.foldl (fun streams m => (applyChange m.1 streams).2) streams

/-- What the processor reports for the messages. -/
def reports : HashMap Int InputInfo → List (StateChange × ℕ) → List Metric
  | _, [] => []
  | streams, (change, now) :: rest =>
    ((applyChange change streams).1.elim [] fun t => changeMetrics change t now) ++
      reports (applyChange change streams).2 rest

theorem reports_append (streams : HashMap Int InputInfo) (sent rest : List (StateChange × ℕ)) :
    reports streams (sent ++ rest) =
      reports streams sent ++ reports (handled streams sent) rest := by
  induction sent generalizing streams with
  | nil => rfl
  | cons m sent ih =>
    obtain ⟨change, now⟩ := m
    simp only [List.cons_append, reports, ih, List.append_assoc]
    rfl

/-- The connections and disconnections among the metrics, and the durations. -/
structure Sessions where
  connected : ℕ
  disconnected : ℕ
  durations : List ℕ
  deriving DecidableEq, Repr

def Metric.isEvent (event : String) : Metric → Bool
  | .recordConnectionEvent _ _ _ _ event' _ => event' = event
  | _ => false

def Metric.duration : Metric → Option ℕ
  | .recordConnectionDuration _ _ _ _ duration => some duration
  | _ => none

def sessionsOf (metrics : List Metric) : Sessions where
  connected := metrics.countP (·.isEvent "connected")
  disconnected := metrics.countP (·.isEvent "disconnected")
  durations := metrics.filterMap Metric.duration

theorem sessionsOf_append (metrics metrics' : List Metric) :
    sessionsOf (metrics ++ metrics') =
      ⟨(sessionsOf metrics).connected + (sessionsOf metrics').connected,
        (sessionsOf metrics).disconnected + (sessionsOf metrics').disconnected,
        (sessionsOf metrics).durations ++ (sessionsOf metrics').durations⟩ := by
  simp [sessionsOf, List.countP_append, List.filterMap_append]

/-- What one message reports of the sessions. -/
def sessionsAt (oldStatus newStatus : StreamStatus) (connectedAt : Option ℕ) (now : ℕ) :
    Sessions :=
  match oldStatus.isConnected, newStatus.isConnected with
  | false, true => ⟨1, 0, []⟩
  | true, false => ⟨0, 1, (connectedAt.filter (· ≤ now)).toList.map fun t => now - t⟩
  | _, _ => ⟨0, 0, []⟩

theorem sessionsOf_transitionMetrics (t : Transition) (id : Int) (direction : String)
    (newStatus : StreamStatus) (connectedAt : Option ℕ) (address : Option String) (now : ℕ) :
    sessionsOf (transitionMetrics t id direction newStatus connectedAt address now) =
      sessionsAt t.1 newStatus connectedAt now := by
  obtain ⟨oldStatus, streamType, name⟩ := t
  unfold transitionMetrics sessionsAt
  cases ho : oldStatus.isConnected <;> cases hn : newStatus.isConnected <;> simp only [ho]
  · rfl
  · rfl
  · cases connectedAt with
    | none => rfl
    | some since =>
      by_cases hle : since ≤ now
      · simp only [Option.filter, hle, decide_true, if_true]
        rfl
      · simp only [Option.filter, hle, decide_false, Bool.false_eq_true, if_false]
        rfl
  · rfl

section Step
variable {o : Owner} {streams : HashMap Int InputInfo} {oldStatus : StreamStatus}
  {since : Option ℕ} {change : StateChange}

/-- A message about a stream in memory moves its entry, and reports the move. -/
theorem connectionOf_applyChange (howner : change.owner = o)
    (hold : connectionOf streams o = some (oldStatus, since)) :
    connectionOf (applyChange change streams).2 o = some (change.newStatus,
        updateMetadata change.newStatus change.connectedAt since) ∧
      ∀ now, sessionsOf ((applyChange change streams).1.elim [] fun t =>
          changeMetrics change t now) =
        sessionsAt oldStatus change.newStatus change.connectedAt now := by
  subst howner
  cases change with
  | inputStateChanged inputId newStatus connectedAt address =>
    obtain ⟨info, hinfo, hpair⟩ := Option.map_eq_some_iff.mp hold
    obtain ⟨rfl, rfl⟩ := Prod.mk.inj hpair
    simp only [applyChange, hinfo]
    refine ⟨?_, fun now => sessionsOf_transitionMetrics (info.status, _, _) inputId "input"
      newStatus connectedAt address now⟩
    simp only [connectionOf, StateChange.owner, AList.lookup_insert, Option.map_some]
    rfl
  | outputStateChanged inputId outputId newStatus connectedAt address =>
    obtain ⟨info, hinfo, hout⟩ := Option.bind_eq_some_iff.mp hold
    obtain ⟨output, houtput, hpair⟩ := Option.map_eq_some_iff.mp hout
    obtain ⟨rfl, rfl⟩ := Prod.mk.inj hpair
    simp only [applyChange, hinfo, houtput]
    refine ⟨?_, fun now => sessionsOf_transitionMetrics (output.status, _, _) outputId "output"
      newStatus connectedAt address now⟩
    simp only [connectionOf, StateChange.owner, AList.lookup_insert, Option.bind_some,
      Option.map_some]
    rfl

end Step

/-! ## Sessions -/

/-- A maximal run of connected statuses, with the message that ends it. -/
structure EndedSession (sent before session : List (StateChange × ℕ)) (last : StateChange × ℕ) :
    Prop where
  split : ∃ rest, sent = before ++ (session ++ last :: rest)
  before_last : ∀ m ∈ before.getLast?, m.1.newStatus.isConnected = false
  session_ne : session ≠ []
  connected : ∀ m ∈ session, m.1.newStatus.isConnected = true
  ended : last.1.newStatus.isConnected = false

/-- The time since which the stream was connected when the session ended. -/
def connectedSince (session : List (StateChange × ℕ)) : Option ℕ :=
  session.getLast?.bind (·.1.connectedAt)

/-- No message takes a connected stream out of its session. -/
def NoSessionEnds (sent : List (StateChange × ℕ)) : Prop :=
  sent.IsChain fun a b => a.1.newStatus.isConnected = true → b.1.newStatus.isConnected = true

/-- A list ends with a run, maybe empty, of elements with a property. -/
theorem exists_last_run {α : Type} (p : α → Bool) (xs : List α) :
    ∃ before run, xs = before ++ run ∧ (∀ x ∈ before.getLast?, p x = false) ∧
      ∀ x ∈ run, p x = true := by
  induction xs using List.reverseRecOn with
  | nil => exact ⟨[], [], rfl, by simp, by simp⟩
  | append_singleton xs x ih =>
    cases hx : p x with
    | false => exact ⟨xs ++ [x], [], by simp, by simp [hx], by simp⟩
    | true =>
      obtain ⟨before, run, rfl, hbefore, hrun⟩ := ih
      refine ⟨before, run ++ [x], by rw [List.append_assoc], hbefore, fun y hy => ?_⟩
      rcases List.mem_append.mp hy with hy | hy
      · exact hrun y hy
      · exact List.mem_singleton.mp hy ▸ hx

theorem noSessionEnds_iff {sent : List (StateChange × ℕ)} :
    NoSessionEnds sent ↔ ∀ before session last, ¬ EndedSession sent before session last := by
  rw [NoSessionEnds, List.isChain_iff_forall_rel_of_append_cons_cons]
  constructor
  · intro h before session last hsession
    obtain ⟨rest, hsplit⟩ := hsession.split
    obtain ⟨init, m, rfl⟩ : ∃ init m, session = init ++ [m] :=
      ⟨_, _, (List.dropLast_append_getLast hsession.session_ne).symm⟩
    have hm := hsession.connected m (List.mem_append_right _ (List.mem_singleton_self m))
    have hlast := @h m last (before ++ init) rest (by rw [hsplit]; simp) hm
    exact absurd hlast (by simp [hsession.ended])
  · intro h a b pre rest hsplit ha
    by_contra hb
    obtain ⟨before, session, hrun, hbefore, hsession⟩ :=
      exists_last_run (fun m : StateChange × ℕ => m.1.newStatus.isConnected) (pre ++ [a])
    have hne : session ≠ [] := by
      rintro rfl
      rw [List.append_nil] at hrun
      have := hbefore a (by rw [← hrun]; simp)
      exact absurd this (by simp [ha])
    refine h before session b ⟨⟨rest, ?_⟩, hbefore, hne, hsession, by simpa using hb⟩
    rw [← List.append_assoc, ← hrun, hsplit]
    simp

section Processor
variable {o : Owner} {streams : HashMap Int InputInfo} {status : StreamStatus}
  {since : Option ℕ}

/-- The entry has the status of the last message. -/
theorem connectionOf_handled (hentry : connectionOf streams o = some (status, since))
    {sent : List (StateChange × ℕ)} (hsent : ∀ m ∈ sent, m.1.owner = o) :
    ∃ since', connectionOf (handled streams sent) o =
      some ((sent.getLast?.map (·.1.newStatus)).getD status, since') := by
  induction sent using List.reverseRecOn with
  | nil => exact ⟨since, hentry⟩
  | append_singleton sent m ih =>
    obtain ⟨since', hbefore⟩ := ih fun m hm => hsent m (List.mem_append_left _ hm)
    have howner := hsent m (List.mem_append_right _ (List.mem_singleton_self m))
    have hstep := (connectionOf_applyChange howner hbefore).1
    rw [handled, List.foldl_append]
    simp only [List.getLast?_append, List.getLast?_singleton, Option.some_or, Option.map_some,
      Option.getD_some]
    exact ⟨_, hstep⟩

/-- A connected stream that stays connected reports nothing. -/
theorem sessionsOf_connected (hentry : connectionOf streams o = some (status, since))
    (hstatus : status.isConnected = true) {sent : List (StateChange × ℕ)}
    (hsent : ∀ m ∈ sent, m.1.owner = o)
    (hconnected : ∀ m ∈ sent, m.1.newStatus.isConnected = true) :
    sessionsOf (reports streams sent) = ⟨0, 0, []⟩ := by
  induction sent generalizing streams status since with
  | nil => rfl
  | cons m sent ih =>
    obtain ⟨change, now⟩ := m
    obtain ⟨hnext, hreport⟩ := connectionOf_applyChange (hsent _ List.mem_cons_self) hentry
    have hm := hconnected _ List.mem_cons_self
    rw [reports, sessionsOf_append, hreport,
      ih hnext hm (fun m hm => hsent m (List.mem_cons_of_mem _ hm))
        fun m hm => hconnected m (List.mem_cons_of_mem _ hm)]
    simp only at hm
    simp [sessionsAt, hstatus, hm]

/-- A session reports its connection, and its end if that message has no time. -/
theorem sessionsOf_session (hentry : connectionOf streams o = some (status, since))
    (hstatus : status.isConnected = false) {session : List (StateChange × ℕ)}
    {last : StateChange × ℕ} (hne : session ≠ [])
    (hsent : ∀ m ∈ session, m.1.owner = o)
    (hconnected : ∀ m ∈ session, m.1.newStatus.isConnected = true) (hlast : last.1.owner = o)
    (hended : last.1.newStatus.isConnected = false) (hnone : last.1.connectedAt = none) :
    sessionsOf (reports streams (session ++ [last])) = ⟨1, 1, []⟩ := by
  obtain ⟨since', hbefore⟩ := connectionOf_handled hentry hsent
  have hconnectedLast :
      ((session.getLast?.map (·.1.newStatus)).getD status).isConnected = true := by
    rw [List.getLast?_eq_some_getLast hne]
    exact hconnected _ (List.getLast_mem hne)
  have hfirst : sessionsOf (reports streams session) = ⟨1, 0, []⟩ := by
    cases session with
    | nil => exact absurd rfl hne
    | cons m session =>
      obtain ⟨change, now⟩ := m
      obtain ⟨hnext, hreport⟩ := connectionOf_applyChange (hsent _ List.mem_cons_self) hentry
      have hm := hconnected _ List.mem_cons_self
      rw [reports, sessionsOf_append, hreport, sessionsOf_connected hnext hm
        (fun m hm => hsent m (List.mem_cons_of_mem _ hm))
        fun m hm => hconnected m (List.mem_cons_of_mem _ hm)]
      simp only at hm
      simp [sessionsAt, hstatus, hm]
  obtain ⟨change, now⟩ := last
  obtain ⟨_, hreport⟩ := connectionOf_applyChange hlast hbefore
  simp only at hended hnone
  rw [reports_append, sessionsOf_append, hfirst, reports, sessionsOf_append, hreport, hnone]
  simp [sessionsAt, hconnectedLast, hended, reports, sessionsOf]

end Processor

/-- Every session that the processor sees end has one connection and one disconnection, and it
has its duration if and only if no session ends. -/
theorem sessions_measured_iff {o : Owner} {streams : HashMap Int InputInfo}
    {status : StreamStatus} {since : Option ℕ} {sent : List (StateChange × ℕ)}
    (hentry : connectionOf streams o = some (status, since))
    (hidle : status.isConnected = false) (hsent : StreamMessages o (sent.map Prod.fst)) :
    (∀ before session last, EndedSession sent before session last →
      (sessionsOf (reports (handled streams before) (session ++ [last]))).connected = 1 ∧
      (sessionsOf (reports (handled streams before) (session ++ [last]))).disconnected = 1) ∧
    ((∀ before session last, EndedSession sent before session last →
        ∃ t, connectedSince session = some t ∧
          sessionsOf (reports (handled streams before) (session ++ [last])) =
            ⟨1, 1, [last.2 - t]⟩) ↔
      NoSessionEnds sent) := by
  have htelling : ∀ m ∈ sent, Telling o m.1 := fun m hm =>
    hsent.telling m.1 (List.mem_map_of_mem hm)
  have hreport : ∀ before session last, EndedSession sent before session last →
      sessionsOf (reports (handled streams before) (session ++ [last])) = ⟨1, 1, []⟩ := by
    intro before session last hsession
    obtain ⟨rest, hsplit⟩ := hsession.split
    have hmem : ∀ m ∈ session ++ [last], m ∈ sent := by
      intro m hm
      rw [hsplit]
      simp only [List.mem_append, List.mem_cons, List.not_mem_nil, or_false] at hm ⊢
      rcases hm with hm | rfl
      · exact .inr (.inl hm)
      · exact .inr (.inr (.inl rfl))
    have hbefore : ∀ m ∈ before, m.1.owner = o := fun m hm =>
      (htelling m (by rw [hsplit]; exact List.mem_append_left _ hm)).owner
    have hlast := htelling last (hmem last (by simp))
    obtain ⟨since', hstart⟩ := connectionOf_handled hentry hbefore
    refine sessionsOf_session hstart ?_ hsession.session_ne
      (fun m hm => (htelling m (hmem m (List.mem_append_left _ hm))).owner) hsession.connected
      hlast.owner hsession.ended (hlast.connectedAt hsession.ended)
    cases hm : before.getLast? with
    | none => exact hidle
    | some m => exact hsession.before_last m hm
  refine ⟨fun before session last hsession => by rw [hreport _ _ _ hsession]; exact ⟨rfl, rfl⟩,
    ?_⟩
  rw [noSessionEnds_iff]
  constructor
  · intro h before session last hsession
    obtain ⟨t, _, heq⟩ := h before session last hsession
    rw [hreport _ _ _ hsession] at heq
    exact absurd heq (by simp)
  · exact fun h before session last hsession => absurd hsession (h before session last)

/-- An SRT listener in memory. -/
def listeningStreams : HashMap Int InputInfo :=
  AList.singleton 1 (idleInput 1 none .listening 0
    (.srt none (.listener none (some 9000) none .default none)) (some ⟨⟩) none)

/-- A peer connects and, after five seconds, is lost. -/
def brokenSession : List (StateChange × ℕ) :=
  [(.inputStateChanged 1 .listening none none, 0),
    (.inputStateChanged 1 .connected (some 100) (some "10.0.0.9:4000"), 100),
    (.inputStateChanged 1 .reconnecting none none, 5100)]

/-- The session is over and has no duration. -/
theorem brokenSession_unmeasured :
    let before := brokenSession.take 1
    let session := (brokenSession.drop 1).take 1
    let last : StateChange × ℕ := (.inputStateChanged 1 .reconnecting none none, 5100)
    StreamMessages (.input 1) (brokenSession.map Prod.fst) ∧
      EndedSession brokenSession before session last ∧ connectedSince session = some 100 ∧
      sessionsOf (reports (handled listeningStreams before) (session ++ [last])) = ⟨1, 1, []⟩ ∧
      ⟨1, 1, []⟩ ≠ (⟨1, 1, [5100 - 100]⟩ : Sessions) :=
  ⟨.task (.srtInput 1 (.listener none (some 9000) none .default none) (some ⟨⟩)
      [⟨.connected "10.0.0.9:4000" 100, [.readError]⟩]) .none,
    ⟨⟨[], rfl⟩, by decide, by decide, by decide, rfl⟩, rfl, by decide +kernel, by decide⟩

/-- A peer that stays. -/
theorem sessions_measured_iff_lasting :
    NoSessionEnds (brokenSession.take 2) ∧ ∀ before session last,
      EndedSession (brokenSession.take 2) before session last →
        ∃ t, connectedSince session = some t ∧
          sessionsOf (reports (handled listeningStreams before) (session ++ [last])) =
            ⟨1, 1, [last.2 - t]⟩ := by
  have hlasting : NoSessionEnds (brokenSession.take 2) :=
    .cons_cons (by decide) (.singleton _)
  exact ⟨hlasting, ((@sessions_measured_iff (.input 1) listeningStreams .listening none
    (brokenSession.take 2) rfl rfl
    (.task (.srtInput 1 (.listener none (some 9000) none .default none) (some ⟨⟩)
      [⟨.connected "10.0.0.9:4000" 100, []⟩]) .none)).2.mpr hlasting)⟩

end StreamGateway
