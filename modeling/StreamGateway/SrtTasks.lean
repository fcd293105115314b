import StreamGateway.Gateway
import StreamGateway.Reconnection

/-!
# The tasks of the SRT streams

Translation of the task bodies of `srt_stream.rs`: the reading task of
`Forwarder::spawn_with_stats` with its source, and the sending task of `spawn_srt_output`
with its sink. What the network does is a list of attempts, one for each call of
`get_socket`, each with what then happens on the connection. A list that ends stands for a
task that still waits, or has been aborted there. The packets themselves, the statistics and
the log are left out. Both tasks are clients that reconnect, and keep to the same protocol.
-/
namespace StreamGateway

/-- What a task does. -/
inductive SrtAction
  | getSocket
  | listen (addr : String)
  | connect (addr : String)
  | ready (ok : Bool)
  | send (change : StateChange)
  deriving DecidableEq, Repr

/-- `if let Some(ref tx) = state_tx { let _ = tx.send(..); }`. -/
def notify (stateTx : Option StateChangeSender) (change : StateChange) : List SrtAction :=
  stateTx.elim [] fun _ => [.send change]

/-- What becomes of a call of `get_socket` in the `select!` with the cancellation: it is
cancelled before it begins, it waits for the peer until the task is cancelled or aborted, it
fails, or it connects at the given time. -/
inductive SocketOutcome
  | cancelled
  | pending
  | failed
  | connected (peer : String) (now : ℕ)

structure Attempt (ε : Type) where
  outcome : SocketOutcome
  session : List ε

/-- How the loop on a connection ends. -/
inductive SessionEnd
  | unfinished
  | broken
  | returned
  deriving DecidableEq, Repr

def maxRetries : ℕ := 10

/-! ## Inputs -/

structure SrtSourceWithState where
  config : SrtInputConfig
  inputId : Int
  stateTx : Option StateChangeSender

/-- `get_socket` of the source, which is only called on the other outcomes. -/
def SrtSourceWithState.getSocket (source : SrtSourceWithState) (outcome : SocketOutcome) :
    List SrtAction :=
  match source.config with
  | .listener .. =>
    let addr := hostPort source.config.getBindHost source.config.getBindPort
    notify source.stateTx (.inputStateChanged source.inputId .listening none none) ++
      .listen addr :: match outcome with
        | .connected peer now =>
          notify source.stateTx
            (.inputStateChanged source.inputId .connected (some now) (some peer))
        | _ => []
  | .caller .. =>
    let addr := hostPort (source.config.getRemoteHost.getD "127.0.0.1")
      (source.config.getRemotePort.getD 8000)
    notify source.stateTx (.inputStateChanged source.inputId .connecting none none) ++
      .connect addr :: match outcome with
        | .connected _ now =>
          notify source.stateTx
            (.inputStateChanged source.inputId .connected (some now) (some addr))
        | _ => []

/-- What a pass of the reading loop gets. -/
inductive ReadEvent
  | read (n : ℕ)
  | readError
  | cancelled

def readLoop : List ReadEvent → SessionEnd
  | [] => .unfinished
  | .read 0 :: _ => .broken
  | .read (_ + 1) :: rest => readLoop rest
  | .readError :: _ => .broken
  | .cancelled :: _ => .returned

/-- Whether an event ends the session, and then whether the connection is lost. -/
def ReadEvent.ends : ReadEvent → Option Bool
  | .read n => if n = 0 then some true else none
  | .readError => some true
  | .cancelled => some false

/-- The loop of `Forwarder::spawn_with_stats`. -/
def Forwarder.loop (source : SrtSourceWithState) (inputId : Int)
    (stateTx : Option StateChangeSender) :
    ℕ → List (Attempt ReadEvent) → List SrtAction
  | _, [] => []
  | consecutiveFailures, attempt :: rest =>
    .getSocket :: match attempt.outcome with
      | .cancelled => []
      | .pending => source.getSocket .pending
      | .failed =>
        source.getSocket .failed ++ .ready false ::
          if consecutiveFailures + 1 ≥ maxRetries then
            notify stateTx (.inputStateChanged inputId .error none none)
          else
            notify stateTx (.inputStateChanged inputId .reconnecting none none) ++
              Forwarder.loop source inputId stateTx (consecutiveFailures + 1) rest
      | .connected peer now =>
        source.getSocket (.connected peer now) ++ .ready true ::
          match readLoop attempt.session with
          | .broken =>
            notify stateTx (.inputStateChanged inputId .reconnecting none none) ++
              Forwarder.loop source inputId stateTx 0 rest
          | _ => []

/-- The task of an SRT input, as `spawn_input` and `start_input` put it together. -/
def srtInputTask (id : Int) (config : SrtInputConfig) (stateTx : Option StateChangeSender)
    (attempts : List (Attempt ReadEvent)) : List SrtAction :=
  Forwarder.loop ⟨config, id, stateTx⟩ id stateTx 0 attempts

/-! ## Outputs -/

structure SrtSinkWithState where
  config : SrtOutputConfig
  inputId : Int
  outputId : Int
  stateTx : Option StateChangeSender

/-- `get_socket` of the sink. -/
def SrtSinkWithState.getSocket (sink : SrtSinkWithState) (outcome : SocketOutcome) :
    List SrtAction :=
  match sink.config with
  | .caller .. =>
    let addr := hostPort (sink.config.getRemoteHost.getD "127.0.0.1")
      (sink.config.getRemotePort.getD 8000)
    notify sink.stateTx
        (.outputStateChanged sink.inputId sink.outputId .connecting none none) ++
      .connect addr :: match outcome with
        | .connected _ now =>
          notify sink.stateTx
            (.outputStateChanged sink.inputId sink.outputId .connected (some now) (some addr))
        | _ => []
  | .listener .. =>
    let bind := hostPort (sink.config.getBindHost.getD "0.0.0.0")
      (sink.config.getBindPort.getD 8000)
    notify sink.stateTx
        (.outputStateChanged sink.inputId sink.outputId .listening none none) ++
      .listen bind :: match outcome with
        | .connected peer now =>
          notify sink.stateTx
            (.outputStateChanged sink.inputId sink.outputId .connected (some now) (some peer))
        | _ => []

/-- What a pass of the sending loop gets: a packet and the result of writing it, or an end of
the waiting for packets. -/
inductive SendEvent
  | written (len n : ℕ)
  | writeError
  | closed
  | lagged
  | cancelled

def sendLoop : List SendEvent → SessionEnd
  | [] => .unfinished
  | .written _ _ :: rest => sendLoop rest
  | .writeError :: _ => .broken
  | .closed :: _ => .returned
  | .lagged :: rest => sendLoop rest
  | .cancelled :: _ => .returned

def SendEvent.ends : SendEvent → Option Bool
  | .written _ _ | .lagged => none
  | .writeError => some true
  | .closed | .cancelled => some false

/-- The loop of `spawn_srt_output`. -/
def spawnSrtOutputLoop (sink : SrtSinkWithState) (inputId outputId : Int)
    (stateTx : Option StateChangeSender) :
    ℕ → List (Attempt SendEvent) → List SrtAction
  | _, [] => []
  | consecutiveFailures, attempt :: rest =>
    .getSocket :: match attempt.outcome with
      | .cancelled => []
      | .pending => sink.getSocket .pending
      | .failed =>
        sink.getSocket .failed ++ .ready false ::
          if consecutiveFailures + 1 ≥ maxRetries then
            notify stateTx (.outputStateChanged inputId outputId .error none none)
          else
            notify stateTx (.outputStateChanged inputId outputId .reconnecting none none) ++
              spawnSrtOutputLoop sink inputId outputId stateTx (consecutiveFailures + 1) rest
      | .connected peer now =>
        sink.getSocket (.connected peer now) ++ .ready true ::
          match sendLoop attempt.session with
          | .broken =>
            notify stateTx (.outputStateChanged inputId outputId .reconnecting none none) ++
              spawnSrtOutputLoop sink inputId outputId stateTx 0 rest
          | _ => []

/-- The task of an SRT output, as `create_srt_output` puts it together. -/
def srtOutputTask (inputId outputId : Int) (config : SrtOutputConfig)
    (stateTx : Option StateChangeSender) (attempts : List (Attempt SendEvent)) :
    List SrtAction :=
  spawnSrtOutputLoop ⟨config, inputId, outputId, stateTx⟩ inputId outputId stateTx 0 attempts

/-- The status of an SRT output whose task has just been spawned. -/
def srtOutputStatus : SrtOutputConfig → StreamStatus
  | .caller .. => .connecting
  | .listener .. => .listening

/-! ## The protocol -/

def StateChange.newStatus : StateChange → StreamStatus
  | .inputStateChanged _ newStatus _ _ => newStatus
  | .outputStateChanged _ _ newStatus _ _ => newStatus

/-- What becomes of an attempt, for the protocol: the first event that ends the session says
whether the connection is lost. -/
def Attempt.result {ε : Type} (ends : ε → Option Bool) (attempt : Attempt ε) :
    Client.Outcome :=
  match attempt.outcome with
  | .cancelled => .cancelled
  | .pending => .pending
  | .failed => .failed
  | .connected _ _ => .connected (attempt.session.findSome? ends == some true)

/-- What an action is for the protocol. -/
def SrtAction.event : SrtAction → Option (Client.Event StreamStatus)
  | .getSocket => some .call
  | .listen _ => none
  | .connect _ => none
  | .ready true => some .succeeded
  | .ready false => some .failed
  | .send change => some (.notice change.newStatus)

/-- A client that begins with the given status. -/
def srtClient (opening : StreamStatus) (h : opening ≠ .error)
    (stateTx : Option StateChangeSender) : Client StreamStatus where
  limit := maxRetries
  limit_pos := by decide
  opening := opening
  connected := .connected
  lost := .reconnecting
  gaveUp := .error
  opening_ne := h
  connected_ne := by decide
  lost_ne := by decide
  speaks := stateTx.isSome

theorem srtInputStatus_ne_error (config : SrtInputConfig) : srtInputStatus config ≠ .error := by
  cases config <;> simp [srtInputStatus]

theorem srtOutputStatus_ne_error (config : SrtOutputConfig) :
    srtOutputStatus config ≠ .error := by
  cases config <;> simp [srtOutputStatus]

theorem filterMap_notify {opening : StreamStatus} (h : opening ≠ .error)
    (stateTx : Option StateChangeSender) (change : StateChange) :
    (notify stateTx change).filterMap SrtAction.event =
      (srtClient opening h stateTx).say change.newStatus := by
  cases stateTx <;> rfl

theorem readLoop_broken_iff (session : List ReadEvent) :
    readLoop session = .broken ↔ session.findSome? ReadEvent.ends = some true := by
  induction session with
  | nil => simp [readLoop]
  | cons event rest ih =>
    cases event with
    | read n => cases n <;> simp [readLoop, ReadEvent.ends, ih]
    | readError => simp [readLoop, List.findSome?_cons, ReadEvent.ends]
    | cancelled => simp [readLoop, List.findSome?_cons, ReadEvent.ends]

theorem sendLoop_broken_iff (session : List SendEvent) :
    sendLoop session = .broken ↔ session.findSome? SendEvent.ends = some true := by
  induction session with
  | nil => simp [sendLoop]
  | cons event rest ih =>
    cases event <;> simp [sendLoop, List.findSome?_cons, SendEvent.ends, ih]

/-- What a call of `get_socket` shows, if it is made. -/
def opens (opening : StreamStatus) (h : opening ≠ .error) (stateTx : Option StateChangeSender) :
    SocketOutcome → List (Client.Event StreamStatus)
  | .connected _ _ => (srtClient opening h stateTx).say opening ++
      (srtClient opening h stateTx).say .connected
  | _ => (srtClient opening h stateTx).say opening

theorem filterMap_source (config : SrtInputConfig) (id : Int)
    (stateTx : Option StateChangeSender) (outcome : SocketOutcome) :
    (SrtSourceWithState.getSocket ⟨config, id, stateTx⟩ outcome).filterMap SrtAction.event =
      opens (srtInputStatus config) (srtInputStatus_ne_error config) stateTx outcome := by
  have h := srtInputStatus_ne_error config
  cases config <;> cases outcome <;> cases stateTx <;> rfl

theorem filterMap_sink (config : SrtOutputConfig) (inputId outputId : Int)
    (stateTx : Option StateChangeSender) (outcome : SocketOutcome) :
    (SrtSinkWithState.getSocket ⟨config, inputId, outputId, stateTx⟩ outcome).filterMap
        SrtAction.event =
      opens (srtOutputStatus config) (srtOutputStatus_ne_error config) stateTx outcome := by
  cases config <;> cases outcome <;> cases stateTx <;> rfl

/-! ## One loop -/

/-- The loop that both tasks run, on what they do for an attempt, for a lost connection and
for the last failure, and on how a session ends. -/
def reconnectLoop {ε : Type} (getSocket : SocketOutcome → List SrtAction)
    (sessionEnd : List ε → SessionEnd) (lost gaveUp : List SrtAction) :
    ℕ → List (Attempt ε) → List SrtAction
  | _, [] => []
  | failures, attempt :: rest =>
    .getSocket :: match attempt.outcome with
      | .cancelled => []
      | .pending => getSocket .pending
      | .failed =>
        getSocket .failed ++ .ready false ::
          if failures + 1 ≥ maxRetries then gaveUp
          else lost ++ reconnectLoop getSocket sessionEnd lost gaveUp (failures + 1) rest
      | .connected peer now =>
        getSocket (.connected peer now) ++ .ready true ::
          match sessionEnd attempt.session with
          | .broken => lost ++ reconnectLoop getSocket sessionEnd lost gaveUp 0 rest
          | _ => []

theorem forwarderLoop_eq (source : SrtSourceWithState) (inputId : Int)
    (stateTx : Option StateChangeSender) (failures : ℕ) (attempts : List (Attempt ReadEvent)) :
    Forwarder.loop source inputId stateTx failures attempts =
      reconnectLoop source.getSocket readLoop
        (notify stateTx (.inputStateChanged inputId .reconnecting none none))
        (notify stateTx (.inputStateChanged inputId .error none none)) failures attempts := by
  induction attempts generalizing failures with
  | nil => rfl
  | cons attempt rest ih =>
    simp only [Forwarder.loop, reconnectLoop, ih]

theorem spawnSrtOutputLoop_eq (sink : SrtSinkWithState) (inputId outputId : Int)
    (stateTx : Option StateChangeSender) (failures : ℕ) (attempts : List (Attempt SendEvent)) :
    spawnSrtOutputLoop sink inputId outputId stateTx failures attempts =
      reconnectLoop sink.getSocket sendLoop
        (notify stateTx (.outputStateChanged inputId outputId .reconnecting none none))
        (notify stateTx (.outputStateChanged inputId outputId .error none none))
        failures attempts := by
  induction attempts generalizing failures with
  | nil => rfl
  | cons attempt rest ih =>
    simp only [spawnSrtOutputLoop, reconnectLoop, ih]

/-- The loop is a run of the client, if what it does is. -/
theorem reconnectLoop_run {ε : Type} {opening : StreamStatus} (h : opening ≠ .error)
    (stateTx : Option StateChangeSender) {getSocket : SocketOutcome → List SrtAction}
    {sessionEnd : List ε → SessionEnd} {ends : ε → Option Bool} {lost gaveUp : List SrtAction}
    (hends : ∀ session, sessionEnd session = .broken ↔ session.findSome? ends = some true)
    (hsocket : ∀ outcome,
      (getSocket outcome).filterMap SrtAction.event = opens opening h stateTx outcome)
    (hlost : lost.filterMap SrtAction.event = (srtClient opening h stateTx).say .reconnecting)
    (hgaveUp : gaveUp.filterMap SrtAction.event = (srtClient opening h stateTx).say .error)
    (failures : ℕ) (attempts : List (Attempt ε)) :
    (srtClient opening h stateTx).Run failures (attempts.map (Attempt.result ends))
      ((reconnectLoop getSocket sessionEnd lost gaveUp failures attempts).filterMap
        SrtAction.event) := by
  induction attempts generalizing failures with
  | nil => exact .stopped
  | cons attempt rest ih =>
    obtain ⟨outcome, session⟩ := attempt
    cases outcome with
    | cancelled => exact .asked
    | pending =>
      simp only [reconnectLoop, List.filterMap_cons, SrtAction.event, hsocket]
      exact .waiting
    | failed =>
      by_cases hlimit : failures + 1 ≥ maxRetries
      · simp only [reconnectLoop, List.filterMap_cons, SrtAction.event, List.filterMap_append,
          hsocket, hgaveUp, if_pos hlimit]
        exact .exhausted hlimit
      · simp only [reconnectLoop, List.filterMap_cons, SrtAction.event, List.filterMap_append,
          hsocket, hlost, if_neg hlimit]
        exact .failure (Nat.lt_of_not_ge hlimit) (ih _)
    | connected peer now =>
      have hresult : Attempt.result ends ⟨.connected peer now, session⟩ =
          .connected (sessionEnd session == .broken) := by
        have hbool : (session.findSome? ends == some true) = (sessionEnd session == .broken) :=
          Bool.eq_iff_iff.mpr (by rw [beq_iff_eq, beq_iff_eq, hends])
        rw [Attempt.result, hbool]
      rw [List.map_cons, hresult]
      cases hsession : sessionEnd session with
      | broken =>
        simp only [reconnectLoop, List.filterMap_cons, SrtAction.event, List.filterMap_append,
          hsocket, hlost, hsession, opens, List.append_assoc]
        exact .session (ih 0)
      | unfinished =>
        simp only [reconnectLoop, List.filterMap_cons, SrtAction.event, List.filterMap_append,
          hsocket, hsession, opens, List.append_assoc]
        exact .holding
      | returned =>
        simp only [reconnectLoop, List.filterMap_cons, SrtAction.event, List.filterMap_append,
          hsocket, hsession, opens, List.append_assoc]
        exact .holding

/-- On every sequence of attempts both tasks keep to the protocol of their client. -/
theorem srtTasks_lawful :
    (∀ (id : Int) (config : SrtInputConfig) (stateTx : Option StateChangeSender)
        (attempts : List (Attempt ReadEvent)),
        (srtClient (srtInputStatus config) (srtInputStatus_ne_error config) stateTx).Lawful
          (attempts.map (Attempt.result ReadEvent.ends))
          ((srtInputTask id config stateTx attempts).filterMap SrtAction.event)) ∧
      ∀ (inputId outputId : Int) (config : SrtOutputConfig)
        (stateTx : Option StateChangeSender) (attempts : List (Attempt SendEvent)),
        (srtClient (srtOutputStatus config) (srtOutputStatus_ne_error config) stateTx).Lawful
          (attempts.map (Attempt.result SendEvent.ends))
          ((srtOutputTask inputId outputId config stateTx attempts).filterMap
            SrtAction.event) := by
  refine ⟨?_, ?_⟩
  · intro id config stateTx attempts
    have h := srtInputStatus_ne_error config
    rw [srtInputTask, forwarderLoop_eq]
    exact Client.Run.lawful _ (reconnectLoop_run h stateTx readLoop_broken_iff
      (filterMap_source config id stateTx) (filterMap_notify h _ _) (filterMap_notify h _ _)
      0 attempts)
  · intro inputId outputId config stateTx attempts
    have h := srtOutputStatus_ne_error config
    rw [srtOutputTask, spawnSrtOutputLoop_eq]
    exact Client.Run.lawful _ (reconnectLoop_run h stateTx sendLoop_broken_iff
      (filterMap_sink config inputId outputId stateTx) (filterMap_notify h _ _)
      (filterMap_notify h _ _) 0 attempts)

/-! ## The messages of the runs -/

theorem mem_reconnectLoop {ε : Type} {getSocket : SocketOutcome → List SrtAction}
    {sessionEnd : List ε → SessionEnd} {lost gaveUp : List SrtAction} {failures : ℕ}
    {attempts : List (Attempt ε)} {change : StateChange}
    (h : .send change ∈ reconnectLoop getSocket sessionEnd lost gaveUp failures attempts) :
    (∃ outcome, .send change ∈ getSocket outcome) ∨ .send change ∈ lost ∨
      .send change ∈ gaveUp := by
  induction attempts generalizing failures with
  | nil => simp [reconnectLoop] at h
  | cons attempt rest ih =>
    obtain ⟨outcome, session⟩ := attempt
    cases outcome with
    | cancelled => simp [reconnectLoop] at h
    | pending =>
      simp only [reconnectLoop, List.mem_cons, reduceCtorEq, false_or] at h
      exact Or.inl ⟨_, h⟩
    | failed =>
      simp only [reconnectLoop, List.mem_cons, List.mem_append, reduceCtorEq, false_or] at h
      rcases h with h | h
      · exact Or.inl ⟨_, h⟩
      · split_ifs at h with hlimit
        · exact Or.inr (Or.inr h)
        · rcases List.mem_append.mp h with h | h
          · exact Or.inr (Or.inl h)
          · exact ih h
    | connected peer now =>
      simp only [reconnectLoop, List.mem_cons, List.mem_append, reduceCtorEq, false_or] at h
      rcases h with h | h
      · exact Or.inl ⟨_, h⟩
      · split at h
        · rcases List.mem_append.mp h with h | h
          · exact Or.inr (Or.inl h)
          · exact ih h
        · simp at h

theorem eq_of_mem_notify {stateTx : Option StateChangeSender} {change change' : StateChange}
    (h : .send change ∈ notify stateTx change') : stateTx = some ⟨⟩ ∧ change = change' := by
  cases stateTx with
  | none => simp [notify] at h
  | some _ =>
    simp only [notify, Option.elim_some, List.mem_singleton, SrtAction.send.injEq] at h
    exact ⟨rfl, h⟩

/-- Opening the socket of an input tells the first status and then the connection. -/
theorem source_tells {config : SrtInputConfig} {id : Int} {stateTx : Option StateChangeSender}
    {outcome : SocketOutcome} {change : StateChange}
    (h : .send change ∈ SrtSourceWithState.getSocket ⟨config, id, stateTx⟩ outcome) :
    stateTx = some ⟨⟩ ∧ (change = .inputStateChanged id (srtInputStatus config) none none ∨
      ∃ now peer, change = .inputStateChanged id .connected (some now) (some peer)) := by
  cases outcome with
  | connected peer now =>
    cases config <;>
    · simp only [SrtSourceWithState.getSocket, List.mem_append, List.mem_cons, reduceCtorEq,
        false_or] at h
      rcases h with h | h
      · obtain ⟨rfl, rfl⟩ := eq_of_mem_notify h
        exact ⟨rfl, .inl rfl⟩
      · obtain ⟨rfl, rfl⟩ := eq_of_mem_notify h
        exact ⟨rfl, .inr ⟨_, _, rfl⟩⟩
  | cancelled | pending | failed =>
    cases config <;>
    · simp only [SrtSourceWithState.getSocket, List.mem_append, List.mem_cons, List.not_mem_nil,
        or_false, reduceCtorEq] at h
      obtain ⟨rfl, rfl⟩ := eq_of_mem_notify h
      exact ⟨rfl, .inl rfl⟩

theorem source_sends {config : SrtInputConfig} {id : Int} {stateTx : Option StateChangeSender}
    {outcome : SocketOutcome} {change : StateChange}
    (h : .send change ∈ SrtSourceWithState.getSocket ⟨config, id, stateTx⟩ outcome)
    (name : Option String) (tx : ChannelId) :
    (TaskSpec.srtInput id name config stateTx tx).Sends change := by
  obtain ⟨rfl, rfl | ⟨now, peer, rfl⟩⟩ := source_tells h
  · exact .srtInput none none (by simp)
  · exact .srtInput (some now) (some peer) (by simp)

/-- So does opening the socket of an output. -/
theorem sink_tells {config : SrtOutputConfig} {inputId outputId : Int}
    {stateTx : Option StateChangeSender} {outcome : SocketOutcome} {change : StateChange}
    (h : .send change ∈ SrtSinkWithState.getSocket ⟨config, inputId, outputId, stateTx⟩ outcome) :
    stateTx = some ⟨⟩ ∧ ((∃ status, (status = .listening ∨ status = .connecting) ∧
        change = .outputStateChanged inputId outputId status none none) ∨
      ∃ now peer, change = .outputStateChanged inputId outputId .connected (some now)
        (some peer)) := by
  cases outcome with
  | connected peer now =>
    cases config <;>
    · simp only [SrtSinkWithState.getSocket, List.mem_append, List.mem_cons, reduceCtorEq,
        false_or] at h
      rcases h with h | h
      · obtain ⟨rfl, rfl⟩ := eq_of_mem_notify h
        exact ⟨rfl, .inl ⟨_, by simp, rfl⟩⟩
      · obtain ⟨rfl, rfl⟩ := eq_of_mem_notify h
        exact ⟨rfl, .inr ⟨_, _, rfl⟩⟩
  | cancelled | pending | failed =>
    cases config <;>
    · simp only [SrtSinkWithState.getSocket, List.mem_append, List.mem_cons, List.not_mem_nil,
        or_false, reduceCtorEq] at h
      obtain ⟨rfl, rfl⟩ := eq_of_mem_notify h
      exact ⟨rfl, .inl ⟨_, by simp, rfl⟩⟩

theorem sink_sends {config : SrtOutputConfig} {inputId outputId : Int}
    {stateTx : Option StateChangeSender} {outcome : SocketOutcome} {change : StateChange}
    (h : .send change ∈ SrtSinkWithState.getSocket ⟨config, inputId, outputId, stateTx⟩ outcome)
    (name : Option String) (packetRx : ChannelId) :
    (TaskSpec.srtOutput inputId outputId name config stateTx packetRx).Sends change := by
  obtain ⟨rfl, ⟨status, rfl | rfl, rfl⟩ | ⟨now, peer, rfl⟩⟩ := sink_tells h
  · exact .srtOutput none none (by simp)
  · exact .srtOutput none none (by simp)
  · exact .srtOutput (some now) (some peer) (by simp)

/-- The gateway lets the task of an SRT input send what its code sends. -/
theorem srtInputTask_sends {id : Int} {config : SrtInputConfig}
    {stateTx : Option StateChangeSender} {attempts : List (Attempt ReadEvent)}
    {change : StateChange} (h : .send change ∈ srtInputTask id config stateTx attempts)
    (name : Option String) (tx : ChannelId) :
    (TaskSpec.srtInput id name config stateTx tx).Sends change := by
  rw [srtInputTask, forwarderLoop_eq] at h
  rcases mem_reconnectLoop h with ⟨outcome, h⟩ | h | h
  · exact source_sends h name tx
  · obtain ⟨rfl, rfl⟩ := eq_of_mem_notify h
    exact .srtInput _ _ (by simp)
  · obtain ⟨rfl, rfl⟩ := eq_of_mem_notify h
    exact .srtInput _ _ (by simp)

/-- So it does for the task of an SRT output. -/
theorem srtOutputTask_sends {inputId outputId : Int} {config : SrtOutputConfig}
    {stateTx : Option StateChangeSender} {attempts : List (Attempt SendEvent)}
    {change : StateChange}
    (h : .send change ∈ srtOutputTask inputId outputId config stateTx attempts)
    (name : Option String) (packetRx : ChannelId) :
    (TaskSpec.srtOutput inputId outputId name config stateTx packetRx).Sends change := by
  rw [srtOutputTask, spawnSrtOutputLoop_eq] at h
  rcases mem_reconnectLoop h with ⟨outcome, h⟩ | h | h
  · exact sink_sends h name packetRx
  · obtain ⟨rfl, rfl⟩ := eq_of_mem_notify h
    exact .srtOutput _ _ (by simp)
  · obtain ⟨rfl, rfl⟩ := eq_of_mem_notify h
    exact .srtOutput _ _ (by simp)

end StreamGateway
