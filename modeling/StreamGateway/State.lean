import StreamGateway.Serde
import StreamGateway.Table
import Mathlib.Data.List.AList

/-!
# The state of the gateway

The gateway keeps its streams in `ACTIVE_STREAMS`, and the configurations of the streams in
a database. Next to them there are the tasks that the runtime executes, the broadcast
channels they share, the queue of the state messages they send, and the metrics. A handle
is modelled by the task it is a handle of, and a sender or receiver of a broadcast channel
by the channel.
-/
namespace StreamGateway

/-- A `HashMap`. Its iteration order is the order of the entries. -/
abbrev HashMap (κ β : Type) := AList fun _ : κ => β

namespace HashMap

variable {κ β : Type} [DecidableEq κ]

/-- The pairs in iteration order. -/
def toPairs (m : HashMap κ β) : List (κ × β) := m.entries.map fun e => (e.1, e.2)

/-- `m.extend(n)`: the pairs of `n` replace those of `m`. -/
def extend (m n : HashMap κ β) : HashMap κ β := n ∪ m

end HashMap

/-! ## Tasks -/

abbrev ChannelId := ℕ

/-- The sender of the one state message channel. -/
structure StateChangeSender where
  deriving DecidableEq, Repr

structure MulticastOutputConfig where
  ttl : UInt8
  interface : Option String
  deriving DecidableEq, Repr

abbrev SocketAddr := IpAddr × ℕ

/-- The arguments that the code of a task is spawned with. -/
inductive TaskSpec
  | udpInput (id : Int) (name : Option String) (listenPort : UInt16)
      (bindHost multicastGroup sourceSpecificMulticast : Option String)
      (stateTx : Option StateChangeSender) (tx : ChannelId)
  | srtInput (id : Int) (name : Option String) (config : SrtInputConfig)
      (stateTx : Option StateChangeSender) (tx : ChannelId)
  | sptsInput (id : Int) (name : Option String) (sourceInputId : Int) (programNumber : UInt16)
      (fillWithNulls : Bool) (stateTx : Option StateChangeSender) (sourceRx tx : ChannelId)
  | udpOutput (inputId outputId : Int) (name : Option String) (destAddr : SocketAddr)
      (bindHost : Option String) (multicastConfig : Option MulticastOutputConfig)
      (packetRx : ChannelId)
  | srtOutput (inputId outputId : Int) (name : Option String) (config : SrtOutputConfig)
      (stateTx : Option StateChangeSender) (packetRx : ChannelId)
  | analysis (inputId : Int) (analysisId : ℕ) (analysisType : AnalysisType)
      (timeout : Option ℕ) (packetRx : ChannelId)
  deriving DecidableEq, Repr

/-- The stream that a task works for. -/
inductive Owner
  | input (id : Int)
  | output (inputId outputId : Int)
  | analysis (inputId : Int) (analysisId : ℕ)
  deriving DecidableEq, Repr

def Owner.outputId : Owner → Option Int
  | .output _ outputId => some outputId
  | _ => none

def TaskSpec.owner : TaskSpec → Owner
  | .udpInput id .. => .input id
  | .srtInput id .. => .input id
  | .sptsInput id .. => .input id
  | .udpOutput inputId outputId .. => .output inputId outputId
  | .srtOutput inputId outputId .. => .output inputId outputId
  | .analysis inputId analysisId .. => .analysis inputId analysisId

/-- The channel that the task receives its packets from, if it does not open a socket. -/
def TaskSpec.packetRx : TaskSpec → Option ChannelId
  | .udpInput .. => none
  | .srtInput .. => none
  | .sptsInput _ _ _ _ _ _ sourceRx _ => some sourceRx
  | .udpOutput _ _ _ _ _ _ packetRx => some packetRx
  | .srtOutput _ _ _ _ _ packetRx => some packetRx
  | .analysis _ _ _ _ packetRx => some packetRx

structure Task where
  id : ℕ
  spec : TaskSpec
  deriving DecidableEq, Repr

/-- A message of a stream task about its own stream. -/
inductive StateChange
  | inputStateChanged (inputId : Int) (newStatus : StreamStatus) (connectedAt : Option ℕ)
      (sourceAddress : Option String)
  | outputStateChanged (inputId outputId : Int) (newStatus : StreamStatus)
      (connectedAt : Option ℕ) (peerAddress : Option String)
  deriving DecidableEq, Repr

/-- A message on its way. The code does not record who sent it. -/
structure Envelope where
  sender : Task
  change : StateChange
  deriving DecidableEq, Repr

/-- What the code reports to the metrics, call by call. -/
inductive Metric
  | incrementActiveInputs
  | decrementActiveInputs
  | incrementActiveOutputs
  | decrementActiveOutputs
  | recordConnectionEvent (name : Option String) (id : Int) (streamType direction event : String)
      (address : Option String)
  | updateActiveConnections (name : Option String) (id : Int) (streamType direction : String)
      (connected : Bool)
  | recordConnectionDuration (name : Option String) (id : Int) (streamType direction : String)
      (duration : ℕ)
  deriving DecidableEq, Repr

/-- The part of the state outside the streams and the database. The clock is in
milliseconds. The tasks are in the order of their spawns, and live until they are aborted or
return. The code of a task has ended once it has returned or its abort has taken effect. The
message that the processor has taken from the queue is in `processing`. -/
structure Runtime where
  nextChannel : ChannelId
  nextUuid : ℕ
  spawned : List Task
  live : List Task
  aborted : List Task
  ended : List Task
  queue : List Envelope
  processing : Option Envelope
  metrics : List Metric
  clock : ℕ
  stateChangeTx : Option StateChangeSender

namespace Runtime

/-- `broadcast::channel(..)`. -/
def openChannel (rt : Runtime) : Runtime := { rt with nextChannel := rt.nextChannel + 1 }

/-- The task that the next spawn gives. -/
def newTask (rt : Runtime) (spec : TaskSpec) : Task := ⟨rt.spawned.length, spec⟩

/-- `tokio::spawn(..)`. -/
def spawn (rt : Runtime) (spec : TaskSpec) : Runtime :=
  { rt with
    spawned := rt.spawned ++ [rt.newTask spec]
    live := rt.live ++ [rt.newTask spec] }

/-- `handle.abort()`. The poll of the task that is under way goes on until it returns. -/
def abort (rt : Runtime) (task : Task) : Runtime :=
  { rt with live := rt.live.filter (· ≠ task), aborted := rt.aborted ++ [task] }

/-- The code of the task runs. That is so for all live tasks, and for those that were aborted in
a poll that has not returned. -/
def Running (rt : Runtime) (task : Task) : Prop := task ∈ rt.spawned ∧ task ∉ rt.ended

instance (rt : Runtime) (task : Task) : Decidable (rt.Running task) :=
  inferInstanceAs (Decidable (task ∈ rt.spawned ∧ task ∉ rt.ended))

def record (rt : Runtime) (metric : Metric) : Runtime :=
  { rt with metrics := rt.metrics ++ [metric] }

/-- `if let Some(handle) = handle { handle.abort() }`. -/
def abortHandle (rt : Runtime) (handle : Option Task) : Runtime :=
  handle.elim rt rt.abort

end Runtime

/-! ## Streams -/

structure OutputInfo where
  id : Int
  name : Option String
  inputId : Int
  kind : OutputKind
  status : StreamStatus
  destination : String
  abortHandle : Option Task
  config : CreateOutputRequest
  startedAt : Option ℕ
  connectedAt : Option ℕ
  stateTx : Option StateChangeSender
  peerAddress : Option String
  errorMessage : Option String
  deriving DecidableEq, Repr

structure AnalysisInfo where
  id : ℕ
  analysisType : AnalysisType
  inputId : Int
  taskHandle : Task
  createdAt : ℕ
  timeoutMinutes : Option UInt64
  expiresAt : Option ℕ
  deriving DecidableEq, Repr

structure InputInfo where
  id : Int
  name : Option String
  status : StreamStatus
  packetTx : ChannelId
  taskHandle : Option Task
  config : CreateInputRequest
  outputTasks : HashMap Int OutputInfo
  stoppedOutputs : HashMap Int CreateOutputRequest
  analysisTasks : HashMap ℕ AnalysisInfo
  pausedAnalysis : List AnalysisType
  startedAt : Option ℕ
  connectedAt : Option ℕ
  stateTx : Option StateChangeSender
  sourceAddress : Option String
  errorMessage : Option String

/-! ## The database -/

/-- The columns of a row of `inputs` behind its id. -/
structure InputRow where
  name : Option String
  kind : String
  configJson : Json
  status : String

/-- The columns of a row of `outputs` behind its id. -/
structure OutputRow where
  name : Option String
  inputId : Int
  kind : String
  destination : Option String
  listenPort : Option UInt16
  configJson : Option Json
  status : String

structure Database where
  inputs : Table InputRow
  outputs : Table OutputRow

/-- The state that all calls share. -/
structure World where
  streams : HashMap Int InputInfo
  db : Database
  rt : Runtime

/-- The start of the process: nothing in memory. -/
def Runtime.init (stateChangeTx : Option StateChangeSender) : Runtime :=
  ⟨0, 0, [], [], [], [], [], none, [], 0, stateChangeTx⟩

def World.boot (db : Database) : World := ⟨∅, db, .init (some ⟨⟩)⟩

/-! ## Answers from outside -/

/-- The queries to the database that can fail. -/
inductive Query
  | saveInput | deleteOutputsOfInput | deleteInput | saveOutput | deleteOutput
  | getAllInputs | getAllOutputs | checkOutputExists | checkPortConflict (port : UInt16)
  | getInputById | getOutputById | updateInputStatus | updateOutputStatus | getInputIdForOutput
  | updateInput | updateOutput | listenPorts | inputConfigs
  deriving DecidableEq, Repr

/-- What a call learns from outside the process: the error text of each query that fails,
the answers of the resolver, the ports that can be bound, the addresses of the network
interfaces, and the texts of deserialization errors. Whether the build checks its arithmetic
is `overflowChecks`. -/
structure Env where
  queryError : Query → Option String
  lookupHost : String → Except String (List SocketAddr)
  portAvailable : UInt16 → Bool
  autoPortRangeStart : UInt16
  autoPortRangeEnd : UInt16
  interfaces : Option (List IpAddr)
  jsonError : String
  overflowChecks : Bool

end StreamGateway
