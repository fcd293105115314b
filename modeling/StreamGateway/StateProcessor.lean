import StreamGateway.Async
import StreamGateway.State

/-!
# The state processor

One task takes the state messages from the queue, writes the new status into the entry of
the stream under a write guard, and reports to the metrics without a guard. It does not
look at who sent the message.
-/
namespace StreamGateway

open Prog

def getInputStreamType (config : CreateInputRequest) : String :=
  match config with
  | .udp .. => "udp"
  | .srt .. => "srt"
  | .spts .. => "spts"

def getOutputStreamType (config : CreateOutputRequest) : String :=
  match config with
  | .udp .. => "udp"
  | .srt .. => "srt"

/-- A connection sets the metadata, and a status that is not active clears them. -/
def updateMetadata {α : Type} (newStatus : StreamStatus) (new old : Option α) : Option α :=
  if newStatus.isConnected then new else if newStatus.isActive then old else none

def InputInfo.withStatus (info : InputInfo) (newStatus : StreamStatus) (connectedAt : Option ℕ)
    (sourceAddress : Option String) : InputInfo :=
  { info with
    status := newStatus
    connectedAt := updateMetadata newStatus connectedAt info.connectedAt
    sourceAddress := updateMetadata newStatus sourceAddress info.sourceAddress }

def OutputInfo.withStatus (info : OutputInfo) (newStatus : StreamStatus)
    (connectedAt : Option ℕ) (peerAddress : Option String) : OutputInfo :=
  { info with
    status := newStatus
    connectedAt := updateMetadata newStatus connectedAt info.connectedAt
    peerAddress := updateMetadata newStatus peerAddress info.peerAddress }

/-- What is kept for the metrics: the old status, the type and the name of the stream. -/
abbrev Transition := StreamStatus × String × Option String

/-- A message about a stream that is not there changes nothing. -/
def applyChange (change : StateChange) (streams : HashMap Int InputInfo) :
    Option Transition × HashMap Int InputInfo :=
  match change with
  | .inputStateChanged inputId newStatus connectedAt sourceAddress =>
    match streams.lookup inputId with
    | none => (none, streams)
    | some info =>
      (some (info.status, getInputStreamType info.config, info.name),
        streams.insert inputId (info.withStatus newStatus connectedAt sourceAddress))
  | .outputStateChanged inputId outputId newStatus connectedAt peerAddress =>
    match streams.lookup inputId with
    | none => (none, streams)
    | some info =>
      match info.outputTasks.lookup outputId with
      | none => (none, streams)
      | some output =>
        let output' := output.withStatus newStatus connectedAt peerAddress
        (some (output.status, getOutputStreamType output.config, output.name),
          streams.insert inputId
            { info with outputTasks := info.outputTasks.insert outputId output' })

/-- The section under the guard: the message in processing is applied and done with. -/
def applyProcessing (w : World) : Option (StateChange × Transition) × World :=
  match w.rt.processing with
  | none => (none, w)
  | some e =>
    let (transition, streams) := applyChange e.change w.streams
    (transition.map fun t => (e.change, t),
      { w with streams := streams, rt := { w.rt with processing := none } })

/-- The metrics of a transition into or out of `connected`. -/
def transitionMetrics (t : Transition) (id : Int) (direction : String) (newStatus : StreamStatus)
    (connectedAt : Option ℕ) (address : Option String) (now : ℕ) : List Metric :=
  let (oldStatus, streamType, streamName) := t
  if newStatus.isConnected ∧ !oldStatus.isConnected then
    [.recordConnectionEvent streamName id streamType direction "connected" address,
      .updateActiveConnections streamName id streamType direction true]
  else if oldStatus.isConnected ∧ !newStatus.isConnected then
    [.recordConnectionEvent streamName id streamType direction "disconnected" address,
      .updateActiveConnections streamName id streamType direction false] ++
      (connectedAt.filter (· ≤ now)).toList.map fun t =>
        .recordConnectionDuration streamName id streamType direction (now - t)
  else []

def changeMetrics (change : StateChange) (t : Transition) (now : ℕ) : List Metric :=
  match change with
  | .inputStateChanged inputId newStatus connectedAt sourceAddress =>
    transitionMetrics t inputId "input" newStatus connectedAt sourceAddress now
  | .outputStateChanged _ outputId newStatus connectedAt peerAddress =>
    transitionMetrics t outputId "output" newStatus connectedAt peerAddress now

def recordTransition (change : StateChange) (t : Transition) (w : World) : Unit × World :=
  ((), { w with
    rt := { w.rt with metrics := w.rt.metrics ++ changeMetrics change t w.rt.clock } })

/-- Takes the first message of the queue, if the last one is done with. -/
def receive (w : World) : Unit × World :=
  match w.rt.processing, w.rt.queue with
  | none, e :: queue => ((), { w with rt := { w.rt with queue := queue, processing := some e } })
  | _, _ => ((), w)

/-- One round of the processor's loop, with `handle_input_state_change` or
`handle_output_state_change`. -/
def processMessage : Prog World Unit := do
  atomic receive
  match ← locked .write applyProcessing with
  | none => return ()
  | some (change, t) => atomic (recordTransition change t)

end StreamGateway
