import StreamGateway.Async
import StreamGateway.State

/-!
# Analyses

An analysis of an input is started in three parts: it subscribes to the channel of the
input under a read guard, spawns its task without a guard, and enters itself into
`analysis_tasks` under a write guard.
-/
namespace StreamGateway

open Prog

/-- `Uuid::new_v4()`, which never gives an id twice. -/
def newAnalysisId (w : World) : ℕ × World :=
  (w.rt.nextUuid, { w with rt := { w.rt with nextUuid := w.rt.nextUuid + 1 } })

def InputInfo.runsAnalysis (info : InputInfo) (analysisType : AnalysisType) : Bool :=
  info.analysisTasks.toPairs.any fun a => a.2.analysisType = analysisType

/-- The subscription to the channel of the input. -/
def subscribeAnalysis (inputId : Int) (analysisType : AnalysisType) (w : World) :
    Except String ChannelId :=
  match w.streams.lookup inputId with
  | none => .error s!"Input {inputId} not found"
  | some info =>
    if info.runsAnalysis analysisType then
      .error s!"Analysis type {analysisType} is already running for input {inputId}"
    else .ok info.packetTx

/-- `Duration::from_secs(minutes * 60)` in milliseconds. On overflow the product panics in a
build with checks, and else wraps around. -/
def minutesDuration (overflowChecks : Bool) (minutes : UInt64) : Except String ℕ :=
  if overflowChecks ∧ UInt64.size ≤ minutes.toNat * 60 then
    .error "attempt to multiply with overflow"
  else .ok ((minutes * 60).toNat * 1000)

/-- `SystemTime::now() + duration`, which panics where an `i64` does not hold the seconds. -/
def expiryTime (now duration : ℕ) : Except String ℕ :=
  if now + duration < 0x8000000000000000 * 1000 then .ok (now + duration)
  else .error "overflow when adding duration to instant"

/-- How long the task of an analysis runs, and when it expires. -/
def analysisTimeout (overflowChecks : Bool) (now : ℕ) :
    Option UInt64 → Except String (Option (ℕ × ℕ))
  | none => .ok none
  | some minutes => do
    let duration ← minutesDuration overflowChecks minutes
    let expires ← expiryTime now duration
    return some (duration, expires)

def launchAnalysis (inputId : Int) (analysisId : ℕ) (analysisType : AnalysisType)
    (timeoutMinutes : Option UInt64) (timeout : Option (ℕ × ℕ)) (rx : ChannelId) (w : World) :
    AnalysisInfo × World :=
  let spec := TaskSpec.analysis inputId analysisId analysisType (timeout.map Prod.fst) rx
  ({ id := analysisId
     analysisType := analysisType
     inputId := inputId
     taskHandle := w.rt.newTask spec
     createdAt := w.rt.clock
     timeoutMinutes := timeoutMinutes
     expiresAt := timeout.map Prod.snd },
    { w with rt := w.rt.spawn spec })

/-- A panic ends the call here as an error does, for the call holds no guard. -/
def spawnAnalysis (env : Env) (inputId : Int) (analysisId : ℕ) (analysisType : AnalysisType)
    (timeoutMinutes : Option UInt64) (rx : ChannelId) (w : World) :
    Except String AnalysisInfo × World :=
  match analysisTimeout env.overflowChecks w.rt.clock timeoutMinutes with
  | .error e => (.error e, w)
  | .ok timeout =>
    let (analysisInfo, w) :=
      launchAnalysis inputId analysisId analysisType timeoutMinutes timeout rx w
    (.ok analysisInfo, w)

def insertAnalysis (inputId : Int) (analysisInfo : AnalysisInfo) (w : World) :
    Except String ℕ × World :=
  match w.streams.lookup inputId with
  | none => (.error s!"Input {inputId} not found when trying to add analysis task", w)
  | some info =>
    let info := { info with
      analysisTasks := info.analysisTasks.insert analysisInfo.id analysisInfo }
    (.ok analysisInfo.id, { w with streams := w.streams.insert inputId info })

def startAnalysis (env : Env) (inputId : Int) (analysisType : AnalysisType)
    (timeoutMinutes : Option UInt64) : Prog World (Except String ℕ) := do
  let analysisId ← atomic newAnalysisId
  match ← locked .read fun w => (subscribeAnalysis inputId analysisType w, w) with
  | .error e => return .error e
  | .ok rx =>
  match ← atomic (spawnAnalysis env inputId analysisId analysisType timeoutMinutes rx) with
  | .error e => return .error e
  | .ok analysisInfo => locked .write (insertAnalysis inputId analysisInfo)

/-- The first analysis of the type in iteration order is removed. -/
def stopAnalysisSection (inputId : Int) (analysisType : AnalysisType) (w : World) :
    Except String Unit × World :=
  match w.streams.lookup inputId with
  | none => (.error s!"Input {inputId} not found", w)
  | some info =>
    match info.analysisTasks.toPairs.find? fun a => a.2.analysisType = analysisType with
    | none => (.error s!"No active {analysisType} analysis found for input {inputId}", w)
    | some (analysisId, analysisInfo) =>
      let info := { info with analysisTasks := info.analysisTasks.erase analysisId }
      (.ok (), { w with
        streams := w.streams.insert inputId info
        rt := w.rt.abort analysisInfo.taskHandle })

def stopAnalysis (inputId : Int) (analysisType : AnalysisType) :
    Prog World (Except String Unit) :=
  locked .write (stopAnalysisSection inputId analysisType)

/-- Aborts the tasks in iteration order. -/
def abortAnalyses (analyses : List (ℕ × AnalysisInfo)) (rt : Runtime) : Runtime :=
  analyses.foldl (fun rt a => rt.abort a.2.taskHandle) rt

def stopAllAnalysisSection (inputId : Int) (w : World) : Except String Unit × World :=
  match w.streams.lookup inputId with
  | none => (.error s!"Input {inputId} not found", w)
  | some info =>
    (.ok (), { w with
      streams := w.streams.insert inputId { info with analysisTasks := ∅ }
      rt := abortAnalyses info.analysisTasks.toPairs w.rt })

def stopAllAnalysis (inputId : Int) : Prog World (Except String Unit) :=
  locked .write (stopAllAnalysisSection inputId)

/-- What is shown of an analysis: its id and type, when it was created, its timeout and when it
expires. -/
abbrev ActiveAnalysis := ℕ × AnalysisType × ℕ × Option UInt64 × Option ℕ

def getActiveAnalyses (inputId : Int) (w : World) : Except String (List ActiveAnalysis) :=
  match w.streams.lookup inputId with
  | none => .error s!"Input {inputId} not found"
  | some info => .ok (info.analysisTasks.toPairs.map fun (id, info) =>
      (id, info.analysisType, info.createdAt, info.timeoutMinutes, info.expiresAt))

end StreamGateway
