import StreamGateway.FilterCore
import StreamGateway.Gateway

/-!
# The tasks of the UDP and SPTS inputs

Translation of the loops of `spawn_udp_input_with_stats` and `spawn_spts_input`. What happens
outside is a list of arrivals, each with the time at which it is there, on the clock of
`Instant`, which counts nanoseconds. Handling an arrival takes no time. A list that ends
stands for a task that still waits. The traces say when a task does what; the log and the
byte metrics are left out. The counters, `u64` in the code, are natural numbers. The two agree
as long as a task gets less than 2^61 bytes, whose bits are less than 2^64.
-/
namespace StreamGateway

open MpegtsFilter

/-- `Duration::from_secs(..)`. -/
def fromSecs (secs : ℕ) : ℕ := secs * 1000000000

structure UdpStats where
  totalPackets : ℕ
  totalBytes : ℕ
  packetsPerSec : ℕ
  bitrateBps : ℕ
  deriving DecidableEq, Repr

/-- `UdpStatsAtomic::new()`. -/
def UdpStats.new : UdpStats := ⟨0, 0, 0, 0⟩

/-- What a task does. The data that it broadcasts counts as a number of packets. The snapshot
at the end of a window is published if the cell for it can be written. -/
inductive StreamAction
  | send (change : StateChange)
  | broadcast (packets bytes : ℕ)
  | snapshot (stats : UdpStats) (published : Bool)
  deriving DecidableEq, Repr

/-- What a task does, each with its time. -/
abbrev StreamTrace := List (ℕ × StreamAction)

/-- `if let Some(ref tx) = state_tx { let _ = tx.send(..); }`. -/
def notifyAt (now : ℕ) (stateTx : Option StateChangeSender) (change : StateChange) :
    StreamTrace :=
  stateTx.elim [] fun _ => [(now, .send change)]

/-! ## UDP inputs -/

/-- What the task has from its spawn. -/
structure UdpInputTask where
  id : Int
  listenPort : UInt16
  stateTx : Option StateChangeSender

/-- What the branches of the `select!` get, besides the timer. -/
inductive UdpEvent
  | datagram (size : ℕ) (peerIp : String) (systemTime : ℕ)
  | recvError
  | cancelled

/-- The variables of the loop. The stored statistics are behind an `Arc` of atomics. -/
structure UdpLoop where
  totalBytes : ℕ
  totalPackets : ℕ
  windowBytes : ℕ
  windowPkts : ℕ
  windowStart : ℕ
  isConnected : Bool
  lastPacketTime : ℕ
  atomicStats : UdpStats

def UdpLoop.start (now : ℕ) : UdpLoop := ⟨0, 0, 0, 0, now, false, now, .new⟩

def idleTimeout : ℕ := fromSecs 10

namespace UdpInputTask

/-- The branch for a packet: it is passed on and counted, and closes the window if the window
is a second old. -/
def received (task : UdpInputTask) (l : UdpLoop) (now n : ℕ) (peerIp : String)
    (systemTime : ℕ) : StreamTrace × UdpLoop :=
  let totals := { l.atomicStats with
    totalPackets := l.totalPackets + 1
    totalBytes := l.totalBytes + n }
  let connected := if l.isConnected then [] else
    notifyAt now task.stateTx (.inputStateChanged task.id .connected (some systemTime)
      (some (hostPort peerIp task.listenPort)))
  let counted := { l with
    totalBytes := l.totalBytes + n
    totalPackets := l.totalPackets + 1
    windowBytes := l.windowBytes + n
    windowPkts := l.windowPkts + 1
    isConnected := true
    lastPacketTime := now
    atomicStats := totals }
  if now - l.windowStart ≥ fromSecs 1 then
    let stats := { totals with
      packetsPerSec := l.windowPkts + 1
      bitrateBps := (l.windowBytes + n) * 8 }
    ((now, .broadcast 1 n) :: (connected ++ [(now, .snapshot stats true)]),
      { counted with
        windowStart := now
        windowBytes := 0
        windowPkts := 0
        atomicStats := stats })
  else ((now, .broadcast 1 n) :: connected, counted)

/-- The guard of the idle branch, which is looked at when the `select!` begins to wait. -/
def idleArmed (l : UdpLoop) (now : ℕ) : Bool :=
  l.isConnected && decide (now - l.lastPacketTime ≥ idleTimeout)

/-- The idle branch ends the wait, which began at the given time, before the next arrival. A
tie can go either way. -/
def idleFirst (ties : ℕ → Bool) (now : ℕ) (next : Option ℕ) : Bool :=
  match next with
  | none => true
  | some t => now + idleTimeout < t || (now + idleTimeout = t && ties t)

/-- The wait for the next arrival. The idle branch resets its own guard, so it is not taken
twice. -/
def wait (task : UdpInputTask) (ties : ℕ → Bool) (l : UdpLoop) (now : ℕ) (next : Option ℕ) :
    StreamTrace × UdpLoop × ℕ :=
  if idleArmed l now && idleFirst ties now next then
    (notifyAt (now + idleTimeout) task.stateTx (.inputStateChanged task.id .listening none none),
      { l with isConnected := false }, now + idleTimeout)
  else ([], l, now)

/-- The loop. An arrival that came while the task was busy is handled at once. -/
def loop (task : UdpInputTask) (ties : ℕ → Bool) :
    UdpLoop → ℕ → List (ℕ × UdpEvent) → StreamTrace
  | l, now, [] => (task.wait ties l now none).1
  | l, now, (time, event) :: rest =>
    let (idle, l, now) := task.wait ties l now (some time)
    match event with
    | .datagram n peerIp systemTime =>
      let (trace, l) := task.received l (max now time) n peerIp systemTime
      idle ++ (trace ++ task.loop ties l (max now time) rest)
    | .recvError => idle
    | .cancelled => idle

/-- The whole task, with a socket that can be opened or not. -/
def run (task : UdpInputTask) (ties : ℕ → Bool) (opened : Bool) (now : ℕ)
    (arrivals : List (ℕ × UdpEvent)) : StreamTrace :=
  if opened then
    notifyAt now task.stateTx (.inputStateChanged task.id .listening none none) ++
      task.loop ties (.start now) now arrivals
  else notifyAt now task.stateTx (.inputStateChanged task.id .error none none)

end UdpInputTask

/-! ## SPTS inputs -/

structure SptsTask where
  sptsId : Int
  sourceInputId : Int
  programNumber : UInt16
  fillWithNulls : Bool
  stateTx : Option StateChangeSender
  /-- The system time at which the task starts. -/
  connectedTime : ℕ

/-- What the branches of the `select!` get. With data, whether the cell for the snapshot can
be written at that moment. -/
inductive SptsEvent
  | data (mptsData : Bytes) (writable : Bool)
  | lagged
  | closed
  | cancelled

structure SptsLoop where
  filter : ProgramFilter
  isConnected : Bool
  windowStart : ℕ
  windowBytesOut : ℕ
  windowPacketsOut : ℕ
  atomicStats : UdpStats

namespace SptsTask

def start (task : SptsTask) (now : ℕ) : SptsLoop :=
  ⟨.new task.programNumber task.fillWithNulls, false, now, 0, 0, .new⟩

def sourceAddr (task : SptsTask) : String :=
  sptsSourceAddress task.sourceInputId task.programNumber

/-- Data that is left behind the filter is counted and passed on. -/
def passOn (task : SptsTask) (l : SptsLoop) (now : ℕ) (filtered : Bytes) :
    StreamTrace × SptsLoop :=
  if filtered ≠ [] then
    let connected := if l.isConnected then [] else
      notifyAt now task.stateTx (.inputStateChanged task.sptsId .connected
        (some task.connectedTime) (some task.sourceAddr))
    (connected ++ [(now, .broadcast (filtered.length / 188) filtered.length)],
      { l with
        isConnected := true
        windowBytesOut := l.windowBytesOut + filtered.length
        windowPacketsOut := l.windowPacketsOut + filtered.length / 188 })
  else ([], l)

/-- A window that is two seconds old is closed. Only the counters of the window are stored. -/
def closeWindow (l : SptsLoop) (now : ℕ) (writable : Bool) : StreamTrace × SptsLoop :=
  if now - l.windowStart ≥ fromSecs 2 then
    let stats := { l.atomicStats with
      packetsPerSec := l.windowPacketsOut
      bitrateBps := l.windowBytesOut * 8 }
    ([(now, .snapshot stats writable)],
      { l with
        atomicStats := stats
        windowStart := now
        windowBytesOut := 0
        windowPacketsOut := 0 })
  else ([], l)

/-- The loop. A panic of the filter would end the task. -/
def loop (task : SptsTask) : SptsLoop → List (ℕ × SptsEvent) → StreamTrace
  | _, [] => []
  | l, (now, event) :: rest =>
    match event with
    | .data mptsData writable =>
      match l.filter.filterPackets mptsData with
      | none => []
      | some (filter, filtered) =>
        let (passed, l) := task.passOn { l with filter := filter } now filtered
        let (closed, l) := closeWindow l now writable
        passed ++ (closed ++ task.loop l rest)
    | .lagged => task.loop l rest
    | .closed => notifyAt now task.stateTx (.inputStateChanged task.sptsId .stopped none none)
    | .cancelled => []

def run (task : SptsTask) (now : ℕ) (arrivals : List (ℕ × SptsEvent)) : StreamTrace :=
  notifyAt now task.stateTx
      (.inputStateChanged task.sptsId .listening none (some task.sourceAddr)) ++
    task.loop (task.start now) arrivals

end SptsTask

/-! ## The messages of the runs -/

def StreamAction.sent : StreamAction → Option StateChange
  | .send change => some change
  | _ => none

/-- The state messages of a trace. -/
def StreamTrace.sent (trace : StreamTrace) : List StateChange :=
  trace.filterMap fun a => a.2.sent

theorem StreamTrace.sent_append (t u : StreamTrace) :
    StreamTrace.sent (t ++ u) = t.sent ++ u.sent := List.filterMap_append

theorem mem_sent_notifyAt {now : ℕ} {stateTx : Option StateChangeSender}
    {change change' : StateChange} (h : change' ∈ (notifyAt now stateTx change).sent) :
    stateTx = some ⟨⟩ ∧ change' = change := by
  cases stateTx with
  | none => exact absurd h List.not_mem_nil
  | some _ => exact ⟨rfl, List.mem_singleton.mp h⟩

namespace UdpInputTask

/-- What the task has a line for. -/
inductive Says (task : UdpInputTask) : StateChange → Prop
  | listening : Says task (.inputStateChanged task.id .listening none none)
  | error : Says task (.inputStateChanged task.id .error none none)
  | connected (systemTime : ℕ) (address : String) :
      Says task (.inputStateChanged task.id .connected (some systemTime) (some address))

variable {task : UdpInputTask} {ties : ℕ → Bool} {l : UdpLoop} {now : ℕ} {change : StateChange}

theorem says_notifyAt {change' : StateChange} (htold : task.Says change')
    (h : change ∈ (notifyAt now task.stateTx change').sent) :
    task.stateTx = some ⟨⟩ ∧ task.Says change := by
  obtain ⟨htx, rfl⟩ := mem_sent_notifyAt h
  exact ⟨htx, htold⟩

theorem says_received {n systemTime : ℕ} {peerIp : String}
    (h : change ∈ (task.received l now n peerIp systemTime).1.sent) :
    task.stateTx = some ⟨⟩ ∧ task.Says change := by
  have hconnected : change ∈ StreamTrace.sent (if l.isConnected then [] else
      notifyAt now task.stateTx (.inputStateChanged task.id .connected (some systemTime)
        (some (hostPort peerIp task.listenPort)))) →
      task.stateTx = some ⟨⟩ ∧ task.Says change := by
    intro h
    split at h
    · exact absurd h List.not_mem_nil
    · exact says_notifyAt (.connected systemTime _) h
  unfold received at h
  dsimp only at h
  split at h
  · rw [StreamTrace.sent, List.filterMap_cons_none rfl, ← StreamTrace.sent,
      StreamTrace.sent_append] at h
    exact (List.mem_append.mp h).elim hconnected fun h => absurd h List.not_mem_nil
  · rw [StreamTrace.sent, List.filterMap_cons_none rfl, ← StreamTrace.sent] at h
    exact hconnected h

theorem says_wait {next : Option ℕ} (h : change ∈ (task.wait ties l now next).1.sent) :
    task.stateTx = some ⟨⟩ ∧ task.Says change := by
  unfold wait at h
  split at h
  · exact says_notifyAt .listening h
  · exact absurd h List.not_mem_nil

theorem says_loop {arrivals : List (ℕ × UdpEvent)}
    (h : change ∈ (task.loop ties l now arrivals).sent) :
    task.stateTx = some ⟨⟩ ∧ task.Says change := by
  induction arrivals generalizing l now with
  | nil => exact says_wait h
  | cons arrival rest ih =>
    obtain ⟨time, event⟩ := arrival
    cases event with
    | datagram n peerIp systemTime =>
      simp only [loop, StreamTrace.sent_append, List.mem_append] at h
      rcases h with h | h | h
      · exact says_wait h
      · exact says_received h
      · exact ih h
    | recvError => exact says_wait h
    | cancelled => exact says_wait h

/-- The task sends what it has a line for, if it has a sender. -/
theorem says_run {opened : Bool} {arrivals : List (ℕ × UdpEvent)}
    (h : change ∈ (task.run ties opened now arrivals).sent) :
    task.stateTx = some ⟨⟩ ∧ task.Says change := by
  unfold run at h
  split at h
  · rw [StreamTrace.sent_append] at h
    rcases List.mem_append.mp h with h | h
    · exact says_notifyAt .listening h
    · exact says_loop h
  · exact says_notifyAt .error h

/-- The gateway lets the task of a UDP input send what its code sends. -/
theorem run_sends {opened : Bool} {arrivals : List (ℕ × UdpEvent)}
    (h : change ∈ (task.run ties opened now arrivals).sent) (name : Option String)
    (bindHost multicastGroup sourceSpecificMulticast : Option String) (tx : ChannelId) :
    (TaskSpec.udpInput task.id name task.listenPort bindHost multicastGroup
      sourceSpecificMulticast task.stateTx tx).Sends change := by
  obtain ⟨htx, htold⟩ := says_run h
  rw [htx]
  cases htold <;> exact .udpInput _ _ (by simp)

end UdpInputTask

namespace SptsTask

inductive Says (task : SptsTask) : StateChange → Prop
  | listening : Says task
      (.inputStateChanged task.sptsId .listening none (some task.sourceAddr))
  | connected : Says task (.inputStateChanged task.sptsId .connected (some task.connectedTime)
      (some task.sourceAddr))
  | stopped : Says task (.inputStateChanged task.sptsId .stopped none none)

variable {task : SptsTask} {l : SptsLoop} {now : ℕ} {change : StateChange}

theorem says_notifyAt {change' : StateChange} (htold : task.Says change')
    (h : change ∈ (notifyAt now task.stateTx change').sent) :
    task.stateTx = some ⟨⟩ ∧ task.Says change := by
  obtain ⟨htx, rfl⟩ := mem_sent_notifyAt h
  exact ⟨htx, htold⟩

theorem says_passOn {filtered : MpegtsFilter.Bytes}
    (h : change ∈ (task.passOn l now filtered).1.sent) :
    task.stateTx = some ⟨⟩ ∧ task.Says change := by
  unfold passOn at h
  split at h
  · rw [StreamTrace.sent_append] at h
    rcases List.mem_append.mp h with h | h
    · split at h
      · exact absurd h List.not_mem_nil
      · exact says_notifyAt .connected h
    · exact absurd h List.not_mem_nil
  · exact absurd h List.not_mem_nil

theorem sent_closeWindow (l : SptsLoop) (now : ℕ) (writable : Bool) :
    (closeWindow l now writable).1.sent = [] := by
  unfold closeWindow
  split <;> rfl

theorem says_loop {arrivals : List (ℕ × SptsEvent)}
    (h : change ∈ (task.loop l arrivals).sent) :
    task.stateTx = some ⟨⟩ ∧ task.Says change := by
  induction arrivals generalizing l with
  | nil => exact absurd h List.not_mem_nil
  | cons arrival rest ih =>
    obtain ⟨now, event⟩ := arrival
    cases event with
    | lagged => exact ih h
    | closed => exact says_notifyAt .stopped h
    | cancelled => exact absurd h List.not_mem_nil
    | data mptsData writable =>
      simp only [loop] at h
      split at h
      · exact absurd h List.not_mem_nil
      simp only [StreamTrace.sent_append, sent_closeWindow, List.nil_append,
        List.mem_append] at h
      exact h.elim says_passOn ih

theorem says_run {arrivals : List (ℕ × SptsEvent)}
    (h : change ∈ (task.run now arrivals).sent) :
    task.stateTx = some ⟨⟩ ∧ task.Says change := by
  unfold run at h
  rw [StreamTrace.sent_append] at h
  rcases List.mem_append.mp h with h | h
  · exact says_notifyAt .listening h
  · exact says_loop h

/-- So it does for the task of a program filter. -/
theorem run_sends {arrivals : List (ℕ × SptsEvent)}
    (h : change ∈ (task.run now arrivals).sent) (name : Option String)
    (sourceRx tx : ChannelId) :
    (TaskSpec.sptsInput task.sptsId name task.sourceInputId task.programNumber
      task.fillWithNulls task.stateTx sourceRx tx).Sends change := by
  obtain ⟨htx, htold⟩ := says_run h
  rw [htx]
  cases htold <;> exact .sptsInput _ _ (by simp)

end SptsTask

end StreamGateway
