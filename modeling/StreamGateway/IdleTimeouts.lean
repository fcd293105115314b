import StreamGateway.StreamTasks

/-!
# Silence on a UDP input

The loop of a UDP input looks at the guard of its idle branch when it begins to wait. It waits
again when a packet has been handled, and that packet has just reset the clock of the guard. So
the branch is never armed, and the input stays connected however long it is silent.
-/
namespace StreamGateway

/-- A packet that arrives at a UDP input. -/
structure Packet where
  time : ℕ
  size : ℕ
  peerIp : String
  systemTime : ℕ

def Packet.arrival (p : Packet) : ℕ × UdpEvent :=
  (p.time, .datagram p.size p.peerIp p.systemTime)

def StreamAction.status : StreamAction → Option StreamStatus
  | .send (.inputStateChanged _ status _ _) => some status
  | .send (.outputStateChanged _ _ status _ _) => some status
  | _ => none

/-- The state messages of a trace, each with its time. -/
def messages (trace : StreamTrace) : List (ℕ × StreamStatus) :=
  trace.filterMap fun a => a.2.status.map (a.1, ·)

theorem messages_append (t u : StreamTrace) : messages (t ++ u) = messages t ++ messages u :=
  List.filterMap_append

/-! ## The messages that are due -/

/-- Behind a packet: for each gap that is longer than twice the timeout, a return to listening
within the gap, and the connection at its end. -/
def ReportsGaps : ℕ → List ℕ → List (ℕ × StreamStatus) → Prop
  | _, [], sent => sent = []
  | last, t :: times, sent =>
    if 2 * idleTimeout < t - last then
      ∃ idle rest, sent = (idle, .listening) :: (t, .connected) :: rest ∧
        last ≤ idle ∧ idle ≤ t ∧ ReportsGaps t times rest
    else ReportsGaps t times sent

/-- The task listens, is connected at the first packet, and reports the gaps. -/
def ReportsSilence (start : ℕ) (times : List ℕ) (sent : List (ℕ × StreamStatus)) : Prop :=
  match times with
  | [] => sent = [(start, .listening)]
  | t :: times => ∃ rest, sent = (start, .listening) :: (t, .connected) :: rest ∧
      ReportsGaps t times rest

/-- The gaps between the packets are at most twice the timeout. -/
def NoLongGap (times : List ℕ) : Prop :=
  times.IsChain fun last t => t - last ≤ 2 * idleTimeout

theorem reportsGaps_nil_iff {last : ℕ} {times : List ℕ} :
    ReportsGaps last times [] ↔ NoLongGap (last :: times) := by
  induction times generalizing last with
  | nil => simp [ReportsGaps, NoLongGap]
  | cons t times ih =>
    unfold ReportsGaps
    split
    · rename_i hgap
      refine ⟨fun ⟨_, _, h, _⟩ => absurd h (by simp), fun h => ?_⟩
      have hle : t - last ≤ 2 * idleTimeout := (List.isChain_cons_cons.mp h).1
      omega
    · rename_i hgap
      rw [ih]
      exact ⟨fun h => List.isChain_cons_cons.mpr ⟨by omega, h⟩,
        fun h => (List.isChain_cons_cons.mp h).2⟩

/-- Messages that report the silence alternate. -/
theorem ReportsGaps.alternates {last : ℕ} {times : List ℕ} {sent : List (ℕ × StreamStatus)}
    (h : ReportsGaps last times sent) :
    ((last, StreamStatus.connected) :: sent).IsChain fun a b => a.2 ≠ b.2 := by
  induction times generalizing last sent with
  | nil =>
    obtain rfl : sent = [] := h
    exact .singleton _
  | cons t times ih =>
    unfold ReportsGaps at h
    split at h
    · obtain ⟨idle, rest, rfl, _, _, hrest⟩ := h
      exact .cons_cons (by simp) (.cons_cons (by simp) (ih hrest))
    · have hrest := ih h
      cases sent with
      | nil => exact .singleton _
      | cons s sent =>
        obtain ⟨hne, hrest⟩ := List.isChain_cons_cons.mp hrest
        exact .cons_cons hne hrest

theorem ReportsSilence.alternates {start : ℕ} {times : List ℕ} {sent : List (ℕ × StreamStatus)}
    (h : ReportsSilence start times sent) : sent.IsChain fun a b => a.2 ≠ b.2 := by
  cases times with
  | nil =>
    obtain rfl : sent = _ := h
    exact .singleton _
  | cons t times =>
    obtain ⟨rest, rfl, hrest⟩ := h
    exact .cons_cons (by simp) hrest.alternates

/-! ## The messages that are sent -/

namespace UdpInputTask

section Loop
variable {task : UdpInputTask} {ties : ℕ → Bool} {l : UdpLoop} {now : ℕ}

/-- Right after a packet, and at the start, the idle branch is not armed. -/
theorem wait_of_recent (h : l.lastPacketTime = now) (next : Option ℕ) :
    task.wait ties l now next = ([], l, now) := by
  have harmed : idleArmed l now = false := by
    simp [idleArmed, h, idleTimeout, fromSecs]
  simp [wait, harmed]

theorem received_recent (n : ℕ) (peerIp : String) (systemTime : ℕ) :
    (task.received l now n peerIp systemTime).2.lastPacketTime = now ∧
      (task.received l now n peerIp systemTime).2.isConnected = true := by
  unfold received
  dsimp only
  split <;> exact ⟨rfl, rfl⟩

theorem messages_received {tx : StateChangeSender} (htx : task.stateTx = some tx) (n : ℕ)
    (peerIp : String) (systemTime : ℕ) :
    messages (task.received l now n peerIp systemTime).1 =
      if l.isConnected then [] else [(now, .connected)] := by
  unfold received
  dsimp only
  split <;> split <;> simp [messages, StreamAction.status, notifyAt, htx]

/-- Once the input is connected, nothing is sent any more. -/
theorem messages_loop {tx : StateChangeSender} (htx : task.stateTx = some tx)
    {packets : List Packet} (hrecent : l.lastPacketTime = now)
    (hsorted : (now :: packets.map (·.time)).IsChain (· ≤ ·)) :
    messages (task.loop ties l now (packets.map Packet.arrival)) =
      if l.isConnected then [] else (packets.head?.map fun p => (p.time, .connected)).toList := by
  induction packets generalizing l now with
  | nil =>
    simp only [List.map_nil, loop, wait_of_recent hrecent]
    split <;> rfl
  | cons p packets ih =>
    obtain ⟨hle, hsorted⟩ := List.isChain_cons_cons.mp hsorted
    obtain ⟨hrecent', hconnected⟩ :=
      @received_recent task l (max now p.time) p.size p.peerIp p.systemTime
    rw [max_eq_right hle] at hrecent' hconnected
    simp only [List.map_cons, Packet.arrival, loop, wait_of_recent hrecent, List.nil_append,
      messages_append, messages_received htx, max_eq_right hle]
    have hrest := ih hrecent' hsorted
    rw [hconnected, if_pos rfl] at hrest
    rw [hrest, List.append_nil]
    split <;> rfl

end Loop

/-- The task reports the silence between the packets if and only if there is none to report. -/
theorem silence_reported_iff {task : UdpInputTask} {tx : StateChangeSender}
    (htx : task.stateTx = some tx) (ties : ℕ → Bool) {start : ℕ} {packets : List Packet}
    (hsorted : (start :: packets.map (·.time)).IsChain (· ≤ ·)) :
    let sent := messages (task.run ties true start (packets.map Packet.arrival))
    (ReportsSilence start (packets.map (·.time)) sent ∧ sent.IsChain fun a b => a.2 ≠ b.2) ↔
      NoLongGap (packets.map (·.time)) := by
  intro sent
  have hsent : sent =
      (start, .listening) :: (packets.head?.map fun p => (p.time, .connected)).toList := by
    have hloop := @messages_loop task ties (.start start) start tx htx packets rfl hsorted
    rw [if_neg (by simp [UdpLoop.start])] at hloop
    simp only [sent, run, if_true, messages_append, hloop]
    simp [messages, StreamAction.status, notifyAt, htx]
  rw [and_iff_left_of_imp ReportsSilence.alternates, hsent]
  cases packets with
  | nil => simp [ReportsSilence, NoLongGap]
  | cons p packets =>
    rw [List.map_cons, ← reportsGaps_nil_iff]
    simp [ReportsSilence]

/-- Packets half a minute apart, and the task that gets them. -/
def sparsePackets : List Packet :=
  [⟨fromSecs 1, 1316, "10.0.0.1", 0⟩, ⟨fromSecs 31, 1316, "10.0.0.1", 0⟩]

/-- The input stays connected over half a minute of silence. -/
theorem silence_unreported :
    messages (run ⟨1, 5000, some ⟨⟩⟩ (fun _ => true) true 0
      (sparsePackets.map Packet.arrival)) = [(0, .listening), (fromSecs 1, .connected)] ∧
    ¬ ReportsSilence 0 (sparsePackets.map (·.time))
      (messages (run ⟨1, 5000, some ⟨⟩⟩ (fun _ => true) true 0
        (sparsePackets.map Packet.arrival))) := by
  have hsent : messages (run ⟨1, 5000, some ⟨⟩⟩ (fun _ => true) true 0
      (sparsePackets.map Packet.arrival)) = [(0, .listening), (fromSecs 1, .connected)] := by
    decide +kernel
  refine ⟨hsent, fun h => ?_⟩
  rw [hsent] at h
  obtain ⟨rest, hrest, hgaps⟩ := h
  obtain rfl : [] = rest := by simpa using hrest
  obtain ⟨_, _, h, _⟩ := hgaps
  exact absurd h (by simp)

/-- A steady stream of packets. -/
theorem silence_reported_iff_steady :
    ReportsSilence 0 [fromSecs 1, fromSecs 2]
      (messages (run ⟨1, 5000, some ⟨⟩⟩ (fun _ => true) true 0
        ([⟨fromSecs 1, 1316, "10.0.0.1", 0⟩, ⟨fromSecs 2, 1316, "10.0.0.1", 0⟩].map
          Packet.arrival))) :=
  ((@silence_reported_iff ⟨1, 5000, some ⟨⟩⟩ ⟨⟩ rfl (fun _ => true) 0
    [⟨fromSecs 1, 1316, "10.0.0.1", 0⟩, ⟨fromSecs 2, 1316, "10.0.0.1", 0⟩]
    (by simp [fromSecs])).mpr (by simp [NoLongGap, fromSecs, idleTimeout])).1

end UdpInputTask

end StreamGateway
