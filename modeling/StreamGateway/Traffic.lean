import StreamGateway.Broadcast
import StreamGateway.CallEnds
import StreamGateway.MpegtsFilter

/-!
# Traffic

The packets on their way through the gateway, next to its calls. A task is spawned with a receiver
on the channel that it reads, and passes packets on as its code does: an input broadcasts what it
reads from its socket, a program filter what is left of the data of its source, and an output
takes one packet after the other and sends it. A task that is aborted may go on with its packets
until its poll returns, and an output may end between taking a packet and sending it. What an
analysis makes of the packets is not followed here.
-/
namespace StreamGateway

open MpegtsFilter (Bytes ProgramFilter)

/-! ## One task -/

/-- What the code reports to the metrics about packets, call by call. -/
inductive PacketMetric
  | recordInputBytes (name : Option String) (inputId : Int) (streamType : String) (bytes : ℕ)
  | recordInputPackets (name : Option String) (inputId : Int) (streamType : String) (packets : ℕ)
  | recordOutputBytes (name : Option String) (inputId outputId : Int) (streamType : String)
      (bytes : ℕ)
  | recordOutputPackets (name : Option String) (inputId outputId : Int) (streamType : String)
      (packets : ℕ)
  | recordStreamError (name : Option String) (streamId : Int) (streamType errorType : String)
  deriving DecidableEq, Repr

/-- What became of a packet that an output has tried to send. -/
inductive SendResult
  | sent
  | short (n : ℕ)
  | failed
  deriving DecidableEq, Repr

/-- The variables of a task that have to do with packets. Each kind of task uses some of them. -/
structure PacketState where
  receiver : Receiver Bytes
  filter : ProgramFilter
  windowBytesOut : ℕ
  windowPacketsOut : ℕ
  connected : Bool
  inHand : Option Bytes
  attempts : List (Bytes × SendResult)

/-- What the task comes with. The receiver is that of a new subscription. -/
def PacketState.start (spec : TaskSpec) (sent : ChannelId → List Bytes) : PacketState where
  receiver := .subscribe ((spec.packetRx.map sent).getD [])
  filter := match spec with
    | .sptsInput _ _ _ programNumber fillWithNulls _ _ _ => .new programNumber fillWithNulls
    | _ => .new 0 false
  windowBytesOut := 0
  windowPacketsOut := 0
  connected := false
  inHand := none
  attempts := []

theorem PacketState.start_receiver {spec : TaskSpec} {sent : ChannelId → List Bytes}
    {c : ChannelId} (h : spec.packetRx = some c) :
    (PacketState.start spec sent).receiver = .subscribe (sent c) := by
  show Receiver.subscribe _ = _
  rw [h]
  rfl

/-- What a task gets from outside when it goes on: what comes from a socket or becomes of a packet
there, or that it receives from its channel. A filter finds its window two seconds old or not. -/
inductive PacketEvent
  | recvFrom (data : Bytes)
  | connected
  | read (data : Bytes)
  | readError
  | filter (elapsed : Bool)
  | recv
  | sendTo (ok : Bool)
  | write (n : Option ℕ)

/-- What a task makes of an event: its new variables, what it broadcasts, and what it reports. -/
structure Passed where
  state : PacketState
  values : List Bytes
  metrics : List PacketMetric

/-- `recv_from` into a buffer of 2048 bytes, which cuts off the rest of a datagram. -/
def udpInputRecv (name : Option String) (id : Int) (st : PacketState) (data : Bytes) : Passed :=
  let data := data.take 2048
  ⟨st, [data], [.recordInputBytes name id "udp" data.length, .recordInputPackets name id "udp" 1]⟩

/-- A read into a buffer of 65536 bytes. Nothing read is the end of the connection. -/
def srtInputRead (name : Option String) (id : Int) (st : PacketState) (data : Bytes) : Passed :=
  let data := data.take 65536
  if data = [] then ⟨{ st with connected := false }, [], []⟩
  else ⟨st, [data],
    [.recordInputBytes name id "srt" data.length, .recordInputPackets name id "srt" 1]⟩

/-- The receiver has heard something. -/
def PacketState.hear (st : PacketState) (x : Reception Bytes) : PacketState :=
  { st with receiver := st.receiver.hear x }

/-- The end of the branch for data, which may close the window. -/
def sptsWindow (name : Option String) (id : Int) (st : PacketState) (values : List Bytes)
    (elapsed : Bool) : Passed :=
  if elapsed then
    ⟨{ st with windowBytesOut := 0, windowPacketsOut := 0 }, values,
      [.recordInputBytes name id "spts" st.windowBytesOut,
        .recordInputPackets name id "spts" st.windowPacketsOut]⟩
  else ⟨st, values, []⟩

/-- What a program filter makes of the next thing in its channel. A panic would end the task. -/
def sptsRecv (name : Option String) (id : Int) (st : PacketState) (x : Reception Bytes)
    (elapsed : Bool) : Option Passed :=
  match x with
  | .lagged missed => some ⟨st.hear (.lagged missed), [], []⟩
  | .value mptsData =>
    (st.filter.filterPackets mptsData).map fun (filter, filtered) =>
      let st := { st.hear (.value mptsData) with filter := filter }
      if filtered ≠ [] then
        sptsWindow name id { st with
          windowBytesOut := st.windowBytesOut + filtered.length
          windowPacketsOut := st.windowPacketsOut + filtered.length / 188 } [filtered] elapsed
      else sptsWindow name id st [] elapsed

/-- What an output makes of the next thing in its channel: a packet is in its hand then. -/
def outputRecv (st : PacketState) (x : Reception Bytes) : Passed :=
  ⟨match x with
    | .value packet => { st.hear x with inHand := some packet }
    | .lagged _ => st.hear x, [], []⟩

def PacketState.attempt (st : PacketState) (packet : Bytes) (result : SendResult) : PacketState :=
  { st with inHand := none, attempts := st.attempts ++ [(packet, result)] }

def udpOutputSend (name : Option String) (inputId outputId : Int) (st : PacketState)
    (packet : Bytes) (ok : Bool) : Passed :=
  if ok then
    ⟨st.attempt packet .sent, [],
      [.recordOutputBytes name inputId outputId "udp" packet.length,
        .recordOutputPackets name inputId outputId "udp" 1]⟩
  else ⟨st.attempt packet .failed, [], [.recordStreamError name outputId "udp" "send_failed"]⟩

/-- A write that fails ends the connection, and the packet is not tried again. -/
def srtOutputWrite (name : Option String) (inputId outputId : Int) (st : PacketState)
    (packet : Bytes) (n : Option ℕ) : Passed :=
  match n with
  | some n =>
    if n = packet.length then
      ⟨st.attempt packet .sent, [],
        [.recordOutputBytes name inputId outputId "srt" packet.length,
          .recordOutputPackets name inputId outputId "srt" 1]⟩
    else ⟨st.attempt packet (.short n), [], [.recordStreamError name outputId "srt" "partial_send"]⟩
  | none =>
    ⟨{ st.attempt packet .failed with connected := false }, [],
      [.recordStreamError name outputId "srt" "send_failed"]⟩

/-- The branches of the loops. `next` is what the channel has for the receiver. -/
def TaskSpec.pass (spec : TaskSpec) (next : Option (Reception Bytes)) (st : PacketState)
    (event : PacketEvent) : Option Passed :=
  match spec, event with
  | .udpInput id name .., .recvFrom data => some (udpInputRecv name id st data)
  | .srtInput .., .connected =>
    if st.connected then none else some ⟨{ st with connected := true }, [], []⟩
  | .srtInput id name .., .read data =>
    if st.connected then some (srtInputRead name id st data) else none
  | .srtInput .., .readError =>
    if st.connected then some ⟨{ st with connected := false }, [], []⟩ else none
  | .sptsInput id name .., .filter elapsed => next.bind fun x => sptsRecv name id st x elapsed
  | .udpOutput .., .recv => if st.inHand = none then next.map (outputRecv st) else none
  | .udpOutput inputId outputId name .., .sendTo ok =>
    st.inHand.map fun packet => udpOutputSend name inputId outputId st packet ok
  | .srtOutput .., .connected =>
    if st.connected then none else some ⟨{ st with connected := true }, [], []⟩
  | .srtOutput .., .recv =>
    if st.connected ∧ st.inHand = none then next.map (outputRecv st) else none
  | .srtOutput inputId outputId name .., .write n =>
    st.inHand.map fun packet => srtOutputWrite name inputId outputId st packet n
  | _, _ => none

/-! ## The gateway with its traffic -/

/-- The gateway, what was sent on each channel so far, the variables of the tasks, and the
metrics. -/
structure Traffic where
  pool : Pool World
  sent : ChannelId → List Bytes
  state : Task → PacketState
  metrics : List PacketMetric

namespace Traffic

def rt (tr : Traffic) : Runtime := tr.pool.shared.rt

/-- The channel of a program filter has half the capacity of the others. -/
def capacity (tr : Traffic) (c : ChannelId) : ℕ :=
  if tr.rt.spawned.any fun t => match t.spec with
    | .sptsInput _ _ _ _ _ _ _ tx => tx = c
    | _ => false
  then 16384 else 32768

/-- What the channel of a task has for it. -/
def upcoming (tr : Traffic) (t : Task) : Option (Reception Bytes) :=
  t.spec.packetRx.bind fun c => (tr.state t).receiver.upcoming (tr.capacity c) (tr.sent c)

/-- What was broadcast goes to the channel of the task, if it has one. -/
def broadcast (tr : Traffic) (tx : Option ChannelId) (values : List Bytes) :
    ChannelId → List Bytes :=
  fun c => if tx = some c then tr.sent c ++ values else tr.sent c

def proceed (tr : Traffic) (t : Task) (passed : Passed) : Traffic :=
  { tr with
    sent := tr.broadcast t.spec.packetTx passed.values
    state := Function.update tr.state t passed.state
    metrics := tr.metrics ++ passed.metrics }

/-- A task goes on with its packets. -/
def pass (tr : Traffic) (t : Task) (event : PacketEvent) : Option Traffic :=
  (t.spec.pass (tr.upcoming t) (tr.state t) event).map (tr.proceed t)

/-- Whatever tasks were spawned, they have subscribed to their channels. -/
def adopt (tr : Traffic) (p : Pool World) : Traffic :=
  { tr with
    pool := p
    state := fun t =>
      if t ∈ p.shared.rt.spawned ∧ t ∉ tr.rt.spawned then .start t.spec tr.sent
      else tr.state t }

section

variable (tr : Traffic) (t : Task) (passed : Passed)

@[simp] theorem proceed_rt : (tr.proceed t passed).rt = tr.rt := rfl

@[simp] theorem proceed_state : (tr.proceed t passed).state t = passed.state :=
  Function.update_self ..

theorem proceed_state_ne {u : Task} (h : u ≠ t) : (tr.proceed t passed).state u = tr.state u :=
  Function.update_of_ne h ..

theorem proceed_sent {c : ChannelId} (h : t.spec.packetTx = some c) :
    (tr.proceed t passed).sent c = tr.sent c ++ passed.values :=
  if_pos h

theorem proceed_sent_ne {c : ChannelId} (h : t.spec.packetTx ≠ some c) :
    (tr.proceed t passed).sent c = tr.sent c :=
  if_neg h

theorem proceed_sent_append (c : ChannelId) :
    ∃ later, (tr.proceed t passed).sent c = tr.sent c ++ later := by
  by_cases h : t.spec.packetTx = some c
  · exact ⟨_, tr.proceed_sent t passed h⟩
  · exact ⟨[], (tr.proceed_sent_ne t passed h).trans (List.append_nil _).symm⟩

end

section

variable {tr : Traffic} {p : Pool World} {t : Task}

theorem adopt_state (ht : t ∈ tr.rt.spawned) : (tr.adopt p).state t = tr.state t :=
  if_neg fun h => h.2 ht

theorem adopt_state_new (ht : t ∈ p.shared.rt.spawned) (hnew : t ∉ tr.rt.spawned) :
    (tr.adopt p).state t = .start t.spec tr.sent :=
  if_pos ⟨ht, hnew⟩

end

/-- A step of the gateway, or of a task that runs with its packets. -/
inductive Step : Traffic → Traffic → Prop
  | control {tr : Traffic} {p : Pool World} : Pool.Step GatewayCall TaskStep tr.pool p →
      Step tr (tr.adopt p)
  | packet {tr tr' : Traffic} {t : Task} {event : PacketEvent} : tr.rt.Running t →
      tr.pass t event = some tr' → Step tr tr'

def Runs : Traffic → Traffic → Prop := Relation.ReflTransGen Step

/-- The gateway at the start of the process, when nothing was sent. -/
def boot (env : Env) (db : Database) : Traffic where
  pool := bootPool env db
  sent _ := []
  state t := .start t.spec fun _ => []
  metrics := []

/-! ## Scripts -/

/-- What a script has happen next: a call comes or goes on, or a task goes on or ends. -/
inductive Cue
  | arrive (env : Env) (op : Operation)
  | call (k : ℕ)
  | packet (t : Task) (event : PacketEvent)
  | finish (t : Task)

/-- The next step, if it can be taken. -/
def follow (tr : Traffic) : Cue → Option Traffic
  | .arrive env op =>
    some (tr.adopt ⟨tr.pool.shared, tr.pool.threads ++ [⟨op.prog env, none⟩]⟩)
  | .call k => (tr.pool.advance k).map tr.adopt
  | .packet t event => if tr.rt.Running t then tr.pass t event else none
  | .finish t =>
    if tr.rt.Running t then some (tr.adopt ⟨tr.pool.shared.finish t, tr.pool.threads⟩) else none

/-- The state to which a script leads, as long as each step passes the check. -/
def play (check : Traffic → Traffic → Bool) (tr : Traffic) : List Cue → Option Traffic
  | [] => some tr
  | cue :: cues => (tr.follow cue).bind fun tr' =>
    if check tr tr' then tr'.play check cues else none

theorem step_of_follow {tr tr' : Traffic} {cue : Cue} (h : tr.follow cue = some tr') :
    Step tr tr' := by
  cases cue with
  | arrive env op =>
    obtain rfl := Option.some.inj h
    exact .control (.call (.inl ⟨env, op, rfl⟩))
  | call k =>
    obtain ⟨p, hp, rfl⟩ := Option.map_eq_some_iff.mp h
    exact .control (Pool.step_of_advance hp)
  | packet t event =>
    obtain ⟨hrunning, h⟩ := Option.ite_none_right_eq_some.mp h
    exact .packet hrunning h
  | finish t =>
    obtain ⟨hrunning, h⟩ := Option.ite_none_right_eq_some.mp h
    obtain rfl := Option.some.inj h
    exact .control (.outside (.finish hrunning))

theorem runs_of_play {check : Traffic → Traffic → Bool} {C : Traffic → Traffic → Prop}
    (hC : ∀ tr tr', check tr tr' = true → C tr tr') {tr tr' : Traffic} (cues : List Cue)
    (h : tr.play check cues = some tr') :
    Relation.ReflTransGen (fun tr tr' => Step tr tr' ∧ C tr tr') tr tr' := by
  induction cues generalizing tr with
  | nil =>
    obtain rfl := Option.some.inj h
    exact .refl
  | cons cue cues ih =>
    obtain ⟨tr₁, hstep, h⟩ := Option.bind_eq_some_iff.mp h
    split at h
    · rename_i hcheck
      exact .head ⟨step_of_follow hstep, hC _ _ hcheck⟩ (ih h)
    · exact absurd h (by simp)

theorem runs_of_script {tr tr' : Traffic} (cues : List Cue)
    (h : tr.play (fun _ _ => true) cues = some tr') : Runs tr tr' := by
  have hruns := runs_of_play (C := fun _ _ => True) (fun _ _ _ => trivial) cues h
  exact hruns.lift id fun _ _ hs => hs.1

end Traffic

end StreamGateway
