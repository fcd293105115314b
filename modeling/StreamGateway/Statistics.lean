import StreamGateway.IdleTimeouts

/-!
# Published statistics

Both tasks count what they pass on over a window, which the first arrival after a nominal
length closes. The counts of the window go into the snapshot as they are, whatever the window
lasted. The task of a program filter never stores its totals.
-/
namespace StreamGateway

open MpegtsFilter

/-! ## True statistics -/

/-- An amount over a time, in whole units for a second. -/
def perSecond (amount elapsed : ℕ) : ℕ := amount * fromSecs 1 / elapsed

/-- What a task has passed on: in all, and since its window began. -/
structure Tally where
  totalPackets : ℕ
  totalBytes : ℕ
  windowStart : ℕ
  windowPackets : ℕ
  windowBytes : ℕ

namespace Tally

def start (now : ℕ) : Tally := ⟨0, 0, now, 0, 0⟩

def count (c : Tally) (packets bytes : ℕ) : Tally where
  totalPackets := c.totalPackets + packets
  totalBytes := c.totalBytes + bytes
  windowStart := c.windowStart
  windowPackets := c.windowPackets + packets
  windowBytes := c.windowBytes + bytes

def nextWindow (c : Tally) (now : ℕ) : Tally :=
  { c with windowStart := now, windowPackets := 0, windowBytes := 0 }

def stats (c : Tally) (now : ℕ) : UdpStats where
  totalPackets := c.totalPackets
  totalBytes := c.totalBytes
  packetsPerSec := perSecond c.windowPackets (now - c.windowStart)
  bitrateBps := perSecond (8 * c.windowBytes) (now - c.windowStart)

end Tally

/-- Every snapshot that is published says what has been passed on before it. -/
def TrueStats : Tally → StreamTrace → Prop
  | _, [] => True
  | c, (_, .send _) :: rest => TrueStats c rest
  | c, (_, .broadcast packets bytes) :: rest => TrueStats (c.count packets bytes) rest
  | c, (now, .snapshot stats published) :: rest =>
    (published = true → stats = c.stats now) ∧ TrueStats (c.nextWindow now) rest

theorem trueStats_notifyAt {c : Tally} {now : ℕ} {stateTx : Option StateChangeSender}
    {change : StateChange} {rest : StreamTrace} :
    TrueStats c (notifyAt now stateTx change ++ rest) ↔ TrueStats c rest := by
  cases stateTx <;> rfl

theorem fromSecs_pos {secs : ℕ} (h : 0 < secs) : 0 < fromSecs secs := by
  unfold fromSecs
  omega

theorem perSecond_second (amount : ℕ) : perSecond amount (fromSecs 1) = amount :=
  Nat.mul_div_cancel _ (fromSecs_pos Nat.one_pos)

@[simp] theorem perSecond_zero (elapsed : ℕ) : perSecond 0 elapsed = 0 := by
  simp [perSecond]

/-- Over a longer time than a second, a count is no rate. -/
theorem perSecond_eq_iff {amount elapsed : ℕ} (hamount : 0 < amount)
    (helapsed : fromSecs 1 ≤ elapsed) : perSecond amount elapsed = amount ↔
      elapsed = fromSecs 1 := by
  constructor
  · intro h
    have hpos : 0 < elapsed := lt_of_lt_of_le (fromSecs_pos Nat.one_pos) helapsed
    have hle : amount * elapsed ≤ amount * fromSecs 1 := by
      calc amount * elapsed = perSecond amount elapsed * elapsed := by rw [h]
        _ ≤ amount * fromSecs 1 := Nat.div_mul_le_self _ _
    exact le_antisymm (Nat.le_of_mul_le_mul_left hle hamount) helapsed
  · rintro rfl
    exact perSecond_second amount

/-! ## UDP inputs -/

/-- Every packet that closes a window comes exactly a second after the window began. -/
def EvenWindows : ℕ → List ℕ → Prop
  | _, [] => True
  | windowStart, t :: times =>
    if fromSecs 1 ≤ t - windowStart then t - windowStart = fromSecs 1 ∧ EvenWindows t times
    else EvenWindows windowStart times

namespace UdpInputTask

section Windows
variable {task : UdpInputTask} {ties : ℕ → Bool} {l : UdpLoop} {c : Tally} {now : ℕ}

/-- The variables of the loop count what has been passed on. -/
structure Counts (l : UdpLoop) (c : Tally) : Prop where
  totalPackets : l.totalPackets = c.totalPackets
  totalBytes : l.totalBytes = c.totalBytes
  windowStart : l.windowStart = c.windowStart
  windowPkts : l.windowPkts = c.windowPackets
  windowBytes : l.windowBytes = c.windowBytes

/-- A packet that closes no window is counted. -/
theorem received_open (h : Counts l c) (hopen : ¬ fromSecs 1 ≤ now - c.windowStart) (n : ℕ)
    (peerIp : String) (systemTime : ℕ) (rest : StreamTrace) :
    Counts (task.received l now n peerIp systemTime).2 (c.count 1 n) ∧
      (TrueStats c ((task.received l now n peerIp systemTime).1 ++ rest) ↔
        TrueStats (c.count 1 n) rest) := by
  have hclosed : ¬ now - l.windowStart ≥ fromSecs 1 := by rwa [h.windowStart]
  simp only [received, if_neg hclosed]
  refine ⟨⟨?_, ?_, h.windowStart, ?_, ?_⟩, ?_⟩
  · exact congrArg (· + 1) h.totalPackets
  · exact congrArg (· + n) h.totalBytes
  · exact congrArg (· + 1) h.windowPkts
  · exact congrArg (· + n) h.windowBytes
  · split
    · rfl
    · exact trueStats_notifyAt

/-- A packet that closes a window gives a true snapshot if the window lasted a second. -/
theorem received_closed (h : Counts l c) (hclosed : fromSecs 1 ≤ now - c.windowStart) (n : ℕ)
    (peerIp : String) (systemTime : ℕ) (rest : StreamTrace) :
    Counts (task.received l now n peerIp systemTime).2 ((c.count 1 n).nextWindow now) ∧
      (TrueStats c ((task.received l now n peerIp systemTime).1 ++ rest) ↔
        now - c.windowStart = fromSecs 1 ∧
          TrueStats ((c.count 1 n).nextWindow now) rest) := by
  have hclosed' : now - l.windowStart ≥ fromSecs 1 := by rwa [h.windowStart]
  simp only [received, if_pos hclosed']
  refine ⟨⟨?_, ?_, rfl, rfl, rfl⟩, ?_⟩
  · exact congrArg (· + 1) h.totalPackets
  · exact congrArg (· + n) h.totalBytes
  -- The packet itself is in the window, so the window is not empty.
  have hstats : (⟨l.totalPackets + 1, l.totalBytes + n, l.windowPkts + 1,
      (l.windowBytes + n) * 8⟩ : UdpStats) = (c.count 1 n).stats now ↔
      now - c.windowStart = fromSecs 1 := by
    simp only [Tally.stats, Tally.count, UdpStats.mk.injEq, h.totalPackets, h.totalBytes,
      h.windowPkts, h.windowBytes, true_and]
    constructor
    · exact fun ⟨hpackets, _⟩ => (perSecond_eq_iff (Nat.succ_pos _) hclosed).mp hpackets.symm
    · intro hlast
      rw [hlast, perSecond_second, perSecond_second, Nat.mul_comm]
      exact ⟨rfl, rfl⟩
  have hconnected : TrueStats c ((now, .broadcast 1 n) :: ((if l.isConnected = true then []
      else notifyAt now task.stateTx (.inputStateChanged task.id .connected (some systemTime)
        (some (hostPort peerIp task.listenPort)))) ++ [(now, .snapshot ⟨l.totalPackets + 1,
          l.totalBytes + n, l.windowPkts + 1, (l.windowBytes + n) * 8⟩ true)]) ++ rest) ↔
      TrueStats (c.count 1 n) ((now, .snapshot ⟨l.totalPackets + 1, l.totalBytes + n,
        l.windowPkts + 1, (l.windowBytes + n) * 8⟩ true) :: rest) := by
    rw [List.cons_append, List.append_assoc]
    split
    · rfl
    · exact trueStats_notifyAt
  refine hconnected.trans ?_
  simp only [TrueStats, hstats, forall_const]

theorem trueStats_loop {packets : List Packet} (h : Counts l c)
    (hrecent : l.lastPacketTime = now)
    (hsorted : (now :: packets.map (·.time)).IsChain (· ≤ ·)) :
    TrueStats c (task.loop ties l now (packets.map Packet.arrival)) ↔
      EvenWindows c.windowStart (packets.map (·.time)) := by
  induction packets generalizing l c now with
  | nil =>
    simp only [List.map_nil, loop, wait_of_recent hrecent]
    rfl
  | cons p packets ih =>
    obtain ⟨hle, hsorted⟩ := List.isChain_cons_cons.mp hsorted
    have hrecent' := (@received_recent task l p.time p.size p.peerIp p.systemTime).1
    simp only [List.map_cons, Packet.arrival, loop, wait_of_recent hrecent, List.nil_append,
      max_eq_right hle, EvenWindows]
    by_cases hclosed : fromSecs 1 ≤ p.time - c.windowStart
    · obtain ⟨hcounts, htrue⟩ := @received_closed task l c p.time h hclosed p.size p.peerIp
        p.systemTime (task.loop ties (task.received l p.time p.size p.peerIp p.systemTime).2
          p.time (packets.map Packet.arrival))
      rw [if_pos hclosed]
      exact htrue.trans (and_congr_right' (ih hcounts hrecent' hsorted))
    · obtain ⟨hcounts, htrue⟩ := @received_open task l c p.time h hclosed p.size p.peerIp
        p.systemTime (task.loop ties (task.received l p.time p.size p.peerIp p.systemTime).2
          p.time (packets.map Packet.arrival))
      rw [if_neg hclosed]
      exact htrue.trans (ih hcounts hrecent' hsorted)

end Windows

end UdpInputTask

/-! ## SPTS inputs -/

/-- No snapshot is published once the filter has let data through, up to and with the arrival
that closes the window. -/
def OnlySilence : ProgramFilter → ℕ → Bool → List (ℕ × SptsEvent) → Prop
  | _, _, _, [] => True
  | filter, windowStart, silent, (now, event) :: rest =>
    match event with
    | .data mptsData writable =>
      match filter.filterPackets mptsData with
      | none => True
      | some (filter, filtered) =>
        let silent := silent && filtered.isEmpty
        if fromSecs 2 ≤ now - windowStart then
          (writable = true → silent = true) ∧ OnlySilence filter now silent rest
        else OnlySilence filter windowStart silent rest
    | .lagged => OnlySilence filter windowStart silent rest
    | .closed => True
    | .cancelled => True

namespace SptsTask

section Windows
variable {task : SptsTask} {l : SptsLoop} {c : Tally} {now : ℕ} {silent : Bool}

/-- The window is counted, and the stored totals are those of the start. -/
structure Counts (l : SptsLoop) (c : Tally) (silent : Bool) : Prop where
  stored : l.atomicStats.totalPackets = 0 ∧ l.atomicStats.totalBytes = 0
  windowStart : l.windowStart = c.windowStart
  windowPackets : l.windowPacketsOut = c.windowPackets
  windowBytes : l.windowBytesOut = c.windowBytes
  silent_iff : silent = true ↔ c.totalBytes = 0
  of_silent : silent = true → c.totalPackets = 0 ∧ c.windowPackets = 0 ∧ c.windowBytes = 0

theorem counts_start (task : SptsTask) (now : ℕ) :
    Counts (task.start now) (.start now) true :=
  ⟨⟨rfl, rfl⟩, rfl, rfl, rfl, by simp [Tally.start], fun _ => ⟨rfl, rfl, rfl⟩⟩

theorem passOn_counts (h : Counts l c silent) (now : ℕ) (filtered : Bytes) :
    ∃ c', Counts (task.passOn l now filtered).2 c' (silent && filtered.isEmpty) ∧
      c'.windowStart = c.windowStart ∧ ∀ rest,
        TrueStats c ((task.passOn l now filtered).1 ++ rest) ↔ TrueStats c' rest := by
  unfold passOn
  split
  · rename_i hne
    refine ⟨c.count (filtered.length / 188) filtered.length, ?_, rfl, fun rest => ?_⟩
    · have hpos : 0 < filtered.length := List.length_pos_of_ne_nil hne
      have hloud : (silent && filtered.isEmpty) = false := by simp [hne]
      have hbytes : (c.count (filtered.length / 188) filtered.length).totalBytes ≠ 0 := by
        simp only [Tally.count]
        omega
      refine ⟨h.stored, h.windowStart, ?_, ?_, ?_, ?_⟩
      · exact congrArg (· + filtered.length / 188) h.windowPackets
      · exact congrArg (· + filtered.length) h.windowBytes
      · rw [hloud]
        simp [hbytes]
      · rw [hloud]
        exact fun hf => absurd hf (by simp)
    · rw [List.append_assoc]
      split
      · rfl
      · exact trueStats_notifyAt
  · rename_i hempty
    obtain rfl : filtered = [] := not_not.mp hempty
    refine ⟨c, ?_, rfl, fun rest => Iff.rfl⟩
    rw [List.isEmpty_nil, Bool.and_true]
    exact h

/-- A snapshot says that there was nothing, which is true of silence alone. -/
theorem closeWindow_counts (h : Counts l c silent)
    (hclosed : fromSecs 2 ≤ now - c.windowStart) (writable : Bool) :
    Counts (closeWindow l now writable).2 (c.nextWindow now) silent ∧ ∀ rest,
      TrueStats c ((closeWindow l now writable).1 ++ rest) ↔
        (writable = true → silent = true) ∧ TrueStats (c.nextWindow now) rest := by
  have hclosed' : now - l.windowStart ≥ fromSecs 2 := by rwa [h.windowStart]
  simp only [closeWindow, if_pos hclosed']
  refine ⟨⟨h.stored, rfl, rfl, rfl, h.silent_iff,
    fun hs => ⟨(h.of_silent hs).1, rfl, rfl⟩⟩, fun rest => ?_⟩
  have hstats : (⟨l.atomicStats.totalPackets, l.atomicStats.totalBytes, l.windowPacketsOut,
      l.windowBytesOut * 8⟩ : UdpStats) = c.stats now ↔ silent = true := by
    rw [h.silent_iff]
    simp only [Tally.stats, UdpStats.mk.injEq, h.stored]
    constructor
    · exact fun ⟨_, hbytes, _⟩ => hbytes.symm
    · intro hbytes
      obtain ⟨hpackets, hwindow, hwindowBytes⟩ := h.of_silent (h.silent_iff.mpr hbytes)
      simp [hbytes, hpackets, h.windowPackets, h.windowBytes, hwindow, hwindowBytes]
  simp only [List.cons_append, List.nil_append, TrueStats, hstats]

theorem closeWindow_open (h : Counts l c silent)
    (hopen : ¬ fromSecs 2 ≤ now - c.windowStart) (writable : Bool) :
    closeWindow l now writable = ([], l) := by
  have hopen' : ¬ now - l.windowStart ≥ fromSecs 2 := by rwa [h.windowStart]
  simp only [closeWindow, if_neg hopen']

theorem filter_passOn (l : SptsLoop) (now : ℕ) (filtered : Bytes) :
    (task.passOn l now filtered).2.filter = l.filter := by
  unfold passOn
  split <;> rfl

theorem filter_closeWindow (l : SptsLoop) (now : ℕ) (writable : Bool) :
    (closeWindow l now writable).2.filter = l.filter := by
  unfold closeWindow
  split <;> rfl

theorem trueStats_loop {arrivals : List (ℕ × SptsEvent)} (h : Counts l c silent) :
    TrueStats c (task.loop l arrivals) ↔
      OnlySilence l.filter c.windowStart silent arrivals := by
  induction arrivals generalizing l c silent with
  | nil => exact Iff.rfl
  | cons arrival rest ih =>
    obtain ⟨now, event⟩ := arrival
    cases event with
    | lagged => exact ih h
    | closed =>
      have hstopped := @trueStats_notifyAt c now task.stateTx
        (.inputStateChanged task.sptsId .stopped none none) []
      rw [List.append_nil] at hstopped
      exact hstopped
    | cancelled => exact Iff.rfl
    | data mptsData writable =>
      obtain ⟨filter, filtered, hf⟩ : ∃ filter filtered,
          l.filter.filterPackets mptsData = some (filter, filtered) :=
        ⟨_, _, filterPackets_eq l.filter mptsData⟩
      have h' : Counts { l with filter := filter } c silent := ⟨h.stored, h.windowStart,
        h.windowPackets, h.windowBytes, h.silent_iff, h.of_silent⟩
      obtain ⟨c', hcounts, hstart, htrue⟩ := @passOn_counts task _ c silent h' now filtered
      simp only [loop, OnlySilence, hf]
      rw [htrue, ← hstart]
      by_cases hclosed : fromSecs 2 ≤ now - c'.windowStart
      · obtain ⟨hcounts', htrue'⟩ := closeWindow_counts hcounts hclosed writable
        rw [if_pos hclosed, htrue', ih hcounts', filter_closeWindow, filter_passOn]
        rfl
      · rw [if_neg hclosed, closeWindow_open hcounts hclosed, List.nil_append, ih hcounts,
          filter_passOn]

end Windows

end SptsTask

/-! ## Both tasks -/

/-- The statistics of a UDP input are true if and only if its windows last exactly a second,
and those of a program filter if and only if it publishes none once it has let data through. -/
theorem statistics_true_iff (start : ℕ) :
    (∀ (task : UdpInputTask) (ties : ℕ → Bool) (packets : List Packet),
      (start :: packets.map (·.time)).IsChain (· ≤ ·) →
      (TrueStats (.start start) (task.run ties true start (packets.map Packet.arrival)) ↔
        EvenWindows start (packets.map (·.time)))) ∧
    ∀ (task : SptsTask) (arrivals : List (ℕ × SptsEvent)),
      TrueStats (.start start) (task.run start arrivals) ↔
        OnlySilence (.new task.programNumber task.fillWithNulls) start true arrivals := by
  constructor
  · intro task ties packets hsorted
    rw [UdpInputTask.run, if_pos rfl, trueStats_notifyAt]
    exact UdpInputTask.trueStats_loop ⟨rfl, rfl, rfl, rfl, rfl⟩ rfl hsorted
  · intro task arrivals
    rw [SptsTask.run, trueStats_notifyAt]
    exact SptsTask.trueStats_loop (SptsTask.counts_start task start)

/-- A packet each second, and data that the filter drops. -/
theorem statistics_true_iff_steady :
    TrueStats (.start 0) (UdpInputTask.run ⟨1, 5000, some ⟨⟩⟩ (fun _ => true) true 0
      ([⟨fromSecs 1, 1316, "10.0.0.1", 0⟩, ⟨fromSecs 2, 1316, "10.0.0.1", 0⟩].map
        Packet.arrival)) ∧
    TrueStats (.start 0) (SptsTask.run ⟨2, 1, 1, false, some ⟨⟩, 0⟩ 0
      [(fromSecs 2, .data [0x47] true)]) :=
  ⟨((statistics_true_iff 0).1 ⟨1, 5000, some ⟨⟩⟩ (fun _ => true)
      [⟨fromSecs 1, 1316, "10.0.0.1", 0⟩, ⟨fromSecs 2, 1316, "10.0.0.1", 0⟩]
      (by simp [fromSecs])).mpr (by simp [EvenWindows, fromSecs]),
    ((statistics_true_iff 0).2 ⟨2, 1, 1, false, some ⟨⟩, 0⟩ _).mpr ⟨fun _ => rfl, trivial⟩⟩

/-- A packet with the program association table of every program, without a section. -/
def patPacket : Bytes := [0x47, 0x00, 0x00, 0x10] ++ List.replicate 184 0xFF

/-- A UDP input with two packets in two seconds. -/
def sparseTrace : StreamTrace :=
  UdpInputTask.run ⟨1, 5000, none⟩ (fun _ => true) true 0
    ([⟨fromSecs 1 / 2, 100, "10.0.0.1", 0⟩, ⟨fromSecs 2, 100, "10.0.0.1", 0⟩].map Packet.arrival)

/-- A program filter that lets one packet through. -/
def filteredTrace : StreamTrace :=
  SptsTask.run ⟨2, 1, 1, false, none, 0⟩ 0 [(fromSecs 2, .data patPacket true)]

/-- The first one is said to have two packets in a second, and the second one none at all. -/
theorem statistics_untrue :
    (sparseTrace = [(fromSecs 1 / 2, .broadcast 1 100), (fromSecs 2, .broadcast 1 100),
        (fromSecs 2, .snapshot ⟨2, 200, 2, 1600⟩ true)] ∧ ¬ TrueStats (.start 0) sparseTrace) ∧
      filteredTrace = [(fromSecs 2, .broadcast 1 188),
        (fromSecs 2, .snapshot ⟨0, 0, 1, 1504⟩ true)] ∧
      ¬ TrueStats (.start 0) filteredTrace := by
  have hsparse : sparseTrace = [(fromSecs 1 / 2, .broadcast 1 100),
      (fromSecs 2, .broadcast 1 100), (fromSecs 2, .snapshot ⟨2, 200, 2, 1600⟩ true)] := by
    decide +kernel
  have hfiltered : filteredTrace = [(fromSecs 2, .broadcast 1 188),
      (fromSecs 2, .snapshot ⟨0, 0, 1, 1504⟩ true)] := by decide +kernel
  refine ⟨⟨hsparse, ?_⟩, hfiltered, ?_⟩
  · rw [hsparse]
    exact fun h => absurd (h.1 rfl) (by decide +kernel)
  · rw [hfiltered]
    exact fun h => absurd (h.1 rfl) (by decide +kernel)

end StreamGateway
