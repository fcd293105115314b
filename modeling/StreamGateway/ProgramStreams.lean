import StreamGateway.Delivery
import StreamGateway.ProgramIsolation

/-!
# Program streams

A program filter with an output behind it, in any run of the gateway with its traffic. What the
output takes is made of whole transport stream packets, and these are packets of the source in
their order. With null filling some of them are replaced.
-/
namespace StreamGateway

open MpegtsFilter
open Reception

namespace MpegtsFilter

/-- With null filling the null packet may stand for any packet. -/
def StandsFor (fillWithNulls : Bool) (q p : Bytes) : Prop :=
  q = p ∨ fillWithNulls = true ∧ q = nullPacket

instance (fillWithNulls : Bool) : Std.Refl (StandsFor fillWithNulls) := ⟨fun _ => .inl rfl⟩

instance (fillWithNulls : Bool) : IsTrans Bytes (StandsFor fillWithNulls) where
  trans _ _ _ hab hbc := by
    rcases hab with rfl | hnull
    · exact hbc
    · exact .inr hnull

theorem emit_standsFor (fillWithNulls : Bool) (target : UInt16) (s : Learned)
    (ps : List Bytes) :
    List.SublistForall₂ (StandsFor fillWithNulls) (emit fillWithNulls target s ps) ps := by
  cases fillWithNulls with
  | false => exact ((selector target).keep_sublist s ps).sublistForall₂
  | true =>
    refine List.sublistForall₂_iff.mpr ⟨ps, ?_, .refl ps⟩
    exact ((selector target).fill_forall₂ nullPacket s ps).imp fun _ _ h => h.imp_right (⟨rfl, ·⟩)

/-- Both kinds of filters pass on packets that start with the sync byte only. -/
theorem byteAt_of_mem_emit {fillWithNulls : Bool} {target : UInt16} {s : Learned}
    {ps : List Bytes} {p : Bytes} (hp : p ∈ emit fillWithNulls target s ps) :
    byteAt p 0 = tsSyncByte := by
  have hsync : ∀ {s : Learned} {q : Bytes}, (selector target).accepts s q = true →
      byteAt q 0 = tsSyncByte := fun h => by
    simp only [selector, Bool.decide_and, Bool.and_eq_true, decide_eq_true_eq] at h
    exact h.1
  induction ps generalizing s with
  | nil => cases fillWithNulls <;> simp [emit, Selector.fill, Selector.keep] at hp
  | cons q qs ih =>
    rw [emit_cons] at hp
    rcases List.mem_append.mp hp with h | h
    · cases ha : (selector target).accepts s q with
      | true =>
        obtain rfl : p = q := by
          cases fillWithNulls <;> simpa [emit, Selector.fill, Selector.keep, ha] using h
        exact hsync ha
      | false =>
        cases fillWithNulls with
        | true =>
          obtain rfl : p = nullPacket := by simpa [emit, Selector.fill, ha] using h
          decide
        | false => simp [emit, Selector.keep, ha] at h
    · exact ih h

/-- An output of a run, as packets. -/
theorem exists_emit_of_mem_batchRun {f : ProgramFilter} {batches : List Bytes} {output : Bytes}
    (h : output ∈ (batchRun f batches).map Prod.snd) :
    ∃ s input, output = (emit f.fillWithNulls f.targetProgram s
        (pieces tsPacketSize input)).flatten ∧
      pieces tsPacketSize output = emit f.fillWithNulls f.targetProgram s
        (pieces tsPacketSize input) := by
  induction batches generalizing f with
  | nil => exact absurd h List.not_mem_nil
  | cons input rest ih =>
    rcases List.mem_cons.mp h with rfl | h
    · exact ⟨f.learned, input, rfl, pieces_emit ..⟩
    · have hrest := ih h
      exact hrest

/-- The packets of all outputs of a run. -/
theorem flatMap_pieces_batchRun (f : ProgramFilter) (batches : List Bytes) :
    ((batchRun f batches).map Prod.snd).flatMap (pieces tsPacketSize) =
      emit f.fillWithNulls f.targetProgram f.learned (batches.flatMap (pieces tsPacketSize)) := by
  have hwhole : ∀ output ∈ (batchRun f batches).map Prod.snd, tsPacketSize ∣ output.length := by
    intro output hout
    obtain ⟨s, input, rfl, _⟩ := exists_emit_of_mem_batchRun hout
    rw [length_flatten_of_length _ fun p hp => length_of_mem_emit
      (fun q hq => length_of_mem_pieces hq) hp]
    exact Nat.dvd_mul_right ..
  rw [flatMap_pieces (by decide) _ hwhole, batchRun_outputs]
  refine pieces_flatten (by decide) _ fun p hp => length_of_mem_emit (fun q hq => ?_) hp
  obtain ⟨batch, _, hq⟩ := List.mem_flatMap.mp hq
  exact length_of_mem_pieces hq

end MpegtsFilter

namespace Traffic

variable {env : Env} {db : Database} {tr : Traffic} {s o : Task} {id : Int}
  {name : Option String} {sourceInputId : Int} {programNumber : UInt16} {fillWithNulls : Bool}
  {stateTx : Option StateChangeSender} {sourceRx tx : ChannelId} {inputId outputId : Int}

/-- What was broadcast by a filter is what its run leaves of the data it has heard. -/
theorem Sound.filters (h : tr.Sound) (hs : s ∈ tr.rt.spawned)
    (hspec : s.spec = .sptsInput id name sourceInputId programNumber fillWithNulls stateTx sourceRx
      tx) :
    tr.sent tx = filteredValues (batchRun (.new programNumber fillWithNulls)
      (values (tr.state s).receiver.heard)) := by
  have hc := h.consistent s hs
  have hlog : tr.log s = tr.sent tx := by rw [log, hspec]; rfl
  rw [hlog, hspec] at hc
  obtain ⟨run, hrun, _, hsent⟩ := hc
  rw [filterBatches_eq] at hrun
  rw [hsent, Option.some.inj hrun]

/-- What an output takes is among what was broadcast on its channel. -/
theorem Sound.taken_sublist (h : tr.Sound) {c : ChannelId} (ho : o ∈ tr.rt.spawned)
    (howner : o.spec.owner = .output inputId outputId) (hrx : o.spec.packetRx = some c) :
    (tr.taken o).Sublist (tr.sent c) := by
  rw [h.taken_eq ho howner]
  exact (h.follows o c ho hrx).sublist.trans
    ((List.drop_sublist ..).trans (List.take_sublist ..))

/-- An output of a program filter sends whole packets only, each with its sync byte and never
none at all. They stand in the order of the source for packets of it, no packet for two of them,
whatever was missed on the way and however often the source, the filter and the output were
stopped: each is the packet that it stands for, or, with null filling, the null packet. -/
theorem program_packets (hruns : Runs (boot env db) tr) (hs : s ∈ tr.rt.spawned)
    (hspec : s.spec = .sptsInput id name sourceInputId programNumber fillWithNulls stateTx sourceRx
      tx)
    (ho : o ∈ tr.rt.spawned) (howner : o.spec.owner = .output inputId outputId)
    (hrx : o.spec.packetRx = some tx) :
    (∀ packet ∈ tr.taken o, packet ≠ [] ∧ (pieces tsPacketSize packet).flatten = packet ∧
        ∀ p ∈ pieces tsPacketSize packet, byteAt p 0 = tsSyncByte) ∧
      List.SublistForall₂ (StandsFor fillWithNulls)
        ((tr.taken o).flatMap (pieces tsPacketSize))
        ((tr.sent sourceRx).flatMap (pieces tsPacketSize)) := by
  have h := sound_of_runs hruns
  have htaken := h.taken_sublist ho howner hrx
  have hsent := h.filters hs hspec
  have hheard := h.heard_sublist (c := sourceRx) hs (by rw [hspec]; rfl)
  generalize values (tr.state s).receiver.heard = heard at hsent hheard
  constructor
  · intro packet hpacket
    have hmem := htaken.subset hpacket
    rw [hsent, filteredValues, List.mem_filter] at hmem
    obtain ⟨state, input, hflat, hpieces⟩ := exists_emit_of_mem_batchRun hmem.1
    refine ⟨by simpa using hmem.2, ?_, fun p hp => ?_⟩
    · rw [hpieces, hflat]
    · rw [hpieces] at hp
      exact byteAt_of_mem_emit hp
  · have hout : ((tr.taken o).flatMap (pieces tsPacketSize)).Sublist
        (emit fillWithNulls programNumber ⟨none, none, none⟩
          (heard.flatMap (pieces tsPacketSize))) := by
      rw [hsent] at htaken
      refine (htaken.flatMap _).trans ?_
      refine (List.filter_sublist.flatMap _).trans ?_
      rw [flatMap_pieces_batchRun]
      exact .refl _
    exact trans hout.sublistForall₂ (trans (emit_standsFor ..) (hheard.flatMap _).sublistForall₂)

/-- If what a dropping filter learns is from the tables of its program, then an output behind it
sends no packet of another program: each has the PID of the PAT, of the CAT, or one that was
assigned to the program by the packets that the filter has heard before. -/
theorem program_isolation (hruns : Runs (boot env db) tr) (hs : s ∈ tr.rt.spawned)
    (hspec : s.spec = .sptsInput id name sourceInputId programNumber false stateTx sourceRx tx)
    (ho : o ∈ tr.rt.spawned) (howner : o.spec.owner = .output inputId outputId)
    (hrx : o.spec.packetRx = some tx)
    (hown : ∀ pre data post, (values (tr.state s).receiver.heard).flatMap (pieces tsPacketSize) =
        pre ++ data :: post →
      ∀ f, pre.foldlM ProgramFilter.filterPacket (.new programNumber false) = some f →
        LearnsOwn programNumber f.learned data) :
    ∀ packet ∈ tr.taken o, ∀ p ∈ pieces tsPacketSize packet, ∃ seen,
      seen ++ [p] <+: (values (tr.state s).receiver.heard).flatMap (pieces tsPacketSize) ∧
        (pidAt p 1 = patPid ∨ pidAt p 1 = catPid ∨ Assigned programNumber seen (pidAt p 1)) := by
  have h := sound_of_runs hruns
  have htaken := h.taken_sublist ho howner hrx
  rw [h.filters hs hspec] at htaken
  obtain ⟨run, before, hrun, hgood⟩ := isolated_of_learnsOwn programNumber _ hown
  obtain rfl := Option.some.inj ((filterBatches_eq _ _).symm.trans hrun)
  intro packet hpacket p hp
  have hmem : p ∈ pieces tsPacketSize ((batchRun (.new programNumber false)
      (values (tr.state s).receiver.heard)).map Prod.snd).flatten := by
    have hout := List.mem_flatMap.mpr
      ⟨packet, List.mem_of_mem_filter (htaken.subset hpacket), hp⟩
    rw [flatMap_pieces_batchRun] at hout
    rw [pieces_outputs]
    exact hout
  obtain ⟨i, hi, rfl⟩ := List.getElem_of_mem hmem
  exact ⟨_, hgood.get (hgood.length_eq ▸ hi) hi⟩

/-! ## A program on its way -/

def programFilter : Task :=
  ⟨1, .sptsInput 2 (some "SPTS Program 1 from Input 1") 1 1 false (some ⟨⟩) 0 1⟩

def programOutput : Task :=
  ⟨2, .udpOutput 2 1 (some "UDP Output to 127.0.0.1:9000") (.v4 [127, 0, 0, 1], 9000) none none 1⟩

/-- A packet of the program before its tables, the tables, and the packet again. -/
def programPackets : List Bytes := [foreignStream, sharedPat, ownPmt, foreignStream]

/-- The input of a relay gets a program filter, and that an output. The packets are received, and
the filter hears them. With the third one it closes its window. -/
def programScript : List Cue :=
  List.replicate 8 (.call 0) ++ [.arrive localEnv (.createInput (udpInputRequest 5000))] ++
    List.replicate 5 (.call 1) ++ [.arrive localEnv (.createInput (.spts 1 1 none none))] ++
    List.replicate 7 (.call 2) ++ [.arrive localEnv (.createOutput
      (.udp 2 (some "127.0.0.1") (some 9000) none none none none none none))] ++
    List.replicate 6 (.call 3) ++ programPackets.map (.packet relayInput <| .recvFrom ·) ++
    [false, false, true, false].map (.packet programFilter <| .filter ·)

/-- The output sends what the filter has passed. -/
def programDelivery : List Cue :=
  (List.replicate 3 [.packet programOutput .recv, .packet programOutput (.sendTo true)]).flatten

/-- The filter has dropped the first packet, and learned from the next two. -/
theorem exists_filtered : ∃ tr : Traffic, Runs (boot localEnv emptyDatabase) tr ∧
    programFilter ∈ tr.rt.spawned ∧ programOutput ∈ tr.rt.spawned ∧
    tr.sent 0 = programPackets ∧
    values (tr.state programFilter).receiver.heard = programPackets ∧
    tr.taken programOutput = [sharedPat, ownPmt, foreignStream] := by
  have hview : ((boot localEnv emptyDatabase).play (fun _ _ => true)
      (programScript ++ programDelivery)).any (fun tr => decide (
        programFilter ∈ tr.rt.spawned ∧ programOutput ∈ tr.rt.spawned ∧
        tr.sent 0 = programPackets ∧
        values (tr.state programFilter).receiver.heard = programPackets ∧
        tr.taken programOutput = [sharedPat, ownPmt, foreignStream])) = true := by
    decide +kernel
  obtain ⟨tr, hplay, hview⟩ := (Option.any_eq_true _ _).mp hview
  exact ⟨tr, runs_of_script _ hplay, of_decide_eq_true hview⟩

theorem length_programPackets : ∀ p ∈ programPackets, p.length = tsPacketSize := by
  decide +kernel

theorem program_packets_filtered : ∃ tr, Runs (boot localEnv emptyDatabase) tr ∧
    tr.sent 0 = programPackets ∧ tr.taken programOutput = [sharedPat, ownPmt, foreignStream] ∧
    List.SublistForall₂ (StandsFor false)
      ([sharedPat, ownPmt, foreignStream].flatMap (pieces tsPacketSize))
      (programPackets.flatMap (pieces tsPacketSize)) := by
  obtain ⟨tr, hruns, hs, ho, hsent, _, htaken⟩ := exists_filtered
  exact ⟨tr, hruns, hsent, htaken,
    htaken ▸ hsent ▸ (program_packets hruns hs rfl ho rfl rfl).2⟩

/-- The last packet has the PID that the tables assign to the program. -/
theorem program_isolation_filtered : ∃ tr, Runs (boot localEnv emptyDatabase) tr ∧
    tr.taken programOutput = [sharedPat, ownPmt, foreignStream] ∧
    ∀ packet ∈ [sharedPat, ownPmt, foreignStream], ∀ p ∈ pieces tsPacketSize packet, ∃ seen,
      seen ++ [p] <+: (values (tr.state programFilter).receiver.heard).flatMap
        (pieces tsPacketSize) ∧
      (pidAt p 1 = patPid ∨ pidAt p 1 = catPid ∨ Assigned 1 seen (pidAt p 1)) := by
  obtain ⟨tr, hruns, hs, ho, _, hheard, htaken⟩ := exists_filtered
  have hpieces : programPackets.flatMap (pieces tsPacketSize) = programPackets :=
    flatMap_pieces_self (by decide) _ length_programPackets
  have hgood := program_isolation hruns hs rfl ho rfl rfl fun pre data post h f _ => by
    rw [hheard, hpieces] at h
    have hmem : data ∈ programPackets := h ▸ List.mem_append_right _ List.mem_cons_self
    refine learnsOwn_own f.learned ?_
    rcases List.mem_cons.mp hmem with rfl | hmem
    · exact List.mem_cons_of_mem _ (List.mem_cons_of_mem _ List.mem_cons_self)
    · exact hmem
  exact ⟨tr, hruns, htaken, htaken ▸ hgood⟩

end Traffic

end StreamGateway
