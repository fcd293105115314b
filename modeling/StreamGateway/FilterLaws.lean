import StreamGateway.FilterCore

/-!
# Laws of whole filter runs

Three laws of `filter_packets` over arbitrary sequences of batches: filtering twice
is filtering once, dropping and null filling pass the same packets and learn the
same tables, and the grouping of whole packets into batches is irrelevant. All three
come from the selector laws: only a packet that is passed on can teach the filter
anything, and the null packet does not start a payload unit.
-/
namespace StreamGateway.MpegtsFilter

/-- The filter left behind by a run. -/
def ProgramFilter.after (f : ProgramFilter) (run : List (ProgramFilter × Bytes)) :
    ProgramFilter := (run.getLast?.map Prod.fst).getD f

/-- The packet test of the loop, on its own. -/
def ProgramFilter.passes (f : ProgramFilter) (packetData : Bytes) : Bool :=
  match TsPacket.parse packetData with
  | some (some packet) => f.shouldInclude packet.pid
  | _ => false

/-- The answers of the packet test along a batch, each at the filter that the packets
before it have left. -/
def ProgramFilter.passedIn (f : ProgramFilter) : List Bytes → List Bool
  | [] => []
  | p :: ps => f.passes p :: match f.filterPacket p with
    | some f' => ProgramFilter.passedIn f' ps
    | none => []

theorem passes_eq (f : ProgramFilter) {p : Bytes} (h : p.length = tsPacketSize) :
    f.passes p = (selector f.targetProgram).accepts f.learned p := by
  have hincl : f.shouldInclude (pidAt p 1) = includes f.learned (pidAt p 1) := rfl
  by_cases hs : byteAt p 0 = tsSyncByte <;>
    simp [ProgramFilter.passes, parse_eq h, hs, selector, hincl]

theorem passedIn_eq (f : ProgramFilter) (ps : List Bytes)
    (h : ∀ p ∈ ps, p.length = tsPacketSize) :
    f.passedIn ps = (selector f.targetProgram).mask f.learned ps := by
  induction ps generalizing f with
  | nil => rfl
  | cons p ps ih =>
    have hp := h p List.mem_cons_self
    have htail := ih ((f.withLearned ((selector f.targetProgram).step f.learned p)).put
      (emit f.fillWithNulls f.targetProgram f.learned [p]).flatten)
      fun q hq => h q (List.mem_cons_of_mem _ hq)
    simp only [ProgramFilter.passedIn, filterPacket_eq f hp, passes_eq f hp, Selector.mask,
      htail]
    rfl

/-! ## Runs of a filter as runs of its selector -/

theorem batchRun_outputs (f : ProgramFilter) (batches : List Bytes) :
    ((batchRun f batches).map Prod.snd).flatten =
      (emit f.fillWithNulls f.targetProgram f.learned
        (batches.flatMap (pieces tsPacketSize))).flatten := by
  induction batches generalizing f with
  | nil => cases h : f.fillWithNulls <;> simp [batchRun, emit, Selector.fill, Selector.keep]
  | cons input rest ih =>
    simp only [batchRun, List.map_cons, List.flatten_cons, ih, List.flatMap_cons]
    rw [← List.flatten_append]
    cases h : f.fillWithNulls <;>
      simp [emit, Selector.fill_append, Selector.keep_append, ProgramFilter.withLearned,
        ProgramFilter.learned, h]

theorem after_batchRun_cons (f g : ProgramFilter) (input : Bytes) (rest : List Bytes) :
    g.after (batchRun f (input :: rest)) =
      ProgramFilter.after { f.withLearned ((selector f.targetProgram).final f.learned
        (pieces tsPacketSize input)) with outputBuffer := [] }
        (batchRun { f.withLearned ((selector f.targetProgram).final f.learned
          (pieces tsPacketSize input)) with outputBuffer := [] } rest) := by
  simp only [ProgramFilter.after, batchRun, List.getLast?_cons]
  cases (batchRun _ rest).getLast? <;> rfl

/-- A run changes what was learned, and nothing else that the next batch depends on. -/
theorem after_batchRun (f : ProgramFilter) (batches : List Bytes) :
    (f.after (batchRun f batches)).learned =
        (selector f.targetProgram).final f.learned (batches.flatMap (pieces tsPacketSize)) ∧
      (f.after (batchRun f batches)).targetProgram = f.targetProgram ∧
      (f.after (batchRun f batches)).fillWithNulls = f.fillWithNulls := by
  induction batches generalizing f with
  | nil => exact ⟨rfl, rfl, rfl⟩
  | cons input rest ih =>
    rw [after_batchRun_cons, List.flatMap_cons, Selector.final_append]
    exact ih _

/-! ## Idempotence -/

/-- Null packets do not start a payload unit, so the filter never parses them, even
on a learned PID. -/
theorem learnPacket_nullPacket (target : UInt16) (s : Learned) :
    learnPacket target s nullPacket = s := by
  have hu : unitStart nullPacket = false := by decide
  unfold learnPacket
  cases s.programInfo <;> simp [hu]

theorem emit_emit (fillWithNulls : Bool) (target : UInt16) (s : Learned) (ps : List Bytes) :
    emit fillWithNulls target s (emit fillWithNulls target s ps) =
        emit fillWithNulls target s ps ∧
      (selector target).final s (emit fillWithNulls target s ps) =
        (selector target).final s ps := by
  cases fillWithNulls with
  | false => exact (selector target).keep_keep s ps
  | true =>
    exact (selector target).fill_fill nullPacket
      (fun s _ => learnPacket_nullPacket target s) s ps

theorem batchRun_batchRun (f : ProgramFilter) (batches : List Bytes) :
    (batchRun f ((batchRun f batches).map Prod.snd)).map Prod.snd =
        (batchRun f batches).map Prod.snd ∧
      (batchRun f ((batchRun f batches).map Prod.snd)).map (fun r => r.1.learned) =
        (batchRun f batches).map (fun r => r.1.learned) := by
  induction batches generalizing f with
  | nil => exact ⟨rfl, rfl⟩
  | cons input rest ih =>
    obtain ⟨hout, hfinal⟩ := emit_emit f.fillWithNulls f.targetProgram f.learned
      (pieces tsPacketSize input)
    obtain ⟨ih1, ih2⟩ := ih { f.withLearned ((selector f.targetProgram).final f.learned
      (pieces tsPacketSize input)) with outputBuffer := [] }
    simp only [batchRun, List.map_cons, pieces_emit, hout, hfinal]
    exact ⟨congrArg _ ih1, congrArg _ ih2⟩

/-- Feeding the outputs of a fresh filter, batch by batch, to a second fresh filter
changes neither an output nor what is learned after any batch. -/
theorem filterBatches_idempotent (target : UInt16) (fillWithNulls : Bool)
    (batches : List Bytes) :
    ∃ first second,
      (ProgramFilter.new target fillWithNulls).filterBatches batches = some first ∧
      (ProgramFilter.new target fillWithNulls).filterBatches (first.map Prod.snd) =
        some second ∧
      second.map Prod.snd = first.map Prod.snd ∧
      second.map (fun r => r.1.learned) = first.map (fun r => r.1.learned) := by
  have h := batchRun_batchRun (ProgramFilter.new target fillWithNulls) batches
  exact ⟨_, _, filterBatches_eq _ _, filterBatches_eq _ _, h.1, h.2⟩

/-! ## Null filling against dropping -/

/-- What the next batch does at a null-filling and at a dropping filter. With the
positions at which the first passes packets on: its output has one packet for each full
input packet, the same one at those positions and the null packet at the others, the
dropping output consists of the packets at those positions, and both learn the same. -/
def AgreeOn (filler dropper : ProgramFilter) (input : Bytes) : Prop :=
  ∃ filler' filled dropper' dropped,
    filler.filterPackets input = some (filler', filled) ∧
    dropper.filterPackets input = some (dropper', dropped) ∧
    filler'.learned = dropper'.learned ∧
    filled.length = tsPacketSize * (input.length / tsPacketSize) ∧
    pieces tsPacketSize filled =
      Selector.blank nullPacket (filler.passedIn (pieces tsPacketSize input))
        (pieces tsPacketSize input) ∧
    dropped = (Selector.pick (filler.passedIn (pieces tsPacketSize input))
      (pieces tsPacketSize input)).flatten

theorem agreeOn_of_learned_eq {filler dropper : ProgramFilter}
    (hl : filler.learned = dropper.learned)
    (ht : filler.targetProgram = dropper.targetProgram)
    (hf : filler.fillWithNulls = true) (hd : dropper.fillWithNulls = false) (input : Bytes) :
    AgreeOn filler dropper input := by
  have hpieces : ∀ p ∈ pieces tsPacketSize input, p.length = tsPacketSize :=
    fun p hp => length_of_mem_pieces hp
  have hmask := passedIn_eq filler (pieces tsPacketSize input) hpieces
  have hlen := length_flatten_of_length
    (emit filler.fillWithNulls filler.targetProgram filler.learned (pieces tsPacketSize input))
    fun p hp => length_of_mem_emit hpieces hp
  refine ⟨_, _, _, _, filterPackets_eq filler input, filterPackets_eq dropper input,
    ?_, ?_, ?_, ?_⟩
  · change Selector.final _ _ _ = Selector.final _ _ _
    rw [hl, ht]
  · rw [hlen, hf]
    simp [emit, length_pieces]
  · refine (pieces_emit _ _ _ input).trans ?_
    rw [hmask, ← Selector.fill_eq_blank, hf]
    rfl
  · rw [hmask, ← Selector.keep_eq_pick, hd, hl, ht]
    rfl

/-- After any history of batches the null-filling and the dropping filter of a target
have learned the same, and they agree on the next batch. -/
theorem filterBatches_fill_drop (target : UInt16) (history : List Bytes) (input : Bytes) :
    ∃ filled dropped,
      (ProgramFilter.new target true).filterBatches history = some filled ∧
      (ProgramFilter.new target false).filterBatches history = some dropped ∧
      ((ProgramFilter.new target true).after filled).learned =
        ((ProgramFilter.new target false).after dropped).learned ∧
      AgreeOn ((ProgramFilter.new target true).after filled)
        ((ProgramFilter.new target false).after dropped) input := by
  obtain ⟨hfl, hft, hff⟩ := after_batchRun (ProgramFilter.new target true) history
  obtain ⟨hdl, hdt, hdf⟩ := after_batchRun (ProgramFilter.new target false) history
  have hl := hfl.trans hdl.symm
  exact ⟨_, _, filterBatches_eq _ _, filterBatches_eq _ _, hl,
    agreeOn_of_learned_eq hl (hft.trans hdt.symm) hff hdf input⟩

/-! ## Regrouping -/

/-- Two ways of grouping the same whole packets into batches give the same bytes and
leave the same tables, from every filter. -/
theorem filterBatches_regroup (f : ProgramFilter) (bs cs : List Bytes)
    (hb : ∀ b ∈ bs, tsPacketSize ∣ b.length) (hc : ∀ c ∈ cs, tsPacketSize ∣ c.length)
    (heq : bs.flatten = cs.flatten) :
    ∃ rb rc, f.filterBatches bs = some rb ∧ f.filterBatches cs = some rc ∧
      (rb.map Prod.snd).flatten = (rc.map Prod.snd).flatten ∧
      (f.after rb).learned = (f.after rc).learned := by
  have hpieces : bs.flatMap (pieces tsPacketSize) = cs.flatMap (pieces tsPacketSize) := by
    rw [flatMap_pieces (by decide) bs hb, flatMap_pieces (by decide) cs hc, heq]
  refine ⟨_, _, filterBatches_eq _ _, filterBatches_eq _ _, ?_, ?_⟩
  · rw [batchRun_outputs, batchRun_outputs, hpieces]
  · rw [(after_batchRun f bs).1, (after_batchRun f cs).1, hpieces]

/-- One batch of two null packets against two batches of one. -/
theorem filterBatches_regroup_two :
    ∃ rb rc, (ProgramFilter.new 1 true).filterBatches [nullPacket ++ nullPacket] = some rb ∧
      (ProgramFilter.new 1 true).filterBatches [nullPacket, nullPacket] = some rc ∧
      (rb.map Prod.snd).flatten = (rc.map Prod.snd).flatten ∧
      ((ProgramFilter.new 1 true).after rb).learned =
        ((ProgramFilter.new 1 true).after rc).learned := by
  have hn := length_nullPacket
  refine filterBatches_regroup (ProgramFilter.new 1 true) _ _ ?_ ?_
    (by simp only [List.flatten_cons, List.flatten_nil, List.append_nil])
  · intro b hb
    rw [List.mem_singleton.mp hb, List.length_append, hn]
    exact ⟨2, rfl⟩
  · intro c hc
    have he : c = nullPacket := by simpa only [List.mem_cons, List.not_mem_nil, or_false,
      or_self] using hc
    exact ⟨1, by rw [he, hn, Nat.mul_one]⟩

end StreamGateway.MpegtsFilter
