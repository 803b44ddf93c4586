import Iocost.Proofs.Sampler.Selection
import Iocost.Proofs.Sink

/-!
# Output to a sink that refuses

A tick writes the text of its sample as far as the sink has room, and flushes the sink if all of it
was written. So what a run leaves in a sink is the beginning of the texts of all its ticks, one
after the other.
-/

namespace Iocost

theorem Sample.line_feed_mem_pieces (sample : Sample) (format : OutputFormat) :
    "\n" ∈ sample.pieces format := by
  cases format with
  | table => exact List.mem_flatMap.mpr ⟨[], List.mem_cons_self, .tail _ (.head _)⟩
  | json =>
    refine List.mem_flatMap.mpr ⟨_, List.mem_cons_self, ?_⟩
    exact List.mem_append_right _ (List.mem_singleton_self _)

/-- No sample is written as nothing. -/
theorem Sample.encode_text_ne_nil (sample : Sample) (format : OutputFormat) :
    Text.encode (sample.text format) ≠ [] := by
  intro hnil
  have hmem : '\n' ∈ (sample.text format).toList := by
    rw [text, String.toList_join]
    exact List.mem_flatMap.mpr ⟨"\n", sample.line_feed_mem_pieces format, List.mem_singleton_self _⟩
  rw [Text.encode_eq_nil.mp hnil] at hmem
  cases hmem

namespace Sampler

variable {Member Node Controller : Type} (s : Sampler Member Controller)
  (source : Source Member Node Controller)

/-- The bytes of the text of a sample, none if there is no sample. -/
def output (timestamp : Binary64) : List UInt8 :=
  match s.sample source timestamp with
  | .ok sample => Text.encode (sample.text s.settings.format)
  | .error _ => []

/-- The bytes of the samples at several times, one after the other. -/
def outputs (timestamps : List Binary64) : List UInt8 := timestamps.flatMap (s.output source)

variable {s source} {controller : ControllerCounters} {timestamp : Binary64} {sink : Sink}

theorem tick_of_error {cause : Failure}
    (hread : source.readController s.binding.controller = .error cause) :
    s.tick source timestamp sink = (sink, some (.controller s.settings.device cause)) := by
  simp only [tick, sample, hread]

theorem tick_of_ok (hread : source.readController s.binding.controller = .ok controller) :
    s.tick source timestamp sink =
      match sink.write (s.output source timestamp) with
      | (sink, some cause) => (sink, some (.write cause))
      | (sink, none) => (sink.flush.1, sink.flush.2.map .flush) := by
  cases hsample : s.sample source timestamp with
  | error e =>
    simp only [sample, hread] at hsample
    cases hsample
  | ok sample =>
    simp only [tick, output, hsample, Sink.writePieces_eq_write, Sample.text]
    cases sink.write (Text.encode (String.join (sample.pieces s.settings.format))) with
    | mk sink refused? =>
      cases refused? with
      | some cause => rfl
      | none =>
        simp only
        cases sink.flush with
        | mk sink refused? => cases refused? <;> rfl

theorem exists_sample_output
    (hread : source.readController s.binding.controller = .ok controller) (timestamp : Binary64) :
    ∃ sample, s.sample source timestamp = .ok sample ∧
      s.output source timestamp = Text.encode (sample.text s.settings.format) := by
  simp only [output, sample, hread]
  exact ⟨_, rfl, rfl⟩

theorem output_ne_nil (hread : source.readController s.binding.controller = .ok controller) :
    s.output source timestamp ≠ [] := by
  obtain ⟨sample, -, houtput⟩ := exists_sample_output hread timestamp
  exact houtput ▸ sample.encode_text_ne_nil s.settings.format

theorem run_append (a b : List Binary64) (sink : Sink) :
    s.run source (a ++ b) sink =
      match s.run source a sink with
      | (sink, none) => s.run source b sink
      | failed => failed := by
  induction a generalizing sink with
  | nil => rfl
  | cons timestamp a ih =>
    simp only [List.cons_append, run]
    cases s.tick source timestamp sink with
    | mk sink e? =>
      cases e? with
      | none => exact ih sink
      | some e => rfl

/-- As long as the sink can be flushed after each tick, a run writes what one write would. -/
theorem run_of_flushes (hread : source.readController s.binding.controller = .ok controller)
    (timestamps : List Binary64) (sink : Sink)
    (hflushes : ∀ n, sink.flushes = some n → timestamps.length ≤ n) :
    match sink.write (s.outputs source timestamps) with
    | (after, none) => s.run source timestamps sink =
        ({ after with flushes := sink.flushes.map (· - timestamps.length) }, none)
    | (after, some cause) => ∃ flushes,
        s.run source timestamps sink =
          ({ after with flushes := flushes }, some (.write cause)) := by
  induction timestamps generalizing sink with
  | nil =>
    rw [outputs, List.flatMap_nil, Sink.write_nil]
    obtain ⟨written, room, flushes⟩ := sink
    cases flushes <;> rfl
  | cons timestamp timestamps ih =>
    have hpos (n : Nat) (hn : sink.flushes = some n) : timestamps.length + 1 ≤ n := hflushes n hn
    have hkept := sink.flushes_write (s.output source timestamp)
    rw [outputs, List.flatMap_cons, Sink.write_append, run, tick_of_ok hread]
    cases hwrite : sink.write (s.output source timestamp) with
    | mk after refused? =>
      rw [hwrite] at hkept
      cases refused? with
      | some cause => exact ⟨after.flushes, rfl⟩
      | none =>
        have hflush : after.flush = ({ after with flushes := sink.flushes.map (· - 1) }, none) := by
          rw [after.flush_of_pos fun n hn => Nat.lt_of_lt_of_le (Nat.succ_pos _)
            (hpos n (hkept.symm.trans hn)), hkept]
        -- the rest of the run starts with one flush less, which writing does not notice
        have hrun := ih { after with flushes := sink.flushes.map (· - 1) } fun n hn => by
          obtain ⟨m, hm, rfl⟩ := Option.map_eq_some_iff.mp hn
          exact Nat.le_sub_one_of_lt (hpos m hm)
        have hcount : (sink.flushes.map (· - 1)).map (· - timestamps.length) =
            sink.flushes.map (· - (timestamp :: timestamps).length) := by
          rw [Option.map_map]
          refine Option.map_congr fun n _ => ?_
          rw [Function.comp_apply, Nat.sub_sub, Nat.add_comm, List.length_cons]
        rw [Sink.write_with_flushes, outputs] at hrun
        simp only [hflush, Option.map_none]
        cases hafter : after.write (timestamps.flatMap (s.output source)) with
        | mk last refused? =>
          rw [hafter] at hrun
          cases refused? with
          | some cause => exact hrun
          | none => exact hcount ▸ hrun

/-- The run in which the sink is flushed for the last time writes what one write would, and then
fails. -/
theorem run_of_last_flush (hread : source.readController s.binding.controller = .ok controller)
    (timestamps : List Binary64) (timestamp : Binary64) (later : List Binary64) {sink : Sink}
    (hflushes : sink.flushes = some timestamps.length) :
    (s.run source (timestamps ++ timestamp :: later) sink).1.written =
        (sink.write (s.outputs source (timestamps ++ [timestamp]))).1.written ∧
      (s.run source (timestamps ++ timestamp :: later) sink).2 =
        some ((sink.write (s.outputs source (timestamps ++ [timestamp]))).2.elim
          (.flush .stopped) .write) := by
  have hrun := run_of_flushes hread timestamps sink fun n hn =>
    Nat.le_of_eq (Option.some.inj (hflushes.symm.trans hn))
  rw [run_append, outputs, List.flatMap_append, Sink.write_append]
  rw [outputs] at hrun
  cases hwrite : sink.write (timestamps.flatMap (s.output source)) with
  | mk after refused? =>
    rw [hwrite] at hrun
    cases refused? with
    | some cause =>
      obtain ⟨flushes, hrun⟩ := hrun
      rw [hrun]
      exact ⟨rfl, rfl⟩
    | none =>
      simp only at hrun
      rw [hrun, hflushes]
      simp only [run, tick_of_ok hread, List.flatMap_cons, List.flatMap_nil, List.append_nil,
        Sink.write_with_flushes, Option.map_some, Nat.sub_self]
      cases after.write (s.output source timestamp) with
      | mk last refused? =>
        cases refused? <;> exact ⟨rfl, rfl⟩

theorem length_le_length_outputs
    (hread : source.readController s.binding.controller = .ok controller)
    (timestamps : List Binary64) : timestamps.length ≤ (s.outputs source timestamps).length := by
  induction timestamps with
  | nil => exact Nat.le_refl 0
  | cons timestamp timestamps ih =>
    rw [outputs, List.flatMap_cons, List.length_append, List.length_cons, Nat.add_comm]
    exact Nat.add_le_add (List.length_pos_iff.mpr (output_ne_nil hread)) ih

theorem exists_map_range_eq_append {α : Type} (times : Nat → α) {n rounds : Nat} (h : n < rounds) :
    ∃ later, (List.range rounds).map times = (List.range n).map times ++ times n :: later := by
  obtain ⟨m, rfl⟩ := Nat.exists_eq_add_of_lt h
  rw [Nat.add_assoc, List.range_add, List.range_succ_eq_map]
  simp only [List.map_append, List.map_cons, Nat.add_zero]
  exact ⟨_, rfl⟩

/-- A tick writes what the sink has room for; it flushes the sink if that is the whole text. -/
theorem tick_cuts_output (hread : source.readController s.binding.controller = .ok controller)
    (timestamp : Binary64) (sink : Sink) :
    let text := s.output source timestamp
    let after := s.tick source timestamp sink
    after.1.written = sink.written ++ text.take (sink.fitting text.length) ∧
      (after.2 = some (.write .full) ↔ sink.fitting text.length < text.length) ∧
      (sink.fitting text.length < text.length → after.1.flushes = sink.flushes) ∧
      (¬sink.fitting text.length < text.length → ∃ whole : Sink,
        whole.written = sink.written ++ text ∧ whole.flushes = sink.flushes ∧
          after = (whole.flush.1, whole.flush.2.map .flush)) := by
  intro text after
  have htick : after = _ := tick_of_ok hread
  rw [Sink.write_eq] at htick
  by_cases hcut : sink.fitting text.length < text.length
  · rw [if_pos hcut] at htick
    rw [htick]
    exact ⟨rfl, ⟨fun _ => hcut, fun _ => rfl⟩, fun _ => rfl, fun h => absurd hcut h⟩
  · rw [if_neg hcut] at htick
    have hwritten : after.1.written = sink.written ++ text ∧ after.2 ≠ some (.write .full) := by
      rw [htick]
      unfold Sink.flush
      simp only
      cases sink.flushes with
      | none => exact ⟨rfl, nofun⟩
      | some flushes => cases flushes <;> exact ⟨rfl, nofun⟩
    refine ⟨?_, ⟨fun h => absurd h hwritten.2, fun h => absurd h hcut⟩, fun h => absurd h hcut,
      fun _ => ⟨_, ?_, ?_, htick⟩⟩
    · rw [hwritten.1, List.take_of_length_le (Nat.le_of_not_lt hcut)]
    · rfl
    · rfl

/-- A sink that can be flushed a number of times ends a run at the latest with the tick after that
many. -/
theorem run_cuts_output_of_flushes
    (hread : source.readController s.binding.controller = .ok controller) (times : Nat → Binary64)
    {flushes : Nat} (hflushes : sink.flushes = some flushes) {rounds : Nat}
    (hrounds : flushes < rounds) :
    let text := s.outputs source ((List.range (flushes + 1)).map times)
    let ended := s.run source ((List.range rounds).map times) sink
    ended.1.written = sink.written ++ text.take (sink.fitting text.length) ∧
      ended.2 = some (if sink.fitting text.length < text.length then .write .full
        else .flush .stopped) := by
  intro text ended
  obtain ⟨later, hlater⟩ := exists_map_range_eq_append times hrounds
  have hlast := run_of_last_flush hread ((List.range flushes).map times) (times flushes) later
    (hflushes.trans (congrArg some (by rw [List.length_map, List.length_range])))
  have htext : text =
      s.outputs source ((List.range flushes).map times ++ [times flushes]) := by
    rw [← List.map_singleton, ← List.map_append, ← List.range_succ]
  rw [← htext, ← hlater, Sink.written_write, Sink.refused_write] at hlast
  refine ⟨hlast.1, hlast.2.trans (congrArg some ?_)⟩
  split <;> rfl

/-- Each tick writes something, so a sink with room for a number of bytes ends a run at the latest
with the tick after that many. -/
theorem run_cuts_output_of_room
    (hread : source.readController s.binding.controller = .ok controller) (times : Nat → Binary64)
    {room : Nat} (hroom : sink.room = some room) (hflushes : sink.flushes = none) {rounds : Nat}
    (hrounds : room < rounds) :
    let text := s.outputs source ((List.range rounds).map times)
    let ended := s.run source ((List.range rounds).map times) sink
    ended.1.written = sink.written ++ text.take room ∧ ended.2 = some (.write .full) := by
  intro text ended
  have hlength : rounds ≤ text.length := by
    have hle := length_le_length_outputs hread (s := s) ((List.range rounds).map times)
    rwa [List.length_map, List.length_range] at hle
  have hfitting : sink.fitting text.length = room := by
    rw [Sink.fitting, hroom]
    exact Nat.min_eq_left (Nat.le_of_lt (Nat.lt_of_lt_of_le hrounds hlength))
  have hrun := run_of_flushes hread (s := s) ((List.range rounds).map times) sink
    fun n hn => by rw [hflushes] at hn; cases hn
  have hwrite : sink.write text =
      ({ sink with written := sink.written ++ text.take room, room := some 0 }, some .full) := by
    rw [Sink.write_eq, hfitting, if_pos (Nat.lt_of_lt_of_le hrounds hlength)]
  simp only [show s.outputs source ((List.range rounds).map times) = text from rfl, hwrite] at hrun
  obtain ⟨flushes', hended⟩ := hrun
  have hended : ended = _ := hended
  rw [hended]
  exact ⟨rfl, rfl⟩

/-- **Output is cut, not garbled.** A tick that cannot read the controller leaves the sink alone.
Otherwise it writes as much of the text of its sample as the sink has room for. If that is not all
of it, writing fails, and the sink is not flushed; if it is, the sink is flushed once, and the tick
fails as that does. A run of ticks ends when the sink can no longer be flushed or is full, and has
then written as much as the sink has room for of the texts of its ticks, up to the one after which
flushing fails. -/
theorem output_is_cut (s : Sampler Member Controller) (source : Source Member Node Controller) :
    (∀ timestamp sink cause, source.readController s.binding.controller = .error cause →
      s.tick source timestamp sink = (sink, some (.controller s.settings.device cause))) ∧
    ∀ controller, source.readController s.binding.controller = .ok controller →
      (∀ timestamp sink,
        let text := s.output source timestamp
        let after := s.tick source timestamp sink
        (∃ sample, s.sample source timestamp = .ok sample ∧
          text = Text.encode (sample.text s.settings.format)) ∧
        after.1.written = sink.written ++ text.take (sink.fitting text.length) ∧
        (after.2 = some (.write .full) ↔ sink.fitting text.length < text.length) ∧
        (sink.fitting text.length < text.length → after.1.flushes = sink.flushes) ∧
        (¬sink.fitting text.length < text.length → ∃ whole : Sink,
          whole.written = sink.written ++ text ∧ whole.flushes = sink.flushes ∧
            after = (whole.flush.1, whole.flush.2.map .flush))) ∧
      (∀ (times : Nat → Binary64) (sink : Sink) (flushes : Nat), sink.flushes = some flushes →
        let text := s.outputs source ((List.range (flushes + 1)).map times)
        ∀ rounds, flushes < rounds →
          let ended := s.run source ((List.range rounds).map times) sink
          ended.1.written = sink.written ++ text.take (sink.fitting text.length) ∧
          ended.2 =
            some (if sink.fitting text.length < text.length then .write .full
              else .flush .stopped)) ∧
      ∀ (times : Nat → Binary64) (sink : Sink) (room : Nat), sink.room = some room →
        sink.flushes = none → ∀ rounds, room < rounds →
          let text := s.outputs source ((List.range rounds).map times)
          let ended := s.run source ((List.range rounds).map times) sink
          ended.1.written = sink.written ++ text.take room ∧ ended.2 = some (.write .full) := by
  refine ⟨fun timestamp sink cause hread => tick_of_error hread,
    fun controller hread => ⟨?_, ?_, ?_⟩⟩
  · exact fun timestamp sink =>
      ⟨exists_sample_output hread timestamp, tick_cuts_output hread timestamp sink⟩
  · exact fun times sink flushes hflushes rounds hrounds =>
      run_cuts_output_of_flushes hread times hflushes hrounds
  · exact fun times sink room hroom hflushes rounds hrounds =>
      run_cuts_output_of_room hread times hroom hflushes hrounds

theorem output_is_cut_activeBelow :
    let source := activeBelow.source
    let settings : Settings := ⟨"sda", ⟨none⟩, .ofParts 1 0, .json, false⟩
    let s : Sampler Nat Queue := ⟨settings, 0, 7, 7⟩
    let unread : Sampler Nat Queue := ⟨settings, 0, 7, 9⟩
    let times := List.replicate 5 Binary64.zero
    unread.tick source .zero {} = ({}, some (.controller "sda" (.noController "queue 9"))) ∧
      (s.run source times { room := some 2, flushes := some 2 }).2 = some (.write .full) ∧
      (s.run source times { flushes := some 2 }).2 = some (.flush .stopped) ∧
      (s.run source times { room := some 4 }).2 = some (.write .full) := by
  intro source settings s unread times
  have hread : source.readController s.binding.controller = .ok {} := rfl
  have hunread : source.readController unread.binding.controller =
      .error (.noController "queue 9") := by decide
  obtain ⟨-, hrun, hfull⟩ := (output_is_cut s source).2 {} hread
  refine ⟨(output_is_cut unread source).1 .zero {} _ hunread, ?_, ?_, ?_⟩
  · have hended :=
      (hrun (fun _ => .zero) { room := some 2, flushes := some 2 } 2 rfl 5 (by decide)).2
    have hlength := length_le_length_outputs hread (s := s) (List.replicate 3 .zero)
    refine hended.trans (congrArg some (if_pos ?_))
    exact Nat.lt_of_le_of_lt (Nat.min_le_left 2 _) hlength
  · refine (hrun (fun _ => .zero) { flushes := some 2 } 2 rfl 5 (by decide)).2.trans ?_
    exact congrArg some (if_neg (Nat.lt_irrefl _))
  · exact (hfull (fun _ => .zero) { room := some 4 } 4 rfl rfl 5 (by decide)).2

end Sampler

end Iocost
