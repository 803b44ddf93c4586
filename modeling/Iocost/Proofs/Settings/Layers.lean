import Iocost.Proofs.Command.Stages
import Mathlib.Data.List.Basic

/-!
# Options in layers

To put options on top of others is associative (`Options.merge_assoc`), and options that say nothing
change nothing. So layers come to the same whichever of them are put together first
(`Layering.merged_eq_foldl`). What they come to is said by the last layer that says something, one
option at a time; but a switch is on if any layer switches it on (`Layering.settings_of_layers`).
The layers of a request are its settings file and, on top of it, its command line
(`Request.settings_of_start`).
-/

namespace Iocost

namespace Options

theorem merge_assoc (a b c : Options) : (a.merge b).merge c = a.merge (b.merge c) := by
  cases hb : b.patterns.isEmpty <;> cases hc : c.patterns.isEmpty <;>
    simp [merge, hb, hc, Bool.or_assoc, Option.or_assoc]

theorem merge_empty (o : Options) : o.merge {} = o := by simp [merge]

theorem empty_merge (o : Options) : ({} : Options).merge o = o := by
  obtain ⟨patterns, interval, json, includeDying, snapshotDir⟩ := o
  cases patterns <;> simp [merge]

instance : Std.Associative merge := ⟨merge_assoc⟩

/-- The patterns, if there are any. -/
def patterns? (o : Options) : Option (List String) :=
  if o.patterns = [] then none else some o.patterns

theorem patterns_eq (o : Options) : o.patterns = o.patterns?.getD [] := by
  unfold patterns?
  split
  case isTrue h => exact h
  case isFalse => rfl

theorem patterns?_merge (o above : Options) :
    (o.merge above).patterns? = above.patterns?.or o.patterns? := by
  by_cases h : above.patterns = []
  · simp [patterns?, merge, h]
  · simp [patterns?, merge, h]

theorem interval_merge (o above : Options) :
    (o.merge above).interval = above.interval.or o.interval := Option.orElse_eq_or

theorem snapshotDir_merge (o above : Options) :
    (o.merge above).snapshotDir = above.snapshotDir.or o.snapshotDir := Option.orElse_eq_or

end Options

/-! ## What the last layer says -/

section LastSets

variable {α : Type} {option? : Options → Option α} {layers : List Options} {a : α}

/-- The last of the layers that set an option sets it to that. -/
def LastSets (option? : Options → Option α) (layers : List Options) (a : α) : Prop :=
  ∃ below layer above, layers = below ++ layer :: above ∧ option? layer = some a ∧
    ∀ later ∈ above, option? later = none

/-- The last of the layers that set an option sets it to that, or none of them sets it and that is
the default. -/
def LastSetsOr (option? : Options → Option α) (layers : List Options) (default a : α) : Prop :=
  LastSets option? layers a ∨ (∀ layer ∈ layers, option? layer = none) ∧ a = default

theorem lastSets_iff :
    LastSets option? layers a ↔ (layers.filterMap option?).getLast? = some a := by
  rw [List.getLast?_eq_some_iff]
  constructor
  · rintro ⟨below, layer, above, rfl, hset, hlater⟩
    refine ⟨below.filterMap option?, ?_⟩
    rw [List.filterMap_append, List.filterMap_cons_some hset, List.filterMap_eq_nil_iff.mpr hlater]
  · rintro ⟨values, hvalues⟩
    obtain ⟨below, rest, rfl, -, hrest⟩ := List.filterMap_eq_append_iff.mp hvalues
    obtain ⟨silent, layer, above, rfl, -, hset, hlater⟩ := List.filterMap_eq_cons_iff.mp hrest
    refine ⟨below ++ silent, layer, above, ?_, hset, List.filterMap_eq_nil_iff.mp hlater⟩
    rw [List.append_assoc]

theorem lastSetsOr_getD (default : α) :
    LastSetsOr option? layers default ((layers.filterMap option?).getLast?.getD default) := by
  cases hlast : (layers.filterMap option?).getLast? with
  | none =>
    have hsilent := List.filterMap_eq_nil_iff.mp (List.getLast?_eq_none_iff.mp hlast)
    exact .inr ⟨hsilent, rfl⟩
  | some a => exact .inl (lastSets_iff.mpr hlast)

end LastSets

/-! ## Layers put together -/

/-- Layers of options, each on top of those before it, and which of them are put together first. -/
inductive Layering where
  | empty
  | layer (options : Options)
  | join (below above : Layering)

namespace Layering

/-- The layers, the last one on top. -/
def layers : Layering → List Options
  | empty => []
  | layer o => [o]
  | join below above => below.layers ++ above.layers

/-- What the layers come to. -/
def merged : Layering → Options
  | empty => {}
  | layer o => o
  | join below above => below.merged.merge above.merged

/-- What layers come to does not depend on which of them are put together first. -/
theorem merged_eq_foldl (l : Layering) : l.merged = l.layers.foldl Options.merge {} := by
  induction l with
  | empty => rfl
  | layer o => exact o.empty_merge.symm
  | join below above hbelow habove =>
    calc below.merged.merge above.merged
      _ = below.merged.merge (above.layers.foldl Options.merge {}) := by rw [habove]
      _ = above.layers.foldl Options.merge (below.merged.merge {}) := List.foldl_assoc.symm
      _ = above.layers.foldl Options.merge (below.layers.foldl Options.merge {}) := by
        rw [Options.merge_empty, hbelow]
      _ = (below.layers ++ above.layers).foldl Options.merge {} := List.foldl_append.symm

/-- An option of which the upper layer has the last word is that of the last layer that sets it. -/
theorem option?_merged {α : Type} {option? : Options → Option α} (hempty : option? {} = none)
    (hmerge : ∀ o above, option? (o.merge above) = (option? above).or (option? o)) (l : Layering) :
    option? l.merged = (l.layers.filterMap option?).getLast? := by
  induction l with
  | empty => exact hempty
  | layer o =>
    rw [merged, layers]
    cases h : option? o with
    | none => rw [List.filterMap_cons_none h, List.filterMap_nil, List.getLast?_nil]
    | some a => rw [List.filterMap_cons_some h, List.filterMap_nil, List.getLast?_singleton]
  | join below above hbelow habove =>
    rw [merged, hmerge, hbelow, habove, layers, List.filterMap_append, List.getLast?_append]

/-- A switch that either layer may switch on is on if some layer switches it on. -/
theorem switch_merged {switch : Options → Bool} (hempty : switch {} = false)
    (hmerge : ∀ o above, switch (o.merge above) = (switch o || switch above)) (l : Layering) :
    switch l.merged = l.layers.any switch := by
  induction l with
  | empty => exact hempty
  | layer o => exact (Bool.or_false _).symm
  | join below above hbelow habove => rw [merged, hmerge, hbelow, habove, layers, List.any_append]

theorem patterns_merged (l : Layering) :
    l.merged.patterns = (l.layers.filterMap Options.patterns?).getLast?.getD [] := by
  rw [Options.patterns_eq, option?_merged rfl Options.patterns?_merge]

theorem interval_merged (l : Layering) :
    l.merged.interval = (l.layers.filterMap Options.interval).getLast? :=
  option?_merged rfl Options.interval_merge l

theorem snapshotDir_merged (l : Layering) :
    l.merged.snapshotDir = (l.layers.filterMap Options.snapshotDir).getLast? :=
  option?_merged rfl Options.snapshotDir_merge l

theorem json_merged (l : Layering) : l.merged.json = l.layers.any Options.json :=
  switch_merged rfl (fun _ _ => rfl) l

theorem includeDying_merged (l : Layering) :
    l.merged.includeDying = l.layers.any Options.includeDying :=
  switch_merged rfl (fun _ _ => rfl) l

/-- **Layers of options are unambiguous.** To put options on top of others is associative, and
options that say nothing change nothing at either end. So layers come to the same whichever of them
are put together first. The directory of the snapshot, the patterns and the time between two samples
are those of the last layer that has any, and a switch is on if some layer switches it on. -/
theorem settings_of_layers :
    (∀ a b c : Options, (a.merge b).merge c = a.merge (b.merge c)) ∧
    (∀ o : Options, ({} : Options).merge o = o ∧ o.merge {} = o) ∧
    ∀ l : Layering,
      l.merged = l.layers.foldl Options.merge {} ∧
      (∀ dir, l.merged.snapshotDir = some dir ↔ LastSets Options.snapshotDir l.layers dir) ∧
      (l.merged.snapshotDir = none ↔ ∀ layer ∈ l.layers, layer.snapshotDir = none) ∧
      ∃ patterns interval,
        LastSetsOr Options.patterns? l.layers [] patterns ∧
        LastSetsOr Options.interval l.layers Options.defaultInterval interval ∧
        ∀ engine device, l.merged.settings engine device =
          (NameFilter.ofPatterns engine patterns).map fun filter =>
            { device := device
              filter := filter
              interval := interval
              format := if l.layers.any Options.json then .json else .table
              includeDying := l.layers.any Options.includeDying } := by
  refine ⟨Options.merge_assoc, fun o => ⟨o.empty_merge, o.merge_empty⟩, fun l => ?_⟩
  refine ⟨l.merged_eq_foldl, fun dir => ?_, ?_, _, _, lastSetsOr_getD [],
    lastSetsOr_getD Options.defaultInterval, fun engine device => ?_⟩
  · rw [snapshotDir_merged, lastSets_iff]
  · rw [snapshotDir_merged, List.getLast?_eq_none_iff, List.filterMap_eq_nil_iff]
  · rw [Options.settings, patterns_merged, interval_merged, json_merged, includeDying_merged]

end Layering

namespace Request

/-- The settings file of a request, and its command line on top. -/
def layering (r : Request) (tools : Tools) (files : FileTree) : Layering :=
  .join (.layer (r.fileOptions tools files)) (.layer r.options)

/-- A monitor goes by the layers of its request. -/
theorem settings_of_start {r : Request} {tools : Tools} {files : FileTree} {m : Monitor}
    (h : r.start tools files = .ok m) :
    (r.layering tools files).merged.settings tools.engine r.device = .ok m.sampler.settings ∧
      ∃ dir, (r.layering tools files).merged.snapshotDir = some dir ∧
        Snapshot.ofDirectory files dir = .ok m.snapshot := by
  obtain ⟨options, hoptions, h⟩ := Except.exists_of_bind_eq_ok h
  obtain rfl : options = (r.layering tools files).merged := by
    rw [allOptions_eq r none] at hoptions
    split at hoptions
    case h_1 => cases hoptions
    case h_2 => exact (Except.ok.inj hoptions).symm
  split at h
  case h_2 => cases h
  case h_1 dir hdir =>
    obtain ⟨settings, hsettings, h⟩ := Except.exists_of_bind_eq_ok h
    obtain ⟨s, hs, h⟩ := Except.exists_of_bind_eq_ok h
    obtain ⟨sampler, hsampler, h⟩ := Except.exists_of_bind_eq_ok h
    cases h
    obtain ⟨binding, -, rfl⟩ := Except.exists_of_map_eq_ok (Except.eq_ok_of_mapError_eq_ok hsampler)
    exact ⟨Except.eq_ok_of_mapError_eq_ok hsettings, dir, hdir, Except.eq_ok_of_mapError_eq_ok hs⟩

end Request

end Iocost
