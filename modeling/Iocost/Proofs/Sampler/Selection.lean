import Iocost.Memory.Built
import Iocost.Proofs.Walk.Simulation
import Iocost.Sampler

/-!
# The rows that settings select

The state of a member decides about its own entry only, so a walk without dying members is the walk
with them, their entries left out (`Hierarchy.walk_eq_filter`). All settings therefore select from
one list of entries with their counters (`Source.readable`), and a sample has the rows of those that
its settings select, in the order of that list.
-/

namespace Iocost

namespace Hierarchy

variable {Member Node : Type} {h : Hierarchy Member Node} {queue : Queue} {includeDying : Bool}

theorem ownEntry_eq_filter (member : Member) (path : String) :
    h.ownEntry queue includeDying member path =
      (h.ownEntry queue true member path).filter fun entry =>
        h.isVisible includeDying entry.member := by
  have hall : h.isVisible true member = true := rfl
  rw [ownEntry_eq, ownEntry_eq, if_pos hall]
  cases (h.node? member queue).toOption.join with
  | none => exact ite_self _
  | some node =>
    rw [Option.map_some, Option.toList_some, List.filter_singleton, Bool.cond_eq_ite]

theorem walk_eq_filter {root : Member} (ends : Acc h.IsChild root) :
    h.walk root ends queue includeDying =
      (h.walk root ends queue true).filter fun entry =>
        h.isVisible includeDying entry.member := by
  rw [walk_eq_listing, walk_eq_listing, listing_eq_flatMap_preorder, listing_eq_flatMap_preorder,
    List.filter_flatMap]
  exact List.flatMap_congr fun m _ => ownEntry_eq_filter m.1 m.2

theorem isVisible_iff_ok {member : Member} :
    h.isVisible includeDying member = true ↔
      includeDying = true ∨ h.isOnline member = .ok true := by
  rw [isVisible, Bool.or_eq_true]
  refine or_congr_right ?_
  cases h.isOnline member with
  | error f => simp
  | ok online => simp

end Hierarchy

variable {Member Node Controller : Type}

namespace Source

variable (source : Source Member Node Controller)

/-- The entries for a device, those of dying members among them, whose nodes can be read, each with
the counters of its node. -/
def readable (binding : Binding Member Controller) : List (Entry Member Node × NodeCounters) :=
  (source.walk binding.root binding.queue true).filterMap fun entry =>
    (source.readNode entry.node).toOption.map fun counters => (entry, counters)

/-- The row of an entry whose node has these counters, under a controller with those. -/
def row (controller : ControllerCounters) (read : Entry Member Node × NodeCounters) : Row :=
  ⟨read.1.path, .derive read.2 controller source.constants⟩

end Source

/-- Settings ask for an entry whose node has these counters: by the state of its member, by its path
and, where they have no patterns, by whether the node is active. -/
def Settings.Selects (settings : Settings) (source : Source Member Node Controller)
    (read : Entry Member Node × NodeCounters) : Prop :=
  (settings.includeDying = true ∨ source.isOnline read.1.member = .ok true) ∧
    settings.filter.accepts read.1.path = true ∧
    (settings.filter.isEmpty = false ∨ read.2.isActive = true)

instance (settings : Settings) (source : Source Member Node Controller) :
    DecidablePred (settings.Selects source) := fun read =>
  inferInstanceAs (Decidable ((_ ∨ source.isOnline read.1.member = .ok true) ∧ _ ∧ (_ ∨ _)))

namespace Sampler

variable {s : Sampler Member Controller} {source : Source Member Node Controller}

theorem row?_of_readNode {controller : ControllerCounters} {entry : Entry Member Node}
    {counters : NodeCounters} (hread : source.readNode entry.node = .ok counters) :
    s.row? source controller entry =
      if s.settings.filter.accepts entry.path = true ∧
          (s.settings.filter.isEmpty = false ∨ counters.isActive = true) then
        some (source.row controller (entry, counters))
      else none := by
  have hactive : (NodeStats.derive counters controller source.constants).isActive =
      counters.isActive := rfl
  have hwanted : (s.settings.filter.isEmpty && !counters.isActive) = true ↔
      ¬(s.settings.filter.isEmpty = false ∨ counters.isActive = true) := by
    simp
  simp only [row?, hread, hactive, hwanted, ite_and, ite_not]
  rfl

/-- An entry is shown if its member is looked at and its row is not left out. -/
theorem row?_of_isVisible (controller : ControllerCounters) (entry : Entry Member Node) :
    (if source.isVisible s.settings.includeDying entry.member then s.row? source controller entry
      else none) =
      (((source.readNode entry.node).toOption.map fun counters => (entry, counters)).filter
        fun read => s.settings.Selects source read).map (source.row controller) := by
  cases hread : source.readNode entry.node with
  | error f => simp [row?, hread, Except.toOption]
  | ok counters =>
    have hselects : s.settings.Selects source (entry, counters) ↔
        source.isVisible s.settings.includeDying entry.member = true ∧
          (s.settings.filter.accepts entry.path = true ∧
            (s.settings.filter.isEmpty = false ∨ counters.isActive = true)) :=
      and_congr_left' Hierarchy.isVisible_iff_ok.symm
    rw [row?_of_readNode hread, ← ite_and, Except.toOption, Option.map_some, Option.filter_some]
    by_cases h : s.settings.Selects source (entry, counters)
    · rw [if_pos (hselects.mp h), if_pos (decide_eq_true h), Option.map_some]
    · rw [if_neg fun hd => h (hselects.mpr hd), if_neg fun hd => h (of_decide_eq_true hd),
        Option.map_none]

theorem filterMap_row? (controller : ControllerCounters) :
    (s.entries source).filterMap (s.row? source controller) =
      ((source.readable s.binding).filter fun read => s.settings.Selects source read).map
        (source.row controller) := by
  rw [entries, Source.walk, Hierarchy.walk_eq_filter, List.filterMap_filter, Source.readable,
    List.filter_filterMap, List.map_filterMap]
  exact List.filterMap_congr fun entry _ => row?_of_isVisible controller entry

/-- **What a sample shows.** A sample fails exactly if its controller cannot be read. Otherwise it
has a row for each readable entry that the settings select, in the order of a walk that leaves out
no dying member; the settings decide about nothing else. -/
theorem sample_selects_rows (source : Source Member Node Controller)
    (binding : Binding Member Controller) :
    (∀ settings timestamp,
      (∃ e, (⟨settings, binding⟩ : Sampler Member Controller).sample source timestamp = .error e) ↔
        ∃ f, source.readController binding.controller = .error f) ∧
    ∀ controller, source.readController binding.controller = .ok controller →
      ∀ settings timestamp,
        (⟨settings, binding⟩ : Sampler Member Controller).sample source timestamp = .ok
          { device := settings.device
            timestamp := timestamp
            controller := .derive controller source.constants
            rows := ((source.readable binding).filter fun read =>
              settings.Selects source read).map (source.row controller) } := by
  constructor
  · intro settings timestamp
    unfold sample
    cases source.readController binding.controller with
    | error f => exact ⟨fun _ => ⟨f, rfl⟩, fun _ => ⟨_, rfl⟩⟩
    | ok controller => exact ⟨nofun, nofun⟩
  · intro controller hread settings timestamp
    simp only [sample, hread, filterMap_row?]

/-- An idle root, an active member `a` that is offline, and an active one `b` below it. -/
def activeBelow : MemoryHierarchy :=
  let members := (MemoryHierarchy.new.addMember 0 "a" Nat.one_pos).addMember 1 "b" Nat.one_lt_two
  let nodes := ((members.setNode 0 7 {}).setNode 1 7 { isActive := true }).setNode 2 7
    { isActive := true }
  (nodes.setOnline 1 false).addDevice "sda" 7 (some {})

theorem sample_selects_rows_activeBelow :
    let source := activeBelow.source
    let settings : Settings := ⟨"sda", ⟨none⟩, .ofParts 1 0, .table, false⟩
    source.readController 7 = .ok {} ∧ ∃ sample,
      (⟨settings, ⟨0, 7, 7⟩⟩ : Sampler Nat Queue).sample source .zero = .ok sample ∧
      (∃ row ∈ sample.rows, row.path = "a/b") ∧ ∀ row ∈ sample.rows, row.stats.isActive = true := by
  intro source settings
  have hread : source.readController 7 = .ok {} := rfl
  refine ⟨hread, _, (sample_selects_rows source ⟨0, 7, 7⟩).2 {} hread settings .zero, ?_, ?_⟩
  · have hentry : (⟨2, "a/b", (2, 7)⟩ : Entry Nat (Nat × Queue)) ∈ source.walk 0 7 true := by
      rw [Source.walk, Hierarchy.walk_eq_listing, Hierarchy.mem_listing]
      have h1 : 1 ∈ source.childList 0 := by decide
      have h2 : 2 ∈ source.childList 1 := by decide
      have hpath : pathBelow (pathBelow (pathBelow "" "") "a") "b" = "a/b" := by decide
      exact ⟨2, "a/b", hpath ▸ .child rfl h1 (.child rfl h2 (.here rfl)),
        List.mem_singleton_self _⟩
    refine ⟨_, List.mem_map_of_mem (List.mem_filter.mpr
      ⟨List.mem_filterMap.mpr ⟨_, hentry, rfl⟩, ?_⟩), rfl⟩
    exact decide_eq_true ⟨.inr rfl, rfl, .inr rfl⟩
  · intro row hrow
    obtain ⟨read, hread, rfl⟩ := List.mem_map.mp hrow
    obtain ⟨-, -, hactive⟩ := of_decide_eq_true (List.mem_filter.mp hread).2
    exact hactive.resolve_left Bool.noConfusion

end Sampler

end Iocost
