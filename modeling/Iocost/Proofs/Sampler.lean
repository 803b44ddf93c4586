import Iocost.Proofs.Walk.Simulation
import Iocost.Sampler

/-!
# Samples of sources that answer alike

What tells a node from others differs from source to source. All else in a sample is the same for
two sources whose walks find the same paths and whose nodes have the same counters
(`Sampler.sample_congr`).
-/

namespace Iocost

/-- The counters without what tells the node from others. -/
def NodeCounters.withoutId (n : NodeCounters) : NodeCounters := { n with id := 0 }

/-- The statistics without what tells the node from others. -/
def NodeStats.withoutId (s : NodeStats) : NodeStats := { s with id := 0 }

def Row.withoutId (r : Row) : Row := { r with stats := r.stats.withoutId }

/-- A sample without what tells its nodes from others. -/
def Sample.withoutIds (s : Sample) : Sample := { s with rows := s.rows.map Row.withoutId }

theorem NodeStats.withoutId_derive (raw : NodeCounters) (controller : ControllerCounters)
    (constants : Constants) :
    (derive raw controller constants).withoutId = derive raw.withoutId controller constants := by
  simp only [derive, inflightOf, withoutId, NodeCounters.withoutId]

/-- What a source shows at a time of the device of some settings. -/
def Source.sampleAt {Member Node Controller : Type} (source : Source Member Node Controller)
    (settings : Settings) (timestamp : Binary64) : Except Failure (Except TickError Sample) :=
  (Sampler.ofSettings source settings).map fun s => s.sample source timestamp

namespace Sampler

variable {Member Node Controller Member' Node' Controller' : Type}
  {s : Sampler Member Controller} {s' : Sampler Member' Controller'}
  {source : Source Member Node Controller} {source' : Source Member' Node' Controller'}

/-- Whether a row is shown does not depend on what tells its node from others. -/
theorem map_withoutId_row? (controller : ControllerCounters) (entry : Entry Member Node) :
    (s.row? source controller entry).map Row.withoutId =
      if s.settings.filter.accepts entry.path then
        ((source.readNode entry.node).toOption.map NodeCounters.withoutId).bind fun counters =>
          if s.settings.filter.isEmpty && !counters.isActive then none
          else some ⟨entry.path, .derive counters controller source.constants⟩
      else none := by
  unfold row?
  split
  case isFalse => rfl
  case isTrue =>
    cases source.readNode entry.node with
    | error f => rfl
    | ok counters =>
      have hactive : (NodeStats.derive counters controller source.constants).isActive =
          counters.withoutId.isActive := by
        simp only [NodeStats.derive, NodeCounters.withoutId]
      simp only [Except.toOption, Option.map_some, Option.bind_some, hactive]
      split
      case isTrue => rfl
      case isFalse =>
        rw [Option.map_some, Row.withoutId, NodeStats.withoutId_derive]

theorem sample_congr {S : Node → Node' → Prop} {controller : ControllerCounters}
    (hsettings : s.settings = s'.settings) (hconstants : source.constants = source'.constants)
    (hread : source.readController s.binding.controller = .ok controller)
    (hread' : source'.readController s'.binding.controller = .ok controller)
    (hentries : List.Forall₂ (Hierarchy.SameEntry S) (s.entries source) (s'.entries source'))
    (hnodes : ∀ node node', S node node' →
      (source.readNode node).toOption.map NodeCounters.withoutId =
        (source'.readNode node').toOption.map NodeCounters.withoutId)
    (timestamp : Binary64) :
    (s.sample source timestamp).map Sample.withoutIds =
      (s'.sample source' timestamp).map Sample.withoutIds := by
  have hrows : ((s.entries source).filterMap (s.row? source controller)).map Row.withoutId =
      ((s'.entries source').filterMap (s'.row? source' controller)).map Row.withoutId := by
    rw [List.map_filterMap, List.map_filterMap]
    generalize s.entries source = found, s'.entries source' = found' at hentries
    induction hentries with
    | nil => rfl
    | @cons e e' _ _ he _ ih =>
      have hrow : (s.row? source controller e).map Row.withoutId =
          (s'.row? source' controller e').map Row.withoutId := by
        rw [map_withoutId_row?, map_withoutId_row?, hsettings, hconstants, he.1,
          hnodes _ _ he.2]
      rw [List.filterMap_cons, List.filterMap_cons, hrow, ih]
  simp only [sample, hread, hread', Except.map, Sample.withoutIds, hrows, hsettings, hconstants]

end Sampler

end Iocost
