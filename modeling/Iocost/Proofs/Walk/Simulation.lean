import Iocost.Proofs.Outcome
import Iocost.Proofs.Walk.Listing
import Mathlib.Data.List.Forall2

/-!
# Hierarchies that answer alike

Two hierarchies whose members are related answer alike if related members have equal names and
states, related nodes, and children that are related one by one. Walks from related members then
find the same paths with related nodes (`Simulates.forall₂_walk`). Failures may differ: a walk does
not tell one from another.
-/

namespace Iocost.Hierarchy

variable {Member Node Member' Node' : Type}

/-- Related members of two hierarchies answer alike, as far as a walk for a queue asks. -/
structure Simulates (h : Hierarchy Member Node) (h' : Hierarchy Member' Node') (queue : Queue)
    (R : Member → Member' → Prop) (S : Node → Node' → Prop) : Prop where
  name {m : Member} {m' : Member'} : R m m' → (h.name m).toOption = (h'.name m').toOption
  isOnline {m : Member} {m' : Member'} :
    R m m' → (h.isOnline m).toOption = (h'.isOnline m').toOption
  node? {m : Member} {m' : Member'} :
    R m m' → Option.Rel S (h.node? m queue).toOption.join (h'.node? m' queue).toOption.join
  children {m : Member} {m' : Member'} : R m m' → List.Forall₂ R (h.childList m) (h'.childList m')

/-- Entries with the same path and related nodes. -/
def SameEntry (S : Node → Node' → Prop) (e : Entry Member Node) (e' : Entry Member' Node') : Prop :=
  e.path = e'.path ∧ S e.node e'.node

section

variable {h : Hierarchy Member Node} {queue : Queue} {includeDying : Bool}

theorem isVisible_eq (member : Member) :
    h.isVisible includeDying member =
      (includeDying || (h.isOnline member).toOption.getD false) := by
  rw [isVisible]
  cases h.isOnline member <;> rfl

theorem ownEntry_eq (member : Member) (path : String) :
    h.ownEntry queue includeDying member path =
      if h.isVisible includeDying member then
        ((h.node? member queue).toOption.join.map fun node =>
          ⟨member, shownPath path, node⟩).toList
      else [] := by
  unfold ownEntry
  split
  case isFalse => rfl
  case isTrue =>
    cases h.node? member queue with
    | error f => rfl
    | ok node? => cases node? <;> rfl

theorem eq_of_mem_ownEntry {member : Member} {path : String} {entry : Entry Member Node}
    (hentry : entry ∈ h.ownEntry queue includeDying member path) :
    ∃ node, h.node? member queue = .ok (some node) ∧ entry = ⟨member, shownPath path, node⟩ := by
  rw [ownEntry_eq] at hentry
  split at hentry
  case isFalse => cases hentry
  case isTrue =>
    obtain ⟨node, hnode, rfl⟩ := Option.map_eq_some_iff.mp (Option.mem_toList.mp hentry)
    exact ⟨node, Except.toOption_eq_some_iff.mp (Option.join_eq_some_iff.mp hnode), rfl⟩

/-- The listing of a member as far as its name can be read. -/
theorem listing_eq (p : h.Pending) :
    listing queue includeDying p = (h.name p.member).toOption.elim [] fun name =>
      h.ownEntry queue includeDying p.member (pathBelow p.parent name) ++
        (p.below (pathBelow p.parent name)).flatMap (listing queue includeDying) := by
  cases hname : h.name p.member with
  | error f => exact listing_of_name_error hname
  | ok name => exact listing_of_name_ok hname

end

namespace Simulates

variable {h : Hierarchy Member Node} {h' : Hierarchy Member' Node'} {queue : Queue}
  {includeDying : Bool} {R : Member → Member' → Prop} {S : Node → Node' → Prop}

theorem forall₂_ownEntry (sim : Simulates h h' queue R S) {m : Member} {m' : Member'} (hm : R m m')
    (path : String) :
    List.Forall₂ (SameEntry S) (h.ownEntry queue includeDying m path)
      (h'.ownEntry queue includeDying m' path) := by
  have hvisible : h.isVisible includeDying m = h'.isVisible includeDying m' := by
    rw [isVisible_eq, isVisible_eq, sim.isOnline hm]
  rw [ownEntry_eq, ownEntry_eq, ← hvisible]
  split
  case isFalse => exact .nil
  case isTrue =>
    have hnode := sim.node? hm
    generalize (h.node? m queue).toOption.join = node?,
      (h'.node? m' queue).toOption.join = node'? at hnode
    cases hnode with
    | none => exact .nil
    | some hnode => exact .cons ⟨rfl, hnode⟩ .nil

theorem forall₂_below (sim : Simulates h h' queue R S) {p : h.Pending} {p' : h'.Pending}
    (hp : R p.member p'.member) (path : String) :
    List.Forall₂ (fun c c' => R c.member c'.member ∧ c.parent = c'.parent) (p.below path)
      (p'.below path) := by
  let Q (x : Member × String) (x' : Member' × String) : Prop := R x.1 x'.1 ∧ x.2 = x'.2
  have hplain : List.Forall₂ Q ((p.below path).map Pending.plain)
      ((p'.below path).map Pending.plain) := by
    rw [p.map_plain_below, p'.map_plain_below, List.forall₂_map_left_iff,
      List.forall₂_map_right_iff]
    exact (sim.children hp).imp fun _ _ hm => ⟨hm, rfl⟩
  rwa [List.forall₂_map_left_iff, List.forall₂_map_right_iff] at hplain

theorem forall₂_listing (sim : Simulates h h' queue R S) (p : h.Pending) (p' : h'.Pending)
    (hmember : R p.member p'.member) (hparent : p.parent = p'.parent) :
    List.Forall₂ (SameEntry S) (listing queue includeDying p) (listing queue includeDying p') := by
  induction p using Pending.induct generalizing p' with
  | step p ih =>
    rw [listing_eq p, listing_eq p', ← sim.name hmember, ← hparent]
    cases (h.name p.member).toOption with
    | none => exact .nil
    | some name =>
      refine List.rel_append (sim.forall₂_ownEntry hmember _) (List.rel_flatMap
        ((List.forall₂_and_left _ _).mpr ⟨fun c hc => hc, sim.forall₂_below hmember _⟩) ?_)
      rintro c c' ⟨hc, hmember', hparent'⟩
      exact ih _ c hc c' hmember' hparent'

/-- Walks from related members find the same paths, with related nodes. -/
theorem forall₂_walk (sim : Simulates h h' queue R S) {root : Member} {root' : Member'}
    (hroot : R root root') (ends : Acc h.IsChild root) (ends' : Acc h'.IsChild root') :
    List.Forall₂ (SameEntry S) (h.walk root ends queue includeDying)
      (h'.walk root' ends' queue includeDying) := by
  rw [walk_eq_listing, walk_eq_listing]
  exact sim.forall₂_listing _ _ hroot rfl

end Simulates

end Iocost.Hierarchy
