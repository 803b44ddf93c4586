import Iocost.Source

/-!
Walking a hierarchy in pre-order. The walk keeps a stack of members whose subtrees are pending,
each with the path of its parent. A member that is dying, has no node or cannot be asked is left
out, but its children are still visited; a member without a readable name takes its subtree with
it, because the paths below it cannot be built.

The walk ends because each member on the stack is the end of no infinite descent: the number of
members at and below the stack falls with every step (`Hierarchy.weight_eq`).
-/

namespace Iocost

/-- An accounting node found by a walk. -/
structure Entry (Member Node : Type) where
  member : Member
  /-- The names of the member and of those above it, without the root, between slashes; the root
  itself is a slash. -/
  path : String
  node : Node
deriving DecidableEq

/-- The path of a member below the path of its parent. -/
def pathBelow (parent name : String) : String :=
  if parent.isEmpty then name else parent ++ "/" ++ name

/-- The path of a member as it is shown. -/
def shownPath (path : String) : String := if path.isEmpty then "/" else path

namespace Hierarchy

variable {Member Node : Type} (h : Hierarchy Member Node)

/-- Whether a member is to be looked at: dying ones on demand only, and none whose state cannot be
read. -/
def isVisible (includeDying : Bool) (member : Member) : Bool :=
  includeDying ||
    match h.isOnline member with
    | .ok online => online
    | .error _ => false

/-- The entry of a member itself: one if it is visible and has a node, none otherwise. -/
def ownEntry (queue : Queue) (includeDying : Bool) (member : Member) (path : String) :
    List (Entry Member Node) :=
  if h.isVisible includeDying member then
    match h.node? member queue with
    | .ok (some node) => [⟨member, shownPath path, node⟩]
    | _ => []
  else
    []

/-- A member whose subtree is still to be visited. -/
structure Pending where
  member : Member
  /-- The path of its parent, empty for a parent without a name. -/
  parent : String
  /-- Every descent from the member ends. -/
  ends : Acc h.IsChild member

def total (numbers : List Nat) : Nat := numbers.foldr (· + ·) 0

theorem total_cons (n : Nat) (numbers : List Nat) : total (n :: numbers) = n + total numbers := rfl

theorem total_append (a b : List Nat) : total (a ++ b) = total a + total b := by
  induction a with
  | nil => simp [total]
  | cons n a ih => simp only [total, List.cons_append, List.foldr_cons] at ih ⊢; omega

/-- How many members are at and below a member, a member counted as often as it is reached. -/
noncomputable def weight {member : Member} (ends : Acc h.IsChild member) : Nat :=
  ends.rec fun member _ below =>
    1 + total ((h.childList member).attach.map fun child => below child.1 child.2)

theorem weight_eq {member : Member} (ends : Acc h.IsChild member) :
    h.weight ends =
      1 + total ((h.childList member).attach.map fun child => h.weight (ends.inv child.2)) := by
  cases ends
  rfl

/-- The children of a pending member, in order, with the path of their parent. -/
def Pending.below {h : Hierarchy Member Node} (p : h.Pending) (path : String) : List h.Pending :=
  (h.childList p.member).attach.map fun child => ⟨child.1, path, p.ends.inv child.2⟩

theorem Pending.total_weight_below {h : Hierarchy Member Node} (p : h.Pending) (path : String) :
    total ((p.below path).map fun c => h.weight c.ends) + 1 = h.weight p.ends := by
  rw [h.weight_eq p.ends, Pending.below, List.map_map, Nat.add_comm]
  rfl

/-- Visits the pending members and all below them. -/
def visit (queue : Queue) (includeDying : Bool) : List h.Pending → List (Entry Member Node)
  | [] => []
  | p :: rest =>
    match h.name p.member with
    | .error _ => visit queue includeDying rest
    | .ok name =>
      let path := pathBelow p.parent name
      h.ownEntry queue includeDying p.member path ++
        visit queue includeDying (p.below path ++ rest)
termination_by stack => total (stack.map fun p => h.weight p.ends)
decreasing_by
  · rw [List.map_cons, total_cons, ← p.total_weight_below ""]
    omega
  · rw [List.map_cons, total_cons, List.map_append, total_append,
      ← p.total_weight_below (pathBelow p.parent name)]
    omega

/-- The accounting nodes for a queue at and below a member, in pre-order. -/
def walk (root : Member) (ends : Acc h.IsChild root) (queue : Queue) (includeDying : Bool) :
    List (Entry Member Node) :=
  h.visit queue includeDying [⟨root, "", ends⟩]

end Hierarchy

/-- The accounting nodes of a source for a queue at and below a member, in pre-order. -/
def Source.walk {Member Node Controller : Type} (s : Source Member Node Controller) (root : Member)
    (queue : Queue) (includeDying : Bool) : List (Entry Member Node) :=
  s.toHierarchy.walk root (s.descends.apply root) queue includeDying

end Iocost
