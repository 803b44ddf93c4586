import Iocost.Proofs.Walk.Listing

/-!
# Hierarchies that differ in a subtree

A hierarchy may answer like another one about some of its members only. Where it has no name for the
others that are met first, it loses them with all that is below them: the members it reaches are
those of the other one that are kept, in the same order (`Prunes.preorder_eq_filter`).
-/

namespace Iocost.Hierarchy

variable {Member Node : Type} {h h' : Hierarchy Member Node} {kept : Member → Prop}

/-- What children take over from the members above them holds of all members reached. -/
theorem Reaches.of_closed {P : Member → Prop}
    (hclosed : ∀ member, P member → ∀ child ∈ h.childList member, P child)
    {start reached : Member} {parent path : String}
    (hreach : h.Reaches start parent reached path) (hstart : P start) : P reached := by
  induction hreach with
  | here => exact hstart
  | child _ hchild _ ih => exact ih (hclosed _ hstart _ hchild)

/-- The second hierarchy has no name for a member below which the first one reaches none that is
kept. -/
def IsCut (h h' : Hierarchy Member Node) (kept : Member → Prop) (member : Member) : Prop :=
  (∃ f, h'.name member = .error f) ∧
    ∀ parent reached path, h.Reaches member parent reached path → ¬kept reached

/-- The second hierarchy is the first one without the members that are not kept. -/
structure Prunes (h h' : Hierarchy Member Node) (kept : Member → Prop) : Prop where
  name {member : Member} : kept member → h'.name member = h.name member
  childList {member : Member} : kept member → h'.childList member = h.childList member
  below {member child : Member} :
    kept member → child ∈ h.childList member → kept child ∨ IsCut h h' kept child

theorem IsCut.filter_preorder [DecidablePred kept] {p : h.Pending}
    (hcut : IsCut h h' kept p.member) :
    ((preorder p).filter fun m => decide (kept m.1)) = [] := by
  refine List.filter_eq_nil_iff.mpr fun m hm => ?_
  rw [decide_eq_true_iff]
  exact hcut.2 _ _ _ (mem_preorder.mp hm)

theorem Prunes.preorder_eq_filter [DecidablePred kept] (hprunes : Prunes h h' kept)
    (ends : ∀ member, Acc h.IsChild member) (ends' : ∀ member, Acc h'.IsChild member)
    (p : h.Pending) (p' : h'.Pending) (hmember : p'.member = p.member)
    (hparent : p'.parent = p.parent) (hp : kept p.member ∨ IsCut h h' kept p.member) :
    preorder p' = (preorder p).filter fun m => decide (kept m.1) := by
  induction p using Pending.induct generalizing p' with
  | step p ih =>
    rcases hp with hkept | hcut
    -- a kept member goes on with the same children, below a cut there is nothing to keep
    · have hname' : h'.name p'.member = h.name p.member :=
        (congrArg h'.name hmember).trans (hprunes.name hkept)
      cases hname : h.name p.member with
      | error f =>
        rw [preorder_of_name_error hname, preorder_of_name_error (hname'.trans hname),
          List.filter_nil]
      | ok name =>
        rw [preorder_of_name_ok hname, preorder_of_name_ok (hname'.trans hname), hmember, hparent,
          List.filter_cons_of_pos (a := (p.member, _)) (decide_eq_true hkept), List.filter_flatMap,
          flatMap_below ends, flatMap_below ends', hmember, hprunes.childList hkept]
        congr 1
        refine List.flatMap_congr fun child hchild => ?_
        exact ih _ ⟨child, _, ends child⟩ (mem_below hchild _) _ rfl rfl
          (hprunes.below hkept hchild)
    · obtain ⟨f, hname⟩ := hcut.1
      rw [hcut.filter_preorder,
        preorder_of_name_error ((congrArg h'.name hmember).trans hname)]

end Iocost.Hierarchy
