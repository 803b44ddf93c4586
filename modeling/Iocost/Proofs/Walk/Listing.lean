import Iocost.Memory.Built
import Iocost.Walk
import Mathlib.Data.List.Basic
import Mathlib.Order.WellFounded

/-!
# The walk as a recursive listing

The entries at and below a member are listed by recursion on the members below it (`listing`), and
so are the members themselves with their paths (`preorder`). A walk visits the listings of its
pending members one after the other (`visit_eq_flatMap_listing`), and its loop, taken turn by turn
over a stack that carries no proofs, comes to an end with them (`exists_iterate_turn`). Neither the
state nor the node of a member decides about those below it (`mem_listing`).
-/

namespace Iocost.Hierarchy

variable {Member Node : Type} {h : Hierarchy Member Node}

/-! ## Recursion on the members below -/

theorem weight_lt_of_mem_below {p c : h.Pending} {path : String} (hc : c ∈ p.below path) :
    h.weight c.ends < h.weight p.ends := by
  have hle : h.weight c.ends ≤ total ((p.below path).map fun c => h.weight c.ends) := by
    generalize p.below path = below at hc
    induction below with
    | nil => cases hc
    | cons b below ih =>
      rw [List.map_cons, total_cons]
      rcases List.mem_cons.mp hc with rfl | hc
      · exact Nat.le_add_right _ _
      · exact (ih hc).trans (Nat.le_add_left _ _)
  exact Nat.lt_of_le_of_lt hle (p.total_weight_below path ▸ Nat.lt_succ_self _)

theorem childList_of_children {member : Member} {children : List Member}
    (hchildren : h.children member = .ok children) : h.childList member = children := by
  rw [childList, hchildren]

theorem childList_of_children_error {member : Member} {f : Failure}
    (hchildren : h.children member = .error f) : h.childList member = [] := by
  rw [childList, hchildren]

theorem isChild_of_children {member child : Member} {children : List Member}
    (hchildren : h.children member = .ok children) (hchild : child ∈ children) :
    h.IsChild child member := by
  rwa [IsChild, childList_of_children hchildren]

theorem mem_below {p : h.Pending} {child : Member} (hchild : h.IsChild child p.member)
    (path : String) : ⟨child, path, p.ends.inv hchild⟩ ∈ p.below path :=
  List.mem_map.mpr ⟨⟨child, hchild⟩, List.mem_attach _ _, rfl⟩

theorem weight_inv_lt {member child : Member} (ends : Acc h.IsChild member)
    (hchild : h.IsChild child member) : h.weight (ends.inv hchild) < h.weight ends :=
  weight_lt_of_mem_below (p := ⟨member, "", ends⟩) (mem_below hchild "")

/-- The entries at and below a member, told without the loop. A member whose name cannot be read has
none. Its path is its name, behind that of its parent and a slash unless that is empty. Its own
entry comes first, if dying members are asked for or it says that it is online, and if it has a
node. Then come the entries of its children, one child after the other; children that cannot be
listed are none. -/
def listing (queue : Queue) (includeDying : Bool) (p : h.Pending) : List (Entry Member Node) :=
  match h.name p.member with
  | .error _ => []
  | .ok name =>
    let path := if p.parent = "" then name else p.parent ++ "/" ++ name
    let below :=
      match hchildren : h.children p.member with
      | .error _ => []
      | .ok children => children.attach.flatMap fun child =>
          listing queue includeDying
            ⟨child.1, path, p.ends.inv (isChild_of_children hchildren child.2)⟩
    match includeDying, h.isOnline p.member, h.node? p.member queue with
    | true, _, .ok (some node) | false, .ok true, .ok (some node) =>
      ⟨p.member, if path = "" then "/" else path, node⟩ :: below
    | _, _, _ => below
termination_by h.weight p.ends
decreasing_by exact weight_inv_lt p.ends (isChild_of_children hchildren child.2)

/-- The members at and below a member that have paths, each with its path. -/
def preorder (p : h.Pending) : List (Member × String) :=
  match h.name p.member with
  | .error _ => []
  | .ok name =>
    (p.member, pathBelow p.parent name) ::
      (p.below (pathBelow p.parent name)).attach.flatMap fun c => preorder c.1
termination_by h.weight p.ends
decreasing_by exact weight_lt_of_mem_below c.2

/-- Below a pending member come its children, each of which may be taken to end by itself. -/
theorem flatMap_below {β : Type} (ends : ∀ member, Acc h.IsChild member) (f : h.Pending → List β)
    (p : h.Pending) (path : String) :
    (p.below path).flatMap f = (h.childList p.member).flatMap fun m => f ⟨m, path, ends m⟩ := by
  rw [Pending.below, List.flatMap_map]
  refine (List.flatMap_subtype (g := fun m => f ⟨m, path, ends m⟩) fun _ _ => rfl).trans ?_
  rw [List.unattach_attach]

/-- Induction on the members below a member. -/
theorem Pending.induct {motive : h.Pending → Prop}
    (step : ∀ p : h.Pending, (∀ path, ∀ c ∈ p.below path, motive c) → motive p) (p : h.Pending) :
    motive p := by
  induction hn : h.weight p.ends using Nat.strong_induction_on generalizing p with
  | _ n ih =>
    subst hn
    exact step p fun path c hc => ih _ (weight_lt_of_mem_below hc) c rfl

theorem listing_of_name_error {queue : Queue} {includeDying : Bool} {p : h.Pending} {f : Failure}
    (hname : h.name p.member = .error f) : listing queue includeDying p = [] := by
  rw [listing, hname]

/-- Below a pending member come its children, none if they cannot be listed. -/
theorem flatMap_below_eq {β : Type} (f : h.Pending → List β) (p : h.Pending) (path : String) :
    (match hchildren : h.children p.member with
      | .error _ => []
      | .ok children => children.attach.flatMap fun child =>
          f ⟨child.1, path, p.ends.inv (isChild_of_children hchildren child.2)⟩) =
      (p.below path).flatMap f := by
  have hbelow : ∀ children (hchildren : h.childList p.member = children),
      (p.below path).flatMap f = children.attach.flatMap fun child =>
        f ⟨child.1, path, p.ends.inv (show _ ∈ _ from hchildren ▸ child.2)⟩ := by
    rintro _ rfl
    rw [Pending.below, List.flatMap_map]
  split
  case h_1 hchildren => exact (hbelow [] (childList_of_children_error hchildren)).symm
  case h_2 children hchildren => exact (hbelow children (childList_of_children hchildren)).symm

/-- A member's own entry, if it has one, stands in front of others. -/
theorem ownEntry_append (queue : Queue) (includeDying : Bool) (member : Member) (path : String)
    (rest : List (Entry Member Node)) :
    h.ownEntry queue includeDying member path ++ rest =
      match includeDying, h.isOnline member, h.node? member queue with
      | true, _, .ok (some node) | false, .ok true, .ok (some node) =>
        ⟨member, if path = "" then "/" else path, node⟩ :: rest
      | _, _, _ => rest := by
  have hshown : shownPath path = if path = "" then "/" else path := by
    simp only [shownPath, String.isEmpty_iff]
  unfold ownEntry isVisible
  rw [hshown]
  cases includeDying <;> rcases h.isOnline member with _ | _ | _ <;>
    rcases h.node? member queue with _ | _ | _ <;> rfl

theorem mem_ownEntry_iff {queue : Queue} {includeDying : Bool} {member : Member} {path : String}
    {entry : Entry Member Node} :
    entry ∈ h.ownEntry queue includeDying member path ↔
      (includeDying = true ∨ h.isOnline member = .ok true) ∧
        ∃ node, h.node? member queue = .ok (some node) ∧
          entry = ⟨member, if path = "" then "/" else path, node⟩ := by
  rw [← List.append_nil (h.ownEntry queue includeDying member path), ownEntry_append]
  cases includeDying <;> rcases h.isOnline member with _ | _ | _ <;>
    rcases h.node? member queue with _ | _ | _ <;> simp

theorem listing_of_name_ok {queue : Queue} {includeDying : Bool} {p : h.Pending} {name : String}
    (hname : h.name p.member = .ok name) :
    listing queue includeDying p =
      h.ownEntry queue includeDying p.member (pathBelow p.parent name) ++
        (p.below (pathBelow p.parent name)).flatMap (listing queue includeDying) := by
  have hpath : (if p.parent = "" then name else p.parent ++ "/" ++ name) =
      pathBelow p.parent name := by
    simp only [pathBelow, String.isEmpty_iff]
  rw [listing, hname, ownEntry_append]
  simp only [hpath, flatMap_below_eq]

theorem preorder_of_name_error {p : h.Pending} {f : Failure}
    (hname : h.name p.member = .error f) : preorder p = [] := by
  rw [preorder, hname]

theorem preorder_of_name_ok {p : h.Pending} {name : String} (hname : h.name p.member = .ok name) :
    preorder p = (p.member, pathBelow p.parent name) ::
      (p.below (pathBelow p.parent name)).flatMap preorder := by
  rw [preorder, hname]
  simp only [List.flatMap_subtype, List.unattach_attach]

/-- What a member shows is decided member by member. -/
theorem listing_eq_flatMap_preorder {queue : Queue} {includeDying : Bool} (p : h.Pending) :
    listing queue includeDying p =
      (preorder p).flatMap fun m => h.ownEntry queue includeDying m.1 m.2 := by
  induction p using Pending.induct with
  | step p ih =>
    cases hname : h.name p.member with
    | error f => rw [listing_of_name_error hname, preorder_of_name_error hname, List.flatMap_nil]
    | ok name =>
      rw [listing_of_name_ok hname, preorder_of_name_ok hname, List.flatMap_cons,
        List.flatMap_assoc]
      congr 1
      exact List.flatMap_congr fun c hc => ih _ c hc

/-! ## The stack -/

/-- The stack holds the listings that are still to come, in order. -/
theorem visit_eq_flatMap_listing {queue : Queue} {includeDying : Bool} (stack : List h.Pending) :
    h.visit queue includeDying stack = stack.flatMap (listing queue includeDying) := by
  fun_induction visit h queue includeDying stack with
  | case1 => rfl
  | case2 p rest f hname ih =>
    rw [ih, List.flatMap_cons, listing_of_name_error hname, List.nil_append]
  | case3 p rest name hname path ih =>
    rw [ih, List.flatMap_cons, listing_of_name_ok hname, List.flatMap_append, List.append_assoc]

theorem walk_eq_listing {queue : Queue} {includeDying : Bool} {root : Member}
    (ends : Acc h.IsChild root) :
    h.walk root ends queue includeDying = listing queue includeDying ⟨root, "", ends⟩ := by
  rw [walk, visit_eq_flatMap_listing, List.flatMap_cons, List.flatMap_nil, List.append_nil]

/-- What gives no more than one thing for each element gives no more than the elements. -/
theorem map_flatMap_sublist {α β γ : Type} {f : α → List β} {g : β → γ} {k : α → γ}
    (hf : ∀ a, ((f a).map g).Sublist [k a]) (as : List α) :
    ((as.flatMap f).map g).Sublist (as.map k) := by
  induction as with
  | nil => exact List.nil_sublist _
  | cons a as ih =>
    rw [List.flatMap_cons, List.map_append, List.map_cons, ← List.singleton_append]
    exact (hf a).append ih

theorem map_member_ownEntry_sublist {queue : Queue} {includeDying : Bool} (member : Member)
    (path : String) :
    ((h.ownEntry queue includeDying member path).map Entry.member).Sublist [member] := by
  unfold ownEntry
  split
  case isFalse => exact List.nil_sublist _
  case isTrue =>
    cases h.node? member queue with
    | error f => exact List.nil_sublist _
    | ok node? =>
      cases node? with
      | none => exact List.nil_sublist _
      | some node => exact List.Sublist.refl _

/-- A member has no more entries in a walk than it is met. -/
theorem map_member_walk_sublist {queue : Queue} {includeDying : Bool} {root : Member}
    (ends : Acc h.IsChild root) :
    ((h.walk root ends queue includeDying).map Entry.member).Sublist
      ((preorder ⟨root, "", ends⟩).map Prod.fst) := by
  rw [walk_eq_listing, listing_eq_flatMap_preorder]
  exact map_flatMap_sublist (fun m : Member × String => map_member_ownEntry_sublist m.1 m.2) _

/-- A walk under way: the members whose subtrees are pending, each with the path of its parent, and
the entries found so far. -/
structure Progress (Member Node : Type) where
  stack : List (Member × String)
  found : List (Entry Member Node) := []

/-- One turn of the walk's loop: the member on top gives way to its children. -/
def turn (h : Hierarchy Member Node) (queue : Queue) (includeDying : Bool) :
    Progress Member Node → Progress Member Node
  | ⟨[], found⟩ => ⟨[], found⟩
  | ⟨(member, parent) :: rest, found⟩ =>
    match h.name member with
    | .error _ => ⟨rest, found⟩
    | .ok name =>
      let path := pathBelow parent name
      ⟨(h.childList member).map (·, path) ++ rest,
        found ++ h.ownEntry queue includeDying member path⟩

/-- A pending member without the proof that descents from it end. -/
def Pending.plain (p : h.Pending) : Member × String := (p.member, p.parent)

theorem Pending.map_plain_below (p : h.Pending) (path : String) :
    (p.below path).map Pending.plain = (h.childList p.member).map (·, path) := by
  rw [below, List.map_map]
  exact List.attach_map_val (l := h.childList p.member) (f := (·, path))

/-- The loop comes to an end, having found what the walk returns. -/
theorem exists_iterate_turn {queue : Queue} {includeDying : Bool} (stack : List h.Pending)
    (found : List (Entry Member Node)) :
    ∃ turns, (h.turn queue includeDying)^[turns] ⟨stack.map Pending.plain, found⟩ =
      ⟨[], found ++ h.visit queue includeDying stack⟩ := by
  fun_induction visit h queue includeDying stack generalizing found with
  | case1 => exact ⟨0, by simp⟩
  | case2 p rest f hname ih =>
    obtain ⟨turns, hturns⟩ := ih found
    refine ⟨turns + 1, ?_⟩
    rw [Function.iterate_succ_apply, ← hturns]
    simp only [List.map_cons, Pending.plain, turn, hname]
  | case3 p rest name hname path ih =>
    obtain ⟨turns, hturns⟩ := ih (found ++ h.ownEntry queue includeDying p.member path)
    refine ⟨turns + 1, ?_⟩
    rw [Function.iterate_succ_apply, ← List.append_assoc, ← hturns, List.map_append,
      p.map_plain_below path]
    simp only [List.map_cons, Pending.plain, turn, hname, path]

/-! ## Which members are reached -/

/-- From a member below `parent` another one is reached, by children with readable names; with the
path of that member. -/
inductive Reaches (h : Hierarchy Member Node) : Member → String → Member → String → Prop where
  | here {member : Member} {parent name : String} :
    h.name member = .ok name → Reaches h member parent member (pathBelow parent name)
  | child {member child reached : Member} {parent name path : String} :
    h.name member = .ok name → h.IsChild child member →
      Reaches h child (pathBelow parent name) reached path → Reaches h member parent reached path

theorem mem_preorder {p : h.Pending} {member : Member} {path : String} :
    (member, path) ∈ preorder p ↔ h.Reaches p.member p.parent member path := by
  constructor
  · induction p using Pending.induct with
    | step p ih =>
      intro hm
      cases hname : h.name p.member with
      | error f =>
        rw [preorder_of_name_error hname] at hm
        cases hm
      | ok name =>
        rw [preorder_of_name_ok hname] at hm
        rcases List.mem_cons.mp hm with heq | hm
        · cases heq
          exact .here hname
        · obtain ⟨c, hc, hm⟩ := List.mem_flatMap.mp hm
          have hreach := ih _ c hc hm
          obtain ⟨⟨child, hchild⟩, -, rfl⟩ := List.mem_map.mp hc
          exact .child hname hchild hreach
  · intro hreach
    obtain ⟨start, parent, ends⟩ := p
    simp only at hreach
    induction hreach with
    | here hname =>
      rw [preorder_of_name_ok (p := ⟨_, _, ends⟩) hname]
      exact List.mem_cons_self
    | child hname hchild _ ih =>
      rw [preorder_of_name_ok (p := ⟨_, _, ends⟩) hname]
      exact List.mem_cons_of_mem _ (List.mem_flatMap.mpr
        ⟨⟨_, _, ends.inv hchild⟩, mem_below (p := ⟨_, _, ends⟩) hchild _, ih _⟩)

/-- The entries are those that the members reached have of their own, whatever the members above
them show. -/
theorem mem_listing {queue : Queue} {includeDying : Bool} {p : h.Pending}
    {entry : Entry Member Node} :
    entry ∈ listing queue includeDying p ↔ ∃ member path,
      h.Reaches p.member p.parent member path ∧
        entry ∈ h.ownEntry queue includeDying member path := by
  rw [listing_eq_flatMap_preorder, List.mem_flatMap]
  constructor
  · rintro ⟨⟨member, path⟩, hm, hentry⟩
    exact ⟨member, path, mem_preorder.mp hm, hentry⟩
  · rintro ⟨member, path, hm, hentry⟩
    exact ⟨(member, path), mem_preorder.mpr hm, hentry⟩

/-- **The walk is the listing.** Where no descent through children goes on for ever, the loop over a
stack ends, with the entries that the recursion lists in pre-order. A member that is reached has an
entry if dying members are asked for or it says that it is online, and if it has a node, whatever
the members above it have. -/
theorem loop_finds_listing {root : Member}
    (hroot : ¬∃ chain : Nat → Member, chain 0 = root ∧ ∀ n, h.IsChild (chain (n + 1)) (chain n))
    (queue : Queue) (includeDying : Bool) :
    ∃ ends : Acc h.IsChild root,
      h.walk root ends queue includeDying = listing queue includeDying ⟨root, "", ends⟩ ∧
      (∃ turns, (h.turn queue includeDying)^[turns] { stack := [(root, "")] } =
        ⟨[], listing queue includeDying ⟨root, "", ends⟩⟩) ∧
      ∀ entry, entry ∈ listing queue includeDying ⟨root, "", ends⟩ ↔ ∃ member path,
        h.Reaches root "" member path ∧
          (includeDying = true ∨ h.isOnline member = .ok true) ∧
          ∃ node, h.node? member queue = .ok (some node) ∧
            entry = ⟨member, if path = "" then "/" else path, node⟩ := by
  have ends : Acc h.IsChild root :=
    not_not.mp fun hacc => hroot (not_acc_iff_exists_descending_chain.mp hacc)
  refine ⟨ends, walk_eq_listing ends, ?_, fun entry => ?_⟩
  · rw [← walk_eq_listing ends]
    exact exists_iterate_turn [⟨root, "", ends⟩] []
  · simp only [mem_listing, mem_ownEntry_iff]

/-- A dying member without a node, with an online one below it that has a node. -/
def dyingAbove : MemoryHierarchy :=
  let members := (MemoryHierarchy.new.addMember 0 "a" Nat.one_pos).addMember 1 "b" Nat.one_lt_two
  (members.setOnline 1 false).setNode 2 7 {}

theorem loop_finds_below_dying :
    (¬∃ chain : Nat → Nat, chain 0 = 0 ∧
      ∀ n, dyingAbove.hierarchy.IsChild (chain (n + 1)) (chain n)) ∧
    ∃ ends : Acc dyingAbove.hierarchy.IsChild 0,
      (⟨2, "a/b", (2, 7)⟩ : Entry Nat (Nat × Queue)) ∈
        dyingAbove.hierarchy.walk 0 ends 7 false := by
  have hroot : ¬∃ chain : Nat → Nat, chain 0 = 0 ∧
      ∀ n, dyingAbove.hierarchy.IsChild (chain (n + 1)) (chain n) := fun hchain =>
    not_acc_iff_exists_descending_chain.mpr hchain (dyingAbove.source.descends.apply 0)
  obtain ⟨ends, hwalk, -, hmem⟩ := loop_finds_listing hroot 7 false
  refine ⟨hroot, ends, ?_⟩
  rw [hwalk]
  refine (hmem _).mpr ⟨2, "a/b", ?_, .inr rfl, (2, 7), rfl, rfl⟩
  · have h1 : 1 ∈ dyingAbove.hierarchy.childList 0 := by decide
    have h2 : 2 ∈ dyingAbove.hierarchy.childList 1 := by decide
    have hpath : pathBelow (pathBelow (pathBelow "" "") "a") "b" = "a/b" := by decide
    rw [← hpath]
    exact .child rfl h1 (.child rfl h2 (.here rfl))

end Iocost.Hierarchy
