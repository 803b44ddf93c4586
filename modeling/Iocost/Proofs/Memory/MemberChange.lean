import Iocost.Proofs.Memory.Descendants
import Iocost.Proofs.Sampler.MemberRows

/-!
# Changes of single members in memory

A change of what a hierarchy in memory says about one member (`DiffersAt`) leaves what it says about
the others. If the member keeps its name and its children, the rows of the others stay as they were
(`OwnChange.filter_memberRows_eq`). A member that breaks takes the rows of those below it with it,
and no others (`memberRows_setBroken`).
-/

namespace Iocost.MemoryHierarchy

open MemoryData

variable {h h' : MemoryHierarchy} {member : Nat}

/-- The hierarchies differ in what they say about a member, but not in which members stand below
which. -/
structure DiffersAt (h h' : MemoryHierarchy) (member : Nat) : Prop where
  constants : h'.constants = h.constants
  devices : h'.devices = h.devices
  childrenOf (other : Nat) : h'.childrenOf other = h.childrenOf other
  others {other : Nat} : other ≠ member → h'.member other = h.member other
  nodes {other : Nat} : other ≠ member → ∀ queue,
    h'.nodes.lookup (other, queue) = h.nodes.lookup (other, queue)

namespace DiffersAt

variable (hdiffers : h.DiffersAt h' member)

include hdiffers

theorem ofSettings_eq (settings : Settings) :
    Sampler.ofSettings h'.source settings = Sampler.ofSettings h.source settings := by
  have hresolve : h'.source.resolve settings.device = h.source.resolve settings.device := by
    simp only [source, resolve, hdiffers.devices]
  rw [Sampler.ofSettings, hresolve, Sampler.ofSettings]

theorem readController_eq (queue : Queue) :
    h'.source.readController queue = h.source.readController queue := by
  simp only [source, readController, hdiffers.devices]

theorem name_eq {other : Nat} (hne : other ≠ member) :
    h'.hierarchy.name other = h.hierarchy.name other :=
  congrArg (Except.map MemoryMember.name) (hdiffers.others hne)

theorem childList_eq {other : Nat} (hmember : (h'.member other).isOk = (h.member other).isOk) :
    h'.hierarchy.childList other = h.hierarchy.childList other := by
  cases hm : h.member other <;> cases hm' : h'.member other
  case error.error => rw [childList_of_member_error hm, childList_of_member_error hm']
  case ok.ok =>
    rw [childList_of_member_ok hm, childList_of_member_ok hm', hdiffers.childrenOf]
  all_goals
    rw [hm, hm'] at hmember
    cases hmember

theorem agreeOn {other : Nat} (hne : other ≠ member) (queue : Queue) :
    h.source.AgreeOn h'.source queue other where
  isOnline := congrArg (Except.map MemoryMember.isOnline) (hdiffers.others hne)
  node? := by
    simp only [source, hierarchy, MemoryData.node?, hdiffers.others hne,
      hdiffers.nodes hne queue]
  readNode := by
    intro node hnode
    obtain ⟨_, -, hlookup⟩ := Except.exists_of_map_eq_ok hnode
    obtain ⟨_, -, rfl⟩ := Option.map_eq_some_iff.mp hlookup
    simp only [source, MemoryData.readNode, hdiffers.nodes hne queue]

end DiffersAt

/-! ## The member itself -/

/-- The hierarchy is another one but for a change of the member that keeps its children. -/
theorem differsAt_of_modifyMember {f : MemoryMember → MemoryMember}
    (hchange : h'.toMemoryData = h.modifyMember member f)
    (hchildren : ∀ m, (f m).children = m.children) : h.DiffersAt h' member where
  constants := by rw [hchange, MemoryData.modifyMember]
  devices := by rw [hchange, MemoryData.modifyMember]
  childrenOf other := by
    rw [hchange]
    exact childrenOf_congr (map_children_modifyMember member hchildren) other
  others := by
    intro other hne
    rw [hchange]
    simp only [MemoryData.member, MemoryData.modifyMember, List.getElem?_modify_ne _ _ hne.symm]
  nodes := by
    intro other _ queue
    rw [hchange, MemoryData.modifyMember]

/-- Changes of the state and of the nodes of a member. -/
inductive OwnChange (h : MemoryHierarchy) (member : Nat) : MemoryHierarchy → Prop where
  | setNode (queue : Queue) (counters : NodeCounters) :
    OwnChange h member (h.setNode member queue counters)
  | removeNode (queue : Queue) : OwnChange h member (h.removeNode member queue)
  | setOnline (online : Bool) : OwnChange h member (h.setOnline member online)

theorem OwnChange.differsAt (hchange : h.OwnChange member h') : h.DiffersAt h' member := by
  have hkey {other : Nat} (hne : other ≠ member) (queue queue' : Queue) :
      ((other, queue) == (member, queue')) = false :=
    beq_eq_false_iff_ne.mpr fun heq => hne (Prod.mk.inj heq).1
  cases hchange with
  | setNode queue counters =>
    refine ⟨rfl, rfl, fun _ => rfl, fun _ => rfl, fun {other} hne queue' => ?_⟩
    change (Association.put _ _ h.nodes).lookup _ = _
    rw [Association.lookup_put, hkey hne]
    exact if_neg Bool.false_ne_true
  | removeNode queue =>
    refine ⟨rfl, rfl, fun _ => rfl, fun _ => rfl, fun {other} hne queue' => ?_⟩
    change (Association.erase _ h.nodes).lookup _ = _
    rw [Association.lookup_erase, hkey hne]
    exact if_neg Bool.false_ne_true
  | setOnline online => exact differsAt_of_modifyMember rfl fun _ => rfl

theorem OwnChange.map_name_member (hchange : h.OwnChange member h') (other : Nat) :
    (h'.member other).map MemoryMember.name = (h.member other).map MemoryMember.name := by
  cases hchange with
  | setNode => rfl
  | removeNode => rfl
  | setOnline online =>
    have hmembers : (h.setOnline member online).members =
        h.members.modify member fun m => { m with isOnline := online } := rfl
    unfold MemoryData.member
    rw [hmembers, List.getElem?_modify]
    cases h.members[other]? with
    | none => rfl
    | some m =>
      simp only [Option.map_eq_map, Option.map_some]
      split <;> (split <;> rfl)

/-! ## Rows -/

variable {settings : Settings} {s : Sampler Nat Queue}

theorem OwnChange.members_eq (hchange : h.OwnChange member h') (root : Nat) :
    h'.source.members root = h.source.members root := by
  have hname (other : Nat) : h'.hierarchy.name other = h.hierarchy.name other :=
    hchange.map_name_member other
  have hok (other : Nat) : (h'.member other).isOk = (h.member other).isOk := by
    have hmap := hchange.map_name_member other
    cases hm : h.member other <;> cases hm' : h'.member other <;> rw [hm, hm'] at hmap <;>
      first | rfl | cases hmap
  have hprunes : h.source.Prunes h'.source.toHierarchy fun _ => True :=
    ⟨fun _ => hname _, fun _ => hchange.differsAt.childList_eq (hok _), fun _ _ => .inl trivial⟩
  rw [Source.members_eq_filter hprunes (.inl trivial), List.filter_eq_self]
  exact fun _ _ => decide_eq_true trivial

/-- No two rows are of one member. -/
theorem nodup_memberRows (h : MemoryHierarchy) (s : Sampler Nat Queue) :
    ((s.memberRows h.source).map Prod.fst).Nodup :=
  (nodup_preorder _).sublist Sampler.map_fst_memberRows_sublist

/-- The rows of the other members stay as they were. -/
theorem OwnChange.filter_memberRows_eq (hchange : h.OwnChange member h') :
    ((s.memberRows h'.source).filter fun row => decide (row.1 ≠ member)) =
      (s.memberRows h.source).filter fun row => decide (row.1 ≠ member) := by
  refine Sampler.filter_memberRows_congr (fun other => decide (other ≠ member))
    hchange.differsAt.constants (hchange.differsAt.readController_eq _) ?_ fun m _ hne => ?_
  · rw [hchange.members_eq]
  · exact hchange.differsAt.agreeOn (of_decide_eq_true hne) _

theorem member_setBroken_self (h : MemoryHierarchy) (member : Nat) :
    ∃ f, (h.setBroken member true).member member = .error f := by
  refine ⟨.unknownMember (toString member), ?_⟩
  have hmembers : (h.setBroken member true).members =
      h.members.modify member fun m => { m with isBroken := true } := rfl
  unfold MemoryData.member
  rw [hmembers, List.getElem?_modify_eq]
  cases h.members[member]? <;> rfl

theorem differsAt_setBroken (h : MemoryHierarchy) (member : Nat) (broken : Bool) :
    h.DiffersAt (h.setBroken member broken) member :=
  differsAt_of_modifyMember rfl fun _ => rfl

open Classical in
theorem members_setBroken (h : MemoryHierarchy) (member : Nat) :
    (h.setBroken member true).source.members 0 =
      (h.source.members 0).filter fun m => decide (¬h.IsBelow member m.1) := by
  have hdiffers := h.differsAt_setBroken member true
  have hne {other : Nat} (hkept : ¬h.IsBelow member other) : other ≠ member := by
    rintro rfl
    exact hkept (.refl other)
  have hcut : h.source.IsCut (h.setBroken member true).source.toHierarchy
      (fun other => ¬h.IsBelow member other) member := by
    obtain ⟨f, hf⟩ := h.member_setBroken_self member
    exact ⟨⟨f, congrArg (Except.map MemoryMember.name) hf⟩,
      fun _ _ _ hreach => not_not_intro (isBelow_of_reaches hreach)⟩
  have hprunes : h.source.Prunes (h.setBroken member true).source.toHierarchy
      fun other => ¬h.IsBelow member other := by
    refine ⟨fun hkept => hdiffers.name_eq (hne hkept),
      fun hkept => hdiffers.childList_eq (by rw [hdiffers.others (hne hkept)]),
      fun {parent child} hkept hchild => ?_⟩
    -- a member has one parent, so what is below `member` is met below it only
    by_cases heq : child = member
    · exact .inr (heq ▸ hcut)
    · exact .inl fun hbelow => hkept (hbelow.parent heq (mem_childrenOf_of_isChild hchild))
  refine Source.members_eq_filter hprunes ?_
  by_cases hroot : member = 0
  · exact .inr (hroot ▸ hcut)
  · exact .inl fun hbelow => hroot (Nat.le_zero.mp hbelow.le)

theorem root_eq_zero (hs : Sampler.ofSettings h.source settings = .ok s) : s.binding.root = 0 := by
  obtain ⟨binding, hbinding, rfl⟩ := Except.exists_of_map_eq_ok hs
  simp only [source, resolve] at hbinding
  split at hbinding
  · cases hbinding
  · split at hbinding
    · cases hbinding
      rfl
    · cases hbinding

open Classical in
/-- The rows of a member that breaks and of those below it are no longer there, all others are. -/
theorem memberRows_setBroken (hs : Sampler.ofSettings h.source settings = .ok s) (member : Nat) :
    s.memberRows (h.setBroken member true).source =
      (s.memberRows h.source).filter fun row => decide (¬h.IsBelow member row.1) := by
  have hdiffers := h.differsAt_setBroken member true
  have hmembers := h.members_setBroken member
  rw [← root_eq_zero hs] at hmembers
  have hfilter : ((h.setBroken member true).source.members s.binding.root).filter
      (fun m => decide (¬h.IsBelow member m.1)) =
        (h.source.members s.binding.root).filter fun m => decide (¬h.IsBelow member m.1) := by
    rw [hmembers, List.filter_filter]
    exact List.filter_congr fun m _ => Bool.and_self _
  rw [← Sampler.filter_memberRows_congr (fun other => decide (¬h.IsBelow member other))
    hdiffers.constants (hdiffers.readController_eq _) hfilter, List.filter_eq_self.mpr]
  · intro row hrow
    obtain ⟨path, hmember, -⟩ := Sampler.exists_member_of_mem_memberRows hrow
    rw [hmembers] at hmember
    exact (List.mem_filter.mp hmember).2
  · intro m _ hkept
    refine hdiffers.agreeOn ?_ _
    rintro rfl
    exact of_decide_eq_true hkept (.refl _)

end Iocost.MemoryHierarchy
