import Iocost.Association
import Iocost.Files.Change
import Iocost.Proofs.Files.Descent

/-!
# What is where in a tree of files

What a location leads to is a directory, a file or a link (`FileTree.kind?`). Following steps asks
for no more than that, so steps that lead somewhere lead there still when a tree grows
(`FileTree.GrowsAt.follow`), and putting a leaf changes one location (`FileTree.kind?_alter`).
-/

namespace Iocost

namespace FileNode

/-- What a node is, without what is in it. -/
inductive Kind where
  | directory
  | file (inode : UInt64) (content : List UInt8)
  | link (target : List UInt8)
deriving DecidableEq

def kind : FileNode → Kind
  | directory _ => .directory
  | file inode content => .file inode content
  | link target => .link target

/-- What a location leads to. -/
def kind? (node : FileNode) (loc : Location) : Option Kind := (node.node? loc).map kind

theorem kind?_nil (node : FileNode) : node.kind? [] = some node.kind := by
  rw [kind?, node?, Option.map_some]

theorem kind?_cons (entries : List (FileName × FileNode)) (name : FileName) (loc : Location) :
    (directory entries).kind? (name :: loc) = (entries.lookup name).bind (·.kind? loc) := by
  rw [kind?, node?, Option.map_bind]
  rfl

theorem eq_directory_of_kind {node : FileNode} (h : node.kind = .directory) :
    ∃ entries, node = directory entries := by
  cases node with
  | directory entries => exact ⟨entries, rfl⟩
  | file => cases h
  | link => cases h

theorem lookup_setEntry (entries : List (FileName × FileNode)) (name other : FileName)
    (node? : Option FileNode) :
    (setEntry entries name node?).lookup other =
      if other = name then node? else entries.lookup other := by
  have herase : (entries.filter fun entry => entry.1 ≠ name) = Association.erase name entries := by
    refine List.filter_congr fun entry _ => ?_
    rw [decide_not, Bool.beq_comm]
    rfl
  have hset : setEntry entries name node? =
      Association.erase name entries ++ node?.toList.map fun node => (name, node) := by
    rw [← herase]
    cases node? with
    | none => exact (List.append_nil _).symm
    | some node => rfl
  rw [hset, List.lookup_append, Association.lookup_erase]
  split
  case isTrue h =>
    obtain rfl := eq_of_beq h
    rw [if_pos rfl, Option.none_or]
    cases node? with
    | none => rfl
    | some node => exact List.lookup_cons_self
  case isFalse h =>
    have hne : other ≠ name := fun heq => h (beq_iff_eq.mpr heq)
    rw [if_neg hne]
    cases node? with
    | none => exact Option.or_none
    | some node =>
      rw [Option.toList_some, List.map_singleton, List.lookup_cons, Bool.eq_false_iff.mpr h,
        List.lookup_nil, Option.or_none]

theorem kind?_setEntry (entries : List (FileName × FileNode)) (name n : FileName)
    (node? : Option FileNode) (loc : Location) :
    (directory (setEntry entries name node?)).kind? (n :: loc) =
      if n = name then node?.bind (·.kind? loc) else (directory entries).kind? (n :: loc) := by
  rw [kind?_cons, kind?_cons, lookup_setEntry]
  split <;> rfl

/-- There is nothing below what may be a node. -/
def IsLeaf (node? : Option FileNode) : Prop :=
  ∀ name loc, (node?.bind fun node => node.kind? (name :: loc)) = none

theorem isLeaf_none : IsLeaf none := fun _ _ => rfl

theorem isLeaf_directory_nil : IsLeaf (some (directory [])) := fun _ _ => rfl

theorem isLeaf_file (inode : UInt64) (content : List UInt8) : IsLeaf (some (file inode content)) :=
  fun _ _ => rfl

/-- Putting a leaf into a directory, or nothing, where nothing is that has something below it,
changes what is at that place. -/
theorem kind?_alter {leaf? : Option FileNode} (hleaf : IsLeaf leaf?) {node : FileNode}
    {dir : Location} {name : FileName} (hdir : node.kind? dir = some .directory)
    (hbelow : ∀ n loc, node.kind? (dir ++ name :: n :: loc) = none) :
    ∃ altered, alter (fun _ => leaf?) (some node) (dir ++ [name]) = some altered ∧
      ∀ loc, altered.kind? loc =
        if loc = dir ++ [name] then leaf?.map kind else node.kind? loc := by
  induction dir generalizing node with
  | nil =>
    obtain ⟨entries, rfl⟩ := eq_directory_of_kind (Option.some.inj hdir)
    refine ⟨directory (setEntry entries name leaf?), rfl, fun loc => ?_⟩
    cases loc with
    | nil => rfl
    | cons n loc =>
      simp only [kind?_setEntry, List.nil_append, List.cons.injEq]
      by_cases hn : n = name
      · subst hn
        cases loc with
        | nil =>
          simp only [true_and, ↓reduceIte, kind?_nil]
          exact Option.map_eq_bind.symm
        | cons m loc =>
          have hnone : (directory entries).kind? (n :: m :: loc) = none := hbelow m loc
          simp only [true_and, reduceCtorEq, ↓reduceIte, hleaf m loc, hnone]
      · simp only [hn, false_and, ↓reduceIte]
  | cons d dir ih =>
    obtain ⟨found, hfound, hkind⟩ := Option.map_eq_some_iff.mp hdir
    obtain ⟨entries, below, rfl, hlookup, hnode⟩ := eq_directory_of_node?_cons hfound
    have hbelow' : ∀ n loc, below.kind? (dir ++ name :: n :: loc) = none := by
      intro n loc
      have h := hbelow n loc
      rwa [List.cons_append, kind?_cons, hlookup, Option.bind_some] at h
    obtain ⟨altered, halter, haltered⟩ := ih (by rw [kind?, hnode, Option.map_some, hkind]) hbelow'
    refine ⟨directory (setEntry entries d (some altered)), ?_, fun loc => ?_⟩
    · rw [List.cons_append, alter, hlookup, halter]
    · cases loc with
      | nil => rfl
      | cons n loc =>
        simp only [kind?_setEntry, List.cons_append, List.cons.injEq, Option.bind_some]
        by_cases hn : n = d
        · subst hn
          simp only [true_and, ↓reduceIte, haltered, kind?_cons, hlookup, Option.bind_some]
        · simp only [hn, false_and, ↓reduceIte]

end FileNode

namespace FileTree

variable {t t' : FileTree} {loc : Location}

/-- What a location leads to. -/
def kind? (t : FileTree) (loc : Location) : Option FileNode.Kind := t.top.kind? loc

theorem kind?_of_node? {node : FileNode} (h : t.top.node? loc = some node) :
    t.kind? loc = some node.kind := by
  rw [kind?, FileNode.kind?, h, Option.map_some]

theorem node?_of_kind?_directory (h : t.kind? loc = some .directory) :
    ∃ entries, t.top.node? loc = some (.directory entries) := by
  obtain ⟨node, hnode, hkind⟩ := Option.map_eq_some_iff.mp h
  obtain ⟨entries, rfl⟩ := FileNode.eq_directory_of_kind hkind
  exact ⟨entries, hnode⟩

theorem kind?_concat {entries : List (FileName × FileNode)}
    (h : t.top.node? loc = some (.directory entries)) (name : FileName) :
    t.kind? (loc ++ [name]) = (entries.lookup name).map FileNode.kind := by
  rw [kind?, FileNode.kind?, FileNode.node?_append, h, Option.bind_some, FileNode.node?]
  cases entries.lookup name <;> rfl

/-- All that is at some locations in the first tree is there in the second one. Elsewhere the first
tree has neither directories nor links. -/
structure GrowsAt (t t' : FileTree) (kept : Location → Prop) : Prop where
  kind? {loc : Location} {kind : FileNode.Kind} :
    kept loc → t.kind? loc = some kind → t'.kind? loc = some kind
  dead {loc : Location} :
    ¬kept loc → t.kind? loc ≠ some .directory ∧ ∀ target, t.kind? loc ≠ some (.link target)

theorem GrowsAt.exists_directory {kept : Location → Prop} (hgrows : t.GrowsAt t' kept)
    {entries : List (FileName × FileNode)} (hdir : t.top.node? loc = some (.directory entries)) :
    ∃ entries', t'.top.node? loc = some (.directory entries') := by
  have hkind := kind?_of_node? hdir
  have hkept : kept loc := not_not.mp fun h => (hgrows.dead h).1 hkind
  exact node?_of_kind?_directory (hgrows.kind? hkept hkind)

theorem GrowsAt.exists_lookup {kept : Location → Prop} (hgrows : t.GrowsAt t' kept)
    {entries entries' : List (FileName × FileNode)}
    (hdir : t.top.node? loc = some (.directory entries))
    (hdir' : t'.top.node? loc = some (.directory entries')) {name : FileName} {node : FileNode}
    (hkept : kept (loc ++ [name])) (hname : entries.lookup name = some node) :
    ∃ node', entries'.lookup name = some node' ∧ node'.kind = node.kind := by
  have hkind : t.kind? (loc ++ [name]) = some node.kind := by
    rw [kind?_concat hdir, hname, Option.map_some]
  have hkind' := hgrows.kind? hkept hkind
  rw [kind?_concat hdir'] at hkind'
  exact Option.map_eq_some_iff.mp hkind'

/-- From what is no directory nothing but no steps can be followed. -/
theorem eq_of_follow_of_not_directory {links : Nat} {steps : List PathStep}
    {reached : Location × Nat}
    (hdir : t.kind? loc ≠ some .directory) (h : t.follow links loc steps = .ok reached) :
    reached.1 = loc := by
  cases steps with
  | nil =>
    rw [follow_nil] at h
    cases h
    rfl
  | cons step steps =>
    rw [follow] at h
    split at h
    case h_1 entries hnode => exact absurd (kind?_of_node? hnode) hdir
    case h_2 => cases h

/-- What leads to a location that is kept leads there still. -/
theorem GrowsAt.follow {kept : Location → Prop} (hgrows : t.GrowsAt t' kept) {links : Nat}
    {steps : List PathStep} {reached : Location × Nat}
    (h : t.follow links loc steps = .ok reached) (hreached : kept reached.1) :
    t'.follow links loc steps = .ok reached := by
  fun_induction FileTree.follow t links loc steps with
  | case1 =>
    rw [follow_nil]
    exact h
  | case2 links loc steps entries hdir ih =>
    obtain ⟨entries', hdir'⟩ := hgrows.exists_directory hdir
    rw [FileTree.follow, hdir']
    exact ih h
  | case3 links loc steps entries hdir ih =>
    obtain ⟨entries', hdir'⟩ := hgrows.exists_directory hdir
    rw [FileTree.follow, hdir']
    exact ih h
  | case4 => cases h
  | case5 => cases h
  | case6 loc steps entries hdir name target hname links ih =>
    have hlink : t.kind? (loc ++ [name]) = some (.link target) := by
      rw [kind?_concat hdir, hname]
      rfl
    have hkept : kept (loc ++ [name]) := not_not.mp fun h => (hgrows.dead h).2 target hlink
    obtain ⟨entries', hdir'⟩ := hgrows.exists_directory hdir
    obtain ⟨node', hname', hnode'⟩ := hgrows.exists_lookup hdir hdir' hkept hname
    rw [FileTree.follow, hdir']
    simp only [hname']
    cases node' with
    | link target' =>
      cases hnode'
      exact ih h
    | _ => cases hnode'
  | case7 links loc steps entries hdir name node hlink hname ih =>
    have hkept : kept (loc ++ [name]) := by
      by_contra hdead
      rw [eq_of_follow_of_not_directory (hgrows.dead hdead).1 h] at hreached
      exact hdead hreached
    obtain ⟨entries', hdir'⟩ := hgrows.exists_directory hdir
    obtain ⟨node', hname', hnode'⟩ := hgrows.exists_lookup hdir hdir' hkept hname
    rw [FileTree.follow, hdir']
    simp only [hname']
    cases node' with
    | link target' =>
      cases node with
      | link target => exact absurd rfl (hlink target)
      | _ => cases hnode'
    | _ => exact ih h
  | case8 => cases h
  | case9 => cases h

theorem GrowsAt.leadsTo {kept : Location → Prop} (hgrows : t.GrowsAt t' kept)
    (hhome : t'.home = t.home) {p : FilePath} (h : t.LeadsTo p loc) (hkept : kept loc) :
    t'.LeadsTo p loc := by
  obtain ⟨links, hfollow⟩ := h
  exact ⟨links, hhome ▸ hgrows.follow hfollow hkept⟩

/-- All that is in the first tree is in the second one. -/
def Grows (t t' : FileTree) : Prop := ∀ loc kind, t.kind? loc = some kind → t'.kind? loc = some kind

theorem Grows.refl (t : FileTree) : t.Grows t := fun _ _ h => h

theorem Grows.growsAt (hgrows : t.Grows t') : t.GrowsAt t' fun _ => True :=
  ⟨fun _ h => hgrows _ _ h, fun h => absurd trivial h⟩

theorem LeadsTo.mono {p : FilePath} (hgrows : t.Grows t') (hhome : t'.home = t.home)
    (h : t.LeadsTo p loc) : t'.LeadsTo p loc := hgrows.growsAt.leadsTo hhome h trivial

theorem LeadsTo.descend_of_kind? {p : FilePath} (h : t.LeadsTo p loc) {names : List FileName}
    {kind : FileNode.Kind} (hkind : t.kind? (loc ++ names) = some kind)
    (hlink : ∀ target, kind ≠ .link target) : t.LeadsTo (p.descend names) (loc ++ names) := by
  obtain ⟨found, hfound, rfl⟩ := Option.map_eq_some_iff.mp hkind
  rw [FileNode.node?_append] at hfound
  obtain ⟨node, hnode, hnames⟩ := Option.bind_eq_some_iff.mp hfound
  refine h.descend hnode hnames fun target htarget => hlink target ?_
  rw [htarget]
  rfl

theorem kind?_append_cons (h : t.kind? loc ≠ some .directory) (name : FileName) (rest : Location) :
    t.kind? (loc ++ name :: rest) = none := by
  rw [kind?, FileNode.kind?, FileNode.node?_append]
  cases hnode : t.top.node? loc with
  | none => rfl
  | some node =>
    cases node with
    | directory => exact absurd (kind?_of_node? hnode) h
    | file => rfl
    | link => rfl

theorem kind?_alter {leaf? : Option FileNode} (hleaf : FileNode.IsLeaf leaf?) {dir : Location}
    {name : FileName} (hdir : t.kind? dir = some .directory)
    (hplace : t.kind? (dir ++ [name]) ≠ some .directory) (loc : Location) :
    (t.alter (dir ++ [name]) fun _ => leaf?).kind? loc =
      if loc = dir ++ [name] then leaf?.map FileNode.kind else t.kind? loc := by
  have hbelow : ∀ n loc, t.kind? (dir ++ name :: n :: loc) = none := by
    intro n loc
    have h := kind?_append_cons hplace n loc
    rwa [List.append_assoc, List.singleton_append] at h
  obtain ⟨altered, halter, haltered⟩ := FileNode.kind?_alter hleaf hdir hbelow
  refine Eq.trans ?_ (haltered loc)
  rw [kind?, alter, halter, Option.getD_some]

end FileTree

end Iocost
