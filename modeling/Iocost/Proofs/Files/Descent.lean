import Iocost.Files.Tree
import Iocost.Proofs.Outcome
import Mathlib.Data.List.Induction

/-!
# Going down from a directory

From the path of a directory, names lead down without a link (`locate_descend`), as long as the
path is not too long.
-/

namespace Iocost

namespace FilePath

/-- The path with names below it. -/
def descend (p : FilePath) (names : List FileName) : FilePath :=
  { p with below := p.below ++ names }

theorem descend_nil (p : FilePath) : p.descend [] = p := by
  rw [descend, List.append_nil]

theorem child_eq_descend (p : FilePath) (name : FileName) : p.child name = p.descend [name] := rfl

theorem descend_append (p : FilePath) (a b : List FileName) :
    p.descend (a ++ b) = (p.descend a).descend b := by
  simp only [descend, List.append_assoc]

theorem descend_concat (p : FilePath) (a : List FileName) (name : FileName) :
    p.descend (a ++ [name]) = (p.descend a).child name := p.descend_append a [name]

theorem descend_injective (p : FilePath) : Function.Injective p.descend := fun _ _ h =>
  List.append_cancel_left (congrArg FilePath.below h)

theorem parts_descend (p : FilePath) (names : List FileName) :
    (p.descend names).parts = p.parts ++ names.map .name := by
  change _ ++ (p.below ++ names).map PathStep.name = _
  rw [List.map_append, ← List.append_assoc]
  rfl

theorem isSame_refl (p : FilePath) : p.isSame p = true := by
  simp [isSame]

theorem isSame_descend_concat (p : FilePath) (names : List FileName) (name : FileName) :
    (p.descend (names ++ [name])).isSame p = false := by
  rw [isSame, Bool.and_eq_false_iff]
  refine .inr (beq_eq_false_iff_ne.mpr fun h => ?_)
  have hlength := congrArg List.length h
  rw [parts_descend, List.length_append, List.length_map, List.length_append] at hlength
  simp at hlength

theorem lastPart?_child (p : FilePath) (name : FileName) :
    (p.child name).lastPart? = some name.bytes := by
  rw [lastPart?, child_eq_descend, parts_descend, List.map_singleton, List.getLast?_concat]

theorem steps_descend (p : FilePath) (names : List FileName) :
    (p.descend names).steps = p.steps ++ names.map .name := by
  simp only [steps, descend, List.map_append, List.append_assoc]

/-! ## Lengths -/

theorem length_le_length_join (path rest : List UInt8) :
    path.length ≤ (join path rest).length := by
  unfold join
  split <;> simp

theorem bytes_child (p : FilePath) (name : FileName) :
    (p.child name).bytes = join p.bytes name.bytes := by
  simp only [bytes, child, List.foldl_append, List.foldl_cons, List.foldl_nil]

theorem length_bytes_le_child (p : FilePath) (name : FileName) :
    p.bytes.length ≤ (p.child name).bytes.length := by
  rw [bytes_child]
  exact length_le_length_join _ _

theorem length_bytes_child_le (p : FilePath) (name : FileName) :
    (p.child name).bytes.length ≤ p.bytes.length + (nameLimit + 1) := by
  have hname : name.bytes.length ≤ nameLimit := by
    have hvalid := name.isFileName_bytes
    simp only [isFileName, Bool.and_eq_true, decide_eq_true_eq] at hvalid
    exact hvalid.1.2
  rw [bytes_child, join]
  split <;> simp only [List.length_append, List.length_cons] <;> omega

/-- Each name makes a path longer by no more than the longest name and a slash. -/
theorem length_bytes_descend_le (p : FilePath) (names : List FileName) :
    (p.descend names).bytes.length ≤ p.bytes.length + (nameLimit + 1) * names.length := by
  induction names using List.reverseRecOn with
  | nil => exact Nat.le_of_eq (congrArg (fun q => q.bytes.length) p.descend_nil)
  | append_singleton names name ih =>
    rw [descend_concat, List.length_append, List.length_singleton, Nat.mul_succ, ← Nat.add_assoc]
    exact Nat.le_trans (length_bytes_child_le _ _) (Nat.add_le_add_right ih _)

end FilePath

namespace FileNode

theorem eq_directory_of_node?_cons {node found : FileNode} {name : FileName} {names : Location}
    (h : node.node? (name :: names) = some found) :
    ∃ entries below, node = .directory entries ∧ entries.lookup name = some below ∧
      below.node? names = some found := by
  cases node with
  | file => cases h
  | link => cases h
  | directory entries =>
    obtain ⟨below, hlookup, hbelow⟩ := Option.bind_eq_some_iff.mp h
    exact ⟨entries, below, rfl, hlookup, hbelow⟩

theorem eq_directory_of_node?_directory {node : FileNode} {names : Location}
    {entries : List (FileName × FileNode)} (h : node.node? names = some (.directory entries)) :
    ∃ outside, node = .directory outside := by
  cases names with
  | nil =>
    cases h
    exact ⟨entries, rfl⟩
  | cons name names =>
    obtain ⟨outside, -, hdir, -⟩ := eq_directory_of_node?_cons h
    exact ⟨outside, hdir⟩

theorem ne_link_of_node? {node found : FileNode} {names : Location}
    (h : node.node? names = some found) (hlink : ∀ target, found ≠ .link target)
    (target : List UInt8) : node ≠ .link target := by
  rintro rfl
  cases names with
  | nil => exact hlink target (Option.some.inj h).symm
  | cons => cases h

end FileNode

namespace FileTree

variable {t : FileTree} {p : FilePath} {loc : Location}

theorem follow_name {links : Nat} {name : FileName} {entries : List (FileName × FileNode)}
    {node : FileNode} (hloc : t.top.node? loc = some (.directory entries))
    (hlookup : entries.lookup name = some node) (hlink : ∀ target, node ≠ .link target) :
    t.follow links loc [.name name] = .ok (loc ++ [name], links) := by
  rw [follow, hloc]
  cases node with
  | link target => exact absurd rfl (hlink target)
  | _ =>
    simp only [hlookup]
    exact follow_nil

/-- What is in directories is reached name by name, unless it is a link. -/
theorem follow_names {links : Nat} {names : List FileName} {node found : FileNode}
    (hloc : t.top.node? loc = some node) (h : node.node? names = some found)
    (hlink : ∀ target, found ≠ .link target) :
    t.follow links loc (names.map .name) = .ok (loc ++ names, links) := by
  induction names generalizing loc node with
  | nil => rw [List.map_nil, follow_nil, List.append_nil]
  | cons name names ih =>
    obtain ⟨entries, below, rfl, hlookup, hbelow⟩ := FileNode.eq_directory_of_node?_cons h
    have hnode : t.top.node? (loc ++ [name]) = some below := by
      rw [FileNode.node?_append, hloc, Option.bind_some, FileNode.node?, hlookup, Option.bind_some,
        FileNode.node?]
    rw [List.map_cons, ← List.singleton_append, follow_append,
      follow_name hloc hlookup (FileNode.ne_link_of_node? hbelow hlink)]
    have hrest := ih hnode hbelow
    rw [List.append_assoc] at hrest
    exact hrest

/-- The steps of a path lead to a location. -/
def LeadsTo (t : FileTree) (p : FilePath) (loc : Location) : Prop :=
  ∃ links, t.follow linkLimit (origin p.base t.home) p.steps = .ok (loc, links)

theorem LeadsTo.descend {names : List FileName} {node found : FileNode} (h : t.LeadsTo p loc)
    (hnode : t.top.node? loc = some node) (hnames : node.node? names = some found)
    (hlink : ∀ target, found ≠ .link target) : t.LeadsTo (p.descend names) (loc ++ names) := by
  obtain ⟨links, hfollow⟩ := h
  refine ⟨links, ?_⟩
  have hbase : (p.descend names).base = p.base := rfl
  rw [FilePath.steps_descend, follow_append, hbase, hfollow]
  exact follow_names hnode hnames hlink

theorem locate_eq_ok (h : t.locate p = .ok loc) :
    p.base.contains 0 = false ∧ (p.base.isEmpty && p.below.isEmpty) = false ∧
      p.bytes.length ≤ pathLimit ∧ t.LeadsTo p loc := by
  unfold locate at h
  split_ifs at h with hzero hempty hlong
  refine ⟨Bool.eq_false_iff.mpr hzero, Bool.eq_false_iff.mpr hempty, Nat.le_of_not_lt hlong, ?_⟩
  obtain ⟨⟨_, links⟩, hfollow, rfl⟩ := Except.exists_of_map_eq_ok h
  exact ⟨links, hfollow⟩

/-- A path that is given as it should be leads where its steps do. -/
theorem locate_eq (hzero : p.base.contains 0 = false)
    (hempty : (p.base.isEmpty && p.below.isEmpty) = false) (hlong : p.bytes.length ≤ pathLimit) :
    t.locate p = (t.follow linkLimit (origin p.base t.home) p.steps).map Prod.fst := by
  unfold locate
  rw [if_neg (Bool.eq_false_iff.mp hzero), if_neg (Bool.eq_false_iff.mp hempty),
    if_neg (Nat.not_lt.mpr hlong)]

theorem locate_of_leadsTo (hzero : p.base.contains 0 = false)
    (hempty : (p.base.isEmpty && p.below.isEmpty) = false) (hlong : p.bytes.length ≤ pathLimit)
    (h : t.LeadsTo p loc) : t.locate p = .ok loc := by
  obtain ⟨links, hfollow⟩ := h
  rw [locate_eq hzero hempty hlong, hfollow]
  rfl

theorem nodeAt_eq_ok {node : FileNode} (h : t.nodeAt p = .ok node) :
    ∃ loc, t.locate p = .ok loc ∧ t.top.node? loc = some node := by
  obtain ⟨loc, hlocate, hat⟩ := Except.exists_of_bind_eq_ok h
  refine ⟨loc, hlocate, ?_⟩
  cases hnode : t.top.node? loc with
  | none =>
    rw [hnode] at hat
    cases hat
  | some found =>
    rw [hnode] at hat
    cases hat
    rfl

theorem nodeAt_of_locate {node : FileNode} (hloc : t.locate p = .ok loc)
    (hnode : t.top.node? loc = some node) : t.nodeAt p = .ok node := by
  simp only [nodeAt, hloc, Except.bind, hnode]

section

variable {t : FileTree} {entries : List (FileName × FileNode)} (htop : t.top = .directory entries)

include htop

/-- A slash leads to the top. -/
theorem leadsTo_slash : t.LeadsTo (.ofString "/") [] := by
  have hsteps : (FilePath.ofString "/").steps = [.here] := by decide
  have hat : t.top.node? [] = some (.directory entries) := by
    rw [htop]
    rfl
  have horigin : origin (FilePath.ofString "/").base t.home = [] := rfl
  refine ⟨linkLimit, ?_⟩
  rw [horigin, hsteps, follow, hat]
  exact follow_nil

theorem locate_slash : t.locate (.ofString "/") = .ok [] :=
  locate_of_leadsTo rfl rfl (by decide) (leadsTo_slash htop)

theorem nodeAt_slash : t.nodeAt (.ofString "/") = .ok t.top :=
  nodeAt_of_locate (locate_slash htop) rfl

end

/-- Below a path that is given as it should be, those that fit lead where the names do. -/
theorem locate_descend_eq (h : t.locate p = .ok loc) {names : List FileName}
    (hlength : (p.descend names).bytes.length ≤ pathLimit) :
    ∃ links, t.locate (p.descend names) =
      (t.follow links loc (names.map .name)).map Prod.fst := by
  obtain ⟨hzero, hempty, -, links, hfollow⟩ := locate_eq_ok h
  have hbase : (p.descend names).base = p.base := rfl
  have hbelow : (p.base.isEmpty && (p.descend names).below.isEmpty) = false := by
    simp only [Bool.and_eq_false_iff, List.isEmpty_eq_false_iff] at hempty ⊢
    exact hempty.imp_right fun hne => List.append_ne_nil_of_left_ne_nil hne names
  have hlocate : t.locate (p.descend names) = _ := locate_eq hzero hbelow hlength
  refine ⟨links, ?_⟩
  rw [hlocate, FilePath.steps_descend, follow_append, hbase, hfollow]
  rfl

theorem locate_descend {names : List FileName} {node found : FileNode} (h : t.locate p = .ok loc)
    (hnode : t.top.node? loc = some node) (hnames : node.node? names = some found)
    (hlink : ∀ target, found ≠ .link target)
    (hlength : (p.descend names).bytes.length ≤ pathLimit) :
    t.locate (p.descend names) = .ok (loc ++ names) := by
  obtain ⟨links, hlocate⟩ := locate_descend_eq h hlength
  rw [hlocate, follow_names hnode hnames hlink]
  rfl

theorem nodeAt_descend {names : List FileName} {node found : FileNode} (h : t.nodeAt p = .ok node)
    (hnames : node.node? names = some found) (hlink : ∀ target, found ≠ .link target)
    (hlength : (p.descend names).bytes.length ≤ pathLimit) :
    t.nodeAt (p.descend names) = .ok found := by
  obtain ⟨loc, hlocate, hnode⟩ := nodeAt_eq_ok h
  refine nodeAt_of_locate (locate_descend hlocate hnode hnames hlink hlength) ?_
  rw [FileNode.node?_append, hnode, Option.bind_some, hnames]

theorem length_bytes_le_of_nodeAt {node : FileNode} (h : t.nodeAt p = .ok node) :
    p.bytes.length ≤ pathLimit := by
  obtain ⟨loc, hlocate, -⟩ := nodeAt_eq_ok h
  exact (locate_eq_ok hlocate).2.2.1

end FileTree

end Iocost
