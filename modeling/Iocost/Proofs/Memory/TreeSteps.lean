import Iocost.Memory.Tree
import Iocost.Proofs.Files.Writing

/-!
# Trees of files made step by step

Changes that put directories and files below an empty directory succeed if each has its directory
among those before it (`Grounded`) and none contradicts another one (`Consistent`). The tree then
has below that directory what the changes say, and nothing else (`TreeStep.exists_foldlM`).
-/

namespace Iocost.MemoryHierarchy

namespace TreeStep

/-- Where a change puts something. -/
def path : TreeStep → FilePath
  | directory path => path
  | file path _ => path

/-- What a change puts there. -/
def kind (inodeOf : FilePath → UInt64) : TreeStep → FileNode.Kind
  | directory _ => .directory
  | file path content => .file (inodeOf path) (Text.encode content)

/-- The change is made below a directory that is among the changes `done`, or it makes the directory
of the root. -/
def IsGrounded (root : FilePath) (done : List TreeStep) (step : TreeStep) : Prop :=
  step = directory root ∨ ∃ names name,
    directory (root.descend names) ∈ done ∧ step.path = root.descend (names ++ [name])

/-- Each change is grounded in those before it and in those already done. -/
def Grounded (root : FilePath) : List TreeStep → List TreeStep → Prop
  | _, [] => True
  | done, step :: steps => IsGrounded root done step ∧ Grounded root (step :: done) steps

/-- No two changes put different things in one place. -/
def Consistent (steps : List TreeStep) : Prop :=
  ∀ step ∈ steps, ∀ other ∈ steps, step.path = other.path → step = other

variable {root : FilePath} {done done' steps steps' : List TreeStep}

theorem IsGrounded.mono {step : TreeStep} (h : IsGrounded root done step) (hdone : done ⊆ done') :
    IsGrounded root done' step := by
  rcases h with rfl | ⟨names, name, hmem, hpath⟩
  · exact .inl rfl
  · exact .inr ⟨names, name, hdone hmem, hpath⟩

theorem Grounded.mono (h : Grounded root done steps) (hdone : done ⊆ done') :
    Grounded root done' steps := by
  induction steps generalizing done done' with
  | nil => trivial
  | cons step steps ih => exact ⟨h.1.mono hdone, ih h.2 (List.cons_subset_cons step hdone)⟩

theorem Grounded.append (h : Grounded root done steps)
    (h' : Grounded root (steps ++ done) steps') : Grounded root done (steps ++ steps') := by
  induction steps generalizing done with
  | nil => exact h'
  | cons step steps ih =>
    refine ⟨h.1, ih h.2 (h'.mono fun s hs => ?_)⟩
    rcases List.mem_append.mp hs with hs | hs
    · rcases List.mem_cons.mp hs with rfl | hs
      · exact List.mem_append_right _ List.mem_cons_self
      · exact List.mem_append_left _ hs
    · exact List.mem_append_right _ (List.mem_cons_of_mem step hs)

/-- Lists of changes that need no more than `done` may be put together. -/
theorem Grounded.flatMap {α : Type} {items : List α} {f : α → List TreeStep}
    (h : ∀ a ∈ items, Grounded root done (f a)) : Grounded root done (items.flatMap f) := by
  induction items with
  | nil => trivial
  | cons a items ih =>
    obtain ⟨ha, hitems⟩ := List.forall_mem_cons.mp h
    exact ha.append ((ih hitems).mono (List.subset_append_right _ _))

theorem Grounded.of_forall (h : ∀ step ∈ steps, IsGrounded root done step) :
    Grounded root done steps := by
  induction steps generalizing done with
  | nil => trivial
  | cons step steps ih =>
    obtain ⟨hstep, hsteps⟩ := List.forall_mem_cons.mp h
    exact ⟨hstep, ih fun s hs => (hsteps s hs).mono (List.subset_cons_self step done)⟩

/-! ## What the changes made so far have come to -/

/-- The tree `t` is `start` with what the changes `done` put below the location of the root. -/
structure Made (root : FilePath) (inodeOf : FilePath → UInt64) (start : FileTree) (loc : Location)
    (done : List TreeStep) (t : FileTree) : Prop where
  home : t.home = start.home
  grows : start.Grows t
  below (names : List FileName) (kind : FileNode.Kind) : names ≠ [] →
    (t.kind? (loc ++ names) = some kind ↔
      ∃ step ∈ done, step.path = root.descend names ∧ step.kind inodeOf = kind)

variable {inodeOf : FilePath → UInt64} {start t : FileTree} {loc : Location}

theorem made_nil (hempty : start.top.node? loc = some (.directory [])) :
    Made root inodeOf start loc [] start where
  home := rfl
  grows := .refl start
  below names kind hnames := by
    obtain ⟨name, names, rfl⟩ := List.exists_cons_of_ne_nil hnames
    refine ⟨fun h => ?_, nofun⟩
    rw [FileTree.kind?, FileNode.kind?, FileNode.node?_append, hempty] at h
    cases h

/-- Below a directory a change puts what it says, where nothing else is. -/
theorem exists_apply_child {step : TreeStep} {p : FilePath} {dir : Location} {name : FileName}
    (hleads : t.LeadsTo p dir) (hdir : t.kind? dir = some .directory)
    (hpath : step.path = p.child name)
    (hplace : ∀ kind, t.kind? (dir ++ [name]) = some kind → kind = step.kind inodeOf) :
    ∃ t', step.apply inodeOf t = .ok t' ∧ t'.home = t.home ∧
      ∀ l, t'.kind? l = if l = dir ++ [name] then some (step.kind inodeOf) else t.kind? l := by
  cases step with
  | directory path =>
    obtain rfl : path = p.child name := hpath
    cases hkind : t.kind? (dir ++ [name]) with
    | none =>
      refine ⟨_, FileTree.putDirectory_child hleads hdir hkind, rfl, fun l => ?_⟩
      exact FileTree.kind?_alter FileNode.isLeaf_directory_nil hdir (hkind ▸ nofun) l
    | some kind =>
      obtain rfl := hplace kind hkind
      have hchild : t.LeadsTo (p.child name) (dir ++ [name]) :=
        hleads.descend_of_kind? hkind nofun
      refine ⟨t, FileTree.putDirectory_of_leadsTo hchild, rfl, fun l => ?_⟩
      split
      case isTrue h => rw [h, hkind]
      case isFalse => rfl
  | file path content =>
    obtain rfl : path = p.child name := hpath
    have hold : t.kind? (dir ++ [name]) = none ∨ ∃ old,
        t.kind? (dir ++ [name]) = some (.file (inodeOf (p.child name)) old) := by
      cases hkind : t.kind? (dir ++ [name]) with
      | none => exact .inl rfl
      | some kind =>
        obtain rfl := hplace kind hkind
        exact .inr ⟨_, rfl⟩
    refine ⟨_, FileTree.writeFile_child _ hleads hold, rfl, fun l => ?_⟩
    refine FileTree.kind?_alter (FileNode.isLeaf_file _ _) hdir ?_ l
    rcases hold with h | ⟨old, h⟩ <;> (rw [h]; exact nofun)

section

variable (hroot : start.LeadsTo root loc) (hempty : start.top.node? loc = some (.directory []))

include hroot hempty

omit hroot in
/-- A directory that has been made is there. -/
theorem Made.directory (hmade : Made root inodeOf start loc done t) {names : List FileName}
    (hmem : TreeStep.directory (root.descend names) ∈ done) :
    t.kind? (loc ++ names) = some .directory := by
  by_cases hnames : names = []
  · rw [hnames, List.append_nil]
    exact hmade.grows _ _ (FileTree.kind?_of_node? hempty)
  · exact (hmade.below names .directory hnames).mpr ⟨_, hmem, rfl, rfl⟩

omit hempty in
theorem Made.leadsTo (hmade : Made root inodeOf start loc done t) : t.LeadsTo root loc :=
  hroot.mono hmade.grows hmade.home

omit hroot hempty in
/-- The changes so far and one more, which has put what it says at its place and changed nothing
else. -/
theorem Made.cons (hmade : Made root inodeOf start loc done t) {t' : FileTree} {step : TreeStep}
    {place : List FileName} (hpath : step.path = root.descend place)
    (hplace : ∀ kind, t.kind? (loc ++ place) = some kind → kind = step.kind inodeOf)
    (hconsistent : ∀ other ∈ done, other.path = step.path → other = step)
    (hhome : t'.home = t.home)
    (hkinds : ∀ l, t'.kind? l = if l = loc ++ place then some (step.kind inodeOf) else t.kind? l) :
    Made root inodeOf start loc (step :: done) t' where
  home := hhome.trans hmade.home
  grows l kind hl := by
    have hkind := hmade.grows l kind hl
    rw [hkinds]
    split
    case isTrue heq => rw [hplace kind (heq ▸ hkind)]
    case isFalse => exact hkind
  below names kind hnames := by
    rw [hkinds]
    split
    case isTrue heq =>
      obtain rfl := List.append_cancel_left heq
      refine ⟨fun h => ⟨step, List.mem_cons_self, hpath, Option.some.inj h⟩, fun h => ?_⟩
      obtain ⟨other, hother, hotherPath, rfl⟩ := h
      rcases List.mem_cons.mp hother with rfl | hother
      · rfl
      · rw [hconsistent other hother (hotherPath.trans hpath.symm)]
    case isFalse hne =>
      have hpath' : step.path ≠ root.descend names := fun h =>
        hne (congrArg (loc ++ ·) (root.descend_injective (h.symm.trans hpath)))
      rw [hmade.below names kind hnames]
      simp only [List.exists_mem_cons_iff, hpath', false_and, false_or]

theorem Made.exists_apply (hmade : Made root inodeOf start loc done t) {step : TreeStep}
    (hground : IsGrounded root done step)
    (hconsistent : ∀ other ∈ done, other.path = step.path → other = step) :
    ∃ t', step.apply inodeOf t = .ok t' ∧ Made root inodeOf start loc (step :: done) t' := by
  rcases hground with rfl | ⟨names, name, hmem, hpath⟩
  · refine ⟨t, FileTree.putDirectory_of_leadsTo (hmade.leadsTo hroot), hmade.home,
      hmade.grows, fun names kind hnames => ?_⟩
    rw [hmade.below names kind hnames]
    have hne : root ≠ root.descend names := fun h =>
      hnames (root.descend_injective (h.symm.trans root.descend_nil.symm))
    simp only [List.exists_mem_cons_iff, path, hne, false_and, false_or]
  · have hdir := hmade.directory hempty hmem
    have hplace : ∀ kind, t.kind? (loc ++ (names ++ [name])) = some kind →
        kind = step.kind inodeOf := by
      intro kind hkind
      obtain ⟨other, hother, hotherPath, rfl⟩ :=
        (hmade.below _ kind (List.concat_ne_nil name names)).mp hkind
      rw [hconsistent other hother (hotherPath.trans hpath.symm)]
    have hpath' : step.path = (root.descend names).child name :=
      hpath.trans (root.descend_concat names name)
    rw [← List.append_assoc] at hplace
    obtain ⟨t', happly, hhome, hkinds⟩ :=
      exists_apply_child ((hmade.leadsTo hroot).descend_of_kind? hdir nofun) hdir hpath' hplace
    rw [List.append_assoc] at hplace hkinds
    exact ⟨t', happly, hmade.cons hpath hplace hconsistent hhome hkinds⟩

theorem Made.exists_foldlM (hmade : Made root inodeOf start loc done t)
    (hground : Grounded root done steps) (hconsistent : Consistent (steps.reverse ++ done)) :
    ∃ t', steps.foldlM (TreeStep.apply inodeOf) t = .ok t' ∧
      Made root inodeOf start loc (steps.reverse ++ done) t' := by
  induction steps generalizing done t with
  | nil => exact ⟨t, rfl, hmade⟩
  | cons step steps ih =>
    rw [List.reverse_cons, List.append_assoc, List.singleton_append] at hconsistent ⊢
    have hstep : ∀ other ∈ done, other.path = step.path → other = step := fun other hother =>
      hconsistent other (List.mem_append_right _ (List.mem_cons_of_mem _ hother)) step
        (List.mem_append_right _ List.mem_cons_self)
    obtain ⟨t', happly, hmade'⟩ := hmade.exists_apply hroot hempty hground.1 hstep
    obtain ⟨t'', hfold, hmade''⟩ := ih hmade' hground.2 hconsistent
    refine ⟨t'', ?_, hmade''⟩
    rw [List.foldlM_cons, happly]
    exact hfold

/-- Grounded and consistent changes below an empty directory are made, and nothing else. -/
theorem exists_foldlM (hground : Grounded root [] steps) (hconsistent : Consistent steps) :
    ∃ t, steps.foldlM (TreeStep.apply inodeOf) start = .ok t ∧
      Made root inodeOf start loc steps.reverse t := by
  have hreverse : Consistent (steps.reverse ++ []) := fun step hstep other hother =>
    hconsistent step (by simpa using hstep) other (by simpa using hother)
  have hstart : Made root inodeOf start loc [] start := made_nil hempty
  have hrun := hstart.exists_foldlM hroot hempty hground hreverse
  rwa [List.append_nil] at hrun

end

end TreeStep

end Iocost.MemoryHierarchy
