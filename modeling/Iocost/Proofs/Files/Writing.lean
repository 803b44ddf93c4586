import Iocost.Proofs.Files.Kinds
import Iocost.Proofs.Files.PathText
import Iocost.Proofs.Text.Pieces

/-!
# Putting directories and files below a directory

The text of a path is cut into the steps to its names again, without the dot for a slash at the end
of what is above them (`FilePath.ofBytes_bytes_child`). So below the path of a directory a directory
or a file is put where its name leads, and nothing else is made
(`FileTree.putDirectory_child`, `FileTree.writeFile_child`).
-/

namespace Iocost

theorem FilePath.getLast?_join (path : List UInt8) (name : FileName) :
    (join path name.bytes).getLast? = name.bytes.getLast? := by
  unfold join
  split
  · exact List.getLast?_append_of_ne_nil path name.bytes_ne_nil
  · rw [List.getLast?_append_cons, List.getLast?_cons_of_ne_nil name.bytes_ne_nil]

theorem FilePath.head?_join (path : List UInt8) (name : FileName) :
    (join path name.bytes).head? = some 47 ↔ path.head? = some 47 := by
  unfold join
  cases path with
  | nil =>
    refine ⟨fun h => absurd ?_ name.slash_not_mem_bytes, nofun⟩
    exact List.mem_of_head? h
  | cons b path => split <;> exact Iff.rfl

namespace PathStep

/-- The steps between the slashes of a text, whatever it ends in. -/
def plain (bytes : List UInt8) : List PathStep :=
  (Text.pieces (· == 47) bytes).filterMap ofPiece?

theorem plain_append_slash (a b : List UInt8) : plain (a ++ 47 :: b) = plain a ++ plain b := by
  rw [plain, Text.pieces_append_separator (p := fun b => b == 47) rfl, List.filterMap_append, plain,
    plain]

theorem ofPiece?_bytes (name : FileName) : ofPiece? name.bytes = some (.name name) := by
  have h := name.isFileName_bytes
  simp only [isFileName, Bool.and_eq_true, bne_iff_ne, ne_eq] at h
  rw [ofPiece?, if_neg name.bytes_ne_nil, if_neg h.1.1.1.2, if_neg h.1.1.2, FileName.ofBytes?,
    dif_pos name.isFileName_bytes]

theorem plain_bytes (name : FileName) : plain name.bytes = [.name name] := by
  have hpieces : Text.pieces (· == 47) name.bytes = [name.bytes] := by
    refine Text.pieces_of_forall fun b hb => beq_eq_false_iff_ne.mpr ?_
    rintro rfl
    exact name.slash_not_mem_bytes hb
  rw [plain, hpieces, List.filterMap_cons, ofPiece?_bytes, List.filterMap_nil]

theorem plain_join (path : List UInt8) (name : FileName) :
    plain (FilePath.join path name.bytes) = plain path ++ [.name name] := by
  unfold FilePath.join
  split
  case isFalse => rw [plain_append_slash, plain_bytes]
  case isTrue h =>
    rcases Bool.or_eq_true_iff.mp h with hempty | hslash
    · obtain rfl := List.isEmpty_iff.mp hempty
      exact plain_bytes name
    · obtain ⟨path, rfl⟩ := List.getLast?_eq_some_iff.mp (eq_of_beq hslash)
      rw [List.append_assoc, List.singleton_append, plain_append_slash, plain_append_slash,
        plain_bytes]
      exact congrArg (· ++ _) (List.append_nil _).symm

theorem ofBytes_join (path : List UInt8) (name : FileName) :
    ofBytes (FilePath.join path name.bytes) = plain path ++ [.name name] := by
  have hlast : (FilePath.join path name.bytes).getLast? ≠ some 47 := by
    rw [FilePath.getLast?_join]
    exact fun h => name.slash_not_mem_bytes (List.mem_of_getLast? h)
  rw [ofBytes, if_neg hlast, List.append_nil]
  exact plain_join path name

end PathStep

namespace FilePath

/-- The steps of a path, without those for a slash at its end. -/
def plainSteps (p : FilePath) : List PathStep := PathStep.plain p.base ++ p.below.map .name

theorem plainSteps_child (p : FilePath) (name : FileName) :
    (p.child name).plainSteps = p.plainSteps ++ [.name name] := by
  rw [plainSteps, child, List.map_append, ← List.append_assoc]
  rfl

/-- Every path is that of a text or one below another path. -/
theorem induct {motive : FilePath → Prop} (base : ∀ bytes, motive { base := bytes })
    (child : ∀ p name, motive p → motive (p.child name)) (p : FilePath) : motive p := by
  obtain ⟨bytes, below⟩ := p
  induction below using List.reverseRecOn with
  | nil => exact base bytes
  | append_singleton below name ih => exact child _ name ih

theorem plain_bytes (p : FilePath) : PathStep.plain p.bytes = p.plainSteps := by
  induction p using induct with
  | base bytes => exact (List.append_nil _).symm
  | child p name ih => rw [bytes_child, PathStep.plain_join, ih, plainSteps_child]

theorem ofBytes_bytes_child (p : FilePath) (name : FileName) :
    PathStep.ofBytes (p.child name).bytes = p.plainSteps ++ [.name name] := by
  rw [bytes_child, PathStep.ofBytes_join, plain_bytes]

end FilePath

namespace FileTree

variable {t : FileTree} {p : FilePath} {links : Nat} {loc : Location}

theorem origin_bytes (p : FilePath) (loc : Location) : origin p.bytes loc = origin p.base loc := by
  induction p using FilePath.induct with
  | base bytes => rfl
  | child p name ih =>
    rw [FilePath.bytes_child, origin]
    exact (if_congr (FilePath.head?_join p.bytes name) rfl rfl).trans ih

theorem follow_here {steps : List PathStep} {reached : Location × Nat}
    (h : t.follow links loc (.here :: steps) = .ok reached) :
    t.follow links loc steps = .ok reached := by
  rw [follow] at h
  split at h
  · exact h
  · cases h

/-- A slash at the end of a text asks for no more than the names behind it do. -/
theorem follow_plainSteps {reached : Location × Nat}
    (h : t.follow links loc p.steps = .ok reached) :
    t.follow links loc p.plainSteps = .ok reached := by
  unfold FilePath.steps PathStep.ofBytes at h
  unfold FilePath.plainSteps PathStep.plain
  split at h
  case isFalse => rwa [List.append_nil] at h
  case isTrue =>
    rw [List.append_assoc, follow_append] at h
    rw [follow_append]
    obtain ⟨above, hplain, h⟩ := Except.exists_of_bind_eq_ok h
    rw [hplain]
    exact follow_here h

theorem follow_ofBytes_bytes {reached : Location × Nat}
    (h : t.follow links loc p.steps = .ok reached) :
    t.follow links loc (PathStep.ofBytes p.bytes) = .ok reached := by
  induction p using FilePath.induct with
  | base bytes => exact (List.append_nil (PathStep.ofBytes bytes)) ▸ h
  | child p name =>
    rw [FilePath.ofBytes_bytes_child, ← FilePath.plainSteps_child]
    exact follow_plainSteps h

/-- Where steps lead, all directories that they ask for are there. -/
theorem makeDirectories_append {a b : List PathStep} {reached : Location × Nat}
    (h : t.follow links loc a = .ok reached) :
    t.makeDirectories links loc (a ++ b) = t.makeDirectories reached.2 reached.1 b := by
  fun_induction follow t links loc a with
  | case1 =>
    cases h
    rfl
  | case2 links loc steps entries hdir ih =>
    rw [List.cons_append, makeDirectories, hdir]
    exact ih h
  | case3 links loc steps entries hdir ih =>
    rw [List.cons_append, makeDirectories, hdir]
    exact ih h
  | case4 => cases h
  | case5 => cases h
  | case6 loc steps entries hdir name target hname links ih =>
    rw [List.cons_append, makeDirectories, hdir]
    simp only [hname]
    rw [← List.append_assoc]
    exact ih h
  | case7 links loc steps entries hdir name node hlink hname ih =>
    rw [List.cons_append, makeDirectories, hdir]
    cases node with
    | link target => exact absurd rfl (hlink target)
    | _ =>
      simp only [hname]
      exact ih h
  | case8 => cases h
  | case9 => cases h

theorem makeDirectories_child (name : FileName) (h : t.LeadsTo p loc) :
    ∃ links, t.makeDirectories linkLimit (origin (p.child name).bytes t.home) p.plainSteps =
        .ok (t, loc) ∧
      t.makeDirectories linkLimit (origin (p.child name).bytes t.home)
        (PathStep.ofBytes (p.child name).bytes) = t.makeDirectories links loc [.name name] := by
  obtain ⟨links, hfollow⟩ := h
  have hplain := follow_plainSteps hfollow
  have horigin : origin (p.child name).bytes t.home = origin p.base t.home := origin_bytes _ _
  refine ⟨links, ?_, ?_⟩
  · rw [horigin, ← List.append_nil p.plainSteps, makeDirectories_append hplain, makeDirectories]
  · rw [horigin, FilePath.ofBytes_bytes_child, makeDirectories_append hplain]

theorem putDirectory_of_leadsTo (h : t.LeadsTo p loc) : t.putDirectory p.bytes = .ok t := by
  obtain ⟨links, hfollow⟩ := h
  rw [putDirectory, origin_bytes, ← List.append_nil (PathStep.ofBytes p.bytes),
    makeDirectories_append (follow_ofBytes_bytes hfollow), makeDirectories]
  rfl

theorem putDirectory_child {name : FileName} (h : t.LeadsTo p loc)
    (hdir : t.kind? loc = some .directory) (hfresh : t.kind? (loc ++ [name]) = none) :
    t.putDirectory (p.child name).bytes =
      .ok (t.alter (loc ++ [name]) fun _ => some (.directory [])) := by
  obtain ⟨links, -, hmake⟩ := makeDirectories_child name h
  obtain ⟨entries, hnode⟩ := node?_of_kind?_directory hdir
  have hlookup : entries.lookup name = none := by
    rwa [kind?_concat hnode, Option.map_eq_none_iff] at hfresh
  rw [putDirectory, hmake, makeDirectories, hnode]
  simp only [hlookup, makeDirectories]
  rfl

theorem putParent_child (name : FileName) (h : t.LeadsTo p loc) :
    t.putParent (p.child name).bytes = .ok (t, loc, name) := by
  obtain ⟨-, hmake, -⟩ := makeDirectories_child name h
  rw [putParent, FilePath.ofBytes_bytes_child]
  simp only [List.getLast?_concat, List.dropLast_concat, hmake]
  rfl

/-- A file in the place of another one keeps its number. -/
theorem writeFile_child_of_file {name : FileName} {kept : UInt64} {old : List UInt8}
    (inode : UInt64) (content : List UInt8) (h : t.LeadsTo p loc)
    (hplace : t.kind? (loc ++ [name]) = some (.file kept old)) :
    t.writeFile (p.child name).bytes inode content =
      .ok (t.alter (loc ++ [name]) fun _ => some (.file kept content)) := by
  obtain ⟨node, hnode, hkind⟩ := Option.map_eq_some_iff.mp hplace
  cases node with
  | directory => cases hkind
  | link => cases hkind
  | file =>
    cases hkind
    have hput : t.placeOfFile linkLimit loc name = .ok (loc ++ [name]) := by
      rw [placeOfFile, hnode]
    simp only [writeFile, putParent_child name h, bind, Except.bind, hput, hnode]
    rfl

/-- A file is put where nothing is, or in the place of a file, whose number it keeps. -/
theorem writeFile_child {name : FileName} {inode : UInt64} (content : List UInt8)
    (h : t.LeadsTo p loc) (hplace : t.kind? (loc ++ [name]) = none ∨
      ∃ old, t.kind? (loc ++ [name]) = some (.file inode old)) :
    t.writeFile (p.child name).bytes inode content =
      .ok (t.alter (loc ++ [name]) fun _ => some (.file inode content)) := by
  rcases hplace with hnone | ⟨old, hold⟩
  · have hnode : t.top.node? (loc ++ [name]) = none := Option.map_eq_none_iff.mp hnone
    have hput : t.placeOfFile linkLimit loc name = .ok (loc ++ [name]) := by
      rw [placeOfFile, hnode]
    simp only [writeFile, putParent_child name h, bind, Except.bind, hput, hnode]
    rfl
  · exact writeFile_child_of_file inode content h hold

theorem remove_child (name : FileName) (h : t.LeadsTo p loc) :
    t.remove (p.child name).bytes = .ok (t.alter (loc ++ [name]) fun _ => none) := by
  obtain ⟨links, hfollow⟩ := h
  have hsteps : (PathStep.ofBytes (p.child name).bytes).reverse.dropWhile (· == .here) =
      .name name :: p.plainSteps.reverse := by
    rw [FilePath.ofBytes_bytes_child, List.reverse_concat]
    exact List.dropWhile_cons_of_neg Bool.false_ne_true
  have horigin : origin (p.child name).bytes t.home = origin p.base t.home := origin_bytes _ _
  simp only [remove, hsteps, List.reverse_reverse, horigin, follow_plainSteps hfollow, bind,
    Except.bind]
  rfl

end FileTree

end Iocost
