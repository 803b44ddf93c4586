import Iocost.Proofs.Files.Descent
import Iocost.Proofs.Files.PathText

/-!
# The directories in a directory

The directories at and below a node whose names are texts, each by the names that lead to it, with
those in a directory by increasing names. Each of them is listed once (`mem_textDirectories`), in
the order of their lists of names (`pairwise_textDirectories`).
-/

namespace Iocost

namespace FileName

/-- Names are ordered by their bytes. -/
def Before (a b : FileName) : Prop := a.bytes < b.bytes

theorem before_iff {a b : FileName} : a.before b = true ↔ a.Before b := decide_eq_true_iff

theorem Before.irrefl (a : FileName) : ¬a.Before a := List.lt_irrefl a.bytes

theorem Before.trans {a b c : FileName} (hab : a.Before b) (hbc : b.Before c) : a.Before c :=
  List.lt_trans hab hbc

instance : Std.Irrefl Before := ⟨Before.irrefl⟩

instance : Std.Antisymm Before := ⟨fun a _ hab hba => absurd (hab.trans hba) (Before.irrefl a)⟩

theorem Before.of_not {a b : FileName} (h : ¬a.Before b) (hne : a ≠ b) : b.Before a := by
  rcases List.le_iff_lt_or_eq.mp (List.not_lt.mp h) with hlt | heq
  · exact hlt
  · exact absurd (bytes_injective heq).symm hne

theorem not_lex_self (names : List FileName) : ¬List.Lex Before names names := by
  intro h
  induction names with
  | nil => cases h
  | cons name names ih =>
    cases h with
    | cons h => exact ih h
    | rel h => exact Before.irrefl name h

theorem pairwise_insert {a : FileName} {names : List FileName} (h : names.Pairwise Before) :
    (insert a names).Pairwise Before := by
  induction names with
  | nil => exact List.pairwise_singleton Before a
  | cons b names ih =>
    obtain ⟨hb, hnames⟩ := List.pairwise_cons.mp h
    unfold insert
    split
    case isTrue hab =>
      refine List.pairwise_cons.mpr ⟨fun c hc => ?_, h⟩
      rcases List.mem_cons.mp hc with rfl | hc
      · exact before_iff.mp hab
      · exact (before_iff.mp hab).trans (hb c hc)
    case isFalse hab =>
      split
      case isTrue => exact h
      case isFalse hne =>
        refine List.pairwise_cons.mpr ⟨fun c hc => ?_, ih hnames⟩
        rcases mem_insert.mp hc with rfl | hc
        · exact Before.of_not (fun hlt => hab (before_iff.mpr hlt)) hne
        · exact hb c hc

theorem pairwise_sorted (names : List FileName) : (sorted names).Pairwise Before := by
  induction names with
  | nil => exact .nil
  | cons a names ih => exact pairwise_insert ih

end FileName

namespace FileNode

theorem pairwise_directoryNames (entries : List (FileName × FileNode)) :
    (directoryNames entries).Pairwise FileName.Before := FileName.pairwise_sorted _

theorem mem_directoryNames {entries : List (FileName × FileNode)} {name : FileName} :
    name ∈ directoryNames entries ↔ ∃ inside, entries.lookup name = some (.directory inside) := by
  constructor
  · exact lookup_of_mem_directoryNames
  · rintro ⟨inside, hlookup⟩
    rw [directoryNames, FileName.mem_sorted, List.mem_filter, hlookup]
    refine ⟨?_, rfl⟩
    obtain ⟨_, _, heq, _⟩ := List.lookup_eq_some_iff.mp hlookup
    rw [heq]
    simp

/-- The node is a directory in which the names, all of them texts, lead to a directory. -/
def HasDirectory (node : FileNode) (names : List FileName) : Prop :=
  (∃ inside, node.node? names = some (.directory inside)) ∧ ∀ name ∈ names, name.IsText

/-- The directories at and below a node to which names that are texts lead. -/
def textDirectories : FileNode → List (List FileName)
  | .directory entries =>
    [] :: ((directoryNames entries).filter fun name => decide name.IsText).flatMap fun name =>
      match _h : entries.lookup name with
      | some node => (textDirectories node).map (name :: ·)
      | none => []
  | _ => []
termination_by node => sizeOf node
decreasing_by exact sizeOf_lt_of_lookup _h

theorem textDirectories_directory (entries : List (FileName × FileNode)) :
    textDirectories (.directory entries) =
      [] :: ((directoryNames entries).filter fun name => decide name.IsText).flatMap fun name =>
        ((entries.lookup name).elim [] textDirectories).map (name :: ·) := by
  rw [textDirectories]
  congr 1
  refine List.flatMap_congr fun name _ => ?_
  split
  case h_1 node hlookup => rw [hlookup, Option.elim_some]
  case h_2 hlookup => rw [hlookup, Option.elim_none, List.map_nil]

theorem textDirectories_of_filter {entries : List (FileName × FileNode)} {names : List FileName}
    (h : ((directoryNames entries).filter fun name => decide name.IsText) = names) :
    textDirectories (.directory entries) = [] :: names.flatMap fun name =>
      ((entries.lookup name).elim [] textDirectories).map (name :: ·) := by
  rw [textDirectories_directory, h]

theorem textDirectories_of_ne_directory {node : FileNode}
    (hnode : ∀ entries, node ≠ .directory entries) : textDirectories node = [] := by
  cases node with
  | directory entries => exact absurd rfl (hnode entries)
  | file => simp [textDirectories]
  | link => simp [textDirectories]

theorem mem_textDirectories_of_ne_directory {node : FileNode} {names : List FileName}
    (hnode : ∀ entries, node ≠ .directory entries) :
    names ∈ textDirectories node ↔ node.HasDirectory names := by
  rw [textDirectories_of_ne_directory hnode]
  refine iff_of_false List.not_mem_nil ?_
  rintro ⟨⟨inside, hinside⟩, -⟩
  obtain ⟨entries, hentries⟩ := eq_directory_of_node?_directory hinside
  exact hnode entries hentries

theorem mem_textDirectories {node : FileNode} {names : List FileName} :
    names ∈ textDirectories node ↔ node.HasDirectory names := by
  induction names generalizing node with
  | nil =>
    cases node with
    | directory entries =>
      rw [textDirectories_directory]
      exact ⟨fun _ => ⟨⟨entries, rfl⟩, nofun⟩, fun _ => List.mem_cons_self⟩
    | file => exact mem_textDirectories_of_ne_directory nofun
    | link => exact mem_textDirectories_of_ne_directory nofun
  | cons name names ih =>
    cases node with
    | directory entries =>
      simp only [textDirectories_directory, List.mem_cons, reduceCtorEq, false_or,
        List.mem_flatMap, List.mem_filter, decide_eq_true_eq, List.mem_map, List.cons.injEq]
      constructor
      · rintro ⟨name, ⟨hname, htext⟩, names, hnames, rfl, rfl⟩
        obtain ⟨inside, hlookup⟩ := mem_directoryNames.mp hname
        rw [hlookup, Option.elim_some, ih] at hnames
        obtain ⟨⟨found, hfound⟩, htexts⟩ := hnames
        refine ⟨⟨found, ?_⟩, List.forall_mem_cons.mpr ⟨htext, htexts⟩⟩
        rw [node?, hlookup, Option.bind_some, hfound]
      · rintro ⟨⟨found, hfound⟩, htexts⟩
        obtain ⟨htext, htexts⟩ := List.forall_mem_cons.mp htexts
        obtain ⟨_, below, heq, hlookup, hbelow⟩ := eq_directory_of_node?_cons hfound
        cases heq
        obtain ⟨inside, rfl⟩ := eq_directory_of_node?_directory hbelow
        refine ⟨name, ⟨mem_directoryNames.mpr ⟨inside, hlookup⟩, htext⟩, names, ?_, rfl, rfl⟩
        rw [hlookup, Option.elim_some, ih]
        exact ⟨⟨found, hbelow⟩, htexts⟩
    | file => exact mem_textDirectories_of_ne_directory nofun
    | link => exact mem_textDirectories_of_ne_directory nofun

/-- The lists of names are in strictly increasing order, name by name. -/
theorem pairwise_textDirectories (node : FileNode) :
    (textDirectories node).Pairwise (List.Lex FileName.Before) := by
  induction hn : sizeOf node using Nat.strong_induction_on generalizing node with
  | _ n ih =>
    subst hn
    cases node with
    | file =>
      rw [textDirectories_of_ne_directory]
      · exact .nil
      · exact nofun
    | link =>
      rw [textDirectories_of_ne_directory]
      · exact .nil
      · exact nofun
    | directory entries =>
      rw [textDirectories_directory]
      refine List.pairwise_cons.mpr ⟨fun names hnames => ?_, ?_⟩
      · obtain ⟨name, -, hnames⟩ := List.mem_flatMap.mp hnames
        obtain ⟨names, -, rfl⟩ := List.mem_map.mp hnames
        exact .nil
      · rw [List.pairwise_flatMap]
        refine ⟨fun name hname => ?_, ?_⟩
        · rw [List.pairwise_map]
          cases hlookup : entries.lookup name with
          | none => exact .nil
          | some node =>
            exact (ih _ (sizeOf_lt_of_lookup hlookup) node rfl).imp fun h => .cons h
        · refine ((pairwise_directoryNames entries).filter _).imp fun hlt a ha b hb => ?_
          obtain ⟨a, -, rfl⟩ := List.mem_map.mp ha
          obtain ⟨b, -, rfl⟩ := List.mem_map.mp hb
          exact .rel hlt

theorem nodup_textDirectories (node : FileNode) : (textDirectories node).Nodup := by
  refine (pairwise_textDirectories node).imp fun hlt heq => ?_
  subst heq
  exact FileName.not_lex_self _ hlt

end FileNode

end Iocost
