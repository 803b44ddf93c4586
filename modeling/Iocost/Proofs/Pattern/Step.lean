import Iocost.Proofs.Pattern.Bracket
import Iocost.Proofs.Pattern.Counts
import Iocost.Proofs.Pattern.Group

/-!
# What stands behind a step

A step of the reader of patterns takes the next thing from the text. Steps are steady with one
exception (`Reading.isSteadyAt_readStep`), and do not depend on the groups that wait outside of the
current one (`Reading.stepAt_under`).
-/

namespace Iocost.Pattern.Reading

open Reader

variable {r : Reading} {c : Char} {cs : List Char}

/-! ## Steps as readers -/

/-- Repeats the last part of the current branch. -/
def repeated? (r : Reading) (least : Nat) (most : Option Nat) (marked : Bool) : Option Reading :=
  (r.group.rep? least most (marked == r.flags.swapped)).map fun group =>
    { r with group := group, rest := [] }

/-- Reads whether a question mark follows a repetition. -/
def readRep (r : Reading) (least : Nat) (most : Option Nat) : Reader Reading :=
  ifHead '?' (lift (r.repeated? least most true)) (lift (r.repeated? least most false))

/-- Adds a pattern to the current branch. -/
def pushed (r : Reading) (nested : Nested) : Reading := r.push nested []

/-- Takes the next thing from the text after the character `c`. -/
def readStep (r : Reading) (c : Char) : Reader Reading :=
  match c with
  | '(' => readGroup r
  | ')' => lift (r.closeGroup [])
  | '|' => lift (some { r with group := r.group.nextBranch, rest := [] })
  | '[' => Reader.bind (readClass r.flags) fun nested =>
      lift (some (r.pushed ⟨.one nested.set, nested.depth⟩))
  | '?' => r.readRep 0 (some 1)
  | '*' => r.readRep 0 none
  | '+' => r.readRep 1 none
  | '\x7b' => Reader.bind (readCounts r.flags) fun counts =>
      (ofSkip r.flags.skip).bind fun _ => r.readRep counts.1 counts.2
  | '.' => lift (r.flags.dot.map fun set => r.pushed ⟨.one set, 0⟩)
  | '^' => lift (some (r.pushed ⟨.look r.flags.caret, 0⟩))
  | '$' => lift (some (r.pushed ⟨.look r.flags.dollar, 0⟩))
  | '\\' => Reader.bind (readEscape r.flags) fun primitive =>
      lift ((primitive.toPattern? r.flags).map fun p => r.pushed ⟨p, 0⟩)
  | c => lift (((Primitive.literal c false).toPattern? r.flags).map fun p => r.pushed ⟨p, 0⟩)

theorem rep_apart (r : Reading) (least : Nat) (most : Option Nat) (cs : List Char) :
    (r.rep least most cs).map apart = r.readRep least most cs := by
  have hmarked (marked : Bool) (rest : List Char) :
      ((r.group.rep? least most (marked == r.flags.swapped)).map fun group =>
        { r with group := group, rest := rest }).map apart =
        lift (r.repeated? least most marked) rest := by
    rw [lift_apply, repeated?, Option.map_map, Option.map_map]
    rfl
  unfold rep
  by_cases hmark : ∃ rest, cs = '?' :: rest
  · obtain ⟨rest, rfl⟩ := hmark
    rw [readRep, ifHead_cons_self]
    exact hmarked true rest
  · have hcs : readMark cs = (false, cs) := by
      unfold readMark
      split
      case h_1 rest => exact absurd ⟨rest, rfl⟩ hmark
      case h_2 => rfl
    rw [readRep, ifHead_of_ne fun rest heq => hmark ⟨rest, heq⟩, hcs]
    exact hmarked false cs

theorem closeGroup_apart (r : Reading) (cs : List Char) :
    (r.closeGroup cs).map apart = lift (r.closeGroup []) cs := by
  unfold closeGroup
  cases r.waiting <;> rfl

theorem stepAt_apart (r : Reading) (c : Char) (cs : List Char) :
    (r.stepAt c cs).map apart = r.readStep c cs := by
  unfold stepAt
  split
  case h_1 => exact openGroup_apart r cs
  case h_2 => exact closeGroup_apart r cs
  case h_3 => rfl
  case h_4 =>
    change _ = (readClass r.flags cs).bind _
    cases readClass r.flags cs <;> rfl
  case h_5 => exact rep_apart r _ _ cs
  case h_6 => exact rep_apart r _ _ cs
  case h_7 => exact rep_apart r _ _ cs
  case h_8 =>
    change _ = (readCounts r.flags cs).bind _
    cases readCounts r.flags cs with
    | none => rfl
    | some read => exact rep_apart r _ _ _
  case h_9 =>
    change _ = lift (r.flags.dot.map _) cs
    cases r.flags.dot <;> rfl
  case h_10 => rfl
  case h_11 => rfl
  case h_12 =>
    change _ = (readEscape r.flags cs).bind _
    cases readEscape r.flags cs with
    | none => rfl
    | some read =>
      obtain ⟨primitive, rest⟩ := read
      simp only [Option.bind_eq_bind, Option.bind_some]
      cases primitive.toPattern? r.flags <;> rfl
  case h_13 =>
    have hliteral : r.readStep c =
        lift (((Primitive.literal c false).toPattern? r.flags).map fun p => r.pushed ⟨p, 0⟩) := by
      simp only [readStep, *]
    rw [hliteral]
    cases (Primitive.literal c false).toPattern? r.flags <;> rfl

/-! ## What a step leaves -/

theorem isStrict_readRep (r : Reading) (least : Nat) (most : Option Nat) :
    (r.readRep least most).IsStrict := (IsStrict.lift _).ifHead (.lift _) (by decide)

theorem shrinks_readStep (r : Reading) (c : Char) : (r.readStep c).Shrinks := by
  have hrep (least : Nat) (most : Option Nat) : (r.readRep least most).Shrinks :=
    (r.isStrict_readRep least most).shrinks
  unfold readStep
  split
  case h_1 => exact (isLocal_readGroup r).shrinks
  case h_4 => exact (isStrict_readClass r.flags).shrinks.bind fun _ => .lift _
  case h_5 => exact hrep _ _
  case h_6 => exact hrep _ _
  case h_7 => exact hrep _ _
  case h_8 =>
    exact (isStrict_readCounts r.flags).shrinks.bind fun counts =>
      (r.flags.isLocal_skip).shrinks.bind fun _ => hrep _ _
  case h_12 => exact (shrinks_readEscape r.flags).bind fun _ => .lift _
  all_goals exact .lift _

/-- Only one step depends on a closing parenthesis that stands behind: a brace after the sign of the
edge of a word is refused at the end of the text, and is left for a repetition otherwise. -/
theorem isSteadyAt_readStep (r : Reading) (c : Char) (cs : List Char) :
    (r.readStep c).IsSteadyAt cs ∨
      ∃ inside, c = '\\' ∧ cs = 'b' :: '\x7b' :: inside ∧ r.flags.skip inside = [] := by
  have hlift (next? : Option Reading) : (lift next?).IsSteadyAt cs :=
    .inl ((IsStrict.lift next?).isStrictAt cs)
  have hrep (least : Nat) (most : Option Nat) (cs : List Char) :
      (r.readRep least most).IsSteadyAt cs := .inl ((r.isStrict_readRep least most).isStrictAt cs)
  have hskip {g : Unit → Reader Reading} (hg : (g ()).IsStrict) (cs : List Char) :
      ((ofSkip r.flags.skip).bind g).IsSteadyAt cs :=
    isSteadyAt_ofSkip_bind (r.flags.isLocal_skip.isLocalAt cs) hg.shrinks
      fun rest _ => .inl (hg.isStrictAt rest)
  unfold readStep
  split
  case h_1 => exact .inl (hskip ((isStrict_readKind r).ifHead (.lift _) (by decide)) cs)
  case h_4 =>
    exact .inl (.inl (((isStrict_readClass r.flags).bind fun _ => .lift _).isStrictAt cs))
  case h_5 => exact .inl (hrep _ _ cs)
  case h_6 => exact .inl (hrep _ _ cs)
  case h_7 => exact .inl (hrep _ _ cs)
  case h_8 =>
    have hcounts := (isStrict_readCounts r.flags).isStrictAt cs
    refine .inl (hcounts.bind_isSteadyAt (fun counts => ?_) fun counts rest _ => ?_)
    · exact r.flags.isLocal_skip.shrinks.bind fun _ => (r.isStrict_readRep _ _).shrinks
    · exact hskip (r.isStrict_readRep _ _) rest
  case h_12 =>
    rcases isStrictAt_readEscape r.flags cs with hstrict | ⟨inside, hcs, hinside⟩
    · exact .inl (.inl (hstrict.bind (fun _ => .lift _)
        fun _ rest _ => (IsStrict.lift _).isStrictAt rest))
    · exact .inr ⟨inside, rfl, hcs, hinside⟩
  all_goals exact .inl (hlift _)

/-! ## The groups that wait outside -/

/-- The reading with more groups that wait outside of those of its own. -/
def under (r : Reading) (outer : List Waiting) : Reading := { r with waiting := r.waiting ++ outer }

theorem under_nil (r : Reading) : r.under [] = r := by
  rw [under, List.append_nil]

section

variable (outer : List Waiting)

theorem setFlags_under (r : Reading) (cs : List Char) :
    (r.under outer).setFlags cs = (r.setFlags cs).map (·.under outer) := by
  unfold setFlags
  dsimp only
  split
  case isTrue =>
    split
    · rfl
    · split <;> rfl
    · rfl
  case isFalse => rfl

theorem enterNamed_under (r : Reading) (cs : List Char) :
    (r.under outer).enterNamed cs = (r.enterNamed cs).map (·.under outer) := by
  unfold enterNamed
  cases readName cs with
  | none => rfl
  | some read =>
    have hnames : (r.under outer).names = r.names := rfl
    simp only [Option.bind_eq_bind, Option.bind_some, hnames]
    cases r.names.contains read.1 <;> rfl

theorem openGroup_under (r : Reading) (cs : List Char) :
    (r.under outer).openGroup cs = (r.openGroup cs).map (·.under outer) := by
  have hflags : (r.under outer).flags = r.flags := rfl
  unfold openGroup
  rw [hflags]
  split
  case h_5 => exact r.enterNamed_under outer _
  case h_6 => exact r.enterNamed_under outer _
  case h_7 => exact r.setFlags_under outer _
  all_goals rfl

theorem closeGroup_under {r : Reading} (h : r.waiting ≠ []) (cs : List Char) :
    (r.under outer).closeGroup cs = (r.closeGroup cs).map (·.under outer) := by
  obtain ⟨inner, waiting, hwaiting⟩ := List.exists_cons_of_ne_nil h
  unfold closeGroup under
  rw [hwaiting]
  rfl

theorem rep_under (r : Reading) (least : Nat) (most : Option Nat) (cs : List Char) :
    (r.under outer).rep least most cs = (r.rep least most cs).map (·.under outer) := by
  unfold rep
  rw [Option.map_map]
  rfl

/-- Only the end of a group goes back to a group around it. -/
theorem stepAt_under (r : Reading) {c : Char} (h : c = ')' → r.waiting ≠ []) (cs : List Char) :
    (r.under outer).stepAt c cs = (r.stepAt c cs).map (·.under outer) := by
  unfold stepAt
  split
  case h_1 => exact r.openGroup_under outer cs
  case h_2 => exact closeGroup_under outer (h rfl) cs
  case h_3 => rfl
  case h_4 =>
    change (readClass r.flags cs).map _ = _
    cases readClass r.flags cs <;> rfl
  case h_5 => exact r.rep_under outer _ _ cs
  case h_6 => exact r.rep_under outer _ _ cs
  case h_7 => exact r.rep_under outer _ _ cs
  case h_8 =>
    change (readCounts r.flags cs).bind _ = ((readCounts r.flags cs).bind _).map _
    cases readCounts r.flags cs with
    | none => rfl
    | some read => exact r.rep_under outer _ _ _
  case h_9 =>
    change r.flags.dot.map _ = _
    cases r.flags.dot <;> rfl
  case h_10 => rfl
  case h_11 => rfl
  case h_12 =>
    change (readEscape r.flags cs).bind _ = ((readEscape r.flags cs).bind _).map _
    cases readEscape r.flags cs with
    | none => rfl
    | some read =>
      obtain ⟨primitive, rest⟩ := read
      change (primitive.toPattern? r.flags).bind _ = ((primitive.toPattern? r.flags).bind _).map _
      cases primitive.toPattern? r.flags <;> rfl
  case h_13 =>
    change ((Primitive.literal c false).toPattern? r.flags).map _ = _
    cases (Primitive.literal c false).toPattern? r.flags <;> rfl

end

end Iocost.Pattern.Reading
