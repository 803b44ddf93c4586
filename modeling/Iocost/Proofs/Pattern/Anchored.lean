import Iocost.Proofs.Pattern.Covers
import Iocost.Proofs.Pattern.Run

/-!
# Patterns in a group

A text in a group is read as it is by itself (`nested?_enclosed`), with two exceptions: the text may
be torn, which is to say that a closing parenthesis in it closes the group, and it may make the
parenthesis behind it its own. With a caret in front of the group, the pattern in it covers the same
stretches at the start of a text, and no other ones (`covers_atStart_iff`).
-/

namespace Iocost.Pattern

/-- What a text writes, however deep it nests. -/
def nested? (text : List Char) : Option Nested := (Reading.start text).read

theorem parse?_eq (text : List Char) :
    parse? text = (nested? text).bind fun nested =>
      if nested.depth ≤ depthLimit then some nested.pattern else none := rfl

/-- The text has a closing parenthesis that no opening one belongs to. What is in front of it is a
text of its own, and the parenthesis is not in a comment. -/
def IsTorn (text : List Char) : Prop :=
  ∃ front rest, text = front ++ ')' :: rest ∧ (nested? front).isSome ∧
    nested? (front ++ [')']) = none

/-- The pattern in a group behind a caret. -/
def atStart (p : Pattern) : Pattern := .seq (.look .textStart) (.group none p)

/-- What waits for the end of a group with nothing around it. -/
def plainGroup : Waiting := ⟨.start, .initial, none⟩

/-- What waits for the end of a group behind a caret. -/
def caretGroup : Waiting := ⟨OpenGroup.start.push ⟨.look .textStart, 0⟩, .initial, none⟩

/-- The whole pattern, once the group that is waited for has been read. -/
def Waiting.enclose (outer : Waiting) (nested : Nested) : Nested :=
  (outer.group.push ⟨.group outer.number nested.pattern, nested.depth + 1⟩).close

theorem enclose_plainGroup (nested : Nested) :
    plainGroup.enclose nested = ⟨.group none nested.pattern, nested.depth + 1⟩ := rfl

theorem enclose_caretGroup (nested : Nested) :
    caretGroup.enclose nested = ⟨atStart nested.pattern, nested.depth + 2⟩ := by
  simp [Waiting.enclose, caretGroup, OpenGroup.close, OpenGroup.nextBranch, OpenGroup.branch,
    OpenGroup.push, OpenGroup.start, Part.pattern?, Part.depth, ofSeq, ofAlt, depthAbove, atStart]

theorem nested?_group_eq (text : List Char) :
    nested? ('(' :: '?' :: ':' :: (text ++ [')'])) =
      (((Reading.start []).under [plainGroup]).before (text ++ [')'])).read :=
  Reading.read_of_skip_eq_cons (r := Reading.start ('(' :: '?' :: ':' :: (text ++ [')']))) rfl

theorem nested?_caret_eq (text : List Char) :
    nested? ('^' :: '(' :: '?' :: ':' :: (text ++ [')'])) =
      (((Reading.start []).under [caretGroup]).before (text ++ [')'])).read := by
  have hcaret := Reading.read_of_skip_eq_cons
    (r := Reading.start ('^' :: '(' :: '?' :: ':' :: (text ++ [')']))) rfl
  have hgroup := Reading.read_of_skip_eq_cons (r := (Reading.start []).push ⟨.look .textStart, 0⟩
    ('(' :: '?' :: ':' :: (text ++ [')']))) rfl
  exact hcaret.trans hgroup

namespace Reading

variable {r next : Reading} {text : List Char}

theorem Reaches.nested?_eq (h : (start []).Reaches text next []) : nested? text = next.finish :=
  h.read_eq.trans next.read_before_nil

/-- A closing parenthesis is what comes next, whatever the flags. -/
theorem read_close (r : Reading) (rest : List Char) :
    (r.before (')' :: rest)).read = (r.closeGroup rest).bind read := by
  have hskip : (r.before (')' :: rest)).flags.skip (')' :: rest) = ')' :: rest :=
    r.flags.skip_cons Flags.isBlank_close (by decide) rest
  rw [read_of_skip_eq_cons hskip, before_stepAt]
  rfl

theorem read_close_of_waiting_eq_nil (h : r.waiting = []) (rest : List Char) :
    (r.before (')' :: rest)).read = none := by
  rw [read_close, closeGroup, h]
  rfl

theorem Reaches.nested?_append (h : (start []).Reaches text next []) (rest : List Char) :
    nested? (text ++ ')' :: rest) = (next.before (')' :: rest)).read := by
  have hread := h _ (.close rest) []
  rwa [under_nil, under_nil] at hread

theorem isTorn_of_closes (h : (start []).Closes text) : IsTorn text := by
  obtain ⟨inside, after, next, rfl, hnext, hwaiting⟩ := h
  refine ⟨inside, after, rfl, ?_, ?_⟩
  · rw [hnext.nested?_eq, finish_of_waiting_eq_nil hwaiting]
    rfl
  · rw [hnext.nested?_append, read_close_of_waiting_eq_nil hwaiting]

/-- The reading after the end of a group. -/
def goBack (r : Reading) (outer : Waiting) (waiting : List Waiting) : Reading :=
  { r with
    flags := outer.flags
    group := outer.group.push
      ⟨.group outer.number r.group.close.pattern, r.group.close.depth + 1⟩
    waiting := waiting }

theorem read_close_of_waiting_eq_cons {outer : Waiting} {waiting : List Waiting}
    (h : r.waiting = outer :: waiting) :
    (r.before [')']).read = (r.goBack outer waiting).finish := by
  have hclosed : r.closeGroup [] = some ((r.goBack outer waiting).before []) := by
    rw [closeGroup, h]
    rfl
  rw [read_close, hclosed, Option.bind_some, read_before_nil]

/-- The end of the outermost group is the end of the whole. -/
theorem read_close_under (h : r.waiting = []) (outer : Waiting) :
    ((r.under [outer]).before [')']).read = some (outer.enclose r.group.close) := by
  have hwaiting : (r.under [outer]).waiting = [outer] := by
    rw [under, h]
    rfl
  rw [read_close_of_waiting_eq_cons hwaiting, finish_of_waiting_eq_nil rfl]
  rfl

/-- The end of a group is not the end of the whole if more groups wait. -/
theorem read_close_of_waiting_ne_nil (h : r.waiting ≠ []) {outer : List Waiting}
    (houter : outer ≠ []) : ((r.under outer).before [')']).read = none := by
  obtain ⟨inner, waiting, hwaiting⟩ := List.exists_cons_of_ne_nil h
  have hunder : (r.under outer).waiting = inner :: (waiting ++ outer) := by
    rw [under, hwaiting]
    rfl
  rw [read_close_of_waiting_eq_cons hunder]
  exact finish_of_waiting_ne_nil fun hnil => houter (List.append_eq_nil_iff.mp hnil).2

end Reading

/-- What a text writes in a group, unless it is torn. -/
theorem nested?_enclosed {text : List Char} (h : ¬IsTorn text) (outer : Waiting) :
    (((Reading.start []).under [outer]).before (text ++ [')'])).read =
      if (nested? (text ++ [')'])).isSome then none else (nested? text).map outer.enclose := by
  rcases (Reading.start []).reaches_or_closes_or_isStuck text with
    ⟨next, hnext⟩ | hcloses | hstuck
  · rw [hnext _ (.close []) _, hnext.nested?_append, hnext.nested?_eq]
    cases hwaiting : next.waiting with
    | nil =>
      rw [Reading.read_close_of_waiting_eq_nil hwaiting, Reading.finish_of_waiting_eq_nil hwaiting]
      exact Reading.read_close_under hwaiting outer
    | cons inner waiting =>
      have hne : next.waiting ≠ [] := hwaiting ▸ List.cons_ne_nil inner waiting
      rw [Reading.finish_of_waiting_ne_nil hne, Option.map_none, ite_self]
      exact Reading.read_close_of_waiting_ne_nil hne (List.cons_ne_nil _ _)
  · exact absurd (Reading.isTorn_of_closes hcloses) h
  · rw [hstuck.enclosed _ (List.cons_ne_nil _ _)]
    cases halone : nested? text with
    | none => rw [Option.map_none, ite_self]
    | some nested =>
      have hhidden : nested? (text ++ [')']) = some nested := hstuck.alone nested halone
      rw [hhidden]
      rfl

/-- In a group behind a caret a pattern covers the same stretches at the start of a text, and no
other ones. -/
theorem covers_atStart_iff (p : Pattern) (text : List Char) (start : Nat) :
    (∃ stop, (atStart p).Covers (Place.list text) start stop) ↔
      start = 0 ∧ ∃ stop, p.Covers (Place.list text) 0 stop := by
  constructor
  · rintro ⟨stop, _, ⟨rfl, hplace⟩, hcovers⟩
    obtain rfl : start = 0 := (isNone_before_iff text start).mp hplace
    exact ⟨rfl, stop, hcovers⟩
  · rintro ⟨rfl, stop, hcovers⟩
    exact ⟨stop, 0, ⟨rfl, (isNone_before_iff text 0).mpr rfl⟩, hcovers⟩

end Iocost.Pattern
