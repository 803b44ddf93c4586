import Iocost.Proofs.Pattern.Step

/-!
# Reading to the end of a text

A text in parentheses is read as it is by itself, unless a comment at its end hides the closing
parenthesis, or the text has a closing parenthesis of its own that no opening one belongs to
(`Reading.reaches_or_closes_or_isStuck`).
-/

namespace Iocost.Pattern.Reading

open Reader

variable {r next : Reading} {c : Char} {cs left rest : List Char}

/-! ## Runs without fuel -/

theorem apart_eq_iff {r next : Reading} {rest : List Char} :
    r.apart = (next, rest) ↔ next.rest = [] ∧ r = next.before rest := by
  constructor
  · rintro h
    obtain ⟨rfl, rfl⟩ := Prod.mk.inj h
    exact ⟨rfl, rfl⟩
  · rintro ⟨hnil, rfl⟩
    obtain ⟨flags, group, waiting, names, numbered, _⟩ := next
    obtain rfl : _ = [] := hnil
    rfl

theorem stepAt_eq_of_readStep (h : r.readStep c cs = some (next, rest)) :
    r.stepAt c cs = some (next.before rest) := by
  rw [← stepAt_apart] at h
  obtain ⟨after, hstep, hafter⟩ := Option.map_eq_some_iff.mp h
  rw [hstep, (apart_eq_iff.mp hafter).2]

theorem readStep_eq_of_stepAt (h : r.stepAt c cs = some next) :
    r.readStep c cs = some next.apart := by
  rw [← stepAt_apart, h, Option.map_some]

/-- A step does not depend on the text before it. -/
theorem before_stepAt (r : Reading) (cs' : List Char) (c : Char) (cs : List Char) :
    (r.before cs').stepAt c cs = r.stepAt c cs := rfl

theorem rest_suffix_of_stepAt (h : r.stepAt c cs = some next) : next.rest <:+ cs :=
  r.shrinks_readStep c (readStep_eq_of_stepAt h)

/-- Fuel beyond the length of the text makes no difference. -/
theorem run_fuel {fuel fuel' : Nat} (hfuel : r.rest.length < fuel)
    (hfuel' : r.rest.length < fuel') : run fuel r = run fuel' r := by
  induction fuel generalizing fuel' r with
  | zero => exact absurd hfuel (Nat.not_lt_zero _)
  | succ fuel ih =>
    obtain ⟨fuel', rfl⟩ := Nat.exists_eq_succ_of_ne_zero (Nat.ne_zero_of_lt hfuel')
    have hskip := (r.flags.skip_suffix r.rest).length_le
    rw [run, run]
    rcases hleft : r.flags.skip r.rest with _ | ⟨c, cs⟩
    · rfl
    · rw [hleft] at hskip
      dsimp only
      cases hstep : r.stepAt c cs with
      | none => rfl
      | some next =>
        have hlength := (rest_suffix_of_stepAt hstep).length_le
        rw [List.length_cons] at hskip
        exact ih (by omega) (by omega)

/-- Reads to the end of the text. -/
def read (r : Reading) : Option Nested := run (r.rest.length + 1) r

theorem read_of_skip_eq_nil (h : r.flags.skip r.rest = []) : r.read = r.finish := by
  rw [read, run, h]

theorem read_of_skip_eq_cons (h : r.flags.skip r.rest = c :: cs) :
    r.read = (r.stepAt c cs).bind read := by
  have hskip := (r.flags.skip_suffix r.rest).length_le
  rw [h, List.length_cons] at hskip
  rw [read, run, h]
  dsimp only
  cases hstep : r.stepAt c cs with
  | none => rfl
  | some next =>
    have hlength := (rest_suffix_of_stepAt hstep).length_le
    exact run_fuel (by omega) (Nat.lt_succ_self _)

/-- Blanks and comments make no difference. -/
theorem read_before_congr {ds : List Char} (h : r.flags.skip cs = r.flags.skip ds) :
    (r.before cs).read = (r.before ds).read := by
  cases hskip : r.flags.skip ds with
  | nil =>
    have hfinish : (r.before cs).finish = (r.before ds).finish := rfl
    rw [read_of_skip_eq_nil (h.trans hskip), read_of_skip_eq_nil hskip, hfinish]
  | cons c left =>
    rw [read_of_skip_eq_cons (h.trans hskip), read_of_skip_eq_cons hskip, before_stepAt,
      before_stepAt]

/-- Where a group waits, the end of the text is too early. -/
theorem finish_of_waiting_ne_nil (h : r.waiting ≠ []) : r.finish = none :=
  if_neg fun hempty => h (List.isEmpty_iff.mp hempty)

theorem read_before_nil (r : Reading) : (r.before []).read = r.finish :=
  read_of_skip_eq_nil r.flags.skip_nil

theorem finish_of_waiting_eq_nil (h : r.waiting = []) : r.finish = some r.group.close :=
  if_pos (List.isEmpty_iff.mpr h)

/-! ## One step -/

/-- Reading `cs` leads to another reading with `rest` still to be read, whatever ending stands
behind and whatever groups wait outside. -/
def Reaches (r : Reading) (cs : List Char) (next : Reading) (rest : List Char) : Prop :=
  ∀ t, IsEnding t → ∀ outer,
    ((r.under outer).before (cs ++ t)).read = ((next.under outer).before (rest ++ t)).read

theorem Reaches.trans {last : Reading} {left : List Char} (h : r.Reaches cs next rest)
    (hnext : next.Reaches rest last left) : r.Reaches cs last left := fun t ht outer =>
  (h t ht outer).trans (hnext t ht outer)

theorem Reaches.read_eq (h : r.Reaches cs next rest) :
    (r.before cs).read = (next.before rest).read := by
  have hread := h [] .nil []
  rwa [List.append_nil, List.append_nil, under_nil, under_nil] at hread

/-- The next step takes the character `c`, which is in front of `left`, and leaves `rest`. -/
structure Steps (r : Reading) (cs : List Char) (c : Char) (left : List Char) (next : Reading)
    (rest : List Char) : Prop where
  skip : (ofSkip r.flags.skip).Takes cs () (c :: left)
  step : (r.readStep c).Takes left next rest
  /-- The step does not end a group outside of those of the reading. -/
  inside : c = ')' → r.waiting ≠ []

/-- Behind blanks and comments the next step is taken. -/
theorem read_of_skip_takes (hskip : (ofSkip r.flags.skip).Takes cs () (c :: left))
    (hinside : c = ')' → r.waiting ≠ []) {t : List Char} (ht : IsEnding t)
    (outer : List Waiting) :
    ((r.under outer).before (cs ++ t)).read =
      (r.stepAt c (left ++ t)).bind fun next => (next.under outer).read := by
  have hleft : r.flags.skip (cs ++ t) = c :: (left ++ t) :=
    congrArg Prod.snd (Option.some.inj (hskip t ht))
  rw [read_of_skip_eq_cons hleft, before_stepAt, r.stepAt_under outer hinside, Option.bind_map]
  rfl

theorem Steps.reaches (h : r.Steps cs c left next rest) : r.Reaches cs next rest := by
  intro t ht outer
  rw [read_of_skip_takes h.skip h.inside ht, stepAt_eq_of_readStep (h.step t ht)]
  rfl

theorem Steps.length_lt (h : r.Steps cs c left next rest) : rest.length < cs.length := by
  have hskip := r.flags.isLocal_skip.shrinks.length_le h.skip.eq
  have hstep := (r.shrinks_readStep c).length_le h.step.eq
  rw [List.length_cons] at hskip
  omega

/-- The step at the edge of a word that is no strict one. -/
theorem readStep_empty_brace {inside t : List Char} (hinside : r.flags.skip inside = [])
    (ht : IsEnding t)
    (h : r.readStep '\\' ('b' :: '\x7b' :: inside ++ t) = some (next, rest)) :
    next.flags = r.flags ∧ (rest = '\x7b' :: inside ++ t ∨ rest.length ≤ t.length - 1) := by
  obtain ⟨⟨primitive, left⟩, hescape, hpattern⟩ := Option.bind_eq_some_iff.mp h
  obtain ⟨pushed, hpushed, heq⟩ := Option.map_eq_some_iff.mp hpattern
  obtain ⟨p, -, rfl⟩ := Option.map_eq_some_iff.mp hpushed
  obtain ⟨rfl, rfl⟩ := Prod.mk.inj heq
  exact ⟨rfl, readEscape_empty_brace hinside ht hescape⟩

/-- Where a step leaves a closing parenthesis, the text before it is read in the same way whatever
stands behind. -/
theorem Steps.reaches_of_close {inside after : List Char}
    (h : r.Steps cs c left next (inside ++ ')' :: after)) :
    (∃ front, cs = front ++ ')' :: after ∧ r.Reaches front next inside) ∨
      ∃ braced, inside = '\x7b' :: braced ∧ next.flags.skip braced = [] := by
  obtain ⟨blank, rfl⟩ := r.flags.isLocal_skip.shrinks h.skip.eq
  obtain ⟨taken, rfl⟩ := r.shrinks_readStep c h.step.eq
  have hblank : ofSkip r.flags.skip (blank ++ c :: (taken ++ inside) ++ ')' :: after) =
      some ((), c :: (taken ++ inside) ++ ')' :: after) := by
    simpa using h.skip.eq
  have hskip : (ofSkip r.flags.skip).Takes (blank ++ c :: (taken ++ inside)) ()
      (c :: (taken ++ inside)) := (r.flags.isLocal_skip.isLocalAt _).takes hblank
  have hstep : r.readStep c (taken ++ inside ++ ')' :: after) =
      some (next, inside ++ ')' :: after) := by
    simpa using h.step.eq
  rcases r.isSteadyAt_readStep c (taken ++ inside) with hsteady | ⟨braced, rfl, hbraced, hskipped⟩
  · left
    refine ⟨blank ++ c :: (taken ++ inside), by simp, ?_⟩
    exact Steps.reaches ⟨hskip, hsteady.isLocalAt.takes hstep, h.inside⟩
  · right
    rw [hbraced] at hstep
    obtain ⟨hflags, hrest | hlength⟩ := readStep_empty_brace hskipped (.close after) hstep
    · exact ⟨braced, List.append_cancel_right hrest, hflags ▸ hskipped⟩
    · rw [List.length_append, List.length_cons] at hlength
      omega

/-! ## All steps -/

/-- The text has a closing parenthesis in it that closes a group outside of those of the
reading. -/
def Closes (r : Reading) (cs : List Char) : Prop :=
  ∃ inside after next, cs = inside ++ ')' :: after ∧ r.Reaches inside next [] ∧ next.waiting = []

/-- A closing parenthesis behind the text closes no group: either the text cannot be read, or the
parenthesis is hidden in a comment. -/
structure IsStuck (r : Reading) (cs : List Char) : Prop where
  enclosed : ∀ outer, outer ≠ [] → ((r.under outer).before (cs ++ [')'])).read = none
  alone : ∀ nested, (r.before cs).read = some nested → (r.before (cs ++ [')'])).read = some nested

theorem Reaches.isStuck (h : r.Reaches cs next rest) (hnext : next.IsStuck rest) :
    r.IsStuck cs where
  enclosed outer houter := (h _ (.close []) outer).trans (hnext.enclosed outer houter)
  alone nested halone := by
    have hclose := h _ (.close []) []
    rw [under_nil, under_nil] at hclose
    exact hclose.trans (hnext.alone nested (h.read_eq.symm.trans halone))

theorem finish_under_eq_none (r : Reading) {outer : List Waiting} (h : outer ≠ []) :
    (r.under outer).finish = none :=
  finish_of_waiting_ne_nil fun hnil => h (List.append_eq_nil_iff.mp hnil).2

/-- A comment that goes on at the end of the text hides what stands behind. -/
theorem isStuck_of_skip_overruns (h : (ofSkip r.flags.skip).Overruns cs) : r.IsStuck cs := by
  have hnil : r.flags.skip cs = [] := h.eq_nil rfl
  have hclose : r.flags.skip (cs ++ [')']) = [] := h.eq_nil_of_close rfl
  constructor
  · intro outer houter
    rw [read_of_skip_eq_nil (by exact hclose)]
    exact finish_under_eq_none _ houter
  · intro nested halone
    rw [read_of_skip_eq_nil (by exact hnil)] at halone
    rw [read_of_skip_eq_nil (by exact hclose)]
    exact halone

/-- So does a step that does not leave the ending whole. -/
theorem isStuck_of_step (hskip : (ofSkip r.flags.skip).Takes cs () (c :: left))
    (hinside : c = ')' → r.waiting ≠ []) (hstep : (r.readStep c).Overruns left)
    (hsame : r.readStep c left = none ∨ r.readStep c (left ++ [')']) = r.readStep c left) :
    r.IsStuck cs := by
  constructor
  · intro outer houter
    rw [read_of_skip_takes hskip hinside (.close [])]
    cases hnext : r.stepAt c (left ++ [')']) with
    | none => rfl
    | some next =>
      have hrest : next.rest = [] := hstep.eq_nil_of_close (readStep_eq_of_stepAt hnext)
      have hskipped : (next.under outer).flags.skip (next.under outer).rest = [] := by
        change next.flags.skip next.rest = []
        rw [hrest, next.flags.skip_nil]
      rw [Option.bind_some, read_of_skip_eq_nil hskipped]
      exact finish_under_eq_none next houter
  · intro nested halone
    have hread (t : List Char) (ht : IsEnding t) :
        (r.before (cs ++ t)).read = (r.stepAt c (left ++ t)).bind read := by
      have hunder := read_of_skip_takes hskip hinside ht []
      simpa only [under_nil] using hunder
    have hnil := hread [] .nil
    rw [List.append_nil, List.append_nil, halone] at hnil
    obtain ⟨next, hnext, hresult⟩ := Option.bind_eq_some_iff.mp hnil.symm
    rcases hsame with hnone | hsame
    · rw [readStep_eq_of_stepAt hnext] at hnone
      cases hnone
    · rw [readStep_eq_of_stepAt hnext] at hsame
      rw [hread _ (.close []), stepAt_eq_of_readStep hsame]
      exact hresult

/-- A repetition has a count. -/
theorem read_empty_brace {inside : List Char} (h : IsEnding (r.flags.skip inside)) :
    (r.before ('\x7b' :: inside)).read = none := by
  have hskip : r.flags.skip ('\x7b' :: inside) = '\x7b' :: inside :=
    r.flags.skip_cons (by decide) (by decide) inside
  have hstep : r.stepAt '\x7b' inside = none := by
    change (readCounts r.flags inside).bind _ = none
    rw [readCounts_of_isEnding h, Option.bind_none]
  rw [read_of_skip_eq_cons hskip, before_stepAt, hstep, Option.bind_none]

/-- A brace after the sign of the edge of a word is refused if nothing is in it, at once or as a
repetition. -/
theorem isStuck_of_empty_brace {inside : List Char}
    (hskip : (ofSkip r.flags.skip).Takes cs () ('\\' :: 'b' :: '\x7b' :: inside))
    (hinside : r.flags.skip inside = []) : r.IsStuck cs := by
  constructor
  · intro outer houter
    rw [read_of_skip_takes hskip (fun heq => absurd heq (by decide)) (.close [])]
    cases hnext : r.stepAt '\\' ('b' :: '\x7b' :: inside ++ [')']) with
    | none => rfl
    | some next =>
      obtain ⟨hflags, hrest⟩ :=
        readStep_empty_brace hinside (.close []) (readStep_eq_of_stepAt hnext)
      change ((next.under outer).before next.rest).read = none
      rcases hrest with hrest | hlength
      · have hrest : next.rest = '\x7b' :: (inside ++ [')']) := hrest
        have hends : IsEnding ((next.under outer).flags.skip (inside ++ [')'])) := by
          change IsEnding (next.flags.skip (inside ++ [')']))
          rw [show next.flags = r.flags from hflags]
          exact Flags.isEnding_skip_append_close hinside
        rw [hrest, read_empty_brace hends]
      · have hrest : next.rest = [] := List.length_eq_zero_iff.mp (Nat.le_zero.mp hlength)
        rw [hrest, read_before_nil]
        exact finish_under_eq_none next houter
  · intro nested halone
    have hleft : (r.before cs).flags.skip cs = '\\' :: 'b' :: '\x7b' :: inside :=
      congrArg Prod.snd (Option.some.inj hskip.eq)
    rw [read_of_skip_eq_cons hleft, before_stepAt] at halone
    have hedge : readEdge r.flags ('\x7b' :: inside) = none := by
      rw [readEdge_brace, hinside]
      rfl
    have hescape : readEscape r.flags ('b' :: '\x7b' :: inside) = none := by
      change (readEdge r.flags ('\x7b' :: inside)).map _ = none
      rw [hedge, Option.map_none]
    have hstep : r.stepAt '\\' ('b' :: '\x7b' :: inside) = none := by
      change (readEscape r.flags ('b' :: '\x7b' :: inside)).bind _ = none
      rw [hescape, Option.bind_none]
    rw [hstep] at halone
    cases halone

theorem reaches_of_skip (h : (ofSkip r.flags.skip).Takes cs () []) : r.Reaches cs r [] := by
  intro t ht outer
  refine read_before_congr ?_
  have hskip : r.flags.skip (cs ++ t) = t := congrArg Prod.snd (Option.some.inj (h t ht))
  exact hskip.trans (r.flags.skip_of_isEnding ht).symm

/-- Reading a text leads to its end, to a closing parenthesis that no opening one in it belongs to,
or to no end that a closing parenthesis may follow. -/
theorem reaches_or_closes_or_isStuck (r : Reading) (cs : List Char) :
    (∃ next, r.Reaches cs next []) ∨ r.Closes cs ∨ r.IsStuck cs := by
  -- by the length of the text, since a step takes some of it
  induction hn : cs.length using Nat.strongRecOn generalizing r cs with
  | ind n ih =>
    subst hn
    rcases r.flags.isLocal_skip.isLocalAt cs with ⟨_, left, hskip⟩ | hoverruns
    case inr => exact .inr (.inr (isStuck_of_skip_overruns hoverruns))
    cases left with
    | nil => exact .inl ⟨r, reaches_of_skip hskip⟩
    | cons c left =>
      by_cases hclose : c = ')' ∧ r.waiting = []
      · obtain ⟨rfl, hwaiting⟩ := hclose
        obtain ⟨blank, rfl⟩ := r.flags.isLocal_skip.shrinks hskip.eq
        have hleft : ofSkip r.flags.skip (blank ++ ')' :: left) = some ((), [] ++ ')' :: left) :=
          hskip.eq
        have hblank : (ofSkip r.flags.skip).Takes blank () [] :=
          (r.flags.isLocal_skip.isLocalAt blank).takes hleft
        exact .inr (.inl ⟨blank, left, r, rfl, reaches_of_skip hblank, hwaiting⟩)
      · have hinside : c = ')' → r.waiting ≠ [] := fun hc hnil => hclose ⟨hc, hnil⟩
        rcases r.isSteadyAt_readStep c left with hsteady | ⟨inside, rfl, rfl, hbraced⟩
        case inr => exact .inr (.inr (isStuck_of_empty_brace hskip hbraced))
        rcases hsteady with (⟨next, rest, hstep⟩ | ⟨hoverruns, hnone⟩) | ⟨hoverruns, hsame⟩
        · have hsteps : r.Steps cs c left next rest := ⟨hskip, hstep, hinside⟩
          rcases ih rest.length hsteps.length_lt next rest rfl with
            ⟨last, hlast⟩ | ⟨inside, after, last, rfl, hlast, hwaiting⟩ | hstuck
          · exact .inl ⟨last, hsteps.reaches.trans hlast⟩
          · rcases hsteps.reaches_of_close with ⟨front, rfl, hfront⟩ | ⟨braced, rfl, hbraced⟩
            · exact .inr (.inl ⟨front, after, last, rfl, hfront.trans hlast, hwaiting⟩)
            · -- what ends with an empty brace is refused, so its end is not reached
              have hread := hlast.read_eq
              rw [read_empty_brace (hbraced ▸ .nil), read_before_nil,
                finish_of_waiting_eq_nil hwaiting] at hread
              cases hread
          · exact .inr (.inr (hsteps.reaches.isStuck hstuck))
        · exact .inr (.inr (isStuck_of_step hskip hinside hoverruns (.inl hnone)))
        · exact .inr (.inr (isStuck_of_step hskip hinside hoverruns (.inr hsame)))

end Iocost.Pattern.Reading
