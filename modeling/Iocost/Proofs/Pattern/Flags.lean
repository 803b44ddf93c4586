import Iocost.Pattern.Flags
import Iocost.Proofs.Pattern.Reader

/-!
# Blanks and comments

What is left out of a text does not depend on what stands behind it, except that a comment goes on
there if no line feed has ended it. So skipping (`Flags.isLocal_skip`) and reading a run of
characters (`Flags.isLocal_span`) are local.
-/

namespace Iocost.Pattern.Flags

variable {f : Flags}

theorem isBlank_close : Text.isBlank ')' = false := by decide

/-! ## Skipping -/

theorem dropComments_suffix (inComment : Bool) (cs : List Char) :
    dropComments inComment cs <:+ cs := by
  induction cs generalizing inComment with
  | nil => cases inComment <;> exact List.suffix_refl []
  | cons c cs ih =>
    cases inComment with
    | true => exact (ih _).trans (List.suffix_cons c cs)
    | false =>
      unfold dropComments
      split
      · exact (ih _).trans (List.suffix_cons c cs)
      · split
        · exact (ih _).trans (List.suffix_cons c cs)
        · exact List.suffix_refl _

theorem dropComments_append (inComment : Bool) (cs : List Char) :
    (∀ t, IsEnding t → dropComments inComment (cs ++ t) = dropComments inComment cs ++ t) ∨
      ∀ t, IsEnding t → (dropComments inComment (cs ++ t)).length ≤ t.length - 1 := by
  induction cs generalizing inComment with
  | nil =>
    cases inComment with
    | true =>
      refine .inr fun t ht => ?_
      cases ht with
      | nil => exact Nat.le_refl 0
      | close tail => exact (dropComments_suffix _ tail).length_le
    | false =>
      refine .inl fun t ht => ?_
      cases ht with
      | nil => rfl
      | close tail => simp [dropComments, isBlank_close]
  | cons c cs ih =>
    cases inComment with
    | true => exact ih _
    | false =>
      simp only [List.cons_append, dropComments]
      split
      · exact ih false
      · split
        · exact ih true
        · exact .inl fun t _ => rfl

theorem skip_suffix (f : Flags) (cs : List Char) : f.skip cs <:+ cs := by
  unfold skip
  split
  · exact dropComments_suffix false cs
  · exact List.suffix_refl cs

theorem skip_cons (f : Flags) {c : Char} (hblank : Text.isBlank c = false) (hc : c ≠ '#')
    (cs : List Char) : f.skip (c :: cs) = c :: cs := by
  unfold skip
  split
  case isTrue => simp [dropComments, hblank, hc]
  case isFalse => rfl

theorem skip_nil (f : Flags) : f.skip [] = [] := List.suffix_nil.mp (f.skip_suffix [])

theorem isLocal_skip (f : Flags) : (Reader.ofSkip f.skip).IsLocal := by
  refine .ofSkip f.skip_suffix fun cs => ?_
  unfold skip
  split
  · exact dropComments_append false cs
  · exact .inl fun _ _ => rfl

theorem skip_of_isEnding (f : Flags) {t : List Char} (ht : IsEnding t) : f.skip t = t := by
  cases ht with
  | nil => exact f.skip_nil
  | close tail => exact f.skip_cons isBlank_close (by decide) tail

/-- Text that is not skipped is in front of what stands behind it. -/
theorem skip_append_of_ne_nil {cs : List Char} (h : f.skip cs ≠ []) {t : List Char}
    (ht : IsEnding t) : f.skip (cs ++ t) = f.skip cs ++ t := by
  rcases f.isLocal_skip.isLocalAt cs with ⟨_, rest, htakes⟩ | hoverruns
  · have hrest := congrArg Prod.snd (Option.some.inj htakes.eq)
    exact (congrArg Prod.snd (Option.some.inj (htakes t ht))).trans (congrArg (· ++ t) hrest.symm)
  · exact absurd (hoverruns.eq_nil rfl) h

/-- Behind text that is skipped an ending is left whole, unless a comment goes on in it. -/
theorem skip_append_of_eq_nil {cs : List Char} (h : f.skip cs = []) {t : List Char}
    (ht : IsEnding t) : f.skip (cs ++ t) = t ∨ (f.skip (cs ++ t)).length ≤ t.length - 1 := by
  rcases f.isLocal_skip.isLocalAt cs with ⟨_, rest, htakes⟩ | hoverruns
  · obtain rfl : f.skip cs = rest := congrArg Prod.snd (Option.some.inj htakes.eq)
    rw [h] at htakes
    exact .inl (congrArg Prod.snd (Option.some.inj (htakes t ht)))
  · exact .inr (hoverruns t ht _ _ rfl)

theorem isEnding_skip_append_close {cs : List Char} (h : f.skip cs = []) :
    IsEnding (f.skip (cs ++ [')'])) := by
  rcases skip_append_of_eq_nil h (.close []) with hclose | hlength
  · rw [hclose]
    exact .close []
  · rw [List.length_eq_zero_iff.mp (Nat.le_zero.mp hlength)]
    exact .nil

theorem skipInCount_suffix (f : Flags) (cs : List Char) : f.skipInCount cs <:+ cs := by
  unfold skipInCount
  split
  · exact dropComments_suffix false cs
  · exact List.dropWhile_suffix _

theorem dropWhile_isBlank_append (cs : List Char) {t : List Char} (ht : IsEnding t) :
    (cs ++ t).dropWhile Text.isBlank = cs.dropWhile Text.isBlank ++ t := by
  induction cs with
  | nil =>
    cases ht with
    | nil => rfl
    | close tail => exact List.dropWhile_cons_of_neg (by rw [isBlank_close]; exact nofun)
  | cons c cs ih =>
    rw [List.cons_append, List.dropWhile_cons, List.dropWhile_cons, ih]
    split <;> rfl

theorem isLocal_skipInCount (f : Flags) : (Reader.ofSkip f.skipInCount).IsLocal := by
  refine .ofSkip f.skipInCount_suffix fun cs => ?_
  unfold skipInCount
  split
  · exact dropComments_append false cs
  · exact .inl fun t ht => dropWhile_isBlank_append cs ht

/-! ## Looking ahead -/

/-- What is looked for ahead is no closing parenthesis, so an ending does not add it. -/
theorem peek_append (f : Flags) (cs : List Char) {t : List Char} (ht : IsEnding t) {c : Char}
    (hc : c ≠ ')') : (f.peek (cs ++ t) == some c) = (f.peek cs == some c) := by
  have hhead (ds : List Char) : ((ds ++ t).head? == some c) = (ds.head? == some c) := by
    cases ds with
    | cons d ds => rfl
    | nil =>
      cases ht with
      | nil => rfl
      | close tail => simpa using hc.symm
  unfold peek
  split
  case isFalse => exact hhead cs
  case isTrue =>
    rw [dropWhile_isBlank_append cs ht]
    cases cs.dropWhile Text.isBlank with
    | nil =>
      cases ht with
      | nil => rfl
      | close tail => simpa using hc.symm
    | cons d ds =>
      by_cases hd : d = '#'
      · subst hd
        simp only [List.cons_append, dropWhile_isBlank_append ds ht]
        exact hhead _
      · have hnot (rest : List Char) : ∀ ds', d :: rest ≠ '#' :: ds' := fun ds' heq =>
          hd (List.cons.inj heq).1
        rw [List.cons_append]
        split
        case h_1 heq => exact absurd heq (hnot _ _)
        case h_2 =>
          split
          case h_1 heq => exact absurd heq (hnot _ _)
          case h_2 => rfl

/-! ## Runs of characters -/

/-- Reads the characters that satisfy `p`. -/
def spanReader (f : Flags) (p : Char → Bool) (inComment : Bool) : Reader (List Char) := fun cs =>
  some (f.span p inComment cs)

theorem span_suffix (f : Flags) (p : Char → Bool) (inComment : Bool) (cs : List Char) :
    (f.span p inComment cs).2 <:+ cs := by
  induction cs generalizing inComment with
  | nil => cases inComment <;> exact List.suffix_refl []
  | cons c cs ih =>
    cases inComment with
    | true => exact (ih _).trans (List.suffix_cons c cs)
    | false =>
      unfold span
      split
      · exact (ih _).trans (List.suffix_cons c cs)
      · split
        · exact (ih _).trans (List.suffix_cons c cs)
        · split
          · exact (ih _).trans (List.suffix_cons c cs)
          · exact List.suffix_refl _

theorem span_append (f : Flags) (p : Char → Bool) (inComment : Bool) (cs : List Char) :
    (∀ t, IsEnding t → f.span p inComment (cs ++ t) =
      ((f.span p inComment cs).1, (f.span p inComment cs).2 ++ t)) ∨
      ∀ t, IsEnding t → (f.span p inComment (cs ++ t)).2.length ≤ t.length - 1 := by
  induction cs generalizing inComment with
  | nil =>
    cases inComment with
    | true =>
      refine .inr fun t ht => ?_
      cases ht with
      | nil => exact Nat.le_refl 0
      | close tail => exact (f.span_suffix p _ tail).length_le
    | false =>
      cases hp : p ')' with
      | true =>
        refine .inr fun t ht => ?_
        cases ht with
        | nil => exact Nat.le_refl 0
        | close tail =>
          simp only [List.nil_append, span, hp, ↓reduceIte]
          exact (f.span_suffix p _ tail).length_le
      | false =>
        refine .inl fun t ht => ?_
        cases ht with
        | nil => rfl
        | close tail => simp [span, hp, isBlank_close]
  | cons c cs ih =>
    cases inComment with
    | true => exact ih _
    | false =>
      simp only [List.cons_append, span]
      split
      · exact (ih false).imp_left fun h t ht => by rw [h t ht]
      · split
        · exact ih false
        · split
          · exact ih true
          · exact .inl fun t _ => rfl

theorem isLocal_span (f : Flags) (p : Char → Bool) (inComment : Bool) :
    (f.spanReader p inComment).IsLocal where
  shrinks := by
    intro cs a rest h
    obtain rfl : rest = (f.span p inComment cs).2 :=
      (congrArg Prod.snd (Option.some.inj h)).symm
    exact f.span_suffix p inComment cs
  isLocalAt cs := by
    rcases f.span_append p inComment cs with hkeeps | hdrops
    · exact .inl ⟨_, _, fun t ht => congrArg some (hkeeps t ht)⟩
    · refine .inr fun t ht a rest h => ?_
      obtain rfl : rest = (f.span p inComment (cs ++ t)).2 :=
        (congrArg Prod.snd (Option.some.inj h)).symm
      exact hdrops t ht

end Iocost.Pattern.Flags
