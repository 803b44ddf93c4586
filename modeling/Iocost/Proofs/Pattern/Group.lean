import Iocost.Pattern.Parse
import Iocost.Proofs.Pattern.Flags

/-!
# What stands behind the start of a group

Names of groups and lists of flags are read to the character that ends them, whatever stands behind
it. So the start of a group is read in the same way whatever stands behind it, except that there may
be a comment right after the parenthesis (`isLocal_readGroup`).
-/

namespace Iocost.Pattern

open Reader

/-! ## Texts with a character that ends them -/

/-- Reads up to a character that satisfies `ends`, and that character. -/
def readUntil (ends : Char → Bool) : Reader (List Char × Char) := fun cs =>
  match cs.dropWhile (!ends ·) with
  | c :: rest => some ((cs.takeWhile (!ends ·), c), rest)
  | [] => none

theorem readUntil_eq (ends : Char → Bool) :
    readUntil ends = head fun c =>
      if ends c then lift (some ([], c))
      else (readUntil ends).bind fun read => lift (some (c :: read.1, read.2)) := by
  funext cs
  cases cs with
  | nil => rfl
  | cons c cs =>
    cases hc : ends c with
    | true => simp [readUntil, head, lift, hc]
    | false =>
      simp only [readUntil, head, bind_apply, List.dropWhile_cons, List.takeWhile_cons, hc,
        Bool.not_false, ↓reduceIte, Bool.false_eq_true]
      split <;> rfl

theorem shrinks_readUntil (ends : Char → Bool) : (readUntil ends).Shrinks := by
  intro cs read rest h
  unfold readUntil at h
  split at h
  case h_1 hdrop =>
    obtain ⟨-, rfl⟩ := Prod.mk.inj (Option.some.inj h)
    exact (List.suffix_cons _ _).trans (hdrop ▸ List.dropWhile_suffix _)
  case h_2 => cases h

theorem isStrict_readUntil (ends : Char → Bool) : (readUntil ends).IsStrict where
  shrinks := shrinks_readUntil ends
  isStrictAt cs := by
    induction cs with
    | nil =>
      rw [readUntil_eq]
      refine isStrictAt_head_nil ?_
      split
      · exact .lift _
      · exact (shrinks_readUntil ends).bind fun _ => .lift _
    | cons c cs ih =>
      have hhead (t : List Char) : readUntil ends (c :: cs ++ t) =
          (if ends c then lift (some ([], c))
            else (readUntil ends).bind fun read => lift (some (c :: read.1, read.2))) (cs ++ t) :=
        congrFun (readUntil_eq ends) _
      refine IsStrictAt.congr (fun t _ => hhead t) ?_
      split
      · exact (IsStrict.lift _).isStrictAt cs
      · exact ih.bind (fun _ => .lift _) fun _ rest _ => (IsStrict.lift _).isStrictAt rest

/-! ## Names -/

/-- A text as the name of a group. -/
def groupName? (name : List Char) : Option (List Char) :=
  match name with
  | c :: rest => if isNameStart c && rest.all isNameRest then some name else none
  | [] => none

theorem readName_eq :
    readName = (readUntil (· == '>')).bind fun read => lift (groupName? read.1) := by
  funext cs
  change _ = (match cs.dropWhile (· != '>') with
    | c :: rest => some ((cs.takeWhile (· != '>'), c), rest)
    | [] => none).bind fun read : (List Char × Char) × List Char =>
      (groupName? read.1.1).map fun name => (name, read.2)
  rw [readName]
  cases cs.dropWhile (· != '>') with
  | nil => cases cs.takeWhile (· != '>') <;> rfl
  | cons c rest =>
    cases cs.takeWhile (· != '>') with
    | nil => rfl
    | cons d name =>
      rw [Option.bind_some, groupName?]
      dsimp only
      split <;> rfl

theorem isStrict_readName : Reader.IsStrict readName := by
  rw [readName_eq]
  exact (isStrict_readUntil _).bind fun _ => .lift _

/-- Reads the name of a group and goes into the group. -/
def readNamed (r : Reading) : Reader Reading :=
  Reader.bind readName fun name =>
    lift (if r.names.contains name then none
      else some { r.enterNumbered [] with names := name :: r.names })

/-! ## Flags -/

/-- What a list of flags and the character that ends it make of a reading. -/
def setLetters? (r : Reading) (letters : List Char) (last : Char) : Option Reading :=
  if Flags.areLetters letters then
    if last = ':' then some (r.enter (r.flags.update letters) [])
    else if letters.isEmpty then none
    else
      some { r with
        flags := r.flags.update letters
        group := { r.group with parts := .flags :: r.group.parts }
        rest := [] }
  else none

/-- Reads a list of flags and goes on with them. -/
def readFlags (r : Reading) : Reader Reading :=
  (readUntil fun c => c == ':' || c == ')').bind fun read => lift (setLetters? r read.1 read.2)

/-! ## What follows the parenthesis -/

/-- Reads on after the question mark at the start of a group. -/
def readKind (r : Reading) : Reader Reading :=
  ifHead '=' (lift none) <|
    ifHead '!' (lift none) <|
      ifHead 'P' (ifHead '<' (readNamed r) (lift none)) <|
        ifHead '<' (ifHead '=' (lift none) (ifHead '!' (lift none) (readNamed r))) (readFlags r)

/-- Reads on after an opening parenthesis. -/
def readGroup (r : Reading) : Reader Reading :=
  (ofSkip r.flags.skip).bind fun _ => ifHead '?' (readKind r) (lift (some (r.enterNumbered [])))

theorem isStrict_readKind (r : Reading) : (readKind r).IsStrict := by
  have hnamed : (readNamed r).IsStrict := isStrict_readName.bind fun _ => .lift _
  have hflags : (readFlags r).IsStrict := (isStrict_readUntil _).bind fun _ => .lift _
  have hnone : (lift none : Reader Reading).IsStrict := .lift none
  refine hnone.ifHead (hnone.ifHead (.ifHead ?_ ?_ (by decide)) (by decide)) (by decide)
  · exact hnamed.ifHead hnone (by decide)
  · exact .ifHead (hnone.ifHead (hnone.ifHead hnamed (by decide)) (by decide)) hflags (by decide)

theorem isLocal_readGroup (r : Reading) : (readGroup r).IsLocal :=
  r.flags.isLocal_skip.bind fun _ =>
    (isStrict_readKind r).isLocal.ifHead (IsStrict.lift _).isLocal (by decide)

/-! ## Groups as steps -/

namespace Reading

/-- The reading with another text still to be read. -/
def before (r : Reading) (rest : List Char) : Reading := { r with rest := rest }

/-- A reading as what has been read and what is left. -/
def apart (r : Reading) : Reading × List Char := (r.before [], r.rest)

theorem setFlags_apart (r : Reading) (cs : List Char) :
    (r.setFlags cs).map apart = readFlags r cs := by
  change (r.setFlags cs).map apart = (match cs.dropWhile (fun c => !(c == ':' || c == ')')) with
    | c :: rest => some ((cs.takeWhile (fun c => !(c == ':' || c == ')')), c), rest)
    | [] => none).bind fun read : (List Char × Char) × List Char =>
      (setLetters? r read.1.1 read.1.2).map fun next => (next, read.2)
  unfold setFlags
  dsimp only
  generalize cs.takeWhile (fun c => !(c == ':' || c == ')')) = letters
  cases cs.dropWhile (fun c => !(c == ':' || c == ')')) with
  | nil => split <;> rfl
  | cons c rest =>
    rw [Option.bind_some]
    unfold setLetters?
    dsimp only
    by_cases hc : c = ':'
    · subst hc
      split <;> rfl
    · split
      · split
        case h_1 heq => exact absurd (List.cons.inj heq).1 hc
        case h_2 heq =>
          obtain ⟨-, rfl⟩ := List.cons.inj heq
          split <;> rfl
        case h_3 heq => cases heq
      · rfl

theorem enterNamed_apart (r : Reading) (cs : List Char) :
    (r.enterNamed cs).map apart = readNamed r cs := by
  rw [enterNamed, readNamed, bind_apply]
  cases readName cs with
  | none => rfl
  | some read =>
    simp only [Option.bind_eq_bind, Option.bind_some]
    cases r.names.contains read.1 <;> rfl

/-- No flag has the letter that may be in front of a name. -/
theorem setFlags_name (r : Reading) (cs : List Char) : r.setFlags ('P' :: cs) = none := by
  have hletters : Flags.areLetters (('P' :: cs).takeWhile fun c => !(c == ':' || c == ')')) =
      false := by
    rw [List.takeWhile_cons_of_pos (by decide)]
    exact Bool.and_eq_false_imp.mpr fun h => absurd (Bool.and_eq_true_iff.mp h).1 (by simp)
  unfold setFlags
  dsimp only
  rw [hletters]
  rfl

theorem openGroup_apart (r : Reading) (cs : List Char) :
    (r.openGroup cs).map apart = readGroup r cs := by
  have hne {c d : Char} (hcd : c ≠ d) (left : List Char) : ∀ rest, c :: left ≠ d :: rest :=
    fun _ heq => hcd (List.cons.inj heq).1
  rw [openGroup, readGroup, ofSkip_bind]
  split
  case h_1 heq => rw [heq]; rfl
  case h_2 heq => rw [heq]; rfl
  case h_3 heq => rw [heq]; rfl
  case h_4 heq => rw [heq]; rfl
  case h_5 heq =>
    rw [heq]
    exact enterNamed_apart r _
  case h_6 rest hahead hnot heq =>
    rw [heq, ifHead_cons_self, readKind, ifHead_of_ne (hne (by decide) _),
      ifHead_of_ne (hne (by decide) _), ifHead_of_ne (hne (by decide) _), ifHead_cons_self,
      ifHead_of_ne hahead, ifHead_of_ne hnot]
    exact enterNamed_apart r rest
  case h_7 rest hahead hnot _ _ hnamed hangle heq =>
    rw [heq, ifHead_cons_self, readKind, ifHead_of_ne hahead, ifHead_of_ne hnot]
    by_cases hname : ∃ left, rest = 'P' :: left
    · obtain ⟨left, rfl⟩ := hname
      rw [ifHead_cons_self, ifHead_of_ne fun rest heq => hnamed rest (congrArg _ heq),
        setFlags_name]
      rfl
    · rw [ifHead_of_ne fun left heq => hname ⟨left, heq⟩, ifHead_of_ne hangle]
      exact setFlags_apart r rest
  case h_8 hkind =>
    rw [ifHead_of_ne hkind]
    rfl

end Reading

end Iocost.Pattern
