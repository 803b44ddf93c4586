import Iocost.Pattern.Bracket
import Iocost.Proofs.Pattern.Escape

/-!
# What stands behind a class

A class in brackets is read to its closing bracket, whatever stands behind it
(`isStrict_readClass`).
-/

namespace Iocost.Pattern

open Reader

/-! ## The start of a class -/

/-- A hyphen or a bracket at the start of a class stands for itself. -/
def startItem (c : Char) : NestedSet := ⟨.single c, 0⟩

theorem openClass_eq (f : Flags) :
    (fun cs => some (openClass f cs)) = (ofSkip f.skip).bind fun _ =>
      (ifHead '^' (lift (some true)) (lift (some false))).bind fun negated =>
        (f.spanReader (· == '-') false).bind fun hyphens =>
          if hyphens = [] then
            ifHead ']' (lift (some ⟨negated, [startItem ']'], none⟩))
              (lift (some ⟨negated, [], none⟩))
          else lift (some ⟨negated, hyphens.map startItem, none⟩) := by
  funext cs
  rw [ofSkip_bind]
  unfold openClass
  -- there may be a caret after the bracket
  rcases f.skip cs with _ | ⟨c, left⟩
  case' cons => by_cases hc : c = '^'
  all_goals
    simp only [*, bind_apply, ifHead, lift, Option.map_some, Option.bind_some, Flags.spanReader,
      ↓reduceIte, List.cons.injEq, false_and, imp_self, implies_true]
    generalize f.span _ false _ = read
    obtain ⟨hyphens, rest⟩ := read
    cases hyphens with
    | cons => rfl
    | nil =>
      rw [if_pos rfl]
      dsimp only
      split
      case h_1 => rfl
      case h_2 hother =>
        rw [ifHead_of_ne fun left hleft => hother left rfl hleft]
        rfl

theorem isLocal_openClass (f : Flags) : Reader.IsLocal fun cs => some (openClass f cs) := by
  rw [openClass_eq]
  refine f.isLocal_skip.bind fun _ => .bind ?_ fun negated => (f.isLocal_span _ false).bind
    fun hyphens => ?_
  · exact (IsStrict.lift _).isLocal.ifHead (IsStrict.lift _).isLocal (by decide)
  · split
    · exact (IsStrict.lift _).isLocal.ifHead (IsStrict.lift _).isLocal (by decide)
    · exact (IsStrict.lift _).isLocal

/-! ## Items -/

/-- A primitive that may stand in a class, which is no condition on a place. -/
def Primitive.member? : Primitive → Option Primitive
  | look _ => none
  | p => some p

/-- An item of a class that is no condition on a place. -/
def readMember (f : Flags) : Reader Primitive :=
  Reader.bind (readClassItem f) fun p => lift p.member?

/-- What cannot be done with a condition is done with the items that are none. -/
theorem readClassItem_bind {α : Type} {f : Flags} {g : Primitive → Reader α}
    (h : ∀ condition cs, g (.look condition) cs = none) :
    Reader.bind (readClassItem f) g = (readMember f).bind g := by
  funext cs
  rw [readMember, bind_apply, bind_apply, bind_apply]
  cases readClassItem f cs with
  | none => rfl
  | some read =>
    obtain ⟨p, rest⟩ := read
    cases p with
    | look condition => exact h condition rest
    | literal => rfl
    | set => rfl

theorem readMember_eq (f : Flags) : readMember f = head fun c =>
    if c = '\\' then head fun d =>
      if d = 'b' then lift none else (readEscaped f d).bind fun p => lift p.member?
    else lift (some (.literal c false)) := by
  funext cs
  rcases cs with _ | ⟨c, cs⟩
  · rfl
  · by_cases hc : c = '\\'
    · subst hc
      rcases cs with _ | ⟨d, cs⟩
      · rfl
      · by_cases hd : d = 'b'
        · subst hd
          change (readEscaped f 'b' cs).bind _ = none
          rw [readEscaped_edge, bind_apply]
          cases readEdge f cs <;> rfl
        · simp only [head, ↓reduceIte, hd]
          rfl
    · have hitem : readClassItem f (c :: cs) = some (.literal c false, cs) := by
        unfold readClassItem
        split <;> simp_all
      simp only [head, hc, ↓reduceIte, readMember, bind_apply, hitem, Option.bind_some]
      rfl

theorem isStrict_readMember (f : Flags) : (readMember f).IsStrict := by
  rw [readMember_eq]
  refine .head fun c => ?_
  split
  · refine .head fun d => ?_
    split
    case isTrue => exact .lift none
    case isFalse hd => exact (isStrict_readEscaped hd).bind fun p => .lift _
  · exact .lift _

/-! ## Ranges -/

/-- The set of an item. -/
def Primitive.classSet? (f : Flags) : Primitive → Option CharClass
  | literal c _ => classLiteral? f c
  | set members => some members
  | look _ => none

/-- The set of two items with a hyphen between them. -/
def Primitive.range? (f : Flags) : Primitive → Primitive → Option CharClass
  | literal low _, literal high _ => do
    let _ ← classLiteral? f low
    let _ ← classLiteral? f high
    guard (low ≤ high)
    some (.range low high)
  | _, _ => none

/-- Reads on after an item. -/
def readRangeEnd (f : Flags) (first : Primitive) : Reader CharClass := fun cs =>
  if cs.head? = some '-' ∧ ¬(f.peek cs.tail == some ']' || f.peek cs.tail == some '-') then
    (ofSkip f.skip).bind
      (fun _ => (readMember f).bind fun last => lift (first.range? f last)) cs.tail
  else lift (first.classSet? f) cs

theorem readRangeEnd_look (f : Flags) (condition : Look) (cs : List Char) :
    readRangeEnd f (.look condition) cs = none := by
  unfold readRangeEnd
  split
  · rw [ofSkip_bind, bind_apply]
    cases readMember f (f.skip cs.tail) <;> rfl
  · rfl

theorem readClassRange_eq (f : Flags) :
    readClassRange f = (readMember f).bind fun first =>
      (ofSkip f.skip).bind fun _ => readRangeEnd f first := by
  refine .trans ?_ (readClassItem_bind fun condition cs => readRangeEnd_look f condition _)
  funext cs
  rw [bind_apply, readClassRange]
  cases readClassItem f cs with
  | none => rfl
  | some read =>
    obtain ⟨first, rest⟩ := read
    have halone (left : List Char) : (match first with
        | .literal c _ => (classLiteral? f c).map fun set => (set, left)
        | .set set => some (set, left)
        | .look _ => none) = lift (first.classSet? f) left := by
      cases first <;> rfl
    rw [Option.bind_some, ofSkip_bind]
    simp only [Option.bind_eq_bind, Option.bind_some, readRangeEnd]
    rcases f.skip rest with _ | ⟨c, after⟩
    · exact halone []
    · by_cases hc : c = '-'
      · subst hc
        by_cases hpeek : (f.peek after == some ']' || f.peek after == some '-')
        · simp only [hpeek, ↓reduceIte]
          exact (halone _).trans (if_neg fun h => h.2 hpeek).symm
        · refine .trans (if_neg hpeek) (.trans ?_ (if_pos ⟨rfl, hpeek⟩).symm)
          rw [ofSkip_bind, ← readClassItem_bind fun condition left => by
            cases first <;> rfl, bind_apply, List.tail_cons]
          cases readClassItem f (f.skip after) with
          | none => rfl
          | some read =>
            obtain ⟨last, left⟩ := read
            rw [Option.bind_some, Option.bind_some]
            cases first with
            | set => rfl
            | look => rfl
            | literal low _ =>
              cases last with
              | set => rfl
              | look => rfl
              | literal high _ =>
                cases hlow : classLiteral? f low <;> cases hhigh : classLiteral? f high <;>
                  by_cases hle : low ≤ high <;>
                  simp [lift, Primitive.range?, guard, failure, hlow, hhigh, hle]
      · refine .trans ?_ (if_neg fun h => hc (Option.some.inj h.1)).symm
        split
        case h_1 heq => exact absurd (List.cons.inj heq).1 hc
        case h_2 => exact halone _

theorem isLocal_readRangeEnd (f : Flags) (first : Primitive) : (readRangeEnd f first).IsLocal := by
  have hrange : ((ofSkip f.skip).bind fun _ =>
      (readMember f).bind fun last => lift (first.range? f last)).IsLocal :=
    f.isLocal_skip.bind fun _ => ((isStrict_readMember f).bind fun _ => .lift _).isLocal
  have halone : (lift (first.classSet? f)).IsLocal := (IsStrict.lift _).isLocal
  constructor
  · intro cs set rest h
    unfold readRangeEnd at h
    split at h
    · exact (hrange.shrinks h).trans (List.tail_suffix cs)
    · exact halone.shrinks h
  · intro cs
    rcases cs with _ | ⟨c, cs⟩
    · refine (halone.isLocalAt []).congr fun t ht => if_neg fun h => ?_
      cases ht <;> cases h.1
    · have hpeek (t : List Char) (ht : IsEnding t) :
          (f.peek (cs ++ t) == some ']' || f.peek (cs ++ t) == some '-') =
            (f.peek cs == some ']' || f.peek cs == some '-') := by
        rw [f.peek_append cs ht (by decide), f.peek_append cs ht (by decide)]
      by_cases hdash : c = '-' ∧ ¬(f.peek cs == some ']' || f.peek cs == some '-')
      · refine (hrange.isLocalAt cs).congr fun t ht => if_pos ⟨congrArg some hdash.1, ?_⟩
        exact (hpeek t ht).symm ▸ hdash.2
      · refine (halone.isLocalAt (c :: cs)).congr fun t ht => if_neg fun h => hdash ?_
        exact ⟨Option.some.inj h.1, hpeek t ht ▸ h.2⟩

theorem isLocal_readClassRange (f : Flags) : Reader.IsLocal (readClassRange f) := by
  rw [readClassRange_eq]
  exact (isStrict_readMember f).isLocal.bind fun first =>
    f.isLocal_skip.bind fun _ => isLocal_readRangeEnd f first

theorem consumes_readClassRange (f : Flags) : Reader.Consumes (readClassRange f) := by
  rw [readClassRange_eq]
  refine .bind ?_ fun first => .bind (.ofSkip f.skip_suffix) fun _ =>
    (isLocal_readRangeEnd f first).shrinks
  rw [readMember_eq]
  refine .head fun c => ?_
  split
  · refine .head fun d => ?_
    split
    case isTrue => exact .lift none
    case isFalse hd => exact (isStrict_readEscaped hd).shrinks.bind fun _ => .lift _
  · exact .lift _

/-! ## Named classes -/

theorem named?_eq_none {name : List Char} (h : ')' ∈ name) :
    CharClass.named? (String.ofList name) = none := by
  have hne (s : String) (hs : ')' ∉ s.toList) : String.ofList name ≠ s := by
    rintro rfl
    rw [String.toList_ofList] at hs
    exact hs h
  unfold CharClass.named?
  split
  case h_15 => rfl
  all_goals
    rename_i heq
    exact absurd heq (hne _ (by decide))

/-- Reads the name of a set up to its closing bracket. -/
def readClassName (negated : Bool) : Reader (Bool × CharClass) := fun cs =>
  match cs.dropWhile (· != ':') with
  | ':' :: ']' :: rest =>
    (CharClass.named? (String.ofList (cs.takeWhile (· != ':')))).map fun set =>
      ((negated, set), rest)
  | _ => none

theorem readClassName_of_eq {cs rest : List Char} (h : cs.dropWhile (· != ':') = ':' :: ']' :: rest)
    (negated : Bool) : readClassName negated cs =
      (CharClass.named? (String.ofList (cs.takeWhile (· != ':')))).map fun set =>
        ((negated, set), rest) := by
  rw [readClassName, h]
  rfl

theorem readClassName_of_ne {cs : List Char}
    (h : ∀ rest, cs.dropWhile (· != ':') ≠ ':' :: ']' :: rest) (negated : Bool) :
    readClassName negated cs = none := by
  unfold readClassName
  split
  case h_1 rest heq => exact absurd heq (h rest)
  case h_2 => rfl

theorem readNamedClass_eq (cs : List Char) :
    ((readNamedClass cs).map fun read => ((read.1, read.2.1), read.2.2)) =
      ifHead ':' (ifHead '^' (readClassName true) (readClassName false)) (lift none) cs := by
  rcases cs with _ | ⟨c, cs⟩
  · rfl
  · by_cases hc : c = ':'
    · subst hc
      rw [ifHead_cons_self]
      rcases cs with _ | ⟨d, cs⟩
      case' cons => by_cases hd : d = '^'
      all_goals
        simp only [*, readNamedClass, ifHead, ↓reduceIte, List.cons.injEq, false_and, imp_self,
          implies_true]
        split
        case h_1 heq =>
          rw [readClassName_of_eq heq, Option.map_map]
          rfl
        case h_2 hother => exact (readClassName_of_ne hother _).symm
    · have hnone : readNamedClass (c :: cs) = none := by
        unfold readNamedClass
        split
        case h_1 heq => exact absurd (List.cons.inj heq).1 hc
        case h_2 => rfl
      rw [hnone, ifHead_of_ne fun rest heq => hc (List.cons.inj heq).1]
      rfl

theorem readClassName_append {name : List Char} (h : ':' ∉ name) (negated : Bool)
    (cs : List Char) : readClassName negated (name ++ ':' :: cs) =
      ifHead ']' (lift ((CharClass.named? (String.ofList name)).map fun set => (negated, set)))
        (lift none) cs := by
  have hall : ∀ c ∈ name, (c != ':') = true := fun c hc =>
    bne_iff_ne.mpr (ne_of_mem_of_not_mem hc h)
  have hdrop : (name ++ ':' :: cs).dropWhile (· != ':') = ':' :: cs :=
    (List.dropWhile_append_of_pos hall).trans (List.dropWhile_cons_of_neg (by decide))
  have htake : (name ++ ':' :: cs).takeWhile (· != ':') = name := by
    rw [List.takeWhile_append_of_pos hall, List.takeWhile_cons_of_neg (by decide), List.append_nil]
  by_cases hcs : ∃ rest, cs = ']' :: rest
  · obtain ⟨rest, rfl⟩ := hcs
    rw [readClassName_of_eq hdrop, htake, ifHead_cons_self, lift_apply, Option.map_map]
    rfl
  · have hne : ∀ rest, cs ≠ ']' :: rest := fun rest heq => hcs ⟨rest, heq⟩
    rw [ifHead_of_ne hne]
    refine readClassName_of_ne (fun rest heq => ?_) negated
    exact hne rest (List.cons.inj (hdrop.symm.trans heq)).2

/-- A name with a closing parenthesis in it is none, so the name ends before any ending, if there is
one. -/
theorem readClassName_takes_or_none (negated : Bool) (cs : List Char) :
    (∃ named rest, (readClassName negated).Takes cs named rest) ∨
      ∀ t, IsEnding t → readClassName negated (cs ++ t) = none := by
  by_cases hcolon : ':' ∈ cs
  · obtain ⟨name, v, rfl, hname⟩ := List.eq_append_cons_of_mem hcolon
    rcases v with _ | ⟨d, v⟩
    · refine .inr fun t ht => ?_
      rw [List.append_assoc, List.cons_append, readClassName_append hname, List.nil_append,
        ifHead_of_isEnding ht (by decide)]
      rfl
    · by_cases hd : d = ']'
      · subst hd
        cases hset : CharClass.named? (String.ofList name) with
        | none =>
          refine .inr fun t _ => ?_
          rw [List.append_assoc, List.cons_append, readClassName_append hname, hset]
          rfl
        | some set =>
          refine .inl ⟨(negated, set), v, fun t _ => ?_⟩
          rw [List.append_assoc, List.cons_append, readClassName_append hname, hset]
          rfl
      · refine .inr fun t _ => ?_
        rw [List.append_assoc, List.cons_append, readClassName_append hname]
        exact if_neg hd
  · refine .inr fun t ht => ?_
    have hall : ∀ c ∈ cs, (c != ':') = true := fun c hc =>
      bne_iff_ne.mpr (ne_of_mem_of_not_mem hc hcolon)
    by_cases hends : ∃ rest, (cs ++ t).dropWhile (· != ':') = ':' :: ']' :: rest
    · obtain ⟨rest, hends⟩ := hends
      have hclose : ')' ∈ (cs ++ t).takeWhile (· != ':') := by
        rw [List.dropWhile_append_of_pos hall] at hends
        rw [List.takeWhile_append_of_pos hall]
        cases ht with
        | nil => cases hends
        | close tail =>
          rw [List.takeWhile_cons_of_pos (by decide)]
          exact List.mem_append_right cs List.mem_cons_self
      rw [readClassName_of_eq hends, named?_eq_none hclose, Option.map_none]
    · exact readClassName_of_ne (fun rest heq => hends ⟨rest, heq⟩) negated

theorem shrinks_readClassName (negated : Bool) : (readClassName negated).Shrinks := by
  intro cs named rest h
  by_cases hends : ∃ left, cs.dropWhile (· != ':') = ':' :: ']' :: left
  · obtain ⟨left, hends⟩ := hends
    rw [readClassName_of_eq hends] at h
    obtain ⟨set, -, hread⟩ := Option.map_eq_some_iff.mp h
    obtain ⟨-, rfl⟩ := Prod.mk.inj hread
    have hsuffix : ':' :: ']' :: left <:+ cs := hends ▸ List.dropWhile_suffix _
    exact ((List.suffix_cons _ left).trans (List.suffix_cons _ _)).trans hsuffix
  · rw [readClassName_of_ne fun left heq => hends ⟨left, heq⟩] at h
    cases h

/-- Whether a bracket opens a named class is settled before any ending. -/
theorem readNamedClass_takes_or_none (cs : List Char) :
    (∃ negated set rest, ∀ t, IsEnding t →
      readNamedClass (cs ++ t) = some (negated, set, rest ++ t)) ∨
      ∀ t, IsEnding t → readNamedClass (cs ++ t) = none := by
  have hread : (∃ named rest, Takes (fun cs =>
      (readNamedClass cs).map fun read => ((read.1, read.2.1), read.2.2)) cs named rest) ∨
      ∀ t, IsEnding t → readNamedClass (cs ++ t) = none := by
    simp only [← Option.map_eq_none_iff (f := fun read : Bool × CharClass × List Char =>
      ((read.1, read.2.1), read.2.2)), readNamedClass_eq, Takes]
    rcases cs with _ | ⟨c, cs⟩
    · exact .inr fun t ht => ifHead_of_isEnding ht (by decide)
    · by_cases hc : c = ':'
      · subst hc
        simp only [List.cons_append, ifHead_cons_self]
        rcases cs with _ | ⟨d, cs⟩
        · refine (readClassName_takes_or_none false []).imp ?_ fun h t ht => ?_
          · rintro ⟨named, rest, h⟩
            exact ⟨named, rest, fun t ht => (ifHead_of_isEnding ht (by decide)).trans (h t ht)⟩
          · exact (ifHead_of_isEnding ht (by decide)).trans (h t ht)
        · by_cases hd : d = '^'
          · subst hd
            exact readClassName_takes_or_none true cs
          · simp only [List.cons_append, ifHead, if_neg hd]
            exact readClassName_takes_or_none false (d :: cs)
      · exact .inr fun t _ => if_neg hc
  refine hread.imp_left ?_
  rintro ⟨⟨negated, set⟩, rest, h⟩
  refine ⟨negated, set, rest, fun t ht => ?_⟩
  obtain ⟨⟨negated', set', rest'⟩, hread, heq⟩ := Option.map_eq_some_iff.mp (h t ht)
  cases heq
  exact hread

theorem shrinks_readNamedClass {cs rest : List Char} {negated : Bool} {set : CharClass}
    (h : readNamedClass cs = some (negated, set, rest)) : rest <:+ cs := by
  have hname : Shrinks (ifHead '^' (readClassName true) (readClassName false)) :=
    (shrinks_readClassName true).ifHead (shrinks_readClassName false) '^'
  have hshrinks : Shrinks
      (ifHead ':' (ifHead '^' (readClassName true) (readClassName false)) (lift none)) :=
    hname.ifHead (.lift none) ':'
  have hread := readNamedClass_eq cs
  rw [h] at hread
  exact hshrinks hread.symm

/-! ## Classes -/

/-- Reads on after an opening bracket within a class. -/
def readInner (f : Flags) (outer : List OpenClass) (o : OpenClass) :
    Reader (List OpenClass × OpenClass) := fun cs =>
  match readNamedClass cs with
  | some (negated, set, rest) =>
    (f.finish negated set).map fun set => ((outer, o.push ⟨set, 0⟩), rest)
  | none => some ((o :: outer, (openClass f cs).1), (openClass f cs).2)

theorem readInner_of_eq_some {f : Flags} {outer : List OpenClass} {o : OpenClass}
    {cs rest : List Char} {negated : Bool} {set : CharClass}
    (h : readNamedClass cs = some (negated, set, rest)) :
    readInner f outer o cs =
      (f.finish negated set).map fun set => ((outer, o.push ⟨set, 0⟩), rest) := by
  rw [readInner, h]

theorem readInner_of_eq_none {f : Flags} {outer : List OpenClass} {o : OpenClass}
    {cs : List Char} (h : readNamedClass cs = none) :
    readInner f outer o cs = some ((o :: outer, (openClass f cs).1), (openClass f cs).2) := by
  rw [readInner, h]

theorem isLocal_readInner (f : Flags) (outer : List OpenClass) (o : OpenClass) :
    (readInner f outer o).IsLocal := by
  have hopen := (isLocal_openClass f).bind fun inner =>
    (IsStrict.lift (some (o :: outer, inner))).isLocal
  constructor
  · intro cs next rest h
    unfold readInner at h
    split at h
    case h_1 hnamed =>
      obtain ⟨_, -, hread⟩ := Option.map_eq_some_iff.mp h
      obtain ⟨-, rfl⟩ := Prod.mk.inj hread
      exact shrinks_readNamedClass hnamed
    case h_2 => exact hopen.shrinks h
  · intro cs
    rcases readNamedClass_takes_or_none cs with ⟨negated, set, rest, hnamed⟩ | hnone
    · refine ((IsStrict.lift ((f.finish negated set).map fun set =>
        (outer, o.push ⟨set, 0⟩))).isLocal.isLocalAt rest).congr fun t ht => ?_
      simp only [readInner, hnamed t ht, lift_apply, Option.map_map]
      rfl
    · refine (hopen.isLocalAt cs).congr fun t ht => ?_
      simp only [readInner, hnone t ht]
      rfl

/-- Reads one part of a class that does not close it. -/
def readClassPart (f : Flags) (outer : List OpenClass) (o : OpenClass) :
    Reader (List OpenClass × OpenClass) :=
  ifHead '[' (readInner f outer o) <|
    ifPair '&' (lift (some (outer, o.join f .inter))) <|
      ifPair '-' (lift (some (outer, o.join f .diff))) <|
        ifPair '~' (lift (some (outer, o.join f .symmDiff))) <|
          Reader.bind (readClassRange f) fun set => lift (some (outer, o.push ⟨set, 0⟩))

theorem isLocal_readClassPart (f : Flags) (outer : List OpenClass) (o : OpenClass) :
    (readClassPart f outer o).IsLocal := by
  have hlift (next : List OpenClass × OpenClass) : (lift (some next)).IsLocal :=
    (IsStrict.lift _).isLocal
  have hrange := (isLocal_readClassRange f).bind fun set => hlift (outer, o.push ⟨set, 0⟩)
  refine (isLocal_readInner f outer o).ifHead ?_ (by decide)
  refine (hlift _).ifPair ?_ (by decide)
  refine (hlift _).ifPair ?_ (by decide)
  exact (hlift _).ifPair hrange (by decide)

theorem consumes_readClassPart (f : Flags) (outer : List OpenClass) (o : OpenClass) :
    (readClassPart f outer o).Consumes := by
  have hrange : Consumes (Reader.bind (readClassRange f) fun set =>
      lift (some (outer, o.push ⟨set, 0⟩))) := (consumes_readClassRange f).bind fun _ => .lift _
  refine .ifHead (isLocal_readInner f outer o).shrinks ?_ '['
  refine .ifPair (.lift _) ?_ '&'
  refine .ifPair (.lift _) ?_ '-'
  exact .ifPair (.lift _) hrange '~'

/-- Reads on in the class around a closed one, if there is one. -/
def readOuter (outer : List OpenClass) (next : List OpenClass × OpenClass → Reader NestedSet)
    (closed : NestedSet) : Reader NestedSet :=
  match outer with
  | [] => lift (some closed)
  | o :: outer => next (outer, o.push closed)

def readClosing (f : Flags) (outer : List OpenClass) (o : OpenClass)
    (next : List OpenClass × OpenClass → Reader NestedSet) : Reader NestedSet :=
  (lift (o.close f)).bind (readOuter outer next)

theorem readOpenClass_succ (f : Flags) (fuel : Nat) (outer : List OpenClass) (o : OpenClass)
    (cs : List Char) :
    readOpenClass f (fuel + 1) outer o cs =
      ifHead ']' (readClosing f outer o fun next => readOpenClass f fuel next.1 next.2)
        (Reader.bind (readClassPart f outer o) fun next => readOpenClass f fuel next.1 next.2)
        (f.skip cs) := by
  rw [readOpenClass]
  split
  case h_1 heq =>
    rw [heq]
    rfl
  case h_2 rest heq =>
    have hpart : readClassPart f outer o ('[' :: rest) = readInner f outer o rest :=
      ifHead_cons_self _ _ _ _
    rw [heq, ifHead_of_ne fun left h => absurd (List.cons.inj h).1 (by decide), bind_apply, hpart]
    split
    case h_1 negated set left hnamed =>
      rw [readInner_of_eq_some hnamed]
      cases f.finish negated set <;> rfl
    case h_2 hnone =>
      rw [readInner_of_eq_none hnone]
      rfl
  case h_3 rest heq =>
    rw [heq, ifHead_cons_self, readClosing, bind_apply, lift_apply]
    cases o.close f with
    | none => rfl
    | some closed => cases outer <;> rfl
  case h_4 rest heq =>
    rw [heq]
    rfl
  case h_5 heq =>
    rw [heq]
    rfl
  case h_6 heq =>
    rw [heq]
    rfl
  case h_7 hnil hopen hclose hand hdiff hxor =>
    rw [ifHead_of_ne hclose, bind_apply, readClassPart, ifHead_of_ne hopen, ifPair_of_ne hand,
      ifPair_of_ne hdiff, ifPair_of_ne hxor, bind_apply]
    cases readClassRange f (f.skip cs) <;> rfl

/-- Only shorter texts are read with the fuel that is left. -/
theorem readOpenClass_succ_of_forall {f : Flags} {fuel : Nat} {cs : List Char}
    {next : List OpenClass × OpenClass → Reader NestedSet}
    (hnext : ∀ p rest, rest.length < cs.length →
      readOpenClass f fuel p.1 p.2 rest = next p rest) (outer : List OpenClass) (o : OpenClass) :
    readOpenClass f (fuel + 1) outer o cs =
      ifHead ']' (readClosing f outer o next) (Reader.bind (readClassPart f outer o) next)
        (f.skip cs) := by
  have hskip := (f.skip_suffix cs).length_le
  rw [readOpenClass_succ]
  rcases hleft : f.skip cs with _ | ⟨c, left⟩
  · rfl
  · rw [hleft] at hskip
    by_cases hc : c = ']'
    · subst hc
      rw [ifHead_cons_self, ifHead_cons_self, readClosing, readClosing, bind_apply, bind_apply,
        lift_apply]
      cases o.close f with
      | none => rfl
      | some closed =>
        cases outer with
        | nil => rfl
        | cons => exact hnext _ _ hskip
    · have hne : ∀ rest, c :: left ≠ ']' :: rest := fun rest h => hc (List.cons.inj h).1
      rw [ifHead_of_ne hne, ifHead_of_ne hne, bind_apply, bind_apply]
      cases hread : readClassPart f outer o (c :: left) with
      | none => rfl
      | some read =>
        exact hnext _ _ (Nat.lt_of_lt_of_le (consumes_readClassPart f outer o hread) hskip)

/-- Fuel beyond the length of the text makes no difference. -/
theorem readOpenClass_fuel (f : Flags) {fuel fuel' : Nat} {outer : List OpenClass} {o : OpenClass}
    {cs : List Char} (hfuel : cs.length < fuel) (hfuel' : cs.length < fuel') :
    readOpenClass f fuel outer o cs = readOpenClass f fuel' outer o cs := by
  induction fuel generalizing fuel' outer o cs with
  | zero => exact absurd hfuel (Nat.not_lt_zero _)
  | succ fuel ih =>
    obtain ⟨fuel', rfl⟩ := Nat.exists_eq_succ_of_ne_zero (Nat.ne_zero_of_lt hfuel')
    have hnext (p : List OpenClass × OpenClass) (rest : List Char)
        (hrest : rest.length < cs.length) :
        readOpenClass f fuel p.1 p.2 rest = readOpenClass f fuel' p.1 p.2 rest :=
      ih (Nat.lt_of_lt_of_le hrest (Nat.le_of_lt_succ hfuel))
        (Nat.lt_of_lt_of_le hrest (Nat.le_of_lt_succ hfuel'))
    rw [readOpenClass_succ_of_forall hnext outer o]
    exact (readOpenClass_succ f fuel' outer o cs).symm

/-- Reads the rest of a class, given the classes around it and what has been read of it. -/
def readClassRest (f : Flags) (opened : List OpenClass × OpenClass) : Reader NestedSet := fun cs =>
  readOpenClass f (cs.length + 1) opened.1 opened.2 cs

theorem readClassRest_eq (f : Flags) (outer : List OpenClass) (o : OpenClass) :
    readClassRest f (outer, o) = (ofSkip f.skip).bind fun _ =>
      ifHead ']' (readClosing f outer o (readClassRest f))
        (Reader.bind (readClassPart f outer o) (readClassRest f)) := by
  funext cs
  refine readOpenClass_succ_of_forall (fun p rest hrest => ?_) outer o
  exact readOpenClass_fuel f hrest (Nat.lt_succ_self _)

theorem readClassRest_nil (f : Flags) (opened : List OpenClass × OpenClass) :
    readClassRest f opened [] = none := by
  rw [readClassRest, readOpenClass, f.skip_nil]

section

variable {next : List OpenClass × OpenClass → Reader NestedSet} (hnext : ∀ p, (next p).Shrinks)

include hnext

theorem shrinks_readOuter (outer : List OpenClass) (closed : NestedSet) :
    (readOuter outer next closed).Shrinks := by
  cases outer with
  | nil => exact .lift _
  | cons => exact hnext _

theorem shrinks_readClosing (f : Flags) (outer : List OpenClass) (o : OpenClass) :
    (readClosing f outer o next).Shrinks :=
  (Shrinks.lift _).bind (shrinks_readOuter hnext outer)

theorem isStrictAt_readClosing (f : Flags) (outer : List OpenClass) (o : OpenClass)
    {cs : List Char} (h : ∀ p, (next p).IsStrictAt cs) :
    (readClosing f outer o next).IsStrictAt cs := by
  refine ((IsStrict.lift _).isStrictAt cs).bind (shrinks_readOuter hnext outer)
    fun closed rest hclosed => ?_
  obtain ⟨_, -, heq⟩ := Option.map_eq_some_iff.mp hclosed.eq
  obtain ⟨-, rfl⟩ := Prod.mk.inj heq
  cases outer with
  | nil => exact (IsStrict.lift _).isStrictAt cs
  | cons => exact h _

end

/-- What is left after a class is the end of the text before it. -/
theorem readOpenClass_suffix {f : Flags} {fuel : Nat} {outer : List OpenClass} {o : OpenClass}
    {cs rest : List Char} {closed : NestedSet}
    (h : readOpenClass f fuel outer o cs = some (closed, rest)) : rest <:+ cs := by
  induction fuel generalizing outer o cs rest closed with
  | zero => cases h
  | succ fuel ih =>
    have hnext (next : List OpenClass × OpenClass) :
        Shrinks (readOpenClass f fuel next.1 next.2) := fun _ _ _ hread => ih hread
    have hpart := (isLocal_readClassPart f outer o).shrinks.bind hnext
    rw [readOpenClass_succ] at h
    exact ((shrinks_readClosing hnext f outer o).ifHead hpart ']' h).trans (f.skip_suffix cs)

theorem shrinks_readClassRest (f : Flags) (opened : List OpenClass × OpenClass) :
    (readClassRest f opened).Shrinks := fun _ _ _ => readOpenClass_suffix

theorem isStrictAt_readClassRest (f : Flags) (opened : List OpenClass × OpenClass)
    (cs : List Char) : (readClassRest f opened).IsStrictAt cs := by
  -- by the length of the text, since every part of a class takes some of it
  induction hn : cs.length using Nat.strongRecOn generalizing opened cs with
  | ind n ih =>
    subst hn
    obtain ⟨outer, o⟩ := opened
    have hshrinks := shrinks_readClassRest f
    have hpart := (isLocal_readClassPart f outer o).shrinks.bind hshrinks
    rw [readClassRest_eq]
    refine (f.isLocal_skip.isLocalAt cs).bind_isStrictAt
      (fun _ => (shrinks_readClosing hshrinks f outer o).ifHead hpart ']') (fun _ => rfl)
      fun _ left hskip => ?_
    have hleft : left.length ≤ cs.length := f.isLocal_skip.shrinks.length_le hskip.eq
    refine .ifHead (fun rest heq => ?_) ?_ (by decide)
    · subst heq
      exact isStrictAt_readClosing hshrinks f outer o fun next => ih _ hleft next rest rfl
    · refine ((isLocal_readClassPart f outer o).isLocalAt left).bind_isStrictAt hshrinks
        (readClassRest_nil f) fun next rest hnext => ?_
      have hrest := Nat.lt_of_lt_of_le (consumes_readClassPart f outer o hnext.eq) hleft
      exact ih _ hrest next rest rfl

theorem isStrict_readClass (f : Flags) : Reader.IsStrict (readClass f) := by
  have hclass : readClass f = Reader.bind (fun cs => some (openClass f cs)) fun o =>
      readClassRest f ([], o) := by
    funext cs
    have hopen : (fun cs => some (openClass f cs)) cs = some (openClass f cs) := rfl
    have hlength := (isLocal_openClass f).shrinks.length_le hopen
    exact readOpenClass_fuel f (Nat.lt_succ_of_le hlength) (Nat.lt_succ_self _)
  rw [hclass]
  exact (isLocal_openClass f).bind_isStrict
    (fun o => ⟨shrinks_readClassRest f _, isStrictAt_readClassRest f _⟩)
    fun o => readClassRest_nil f _

end Iocost.Pattern
