import Iocost.Pattern.Escape
import Iocost.Proofs.Pattern.Flags

/-!
# What stands behind an escape

Reading an escape is local, with one exception (`isStrictAt_readEscape`): after the sign of the edge
of a word, a brace with nothing behind it is refused, while a brace with a closing parenthesis
behind it is left for a repetition.
-/

namespace Iocost.Pattern

open Reader

variable {f : Flags}

/-! ## Numbers of characters -/

theorem readHexDigits_succ (f : Flags) (n : Nat) :
    readHexDigits f (n + 1) = (ofSkip f.skip).bind fun _ => head fun c =>
      if (hexValue c).isSome then
        Reader.bind (readHexDigits f n) fun digits => lift (some (c :: digits))
      else lift none := by
  funext cs
  rw [readHexDigits, ofSkip_bind]
  cases f.skip cs with
  | nil => rfl
  | cons c rest =>
    simp only [head]
    split
    · rw [bind_apply]
      cases readHexDigits f n rest <;> rfl
    · rfl

theorem isStrict_readHexDigits (f : Flags) (n : Nat) : Reader.IsStrict (readHexDigits f n) := by
  induction n with
  | zero => exact .lift (some [])
  | succ n ih =>
    rw [readHexDigits_succ]
    refine f.isLocal_skip.bind_isStrict (fun _ => .head fun c => ?_) fun _ => rfl
    split
    · exact ih.bind fun digits => .lift _
    · exact .lift none

/-- Hexadecimal digits up to a closing brace. -/
def readBracedHex (f : Flags) : Reader Primitive :=
  (f.spanReader (fun c => (hexValue c).isSome) false).bind fun digits =>
    if digits = [] then lift none
    else expect '\x7d' ((charOfHex? digits).map fun c => .literal c false)

theorem isStrict_readBracedHex (f : Flags) : (readBracedHex f).IsStrict := by
  refine (f.isLocal_span _ false).bind_isStrict (fun digits => ?_) fun digits => ?_
  all_goals split
  · exact .lift none
  · exact .expect _ _
  · rfl
  · rfl

theorem readHex_eq (f : Flags) (width : Nat) :
    readHex f width = (ofSkip f.skip).bind fun _ => ifHead '\x7b' (readBracedHex f)
      (Reader.bind (readHexDigits f width) fun digits =>
        lift ((charOfHex? digits).map fun c => .literal c (width == 2))) := by
  funext cs
  rw [readHex, ofSkip_bind]
  split
  case h_1 rest heq =>
    rw [heq, ifHead_cons_self, readBracedHex, bind_apply, Flags.spanReader, Option.bind_some]
    generalize f.span _ false rest = read
    obtain ⟨digits, left⟩ := read
    cases digits with
    | nil => rfl
    | cons d digits =>
      rw [if_neg (List.cons_ne_nil d digits)]
      split
      case h_1 heq => cases heq
      case h_2 heq =>
        obtain ⟨rfl, rfl⟩ := Prod.mk.inj heq
        rw [expect_cons_self, Option.map_map]
        rfl
      case h_3 hother =>
        exact (expect_of_ne fun rest hleft => hother _ _ (congrArg _ hleft)).symm
  case h_2 hother =>
    rw [ifHead_of_ne hother, bind_apply]
    cases readHexDigits f width (f.skip cs) with
    | none => rfl
    | some read =>
      cases hc : charOfHex? read.1 <;> simp [hc, lift_apply]

theorem readHexDigits_succ_nil (f : Flags) (n : Nat) : readHexDigits f (n + 1) [] = none := by
  rw [readHexDigits, f.skip_nil]

theorem isStrict_readHex (f : Flags) (n : Nat) : Reader.IsStrict (readHex f (n + 1)) := by
  rw [readHex_eq]
  refine f.isLocal_skip.bind_isStrict (fun _ => ?_) fun _ => ?_
  · exact (isStrict_readBracedHex f).ifHead
      ((isStrict_readHexDigits f _).bind fun digits => .lift _) (by decide)
  · change (readHexDigits f (n + 1) []).bind _ = none
    rw [readHexDigits_succ_nil, Option.bind_none]

/-! ## Properties -/

/-- The set of a property as a primitive. -/
def property? (f : Flags) (negated : Bool) (name : List Char) : Option Primitive :=
  (propertyNamed? name).bind fun set => (f.finish negated set).map .set

theorem readProperty_eq (f : Flags) (negated : Bool) :
    readProperty f negated = if f.unicode then
      (ofSkip f.skip).bind fun _ => head fun c =>
        if c = '\x7b' then
          (f.spanReader (· != '\x7d') false).bind fun name =>
            expect '\x7d' (property? f negated name)
        else if c = '\\' then lift none
        else lift (property? f negated [c])
      else lift none := by
  have hset (name rest : List Char) : (do
      let set ← propertyNamed? name
      some (Primitive.set (← f.finish negated set), rest)) =
        (property? f negated name).map fun p => (p, rest) := by
    unfold property?
    cases propertyNamed? name with
    | none => rfl
    | some set => cases hfinish : f.finish negated set <;> simp [hfinish]
  funext cs
  unfold readProperty
  cases f.unicode with
  | false => rfl
  | true =>
    simp only [guard, ↓reduceIte, ofSkip_bind, pure_bind]
    cases f.skip cs with
    | nil => rfl
    | cons c rest =>
      simp only [head]
      split
      case h_1 heq => cases heq
      case h_2 heq =>
        obtain ⟨rfl, rfl⟩ := List.cons.inj heq
        rw [if_pos rfl, bind_apply, Flags.spanReader, Option.bind_some]
        generalize f.span _ false rest = read
        obtain ⟨name, left⟩ := read
        split
        case h_1 heq =>
          obtain ⟨rfl, rfl⟩ := Prod.mk.inj heq
          rw [expect_cons_self]
          exact hset _ _
        case h_2 hother =>
          exact (expect_of_ne fun rest hleft => hother _ _ (congrArg _ hleft)).symm
      case h_3 heq =>
        obtain ⟨rfl, rfl⟩ := List.cons.inj heq
        rfl
      case h_4 hbrace hslash heq =>
        obtain ⟨rfl, rfl⟩ := List.cons.inj heq
        rw [if_neg hbrace, if_neg hslash]
        exact hset _ _

theorem isStrict_readProperty (f : Flags) (negated : Bool) :
    Reader.IsStrict (readProperty f negated) := by
  rw [readProperty_eq]
  split
  case isFalse => exact .lift none
  case isTrue =>
    refine f.isLocal_skip.bind_isStrict (fun _ => .head fun c => ?_) fun _ => rfl
    split
    · exact (f.isLocal_span _ false).bind_isStrict (fun name => .expect _ _) fun name => rfl
    · split
      · exact .lift none
      · exact .lift _

/-! ## Edges of words -/

def isInEdgeName (c : Char) : Bool := c.isAlpha || c == '-'

/-- The name of an edge up to a closing brace. -/
def readEdgeName (f : Flags) : Reader Edge :=
  (f.spanReader isInEdgeName false).bind fun name =>
    expect '\x7d' (Edge.named? (String.ofList name))

theorem isStrict_readEdgeName (f : Flags) : (readEdgeName f).IsStrict :=
  (f.isLocal_span _ false).bind_isStrict (fun _ => .expect _ _) fun _ => rfl

theorem readEdge_brace (f : Flags) (inside : List Char) :
    readEdge f ('\x7b' :: inside) = head (fun c rest =>
      if isInEdgeName c then readEdgeName f (c :: rest)
      else some (.boundary, '\x7b' :: inside)) (f.skip inside) := by
  have hinside : (fun c : Char => c.isAlpha || c == '-') = isInEdgeName := rfl
  rw [readEdge]
  cases f.skip inside with
  | nil => rfl
  | cons c rest =>
    by_cases hname : isInEdgeName c
    case neg => exact (if_neg hname).trans (if_neg hname).symm
    case pos =>
      refine (if_pos hname).trans (.trans ?_ (if_pos hname).symm)
      rw [readEdgeName, bind_apply, Flags.spanReader, Option.bind_some, hinside]
      generalize f.span _ false (c :: rest) = read
      obtain ⟨name, left⟩ := read
      split
      case h_1 heq =>
        obtain ⟨rfl, rfl⟩ := Prod.mk.inj heq
        exact (expect_cons_self _ _ _).symm
      case h_2 hother =>
        exact (expect_of_ne fun rest hleft => hother _ _ (congrArg _ hleft)).symm

/-- Something is in the brace: the name of an edge, or something else that is left. -/
theorem readEdge_brace_eq_some {inside rest : List Char} {edge : Edge}
    (h : readEdge f ('\x7b' :: inside) = some (edge, rest)) :
    ∃ c left, f.skip inside = c :: left ∧
      (isInEdgeName c = true ∧ readEdgeName f (c :: left) = some (edge, rest) ∨
        rest = '\x7b' :: inside) := by
  rw [readEdge_brace] at h
  cases hskip : f.skip inside with
  | nil =>
    rw [hskip] at h
    cases h
  | cons c left =>
    rw [hskip, head] at h
    refine ⟨c, left, rfl, ?_⟩
    split at h
    case isTrue hname => exact .inl ⟨hname, h⟩
    case isFalse => exact .inr (Prod.mk.inj (Option.some.inj h)).2.symm

theorem readEdge_of_ne {cs : List Char} (h : ∀ inside, cs ≠ '\x7b' :: inside) :
    readEdge f cs = some (.boundary, cs) := by
  unfold readEdge
  split
  case h_1 => exact absurd rfl (h _)
  case h_2 => rfl

theorem shrinks_readEdge (f : Flags) : Reader.Shrinks (readEdge f) := by
  intro cs edge rest h
  by_cases hbrace : ∃ inside, cs = '\x7b' :: inside
  · obtain ⟨inside, rfl⟩ := hbrace
    obtain ⟨c, left, hskip, ⟨-, hname⟩ | rfl⟩ := readEdge_brace_eq_some h
    · have hleft := (isStrict_readEdgeName f).shrinks hname
      exact (hleft.trans (hskip ▸ f.skip_suffix inside)).trans (List.suffix_cons _ inside)
    · exact List.suffix_refl _
  · rw [readEdge_of_ne fun inside heq => hbrace ⟨inside, heq⟩] at h
    obtain ⟨-, rfl⟩ := Prod.mk.inj (Option.some.inj h)
    exact List.suffix_refl cs

/-- Only a brace with nothing in it depends on what stands behind: it is refused at the end of a
text, and left for a repetition otherwise. -/
theorem isStrictAt_readEdge (f : Flags) (cs : List Char) :
    Reader.IsStrictAt (readEdge f) cs ∨ ∃ inside, cs = '\x7b' :: inside ∧ f.skip inside = [] := by
  by_cases hbrace : ∃ inside, cs = '\x7b' :: inside
  · obtain ⟨inside, rfl⟩ := hbrace
    cases hskip : f.skip inside with
    | nil => exact .inr ⟨inside, rfl, hskip⟩
    | cons c rest =>
      left
      have hkeeps (t : List Char) (ht : IsEnding t) : f.skip (inside ++ t) = c :: rest ++ t := by
        rw [Flags.skip_append_of_ne_nil (hskip ▸ List.cons_ne_nil c rest) ht, hskip]
      by_cases hname : isInEdgeName c
      · refine ((isStrict_readEdgeName f).isStrictAt (c :: rest)).congr fun t ht => ?_
        rw [List.cons_append, readEdge_brace, hkeeps t ht]
        exact if_pos hname
      · refine .inl ⟨.boundary, '\x7b' :: inside, fun t ht => ?_⟩
        rw [List.cons_append, readEdge_brace, hkeeps t ht]
        exact if_neg hname
  · refine .inl (.inl ⟨.boundary, cs, fun t ht => readEdge_of_ne fun inside heq => ?_⟩)
    cases cs with
    | nil =>
      obtain rfl : t = '\x7b' :: inside := heq
      cases ht
    | cons c cs => exact hbrace ⟨cs, congrArg (· :: cs) (List.cons.inj heq).1⟩

/-- A brace with nothing in it is left whole, unless its name is in the ending. -/
theorem readEdge_empty_brace {f : Flags} {inside t rest : List Char} {edge : Edge}
    (hinside : f.skip inside = []) (ht : IsEnding t)
    (h : readEdge f ('\x7b' :: inside ++ t) = some (edge, rest)) :
    rest = '\x7b' :: inside ++ t ∨ rest.length ≤ t.length - 1 := by
  obtain ⟨c, left, hskip, ⟨hname, hread⟩ | hrest⟩ := readEdge_brace_eq_some h
  · have hlength := (isStrict_readEdgeName f).shrinks.length_le hread
    rcases Flags.skip_append_of_eq_nil hinside ht with hends | hleft
    · -- the parenthesis at the start of an ending is in no name
      obtain rfl : t = c :: left := hends.symm.trans hskip
      cases ht
      exact absurd hname (by decide)
    · exact .inr (Nat.le_trans hlength (hskip ▸ hleft))
  · exact .inl hrest

/-! ## What follows a backslash -/

/-- Reads what follows a backslash and a character. -/
def readEscaped (f : Flags) (c : Char) : Reader Primitive := fun cs => readEscape f (c :: cs)

theorem readEscape_eq (f : Flags) : readEscape f = head (readEscaped f) := by
  funext cs
  cases cs <;> rfl

/-- Most characters stand for the same thing whatever follows. -/
theorem readEscaped_eq_lift {c : Char} (hc : c ∉ ['x', 'u', 'U', 'p', 'P', 'b']) :
    readEscaped f c = lift ((readEscape f [c]).map Prod.fst) := by
  funext cs
  have hcompl (set? : Option CharClass) :
      (do
        guard f.unicode
        let set ← set?
        some (Primitive.set (.compl set), cs)) =
      ((do
        guard f.unicode
        let set ← set?
        some (Primitive.set (.compl set), ([] : List Char))).map Prod.fst).map (·, cs) := by
    cases f.unicode <;> cases set? <;> rfl
  simp only [readEscaped, readEscape, lift_apply]
  split
  case isTrue => rfl
  case isFalse =>
    split
    case h_9 | h_10 | h_11 => exact hcompl _
    all_goals first | rfl | exact absurd (by decide) hc

theorem isStrict_readEscaped {c : Char} (hc : c ≠ 'b') : (readEscaped f c).IsStrict := by
  by_cases hother : c ∉ ['x', 'u', 'U', 'p', 'P', 'b']
  · rw [readEscaped_eq_lift hother]
    exact .lift _
  · simp only [List.mem_cons, List.not_mem_nil, or_false, not_not, hc] at hother
    rcases hother with rfl | rfl | rfl | rfl | rfl
    · exact isStrict_readHex f 1
    · exact isStrict_readHex f 3
    · exact isStrict_readHex f 7
    · exact isStrict_readProperty f false
    · exact isStrict_readProperty f true

theorem readEscaped_edge (f : Flags) :
    readEscaped f 'b' = Reader.bind (readEdge f) fun edge =>
      lift (some (.look (.edge edge f.wordClass))) := by
  funext cs
  change (readEdge f cs).map _ = _
  rw [bind_apply]
  cases readEdge f cs <;> rfl

theorem shrinks_readEscape (f : Flags) : Reader.Shrinks (readEscape f) := by
  rw [readEscape_eq]
  refine .head fun c => ?_
  by_cases hc : c = 'b'
  · rw [hc, readEscaped_edge]
    exact (shrinks_readEdge f).bind fun _ => .lift _
  · exact (isStrict_readEscaped hc).shrinks

theorem readEscape_empty_brace {f : Flags} {inside t rest : List Char} {primitive : Primitive}
    (hinside : f.skip inside = []) (ht : IsEnding t)
    (h : readEscape f ('b' :: '\x7b' :: inside ++ t) = some (primitive, rest)) :
    rest = '\x7b' :: inside ++ t ∨ rest.length ≤ t.length - 1 := by
  change (readEdge f ('\x7b' :: inside ++ t)).map _ = _ at h
  obtain ⟨⟨edge, left⟩, hedge, heq⟩ := Option.map_eq_some_iff.mp h
  obtain ⟨-, rfl⟩ := Prod.mk.inj heq
  exact readEdge_empty_brace hinside ht hedge

theorem isStrictAt_readEscape (f : Flags) (cs : List Char) :
    Reader.IsStrictAt (readEscape f) cs ∨
      ∃ inside, cs = 'b' :: '\x7b' :: inside ∧ f.skip inside = [] := by
  rw [readEscape_eq]
  cases cs with
  | nil => exact .inl (isStrictAt_head_nil (isStrict_readEscaped (by decide)).shrinks)
  | cons c cs =>
    by_cases hc : c = 'b'
    · subst hc
      rcases isStrictAt_readEdge f cs with hedge | ⟨inside, rfl, hskip⟩
      · have hescaped : IsStrictAt (readEscaped f 'b') cs := by
          rw [readEscaped_edge]
          exact hedge.bind (fun _ => .lift _) fun _ rest _ => (IsStrict.lift _).isStrictAt rest
        exact .inl (hescaped.congr fun _ _ => rfl)
      · exact .inr ⟨inside, rfl, hskip⟩
    · exact .inl (((isStrict_readEscaped hc).isStrictAt cs).congr fun _ _ => rfl)

end Iocost.Pattern
