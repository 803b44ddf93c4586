import Mathlib.Data.List.Basic
import Mathlib.Data.Option.Basic

/-!
# Readers and what stands behind a text

A reader takes something from the start of a text. What it does with a text may depend on what
stands behind it. Behind a text in parentheses that is the closing parenthesis and all that follows;
this is what an *ending* is. A reader is local if it either takes the same from a text whatever
ending stands behind it (`Reader.Takes`), or else does not leave the ending whole
(`Reader.Overruns`).
Readers put together from local ones are local.
-/

namespace Iocost.Pattern

/-- What may stand behind a text: nothing, or a closing parenthesis with more text behind it. -/
inductive IsEnding : List Char → Prop
  | nil : IsEnding []
  | close (tail : List Char) : IsEnding (')' :: tail)

/-- Takes something from the start of a text and leaves the rest. -/
abbrev Reader (α : Type) : Type := List Char → Option (α × List Char)

namespace Reader

variable {α β : Type}

/-! ## Readers put together -/

/-- Reads on with what has been read. -/
def bind (f : Reader α) (g : α → Reader β) : Reader β := fun cs =>
  (f cs).bind fun read => g read.1 read.2

/-- Leaves the text alone. -/
def lift (a? : Option α) : Reader α := fun cs => a?.map fun a => (a, cs)

/-- Only drops something from the start of the text. -/
def ofSkip (skip : List Char → List Char) : Reader Unit := fun cs => some ((), skip cs)

/-- Takes one character and reads on with it. -/
def head (g : Char → Reader α) : Reader α
  | [] => none
  | c :: cs => g c cs

/-- Takes the character `c` if it is the next one, and reads on in one of two ways. -/
def ifHead (c : Char) (f g : Reader α) : Reader α
  | [] => g []
  | d :: cs => if d = c then f cs else g (d :: cs)

/-- Takes the character `c` twice if it comes twice, and reads on in one of two ways. -/
def ifPair (c : Char) (f g : Reader α) : Reader α
  | d :: e :: cs => if d = c ∧ e = c then f cs else g (d :: e :: cs)
  | cs => g cs

/-- Takes the character `c`, which has to be the next one. -/
def expect (c : Char) (a? : Option α) : Reader α := head fun d => lift (if d = c then a? else none)

theorem bind_apply (f : Reader α) (g : α → Reader β) (cs : List Char) :
    f.bind g cs = (f cs).bind fun read => g read.1 read.2 := rfl

theorem lift_apply (a? : Option α) (cs : List Char) : lift a? cs = a?.map fun a => (a, cs) := rfl

theorem ofSkip_bind (skip : List Char → List Char) (g : Unit → Reader α) (cs : List Char) :
    (ofSkip skip).bind g cs = g () (skip cs) := rfl

@[simp]
theorem ifHead_cons_self (c : Char) (f g : Reader α) (cs : List Char) :
    ifHead c f g (c :: cs) = f cs := if_pos rfl

theorem ifHead_of_ne {c : Char} {f g : Reader α} {cs : List Char} (h : ∀ rest, cs ≠ c :: rest) :
    ifHead c f g cs = g cs := by
  cases cs with
  | nil => rfl
  | cons d cs => exact if_neg fun hd => h cs (congrArg (· :: cs) hd)

theorem ifPair_of_ne {c : Char} {f g : Reader α} {cs : List Char}
    (h : ∀ rest, cs ≠ c :: c :: rest) : ifPair c f g cs = g cs := by
  rcases cs with _ | ⟨d, _ | ⟨e, cs⟩⟩
  · rfl
  · rfl
  · refine if_neg ?_
    rintro ⟨rfl, rfl⟩
    exact h cs rfl

@[simp]
theorem expect_cons_self (c : Char) (a? : Option α) (cs : List Char) :
    expect c a? (c :: cs) = a?.map fun a => (a, cs) := by
  simp only [expect, head, ↓reduceIte, lift]

theorem expect_of_ne {c : Char} {a? : Option α} {cs : List Char} (h : ∀ rest, cs ≠ c :: rest) :
    expect c a? cs = none := by
  cases cs with
  | nil => rfl
  | cons d cs =>
    have hd : d ≠ c := fun hd => h cs (congrArg (· :: cs) hd)
    simp only [expect, head, hd, ↓reduceIte, lift, Option.map_none]

/-! ## What a reader leaves -/

/-- What the reader leaves is the end of the text. -/
def Shrinks (f : Reader α) : Prop := ∀ ⦃cs a rest⦄, f cs = some (a, rest) → rest <:+ cs

theorem Shrinks.bind {f : Reader α} {g : α → Reader β} (hf : f.Shrinks)
    (hg : ∀ a, (g a).Shrinks) : (f.bind g).Shrinks := by
  intro cs b rest h
  obtain ⟨⟨a, middle⟩, hread, h⟩ := Option.bind_eq_some_iff.mp h
  exact (hg a h).trans (hf hread)

theorem Shrinks.lift (a? : Option α) : (lift a?).Shrinks := by
  intro cs a rest h
  obtain ⟨_, -, h⟩ := Option.map_eq_some_iff.mp h
  obtain ⟨-, rfl⟩ := Prod.mk.inj h
  exact List.suffix_refl cs

theorem Shrinks.ofSkip {skip : List Char → List Char} (h : ∀ cs, skip cs <:+ cs) :
    (ofSkip skip).Shrinks := by
  intro cs _ rest hread
  obtain ⟨-, rfl⟩ := Prod.mk.inj (Option.some.inj hread)
  exact h cs

theorem Shrinks.head {g : Char → Reader α} (hg : ∀ c, (g c).Shrinks) : (head g).Shrinks := by
  intro cs a rest h
  cases cs with
  | nil => cases h
  | cons c cs => exact (hg c h).trans (List.suffix_cons c cs)

theorem Shrinks.ifHead {f g : Reader α} (hf : f.Shrinks) (hg : g.Shrinks) (c : Char) :
    (ifHead c f g).Shrinks := by
  intro cs a rest h
  cases cs with
  | nil => exact hg h
  | cons d cs =>
    by_cases hd : d = c
    · exact (hf ((if_pos hd).symm.trans h)).trans (List.suffix_cons d cs)
    · exact hg ((if_neg hd).symm.trans h)

theorem Shrinks.ifPair {f g : Reader α} (hf : f.Shrinks) (hg : g.Shrinks) (c : Char) :
    (ifPair c f g).Shrinks := by
  intro cs a rest h
  rcases cs with _ | ⟨d, _ | ⟨e, cs⟩⟩
  · exact hg h
  · exact hg h
  · by_cases hd : d = c ∧ e = c
    · exact (hf ((if_pos hd).symm.trans h)).trans ((List.suffix_cons e cs).trans
        (List.suffix_cons d _))
    · exact hg ((if_neg hd).symm.trans h)

theorem Shrinks.length_le {f : Reader α} (hf : f.Shrinks) {cs rest : List Char} {a : α}
    (h : f cs = some (a, rest)) : rest.length ≤ cs.length := (hf h).length_le

/-- The reader takes at least one character. -/
def Consumes (f : Reader α) : Prop :=
  ∀ ⦃cs a rest⦄, f cs = some (a, rest) → rest.length < cs.length

theorem Consumes.head {g : Char → Reader α} (hg : ∀ c, (g c).Shrinks) : (head g).Consumes := by
  intro cs a rest h
  cases cs with
  | nil => cases h
  | cons c cs => exact Nat.lt_succ_of_le ((hg c).length_le h)

theorem Consumes.bind {f : Reader α} {g : α → Reader β} (hf : f.Consumes)
    (hg : ∀ a, (g a).Shrinks) : (f.bind g).Consumes := by
  intro cs b rest h
  obtain ⟨⟨a, middle⟩, hread, h⟩ := Option.bind_eq_some_iff.mp h
  exact Nat.lt_of_le_of_lt ((hg a).length_le h) (hf hread)

theorem Consumes.ifHead {f g : Reader α} (hf : f.Shrinks) (hg : g.Consumes) (c : Char) :
    (ifHead c f g).Consumes := by
  intro cs a rest h
  cases cs with
  | nil => exact hg h
  | cons d cs =>
    by_cases hd : d = c
    · exact Nat.lt_succ_of_le (hf.length_le ((if_pos hd).symm.trans h))
    · exact hg ((if_neg hd).symm.trans h)

theorem Consumes.ifPair {f g : Reader α} (hf : f.Shrinks) (hg : g.Consumes) (c : Char) :
    (ifPair c f g).Consumes := by
  intro cs a rest h
  rcases cs with _ | ⟨d, _ | ⟨e, cs⟩⟩
  · exact hg h
  · exact hg h
  · by_cases hd : d = c ∧ e = c
    · exact Nat.lt_succ_of_le (Nat.le_succ_of_le (hf.length_le ((if_pos hd).symm.trans h)))
    · exact hg ((if_neg hd).symm.trans h)

/-! ## What stands behind -/

/-- The reader takes `a` from `cs` and leaves `rest`, whatever ending stands behind. -/
def Takes (f : Reader α) (cs : List Char) (a : α) (rest : List Char) : Prop :=
  ∀ t, IsEnding t → f (cs ++ t) = some (a, rest ++ t)

/-- Whatever ending stands behind `cs`, the reader fails or leaves less than the ending. -/
def Overruns (f : Reader α) (cs : List Char) : Prop :=
  ∀ t, IsEnding t → ∀ a rest, f (cs ++ t) = some (a, rest) → rest.length ≤ t.length - 1

/-- At this text the reader does not depend on what stands behind, unless it reads that too. -/
def IsLocalAt (f : Reader α) (cs : List Char) : Prop :=
  (∃ a rest, f.Takes cs a rest) ∨ f.Overruns cs

/-- The reader is local at this text, and fails if something is missing at the end. -/
def IsStrictAt (f : Reader α) (cs : List Char) : Prop :=
  (∃ a rest, f.Takes cs a rest) ∨ f.Overruns cs ∧ f cs = none

/-- At this text the reader is strict, or does not see a closing parenthesis at the end. -/
def IsSteadyAt (f : Reader α) (cs : List Char) : Prop :=
  f.IsStrictAt cs ∨ f.Overruns cs ∧ f (cs ++ [')']) = f cs

structure IsLocal (f : Reader α) : Prop where
  shrinks : f.Shrinks
  isLocalAt : ∀ cs, f.IsLocalAt cs

structure IsStrict (f : Reader α) : Prop where
  shrinks : f.Shrinks
  isStrictAt : ∀ cs, f.IsStrictAt cs

variable {f : Reader α} {g : α → Reader β} {cs rest : List Char} {a : α}

theorem IsStrictAt.isLocalAt (h : f.IsStrictAt cs) : f.IsLocalAt cs := h.imp_right And.left

theorem IsSteadyAt.isLocalAt (h : f.IsSteadyAt cs) : f.IsLocalAt cs :=
  h.elim IsStrictAt.isLocalAt fun h => .inr h.1

theorem IsStrict.isLocal (h : f.IsStrict) : f.IsLocal :=
  ⟨h.shrinks, fun cs => (h.isStrictAt cs).isLocalAt⟩

theorem Takes.eq (h : f.Takes cs a rest) : f cs = some (a, rest) := by
  have hnil := h [] .nil
  rwa [List.append_nil, List.append_nil] at hnil

theorem Overruns.eq_nil (h : f.Overruns cs) (hread : f cs = some (a, rest)) : rest = [] := by
  have hlength := h [] .nil a rest (by rwa [List.append_nil])
  exact List.length_eq_zero_iff.mp (Nat.le_zero.mp hlength)

theorem Overruns.eq_nil_of_close (h : f.Overruns cs)
    (hread : f (cs ++ [')']) = some (a, rest)) : rest = [] :=
  List.length_eq_zero_iff.mp (Nat.le_zero.mp (h _ (.close []) a rest hread))

/-- A local reader that leaves one ending whole does so with every ending. -/
theorem IsLocalAt.takes (h : f.IsLocalAt cs) {tail : List Char}
    (hread : f (cs ++ ')' :: tail) = some (a, rest ++ ')' :: tail)) : f.Takes cs a rest := by
  rcases h with ⟨b, left, htakes⟩ | hoverruns
  · obtain ⟨rfl, hleft⟩ := Prod.mk.inj (Option.some.inj ((htakes _ (.close tail)).symm.trans hread))
    rwa [List.append_cancel_right hleft] at htakes
  · have hlength := hoverruns _ (.close tail) _ _ hread
    rw [List.length_append, List.length_cons] at hlength
    omega

theorem Takes.isStrictAt (h : f.Takes cs a rest) : f.IsStrictAt cs := .inl ⟨a, rest, h⟩

/-! ## Local readers put together -/

theorem Takes.bind (h : f.Takes cs a rest) {b : β} {left : List Char}
    (hg : (g a).Takes rest b left) : (f.bind g).Takes cs b left := by
  intro t ht
  rw [Reader.bind, h t ht, Option.bind_some, hg t ht]

theorem Takes.overruns_bind (h : f.Takes cs a rest) (hg : (g a).Overruns rest) :
    (f.bind g).Overruns cs := by
  intro t ht b left hread
  rw [Reader.bind, h t ht, Option.bind_some] at hread
  exact hg t ht b left hread

theorem Overruns.bind (h : f.Overruns cs) (hg : ∀ a, (g a).Shrinks) : (f.bind g).Overruns cs := by
  intro t ht b left hread
  obtain ⟨⟨a, rest⟩, hfirst, hread⟩ := Option.bind_eq_some_iff.mp hread
  exact Nat.le_trans ((hg a).length_le hread) (h t ht a rest hfirst)

theorem IsLocalAt.bind (hf : f.IsLocalAt cs) (hshrinks : ∀ a, (g a).Shrinks)
    (hg : ∀ a rest, f.Takes cs a rest → (g a).IsLocalAt rest) : (f.bind g).IsLocalAt cs := by
  rcases hf with ⟨a, rest, htakes⟩ | hoverruns
  · rcases hg a rest htakes with ⟨b, left, hb⟩ | hb
    · exact .inl ⟨b, left, htakes.bind hb⟩
    · exact .inr (htakes.overruns_bind hb)
  · exact .inr (hoverruns.bind hshrinks)

/-- Reading on strictly is strict if there is more to read in any case. -/
theorem IsLocalAt.bind_isStrictAt (hf : f.IsLocalAt cs) (hshrinks : ∀ a, (g a).Shrinks)
    (hnil : ∀ a, g a [] = none) (hg : ∀ a rest, f.Takes cs a rest → (g a).IsStrictAt rest) :
    (f.bind g).IsStrictAt cs := by
  rcases hf with ⟨a, rest, htakes⟩ | hoverruns
  · rcases hg a rest htakes with ⟨b, left, hb⟩ | ⟨hb, hnone⟩
    · exact .inl ⟨b, left, htakes.bind hb⟩
    · refine .inr ⟨htakes.overruns_bind hb, ?_⟩
      rw [Reader.bind, htakes.eq, Option.bind_some, hnone]
  · refine .inr ⟨hoverruns.bind hshrinks, ?_⟩
    cases hread : f cs with
    | none => rw [Reader.bind, hread, Option.bind_none]
    | some read => rw [Reader.bind, hread, Option.bind_some, hoverruns.eq_nil hread, hnil]

theorem IsStrictAt.bind (hf : f.IsStrictAt cs) (hshrinks : ∀ a, (g a).Shrinks)
    (hg : ∀ a rest, f.Takes cs a rest → (g a).IsStrictAt rest) : (f.bind g).IsStrictAt cs := by
  rcases hf with ⟨a, rest, htakes⟩ | ⟨hoverruns, hnone⟩
  · rcases hg a rest htakes with ⟨b, left, hb⟩ | ⟨hb, hnone⟩
    · exact .inl ⟨b, left, htakes.bind hb⟩
    · refine .inr ⟨htakes.overruns_bind hb, ?_⟩
      rw [Reader.bind, htakes.eq, Option.bind_some, hnone]
  · refine .inr ⟨hoverruns.bind hshrinks, ?_⟩
    rw [Reader.bind, hnone, Option.bind_none]

theorem IsLocal.bind (hf : f.IsLocal) (hg : ∀ a, (g a).IsLocal) : (f.bind g).IsLocal where
  shrinks := hf.shrinks.bind fun a => (hg a).shrinks
  isLocalAt cs := (hf.isLocalAt cs).bind (fun a => (hg a).shrinks)
    fun a rest _ => (hg a).isLocalAt rest

theorem IsLocal.bind_isStrict (hf : f.IsLocal) (hg : ∀ a, (g a).IsStrict)
    (hnil : ∀ a, g a [] = none) : (f.bind g).IsStrict where
  shrinks := hf.shrinks.bind fun a => (hg a).shrinks
  isStrictAt cs := (hf.isLocalAt cs).bind_isStrictAt (fun a => (hg a).shrinks) hnil
    fun a rest _ => (hg a).isStrictAt rest

theorem IsStrict.bind (hf : f.IsStrict) (hg : ∀ a, (g a).IsStrict) : (f.bind g).IsStrict where
  shrinks := hf.shrinks.bind fun a => (hg a).shrinks
  isStrictAt cs := (hf.isStrictAt cs).bind (fun a => (hg a).shrinks)
    fun a rest _ => (hg a).isStrictAt rest

theorem IsStrict.lift (a? : Option α) : (lift a?).IsStrict where
  shrinks := .lift a?
  isStrictAt cs := by
    cases a? with
    | none => exact .inr ⟨nofun, rfl⟩
    | some a => exact .inl ⟨a, cs, fun _ _ => rfl⟩

theorem IsLocal.ofSkip {skip : List Char → List Char} (hsuffix : ∀ cs, skip cs <:+ cs)
    (h : ∀ cs, (∀ t, IsEnding t → skip (cs ++ t) = skip cs ++ t) ∨
      ∀ t, IsEnding t → (skip (cs ++ t)).length ≤ t.length - 1) : (ofSkip skip).IsLocal where
  shrinks := .ofSkip hsuffix
  isLocalAt cs := by
    rcases h cs with hkeeps | hdrops
    · exact .inl ⟨(), skip cs, fun t ht => congrArg (fun left => some ((), left)) (hkeeps t ht)⟩
    · refine .inr fun t ht a rest hread => ?_
      obtain ⟨-, rfl⟩ := Prod.mk.inj (Option.some.inj hread)
      exact hdrops t ht

theorem Takes.bind_isSteadyAt (h : f.Takes cs a rest) (hg : (g a).IsSteadyAt rest) :
    (f.bind g).IsSteadyAt cs := by
  rcases hg with (⟨b, left, hb⟩ | ⟨hb, hnone⟩) | ⟨hb, hsame⟩
  · exact .inl (.inl ⟨b, left, h.bind hb⟩)
  · refine .inl (.inr ⟨h.overruns_bind hb, ?_⟩)
    rw [Reader.bind, h.eq, Option.bind_some, hnone]
  · refine .inr ⟨h.overruns_bind hb, ?_⟩
    rw [Reader.bind, Reader.bind, h _ (.close []), h.eq, Option.bind_some, Option.bind_some, hsame]

theorem IsStrictAt.bind_isSteadyAt (hf : f.IsStrictAt cs) (hshrinks : ∀ a, (g a).Shrinks)
    (hg : ∀ a rest, f.Takes cs a rest → (g a).IsSteadyAt rest) : (f.bind g).IsSteadyAt cs := by
  rcases hf with ⟨a, rest, htakes⟩ | ⟨hoverruns, hnone⟩
  · exact htakes.bind_isSteadyAt (hg a rest htakes)
  · refine .inl (.inr ⟨hoverruns.bind hshrinks, ?_⟩)
    rw [Reader.bind, hnone, Option.bind_none]

/-- Skipping up to the end of the text leaves nothing, with a closing parenthesis there or not. -/
theorem isSteadyAt_ofSkip_bind {skip : List Char → List Char} {g : Unit → Reader α}
    (hskip : (ofSkip skip).IsLocalAt cs) (hshrinks : (g ()).Shrinks)
    (hg : ∀ rest, (ofSkip skip).Takes cs () rest → (g ()).IsSteadyAt rest) :
    ((ofSkip skip).bind g).IsSteadyAt cs := by
  rcases hskip with ⟨_, rest, htakes⟩ | hoverruns
  · exact htakes.bind_isSteadyAt (hg rest htakes)
  · have hnil : skip cs = [] := hoverruns.eq_nil rfl
    have hclose : skip (cs ++ [')']) = [] := hoverruns.eq_nil_of_close rfl
    refine .inr ⟨hoverruns.bind fun _ => hshrinks, ?_⟩
    rw [ofSkip_bind, ofSkip_bind, hnil, hclose]

/-! What a reader does at a text is what another one does at another text. -/

section

variable {f g : Reader α} {cs ds : List Char}
  (h : ∀ t, IsEnding t → f (cs ++ t) = g (ds ++ t))

include h

theorem IsLocalAt.congr (hg : g.IsLocalAt ds) : f.IsLocalAt cs := by
  rcases hg with ⟨a, rest, htakes⟩ | hoverruns
  · exact .inl ⟨a, rest, fun t ht => (h t ht).trans (htakes t ht)⟩
  · exact .inr fun t ht a rest hread => hoverruns t ht a rest ((h t ht).symm.trans hread)

theorem IsStrictAt.congr (hg : g.IsStrictAt ds) : f.IsStrictAt cs := by
  rcases hg with ⟨a, rest, htakes⟩ | ⟨hoverruns, hnone⟩
  · exact .inl ⟨a, rest, fun t ht => (h t ht).trans (htakes t ht)⟩
  · refine .inr ⟨fun t ht a rest hread => hoverruns t ht a rest ((h t ht).symm.trans hread), ?_⟩
    have hnil := h [] .nil
    rwa [List.append_nil, List.append_nil, hnone] at hnil

end

theorem isStrictAt_head_nil {g : Char → Reader α} (hg : (g ')').Shrinks) :
    (head g).IsStrictAt [] := by
  refine .inr ⟨fun t ht a rest hread => ?_, rfl⟩
  cases ht with
  | nil => cases hread
  | close tail => exact hg.length_le hread

theorem IsStrict.head {g : Char → Reader α} (hg : ∀ c, (g c).IsStrict) : (head g).IsStrict where
  shrinks := .head fun c => (hg c).shrinks
  isStrictAt cs := by
    cases cs with
    | nil => exact isStrictAt_head_nil (hg ')').shrinks
    | cons c cs => exact ((hg c).isStrictAt cs).congr fun _ _ => rfl

theorem IsStrict.expect (c : Char) (a? : Option α) : (expect c a?).IsStrict :=
  .head fun _ => .lift _

theorem ifHead_of_isEnding {f g : Reader α} {c : Char} {t : List Char} (ht : IsEnding t)
    (hc : c ≠ ')') : ifHead c f g t = g t := by
  cases ht with
  | nil => rfl
  | close tail => exact if_neg hc.symm

theorem IsLocal.ifHead {f g : Reader α} (hf : f.IsLocal) (hg : g.IsLocal) {c : Char}
    (hc : c ≠ ')') : (ifHead c f g).IsLocal where
  shrinks := hf.shrinks.ifHead hg.shrinks c
  isLocalAt cs := by
    cases cs with
    | nil => exact (hg.isLocalAt []).congr fun t ht => ifHead_of_isEnding ht hc
    | cons d cs =>
      by_cases hd : d = c
      · exact (hf.isLocalAt cs).congr fun t _ => if_pos hd
      · have heq (t : List Char) : Reader.ifHead c f g (d :: cs ++ t) = g (d :: cs ++ t) :=
          if_neg hd
        exact (hg.isLocalAt (d :: cs)).congr fun t _ => heq t

theorem IsStrictAt.ifHead {f g : Reader α} {cs : List Char} {c : Char}
    (hf : ∀ rest, cs = c :: rest → f.IsStrictAt rest) (hg : g.IsStrictAt cs)
    (hc : c ≠ ')') : (ifHead c f g).IsStrictAt cs := by
  cases cs with
  | nil => exact hg.congr fun t ht => ifHead_of_isEnding ht hc
  | cons d cs =>
    by_cases hd : d = c
    · exact (hf cs (congrArg (· :: cs) hd)).congr fun t _ => if_pos hd
    · have heq (t : List Char) : Reader.ifHead c f g (d :: cs ++ t) = g (d :: cs ++ t) := if_neg hd
      exact hg.congr fun t _ => heq t

theorem IsStrict.ifHead {f g : Reader α} (hf : f.IsStrict) (hg : g.IsStrict) {c : Char}
    (hc : c ≠ ')') : (ifHead c f g).IsStrict where
  shrinks := hf.shrinks.ifHead hg.shrinks c
  isStrictAt cs := .ifHead (fun rest _ => hf.isStrictAt rest) (hg.isStrictAt cs) hc

theorem IsLocal.ifPair {f g : Reader α} (hf : f.IsLocal) (hg : g.IsLocal) {c : Char}
    (hc : c ≠ ')') : (ifPair c f g).IsLocal where
  shrinks := hf.shrinks.ifPair hg.shrinks c
  isLocalAt cs := by
    rcases cs with _ | ⟨d, _ | ⟨e, cs⟩⟩
    · refine (hg.isLocalAt []).congr fun t ht => ?_
      cases ht with
      | nil => rfl
      | close tail => cases tail <;> simp [Reader.ifPair, hc.symm]
    · refine (hg.isLocalAt [d]).congr fun t ht => ?_
      cases ht with
      | nil => rfl
      | close tail => simp [Reader.ifPair, hc.symm]
    · by_cases hd : d = c ∧ e = c
      · exact (hf.isLocalAt cs).congr fun t _ => if_pos hd
      · have heq (t : List Char) : Reader.ifPair c f g (d :: e :: cs ++ t) =
            g (d :: e :: cs ++ t) := if_neg hd
        exact (hg.isLocalAt (d :: e :: cs)).congr fun t _ => heq t

end Reader

end Iocost.Pattern
