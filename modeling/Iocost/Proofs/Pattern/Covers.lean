import Iocost.Pattern.Match

/-!
# The stretches that a pattern covers

`Covers` says which stretches of a text a pattern covers, by the structure of the pattern. Matching
by sets of places finds all of them and no other ones (`any_advance_iff`): in particular a
repetition that may go on without limit is followed far enough (`Follows.reached_all`).
-/

namespace Iocost.Pattern

/-! ## Sets of places -/

namespace PlaceSet

variable {s t : PlaceSet} {places : List Place}

/-- The place with a number is in the set. -/
def Has (s : PlaceSet) (i : Nat) : Prop := s[i]? = some true

theorem any_iff : s.any id = true ↔ ∃ i, s.Has i := by
  rw [List.any_eq_true]
  constructor
  · rintro ⟨x, hx, hid⟩
    obtain ⟨i, hi⟩ := List.getElem?_of_mem hx
    exact ⟨i, hi.trans (congrArg some hid)⟩
  · rintro ⟨i, hi⟩
    exact ⟨true, List.mem_of_getElem? hi, rfl⟩

theorem length_union (h : s.length = t.length) : (s.union t).length = s.length := by
  rw [union, List.length_zipWith, ← h, Nat.min_self]

theorem union_has (h : s.length = t.length) (i : Nat) :
    (s.union t).Has i ↔ s.Has i ∨ t.Has i := by
  unfold Has union
  rw [List.getElem?_zipWith]
  by_cases hi : i < s.length
  · rw [List.getElem?_eq_getElem hi, List.getElem?_eq_getElem (h ▸ hi)]
    simp
  · rw [List.getElem?_eq_none (Nat.le_of_not_lt hi),
      List.getElem?_eq_none (h ▸ Nat.le_of_not_lt hi)]
    simp

theorem length_filter (test : Place → Bool) (h : s.length = places.length) :
    (s.filter test places).length = s.length := by
  rw [filter, List.length_zipWith, ← h, Nat.min_self]

theorem filter_has (test : Place → Bool) (h : s.length = places.length) (i : Nat) :
    (s.filter test places).Has i ↔
      s.Has i ∧ ∃ place, places[i]? = some place ∧ test place = true := by
  unfold Has filter
  rw [List.getElem?_zipWith]
  by_cases hi : i < s.length
  · rw [List.getElem?_eq_getElem hi, List.getElem?_eq_getElem (h ▸ hi)]
    simp
  · rw [List.getElem?_eq_none (Nat.le_of_not_lt hi)]
    simp

theorem length_next (s : PlaceSet) : s.next.length = s.length := by
  rw [next, List.length_dropLast, List.length_cons, Nat.add_sub_cancel]

theorem next_has (s : PlaceSet) (j : Nat) :
    s.next.Has j ↔ ∃ i, s.Has i ∧ j = i + 1 ∧ j < s.length := by
  unfold Has next
  rw [List.getElem?_dropLast, List.length_cons, Nat.add_sub_cancel]
  cases j with
  | zero => simp
  | succ j =>
    rw [List.getElem?_cons_succ]
    constructor
    · intro h
      split at h
      case isTrue hlength => exact ⟨j, h, rfl, hlength⟩
      case isFalse => cases h
    · rintro ⟨i, h, hj, hlength⟩
      obtain rfl : j = i := Nat.succ.inj hj
      rw [if_pos hlength, h]

theorem union_cons (x y : Bool) (s t : PlaceSet) :
    union (x :: s) (y :: t) = (x || y) :: union s t := rfl

/-- A union is the same set, or leaves fewer places out. -/
theorem union_eq_or_count_lt (h : s.length = t.length) :
    s.union t = s ∨ (s.union t).count false < s.count false := by
  induction s generalizing t with
  | nil => exact .inl rfl
  | cons x s ih =>
    cases t with
    | nil => cases h
    | cons y t =>
      rw [union_cons]
      have hrest := ih (Nat.succ.inj h)
      have hle : (union s t).count false ≤ s.count false := by
        rcases hrest with heq | hlt
        · exact Nat.le_of_eq (congrArg _ heq)
        · exact Nat.le_of_lt hlt
      cases x with
      | true =>
        rw [Bool.true_or, List.count_cons_of_ne (by decide), List.count_cons_of_ne (by decide)]
        exact hrest.imp_left (congrArg _)
      | false =>
        cases y with
        | true =>
          right
          rw [Bool.or_true, List.count_cons_of_ne (by decide), List.count_cons_self]
          exact Nat.lt_succ_of_le hle
        | false =>
          rw [Bool.or_false, List.count_cons_self, List.count_cons_self]
          exact hrest.imp (congrArg _) Nat.succ_lt_succ

end PlaceSet

/-! ## Stretches -/

/-- The relation leads from one place to another in a number of steps. -/
inductive Leads (R : Nat → Nat → Prop) : Nat → Nat → Nat → Prop
  | none (i : Nat) : Leads R 0 i i
  | step {n i j k : Nat} : R i j → Leads R n j k → Leads R (n + 1) i k

theorem leads_add {R : Nat → Nat → Prop} {m n i k : Nat} :
    Leads R (m + n) i k ↔ ∃ j, Leads R m i j ∧ Leads R n j k := by
  induction m generalizing i with
  | zero =>
    rw [Nat.zero_add]
    constructor
    · exact fun h => ⟨i, .none i, h⟩
    · rintro ⟨j, ⟨⟩, h⟩
      exact h
  | succ m ih =>
    rw [Nat.add_right_comm]
    constructor
    · rintro (_ | ⟨hij, hlead⟩)
      obtain ⟨j, hfirst, hrest⟩ := ih.mp hlead
      exact ⟨j, .step hij hfirst, hrest⟩
    · rintro ⟨j, _ | ⟨hij, hfirst⟩, hrest⟩
      exact .step hij (ih.mpr ⟨j, hfirst, hrest⟩)

/-- The pattern covers the stretch from one place to another. -/
def Covers (places : List Place) : Pattern → Nat → Nat → Prop
  | empty, i, j => i = j
  | one set, i, j => j = i + 1 ∧ j < places.length ∧
      ∃ place, places[i]? = some place ∧ place.after.any set.mem = true
  | look condition, i, j => i = j ∧ ∃ place, places[i]? = some place ∧ condition.holds place = true
  | seq p q, i, k => ∃ j, p.Covers places i j ∧ q.Covers places j k
  | alt p q, i, j => p.Covers places i j ∨ q.Covers places i j
  | group _ p, i, j => p.Covers places i j
  | rep p least most _, i, j =>
    ∃ more, (∀ n, most = some n → more ≤ n - least) ∧
      Leads (p.Covers places) (least + more) i j

/-! ## From sets to stretches -/

/-- The function leads from a set of `n` places to the places that a relation leads to. -/
def Follows (f : PlaceSet → PlaceSet) (R : Nat → Nat → Prop) (n : Nat) : Prop :=
  ∀ s : PlaceSet, s.length = n →
    (f s).length = n ∧ ∀ j, (f s).Has j ↔ ∃ i, s.Has i ∧ R i j

section

variable {f : PlaceSet → PlaceSet} {R : Nat → Nat → Prop} {n : Nat}

theorem Follows.congr {S : Nat → Nat → Prop} (h : Follows f R n)
    (hiff : ∀ i j, R i j ↔ S i j) : Follows f S n := fun s hs =>
  ⟨(h s hs).1, fun j => ((h s hs).2 j).trans (exists_congr fun i => and_congr_right' (hiff i j))⟩

theorem Follows.comp {g : PlaceSet → PlaceSet} {S : Nat → Nat → Prop} (hf : Follows f R n)
    (hg : Follows g S n) : Follows (fun s => g (f s)) (fun i k => ∃ j, R i j ∧ S j k) n := by
  intro s hs
  obtain ⟨hlength, hfirst⟩ := hf s hs
  obtain ⟨hlength', hrest⟩ := hg _ hlength
  refine ⟨hlength', fun k => (hrest k).trans ?_⟩
  constructor
  · rintro ⟨j, hj, hjk⟩
    obtain ⟨i, hi, hij⟩ := (hfirst j).mp hj
    exact ⟨i, hi, j, hij, hjk⟩
  · rintro ⟨i, hi, j, hij, hjk⟩
    exact ⟨j, (hfirst j).mpr ⟨i, hi, hij⟩, hjk⟩

theorem repeated_succ (f : PlaceSet → PlaceSet) (count : Nat) (s : PlaceSet) :
    repeated f (count + 1) s = repeated f count (f s) := by
  rw [repeated]
  split
  case isTrue h =>
    have hfixed : f s = s := beq_iff_eq.mp h
    rw [hfixed, repeated_eq_of_fixed hfixed]
  case isFalse => rfl

theorem reached_succ (f : PlaceSet → PlaceSet) (count : Nat) (s : PlaceSet) :
    reached f (count + 1) s = reached f count (s.union (f s)) := by
  rw [reached]
  split
  case isTrue h =>
    have hfixed : s.union (f s) = s := beq_iff_eq.mp h
    rw [hfixed, reached_eq_of_fixed hfixed]
  case isFalse => rfl

theorem Follows.repeated (h : Follows f R n) (count : Nat) :
    Follows (repeated f count) (Leads R count) n := by
  induction count with
  | zero =>
    refine fun s hs => ⟨hs, fun j => ⟨fun hj => ⟨j, hj, .none j⟩, ?_⟩⟩
    rintro ⟨i, hi, ⟨⟩⟩
    exact hi
  | succ count ih =>
    intro s hs
    obtain ⟨hlength, hstep⟩ := h s hs
    rw [repeated_succ]
    refine ⟨(ih _ hlength).1, fun k => ((ih _ hlength).2 k).trans ?_⟩
    constructor
    · rintro ⟨j, hj, hlead⟩
      obtain ⟨i, hi, hij⟩ := (hstep j).mp hj
      exact ⟨i, hi, .step hij hlead⟩
    · rintro ⟨i, hi, hlead⟩
      cases hlead with
      | step hij hlead => exact ⟨_, (hstep _).mpr ⟨i, hi, hij⟩, hlead⟩

theorem Follows.reached (h : Follows f R n) (count : Nat) :
    Follows (reached f count) (fun i j => ∃ more, more ≤ count ∧ Leads R more i j) n := by
  induction count with
  | zero =>
    refine fun s hs => ⟨hs, fun j => ⟨fun hj => ⟨j, hj, 0, Nat.le_refl 0, .none j⟩, ?_⟩⟩
    rintro ⟨i, hi, more, hmore, hlead⟩
    obtain rfl : more = 0 := Nat.le_zero.mp hmore
    cases hlead
    exact hi
  | succ count ih =>
    intro s hs
    obtain ⟨hlength, hstep⟩ := h s hs
    have hunion : (s.union (f s)).length = n := by
      rw [PlaceSet.length_union (hs.trans hlength.symm), hs]
    have hhas (i : Nat) : (s.union (f s)).Has i ↔ s.Has i ∨ (f s).Has i :=
      PlaceSet.union_has (hs.trans hlength.symm) i
    rw [reached_succ]
    refine ⟨(ih _ hunion).1, fun k => ((ih _ hunion).2 k).trans ?_⟩
    constructor
    · rintro ⟨j, hj, more, hmore, hlead⟩
      rcases (hhas j).mp hj with hj | hj
      · exact ⟨j, hj, more, Nat.le_succ_of_le hmore, hlead⟩
      · obtain ⟨i, hi, hij⟩ := (hstep j).mp hj
        exact ⟨i, hi, more + 1, Nat.succ_le_succ hmore, .step hij hlead⟩
    · rintro ⟨i, hi, more, hmore, hlead⟩
      cases hlead with
      | none => exact ⟨k, (hhas k).mpr (.inl hi), 0, Nat.zero_le _, .none k⟩
      | step hij hlead =>
        refine ⟨_, (hhas _).mpr (.inr ((hstep _).mpr ⟨i, hi, hij⟩)), _, ?_, hlead⟩
        exact Nat.le_of_succ_le_succ hmore

/-- A step that reaches something new leaves fewer places out, so after enough steps nothing new is
reached. -/
theorem reached_closed (h : Follows f R n) {s : PlaceSet} (hs : s.length = n) {count : Nat}
    (hcount : s.count false ≤ count) :
    (reached f count s).union (f (reached f count s)) = reached f count s := by
  have hlength {s : PlaceSet} (hs : s.length = n) : s.length = (f s).length :=
    hs.trans (h s hs).1.symm
  induction count generalizing s with
  | zero =>
    rcases PlaceSet.union_eq_or_count_lt (hlength hs) with heq | hlt
    · exact heq
    · exact absurd (Nat.lt_of_lt_of_le hlt hcount) (Nat.not_lt_zero _)
  | succ count ih =>
    rcases PlaceSet.union_eq_or_count_lt (hlength hs) with heq | hlt
    · rw [reached_eq_of_fixed heq]
      exact heq
    · rw [reached_succ]
      exact ih ((PlaceSet.length_union (hlength hs)).trans hs)
        (Nat.le_of_lt_succ (Nat.lt_of_lt_of_le hlt hcount))

theorem Follows.reached_all (h : Follows f R n) :
    Follows (Pattern.reached f n) (fun i j => ∃ more, Leads R more i j) n := by
  intro s hs
  obtain ⟨hlength, hreached⟩ := h.reached n s hs
  refine ⟨hlength, fun j => (hreached j).trans ⟨?_, ?_⟩⟩
  · rintro ⟨i, hi, more, -, hlead⟩
    exact ⟨i, hi, more, hlead⟩
  · rintro ⟨i, hi, more, hlead⟩
    have hclosed := reached_closed h hs (hs ▸ List.count_le_length)
    have hstep {i j : Nat} (hi : (Pattern.reached f n s).Has i) (hij : R i j) :
        (Pattern.reached f n s).Has j := by
      rw [← hclosed, PlaceSet.union_has (hlength.trans (h _ hlength).1.symm)]
      exact .inr (((h _ hlength).2 j).mpr ⟨i, hi, hij⟩)
    have hstart : (Pattern.reached f n s).Has i :=
      (hreached i).mpr ⟨i, hi, 0, Nat.zero_le n, .none i⟩
    refine (hreached j).mp ?_
    clear hi
    induction hlead with
    | none => exact hstart
    | step hij _ ih => exact ih (hstep hstart hij)

end

/-- Matching by sets of places finds the stretches that a pattern covers. -/
theorem follows_advance (places : List Place) (p : Pattern) :
    Follows (p.advance places) (p.Covers places) places.length := by
  induction p with
  | empty =>
    refine fun s hs => ⟨hs, fun j => ⟨fun hj => ⟨j, hj, rfl⟩, ?_⟩⟩
    rintro ⟨i, hi, rfl⟩
    exact hi
  | one set =>
    intro s hs
    have hfilter := PlaceSet.length_filter (fun place => place.after.any set.mem) hs
    refine ⟨(PlaceSet.length_next _).trans (hfilter.trans hs), fun j => ?_⟩
    rw [advance, PlaceSet.next_has, hfilter, hs]
    constructor
    · rintro ⟨i, hi, hj, hlength⟩
      obtain ⟨hi, hplace⟩ := (PlaceSet.filter_has _ hs i).mp hi
      exact ⟨i, hi, hj, hlength, hplace⟩
    · rintro ⟨i, hi, hj, hlength, hplace⟩
      exact ⟨i, (PlaceSet.filter_has _ hs i).mpr ⟨hi, hplace⟩, hj, hlength⟩
  | look condition =>
    intro s hs
    refine ⟨(PlaceSet.length_filter _ hs).trans hs, fun j => (PlaceSet.filter_has _ hs j).trans ?_⟩
    constructor
    · rintro ⟨hj, hplace⟩
      exact ⟨j, hj, rfl, hplace⟩
    · rintro ⟨i, hi, rfl, hplace⟩
      exact ⟨hi, hplace⟩
  | seq p q hp hq => exact hp.comp hq
  | alt p q hp hq =>
    intro s hs
    obtain ⟨hlength, hleft⟩ := hp s hs
    obtain ⟨hlength', hright⟩ := hq s hs
    have heq := hlength.trans hlength'.symm
    refine ⟨(PlaceSet.length_union heq).trans hlength, fun j => (PlaceSet.union_has heq j).trans ?_⟩
    rw [hleft, hright, ← exists_or]
    exact exists_congr fun i => and_or_left.symm
  | group number p hp => exact hp
  | rep p least most eager hp =>
    cases most with
    | none =>
      refine ((hp.repeated least).comp hp.reached_all).congr fun i k => ?_
      constructor
      · rintro ⟨j, hij, more, hjk⟩
        exact ⟨more, nofun, leads_add.mpr ⟨j, hij, hjk⟩⟩
      · rintro ⟨more, -, hik⟩
        obtain ⟨j, hij, hjk⟩ := leads_add.mp hik
        exact ⟨j, hij, more, hjk⟩
    | some most =>
      refine ((hp.repeated least).comp (hp.reached (most - least))).congr fun i k => ?_
      constructor
      · rintro ⟨j, hij, more, hmore, hjk⟩
        refine ⟨more, ?_, leads_add.mpr ⟨j, hij, hjk⟩⟩
        rintro _ ⟨⟩
        exact hmore
      · rintro ⟨more, hmore, hik⟩
        obtain ⟨j, hij, hjk⟩ := leads_add.mp hik
        exact ⟨j, hij, more, hmore most rfl, hjk⟩

/-! ## Texts -/

theorem isSome_before_of_listAfter {c : Char} {text : List Char} {i : Nat} {place : Place}
    (h : (Place.listAfter (some c) text)[i]? = some place) : place.before.isSome = true := by
  induction text generalizing c i with
  | nil =>
    rw [List.mem_singleton.mp (List.mem_of_getElem? h)]
    rfl
  | cons d text ih =>
    cases i with
    | zero =>
      obtain rfl := Option.some.inj h
      rfl
    | succ i => exact ih h

/-- Only at the first place there is no character before. -/
theorem isNone_before_iff (text : List Char) (i : Nat) :
    (∃ place, (Place.list text)[i]? = some place ∧ place.before.isNone = true) ↔ i = 0 := by
  constructor
  · rintro ⟨place, hplace, hbefore⟩
    cases text with
    | nil => exact Nat.lt_one_iff.mp (List.getElem?_eq_some_iff.mp hplace).1
    | cons c text =>
      cases i with
      | zero => rfl
      | succ i =>
        have hsome := isSome_before_of_listAfter hplace
        rw [Option.isNone_iff_eq_none.mp hbefore] at hsome
        cases hsome
  · rintro rfl
    cases text <;> exact ⟨_, rfl, rfl⟩

theorem any_advance_iff (places : List Place) (p : Pattern) (test : Place → Bool) :
    (p.advance places (places.map test)).any id = true ↔ ∃ start stop,
      (∃ place, places[start]? = some place ∧ test place = true) ∧
        p.Covers places start stop := by
  have hhas (i : Nat) : PlaceSet.Has (places.map test) i ↔
      ∃ place, places[i]? = some place ∧ test place = true := by
    unfold PlaceSet.Has
    rw [List.getElem?_map, Option.map_eq_some_iff]
  obtain ⟨-, hfollows⟩ := follows_advance places p (places.map test) (List.length_map _)
  rw [PlaceSet.any_iff, exists_comm]
  refine exists_congr fun stop => (hfollows stop).trans ?_
  simp only [hhas]

/-- A pattern occurs in a text if it covers some stretch of it. -/
theorem occursIn_iff (p : Pattern) (text : List Char) :
    p.occursIn text = true ↔ ∃ start stop, start ≤ text.length ∧
      p.Covers (Place.list text) start stop := by
  rw [occursIn, any_advance_iff]
  refine exists_congr fun start => exists_congr fun stop => and_congr_left fun _ => ?_
  constructor
  · rintro ⟨place, hplace, -⟩
    have hstart := (List.getElem?_eq_some_iff.mp hplace).1
    rw [Place.length_list] at hstart
    exact Nat.le_of_lt_succ hstart
  · intro hstart
    have hlength : start < (Place.list text).length := by
      rw [Place.length_list]
      exact Nat.lt_succ_of_le hstart
    exact ⟨_, List.getElem?_eq_getElem hlength, rfl⟩

theorem occursAtStart_iff (p : Pattern) (text : List Char) :
    p.occursAtStart text = true ↔ ∃ stop, p.Covers (Place.list text) 0 stop := by
  rw [occursAtStart, any_advance_iff]
  simp only [isNone_before_iff, exists_and_left, exists_eq_left]

end Iocost.Pattern
