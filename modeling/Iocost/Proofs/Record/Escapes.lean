import Iocost.Proofs.Text.Encoding
import Iocost.Sample.RecordText
import Mathlib.Data.String.Basic
import Mathlib.Data.List.Basic

/-!
# How a text is written in a record

The pieces of a quoted text, with the fragments cut at byte offsets between the escapes, come to one
written form a character (`flatMap_toList_quotedPieces`), and every written form is printable ASCII
(`isPrintable_of_mem_charText`).
-/

namespace Iocost.Record

/-! ## Written forms -/

/-- How a character of a fragment is written. -/
def fragmentCharText (c : Char) : List Char :=
  if isPlain c then [c] else (utf16Units c).flatMap unitEscape

/-- How a character of a text is written. -/
def charText (c : Char) : List Char := (escape? c).getD (fragmentCharText c)

theorem unitEscape_eq {n : Nat} (h : n < 0x10000) :
    unitEscape n = ['\\', 'u', (n / 4096).digitChar, (n / 256 % 16).digitChar,
      (n / 16 % 16).digitChar, (n % 16).digitChar] := by
  have base : (1 : Nat) < 16 := by decide
  unfold unitEscape
  by_cases h1 : n < 16
  · rw [Nat.toDigits_of_lt_base h1, Nat.div_eq_of_lt (by omega), Nat.div_eq_of_lt (by omega),
      Nat.div_eq_of_lt h1, Nat.mod_eq_of_lt h1]
    rfl
  by_cases h2 : n < 256
  · rw [Nat.toDigits_of_base_le base (by omega), Nat.toDigits_of_lt_base (by omega),
      Nat.div_eq_of_lt (by omega : n < 4096), Nat.div_eq_of_lt h2,
      Nat.mod_eq_of_lt (by omega : n / 16 < 16)]
    rfl
  by_cases h3 : n < 4096
  · rw [Nat.toDigits_of_base_le base (by omega), Nat.toDigits_of_base_le base (by omega),
      Nat.toDigits_of_lt_base (by omega), Nat.div_div_eq_div_mul, Nat.div_eq_of_lt h3,
      Nat.mod_eq_of_lt (by omega : n / 256 < 16)]
    rfl
  · rw [Nat.toDigits_of_base_le base (by omega), Nat.toDigits_of_base_le base (by omega),
      Nat.toDigits_of_base_le base (by omega), Nat.toDigits_of_lt_base (by omega),
      Nat.div_div_eq_div_mul, Nat.div_div_eq_div_mul, Nat.div_div_eq_div_mul]
    rfl

theorem lt_of_mem_utf16Units {c : Char} {unit : Nat} (h : unit ∈ utf16Units c) :
    unit < 0x10000 := by
  have hmax := Text.toNat_lt c
  simp only [utf16Units] at h
  split at h
  · obtain rfl := List.mem_singleton.mp h
    assumption
  · simp only [List.mem_cons, List.not_mem_nil, or_false] at h
    rcases h with h | h <;> omega

/-! ## Printable ASCII -/

/-- Printable ASCII. -/
def IsPrintable (c : Char) : Prop := ' ' ≤ c ∧ c ≤ '~'

instance : DecidablePred IsPrintable := fun c =>
  decidable_of_iff (32 ≤ c.toNat ∧ c.toNat ≤ 126) Iff.rfl

theorem isPrintable_digitChar {d : Nat} (h : d < 16) : IsPrintable d.digitChar := by
  have all : ∀ d < 16, IsPrintable d.digitChar := by decide
  exact all d h

theorem isPrintable_of_mem_unitEscape {n : Nat} (h : n < 0x10000) {c : Char}
    (hc : c ∈ unitEscape n) : IsPrintable c := by
  have hprefix : ∀ c ∈ ['\\', 'u'], IsPrintable c := by simp [IsPrintable]
  rw [unitEscape_eq h] at hc
  rcases List.mem_append.mp (show c ∈ ['\\', 'u'] ++ _ from hc) with hc | hc
  · exact hprefix c hc
  · simp only [List.mem_cons, List.not_mem_nil, or_false] at hc
    rcases hc with rfl | rfl | rfl | rfl
    all_goals exact isPrintable_digitChar (by omega)

theorem isPrintable_of_mem_fragmentCharText {d c : Char} (hc : c ∈ fragmentCharText d) :
    IsPrintable c := by
  unfold fragmentCharText at hc
  split at hc
  case isTrue hplain =>
    obtain rfl := List.mem_singleton.mp hc
    rw [isPlain, Bool.and_eq_true, decide_eq_true_eq, decide_eq_true_eq] at hplain
    exact hplain
  case isFalse =>
    obtain ⟨unit, hunit, hc⟩ := List.mem_flatMap.mp hc
    exact isPrintable_of_mem_unitEscape (lt_of_mem_utf16Units hunit) hc

theorem toNat_lt_of_lt_blank {c : Char} (h : c < ' ') : c.toNat < 32 := h

theorem isPrintable_of_escape {d c : Char} {escape : List Char} (h : escape? d = some escape)
    (hc : c ∈ escape) : IsPrintable c := by
  unfold escape? at h
  split at h
  case isTrue hd =>
    cases h
    have hquote : ∀ c ∈ ['\\', '"'], IsPrintable c := by simp [IsPrintable]
    rcases hd with rfl | rfl
    · exact hquote c hc
    · exact hquote c (List.mem_cons.mpr (.inl ((List.mem_pair.mp hc).elim id id)))
  case isFalse =>
    have hshort : ∀ c ∈ ['\\', 'b', 't', 'n', 'f', 'r'], IsPrintable c := by simp [IsPrintable]
    split_ifs at h with h1 h2 h3 h4 h5 h6
    -- the five short forms, and then the one with digits
    iterate 5
      cases h
      refine hshort c ?_
      rcases List.mem_pair.mp hc with rfl | rfl <;> simp
    cases h
    exact isPrintable_of_mem_unitEscape (Nat.lt_trans (toNat_lt_of_lt_blank h6) (by decide)) hc

theorem isPrintable_of_mem_charText {d c : Char} (hc : c ∈ charText d) : IsPrintable c := by
  unfold charText at hc
  cases he : escape? d with
  | none =>
    rw [he] at hc
    exact isPrintable_of_mem_fragmentCharText hc
  | some escape =>
    rw [he] at hc
    exact isPrintable_of_escape he hc

/-! ## Pieces -/

/-- From the offset of a character on, what is not written yet and the characters that follow come
to their written forms. -/
theorem flatMap_toList_fragmentPiecesFrom (done pending cs : List Char) :
    (fragmentPiecesFrom (String.ofList (done ++ pending ++ cs)) (String.utf8Len done)
        (String.utf8Len done + String.utf8Len pending) cs).flatMap String.toList =
      pending ++ cs.flatMap fragmentCharText := by
  induction cs generalizing done pending with
  | nil =>
    rw [fragmentPiecesFrom, String.rawEndPos_ofList, List.append_nil, String.utf8Len_append]
    have hcut := String.extract_of_valid done pending []
    rw [List.append_nil] at hcut
    rw [hcut]
    simp
  | cons c cs ih =>
    have hnext : String.utf8Len done + String.utf8Len pending + c.utf8Size =
        String.utf8Len done + String.utf8Len (pending ++ [c]) := by
      simp [Nat.add_assoc]
    unfold fragmentPiecesFrom
    split
    case isTrue hplain =>
      have := ih done (pending ++ [c])
      rw [List.append_assoc done, List.append_assoc pending, List.singleton_append,
        ← List.append_assoc, ← hnext] at this
      rw [this, List.flatMap_cons, fragmentCharText, if_pos hplain, List.append_assoc]
    case isFalse hplain =>
      have hrest := ih (done ++ (pending ++ [c])) []
      rw [String.utf8Len_append, ← hnext, String.utf8Len_nil, Nat.add_zero, List.append_nil,
        List.append_assoc, List.append_assoc, List.singleton_append, ← List.append_assoc,
        List.nil_append] at hrest
      rw [String.extract_of_valid done pending (c :: cs), List.flatMap_append, hrest,
        List.flatMap_cons, List.flatMap_cons, fragmentCharText, if_neg hplain,
        List.flatMap_map]
      simp only [String.toList_ofList, List.append_assoc]

theorem flatMap_toList_fragmentPieces (cs : List Char) :
    (fragmentPieces (String.ofList cs)).flatMap String.toList = cs.flatMap fragmentCharText := by
  rw [fragmentPieces, String.toList_ofList]
  exact flatMap_toList_fragmentPiecesFrom [] [] cs

theorem flatMap_toList_contentPieces (fragment cs : List Char) :
    (contentPieces fragment cs).flatMap String.toList =
      fragment.flatMap fragmentCharText ++ cs.flatMap charText := by
  have hfragment : ∀ fragment : List Char,
      (if fragment.isEmpty then [] else fragmentPieces (String.ofList fragment)).flatMap
        String.toList = fragment.flatMap fragmentCharText := by
    intro fragment
    cases fragment with
    | nil => rfl
    | cons c cs => exact flatMap_toList_fragmentPieces (c :: cs)
  induction cs generalizing fragment with
  | nil => rw [contentPieces, hfragment, List.flatMap_nil, List.append_nil]
  | cons c cs ih =>
    unfold contentPieces
    cases he : escape? c with
    | none =>
      simp only [ih, List.flatMap_append, List.flatMap_cons, List.flatMap_nil, charText, he,
        Option.getD_none, List.append_nil, List.append_assoc]
    | some escape =>
      simp only [List.flatMap_append, hfragment, List.flatMap_cons, ih, List.flatMap_nil,
        charText, he, Option.getD_some, String.toList_ofList, List.nil_append]

/-- The characters of a text between quotes. -/
def quotedText (s : String) : List Char := '"' :: (s.toList.flatMap charText ++ ['"'])

theorem flatMap_toList_quotedPieces (s : String) :
    (quotedPieces s).flatMap String.toList = quotedText s := by
  rw [quotedPieces, List.cons_append, List.flatMap_cons, List.flatMap_append,
    flatMap_toList_contentPieces]
  rfl

/-- The characters of keys with their values, a comma before each but the first of all. -/
def fieldText (isFirst : Bool) : List (String × String) → List Char
  | [] => []
  | (key, value) :: fields =>
    (if isFirst then [] else [',', ' ']) ++ quotedText key ++ ':' :: ' ' :: quotedText value ++
      fieldText false fields

theorem flatMap_toList_fieldPieces (isFirst : Bool) (fields : List (String × String)) :
    (fieldPieces isFirst fields).flatMap String.toList = fieldText isFirst fields := by
  induction fields generalizing isFirst with
  | nil => rfl
  | cons field fields ih =>
    obtain ⟨key, value⟩ := field
    simp only [fieldPieces, fieldText, List.flatMap_append, List.flatMap_cons,
      flatMap_toList_quotedPieces, ih]
    cases isFirst <;> simp

theorem line_eq (r : Record) : r.line = '\x7b' :: (fieldText true r.fields ++ ['\x7d']) := by
  rw [line, String.toList_join, objectPieces, List.cons_append, List.flatMap_cons,
    List.flatMap_append, flatMap_toList_fieldPieces]
  rfl

theorem isPrintable_of_mem_quotedText {s : String} {c : Char} (hc : c ∈ quotedText s) :
    IsPrintable c := by
  simp only [quotedText, List.mem_cons, List.mem_append, List.mem_flatMap, List.not_mem_nil,
    or_false] at hc
  have hquote : IsPrintable '"' := by decide
  rcases hc with rfl | ⟨d, -, hc⟩ | rfl
  · exact hquote
  · exact isPrintable_of_mem_charText hc
  · exact hquote

theorem isPrintable_of_mem_fieldText {isFirst : Bool} {fields : List (String × String)} {c : Char}
    (hc : c ∈ fieldText isFirst fields) : IsPrintable c := by
  induction fields generalizing isFirst with
  | nil => cases hc
  | cons field fields ih =>
    obtain ⟨key, value⟩ := field
    simp only [fieldText, List.mem_append, List.mem_cons] at hc
    have hsign : ∀ c ∈ [',', ' ', ':'], IsPrintable c := by simp [IsPrintable]
    rcases hc with ((hc | hc) | rfl | rfl | hc) | hc
    · cases isFirst with
      | true => cases hc
      | false => exact hsign c (List.mem_append_left [':'] hc)
    · exact isPrintable_of_mem_quotedText hc
    · exact hsign _ (by simp)
    · exact hsign _ (by simp)
    · exact isPrintable_of_mem_quotedText hc
    · exact ih hc

theorem isPrintable_of_mem_line {r : Record} {c : Char} (hc : c ∈ r.line) : IsPrintable c := by
  rw [line_eq] at hc
  simp only [List.mem_cons, List.mem_append, List.not_mem_nil, or_false] at hc
  have hbrace : ∀ c ∈ ['\x7b', '\x7d'], IsPrintable c := by simp [IsPrintable]
  rcases hc with rfl | hc | rfl
  · exact hbrace _ List.mem_cons_self
  · exact isPrintable_of_mem_fieldText hc
  · exact hbrace _ (List.mem_cons_of_mem _ (List.mem_singleton_self _))

end Iocost.Record
