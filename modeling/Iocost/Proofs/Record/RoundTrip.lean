import Iocost.Proofs.Record.Escapes
import Iocost.Proofs.Record.Reader
import Iocost.Proofs.Text.Encoding
import Iocost.Proofs.Text.Pieces
import Iocost.Sample.Output
import Iocost.Proofs.Sink

/-!
# Records read back

Reading inverts writing, character by character inside a text (`readChars_charText`), text by text
(`readChars_quotedText`) and field by field, so the line of a record is read as that record. A
sample written as records is a sequence of such lines, whatever its texts contain.
-/

namespace Iocost.Record

/-! ## Characters of a text -/

theorem readChars_append {r r₁ r₂ : Reading} {a b : List Char} {t₁ t₂ : List Token}
    (ha : readChars r a = some (r₁, t₁)) (hb : readChars r₁ b = some (r₂, t₂)) :
    readChars r (a ++ b) = some (r₂, t₁ ++ t₂) := by
  induction a generalizing r t₁ with
  | nil =>
    cases ha
    exact hb
  | cons c a ih =>
    simp only [readChars, Option.bind_eq_bind, Option.bind_eq_some_iff, Option.pure_def,
      Option.some.injEq, Prod.mk.injEq] at ha
    obtain ⟨⟨r', tokens⟩, hc, ⟨r'', more⟩, ha, rfl, rfl⟩ := ha
    simp only [List.cons_append, readChars, hc, ih ha, Option.bind_eq_bind, Option.bind_some,
      Option.pure_def, List.append_assoc]

theorem readChars_singleton {r r' : Reading} {c : Char} {tokens : List Token}
    (h : readChar r c = some (r', tokens)) : readChars r [c] = some (r', tokens) := by
  simp [readChars, h]

theorem readChars_unitEscape {units : List Nat} {n : Nat} (h : n < 0x10000) :
    readChars (.inside units) (unitEscape n) = some (.inside (units ++ [n]), []) := by
  rw [unitEscape_eq h]
  have h3 := hexDigit?_digitChar (d := n / 4096) (by omega)
  have h2 := hexDigit?_digitChar (d := n / 256 % 16) (by omega)
  have h1 := hexDigit?_digitChar (d := n / 16 % 16) (by omega)
  have h0 := hexDigit?_digitChar (d := n % 16) (by omega)
  have hvalue : 16 * (16 * (16 * (n / 4096) + n / 256 % 16) + n / 16 % 16) + n % 16 = n := by
    omega
  simp [readChars, readChar, h3, h2, h1, h0, hvalue]

theorem readChars_unitEscapes {units more : List Nat} (h : ∀ n ∈ more, n < 0x10000) :
    readChars (.inside units) (more.flatMap unitEscape) = some (.inside (units ++ more), []) := by
  induction more generalizing units with
  | nil => rw [List.flatMap_nil, List.append_nil]; rfl
  | cons n more ih =>
    rw [List.append_cons]
    exact readChars_append (readChars_unitEscape (h n List.mem_cons_self))
      (ih fun m hm => h m (List.mem_cons_of_mem _ hm))

theorem utf16Units_of_lt {c : Char} (h : c.toNat < 0x10000) : utf16Units c = [c.toNat] :=
  if_pos h

theorem readChars_escape {units : List Nat} {c : Char} {escape : List Char}
    (h : escape? c = some escape) :
    readChars (.inside units) escape = some (.inside (units ++ utf16Units c), []) := by
  unfold escape? at h
  split at h
  case isTrue hc =>
    cases h
    rcases hc with rfl | rfl <;> rfl
  case isFalse =>
    split_ifs at h with h1 h2 h3 h4 h5 h6
    iterate 5
      cases h
      subst c
      rfl
    cases h
    have hlow : c.toNat < 0x10000 := Nat.lt_trans (toNat_lt_of_lt_blank h6) (by decide)
    rw [utf16Units_of_lt hlow]
    exact readChars_unitEscape hlow

theorem ne_of_escape?_eq_none {c : Char} (h : escape? c = none) :
    c ≠ '"' ∧ c ≠ '\\' ∧ ¬c < ' ' := by
  unfold escape? at h
  split at h
  case isTrue => cases h
  case isFalse hc =>
    split_ifs at h with h1 h2 h3 h4 h5 h6
    exact ⟨fun h => hc (.inl h), fun h => hc (.inr h), h6⟩

theorem readChars_charText {units : List Nat} (c : Char) :
    readChars (.inside units) (charText c) = some (.inside (units ++ utf16Units c), []) := by
  unfold charText
  cases he : escape? c with
  | some escape => exact readChars_escape he
  | none =>
    rw [Option.getD_none, fragmentCharText]
    split
    case isTrue =>
      obtain ⟨hquote, hslash, hcontrol⟩ := ne_of_escape?_eq_none he
      refine readChars_singleton ?_
      simp [readChar, hquote, hslash, hcontrol]
    case isFalse => exact readChars_unitEscapes fun n hn => lt_of_mem_utf16Units hn

theorem readChars_charTexts {units : List Nat} (cs : List Char) :
    readChars (.inside units) (cs.flatMap charText) =
      some (.inside (units ++ cs.flatMap utf16Units), []) := by
  induction cs generalizing units with
  | nil => rw [List.flatMap_nil, List.flatMap_nil, List.append_nil]; rfl
  | cons c cs ih =>
    rw [List.flatMap_cons, List.flatMap_cons, ← List.append_assoc]
    exact readChars_append (readChars_charText c) ih

theorem joinUnits_append {c : Char} {units : List Nat} :
    joinUnits (utf16Units c ++ units) = (joinUnits units).map (c :: ·) := by
  by_cases hlow : c.toNat < 0x10000
  · have hvalid : c.toNat < 0xd800 ∨ 0xdfff < c.toNat := c.valid.imp_right And.left
    rw [utf16Units_of_lt hlow, List.singleton_append, joinUnits.eq_def]
    simp only
    rw [if_neg (by omega), if_neg (by omega), Char.ofNat_toNat]
  · have hmax := Text.toNat_lt c
    have hunits : utf16Units c =
        [0xd800 + (c.toNat - 0x10000) / 0x400, 0xdc00 + (c.toNat - 0x10000) % 0x400] :=
      if_neg hlow
    have hvalue : 0x10000 + (0xd800 + (c.toNat - 0x10000) / 0x400 - 0xd800) * 0x400 +
        (0xdc00 + (c.toNat - 0x10000) % 0x400 - 0xdc00) = c.toNat := by
      omega
    rw [hunits, List.cons_append, List.singleton_append, joinUnits, if_pos (by omega),
      if_pos (by omega), hvalue, Char.ofNat_toNat]

theorem joinUnits_flatMap_utf16Units (cs : List Char) :
    joinUnits (cs.flatMap utf16Units) = some cs := by
  induction cs with
  | nil => rfl
  | cons c cs ih => rw [List.flatMap_cons, joinUnits_append, ih]; rfl

/-! ## Texts and fields -/

theorem readChars_quotedText (s : String) :
    readChars .between (quotedText s) = some (.between, [.text s]) := by
  have hopen : readChars .between ['"'] = some (.inside [], []) := rfl
  have hclose : readChars (.inside ([] ++ s.toList.flatMap utf16Units)) ['"'] =
      some (.between, [.text s]) := by
    refine readChars_singleton ?_
    simp [readChar, joinUnits_flatMap_utf16Units]
  exact readChars_append hopen (readChars_append (readChars_charTexts s.toList) hclose)

/-- The tokens of keys with their values, a comma before each but the first of all. -/
def fieldTokens (isFirst : Bool) : List (String × String) → List Token
  | [] => []
  | (key, value) :: fields =>
    (if isFirst then [] else [.comma]) ++ .text key :: .colon :: .text value ::
      fieldTokens false fields

theorem readChars_fieldText (isFirst : Bool) (fields : List (String × String)) :
    readChars .between (fieldText isFirst fields) =
      some (.between, fieldTokens isFirst fields) := by
  induction fields generalizing isFirst with
  | nil => rfl
  | cons field fields ih =>
    obtain ⟨key, value⟩ := field
    have hcomma : readChars .between (if isFirst then [] else [',', ' ']) =
        some (.between, if isFirst then [] else [.comma]) := by
      cases isFirst <;> rfl
    have hcolon : readChars .between [':', ' '] = some (.between, [.colon]) := rfl
    have hfield := readChars_append (readChars_append hcomma (readChars_quotedText key))
      (readChars_append hcolon (readChars_quotedText value))
    have hall := readChars_append hfield (ih false)
    simp only [List.append_assoc, List.cons_append, List.nil_append] at hall
    simp only [fieldText, fieldTokens, List.append_assoc, List.cons_append, hall]

theorem fieldsOf?_fieldTokens (key value : String) (fields : List (String × String)) :
    fieldsOf? (.text key :: .colon :: .text value :: (fieldTokens false fields ++ [.closing])) =
      some ((key, value) :: fields) := by
  induction fields generalizing key value with
  | nil => rfl
  | cons field fields ih =>
    obtain ⟨key', value'⟩ := field
    simp only [fieldTokens, Bool.false_eq_true, ↓reduceIte, List.cons_append, List.nil_append,
      fieldsOf?, ih, Option.map_some]

theorem ofTokens?_fieldTokens (r : Record) :
    ofTokens? (.opening :: (fieldTokens true r.fields ++ [.closing])) = some r := by
  obtain ⟨fields⟩ := r
  cases fields with
  | nil => rfl
  | cons field fields =>
    obtain ⟨key, value⟩ := field
    have hfields := fieldsOf?_fieldTokens key value fields
    simp only [fieldTokens, ↓reduceIte, List.cons_append, List.nil_append, ofTokens?, hfields,
      Option.map_some]

theorem ofLine?_line (r : Record) : ofLine? r.line = some r := by
  have hopen : readChars .between ['\x7b'] = some (.between, [.opening]) := rfl
  have hclose : readChars .between ['\x7d'] = some (.between, [.closing]) := rfl
  have hline : readChars .between r.line =
      some (.between, .opening :: (fieldTokens true r.fields ++ [.closing])) := by
    rw [line_eq]
    exact readChars_append hopen (readChars_append (readChars_fieldText true r.fields) hclose)
  simp only [ofLine?, hline, ofTokens?_fieldTokens]

/-! ## Lines -/

/-- The bytes of the line of a record. -/
def lineBytes (r : Record) : List UInt8 := r.line.map Char.toUInt8

theorem IsPrintable.toNat_mem {c : Char} (h : IsPrintable c) : 32 ≤ c.toNat ∧ c.toNat ≤ 126 := h

theorem encode_ofList_line (r : Record) : Text.encode (String.ofList r.line) = r.lineBytes :=
  Text.encode_ofList_of_ascii fun _ hc =>
    Nat.lt_of_le_of_lt (isPrintable_of_mem_line hc).toNat_mem.2 (by decide)

theorem encode_join_pieces (r : Record) :
    Text.encode (String.join r.pieces) = r.lineBytes ++ [10] := by
  have hline : String.join r.pieces = String.ofList r.line ++ "\n" := by
    rw [pieces, String.join_append, line, String.ofList_toList]
    simp
  rw [hline, Text.encode_append, encode_ofList_line]
  rfl

theorem mem_lineBytes {r : Record} {b : UInt8} (hb : b ∈ r.lineBytes) : 0x20 ≤ b ∧ b ≤ 0x7e := by
  obtain ⟨c, hc, rfl⟩ := List.mem_map.mp hb
  have hrange := (isPrintable_of_mem_line hc).toNat_mem
  have hvalue := Text.toNat_toUInt8_of_ascii (Nat.lt_of_le_of_lt hrange.2 (by decide))
  rw [UInt8.le_iff_toNat_le, UInt8.le_iff_toNat_le, hvalue]
  exact hrange

theorem line_feed_not_mem_lineBytes {r : Record} {b : UInt8} (hb : b ∈ r.lineBytes) :
    (b == 10) = false := by
  have hle := (mem_lineBytes hb).1
  rw [beq_eq_false_iff_ne]
  rintro rfl
  exact absurd hle (by decide)

theorem ofBytes?_lineBytes (r : Record) : ofBytes? r.lineBytes = some r := by
  rw [ofBytes?, ← encode_ofList_line, Text.decode?_encode, Option.bind_some, String.toList_ofList,
    ofLine?_line]

end Iocost.Record

namespace Iocost

theorem Sink.writePieces_of_unlimited (pieces : List String) (written : List UInt8) :
    ({ written := written } : Sink).writePieces pieces =
      ({ written := written ++ Text.encode (String.join pieces) }, none) := by
  rw [writePieces_eq_write]
  rfl

theorem Sample.encode_join_pieces (s : Sample) :
    Text.encode (String.join (s.pieces .json)) =
      (s.records.map Record.lineBytes).flatMap (· ++ [10]) := by
  rw [pieces]
  generalize s.records = records
  induction records with
  | nil => rfl
  | cons r records ih =>
    rw [List.flatMap_cons, String.join_append, Text.encode_append, ih, r.encode_join_pieces,
      List.map_cons, List.flatMap_cons]

/-- Cut at its line feeds, the text of a sample is the lines of its records. -/
theorem Sample.pieces_encode_text_json (s : Sample) :
    Text.pieces (· == 10) (Text.encode (s.text .json)) =
      s.records.map Record.lineBytes ++ [[]] := by
  rw [text, s.encode_join_pieces]
  refine Text.pieces_flatMap_append (fun line hline b hb => ?_) rfl
  obtain ⟨r, -, rfl⟩ := List.mem_map.mp hline
  exact Record.line_feed_not_mem_lineBytes hb

/-- **Records read back.** A record is written as one line of printable ASCII, which is read as that
record; and a sample as one such line for its controller and one for each row, in order, with no
other line feed than those at their ends. -/
theorem records_read_back :
    (∀ r : Record, ∃ line : List UInt8,
      ({} : Sink).writePieces r.pieces = ({ written := line ++ [10] }, none) ∧
      (∀ b ∈ line, 0x20 ≤ b ∧ b ≤ 0x7e) ∧
      Record.ofBytes? line = some r) ∧
    ∀ s : Sample, ∃ lines : List (List UInt8),
      ({} : Sink).writePieces (s.pieces .json) =
        ({ written := lines.flatMap (· ++ [10]) }, none) ∧
      Text.pieces (· == 10) (lines.flatMap (· ++ [10])) = lines ++ [[]] ∧
      lines.length = 1 + s.rows.length ∧
      lines.map Record.ofBytes? =
        some (.ofController s.device (Record.numberValue s.timestamp) s.controller) ::
          s.rows.map fun row =>
            some (.ofNode row.path (Record.numberValue s.timestamp) row.stats) := by
  constructor
  · intro r
    refine ⟨r.lineBytes, ?_, fun b hb => Record.mem_lineBytes hb, r.ofBytes?_lineBytes⟩
    rw [Sink.writePieces_of_unlimited, r.encode_join_pieces, List.nil_append]
  · intro s
    refine ⟨s.records.map Record.lineBytes, ?_, ?_, ?_, ?_⟩
    · rw [Sink.writePieces_of_unlimited, s.encode_join_pieces, List.nil_append]
    · rw [← s.encode_join_pieces]
      exact s.pieces_encode_text_json
    · rw [List.length_map, Sample.records, List.length_cons, List.length_map, Nat.add_comm]
    · have hread : Record.ofBytes? ∘ Record.lineBytes = some :=
        funext fun r => r.ofBytes?_lineBytes
      rw [List.map_map, hread, Sample.records, List.map_cons, List.map_map]
      rfl

end Iocost
