import Iocost.Proofs.Keyed.Checks
import Iocost.Proofs.Keyed.Lookup
import Iocost.Proofs.Keyed.Counters

/-!
# The constants in a flat keyed text

Each constant has a key (`ConstantKey`), and its value is the last one that the text defines for
that key, or else the default (`Constants.ofKeyedText_parse_eq_ok_iff`). If the last definition of
some key is no counter, the first such key is reported, in the order in which they are read
(`Constants.ofKeyedText_parse_eq_error_iff`). So a text that is written from constants gives back
those of them that it has lines for, whatever other lines it has
(`Constants.ofKeyedText_parse_written`).
-/

namespace Iocost

/-- What tells a constant from others. -/
inductive ConstantKey where
  | running
  | wholeWeight
  | vtimePerSecond
  | vtimePerMicrosecond
  | hddIndex
  | ssdShallowIndex
  | ssdDefaultIndex
  | ssdFastIndex
  | usageSlots
deriving DecidableEq

namespace ConstantKey

def name : ConstantKey → String
  | running => "ioc_running"
  | wholeWeight => "hweight_whole"
  | vtimePerSecond => "vtime_per_sec"
  | vtimePerMicrosecond => "vtime_per_usec"
  | hddIndex => "autop_hdd"
  | ssdShallowIndex => "autop_ssd_qd1"
  | ssdDefaultIndex => "autop_ssd_dfl"
  | ssdFastIndex => "autop_ssd_fast"
  | usageSlots => "nr_usage_slots"

/-- The keys in the order in which they are read. -/
def all : List ConstantKey :=
  [running, wholeWeight, vtimePerSecond, vtimePerMicrosecond, hddIndex, ssdShallowIndex,
    ssdDefaultIndex, ssdFastIndex, usageSlots]

theorem mem_all (key : ConstantKey) : key ∈ all := by cases key <;> decide

theorem name_injective : Function.Injective name := fun key key' h =>
  List.inj_on_of_nodup_map (show (all.map name).Nodup by decide) (mem_all key) (mem_all key') h

theorem isKey_name (key : ConstantKey) : IsKey key.name := by cases key <;> decide

end ConstantKey

namespace Constants

def get (c : Constants) : ConstantKey → UInt64
  | .running => c.running
  | .wholeWeight => c.wholeWeight
  | .vtimePerSecond => c.vtimePerSecond
  | .vtimePerMicrosecond => c.vtimePerMicrosecond
  | .hddIndex => c.hddIndex
  | .ssdShallowIndex => c.ssdShallowIndex
  | .ssdDefaultIndex => c.ssdDefaultIndex
  | .ssdFastIndex => c.ssdFastIndex
  | .usageSlots => c.usageSlots

/-- The constants with these values. -/
def ofValues (values : ConstantKey → UInt64) : Constants where
  running := values .running
  wholeWeight := values .wholeWeight
  vtimePerSecond := values .vtimePerSecond
  vtimePerMicrosecond := values .vtimePerMicrosecond
  hddIndex := values .hddIndex
  ssdShallowIndex := values .ssdShallowIndex
  ssdDefaultIndex := values .ssdDefaultIndex
  ssdFastIndex := values .ssdFastIndex
  usageSlots := values .usageSlots

@[simp]
theorem get_ofValues (values : ConstantKey → UInt64) (key : ConstantKey) :
    (ofValues values).get key = values key := by cases key <;> rfl

@[simp]
theorem ofValues_get (c : Constants) : ofValues c.get = c := rfl

theorem ext_get {c c' : Constants} (h : ∀ key, c.get key = c'.get key) : c = c' := by
  rw [← ofValues_get c, funext h, ofValues_get]

end Constants

/-! ## Reading -/

/-- A constant may be missing. -/
def ConstantKey.check (key : ConstantKey) : KeyedCheck := .optional key.name

def Constants.checks : List KeyedCheck := ConstantKey.all.map ConstantKey.check

namespace KeyedText

variable {path content key : String} {fallback n : UInt64}

/-- A counter that may be missing is the last one that is defined, if any is. -/
theorem counterOr_parse_eq_ok_iff :
    (parse path content).counterOr key fallback = .ok n ↔
      (¬IsDefined content key ∧ n = fallback) ∨
        ∃ value, LastDefines content key value ∧ Text.readUnsigned? value.toList = some n := by
  have hnone : (parse path content).lookup? key = none ↔ ¬IsDefined content key :=
    lookup?_parse_eq_none_iff
  have hsome (value : String) :
      (parse path content).lookup? key = some value ↔ LastDefines content key value :=
    lookup?_parse_eq_some_iff
  rw [counterOr, optional, ← hnone]
  simp only [← hsome]
  cases (parse path content).lookup? key with
  | none =>
    constructor
    · intro h
      exact .inl ⟨rfl, (Except.ok.inj h).symm⟩
    · rintro (⟨-, rfl⟩ | ⟨value, hvalue, -⟩)
      · rfl
      · cases hvalue
  | some value =>
    simp only [reduceCtorEq, false_and, Option.some.injEq, exists_eq_left', false_or, readValue]
    cases Text.readUnsigned? value.toList with
    | none => constructor <;> intro h <;> cases h
    | some m =>
      exact ⟨fun h => congrArg some (Except.ok.inj h),
        fun h => congrArg Except.ok (Option.some.inj h)⟩

end KeyedText

theorem KeyedCheck.cause?_counterOr (t : KeyedText) (key : String) (fallback : UInt64) :
    (t.counterOr key fallback).cause? = failure? t (.optional key) := by
  rw [KeyedText.counterOr, Except.cause?_map, cause?_optional]

namespace Constants

open KeyedCheck

variable {t : KeyedText} {c : Constants}

theorem cause?_ofKeyedText (t : KeyedText) :
    (ofKeyedText t).cause? = checks.findSome? (failure? t) := by
  refine cause?_bind (cause?_counterOr t "ioc_running" _) fun _ _ => ?_
  refine cause?_bind (cause?_counterOr t "hweight_whole" _) fun _ _ => ?_
  refine cause?_bind (cause?_counterOr t "vtime_per_sec" _) fun _ _ => ?_
  refine cause?_bind (cause?_counterOr t "vtime_per_usec" _) fun _ _ => ?_
  refine cause?_bind (cause?_counterOr t "autop_hdd" _) fun _ _ => ?_
  refine cause?_bind (cause?_counterOr t "autop_ssd_qd1" _) fun _ _ => ?_
  refine cause?_bind (cause?_counterOr t "autop_ssd_dfl" _) fun _ _ => ?_
  refine cause?_bind (cause?_counterOr t "autop_ssd_fast" _) fun _ _ => ?_
  refine cause?_bind (cause?_counterOr t "nr_usage_slots" _) fun _ _ => ?_
  rfl

theorem counterOr_of_ofKeyedText (h : ofKeyedText t = .ok c) (key : ConstantKey) :
    t.counterOr key.name (({} : Constants).get key) = .ok (c.get key) := by
  obtain ⟨running, hrunning, h⟩ := Except.exists_of_bind_eq_ok h
  obtain ⟨wholeWeight, hwholeWeight, h⟩ := Except.exists_of_bind_eq_ok h
  obtain ⟨vtimePerSecond, hvtimePerSecond, h⟩ := Except.exists_of_bind_eq_ok h
  obtain ⟨vtimePerMicrosecond, hvtimePerMicrosecond, h⟩ := Except.exists_of_bind_eq_ok h
  obtain ⟨hddIndex, hhddIndex, h⟩ := Except.exists_of_bind_eq_ok h
  obtain ⟨ssdShallowIndex, hssdShallowIndex, h⟩ := Except.exists_of_bind_eq_ok h
  obtain ⟨ssdDefaultIndex, hssdDefaultIndex, h⟩ := Except.exists_of_bind_eq_ok h
  obtain ⟨ssdFastIndex, hssdFastIndex, h⟩ := Except.exists_of_bind_eq_ok h
  obtain ⟨usageSlots, husageSlots, h⟩ := Except.exists_of_bind_eq_ok h
  cases h
  cases key with
  | running => exact hrunning
  | wholeWeight => exact hwholeWeight
  | vtimePerSecond => exact hvtimePerSecond
  | vtimePerMicrosecond => exact hvtimePerMicrosecond
  | hddIndex => exact hhddIndex
  | ssdShallowIndex => exact hssdShallowIndex
  | ssdDefaultIndex => exact hssdDefaultIndex
  | ssdFastIndex => exact hssdFastIndex
  | usageSlots => exact husageSlots

theorem ofKeyedText_eq_ok_iff : ofKeyedText t = .ok c ↔
    ∀ key : ConstantKey, t.counterOr key.name (({} : Constants).get key) = .ok (c.get key) := by
  refine ⟨counterOr_of_ofKeyedText, fun h => ?_⟩
  have hnone : (ofKeyedText t).cause? = none := by
    rw [cause?_ofKeyedText, List.findSome?_eq_none_iff, checks, List.forall_mem_map]
    intro key _
    rw [ConstantKey.check, ← cause?_counterOr t key.name (({} : Constants).get key), h key]
    rfl
  obtain ⟨c', hc'⟩ := Except.cause?_eq_none_iff.mp hnone
  have hvalues (key : ConstantKey) : c'.get key = c.get key :=
    Except.ok.inj ((counterOr_of_ofKeyedText hc' key).symm.trans (h key))
  rw [hc', ext_get hvalues]

end Constants

/-! ## What a text gives -/

namespace ConstantKey

/-- The text gives the constant that value: the value of its last definition, or the default if no
line defines it. -/
def Gives (content : String) (key : ConstantKey) (n : UInt64) : Prop :=
  (¬KeyedText.IsDefined content key.name ∧ n = ({} : Constants).get key) ∨
    ∃ value, KeyedText.LastDefines content key.name value ∧ Text.IsUnsigned value.toList n

/-- The last definition of the constant is a counter, if there is one. -/
def IsValid (content : String) (key : ConstantKey) : Prop :=
  ∀ value, KeyedText.LastDefines content key.name value → ∃ n, Text.IsUnsigned value.toList n

/-- The last definition of the constant is that value, which is no counter, and those of the
constants that are read before it are counters. -/
def FirstInvalid (content : String) (key : ConstantKey) (value : String) : Prop :=
  KeyedText.LastDefines content key.name value ∧ (∀ n, ¬Text.IsUnsigned value.toList n) ∧
    ∃ before after, all = before ++ key :: after ∧ ∀ earlier ∈ before, IsValid content earlier

end ConstantKey

namespace Constants

open KeyedCheck

section Parse

variable {path content : String} {c : Constants} {e : Failure}

theorem accepts_unsigned_iff {cs : List Char} :
    IntegerKind.unsigned.accepts cs = true ↔ ∃ n, Text.IsUnsigned cs n := by
  rw [IntegerKind.accepts, Option.isSome_iff_exists]
  exact exists_congr fun n => Text.readUnsigned?_eq_some_iff

theorem passes_check_iff {key : ConstantKey} :
    Passes content key.check ↔ ConstantKey.IsValid content key :=
  forall_congr' fun _ => imp_congr_right fun _ => accepts_unsigned_iff

theorem ofKeyedText_parse_eq_ok_iff :
    ofKeyedText (.parse path content) = .ok c ↔
      ∀ key, ConstantKey.Gives content key (c.get key) := by
  rw [ofKeyedText_eq_ok_iff]
  refine forall_congr' fun key => KeyedText.counterOr_parse_eq_ok_iff.trans ?_
  simp only [ConstantKey.Gives, Text.readUnsigned?_eq_some_iff]

theorem exists_ofKeyedText_parse_iff :
    (∃ c, ofKeyedText (.parse path content) = .ok c) ↔ ∀ key, ConstantKey.IsValid content key := by
  rw [← Except.cause?_eq_none_iff, cause?_ofKeyedText, findSome?_failure?_parse_eq_none_iff, checks,
    List.forall_mem_map]
  exact ⟨fun h key => passes_check_iff.mp (h key (ConstantKey.mem_all key)),
    fun h key _ => passes_check_iff.mpr (h key)⟩

theorem ofKeyedText_parse_eq_error_iff :
    ofKeyedText (.parse path content) = .error e ↔
      ∃ key value, ConstantKey.FirstInvalid content key value ∧
        e = .invalidValue path key.name value := by
  rw [← Except.cause?_eq_some_iff, cause?_ofKeyedText, findSome?_failure?_parse_eq_some_iff]
  constructor
  · rintro ⟨before, check, after, hsplit, hfails, hbefore⟩
    obtain ⟨earlier, rest, hall, rfl, hrest⟩ := List.map_eq_append_iff.mp hsplit
    obtain ⟨key, later, rfl, rfl, -⟩ := List.map_eq_cons_iff.mp hrest
    cases hfails with
    | optional hvalue hinvalid =>
      refine ⟨key, _, ⟨hvalue, fun n hn => ?_, earlier, later, hall, fun k hk => ?_⟩, rfl⟩
      · rw [accepts_unsigned_iff.mpr ⟨n, hn⟩] at hinvalid
        cases hinvalid
      · exact passes_check_iff.mp (hbefore _ (List.mem_map_of_mem hk))
  · rintro ⟨key, value, ⟨hvalue, hinvalid, earlier, later, hall, hearlier⟩, rfl⟩
    refine ⟨earlier.map ConstantKey.check, key.check, later.map ConstantKey.check, ?_,
      .optional hvalue ?_, ?_⟩
    · rw [checks, hall, List.map_append, List.map_cons]
    · rw [← Bool.not_eq_true, accepts_unsigned_iff]
      exact not_exists.mpr hinvalid
    · rw [List.forall_mem_map]
      exact fun k hk => passes_check_iff.mpr (hearlier k hk)

end Parse

end Constants

/-! ## Constants written -/

/-- A line of a text: one that gives a constant its value, or one that gives no constant any,
because it has no blank or another key. -/
inductive ConstantLine where
  | value (key : ConstantKey)
  | other (text : List Char) (oneLine : '\n' ∉ text)
    (noConstant : ' ' ∉ text ∨ ∀ key : ConstantKey, text.takeWhile (· != ' ') ≠ key.name.toList)
deriving DecidableEq

def ConstantLine.text (c : Constants) : ConstantLine → List Char
  | value key => key.name.toList ++ ' ' :: counterText (c.get key)
  | other text _ _ => text

namespace Constants

/-- A text with these lines, in which constants have the values that they have in `c`. -/
def written (c : Constants) (lines : List ConstantLine) : String :=
  String.ofList (lines.flatMap fun line => line.text c ++ ['\n'])

theorem lookup?_line (path : String) (c : Constants) (line : ConstantLine) (key : ConstantKey) :
    (KeyedText.parse path (String.ofList (line.text c ++ ['\n']))).lookup? key.name =
      if .value key = line then some (String.ofList (counterText (c.get key))) else none := by
  cases line with
  | value k =>
    have hpairs : ArePairs [(k.name, counterText (c.get k))] :=
      List.forall_mem_singleton.mpr ⟨k.isKey_name, isValue_counterText _⟩
    have hline : (ConstantLine.value k).text c ++ ['\n'] =
        keyedLines [(k.name, counterText (c.get k))] := by
      rw [keyedLines, List.flatMap_singleton, keyedLine, ConstantLine.text, List.append_assoc,
        List.cons_append]
    rw [hline]
    split
    case isTrue h =>
      cases h
      exact KeyedText.lookup?_parse path hpairs (List.nodup_singleton _) (List.mem_singleton_self _)
    case isFalse h =>
      refine KeyedText.lookup?_parse_of_not_mem path hpairs fun hmem => h ?_
      rw [ConstantKey.name_injective (List.mem_singleton.mp hmem)]
  | other text oneLine noConstant =>
    have hother : ∀ line ∈ [text],
        '\n' ∉ line ∧ (' ' ∉ line ∨ line.takeWhile (· != ' ') ≠ key.name.toList) :=
      List.forall_mem_singleton.mpr ⟨oneLine, noConstant.imp_right fun h => h key⟩
    have hnone := KeyedText.lookup?_lines_eq_none hother path
    rw [List.flatMap_singleton] at hnone
    exact hnone.trans (if_neg ConstantLine.noConfusion).symm

theorem lookup?_written (path : String) (c : Constants) (lines : List ConstantLine)
    (key : ConstantKey) :
    (KeyedText.parse path (c.written lines)).lookup? key.name =
      if .value key ∈ lines then some (String.ofList (counterText (c.get key))) else none := by
  induction lines with
  | nil => rfl
  | cons line lines ih =>
    have hwritten : c.written (line :: lines) =
        String.ofList (line.text c ++ ['\n']) ++ c.written lines := by
      rw [written, List.flatMap_cons, String.ofList_append, written]
    have hwhole : Text.IsWholeLines (String.ofList (line.text c ++ ['\n'])).toList := by
      rw [String.toList_ofList]
      exact .inr List.getLast?_concat
    rw [hwritten, KeyedText.lookup?_append hwhole, ih, lookup?_line]
    by_cases hmem : ConstantLine.value key ∈ lines
    · rw [if_pos hmem, if_pos (List.mem_cons_of_mem _ hmem), Option.some_or]
    · simp only [hmem, List.mem_cons, ↓reduceIte, Option.none_or, or_false]

/-- The constants that a text with these lines gives. -/
theorem ofKeyedText_parse_written (path : String) (c : Constants) (lines : List ConstantLine) :
    ofKeyedText (.parse path (c.written lines)) =
      .ok (ofValues fun key =>
        if .value key ∈ lines then c.get key else ({} : Constants).get key) := by
  rw [ofKeyedText_eq_ok_iff]
  intro key
  have hlookup := lookup?_written path c lines key
  rw [get_ofValues, KeyedText.counterOr]
  split
  case isTrue hmem =>
    rw [if_pos hmem] at hlookup
    rw [KeyedText.optional_of_lookup? hlookup (Text.readUnsigned?_counterText _)]
    rfl
  case isFalse hmem =>
    rw [if_neg hmem] at hlookup
    rw [KeyedText.optional_of_lookup?_eq_none hlookup]
    rfl

end Constants

end Iocost
