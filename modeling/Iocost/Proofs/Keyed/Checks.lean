import Iocost.Keyed.Counters
import Iocost.Proofs.Keyed.Definitions
import Iocost.Proofs.Outcome

/-!
# What is checked when counters are read

Counters are read from a flat keyed text by checks in a fixed order, those of a controller
(`ControllerCounters.checks`) and those of a node (`NodeCounters.checks`). When each of them fails,
and how, is said in terms of the lines of the text (`KeyedCheck.Fails`). Reading fails as the first
check that fails does (`ControllerCounters.ofKeyedText_parse_eq_error_iff`,
`NodeCounters.ofKeyedText_parse_eq_error_iff`), and succeeds if none does.
-/

namespace Iocost

/-- The integers that the text of a counter can stand for. -/
inductive IntegerKind where
  | unsigned
  | signed

def IntegerKind.accepts : IntegerKind → List Char → Bool
  | .unsigned, text => (Text.readUnsigned? text).isSome
  | .signed, text => (Text.readSigned? text).isSome

/-- What is asked of one key of a flat keyed text. -/
inductive KeyedCheck where
  /-- The value is an unsigned integer, if there is one. -/
  | optional (key : String)
  | required (kind : IntegerKind) (key : String)
  /-- The words of the value are unsigned integers. -/
  | list (key : String)
  /-- The value has that many words. -/
  | length (key : String) (slots : Nat)

namespace KeyedCheck

/-- The text is as the check asks. -/
def Passes (content : String) : KeyedCheck → Prop
  | .optional key => ∀ value, KeyedText.LastDefines content key value →
    IntegerKind.unsigned.accepts value.toList = true
  | .required kind key => ∃ value, KeyedText.LastDefines content key value ∧
    kind.accepts value.toList = true
  | .list key => ∃ value, KeyedText.LastDefines content key value ∧
    ∀ word ∈ Text.words value.toList, IntegerKind.unsigned.accepts word = true
  | .length key slots => ∀ value, KeyedText.LastDefines content key value →
    (Text.words value.toList).length = slots

/-- How a check fails on a text that was read from a path. -/
inductive Fails (path content : String) : KeyedCheck → Failure → Prop where
  | optional {key value : String} (hvalue : KeyedText.LastDefines content key value)
    (hinvalid : IntegerKind.unsigned.accepts value.toList = false) :
    Fails path content (.optional key) (.invalidValue path key value)
  | missing {kind : IntegerKind} {key : String} (hmissing : ¬KeyedText.IsDefined content key) :
    Fails path content (.required kind key) (.missingKey path key)
  | invalid {kind : IntegerKind} {key value : String}
    (hvalue : KeyedText.LastDefines content key value)
    (hinvalid : kind.accepts value.toList = false) :
    Fails path content (.required kind key) (.invalidValue path key value)
  | missingList {key : String} (hmissing : ¬KeyedText.IsDefined content key) :
    Fails path content (.list key) (.missingKey path key)
  | invalidWord {key value : String} {before after : List (List Char)} {word : List Char}
    (hvalue : KeyedText.LastDefines content key value)
    (hwords : Text.words value.toList = before ++ word :: after)
    (hbefore : ∀ earlier ∈ before, IntegerKind.unsigned.accepts earlier = true)
    (hinvalid : IntegerKind.unsigned.accepts word = false) :
    Fails path content (.list key) (.invalidValue path key (String.ofList word))
  | length {key value : String} {slots : Nat} (hvalue : KeyedText.LastDefines content key value)
    (hlength : (Text.words value.toList).length ≠ slots) :
    Fails path content (.length key slots)
      (.badRingLength slots (Text.words value.toList).length)

/-- The failure of the first check that fails. -/
def FirstFails (path content : String) (checks : List KeyedCheck) (e : Failure) : Prop :=
  ∃ before check after, checks = before ++ check :: after ∧ check.Fails path content e ∧
    ∀ earlier ∈ before, earlier.Passes content

end KeyedCheck

def ControllerCounters.checks : List KeyedCheck :=
  [.required .signed "enabled", .required .unsigned "running", .required .unsigned "period_us",
    .required .unsigned "period_at", .required .unsigned "period_at_vtime",
    .required .unsigned "vtime_rate", .required .signed "busy_level",
    .required .unsigned "autop_idx", .required .signed "user_cost_model",
    .required .signed "user_qos_params"]

def NodeCounters.checks (slots : UInt64) : List KeyedCheck :=
  [.optional "address", .list "usages", .length "usages" slots.toNat,
    .required .signed "active_list", .required .unsigned "weight", .required .unsigned "active",
    .required .unsigned "inuse", .required .unsigned "hweight_active",
    .required .unsigned "hweight_inuse", .required .unsigned "vtime",
    .required .unsigned "done_vtime", .required .unsigned "abs_vdebt",
    .required .signed "use_delay", .required .unsigned "delay_nsec",
    .required .unsigned "usage_idx"]

/-! ## Failures computed -/

namespace KeyedText

variable {t : KeyedText} {key value : String} {kind : IntegerKind}

def invalid? (t : KeyedText) (kind : IntegerKind) (key value : String) : Option Failure :=
  if kind.accepts value.toList then none else some (.invalidValue t.path key value)

theorem invalid?_eq_some_iff {e : Failure} :
    t.invalid? kind key value = some e ↔
      kind.accepts value.toList = false ∧ e = .invalidValue t.path key value := by
  unfold invalid?
  cases kind.accepts value.toList <;> simp [eq_comm]

theorem invalid?_eq_none_iff :
    t.invalid? kind key value = none ↔ kind.accepts value.toList = true := by
  unfold invalid?
  cases kind.accepts value.toList <;> simp

theorem cause?_readValue {α : Type} (read : List Char → Option α) :
    (t.readValue read key value).cause? =
      if (read value.toList).isSome then none else some (.invalidValue t.path key value) := by
  unfold readValue
  cases read value.toList with
  | none => rfl
  | some a => rfl

theorem cause?_readValue_unsigned :
    (t.readValue Text.readUnsigned? key value).cause? = t.invalid? .unsigned key value :=
  cause?_readValue Text.readUnsigned?

theorem cause?_readValue_signed :
    (t.readValue Text.readSigned? key value).cause? = t.invalid? .signed key value :=
  cause?_readValue Text.readSigned?

/-- There is a value for each word. -/
theorem exists_lookup?_of_list_eq_ok {α : Type} {read : List Char → Option α} {values : List α}
    (h : t.list read key = .ok values) :
    ∃ value, t.lookup? key = some value ∧ (Text.words value.toList).length = values.length := by
  rw [list, required] at h
  cases hlookup : t.lookup? key with
  | none =>
    rw [hlookup] at h
    cases h
  | some value =>
    rw [hlookup] at h
    exact ⟨value, rfl, (Except.length_of_mapM_eq_ok h).symm⟩

end KeyedText

namespace KeyedCheck

/-- The failure of a check, computed. -/
def failure? (t : KeyedText) : KeyedCheck → Option Failure
  | .optional key => (t.lookup? key).bind (t.invalid? .unsigned key)
  | .required kind key => (t.lookup? key).elim (some (.missingKey t.path key)) (t.invalid? kind key)
  | .list key => (t.lookup? key).elim (some (.missingKey t.path key)) fun value =>
    (Text.words value.toList).findSome? fun word => t.invalid? .unsigned key (String.ofList word)
  | .length key slots => (t.lookup? key).bind fun value =>
    if (Text.words value.toList).length = slots then none
    else some (.badRingLength slots (Text.words value.toList).length)

section

variable {path content key : String} {kind : IntegerKind} {check : KeyedCheck} {e : Failure}

theorem failure?_optional_eq_some_iff :
    failure? (.parse path content) (.optional key) = some e ↔
      Fails path content (.optional key) e := by
  rw [failure?, Option.bind_eq_some_iff]
  constructor
  · rintro ⟨value, hvalue, h⟩
    obtain ⟨hinvalid, rfl⟩ := KeyedText.invalid?_eq_some_iff.mp h
    exact .optional (KeyedText.lookup?_parse_eq_some_iff.mp hvalue) hinvalid
  · rintro ⟨hvalue, hinvalid⟩
    exact ⟨_, KeyedText.lookup?_parse_eq_some_iff.mpr hvalue,
      KeyedText.invalid?_eq_some_iff.mpr ⟨hinvalid, rfl⟩⟩

theorem failure?_required_eq_some_iff :
    failure? (.parse path content) (.required kind key) = some e ↔
      Fails path content (.required kind key) e := by
  rw [failure?]
  constructor
  · intro h
    cases hlookup : (KeyedText.parse path content).lookup? key with
    | none =>
      rw [hlookup] at h
      cases h
      exact .missing (KeyedText.lookup?_parse_eq_none_iff.mp hlookup)
    | some value =>
      rw [hlookup] at h
      obtain ⟨hinvalid, rfl⟩ := KeyedText.invalid?_eq_some_iff.mp h
      exact .invalid (KeyedText.lookup?_parse_eq_some_iff.mp hlookup) hinvalid
  · intro h
    cases h with
    | missing hmissing =>
      rw [KeyedText.lookup?_parse_eq_none_iff.mpr hmissing]
      rfl
    | invalid hvalue hinvalid =>
      rw [KeyedText.lookup?_parse_eq_some_iff.mpr hvalue]
      exact KeyedText.invalid?_eq_some_iff.mpr ⟨hinvalid, rfl⟩

theorem failure?_list_eq_some_iff :
    failure? (.parse path content) (.list key) = some e ↔ Fails path content (.list key) e := by
  have haccepts (word : List Char) :
      (KeyedText.parse path content).invalid? .unsigned key (String.ofList word) = none ↔
        IntegerKind.unsigned.accepts word = true := by
    rw [KeyedText.invalid?_eq_none_iff, String.toList_ofList]
  rw [failure?]
  constructor
  · intro h
    cases hlookup : (KeyedText.parse path content).lookup? key with
    | none =>
      rw [hlookup] at h
      cases h
      exact .missingList (KeyedText.lookup?_parse_eq_none_iff.mp hlookup)
    | some value =>
      rw [hlookup] at h
      obtain ⟨before, word, after, hwords, hword, hbefore⟩ := List.findSome?_eq_some_iff.mp h
      obtain ⟨hinvalid, rfl⟩ := KeyedText.invalid?_eq_some_iff.mp hword
      rw [String.toList_ofList] at hinvalid
      exact .invalidWord (KeyedText.lookup?_parse_eq_some_iff.mp hlookup) hwords
        (fun earlier hearlier => (haccepts earlier).mp (hbefore earlier hearlier)) hinvalid
  · intro h
    cases h with
    | missingList hmissing =>
      rw [KeyedText.lookup?_parse_eq_none_iff.mpr hmissing]
      rfl
    | invalidWord hvalue hwords hbefore hinvalid =>
      rw [KeyedText.lookup?_parse_eq_some_iff.mpr hvalue]
      refine List.findSome?_eq_some_iff.mpr ⟨_, _, _, hwords, ?_, ?_⟩
      · rw [KeyedText.invalid?_eq_some_iff, String.toList_ofList]
        exact ⟨hinvalid, rfl⟩
      · exact fun earlier hearlier => (haccepts earlier).mpr (hbefore earlier hearlier)

theorem failure?_length_eq_some_iff {slots : Nat} :
    failure? (.parse path content) (.length key slots) = some e ↔
      Fails path content (.length key slots) e := by
  rw [failure?, Option.bind_eq_some_iff]
  constructor
  · rintro ⟨value, hvalue, h⟩
    split at h
    case isTrue => cases h
    case isFalse hlength =>
      cases h
      exact .length (KeyedText.lookup?_parse_eq_some_iff.mp hvalue) hlength
  · intro h
    cases h with
    | length hvalue hlength =>
      exact ⟨_, KeyedText.lookup?_parse_eq_some_iff.mpr hvalue, if_neg hlength⟩

/-- Failures are computed as the lines say. -/
theorem failure?_parse_eq_some_iff :
    check.failure? (.parse path content) = some e ↔ check.Fails path content e := by
  cases check with
  | optional key => exact failure?_optional_eq_some_iff
  | required kind key => exact failure?_required_eq_some_iff
  | list key => exact failure?_list_eq_some_iff
  | length key slots => exact failure?_length_eq_some_iff

theorem failure?_parse_eq_none_iff :
    check.failure? (.parse path content) = none ↔ check.Passes content := by
  have helim {f : String → Option Failure} {missing : Failure} {value? : Option String} :
      value?.elim (some missing) f = none ↔ ∃ value, value? = some value ∧ f value = none := by
    cases value? <;> simp
  cases check with
  | optional key =>
    rw [failure?, Option.bind_eq_none_iff]
    exact forall_congr' fun value =>
      imp_congr KeyedText.lookup?_parse_eq_some_iff KeyedText.invalid?_eq_none_iff
  | required kind key =>
    rw [failure?, helim]
    exact exists_congr fun value =>
      and_congr KeyedText.lookup?_parse_eq_some_iff KeyedText.invalid?_eq_none_iff
  | list key =>
    rw [failure?, helim]
    refine exists_congr fun value => and_congr KeyedText.lookup?_parse_eq_some_iff ?_
    simp only [List.findSome?_eq_none_iff, KeyedText.invalid?_eq_none_iff, String.toList_ofList]
  | length key slots =>
    rw [failure?, Option.bind_eq_none_iff]
    refine forall_congr' fun value => imp_congr KeyedText.lookup?_parse_eq_some_iff ?_
    simp only [ite_eq_left_iff, reduceCtorEq, imp_false, not_not]

variable {checks : List KeyedCheck}

theorem findSome?_failure?_parse_eq_some_iff :
    checks.findSome? (failure? (.parse path content)) = some e ↔
      FirstFails path content checks e := by
  rw [List.findSome?_eq_some_iff, FirstFails]
  simp only [failure?_parse_eq_some_iff, failure?_parse_eq_none_iff]

theorem findSome?_failure?_parse_eq_none_iff :
    checks.findSome? (failure? (.parse path content)) = none ↔
      ∀ check ∈ checks, check.Passes content := by
  rw [List.findSome?_eq_none_iff]
  simp only [failure?_parse_eq_none_iff]

end

/-! ## Checks that are made -/

section

variable (t : KeyedText) (key : String)

theorem cause?_optional :
    (t.optional Text.readUnsigned? key).cause? = failure? t (.optional key) := by
  rw [KeyedText.optional, failure?]
  cases t.lookup? key with
  | none => rfl
  | some value => rw [Except.cause?_map, KeyedText.cause?_readValue_unsigned, Option.bind_some]

theorem cause?_counter : (t.counter key).cause? = failure? t (.required .unsigned key) := by
  rw [KeyedText.counter, KeyedText.get, KeyedText.required, failure?]
  cases t.lookup? key with
  | none => rfl
  | some value => exact KeyedText.cause?_readValue_unsigned

theorem cause?_signedCounter :
    (t.signedCounter key).cause? = failure? t (.required .signed key) := by
  rw [KeyedText.signedCounter, KeyedText.get, KeyedText.required, failure?]
  cases t.lookup? key with
  | none => rfl
  | some value => exact KeyedText.cause?_readValue_signed

theorem cause?_flag : (t.flag key).cause? = failure? t (.required .signed key) := by
  rw [KeyedText.flag, Except.cause?_map, cause?_signedCounter]

theorem cause?_list : (t.list Text.readUnsigned? key).cause? = failure? t (.list key) := by
  rw [KeyedText.list, KeyedText.required, failure?]
  cases t.lookup? key with
  | none => rfl
  | some value =>
    refine (Except.cause?_mapM _ _).trans ?_
    simp only [KeyedText.cause?_readValue_unsigned]
    rfl

theorem failure?_length_of_list_eq_ok {usages : List UInt64}
    (h : t.list Text.readUnsigned? key = .ok usages) (slots : Nat) :
    failure? t (.length key slots) =
      if usages.length = slots then none else some (.badRingLength slots usages.length) := by
  obtain ⟨value, hvalue, hlength⟩ := KeyedText.exists_lookup?_of_list_eq_ok h
  rw [failure?, hvalue, Option.bind_some, hlength]

end

/-- A check that is made before others. -/
theorem cause?_bind {α β : Type} {t : KeyedText} {x : Except Failure α} {f : α → Except Failure β}
    {check : KeyedCheck} {checks : List KeyedCheck} (hx : x.cause? = check.failure? t)
    (hf : ∀ a, x = .ok a → (f a).cause? = checks.findSome? (failure? t)) :
    (x >>= f).cause? = (check :: checks).findSome? (failure? t) := by
  rw [List.findSome?_cons, ← hx]
  cases x with
  | error e => rfl
  | ok a => exact hf a rfl

end KeyedCheck

/-! ## Counters -/

section

open KeyedCheck

variable (t : KeyedText)

theorem ControllerCounters.cause?_ofKeyedText :
    (ControllerCounters.ofKeyedText t).cause? =
      ControllerCounters.checks.findSome? (failure? t) := by
  refine cause?_bind (cause?_flag t "enabled") fun _ _ => ?_
  refine cause?_bind (cause?_counter t "running") fun _ _ => ?_
  refine cause?_bind (cause?_counter t "period_us") fun _ _ => ?_
  refine cause?_bind (cause?_counter t "period_at") fun _ _ => ?_
  refine cause?_bind (cause?_counter t "period_at_vtime") fun _ _ => ?_
  refine cause?_bind (cause?_counter t "vtime_rate") fun _ _ => ?_
  refine cause?_bind (cause?_signedCounter t "busy_level") fun _ _ => ?_
  refine cause?_bind (cause?_counter t "autop_idx") fun _ _ => ?_
  refine cause?_bind (cause?_flag t "user_cost_model") fun _ _ => ?_
  refine cause?_bind (cause?_flag t "user_qos_params") fun _ _ => ?_
  rfl

theorem NodeCounters.cause?_ofKeyedText (slots inode : UInt64) :
    (NodeCounters.ofKeyedText slots inode t).cause? =
      (NodeCounters.checks slots).findSome? (failure? t) := by
  refine cause?_bind (cause?_optional t "address") fun _ _ => ?_
  refine cause?_bind (cause?_list t "usages") fun usages husages => ?_
  -- the length is checked of usages that were read, which are as many as there are words
  rw [List.findSome?_cons, failure?_length_of_list_eq_ok t "usages" husages]
  by_cases hlength : usages.length = slots.toNat
  · simp only [ne_eq, hlength, not_true_eq_false, ↓reduceIte]
    refine cause?_bind (cause?_flag t "active_list") fun _ _ => ?_
    refine cause?_bind (cause?_counter t "weight") fun _ _ => ?_
    refine cause?_bind (cause?_counter t "active") fun _ _ => ?_
    refine cause?_bind (cause?_counter t "inuse") fun _ _ => ?_
    refine cause?_bind (cause?_counter t "hweight_active") fun _ _ => ?_
    refine cause?_bind (cause?_counter t "hweight_inuse") fun _ _ => ?_
    refine cause?_bind (cause?_counter t "vtime") fun _ _ => ?_
    refine cause?_bind (cause?_counter t "done_vtime") fun _ _ => ?_
    refine cause?_bind (cause?_counter t "abs_vdebt") fun _ _ => ?_
    refine cause?_bind (cause?_signedCounter t "use_delay") fun _ _ => ?_
    refine cause?_bind (cause?_counter t "delay_nsec") fun _ _ => ?_
    refine cause?_bind (cause?_counter t "usage_idx") fun _ _ => ?_
    rfl
  · simp only [ne_eq, hlength, not_false_eq_true, ↓reduceIte]
    rfl

/-- The usages are those of the text, as many as asked for. -/
theorem NodeCounters.usages_of_ofKeyedText {t : KeyedText} {slots inode : UInt64} {n : NodeCounters}
    (h : NodeCounters.ofKeyedText slots inode t = .ok n) :
    t.list Text.readUnsigned? "usages" = .ok n.usages ∧ n.usages.length = slots.toNat := by
  obtain ⟨address, -, h⟩ := Except.exists_of_bind_eq_ok h
  obtain ⟨usages, husages, h⟩ := Except.exists_of_bind_eq_ok h
  by_cases hlength : usages.length = slots.toNat
  · simp only [ne_eq, hlength, not_true_eq_false, ↓reduceIte] at h
    iterate 12 obtain ⟨_, -, h⟩ := Except.exists_of_bind_eq_ok h
    cases h
    exact ⟨husages, hlength⟩
  · simp only [ne_eq, hlength, not_false_eq_true, ↓reduceIte] at h
    cases h

section

variable {path content : String} {e : Failure}

theorem ControllerCounters.ofKeyedText_parse_eq_error_iff :
    ControllerCounters.ofKeyedText (.parse path content) = .error e ↔
      FirstFails path content ControllerCounters.checks e := by
  rw [← Except.cause?_eq_some_iff, ControllerCounters.cause?_ofKeyedText,
    findSome?_failure?_parse_eq_some_iff]

theorem ControllerCounters.exists_ofKeyedText_parse_iff :
    (∃ c, ControllerCounters.ofKeyedText (.parse path content) = .ok c) ↔
      ∀ check ∈ ControllerCounters.checks, check.Passes content := by
  rw [← Except.cause?_eq_none_iff, ControllerCounters.cause?_ofKeyedText,
    findSome?_failure?_parse_eq_none_iff]

variable {slots inode : UInt64}

theorem NodeCounters.ofKeyedText_parse_eq_error_iff :
    NodeCounters.ofKeyedText slots inode (.parse path content) = .error e ↔
      FirstFails path content (NodeCounters.checks slots) e := by
  rw [← Except.cause?_eq_some_iff, NodeCounters.cause?_ofKeyedText,
    findSome?_failure?_parse_eq_some_iff]

theorem NodeCounters.exists_ofKeyedText_parse_iff :
    (∃ n, NodeCounters.ofKeyedText slots inode (.parse path content) = .ok n) ↔
      ∀ check ∈ NodeCounters.checks slots, check.Passes content := by
  rw [← Except.cause?_eq_none_iff, NodeCounters.cause?_ofKeyedText,
    findSome?_failure?_parse_eq_none_iff]

end

end

end Iocost
