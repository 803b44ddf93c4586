import Iocost.Proofs.Keyed.Lines
import Iocost.Proofs.Text.Integer

/-!
# Counters read back

Counters that are written as a flat keyed text are read back as they were, those of a node but for
what tells it from others, which is not in the text.
-/

namespace Iocost

/-! ## Values that are written -/

theorem not_isBlank_of_mem_counterText {n : UInt64} {c : Char} (h : c ∈ counterText n) :
    Text.isBlank c = false := Text.isBlank_of_isDigit (Text.isDigit_of_mem_toDigits h)

theorem isValue_counterText (n : UInt64) : IsValue (counterText n) :=
  isValue_of_not_isBlank fun _ hc => not_isBlank_of_mem_counterText hc

theorem isValue_flagText (b : Bool) : IsValue (flagText b) := by
  refine isValue_of_not_isBlank fun c hc => ?_
  cases b <;> (obtain rfl := List.mem_singleton.mp hc; rfl)

theorem isValue_integer (i : Int) : IsValue (Text.integer i) := by
  refine isValue_of_not_isBlank fun c hc => ?_
  unfold Text.integer at hc
  split at hc
  case isTrue =>
    rcases List.mem_cons.mp hc with rfl | hc
    · rfl
    · exact Text.isBlank_of_isDigit (Text.isDigit_of_mem_toDigits hc)
  case isFalse => exact Text.isBlank_of_isDigit (Text.isDigit_of_mem_toDigits hc)

theorem words_usages (usages : List UInt64) :
    Text.words (List.intercalate [' '] (usages.map counterText)) = usages.map counterText := by
  refine Text.words_intercalate fun w hw => ?_
  obtain ⟨n, -, rfl⟩ := List.mem_map.mp hw
  refine ⟨Nat.toDigits_ne_nil, fun c hc => Bool.eq_false_iff.mpr fun hblank => ?_⟩
  have := not_isBlank_of_mem_counterText hc
  rw [Text.isBlank_of_isAsciiBlank hblank] at this
  cases this

theorem isValue_usages (usages : List UInt64) :
    IsValue (List.intercalate [' '] (usages.map counterText)) := by
  refine isValue_intercalate fun w hw => ?_
  obtain ⟨n, -, rfl⟩ := List.mem_map.mp hw
  exact ⟨Nat.toDigits_ne_nil, fun c hc => not_isBlank_of_mem_counterText hc⟩

namespace KeyedText

variable {t : KeyedText} {key : String}

theorem counter_of_lookup? {n : UInt64} (h : t.lookup? key = some (String.ofList (counterText n))) :
    t.counter key = .ok n := get_of_lookup? h (Text.readUnsigned?_counterText n)

theorem signedCounter_of_lookup? {i : Int64}
    (h : t.lookup? key = some (String.ofList (Text.integer i.toInt))) :
    t.signedCounter key = .ok i := get_of_lookup? h (Text.readSigned?_integer i)

theorem flag_of_lookup? {b : Bool} (h : t.lookup? key = some (String.ofList (flagText b))) :
    t.flag key = .ok b := by
  rw [flag, signedCounter, get_of_lookup? h (Text.readSigned?_flagText b)]
  cases b <;> rfl

end KeyedText

/-! ## Controllers -/

namespace ControllerCounters

/-- The keys and values that stand for the counters. -/
def pairs (c : ControllerCounters) : List (String × List Char) :=
  [("enabled", flagText c.enabled), ("running", counterText c.running),
    ("period_us", counterText c.period), ("period_at", counterText c.periodAt),
    ("period_at_vtime", counterText c.periodAtVtime), ("vtime_rate", counterText c.vtimeRate),
    ("busy_level", Text.integer c.busyLevel.toInt), ("autop_idx", counterText c.profileIndex),
    ("user_cost_model", flagText c.userCostModel), ("user_qos_params", flagText c.userQosParams)]

def keys : List String :=
  ["enabled", "running", "period_us", "period_at", "period_at_vtime", "vtime_rate", "busy_level",
    "autop_idx", "user_cost_model", "user_qos_params"]

theorem toKeyedText_eq (c : ControllerCounters) :
    c.toKeyedText = String.ofList (keyedLines c.pairs) := by
  simp only [toKeyedText, keyedLines, pairs, List.flatMap_cons, List.flatMap_nil, List.append_nil,
    List.append_assoc]

theorem arePairs (c : ControllerCounters) : ArePairs c.pairs := by
  have hkeys : ∀ key ∈ keys, IsKey key := by decide
  have hvalues : ∀ pair ∈ c.pairs, IsValue pair.2 := by
    simp [pairs, isValue_flagText, isValue_counterText, isValue_integer]
  exact fun pair hpair => ⟨hkeys _ (List.mem_map_of_mem hpair), hvalues pair hpair⟩

theorem ofKeyedText_parse (path : String) (c : ControllerCounters) :
    ofKeyedText (.parse path c.toKeyedText) = .ok c := by
  rw [toKeyedText_eq]
  have hlookup : ∀ pair ∈ c.pairs,
      (KeyedText.parse path (String.ofList (keyedLines c.pairs))).lookup? pair.1 =
        some (String.ofList pair.2) :=
    fun pair hpair => KeyedText.lookup?_parse path c.arePairs (show keys.Nodup by decide) hpair
  generalize KeyedText.parse path (String.ofList (keyedLines c.pairs)) = t at hlookup
  simp only [pairs, List.forall_mem_cons] at hlookup
  obtain ⟨henabled, hrunning, hperiod, hperiodAt, hperiodAtVtime, hvtimeRate, hbusyLevel,
    hprofileIndex, huserCostModel, huserQosParams, -⟩ := hlookup
  simp only [ofKeyedText, KeyedText.flag_of_lookup? henabled,
    KeyedText.counter_of_lookup? hrunning, KeyedText.counter_of_lookup? hperiod,
    KeyedText.counter_of_lookup? hperiodAt, KeyedText.counter_of_lookup? hperiodAtVtime,
    KeyedText.counter_of_lookup? hvtimeRate, KeyedText.signedCounter_of_lookup? hbusyLevel,
    KeyedText.counter_of_lookup? hprofileIndex, KeyedText.flag_of_lookup? huserCostModel,
    KeyedText.flag_of_lookup? huserQosParams]
  rfl

end ControllerCounters

/-! ## Nodes -/

namespace NodeCounters

/-- The keys and values that stand for the counters. -/
def pairs (n : NodeCounters) : List (String × List Char) :=
  [("active_list", flagText n.isActive), ("weight", counterText n.weight),
    ("active", counterText n.active), ("inuse", counterText n.inuse),
    ("hweight_active", counterText n.hweightActive), ("hweight_inuse", counterText n.hweightInuse),
    ("vtime", counterText n.vtime), ("done_vtime", counterText n.doneVtime),
    ("abs_vdebt", counterText n.debt), ("use_delay", Text.integer n.useDelay.toInt),
    ("delay_nsec", counterText n.delay), ("usage_idx", counterText n.usageIndex),
    ("usages", List.intercalate [' '] (n.usages.map counterText))]

def keys : List String :=
  ["active_list", "weight", "active", "inuse", "hweight_active", "hweight_inuse", "vtime",
    "done_vtime", "abs_vdebt", "use_delay", "delay_nsec", "usage_idx", "usages"]

theorem toKeyedText_eq (n : NodeCounters) :
    n.toKeyedText = String.ofList (keyedLines n.pairs) := by
  simp only [toKeyedText, keyedLines, pairs, List.flatMap_cons, List.flatMap_nil, List.append_nil,
    List.append_assoc]

theorem arePairs (n : NodeCounters) : ArePairs n.pairs := by
  have hkeys : ∀ key ∈ keys, IsKey key := by decide
  have hvalues : ∀ pair ∈ n.pairs, IsValue pair.2 := by
    simp [pairs, isValue_flagText, isValue_counterText, isValue_integer, isValue_usages]
  exact fun pair hpair => ⟨hkeys _ (List.mem_map_of_mem hpair), hvalues pair hpair⟩

/-- Of a text that gives each counter its value, only the address is left to be looked up. -/
theorem ofKeyedText_of_lookup? {t : KeyedText} {slots inode : UInt64} {n : NodeCounters}
    {address : Option UInt64} (haddress : t.optional Text.readUnsigned? "address" = .ok address)
    (hlookup : ∀ pair ∈ n.pairs, t.lookup? pair.1 = some (String.ofList pair.2))
    (hslots : n.usages.length = slots.toNat) :
    ofKeyedText slots inode t = .ok { n with id := address.getD inode } := by
  simp only [pairs, List.forall_mem_cons] at hlookup
  obtain ⟨hisActive, hweight, hactive, hinuse, hhweightActive, hhweightInuse, hvtime, hdoneVtime,
    hdebt, huseDelay, hdelay, husageIndex, husages, -⟩ := hlookup
  have hlist := KeyedText.list_of_lookup? husages (words_usages n.usages)
    fun a _ => Text.readUnsigned?_counterText a
  simp only [ofKeyedText, haddress, hlist,
    KeyedText.flag_of_lookup? hisActive, KeyedText.counter_of_lookup? hweight,
    KeyedText.counter_of_lookup? hactive, KeyedText.counter_of_lookup? hinuse,
    KeyedText.counter_of_lookup? hhweightActive, KeyedText.counter_of_lookup? hhweightInuse,
    KeyedText.counter_of_lookup? hvtime, KeyedText.counter_of_lookup? hdoneVtime,
    KeyedText.counter_of_lookup? hdebt, KeyedText.signedCounter_of_lookup? huseDelay,
    KeyedText.counter_of_lookup? hdelay, KeyedText.counter_of_lookup? husageIndex]
  simp only [bind, Except.bind, hslots, ne_eq, not_true_eq_false, ↓reduceIte]
  rfl

section

variable (path : String) {slots : UInt64} (inode : UInt64) {n : NodeCounters}
  (hslots : n.usages.length = slots.toNat)

include hslots

theorem ofKeyedText_parse :
    ofKeyedText slots inode (.parse path n.toKeyedText) = .ok { n with id := inode } := by
  rw [toKeyedText_eq]
  have haddress : (KeyedText.parse path (String.ofList (keyedLines n.pairs))).optional
      Text.readUnsigned? "address" = .ok none :=
    KeyedText.optional_of_lookup?_eq_none (KeyedText.lookup?_parse_of_not_mem path n.arePairs
      (show "address" ∉ keys by decide))
  refine ofKeyedText_of_lookup? haddress (fun pair hpair => ?_) hslots
  exact KeyedText.lookup?_parse path n.arePairs (show keys.Nodup by decide) hpair

/-- A line with an address tells the node from others, whatever the number of its file. -/
theorem ofKeyedText_parse_address :
    ofKeyedText slots inode (.parse path
      (n.toKeyedText ++ String.ofList (keyedLine "address" (counterText n.id)))) = .ok n := by
  have htext : n.toKeyedText ++ String.ofList (keyedLine "address" (counterText n.id)) =
      String.ofList (keyedLines (n.pairs ++ [("address", counterText n.id)])) := by
    rw [toKeyedText_eq, ← String.ofList_append, keyedLines, keyedLines, List.flatMap_append,
      List.flatMap_singleton]
  have haddress : IsKey "address" ∧ IsValue (counterText n.id) :=
    ⟨by decide, isValue_counterText n.id⟩
  have hpairs : ArePairs (n.pairs ++ [("address", counterText n.id)]) :=
    List.forall_mem_append.mpr ⟨n.arePairs, List.forall_mem_singleton.mpr haddress⟩
  have hkeys : (n.pairs ++ [("address", counterText n.id)]).map Prod.fst = keys ++ ["address"] :=
    List.map_append
  have hnodup : ((n.pairs ++ [("address", counterText n.id)]).map Prod.fst).Nodup := by
    rw [hkeys]
    decide
  have hlookup {key : String} {value : List Char}
      (hmem : (key, value) ∈ n.pairs ++ [("address", counterText n.id)]) :=
    KeyedText.lookup?_parse path hpairs hnodup hmem
  rw [htext]
  refine ofKeyedText_of_lookup? (KeyedText.optional_of_lookup?
    (hlookup (List.mem_append_right n.pairs (List.mem_singleton_self _)))
    (Text.readUnsigned?_counterText n.id)) (fun pair hpair => ?_) hslots
  exact hlookup (List.mem_append_left _ hpair)

end

end NodeCounters

end Iocost
