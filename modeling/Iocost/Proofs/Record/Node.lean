import Iocost.Proofs.Association
import Iocost.Proofs.Binary64.Reading
import Iocost.Proofs.Record.Reader
import Iocost.Sample.Table

/-!
# The record of a node

Every value of the record is read back, and no number is written as a missing one. The keys are
distinct, those of the usage slots included, so a record is decoded by its keys alone, in whatever
order its fields stand (`toNode?_of_perm`).
-/

namespace Iocost

/-- An accounting node with the text of the time at which it was sampled. -/
structure TimedNode where
  path : String
  timestamp : String
  stats : NodeStats
deriving DecidableEq

namespace Record

/-! ## Values -/

def flag? (value : String) : Option Bool :=
  if value = "1" then some true else if value = "0" then some false else none

def number? (value : String) : Option Binary64 := (Binary64.read value).toOption

/-- A number that may be missing. -/
def optionalNumber? (value : String) : Option (Option Binary64) :=
  if value = "0" then some none else (number? value).map some

def counter? (value : String) : Option UInt64 := Text.readUnsigned? value.toList

def integer? (value : String) : Option Int64 := Text.readSigned? value.toList

/-- The number that hexadecimal digits denote. -/
def readHexDigits? (digits : List Char) : Option Nat :=
  digits.foldlM (fun n c => (hexDigit? c).map fun digit => 16 * n + digit) 0

def address? (value : String) : Option UInt64 :=
  match value.toList with
  | '0' :: 'x' :: digits => (readHexDigits? digits).map UInt64.ofNat
  | _ => none

theorem flag?_flagValue (b : Bool) : flag? (flagValue b) = some b := by
  cases b <;> rfl

theorem number?_numberValue (v : Binary64) : number? (numberValue v) = some v := by
  rw [number?, numberValue, Binary64.read_numberText]
  rfl

theorem numberValue_ne_zero (v : Binary64) : numberValue v ≠ "0" := by
  intro hzero
  have hread := number?_numberValue v
  rw [hzero] at hread
  cases hread
  exact absurd hzero (by decide)

theorem optionalNumber?_numberOrZero (v : Option Binary64) :
    optionalNumber? (numberOrZero v) = some v := by
  cases v with
  | none => rfl
  | some v => rw [numberOrZero, optionalNumber?, if_neg (numberValue_ne_zero v),
      number?_numberValue, Option.map_some]

theorem counter?_counterValue (n : UInt64) : counter? (counterValue n) = some n := by
  rw [counter?, counterValue, String.toList_ofList]
  exact Text.readUnsigned?_counterText n

theorem integer?_integerValue (i : Int64) : integer? (integerValue i) = some i := by
  rw [integer?, integerValue, String.toList_ofList, Text.readSigned?_integer]

theorem readHexDigits?_toDigits (n : Nat) : readHexDigits? (Nat.toDigits 16 n) = some n := by
  induction n using Nat.strongRecOn with
  | _ n ih =>
    rcases Nat.lt_or_ge n 16 with hlt | hge
    · rw [Nat.toDigits_of_lt_base hlt]
      simp [readHexDigits?, hexDigit?_digitChar hlt]
    · have hinit := ih (n / 16) (Nat.div_lt_self (by omega) (by decide))
      have hlast := hexDigit?_digitChar (Nat.mod_lt n (by decide : 0 < 16))
      rw [readHexDigits?] at hinit ⊢
      rw [Nat.toDigits_of_base_le (by decide) hge, List.foldlM_append, hinit]
      simp [hlast, Nat.div_add_mod]

theorem address?_addressValue (n : UInt64) : address? (addressValue n) = some n := by
  rw [address?, addressValue, String.toList_ofList]
  simp only [readHexDigits?_toDigits, Option.map_some, UInt64.ofNat_toNat]

/-! ## Keys -/

/-- The keys in front of those of the usage slots. -/
def nodeKeys : List String :=
  ["cgroup", "timestamp", "is_active", "weight", "weight_active", "weight_inuse",
    "hweight_active_pct", "hweight_inuse_pct", "inflight_pct", "debt_ms", "use_delay", "delay_ms",
    "usage_pct", "address"]

variable (path timestamp : String) (s : NodeStats)

theorem keys_ofNode : (ofNode path timestamp s).keys =
    nodeKeys ++ (List.range s.usages.length).map usageKey := by
  rw [keys, ofNode, List.map_append, List.map_map, List.range_eq_range', ← List.zipIdx_map_snd,
    List.map_map]
  rfl

theorem toList_usageKey (slot : Nat) :
    (usageKey slot).toList = "usage_pct_".toList ++ Nat.toDigits 10 slot :=
  String.toList_ofList

theorem usageKey_eq (slot : Nat) : usageKey slot = "usage_pct_" ++ toString slot := by
  apply String.toList_inj.mp
  rw [toList_usageKey, String.toList_append, Nat.toString_eq_repr, Nat.toList_repr]

theorem usageKey_injective : Function.Injective usageKey := by
  intro slot slot' h
  exact Text.toDigits_injective (List.append_cancel_left (String.ofList_injective h))

theorem usageKey_not_mem_nodeKeys (slot : Nat) : usageKey slot ∉ nodeKeys := by
  have hbegin : (usageKey slot).toList.take 10 = "usage_pct_".toList := by
    simp [toList_usageKey]
  -- `usage_pct` is the only other key that begins so, and ends before the last of these characters
  have hothers : ∀ key ∈ nodeKeys, key.toList.take 10 ≠ "usage_pct_".toList := by
    decide +kernel
  exact fun hmem => hothers _ hmem hbegin

theorem nodup_keys_ofNode : (ofNode path timestamp s).keys.Nodup := by
  rw [keys_ofNode]
  refine List.Nodup.append (by decide) (List.nodup_range.map usageKey_injective) ?_
  intro key hkey hslot
  obtain ⟨slot, -, rfl⟩ := List.mem_map.mp hslot
  exact usageKey_not_mem_nodeKeys slot hkey

/-! ## Decoding -/

/-- The usage history: the values of the slots that the record has, in the order of the slots. -/
def usages? (r : Record) : Option (List Binary64) :=
  ((List.range r.fields.length).filterMap fun slot => r.get? (usageKey slot)).mapM number?

/-- The node that the record describes. -/
def toNode? (r : Record) : Option TimedNode := do
  let path ← r.get? "cgroup"
  let timestamp ← r.get? "timestamp"
  let isActive ← (r.get? "is_active").bind flag?
  let weight ← (r.get? "weight").bind counter?
  let active ← (r.get? "weight_active").bind counter?
  let inuse ← (r.get? "weight_inuse").bind counter?
  let hweightActive ← (r.get? "hweight_active_pct").bind number?
  let hweightInuse ← (r.get? "hweight_inuse_pct").bind number?
  let inflight ← (r.get? "inflight_pct").bind optionalNumber?
  let debt ← (r.get? "debt_ms").bind number?
  let useDelay ← (r.get? "use_delay").bind integer?
  let delay ← (r.get? "delay_ms").bind number?
  let usage ← (r.get? "usage_pct").bind optionalNumber?
  let id ← (r.get? "address").bind address?
  let usages ← r.usages?
  return {
    path, timestamp
    stats := {
      isActive, weight, active, inuse, hweightActive, hweightInuse, inflight, debt, useDelay, delay,
      usages, usage, id } }

variable {path timestamp s} {r : Record}

theorem get?_of_perm (hperm : r.fields.Perm (ofNode path timestamp s).fields) {key value : String}
    (h : (key, value) ∈ (ofNode path timestamp s).fields) : r.get? key = some value := by
  have hkeys : (r.fields.map Prod.fst).Nodup :=
    (hperm.map Prod.fst).nodup_iff.mpr (nodup_keys_ofNode path timestamp s)
  exact (Association.lookup_eq_some_iff_mem hkeys).mpr (hperm.mem_iff.mpr h)

theorem get?_usageKey_of_perm (hperm : r.fields.Perm (ofNode path timestamp s).fields)
    (slot : Nat) : r.get? (usageKey slot) = s.usages[slot]?.map numberValue := by
  cases hslot : s.usages[slot]? with
  | some usage =>
    refine get?_of_perm hperm (List.mem_append_right _ (List.mem_map.mpr ⟨(usage, slot), ?_, rfl⟩))
    exact List.mk_mem_zipIdx_iff_getElem?.mpr hslot
  | none =>
    refine Association.lookup_eq_none_iff_not_mem.mpr fun hmem => ?_
    have hkey : usageKey slot ∈ (ofNode path timestamp s).keys :=
      (hperm.map Prod.fst).mem_iff.mp hmem
    rw [keys_ofNode] at hkey
    rcases List.mem_append.mp hkey with hkey | hkey
    · exact usageKey_not_mem_nodeKeys slot hkey
    · obtain ⟨slot', hrange, heq⟩ := List.mem_map.mp hkey
      rw [usageKey_injective heq, List.mem_range] at hrange
      exact absurd (List.getElem?_eq_none_iff.mp hslot) (Nat.not_le.mpr hrange)

theorem filterMap_range_getElem? {α : Type} (xs : List α) (n : Nat) :
    (List.range n).filterMap (fun i => xs[i]?) = xs.take n := by
  induction n with
  | zero => rfl
  | succ n ih =>
    rw [List.range_succ, List.filterMap_append, ih, List.take_add_one]
    cases h : xs[n]? <;> simp [h]

theorem mapM_number?_numberValue (vs : List Binary64) :
    (vs.map numberValue).mapM number? = some vs := by
  induction vs with
  | nil => rfl
  | cons v vs ih =>
    rw [List.map_cons, List.mapM_cons, number?_numberValue, ih]
    rfl

theorem usages?_of_perm (hperm : r.fields.Perm (ofNode path timestamp s).fields) :
    r.usages? = some s.usages := by
  have hlength : s.usages.length ≤ r.fields.length := by
    rw [hperm.length_eq]
    simp only [ofNode, List.length_append, List.length_map, List.length_zipIdx]
    exact Nat.le_add_left _ _
  simp only [usages?, get?_usageKey_of_perm hperm]
  rw [← List.map_filterMap, filterMap_range_getElem?, List.take_of_length_le hlength,
    mapM_number?_numberValue]

theorem toNode?_of_perm (hperm : r.fields.Perm (ofNode path timestamp s).fields) :
    r.toNode? = some ⟨path, timestamp, s⟩ := by
  have hget : ∀ field ∈ (ofNode path timestamp s).fields, r.get? field.1 = some field.2 :=
    fun _ hfield => get?_of_perm hperm hfield
  simp only [ofNode, List.cons_append, List.nil_append, List.forall_mem_cons] at hget
  simp only [toNode?, hget, usages?_of_perm hperm, Option.bind_eq_bind, Option.bind_some,
    flag?_flagValue, counter?_counterValue, integer?_integerValue, number?_numberValue,
    optionalNumber?_numberOrZero, address?_addressValue, Option.pure_def]

end Record

/-- **The record of a node loses nothing.** Its keys are distinct and it is decoded, to the path,
the time and the statistics it was made of, with a missing number told from a zero; the row of a
table made of what is decoded is the row of the node itself. -/
theorem node_record_loses_nothing (path timestamp : String) (s : NodeStats) :
    (Record.ofNode path timestamp s).keys.Nodup ∧
    (Record.ofNode path timestamp s).toNode? = some ⟨path, timestamp, s⟩ ∧
    (Record.numberOrZero none = "0" ∧ ∀ v, Record.numberValue v ≠ "0") ∧
    (Record.ofNode path timestamp s).toNode?.map (fun node => Table.row node.path node.stats) =
      some (Table.row path s) := by
  have hnode := Record.toNode?_of_perm (List.Perm.refl (Record.ofNode path timestamp s).fields)
  refine ⟨Record.nodup_keys_ofNode path timestamp s, hnode, ⟨rfl, Record.numberValue_ne_zero⟩, ?_⟩
  rw [hnode, Option.map_some]

end Iocost
