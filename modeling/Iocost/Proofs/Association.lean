import Iocost.Association
import Mathlib.Data.List.Nodup

/-!
# Lists of keys and values without repeated keys

In such a list a key has the value that stands with it, wherever that is
(`lookup_eq_some_iff_mem`), and putting and removing keys keeps the list such a one.
-/

namespace Iocost.Association

variable {κ α : Type} [BEq κ] [LawfulBEq κ]

theorem lookup_eq_some_iff_mem {key : κ} {value : α} {entries : List (κ × α)}
    (hnodup : (entries.map Prod.fst).Nodup) :
    entries.lookup key = some value ↔ (key, value) ∈ entries := by
  induction entries with
  | nil => exact ⟨nofun, nofun⟩
  | cons entry entries ih =>
    obtain ⟨k, v⟩ := entry
    obtain ⟨hk, hnodup⟩ := List.nodup_cons.mp hnodup
    rw [List.lookup_cons, List.mem_cons]
    cases hkey : key == k with
    | true =>
      obtain rfl : key = k := eq_of_beq hkey
      refine ⟨fun h => .inl (by rw [Option.some.inj h]), ?_⟩
      rintro (h | h)
      · exact congrArg some (Prod.mk.inj h).2.symm
      · exact absurd (List.mem_map_of_mem h) hk
    | false =>
      have hne : key ≠ k := beq_eq_false_iff_ne.mp hkey
      rw [ih hnodup]
      refine ⟨.inr, ?_⟩
      rintro (h | h)
      · exact absurd (Prod.mk.inj h).1 hne
      · exact h

theorem lookup_eq_none_iff_not_mem {key : κ} {entries : List (κ × α)} :
    entries.lookup key = none ↔ key ∉ entries.map Prod.fst := by
  rw [List.lookup_eq_none_iff, List.mem_map]
  constructor
  · rintro h ⟨entry, hentry, rfl⟩
    exact absurd (h entry hentry) (by simp)
  · intro h entry hentry
    rw [bne_iff_ne]
    exact fun hkey => h ⟨entry, hentry, hkey.symm⟩

theorem mem_keys_put {key k : κ} {value : α} {entries : List (κ × α)} :
    k ∈ (put key value entries).map Prod.fst ↔ k = key ∨ k ∈ entries.map Prod.fst := by
  induction entries with
  | nil => simp [put]
  | cons entry entries ih =>
    unfold put
    split
    case isTrue hkey =>
      obtain rfl : key = entry.1 := eq_of_beq hkey
      simp
    case isFalse =>
      rw [List.map_cons, List.mem_cons, ih, List.map_cons, List.mem_cons, or_left_comm]

theorem nodup_put {key : κ} {value : α} {entries : List (κ × α)}
    (hnodup : (entries.map Prod.fst).Nodup) : ((put key value entries).map Prod.fst).Nodup := by
  induction entries with
  | nil => exact List.nodup_singleton key
  | cons entry entries ih =>
    obtain ⟨hentry, hentries⟩ := List.nodup_cons.mp hnodup
    unfold put
    split
    case isTrue => exact hnodup
    case isFalse hkey =>
      refine List.nodup_cons.mpr ⟨fun hmem => ?_, ih hentries⟩
      rcases mem_keys_put.mp hmem with heq | hmem
      · exact hkey (beq_iff_eq.mpr heq.symm)
      · exact hentry hmem

omit [LawfulBEq κ] in
theorem nodup_erase {key : κ} {entries : List (κ × α)} (hnodup : (entries.map Prod.fst).Nodup) :
    ((erase key entries).map Prod.fst).Nodup :=
  hnodup.sublist (List.filter_sublist.map Prod.fst)

end Iocost.Association
