/-!
Lists of keys and values, in the order in which the keys were first put. A key is looked up with
`List.lookup`.
-/

namespace Iocost.Association

variable {κ α : Type} [BEq κ]

/-- Gives a key a value, in its place if the key is there and at the end otherwise. -/
def put (key : κ) (value : α) : List (κ × α) → List (κ × α)
  | [] => [(key, value)]
  | entry :: entries =>
    if key == entry.1 then (entry.1, value) :: entries else entry :: put key value entries

def erase (key : κ) (entries : List (κ × α)) : List (κ × α) :=
  entries.filter fun entry => !(key == entry.1)

theorem lookup_put [LawfulBEq κ] (key other : κ) (value : α) (entries : List (κ × α)) :
    (put key value entries).lookup other =
      if other == key then some value else entries.lookup other := by
  induction entries with
  | nil => cases h : other == key <;> simp [put, List.lookup_cons, h]
  | cons entry entries ih =>
    obtain ⟨k, v⟩ := entry
    unfold put
    split
    case isTrue h =>
      obtain rfl : key = k := eq_of_beq h
      cases h : other == key <;> simp [List.lookup_cons, h]
    case isFalse h =>
      cases hk : other == k with
      | true =>
        obtain rfl : other = k := eq_of_beq hk
        have : (other == key) = false := by
          simp only [beq_eq_false_iff_ne, ne_eq]
          rintro rfl
          exact h (beq_self_eq_true _)
        simp [this]
      | false => simp [List.lookup_cons, hk, ih]

theorem lookup_erase [LawfulBEq κ] (key other : κ) (entries : List (κ × α)) :
    (erase key entries).lookup other =
      if other == key then none else entries.lookup other := by
  induction entries with
  | nil => simp [erase]
  | cons entry entries ih =>
    obtain ⟨k, v⟩ := entry
    simp only [erase, List.filter_cons] at ih ⊢
    cases hk : key == k with
    | true =>
      obtain rfl : key = k := eq_of_beq hk
      simp only [Bool.not_true, Bool.false_eq_true, ↓reduceIte, ih]
      cases h : other == key <;> simp [List.lookup_cons, h]
    | false =>
      simp only [Bool.not_false, ↓reduceIte, List.lookup_cons, ih]
      cases h : other == k with
      | true =>
        obtain rfl : other = k := eq_of_beq h
        have : (other == key) = false := by
          simp only [beq_eq_false_iff_ne, ne_eq] at hk ⊢
          exact fun h => hk h.symm
        simp [this]
      | false => rfl

end Iocost.Association
