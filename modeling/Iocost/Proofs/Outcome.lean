/-!
# Outcomes that are not failures

What is done with an outcome succeeds only if the outcome is none of failure.
-/

namespace Except

variable {ε α β : Type}

/-- What went wrong, if something did. -/
def cause? : Except ε α → Option ε
  | .ok _ => none
  | .error e => some e

theorem cause?_eq_some_iff {x : Except ε α} {e : ε} : x.cause? = some e ↔ x = .error e := by
  cases x <;> simp [cause?]

theorem cause?_eq_none_iff {x : Except ε α} : x.cause? = none ↔ ∃ a, x = .ok a := by
  cases x <;> simp [cause?]

theorem cause?_map (f : α → β) (x : Except ε α) : (x.map f).cause? = x.cause? := by
  cases x <;> rfl

/-- Of several things that are done in turn, the first that fails is what goes wrong. -/
theorem cause?_mapM (f : α → Except ε β) (l : List α) :
    (l.mapM f).cause? = l.findSome? fun a => (f a).cause? := by
  induction l with
  | nil => rfl
  | cons a l ih =>
    rw [List.mapM_cons, List.findSome?_cons, ← ih]
    cases f a with
    | error e => rfl
    | ok b => cases l.mapM f <;> rfl

theorem exists_of_bind_eq_ok {x : Except ε α} {f : α → Except ε β} {b : β}
    (h : x.bind f = .ok b) : ∃ a, x = .ok a ∧ f a = .ok b := by
  cases x with
  | error e => cases h
  | ok a => exact ⟨a, rfl, h⟩

theorem exists_of_map_eq_ok {x : Except ε α} {f : α → β} {b : β} (h : x.map f = .ok b) :
    ∃ a, x = .ok a ∧ f a = b := by
  cases x with
  | error e => cases h
  | ok a => exact ⟨a, rfl, Except.ok.inj h⟩

theorem length_of_mapM_eq_ok {f : α → Except ε β} {l : List α} {bs : List β}
    (h : l.mapM f = .ok bs) : bs.length = l.length := by
  induction l generalizing bs with
  | nil =>
    cases h
    rfl
  | cons a l ih =>
    rw [List.mapM_cons] at h
    obtain ⟨b, -, h⟩ := exists_of_bind_eq_ok h
    obtain ⟨rest, hrest, h⟩ := exists_of_bind_eq_ok h
    cases h
    rw [List.length_cons, ih hrest, List.length_cons]

theorem eq_ok_of_mapError_eq_ok {ε' : Type} {f : ε → ε'} {x : Except ε α} {a : α}
    (h : x.mapError f = .ok a) : x = .ok a := by
  cases x with
  | error e => cases h
  | ok a' => exact congrArg Except.ok (Except.ok.inj h)

theorem toOption_eq_some_iff {x : Except ε α} {a : α} : x.toOption = some a ↔ x = .ok a := by
  cases x <;> simp [Except.toOption]

end Except
