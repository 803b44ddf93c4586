import Iocost.Proofs.Keyed.Definitions
import Iocost.Proofs.Outcome
import Iocost.Proofs.Text.Grammar

/-!
# Integers in a flat keyed text

The value of a key is read as a counter or a flag if and only if it is a text of the grammar of
integers, and then it is that integer (`KeyedText.counter_parse_eq_ok_iff`,
`KeyedText.signedCounter_parse_eq_ok_iff`, `KeyedText.flag_parse_eq_ok_iff`).
-/

namespace Iocost.KeyedText

variable {path content key : String}

/-- What is read for a key is read from the value that the text defines for it last. -/
theorem get_parse_eq_ok_iff {α : Type} {read : List Char → Option α} {a : α} :
    (parse path content).get read key = .ok a ↔
      ∃ value, LastDefines content key value ∧ read value.toList = some a := by
  have hlast (value : String) :
      LastDefines content key value ↔ (parse path content).lookup? key = some value :=
    lookup?_parse_eq_some_iff.symm
  simp only [hlast, get, required]
  cases (parse path content).lookup? key with
  | none => simp [Except.bind]
  | some value =>
    simp only [Except.bind, readValue, Option.some.injEq, exists_eq_left']
    cases read value.toList <;> simp

theorem counter_parse_eq_ok_iff {n : UInt64} :
    (parse path content).counter key = .ok n ↔
      ∃ value, LastDefines content key value ∧ Text.IsUnsigned value.toList n := by
  simp only [counter, get_parse_eq_ok_iff, Text.readUnsigned?_eq_some_iff]

theorem signedCounter_parse_eq_ok_iff {i : Int64} :
    (parse path content).signedCounter key = .ok i ↔
      ∃ value, LastDefines content key value ∧ Text.IsSigned value.toList i := by
  simp only [signedCounter, get_parse_eq_ok_iff, Text.readSigned?_eq_some_iff]

theorem flag_parse_eq_ok_iff {b : Bool} :
    (parse path content).flag key = .ok b ↔
      ∃ value i, LastDefines content key value ∧ Text.IsSigned value.toList i ∧
        b = (i != 0) := by
  rw [flag]
  constructor
  · intro h
    obtain ⟨i, hi, rfl⟩ := Except.exists_of_map_eq_ok h
    obtain ⟨value, hvalue, hsigned⟩ := signedCounter_parse_eq_ok_iff.mp hi
    exact ⟨value, i, hvalue, hsigned, rfl⟩
  · rintro ⟨value, i, hvalue, hsigned, rfl⟩
    rw [signedCounter_parse_eq_ok_iff.mpr ⟨value, hvalue, hsigned⟩]
    rfl

end Iocost.KeyedText
