import Iocost.Proofs.Text.Encoding
import Iocost.Sink

/-!
# What a sink takes

A sink takes what it has room for, however the bytes come: pieces of text written one after the
other are written as one text (`Sink.writePieces_eq_write`). Whether it can be flushed is another
matter (`Sink.write_with_flushes`).
-/

namespace Iocost.Sink

variable (s : Sink)

/-- How many of a number of bytes there is room for. -/
def fitting (n : Nat) : Nat :=
  match s.room with
  | none => n
  | some room => min room n

theorem write_nil : s.write [] = (s, none) := by
  obtain ⟨written, room, flushes⟩ := s
  cases room with
  | none => simp [write]
  | some room => simp [write]

/-- A sink that takes all bytes has less room; one that does not takes those that fit, and has no
room then. -/
theorem write_eq (bytes : List UInt8) :
    s.write bytes =
      if s.fitting bytes.length < bytes.length then
        ({ s with written := s.written ++ bytes.take (s.fitting bytes.length), room := some 0 },
          some .full)
      else
        ({ s with written := s.written ++ bytes, room := s.room.map (· - bytes.length) },
          none) := by
  obtain ⟨written, room, flushes⟩ := s
  cases room with
  | none => simp [write, fitting]
  | some room =>
    by_cases hfits : bytes.length ≤ room
    · simp [write, fitting, hfits]
    · have hmin : min room bytes.length = room := Nat.min_eq_left (Nat.le_of_not_le hfits)
      simp [write, fitting, hfits, hmin]

theorem written_write (bytes : List UInt8) :
    (s.write bytes).1.written = s.written ++ bytes.take (s.fitting bytes.length) := by
  rw [write_eq]
  split
  case isTrue => rfl
  case isFalse hfits => rw [List.take_of_length_le (Nat.le_of_not_lt hfits)]

theorem refused_write (bytes : List UInt8) :
    (s.write bytes).2 = if s.fitting bytes.length < bytes.length then some .full else none := by
  rw [write_eq]
  split <;> rfl

theorem write_append (a b : List UInt8) :
    s.write (a ++ b) =
      match s.write a with
      | (s, none) => s.write b
      | refused => refused := by
  obtain ⟨written, room, flushes⟩ := s
  cases room with
  | none => simp [write]
  | some room =>
    by_cases ha : a.length ≤ room
    · by_cases hb : a.length + b.length ≤ room
      · have hb' : b.length ≤ room - a.length := by omega
        simp [write, ha, hb, hb', Nat.sub_sub]
      · have hb' : ¬b.length ≤ room - a.length := by omega
        simp [write, ha, hb, hb', List.take_append, List.take_of_length_le ha]
    · have hab : ¬a.length + b.length ≤ room := by omega
      have hnone : room - a.length = 0 := by omega
      simp [write, ha, hab, List.take_append, hnone]

theorem writePieces_eq_write (pieces : List String) :
    s.writePieces pieces = s.write (Text.encode (String.join pieces)) := by
  induction pieces generalizing s with
  | nil => exact s.write_nil.symm
  | cons piece pieces ih =>
    rw [writePieces, String.join_cons, Text.encode_append, write_append]
    cases s.write (Text.encode piece) with
    | mk s refused? =>
      cases refused? with
      | none => exact ih s
      | some cause => rfl

theorem write_with_flushes (flushes : Option Nat) (bytes : List UInt8) :
    ({ s with flushes := flushes } : Sink).write bytes =
      ({ (s.write bytes).1 with flushes := flushes }, (s.write bytes).2) := by
  obtain ⟨written, room, _⟩ := s
  cases room with
  | none => rfl
  | some room =>
    simp only [write]
    split <;> rfl

theorem flushes_write (bytes : List UInt8) : (s.write bytes).1.flushes = s.flushes := by
  rw [write_eq]
  split <;> rfl

theorem flush_of_pos (h : ∀ n, s.flushes = some n → 0 < n) :
    s.flush = ({ s with flushes := s.flushes.map (· - 1) }, none) := by
  obtain ⟨written, room, flushes⟩ := s
  cases flushes with
  | none => rfl
  | some n =>
    cases n with
    | zero => exact absurd (h 0 rfl) (Nat.lt_irrefl 0)
    | succ n => rfl

end Iocost.Sink
