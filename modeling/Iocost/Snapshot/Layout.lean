import Iocost.Counters
import Iocost.Files.Name
import Iocost.Text.Utf8

/-!
The names of the files in a snapshot. The devices, the constants and the controllers are at its
root; a directory is a cgroup, with a file for its state and one for each of its accounting nodes.
-/

namespace Iocost.Snapshot

def queueBytes (queue : Queue) : List UInt8 := (Nat.toDigits 10 queue.toNat).map Char.toUInt8

theorem toUInt8_of_isDigit {c : Char} (h : c.isDigit) : c.toUInt8 ≠ 47 ∧ c.toUInt8 ≠ 0 := by
  simp only [Char.isDigit, Bool.and_eq_true, decide_eq_true_eq] at h
  obtain ⟨h1, h2⟩ := h
  have h1 : 48 ≤ c.val.toNat := h1
  have h2 : c.val.toNat ≤ 57 := h2
  have value : c.toUInt8.toNat = c.val.toNat % 2 ^ 8 := UInt32.toNat_toUInt8 c.val
  have slash : (47 : UInt8).toNat = 47 := rfl
  have zero : (0 : UInt8).toNat = 0 := rfl
  exact ⟨fun h => by rw [h] at value; omega, fun h => by rw [h] at value; omega⟩

/-- A number below a power of ten has no more digits than the exponent says. -/
theorem length_toDigits_le {k n : Nat} (h : n < Nat.pow 10 (k + 1)) :
    (Nat.toDigits 10 n).length ≤ k + 1 := by
  induction k generalizing n with
  | zero => rw [Nat.toDigits_of_lt_base h]; exact Nat.le_refl 1
  | succ k ih =>
    by_cases hn : n < 10
    · rw [Nat.toDigits_of_lt_base hn]; exact Nat.le_add_left 1 (k + 1)
    · rw [Nat.toDigits_of_base_le (by decide) (by omega), List.length_append]
      exact Nat.succ_le_succ (ih (Nat.div_lt_of_lt_mul (by rwa [Nat.mul_comm])))

theorem length_queueBytes_le (queue : Queue) : (queueBytes queue).length ≤ 20 := by
  rw [queueBytes, List.length_map]
  exact length_toDigits_le (Nat.lt_trans queue.toNat_lt (by decide))

/-- A name with the digits of a queue behind it is a name. -/
theorem isFileName_append_queueBytes {stem : List UInt8} (h : isFileName stem = true)
    (hlength : 2 < stem.length ∧ stem.length < 20) (queue : Queue) :
    isFileName (stem ++ queueBytes queue) = true := by
  simp only [isFileName, Bool.and_eq_true, Bool.not_eq_true', List.isEmpty_eq_false_iff,
    bne_iff_ne, ne_eq, List.all_eq_true, decide_eq_true_eq] at h ⊢
  refine ⟨⟨⟨⟨?_, ?_⟩, ?_⟩, ?_⟩, ?_⟩
  · simp [h.1.1.1.1]
  · intro heq
    have := congrArg List.length heq
    simp at this
    omega
  · intro heq
    have := congrArg List.length heq
    simp at this
    omega
  · have := length_queueBytes_le queue
    simp only [List.length_append, nameLimit]
    omega
  · intro b hb
    rcases List.mem_append.mp hb with hb | hb
    · exact h.2 b hb
    · obtain ⟨c, hc, rfl⟩ := List.mem_map.mp hb
      exact toUInt8_of_isDigit (Nat.isDigit_of_mem_toDigits (by decide) (by decide) hc)

/-- The file with the queues of the block devices. -/
def devicesName : FileName := ⟨Text.encode "iocost.devices", by decide⟩

/-- The file with constants that differ from the defaults. -/
def constantsName : FileName := ⟨Text.encode "iocost.constants", by decide⟩

/-- The file that says whether a cgroup is online. -/
def onlineName : FileName := ⟨Text.encode "cgroup.online", by decide⟩

/-- The file with the counters of the controller of a queue. -/
def controllerName (queue : Queue) : FileName :=
  ⟨Text.encode "ioc." ++ queueBytes queue,
    isFileName_append_queueBytes (by decide) (by decide) queue⟩

/-- The file with the counters of the accounting node of a cgroup for a queue. -/
def nodeName (queue : Queue) : FileName :=
  ⟨Text.encode "iocg." ++ queueBytes queue,
    isFileName_append_queueBytes (by decide) (by decide) queue⟩

end Iocost.Snapshot
