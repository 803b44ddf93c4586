import Iocost.Stats
import Mathlib.Data.Fintype.EquivFin
import Mathlib.Data.List.DropRight
import Mathlib.Data.List.Rotate
import Mathlib.Data.UInt

/-!
# The usage history of a node

A node stores its usages in a ring of slots, each one under the cursor, which then goes on. Read
from the cursor on, the ring has its slots in the order in which they were stored: storing one more
usage drops the oldest and puts the new one behind the others (`UsageRing.inOrder_store`), and so it
is with any number of usages (`UsageRing.inOrder_storeAll`).
-/

namespace Iocost

variable {α : Type}

theorem ringInOrder_eq_rotate (slots : List α) (cursor : Nat) :
    ringInOrder slots cursor = slots.rotate cursor :=
  (List.rotate_eq_drop_append_take_mod).symm

theorem length_ringInOrder (slots : List α) (cursor : Nat) :
    (ringInOrder slots cursor).length = slots.length := by
  rw [ringInOrder_eq_rotate, List.length_rotate]

/-- The place of the slot that is read as the `i`-th one, the cursor being at the oldest. -/
def ringPlace (n cursor : Nat) (i : Fin n) : Fin n := ⟨(cursor % n + i) % n, Nat.mod_lt _ i.pos⟩

theorem bijective_ringPlace (n cursor : Nat) : Function.Bijective (ringPlace n cursor) := by
  rw [← Finite.injective_iff_bijective]
  intro i i' h
  have hmod : i.val ≡ i'.val [MOD n] := Nat.ModEq.add_left_cancel' _ (Fin.mk.inj h)
  exact Fin.ext (hmod.eq_of_lt_of_lt i.isLt i'.isLt)

theorem ringInOrder_eq_ofFn (slots : List α) (cursor : Nat) :
    ringInOrder slots cursor =
      List.ofFn fun i => slots.get (ringPlace slots.length cursor i) := by
  refine List.ext_getElem ?_ fun i hi hi' => ?_
  · rw [length_ringInOrder, List.length_ofFn]
  · simp [ringInOrder_eq_rotate, List.getElem_rotate, ringPlace, Nat.add_comm]

/-- A usage history in the course of being written. -/
structure UsageRing (α : Type) where
  slots : List α
  /-- How many usages have been stored; the next one goes to this place modulo the number of
  slots. -/
  cursor : UInt64

namespace UsageRing

/-- Stores one usage. -/
def store (ring : UsageRing α) (usage : α) : UsageRing α where
  slots := ring.slots.set (ring.cursor.toNat % ring.slots.length) usage
  cursor := ring.cursor + 1

/-- Stores usages one after the other. -/
def storeAll (ring : UsageRing α) (usages : List α) : UsageRing α := usages.foldl store ring

/-- The slots as they are read. -/
def inOrder (ring : UsageRing α) : List α := ringInOrder ring.slots ring.cursor.toNat

variable {ring : UsageRing α}

@[simp]
theorem length_slots_store (ring : UsageRing α) (usage : α) :
    (ring.store usage).slots.length = ring.slots.length :=
  List.length_set

theorem cursor_store (h : ring.cursor.toNat + 1 < 2 ^ 64) (usage : α) :
    (ring.store usage).cursor.toNat = ring.cursor.toNat + 1 := by
  have hone : (1 : UInt64).toNat = 1 := rfl
  rw [store, UInt64.toNat_add, hone, Nat.mod_eq_of_lt h]

theorem length_inOrder (ring : UsageRing α) : ring.inOrder.length = ring.slots.length :=
  length_ringInOrder _ _

/-- The place under the cursor is that of the oldest slot, and one further it is that of the
newest. -/
theorem inOrder_store (hne : ring.slots ≠ []) (h : ring.cursor.toNat + 1 < 2 ^ 64) (usage : α) :
    (ring.store usage).inOrder = (ring.inOrder ++ [usage]).tail := by
  have hplace : ring.cursor.toNat % ring.slots.length < ring.slots.length :=
    Nat.mod_lt _ (List.length_pos_iff.mpr hne)
  have hbefore : ring.inOrder.tail = ring.slots.drop (ring.cursor.toNat % ring.slots.length + 1) ++
      ring.slots.take (ring.cursor.toNat % ring.slots.length) := by
    rw [inOrder, ringInOrder, List.drop_eq_getElem_cons hplace, List.cons_append, List.tail_cons]
  have hordered : ring.inOrder ≠ [] := by
    rw [← List.length_pos_iff, length_inOrder]
    exact List.length_pos_iff.mpr hne
  -- turning by the cursor is turning by its place, and one more
  have hturn : (ring.store usage).inOrder =
      (ring.store usage).slots.rotate (ring.cursor.toNat % ring.slots.length + 1) := by
    rw [inOrder, cursor_store h, ringInOrder_eq_rotate, ← List.rotate_mod, length_slots_store,
      ← Nat.mod_add_mod, ← length_slots_store ring usage, List.rotate_mod]
  have hlength : ring.cursor.toNat % ring.slots.length + 1 ≤ (ring.store usage).slots.length :=
    (length_slots_store ring usage).symm ▸ hplace
  rw [hturn, List.rotate_eq_drop_append_take hlength, List.tail_append_of_ne_nil hordered, hbefore,
    List.append_assoc, store, List.drop_set_of_lt (Nat.lt_succ_self _), List.take_add_one,
    List.take_set_of_le (Nat.le_refl _), List.getElem?_set_self hplace, Option.toList_some]

theorem inOrder_storeAll (hne : ring.slots ≠ []) {usages : List α}
    (h : ring.cursor.toNat + usages.length < 2 ^ 64) :
    (ring.storeAll usages).cursor.toNat = ring.cursor.toNat + usages.length ∧
      (ring.storeAll usages).inOrder = (ring.inOrder ++ usages).rtake ring.slots.length := by
  have hdrop (usages : List α) : (ring.inOrder ++ usages).rtake ring.slots.length =
      (ring.inOrder ++ usages).drop usages.length := by
    rw [List.rtake, List.length_append, length_inOrder, Nat.add_sub_cancel_left]
  rw [hdrop]
  clear hdrop
  induction usages generalizing ring with
  | nil => exact ⟨rfl, (List.append_nil _).symm⟩
  | cons usage usages ih =>
    rw [List.length_cons] at h
    have hstep : ring.cursor.toNat + 1 < 2 ^ 64 := by omega
    have hcursor := cursor_store hstep usage
    have hnext : (ring.store usage).slots ≠ [] := by
      rwa [← List.length_pos_iff, length_slots_store, List.length_pos_iff]
    obtain ⟨hlast, horder⟩ := ih hnext (by omega)
    refine ⟨?_, ?_⟩
    · rw [List.length_cons, ← Nat.add_assoc, Nat.add_right_comm, ← hcursor]
      exact hlast
    · have hne' : ring.inOrder ++ [usage] ≠ [] := List.append_ne_nil_of_right_ne_nil _ (by simp)
      calc (ring.storeAll (usage :: usages)).inOrder
          = ((ring.store usage).inOrder ++ usages).drop usages.length := horder
        _ = ((ring.inOrder ++ [usage]).tail ++ usages).drop usages.length := by
            rw [inOrder_store hne hstep]
        _ = (ring.inOrder ++ usage :: usages).tail.drop usages.length := by
            rw [← List.tail_append_of_ne_nil hne', List.append_assoc, List.singleton_append]
        _ = (ring.inOrder ++ usage :: usages).drop (usages.length + 1) := List.drop_tail

end UsageRing

/-- **The usage history is shown from the oldest usage to the newest.** The ring is read turned left
to the cursor, each slot once and none beyond the ring, an empty ring as nothing. After usages have
been stored one by one the ring is read as the last of what was read before and of those usages, as
many as there are slots; and the statistics of a node show it so, in percent. -/
theorem history_is_oldest_first (slots : List α) (cursor : UInt64) :
    ringInOrder slots cursor.toNat = slots.rotate (cursor.toNat % slots.length) ∧
    (ringInOrder slots cursor.toNat =
        List.ofFn fun i => slots.get (ringPlace slots.length cursor.toNat i)) ∧
    Function.Bijective (ringPlace slots.length cursor.toNat) ∧
    ringInOrder ([] : List α) cursor.toNat = [] ∧
    (∀ usages, slots ≠ [] → cursor.toNat + usages.length < 2 ^ 64 →
      ringInOrder ((UsageRing.mk slots cursor).storeAll usages).slots
          (cursor.toNat + usages.length) =
        (ringInOrder slots cursor.toNat ++ usages).rtake slots.length) ∧
    ∀ (raw : NodeCounters) (controller : ControllerCounters) (constants : Constants) usages,
      raw.usages ≠ [] → raw.usageIndex.toNat + usages.length < 2 ^ 64 →
      let ring := (UsageRing.mk raw.usages raw.usageIndex).storeAll usages
      (NodeStats.derive { raw with usages := ring.slots, usageIndex := ring.cursor } controller
          constants).usages =
        ((NodeStats.derive raw controller constants).usages ++
          usages.map (Binary64.percent · (.ofCounter constants.wholeWeight))).rtake
            raw.usages.length := by
  refine ⟨?_, ringInOrder_eq_ofFn slots cursor.toNat, bijective_ringPlace _ _, ?_,
    fun usages hne h => ?_, fun raw controller constants usages hne h => ?_⟩
  · rw [ringInOrder_eq_rotate, List.rotate_mod]
  · rw [ringInOrder_eq_rotate, List.rotate_nil]
  · have hslots : (UsageRing.mk slots cursor).slots ≠ [] := hne
    obtain ⟨hcursor, horder⟩ := UsageRing.inOrder_storeAll hslots h
    rwa [UsageRing.inOrder, hcursor] at horder
  · have hslots : (UsageRing.mk raw.usages raw.usageIndex).slots ≠ [] := hne
    obtain ⟨-, horder⟩ := UsageRing.inOrder_storeAll hslots h
    simp only [UsageRing.inOrder] at horder
    simp only [NodeStats.derive, horder, List.rtake, List.map_drop, List.map_append,
      List.length_append, List.length_map]

/-- Three slots, and cursors next to the last one. -/
theorem history_is_oldest_first_lastCursors :
    let slots := ["c", "a", "b"]
    let cursor : UInt64 := 18446744073709551610
    (slots ≠ [] ∧ cursor.toNat + ["d", "e"].length < 2 ^ 64) ∧
    ringInOrder slots cursor.toNat = ["a", "b", "c"] ∧
    ringInOrder ((UsageRing.mk slots cursor).storeAll ["d", "e"]).slots
      18446744073709551612 = ["c", "d", "e"] := by
  intro slots cursor
  have hne : slots ≠ [] := by decide
  have hbound : cursor.toNat + ["d", "e"].length < 2 ^ 64 := by decide
  obtain ⟨hrotate, -, -, -, hstored, -⟩ := history_is_oldest_first slots cursor
  have hbefore : ringInOrder slots cursor.toNat = ["a", "b", "c"] := hrotate.trans (by decide)
  refine ⟨⟨hne, hbound⟩, hbefore, ?_⟩
  have hafter := hstored ["d", "e"] hne hbound
  rw [hbefore] at hafter
  exact hafter

end Iocost
