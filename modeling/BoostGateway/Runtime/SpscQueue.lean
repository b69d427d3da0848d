import Mathlib.Algebra.Group.Nat.Defs
import Mathlib.Data.List.Basic
import Mathlib.Logic.Function.Basic

/-!
# The ring between two cores

`SpscQueue` (`mailbox.h`) is a ring of 1024 slots with two indices that only grow. The steps
of its two sides are separate here, as the other side can run in between : the producer loads
both indices, stores the item and publishes the index after it, and the consumer loads both
indices, moves the item out and gives the slot free.

`Holds` is what the ring has to do with the items published so far (`posted`) and the number
of those that were moved out (`taken`). The indices are machine words that are compared as
numbers, so it asks for the number of items that was published, not for its remainder.
-/

namespace BoostGateway.Runtime

variable {α : Type}

/-- A slot that was never written, or whose item was moved out, is `none`. -/
structure SpscQueue (α : Type) where
  buffer : ℕ → Option α := fun _ => none
  writeIdx : UInt64 := 0
  readIdx : UInt64 := 0

namespace SpscQueue

def capacity : UInt64 := 1024

def mask : UInt64 := capacity - 1

def slot (i : UInt64) : ℕ := (i &&& mask).toNat

/-- What `try_enqueue` finds with the two indices it has loaded. -/
def full (write read : UInt64) : Bool := capacity ≤ write - read

def put (q : SpscQueue α) (write : UInt64) (a : α) : SpscQueue α :=
  { q with buffer := Function.update q.buffer (slot write) (some a) }

def publish (q : SpscQueue α) (write : UInt64) : SpscQueue α :=
  { q with writeIdx := write + 1 }

def moveOut (q : SpscQueue α) (read : UInt64) : SpscQueue α :=
  { q with buffer := Function.update q.buffer (slot read) none }

def release (q : SpscQueue α) (read : UInt64) : SpscQueue α :=
  { q with readIdx := read + 1 }

theorem slot_eq_mod (i : UInt64) : slot i = i.toNat % 1024 := by
  have hmask : mask.toNat = 2 ^ 10 - 1 := rfl
  rw [slot, UInt64.toNat_and, hmask, Nat.and_two_pow_sub_one_eq_mod]

theorem full_iff {write read : UInt64} (hle : read.toNat ≤ write.toNat) :
    full write read ↔ read.toNat + 1024 ≤ write.toNat := by
  have hsub : (write - read).toNat = write.toNat - read.toNat :=
    UInt64.toNat_sub_of_le _ _ (UInt64.le_iff_toNat_le.mpr hle)
  have hcapacity : capacity.toNat = 1024 := rfl
  rw [full, decide_eq_true_iff, UInt64.le_iff_toNat_le, hsub, hcapacity]
  omega

theorem toNat_succ {i : UInt64} (h : i.toNat + 1 < 2 ^ 64) : (i + 1).toNat = i.toNat + 1 := by
  rw [UInt64.toNat_add, UInt64.toNat_one]
  exact Nat.mod_eq_of_lt h

/-- The ring holds the items published, from the first that was not moved out. Between the
two steps of the consumer the slot it has emptied still counts. -/
structure Holds (q : SpscQueue α) (posted : List α) (taken : ℕ) : Prop where
  write : q.writeIdx.toNat = posted.length
  read_le : q.readIdx.toNat ≤ taken
  taken_le : taken ≤ posted.length
  room : posted.length ≤ q.readIdx.toNat + 1024
  items : ∀ i, taken ≤ i → i < posted.length → q.buffer (i % 1024) = posted[i]?

variable {q : SpscQueue α} {posted : List α} {taken : ℕ}

theorem holds_empty : Holds ({} : SpscQueue α) [] 0 where
  write := rfl
  read_le := Nat.le_refl _
  taken_le := Nat.le_refl _
  room := Nat.zero_le _
  items i _ hi := absurd hi (Nat.not_lt_zero i)

theorem Holds.full_iff (h : q.Holds posted taken) :
    full q.writeIdx q.readIdx ↔ posted.length = q.readIdx.toNat + 1024 := by
  have hle := h.read_le
  have htaken := h.taken_le
  have hroom := h.room
  rw [SpscQueue.full_iff (by rw [h.write]; omega), h.write]
  omega

/-- The slot of the next item is one of those that are free. -/
theorem Holds.put (h : q.Holds posted taken) (hroom : posted.length < q.readIdx.toNat + 1024)
    (a : α) : (q.put q.writeIdx a).Holds posted taken where
  __ := h
  items i hi hlt := by
    have hread := h.read_le
    have hne : i % 1024 ≠ posted.length % 1024 := by omega
    dsimp only [SpscQueue.put]
    rw [slot_eq_mod, h.write, Function.update_of_ne hne]
    exact h.items i hi hlt

theorem buffer_put (h : q.Holds posted taken) (a : α) :
    (q.put q.writeIdx a).buffer (posted.length % 1024) = some a := by
  dsimp only [put]
  rw [slot_eq_mod, h.write, Function.update_self]

theorem Holds.publish (h : q.Holds posted taken) {a : α}
    (hroom : posted.length < q.readIdx.toNat + 1024) (hword : posted.length + 1 < 2 ^ 64)
    (hput : q.buffer (posted.length % 1024) = some a) :
    (q.publish q.writeIdx).Holds (posted ++ [a]) taken where
  write := by
    rw [SpscQueue.publish, toNat_succ (h.write ▸ hword), h.write, List.length_append]
    rfl
  read_le := h.read_le
  taken_le := by
    rw [List.length_append]
    exact Nat.le_trans h.taken_le (Nat.le_add_right _ _)
  room := by
    rw [List.length_append]
    exact hroom
  items i hi hlt := by
    rw [List.length_append, List.length_singleton] at hlt
    rcases Nat.lt_succ_iff_lt_or_eq.mp hlt with hlt | rfl
    · rw [List.getElem?_append_left hlt]
      exact h.items i hi hlt
    · rw [List.getElem?_concat_length]
      exact hput

/-- The consumer finds an item when not all were taken. -/
theorem Holds.readIdx_lt_iff (h : q.Holds posted taken) (hread : q.readIdx.toNat = taken) :
    q.readIdx < q.writeIdx ↔ taken < posted.length := by
  rw [UInt64.lt_iff_toNat_lt, h.write, hread]

theorem Holds.item (h : q.Holds posted taken) (hread : q.readIdx.toNat = taken)
    (hlt : taken < posted.length) : q.buffer (slot q.readIdx) = some posted[taken] := by
  rw [slot_eq_mod, hread, h.items taken (Nat.le_refl _) hlt, List.getElem?_eq_getElem hlt]

theorem buffer_moveOut_of_ne {i : ℕ} (hread : q.readIdx.toNat = taken)
    (hne : i % 1024 ≠ taken % 1024) :
    (q.moveOut q.readIdx).buffer (i % 1024) = q.buffer (i % 1024) := by
  dsimp only [moveOut]
  rw [slot_eq_mod, hread, Function.update_of_ne hne]

theorem Holds.moveOut (h : q.Holds posted taken) (hread : q.readIdx.toNat = taken)
    (hlt : taken < posted.length) : (q.moveOut q.readIdx).Holds posted (taken + 1) where
  write := h.write
  read_le := Nat.le_succ_of_le h.read_le
  taken_le := hlt
  room := h.room
  items i hi hi' := by
    have hroom := h.room
    have hne : i % 1024 ≠ taken % 1024 := by omega
    rw [buffer_moveOut_of_ne hread hne]
    exact h.items i (Nat.le_of_succ_le hi) hi'

theorem Holds.release (h : q.Holds posted taken) (hread : q.readIdx.toNat + 1 = taken) :
    (q.release q.readIdx).Holds posted taken ∧ (q.release q.readIdx).readIdx.toNat = taken := by
  have hword := q.writeIdx.toNat_lt
  have htaken := h.taken_le
  have hwrite := h.write
  have hsucc : (q.readIdx + 1).toNat = taken := by
    rw [toNat_succ (by omega), hread]
  refine ⟨⟨h.write, Nat.le_of_eq hsucc, h.taken_le, ?_, h.items⟩, hsucc⟩
  have hroom := h.room
  rw [SpscQueue.release, hsucc]
  omega

end SpscQueue

end BoostGateway.Runtime
