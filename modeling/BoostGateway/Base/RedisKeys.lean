import BoostGateway.Base.Bytes
import Mathlib.Logic.Function.Basic
import Mathlib.Order.Defs.LinearOrder
import Mathlib.Tactic.SplitIfs

/-!
# Redis counters and lists

The keys of a Redis database with `INCR`, `GET`, `LPUSH` and `LRANGE`. A string value is one
that `INCR` made, so it is a number. A command on a key of the wrong type is an error and
changes nothing. `Keeps` : one key is a counter and every other one a list, whichever key is
pushed on.
-/

namespace BoostGateway

/-- The value of a key. -/
inductive RedisValue
  /-- A string that holds the number. -/
  | number (n : ℕ)
  /-- The element that was pushed last comes first. -/
  | list (xs : List Bytes)
  deriving DecidableEq

/-- The keys of a server. -/
abbrev RedisKeys := Bytes → Option RedisValue

namespace RedisKeys

/-- The number after the increment, which must be a signed 64-bit number; `none` is an error. -/
def incr (keys : RedisKeys) (key : Bytes) : Option (RedisKeys × ℕ) :=
  match keys key with
  | none => some (Function.update keys key (some (.number 1)), 1)
  | some (.number n) =>
    if n + 1 < 2 ^ 63 then some (Function.update keys key (some (.number (n + 1))), n + 1)
    else none
  | some (.list _) => none

/-- The decimal text of a number; `none` is nil or an error. -/
def get (keys : RedisKeys) (key : Bytes) : Option (List Char) :=
  match keys key with
  | some (.number n) => some (Nat.toDigits 10 n)
  | _ => none

/-- `none` is an error. -/
def lpush (keys : RedisKeys) (key value : Bytes) : Option RedisKeys :=
  match keys key with
  | none => some (Function.update keys key (some (.list [value])))
  | some (.list xs) => some (Function.update keys key (some (.list (value :: xs))))
  | some (.number _) => none

/-- The elements between two positions. A negative position counts from the end. -/
def range (xs : List Bytes) (start stop : ℤ) : List Bytes :=
  let len : ℤ := xs.length
  let start := max 0 (if start < 0 then len + start else start)
  let stop := if stop < 0 then len + stop else stop
  if stop < start ∨ len ≤ start then []
  else (xs.drop start.toNat).take (stop - start + 1).toNat

/-- `none` is an error. -/
def lrange (keys : RedisKeys) (key : Bytes) (start stop : ℤ) : Option (List Bytes) :=
  match keys key with
  | none => some []
  | some (.list xs) => some (range xs start stop)
  | some (.number _) => none

@[simp] theorem range_nil (start stop : ℤ) : range [] start stop = [] := by
  simp [range]

/-- The elements up to a position. -/
theorem range_zero (xs : List Bytes) (stop : ℤ) :
    range xs 0 stop = xs.take ((if stop < 0 then xs.length + stop else stop) + 1).toNat := by
  have hmax : max 0 (if (0 : ℤ) < 0 then (xs.length : ℤ) + 0 else 0) = 0 := rfl
  simp only [range, hmax, Int.toNat_zero, List.drop_zero, Int.sub_zero]
  generalize (if stop < 0 then (xs.length : ℤ) + stop else stop) = last
  split_ifs with h
  · rcases h with h | h
    · have h0 : (last + 1).toNat = 0 := by omega
      rw [h0, List.take_zero]
    · have hxs : xs = [] := List.eq_nil_of_length_eq_zero (by omega)
      rw [hxs, List.take_nil]
  · rfl

theorem range_all (xs : List Bytes) : range xs 0 (-1) = xs := by
  have hlen : ((xs.length : ℤ) + -1 + 1).toNat = xs.length := by omega
  rw [range_zero, if_pos (by decide), hlen, List.take_length]

/-! ## One counter among lists -/

/-- The counter is at `n`, and every other key has its list; what is empty is no key. -/
structure Keeps (keys : RedisKeys) (counter : Bytes) (n : ℕ) (lists : Bytes → List Bytes) :
    Prop where
  number : keys counter = if n = 0 then none else some (.number n)
  list : ∀ key ≠ counter,
    keys key = if lists key = [] then none else some (.list (lists key))

variable {keys : RedisKeys} {counter : Bytes} {n : ℕ} {lists : Bytes → List Bytes}

theorem Keeps.empty (counter : Bytes) : Keeps (fun _ => none) counter 0 fun _ => [] :=
  ⟨rfl, fun _ _ => rfl⟩

theorem Keeps.incr (h : keys.Keeps counter n lists) (hn : n + 1 < 2 ^ 63) :
    ∃ keys', keys.incr counter = some (keys', n + 1) ∧ Keeps keys' counter (n + 1) lists := by
  refine ⟨Function.update keys counter (some (.number (n + 1))), ?_, ?_, fun key hkey => ?_⟩
  · rw [RedisKeys.incr, h.number]
    by_cases h0 : n = 0
    · simp [h0]
    · simp only [h0, if_false, if_pos hn]
  · simp
  · rw [Function.update_of_ne hkey, h.list key hkey]

/-- A push on the counter is an error. -/
theorem Keeps.lpush (h : keys.Keeps counter n lists) (hn : n ≠ 0) (key value : Bytes) :
    Keeps ((keys.lpush key value).getD keys) counter n
      fun k => if k = key then value :: lists k else lists k := by
  by_cases hkey : key = counter
  · have herror : keys.lpush key value = none := by
      rw [RedisKeys.lpush, hkey, h.number, if_neg hn]
    rw [herror]
    refine ⟨h.number, fun k hk => ?_⟩
    have hkk : k ≠ key := hkey ▸ hk
    simp only [if_neg hkk]
    exact h.list k hk
  · have hpush : keys.lpush key value =
        some (Function.update keys key (some (.list (value :: lists key)))) := by
      rw [RedisKeys.lpush, h.list key hkey]
      by_cases hl : lists key = [] <;> simp [hl]
    rw [hpush, Option.getD_some]
    refine ⟨?_, fun k hk => ?_⟩
    · rw [Function.update_of_ne (Ne.symm hkey), h.number]
    · by_cases hkk : k = key
      · subst hkk
        simp
      · rw [Function.update_of_ne hkk, if_neg hkk]
        exact h.list k hk

theorem Keeps.lrange (h : keys.Keeps counter n lists) (key : Bytes) (start stop : ℤ) :
    (keys.lrange key start stop).getD [] =
      if key = counter then [] else range (lists key) start stop := by
  by_cases hkey : key = counter
  · rw [RedisKeys.lrange, hkey, h.number, if_pos rfl]
    by_cases h0 : n = 0 <;> simp [h0]
  · rw [RedisKeys.lrange, h.list key hkey, if_neg hkey]
    by_cases hl : lists key = []
    · simp [hl]
    · simp [hl]

theorem Keeps.get (h : keys.Keeps counter n lists) :
    keys.get counter = if n = 0 then none else some (Nat.toDigits 10 n) := by
  rw [RedisKeys.get, h.number]
  by_cases h0 : n = 0 <;> simp [h0]

end RedisKeys

end BoostGateway
