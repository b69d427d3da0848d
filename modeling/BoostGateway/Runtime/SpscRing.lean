import Mathlib.Order.Nat
import BoostGateway.Base.Run
import BoostGateway.Runtime.SpscQueue

/-!
# The ring under interleaving

`SpscQueue` (`mailbox.h`) of any capacity, with one producer that calls `try_enqueue` and one
consumer that calls `try_dequeue` or `drain`. Each load of an index, each access to the buffer
and each store of an index is a step of its own, and the steps of the two sides interleave in
any order. The indices are 64 bit words that run on freely, and a slot is an index under the
mask, which the constructor takes from the next power of two.

The two sides work with copies of each other's index that may be old by the time they act. What
holds of them : the copy was true at some moment of the call, and since then the other side has
only made room, or only added items. `ring_fifo` : the items come out in the order in which they
went in, no slot is stored to while it holds an item or read while it holds none, and a refused
call has seen as many items queued as the capacity.
-/

namespace BoostGateway.Runtime

variable {α : Type}

/-! ## The capacity -/

/-- `next_power_of_two`. -/
def nextPowerOfTwo (n : UInt64) : UInt64 :=
  if n ≤ 1 then 1
  else
    let n := n - 1
    let n := n ||| n >>> 1
    let n := n ||| n >>> 2
    let n := n ||| n >>> 4
    let n := n ||| n >>> 8
    let n := n ||| n >>> 16
    let n := n ||| n >>> 32
    n + 1

/-- A bit of `x` is set exactly when one of the `s` bits of `m` from it on is. -/
def Spread (m s x : ℕ) : Prop :=
  ∀ i, x.testBit i = true ↔ ∃ j, i ≤ j ∧ j < i + s ∧ m.testBit j = true

theorem spread_self (m : ℕ) : Spread m 1 m := by
  intro i
  constructor
  · exact fun h => ⟨i, Nat.le_refl i, Nat.lt_succ_self i, h⟩
  · rintro ⟨j, hle, hlt, h⟩
    obtain rfl : i = j := by omega
    exact h

theorem Spread.double {m s x : ℕ} (h : Spread m s x) : Spread m (s + s) (x ||| x >>> s) := by
  intro i
  rw [Nat.testBit_or, Nat.testBit_shiftRight, Bool.or_eq_true, h i, h (s + i)]
  constructor
  · rintro (⟨j, hle, hlt, hj⟩ | ⟨j, hle, hlt, hj⟩)
    · exact ⟨j, hle, by omega, hj⟩
    · exact ⟨j, by omega, by omega, hj⟩
  · rintro ⟨j, hle, hlt, hj⟩
    by_cases hnear : j < i + s
    · exact .inl ⟨j, hle, hnear, hj⟩
    · exact .inr ⟨j, by omega, by omega, hj⟩

/-- With every bit spread far enough, all bits up to the highest one are set. -/
theorem Spread.eq_two_pow {m s x : ℕ} (h : Spread m s x) (hpos : m ≠ 0) (hlt : m < 2 ^ s) :
    x = 2 ^ (m.log2 + 1) - 1 := by
  refine Nat.eq_of_testBit_eq fun i => Bool.eq_iff_iff.mpr ?_
  rw [h i, Nat.testBit_two_pow_sub_one, decide_eq_true_eq]
  constructor
  · rintro ⟨j, hle, -, hj⟩
    have hj' := (Nat.le_log2 hpos).mpr (Nat.ge_two_pow_of_testBit hj)
    omega
  · intro hi
    have hlog := (Nat.log2_lt hpos).mpr hlt
    exact ⟨m.log2, by omega, by omega, Nat.testBit_log2 hpos⟩

/-- The capacity is zero, or a power of two below `2 ^ 64`. -/
def PowerCapacity (capacity : UInt64) : Prop :=
  capacity = 0 ∨ ∃ k < 64, capacity.toNat = 2 ^ k

theorem Spread.word {m s : ℕ} {x : UInt64} (h : Spread m s x.toNat) (hs : s < 64) :
    Spread m (s + s) (x ||| x >>> UInt64.ofNat s).toNat := by
  have hshift : (UInt64.ofNat s).toNat = s :=
    UInt64.toNat_ofNat_of_lt' (Nat.lt_trans hs (by decide))
  rw [UInt64.toNat_or, UInt64.toNat_shiftRight, hshift, Nat.mod_eq_of_lt hs]
  exact h.double

theorem word_le_one_iff {n : UInt64} : n ≤ 1 ↔ n.toNat ≤ 1 := UInt64.le_iff_toNat_le

theorem toNat_nextPowerOfTwo {n : UInt64} (h : 1 < n.toNat) :
    (nextPowerOfTwo n).toNat = 2 ^ ((n.toNat - 1).log2 + 1) % 2 ^ 64 := by
  have hone : ¬n ≤ 1 := fun hle => Nat.not_lt.mpr (word_le_one_iff.mp hle) h
  have hle : (1 : UInt64) ≤ n := UInt64.le_iff_toNat_le.mpr (Nat.le_of_lt h)
  have hsub : (n - 1).toNat = n.toNat - 1 := UInt64.toNat_sub_of_le _ _ hle
  have h2 := (spread_self (n - 1).toNat).word (by decide)
  have h16 := ((h2.word (by decide)).word (by decide)).word (by decide)
  have h64 := (h16.word (by decide)).word (by decide)
  have hsmeared := h64.eq_two_pow (by omega) (n - 1).toNat_lt
  rw [hsub] at hsmeared
  rw [nextPowerOfTwo, if_neg hone]
  refine (UInt64.toNat_add _ _).trans (congrArg (· % 2 ^ 64) ?_)
  exact (congrArg (· + 1) hsmeared).trans (Nat.sub_add_cancel (Nat.two_pow_pos _))

theorem powerCapacity_nextPowerOfTwo (n : UInt64) : PowerCapacity (nextPowerOfTwo n) := by
  by_cases h : 1 < n.toNat
  · have heq := toNat_nextPowerOfTwo h
    have hlog : (n.toNat - 1).log2 < 64 :=
      (Nat.log2_lt (by omega)).mpr (Nat.lt_of_le_of_lt (Nat.sub_le _ _) n.toNat_lt)
    by_cases hbound : (n.toNat - 1).log2 + 1 < 64
    · rw [Nat.mod_eq_of_lt (Nat.pow_lt_pow_right (by decide) hbound)] at heq
      exact .inr ⟨_, hbound, heq⟩
    · obtain htop : (n.toNat - 1).log2 + 1 = 64 := by omega
      rw [htop] at heq
      exact .inl (UInt64.toNat_inj.mp heq)
  · rw [nextPowerOfTwo, if_pos (word_le_one_iff.mpr (Nat.not_lt.mp h))]
    exact .inr ⟨0, by decide, rfl⟩

/-! ## The ring -/

/-- A slot that was never written, or whose item was moved out, is `none`. -/
structure SpscRing (α : Type) where
  capacity : UInt64
  buffer : UInt64 → Option α := fun _ => none
  writeIdx : UInt64 := 0
  readIdx : UInt64 := 0

namespace SpscRing

variable (q : SpscRing α)

/-- `mask_`. -/
def mask : UInt64 := q.capacity - 1

/-- The place of an index. -/
def slot (i : UInt64) : UInt64 := i &&& q.mask

/-- A new ring. -/
def ofCapacity (n : UInt64) : SpscRing α := { capacity := nextPowerOfTwo n }

/-- An item is stored. -/
def put (write : UInt64) (item : α) : SpscRing α :=
  { q with buffer := Function.update q.buffer (q.slot write) (some item) }

/-- An item is moved out. -/
def moveOut (read : UInt64) : SpscRing α :=
  { q with buffer := Function.update q.buffer (q.slot read) none }

end SpscRing

/-! ## The two sides -/

/-- Where the producer is in `try_enqueue`. -/
inductive ProducerAt (α : Type) where
  | idle
  | loadWrite (item : α)
  | loadRead (item : α) (write : UInt64)
  | check (item : α) (write read : UInt64)
  | publish (item : α) (write : UInt64)

/-- Where the consumer is in `try_dequeue`. -/
inductive ConsumerAt (α : Type) where
  | idle
  | loadRead
  | loadWrite (read : UInt64)
  | check (read write : UInt64)
  | release (read : UInt64) (item : Option α)

/-- The ring with its two threads. -/
structure SpscSystem (α : Type) where
  ring : SpscRing α
  producer : ProducerAt α := .idle
  consumer : ConsumerAt α := .idle
  /-- The call is one of `drain`. -/
  draining : Bool := false
  enqueued : List α := []
  dequeued : List (Option α) := []
  /-- As many items as the capacity were queued at some moment of the call of `try_enqueue`. -/
  sawFull : Bool := false
  /-- What the calls saw that were refused. -/
  refused : List Bool := []

/-- A call of one side, or its next step. -/
inductive SpscAction (α : Type) where
  | enqueue (item : α)
  | producer
  | dequeue
  | drain
  | consumer

namespace SpscSystem

variable (s : SpscSystem α)

/-- One access of the producer. -/
def produce : Option (SpscSystem α) :=
  match s.producer with
  | .idle => none
  | .loadWrite item => some { s with producer := .loadRead item s.ring.writeIdx }
  | .loadRead item write => some { s with producer := .check item write s.ring.readIdx }
  | .check item write read =>
    if write - read ≥ s.ring.capacity then
      some { s with producer := .idle, refused := s.refused ++ [s.sawFull] }
    else some { s with ring := s.ring.put write item, producer := .publish item write }
  | .publish item write =>
    some { s with
      ring := { s.ring with writeIdx := write + 1 }
      producer := .idle
      enqueued := s.enqueued ++ [item] }

/-- One access of the consumer. -/
def consume : Option (SpscSystem α) :=
  match s.consumer with
  | .idle => none
  | .loadRead => some { s with consumer := .loadWrite s.ring.readIdx }
  | .loadWrite read => some { s with consumer := .check read s.ring.writeIdx }
  | .check read write =>
    if read ≥ write then some { s with consumer := .idle }
    else some { s with
      ring := s.ring.moveOut read
      consumer := .release read (s.ring.buffer (s.ring.slot read)) }
  | .release read item =>
    some { s with
      ring := { s.ring with readIdx := read + 1 }
      consumer := if s.draining then .loadRead else .idle
      dequeued := s.dequeued ++ [item] }

/-- A call begins, or goes on. -/
def act : SpscAction α → Option (SpscSystem α)
  | .enqueue item =>
    match s.producer with
    | .idle => some { s with producer := .loadWrite item, sawFull := false }
    | _ => none
  | .producer => s.produce
  | .dequeue =>
    match s.consumer with
    | .idle => some { s with consumer := .loadRead, draining := false }
    | _ => none
  | .drain =>
    match s.consumer with
    | .idle => some { s with consumer := .loadRead, draining := true }
    | _ => none
  | .consumer => s.consume

/-- As many items as the capacity are queued. -/
def isFull : Bool :=
  s.enqueued.length == s.dequeued.length + s.ring.capacity.toNat

def watch : SpscSystem α := { s with sawFull := s.sawFull || s.isFull }

/-- One action. -/
def step (action : SpscAction α) : Option (SpscSystem α) :=
  (s.act action).map watch

/-- The runs of a queue with the capacity asked for. -/
abbrev Reaches (n : UInt64) : SpscSystem α → Prop :=
  BoostGateway.Reaches (fun s => s = { ring := .ofCapacity n }) step fun _ _ => True

end SpscSystem

/-! ## Indices and slots -/

namespace PowerCapacity

variable {capacity : UInt64}

theorem toNat_lt (h : PowerCapacity capacity) : capacity.toNat ≤ 2 ^ 63 := by
  obtain rfl | ⟨k, hk, heq⟩ := h
  · decide
  · rw [heq]
    exact Nat.pow_le_pow_right (by decide) (Nat.le_of_lt_succ hk)

theorem toNat_slot (h : PowerCapacity capacity) (hpos : 0 < capacity.toNat) (i : ℕ) :
    (UInt64.ofNat i &&& (capacity - 1)).toNat = i % capacity.toNat := by
  obtain rfl | ⟨k, hk, heq⟩ := h
  · cases hpos
  · have hle : (1 : UInt64) ≤ capacity := UInt64.le_iff_toNat_le.mpr hpos
    have hmask : (capacity - 1).toNat = 2 ^ k - 1 := by
      rw [UInt64.toNat_sub_of_le _ _ hle, heq]
      rfl
    rw [UInt64.toNat_and, hmask, Nat.and_two_pow_sub_one_eq_mod, UInt64.toNat_ofNat', heq]
    exact Nat.mod_mod_of_dvd i (Nat.pow_dvd_pow 2 (Nat.le_of_lt hk))

end PowerCapacity

/-- Two numbers less than a capacity apart have the same remainder only if they are equal. -/
theorem eq_of_mod_eq {a b capacity : ℕ} (hmod : a % capacity = b % capacity)
    (hab : a < b + capacity) (hba : b < a + capacity) : a = b := by
  rcases Nat.le_total a b with hle | hle
  · have hdvd := Nat.dvd_of_mod_eq_zero (Nat.sub_mod_eq_zero_of_mod_eq hmod.symm)
    have hzero := Nat.eq_zero_of_dvd_of_lt hdvd (by omega)
    omega
  · have hdvd := Nat.dvd_of_mod_eq_zero (Nat.sub_mod_eq_zero_of_mod_eq hmod)
    have hzero := Nat.eq_zero_of_dvd_of_lt hdvd (by omega)
    omega

/-- The distance of two indices, the smaller of which is at most `2 ^ 63` behind. -/
theorem toNat_sub_ofNat {a b : ℕ} (hle : b ≤ a) (hlt : a - b < 2 ^ 64) :
    (UInt64.ofNat a - UInt64.ofNat b).toNat = a - b := by
  rw [← UInt64.ofNat_sub hle, UInt64.toNat_ofNat_of_lt' hlt]

/-! ## What the buffer holds -/

namespace SpscRing

/-- The items that were put and not moved out are in the buffer, and the other slots are
empty. -/
structure Holds (q : SpscRing α) (written : List α) (taken : ℕ) : Prop where
  power : PowerCapacity q.capacity
  items : ∀ i, taken ≤ i → i < written.length →
    q.buffer (q.slot (UInt64.ofNat i)) = written[i]?
  free : ∀ i, written.length ≤ i → i < taken + q.capacity.toNat →
    q.buffer (q.slot (UInt64.ofNat i)) = none

variable {q : SpscRing α} {written : List α} {taken : ℕ}

theorem slot_ne (h : PowerCapacity q.capacity) {i j : ℕ} (hne : i ≠ j)
    (hij : i < j + q.capacity.toNat) (hji : j < i + q.capacity.toNat) :
    q.slot (UInt64.ofNat i) ≠ q.slot (UInt64.ofNat j) := by
  intro heq
  have hpos : 0 < q.capacity.toNat := by omega
  have hmod := congrArg UInt64.toNat heq
  rw [slot, slot, mask, h.toNat_slot hpos, h.toNat_slot hpos] at hmod
  exact hne (eq_of_mod_eq hmod hij hji)

theorem slot_add_capacity (h : PowerCapacity q.capacity) (hpos : 0 < q.capacity.toNat) (i : ℕ) :
    q.slot (UInt64.ofNat (i + q.capacity.toNat)) = q.slot (UInt64.ofNat i) := by
  refine UInt64.toNat_inj.mp ?_
  rw [slot, slot, mask, h.toNat_slot hpos, h.toNat_slot hpos, Nat.add_mod_right]

theorem slot_lt (h : PowerCapacity q.capacity) (hpos : 0 < q.capacity.toNat) (i : ℕ) :
    q.slot (UInt64.ofNat i) < q.capacity := by
  rw [UInt64.lt_iff_toNat_lt, slot, mask, h.toNat_slot hpos]
  exact Nat.mod_lt _ hpos

theorem Holds.put (h : q.Holds written taken) (item : α) (hle : taken ≤ written.length)
    (hroom : written.length < taken + q.capacity.toNat) :
    (q.put (UInt64.ofNat written.length) item).Holds (written ++ [item]) taken where
  power := h.power
  items i hi hlt := by
    rw [List.length_append, List.length_singleton] at hlt
    change Function.update q.buffer _ _ (q.slot (UInt64.ofNat i)) = _
    rcases Nat.lt_succ_iff_lt_or_eq.mp hlt with hlt | rfl
    · rw [Function.update_of_ne (slot_ne h.power (Nat.ne_of_lt hlt) (by omega) (by omega)),
        List.getElem?_append_left hlt]
      exact h.items i hi hlt
    · rw [Function.update_self, List.getElem?_concat_length]
  free i hi hlt := by
    rw [List.length_append, List.length_singleton] at hi
    change i < taken + q.capacity.toNat at hlt
    change Function.update q.buffer _ _ (q.slot (UInt64.ofNat i)) = _
    rw [Function.update_of_ne (slot_ne h.power (by omega) (by omega) (by omega))]
    exact h.free i (Nat.le_of_succ_le hi) hlt

theorem Holds.moveOut (h : q.Holds written taken) (hlt : taken < written.length)
    (hroom : written.length ≤ taken + q.capacity.toNat) :
    (q.moveOut (UInt64.ofNat taken)).Holds written (taken + 1) where
  power := h.power
  items i hi hi' := by
    change Function.update q.buffer _ _ (q.slot (UInt64.ofNat i)) = _
    rw [Function.update_of_ne (slot_ne h.power (by omega) (by omega) (by omega))]
    exact h.items i (Nat.le_of_succ_le hi) hi'
  free i hi hi' := by
    change i < taken + 1 + q.capacity.toNat at hi'
    change Function.update q.buffer _ _ (q.slot (UInt64.ofNat i)) = _
    by_cases hlast : i = taken + q.capacity.toNat
    · rw [hlast, slot_add_capacity h.power (by omega), Function.update_self]
    · rw [Function.update_of_ne (slot_ne h.power (by omega) (by omega) (by omega))]
      exact h.free i hi (by omega)

theorem Holds.setWriteIdx (h : q.Holds written taken) (i : UInt64) :
    SpscRing.Holds { q with writeIdx := i } written taken :=
  ⟨h.power, h.items, h.free⟩

theorem Holds.setReadIdx (h : q.Holds written taken) (i : UInt64) :
    SpscRing.Holds { q with readIdx := i } written taken :=
  ⟨h.power, h.items, h.free⟩

end SpscRing

/-! ## The invariant -/

namespace SpscSystem

/-- The item that was put and is not published yet. -/
def pending : ProducerAt α → List α
  | .publish item _ => [item]
  | _ => []

/-- The number of items that were moved out and whose slot is not given free yet. -/
def inHand : ConsumerAt α → ℕ
  | .release _ _ => 1
  | _ => 0

/-- What the producer knows. Its copy of the other index was true during the call. -/
def ProducerKnows (s : SpscSystem α) : ProducerAt α → Prop
  | .idle => True
  | .loadWrite _ => True
  | .loadRead _ write => write = s.ring.writeIdx
  | .check _ write read => write = s.ring.writeIdx ∧
      ∃ r ≤ s.dequeued.length, read = UInt64.ofNat r ∧
        s.enqueued.length ≤ r + s.ring.capacity.toNat ∧
        (s.enqueued.length = r + s.ring.capacity.toNat → s.sawFull = true)
  | .publish _ write => write = s.ring.writeIdx ∧
      s.enqueued.length < s.dequeued.length + s.ring.capacity.toNat

/-- What the consumer knows. -/
def ConsumerKnows (s : SpscSystem α) : ConsumerAt α → Prop
  | .idle => True
  | .loadRead => True
  | .loadWrite read => read = s.ring.readIdx
  | .check read write => read = s.ring.readIdx ∧
      ∃ w ≤ s.enqueued.length, write = UInt64.ofNat w ∧ s.dequeued.length ≤ w
  | .release read item => read = s.ring.readIdx ∧
      s.dequeued.length < s.enqueued.length ∧ item = s.enqueued[s.dequeued.length]?

/-- What holds of the ring and the threads. -/
structure Inv (s : SpscSystem α) : Prop where
  writeIdx : s.ring.writeIdx = UInt64.ofNat s.enqueued.length
  readIdx : s.ring.readIdx = UInt64.ofNat s.dequeued.length
  le : s.dequeued.length ≤ s.enqueued.length
  room : s.enqueued.length ≤ s.dequeued.length + s.ring.capacity.toNat
  dequeued : s.dequeued = (s.enqueued.take s.dequeued.length).map some
  holds : s.ring.Holds (s.enqueued ++ pending s.producer)
    (s.dequeued.length + inHand s.consumer)
  producer : s.ProducerKnows s.producer
  consumer : s.ConsumerKnows s.consumer
  refused : ∀ saw ∈ s.refused, saw = true

variable {s s' : SpscSystem α}

/-- The consumer only makes room. -/
theorem producerKnows_mono (hwrite : s'.ring.writeIdx = s.ring.writeIdx)
    (hcapacity : s'.ring.capacity = s.ring.capacity) (henqueued : s'.enqueued = s.enqueued)
    (hdequeued : s.dequeued.length ≤ s'.dequeued.length)
    (hsaw : s.sawFull = true → s'.sawFull = true) {p : ProducerAt α} (h : s.ProducerKnows p) :
    s'.ProducerKnows p := by
  cases p with
  | idle => trivial
  | loadWrite item => trivial
  | loadRead item write => exact h.trans hwrite.symm
  | check item write read =>
    obtain ⟨hw, r, hr, hread, hroom, hfull⟩ := h
    refine ⟨hw.trans hwrite.symm, r, hr.trans hdequeued, hread, ?_, fun heq => hsaw (hfull ?_)⟩
    · rwa [henqueued, hcapacity]
    · rwa [henqueued, hcapacity] at heq
  | publish item write =>
    refine ⟨h.1.trans hwrite.symm, ?_⟩
    rw [henqueued, hcapacity]
    exact h.2.trans_le (Nat.add_le_add_right hdequeued _)

/-- The producer only adds items. -/
theorem consumerKnows_mono (hread : s'.ring.readIdx = s.ring.readIdx)
    (hdequeued : s'.dequeued = s.dequeued) (more : List α)
    (henqueued : s'.enqueued = s.enqueued ++ more) {c : ConsumerAt α} (h : s.ConsumerKnows c) :
    s'.ConsumerKnows c := by
  have hlength : s.enqueued.length ≤ s'.enqueued.length := by
    rw [henqueued, List.length_append]
    exact Nat.le_add_right _ _
  cases c with
  | idle => trivial
  | loadRead => trivial
  | loadWrite read => exact h.trans hread.symm
  | check read write =>
    obtain ⟨hr, w, hw, hwrite, hle⟩ := h
    exact ⟨hr.trans hread.symm, w, hw.trans hlength, hwrite, by rwa [hdequeued]⟩
  | release read item =>
    obtain ⟨hr, hlt, hitem⟩ := h
    refine ⟨hr.trans hread.symm, by rw [hdequeued]; exact hlt.trans_le hlength, ?_⟩
    rw [hdequeued, henqueued, List.getElem?_append_left hlt, hitem]

theorem Inv.taken_le (h : s.Inv) :
    s.dequeued.length + inHand s.consumer ≤ s.enqueued.length := by
  have hknows := h.consumer
  have hle := h.le
  cases hc : s.consumer with
  | release read item =>
    rw [hc] at hknows
    exact hknows.2.1
  | idle => exact hle
  | loadRead => exact hle
  | loadWrite read => exact hle
  | check read write => exact hle

theorem Inv.written_le (h : s.Inv) :
    (s.enqueued ++ pending s.producer).length ≤ s.dequeued.length + s.ring.capacity.toNat := by
  have hknows := h.producer
  have hroom := h.room
  rw [List.length_append]
  cases hp : s.producer with
  | publish item write =>
    rw [hp] at hknows
    exact hknows.2
  | idle => exact hroom
  | loadWrite item => exact hroom
  | loadRead item write => exact hroom
  | check item write read => exact hroom

theorem Inv.watch (h : s.Inv) : s.watch.Inv where
  __ := h
  producer := by
    have hsaw (hs : s.sawFull = true) : s.watch.sawFull = true := by
      simp [SpscSystem.watch, hs]
    exact @producerKnows_mono _ s s.watch rfl rfl rfl (Nat.le_refl _) hsaw _ h.producer
  consumer := @consumerKnows_mono _ s s.watch rfl rfl [] (List.append_nil _).symm _ h.consumer

/-- The producer finds the ring full exactly when a copy of the read index that was true during
the call shows it. -/
theorem full_iff {capacity : UInt64} (h : PowerCapacity capacity) {w r : ℕ} (hle : r ≤ w)
    (hroom : w ≤ r + capacity.toNat) :
    UInt64.ofNat w - UInt64.ofNat r ≥ capacity ↔ w = r + capacity.toNat := by
  have hbound := h.toNat_lt
  rw [ge_iff_le, UInt64.le_iff_toNat_le, toNat_sub_ofNat hle (by omega)]
  omega

/-- The step of the producer between the load of the read index and the access to the
buffer. -/
theorem Inv.check_producer (h : s.Inv) {item : α} {write read : UInt64}
    (hp : s.producer = .check item write read) :
    (write - read ≥ s.ring.capacity → s.sawFull = true) ∧
    (¬write - read ≥ s.ring.capacity →
      write = UInt64.ofNat s.enqueued.length ∧
      s.enqueued.length < s.dequeued.length + s.ring.capacity.toNat) := by
  have hknows := h.producer
  rw [hp] at hknows
  obtain ⟨hwrite, r, hr, rfl, hroom, hsaw⟩ := hknows
  rw [hwrite, h.writeIdx, full_iff h.holds.power (hr.trans h.le) hroom]
  exact ⟨hsaw, fun hne => ⟨rfl, by omega⟩⟩

/-- The step of the consumer between the load of the write index and the access to the
buffer. -/
theorem Inv.check_consumer (h : s.Inv) {read write : UInt64} (hc : s.consumer = .check read write)
    (hne : ¬read ≥ write) :
    read = UInt64.ofNat s.dequeued.length ∧ s.dequeued.length < s.enqueued.length ∧
      s.ring.buffer (s.ring.slot read) = s.enqueued[s.dequeued.length]? := by
  have hknows := h.consumer
  rw [hc] at hknows
  obtain ⟨hread, w, hw, rfl, hle⟩ := hknows
  rw [h.readIdx] at hread
  have hlt : s.dequeued.length < s.enqueued.length := by
    refine (Nat.lt_of_le_of_ne hle ?_).trans_le hw
    rintro rfl
    exact hne (hread ▸ UInt64.le_refl _)
  refine ⟨hread, hlt, ?_⟩
  rw [hread, h.holds.items _ (by rw [hc]; exact Nat.le_refl _) (by
    rw [List.length_append]; exact Nat.lt_add_right _ hlt), List.getElem?_append_left hlt]

theorem Inv.refuse (h : s.Inv) {item : α} {write read : UInt64}
    (hp : s.producer = .check item write read) (hsaw : s.sawFull = true) :
    Inv { s with producer := .idle, refused := s.refused ++ [s.sawFull] } := by
  have hholds := h.holds
  rw [hp] at hholds
  refine ⟨h.writeIdx, h.readIdx, h.le, h.room, h.dequeued, hholds, trivial, h.consumer,
    fun saw hmem => ?_⟩
  rcases List.mem_append.mp hmem with hmem | hmem
  · exact h.refused saw hmem
  · rw [List.mem_singleton.mp hmem]
    exact hsaw

theorem Inv.put (h : s.Inv) {item : α} {write read : UInt64}
    (hp : s.producer = .check item write read) (hwrite : write = UInt64.ofNat s.enqueued.length)
    (hlt : s.enqueued.length < s.dequeued.length + s.ring.capacity.toNat) :
    Inv { s with ring := s.ring.put write item, producer := .publish item write } := by
  have hholds := h.holds
  rw [hp] at hholds
  simp only [pending, List.append_nil] at hholds
  have hput := hholds.put item h.taken_le (hlt.trans_le (by omega))
  rw [← hwrite] at hput
  exact ⟨h.writeIdx, h.readIdx, h.le, h.room, h.dequeued, hput,
    ⟨hwrite.trans h.writeIdx.symm, hlt⟩, h.consumer, h.refused⟩

theorem Inv.publish (h : s.Inv) {item : α} {write : UInt64}
    (hp : s.producer = .publish item write) :
    Inv { s with
      ring := { s.ring with writeIdx := write + 1 }
      producer := .idle
      enqueued := s.enqueued ++ [item] } := by
  have hholds := h.holds
  have hknows := h.producer
  rw [hp] at hholds hknows
  obtain ⟨hwrite, hlt⟩ := hknows
  have hlength : (s.enqueued ++ [item]).length = s.enqueued.length + 1 := by simp
  refine ⟨?_, h.readIdx, ?_, ?_, ?_, ?_, trivial, ?_, h.refused⟩
  · change write + 1 = UInt64.ofNat (s.enqueued ++ [item]).length
    rw [hwrite, h.writeIdx, hlength, UInt64.ofNat_add]
    rfl
  · change s.dequeued.length ≤ (s.enqueued ++ [item]).length
    rw [hlength]
    exact Nat.le_succ_of_le h.le
  · change (s.enqueued ++ [item]).length ≤ s.dequeued.length + s.ring.capacity.toNat
    rw [hlength]
    exact hlt
  · change s.dequeued = ((s.enqueued ++ [item]).take s.dequeued.length).map some
    rw [List.take_append_of_le_length h.le]
    exact h.dequeued
  · change SpscRing.Holds _ ((s.enqueued ++ [item]) ++ []) _
    rw [List.append_nil]
    exact hholds.setWriteIdx _
  · refine consumerKnows_mono ?_ ?_ [item] ?_ h.consumer
    exacts [rfl, rfl, rfl]

theorem Inv.produce (h : s.Inv) (hs : s.produce = some s') : s'.watch.Inv := by
  unfold SpscSystem.produce at hs
  cases hp : s.producer with
  | idle =>
    rw [hp] at hs
    cases hs
  | loadWrite item =>
    have hholds := h.holds
    rw [hp] at hs hholds
    obtain rfl := Option.some.inj hs
    exact Inv.watch ⟨h.writeIdx, h.readIdx, h.le, h.room, h.dequeued, hholds, rfl, h.consumer,
      h.refused⟩
  | loadRead item write =>
    have hholds := h.holds
    have hknows := h.producer
    rw [hp] at hs hholds hknows
    obtain rfl := Option.some.inj hs
    -- This is the moment of the call that the copy of the read index tells about.
    refine ⟨h.writeIdx, h.readIdx, h.le, h.room, h.dequeued, hholds,
      ⟨hknows, _, Nat.le_refl _, h.readIdx, h.room, fun hfull => ?_⟩, h.consumer, h.refused⟩
    exact Bool.or_eq_true_iff.mpr (.inr (beq_iff_eq.mpr hfull))
  | check item write read =>
    obtain ⟨hfull, hfree⟩ := h.check_producer hp
    rw [hp] at hs
    dsimp only at hs
    split_ifs at hs with hge
    · obtain rfl := Option.some.inj hs
      exact (h.refuse hp (hfull hge)).watch
    · obtain rfl := Option.some.inj hs
      exact (h.put hp (hfree hge).1 (hfree hge).2).watch
  | publish item write =>
    rw [hp] at hs
    obtain rfl := Option.some.inj hs
    exact (h.publish hp).watch

theorem Inv.moveOut (h : s.Inv) {read write : UInt64} (hc : s.consumer = .check read write)
    (hne : ¬read ≥ write) :
    Inv { s with
      ring := s.ring.moveOut read
      consumer := .release read (s.ring.buffer (s.ring.slot read)) } := by
  obtain ⟨hread, hlt, hitem⟩ := h.check_consumer hc hne
  have hholds := h.holds
  rw [hc] at hholds
  have hmoved := hholds.moveOut
    (by rw [List.length_append]; exact Nat.lt_add_right _ hlt) h.written_le
  exact ⟨h.writeIdx, h.readIdx, h.le, h.room, h.dequeued, by rw [hread]; exact hmoved,
    h.producer, ⟨hread.trans h.readIdx.symm, hlt, hitem⟩, h.refused⟩

theorem Inv.release (h : s.Inv) {read : UInt64} {item : Option α}
    (hc : s.consumer = .release read item) :
    Inv { s with
      ring := { s.ring with readIdx := read + 1 }
      consumer := if s.draining then .loadRead else .idle
      dequeued := s.dequeued ++ [item] } := by
  have hholds := h.holds
  have hknows := h.consumer
  rw [hc] at hholds hknows
  obtain ⟨hread, hlt, hitem⟩ := hknows
  have hlength : (s.dequeued ++ [item]).length = s.dequeued.length + 1 := by simp
  refine ⟨h.writeIdx, ?_, ?_, ?_, ?_, ?_, ?_, ?_, h.refused⟩
  · change read + 1 = UInt64.ofNat (s.dequeued ++ [item]).length
    rw [hread, h.readIdx, hlength, UInt64.ofNat_add]
    rfl
  · change (s.dequeued ++ [item]).length ≤ s.enqueued.length
    rw [hlength]
    exact hlt
  · change s.enqueued.length ≤ (s.dequeued ++ [item]).length + s.ring.capacity.toNat
    rw [hlength]
    exact h.room.trans (Nat.add_le_add_right (Nat.le_succ _) _)
  · change s.dequeued ++ [item] = (s.enqueued.take (s.dequeued ++ [item]).length).map some
    rw [hlength, List.take_succ_eq_append_getElem hlt, List.map_append, ← h.dequeued, hitem,
      List.getElem?_eq_getElem hlt]
    rfl
  · have hnone : inHand (if s.draining then .loadRead else .idle : ConsumerAt α) = 0 := by
      split_ifs <;> rfl
    change SpscRing.Holds _ _ ((s.dequeued ++ [item]).length + _)
    rw [hnone, hlength]
    exact hholds.setReadIdx _
  · refine producerKnows_mono ?_ ?_ ?_ ?_ ?_ h.producer
    exacts [rfl, rfl, rfl, hlength ▸ Nat.le_succ _, id]
  · change SpscSystem.ConsumerKnows _ (if s.draining then .loadRead else .idle)
    split_ifs <;> trivial

theorem Inv.consume (h : s.Inv) (hs : s.consume = some s') : s'.Inv := by
  have hknows := h.consumer
  have hholds := h.holds
  unfold SpscSystem.consume at hs
  cases hc : s.consumer with
  | idle =>
    rw [hc] at hs
    cases hs
  | loadRead =>
    rw [hc] at hs hholds
    obtain rfl := Option.some.inj hs
    exact ⟨h.writeIdx, h.readIdx, h.le, h.room, h.dequeued, hholds, h.producer, rfl, h.refused⟩
  | loadWrite read =>
    rw [hc] at hs hholds hknows
    obtain rfl := Option.some.inj hs
    exact ⟨h.writeIdx, h.readIdx, h.le, h.room, h.dequeued, hholds, h.producer,
      ⟨hknows, _, Nat.le_refl _, h.writeIdx, h.le⟩, h.refused⟩
  | check read write =>
    have hmoved := h.moveOut hc
    rw [hc] at hs hholds
    dsimp only at hs
    split_ifs at hs with hge
    · obtain rfl := Option.some.inj hs
      exact ⟨h.writeIdx, h.readIdx, h.le, h.room, h.dequeued, hholds, h.producer, trivial,
        h.refused⟩
    · obtain rfl := Option.some.inj hs
      exact hmoved hge
  | release read item =>
    rw [hc] at hs
    obtain rfl := Option.some.inj hs
    exact h.release hc

theorem Inv.call (h : s.Inv) {draining : Bool} (hc : s.consumer = .idle)
    (hs : some { s with consumer := .loadRead, draining := draining } = some s') : s'.Inv := by
  obtain rfl := Option.some.inj hs
  have hholds := h.holds
  rw [hc] at hholds
  exact ⟨h.writeIdx, h.readIdx, h.le, h.room, h.dequeued, hholds, h.producer, trivial, h.refused⟩

theorem Inv.step (h : s.Inv) {action : SpscAction α} (hs : s.step action = some s') : s'.Inv := by
  obtain ⟨t, hact, rfl⟩ := Option.map_eq_some_iff.mp hs
  cases action with
  | enqueue item =>
    cases hp : s.producer <;> simp only [act, hp, reduceCtorEq] at hact
    obtain rfl := Option.some.inj hact
    have hholds := h.holds
    rw [hp] at hholds
    exact Inv.watch ⟨h.writeIdx, h.readIdx, h.le, h.room, h.dequeued, hholds, trivial,
      h.consumer, h.refused⟩
  | producer => exact h.produce hact
  | dequeue =>
    cases hc : s.consumer <;> simp only [act, hc, reduceCtorEq] at hact
    exact (h.call hc hact).watch
  | drain =>
    cases hc : s.consumer <;> simp only [act, hc, reduceCtorEq] at hact
    exact (h.call hc hact).watch
  | consumer => exact (h.consume hact).watch

theorem inv_init (n : UInt64) : Inv ({ ring := .ofCapacity n } : SpscSystem α) where
  writeIdx := rfl
  readIdx := rfl
  le := Nat.le_refl _
  room := Nat.zero_le _
  dequeued := rfl
  holds := ⟨powerCapacity_nextPowerOfTwo n, fun _ _ hi => absurd hi (Nat.not_lt_zero _),
    fun _ _ _ => rfl⟩
  producer := trivial
  consumer := trivial
  refused saw hsaw := by cases hsaw

theorem Reaches.inv {n : UInt64} (h : Reaches n s) : s.Inv := by
  refine h.invariant ?_ fun s action s' hinv _ hs => hinv.step hs
  rintro s rfl
  exact inv_init n

end SpscSystem

/-- In every interleaving, at any capacity : what was dequeued is the beginning of what was
enqueued. The slot that the producer is about to store to lies in the buffer and holds no item,
and the slot that the consumer is about to read holds one. A refused call has seen as many items
queued as the capacity. -/
theorem ring_fifo {n : UInt64} {s : SpscSystem α} (h : SpscSystem.Reaches n s) :
    s.dequeued <+: s.enqueued.map some ∧
    (∀ item write read, s.producer = .check item write read →
      ¬write - read ≥ s.ring.capacity →
      s.ring.slot write < s.ring.capacity ∧ s.ring.buffer (s.ring.slot write) = none) ∧
    (∀ read write, s.consumer = .check read write → ¬read ≥ write →
      s.ring.slot read < s.ring.capacity ∧
        ∃ item, s.ring.buffer (s.ring.slot read) = some item) ∧
    ∀ saw ∈ s.refused, saw = true := by
  have hinv := h.inv
  refine ⟨?_, fun item write read hp hge => ?_, fun read write hc hge => ?_, hinv.refused⟩
  · rw [hinv.dequeued]
    exact (List.take_prefix _ _).map some
  · obtain ⟨rfl, hlt⟩ := (hinv.check_producer hp).2 hge
    have hle := hinv.le
    have hfree := hinv.holds.free s.enqueued.length
    rw [hp] at hfree
    simp only [SpscSystem.pending, List.append_nil] at hfree
    exact ⟨SpscRing.slot_lt hinv.holds.power (by omega) _,
      hfree (Nat.le_refl _) (hlt.trans_le (by omega))⟩
  · obtain ⟨rfl, hlt, hitem⟩ := hinv.check_consumer hc hge
    have hpos : 0 < s.ring.capacity.toNat :=
      Nat.pos_of_lt_add_right (hlt.trans_le hinv.room)
    exact ⟨SpscRing.slot_lt hinv.holds.power hpos _, _,
      hitem.trans (List.getElem?_eq_getElem hlt)⟩

/-- A ring of one slot refuses the second item and hands out the first. -/
theorem ring_fifo_one : ∃ s : SpscSystem ℕ, SpscSystem.Reaches 1 s ∧
    (s.dequeued = [some 5] ∧ s.refused = [true]) ∧ s.dequeued <+: s.enqueued.map some := by
  have hinit : SpscSystem.Reaches 1 ({ ring := .ofCapacity 1 } : SpscSystem ℕ) := .init rfl
  obtain ⟨s, hs, hp⟩ := hinit.exists_runWith
    [.enqueue 5, .producer, .producer, .producer, .producer, .enqueue 6, .producer, .dequeue,
      .producer, .consumer, .producer, .consumer, .consumer, .consumer]
    (P := fun s => s.dequeued = [some 5] ∧ s.refused = [true]) (by decide)
  exact ⟨s, hs, hp, (ring_fifo hs).1⟩

end BoostGateway.Runtime
