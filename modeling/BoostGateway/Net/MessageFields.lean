import BoostGateway.Base.WireField
import Mathlib.Data.Nat.Bitwise

/-!
# The fields of messages

The helpers of `message_serializer.h`, which write and read the fields of a message : words
with the low byte first, a boolean in one byte, and strings and lists behind their length,
which is cut to sixteen bits.

Each pair of a writer and a reader is a field. A string comes back when it is shorter than
65536 bytes, and a list when it has fewer than 65536 items that come back. All but the boolean
are exact.
-/

namespace BoostGateway.Net

open ByteView

/-! ## Writers -/

/-- The writers, low byte first. -/
def writeU16 (value : UInt16) : Bytes :=
  [(value &&& 0xFF).toUInt8, ((value >>> 8) &&& 0xFF).toUInt8]

def writeU32 (value : UInt32) : Bytes :=
  [(value &&& 0xFF).toUInt8, ((value >>> 8) &&& 0xFF).toUInt8,
    ((value >>> 16) &&& 0xFF).toUInt8, ((value >>> 24) &&& 0xFF).toUInt8]

def writeU64 (value : UInt64) : Bytes :=
  writeU32 (value &&& 0xFFFFFFFF).toUInt32 ++ writeU32 ((value >>> 32) &&& 0xFFFFFFFF).toUInt32

def writeBool (value : Bool) : Bytes := [if value then 0x01 else 0x00]

/-- The length is cut to sixteen bits, the string is not. -/
def writeStr (value : Bytes) : Bytes := writeU16 (UInt16.ofNat value.length) ++ value

/-- The loop over a vector behind its `write_u16`. -/
def writeVec {α : Type} (write : α → Bytes) (values : List α) : Bytes :=
  writeU16 (UInt16.ofNat values.length) ++ values.flatMap write

/-! ## Readers -/

/-- `read_exact`. -/
def readExact (n : ℕ) : ByteView (Option Bytes) := do
  if (← size) < n then return none
  let dst ← copy n
  drop n
  return some dst

/-- The readers. -/
def readU16 : ByteView (Option UInt16) := do
  let some buf ← readExact 2 | return none
  return some ((buf.getD 0 0).toUInt16 ||| ((buf.getD 1 0).toUInt16 <<< 8))

def readU32 : ByteView (Option UInt32) := do
  let some buf ← readExact 4 | return none
  return some ((buf.getD 0 0).toUInt32 ||| ((buf.getD 1 0).toUInt32 <<< 8) |||
    ((buf.getD 2 0).toUInt32 <<< 16) ||| ((buf.getD 3 0).toUInt32 <<< 24))

def readU64 : ByteView (Option UInt64) := do
  let some lo ← readU32 | return none
  let some hi ← readU32 | return none
  return some ((hi.toUInt64 <<< 32) ||| lo.toUInt64)

def readBool : ByteView (Option Bool) := do
  if (← size) = 0 then return none
  let result := (← copy 1) ≠ [0x00]
  drop 1
  return some result

/-- `read_str`. -/
def readStr : ByteView (Option Bytes) := do
  let some len ← readU16 | return none
  if (← size) < len.toNat then return none
  let result ← copy len.toNat
  drop len.toNat
  return some result

/-- The loop of `read_vec`. -/
def readItems {α : Type} (reader : ByteView (Option α)) : ℕ → ByteView (Option (List α))
  | 0 => return some []
  | n + 1 => do
    let some item ← reader | return none
    let some result ← readItems reader n | return none
    return some (item :: result)

/-- `read_vec`. -/
def readVec {α : Type} (reader : ByteView (Option α)) : ByteView (Option (List α)) := do
  let some count ← readU16 | return none
  readItems reader count.toNat

/-! ## Words and their bytes -/

theorem toNat_or_shiftLeft_u16 (b₀ b₁ : UInt8) :
    (b₀.toUInt16 ||| (b₁.toUInt16 <<< 8)).toNat = 256 * b₁.toNat + b₀.toNat := by
  have h₀ : b₀.toNat < 2 ^ 8 := b₀.toNat_lt
  have h₁ : b₁.toNat < 2 ^ 8 := b₁.toNat_lt
  have hs : (b₁.toUInt16 <<< 8).toNat = b₁.toNat <<< 8 := by
    rw [UInt16.toNat_shiftLeft, UInt8.toNat_toUInt16]
    change b₁.toNat <<< 8 % 2 ^ 16 = _
    rw [Nat.mod_eq_of_lt]
    rw [Nat.shiftLeft_eq]
    omega
  rw [UInt16.toNat_or, UInt8.toNat_toUInt16, hs, or_shiftLeft h₀]
  omega

theorem toNat_or_shiftLeft_u32 (b₀ b₁ b₂ b₃ : UInt8) :
    (b₀.toUInt32 ||| (b₁.toUInt32 <<< 8) ||| (b₂.toUInt32 <<< 16) |||
      (b₃.toUInt32 <<< 24)).toNat =
      16777216 * b₃.toNat + (65536 * b₂.toNat + (256 * b₁.toNat + b₀.toNat)) := by
  have h₀ : b₀.toNat < 2 ^ 8 := b₀.toNat_lt
  have h₁ : b₁.toNat < 2 ^ 8 := b₁.toNat_lt
  have h₂ : b₂.toNat < 2 ^ 8 := b₂.toNat_lt
  have h₃ : b₃.toNat < 2 ^ 8 := b₃.toNat_lt
  simp only [UInt32.toNat_or]
  rw [toNat_shiftLeft_of_lt (by rwa [UInt8.toNat_toUInt32]) (by decide),
    toNat_shiftLeft_of_lt (by rwa [UInt8.toNat_toUInt32]) (by decide),
    toNat_shiftLeft_of_lt (by rwa [UInt8.toNat_toUInt32]) (by decide)]
  simp only [UInt8.toNat_toUInt32]
  change b₀.toNat ||| b₁.toNat <<< 8 ||| b₂.toNat <<< 16 ||| b₃.toNat <<< 24 = _
  rw [or_shiftLeft h₀, or_shiftLeft (i := 16) (by omega), or_shiftLeft (i := 24) (by omega)]
  omega

theorem toNat_or_shiftLeft_u64 (lo hi : UInt32) :
    ((hi.toUInt64 <<< 32) ||| lo.toUInt64).toNat = 4294967296 * hi.toNat + lo.toNat := by
  have hlo : lo.toNat < 2 ^ 32 := lo.toNat_lt
  have hhi : hi.toNat < 2 ^ 32 := hi.toNat_lt
  have hs : (hi.toUInt64 <<< 32).toNat = hi.toNat <<< 32 := by
    rw [UInt64.toNat_shiftLeft, UInt32.toNat_toUInt64]
    change hi.toNat <<< 32 % 2 ^ 64 = _
    rw [Nat.mod_eq_of_lt]
    rw [Nat.shiftLeft_eq]
    omega
  rw [UInt64.toNat_or, UInt32.toNat_toUInt64, hs, Nat.or_comm, or_shiftLeft hlo]
  omega

/-- The low byte of a word. -/
theorem toNat_and_0xFF_u16 (value : UInt16) :
    (value &&& 0xFF).toUInt8.toNat = value.toNat % 256 := by
  have h : value.toNat &&& 255 = value.toNat % 256 := Nat.and_two_pow_sub_one_eq_mod _ 8
  rw [UInt16.toNat_toUInt8, UInt16.toNat_and]
  change (value.toNat &&& 255) % 2 ^ 8 = _
  omega

theorem toNat_and_0xFF_u32 (value : UInt32) :
    (value &&& 0xFF).toUInt8.toNat = value.toNat % 256 := by
  have h : value.toNat &&& 255 = value.toNat % 256 := Nat.and_two_pow_sub_one_eq_mod _ 8
  rw [UInt32.toNat_toUInt8, UInt32.toNat_and]
  change (value.toNat &&& 255) % 2 ^ 8 = _
  omega

theorem toNat_and_0xFFFFFFFF (value : UInt64) :
    (value &&& 0xFFFFFFFF).toUInt32.toNat = value.toNat % 4294967296 := by
  have h : value.toNat &&& 4294967295 = value.toNat % 4294967296 :=
    Nat.and_two_pow_sub_one_eq_mod _ 32
  rw [UInt64.toNat_toUInt32, UInt64.toNat_and]
  change (value.toNat &&& 4294967295) % 2 ^ 32 = _
  omega

theorem toNat_shiftRight_8_u16 (value : UInt16) : (value >>> 8).toNat = value.toNat / 256 := by
  rw [UInt16.toNat_shiftRight]
  exact Nat.shiftRight_eq_div_pow _ 8

theorem toNat_shiftRight_u32 (value : UInt32) {k : UInt32} (hk : k.toNat < 32) :
    (value >>> k).toNat = value.toNat / 2 ^ k.toNat := by
  rw [UInt32.toNat_shiftRight, Nat.mod_eq_of_lt hk, Nat.shiftRight_eq_div_pow]

theorem toNat_shiftRight_32_u64 (value : UInt64) :
    (value >>> 32).toNat = value.toNat / 4294967296 := by
  rw [UInt64.toNat_shiftRight]
  exact Nat.shiftRight_eq_div_pow _ 32

/-! ## The fields -/

variable {data : Bytes}

theorem gives_readExact_of_le {n : ℕ} (h : n ≤ data.length) :
    (readExact n).Gives data (some (data.take n)) (data.drop n) := by
  refine Gives.bind (gives_size_iff.mpr ⟨rfl, rfl⟩) ?_
  rw [if_neg (by omega)]
  exact (gives_copy h).bind ((gives_drop h).bind (gives_pure_iff.mpr ⟨rfl, rfl⟩))

theorem gives_readExact_of_lt {n : ℕ} (h : data.length < n) :
    (readExact n).Gives data none data := by
  refine Gives.bind (gives_size_iff.mpr ⟨rfl, rfl⟩) ?_
  rw [if_pos h]
  exact gives_pure_iff.mpr ⟨rfl, rfl⟩

theorem total_readExact (n : ℕ) : (readExact n).Total := by
  intro data
  rcases Nat.lt_or_ge data.length n with h | h
  · exact ⟨_, _, gives_readExact_of_lt h⟩
  · exact ⟨_, _, gives_readExact_of_le h⟩

theorem gives_readExact_iff {xs rest : Bytes} {n : ℕ} :
    (readExact n).Gives data (some xs) rest ↔ data = xs ++ rest ∧ xs.length = n := by
  constructor
  · intro h
    rcases Nat.lt_or_ge data.length n with hn | hn
    · cases ((gives_readExact_of_lt hn).unique h).1
    · obtain ⟨hxs, rfl⟩ := (gives_readExact_of_le hn).unique h
      cases hxs
      exact ⟨(List.take_append_drop n data).symm, List.length_take_of_le hn⟩
  · rintro ⟨rfl, rfl⟩
    have hle : xs.length ≤ (xs ++ rest).length := by simp
    have := gives_readExact_of_le hle
    rwa [List.take_left, List.drop_left] at this

/-- A word of `n` bytes. -/
def wordField {α : Type} (n : ℕ) (write : α → Bytes) (word : Bytes → α)
    (hlen : ∀ a, (write a).length = n) (hword : ∀ a, word (write a) = a) : WireField α where
  write := write
  read := (readExact n).andThen fun buf => return some (word buf)
  Fits _ := True
  total := (total_readExact n).andThen fun _ => total_pure _
  gives_write := by
    intro a _ rest
    refine (gives_readExact_iff.mpr ⟨rfl, hlen a⟩).andThen (gives_pure_iff.mpr ⟨?_, rfl⟩)
    rw [hword]
  fits_of_gives _ := trivial

theorem exact_wordField {α : Type} {n : ℕ} {write : α → Bytes} {word : Bytes → α}
    {hlen : ∀ a, (write a).length = n} {hword : ∀ a, word (write a) = a}
    (h : ∀ buf : Bytes, buf.length = n → write (word buf) = buf) :
    (wordField n write word hlen hword).Exact := by
  intro data a rest hg
  obtain ⟨buf, mid, hbuf, hp⟩ := gives_andThen_iff.mp hg
  obtain ⟨hdata, hn⟩ := gives_readExact_iff.mp hbuf
  obtain ⟨heq, rfl⟩ := gives_pure_iff.mp hp
  cases heq
  change data = write (word buf) ++ rest
  rw [h buf hn, hdata]

/-- The fields. -/
def u16Field : WireField UInt16 :=
  wordField 2 writeU16
    (fun buf => (buf.getD 0 0).toUInt16 ||| ((buf.getD 1 0).toUInt16 <<< 8)) (fun _ => rfl) <| by
    intro value
    apply UInt16.toNat_inj.mp
    change ((value &&& 0xFF).toUInt8.toUInt16 |||
      (((value >>> 8) &&& 0xFF).toUInt8.toUInt16 <<< 8)).toNat = _
    rw [toNat_or_shiftLeft_u16, toNat_and_0xFF_u16, toNat_and_0xFF_u16, toNat_shiftRight_8_u16]
    have := value.toNat_lt
    omega

theorem readU16_eq : readU16 = u16Field.read := bind_eq_andThen rfl fun _ => rfl

theorem exact_u16Field : u16Field.Exact := by
  refine exact_wordField fun buf hbuf => ?_
  obtain ⟨b₀, b₁, rfl⟩ := List.length_eq_two.mp hbuf
  change writeU16 (b₀.toUInt16 ||| (b₁.toUInt16 <<< 8)) = [b₀, b₁]
  have h := toNat_or_shiftLeft_u16 b₀ b₁
  have h₀ := b₀.toNat_lt
  have h₁ := b₁.toNat_lt
  rw [writeU16]
  congr 1
  · apply UInt8.toNat_inj.mp
    rw [toNat_and_0xFF_u16]
    omega
  · congr 1
    apply UInt8.toNat_inj.mp
    rw [toNat_and_0xFF_u16, toNat_shiftRight_8_u16]
    omega

def u32Field : WireField UInt32 :=
  wordField 4 writeU32
    (fun buf => (buf.getD 0 0).toUInt32 ||| ((buf.getD 1 0).toUInt32 <<< 8) |||
      ((buf.getD 2 0).toUInt32 <<< 16) ||| ((buf.getD 3 0).toUInt32 <<< 24)) (fun _ => rfl) <| by
    intro value
    apply UInt32.toNat_inj.mp
    change ((value &&& 0xFF).toUInt8.toUInt32 |||
      (((value >>> 8) &&& 0xFF).toUInt8.toUInt32 <<< 8) |||
      (((value >>> 16) &&& 0xFF).toUInt8.toUInt32 <<< 16) |||
      (((value >>> 24) &&& 0xFF).toUInt8.toUInt32 <<< 24)).toNat = _
    rw [toNat_or_shiftLeft_u32, toNat_and_0xFF_u32, toNat_and_0xFF_u32, toNat_and_0xFF_u32,
      toNat_and_0xFF_u32, toNat_shiftRight_u32 _ (by decide), toNat_shiftRight_u32 _ (by decide),
      toNat_shiftRight_u32 _ (by decide)]
    have := value.toNat_lt
    change 16777216 * (value.toNat / 2 ^ 24 % 256) + (65536 * (value.toNat / 2 ^ 16 % 256) +
      (256 * (value.toNat / 2 ^ 8 % 256) + value.toNat % 256)) = value.toNat
    omega

theorem readU32_eq : readU32 = u32Field.read := bind_eq_andThen rfl fun _ => rfl

theorem exact_u32Field : u32Field.Exact := by
  refine exact_wordField fun buf hbuf => ?_
  obtain ⟨b₀, b₁, b₂, b₃, rfl⟩ : ∃ b₀ b₁ b₂ b₃, buf = [b₀, b₁, b₂, b₃] := by
    match buf, hbuf with
    | [b₀, b₁, b₂, b₃], _ => exact ⟨b₀, b₁, b₂, b₃, rfl⟩
  change writeU32 (b₀.toUInt32 ||| (b₁.toUInt32 <<< 8) ||| (b₂.toUInt32 <<< 16) |||
    (b₃.toUInt32 <<< 24)) = [b₀, b₁, b₂, b₃]
  have h := toNat_or_shiftLeft_u32 b₀ b₁ b₂ b₃
  have h₀ := b₀.toNat_lt
  have h₁ := b₁.toNat_lt
  have h₂ := b₂.toNat_lt
  have h₃ := b₃.toNat_lt
  generalize b₀.toUInt32 ||| (b₁.toUInt32 <<< 8) ||| (b₂.toUInt32 <<< 16) |||
    (b₃.toUInt32 <<< 24) = value at h ⊢
  have e₀ : (value &&& 0xFF).toUInt8 = b₀ := by
    apply UInt8.toNat_inj.mp
    rw [toNat_and_0xFF_u32]
    omega
  have e₁ : ((value >>> 8) &&& 0xFF).toUInt8 = b₁ := by
    apply UInt8.toNat_inj.mp
    rw [toNat_and_0xFF_u32, toNat_shiftRight_u32 _ (by decide)]
    change value.toNat / 2 ^ 8 % 256 = _
    omega
  have e₂ : ((value >>> 16) &&& 0xFF).toUInt8 = b₂ := by
    apply UInt8.toNat_inj.mp
    rw [toNat_and_0xFF_u32, toNat_shiftRight_u32 _ (by decide)]
    change value.toNat / 2 ^ 16 % 256 = _
    omega
  have e₃ : ((value >>> 24) &&& 0xFF).toUInt8 = b₃ := by
    apply UInt8.toNat_inj.mp
    rw [toNat_and_0xFF_u32, toNat_shiftRight_u32 _ (by decide)]
    change value.toNat / 2 ^ 24 % 256 = _
    omega
  rw [writeU32, e₀, e₁, e₂, e₃]

def u64Field : WireField UInt64 where
  write := writeU64
  read := u32Field.read.andThen fun lo => u32Field.read.andThen fun hi =>
    return some ((hi.toUInt64 <<< 32) ||| lo.toUInt64)
  Fits _ := True
  total := u32Field.total.andThen fun _ => u32Field.total.andThen fun _ => total_pure _
  gives_write := by
    intro value _ rest
    rw [writeU64, List.append_assoc]
    refine (u32Field.gives_write trivial _).andThen
      ((u32Field.gives_write trivial rest).andThen (gives_pure_iff.mpr ⟨?_, rfl⟩))
    congr 1
    apply UInt64.toNat_inj.mp
    rw [toNat_or_shiftLeft_u64, toNat_and_0xFFFFFFFF, toNat_and_0xFFFFFFFF,
      toNat_shiftRight_32_u64]
    have := value.toNat_lt
    omega
  fits_of_gives _ := trivial

theorem readU64_eq : readU64 = u64Field.read := by
  rw [readU64, readU32_eq]
  exact bind_eq_andThen rfl fun _ => bind_eq_andThen rfl fun _ => rfl

theorem exact_u64Field : u64Field.Exact := by
  intro data a rest h
  obtain ⟨lo, mid, hlo, h⟩ := gives_andThen_iff.mp h
  obtain ⟨hi, mid', hhi, h⟩ := gives_andThen_iff.mp h
  obtain ⟨heq, rfl⟩ := gives_pure_iff.mp h
  rw [exact_u32Field hlo, exact_u32Field hhi, ← List.append_assoc]
  congr 1
  change writeU32 lo ++ writeU32 hi = writeU64 a
  have hw := toNat_or_shiftLeft_u64 lo hi
  have hlt := lo.toNat_lt
  rw [← Option.some.inj heq] at hw
  have e₀ : (a &&& 0xFFFFFFFF).toUInt32 = lo := by
    apply UInt32.toNat_inj.mp
    rw [toNat_and_0xFFFFFFFF]
    omega
  have e₁ : ((a >>> 32) &&& 0xFFFFFFFF).toUInt32 = hi := by
    apply UInt32.toNat_inj.mp
    rw [toNat_and_0xFFFFFFFF, toNat_shiftRight_32_u64]
    have := hi.toNat_lt
    omega
  rw [writeU64, e₀, e₁]

theorem gives_readBool_nil : readBool.Gives [] none [] :=
  Gives.bind (gives_size_iff.mpr ⟨rfl, rfl⟩) (gives_pure_iff.mpr ⟨rfl, rfl⟩)

theorem gives_readBool_cons (b : UInt8) (rest : Bytes) :
    readBool.Gives (b :: rest) (some (decide (b ≠ 0))) rest := by
  refine Gives.bind (gives_size_iff.mpr ⟨rfl, rfl⟩) ?_
  rw [if_neg (by simp)]
  refine (gives_copy (by simp)).bind ((gives_drop (by simp)).bind (gives_pure_iff.mpr ⟨?_, rfl⟩))
  simp

theorem gives_readBool_iff {rest : Bytes} {value : Bool} :
    readBool.Gives data (some value) rest ↔ ∃ b, data = b :: rest ∧ value = decide (b ≠ 0) := by
  constructor
  · intro h
    cases data with
    | nil => cases (gives_readBool_nil.unique h).1
    | cons b tail =>
      obtain ⟨hvalue, rfl⟩ := (gives_readBool_cons b tail).unique h
      exact ⟨b, rfl, (Option.some.inj hvalue).symm⟩
  · rintro ⟨b, rfl, rfl⟩
    exact gives_readBool_cons b rest

def boolField : WireField Bool where
  write := writeBool
  read := readBool
  Fits _ := True
  total
    | [] => ⟨_, _, gives_readBool_nil⟩
    | b :: rest => ⟨_, _, gives_readBool_cons b rest⟩
  gives_write := by
    intro value _ rest
    refine gives_readBool_iff.mpr ⟨_, rfl, ?_⟩
    cases value <;> rfl
  fits_of_gives _ := trivial

theorem readBool_eq : readBool = boolField.read := rfl

theorem writeBool_decide {b : UInt8} (hb : b ≤ 1) : writeBool (decide (b ≠ 0)) = [b] := by
  have h : b.toNat ≤ 1 := hb
  rcases Nat.le_one_iff_eq_zero_or_eq_one.mp h with h | h
  · obtain rfl : b = 0 := UInt8.toNat_inj.mp h
    rfl
  · obtain rfl : b = 1 := UInt8.toNat_inj.mp h
    rfl

/-- A boolean at the front of a record is read from any byte : what is accepted begins with
the bytes of the value, unless the byte is neither 0 nor 1 and the rest of the record follows. -/
theorem accept_flag_iff {α ρ : Type} {g : WireField α} (hg : g.Exact) (e : ρ ≃ Bool × α)
    {write : ρ → Bytes} {read : ByteView (Option ρ)}
    (hwrite : ∀ m, write m = (boolField.and g).write (e m))
    (hread : read = do return (← (boolField.and g).read).map e.symm) (data : Bytes) :
    let f := (boolField.and g).via e write read hwrite hread
    (∀ m, f.accept data = .ok (some m) → f.write m <+: data) ↔
      ∀ b rest, data = b :: rest → 1 < b → ∀ m, f.Fits m → ¬(f.write m).tail <+: rest := by
  intro f
  change (∀ m, f.accept data = .ok (some m) → write m <+: data) ↔ ∀ b rest, data = b :: rest →
    1 < b → ∀ m, True ∧ g.Fits (e m).2 → ¬(write m).tail <+: rest
  have htail : ∀ m, (write m).tail = g.write (e m).2 := fun m => by
    rw [hwrite]
    rfl
  simp only [f, WireField.accept_via_iff e hwrite hread, true_and]
  constructor
  · rintro h b rest rfl hb m hm ⟨tail, htl⟩
    have hgives :
        (boolField.and g).read.Gives (b :: rest) (some (decide (b ≠ 0), (e m).2)) tail := by
      refine WireField.gives_and_iff.mpr ⟨rest, gives_readBool_cons b rest, ?_⟩
      rw [← htl, htail]
      exact g.gives_write hm tail
    have hpre := h (e.symm (decide (b ≠ 0), (e m).2)) <| by
      rw [e.apply_symm_apply]
      exact WireField.accept_of_gives hgives
    have hb0 : b ≠ 0 := by
      rintro rfl
      exact absurd hb (by decide)
    rw [hwrite, e.apply_symm_apply] at hpre
    change writeBool (decide (b ≠ 0)) ++ _ <+: b :: rest at hpre
    rw [decide_eq_true hb0] at hpre
    have hone : (1 : UInt8) = b := (List.cons_prefix_cons.mp hpre).1
    exact absurd hb (by rw [← hone]; decide)
  · intro h m hacc
    obtain ⟨tail, hgives⟩ := WireField.gives_of_accept hacc
    obtain ⟨rest, hflag, hrest⟩ := WireField.gives_and_iff.mp
      (show (boolField.and g).read.Gives data (some ((e m).1, (e m).2)) tail from hgives)
    obtain ⟨b, rfl, hvalue⟩ := gives_readBool_iff.mp hflag
    have hpre : g.write (e m).2 <+: rest := ⟨tail, (hg hrest).symm⟩
    by_cases hb : b ≤ 1
    · rw [hwrite]
      change writeBool (e m).1 ++ g.write (e m).2 <+: b :: rest
      rw [hvalue, writeBool_decide hb]
      exact List.cons_prefix_cons.mpr ⟨rfl, hpre⟩
    · rw [← htail] at hpre
      exact absurd hpre (h b rest rfl (UInt8.not_le.mp hb) m (g.fits_of_gives hrest))

def strField : WireField Bytes where
  write := writeStr
  read := u16Field.read.andThen fun len => readExact len.toNat
  Fits value := value.length < 65536
  total := u16Field.total.andThen fun len => total_readExact len.toNat
  gives_write := by
    intro value hlen rest
    rw [writeStr, List.append_assoc]
    refine (u16Field.gives_write trivial _).andThen (gives_readExact_iff.mpr ⟨rfl, ?_⟩)
    exact (Nat.mod_eq_of_lt hlen).symm
  fits_of_gives := by
    intro data value rest h
    obtain ⟨len, mid, -, h⟩ := gives_andThen_iff.mp h
    rw [(gives_readExact_iff.mp h).2]
    exact len.toNat_lt

theorem readStr_eq : readStr = strField.read := by
  rw [readStr, readU16_eq]
  exact bind_eq_andThen rfl fun _ => rfl

theorem ofNat_toNat_u16 {n : ℕ} {len : UInt16} (h : n = len.toNat) : UInt16.ofNat n = len := by
  rw [h]
  exact UInt16.ofNat_toNat

theorem exact_strField : strField.Exact := by
  intro data value rest h
  obtain ⟨len, mid, hlen, h⟩ := gives_andThen_iff.mp h
  obtain ⟨rfl, hn⟩ := gives_readExact_iff.mp h
  rw [exact_u16Field hlen]
  change writeU16 len ++ _ = writeStr value ++ rest
  rw [writeStr, ofNat_toNat_u16 hn, List.append_assoc]

/-! ### Lists -/

section Lists

variable {α : Type}

theorem readItems_succ (reader : ByteView (Option α)) (n : ℕ) :
    readItems reader (n + 1) =
      reader.andThen fun item => (readItems reader n).andThen fun result =>
        return some (item :: result) :=
  bind_eq_andThen rfl fun _ => bind_eq_andThen rfl fun _ => rfl

theorem total_readItems {reader : ByteView (Option α)} (h : reader.Total) :
    ∀ n, (readItems reader n).Total
  | 0 => total_pure _
  | n + 1 => by
    rw [readItems_succ]
    exact h.andThen fun _ => (total_readItems h n).andThen fun _ => total_pure _

theorem gives_readItems (f : WireField α) (rest : Bytes) :
    ∀ {values : List α}, (∀ a ∈ values, f.Fits a) →
      (readItems f.read values.length).Gives (values.flatMap f.write ++ rest) (some values) rest
  | [], _ => gives_pure_iff.mpr ⟨rfl, rfl⟩
  | a :: values, h => by
    have hvalues := gives_readItems f rest fun b hb => h b (List.mem_cons_of_mem _ hb)
    rw [List.length_cons, readItems_succ, List.flatMap_cons, List.append_assoc]
    exact (f.gives_write (h a List.mem_cons_self) _).andThen
      (hvalues.andThen (gives_pure_iff.mpr ⟨rfl, rfl⟩))

/-- The items that were read : as many as were asked for, and each as its field reads it. -/
theorem of_gives_readItems (f : WireField α) {n : ℕ} {data rest : Bytes} {values : List α}
    (h : (readItems f.read n).Gives data (some values) rest) :
    values.length = n ∧ (∀ a ∈ values, f.Fits a) ∧
      (f.Exact → data = values.flatMap f.write ++ rest) := by
  induction n generalizing data values with
  | zero =>
    obtain ⟨heq, rfl⟩ := gives_pure_iff.mp h
    cases heq
    exact ⟨rfl, fun a ha => (List.not_mem_nil ha).elim, fun _ => rfl⟩
  | succ n ih =>
    rw [readItems_succ] at h
    obtain ⟨item, mid, hitem, h⟩ := gives_andThen_iff.mp h
    obtain ⟨result, mid', hresult, h⟩ := gives_andThen_iff.mp h
    obtain ⟨heq, rfl⟩ := gives_pure_iff.mp h
    cases heq
    obtain ⟨hlen, hfits, hexact⟩ := ih hresult
    refine ⟨by rw [List.length_cons, hlen], ?_, fun hf => ?_⟩
    · intro a ha
      rcases List.mem_cons.mp ha with rfl | ha
      · exact f.fits_of_gives hitem
      · exact hfits a ha
    · rw [hf hitem, hexact hf, List.flatMap_cons, List.append_assoc]

def vecField (f : WireField α) : WireField (List α) where
  write := writeVec f.write
  read := u16Field.read.andThen fun count => readItems f.read count.toNat
  Fits values := values.length < 65536 ∧ ∀ a ∈ values, f.Fits a
  total := u16Field.total.andThen fun count => total_readItems f.total count.toNat
  gives_write := by
    rintro values ⟨hlen, hfits⟩ rest
    have hcount : (UInt16.ofNat values.length).toNat = values.length := Nat.mod_eq_of_lt hlen
    rw [writeVec, List.append_assoc]
    refine (u16Field.gives_write trivial _).andThen ?_
    rw [hcount]
    exact gives_readItems f rest hfits
  fits_of_gives := by
    intro data values rest h
    obtain ⟨count, mid, -, h⟩ := gives_andThen_iff.mp h
    obtain ⟨hlen, hfits, -⟩ := of_gives_readItems f h
    refine ⟨?_, hfits⟩
    rw [hlen]
    exact count.toNat_lt

theorem readVec_eq (f : WireField α) : readVec f.read = (vecField f).read := by
  rw [readVec, readU16_eq]
  exact bind_eq_andThen rfl fun _ => rfl

theorem exact_vecField {f : WireField α} (hf : f.Exact) : (vecField f).Exact := by
  intro data values rest h
  obtain ⟨count, mid, hcount, h⟩ := gives_andThen_iff.mp h
  obtain ⟨hlen, -, hexact⟩ := of_gives_readItems f h
  rw [exact_u16Field hcount, hexact hf]
  change writeU16 count ++ _ = writeVec f.write values ++ rest
  rw [writeVec, ofNat_toNat_u16 hlen, List.append_assoc]

end Lists

end BoostGateway.Net
