import Mathlib.Algebra.Group.Nat.Defs
import Mathlib.Data.List.Basic

/-!
# Byte strings and UTF-8

A byte string is a list of bytes. `encodeUtf8` and `decodeUtf8` are the UTF-8
encoding of the standard library on lists : each inverts the other
(`decodeUtf8_encodeUtf8`, `encodeUtf8_of_decodeUtf8`), and a text without an ASCII
character is without its byte (`notMem_encodeUtf8`), so that a line feed ends a line of
bytes where it ends one of the text (`lines_append`). The last section has the arithmetic
of a 32-bit word that is put together from bytes by shifts.
-/

namespace BoostGateway

/-- Octets. -/
abbrev Bytes := List UInt8

def encodeUtf8 (cs : List Char) : Bytes := cs.flatMap String.utf8EncodeChar

/-- The text of a byte string; `none` when it is not valid UTF-8. -/
def decodeUtf8 (bs : Bytes) : Option (List Char) := bs.toByteArray.utf8Decode?.map Array.toList

@[simp] theorem decodeUtf8_encodeUtf8 (cs : List Char) : decodeUtf8 (encodeUtf8 cs) = some cs := by
  have h : cs.utf8Encode.utf8Decode? = some cs.toArray := List.utf8Decode?_utf8Encode
  rw [decodeUtf8, encodeUtf8]
  change cs.utf8Encode.utf8Decode?.map Array.toList = some cs
  rw [h]
  rfl

theorem UInt8.ne_ofNat {b : UInt8} {n : ℕ} (h : n < 256) (hne : b.toNat ≠ n) :
    b ≠ UInt8.ofNat n := by
  rintro rfl
  exact hne (UInt8.toNat_ofNat_of_lt' h)

/-- Every byte of a character beyond ASCII has its high bit set. -/
theorem notMem_utf8EncodeChar {c : Char} {b : UInt8} (hb : b.toNat < 128)
    (h : c.toNat ≠ b.toNat) : b ∉ String.utf8EncodeChar c := by
  have hv : c.val.toNat ≠ b.toNat := h
  unfold String.utf8EncodeChar
  simp only
  split_ifs
  all_goals
    simp only [List.mem_cons, List.not_mem_nil, or_false, not_or]
    repeat' apply And.intro
    all_goals exact UInt8.ne_ofNat (by omega) (by omega)

theorem notMem_encodeUtf8 {x : Char} {cs : List Char} (hx : x.toNat < 128) (h : x ∉ cs) :
    UInt8.ofNat x.toNat ∉ encodeUtf8 cs := by
  have hb : (UInt8.ofNat x.toNat).toNat = x.toNat :=
    UInt8.toNat_ofNat_of_lt' (Nat.lt_trans hx (by decide))
  intro hmem
  obtain ⟨c, hc, hmem⟩ := List.mem_flatMap.mp hmem
  refine notMem_utf8EncodeChar (by omega) (fun heq => h ?_) hmem
  rw [hb] at heq
  rwa [← Char.ext (UInt32.toNat_inj.mp heq)]

theorem zero_notMem_encodeUtf8 {cs : List Char} (h : '\x00' ∉ cs) : (0 : UInt8) ∉ encodeUtf8 cs :=
  notMem_encodeUtf8 (by decide) h

theorem encodeUtf8_of_decodeUtf8 {bs : Bytes} {cs : List Char} (h : decodeUtf8 bs = some cs) :
    encodeUtf8 cs = bs := by
  obtain ⟨array, harray, rfl⟩ := Option.map_eq_some_iff.mp h
  obtain ⟨ds, hds⟩ := ByteArray.isSome_utf8Decode?_iff.mp (Option.isSome_of_eq_some harray)
  rw [hds, List.utf8Decode?_utf8Encode] at harray
  rw [← Option.some_inj.mp harray]
  have hbytes : bs = ds.utf8Encode.data.toList := by
    rw [← hds, List.data_toByteArray]
  rw [hbytes, List.utf8Encode, List.data_toByteArray, encodeUtf8]

theorem length_le_length_encodeUtf8 (cs : List Char) : cs.length ≤ (encodeUtf8 cs).length := by
  induction cs with
  | nil => simp
  | cons c cs ih =>
    have hpos : 1 ≤ (String.utf8EncodeChar c).length := by
      unfold String.utf8EncodeChar
      simp only
      split_ifs <;> simp
    rw [encodeUtf8, List.flatMap_cons, List.length_append, List.length_cons]
    rw [encodeUtf8] at ih
    omega

/-! ## Lines -/

/-- The lines that `getline` reads. A line feed ends a line; the last line may lack it. -/
def lines : Bytes → List Bytes
  | [] => []
  | b :: bs =>
    if b = 10 then [] :: lines bs
    else
      match lines bs with
      | [] => [[b]]
      | l :: ls => (b :: l) :: ls

theorem lines_append {l : Bytes} (h : 10 ∉ l) (rest : Bytes) :
    lines (l ++ 10 :: rest) = l :: lines rest := by
  induction l with
  | nil => simp [lines]
  | cons b l ih =>
    have hb : b ≠ 10 := fun hb => h (hb ▸ List.mem_cons_self)
    have hl : 10 ∉ l := fun hl => h (List.mem_cons_of_mem _ hl)
    rw [List.cons_append, lines, if_neg hb, ih hl]

/-! ## Words from bytes -/

theorem or_shiftLeft {a b i : ℕ} (h : a < 2 ^ i) : a ||| b <<< i = 2 ^ i * b + a := by
  rw [Nat.shiftLeft_eq, Nat.mul_comm, Nat.two_pow_add_eq_or_of_lt h, Nat.or_comm]

theorem toNat_byte (x : UInt32) : (x &&& 0xFF).toUInt8.toUInt32.toNat = x.toNat % 2 ^ 8 := by
  have h : x.toNat &&& 255 = x.toNat % 2 ^ 8 := Nat.and_two_pow_sub_one_eq_mod x.toNat 8
  rw [UInt8.toNat_toUInt32, UInt32.toNat_toUInt8, UInt32.toNat_and]
  change (x.toNat &&& 255) % 2 ^ 8 = _
  rw [h, Nat.mod_mod]

theorem toNat_byte_lt (x : UInt32) : (x &&& 0xFF).toUInt8.toUInt32.toNat < 2 ^ 8 := by
  rw [toNat_byte]
  exact Nat.mod_lt _ (by decide)

theorem toNat_shiftLeft_of_lt {x k : UInt32} (hx : x.toNat < 2 ^ 8) (hk : k.toNat ≤ 24) :
    (x <<< k).toNat = x.toNat <<< k.toNat := by
  have hmod : k.toNat % 32 = k.toNat := Nat.mod_eq_of_lt (by omega)
  rw [UInt32.toNat_shiftLeft, hmod, Nat.mod_eq_of_lt]
  rw [Nat.shiftLeft_eq]
  calc x.toNat * 2 ^ k.toNat
      < 2 ^ 8 * 2 ^ k.toNat := Nat.mul_lt_mul_of_pos_right hx (Nat.two_pow_pos _)
    _ ≤ 2 ^ 8 * 2 ^ 24 := Nat.mul_le_mul_left _ (Nat.pow_le_pow_right (by decide) hk)
    _ = 2 ^ 32 := by decide

end BoostGateway
