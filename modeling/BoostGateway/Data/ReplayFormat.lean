import BoostGateway.Net.PacketStream

/-!
# The archive format

`replay_format.cpp` : a payload behind four bytes of magic, the version and its length. The two
numbers are copied as the host keeps them (`ByteOrder`). Lengths of strings have 64 bits, so that
the header and a payload length add up without overflow.

`decode_eq_some_iff` : bytes decode to a payload exactly when they start with the encoding of it.
From that the kinds of archive are kept apart and nothing that was cut off decodes
(`archives_decode`).
-/

namespace BoostGateway.Data

open Net (bigEndian16 bigEndian32)
open Net.Packet (word16 word32)

/-- The byte order of the machine. -/
inductive ByteOrder
  | little
  | big
  deriving DecidableEq

namespace ByteOrder

/-- From the highest byte first to the order of the host, and back. -/
def arrange : ByteOrder → Bytes → Bytes
  | little, bytes => bytes.reverse
  | big, bytes => bytes

/-- A word of two bytes. -/
def bytes16 (o : ByteOrder) (n : UInt16) : Bytes := o.arrange (bigEndian16 n)

/-- A word of four bytes. -/
def bytes32 (o : ByteOrder) (n : UInt32) : Bytes := o.arrange (bigEndian32 n)

/-- `memcpy` of two bytes into a number. -/
def read16 (o : ByteOrder) (bytes : Bytes) : UInt16 :=
  match o.arrange bytes with
  | [b₀, b₁] => word16 b₀ b₁
  | _ => 0

/-- Four bytes as a word. -/
def read32 (o : ByteOrder) (bytes : Bytes) : UInt32 :=
  match o.arrange bytes with
  | [b₀, b₁, b₂, b₃] => word32 b₀ b₁ b₂ b₃
  | _ => 0

variable (o : ByteOrder)

theorem arrange_arrange (bytes : Bytes) : o.arrange (o.arrange bytes) = bytes := by
  cases o with
  | little => exact List.reverse_reverse bytes
  | big => rfl

theorem length_arrange (bytes : Bytes) : (o.arrange bytes).length = bytes.length := by
  cases o with
  | little => exact List.length_reverse
  | big => rfl

theorem length_bytes16 (n : UInt16) : (o.bytes16 n).length = 2 := o.length_arrange _

theorem length_bytes32 (n : UInt32) : (o.bytes32 n).length = 4 := o.length_arrange _

theorem read16_bytes16 (n : UInt16) : o.read16 (o.bytes16 n) = n := by
  rw [read16, bytes16, arrange_arrange]
  exact Net.Packet.word16_bigEndian16 n

theorem read32_bytes32 (n : UInt32) : o.read32 (o.bytes32 n) = n := by
  rw [read32, bytes32, arrange_arrange]
  exact Net.Packet.word32_bigEndian32 n

theorem bytes16_read16 {bytes : Bytes} (h : bytes.length = 2) :
    o.bytes16 (o.read16 bytes) = bytes := by
  obtain ⟨b₀, b₁, hbytes⟩ := List.length_eq_two.mp ((o.length_arrange bytes).trans h)
  rw [bytes16, read16, hbytes, Net.Packet.bigEndian16_word16, ← hbytes, arrange_arrange]

theorem bytes32_read32 {bytes : Bytes} (h : bytes.length = 4) :
    o.bytes32 (o.read32 bytes) = bytes := by
  have hlength := (o.length_arrange bytes).trans h
  match hbytes : o.arrange bytes, hlength with
  | [b₀, b₁, b₂, b₃], _ =>
    rw [bytes32, read32, hbytes, Net.Packet.bigEndian32_word32, ← hbytes, arrange_arrange]

end ByteOrder

/-! ## Headers and payloads -/

/-- The marks of the three kinds. -/
def kReplayMagic : Vector UInt8 4 := #v[86, 50, 82, 80]
def kResultMagic : Vector UInt8 4 := #v[86, 50, 66, 65]
def kSnapshotMagic : Vector UInt8 4 := #v[86, 50, 83, 78]
def kCurrentVersion : UInt16 := 1
def kHeaderSize : ℕ := 10

/-- `encode`; the length of the payload is cut to 32 bits. -/
def encode (o : ByteOrder) (jsonPayload : Bytes) (magic : Vector UInt8 4) : Bytes :=
  magic.toList ++ o.bytes16 kCurrentVersion ++ o.bytes32 (UInt32.ofNat jsonPayload.length) ++
    jsonPayload

/-- `decode`. -/
def decode (o : ByteOrder) (binary : Bytes) (expectedMagic : Vector UInt8 4) : Option Bytes :=
  if binary.length < kHeaderSize then none
  else if binary.take 4 ≠ expectedMagic.toList then none
  else if o.read16 ((binary.drop 4).take 2) ≠ kCurrentVersion then none
  else
    let payloadLength := (o.read32 ((binary.drop 6).take 4)).toNat
    if binary.length < kHeaderSize + payloadLength then none
    else some ((binary.drop kHeaderSize).take payloadLength)

/-- `encode_replay`. -/
def encodeReplay (o : ByteOrder) (jsonPayload : Bytes) : Bytes := encode o jsonPayload kReplayMagic

/-- `encode_result`. -/
def encodeResult (o : ByteOrder) (jsonPayload : Bytes) : Bytes := encode o jsonPayload kResultMagic

/-- `encode_snapshot`. -/
def encodeSnapshot (o : ByteOrder) (jsonPayload : Bytes) : Bytes :=
  encode o jsonPayload kSnapshotMagic

/-- `decode_replay`. -/
def decodeReplay (o : ByteOrder) (binary : Bytes) : Option Bytes := decode o binary kReplayMagic

/-- `decode_result`. -/
def decodeResult (o : ByteOrder) (binary : Bytes) : Option Bytes := decode o binary kResultMagic

/-- `decode_snapshot`. -/
def decodeSnapshot (o : ByteOrder) (binary : Bytes) : Option Bytes :=
  decode o binary kSnapshotMagic

variable {o : ByteOrder} {binary payload : Bytes}

/-- Bytes that are long enough, by the parts of their header. -/
theorem exists_parts (h : kHeaderSize ≤ binary.length) :
    ∃ m v l rest, m.length = 4 ∧ v.length = 2 ∧ l.length = 4 ∧ binary = m ++ v ++ l ++ rest := by
  have h4 : 4 ≤ binary.length := Nat.le_trans (by decide) h
  have h6 : 6 ≤ binary.length := Nat.le_trans (by decide) h
  refine ⟨binary.take 4, (binary.drop 4).take 2, (binary.drop 6).take 4, binary.drop kHeaderSize,
    List.length_take_of_le h4, ?_, ?_, ?_⟩
  · rw [List.length_take_of_le]
    rw [List.length_drop]
    omega
  · rw [List.length_take_of_le]
    rw [List.length_drop]
    change 10 ≤ binary.length at h
    omega
  · have hversion := List.take_append_drop 2 (binary.drop 4)
    have hlength := List.take_append_drop 4 (binary.drop 6)
    rw [List.drop_drop] at hversion hlength
    rw [List.append_assoc, List.append_assoc, kHeaderSize, hlength, hversion,
      List.take_append_drop]

section Parts

variable {magic : Vector UInt8 4} {m v l rest : Bytes} (hm : m.length = 4) (hv : v.length = 2)
  (hl : l.length = 4)
include hm hv hl

/-- The header that is read, and what comes after it. -/
theorem decode_parts : decode o (m ++ v ++ l ++ rest) magic =
    if m ≠ magic.toList ∨ o.read16 v ≠ kCurrentVersion ∨ rest.length < (o.read32 l).toNat then none
    else some (rest.take (o.read32 l).toNat) := by
  have hbinary : m ++ v ++ l ++ rest = m ++ (v ++ (l ++ rest)) := by
    rw [List.append_assoc, List.append_assoc]
  have hlength : (m ++ v ++ l ++ rest).length = kHeaderSize + rest.length := by
    simp only [List.length_append, hm, hv, hl, kHeaderSize]
  have htake : (m ++ v ++ l ++ rest).take 4 = m := by
    rw [hbinary, List.take_left' hm]
  have hversion : ((m ++ v ++ l ++ rest).drop 4).take 2 = v := by
    rw [hbinary, List.drop_left' hm, List.take_left' hv]
  have hpayload : ((m ++ v ++ l ++ rest).drop 6).take 4 = l := by
    rw [List.append_assoc, List.drop_left' (by rw [List.length_append, hm, hv]), List.take_left' hl]
  have hrest : (m ++ v ++ l ++ rest).drop kHeaderSize = rest :=
    List.drop_left' (by simp only [List.length_append, hm, hv, hl, kHeaderSize])
  unfold decode
  rw [if_neg (by rw [hlength]; exact Nat.not_lt.mpr (Nat.le_add_right _ _)), htake, hversion,
    hpayload, hrest, hlength]
  dsimp only
  by_cases hmagic : m = magic.toList
  · by_cases hcurrent : o.read16 v = kCurrentVersion
    · rw [if_neg (not_not.mpr hmagic), if_neg (not_not.mpr hcurrent)]
      refine if_congr ?_ rfl rfl
      simp only [hmagic, hcurrent, ne_eq, not_true_eq_false, false_or, Nat.add_lt_add_iff_left]
    · rw [if_neg (not_not.mpr hmagic), if_pos hcurrent, if_pos (.inr (.inl hcurrent))]
  · rw [if_pos hmagic, if_pos (.inl hmagic)]

end Parts

/-- Bytes decode to what they start with the encoding of. -/
theorem decode_eq_some_iff {magic : Vector UInt8 4} : decode o binary magic = some payload ↔
    payload.length < 2 ^ 32 ∧ encode o payload magic <+: binary := by
  constructor
  · intro h
    have hsize : kHeaderSize ≤ binary.length := by
      by_contra hsize
      rw [decode, if_pos (Nat.lt_of_not_le hsize)] at h
      cases h
    obtain ⟨m, v, l, rest, hm, hv, hl, rfl⟩ := exists_parts hsize
    rw [decode_parts hm hv hl] at h
    split_ifs at h with hbad
    obtain rfl := Option.some.inj h
    simp only [not_or, not_not, Nat.not_lt] at hbad
    obtain ⟨rfl, hversion, hle⟩ := hbad
    rw [List.length_take_of_le hle]
    refine ⟨UInt32.toNat_lt _, rest.drop (o.read32 l).toNat, ?_⟩
    rw [encode, List.length_take_of_le hle, UInt32.ofNat_toNat, o.bytes32_read32 hl, ← hversion,
      o.bytes16_read16 hv, List.append_assoc _ _ (rest.drop _), List.take_append_drop]
  · rintro ⟨hlt, rest, rfl⟩
    have hlength : (UInt32.ofNat payload.length).toNat = payload.length :=
      UInt32.toNat_ofNat_of_lt' hlt
    rw [encode, List.append_assoc _ payload, decode_parts magic.length_toList
      (o.length_bytes16 _) (o.length_bytes32 _), o.read16_bytes16, o.read32_bytes32, hlength,
      if_neg, List.take_left' rfl]
    simp

/-! ## The kinds of archive -/

/-- The kinds of archives. -/
inductive Archive
  | replay
  | result
  | snapshot
  deriving DecidableEq

namespace Archive

/-- The mark of a kind. -/
def magic : Archive → Vector UInt8 4
  | replay => kReplayMagic
  | result => kResultMagic
  | snapshot => kSnapshotMagic

/-- The writer of a kind. -/
def encode (o : ByteOrder) : Archive → Bytes → Bytes
  | replay => encodeReplay o
  | result => encodeResult o
  | snapshot => encodeSnapshot o

/-- The reader of a kind. -/
def decode (o : ByteOrder) : Archive → Bytes → Option Bytes
  | replay => decodeReplay o
  | result => decodeResult o
  | snapshot => decodeSnapshot o

variable {x y : Archive}

theorem encode_eq (x : Archive) (payload : Bytes) :
    x.encode o payload = Data.encode o payload x.magic := by
  cases x <;> rfl

theorem decode_eq_some_iff : x.decode o binary = some payload ↔
    payload.length < 2 ^ 32 ∧ x.encode o payload <+: binary := by
  have hdecode : x.decode o binary = Data.decode o binary x.magic := by cases x <;> rfl
  rw [hdecode, encode_eq, Data.decode_eq_some_iff]

theorem magic_injective (h : x.magic = y.magic) : x = y := by
  cases x <;> cases y <;> first | rfl | exact absurd h (by decide)

/-- An encoding that starts with another one is the same. -/
theorem encode_prefix {p q : Bytes} (hp : p.length < 2 ^ 32) (hq : q.length < 2 ^ 32)
    (h : y.encode o q <+: x.encode o p) : y = x ∧ q = p := by
  obtain ⟨rest, h⟩ := h
  simp only [encode_eq, Data.encode, List.append_assoc] at h
  obtain ⟨hmagic, h⟩ := List.append_inj h (by rw [Vector.length_toList, Vector.length_toList])
  obtain ⟨-, h⟩ := List.append_inj h rfl
  obtain ⟨hlength, h⟩ := List.append_inj h (by rw [o.length_bytes32, o.length_bytes32])
  have hsame : q.length = p.length := by
    rw [← UInt32.toNat_ofNat_of_lt' hq, ← UInt32.toNat_ofNat_of_lt' hp,
      ← o.read32_bytes32 (UInt32.ofNat q.length), hlength, o.read32_bytes32]
  rw [← List.append_nil p] at h
  exact ⟨magic_injective (Vector.toList_inj.mp hmagic), (List.append_inj h hsame).1⟩

end Archive

/-- What was encoded decodes as what it is, as no other kind and not without its end; and what
decodes starts with an encoding. -/
theorem archives_decode (o : ByteOrder) (x : Archive) :
    (∀ p : Bytes, p.length < 2 ^ 32 → x.decode o (x.encode o p) = some p ∧
      (∀ y ≠ x, y.decode o (x.encode o p) = none) ∧
      ∀ (y : Archive) b, b <+: x.encode o p → b ≠ x.encode o p → y.decode o b = none) ∧
    ∀ b p, x.decode o b = some p → x.encode o p <+: b := by
  refine ⟨fun p hp => ⟨Archive.decode_eq_some_iff.mpr ⟨hp, List.prefix_refl _⟩, ?_, ?_⟩,
    fun b p h => (Archive.decode_eq_some_iff.mp h).2⟩
  · intro y hne
    refine Option.eq_none_iff_forall_ne_some.mpr fun q hq => hne ?_
    obtain ⟨hlt, hstart⟩ := Archive.decode_eq_some_iff.mp hq
    exact (Archive.encode_prefix hp hlt hstart).1
  · intro y b hb hne
    refine Option.eq_none_iff_forall_ne_some.mpr fun q hq => hne ?_
    obtain ⟨hlt, hstart⟩ := Archive.decode_eq_some_iff.mp hq
    obtain ⟨rfl, rfl⟩ := Archive.encode_prefix hp hlt (hstart.trans hb)
    exact hb.eq_of_length (Nat.le_antisymm hb.length_le hstart.length_le)

end BoostGateway.Data
