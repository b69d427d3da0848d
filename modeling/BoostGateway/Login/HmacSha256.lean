import BoostGateway.Base.Sha256
import BoostGateway.Login.JwtValidator

/-!
# The validator's SHA-256 and HMAC

`sha256_transform`, `sha256` and `hmac_sha256` (`jwt_validator.h`) against the standard's
functions. The rounds and the message schedule agree word by word (`toSpec_sha256Round`,
`sha256Schedule_eq`), the loop that pads with zeros stops where the standard says
(`padZeros_eq`), and the blocks are the same bits (`bitsOf_sha256`). `hmacSha256_eq_hmac` : the
code's function is the construction over the standard's hash, for every key and message.
-/

namespace BoostGateway.Login

open Sha256 (bitsOf)

/-! ## Words -/

theorem toBitVec_rotr32 (x : UInt32) {n : UInt32} (hpos : 0 < n.toNat) (hlt : n.toNat < 32) :
    (rotr32 x n).toBitVec = x.toBitVec.rotateRight n.toNat := by
  have hn : (n.toBitVec % 32).toNat = n.toNat := Nat.mod_eq_of_lt hlt
  have hle : n ≤ 32 := UInt32.le_iff_toNat_le.mpr (Nat.le_of_lt hlt)
  have hsub : (32 - n).toNat = 32 - n.toNat := UInt32.toNat_sub_of_le _ _ hle
  have hm : ((32 - n).toBitVec % 32).toNat = 32 - n.toNat := by
    change (32 - n).toNat % 32 = _
    omega
  rw [rotr32, UInt32.toBitVec_or, UInt32.toBitVec_shiftRight, UInt32.toBitVec_shiftLeft,
    BitVec.ushiftRight_eq', BitVec.shiftLeft_eq', hn, hm, BitVec.rotateRight_def,
    Nat.mod_eq_of_lt hlt]

/-- The words of the code as the standard's. -/
def toSpec (h : Sha256Words) : Sha256.Words where
  a := h.a.toBitVec
  b := h.b.toBitVec
  c := h.c.toBitVec
  d := h.d.toBitVec
  e := h.e.toBitVec
  f := h.f.toBitVec
  g := h.g.toBitVec
  h := h.h.toBitVec

theorem toSpec_sha256Round {w : ℕ → Sha256.Word} {t : ℕ} {k x : UInt32}
    (hk : k.toBitVec = Sha256.constant t) (hx : x.toBitVec = w t) (s : Sha256Words) :
    toSpec (sha256Round s (k, x)) = Sha256.round w (toSpec s) t := by
  simp [toSpec, sha256Round, Sha256.round, Sha256.bigSigma0, Sha256.bigSigma1, Sha256.ch,
    Sha256.maj, ← hk, ← hx, toBitVec_rotr32]

/-! ## Constants -/

theorem map_toBitVec_kSha256K :
    kSha256K.map UInt32.toBitVec = Sha256.primes.map (Sha256.fraction 3) := by
  decide +kernel

theorem toBitVec_kSha256K {t : ℕ} (ht : t < 64) :
    (kSha256K.getD t 0).toBitVec = Sha256.constant t := by
  have hcode : kSha256K.length = 64 := rfl
  have hprimes : Sha256.primes.length = 64 := by
    have hlength := congrArg List.length map_toBitVec_kSha256K
    rwa [List.length_map, List.length_map, hcode, eq_comm] at hlength
  have hget := congrArg (·[t]?) map_toBitVec_kSha256K
  simpa [hcode, hprimes, ht, Sha256.constant] using hget

theorem toSpec_initial :
    toSpec
      { a := 0x6a09e667, b := 0xbb67ae85, c := 0x3c6ef372, d := 0xa54ff53a,
        e := 0x510e527f, f := 0x9b05688c, g := 0x1f83d9ab, h := 0x5be0cd19 } =
      Sha256.initial := by
  decide +kernel

/-! ## Bytes -/

/-- Four bytes as a word, the first on top. -/
theorem toNat_fourBytes (b0 b1 b2 b3 : UInt8) :
    ((b0.toUInt32 <<< 24) ||| (b1.toUInt32 <<< 16) ||| (b2.toUInt32 <<< 8) |||
      b3.toUInt32).toNat =
      ((b0.toNat * 2 ^ 8 + b1.toNat) * 2 ^ 8 + b2.toNat) * 2 ^ 8 + b3.toNat := by
  have h0 : b0.toUInt32.toNat < 2 ^ 8 := b0.toNat_lt
  have h1 : b1.toUInt32.toNat < 2 ^ 8 := b1.toNat_lt
  have h2 : b2.toUInt32.toNat < 2 ^ 8 := b2.toNat_lt
  have h3 : b3.toNat < 2 ^ 8 := b3.toNat_lt
  rw [UInt32.toNat_or, UInt32.toNat_or, UInt32.toNat_or, toNat_shiftLeft_of_lt h0 (by decide),
    toNat_shiftLeft_of_lt h1 (by decide), toNat_shiftLeft_of_lt h2 (by decide)]
  simp only [UInt8.toNat_toUInt32, UInt32.reduceToNat] at h1 h2 ⊢
  have h01 : b0.toNat <<< 24 ||| b1.toNat <<< 16 = (b0.toNat * 2 ^ 8 + b1.toNat) <<< 16 := by
    rw [Nat.or_comm, or_shiftLeft (by rw [Nat.shiftLeft_eq]; omega), Nat.shiftLeft_eq,
      Nat.shiftLeft_eq]
    omega
  rw [h01]
  have h012 (x : ℕ) : x <<< 16 ||| b2.toNat <<< 8 = (x * 2 ^ 8 + b2.toNat) <<< 8 := by
    rw [Nat.or_comm, or_shiftLeft (by rw [Nat.shiftLeft_eq]; omega), Nat.shiftLeft_eq,
      Nat.shiftLeft_eq]
    omega
  rw [h012, Nat.or_comm, or_shiftLeft h3]
  omega

theorem number_fourBytes (b0 b1 b2 b3 : UInt8) :
    Sha256.number (bitsOf [b0, b1, b2, b3]) =
      ((b0.toNat * 2 ^ 8 + b1.toNat) * 2 ^ 8 + b2.toNat) * 2 ^ 8 + b3.toNat := by
  have hcons (b : UInt8) (bs : Bytes) : Sha256.number (bitsOf (b :: bs)) =
      b.toNat * 2 ^ (8 * bs.length) + Sha256.number (bitsOf bs) := by
    rw [bitsOf, List.flatMap_cons, Sha256.number_append, Sha256.number_octetBits]
    exact congrArg (fun n => b.toNat * 2 ^ n + _) (Sha256.length_bitsOf bs)
  have hnil : Sha256.number (bitsOf []) = 0 := rfl
  rw [hcons, hcons, hcons, hcons, hnil]
  simp only [List.length_cons, List.length_nil]
  omega

variable {data : Bytes}

theorem toBitVec_dataWord {j : ℕ} (hj : 4 * j + 4 ≤ data.length) :
    (dataWord data j).toBitVec = Sha256.messageWord (bitsOf data) j := by
  have hbits : ((bitsOf data).drop (32 * j)).take 32 = bitsOf ((data.drop (4 * j)).take 4) := by
    rw [← Sha256.take_bitsOf, ← Sha256.drop_bitsOf, ← Nat.mul_assoc]
  have hbytes : (data.drop (4 * j)).take 4 = [data.getD (j * 4) 0, data.getD (j * 4 + 1) 0,
      data.getD (j * 4 + 2) 0, data.getD (j * 4 + 3) 0] := by
    have hdrop (n : ℕ) (hn : n < data.length) :
        data.drop n = data.getD n 0 :: data.drop (n + 1) := by
      rw [List.drop_eq_getElem_cons hn, List.getD_eq_getElem?_getD, List.getElem?_eq_getElem hn]
      rfl
    rw [Nat.mul_comm, hdrop (j * 4) (by omega), hdrop (j * 4 + 1) (by omega),
      hdrop (j * 4 + 1 + 1) (by omega), hdrop (j * 4 + 1 + 1 + 1) (by omega)]
    rfl
  refine BitVec.eq_of_toNat_eq ?_
  rw [Sha256.messageWord, hbits, hbytes, number_fourBytes, ← toNat_fourBytes]
  exact (Nat.mod_eq_of_lt (UInt32.toNat_lt _)).symm

/-! ## The message schedule and the rounds -/

def scheduleStep (w : List UInt32) (i : ℕ) : List UInt32 :=
  let w15 := w.getD (i - 15) 0
  let w2 := w.getD (i - 2) 0
  let s0 := rotr32 w15 7 ^^^ rotr32 w15 18 ^^^ (w15 >>> 3)
  let s1 := rotr32 w2 17 ^^^ rotr32 w2 19 ^^^ (w2 >>> 10)
  w ++ [w.getD (i - 16) 0 + s0 + w.getD (i - 7) 0 + s1]

/-- The words so far are those of the standard's schedule. -/
def Scheduled (data : Bytes) (w : List UInt32) (n : ℕ) : Prop :=
  w.length = n ∧ ∀ t < n, (w.getD t 0).toBitVec = Sha256.schedule (bitsOf data) t

theorem Scheduled.step {w : List UInt32} {n : ℕ} (h : Scheduled data w n)
    (hn : 16 ≤ n) : Scheduled data (scheduleStep w n) (n + 1) := by
  obtain ⟨hlength, hwords⟩ := h
  refine ⟨by rw [scheduleStep, List.length_append, hlength]; rfl, fun t ht => ?_⟩
  rcases Nat.lt_succ_iff_lt_or_eq.mp ht with hlt | rfl
  · rw [scheduleStep, List.getD_eq_getElem?_getD, List.getElem?_append_left (hlength ▸ hlt),
      ← List.getD_eq_getElem?_getD]
    exact hwords t hlt
  · rw [scheduleStep, List.getD_eq_getElem?_getD, ← hlength, List.getElem?_concat_length, hlength,
      Sha256.schedule, if_neg (Nat.not_lt.mpr hn), ← hwords (t - 2) (by omega),
      ← hwords (t - 7) (by omega), ← hwords (t - 15) (by omega), ← hwords (t - 16) (by omega)]
    simp [toBitVec_rotr32, Sha256.smallSigma0, Sha256.smallSigma1]
    ac_rfl

theorem scheduled_sha256Schedule (hdata : data.length = 64) :
    Scheduled data (sha256Schedule data) 64 := by
  have hfirst : Scheduled data ((List.range 16).map (dataWord data)) 16 := by
    refine ⟨by rw [List.length_map, List.length_range], fun t ht => ?_⟩
    rw [Sha256.schedule, if_pos ht, ← toBitVec_dataWord (by omega)]
    simp [ht]
  have hloop (n : ℕ) : Scheduled data
      ((List.range' 16 n).foldl scheduleStep ((List.range 16).map (dataWord data))) (16 + n) := by
    induction n with
    | zero => exact hfirst
    | succ n ih =>
      rw [List.range'_concat, List.foldl_concat, Nat.one_mul]
      exact ih.step (Nat.le_add_right _ _)
  exact hloop 48

theorem toSpec_rounds (hdata : data.length = 64) (h : Sha256Words) :
    toSpec ((kSha256K.zip (sha256Schedule data)).foldl sha256Round h) =
      (List.range 64).foldl (Sha256.round (Sha256.schedule (bitsOf data))) (toSpec h) := by
  obtain ⟨hlength, hwords⟩ := scheduled_sha256Schedule hdata
  have hcode : kSha256K.length = 64 := rfl
  have hzip : kSha256K.zip (sha256Schedule data) =
      (List.range 64).map fun t => (kSha256K.getD t 0, (sha256Schedule data).getD t 0) := by
    refine List.ext_getElem (by simp [hcode, hlength]) fun t ht _ => ?_
    rw [List.length_zip, hcode, hlength] at ht
    have ht' : t < 64 := by omega
    simp [hcode, hlength, ht']
  have hloop (n : ℕ) (hn : n ≤ 64) : toSpec ((List.range n).foldl (fun s t =>
        sha256Round s (kSha256K.getD t 0, (sha256Schedule data).getD t 0)) h) =
      (List.range n).foldl (Sha256.round (Sha256.schedule (bitsOf data))) (toSpec h) := by
    induction n with
    | zero => rfl
    | succ n ih =>
      rw [List.range_succ, List.foldl_concat, List.foldl_concat, ← ih (Nat.le_of_succ_le hn)]
      exact toSpec_sha256Round (toBitVec_kSha256K hn) (hwords n hn) _
  rw [hzip, List.foldl_map]
  exact hloop 64 (Nat.le_refl _)

theorem toSpec_sha256Transform (hdata : data.length = 64) (h : Sha256Words) :
    toSpec (sha256Transform h data) = Sha256.compress (toSpec h) (bitsOf data) := by
  rw [Sha256.compress, ← toSpec_rounds hdata]
  simp [toSpec, sha256Transform, BitVec.add_comm]

/-! ## Padding -/

/-- The loop that pushes zeros. -/
def padZeros (padded : Bytes) : Bytes :=
  if (padded.length + 8) % 64 ≠ 0 then padZeros (padded ++ [0]) else padded
termination_by (64 - (padded.length + 8) % 64) % 64
decreasing_by
  rw [List.length_append, List.length_singleton]
  omega

theorem padZeros_eq (padded : Bytes) :
    padZeros padded = padded ++ List.replicate ((64 - (padded.length + 8) % 64) % 64) 0 := by
  induction padded using padZeros.induct with
  | case1 padded hmore ih =>
    rw [padZeros, if_pos hmore, ih, List.append_assoc, List.length_append, List.length_singleton]
    have hcount : (64 - (padded.length + 8) % 64) % 64 =
        (64 - (padded.length + 1 + 8) % 64) % 64 + 1 := by omega
    rw [hcount, List.replicate_succ]
    rfl
  | case2 padded hdone =>
    rw [padZeros, if_neg hdone, not_not.mp hdone, List.replicate_zero, List.append_nil]

variable (input : Bytes)

/-- The padded input is what the loop of the code leaves, and the length. -/
theorem sha256Padded_eq :
    sha256Padded input = padZeros (input ++ [0x80]) ++
      [7, 6, 5, 4, 3, 2, 1, 0].map fun i : UInt64 =>
        (UInt64.ofNat (input.length * 8) >>> (i * 8)).toUInt8 := by
  rw [padZeros_eq, List.length_append]
  rfl

theorem octetBits_byte (l : ℕ) {s : UInt64} (hs : s.toNat ≤ 56) :
    Sha256.octetBits (UInt64.ofNat l >>> s).toUInt8 =
      (List.range 8).map fun j => l.testBit (s.toNat + (7 - j)) := by
  refine List.map_congr_left fun j hj => ?_
  rw [UInt64.toNat_toUInt8, UInt64.toNat_shiftRight, Nat.mod_eq_of_lt (b := 64) (by omega),
    UInt64.toNat_ofNat', Nat.testBit_mod_two_pow, Nat.testBit_shiftRight, Nat.testBit_mod_two_pow]
  rw [decide_eq_true (by omega), decide_eq_true (by omega), Bool.true_and, Bool.true_and]

/-- The length in bits, in eight bytes. -/
theorem bitsOf_length (l : ℕ) :
    bitsOf ([7, 6, 5, 4, 3, 2, 1, 0].map fun i : UInt64 => (UInt64.ofNat l >>> (i * 8)).toUInt8) =
      Sha256.lengthBits l := by
  simp only [List.map_cons, List.map_nil, bitsOf, List.flatMap_cons, List.flatMap_nil]
  rw [octetBits_byte l (by decide), octetBits_byte l (by decide), octetBits_byte l (by decide),
    octetBits_byte l (by decide), octetBits_byte l (by decide), octetBits_byte l (by decide),
    octetBits_byte l (by decide), octetBits_byte l (by decide)]
  rfl

theorem bitsOf_zeros (n : ℕ) :
    bitsOf (List.replicate n 0) = List.replicate (8 * n) false := by
  induction n with
  | zero => rfl
  | succ n ih =>
    rw [List.replicate_succ, bitsOf, List.flatMap_cons, Nat.mul_succ, Nat.add_comm,
      List.replicate_add]
    exact congrArg (Sha256.octetBits 0 ++ ·) ih

/-- The padding of the code is the standard's. -/
theorem bitsOf_sha256Padded : bitsOf (sha256Padded input) = Sha256.pad (bitsOf input) := by
  have hzeros : Sha256.zeroBits (8 * input.length) =
      7 + 8 * ((64 - (input.length + 9) % 64) % 64) := by
    rw [Sha256.zeroBits]
    omega
  have hone : bitsOf [0x80] = [true] ++ List.replicate 7 false := by decide
  rw [sha256Padded, Sha256.bitsOf_append, Sha256.bitsOf_append, Sha256.bitsOf_append,
    bitsOf_length, bitsOf_zeros, hone, Sha256.pad, Sha256.length_bitsOf, hzeros,
    List.replicate_add, Nat.mul_comm input.length]
  simp only [List.append_assoc]

/-! ## The hash -/

theorem octetBits_wordByte (x : UInt32) {s : UInt32} (hs : s.toNat ≤ 24) :
    Sha256.octetBits (x >>> s).toUInt8 =
      (List.range 8).map fun j => x.toBitVec.getLsbD (s.toNat + (7 - j)) := by
  refine List.map_congr_left fun j hj => ?_
  rw [UInt32.toNat_toUInt8, UInt32.toNat_shiftRight, Nat.mod_eq_of_lt (b := 32) (by omega),
    Nat.testBit_mod_two_pow, Nat.testBit_shiftRight, decide_eq_true (by omega), Bool.true_and]
  rfl

theorem bitsOf_wordBytes (x : UInt32) : bitsOf (wordBytes x) = Sha256.wordBits x.toBitVec := by
  have hlast : x.toUInt8 = (x >>> 0).toUInt8 := by simp
  rw [wordBytes, hlast]
  simp only [bitsOf, List.flatMap_cons, List.flatMap_nil]
  rw [octetBits_wordByte x (by decide), octetBits_wordByte x (by decide),
    octetBits_wordByte x (by decide), octetBits_wordByte x (by decide)]
  rfl

theorem bitsOf_digest (h : Sha256Words) :
    bitsOf ([h.a, h.b, h.c, h.d, h.e, h.f, h.g, h.h].flatMap wordBytes) =
      Sha256.digest (toSpec h) := by
  simp only [List.flatMap_cons, List.flatMap_nil, List.append_nil, Sha256.bitsOf_append,
    bitsOf_wordBytes, Sha256.digest, toSpec]

/-- The blocks of the code are the standard's. -/
theorem toSpec_blocks (padded : Bytes) (h : Sha256Words) {n : ℕ} (hn : 64 * n ≤ padded.length) :
    toSpec ((List.range n).foldl
      (fun h i => sha256Transform h ((padded.drop (i * 64)).take 64)) h) =
      (List.range n).foldl (fun h i => Sha256.compress h (Sha256.block (bitsOf padded) i))
        (toSpec h) := by
  induction n with
  | zero => rfl
  | succ n ih =>
    have hlength : ((padded.drop (n * 64)).take 64).length = 64 := by
      rw [List.length_take, List.length_drop]
      omega
    have hblock : Sha256.block (bitsOf padded) n = bitsOf ((padded.drop (n * 64)).take 64) := by
      rw [Sha256.block, ← Sha256.take_bitsOf, ← Sha256.drop_bitsOf, Nat.mul_comm n, ← Nat.mul_assoc]
    rw [List.range_succ, List.foldl_concat, List.foldl_concat, toSpec_sha256Transform hlength,
      ih (by omega), hblock]

theorem bitsOf_sha256 : bitsOf (sha256 input) = Sha256.hash (bitsOf input) := by
  have hcount : (Sha256.pad (bitsOf input)).length / 512 = (sha256Padded input).length / 64 := by
    rw [← bitsOf_sha256Padded, Sha256.length_bitsOf]
    omega
  rw [Sha256.hash, hcount, ← bitsOf_sha256Padded, ← toSpec_initial,
    ← toSpec_blocks _ _ (Nat.mul_div_le _ 64), ← bitsOf_digest]
  rfl

/-- The hash of the code is the standard's. -/
theorem sha256_eq_hashOctets : sha256 input = Sha256.hashOctets input := by
  rw [Sha256.hashOctets, ← bitsOf_sha256, Sha256.octetsOf_bitsOf]

/-! ## HMAC -/

theorem length_sha256 : (sha256 input).length = 32 := rfl

/-- A byte combined with each of a list. -/
theorem zipWith_replicate_xor (key : Bytes) (b : UInt8) :
    key.zipWith (· ^^^ ·) (List.replicate key.length b) = key.map (· ^^^ b) := by
  induction key with
  | nil => rfl
  | cons c key ih => exact congrArg ((c ^^^ b) :: ·) ih

theorem length_hmacKey (key : Bytes) : (hmacKey sha256 64 key).length = 64 := by
  rw [hmacKey, List.length_append, List.length_replicate]
  split_ifs with hlong
  · rw [length_sha256]
  · omega

/-- The code's `hmac_sha256` is the standard's construction over the standard's hash, for every
key and every message. -/
theorem hmacSha256_eq_hmac (key message : Bytes) :
    hmacSha256 key message = hmac Sha256.hashOctets 64 key message := by
  have hhash : Sha256.hashOctets = sha256 := funext fun input => (sha256_eq_hashOctets input).symm
  have hkey := length_hmacKey key
  have hpad (b : UInt8) : (hmacKey sha256 64 key).zipWith (· ^^^ ·) (List.replicate 64 b) =
      (hmacKey sha256 64 key).map (· ^^^ b) := by
    rw [← zipWith_replicate_xor, hkey]
  rw [hhash, hmac, hpad, hpad]
  rfl

end BoostGateway.Login
