import Mathlib.Data.List.Basic
import Mathlib.Data.Nat.Prime.Basic
import Mathlib.Tactic.Ring

/-!
# The standard's SHA-256 and HMAC

SHA-256 as the standard states it, a function from bit strings to bit strings. The constants are
the first 32 bits of the fractional parts of the cube roots of the first 64 primes, and the
initial hash value those of the square roots of the first eight (`root_spec`). The number of zero
bits in the padding is the smallest one that leaves room for the length (`zeroBits_least`).
Octets enter with their highest bit first.

`hmac` is the construction over any hash function on octets with blocks of any length.
-/

namespace BoostGateway.Sha256

/-! ## Words -/

/-- A word. -/
abbrev Word := BitVec 32

/-- The functions of FIPS 180-4, section 4.1.2. -/
def ch (x y z : Word) : Word := (x &&& y) ^^^ (~~~x &&& z)

def maj (x y z : Word) : Word := (x &&& y) ^^^ (x &&& z) ^^^ (y &&& z)

def bigSigma0 (x : Word) : Word := x.rotateRight 2 ^^^ x.rotateRight 13 ^^^ x.rotateRight 22

def bigSigma1 (x : Word) : Word := x.rotateRight 6 ^^^ x.rotateRight 11 ^^^ x.rotateRight 25

def smallSigma0 (x : Word) : Word := x.rotateRight 7 ^^^ x.rotateRight 18 ^^^ (x >>> 3)

def smallSigma1 (x : Word) : Word := x.rotateRight 17 ^^^ x.rotateRight 19 ^^^ (x >>> 10)

/-! ## Constants -/

/-- The largest `r` with `r ^ k ≤ n`, when it is below `2 ^ bits` : its bits from the highest
down, above those in `r`. -/
def rootBits (k n : ℕ) : ℕ → ℕ → ℕ
  | 0, r => r
  | bits + 1, r =>
    if (r + 2 ^ bits) ^ k ≤ n then rootBits k n bits (r + 2 ^ bits) else rootBits k n bits r

/-- The root, rounded down. -/
def root (k n : ℕ) : ℕ := rootBits k n n.log2.succ 0

theorem rootBits_spec {k n : ℕ} (bits r : ℕ) (hle : r ^ k ≤ n) (hlt : n < (r + 2 ^ bits) ^ k) :
    rootBits k n bits r ^ k ≤ n ∧ n < (rootBits k n bits r + 1) ^ k := by
  induction bits generalizing r with
  | zero => exact ⟨hle, hlt⟩
  | succ bits ih =>
    rw [rootBits]
    split_ifs with hstep
    · refine ih _ hstep ?_
      rwa [Nat.add_assoc, ← Nat.two_mul, ← Nat.pow_succ']
    · exact ih _ hle (Nat.lt_of_not_le hstep)

theorem root_spec {k n : ℕ} (hk : k ≠ 0) : root k n ^ k ≤ n ∧ n < (root k n + 1) ^ k := by
  refine rootBits_spec _ _ ?_ ?_
  · rw [Nat.zero_pow (Nat.pos_of_ne_zero hk)]
    exact Nat.zero_le n
  · rw [Nat.zero_add]
    exact Nat.lt_of_lt_of_le Nat.lt_log2_self (Nat.le_self_pow hk _)

/-- The primes up to 311. -/
def primes : List ℕ :=
  (List.range 312).filter fun p => Nat.ble 2 p && (List.range' 2 (p - 2)).all fun d => p % d != 0

theorem mem_primes_iff {p : ℕ} : p ∈ primes ↔ p < 312 ∧ p.Prime := by
  rw [primes, List.mem_filter, List.mem_range, Bool.and_eq_true, Nat.ble_eq, List.all_eq_true,
    Nat.prime_def_lt']
  refine and_congr_right fun _ => and_congr_right fun hp => ?_
  simp only [List.mem_range'_1, bne_iff_ne, Nat.dvd_iff_mod_eq_zero, and_imp]
  exact forall_congr' fun d => forall_congr' fun _ => by rw [Nat.add_sub_of_le hp]

/-- The first 32 bits of the fractional part of the `k`-th root of `p`. -/
def fraction (k p : ℕ) : Word := .ofNat 32 (root k (p * 2 ^ (32 * k)))

/-- The constant of a round. -/
def constant (t : ℕ) : Word := fraction 3 (primes.getD t 0)

/-! ## Padding and parsing -/

/-- The number of zero bits that follow the bit `1` after a message of `l` bits. -/
def zeroBits (l : ℕ) : ℕ := (512 + 448 - (l + 1) % 512) % 512

theorem zeroBits_least (l : ℕ) :
    (l + 1 + zeroBits l) % 512 = 448 ∧ ∀ k, (l + 1 + k) % 512 = 448 → zeroBits l ≤ k := by
  unfold zeroBits
  constructor
  · omega
  · intro k hk
    omega

/-- The 64 bits of a number below `2 ^ 64`, the highest first. -/
def lengthBits (l : ℕ) : List Bool := (List.range 64).map fun i => l.testBit (63 - i)

/-- The message with its padding. -/
def pad (message : List Bool) : List Bool :=
  message ++ [true] ++ List.replicate (zeroBits message.length) false ++
    lengthBits message.length

/-- The number whose bits these are, the highest first. -/
def number (bits : List Bool) : ℕ := bits.foldl (fun n b => 2 * n + b.toNat) 0

/-- The block of 512 bits with the number `i`. -/
def block (padded : List Bool) (i : ℕ) : List Bool := (padded.drop (512 * i)).take 512

/-- The word of 32 bits with the number `j` in a block. -/
def messageWord (block : List Bool) (j : ℕ) : Word :=
  .ofNat 32 (number ((block.drop (32 * j)).take 32))

/-! ## Hash computation -/

/-- The message schedule. -/
def schedule (block : List Bool) (t : ℕ) : Word :=
  if t < 16 then messageWord block t
  else
    smallSigma1 (schedule block (t - 2)) + schedule block (t - 7) +
      smallSigma0 (schedule block (t - 15)) + schedule block (t - 16)
termination_by t

/-- The working variables, or the words of a hash value. -/
structure Words where
  a : Word
  b : Word
  c : Word
  d : Word
  e : Word
  f : Word
  g : Word
  h : Word
  deriving DecidableEq

/-- One round. -/
def round (w : ℕ → Word) (v : Words) (t : ℕ) : Words :=
  let t1 := v.h + bigSigma1 v.e + ch v.e v.f v.g + constant t + w t
  let t2 := bigSigma0 v.a + maj v.a v.b v.c
  { a := t1 + t2, b := v.a, c := v.b, d := v.c, e := v.d + t1, f := v.e, g := v.f, h := v.g }

/-- The hash value after a block. -/
def compress (h : Words) (block : List Bool) : Words :=
  let v := (List.range 64).foldl (round (schedule block)) h
  { a := v.a + h.a, b := v.b + h.b, c := v.c + h.c, d := v.d + h.d, e := v.e + h.e,
    f := v.f + h.f, g := v.g + h.g, h := v.h + h.h }

/-- The initial hash value. -/
def initial : Words :=
  { a := fraction 2 2, b := fraction 2 3, c := fraction 2 5, d := fraction 2 7,
    e := fraction 2 11, f := fraction 2 13, g := fraction 2 17, h := fraction 2 19 }

/-- The bits of a word, the highest first. -/
def wordBits (x : Word) : List Bool := (List.range 32).map fun i => x.getLsbD (31 - i)

/-- The bits of a hash value. -/
def digest (h : Words) : List Bool :=
  [h.a, h.b, h.c, h.d, h.e, h.f, h.g, h.h].flatMap wordBits

/-- The message digest, 256 bits. -/
def hash (message : List Bool) : List Bool :=
  let padded := pad message
  digest ((List.range (padded.length / 512)).foldl (fun h i => compress h (block padded i))
    initial)

/-! ## Octets -/

/-- The bits of an octet. -/
def octetBits (b : UInt8) : List Bool := (List.range 8).map fun i => b.toNat.testBit (7 - i)

/-- The bits of octets. -/
def bitsOf (octets : List UInt8) : List Bool := octets.flatMap octetBits

/-- The octets of bits. -/
def octetsOf : List Bool → List UInt8
  | b7 :: b6 :: b5 :: b4 :: b3 :: b2 :: b1 :: b0 :: bits =>
    .ofNat (number [b7, b6, b5, b4, b3, b2, b1, b0]) :: octetsOf bits
  | _ => []

/-- The hash function on octets. -/
def hashOctets (octets : List UInt8) : List UInt8 := octetsOf (hash (bitsOf octets))

theorem bitsOf_append (xs ys : List UInt8) : bitsOf (xs ++ ys) = bitsOf xs ++ bitsOf ys :=
  List.flatMap_append

@[simp] theorem length_octetBits (b : UInt8) : (octetBits b).length = 8 := by
  rw [octetBits, List.length_map, List.length_range]

@[simp] theorem length_bitsOf (octets : List UInt8) :
    (bitsOf octets).length = 8 * octets.length := by
  induction octets with
  | nil => rfl
  | cons b octets ih =>
    rw [bitsOf, List.flatMap_cons, List.length_append, length_octetBits, List.length_cons]
    rw [bitsOf] at ih
    omega

theorem drop_bitsOf (n : ℕ) (octets : List UInt8) :
    (bitsOf octets).drop (8 * n) = bitsOf (octets.drop n) := by
  induction n generalizing octets with
  | zero => rfl
  | succ n ih =>
    cases octets with
    | nil => rfl
    | cons b octets =>
      rw [bitsOf, List.flatMap_cons, Nat.mul_succ, Nat.add_comm, ← List.drop_drop,
        List.drop_left' (length_octetBits b)]
      exact ih octets

theorem take_bitsOf (n : ℕ) (octets : List UInt8) :
    (bitsOf octets).take (8 * n) = bitsOf (octets.take n) := by
  induction n generalizing octets with
  | zero => rfl
  | succ n ih =>
    cases octets with
    | nil => rfl
    | cons b octets =>
      rw [bitsOf, List.flatMap_cons, Nat.mul_succ, Nat.add_comm,
        List.take_add, List.take_left' (length_octetBits b),
        List.drop_left' (length_octetBits b)]
      exact congrArg (octetBits b ++ ·) (ih octets)

theorem number_append (xs ys : List Bool) :
    number (xs ++ ys) = number xs * 2 ^ ys.length + number ys := by
  have hfold (n : ℕ) : ys.foldl (fun n b => 2 * n + b.toNat) n =
      n * 2 ^ ys.length + number ys := by
    induction ys generalizing n with
    | nil => simp [number]
    | cons b ys ih =>
      rw [number, List.foldl_cons, List.foldl_cons, ih, ih (2 * 0 + b.toNat), List.length_cons,
        Nat.pow_succ]
      ring
  rw [number, List.foldl_append]
  exact hfold _

theorem number_octetBits (b : UInt8) : number (octetBits b) = b.toNat := by
  have hall : ∀ n < 256, number (octetBits (.ofNat n)) = n := by decide +kernel
  have hb := hall b.toNat b.toNat_lt
  rwa [UInt8.ofNat_toNat] at hb

theorem octetsOf_bitsOf (octets : List UInt8) : octetsOf (bitsOf octets) = octets := by
  induction octets with
  | nil => rfl
  | cons b octets ih =>
    have hcons : octetsOf (octetBits b ++ bitsOf octets) =
        .ofNat (number (octetBits b)) :: octetsOf (bitsOf octets) := rfl
    rw [bitsOf, List.flatMap_cons]
    refine hcons.trans ?_
    rw [number_octetBits, UInt8.ofNat_toNat, ih]

end BoostGateway.Sha256

namespace BoostGateway

/-- A key of at most `blockLength` octets, filled up with zeros. -/
def hmacKey (hash : List UInt8 → List UInt8) (blockLength : ℕ) (key : List UInt8) : List UInt8 :=
  let short := if blockLength < key.length then hash key else key
  short ++ List.replicate (blockLength - short.length) 0

/-- The message authentication code over a hash function : the key is combined with the octets
`0x36` for the inner hash and `0x5c` for the outer one. -/
def hmac (hash : List UInt8 → List UInt8) (blockLength : ℕ) (key text : List UInt8) :
    List UInt8 :=
  let key := hmacKey hash blockLength key
  let ipad := List.replicate blockLength 0x36
  let opad := List.replicate blockLength 0x5c
  hash (key.zipWith (· ^^^ ·) opad ++ hash (key.zipWith (· ^^^ ·) ipad ++ text))

end BoostGateway
