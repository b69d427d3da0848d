import BoostGateway.Login.JwtValidator

/-!
# base64url

`base64url_encode` (`jwt_validator.h`) shifts the bytes into a word of 32 bits, from which it takes
six bits at a time, and does not pad. What is left of earlier bytes stays above the bits that
are taken.

`base64urlDecode_encode` : the decoder returns the bytes. Both work through whole groups of three
bytes and four digits (`sextets`), whatever is in the upper bits. `base64url_round_trip` says so of
the loop with the types of the code, a signed word and the table that is searched, and gives the
length and the characters of the encoding.
-/

namespace BoostGateway.Login

def kTable : Bytes :=
  encodeUtf8 "ABCDEFGHIJKLMNOPQRSTUVWXYZabcdefghijklmnopqrstuvwxyz0123456789-_".toList

def base64urlChar (n : ℕ) : UInt8 := kTable.getD n 0

/-- The inner loop : the digits of the bits above the last ones. -/
def base64urlEmit (val : UInt32) : ℕ → Bytes → ℕ × Bytes
  | bits + 6, out =>
    base64urlEmit val bits (out ++ [base64urlChar ((val >>> .ofNat bits) &&& 0x3F).toNat])
  | bits, out => (bits, out)

def base64urlEncodeLoop : Bytes → UInt32 → ℕ → Bytes → Bytes
  | [], val, bits, out =>
    if 0 < bits then out ++ [base64urlChar ((val <<< .ofNat (6 - bits)) &&& 0x3F).toNat] else out
  | c :: cs, val, bits, out =>
    let val := (val <<< 8) ||| c.toUInt32
    let (bits, out) := base64urlEmit val (bits + 8) out
    base64urlEncodeLoop cs val bits out

def base64urlEncode (input : Bytes) : Bytes := base64urlEncodeLoop input 0 0 []

example : base64urlEncode [91, 93] = [87, 49, 48] := by decide +kernel

/-- The digits of a text : four for three bytes. -/
def sextets : Bytes → List ℕ
  | a :: b :: c :: rest =>
    a.toNat / 4 :: (a.toNat % 4 * 16 + b.toNat / 16) :: (b.toNat % 16 * 4 + c.toNat / 64) ::
      c.toNat % 64 :: sextets rest
  | [a, b] => [a.toNat / 4, a.toNat % 4 * 16 + b.toNat / 16, b.toNat % 16 * 4]
  | [a] => [a.toNat / 4, a.toNat % 4 * 16]
  | [] => []

/-! ## Words -/

/-- Bits below the ones that were shifted are added. -/
theorem or_eq_add {m n k : ℕ} (hn : n < 2 ^ k) : (m * 2 ^ k) ||| n = m * 2 ^ k + n := by
  rw [← Nat.shiftLeft_eq, Nat.shiftLeft_add_eq_or_of_lt hn]

theorem toNat_pushByte (val : UInt32) (c : UInt8) :
    ((val <<< 8) ||| c.toUInt32).toNat = (val.toNat * 256 + c.toNat) % 2 ^ 32 := by
  have hc : c.toNat < 2 ^ 8 := c.toNat_lt
  have hshift : (val <<< 8).toNat = (val.toNat % 2 ^ 24) * 2 ^ 8 := by
    rw [UInt32.toNat_shiftLeft, Nat.shiftLeft_eq]
    change val.toNat * 2 ^ 8 % 2 ^ 32 = _
    omega
  rw [UInt32.toNat_or, hshift, UInt8.toNat_toUInt32, or_eq_add hc]
  omega

theorem toNat_pushDigit (val : UInt32) {d : ℕ} (hd : d < 64) :
    ((val <<< 6) ||| UInt32.ofNat d).toNat = (val.toNat * 64 + d) % 2 ^ 32 := by
  have hshift : (val <<< 6).toNat = (val.toNat % 2 ^ 26) * 2 ^ 6 := by
    rw [UInt32.toNat_shiftLeft, Nat.shiftLeft_eq]
    change val.toNat * 2 ^ 6 % 2 ^ 32 = _
    omega
  rw [UInt32.toNat_or, hshift, UInt32.toNat_ofNat_of_lt' (Nat.lt_trans hd (by decide)),
    or_eq_add hd]
  omega

theorem toNat_shiftRight (val : UInt32) {k : ℕ} (hk : k < 32) :
    (val >>> .ofNat k).toNat = val.toNat / 2 ^ k := by
  rw [UInt32.toNat_shiftRight, UInt32.toNat_ofNat_of_lt' (Nat.lt_trans hk (by decide)),
    Nat.mod_eq_of_lt hk, Nat.shiftRight_eq_div_pow]

theorem toNat_digit (val : UInt32) {k : ℕ} (hk : k < 32) :
    ((val >>> .ofNat k) &&& 0x3F).toNat = val.toNat / 2 ^ k % 64 := by
  rw [UInt32.toNat_and, toNat_shiftRight val hk]
  exact Nat.and_two_pow_sub_one_eq_mod _ 6

theorem toNat_lastDigit (val : UInt32) {k : ℕ} (hk : k < 32) :
    ((val <<< .ofNat k) &&& 0x3F).toNat = val.toNat * 2 ^ k % 2 ^ 32 % 64 := by
  rw [UInt32.toNat_and, UInt32.toNat_shiftLeft,
    UInt32.toNat_ofNat_of_lt' (Nat.lt_trans hk (by decide)), Nat.mod_eq_of_lt hk, Nat.shiftLeft_eq]
  exact Nat.and_two_pow_sub_one_eq_mod _ 6

theorem toUInt8_byte (val : UInt32) {k : ℕ} (hk : k < 32) :
    ((val >>> .ofNat k) &&& 0xFF).toUInt8 = UInt8.ofNat (val.toNat / 2 ^ k) := by
  apply UInt8.toNat_inj.mp
  rw [UInt32.toNat_toUInt8, UInt32.toNat_and, toNat_shiftRight val hk, UInt8.toNat_ofNat']
  have hmask : val.toNat / 2 ^ k &&& (0xFF : UInt32).toNat = val.toNat / 2 ^ k % 2 ^ 8 :=
    Nat.and_two_pow_sub_one_eq_mod _ 8
  rw [hmask, Nat.mod_mod]

/-! ## The digits -/

theorem base64urlChar_spec : ∀ d < 64, base64urlChar d ≠ 46 ∧ base64urlChar d ≠ 61 ∧
    base64urlPos (base64urlChar d) = some (.ofNat d) := by
  decide +kernel

variable (bs : Bytes)

theorem sextets_lt : ∀ d ∈ sextets bs, d < 64 := by
  fun_induction sextets bs with
  | case1 a b c rest ih =>
    have ha := a.toNat_lt
    have hb := b.toNat_lt
    have hc := c.toNat_lt
    simp only [List.forall_mem_cons]
    exact ⟨by omega, by omega, by omega, by omega, ih⟩
  | case2 a b =>
    have ha := a.toNat_lt
    have hb := b.toNat_lt
    simp only [List.forall_mem_cons]
    exact ⟨by omega, by omega, by omega, List.forall_mem_nil _⟩
  | case3 a =>
    have ha := a.toNat_lt
    simp only [List.forall_mem_cons]
    exact ⟨by omega, by omega, List.forall_mem_nil _⟩
  | case4 => exact List.forall_mem_nil _

def pushByte (val : UInt32) (c : UInt8) : UInt32 := (val <<< 8) ||| c.toUInt32

def pushDigit (val : UInt32) (d : ℕ) : UInt32 := (val <<< 6) ||| .ofNat d

theorem encodeLoop_zero (c : UInt8) (cs : Bytes) (val : UInt32) (out : Bytes) :
    base64urlEncodeLoop (c :: cs) val 0 out = base64urlEncodeLoop cs (pushByte val c) 2
      (out ++ [base64urlChar (c.toNat / 4)]) := by
  have hdigit : ((pushByte val c >>> .ofNat 2) &&& 0x3F).toNat = c.toNat / 4 := by
    have hc := c.toNat_lt
    rw [toNat_digit _ (by decide), pushByte, toNat_pushByte]
    omega
  rw [← hdigit]
  rfl

/-- Two bits are left of the byte before. -/
theorem encodeLoop_two (b c : UInt8) (cs : Bytes) (val : UInt32) (out : Bytes) :
    base64urlEncodeLoop (c :: cs) (pushByte val b) 2 out =
      base64urlEncodeLoop cs (pushByte (pushByte val b) c) 4
        (out ++ [base64urlChar (b.toNat % 4 * 16 + c.toNat / 16)]) := by
  have hdigit : ((pushByte (pushByte val b) c >>> .ofNat 4) &&& 0x3F).toNat =
      b.toNat % 4 * 16 + c.toNat / 16 := by
    have hb := b.toNat_lt
    have hc := c.toNat_lt
    rw [toNat_digit _ (by decide), pushByte, toNat_pushByte, pushByte, toNat_pushByte]
    omega
  rw [← hdigit]
  rfl

/-- Four bits are left of the byte before. -/
theorem encodeLoop_four (b c : UInt8) (cs : Bytes) (val : UInt32) (out : Bytes) :
    base64urlEncodeLoop (c :: cs) (pushByte val b) 4 out =
      base64urlEncodeLoop cs (pushByte (pushByte val b) c) 0
        (out ++ [base64urlChar (b.toNat % 16 * 4 + c.toNat / 64),
          base64urlChar (c.toNat % 64)]) := by
  have hb := b.toNat_lt
  have hc := c.toNat_lt
  have hdigit : ((pushByte (pushByte val b) c >>> .ofNat 6) &&& 0x3F).toNat =
      b.toNat % 16 * 4 + c.toNat / 64 := by
    rw [toNat_digit _ (by decide), pushByte, toNat_pushByte, pushByte, toNat_pushByte]
    omega
  have hlast : ((pushByte (pushByte val b) c >>> .ofNat 0) &&& 0x3F).toNat = c.toNat % 64 := by
    rw [toNat_digit _ (by decide), pushByte, toNat_pushByte]
    omega
  rw [← hdigit, ← hlast, List.append_cons out]
  rfl

theorem base64urlEncodeLoop_eq (val : UInt32) (out : Bytes) :
    base64urlEncodeLoop bs val 0 out = out ++ (sextets bs).map base64urlChar := by
  fun_induction sextets bs generalizing val out with
  | case1 a b c rest ih =>
    rw [encodeLoop_zero, encodeLoop_two, encodeLoop_four, ih]
    simp only [List.map_cons, List.append_assoc, List.cons_append, List.nil_append]
  | case2 a b =>
    have hlast : ((pushByte (pushByte val a) b <<< .ofNat 2) &&& 0x3F).toNat =
        b.toNat % 16 * 4 := by
      rw [toNat_lastDigit _ (by decide), pushByte, toNat_pushByte]
      omega
    have hend (out : Bytes) : base64urlEncodeLoop [] (pushByte (pushByte val a) b) 4 out =
        out ++ [base64urlChar (b.toNat % 16 * 4)] := by
      rw [← hlast]
      rfl
    rw [encodeLoop_zero, encodeLoop_two, hend]
    simp only [List.map_cons, List.map_nil, List.append_assoc, List.cons_append, List.nil_append]
  | case3 a =>
    have hlast : ((pushByte val a <<< .ofNat 4) &&& 0x3F).toNat = a.toNat % 4 * 16 := by
      rw [toNat_lastDigit _ (by decide), pushByte, toNat_pushByte]
      omega
    have hend (out : Bytes) : base64urlEncodeLoop [] (pushByte val a) 2 out =
        out ++ [base64urlChar (a.toNat % 4 * 16)] := by
      rw [← hlast]
      rfl
    rw [encodeLoop_zero, hend]
    simp only [List.map_cons, List.map_nil, List.append_assoc, List.cons_append, List.nil_append]
  | case4 => exact (List.append_nil _).symm

theorem base64urlLoop_char {d : ℕ} (hd : d < 64) (cs : Bytes) (bits : ℕ) (val : UInt32)
    (out : Bytes) : base64urlLoop (base64urlChar d :: cs) bits val out =
      if 8 ≤ bits + 6 then base64urlLoop cs (bits + 6 - 8) (pushDigit val d)
        (out ++ [((pushDigit val d >>> .ofNat (bits + 6 - 8)) &&& 0xFF).toUInt8])
      else base64urlLoop cs (bits + 6) (pushDigit val d) out := by
  obtain ⟨-, hpad, hpos⟩ := base64urlChar_spec d hd
  rw [base64urlLoop, if_neg hpad, hpos]
  rfl

/-- A digit that ends a byte, after which `k` bits are left. -/
theorem base64urlLoop_byte {p d n k : ℕ} (hp : p < 64) (hd : d < 64) (hk : k < 32) (cs : Bytes)
    (val : UInt32) (out : Bytes)
    (hn : ((val.toNat * 64 + p) % 2 ^ 32 * 64 + d) % 2 ^ 32 / 2 ^ k % 2 ^ 8 = n % 2 ^ 8) :
    base64urlLoop (base64urlChar d :: cs) (k + 2) (pushDigit val p) out =
      base64urlLoop cs k (pushDigit (pushDigit val p) d) (out ++ [.ofNat n]) := by
  have hbyte : ((pushDigit (pushDigit val p) d >>> .ofNat k) &&& 0xFF).toUInt8 = .ofNat n := by
    rw [toUInt8_byte _ hk, pushDigit, toNat_pushDigit _ hd, pushDigit, toNat_pushDigit _ hp]
    apply UInt8.toNat_inj.mp
    rw [UInt8.toNat_ofNat', UInt8.toNat_ofNat', hn]
  have hleft : k + 2 + 6 - 8 = k := by omega
  rw [base64urlLoop_char hd, if_pos (by omega), hleft, hbyte]

/-- The first two digits of a group are the first byte and four bits more. -/
theorem base64urlLoop_two {p d : ℕ} (hp : p < 64) (hd : d < 64) (cs : Bytes) (val : UInt32)
    (out : Bytes) : base64urlLoop (base64urlChar p :: base64urlChar d :: cs) 0 val out =
      base64urlLoop cs 4 (pushDigit (pushDigit val p) d) (out ++ [.ofNat (p * 4 + d / 16)]) := by
  rw [base64urlLoop_char hp, if_neg (by decide)]
  exact base64urlLoop_byte hp hd (by decide) cs val out (by omega)

/-- Four bits are left of the digit before. -/
theorem base64urlLoop_four {p d : ℕ} (hp : p < 64) (hd : d < 64) (cs : Bytes) (val : UInt32)
    (out : Bytes) : base64urlLoop (base64urlChar d :: cs) 4 (pushDigit val p) out =
      base64urlLoop cs 2 (pushDigit (pushDigit val p) d)
        (out ++ [.ofNat (p % 16 * 16 + d / 4)]) :=
  base64urlLoop_byte hp hd (by decide) cs val out (by omega)

/-- Two bits are left of the digit before. -/
theorem base64urlLoop_twoLeft {p d : ℕ} (hp : p < 64) (hd : d < 64) (cs : Bytes) (val : UInt32)
    (out : Bytes) : base64urlLoop (base64urlChar d :: cs) 2 (pushDigit val p) out =
      base64urlLoop cs 0 (pushDigit (pushDigit val p) d) (out ++ [.ofNat (p % 4 * 64 + d)]) :=
  base64urlLoop_byte hp hd (by decide) cs val out (by omega)

theorem ofNat_eq {n : ℕ} {b : UInt8} (h : n = b.toNat) : UInt8.ofNat n = b := by
  rw [h, UInt8.ofNat_toNat]

theorem base64urlLoop_sextets (val : UInt32) (out : Bytes) :
    base64urlLoop ((sextets bs).map base64urlChar) 0 val out = some (out ++ bs) := by
  have hlt := sextets_lt bs
  fun_induction sextets bs generalizing val out with
  | case1 a b c rest ih =>
    have ha := a.toNat_lt
    have hb := b.toNat_lt
    have hc := c.toNat_lt
    simp only [List.forall_mem_cons] at hlt
    obtain ⟨h0, h1, h2, h3, hrest⟩ := hlt
    simp only [List.map_cons]
    rw [base64urlLoop_two h0 h1, base64urlLoop_four h1 h2, base64urlLoop_twoLeft h2 h3,
      ih _ _ hrest, ofNat_eq (b := a) (by omega), ofNat_eq (b := b) (by omega),
      ofNat_eq (b := c) (by omega)]
    simp only [List.append_assoc, List.cons_append, List.nil_append]
  | case2 a b =>
    have ha := a.toNat_lt
    have hb := b.toNat_lt
    simp only [List.forall_mem_cons] at hlt
    obtain ⟨h0, h1, h2, -⟩ := hlt
    simp only [List.map_cons, List.map_nil]
    rw [base64urlLoop_two h0 h1, base64urlLoop_four h1 h2, base64urlLoop,
      ofNat_eq (b := a) (by omega), ofNat_eq (b := b) (by omega)]
    simp only [List.append_assoc, List.cons_append, List.nil_append]
  | case3 a =>
    have ha := a.toNat_lt
    simp only [List.forall_mem_cons] at hlt
    obtain ⟨h0, h1, -⟩ := hlt
    simp only [List.map_cons, List.map_nil]
    rw [base64urlLoop_two h0 h1, base64urlLoop, ofNat_eq (b := a) (by omega)]
  | case4 => exact congrArg some (List.append_nil _).symm

/-- The decoder returns what was encoded. -/
theorem base64urlDecode_encode : base64urlDecode (base64urlEncode bs) = bs := by
  rw [base64urlDecode, base64urlEncode, base64urlEncodeLoop_eq, List.nil_append,
    base64urlLoop_sextets]
  rfl

/-- No digit is a dot. -/
theorem dot_notMem_encode : (46 : UInt8) ∉ base64urlEncode bs := by
  rw [base64urlEncode, base64urlEncodeLoop_eq, List.nil_append]
  intro hmem
  obtain ⟨d, hd, heq⟩ := List.mem_map.mp hmem
  exact (base64urlChar_spec d (sextets_lt bs d hd)).1 heq

/-! ## The decoder's own types -/

/-- The loop of `base64url_decode` with a signed word, whose right shift keeps the sign, and
`kTable.find`. -/
def base64urlFindLoop : Bytes → ℕ → Int32 → Bytes → Option Bytes
  | [], _, _, out => some out
  | c :: cs, bits, val, out =>
    if c = 61 then some out
    else
      match kTable.idxOf? c with
      | none => none
      | some pos =>
        let val := (val <<< 6) ||| .ofNat pos
        let bits := bits + 6
        if 8 ≤ bits then
          base64urlFindLoop cs (bits - 8) val
            (out ++ [((val >>> .ofNat (bits - 8)) &&& 0xFF).toUInt32.toUInt8])
        else base64urlFindLoop cs bits val out

def base64urlFindDecode (input : Bytes) : Bytes := (base64urlFindLoop input 0 0 []).getD []

theorem find_base64urlChar : ∀ d < 64, kTable.idxOf? (base64urlChar d) = some d := by
  decide +kernel

theorem mem_kTable_iff {c : UInt8} : c ∈ kTable ↔ ∃ d < 64, base64urlChar d = c := by
  have hlength : kTable.length = 64 := by decide +kernel
  rw [List.mem_iff_getElem]
  constructor
  · rintro ⟨d, hd, rfl⟩
    exact ⟨d, hlength ▸ hd, by simp [base64urlChar, hd]⟩
  · rintro ⟨d, hd, rfl⟩
    exact ⟨d, hlength ▸ hd, by simp [base64urlChar, hlength, hd]⟩

theorem base64urlPos_eq_none {c : UInt8} (h : c ∉ kTable) : base64urlPos c = none := by
  have hall : ∀ n < 256, (base64urlPos (.ofNat n)).all fun d =>
      decide (d.toNat < 64 ∧ base64urlChar d.toNat = .ofNat n) := by
    decide +kernel
  have hc := hall c.toNat c.toNat_lt
  rw [UInt8.ofNat_toNat] at hc
  cases hpos : base64urlPos c with
  | none => rfl
  | some d =>
    rw [hpos] at hc
    exact absurd (mem_kTable_iff.mpr ⟨_, of_decide_eq_true hc⟩) h

theorem base64urlPos_eq_find (c : UInt8) :
    base64urlPos c = (kTable.idxOf? c).map UInt32.ofNat := by
  by_cases hmem : c ∈ kTable
  · obtain ⟨d, hd, rfl⟩ := mem_kTable_iff.mp hmem
    rw [(base64urlChar_spec d hd).2.2, find_base64urlChar d hd]
    rfl
  · rw [base64urlPos_eq_none hmem, List.idxOf?_eq_none_iff.mpr hmem]
    rfl

/-- The sign does not reach the byte that is taken. -/
theorem toUInt8_signedShift (val : Int32) {k : ℕ} (hk : k < 8) :
    ((val >>> .ofNat k) &&& 0xFF).toUInt32.toUInt8 =
      ((val.toUInt32 >>> .ofNat k) &&& 0xFF).toUInt8 := by
  have hsigned : ∀ k < 8, ((Int32.ofNat k).toBitVec.smod 32).toNat = k := by decide
  have hword : ∀ k < 8, ((UInt32.ofNat k).toBitVec % 32).toNat = k := by decide
  have hmask : ∀ i < 8, (0xFF : BitVec 32).getLsbD i = true := by decide
  refine UInt8.toBitVec_inj.mp (BitVec.eq_of_getLsbD_eq fun i hi => ?_)
  have hleft : (val >>> Int32.ofNat k &&& 0xFF).toUInt32.toBitVec.getLsbD i =
      val.toBitVec.getLsbD (k + i) := by
    change (val.toBitVec.sshiftRight' ((Int32.ofNat k).toBitVec.smod 32) &&& 0xFF).getLsbD i = _
    rw [BitVec.getLsbD_and, BitVec.sshiftRight_eq', hsigned k hk, BitVec.getLsbD_sshiftRight,
      hmask i hi, if_pos (by omega), Bool.and_true]
    simp
    omega
  have hright : (val.toUInt32 >>> UInt32.ofNat k &&& 0xFF).toBitVec.getLsbD i =
      val.toBitVec.getLsbD (k + i) := by
    change (val.toBitVec >>> ((UInt32.ofNat k).toBitVec % 32) &&& 0xFF).getLsbD i = _
    rw [BitVec.getLsbD_and, BitVec.ushiftRight_eq', hword k hk, BitVec.getLsbD_ushiftRight,
      hmask i hi, Bool.and_true]
  rw [UInt32.toBitVec_toUInt8, UInt32.toBitVec_toUInt8, BitVec.getLsbD_setWidth,
    BitVec.getLsbD_setWidth, hleft, hright]

theorem base64urlFindLoop_eq (cs : Bytes) {bits : ℕ} (hbits : bits < 8) (val : Int32)
    (out : Bytes) : base64urlFindLoop cs bits val out = base64urlLoop cs bits val.toUInt32 out := by
  induction cs generalizing bits val out with
  | nil => rfl
  | cons c cs ih =>
    rw [base64urlFindLoop, base64urlLoop, base64urlPos_eq_find]
    split_ifs with hpad
    · rfl
    · cases kTable.idxOf? c with
      | none => rfl
      | some pos =>
        dsimp only [Option.map_some]
        split_ifs with hbyte
        · rw [ih (by omega), toUInt8_signedShift _ (by omega)]
          rfl
        · rw [ih (by omega)]
          rfl

theorem base64urlFindDecode_eq (input : Bytes) :
    base64urlFindDecode input = base64urlDecode input := by
  rw [base64urlFindDecode, base64urlFindLoop_eq _ (by decide)]
  rfl

/-- The characters that need no escaping in a URL. -/
def IsUrlSafe (c : UInt8) : Prop :=
  65 ≤ c ∧ c ≤ 90 ∨ 97 ≤ c ∧ c ≤ 122 ∨ 48 ≤ c ∧ c ≤ 57 ∨ c = 45 ∨ c = 95

instance (c : UInt8) : Decidable (IsUrlSafe c) :=
  inferInstanceAs (Decidable (65 ≤ c ∧ c ≤ 90 ∨ 97 ≤ c ∧ c ≤ 122 ∨ 48 ≤ c ∧ c ≤ 57 ∨ c = 45 ∨
    c = 95))

theorem length_sextets : (sextets bs).length = (4 * bs.length + 2) / 3 := by
  fun_induction sextets bs with
  | case1 a b c rest ih =>
    simp only [List.length_cons, ih]
    omega
  | case2 a b => simp
  | case3 a => simp
  | case4 => rfl

theorem isUrlSafe_base64urlChar : ∀ d < 64, IsUrlSafe (base64urlChar d) := by
  decide +kernel

/-- Of every byte string : the decoder returns what was encoded, and the encoding takes a third
more characters, rounded up, each of them safe in a URL. -/
theorem base64url_round_trip (bs : Bytes) :
    base64urlFindDecode (base64urlEncode bs) = bs ∧
    (base64urlEncode bs).length = (4 * bs.length + 2) / 3 ∧
    ∀ c ∈ base64urlEncode bs, IsUrlSafe c := by
  refine ⟨?_, ?_, fun c hc => ?_⟩
  · rw [base64urlFindDecode_eq, base64urlDecode_encode]
  · rw [base64urlEncode, base64urlEncodeLoop_eq, List.nil_append, List.length_map,
      length_sextets]
  · rw [base64urlEncode, base64urlEncodeLoop_eq, List.nil_append] at hc
    obtain ⟨d, hd, rfl⟩ := List.mem_map.mp hc
    exact isUrlSafe_base64urlChar d (sextets_lt bs d hd)

end BoostGateway.Login
