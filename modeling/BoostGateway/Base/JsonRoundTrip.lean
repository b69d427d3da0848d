import Mathlib.Data.List.TakeDrop
import Mathlib.Data.List.TakeWhile
import Mathlib.Data.Nat.Init
import Mathlib.Order.Defs.LinearOrder
import Mathlib.Tactic.SplitIfs
import BoostGateway.Base.Json

/-!
# Reading back what was written

`parse_dump` : the text of a document without floats, on one line or indented, reads
back as the document, up to the one thing the text does not tell, that a number not
below zero is `unsigned` (`asRead`). Floats read back where their texts do
(`parse_dump_of_readable`). The induction is over the document, with what may
follow a number in the text (`Follows`) and a bound on the recursion (`depth`) as
hypotheses.
-/

namespace BoostGateway

namespace Json

/-! ## Space -/

theorem skipSpace_append {ws : List Char} (h : ∀ c ∈ ws, isSpace c) (cs : List Char) :
    skipSpace (ws ++ cs) = skipSpace cs := by
  rw [skipSpace, List.dropWhile_append_of_pos h]
  rfl

variable {c : Char}

theorem skipSpace_cons (h : isSpace c = false) (cs : List Char) :
    skipSpace (c :: cs) = c :: cs := by
  rw [skipSpace, List.dropWhile_cons_of_neg (by simp [h])]

theorem isSpace_newline {style : Option ℕ} {indent : ℕ} :
    ∀ c ∈ newline style indent, isSpace c := by
  intro c hc
  cases style with
  | none => simp [newline] at hc
  | some step =>
    rcases List.mem_cons.mp hc with rfl | hc
    · decide
    · rw [(List.mem_replicate.mp hc).2]
      decide

@[simp] theorem skipSpace_newline (style : Option ℕ) (indent : ℕ) (cs : List Char) :
    skipSpace (newline style indent ++ cs) = skipSpace cs :=
  skipSpace_append isSpace_newline cs

theorem parseValue_append {ws : List Char} (h : ∀ c ∈ ws, isSpace c) (n : ℕ) (cs : List Char) :
    parseValue n (ws ++ cs) = parseValue n cs := by
  cases n with
  | zero => simp [parseValue]
  | succ n => simp only [parseValue, skipSpace_append h]

theorem parseElems_append {ws : List Char} (h : ∀ c ∈ ws, isSpace c) (n : ℕ) (cs : List Char) :
    parseElems n (ws ++ cs) = parseElems n cs := by
  cases n with
  | zero => simp [parseElems]
  | succ n => simp only [parseElems, parseValue_append h]

theorem parseMembers_append {ws : List Char} (h : ∀ c ∈ ws, isSpace c) (n : ℕ)
    (cs : List Char) : parseMembers n (ws ++ cs) = parseMembers n cs := by
  cases n with
  | zero => simp [parseMembers]
  | succ n => simp only [parseMembers, skipSpace_append h]

/-! ## Strings -/

theorem hexValue_hexDigit : ∀ k < 16, hexValue (hexDigit k) = some k := by decide

theorem parseUnicode_control (h : c.toNat < 32) (cs : List Char) :
    parseUnicode ('0' :: '0' :: hexDigit (c.toNat / 16) :: hexDigit (c.toNat % 16) :: cs) =
      some (c, cs) := by
  have h1 : hexValue (hexDigit (c.toNat / 16)) = some (c.toNat / 16) :=
    hexValue_hexDigit _ (by omega)
  have h2 : hexValue (hexDigit (c.toNat % 16)) = some (c.toNat % 16) :=
    hexValue_hexDigit _ (by omega)
  have h0 : hexValue '0' = some 0 := by decide
  have hval : ((0 * 16 + 0) * 16 + c.toNat / 16) * 16 + c.toNat % 16 = c.toNat := by omega
  simp only [parseUnicode, parseHex4, h0, h1, h2, Option.bind_eq_bind, Option.bind_some, hval]
  rw [if_neg (by omega), if_neg (by omega), Char.ofNat_toNat]

theorem parseChars_escape {cs rest : List Char} (h : parseEscape cs = some (c, rest)) (n : ℕ) :
    parseChars (n + 1) ('\\' :: cs) = (parseChars n rest).map fun r => (c :: r.1, r.2) := by
  rw [parseChars, if_neg (by decide), if_pos rfl, h]
  simp only [Option.bind_eq_bind, Option.bind_some]
  cases parseChars n rest <;> rfl

/-- An escaped character is read as itself. -/
theorem parseChars_escapeChar (c : Char) (n : ℕ) (cs : List Char) :
    parseChars (n + 1) (escapeChar c ++ cs) =
      (parseChars n cs).map fun r => (c :: r.1, r.2) := by
  unfold escapeChar
  split_ifs with h1 h2 h3 h4 h5 h6 h7 h8
  · subst h1
    exact parseChars_escape rfl n
  · subst h2
    exact parseChars_escape rfl n
  · subst h3
    exact parseChars_escape rfl n
  · subst h4
    exact parseChars_escape rfl n
  · subst h5
    exact parseChars_escape rfl n
  · subst h6
    exact parseChars_escape rfl n
  · subst h7
    exact parseChars_escape rfl n
  · have hesc : parseEscape ('u' :: '0' :: '0' :: hexDigit (c.toNat / 16) ::
        hexDigit (c.toNat % 16) :: cs) = some (c, cs) := parseUnicode_control h8 cs
    exact parseChars_escape hesc n
  · rw [List.singleton_append, parseChars, if_neg h1, if_neg h2, if_neg h8]
    cases parseChars n cs <;> rfl

theorem parseChars_flatMap (s : List Char) (n : ℕ) (hn : s.length < n) (rest : List Char) :
    parseChars n (s.flatMap escapeChar ++ '"' :: rest) = some (s, rest) := by
  induction s generalizing n with
  | nil =>
    obtain ⟨n, rfl⟩ : ∃ k, n = k + 1 := ⟨n - 1, by simp at hn; omega⟩
    simp [parseChars]
  | cons c s ih =>
    obtain ⟨n, rfl⟩ : ∃ k, n = k + 1 := ⟨n - 1, by simp at hn; omega⟩
    rw [List.flatMap_cons, List.append_assoc, parseChars_escapeChar,
      ih n (by simp at hn; omega)]
    rfl

theorem length_le_length_flatMap_escapeChar (s : List Char) :
    s.length ≤ (s.flatMap escapeChar).length := by
  induction s with
  | nil => simp
  | cons c s ih =>
    have hpos : 1 ≤ (escapeChar c).length := by
      unfold escapeChar
      split_ifs <;> simp
    rw [List.flatMap_cons, List.length_append, List.length_cons]
    omega

theorem parseString_flatMap (s : String) (rest : List Char) :
    parseString (s.toList.flatMap escapeChar ++ '"' :: rest) = some (s, rest) := by
  have hlen := length_le_length_flatMap_escapeChar s.toList
  rw [parseString, parseChars_flatMap _ _ (by simp only [List.length_append]; omega)]
  simp

/-! ## Numbers -/

/-- The text after a number does not go on with it. -/
def Follows (rest : List Char) : Prop :=
  ∀ c, rest.head? = some c → ¬(c.isDigit ∨ c = '.' ∨ c = 'e' ∨ c = 'E')

theorem follows_nil : Follows [] := by
  intro c hc
  simp at hc

theorem follows_cons {cs : List Char} (h : ¬(c.isDigit ∨ c = '.' ∨ c = 'e' ∨ c = 'E')) :
    Follows (c :: cs) := by
  intro d hd
  obtain rfl : c = d := by simpa using hd
  exact h

theorem follows_newline {style : Option ℕ} {indent : ℕ} {cs : List Char} (h : Follows cs) :
    Follows (newline style indent ++ cs) := by
  cases style with
  | none => exact h
  | some step => exact follows_cons (by decide)

theorem isDigit_of_mem_toDigits {k : ℕ} {c : Char} (h : c ∈ Nat.toDigits 10 k) : c.isDigit :=
  Nat.isDigit_of_mem_toDigits (b := 10) (by decide) (by decide) h

theorem toDigits_cons (k : ℕ) : ∃ c cs, Nat.toDigits 10 k = c :: cs ∧ c.isDigit := by
  obtain ⟨c, cs, heq⟩ : ∃ c cs, Nat.toDigits 10 k = c :: cs :=
    List.exists_cons_of_ne_nil (by simp)
  exact ⟨c, cs, heq, isDigit_of_mem_toDigits (heq ▸ List.mem_cons_self)⟩

theorem ne_of_isDigit {d : Char} (hc : c.isDigit) (hd : d.isDigit = false) : c ≠ d := by
  rintro rfl
  rw [hc] at hd
  cases hd

theorem isSpace_of_isDigit (hc : c.isDigit) : isSpace c = false := by
  simp [isSpace, ne_of_isDigit hc]

theorem toDigits_head {n : ℕ} (hn : n ≠ 0) :
    ∃ c cs, Nat.toDigits 10 n = c :: cs ∧ c ≠ '0' ∧ c.isDigit := by
  induction n using Nat.strong_induction_on with
  | _ n ih =>
    rcases Nat.lt_or_ge n 10 with hlt | hge
    · refine ⟨n.digitChar, [], Nat.toDigits_of_lt_base hlt, ?_, ?_⟩
      · have : ∀ k < 10, k ≠ 0 → Nat.digitChar k ≠ '0' := by decide
        exact this n hlt hn
      · have : ∀ k < 10, (Nat.digitChar k).isDigit := by decide
        exact this n hlt
    · obtain ⟨c, cs, heq, hc, hd⟩ := ih (n / 10) (by omega) (by omega)
      refine ⟨c, cs ++ [(n % 10).digitChar], ?_, hc, hd⟩
      rw [Nat.toDigits_of_base_le (by decide) hge, heq]
      rfl

theorem span_digits {ds rest : List Char} (hd : ∀ c ∈ ds, c.isDigit) (hr : Follows rest) :
    (ds ++ rest).span Char.isDigit = (ds, rest) := by
  have hrest : rest.takeWhile Char.isDigit = [] ∧ rest.dropWhile Char.isDigit = rest := by
    cases rest with
    | nil => simp
    | cons c cs =>
      have hc : c.isDigit = false := by
        have := hr c rfl
        simpa using fun h => this (Or.inl h)
      simp [hc]
  rw [List.span_eq_takeWhile_dropWhile, List.takeWhile_append_of_pos hd,
    List.dropWhile_append_of_pos hd, hrest.1, hrest.2, List.append_nil]

theorem parseWhole_toDigits (n : ℕ) {rest : List Char} (hr : Follows rest) :
    parseWhole (Nat.toDigits 10 n ++ rest) = some (Nat.toDigits 10 n, rest) := by
  rcases eq_or_ne n 0 with rfl | hn
  · rw [Nat.toDigits_zero]
    rfl
  · obtain ⟨c, cs, heq, hc, hd⟩ := toDigits_head hn
    have hdig : ∀ d ∈ c :: cs, d.isDigit := fun d hmem => isDigit_of_mem_toDigits (heq ▸ hmem)
    rw [heq, List.cons_append, parseWhole, if_neg hc, if_pos hd, ← List.cons_append,
      span_digits hdig hr]

theorem parseFraction_of_follows {rest : List Char} (hr : Follows rest) :
    parseFraction rest = some (none, rest) := by
  unfold parseFraction
  split
  · exact absurd rfl fun h => hr '.' rfl (Or.inr (Or.inl h))
  · rfl

theorem parseExponent_of_follows {rest : List Char} (hr : Follows rest) :
    parseExponent rest = some (none, rest) := by
  cases rest with
  | nil => rfl
  | cons c cs =>
    unfold parseExponent
    exact if_neg fun h => hr c rfl (Or.inr (Or.inr h))

theorem parseUnsigned_toDigits (negative : Bool) (n : ℕ) {rest : List Char} (hr : Follows rest) :
    parseUnsigned negative (Nat.toDigits 10 n ++ rest) =
      (makeInteger negative n).map fun j => (j, rest) := by
  simp only [parseUnsigned, parseWhole_toDigits n hr, parseFraction_of_follows hr,
    parseExponent_of_follows hr, Option.bind_eq_bind, Option.bind_some,
    Nat.ofDigitChars_toDigits (by decide : 1 < 10) (Nat.le_refl 10), Option.map_eq_bind]
  rfl

theorem parseValue_scalar (hs : isSpace c = false) (hb : c ≠ '[') (ho : c ≠ '{')
    (n : ℕ) (cs : List Char) : parseValue (n + 1) (c :: cs) = parseScalar (c :: cs) := by
  rw [parseValue, skipSpace_cons hs]
  split
  · rename_i h
    cases h
    exact absurd rfl hb
  · rename_i h
    cases h
    exact absurd rfl ho
  · rfl

theorem parseScalar_digit (hc : c.isDigit) (cs : List Char) :
    parseScalar (c :: cs) = parseUnsigned false (c :: cs) := by
  unfold parseScalar
  split
  · rename_i h; cases h; exact absurd hc (by decide)
  · rename_i h; cases h; exact absurd hc (by decide)
  · rename_i h; cases h; exact absurd hc (by decide)
  · rename_i h; cases h; exact absurd hc (by decide)
  · unfold parseNumber
    split
    · rename_i h; cases h; exact absurd hc (by decide)
    · rfl

theorem parseScalar_number (hc : c.isDigit ∨ c = '-') (cs : List Char) :
    parseScalar (c :: cs) = parseNumber (c :: cs) := by
  rcases hc with hc | rfl
  · rw [parseScalar_digit hc]
    unfold parseNumber
    split
    · rename_i h; cases h; exact absurd hc (by decide)
    · rfl
  · rfl

/-- The text of a natural number is read as that number. -/
theorem parseValue_toDigits (k n : ℕ) {rest : List Char} (hr : Follows rest) :
    parseValue (n + 1) (Nat.toDigits 10 k ++ rest) =
      (makeInteger false k).map fun j => (j, rest) := by
  obtain ⟨c, cs, heq, hc⟩ := toDigits_cons k
  rw [← parseUnsigned_toDigits false k hr, heq, List.cons_append,
    parseValue_scalar (isSpace_of_isDigit hc) (ne_of_isDigit hc (by decide))
      (ne_of_isDigit hc (by decide)),
    parseScalar_digit hc]

theorem parseValue_neg (k n : ℕ) {rest : List Char} (hr : Follows rest) :
    parseValue (n + 1) ('-' :: Nat.toDigits 10 k ++ rest) =
      (makeInteger true k).map fun j => (j, rest) := by
  rw [← parseUnsigned_toDigits true k hr, List.cons_append,
    parseValue_scalar (by decide) (by decide) (by decide)]
  rfl

/-! ## The document that is read back -/

mutual

/-- The document as its text tells it : a number not below zero is unsigned. -/
def asRead : Json → Json
  | .integer i => if i.toInt < 0 then .integer i else .unsigned (UInt64.ofNat i.toInt.natAbs)
  | .array xs => .array (asReadElems xs)
  | .object ms => .object (asReadMembers ms)
  | .null => .null
  | .bool b => .bool b
  | .unsigned n => .unsigned n
  | .float x => .float x
  | .string s => .string s

def asReadElems : List Json → List Json
  | [] => []
  | x :: xs => asRead x :: asReadElems xs

def asReadMembers : List (String × Json) → List (String × Json)
  | [] => []
  | (k, v) :: ms => (k, asRead v) :: asReadMembers ms

end

mutual

theorem asRead_asRead (j : Json) : asRead (asRead j) = asRead j := by
  match j with
  | .integer i =>
    rw [asRead]
    split_ifs with hi
    · rw [asRead, if_pos hi]
    · rfl
  | .array xs => rw [asRead, asRead, asReadElems_asReadElems xs]
  | .object ms => rw [asRead, asRead, asReadMembers_asReadMembers ms]
  | .null | .bool _ | .unsigned _ | .float _ | .string _ => rfl

theorem asReadElems_asReadElems (xs : List Json) :
    asReadElems (asReadElems xs) = asReadElems xs := by
  match xs with
  | [] => rfl
  | x :: xs =>
    rw [asReadElems, asReadElems, asRead_asRead x, asReadElems_asReadElems xs]

theorem asReadMembers_asReadMembers (ms : List (String × Json)) :
    asReadMembers (asReadMembers ms) = asReadMembers ms := by
  match ms with
  | [] => rfl
  | (k, v) :: ms =>
    rw [asReadMembers, asReadMembers, asRead_asRead v, asReadMembers_asReadMembers ms]

end

/-- Equal as `operator==` has it : a number is the same in either integer type. -/
def Same (j k : Json) : Prop := asRead j = asRead k

theorem same_asRead (j : Json) : Same (asRead j) j := asRead_asRead j

mutual

/-- No floats, and the members of objects in increasing order of their keys. -/
def Plain : Json → Prop
  | .float _ => False
  | .array xs => PlainElems xs
  | .object ms => (ms.map Prod.fst).Pairwise (keyLess · ·) ∧ PlainMembers ms
  | .null | .bool _ | .unsigned _ | .integer _ | .string _ => True

def PlainElems : List Json → Prop
  | [] => True
  | x :: xs => Plain x ∧ PlainElems xs

def PlainMembers : List (String × Json) → Prop
  | [] => True
  | (_, v) :: ms => Plain v ∧ PlainMembers ms

end

/-- The text of the number reads back as the number : it is made of the characters of a
number, starts with a digit or a sign, and is read as the number before anything that may
follow one. The library writes a finite double so, and any other as `null`. -/
structure FloatReads (floatText : Float → List Char) (x : Float) : Prop where
  starts : ∃ c cs, floatText x = c :: cs ∧ (c.isDigit ∨ c = '-')
  chars : ∀ c ∈ floatText x, c.isDigit ∨ c = '-' ∨ c = '+' ∨ c = '.' ∨ c = 'e'
  reads : ∀ rest, Follows rest → parseNumber (floatText x ++ rest) = some (.float x, rest)

mutual

/-- The floats have texts that read back, and the members of objects are in increasing
order of their keys. -/
def Readable (floatText : Float → List Char) : Json → Prop
  | .float x => FloatReads floatText x
  | .array xs => ReadableElems floatText xs
  | .object ms => (ms.map Prod.fst).Pairwise (keyLess · ·) ∧ ReadableMembers floatText ms
  | .null | .bool _ | .unsigned _ | .integer _ | .string _ => True

def ReadableElems (floatText : Float → List Char) : List Json → Prop
  | [] => True
  | x :: xs => Readable floatText x ∧ ReadableElems floatText xs

def ReadableMembers (floatText : Float → List Char) : List (String × Json) → Prop
  | [] => True
  | (_, v) :: ms => Readable floatText v ∧ ReadableMembers floatText ms

end

mutual

theorem readable_of_plain {floatText : Float → List Char} (j : Json) (hj : Plain j) :
    Readable floatText j := by
  match j with
  | .float x => exact absurd hj (by simp [Plain])
  | .array xs => exact readableElems_of_plain xs hj
  | .object ms => exact ⟨hj.1, readableMembers_of_plain ms hj.2⟩
  | .null | .bool _ | .unsigned _ | .integer _ | .string _ => trivial

theorem readableElems_of_plain {floatText : Float → List Char} (xs : List Json)
    (hj : PlainElems xs) : ReadableElems floatText xs := by
  match xs with
  | [] => trivial
  | x :: xs => exact ⟨readable_of_plain x hj.1, readableElems_of_plain xs hj.2⟩

theorem readableMembers_of_plain {floatText : Float → List Char} (ms : List (String × Json))
    (hj : PlainMembers ms) : ReadableMembers floatText ms := by
  match ms with
  | [] => trivial
  | (k, v) :: ms => exact ⟨readable_of_plain v hj.1, readableMembers_of_plain ms hj.2⟩

end

mutual

/-- A bound on the recursion of the parser on the text of a document. -/
def depth : Json → ℕ
  | .array xs => 1 + depthElems xs
  | .object ms => 1 + depthMembers ms
  | .null | .bool _ | .unsigned _ | .integer _ | .float _ | .string _ => 1

def depthElems : List Json → ℕ
  | [] => 0
  | x :: xs => 1 + depth x + depthElems xs

def depthMembers : List (String × Json) → ℕ
  | [] => 0
  | (_, v) :: ms => 1 + depth v + depthMembers ms

end

theorem depth_pos (j : Json) : 1 ≤ depth j := by
  cases j <;> simp [depth]

theorem map_fst_asReadMembers (ms : List (String × Json)) :
    (asReadMembers ms).map Prod.fst = ms.map Prod.fst := by
  induction ms with
  | nil => rfl
  | cons m ms ih => rw [asReadMembers, List.map_cons, List.map_cons, ih]

/-! ## Members in order -/

theorem textLess_asymm {cs ds : List Char} (h : textLess cs ds) : ¬textLess ds cs := by
  induction cs generalizing ds with
  | nil =>
    cases ds with
    | nil => simp [textLess] at h
    | cons d ds => simp [textLess]
  | cons c cs ih =>
    cases ds with
    | nil => simp [textLess] at h
    | cons d ds =>
      simp only [textLess, Bool.or_eq_true, Bool.and_eq_true, decide_eq_true_eq] at h ⊢
      rintro (hlt | ⟨heq, hds⟩)
      · omega
      · rcases h with hlt | ⟨-, hcs⟩
        · omega
        · exact ih hcs hds

theorem insertMember_last {key : String} {value : Json} {ms : List (String × Json)}
    (h : ∀ m ∈ ms, keyLess m.1 key) : insertMember key value ms = ms ++ [(key, value)] := by
  induction ms with
  | nil => rfl
  | cons m ms ih =>
    have hm : keyLess m.1 key := h m List.mem_cons_self
    have hlt : ¬keyLess key m.1 := textLess_asymm hm
    have hne : key ≠ m.1 := fun heq => textLess_asymm hm (heq ▸ hm)
    rw [insertMember, if_neg hlt, if_neg hne, ih fun m hm => h m (List.mem_cons_of_mem _ hm),
      List.cons_append]

theorem foldl_insertMember {acc ms : List (String × Json)}
    (h : ((acc ++ ms).map Prod.fst).Pairwise (keyLess · ·)) :
    ms.foldl (fun acc m => insertMember m.1 m.2 acc) acc = acc ++ ms := by
  induction ms generalizing acc with
  | nil => simp
  | cons m ms ih =>
    have hlast : ∀ m' ∈ acc, keyLess m'.1 m.1 := by
      intro m' hm'
      rw [List.map_append, List.pairwise_append] at h
      exact h.2.2 _ (List.mem_map_of_mem hm') _ (List.mem_map_of_mem List.mem_cons_self)
    rw [List.foldl_cons, insertMember_last hlast, ih (by simpa using h)]
    simp

/-- Members in increasing order are the members of the object they are set in. -/
theorem ofMembers_of_pairwise {ms : List (String × Json)}
    (h : (ms.map Prod.fst).Pairwise (keyLess · ·)) : ofMembers ms = .object ms := by
  rw [ofMembers, foldl_insertMember (by simpa using h), List.nil_append]

/-! ## Values -/

variable {floatText : Float → List Char} {style : Option ℕ}

theorem wrap_cons (indent : ℕ) (left right : Char) (t : List Char) (ts : List (List Char))
    (rest : List Char) :
    wrap style indent left right (t :: ts) ++ rest =
      left :: (newline style (indent + style.getD 0) ++ (t ++
        (ts.flatMap (fun t => ',' :: (newline style (indent + style.getD 0) ++ t)) ++
          (newline style indent ++ right :: rest)))) := by
  simp [wrap]

/-- A character a value may start with : no space, no closing bracket, no byte order mark. -/
def Opens (c : Char) : Prop := isSpace c = false ∧ c ≠ ']' ∧ c ≠ '\uFEFF'

instance (c : Char) : Decidable (Opens c) :=
  inferInstanceAs (Decidable (_ ∧ _ ∧ _))

theorem ne_of_number {c d : Char} (hc : c.isDigit ∨ c = '-') (hd : d.isDigit = false)
    (hm : '-' ≠ d) : c ≠ d := by
  rcases hc with hc | rfl
  · exact ne_of_isDigit hc hd
  · exact hm

theorem opens_number {c : Char} (hc : c.isDigit ∨ c = '-') : Opens c := by
  refine ⟨?_, ne_of_number hc (by decide) (by decide), ne_of_number hc (by decide) (by decide)⟩
  rcases hc with hc | rfl
  · exact isSpace_of_isDigit hc
  · decide

theorem toDigits_opens (k : ℕ) : ∃ c cs, Nat.toDigits 10 k = c :: cs ∧ Opens c := by
  obtain ⟨c, cs, heq, hc⟩ := toDigits_cons k
  exact ⟨c, cs, heq, isSpace_of_isDigit hc, ne_of_isDigit hc (by decide),
    ne_of_isDigit hc (by decide)⟩

theorem wrap_opens {left : Char} (hl : Opens left) (right : Char) (indent : ℕ)
    (ts : List (List Char)) : ∃ c cs, wrap style indent left right ts = c :: cs ∧ Opens c := by
  cases ts with
  | nil => exact ⟨left, _, rfl, hl⟩
  | cons t ts => exact ⟨left, _, rfl, hl⟩

variable {j : Json}

theorem dump_opens (hj : Readable floatText j) (indent : ℕ) :
    ∃ c cs, dump floatText style indent j = c :: cs ∧ Opens c := by
  cases j with
  | null => exact ⟨'n', _, rfl, by decide⟩
  | bool b =>
    cases b
    · exact ⟨'f', _, rfl, by decide⟩
    · exact ⟨'t', _, rfl, by decide⟩
  | unsigned n =>
    rw [dump]
    exact toDigits_opens n.toNat
  | integer i =>
    rw [dump, intText]
    split_ifs
    · exact ⟨'-', _, rfl, by decide⟩
    · exact toDigits_opens i.toInt.natAbs
  | float x =>
    obtain ⟨c, cs, heq, hc⟩ := FloatReads.starts hj
    exact ⟨c, cs, heq, opens_number hc⟩
  | string s =>
    rw [dump]
    exact ⟨'"', _, rfl, by decide⟩
  | array xs =>
    rw [dump]
    exact wrap_opens (by decide) _ _ _
  | object ms =>
    rw [dump]
    exact wrap_opens (by decide) _ _ _

theorem parseValue_float {x : Float} (hx : FloatReads floatText x) (n indent : ℕ)
    {rest : List Char} (hr : Follows rest) :
    parseValue (n + 1) (dump floatText style indent (.float x) ++ rest) =
      some (asRead (.float x), rest) := by
  obtain ⟨c, cs, heq, hc⟩ := hx.starts
  have hread := hx.reads rest hr
  rw [dump, asRead]
  rw [heq, List.cons_append] at hread ⊢
  rw [parseValue_scalar (opens_number hc).1 (ne_of_number hc (by decide) (by decide))
    (ne_of_number hc (by decide) (by decide)), parseScalar_number hc, hread]

theorem parseValue_integer (i : Int64) (n indent : ℕ) {rest : List Char} (hr : Follows rest) :
    parseValue (n + 1) (dump floatText style indent (.integer i) ++ rest) =
      some (asRead (.integer i), rest) := by
  have hlo := i.le_toInt
  have hhi := i.toInt_lt
  rw [dump, intText, asRead]
  split_ifs with hi
  · have hval : -(i.toInt.natAbs : ℤ) = i.toInt := by omega
    rw [parseValue_neg _ _ hr, makeInteger, if_pos rfl, if_pos (by omega), hval,
      Int64.ofInt_toInt]
    rfl
  · rw [parseValue_toDigits _ _ hr, makeInteger, if_neg (by decide), if_pos (by omega)]
    rfl

theorem parseValue_string (s : String) (n indent : ℕ) (rest : List Char) :
    parseValue (n + 1) (dump floatText style indent (.string s) ++ rest) =
      some (.string s, rest) := by
  rw [dump, quote, List.append_assoc, List.cons_append,
    parseValue_scalar (by decide) (by decide) (by decide)]
  unfold parseScalar
  simp only [List.singleton_append, parseString_flatMap, Option.map_some]

/-- The text after the first element or member, up to and past the closing bracket. -/
def rests (style : Option ℕ) (indent : ℕ) (right : Char) (ts : List (List Char))
    (rest : List Char) : List Char :=
  ts.flatMap (fun t => ',' :: (newline style (indent + style.getD 0) ++ t)) ++
    (newline style indent ++ right :: rest)

theorem rests_nil (indent : ℕ) (right : Char) (rest : List Char) :
    rests style indent right [] rest = newline style indent ++ right :: rest := rfl

theorem rests_cons (indent : ℕ) (right : Char) (t : List Char) (ts : List (List Char))
    (rest : List Char) :
    rests style indent right (t :: ts) rest = ',' ::
      (newline style (indent + style.getD 0) ++ (t ++ rests style indent right ts rest)) := by
  simp [rests]

theorem follows_rests {indent : ℕ} {right : Char} {ts : List (List Char)} {rest : List Char}
    (h : ¬(right.isDigit ∨ right = '.' ∨ right = 'e' ∨ right = 'E')) :
    Follows (rests style indent right ts rest) := by
  cases ts with
  | nil => exact follows_newline (follows_cons h)
  | cons t ts =>
    rw [rests_cons]
    exact follows_cons (by decide)

theorem isSpace_colon : ∀ c ∈ (style.map fun _ => [' ']).getD [], isSpace c := by
  cases style with
  | none => simp
  | some step => simp; decide

mutual

/-- The text of a value is read as the value, whatever follows it. -/
theorem parseValue_dump (j : Json) (hj : Readable floatText j) (n indent : ℕ) (hn : depth j ≤ n)
    (rest : List Char) (hr : Follows rest) :
    parseValue n (dump floatText style indent j ++ rest) = some (asRead j, rest) := by
  match n, j with
  | 0, j => exact absurd (depth_pos j) (by omega)
  | n + 1, .null => exact parseValue_scalar (by decide) (by decide) (by decide) n _
  | n + 1, .bool true => exact parseValue_scalar (by decide) (by decide) (by decide) n _
  | n + 1, .bool false => exact parseValue_scalar (by decide) (by decide) (by decide) n _
  | n + 1, .unsigned k =>
    rw [dump, parseValue_toDigits _ _ hr, makeInteger, if_neg (by decide),
      if_pos k.toNat_lt, asRead, UInt64.ofNat_toNat]
    rfl
  | n + 1, .integer i => exact parseValue_integer i n indent hr
  | n + 1, .float x => exact parseValue_float hj n indent hr
  | n + 1, .string s => exact parseValue_string s n indent rest
  | n + 1, .array [] =>
    rw [dump, dumpElems, asRead, asReadElems]
    rfl
  | n + 1, .array (x :: xs) =>
    obtain ⟨c, cs, hhead, hc⟩ :
        ∃ c cs, dump floatText style (indent + style.getD 0) x = c :: cs ∧ Opens c :=
      dump_opens hj.1 _
    have helems := parseElems_dump x xs hj n indent (by simp only [depth] at hn; omega) rest
    rw [dump, dumpElems, wrap_cons, ← rests, asRead, parseValue, skipSpace_cons (by decide)]
    simp only [skipSpace_newline]
    rw [hhead, List.cons_append] at helems ⊢
    rw [skipSpace_cons hc.1]
    split
    · rename_i h
      cases h
      exact absurd rfl hc.2.1
    · rw [helems]
      rfl
  | n + 1, .object [] =>
    rw [dump, dumpMembers, asRead, asReadMembers]
    rfl
  | n + 1, .object ((k, v) :: ms) =>
    have hmembers := parseMembers_dump k v ms hj.2 n indent
      (by simp only [depth] at hn; omega) rest
    rw [dump, dumpMembers, wrap_cons, ← rests, asRead, parseValue, skipSpace_cons (by decide)]
    simp only [skipSpace_newline]
    rw [quote, List.append_assoc, List.cons_append, List.cons_append] at hmembers ⊢
    rw [skipSpace_cons (by decide)]
    split
    · rename_i h
      simp at h
    · rw [hmembers, Option.map_some, ofMembers_of_pairwise]
      rw [map_fst_asReadMembers]
      exact hj.1
termination_by n

theorem parseElems_dump (x : Json) (xs : List Json) (hj : ReadableElems floatText (x :: xs))
    (n indent : ℕ)
    (hn : depthElems (x :: xs) ≤ n) (rest : List Char) :
    parseElems n (dump floatText style (indent + style.getD 0) x ++
        rests style indent ']' (dumpElems floatText style (indent + style.getD 0) xs) rest) =
      some (asReadElems (x :: xs), rest) := by
  cases n with
  | zero => simp only [depthElems] at hn; omega
  | succ n =>
    rw [parseElems, parseValue_dump x hj.1 n _ (by simp only [depthElems] at hn; omega) _
      (follows_rests (by decide))]
    match xs with
    | [] =>
      rw [dumpElems, rests_nil]
      simp only [Option.bind_eq_bind, Option.bind_some, skipSpace_newline,
        skipSpace_cons (show isSpace ']' = false by decide), asReadElems]
    | y :: ys =>
      have htail := parseElems_dump y ys hj.2 n indent
        (by simp only [depthElems] at hn ⊢; omega) rest
      rw [dumpElems, rests_cons]
      simp only [Option.bind_eq_bind, Option.bind_some,
        skipSpace_cons (show isSpace ',' = false by decide), parseElems_append isSpace_newline,
        htail]
      rw [asReadElems, asReadElems, asReadElems]
termination_by n

theorem parseMembers_dump (k : String) (v : Json) (ms : List (String × Json))
    (hj : ReadableMembers floatText ((k, v) :: ms)) (n indent : ℕ)
    (hn : depthMembers ((k, v) :: ms) ≤ n)
    (rest : List Char) :
    parseMembers n (quote k.toList ++ ':' :: ((style.map fun _ => [' ']).getD [] ++
          dump floatText style (indent + style.getD 0) v) ++
        rests style indent '}' (dumpMembers floatText style (indent + style.getD 0) ms) rest) =
      some (asReadMembers ((k, v) :: ms), rest) := by
  cases n with
  | zero => simp only [depthMembers] at hn; omega
  | succ n =>
    have hval := parseValue_dump v hj.1 n (indent + style.getD 0)
      (by simp only [depthMembers] at hn; omega)
      (rests style indent '}' (dumpMembers floatText style (indent + style.getD 0) ms) rest)
      (follows_rests (by decide))
    rw [quote]
    simp only [List.append_assoc, List.cons_append, List.nil_append]
    rw [parseMembers, skipSpace_cons (by decide)]
    simp only [parseString_flatMap, Option.bind_eq_bind, Option.bind_some,
      skipSpace_cons (show isSpace ':' = false by decide), parseValue_append isSpace_colon, hval]
    match ms with
    | [] =>
      rw [dumpMembers, rests_nil]
      simp only [skipSpace_newline, skipSpace_cons (show isSpace '}' = false by decide),
        asReadMembers]
    | (k', v') :: ms' =>
      have htail := parseMembers_dump k' v' ms' hj.2 n indent
        (by simp only [depthMembers] at hn ⊢; omega) rest
      rw [dumpMembers, rests_cons]
      simp only [skipSpace_cons (show isSpace ',' = false by decide),
        parseMembers_append isSpace_newline, htail]
      rfl
termination_by n

end

/-! ## Whole texts -/

theorem length_wrap (indent : ℕ) (left right : Char) (ts : List (List Char)) :
    1 + (ts.flatMap (',' :: ·)).length ≤ (wrap style indent left right ts).length := by
  have hflat : ∀ ts : List (List Char), (ts.flatMap (',' :: ·)).length ≤
      (ts.flatMap fun t => ',' :: (newline style (indent + style.getD 0) ++ t)).length := by
    intro ts
    induction ts with
    | nil => simp
    | cons t ts ih =>
      simp only [List.flatMap_cons, List.length_append, List.length_cons]
      omega
  cases ts with
  | nil => simp [wrap]
  | cons t ts =>
    have := hflat ts
    simp only [wrap, List.flatMap_cons, List.length_append, List.length_cons]
    omega

mutual

/-- The text of a document is long enough for the parser's bound. -/
theorem depth_le_length (j : Json) (hj : Readable floatText j) (indent : ℕ) :
    depth j ≤ (dump floatText style indent j).length := by
  match j with
  | .null => simp [depth, dump]
  | .bool true => simp [depth, dump]
  | .bool false => simp [depth, dump]
  | .unsigned k =>
    rw [depth, dump]
    exact List.length_pos_iff.mpr (by simp)
  | .integer i =>
    rw [depth, dump, intText]
    split_ifs
    · simp
    · exact List.length_pos_iff.mpr (by simp)
  | .float x =>
    obtain ⟨c, cs, heq, -⟩ := FloatReads.starts hj
    simp [depth, dump, heq]
  | .string s => simp [depth, dump, quote]
  | .array xs =>
    rw [depth, dump]
    have helems := depthElems_le_length xs hj (indent + style.getD 0)
    have hwrap := @length_wrap style indent '[' ']'
      (dumpElems floatText style (indent + style.getD 0) xs)
    omega
  | .object ms =>
    rw [depth, dump]
    have hmembers := depthMembers_le_length ms hj.2 (indent + style.getD 0)
    have hwrap := @length_wrap style indent '{' '}'
      (dumpMembers floatText style (indent + style.getD 0) ms)
    omega

theorem depthElems_le_length (xs : List Json) (hj : ReadableElems floatText xs) (indent : ℕ) :
    depthElems xs ≤ ((dumpElems floatText style indent xs).flatMap (',' :: ·)).length := by
  match xs with
  | [] => simp [depthElems]
  | x :: xs =>
    have hx := depth_le_length x hj.1 indent
    have hxs := depthElems_le_length xs hj.2 indent
    simp only [depthElems, dumpElems, List.flatMap_cons, List.length_append, List.length_cons]
    omega

theorem depthMembers_le_length (ms : List (String × Json)) (hj : ReadableMembers floatText ms)
    (indent : ℕ) :
    depthMembers ms ≤ ((dumpMembers floatText style indent ms).flatMap (',' :: ·)).length := by
  match ms with
  | [] => simp [depthMembers]
  | (k, v) :: ms =>
    have hv := depth_le_length v hj.1 indent
    have hms := depthMembers_le_length ms hj.2 indent
    simp only [depthMembers, dumpMembers, List.flatMap_cons, List.length_append,
      List.length_cons]
    omega

end

theorem parseText_dump (hj : Readable floatText j) (strict : Bool) (indent : ℕ) :
    parseText strict (dump floatText style indent j) = some (asRead j) := by
  have hdepth : depth j ≤ (dump floatText style indent j).length := depth_le_length j hj indent
  have hvalue : parseValue ((dump floatText style indent j).length + 1)
      (dump floatText style indent j ++ []) = some (asRead j, []) :=
    parseValue_dump j hj _ indent (by omega) [] follows_nil
  rw [List.append_nil] at hvalue
  rw [parseText, hvalue]
  simp [skipSpace]

/-- The characters of a text : no control characters, but for the line feeds of an indented
one. -/
def Shown (style : Option ℕ) (c : Char) : Prop := 32 ≤ c.toNat ∨ style.isSome ∧ c = '\n'

theorem shown_of_all {cs : List Char} (h : cs.all fun c => 32 ≤ c.toNat) {c : Char} (hc : c ∈ cs) :
    Shown style c :=
  .inl (of_decide_eq_true (List.all_eq_true.mp h c hc))

theorem shown_of_isDigit {c : Char} (h : c.isDigit) : Shown style c := by
  have h48 : 48 ≤ c.toNat := (Char.isDigit_iff_toNat.mp h).1
  exact .inl (by omega)

theorem shown_of_mem_escapeChar {c x : Char} (h : x ∈ escapeChar c) : Shown style x := by
  have hhex : ∀ k < 16, 32 ≤ (hexDigit k).toNat := by decide
  refine .inl ?_
  unfold escapeChar at h
  split_ifs at h with h1 h2 h3 h4 h5 h6 h7 h8
  all_goals simp only [List.mem_cons, List.not_mem_nil, or_false] at h
  all_goals try
    rcases h with rfl | rfl
    all_goals decide
  · rcases h with rfl | rfl | rfl | rfl | rfl | rfl
    · decide
    · decide
    · decide
    · decide
    · exact hhex _ (by omega)
    · exact hhex _ (by omega)
  · rw [h]
    exact not_lt.mp h8

theorem shown_of_mem_quote {s : List Char} {c : Char} (h : c ∈ quote s) : Shown style c := by
  rcases List.mem_append.mp h with h | h
  · rcases List.mem_cons.mp h with rfl | h
    · exact .inl (by decide)
    · obtain ⟨d, -, h⟩ := List.mem_flatMap.mp h
      exact shown_of_mem_escapeChar h
  · rw [List.mem_singleton.mp h]
    exact .inl (by decide)

theorem shown_of_mem_newline {indent : ℕ} {c : Char} (h : c ∈ newline style indent) :
    Shown style c := by
  cases style with
  | none => simp [newline] at h
  | some step =>
    rcases List.mem_cons.mp h with rfl | h
    · exact .inr ⟨rfl, rfl⟩
    · rw [(List.mem_replicate.mp h).2]
      exact .inl (by decide)

theorem shown_of_mem_wrap {left right : Char} (hl : Shown style left) (hr : Shown style right)
    {indent : ℕ} {ts : List (List Char)} (h : ∀ t ∈ ts, ∀ c ∈ t, Shown style c) :
    ∀ c ∈ wrap style indent left right ts, Shown style c := by
  intro c hc
  cases ts with
  | nil =>
    rcases List.mem_cons.mp hc with rfl | hc
    · exact hl
    · rw [List.mem_singleton.mp hc]
      exact hr
  | cons t ts =>
    simp only [wrap, List.mem_append, List.mem_cons, List.mem_flatMap, List.not_mem_nil,
      or_false] at hc
    rcases hc with (((rfl | hc | hc) | ⟨t', ht', rfl | hc | hc⟩) | hc) | rfl
    · exact hl
    · exact shown_of_mem_newline hc
    · exact h t List.mem_cons_self c hc
    · exact .inl (by decide)
    · exact shown_of_mem_newline hc
    · exact h t' (List.mem_cons_of_mem _ ht') c hc
    · exact shown_of_mem_newline hc
    · exact hr

mutual

theorem shown_of_mem_dump (j : Json) (hj : Readable floatText j) (indent : ℕ) :
    ∀ c ∈ dump floatText style indent j, Shown style c := by
  intro c hc
  match j with
  | .null | .bool true | .bool false =>
    rw [dump] at hc
    exact shown_of_all (by decide) hc
  | .unsigned k =>
    rw [dump] at hc
    exact shown_of_isDigit (isDigit_of_mem_toDigits hc)
  | .integer i =>
    rw [dump, intText] at hc
    split_ifs at hc
    · rcases List.mem_cons.mp hc with rfl | hc
      · exact .inl (by decide)
      · exact shown_of_isDigit (isDigit_of_mem_toDigits hc)
    · exact shown_of_isDigit (isDigit_of_mem_toDigits hc)
  | .float x =>
    rw [dump] at hc
    rcases FloatReads.chars hj _ hc with hd | rfl | rfl | rfl | rfl
    · exact shown_of_isDigit hd
    all_goals exact .inl (by decide)
  | .string s =>
    rw [dump] at hc
    exact shown_of_mem_quote hc
  | .array xs =>
    rw [dump] at hc
    exact shown_of_mem_wrap (.inl (by decide)) (.inl (by decide))
      (shown_of_mem_dumpElems xs hj _) c hc
  | .object ms =>
    rw [dump] at hc
    exact shown_of_mem_wrap (.inl (by decide)) (.inl (by decide))
      (shown_of_mem_dumpMembers ms hj.2 _) c hc

theorem shown_of_mem_dumpElems (xs : List Json) (hj : ReadableElems floatText xs) (indent : ℕ) :
    ∀ t ∈ dumpElems floatText style indent xs, ∀ c ∈ t, Shown style c := by
  match xs with
  | [] => simp [dumpElems]
  | x :: xs =>
    intro t ht
    rcases List.mem_cons.mp ht with rfl | ht
    · exact shown_of_mem_dump x hj.1 indent
    · exact shown_of_mem_dumpElems xs hj.2 indent t ht

theorem shown_of_mem_dumpMembers (ms : List (String × Json))
    (hj : ReadableMembers floatText ms) (indent : ℕ) :
    ∀ t ∈ dumpMembers floatText style indent ms, ∀ c ∈ t, Shown style c := by
  match ms with
  | [] => simp [dumpMembers]
  | (k, v) :: ms =>
    intro t ht c hc
    rcases List.mem_cons.mp ht with rfl | ht
    · simp only [List.mem_append, List.mem_cons] at hc
      rcases hc with hc | rfl | hc | hc
      · exact shown_of_mem_quote hc
      · exact .inl (by decide)
      · cases style with
        | none => cases hc
        | some step =>
          rw [List.mem_singleton.mp hc]
          exact .inl (by decide)
      · exact shown_of_mem_dump v hj.1 indent c hc
    · exact shown_of_mem_dumpMembers ms hj.2 indent t ht c hc

end

theorem zero_notMem_dump (hj : Readable floatText j) (indent : ℕ) :
    '\x00' ∉ dump floatText style indent j := by
  intro h
  rcases shown_of_mem_dump j hj indent _ h with h | ⟨-, h⟩
  · exact absurd h (by decide)
  · exact absurd h (by decide)

/-- A text that is not indented is one line. -/
theorem lineFeed_notMem_dump (hj : Readable floatText j) (indent : ℕ) :
    '\n' ∉ dump floatText none indent j := by
  intro h
  rcases shown_of_mem_dump j hj indent _ h with h | ⟨h, -⟩
  · exact absurd h (by decide)
  · cases h

/-- The bytes a document is written as read back as the document. -/
theorem parse_dump_of_readable (hj : Readable floatText j) (strict : Bool) (indent : ℕ) :
    parse strict (encodeUtf8 (dump floatText style indent j)) = some (asRead j) := by
  have hzero : (0 : UInt8) ∉ encodeUtf8 (dump floatText style indent j) :=
    zero_notMem_encodeUtf8 (zero_notMem_dump hj indent)
  have htake : (encodeUtf8 (dump floatText style indent j)).takeWhile (· ≠ 0) =
      encodeUtf8 (dump floatText style indent j) := by
    rw [List.takeWhile_eq_self_iff]
    intro b hb
    exact decide_eq_true fun h => hzero (h ▸ hb)
  obtain ⟨c, cs, hhead, hc⟩ : ∃ c cs, dump floatText style indent j = c :: cs ∧ Opens c :=
    dump_opens hj indent
  have hmark : dropMark (c :: cs) = c :: cs := by
    unfold dropMark
    split
    · rename_i h
      cases h
      exact absurd rfl hc.2.2
    · rfl
  rw [parse, htake, decodeUtf8_encodeUtf8, Option.bind_eq_bind, Option.bind_some, hhead, hmark,
    ← hhead, parseText_dump hj]

/-- The bytes of a document without floats read back, however floats are written. -/
theorem parse_dump (hj : Plain j) (strict : Bool) (indent : ℕ) :
    parse strict (encodeUtf8 (dump floatText style indent j)) = some (asRead j) :=
  parse_dump_of_readable (readable_of_plain j hj) strict indent

/-! ## Objects -/

theorem textLess_trans {cs ds es : List Char} (h : textLess cs ds) (h' : textLess ds es) :
    textLess cs es := by
  induction cs generalizing ds es with
  | nil =>
    cases ds with
    | nil => simp [textLess] at h
    | cons d ds =>
      cases es with
      | nil => simp [textLess] at h'
      | cons e es => rfl
  | cons c cs ih =>
    cases ds with
    | nil => simp [textLess] at h
    | cons d ds =>
      cases es with
      | nil => simp [textLess] at h'
      | cons e es =>
        simp only [textLess, Bool.or_eq_true, decide_eq_true_eq, Bool.and_eq_true] at h h' ⊢
        rcases h with h | ⟨h, ht⟩ <;> rcases h' with h' | ⟨h', ht'⟩
        · exact .inl (by omega)
        · exact .inl (by omega)
        · exact .inl (by omega)
        · exact .inr ⟨by omega, ih ht ht'⟩

theorem textLess_or_eq {cs ds : List Char} (h : ¬textLess cs ds) (hne : cs ≠ ds) :
    textLess ds cs := by
  induction cs generalizing ds with
  | nil =>
    cases ds with
    | nil => exact absurd rfl hne
    | cons d ds => simp [textLess] at h
  | cons c cs ih =>
    cases ds with
    | nil => rfl
    | cons d ds =>
      simp only [textLess, Bool.or_eq_true, decide_eq_true_eq, Bool.and_eq_true, not_or, not_and]
        at h ⊢
      by_cases hcd : c.toNat = d.toNat
      · refine .inr ⟨hcd.symm, ih (h.2 hcd) fun heq => hne ?_⟩
        rw [heq, Char.toNat_inj.mp hcd]
      · exact .inl (by omega)

variable {ms : List (String × Json)}

/-- Setting a member keeps the keys in order. -/
theorem pairwise_insertMember
    (h : (ms.map Prod.fst).Pairwise (keyLess · ·)) (key : String) (value : Json) :
    ((insertMember key value ms).map Prod.fst).Pairwise (keyLess · ·) ∧
      ∀ k ∈ (insertMember key value ms).map Prod.fst, k = key ∨ k ∈ ms.map Prod.fst := by
  induction ms with
  | nil => simp [insertMember]
  | cons m ms ih =>
    obtain ⟨hm, hms⟩ := List.pairwise_cons.mp h
    obtain ⟨ihp, ihk⟩ := ih hms
    rw [insertMember]
    split_ifs with hless heq
    · refine ⟨List.pairwise_cons.mpr ⟨?_, h⟩, by simp⟩
      intro k hk
      rcases List.mem_cons.mp hk with rfl | hk
      · exact hless
      · exact textLess_trans hless (hm k hk)
    · subst heq
      exact ⟨h, by simp⟩
    · refine ⟨List.pairwise_cons.mpr ⟨?_, ihp⟩, ?_⟩
      · intro k hk
        rcases ihk k hk with rfl | hk
        · exact textLess_or_eq (by simpa [keyLess] using hless) fun hne =>
            heq (String.toList_injective hne)
        · exact hm k hk
      · intro k hk
        rcases List.mem_cons.mp hk with rfl | hk
        · exact .inr List.mem_cons_self
        · exact (ihk k hk).imp_right (List.mem_cons_of_mem _)

theorem plainMembers_insertMember (h : PlainMembers ms) (key : String)
    {value : Json} (hv : Plain value) : PlainMembers (insertMember key value ms) := by
  induction ms with
  | nil => exact ⟨hv, trivial⟩
  | cons m ms ih =>
    rw [insertMember]
    split_ifs
    · exact ⟨hv, h⟩
    · exact ⟨hv, h.2⟩
    · exact ⟨h.1, ih h.2⟩

/-- An object made of plain members is plain. -/
theorem plain_ofMembers (h : ∀ m ∈ ms, Plain m.2) : Plain (ofMembers ms) := by
  suffices hacc : ∀ acc : List (String × Json), (acc.map Prod.fst).Pairwise (keyLess · ·) →
      PlainMembers acc → Plain (.object (ms.foldl (fun acc m => insertMember m.1 m.2 acc) acc)) from
    hacc [] .nil trivial
  induction ms with
  | nil => exact fun acc hkeys hacc => ⟨hkeys, hacc⟩
  | cons m ms ih =>
    intro acc hkeys hacc
    exact ih (fun m' hm' => h m' (List.mem_cons_of_mem _ hm')) _
      (pairwise_insertMember hkeys m.1 m.2).1
      (plainMembers_insertMember hacc m.1 (h m List.mem_cons_self))

theorem plainElems_of_forall {xs : List Json} (h : ∀ x ∈ xs, Plain x) : PlainElems xs := by
  induction xs with
  | nil => trivial
  | cons x xs ih => exact ⟨h x List.mem_cons_self, ih fun y hy => h y (List.mem_cons_of_mem _ hy)⟩

/-- The member that was set last under a key is found. -/
theorem find?_object_insertMember (ms : List (String × Json)) (key k : String) (value : Json) :
    (Json.object (insertMember k value ms)).find? key =
      if key = k then some value else (Json.object ms).find? key := by
  induction ms with
  | nil => by_cases h : key = k <;> simp [insertMember, find?, h, Ne.symm]
  | cons m ms ih =>
    rw [insertMember]
    by_cases hkey : k = key
    · subst hkey
      rw [if_pos rfl] at ih ⊢
      split_ifs with hless heq
      · simp [find?]
      · simp [find?]
      · simpa [find?, Ne.symm heq] using ih
    · have hne : key ≠ k := Ne.symm hkey
      rw [if_neg hne] at ih ⊢
      split_ifs with hless heq
      · simp [find?, hkey]
      · subst heq
        simp [find?, hkey]
      · by_cases hm : m.1 = key
        · simp [find?, hm]
        · simpa [find?, hm] using ih

theorem find?_ofMembers (ms : List (String × Json)) (key : String) :
    (ofMembers ms).find? key = (ms.reverse.find? fun m => m.1 = key).map Prod.snd := by
  suffices hacc : ∀ acc : List (String × Json),
      (Json.object (ms.foldl (fun acc m => insertMember m.1 m.2 acc) acc)).find? key =
        ((ms.reverse.find? fun m => m.1 = key).map Prod.snd).or ((Json.object acc).find? key) by
    have := hacc []
    simpa [ofMembers, find?] using this
  induction ms with
  | nil => simp
  | cons m ms ih =>
    intro acc
    rw [List.foldl_cons, ih, find?_object_insertMember, List.reverse_cons, List.find?_append]
    by_cases hm : m.1 = key
    · cases ms.reverse.find? fun m => m.1 = key <;> simp [hm]
    · cases ms.reverse.find? fun m => m.1 = key <;> simp [hm, Ne.symm hm]

theorem find?_ofMembers_append {ms' : List (String × Json)} {key : String}
    (h : ∀ m ∈ ms', m.1 ≠ key) : (ofMembers (ms ++ ms')).find? key = (ofMembers ms).find? key := by
  have hnone : ms'.reverse.find? (fun m => m.1 = key) = none := by
    simpa using h
  rw [find?_ofMembers, find?_ofMembers, List.reverse_append, List.find?_append, hnone,
    Option.none_or]

theorem find?_asRead (j : Json) (key : String) : j.asRead.find? key = (j.find? key).map asRead := by
  cases j with
  | object ms =>
    rw [asRead]
    induction ms with
    | nil => rfl
    | cons m ms ih =>
      obtain ⟨k, v⟩ := m
      by_cases hk : k = key
      · simp [asReadMembers, find?, hk]
      · simpa [asReadMembers, find?, hk] using ih
  | integer i =>
    rw [asRead]
    split_ifs <;> rfl
  | _ => rfl

/-! ## Numbers read back -/

theorem toInt_toInt32_ofNat (n : ℕ) :
    (UInt64.ofNat n).toUInt32.toInt32.toInt = (n : ℤ).bmod (2 ^ 32) := by
  have h : (UInt64.ofNat n).toUInt32 = UInt32.ofNat n := by simp
  have hbits : (UInt32.ofNat n).toBitVec = BitVec.ofNat 32 n := rfl
  rw [h, Int32.toInt, UInt32.toBitVec_toInt32, hbits, BitVec.toInt_ofNat']

/-- An `int` is read from the lower half of a number, whether its text has a sign or not. -/
theorem getInt32_asRead_integer (i : Int64) : getInt32 (asRead (.integer i)) = .ok i.toInt32 := by
  rw [asRead]
  split_ifs with hi
  · rfl
  · have hn : (i.toInt.natAbs : ℤ) = i.toInt := by omega
    simp only [getInt32, getArithmetic, Except.ok.injEq]
    apply Int32.toInt_inj.mp
    rw [toInt_toInt32_ofNat, hn, Int64.toInt_toInt32]

/-- An `int` reads back. -/
theorem getInt32_asRead (i : Int32) : getInt32 (asRead (.integer i.toInt64)) = .ok i := by
  rw [getInt32_asRead_integer, Int32.toInt32_toInt64]

/-- A 64-bit integer reads back, whether its text has a sign or not. -/
theorem getInt64_asRead (i : Int64) : getInt64 (asRead (.integer i)) = .ok i := by
  have hlo := i.le_toInt
  have hhi := i.toInt_lt
  rw [asRead]
  split_ifs with hi
  · rfl
  · have hn : (i.toInt.natAbs : ℤ) = i.toInt := by omega
    simp only [getInt64, Except.ok.injEq]
    apply Int64.toInt_inj.mp
    have hbits : (UInt64.ofNat i.toInt.natAbs).toInt64.toBitVec =
        BitVec.ofNat 64 i.toInt.natAbs := rfl
    rw [Int64.toInt, hbits, BitVec.toInt_ofNat', hn, Int.bmod_eq_of_le (by omega) (by omega)]

end Json

end BoostGateway
