import BoostGateway.Base.JsonWritten

/-!
# What a text is read as

Reading only goes forward. What a parser leaves of a text is not longer than the text, and a
string is shorter than the text it is read from : `parsed_parseValue`, by induction on the
fuel, with the members of objects kept in the order of their keys. `parseString_cases` is
exact about a string. Either the text has its characters as they are, up to the closing
quote, or an escape made it shorter than the text.
-/

namespace BoostGateway

namespace Json

/-- The character stands for itself in a string. -/
def PlainChar (c : Char) : Prop := c ≠ '"' ∧ c ≠ '\\' ∧ ¬c.toNat < 32

instance (c : Char) : Decidable (PlainChar c) := inferInstanceAs (Decidable (_ ∧ _ ∧ _))

/-- The characters of the text stand for themselves in a string. -/
def PlainText (s : String) : Prop := ∀ c ∈ s.toList, PlainChar c

instance (s : String) : Decidable (PlainText s) := List.decidableBAll PlainChar s.toList

/-- What a parser leaves of the text is not longer than the text. -/
def Shortens {α : Type} (cs : List Char) (x : Option (α × List Char)) : Prop :=
  ∀ a rest, x = some (a, rest) → rest.length ≤ cs.length

section Shortens

variable {α β : Type} {cs : List Char}

theorem shortens_none : Shortens cs (none : Option (α × List Char)) := nofun

theorem shortens_some {a : α} {rest : List Char} (h : rest.length ≤ cs.length) :
    Shortens cs (some (a, rest)) := by
  rintro _ _ ⟨⟩
  exact h

theorem Shortens.mono {ds : List Char} {x : Option (α × List Char)} (h : Shortens ds x)
    (hle : ds.length ≤ cs.length) : Shortens cs x :=
  fun a rest hx => (h a rest hx).trans hle

theorem Shortens.map {x : Option (α × List Char)} (h : Shortens cs x) (f : α → β) :
    Shortens cs (x.map fun r => (f r.1, r.2)) := by
  intro b rest hx
  obtain ⟨⟨a, rest⟩, hx', ⟨⟩⟩ := Option.map_eq_some_iff.mp hx
  exact h a rest hx'

theorem Shortens.bind {x : Option (α × List Char)} {f : α × List Char → Option (β × List Char)}
    (h : Shortens cs x) (hf : ∀ a rest, Shortens rest (f (a, rest))) :
    Shortens cs (x >>= f) := by
  intro b rest hx
  obtain ⟨⟨a, mid⟩, hx, hfx⟩ := Option.bind_eq_some_iff.mp hx
  exact (hf a mid b rest hfx).trans (h a mid hx)

end Shortens

/-! ## Strings -/

variable (cs : List Char)

theorem shortens_parseHex4 : Shortens cs (parseHex4 cs) := by
  unfold parseHex4
  split
  · rename_i a b c d cs
    intro n rest h
    simp only [Option.bind_eq_bind, Option.bind_eq_some_iff, Option.some.injEq,
      Prod.mk.injEq] at h
    obtain ⟨_, -, _, -, _, -, _, -, -, rfl⟩ := h
    simp only [List.length_cons]
    omega
  · exact shortens_none

theorem shortens_parseUnicode : Shortens cs (parseUnicode cs) := by
  refine (shortens_parseHex4 cs).bind fun u ds => ?_
  dsimp only
  split_ifs
  · split
    · rename_i es
      have hle : es.length ≤ ('\\' :: 'u' :: es).length := by simp only [List.length_cons]; omega
      refine ((shortens_parseHex4 es).bind fun l fs => ?_).mono hle
      dsimp only
      split_ifs
      · exact shortens_some le_rfl
      · exact shortens_none
    · exact shortens_none
  · exact shortens_none
  · exact shortens_some le_rfl

theorem length_parseEscape {cs rest : List Char} {c : Char}
    (h : parseEscape cs = some (c, rest)) : rest.length < cs.length := by
  unfold parseEscape at h
  split at h
  case h_9 ds =>
    have hle := shortens_parseUnicode ds c rest h
    simp only [List.length_cons]
    omega
  case h_10 => cases h
  all_goals
    obtain ⟨-, rfl⟩ := Prod.mk.inj (Option.some_inj.mp h)
    exact Nat.lt_succ_self _

/-- A string is the text up to its closing quote, all of it plain, or shorter. -/
theorem parseChars_cases {n : ℕ} {cs s rest : List Char} (h : parseChars n cs = some (s, rest)) :
    ((∀ c ∈ s, PlainChar c) ∧ cs = s ++ '"' :: rest) ∨
      s.length + 1 + rest.length < cs.length := by
  induction n generalizing cs s with
  | zero => cases h
  | succ n ih =>
    cases cs with
    | nil => cases h
    | cons c cs =>
      rw [parseChars] at h
      split_ifs at h with hquote hescape hcontrol
      · obtain ⟨rfl, rfl⟩ := Prod.mk.inj (Option.some_inj.mp h)
        exact .inl ⟨List.forall_mem_nil _, by rw [hquote, List.nil_append]⟩
      · right
        simp only [Option.bind_eq_bind, Option.bind_eq_some_iff, Option.some.injEq,
          Prod.exists, Prod.mk.injEq] at h
        obtain ⟨d, ds, hesc, t, rest', hchars, rfl, rfl⟩ := h
        have hshort := length_parseEscape hesc
        -- The backslash itself is not in the string.
        rcases ih hchars with ⟨-, rfl⟩ | hlt
        · simp only [List.length_append, List.length_cons] at hshort ⊢
          omega
        · simp only [List.length_cons]
          omega
      · simp only [Option.bind_eq_bind, Option.bind_eq_some_iff, Option.some.injEq,
          Prod.exists, Prod.mk.injEq] at h
        obtain ⟨t, rest', hchars, rfl, rfl⟩ := h
        rcases ih hchars with ⟨hplain, rfl⟩ | hlt
        · exact .inl ⟨List.forall_mem_cons.mpr ⟨⟨hquote, hescape, hcontrol⟩, hplain⟩, rfl⟩
        · right
          simp only [List.length_cons]
          omega

theorem parseString_cases {cs rest : List Char} {s : String}
    (h : parseString cs = some (s, rest)) :
    (PlainText s ∧ cs = s.toList ++ '"' :: rest) ∨
      s.length + 1 + rest.length < cs.length := by
  obtain ⟨⟨t, rest⟩, hchars, ⟨⟩⟩ := Option.map_eq_some_iff.mp h
  simpa [PlainText] using parseChars_cases hchars

theorem length_parseString {cs rest : List Char} {s : String}
    (h : parseString cs = some (s, rest)) : s.length + 1 + rest.length ≤ cs.length := by
  rcases parseString_cases h with ⟨-, rfl⟩ | hlt
  · simp only [List.length_append, List.length_cons, String.length_toList]
    omega
  · exact hlt.le

/-- Plain characters are read as they are. -/
theorem parseString_plain {s : String} (h : PlainText s) (rest : List Char) :
    parseString (s.toList ++ '"' :: rest) = some (s, rest) := by
  have hescape : s.toList.flatMap escapeChar = s.toList := by
    refine (List.flatMap_congr fun c hc => ?_).trans (List.flatMap_singleton' s.toList)
    obtain ⟨hquote, hback, hcontrol⟩ := h c hc
    have hne : ∀ d : Char, d.toNat < 32 → c ≠ d := fun d hd he => hcontrol (he ▸ hd)
    rw [escapeChar, if_neg hquote, if_neg hback, if_neg (hne _ (by decide)),
      if_neg (hne _ (by decide)), if_neg (hne _ (by decide)), if_neg (hne _ (by decide)),
      if_neg (hne _ (by decide)), if_neg hcontrol]
  have hread := parseString_flatMap s rest
  rwa [hescape] at hread

/-! ## Numbers -/

theorem length_span_snd (p : Char → Bool) (cs : List Char) :
    (cs.span p).2.length ≤ cs.length := by
  rw [List.span_eq_takeWhile_dropWhile]
  exact (List.dropWhile_sublist p).length_le

theorem shortens_parseWhole : Shortens cs (parseWhole cs) := by
  cases cs with
  | nil => exact shortens_none
  | cons c cs =>
    rw [parseWhole]
    split_ifs
    · exact shortens_some (Nat.le_succ _)
    · exact shortens_some (length_span_snd Char.isDigit (c :: cs))
    · exact shortens_none

theorem shortens_parseDigits : Shortens cs (parseDigits cs) := by
  unfold parseDigits
  split_ifs
  · exact shortens_none
  · exact shortens_some (length_span_snd Char.isDigit cs)

theorem shortens_parseFraction : Shortens cs (parseFraction cs) := by
  unfold parseFraction
  split
  · rename_i ds
    exact ((shortens_parseDigits ds).map some).mono (Nat.le_succ _)
  · exact shortens_some le_rfl

theorem shortens_parseExponent : Shortens cs (parseExponent cs) := by
  cases cs with
  | nil => exact shortens_some le_rfl
  | cons c cs =>
    unfold parseExponent
    dsimp only
    split_ifs
    · split
      · rename_i ds
        exact ((shortens_parseDigits ds).map fun r => some (-(Nat.ofDigitChars 10 r 0 : ℤ))).mono
          (Nat.le_add_right _ 2)
      · rename_i ds
        exact ((shortens_parseDigits ds).map fun r => some (Nat.ofDigitChars 10 r 0 : ℤ)).mono
          (Nat.le_add_right _ 2)
      · exact ((shortens_parseDigits _).map fun r => some (Nat.ofDigitChars 10 r 0 : ℤ)).mono
          (Nat.le_succ _)
    · exact shortens_some le_rfl

theorem isNumber_makeFloat {negative : Bool} {digits : ℕ} {exponent : ℤ} {j : Json}
    (h : makeFloat negative digits exponent = some j) : j.isNumber := by
  dsimp only [makeFloat] at h
  generalize (if negative then _ else _) = x at h
  split_ifs at h
  cases h
  rfl

theorem isNumber_makeInteger {negative : Bool} {n : ℕ} {j : Json}
    (h : makeInteger negative n = some j) : j.isNumber := by
  unfold makeInteger at h
  split_ifs at h
  · cases h; rfl
  · exact isNumber_makeFloat h
  · cases h; rfl
  · exact isNumber_makeFloat h

theorem parseUnsigned_cases {negative : Bool} {cs rest : List Char} {j : Json}
    (h : parseUnsigned negative cs = some (j, rest)) :
    j.isNumber ∧ rest.length ≤ cs.length := by
  simp only [parseUnsigned, Option.bind_eq_bind, Option.bind_eq_some_iff, Prod.exists] at h
  obtain ⟨whole, ds, hwhole, fraction, es, hfraction, exponent, fs, hexponent, hj⟩ := h
  have hle := ((shortens_parseExponent es _ _ hexponent).trans
    (shortens_parseFraction ds _ _ hfraction)).trans (shortens_parseWhole cs _ _ hwhole)
  split at hj
  · obtain ⟨k, hk, hj⟩ := Option.bind_eq_some_iff.mp hj
    obtain ⟨rfl, rfl⟩ := Prod.mk.inj (Option.some_inj.mp hj)
    exact ⟨isNumber_makeInteger hk, hle⟩
  · obtain ⟨k, hk, hj⟩ := Option.bind_eq_some_iff.mp hj
    obtain ⟨rfl, rfl⟩ := Prod.mk.inj (Option.some_inj.mp hj)
    exact ⟨isNumber_makeFloat hk, hle⟩

theorem parseNumber_cases {cs rest : List Char} {j : Json}
    (h : parseNumber cs = some (j, rest)) : j.isNumber ∧ rest.length ≤ cs.length := by
  unfold parseNumber at h
  split at h
  · exact (parseUnsigned_cases h).imp_right fun hle => hle.trans (Nat.le_succ _)
  · exact parseUnsigned_cases h

/-! ## Values -/

variable {floatText : Float → List Char}

/-- The library writes a finite double so that it reads back, and any other as `null`. -/
def WritesFloats (floatText : Float → List Char) : Prop :=
  ∀ x, FloatReads floatText x ∨ floatText x = nullText

theorem written_of_isNumber (hfloat : WritesFloats floatText) {j : Json} (h : j.isNumber) :
    Written floatText j := by
  cases j with
  | float x => exact hfloat x
  | unsigned _ => trivial
  | integer _ => trivial
  | _ => cases h

variable (floatText) in
/-- What is known of a value and the text after it when they are read from `cs`. -/
structure Parsed (cs : List Char) (j : Json) (rest : List Char) : Prop where
  rest_le : rest.length ≤ cs.length
  string_le : ∀ s, j = .string s → s.length + 2 + rest.length ≤ cs.length
  written : Written floatText j

theorem Parsed.mono {cs ds rest : List Char} {j : Json} (h : Parsed floatText cs j rest)
    (hle : cs.length ≤ ds.length) : Parsed floatText ds j rest :=
  ⟨h.rest_le.trans hle, fun s hs => (h.string_le s hs).trans hle, h.written⟩

theorem parsed_parseScalar (hfloat : WritesFloats floatText) {cs rest : List Char} {j : Json}
    (h : parseScalar cs = some (j, rest)) : Parsed floatText cs j rest := by
  unfold parseScalar at h
  split at h
  · rename_i cs
    obtain ⟨⟨s, rest⟩, hstring, ⟨⟩⟩ := Option.map_eq_some_iff.mp h
    have hle := length_parseString hstring
    refine ⟨?_, ?_, trivial⟩
    · simp only [List.length_cons]
      omega
    · rintro _ ⟨⟩
      simp only [List.length_cons]
      omega
  · cases h
    exact ⟨Nat.le_add_right _ 4, nofun, trivial⟩
  · cases h
    exact ⟨Nat.le_add_right _ 4, nofun, trivial⟩
  · cases h
    exact ⟨Nat.le_add_right _ 5, nofun, trivial⟩
  · obtain ⟨hnumber, hle⟩ := parseNumber_cases h
    refine ⟨hle, ?_, written_of_isNumber hfloat hnumber⟩
    rintro s rfl
    cases hnumber

theorem length_skipSpace (cs : List Char) : (skipSpace cs).length ≤ cs.length :=
  (List.dropWhile_sublist isSpace).length_le

theorem length_of_skipSpace {cs ds : List Char} {c : Char} (h : skipSpace cs = c :: ds) :
    ds.length < cs.length := by
  have hle := length_skipSpace cs
  rw [h] at hle
  exact hle

mutual

/-- A value is read from the start of the text. -/
theorem parsed_parseValue (hfloat : WritesFloats floatText) (n : ℕ) {cs rest : List Char}
    {j : Json} (h : parseValue n cs = some (j, rest)) : Parsed floatText cs j rest := by
  match n with
  | 0 => cases h
  | n + 1 =>
    have hskip := length_skipSpace cs
    unfold parseValue at h
    split at h
    · rename_i ds hds
      have hlt := length_of_skipSpace hds
      have hskip' := length_skipSpace ds
      split at h
      · rename_i es hes
        have hlt' := length_of_skipSpace hes
        cases h
        exact ⟨by omega, nofun, trivial⟩
      · obtain ⟨⟨xs, rest⟩, helems, ⟨⟩⟩ := Option.map_eq_some_iff.mp h
        obtain ⟨hle, hwritten⟩ := parsed_parseElems hfloat n helems
        exact ⟨by dsimp only; omega, nofun, hwritten⟩
    · rename_i ds hds
      have hlt := length_of_skipSpace hds
      have hskip' := length_skipSpace ds
      split at h
      · rename_i es hes
        have hlt' := length_of_skipSpace hes
        cases h
        exact ⟨by omega, nofun, List.Pairwise.nil, trivial⟩
      · obtain ⟨⟨ms, rest⟩, hmembers, ⟨⟩⟩ := Option.map_eq_some_iff.mp h
        obtain ⟨hle, hms⟩ := parsed_parseMembers hfloat n hmembers
        exact ⟨by dsimp only; omega, nofun, written_ofMembers fun m hm => (hms m hm).1⟩
    · exact (parsed_parseScalar hfloat h).mono hskip

theorem parsed_parseElems (hfloat : WritesFloats floatText) (n : ℕ) {cs rest : List Char}
    {xs : List Json} (h : parseElems n cs = some (xs, rest)) :
    rest.length ≤ cs.length ∧ WrittenElems floatText xs := by
  match n with
  | 0 => cases h
  | n + 1 =>
    simp only [parseElems, Option.bind_eq_bind, Option.bind_eq_some_iff, Prod.exists] at h
    obtain ⟨x, ds, hx, h⟩ := h
    have hparsed := parsed_parseValue hfloat n hx
    have hle := hparsed.rest_le
    split at h
    · rename_i es hes
      have hlt := length_of_skipSpace hes
      obtain ⟨⟨ys, rest⟩, hys, ⟨⟩⟩ := Option.bind_eq_some_iff.mp h
      obtain ⟨hle', hwritten⟩ := parsed_parseElems hfloat n hys
      exact ⟨by dsimp only; omega, hparsed.written, hwritten⟩
    · rename_i es hes
      have hlt := length_of_skipSpace hes
      cases h
      exact ⟨by omega, hparsed.written, trivial⟩
    · cases h

/-- The string of a member is shorter than the text of the members. -/
theorem parsed_parseMembers (hfloat : WritesFloats floatText) (n : ℕ) {cs rest : List Char}
    {ms : List (String × Json)} (h : parseMembers n cs = some (ms, rest)) :
    rest.length ≤ cs.length ∧ ∀ m ∈ ms, Written floatText m.2 ∧
      ∀ s, m.2 = .string s → s.length + 2 < cs.length := by
  match n with
  | 0 => cases h
  | n + 1 =>
    unfold parseMembers at h
    split at h
    · rename_i ds hds
      have hlt := length_of_skipSpace hds
      simp only [Option.bind_eq_bind, Option.bind_eq_some_iff, Prod.exists] at h
      obtain ⟨k, es, hk, h⟩ := h
      have hkey := length_parseString hk
      split at h
      · rename_i fs hfs
        have hcolon := length_of_skipSpace hfs
        simp only [Option.bind_eq_some_iff, Prod.exists] at h
        obtain ⟨v, gs, hv, h⟩ := h
        have hparsed := parsed_parseValue hfloat n hv
        have hle := hparsed.rest_le
        have hmember : Written floatText v ∧ ∀ s, v = .string s → s.length + 2 < cs.length :=
          ⟨hparsed.written, fun s hs => by have := hparsed.string_le s hs; omega⟩
        split at h
        · rename_i us hus
          have hcomma := length_of_skipSpace hus
          simp only [Option.bind_eq_some_iff, Prod.exists] at h
          obtain ⟨ms', rest', hms, h⟩ := h
          obtain ⟨rfl, rfl⟩ := Prod.mk.inj (Option.some_inj.mp h)
          obtain ⟨hle', hrest⟩ := parsed_parseMembers hfloat n hms
          refine ⟨by omega, List.forall_mem_cons.mpr ⟨hmember, fun m hm => ?_⟩⟩
          exact ⟨(hrest m hm).1, fun s hs => by have := (hrest m hm).2 s hs; omega⟩
        · rename_i us hus
          have hbrace := length_of_skipSpace hus
          cases h
          exact ⟨by omega, List.forall_mem_singleton.mpr hmember⟩
        · cases h
      · cases h
    · cases h

end

theorem written_parseText (hfloat : WritesFloats floatText) {strict : Bool} {cs : List Char}
    {j : Json} (h : parseText strict cs = some j) : Written floatText j := by
  simp only [parseText, Option.bind_eq_bind, Option.bind_eq_some_iff, Prod.exists] at h
  obtain ⟨k, rest, hvalue, h⟩ := h
  split_ifs at h
  cases h
  exact (parsed_parseValue hfloat _ hvalue).written

/-! ## Texts as bytes -/

/-- A text ends at its first zero. -/
theorem takeWhile_encodeUtf8 (cs : List Char) :
    (encodeUtf8 cs).takeWhile (· ≠ 0) = encodeUtf8 (cs.takeWhile (· ≠ '\x00')) := by
  induction cs with
  | nil => rfl
  | cons c cs ih =>
    have hcons : ∀ ds, encodeUtf8 (c :: ds) = String.utf8EncodeChar c ++ encodeUtf8 ds :=
      fun ds => List.flatMap_cons
    by_cases hc : c = '\x00'
    · subst hc
      rfl
    · have hbytes : ∀ b ∈ String.utf8EncodeChar c, decide (b ≠ 0) = true := by
        intro b hb
        refine decide_eq_true fun h0 => ?_
        refine notMem_utf8EncodeChar (b := b) (by rw [h0]; decide) (fun heq => hc ?_) hb
        rw [h0] at heq
        exact Char.ext (UInt32.toNat_inj.mp heq)
      rw [hcons, List.takeWhile_append_of_pos hbytes, ih, List.takeWhile_cons,
        if_pos (decide_eq_true hc), hcons]

theorem parse_encodeUtf8 (strict : Bool) (cs : List Char) :
    parse strict (encodeUtf8 cs) =
      parseText strict (dropMark (cs.takeWhile (· ≠ '\x00'))) := by
  rw [parse, takeWhile_encodeUtf8, decodeUtf8_encodeUtf8]
  rfl

/-! ## Members with a string -/

/-- What `parseMembers` does after the string of a member. -/
def parseAfterString (n : ℕ) (key : String) (r : String × List Char) :
    Option (List (String × Json) × List Char) :=
  match skipSpace r.2 with
  | ',' :: cs => (parseMembers n cs).map fun ms => ((key, .string r.1) :: ms.1, ms.2)
  | '}' :: cs => some ([(key, .string r.1)], cs)
  | _ => none

theorem parseValue_members (n : ℕ) (cs : List Char) :
    parseValue (n + 1) ('{' :: '"' :: cs) =
      (parseMembers n ('"' :: cs)).map fun r => (ofMembers r.1, r.2) := rfl

/-- A member with a plain key, up to the opening quote of its string. -/
theorem parseMembers_quoted {key : String} (hkey : PlainText key) (n : ℕ)
    (cs : List Char) :
    parseMembers (n + 2) ('"' :: (key.toList ++ '"' :: ':' :: '"' :: cs)) =
      (parseString cs).bind (parseAfterString (n + 1) key) := by
  have hvalue : parseValue (n + 1) ('"' :: cs) =
      (parseString cs).map fun r => (.string r.1, r.2) := by
    rw [parseValue_scalar (by decide) (by decide) (by decide)]
    rfl
  rw [parseMembers, skipSpace_cons (by decide)]
  simp only [parseString_plain hkey, Option.bind_eq_bind, Option.bind_some,
    skipSpace_cons (c := ':') (by decide), hvalue]
  cases parseString cs with
  | none => rfl
  | some r =>
    simp only [Option.map_some, Option.bind_some, parseAfterString]
    rcases skipSpace r.2 with _ | ⟨c, ds⟩
    · rfl
    · obtain rfl | hcomma := eq_or_ne c ','
      · exact Option.map_eq_bind.symm
      · obtain rfl | hbrace := eq_or_ne c '}'
        · rfl
        · simp [hcomma, hbrace]

/-- The members from a string on are the one with the string and shorter ones. -/
theorem parseAfterString_cases (hfloat : WritesFloats floatText) {n : ℕ} {key s : String}
    {cs rest : List Char} {ms : List (String × Json)}
    (h : parseAfterString n key (s, cs) = some (ms, rest)) :
    cs ≠ [] ∧ ∀ m ∈ ms, m = (key, .string s) ∨
      Written floatText m.2 ∧ ∀ t, m.2 = .string t → t.length + 2 < cs.length := by
  unfold parseAfterString at h
  split at h
  · rename_i ds hds
    have hlt := length_of_skipSpace hds
    obtain ⟨⟨ms', rest'⟩, hms, heq⟩ := Option.map_eq_some_iff.mp h
    obtain ⟨rfl, rfl⟩ := Prod.mk.inj heq
    obtain ⟨-, hmembers⟩ := parsed_parseMembers hfloat n hms
    refine ⟨List.ne_nil_of_length_pos (Nat.zero_lt_of_lt hlt), List.forall_mem_cons.mpr
      ⟨.inl rfl, fun m hm => .inr ⟨(hmembers m hm).1, fun t ht => ?_⟩⟩⟩
    exact ((hmembers m hm).2 t ht).trans hlt
  · rename_i ds hds
    have hlt := length_of_skipSpace hds
    obtain ⟨rfl, rfl⟩ := Prod.mk.inj (Option.some_inj.mp h)
    exact ⟨List.ne_nil_of_length_pos (Nat.zero_lt_of_lt hlt),
      List.forall_mem_singleton.mpr (.inl rfl)⟩
  · cases h

end Json

end BoostGateway
