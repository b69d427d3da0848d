import Mathlib.Data.Int.Notation
import BoostGateway.Base.Bytes

/-!
# JSON documents and their text

JSON values as `nlohmann::json` holds them : three kinds of numbers, and objects as
maps ordered by key, the last of several members with one key being kept. `dump` is
the text a value is written as, on one line or indented, and `parse` reads a byte
string back : the bytes before the first zero byte, valid UTF-8, with an optional
byte order mark. A whole number that fits 64 bits is an `unsigned` or a negative
`integer`, every other number a `float`, which must be finite.

The text of a float is a parameter of `dump`. The parser takes a bound on its
recursion; `parseText` gives it one more than the number of characters. The conversions
`get` and `value` raise a `TypeError` on a value of another type; the last section says
when they return.
-/

namespace BoostGateway

/-! ## Computations that may raise -/

/-- The computation returns, that is, it raises nothing. -/
def Returns {ε α : Type} (x : Except ε α) : Prop := ∃ a, x = .ok a

variable {ε α : Type}

@[simp] theorem returns_ok (a : α) : Returns (.ok a : Except ε α) := ⟨a, rfl⟩

@[simp] theorem returns_pure (a : α) : Returns (pure a : Except ε α) := ⟨a, rfl⟩

@[simp] theorem not_returns_error (e : ε) : ¬Returns (.error e : Except ε α) := by
  rintro ⟨a, h⟩
  cases h

theorem returns_bind {β : Type} {x : Except ε α} {f : α → Except ε β} :
    Returns (x >>= f) ↔ ∃ a, x = .ok a ∧ Returns (f a) := by
  cases x with
  | error e => simp [bind, Except.bind]
  | ok a => simp [bind, Except.bind]

/-- Where the value does not decide whether the rest returns. -/
theorem returns_bind_iff {β : Type} {x : Except ε α} {f : α → Except ε β} {Q : Prop}
    (h : ∀ a, Returns (f a) ↔ Q) : Returns (x >>= f) ↔ Returns x ∧ Q := by
  rw [returns_bind]
  constructor
  · rintro ⟨a, hx, hf⟩
    exact ⟨⟨a, hx⟩, (h a).mp hf⟩
  · rintro ⟨⟨a, hx⟩, hq⟩
    exact ⟨a, hx, (h a).mpr hq⟩

/-- What the computation returns, if anything, has the property. -/
def Ensures {ε α : Type} (P : α → Prop) (x : Except ε α) : Prop := ∀ a, x = .ok a → P a

theorem ensures_ok {P : α → Prop} {a : α} (h : P a) : Ensures P (.ok a : Except ε α) := by
  intro b hb
  cases hb
  exact h

/-- The rest may use what the first part returned. -/
theorem ensures_bind_of_eq {β : Type} {P : β → Prop} {x : Except ε α} {f : α → Except ε β}
    (h : ∀ a, x = .ok a → Ensures P (f a)) : Ensures P (x >>= f) := by
  cases x with
  | error e => exact nofun
  | ok a => exact h a rfl

theorem ensures_bind {β : Type} {P : β → Prop} {x : Except ε α} {f : α → Except ε β}
    (h : ∀ a, Ensures P (f a)) : Ensures P (x >>= f) :=
  ensures_bind_of_eq fun a _ => h a

/-! ## Values -/

/-- A JSON value. The members of an object are in increasing order of their keys. -/
inductive Json
  | null
  | bool (b : Bool)
  | unsigned (n : UInt64)
  | integer (i : Int64)
  | float (x : Float)
  | string (s : String)
  | array (xs : List Json)
  | object (ms : List (String × Json))

namespace Json

/-- The member of an object, as `contains` and `operator[]` look it up. -/
def find? (key : String) : Json → Option Json
  | .object ms => (ms.find? fun m => m.1 = key).map Prod.snd
  | _ => none

/-- The order of code points, which is that of the UTF-8 bytes. -/
def textLess : List Char → List Char → Bool
  | _, [] => false
  | [], _ :: _ => true
  | c :: cs, d :: ds => c.toNat < d.toNat || (c.toNat = d.toNat && textLess cs ds)

/-- The order of the keys of an object. -/
def keyLess (key key' : String) : Bool := textLess key.toList key'.toList

/-- `object[key] = value`. -/
def insertMember (key : String) (value : Json) : List (String × Json) → List (String × Json)
  | [] => [(key, value)]
  | m :: ms =>
    if keyLess key m.1 then (key, value) :: m :: ms
    else if key = m.1 then (key, value) :: ms
    else m :: insertMember key value ms

/-- The object with the given members, in the order they are set. -/
def ofMembers (ms : List (String × Json)) : Json :=
  .object (ms.foldl (fun acc m => insertMember m.1 m.2 acc) [])

/-- `value[key] = member` of an object or null; on any other value the library throws. -/
def set (key : String) (member : Json) : Json → Json
  | .object ms => .object (insertMember key member ms)
  | .null => .object [(key, member)]
  | j => j

/-! ## Writing -/

/-- The digits of a code unit below 32. -/
def hexDigit (n : ℕ) : Char := Nat.digitChar n

/-- A character in a string : quotes, backslashes and control characters are escaped. -/
def escapeChar (c : Char) : List Char :=
  if c = '"' then ['\\', '"']
  else if c = '\\' then ['\\', '\\']
  else if c = '\x08' then ['\\', 'b']
  else if c = '\x0c' then ['\\', 'f']
  else if c = '\n' then ['\\', 'n']
  else if c = '\r' then ['\\', 'r']
  else if c = '\t' then ['\\', 't']
  else if c.toNat < 32 then
    ['\\', 'u', '0', '0', hexDigit (c.toNat / 16), hexDigit (c.toNat % 16)]
  else [c]

def quote (s : List Char) : List Char := '"' :: s.flatMap escapeChar ++ ['"']

/-- A line break and the indentation, where the text is indented. -/
def newline (style : Option ℕ) (indent : ℕ) : List Char :=
  match style with
  | none => []
  | some _ => '\n' :: List.replicate indent ' '

/-- The texts of elements or members between brackets. -/
def wrap (style : Option ℕ) (indent : ℕ) (left right : Char) : List (List Char) → List Char
  | [] => [left, right]
  | t :: ts =>
    let inner := newline style (indent + style.getD 0)
    left :: (inner ++ t) ++ ts.flatMap (fun t => ',' :: (inner ++ t)) ++ newline style indent ++
      [right]

def intText (i : ℤ) : List Char :=
  if i < 0 then '-' :: Nat.toDigits 10 i.natAbs else Nat.toDigits 10 i.natAbs

variable (floatText : Float → List Char) (style : Option ℕ)

mutual

/-- The text of a value. `style` is the step of the indentation, `indent` the current one. -/
def dump (indent : ℕ) : Json → List Char
  | .null => ['n', 'u', 'l', 'l']
  | .bool true => ['t', 'r', 'u', 'e']
  | .bool false => ['f', 'a', 'l', 's', 'e']
  | .unsigned n => Nat.toDigits 10 n.toNat
  | .integer i => intText i.toInt
  | .float x => floatText x
  | .string s => quote s.toList
  | .array xs => wrap style indent '[' ']' (dumpElems (indent + style.getD 0) xs)
  | .object ms => wrap style indent '{' '}' (dumpMembers (indent + style.getD 0) ms)

def dumpElems (indent : ℕ) : List Json → List (List Char)
  | [] => []
  | x :: xs => dump indent x :: dumpElems indent xs

def dumpMembers (indent : ℕ) : List (String × Json) → List (List Char)
  | [] => []
  | (k, v) :: ms =>
    (quote k.toList ++ ':' :: ((style.map fun _ => [' ']).getD [] ++ dump indent v)) ::
      dumpMembers indent ms

end

/-! ## Reading -/

def isSpace (c : Char) : Bool := c = ' ' || c = '\t' || c = '\n' || c = '\r'

def skipSpace (cs : List Char) : List Char := cs.dropWhile isSpace

/-- The value of a hexadecimal digit. -/
def hexValue (c : Char) : Option ℕ :=
  if '0' ≤ c ∧ c ≤ '9' then some (c.toNat - '0'.toNat)
  else if 'a' ≤ c ∧ c ≤ 'f' then some (c.toNat - 'a'.toNat + 10)
  else if 'A' ≤ c ∧ c ≤ 'F' then some (c.toNat - 'A'.toNat + 10)
  else none

/-- Four hexadecimal digits. -/
def parseHex4 : List Char → Option (ℕ × List Char)
  | a :: b :: c :: d :: cs => do
    let a ← hexValue a
    let b ← hexValue b
    let c ← hexValue c
    let d ← hexValue d
    some (((a * 16 + b) * 16 + c) * 16 + d, cs)
  | _ => none

/-- What follows `\u` : a code unit, or two that form a surrogate pair. -/
def parseUnicode (cs : List Char) : Option (Char × List Char) := do
  let (u, cs) ← parseHex4 cs
  if 0xD800 ≤ u ∧ u ≤ 0xDBFF then
    match cs with
    | '\\' :: 'u' :: cs =>
      let (l, cs) ← parseHex4 cs
      if 0xDC00 ≤ l ∧ l ≤ 0xDFFF then
        some (Char.ofNat (0x10000 + (u - 0xD800) * 0x400 + (l - 0xDC00)), cs)
      else none
    | _ => none
  else if 0xDC00 ≤ u ∧ u ≤ 0xDFFF then none
  else some (Char.ofNat u, cs)

/-- What follows a backslash. -/
def parseEscape : List Char → Option (Char × List Char)
  | '"' :: cs => some ('"', cs)
  | '\\' :: cs => some ('\\', cs)
  | '/' :: cs => some ('/', cs)
  | 'b' :: cs => some ('\x08', cs)
  | 'f' :: cs => some ('\x0c', cs)
  | 'n' :: cs => some ('\n', cs)
  | 'r' :: cs => some ('\r', cs)
  | 't' :: cs => some ('\t', cs)
  | 'u' :: cs => parseUnicode cs
  | _ => none

/-- The characters of a string up to its closing quote. -/
def parseChars : ℕ → List Char → Option (List Char × List Char)
  | 0, _ => none
  | _ + 1, [] => none
  | n + 1, c :: cs =>
    if c = '"' then some ([], cs)
    else if c = '\\' then do
      let (c, cs) ← parseEscape cs
      let (s, cs) ← parseChars n cs
      some (c :: s, cs)
    else if c.toNat < 32 then none
    else do
      let (s, cs) ← parseChars n cs
      some (c :: s, cs)

/-- A string, its opening quote being read. -/
def parseString (cs : List Char) : Option (String × List Char) :=
  (parseChars (cs.length + 1) cs).map fun r => (String.ofList r.1, r.2)

/-- The whole part of a number : `0`, or digits that do not start with `0`. -/
def parseWhole : List Char → Option (List Char × List Char)
  | [] => none
  | c :: cs =>
    if c = '0' then some (['0'], cs)
    else if c.isDigit then some ((c :: cs).span Char.isDigit)
    else none

/-- At least one digit. -/
def parseDigits (cs : List Char) : Option (List Char × List Char) :=
  if (cs.takeWhile Char.isDigit).isEmpty then none else some (cs.span Char.isDigit)

/-- The digits after a decimal point, if there is one. -/
def parseFraction : List Char → Option (Option (List Char) × List Char)
  | '.' :: cs => (parseDigits cs).map fun r => (some r.1, r.2)
  | cs => some (none, cs)

/-- The exponent, if there is one. -/
def parseExponent : List Char → Option (Option ℤ × List Char)
  | [] => some (none, [])
  | c :: cs =>
    if c = 'e' ∨ c = 'E' then
      match cs with
      | '-' :: cs =>
        (parseDigits cs).map fun r => (some (-(Nat.ofDigitChars 10 r.1 0 : ℤ)), r.2)
      | '+' :: cs => (parseDigits cs).map fun r => (some (Nat.ofDigitChars 10 r.1 0 : ℤ), r.2)
      | cs => (parseDigits cs).map fun r => (some (Nat.ofDigitChars 10 r.1 0 : ℤ), r.2)
    else some (none, c :: cs)

/-- The double nearest to `digits * 10 ^ exponent`, where it is finite. -/
def makeFloat (negative : Bool) (digits : ℕ) (exponent : ℤ) : Option Json :=
  let x := Float.ofScientific digits (exponent < 0) exponent.natAbs
  let x := if negative then -x else x
  if x.isFinite then some (.float x) else none

/-- A number without fraction and exponent. -/
def makeInteger (negative : Bool) (n : ℕ) : Option Json :=
  if negative then
    if n ≤ 2 ^ 63 then some (.integer (Int64.ofInt (-n))) else makeFloat true n 0
  else if n < 2 ^ 64 then some (.unsigned (UInt64.ofNat n))
  else makeFloat false n 0

def parseUnsigned (negative : Bool) (cs : List Char) : Option (Json × List Char) := do
  let (whole, cs) ← parseWhole cs
  let (fraction, cs) ← parseFraction cs
  let (exponent, cs) ← parseExponent cs
  let j ← match fraction, exponent with
    | none, none => makeInteger negative (Nat.ofDigitChars 10 whole 0)
    | _, _ =>
      makeFloat negative (Nat.ofDigitChars 10 (whole ++ fraction.getD []) 0)
        (exponent.getD 0 - (fraction.getD []).length)
  some (j, cs)

def parseNumber : List Char → Option (Json × List Char)
  | '-' :: cs => parseUnsigned true cs
  | cs => parseUnsigned false cs

/-- A value that is no array and no object. -/
def parseScalar : List Char → Option (Json × List Char)
  | '"' :: cs => (parseString cs).map fun r => (.string r.1, r.2)
  | 'n' :: 'u' :: 'l' :: 'l' :: cs => some (.null, cs)
  | 't' :: 'r' :: 'u' :: 'e' :: cs => some (.bool true, cs)
  | 'f' :: 'a' :: 'l' :: 's' :: 'e' :: cs => some (.bool false, cs)
  | cs => parseNumber cs

mutual

def parseValue : ℕ → List Char → Option (Json × List Char)
  | 0, _ => none
  | n + 1, cs =>
    match skipSpace cs with
    | '[' :: cs =>
      match skipSpace cs with
      | ']' :: cs => some (.array [], cs)
      | cs => (parseElems n cs).map fun r => (.array r.1, r.2)
    | '{' :: cs =>
      match skipSpace cs with
      | '}' :: cs => some (.object [], cs)
      | cs => (parseMembers n cs).map fun r => (ofMembers r.1, r.2)
    | cs => parseScalar cs

/-- Elements up to the closing bracket. -/
def parseElems : ℕ → List Char → Option (List Json × List Char)
  | 0, _ => none
  | n + 1, cs => do
    let (x, cs) ← parseValue n cs
    match skipSpace cs with
    | ',' :: cs =>
      let (xs, cs) ← parseElems n cs
      some (x :: xs, cs)
    | ']' :: cs => some ([x], cs)
    | _ => none

/-- Members up to the closing brace. -/
def parseMembers : ℕ → List Char → Option (List (String × Json) × List Char)
  | 0, _ => none
  | n + 1, cs =>
    match skipSpace cs with
    | '"' :: cs => do
      let (k, cs) ← parseString cs
      match skipSpace cs with
      | ':' :: cs =>
        let (v, cs) ← parseValue n cs
        match skipSpace cs with
        | ',' :: cs =>
          let (ms, cs) ← parseMembers n cs
          some ((k, v) :: ms, cs)
        | '}' :: cs => some ([(k, v)], cs)
        | _ => none
      | _ => none
    | _ => none

end

/-- The value at the start of a text; when `strict`, only space may follow it. -/
def parseText (strict : Bool) (cs : List Char) : Option Json := do
  let (j, rest) ← parseValue (cs.length + 1) cs
  if strict ∧ skipSpace rest ≠ [] then none else some j

/-- A leading byte order mark is skipped. -/
def dropMark : List Char → List Char
  | '\uFEFF' :: cs => cs
  | cs => cs

/-- The value a byte string holds. -/
def parse (strict : Bool) (bs : Bytes) : Option Json := do
  let cs ← decodeUtf8 (bs.takeWhile (· ≠ 0))
  parseText strict (dropMark cs)

/-! ## Conversions -/

/-- What a conversion throws. -/
inductive TypeError
  /-- `type_error.302` : the value has another type. -/
  | wrongType
  /-- `type_error.306` : `value` on something that is no object. -/
  | notObject
  deriving DecidableEq, Repr

/-- `get<std::string>()`. -/
def getString : Json → Except TypeError String
  | .string s => .ok s
  | _ => .error .wrongType

/-- `get<std::uint64_t>()` : the library's own unsigned type, so a number of any kind. -/
def getUInt64 : Json → Except TypeError UInt64
  | .unsigned n => .ok n
  | .integer i => .ok i.toUInt64
  | .float x => .ok x.toUInt64
  | _ => .error .wrongType

/-- `get<std::int64_t>()` : the library's own signed type. -/
def getInt64 : Json → Except TypeError Int64
  | .unsigned n => .ok n.toInt64
  | .integer i => .ok i
  | .float x => .ok x.toInt64
  | _ => .error .wrongType

/-- `get` of another number type : a number of any kind or a truth value. -/
def getArithmetic {α : Type} (ofUnsigned : UInt64 → α) (ofInteger : Int64 → α)
    (ofFloat : Float → α) (ofBool : Bool → α) : Json → Except TypeError α
  | .unsigned n => .ok (ofUnsigned n)
  | .integer i => .ok (ofInteger i)
  | .float x => .ok (ofFloat x)
  | .bool b => .ok (ofBool b)
  | _ => .error .wrongType

/-- `get<unsigned>()`. -/
def getUInt32 : Json → Except TypeError UInt32 :=
  getArithmetic UInt64.toUInt32 (fun i => i.toUInt64.toUInt32) Float.toUInt32 Bool.toUInt32

/-- `get<int>()`. -/
def getInt32 : Json → Except TypeError Int32 :=
  getArithmetic (fun n => n.toUInt32.toInt32) Int64.toInt32 Float.toInt32
    (fun b => b.toUInt32.toInt32)

/-- `get<unsigned long long>()`. -/
def getULongLong : Json → Except TypeError UInt64 :=
  getArithmetic id Int64.toUInt64 Float.toUInt64 Bool.toUInt64

/-- `get<bool>()`. -/
def getBool : Json → Except TypeError Bool
  | .bool b => .ok b
  | _ => .error .wrongType

/-- `value(key, fallback)`. -/
def value {α : Type} (get : Json → Except TypeError α) (key : String) (fallback : α) :
    Json → Except TypeError α
  | .object ms => ((Json.object ms).find? key).elim (.ok fallback) get
  | _ => .error .notObject

/-! ## When a conversion returns -/

/-- The string a value is. -/
def string? : Json → Option String
  | .string s => some s
  | _ => none

variable (j : Json)

def isString : Bool := j.string?.isSome

/-- A number of any kind. -/
def isNumber : Json → Bool
  | .unsigned _ | .integer _ | .float _ => true
  | _ => false

def isBool : Json → Bool
  | .bool _ => true
  | _ => false

/-- What a number type other than the library's own is read from. -/
def isArithmetic : Bool := j.isNumber || j.isBool

theorem getString_eq_ok {j : Json} {s : String} : j.getString = .ok s ↔ j.string? = some s := by
  cases j <;> simp [getString, string?]

theorem returns_getString : Returns j.getString ↔ j.isString := by
  cases j <;> simp [getString, isString, string?]

theorem returns_getUInt64 : Returns j.getUInt64 ↔ j.isNumber := by
  cases j <;> simp [getUInt64, isNumber]

theorem returns_getArithmetic {α : Type} {ofUnsigned : UInt64 → α} {ofInteger : Int64 → α}
    {ofFloat : Float → α} {ofBool : Bool → α} {j : Json} :
    Returns (j.getArithmetic ofUnsigned ofInteger ofFloat ofBool) ↔ j.isArithmetic := by
  cases j <;> simp [getArithmetic, isArithmetic, isNumber, isBool]

theorem returns_getUInt32 : Returns j.getUInt32 ↔ j.isArithmetic :=
  returns_getArithmetic

theorem returns_getInt32 : Returns j.getInt32 ↔ j.isArithmetic :=
  returns_getArithmetic

theorem returns_getULongLong : Returns j.getULongLong ↔ j.isArithmetic :=
  returns_getArithmetic

/-- `value` returns when the member is missing or converts. -/
theorem returns_value {α : Type} {get : Json → Except TypeError α} {p : Json → Bool}
    (h : ∀ j, Returns (get j) ↔ p j) {key : String} {fallback : α} {doc : Json}
    (hobj : ∃ ms, doc = .object ms) :
    Returns (doc.value get key fallback) ↔ (doc.find? key).all p := by
  obtain ⟨ms, rfl⟩ := hobj
  rw [value]
  cases (Json.object ms).find? key with
  | none => simp
  | some j => simpa using h j

theorem object_of_find? {doc j : Json} {key : String} (h : doc.find? key = some j) :
    ∃ ms, doc = .object ms := by
  cases doc with
  | object ms => exact ⟨ms, rfl⟩
  | _ => simp [find?] at h

end Json

end BoostGateway
