import BoostGateway.Base.JsonRoundTrip

/-!
# The JWT validator

`JwtValidator::validate` (`jwt_validator.h`) : the token is cut at its first two dots, the
signature over the first two parts is checked under the algorithm the header names, and
then the payload, for its subject, issuer, audience and expiration. SHA-256 and HMAC are
the code's own; the RSA check is OpenSSL's and comes with the configuration.

A header or payload that is no object, or has a member of another type, raises.
-/

namespace BoostGateway.Login

open Json (value getString getULongLong)

/-! ## SHA-256 -/

def kSha256K : List UInt32 :=
  [0x428a2f98, 0x71374491, 0xb5c0fbcf, 0xe9b5dba5, 0x3956c25b, 0x59f111f1,
   0x923f82a4, 0xab1c5ed5, 0xd807aa98, 0x12835b01, 0x243185be, 0x550c7dc3,
   0x72be5d74, 0x80deb1fe, 0x9bdc06a7, 0xc19bf174, 0xe49b69c1, 0xefbe4786,
   0x0fc19dc6, 0x240ca1cc, 0x2de92c6f, 0x4a7484aa, 0x5cb0a9dc, 0x76f988da,
   0x983e5152, 0xa831c66d, 0xb00327c8, 0xbf597fc7, 0xc6e00bf3, 0xd5a79147,
   0x06ca6351, 0x14292967, 0x27b70a85, 0x2e1b2138, 0x4d2c6dfc, 0x53380d13,
   0x650a7354, 0x766a0abb, 0x81c2c92e, 0x92722c85, 0xa2bfe8a1, 0xa81a664b,
   0xc24b8b70, 0xc76c51a3, 0xd192e819, 0xd6990624, 0xf40e3585, 0x106aa070,
   0x19a4c116, 0x1e376c08, 0x2748774c, 0x34b0bcb5, 0x391c0cb3, 0x4ed8aa4a,
   0x5b9cca4f, 0x682e6ff3, 0x748f82ee, 0x78a5636f, 0x84c87814, 0x8cc70208,
   0x90befffa, 0xa4506ceb, 0xbef9a3f7, 0xc67178f2]

def rotr32 (x n : UInt32) : UInt32 := (x >>> n) ||| (x <<< (32 - n))

/-- The eight words of the hash, `a` to `h`. -/
structure Sha256Words where
  a : UInt32
  b : UInt32
  c : UInt32
  d : UInt32
  e : UInt32
  f : UInt32
  g : UInt32
  h : UInt32
  deriving DecidableEq

/-- `data[i * 4]` to `data[i * 4 + 3]` as one word. -/
def dataWord (data : Bytes) (i : ℕ) : UInt32 :=
  ((data.getD (i * 4) 0).toUInt32 <<< 24) ||| ((data.getD (i * 4 + 1) 0).toUInt32 <<< 16) |||
    ((data.getD (i * 4 + 2) 0).toUInt32 <<< 8) ||| (data.getD (i * 4 + 3) 0).toUInt32

/-- The words `w`. -/
def sha256Schedule (data : Bytes) : List UInt32 :=
  (List.range' 16 48).foldl (fun w i =>
    let w15 := w.getD (i - 15) 0
    let w2 := w.getD (i - 2) 0
    let s0 := rotr32 w15 7 ^^^ rotr32 w15 18 ^^^ (w15 >>> 3)
    let s1 := rotr32 w2 17 ^^^ rotr32 w2 19 ^^^ (w2 >>> 10)
    w ++ [w.getD (i - 16) 0 + s0 + w.getD (i - 7) 0 + s1]) ((List.range 16).map (dataWord data))

def sha256Round (s : Sha256Words) (kw : UInt32 × UInt32) : Sha256Words :=
  let s1 := rotr32 s.e 6 ^^^ rotr32 s.e 11 ^^^ rotr32 s.e 25
  let ch := (s.e &&& s.f) ^^^ (~~~s.e &&& s.g)
  let temp1 := s.h + s1 + ch + kw.1 + kw.2
  let s0 := rotr32 s.a 2 ^^^ rotr32 s.a 13 ^^^ rotr32 s.a 22
  let maj := (s.a &&& s.b) ^^^ (s.a &&& s.c) ^^^ (s.b &&& s.c)
  let temp2 := s0 + maj
  { a := temp1 + temp2, b := s.a, c := s.b, d := s.c, e := s.d + temp1, f := s.e, g := s.f,
    h := s.g }

def sha256Transform (h : Sha256Words) (data : Bytes) : Sha256Words :=
  let r := (kSha256K.zip (sha256Schedule data)).foldl sha256Round h
  { a := h.a + r.a, b := h.b + r.b, c := h.c + r.c, d := h.d + r.d, e := h.e + r.e,
    f := h.f + r.f, g := h.g + r.g, h := h.h + r.h }

/-- The input with the byte `0x80`, zeros and its length in bits, in whole blocks. -/
def sha256Padded (input : Bytes) : Bytes :=
  let bitLen : UInt64 := .ofNat (input.length * 8)
  input ++ [0x80] ++ List.replicate ((64 - (input.length + 9) % 64) % 64) 0 ++
    [7, 6, 5, 4, 3, 2, 1, 0].map fun i : UInt64 => (bitLen >>> (i * 8)).toUInt8

def wordBytes (x : UInt32) : Bytes :=
  [(x >>> 24).toUInt8, (x >>> 16).toUInt8, (x >>> 8).toUInt8, x.toUInt8]

def sha256 (input : Bytes) : Bytes :=
  let padded := sha256Padded input
  let h := (List.range (padded.length / 64)).foldl
    (fun h i => sha256Transform h ((padded.drop (i * 64)).take 64))
    { a := 0x6a09e667, b := 0xbb67ae85, c := 0x3c6ef372, d := 0xa54ff53a,
      e := 0x510e527f, f := 0x9b05688c, g := 0x1f83d9ab, h := 0x5be0cd19 }
  [h.a, h.b, h.c, h.d, h.e, h.f, h.g, h.h].flatMap wordBytes

/-- The first bytes of the digest of `abc`. -/
example : (sha256 [97, 98, 99]).take 4 = [0xba, 0x78, 0x16, 0xbf] := by decide +kernel

def hmacSha256 (key message : Bytes) : Bytes :=
  let short := if 64 < key.length then sha256 key else key
  let keyBlock := short ++ List.replicate (64 - short.length) 0
  let ipad := keyBlock.map (· ^^^ 0x36)
  let opad := keyBlock.map (· ^^^ 0x5c)
  sha256 (opad ++ sha256 (ipad ++ message))

/-! ## base64url -/

/-- The place of a byte in the table of `base64url_decode`. -/
def base64urlPos (c : UInt8) : Option UInt32 :=
  if 65 ≤ c ∧ c ≤ 90 then some (c - 65).toUInt32
  else if 97 ≤ c ∧ c ≤ 122 then some (c - 97 + 26).toUInt32
  else if 48 ≤ c ∧ c ≤ 57 then some (c - 48 + 52).toUInt32
  else if c = 45 then some 62
  else if c = 95 then some 63
  else none

/-- The loop of `base64url_decode`; `none` where it gives up and returns nothing. -/
def base64urlLoop : Bytes → ℕ → UInt32 → Bytes → Option Bytes
  | [], _, _, out => some out
  | c :: cs, bits, val, out =>
    if c = 61 then some out
    else
      match base64urlPos c with
      | none => none
      | some pos =>
        let val := (val <<< 6) ||| pos
        let bits := bits + 6
        if 8 ≤ bits then
          base64urlLoop cs (bits - 8) val (out ++ [((val >>> .ofNat (bits - 8)) &&& 0xFF).toUInt8])
        else base64urlLoop cs bits val out

def base64urlDecode (input : Bytes) : Bytes := (base64urlLoop input 0 0 []).getD []

/-! ## The validator -/

/-- The configuration, and `verify_rs256`. -/
structure JwtValidator where
  secret : Bytes := []
  publicKeyPem : Bytes := []
  issuer : String := "boost-gateway"
  audience : String := ""
  requireExpiration : Bool := false
  verifyRs256 : Bytes → Bytes → Bytes → Bool

/-- What a token says. -/
structure JwtPayload where
  sub : String
  iss : String
  aud : String
  role : String
  displayName : String
  iat : UInt64
  exp : UInt64
  extra : Json

/-- `Result`. -/
inductive JwtResult
  | valid (payload : JwtPayload)
  | invalid (error : String)

/-- `Result::valid`. -/
def JwtResult.isValid : JwtResult → Bool
  | .valid _ => true
  | .invalid _ => false

def audienceMatches (payloadDoc : Json) (expectedAudience : String) : Bool :=
  if expectedAudience = "" then true
  else
    match payloadDoc.find? "aud" with
    | some (.string aud) => aud = expectedAudience
    | some (.array entries) => entries.any fun entry => entry.string? = some expectedAudience
    | _ => false

namespace JwtValidator

/-- The check of the signature under the algorithm of the header. -/
def checkSignature (v : JwtValidator) (alg : String) (signingInput sigBytes : Bytes) :
    Option String :=
  if alg = "HS256" then
    if v.secret = [] then some "missing_hs256_secret"
    else if sigBytes ≠ hmacSha256 v.secret signingInput then some "invalid_signature"
    else none
  else if alg = "RS256" then
    if v.publicKeyPem = [] then some "missing_rs256_public_key"
    else if !v.verifyRs256 v.publicKeyPem signingInput sigBytes then some "invalid_signature"
    else none
  else some ("unsupported_algorithm:" ++ alg)

def readPayload (payloadDoc : Json) : Except Json.TypeError JwtPayload := do
  let sub ← payloadDoc.value getString "sub" ""
  let iss ← payloadDoc.value getString "iss" ""
  let role ← payloadDoc.value getString "role" "player"
  let displayName ← payloadDoc.value getString "name" ""
  let iat ← payloadDoc.value getULongLong "iat" 0
  let exp ← payloadDoc.value getULongLong "exp" 0
  let aud := ((payloadDoc.find? "aud").bind Json.string?).getD ""
  return { sub, iss, aud, role, displayName, iat, exp, extra := payloadDoc }

/-- The checks of the payload, at the time `now` in seconds. -/
def checkPayload (v : JwtValidator) (now : ℤ) (payloadDoc : Json) (payload : JwtPayload) :
    JwtResult :=
  if payload.sub = "" then .invalid "missing_subject"
  else if v.issuer ≠ "" ∧ payload.iss ≠ v.issuer then .invalid "invalid_issuer"
  else if !audienceMatches payloadDoc v.audience then .invalid "invalid_audience"
  else if v.requireExpiration ∨ payload.exp ≠ 0 then
    if payload.exp = 0 then .invalid "missing_expiration"
    else if payload.exp.toInt64.toInt < now then .invalid "token_expired"
    else .valid payload
  else .valid payload

/-- `validate` of the three parts of a token. -/
def validateParts (v : JwtValidator) (now : ℤ) (headerB64 payloadB64 sigB64 : Bytes) :
    Except Json.TypeError JwtResult :=
  match Json.parse true (base64urlDecode headerB64) with
  | none => .ok (.invalid "invalid_header_json")
  | some headerDoc => do
    let alg ← headerDoc.value getString "alg" ""
    match v.checkSignature alg (headerB64 ++ [46] ++ payloadB64) (base64urlDecode sigB64) with
    | some error => return .invalid error
    | none =>
      match Json.parse true (base64urlDecode payloadB64) with
      | none => return .invalid "invalid_payload_json"
      | some payloadDoc =>
        let payload ← readPayload payloadDoc
        return v.checkPayload now payloadDoc payload

/-- `validate` at the time `now`. -/
def validate (v : JwtValidator) (now : ℤ) (token : Bytes) : Except Json.TypeError JwtResult :=
  match token.span (· ≠ 46) with
  | (_, []) => .ok (.invalid "malformed_token")
  | (headerB64, _ :: rest) =>
    match rest.span (· ≠ 46) with
    | (_, []) => .ok (.invalid "malformed_token")
    | (payloadB64, _ :: sigB64) => v.validateParts now headerB64 payloadB64 sigB64

variable {v : JwtValidator} {now : ℤ} {headerB64 payloadB64 sigB64 : Bytes}

theorem span_dot {part : Bytes} (h : (46 : UInt8) ∉ part) (rest : Bytes) :
    (part ++ 46 :: rest).span (· ≠ 46) = (part, 46 :: rest) := by
  have hpart : ∀ b ∈ part, decide (b ≠ 46) = true := fun b hb =>
    decide_eq_true fun heq => h (heq ▸ hb)
  rw [List.span_eq_takeWhile_dropWhile, List.takeWhile_append_of_pos hpart,
    List.dropWhile_append_of_pos hpart]
  simp

/-- A token of three parts. -/
theorem validate_of_parts (hheader : (46 : UInt8) ∉ headerB64)
    (hpayload : (46 : UInt8) ∉ payloadB64) :
    v.validate now (headerB64 ++ 46 :: (payloadB64 ++ 46 :: sigB64)) =
      v.validateParts now headerB64 payloadB64 sigB64 := by
  simp only [validate, span_dot hheader, span_dot hpayload]

/-- A token whose parts read and whose signature holds is decided by its payload. -/
theorem validateParts_of_signed {headerDoc payloadDoc : Json} {alg : String} {payload : JwtPayload}
    (hheader : Json.parse true (base64urlDecode headerB64) = some headerDoc)
    (halg : headerDoc.value getString "alg" "" = .ok alg)
    (hsig : v.checkSignature alg (headerB64 ++ [46] ++ payloadB64) (base64urlDecode sigB64) = none)
    (hpayload : Json.parse true (base64urlDecode payloadB64) = some payloadDoc)
    (hread : readPayload payloadDoc = .ok payload) :
    v.validateParts now headerB64 payloadB64 sigB64 =
      .ok (v.checkPayload now payloadDoc payload) := by
  simp only [validateParts, hheader, halg, bind, Except.bind, hsig, hpayload, hread]
  rfl

end JwtValidator

end BoostGateway.Login
