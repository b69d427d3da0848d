import BoostGateway.Base.JsonWritten
import BoostGateway.Login.Base64url

/-!
# Tokens that are generated

`generate` (`jwt_validator.h`) writes the standard claims of a payload and then its extra members
over them. `validate` returns the whole document as the extra of its payload, standard claims
included, so that a payload issued again keeps what the old token said, its expiration too.

`roundTrip_iff` : what `validate` makes of a generated token is the payload exactly when the extra
members that have the name of a standard claim say the same.
-/

namespace BoostGateway.Login

open Json (value getString getULongLong ofMembers readBack Written)

/-- A validator with the key and the function that `generate` signs with for RS256. -/
structure JwtIssuer extends JwtValidator where
  privateKeyPem : Bytes := []
  signRs256 : Bytes → Bytes → Bytes

namespace JwtIssuer

/-- What `items()` goes through. -/
def items : Json → List (String × Json)
  | .object ms => ms
  | .array xs => xs.mapIdx fun index x => (toString index, x)
  | .null => []
  | j => [("", j)]

def header (useRs256 : Bool) : Json :=
  ofMembers [("alg", .string (if useRs256 then "RS256" else "HS256")), ("typ", .string "JWT")]

/-- The claims that are written before the extra members. -/
def standard (i : JwtIssuer) (payload : JwtPayload) : List (String × Json) :=
  [("sub", .string payload.sub), ("iss", .string i.issuer), ("role", .string payload.role),
    ("name", .string payload.displayName), ("iat", .unsigned payload.iat)] ++
  (if payload.aud = "" then [] else [("aud", .string payload.aud)]) ++
  (if payload.exp = 0 then [] else [("exp", .unsigned payload.exp)])

def body (i : JwtIssuer) (payload : JwtPayload) : Json :=
  ofMembers (i.standard payload ++ items payload.extra)

/-- `base64url_encode(doc.dump())`. -/
def encodeDocument (floatText : Float → List Char) (doc : Json) : Bytes :=
  base64urlEncode (encodeUtf8 (Json.dump floatText none 0 doc))

def generate (i : JwtIssuer) (floatText : Float → List Char) (payload : JwtPayload) : Bytes :=
  let useRs256 : Bool := i.privateKeyPem ≠ []
  if useRs256 ∧ i.publicKeyPem = [] then []
  else if ¬useRs256 ∧ i.secret = [] then []
  else
    let h := encodeDocument floatText (header useRs256)
    let p := encodeDocument floatText (i.body payload)
    let signingInput := h ++ [46] ++ p
    let signature :=
      if useRs256 then i.signRs256 i.privateKeyPem signingInput
      else hmacSha256 i.secret signingInput
    if signature = [] then [] else h ++ [46] ++ p ++ [46] ++ base64urlEncode signature

/-- An HS256 configuration, and a payload that it accepts at the time `now`. -/
structure Issuable (i : JwtIssuer) (floatText : Float → List Char) (now : ℤ)
    (payload : JwtPayload) : Prop where
  hs256 : i.privateKeyPem = []
  secret : i.secret ≠ []
  sub : payload.sub ≠ ""
  aud : payload.aud = i.audience
  exp : if payload.exp = 0 then i.requireExpiration = false
    else now ≤ payload.exp.toNat ∧ payload.exp.toNat < 2 ^ 63
  extra : payload.extra = .null ∨ ∃ ms, payload.extra = .object ms
  written : Written floatText payload.extra

/-- The generated token is valid, and its claims are those of the payload. -/
def RoundTrips (i : JwtIssuer) (floatText : Float → List Char) (now : ℤ) (payload : JwtPayload) :
    Prop :=
  ∃ result, i.validate now (i.generate floatText payload) = .ok (.valid result) ∧
    result.sub = payload.sub ∧ result.role = payload.role ∧
    result.displayName = payload.displayName ∧ result.iat = payload.iat ∧
    result.exp = payload.exp ∧ result.aud = payload.aud

/-- The extra members with the name of a standard claim say the same. -/
structure Agrees (i : JwtIssuer) (floatText : Float → List Char) (payload : JwtPayload) : Prop where
  sub : ∀ m ∈ payload.extra.find? "sub", m.string? = some payload.sub
  iss : ∀ m ∈ payload.extra.find? "iss",
    ∃ iss, m.string? = some iss ∧ (i.issuer ≠ "" → iss = i.issuer)
  role : ∀ m ∈ payload.extra.find? "role", m.string? = some payload.role
  name : ∀ m ∈ payload.extra.find? "name", m.string? = some payload.displayName
  iat : ∀ m ∈ payload.extra.find? "iat", (readBack floatText m).getULongLong = .ok payload.iat
  exp : ∀ m ∈ payload.extra.find? "exp", (readBack floatText m).getULongLong = .ok payload.exp
  aud : ∀ m ∈ payload.extra.find? "aud", m.string?.getD "" = payload.aud

variable {i : JwtIssuer} {floatText : Float → List Char} {now : ℤ} {payload : JwtPayload}

/-! ## The token -/

theorem sha256_ne_nil (input : Bytes) : sha256 input ≠ [] := by
  simp [sha256, wordBytes]

theorem generate_eq (hhs256 : i.privateKeyPem = []) (hsecret : i.secret ≠ []) :
    i.generate floatText payload = encodeDocument floatText (header false) ++
      46 :: (encodeDocument floatText (i.body payload) ++
        46 :: base64urlEncode (hmacSha256 i.secret (encodeDocument floatText (header false) ++
          [46] ++ encodeDocument floatText (i.body payload)))) := by
  have hsignature (message : Bytes) : hmacSha256 i.secret message ≠ [] := sha256_ne_nil _
  simp only [generate, hhs256, ne_eq, not_true_eq_false, decide_false, Bool.false_eq_true,
    false_and, if_false, not_false_eq_true, true_and, hsecret, hsignature, List.append_assoc,
    List.cons_append, List.nil_append]

theorem written_header (useRs256 : Bool) : Written floatText (header useRs256) := by
  refine Json.written_ofMembers ?_
  simp only [List.forall_mem_cons]
  exact ⟨trivial, trivial, List.forall_mem_nil _⟩

theorem written_standard : ∀ m ∈ i.standard payload, Written floatText m.2 := by
  simp only [standard, List.forall_mem_append, List.forall_mem_cons]
  refine ⟨⟨⟨trivial, trivial, trivial, trivial, trivial, List.forall_mem_nil _⟩, ?_⟩, ?_⟩
  · split_ifs
    · exact List.forall_mem_nil _
    · exact List.forall_mem_singleton.mpr trivial
  · split_ifs
    · exact List.forall_mem_nil _
    · exact List.forall_mem_singleton.mpr trivial

/-- The members of an extra that is an object, or nothing. -/
theorem items_of_object (hextra : payload.extra = .null ∨ ∃ ms, payload.extra = .object ms)
    (hwritten : Written floatText payload.extra) :
    ((items payload.extra).map Prod.fst).Pairwise (Json.keyLess · ·) ∧
      (∀ m ∈ items payload.extra, Written floatText m.2) ∧
      ∀ key, (Json.object (items payload.extra)).find? key = payload.extra.find? key := by
  rcases hextra with hnull | ⟨ms, hms⟩
  · rw [hnull]
    exact ⟨.nil, List.forall_mem_nil _, fun _ => rfl⟩
  · rw [hms] at hwritten ⊢
    exact ⟨hwritten.1, fun m hm => Json.written_of_mem hwritten.2 hm, fun _ => rfl⟩

variable {doc : Json}

theorem parse_encodeDocument (h : Written floatText doc) :
    Json.parse true (base64urlDecode (encodeDocument floatText doc)) =
      some (readBack floatText doc) := by
  rw [encodeDocument, base64urlDecode_encode, Json.parse_dump_of_written h]

/-- The document that `validate` reads from a generated token. -/
def document (i : JwtIssuer) (floatText : Float → List Char) (payload : JwtPayload) : Json :=
  readBack floatText (i.body payload)

theorem value_readBack {α : Type} (get : Json → Except Json.TypeError α) (key : String)
    (fallback : α) (ms : List (String × Json)) :
    (readBack floatText (ofMembers ms)).value get key fallback =
      ((ofMembers ms).find? key).elim (.ok fallback) fun m => get (readBack floatText m) := by
  change ((readBack floatText (ofMembers ms)).find? key).elim (.ok fallback) get = _
  rw [Json.find?_readBack]
  cases (ofMembers ms).find? key <;> rfl

theorem validateParts_of_signature {v : JwtValidator} {headerB64 payloadB64 sigB64 : Bytes}
    {headerDoc payloadDoc : Json} {alg : String}
    (hheader : Json.parse true (base64urlDecode headerB64) = some headerDoc)
    (halg : headerDoc.value getString "alg" "" = .ok alg)
    (hsig : v.checkSignature alg (headerB64 ++ [46] ++ payloadB64) (base64urlDecode sigB64) = none)
    (hpayload : Json.parse true (base64urlDecode payloadB64) = some payloadDoc) :
    v.validateParts now headerB64 payloadB64 sigB64 =
      (JwtValidator.readPayload payloadDoc).map (v.checkPayload now payloadDoc) := by
  simp only [JwtValidator.validateParts, hheader, halg, bind, Except.bind, hsig, hpayload]
  cases JwtValidator.readPayload payloadDoc <;> rfl

theorem value_alg : (readBack floatText (header false)).value getString "alg" "" = .ok "HS256" := by
  rw [header, value_readBack, Json.find?_ofMembers]
  rfl

/-- Validation of a generated token comes to the checks of its payload. -/
theorem validate_generate (h : i.Issuable floatText now payload) :
    i.validate now (i.generate floatText payload) =
      (JwtValidator.readPayload (i.document floatText payload)).map
        (i.checkPayload now (i.document floatText payload)) := by
  have hbody : Written floatText (i.body payload) := by
    refine Json.written_ofMembers fun m hm => ?_
    rcases List.mem_append.mp hm with hm | hm
    · exact written_standard m hm
    · exact (items_of_object h.extra h.written).2.1 m hm
  have hdot (doc : Json) : (46 : UInt8) ∉ encodeDocument floatText doc := dot_notMem_encode _
  rw [generate_eq h.hs256 h.secret, JwtValidator.validate_of_parts (hdot _) (hdot _)]
  refine validateParts_of_signature (parse_encodeDocument (written_header false)) value_alg ?_
    (parse_encodeDocument hbody)
  rw [base64urlDecode_encode, JwtValidator.checkSignature, if_pos rfl, if_neg h.secret,
    if_neg (not_not_intro rfl)]

/-! ## The claims -/

/-- The extra member with the name of the claim, or else the standard one. -/
theorem find?_body (h : i.Issuable floatText now payload) (key : String) :
    (i.body payload).find? key =
      (payload.extra.find? key).or ((ofMembers (i.standard payload)).find? key) := by
  obtain ⟨hsorted, -, hfind⟩ := items_of_object h.extra h.written
  rw [body, Json.find?_ofMembers_append_sorted hsorted, hfind]

/-- A claim reads as the value `a` exactly when its extra member does, if there is one. -/
theorem value_document {α : Type} (h : i.Issuable floatText now payload)
    {get : Json → Except Json.TypeError α} {key : String} {fallback a : α}
    (hstandard : ((ofMembers (i.standard payload)).find? key).elim (.ok fallback)
      (fun m => get (readBack floatText m)) = .ok a) :
    (i.document floatText payload).value get key fallback =
      (payload.extra.find? key).elim (.ok a) fun m => get (readBack floatText m) := by
  rw [document, body, value_readBack]
  change ((i.body payload).find? key).elim _ _ = _
  rw [find?_body h]
  cases payload.extra.find? key with
  | none => exact hstandard
  | some m => rfl

theorem elim_eq_ok_iff {α : Type} {extra : Option Json} {get : Json → Except Json.TypeError α}
    {a : α} : extra.elim (.ok a) get = .ok a ↔ ∀ m ∈ extra, get m = .ok a := by
  cases extra with
  | none => exact iff_of_true rfl nofun
  | some m => exact ⟨fun h m' hm' => Option.some.inj hm' ▸ h, fun h => h m rfl⟩

theorem string?_readBack (m : Json) : (readBack floatText m).string? = m.string? := by
  cases m with
  | float x =>
    rw [readBack, Json.asWritten]
    split_ifs
    · rfl
    · rfl
  | integer n =>
    rw [readBack, Json.asWritten, Json.asRead]
    split_ifs
    · rfl
    · rfl
  | null | bool _ | unsigned _ | string _ | array _ | object _ => rfl

theorem getString_readBack (m : Json) (s : String) :
    (readBack floatText m).getString = .ok s ↔ m.string? = some s := by
  rw [Json.getString_eq_ok, string?_readBack]

theorem find?_standard :
    (ofMembers (i.standard payload)).find? "sub" = some (.string payload.sub) ∧
    (ofMembers (i.standard payload)).find? "iss" = some (.string i.issuer) ∧
    (ofMembers (i.standard payload)).find? "role" = some (.string payload.role) ∧
    (ofMembers (i.standard payload)).find? "name" = some (.string payload.displayName) ∧
    (ofMembers (i.standard payload)).find? "iat" = some (.unsigned payload.iat) ∧
    (ofMembers (i.standard payload)).find? "aud" =
      (if payload.aud = "" then none else some (.string payload.aud)) ∧
    (ofMembers (i.standard payload)).find? "exp" =
      (if payload.exp = 0 then none else some (.unsigned payload.exp)) := by
  rw [standard]
  simp only [Json.find?_ofMembers]
  split_ifs
  · exact ⟨rfl, rfl, rfl, rfl, rfl, rfl, rfl⟩
  · exact ⟨rfl, rfl, rfl, rfl, rfl, rfl, rfl⟩
  · exact ⟨rfl, rfl, rfl, rfl, rfl, rfl, rfl⟩
  · exact ⟨rfl, rfl, rfl, rfl, rfl, rfl, rfl⟩

/-- An expiration of zero is not written, and read as zero. -/
theorem value_standard_exp : ((ofMembers (i.standard payload)).find? "exp").elim (.ok 0)
    (fun m => getULongLong (readBack floatText m)) = .ok payload.exp := by
  rw [find?_standard.2.2.2.2.2.2]
  split_ifs with hzero
  · exact congrArg _ hzero.symm
  · rfl

/-- What `validate` takes from a document. -/
structure Reads (doc : Json) (result : JwtPayload) : Prop where
  sub : doc.value getString "sub" "" = .ok result.sub
  iss : doc.value getString "iss" "" = .ok result.iss
  role : doc.value getString "role" "player" = .ok result.role
  name : doc.value getString "name" "" = .ok result.displayName
  iat : doc.value getULongLong "iat" 0 = .ok result.iat
  exp : doc.value getULongLong "exp" 0 = .ok result.exp
  aud : ((doc.find? "aud").bind Json.string?).getD "" = result.aud
  extra : doc = result.extra

variable {result : JwtPayload}

theorem reads_of_readPayload
    (h : JwtValidator.readPayload doc = .ok result) : Reads doc result := by
  have hensures : Ensures (Reads doc) (JwtValidator.readPayload doc) :=
    ensures_bind_of_eq fun _ hsub => ensures_bind_of_eq fun _ hiss =>
      ensures_bind_of_eq fun _ hrole => ensures_bind_of_eq fun _ hname =>
        ensures_bind_of_eq fun _ hiat => ensures_bind_of_eq fun _ hexp =>
          ensures_ok ⟨hsub, hiss, hrole, hname, hiat, hexp, rfl, rfl⟩
  exact hensures result h

theorem readPayload_of_reads (h : Reads doc result) :
    JwtValidator.readPayload doc = .ok result := by
  simp only [JwtValidator.readPayload, h.sub, h.iss, h.role, h.name, h.iat, h.exp, h.aud, bind,
    Except.bind]
  rw [h.extra]
  rfl

theorem checkPayload_eq_valid {v : JwtValidator} {doc : Json} {read result : JwtPayload}
    (h : v.checkPayload now doc read = .valid result) :
    read = result ∧ (v.issuer ≠ "" → read.iss = v.issuer) := by
  unfold JwtValidator.checkPayload at h
  split_ifs at h with hsub hiss haud hrequired hexp hexpired
  · exact ⟨JwtResult.valid.inj h, fun hne => not_not.mp fun hiss' => hiss ⟨hne, hiss'⟩⟩
  · exact ⟨JwtResult.valid.inj h, fun hne => not_not.mp fun hiss' => hiss ⟨hne, hiss'⟩⟩

theorem audienceMatches_of_aud {aud : String}
    (h : ((doc.find? "aud").bind Json.string?).getD "" = aud) : audienceMatches doc aud := by
  unfold audienceMatches
  split_ifs with hempty
  · rfl
  · cases hfind : doc.find? "aud" with
    | none =>
      rw [hfind] at h
      exact absurd h.symm hempty
    | some m =>
      rw [hfind] at h
      cases m with
      | string s => exact decide_eq_true h
      | null | bool _ | unsigned _ | integer _ | float _ | array _ | object _ =>
        exact absurd h.symm hempty

theorem toInt_toInt64 {n : UInt64} (h : n.toNat < 2 ^ 63) : n.toInt64.toInt = n.toNat :=
  BitVec.toInt_eq_toNat_of_lt (by change 2 * n.toNat < 2 ^ 64; omega)

theorem find?_aud (h : i.Issuable floatText now payload) :
    (((i.document floatText payload).find? "aud").bind Json.string?).getD "" = payload.aud ↔
      ∀ m ∈ payload.extra.find? "aud", m.string?.getD "" = payload.aud := by
  have hdoc : (i.document floatText payload).find? "aud" =
      ((i.body payload).find? "aud").map (readBack floatText) := Json.find?_readBack _ _
  rw [hdoc, find?_body h, find?_standard.2.2.2.2.2.1]
  cases payload.extra.find? "aud" with
  | none =>
    refine iff_of_true ?_ nofun
    split_ifs with hempty
    · exact hempty.symm
    · rfl
  | some m =>
    change ((readBack floatText m).string?).getD "" = _ ↔ _
    rw [string?_readBack]
    exact ⟨fun heq m' hm' => Option.some.inj hm' ▸ heq, fun hall => hall m rfl⟩

theorem agrees_of_roundTrips (h : i.Issuable floatText now payload)
    (htrip : i.RoundTrips floatText now payload) : i.Agrees floatText payload := by
  obtain ⟨result, hvalid, hsub, hrole, hname, hiat, hexp, haud⟩ := htrip
  rw [validate_generate h] at hvalid
  obtain ⟨hstdSub, hstdIss, hstdRole, hstdName, hstdIat, -, -⟩ := @find?_standard i payload
  cases hread : JwtValidator.readPayload (i.document floatText payload) with
  | error e =>
    rw [hread] at hvalid
    cases hvalid
  | ok read =>
    rw [hread] at hvalid
    obtain ⟨rfl, hiss⟩ := checkPayload_eq_valid (Except.ok.inj hvalid)
    have hreads := reads_of_readPayload hread
    have hstrings {key fallback s : String}
        (hstandard : (ofMembers (i.standard payload)).find? key = some (.string s))
        (hvalue : (i.document floatText payload).value getString key fallback = .ok s) :
        ∀ m ∈ payload.extra.find? key, m.string? = some s := by
      rw [value_document h (a := s) (by rw [hstandard]; rfl), elim_eq_ok_iff] at hvalue
      exact fun m hm => (getString_readBack m s).mp (hvalue m hm)
    refine ⟨hstrings hstdSub (hsub ▸ hreads.sub), fun m hm => ⟨read.iss, ?_, hiss⟩,
      hstrings hstdRole (hrole ▸ hreads.role), hstrings hstdName (hname ▸ hreads.name), ?_, ?_,
      (find?_aud h).mp (hreads.aud.trans haud)⟩
    · have hvalue := hreads.iss
      rw [value_document h (a := i.issuer) (by rw [hstdIss]; rfl), show _ = some m from hm]
        at hvalue
      exact (getString_readBack m _).mp hvalue
    · have hvalue := hreads.iat
      rw [value_document h (a := payload.iat) (by rw [hstdIat]; rfl), hiat, elim_eq_ok_iff]
        at hvalue
      exact hvalue
    · have hvalue := hreads.exp
      rw [value_document h value_standard_exp, hexp, elim_eq_ok_iff] at hvalue
      exact hvalue

/-- A payload that reads as issued passes the checks. -/
theorem checkPayload_of_issuable
    (h : i.Issuable floatText now payload) (hsub : result.sub = payload.sub)
    (hiss : i.issuer ≠ "" → result.iss = i.issuer) (hexp : result.exp = payload.exp)
    (haud : ((doc.find? "aud").bind Json.string?).getD "" = payload.aud) :
    i.checkPayload now doc result = .valid result := by
  have hmatches : audienceMatches doc i.audience := audienceMatches_of_aud (haud.trans h.aud)
  have hissuer : ¬(i.issuer ≠ "" ∧ result.iss ≠ i.issuer) := fun hwrong => hwrong.2 (hiss hwrong.1)
  rw [JwtValidator.checkPayload, if_neg (hsub ▸ h.sub), if_neg hissuer, if_neg (by simp [hmatches]),
    hexp]
  have hallowed := h.exp
  by_cases hzero : payload.exp = 0
  · rw [if_pos hzero] at hallowed
    rw [if_neg (by simp [hallowed, hzero])]
  · rw [if_neg hzero] at hallowed
    rw [if_pos (.inr hzero), if_neg hzero, toInt_toInt64 hallowed.2,
      if_neg (Int.not_lt.mpr hallowed.1)]

theorem roundTrips_of_agrees (h : i.Issuable floatText now payload)
    (hagrees : i.Agrees floatText payload) : i.RoundTrips floatText now payload := by
  obtain ⟨hstdSub, hstdIss, hstdRole, hstdName, hstdIat, -, -⟩ := @find?_standard i payload
  have hstrings {key fallback s : String}
      (hstandard : (ofMembers (i.standard payload)).find? key = some (.string s))
      (hextra : ∀ m ∈ payload.extra.find? key, m.string? = some s) :
      (i.document floatText payload).value getString key fallback = .ok s := by
    rw [value_document h (a := s) (by rw [hstandard]; rfl), elim_eq_ok_iff]
    exact fun m hm => (getString_readBack m s).mpr (hextra m hm)
  obtain ⟨iss, hiss, hissuer⟩ : ∃ iss,
      (i.document floatText payload).value getString "iss" "" = .ok iss ∧
        (i.issuer ≠ "" → iss = i.issuer) := by
    rw [value_document h (a := i.issuer) (by rw [hstdIss]; rfl)]
    cases hfind : payload.extra.find? "iss" with
    | none => exact ⟨i.issuer, rfl, fun _ => rfl⟩
    | some m =>
      obtain ⟨iss, hstring, hissuer⟩ := hagrees.iss m hfind
      exact ⟨iss, (getString_readBack m iss).mpr hstring, hissuer⟩
  have haud := (find?_aud h).mpr hagrees.aud
  have hreads : Reads (i.document floatText payload)
      { payload with iss, extra := i.document floatText payload } := by
    refine ⟨hstrings hstdSub hagrees.sub, hiss, hstrings hstdRole hagrees.role,
      hstrings hstdName hagrees.name, ?_, ?_, haud, rfl⟩
    · rw [value_document h (a := payload.iat) (by rw [hstdIat]; rfl)]
      exact elim_eq_ok_iff.mpr hagrees.iat
    · rw [value_document h value_standard_exp]
      exact elim_eq_ok_iff.mpr hagrees.exp
  have hchecks : i.checkPayload now (i.document floatText payload)
      { payload with iss, extra := i.document floatText payload } = .valid _ :=
    checkPayload_of_issuable h rfl hissuer rfl haud
  refine ⟨{ payload with iss, extra := i.document floatText payload }, ?_, rfl, rfl, rfl, rfl, rfl,
    rfl⟩
  rw [validate_generate h, readPayload_of_reads hreads]
  exact congrArg Except.ok hchecks

/-- A generated token comes back with the claims of its payload exactly when the extra members say
the same. -/
theorem roundTrip_iff (h : i.Issuable floatText now payload) :
    i.RoundTrips floatText now payload ↔ i.Agrees floatText payload :=
  ⟨agrees_of_roundTrips h, roundTrips_of_agrees h⟩

def exampleIssuer : JwtIssuer where
  secret := [107]
  audience := "game"
  verifyRs256 _ _ _ := false
  signRs256 _ _ := []

def levelled : JwtPayload where
  sub := "a"
  iss := ""
  aud := "game"
  role := "player"
  displayName := ""
  iat := 0
  exp := 100
  extra := .object [("level", .unsigned 5)]

/-- A payload with an extra member of its own. -/
theorem roundTrip_iff_level : exampleIssuer.RoundTrips (fun _ => []) 50 levelled := by
  have hwritten : Written (fun _ => []) levelled.extra :=
    And.intro (.cons (List.forall_mem_nil _) .nil) ⟨trivial, trivial⟩
  have hissuable : exampleIssuer.Issuable (fun _ => []) 50 levelled :=
    ⟨rfl, by decide, by decide, rfl, by decide, .inr ⟨_, rfl⟩, hwritten⟩
  have hnone : ∀ key ≠ "level", levelled.extra.find? key = none := by
    intro key hkey
    simp [levelled, Json.find?, Ne.symm hkey]
  refine (roundTrip_iff hissuable).mpr ⟨?_, ?_, ?_, ?_, ?_, ?_, ?_⟩
  all_goals
    rw [hnone _ (by decide)]
    rintro _ ⟨⟩

/-- What `validate` read from a token with the expiration 100, to be issued again until 200. -/
def renewed : JwtPayload where
  sub := "a"
  iss := "boost-gateway"
  aud := "game"
  role := "player"
  displayName := ""
  iat := 0
  exp := 200
  extra := .object [("aud", .string "game"), ("exp", .unsigned 100), ("iat", .unsigned 0),
    ("iss", .string "boost-gateway"), ("name", .string ""), ("role", .string "player"),
    ("sub", .string "a")]

/-- The token issued again keeps the expiration of the old one. -/
theorem not_roundTrips : ¬∀ (i : JwtIssuer) (floatText : Float → List Char) (now : ℤ)
    (payload : JwtPayload), i.Issuable floatText now payload →
    i.RoundTrips floatText now payload := by
  intro hall
  have hwritten : Written (fun _ => []) renewed.extra :=
    And.intro (by decide +kernel) ⟨trivial, trivial, trivial, trivial, trivial, trivial, trivial,
      trivial⟩
  have hissuable : exampleIssuer.Issuable (fun _ => []) 150 renewed :=
    ⟨rfl, by decide, by decide, rfl, by decide, .inr ⟨_, rfl⟩, hwritten⟩
  have hagrees := agrees_of_roundTrips hissuable (hall _ _ _ _ hissuable)
  have hexp : getULongLong (.unsigned 100) = .ok 200 := hagrees.exp _ rfl
  exact absurd hexp nofun

end JwtIssuer

end BoostGateway.Login
