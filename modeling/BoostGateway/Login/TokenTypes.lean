import BoostGateway.Login.JwtValidator

/-!
# The tokens whose validation raises

`validate` (`jwt_validator.h`) reads the documents of a token without exceptions, and then takes
members from them that may have any type, the algorithm before the signature is checked.

`returns_validate_iff` : it returns when the header, if it reads, is an object whose algorithm is a
string, and, once the signature holds, the payload is an object of the types that are taken from
it. Without a signature that holds only the header decides (`returns_validate_of_unsigned`), so
that anyone can make it raise (`raises_validate`).
-/

namespace BoostGateway.Login

open Json (value getString getULongLong isString isArithmetic)

namespace JwtValidator

/-- The three parts of a token, between its first two dots. -/
def parts (token : Bytes) : Option (Bytes × Bytes × Bytes) :=
  match token.span (· ≠ 46) with
  | (_, []) => none
  | (headerB64, _ :: rest) =>
    match rest.span (· ≠ 46) with
    | (_, []) => none
    | (payloadB64, _ :: sigB64) => some (headerB64, payloadB64, sigB64)

/-- The header is an object whose algorithm, if it has one, is a string. -/
def HeaderTyped (headerDoc : Json) : Prop :=
  (∃ ms, headerDoc = .object ms) ∧ (headerDoc.find? "alg").all isString

/-- The payload is an object, and what is taken from it has its type. -/
structure PayloadTyped (payloadDoc : Json) : Prop where
  object : ∃ ms, payloadDoc = .object ms
  strings : ∀ key ∈ ["sub", "iss", "role", "name"], (payloadDoc.find? key).all isString
  numbers : ∀ key ∈ ["iat", "exp"], (payloadDoc.find? key).all isArithmetic

/-- The signature over the first two parts holds under the algorithm of the header. -/
def Signed (v : JwtValidator) (headerDoc : Json) (headerB64 payloadB64 sigB64 : Bytes) : Prop :=
  ∃ alg, headerDoc.value getString "alg" "" = .ok alg ∧
    v.checkSignature alg (headerB64 ++ [46] ++ payloadB64) (base64urlDecode sigB64) = none

/-- What is taken from the documents of a token has its type. -/
def PartsTyped (v : JwtValidator) (headerB64 payloadB64 sigB64 : Bytes) : Prop :=
  ∀ headerDoc, Json.parse true (base64urlDecode headerB64) = some headerDoc →
    HeaderTyped headerDoc ∧ (v.Signed headerDoc headerB64 payloadB64 sigB64 →
      ∀ payloadDoc, Json.parse true (base64urlDecode payloadB64) = some payloadDoc →
        PayloadTyped payloadDoc)

/-- A token of three parts is typed. -/
def Typed (v : JwtValidator) (token : Bytes) : Prop :=
  ∀ headerB64 payloadB64 sigB64, parts token = some (headerB64, payloadB64, sigB64) →
    v.PartsTyped headerB64 payloadB64 sigB64

variable {v : JwtValidator} {now : ℤ} {headerB64 payloadB64 sigB64 : Bytes}

theorem validate_eq (v : JwtValidator) (now : ℤ) (token : Bytes) :
    v.validate now token =
      match parts token with
      | none => .ok (.invalid "malformed_token")
      | some (headerB64, payloadB64, sigB64) =>
        v.validateParts now headerB64 payloadB64 sigB64 := by
  unfold validate parts
  split
  · simp only [*]
  · split <;> simp only [*]

theorem returns_alg_iff (headerDoc : Json) :
    Returns (headerDoc.value getString "alg" "") ↔ HeaderTyped headerDoc := by
  cases headerDoc with
  | object ms =>
    rw [Json.returns_value Json.returns_getString ⟨ms, rfl⟩]
    exact (and_iff_right ⟨ms, rfl⟩).symm
  | null | bool _ | unsigned _ | integer _ | float _ | string _ | array _ =>
    refine iff_of_false (not_returns_error _) ?_
    rintro ⟨⟨ms, hms⟩, -⟩
    cases hms

theorem returns_readPayload_iff (payloadDoc : Json) :
    Returns (readPayload payloadDoc) ↔ PayloadTyped payloadDoc := by
  have hreads : Returns (readPayload payloadDoc) ↔
      Returns (payloadDoc.value getString "sub" "") ∧
      Returns (payloadDoc.value getString "iss" "") ∧
      Returns (payloadDoc.value getString "role" "player") ∧
      Returns (payloadDoc.value getString "name" "") ∧
      Returns (payloadDoc.value getULongLong "iat" 0) ∧
      Returns (payloadDoc.value getULongLong "exp" 0) ∧ True :=
    returns_bind_iff fun _ => returns_bind_iff fun _ => returns_bind_iff fun _ =>
      returns_bind_iff fun _ => returns_bind_iff fun _ => returns_bind_iff fun _ =>
        iff_of_true (returns_pure _) trivial
  rw [hreads]
  cases payloadDoc with
  | object ms =>
    have hobject : ∃ ms', Json.object ms = .object ms' := ⟨ms, rfl⟩
    simp only [Json.returns_value Json.returns_getString hobject,
      Json.returns_value Json.returns_getULongLong hobject]
    constructor
    · rintro ⟨hsub, hiss, hrole, hname, hiat, hexp, -⟩
      refine ⟨hobject, ?_, ?_⟩
      · simp only [List.forall_mem_cons, hsub, hiss, hrole, hname, true_and]
        exact List.forall_mem_nil _
      · simp only [List.forall_mem_cons, hiat, hexp, true_and]
        exact List.forall_mem_nil _
    · rintro ⟨-, hstrings, hnumbers⟩
      simp only [List.forall_mem_cons] at hstrings hnumbers
      obtain ⟨hsub, hiss, hrole, hname, -⟩ := hstrings
      obtain ⟨hiat, hexp, -⟩ := hnumbers
      exact ⟨hsub, hiss, hrole, hname, hiat, hexp, trivial⟩
  | null | bool _ | unsigned _ | integer _ | float _ | string _ | array _ =>
    refine iff_of_false (fun h => not_returns_error _ h.1) ?_
    rintro ⟨⟨ms, hms⟩, -, -⟩
    cases hms

/-- The parts of a token return a result exactly when they are typed. -/
theorem returns_validateParts_iff :
    Returns (v.validateParts now headerB64 payloadB64 sigB64) ↔
      v.PartsTyped headerB64 payloadB64 sigB64 := by
  unfold validateParts PartsTyped
  cases hheader : Json.parse true (base64urlDecode headerB64) with
  | none => exact iff_of_true ⟨_, rfl⟩ (by simp)
  | some headerDoc =>
    simp only [Option.some.injEq, forall_eq', ← returns_alg_iff]
    cases halg : headerDoc.value getString "alg" "" with
    | error e => exact iff_of_false (not_returns_error e) fun h => not_returns_error e h.1
    | ok alg =>
      have hsigned : v.Signed headerDoc headerB64 payloadB64 sigB64 ↔
          v.checkSignature alg (headerB64 ++ [46] ++ payloadB64) (base64urlDecode sigB64) =
            none := by
        simp only [Signed, halg, Except.ok.injEq, exists_eq_left']
      have hok : (Except.ok alg : Except Json.TypeError String) = pure alg := rfl
      rw [hsigned, and_iff_right (returns_ok alg), hok, pure_bind]
      cases v.checkSignature alg (headerB64 ++ [46] ++ payloadB64) (base64urlDecode sigB64) with
      | some error => exact iff_of_true ⟨_, rfl⟩ (by simp)
      | none =>
        cases Json.parse true (base64urlDecode payloadB64) with
        | none => exact iff_of_true ⟨_, rfl⟩ (by simp)
        | some payloadDoc =>
          simp only [Option.some.injEq, forall_eq', forall_const, ← returns_readPayload_iff]
          exact (returns_bind_iff fun _ => iff_of_true (returns_pure _) trivial).trans
            (and_iff_left trivial)

/-- Validation returns a result exactly when the token is typed. -/
theorem returns_validate_iff (v : JwtValidator) (now : ℤ) (token : Bytes) :
    Returns (v.validate now token) ↔ v.Typed token := by
  rw [validate_eq, Typed]
  cases parts token with
  | none => exact iff_of_true ⟨_, rfl⟩ nofun
  | some split =>
    obtain ⟨headerB64, payloadB64, sigB64⟩ := split
    refine returns_validateParts_iff.trans ⟨fun h headerB64' payloadB64' sigB64' heq => ?_,
      fun h => h _ _ _ rfl⟩
    cases heq
    exact h

/-- Without a signature that holds only the header decides. -/
theorem returns_validate_of_unsigned {headerDoc : Json} {token : Bytes}
    (hparts : parts token = some (headerB64, payloadB64, sigB64))
    (hheader : Json.parse true (base64urlDecode headerB64) = some headerDoc)
    (hunsigned : ¬v.Signed headerDoc headerB64 payloadB64 sigB64) :
    Returns (v.validate now token) ↔ HeaderTyped headerDoc := by
  rw [validate_eq, hparts]
  refine returns_validateParts_iff.trans ⟨fun h => (h headerDoc hheader).1, fun h doc hdoc => ?_⟩
  obtain rfl := Option.some.inj (hheader.symm.trans hdoc)
  exact ⟨h, fun hsigned => absurd hsigned hunsigned⟩

/-- A header that is an array makes every validator raise. -/
theorem raises_validate (v : JwtValidator) (now : ℤ) :
    ¬Returns (v.validate now [87, 49, 48, 46, 46]) := by
  have htext : base64urlDecode [87, 49, 48] =
      encodeUtf8 (Json.dump (fun _ => []) none 0 (.array [])) := by decide +kernel
  have hplain : Json.Plain (.array []) := trivial
  have hheader : Json.parse true (base64urlDecode [87, 49, 48]) = some (.array []) := by
    rw [htext, Json.parse_dump hplain]
    rfl
  have hparts : parts [87, 49, 48, 46, 46] = some ([87, 49, 48], [], []) := by decide +kernel
  rw [returns_validate_iff]
  intro htyped
  obtain ⟨⟨ms, hms⟩, -⟩ := (htyped _ _ _ hparts _ hheader).1
  cases hms

theorem not_returns_validate : ¬∀ (v : JwtValidator) (now : ℤ) (token : Bytes),
    Returns (v.validate now token) :=
  fun hall => raises_validate { verifyRs256 := fun _ _ _ => false } 0 (hall _ _ _)

end JwtValidator

end BoostGateway.Login
