import BoostGateway.Base.JsonParse
import BoostGateway.Proto.EnvelopeCodec
import BoostGateway.Service.Envelope

/-!
# Error answers and typed responses

`make_error` of the matchmaking and the leaderboard service puts the reason between two
quotes as it is, and `wrap_typed_response_if_needed` (`envelope_adapter.cpp`) parses that
text again for the client of a typed request, with an empty object for a text that is no
JSON. So the reason arrives if and only if each of its characters stands for itself in a
string (`reasonReads_iff`). A quote in the reason ends the string early, and the members
that follow it in the reason have no room for the whole reason.
-/

namespace BoostGateway.Service

open Json Proto

/-- `make_error`. -/
def makeError (code : Int32) (reason : String) : BackendEnvelope :=
  { kind := .error
    errorCode := code
    payload := "\x7b\"status\":\"error\",\"reason\":\"" ++ reason ++ "\"\x7d" }

variable (floatText : Float → List Char)

/-- `maybe_wrap_typed_response`. -/
def maybeWrapTypedResponse (request : Option TypedEnvelope) (kind : EnvelopeMessageKind)
    (payload : Json) (errorCode : Int32) : String :=
  match request, domainForKind kind with
  | some r, some domain => String.ofList
      ((envelopeDocument { r.metadata with errorCode := errorCode } domain kind payload).dump
        floatText none 0)
  | _, _ => String.ofList (payload.dump floatText none 0)

/-- `wrap_typed_response_if_needed`. -/
def wrapTypedResponseIfNeeded (request : Option TypedEnvelope) (response : BackendEnvelope)
    (kind : EnvelopeMessageKind) : BackendEnvelope :=
  match request with
  | none => response
  | some r =>
    { response with
      payload := maybeWrapTypedResponse floatText (some r) kind
        ((parse true (encodeUtf8 response.payload.toList)).getD (.object []))
        response.errorCode }

/-- `wrap_error_if_needed`; an error that is sent as it is has no request. -/
def wrapErrorIfNeeded (request : Option TypedEnvelope) (code : Int32) (reason : String)
    (kind : EnvelopeMessageKind) : BackendEnvelope :=
  wrapTypedResponseIfNeeded floatText request (makeError code reason) kind

/-- The document a client finds in a payload : in the typed envelope where the answer was
wrapped in one. -/
def answerDocument (request : Option TypedEnvelope) (payload : String) : Option Json :=
  match request with
  | none => parse true (encodeUtf8 payload.toList)
  | some _ =>
    match decodeTypedEnvelope (encodeUtf8 payload.toList) with
    | .ok (some e) => some e.payload
    | _ => none

/-- The document is an object, and its reason is the given one. -/
def ReasonReads (document : Option Json) (reason : String) : Prop :=
  ∃ ms, document = some (.object ms) ∧ (Json.object ms).find? "reason" = some (.string reason)

/-! ## The text of an error -/

/-- The text of an error from the reason on, with what comes before it. -/
def errorText (cs : List Char) : List Char :=
  '{' :: '"' :: ("status".toList ++ '"' :: ':' :: '"' :: ("error".toList ++ '"' :: ',' :: '"' ::
    ("reason".toList ++ '"' :: ':' :: '"' :: cs)))

theorem payload_makeError (code : Int32) (reason : String) :
    (makeError code reason).payload.toList = errorText (reason.toList ++ ['"', '}']) := by
  have hstart : "\x7b\"status\":\"error\",\"reason\":\"".toList = errorText [] := by decide
  have hend : "\"\x7d".toList = ['"', '}'] := by decide
  simp only [makeError, String.toList_append, hstart, hend]
  simp only [errorText, List.cons_append, List.append_assoc, List.nil_append]

/-- The text of an error is read as its status and the members from the reason on. -/
theorem parseText_errorText (cs : List Char) :
    ∃ n, parseText true (errorText cs) =
      ((parseString cs).bind (parseAfterString n "reason")).bind fun r =>
        if skipSpace r.2 ≠ [] then none
        else some (ofMembers (("status", .string "error") :: r.1)) := by
  have hlong : 3 ≤ (errorText cs).length := by
    simp only [errorText, List.length_cons, List.length_append]
    omega
  obtain ⟨n, hn⟩ : ∃ n, (errorText cs).length = n + 3 := ⟨_, (Nat.sub_add_cancel hlong).symm⟩
  refine ⟨n + 1, ?_⟩
  have herror : parseString ("error".toList ++ '"' :: ',' :: '"' ::
      ("reason".toList ++ '"' :: ':' :: '"' :: cs)) =
        some ("error", ',' :: '"' :: ("reason".toList ++ '"' :: ':' :: '"' :: cs)) :=
    parseString_plain (by decide) _
  have hmembers : parseMembers (n + 3) ('"' :: ("status".toList ++ '"' :: ':' :: '"' ::
      ("error".toList ++ '"' :: ',' :: '"' :: ("reason".toList ++ '"' :: ':' :: '"' :: cs)))) =
      ((parseString cs).bind (parseAfterString (n + 1) "reason")).map
        fun r => (("status", .string "error") :: r.1, r.2) := by
    rw [parseMembers_quoted (by decide), herror, Option.bind_some, parseAfterString,
      skipSpace_cons (by decide)]
    exact congrArg (Option.map _) (parseMembers_quoted (by decide) n cs)
  have hvalue : parseValue (n + 3 + 1) (errorText cs) =
      ((parseString cs).bind (parseAfterString (n + 1) "reason")).map
        fun r => (ofMembers (("status", .string "error") :: r.1), r.2) := by
    rw [errorText, parseValue_members, hmembers, Option.map_map]
    rfl
  rw [parseText, hn, hvalue, Option.bind_eq_bind]
  cases (parseString cs).bind (parseAfterString (n + 1) "reason") with
  | none => rfl
  | some r => simp

/-- A zero in the reason ends the text. -/
theorem parse_errorText (cs : List Char) :
    parse true (encodeUtf8 (errorText cs)) =
      parseText true (errorText (cs.takeWhile (· ≠ '\x00'))) := by
  have hsplit : ∀ ds, errorText ds = errorText [] ++ ds := fun ds => by
    simp only [errorText, List.cons_append, List.append_assoc, List.nil_append]
  have hzero : (errorText []).all (· ≠ '\x00') := by decide
  rw [parse_encodeUtf8, hsplit cs, List.takeWhile_append_of_pos (List.all_eq_true.mp hzero),
    ← hsplit]
  rfl

theorem takeWhile_reason (rs : List Char) :
    (rs ++ ['"', '}']).takeWhile (· ≠ '\x00') = rs ++ ['"', '}'] ∨
      ((rs ++ ['"', '}']).takeWhile (· ≠ '\x00')).length < rs.length := by
  rw [List.takeWhile_append]
  split_ifs with hall
  · exact .inl rfl
  · exact .inr (Nat.lt_of_le_of_ne (List.takeWhile_sublist _).length_le hall)

/-! ## When the reason arrives -/

theorem parse_makeError {reason : String} (h : PlainText reason) (code : Int32) :
    parse true (encodeUtf8 (makeError code reason).payload.toList) =
      some (.object [("reason", .string reason), ("status", .string "error")]) := by
  have hzero : (reason.toList ++ ['"', '}']).takeWhile (· ≠ '\x00') =
      reason.toList ++ ['"', '}'] := by
    refine List.takeWhile_eq_self_iff.mpr fun c hc => decide_eq_true ?_
    rcases List.mem_append.mp hc with hc | hc
    · exact fun h0 => (h c hc).2.2 (h0 ▸ by decide)
    · rcases List.mem_pair.mp hc with rfl | rfl <;> decide
  obtain ⟨n, hn⟩ := parseText_errorText (reason.toList ++ ['"', '}'])
  rw [payload_makeError, parse_errorText, hzero, hn, parseString_plain h]
  have hafter : parseAfterString n "reason" (reason, ['}']) =
      some ([("reason", .string reason)], []) := rfl
  have hskip : skipSpace [] = [] := rfl
  rw [Option.bind_some, hafter, Option.bind_some, hskip, if_neg (not_not_intro rfl)]
  simp +decide [ofMembers, insertMember]

/-- A string in what is read of the text of an error is not a reason with characters that do
not stand for themselves. -/
theorem string_ne_of_not_plainText {reason s : String} {rest : List Char}
    (hreason : ¬PlainText reason)
    (h : parseString ((reason.toList ++ ['"', '}']).takeWhile (· ≠ '\x00')) = some (s, rest))
    (hrest : rest ≠ []) : s ≠ reason ∧ rest.length ≤ reason.length + 1 := by
  have hpos : 0 < rest.length := List.length_pos_iff.mpr hrest
  have hlength := length_parseString h
  rcases takeWhile_reason reason.toList with hall | hlt
  · rw [hall] at h hlength
    simp only [List.length_append, String.length_toList, List.length_cons, List.length_nil]
      at hlength
    refine ⟨?_, by omega⟩
    rintro rfl
    rcases parseString_cases h with ⟨hplain, -⟩ | hshort
    · exact hreason hplain
    · simp only [List.length_append, String.length_toList, List.length_cons, List.length_nil]
        at hshort
      omega
  · rw [String.length_toList] at hlt
    refine ⟨?_, by omega⟩
    rintro rfl
    omega

theorem find?_reason_ne {reason : String} (hreason : ¬PlainText reason) (code : Int32) {j : Json}
    (h : parse true (encodeUtf8 (makeError code reason).payload.toList) = some j) :
    j.find? "reason" ≠ some (.string reason) := by
  obtain ⟨n, hn⟩ := parseText_errorText ((reason.toList ++ ['"', '}']).takeWhile (· ≠ '\x00'))
  rw [payload_makeError, parse_errorText, hn] at h
  simp only [Option.bind_eq_some_iff, Prod.exists] at h
  obtain ⟨ms, rest, ⟨s, rest', hstring, hafter⟩, h⟩ := h
  split_ifs at h
  obtain rfl := Option.some_inj.mp h
  have hnull : WritesFloats fun _ => nullText := fun _ => .inr rfl
  obtain ⟨hrest, hmembers⟩ := parseAfterString_cases hnull hafter
  obtain ⟨hne, hlength⟩ := string_ne_of_not_plainText hreason hstring hrest
  rw [find?_ofMembers]
  intro hfind
  obtain ⟨⟨k, v⟩, hmem, rfl⟩ := Option.map_eq_some_iff.mp hfind
  have hkey : k = "reason" := by simpa using List.find?_some hmem
  rcases List.mem_cons.mp (List.mem_reverse.mp (List.mem_of_find?_eq_some hmem)) with hm | hm
  · obtain ⟨rfl, -⟩ := Prod.mk.inj hm
    exact absurd hkey (by decide)
  -- The reason is the first string, or a member that follows it.
  · rcases hmembers _ hm with hfirst | ⟨-, hshort⟩
    · obtain ⟨-, hs⟩ := Prod.mk.inj hfirst
      exact hne (Json.string.inj hs).symm
    · have := hshort reason rfl
      omega

variable {floatText}

/-! ## Typed responses -/

/-- The client of a typed request finds the payload it is sent, up to how it is written. -/
theorem answerDocument_maybeWrap {payload : Json} (hp : Written floatText payload)
    (r : TypedEnvelope) {kind : EnvelopeMessageKind} (hkind : kind ≠ .kUnknown)
    (errorCode : Int32) :
    answerDocument (some r) (maybeWrapTypedResponse floatText (some r) kind payload errorCode) =
      some (readBack floatText payload) := by
  obtain ⟨domain, hdomain, hd⟩ := exists_domainForKind hkind
  have hread : decodeEnvelope (encodeUtf8
      (maybeWrapTypedResponse floatText (some r) kind payload errorCode).toList) =
        .ok (some ⟨{ r.metadata with errorCode := errorCode }, domain, kind,
          readBack floatText payload⟩) := by
    simp only [maybeWrapTypedResponse, hdomain, String.toList_ofList]
    rw [decodeEnvelope, parse_dump_of_written (written_envelopeDocument _ _ _ _ hp),
      readBack_envelopeDocument, Option.elim_some, decodeDocument_asRead _ _ hd hkind]
    rfl
  rw [answerDocument, decodeTypedEnvelope, hread]
  rfl

/-- Reading back keeps what is a string and what is none. -/
theorem readBack_eq_string {j : Json} {s : String} :
    readBack floatText j = .string s ↔ j = .string s := by
  cases j with
  | float x =>
    rw [readBack, asWritten]
    split_ifs <;> simp [asRead]
  | integer i =>
    rw [readBack, asWritten, asRead]
    split_ifs <;> simp
  | _ => simp [readBack, asWritten, asRead]

theorem find?_readBack_eq_string {j : Json} {key s : String} :
    (readBack floatText j).find? key = some (.string s) ↔ j.find? key = some (.string s) := by
  rw [find?_readBack, Option.map_eq_some_iff]
  simp only [readBack_eq_string, exists_eq_right]

/-- The document of an error that is sent, as it is or for a typed request. -/
theorem answerDocument_wrap (hfloat : WritesFloats floatText) (request : Option TypedEnvelope)
    (code : Int32) (reason : String) {kind : EnvelopeMessageKind} (hkind : kind ≠ .kUnknown) :
    answerDocument request (wrapErrorIfNeeded floatText request code reason kind).payload =
      request.elim (parse true (encodeUtf8 (makeError code reason).payload.toList)) fun _ =>
        some (readBack floatText ((parse true
          (encodeUtf8 (makeError code reason).payload.toList)).getD (.object []))) := by
  cases request with
  | none => rfl
  | some r =>
    refine answerDocument_maybeWrap ?_ r hkind code
    cases hparse : parse true (encodeUtf8 (makeError code reason).payload.toList) with
    | none => exact ⟨List.Pairwise.nil, trivial⟩
    | some j =>
      rw [parse_encodeUtf8] at hparse
      exact written_parseText hfloat hparse

/-- A reason arrives as it is if and only if its characters stand for themselves in a string,
however the error is sent. -/
theorem reasonReads_iff (hfloat : WritesFloats floatText) (request : Option TypedEnvelope)
    (code : Int32) (reason : String) {kind : EnvelopeMessageKind} (hkind : kind ≠ .kUnknown) :
    ReasonReads (answerDocument request
        (wrapErrorIfNeeded floatText request code reason kind).payload) reason ↔
      PlainText reason := by
  rw [answerDocument_wrap hfloat request code reason hkind]
  constructor
  · rintro ⟨ms, hdocument, hfind⟩
    by_contra hplain
    cases request with
    | none => exact find?_reason_ne hplain code hdocument hfind
    | some r =>
      rw [← Option.some_inj.mp hdocument, find?_readBack_eq_string] at hfind
      cases hparse : parse true (encodeUtf8 (makeError code reason).payload.toList) with
      | none =>
        rw [hparse] at hfind
        cases hfind
      | some j =>
        rw [hparse] at hfind
        exact find?_reason_ne hplain code hparse hfind
  · intro hplain
    rw [parse_makeError hplain]
    cases request with
    | none => exact ⟨_, rfl, by rfl⟩
    | some r => exact ⟨_, rfl, by rfl⟩

end BoostGateway.Service
