import BoostGateway.Service.Envelope

/-!
# Backend frames

`backend_frame_codec.cpp` : a frame is the length of the JSON text, four bytes with the
lowest first, and the text. `readFrame` reads from the bytes a peer sends until the
connection ends or the read times out; it refuses a length of zero or of more than
1 MiB, while `encodeFrame` writes any length modulo `2 ^ 32`.

`frames_read_back` : an envelope is read back from its frame if and only if its text is
at most 1 MiB, and lists of such envelopes are read back from their concatenated frames.
-/

namespace BoostGateway.Service

open Json

variable (floatText : Float → List Char)

/-- `encode_length`. -/
def encodeLength (length : UInt32) : Bytes :=
  [(length &&& 0xFF).toUInt8, ((length >>> 8) &&& 0xFF).toUInt8,
   ((length >>> 16) &&& 0xFF).toUInt8, ((length >>> 24) &&& 0xFF).toUInt8]

/-- `decode_length`. -/
def decodeLength (header : Bytes) : UInt32 :=
  (header.getD 0 0).toUInt32 ||| ((header.getD 1 0).toUInt32 <<< 8) |||
    ((header.getD 2 0).toUInt32 <<< 16) ||| ((header.getD 3 0).toUInt32 <<< 24)

/-- `encode_frame`. -/
def encodeFrame (e : BackendEnvelope) : Bytes :=
  encodeLength (UInt32.ofNat (toJson floatText e).length) ++ toJson floatText e

/-- `read_exactly_with_timeout` : the next `n` bytes, where the peer sends as many. -/
def readExactly (n : ℕ) (stream : Bytes) : Option (Bytes × Bytes) :=
  if n ≤ stream.length then some (stream.take n, stream.drop n) else none

/-- The part of `read_frame` up to the call of `from_json` : the body of the next frame
and what follows it. -/
def readBody (stream : Bytes) : Option (Bytes × Bytes) := do
  let (header, stream) ← readExactly 4 stream
  let length := decodeLength header
  if length = 0 ∨ 1024 * 1024 < length then none else readExactly length.toNat stream

/-- `read_frame`, with the bytes that are left. -/
def readFrame (stream : Bytes) : Except TypeError (Option (BackendEnvelope × Bytes)) :=
  match readBody stream with
  | none => .ok none
  | some (body, rest) => do
    let e ← fromJson body
    return e.map (·, rest)

/-- At most `n` calls of `read_frame`, until one gives nothing. -/
def readFramesLoop : ℕ → Bytes → Except TypeError (List BackendEnvelope)
  | 0, _ => .ok []
  | n + 1, stream => do
    match ← readFrame stream with
    | none => return []
    | some (e, rest) => return e :: (← readFramesLoop n rest)

/-- `read_frame` until it gives nothing; a frame takes up at least one byte. -/
def readFrames (stream : Bytes) : Except TypeError (List BackendEnvelope) :=
  readFramesLoop stream.length stream

/-! ## The length field -/

theorem length_encodeLength (n : UInt32) : (encodeLength n).length = 4 := rfl

theorem decodeLength_encodeLength (n : UInt32) : decodeLength (encodeLength n) = n := by
  have hn := n.toNat_lt
  have h1 : (n >>> 8).toNat = n.toNat / 2 ^ 8 := by simp [Nat.shiftRight_eq_div_pow]
  have h2 : (n >>> 16).toNat = n.toNat / 2 ^ 16 := by simp [Nat.shiftRight_eq_div_pow]
  have h3 : (n >>> 24).toNat = n.toNat / 2 ^ 24 := by simp [Nat.shiftRight_eq_div_pow]
  apply UInt32.toNat_inj.mp
  simp only [decodeLength, encodeLength, List.getD_cons_zero, List.getD_cons_succ,
    UInt32.toNat_or]
  rw [toNat_shiftLeft_of_lt (toNat_byte_lt _) (by decide),
    toNat_shiftLeft_of_lt (toNat_byte_lt _) (by decide),
    toNat_shiftLeft_of_lt (toNat_byte_lt _) (by decide)]
  simp only [toNat_byte, h1, h2, h3]
  change n.toNat % 2 ^ 8 ||| (n.toNat / 2 ^ 8 % 2 ^ 8) <<< 8 |||
    (n.toNat / 2 ^ 16 % 2 ^ 8) <<< 16 ||| (n.toNat / 2 ^ 24 % 2 ^ 8) <<< 24 = n.toNat
  rw [or_shiftLeft (i := 8) (by omega), or_shiftLeft (i := 16) (by omega),
    or_shiftLeft (i := 24) (by omega)]
  omega

/-! ## One frame -/

theorem readExactly_append {bs : Bytes} {n : ℕ} (h : bs.length = n) (rest : Bytes) :
    readExactly n (bs ++ rest) = some (bs, rest) := by
  subst h
  simp [readExactly]

theorem toNat_ofNat_length {body : Bytes} (h : body.length < 2 ^ 32) :
    (UInt32.ofNat body.length).toNat = body.length := UInt32.toNat_ofNat_of_lt' h

/-- A body of admissible length is read as it was written. -/
theorem readBody_append {body : Bytes} (h0 : body ≠ []) (h : body.length ≤ 1024 * 1024)
    (rest : Bytes) :
    readBody (encodeLength (UInt32.ofNat body.length) ++ body ++ rest) = some (body, rest) := by
  have hn : (UInt32.ofNat body.length).toNat = body.length := toNat_ofNat_length (by omega)
  have hpos : body.length ≠ 0 := by simpa using h0
  have hadm : ¬(UInt32.ofNat body.length = 0 ∨ 1024 * 1024 < UInt32.ofNat body.length) := by
    rw [← UInt32.toNat_inj, UInt32.lt_iff_toNat_lt, hn]
    change ¬(body.length = 0 ∨ 1024 * 1024 < body.length)
    omega
  rw [readBody, List.append_assoc, readExactly_append (length_encodeLength _)]
  simp only [Option.bind_eq_bind, Option.bind_some, decodeLength_encodeLength]
  rw [if_neg hadm, hn, readExactly_append rfl]

theorem readExactly_length {n : ℕ} {stream bs rest : Bytes}
    (h : readExactly n stream = some (bs, rest)) :
    bs.length = n ∧ stream.length = n + rest.length := by
  unfold readExactly at h
  split_ifs at h with hle
  obtain ⟨rfl, rfl⟩ := Prod.mk.inj (Option.some_inj.mp h)
  rw [List.length_take, List.length_drop]
  omega

/-- What `read_frame` takes up of the bytes. -/
theorem readBody_length {stream body rest : Bytes} (h : readBody stream = some (body, rest)) :
    stream.length = 4 + body.length + rest.length ∧ body.length ≤ 1024 * 1024 := by
  simp only [readBody, Option.bind_eq_bind] at h
  obtain ⟨⟨header, stream'⟩, hheader, hbody⟩ := Option.bind_eq_some_iff.mp h
  simp only at hbody
  split_ifs at hbody with hadm
  have hle : (decodeLength header).toNat ≤ 1024 * 1024 := by
    have := fun hlt => hadm (Or.inr (UInt32.lt_iff_toNat_lt.mpr hlt))
    exact not_lt.mp this
  obtain ⟨-, h1⟩ := readExactly_length hheader
  obtain ⟨h2, h3⟩ := readExactly_length hbody
  omega

theorem readFrame_some {stream rest : Bytes} {e : BackendEnvelope}
    (h : readFrame stream = .ok (some (e, rest))) :
    ∃ body, readBody stream = some (body, rest) ∧ fromJson body = .ok (some e) := by
  unfold readFrame at h
  cases hb : readBody stream with
  | none =>
    rw [hb] at h
    cases h
  | some p =>
    obtain ⟨body, rest'⟩ := p
    simp only [hb] at h
    cases hj : fromJson body with
    | error err =>
      rw [hj] at h
      cases h
    | ok r =>
      rw [hj] at h
      cases r with
      | none => cases h
      | some e' =>
        cases h
        exact ⟨body, rfl, hj⟩

theorem toJson_ne_nil (e : BackendEnvelope) : toJson floatText e ≠ [] := by
  have hdepth : depth e.document ≤ (e.document.dump floatText none 0).length :=
    depth_le_length e.document (readable_of_plain _ e.plain_document) 0
  have hpos := depth_pos e.document
  have hlen := length_le_length_encodeUtf8 (e.document.dump floatText none 0)
  rw [← List.length_pos_iff, toJson]
  omega

theorem readFrame_encodeFrame {e : BackendEnvelope}
    (h : (toJson floatText e).length ≤ 1024 * 1024) (rest : Bytes) :
    readFrame (encodeFrame floatText e ++ rest) = .ok (some (e, rest)) := by
  rw [readFrame, encodeFrame, readBody_append (toJson_ne_nil floatText e) h]
  simp only [fromJson_toJson]
  rfl

/-- The frame of a longer text is not read as one frame. -/
theorem length_le_of_readFrame {e : BackendEnvelope} {rest : Bytes}
    (h : readFrame (encodeFrame floatText e ++ rest) = .ok (some (e, rest))) :
    (toJson floatText e).length ≤ 1024 * 1024 := by
  obtain ⟨body, hbody, -⟩ := readFrame_some h
  obtain ⟨hlen, hle⟩ := readBody_length hbody
  rw [encodeFrame, List.length_append, List.length_append, length_encodeLength] at hlen
  omega

/-! ## Many frames -/

theorem readFramesLoop_flatMap {es : List BackendEnvelope}
    (h : ∀ e ∈ es, (toJson floatText e).length ≤ 1024 * 1024) {n : ℕ} (hn : es.length ≤ n) :
    readFramesLoop n (es.flatMap (encodeFrame floatText)) = .ok es := by
  induction es generalizing n with
  | nil =>
    cases n with
    | zero => rfl
    | succ n => rfl
  | cons e es ih =>
    cases n with
    | zero => simp at hn
    | succ n =>
      have htail := ih (fun e he => h e (List.mem_cons_of_mem _ he)) (Nat.le_of_succ_le_succ hn)
      rw [List.flatMap_cons, readFramesLoop,
        readFrame_encodeFrame floatText (h e List.mem_cons_self)]
      simp only [bind, Except.bind, htail]
      rfl

theorem length_le_length_flatMap (es : List BackendEnvelope) :
    es.length ≤ (es.flatMap (encodeFrame floatText)).length := by
  induction es with
  | nil => simp
  | cons e es ih =>
    rw [List.flatMap_cons, List.length_append, encodeFrame, List.length_append,
      length_encodeLength, List.length_cons]
    omega

/-- An envelope is read back from its frame, whatever follows the frame, if and only if
its text is at most 1 MiB, and lists of such envelopes are read back from their frames
one after the other. -/
theorem frames_read_back :
    (∀ e rest, readFrame (encodeFrame floatText e ++ rest) = .ok (some (e, rest)) ↔
      (toJson floatText e).length ≤ 1024 * 1024) ∧
    (∀ es : List BackendEnvelope, (∀ e ∈ es, (toJson floatText e).length ≤ 1024 * 1024) →
      readFrames (es.flatMap (encodeFrame floatText)) = .ok es) := by
  refine ⟨fun e rest => ⟨length_le_of_readFrame floatText, fun h =>
    readFrame_encodeFrame floatText h rest⟩, fun es h => ?_⟩
  exact readFramesLoop_flatMap floatText h (length_le_length_flatMap floatText es)

/-- A request to the login service. -/
def pingEnvelope : BackendEnvelope :=
  { correlationId := 7, targetService := .login, messageType := "ping", payload := "\x22\x0a" }

theorem frames_read_back_ping : (toJson (fun _ => []) pingEnvelope).length ≤ 1024 * 1024 ∧
    readFrames ([pingEnvelope, pingEnvelope].flatMap (encodeFrame fun _ => [])) =
      .ok [pingEnvelope, pingEnvelope] := by
  have hlen : (toJson (fun _ => []) pingEnvelope).length ≤ 1024 * 1024 := by decide +kernel
  refine ⟨hlen, (frames_read_back _).2 _ fun e he => ?_⟩
  obtain rfl : e = pingEnvelope := by simpa using he
  exact hlen

/-- The text of an envelope is at least as long as its payload. -/
theorem length_payload_le (e : BackendEnvelope) :
    e.payload.length ≤ (toJson floatText e).length := by
  have hquote := length_le_length_flatMap_escapeChar e.payload.toList
  have hlen := length_le_length_encodeUtf8 (e.document.dump floatText none 0)
  rw [String.length_toList] at hquote
  refine le_trans ?_ hlen
  rw [BackendEnvelope.document_eq]
  simp only [dump, dumpMembers, wrap, quote, List.flatMap_cons, List.length_append,
    List.length_cons]
  omega

/-- An envelope whose payload is one byte longer than 1 MiB. -/
def longEnvelope : BackendEnvelope :=
  { payload := String.ofList (List.replicate (1024 * 1024 + 1) 'x') }

/-- The reader refuses what the writer wrote. -/
theorem not_read_back_long :
    ¬∀ e, readFrame (encodeFrame (fun _ => []) e) = .ok (some (e, [])) := by
  intro h
  have hlong := h longEnvelope
  rw [← List.append_nil (encodeFrame _ _)] at hlong
  have hle := length_le_of_readFrame _ hlong
  have hpay := length_payload_le (fun _ => []) longEnvelope
  have hlen : longEnvelope.payload.length = 1024 * 1024 + 1 := by
    rw [longEnvelope, String.length_ofList, List.length_replicate]
  omega

end BoostGateway.Service
