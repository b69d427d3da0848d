import BoostGateway.Sdk.TcpConnection

/-!
# The calls of the SDK

`expect` of `SdkClient::Impl` (`client.cpp`), through which all requests and the heartbeat go, one at
a time under `io_mutex_`, over the connection of `TcpConnection` and a server that answers each
request it received once, at any time, and pushes what it likes. The bytes of the server arrive in
pieces of any size. The time limit of a call may pass at any turn; `disconnect` may come at any time.

A call takes the next packet that is no push, whatever its request id. `Exchange.answers_matched` :
no answer is lost or returned twice; calls return the answers to their own requests as long as none
timed out and none ended with the push that `is_push` does not list. Each of these leaves one more
answer outstanding, for good, and where the server answers in order each later call returns the answer
to an earlier request.
-/

namespace BoostGateway.Sdk

open Net

/-- The messages that are pushed. -/
def kSessionKickedPush : UInt16 := 1003
def kSessionResumedPush : UInt16 := 1004
def kRoomStatePush : UInt16 := 3009
def kBattleInputPush : UInt16 := 4005
def kBattleStatePush : UInt16 := 4006
def kMatchFoundPush : UInt16 := 6003
def kErrorResponse : UInt16 := 9001

/-- How a call fails. -/
inductive SdkError
  | notConnected
  | timeout
  | sendFailed
  | invalidResponse

/-- The number of a failure. -/
def SdkError.code : SdkError → Int32
  | .notConnected => -1
  | .timeout => -2
  | .sendFailed => -3
  | .invalidResponse => -5

/-- `to_string`. -/
def SdkError.text : SdkError → Bytes
  | .notConnected => "not_connected".toUTF8.toList
  | .timeout => "timeout".toUTF8.toList
  | .sendFailed => "send_failed".toUTF8.toList
  | .invalidResponse => "invalid_response".toUTF8.toList

/-- `is_push`. -/
def isPush (id : UInt16) : Bool :=
  id == kSessionKickedPush || id == kSessionResumedPush || id == kRoomStatePush ||
    id == kBattleStatePush || id == kBattleInputPush

/-- A packet with which `expect` ends. -/
def ends (p : DecodedPacket) : Bool := p.messageId != 0 && !isPush p.messageId

/-- An answer to a request, as the server sends it. -/
def isAnswer (p : DecodedPacket) : Bool := ends p && p.messageId != kMatchFoundPush

/-- A call of `expect` that waits. -/
structure Call where
  requestId : UInt32
  expected : UInt16

/-- How a call of `expect` came to its end. -/
inductive Outcome
  | notConnected
  | sendFailed (requestId : UInt32)
  | timeout (call : Call)
  | read (call : Call) (p : DecodedPacket)

namespace Outcome

/-- The packet with an error of the SDK. -/
def failure (error : SdkError) : DecodedPacket :=
  { emptyPacket with errorCode := error.code, body := error.text }

/-- What `expect` returns. -/
def result : Outcome → DecodedPacket
  | .notConnected => failure .notConnected
  | .sendFailed _ => failure .sendFailed
  | .timeout _ => failure .timeout
  | .read call p =>
    if p.messageId = kErrorResponse then
      { emptyPacket with
        messageId := p.messageId
        requestId := p.requestId
        errorCode := p.errorCode
        body := p.body }
    else if p.messageId ≠ call.expected then
      { emptyPacket with
        messageId := p.messageId
        requestId := p.requestId
        errorCode := SdkError.invalidResponse.code
        body := p.body }
    else p

/-- The request that the server received. -/
def sent : Outcome → Option UInt32
  | .notConnected | .sendFailed _ => none
  | .timeout call | .read call _ => some call.requestId

/-- The packet that ended the call. -/
def taken : Outcome → Option DecodedPacket
  | .notConnected | .sendFailed _ | .timeout _ => none
  | .read _ p => some p

/-- The request of the call stays without its answer. -/
def loses : Outcome → Bool
  | .notConnected | .sendFailed _ => false
  | .timeout _ => true
  | .read _ p => p.messageId == kMatchFoundPush

theorem requestId_result (call : Call) (p : DecodedPacket) :
    (read call p).result.requestId = p.requestId := by
  simp only [result]
  split_ifs <;> rfl

end Outcome

/-- `SdkClient::Impl`, with what it dispatched and the calls that came to an end. -/
structure Client where
  wire : Wire := {}
  next : UInt32 := 1
  /-- The call that holds `io_mutex_`. -/
  call : Option Call := none
  pushed : List DecodedPacket := []
  ended : List Outcome := []

namespace Client

/-- The start of `expect` : the request is written, if `sends`, and the call waits. -/
def expect (c : Client) (expected : UInt16) (sends : Bool) : Client :=
  if c.wire.connection.connected = false then { c with ended := c.ended ++ [.notConnected] }
  else if sends then { c with next := c.next + 1, call := some ⟨c.next, expected⟩ }
  else { c with next := c.next + 1, ended := c.ended ++ [.sendFailed c.next] }

/-- The loop of `expect` looks at a packet that `read` returned. -/
def onPacket (c : Client) (call : Call) (p : DecodedPacket) : Client :=
  if p.messageId = 0 then c
  else if isPush p.messageId then { c with pushed := c.pushed ++ [p] }
  else { c with call := none, ended := c.ended ++ [.read call p] }

/-- `read` looks into its buffer. -/
def turn (c : Client) (call : Call) : Client :=
  match c.wire.connection.tryDecodeBuffered.2 with
  | none => { c with wire := c.wire.tryDecode }
  | some p => { c with wire := c.wire.tryDecode }.onPacket call p

def timeout (c : Client) (call : Call) : Client :=
  { c with call := none, ended := c.ended ++ [.timeout call] }

end Client

/-- A client and a server. -/
structure Exchange where
  client : Client := {}
  /-- The ids of all requests that the server received. -/
  sent : List UInt32 := []
  /-- The requests that the server has not answered. -/
  pending : List UInt32 := []
  /-- All packets of the server. -/
  stream : List DecodedPacket := []

/-- The calls, the server and the network. -/
inductive ExchangeAction
  | expect (expected : UInt16) (sends : Bool)
  | turn
  | arrive (chunk : Bytes)
  | timeout
  | disconnect
  /-- The server answers the request at this position. -/
  | answer (i : ℕ) (p : DecodedPacket)
  | push (p : DecodedPacket)

instance decidableFits (maxPacketSize : UInt32) (p : DecodedPacket) :
    Decidable (Packet.Fits maxPacketSize p) :=
  inferInstanceAs (Decidable (kFixedMetadataSize + p.body.length ≤ maxPacketSize.toNat))

namespace Exchange

/-- One turn of the client or the server. -/
def step (e : Exchange) : ExchangeAction → Option Exchange
  | .expect expected sends =>
    if e.client.call.isSome then none
    else
      let client := e.client.expect expected sends
      let requests := (client.call.map (·.requestId)).toList
      some { e with
        client
        sent := e.sent ++ requests
        pending := e.pending ++ requests }
  | .turn => e.client.call.map fun call => { e with client := e.client.turn call }
  | .arrive chunk =>
    if e.client.call.isSome ∧
        e.client.wire.received ++ chunk <+: e.stream.flatMap Packet.encode then
      some { e with client := { e.client with wire := e.client.wire.readSome chunk } }
    else none
  | .timeout => e.client.call.map fun call => { e with client := e.client.timeout call }
  | .disconnect =>
    some { e with client := { e.client with wire := e.client.wire.socketFails } }
  | .answer i p =>
    if e.pending[i]? = some p.requestId ∧ isAnswer p ∧ Packet.Fits kMaxPayloadSize p then
      some { e with
        pending := e.pending.eraseIdx i
        stream := e.stream ++ [p] }
    else none
  | .push p =>
    if (isPush p.messageId ∨ p.messageId = kMatchFoundPush) ∧ Packet.Fits kMaxPayloadSize p then
      some { e with stream := e.stream ++ [p] }
    else none

def Reaches (ok : Exchange → ExchangeAction → Prop) : Exchange → Prop :=
  BoostGateway.Reaches (· = {}) step ok

/-- The server answers the requests in the order in which they came. -/
def InOrder (_ : Exchange) : ExchangeAction → Prop
  | .answer i _ => i = 0
  | .expect .. | .turn | .arrive _ | .timeout | .disconnect | .push _ => True

/-- The packets of the server that `read` has not returned. -/
def onTheWay (e : Exchange) : List DecodedPacket := e.stream.drop e.client.wire.packets.length

/-! ## The invariant -/

/-- What holds of client and server. -/
structure Inv (e : Exchange) : Prop where
  wire : e.client.wire.Reaches
  received : e.client.wire.received <+: e.stream.flatMap Packet.encode
  fits : ∀ p ∈ e.stream, Packet.Fits kMaxPayloadSize p
  pushed : e.client.pushed = e.client.wire.packets.filter (isPush ·.messageId)
  taken : e.client.ended.filterMap Outcome.taken = e.client.wire.packets.filter ends
  sent : e.sent =
    e.client.ended.filterMap Outcome.sent ++ (e.client.call.map (·.requestId)).toList
  answered : e.sent.Perm ((e.stream.filter isAnswer).map (·.requestId) ++ e.pending)
  matched : (∀ o ∈ e.client.ended, o.loses = false) →
    ∀ o ∈ e.client.ended, o.taken.map (·.requestId) = o.sent

variable {e e' : Exchange}

theorem Inv.stream_eq (h : e.Inv) : e.stream = e.client.wire.packets ++ e.onTheWay := by
  obtain ⟨rest, hrest⟩ := (h.wire.cut h.fits h.received).packets
  rw [onTheWay, ← hrest, List.drop_left]

/-- Calls that keep step took the answers to their requests. -/
theorem Inv.taken_ids (h : e.Inv) (hkept : ∀ o ∈ e.client.ended, o.loses = false) :
    (e.client.wire.packets.filter isAnswer).map (·.requestId) =
      e.client.ended.filterMap Outcome.sent := by
  have hanswers : e.client.wire.packets.filter isAnswer = e.client.wire.packets.filter ends := by
    have hall : ∀ p ∈ e.client.wire.packets.filter ends,
        (p.messageId != kMatchFoundPush) = true := by
      intro p hp
      rw [← h.taken] at hp
      obtain ⟨o, ho, htaken⟩ := List.mem_filterMap.mp hp
      cases o with
      | read call q =>
        obtain rfl := Option.some.inj htaken
        have hloses : (q.messageId == kMatchFoundPush) = false := hkept _ ho
        rw [bne, hloses]
        rfl
      | _ => cases htaken
    rw [← List.filter_eq_self.mpr hall, List.filter_filter]
    exact List.filter_congr fun p _ => Bool.and_comm _ _
  rw [hanswers, ← h.taken, List.map_filterMap]
  exact List.filterMap_congr (h.matched hkept)

/-- While no call lost step, the one answer outstanding is that of the call that waits. -/
theorem Inv.outstanding (h : e.Inv) (hkept : ∀ o ∈ e.client.ended, o.loses = false) :
    (e.client.call.map (·.requestId)).toList.Perm
      ((e.onTheWay.filter isAnswer).map (·.requestId) ++ e.pending) := by
  have hperm := h.answered
  rw [h.sent, h.stream_eq, List.filter_append, List.map_append, h.taken_ids hkept,
    List.append_assoc] at hperm
  exact (List.perm_append_left_iff _).mp hperm

theorem filterMap_concat {β : Type*} (f : Outcome → Option β) (os : List Outcome) (o : Outcome) :
    (os ++ [o]).filterMap f = os.filterMap f ++ (f o).toList := by
  rw [List.filterMap_append]
  cases ho : f o with
  | none => rw [List.filterMap_cons_none ho, List.filterMap_nil, Option.toList_none]
  | some b => rw [List.filterMap_cons_some ho, List.filterMap_nil, Option.toList_some]

theorem Inv.expect {expected : UInt16} {sends : Bool} (h : e.Inv)
    (hs : e.step (.expect expected sends) = some e') : e'.Inv := by
  simp only [step] at hs
  split_ifs at hs with hcall
  obtain rfl := Option.some_inj.mp hs
  rw [Option.not_isSome_iff_eq_none] at hcall
  have hsent := h.sent
  rw [hcall, Option.map_none, Option.toList_none, List.append_nil] at hsent
  have hfree (o : Outcome) (htaken : o.taken = none) (hnone : o.sent = none)
      (hloses : o.loses = false) (next : UInt32) :
      Inv { e with
        client := { e.client with next, ended := e.client.ended ++ [o] }
        sent := e.sent ++ (e.client.call.map (·.requestId)).toList
        pending := e.pending ++ (e.client.call.map (·.requestId)).toList } := by
    simp only [hcall, Option.map_none, Option.toList_none, List.append_nil]
    refine ⟨h.wire, h.received, h.fits, h.pushed, ?_, ?_, h.answered, fun hkept => ?_⟩
    · rw [filterMap_concat, htaken, Option.toList_none, List.append_nil, h.taken]
    · simp only [Option.map_none, filterMap_concat, hnone, Option.toList_none, List.append_nil,
        hsent]
    · have hkept := List.forall_mem_append.mp hkept
      refine List.forall_mem_append.mpr ⟨h.matched hkept.1, ?_⟩
      simp only [List.mem_singleton, forall_eq, htaken, hnone, Option.map_none]
  unfold Client.expect
  split_ifs with hup hsends
  · exact hfree .notConnected rfl rfl rfl e.client.next
  · refine ⟨h.wire, h.received, h.fits, h.pushed, h.taken, ?_, ?_, h.matched⟩
    · rw [hsent]
    · rw [← List.append_assoc]
      exact h.answered.append_right _
  · exact hfree (.sendFailed e.client.next) rfl rfl rfl (e.client.next + 1)

theorem Inv.timeout (h : e.Inv) (hs : e.step .timeout = some e') : e'.Inv := by
  obtain ⟨call, hcall, rfl⟩ := Option.map_eq_some_iff.mp hs
  refine ⟨h.wire, h.received, h.fits, h.pushed, ?_, ?_, h.answered, fun hkept => ?_⟩
  · rw [Client.timeout, filterMap_concat, h.taken]
    exact List.append_nil _
  · rw [h.sent, hcall, Client.timeout, filterMap_concat]
    exact (List.append_nil _).symm
  · exact absurd (hkept _ (List.mem_append_right _ (.head _))) (by simp [Outcome.loses])

theorem tryDecode_packets (w : Wire) :
    w.tryDecode.packets = w.packets ++ w.connection.tryDecodeBuffered.2.toList := rfl

theorem Inv.turn (h : e.Inv) (hs : e.step .turn = some e') : e'.Inv := by
  obtain ⟨call, hcall, rfl⟩ := Option.map_eq_some_iff.mp hs
  have hwire : e.client.wire.tryDecode.Reaches := h.wire.step trivial (a := .tryDecode) rfl
  have hpackets := tryDecode_packets e.client.wire
  unfold Client.turn
  cases hread : e.client.wire.connection.tryDecodeBuffered.2 with
  | none =>
    rw [hread, Option.toList_none, List.append_nil] at hpackets
    refine ⟨hwire, h.received, h.fits, ?_, ?_, h.sent, h.answered, h.matched⟩
    · rw [h.pushed, hpackets]
    · rw [h.taken, hpackets]
  | some p =>
    rw [hread, Option.toList_some] at hpackets
    have hprefix := (hwire.cut h.fits h.received).packets
    dsimp only [Client.onPacket]
    split_ifs with hzero hpush
    · refine ⟨hwire, h.received, h.fits, ?_, ?_, h.sent, h.answered, h.matched⟩
      · simp only [hpackets, List.filter_append, h.pushed]
        simp [hzero, isPush, kSessionKickedPush, kSessionResumedPush, kRoomStatePush,
          kBattleStatePush, kBattleInputPush]
      · simp only [hpackets, List.filter_append, h.taken]
        simp [ends, hzero]
    · refine ⟨hwire, h.received, h.fits, ?_, ?_, h.sent, h.answered, h.matched⟩
      · simp only [hpackets, List.filter_append, h.pushed]
        simp [hpush]
      · simp only [hpackets, List.filter_append, h.taken]
        simp [ends, hpush]
    · have hends : ends p = true := by simp [ends, hzero, hpush]
      refine ⟨hwire, h.received, h.fits, ?_, ?_, ?_, h.answered, fun hkept => ?_⟩
      · simp only [hpackets, List.filter_append, h.pushed]
        simp [hpush]
      · simp only [hpackets, List.filter_append, filterMap_concat, h.taken]
        simp [Outcome.taken, hends]
      · rw [h.sent, hcall, filterMap_concat]
        exact (List.append_nil _).symm
      · obtain ⟨hkept, hlast⟩ := List.forall_mem_append.mp hkept
        refine List.forall_mem_append.mpr ⟨h.matched hkept, ?_⟩
        have hloses : (p.messageId == kMatchFoundPush) = false := hlast _ (.head _)
        have hanswer : isAnswer p = true := by simp [isAnswer, hends, bne, hloses]
        obtain ⟨rest, hrest⟩ := hprefix
        have hway : e.onTheWay = p :: rest := by
          rw [onTheWay, ← hrest, hpackets, List.append_assoc, List.drop_left]
          rfl
        have hone := h.outstanding hkept
        rw [hcall, hway, List.filter_cons_of_pos hanswer, List.map_cons] at hone
        have hid : p.requestId = call.requestId :=
          List.mem_singleton.mp (hone.symm.subset (.head _))
        simp only [List.mem_singleton, forall_eq, Outcome.taken, Outcome.sent, Option.map_some, hid]

/-- A packet more that the server wrote. -/
theorem Inv.written {p : DecodedPacket} {pending : List UInt32} (h : e.Inv)
    (hfits : Packet.Fits kMaxPayloadSize p)
    (hanswered : e.sent.Perm (((e.stream ++ [p]).filter isAnswer).map (·.requestId) ++ pending)) :
    Inv { e with pending, stream := e.stream ++ [p] } := by
  refine ⟨h.wire, ?_, ?_, h.pushed, h.taken, h.sent, hanswered, h.matched⟩
  · rw [List.flatMap_append]
    exact h.received.trans (List.prefix_append _ _)
  · exact List.forall_mem_append.mpr ⟨h.fits, by simpa using hfits⟩

theorem Inv.step {a : ExchangeAction} (h : e.Inv) (hs : e.step a = some e') : e'.Inv := by
  cases a with
  | expect expected sends => exact h.expect hs
  | turn => exact h.turn hs
  | timeout => exact h.timeout hs
  | arrive chunk =>
    simp only [Exchange.step] at hs
    split_ifs at hs with hguard
    obtain rfl := Option.some_inj.mp hs
    exact ⟨h.wire.step trivial (a := .readSome chunk) rfl, hguard.2, h.fits, h.pushed, h.taken,
      h.sent, h.answered, h.matched⟩
  | disconnect =>
    obtain rfl := Option.some_inj.mp hs
    exact ⟨h.wire.step trivial (a := .socketFails) rfl, h.received, h.fits, h.pushed, h.taken,
      h.sent, h.answered, h.matched⟩
  | answer i p =>
    simp only [Exchange.step] at hs
    split_ifs at hs with hguard
    obtain ⟨hi, hanswer, hfits⟩ := hguard
    obtain rfl := Option.some_inj.mp hs
    refine h.written hfits ?_
    obtain ⟨hlt, hi⟩ := List.getElem?_eq_some_iff.mp hi
    have hpending := (List.getElem_cons_eraseIdx_perm hlt).symm
    rw [hi] at hpending
    rw [List.filter_append, List.filter_cons_of_pos hanswer, List.filter_nil, List.map_append,
      List.append_assoc]
    exact h.answered.trans (hpending.append_left _)
  | push p =>
    simp only [Exchange.step] at hs
    split_ifs at hs with hguard
    obtain ⟨hpush, hfits⟩ := hguard
    obtain rfl := Option.some_inj.mp hs
    refine h.written hfits ?_
    have hanswer : isAnswer p = false := by
      obtain hpush | hpush := hpush
      · simp [isAnswer, ends, hpush]
      · simp [isAnswer, hpush]
    rw [List.filter_append, List.filter_cons_of_neg (by simp [hanswer]), List.filter_nil,
      List.append_nil]
    exact h.answered

variable {ok : Exchange → ExchangeAction → Prop}

theorem Reaches.inv (h : e.Reaches ok) : e.Inv := by
  refine BoostGateway.Reaches.invariant (P := Inv) h ?_ fun _ _ _ hi _ hs => hi.step hs
  rintro e rfl
  exact ⟨.init rfl, List.prefix_refl _, List.forall_mem_nil _, rfl, rfl, rfl, .refl _,
    fun _ => List.forall_mem_nil _⟩

/-- A server that answers in order has answered the first requests. -/
theorem Reaches.inOrder (hok : ∀ e a, ok e a → InOrder e a) (h : e.Reaches ok) :
    e.sent = (e.stream.filter isAnswer).map (·.requestId) ++ e.pending := by
  refine BoostGateway.Reaches.invariant (P := fun e =>
    e.sent = (e.stream.filter isAnswer).map (·.requestId) ++ e.pending) h ?_ ?_
  · rintro e rfl
    rfl
  · intro e a e' ih ha hs
    cases a with
    | expect expected sends =>
      simp only [Exchange.step] at hs
      split_ifs at hs
      obtain rfl := Option.some_inj.mp hs
      simp only [ih, List.append_assoc]
    | turn | timeout =>
      obtain ⟨call, -, rfl⟩ := Option.map_eq_some_iff.mp hs
      exact ih
    | arrive chunk =>
      simp only [Exchange.step] at hs
      split_ifs at hs
      obtain rfl := Option.some_inj.mp hs
      exact ih
    | disconnect =>
      obtain rfl := Option.some_inj.mp hs
      exact ih
    | answer i p =>
      obtain rfl : i = 0 := hok _ _ ha
      simp only [Exchange.step] at hs
      split_ifs at hs with hguard
      obtain ⟨hi, hanswer, -⟩ := hguard
      obtain rfl := Option.some_inj.mp hs
      rcases hpending : e.pending with _ | ⟨r, pending⟩
      · rw [hpending] at hi
        cases hi
      · rw [hpending] at hi ih
        obtain rfl := Option.some.inj hi
        simp [ih, List.filter_append, hanswer]
    | push p =>
      simp only [Exchange.step] at hs
      split_ifs at hs with hguard
      obtain rfl := Option.some_inj.mp hs
      have hanswer : isAnswer p = false := by
        obtain hpush | hpush := hguard.1
        · simp [isAnswer, ends, hpush]
        · simp [isAnswer, hpush]
      simp [ih, List.filter_append, hanswer]

theorem ends_of_isAnswer {p : DecodedPacket} (h : isAnswer p = true) : ends p = true :=
  (Bool.and_eq_true_iff.mp h).1

/-- A call whose request was sent took an answer, or lost step. -/
theorem length_sent {os : List Outcome}
    (h : ∀ p ∈ os.filterMap Outcome.taken, ends p = true) :
    (os.filterMap Outcome.sent).length =
      ((os.filterMap Outcome.taken).filter isAnswer).length + (os.filter (·.loses)).length := by
  induction os with
  | nil => rfl
  | cons o os ih =>
    cases o with
    | notConnected => exact ih h
    | sendFailed requestId => exact ih h
    | timeout call =>
      have ih := ih h
      have hsent : (Outcome.timeout call).sent = some call.requestId := rfl
      have htaken : (Outcome.timeout call).taken = none := rfl
      have hloses : (Outcome.timeout call).loses = true := rfl
      rw [List.filterMap_cons_some hsent, List.filterMap_cons_none htaken,
        List.filter_cons_of_pos hloses, List.length_cons, List.length_cons, ih]
      rfl
    | read call p =>
      obtain ⟨hp, h⟩ := List.forall_mem_cons.mp h
      have ih := ih h
      have hsent : (Outcome.read call p).sent = some call.requestId := rfl
      have htaken : (Outcome.read call p).taken = some p := rfl
      rw [List.filterMap_cons_some hsent, List.filterMap_cons_some htaken, List.length_cons]
      cases hfound : p.messageId == kMatchFoundPush with
      | true =>
        have hanswer : ¬isAnswer p = true := by simp [isAnswer, bne, hfound]
        have hloses : (Outcome.read call p).loses = true := hfound
        rw [List.filter_cons_of_neg hanswer,
          List.filter_cons_of_pos (p := fun o : Outcome => o.loses) hloses, List.length_cons, ih]
        rfl
      | false =>
        have hanswer : isAnswer p = true := by simp [isAnswer, bne, hfound, hp]
        have hloses : ¬(Outcome.read call p).loses = true := by simp [Outcome.loses, hfound]
        rw [List.filter_cons_of_pos hanswer,
          List.filter_cons_of_neg (p := fun o : Outcome => o.loses) hloses, List.length_cons, ih]
        omega

/-- The answers that calls took are those that `read` returned. -/
theorem Inv.taken_answers (h : e.Inv) :
    (e.client.ended.filterMap Outcome.taken).filter isAnswer =
      e.client.wire.packets.filter isAnswer := by
  rw [h.taken, List.filter_filter]
  refine List.filter_congr fun p _ => ?_
  cases hanswer : isAnswer p with
  | true => rw [ends_of_isAnswer hanswer, Bool.true_and]
  | false => exact Bool.false_and _

/-- Every request is that of an answer which a call returned, that of an answer on the way, or not
answered; as many of the last two kinds as there were calls that lost step are outstanding besides
the one of the call that waits. As long as no call lost step each took the answer to its own request.
The pushes of `is_push` are dispatched in order, and the answers of a server that answers in order
are taken in the order of the requests. -/
theorem answers_matched (h : e.Reaches ok) :
    e.sent.Perm (((e.client.ended.filterMap Outcome.taken).filter isAnswer).map (·.requestId) ++
      ((e.onTheWay.filter isAnswer).map (·.requestId) ++ e.pending)) ∧
    (e.onTheWay.filter isAnswer).length + e.pending.length =
      (e.client.ended.filter (·.loses)).length + e.client.call.toList.length ∧
    ((∀ o ∈ e.client.ended, o.loses = false) →
      ∀ call p, .read call p ∈ e.client.ended →
        (Outcome.read call p).result.requestId = call.requestId) ∧
    e.client.pushed <+: e.stream.filter (isPush ·.messageId) ∧
    ((∀ e a, ok e a → InOrder e a) →
      ((e.client.ended.filterMap Outcome.taken).filter isAnswer).map (·.requestId) <+:
        e.client.ended.filterMap Outcome.sent ++ (e.client.call.map (·.requestId)).toList) := by
  have hi := h.inv
  have hperm := hi.answered
  rw [hi.stream_eq, List.filter_append, List.map_append, List.append_assoc, ← hi.taken_answers]
    at hperm
  refine ⟨hperm, ?_, fun hkept call p hread => ?_, ?_, fun hok => ?_⟩
  · have hends : ∀ p ∈ e.client.ended.filterMap Outcome.taken, ends p = true := by
      rw [hi.taken]
      exact fun p hp => (List.mem_filter.mp hp).2
    have hlength := hperm.length_eq
    rw [hi.sent, List.length_append, length_sent hends, List.length_append, List.length_append,
      List.length_map, List.length_map] at hlength
    have hwaits : (e.client.call.map (·.requestId)).toList.length =
        e.client.call.toList.length := by
      cases e.client.call <;> rfl
    omega
  · have hmatched := hi.matched hkept _ hread
    rw [Outcome.requestId_result]
    exact Option.some.inj hmatched
  · rw [hi.pushed, hi.stream_eq, List.filter_append]
    exact List.prefix_append _ _
  · rw [← hi.sent, h.inOrder hok, hi.stream_eq, List.filter_append, hi.taken_answers,
      List.map_append, List.append_assoc]
    exact List.prefix_append _ _

instance (e : Exchange) (a : ExchangeAction) : Decidable (InOrder e a) :=
  match a with
  | .answer i _ => inferInstanceAs (Decidable (i = 0))
  | .expect .. | .turn | .arrive _ | .timeout | .disconnect | .push _ => isTrue trivial

/-- The login times out, and its answer comes when the client asks for a room : the room request
gets the answer to the login, and its own stays on the way. -/
theorem answers_matched_late : ∃ e, Reaches InOrder e ∧
    e.client.ended.map (·.sent) = [some 1, some 2] ∧
    e.client.ended.map (·.result.requestId) = [0, 1] ∧ e.client.call.isNone ∧
    (e.onTheWay.filter isAnswer).length + e.pending.length = 1 := by
  let login : DecodedPacket := { emptyPacket with messageId := 2002, requestId := 1 }
  let room : DecodedPacket := { emptyPacket with messageId := 3002, requestId := 2 }
  obtain ⟨e, he, hsent, hresults, hcall, hloses⟩ : ∃ e, Reaches InOrder e ∧
      e.client.ended.map (·.sent) = [some 1, some 2] ∧
      e.client.ended.map (·.result.requestId) = [0, 1] ∧ e.client.call.isNone ∧
      (e.client.ended.filter (·.loses)).length = 1 :=
    BoostGateway.Reaches.exists_runWith (.init rfl)
      [.expect 2002 true, .timeout, .answer 0 login, .expect 3002 true, .answer 0 room,
        .arrive ((Packet.encode login).take 10), .turn,
        .arrive ((Packet.encode login).drop 10 ++ Packet.encode room), .turn]
      (by decide +kernel)
  obtain ⟨-, hlag, -⟩ := answers_matched he
  refine ⟨e, he, hsent, hresults, hcall, ?_⟩
  rw [hlag, hloses, Option.isNone_iff_eq_none.mp hcall]
  rfl

end Exchange

end BoostGateway.Sdk
