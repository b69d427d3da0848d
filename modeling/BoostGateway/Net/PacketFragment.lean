import BoostGateway.Base.Bytes
import Mathlib.Data.List.Nodup
import Mathlib.Data.Nat.Bitwise
import Mathlib.Logic.Function.Basic

/-!
# Fragments of packets

`packet_fragment.h` : a body over 8192 bytes is sent in fragments of 4096 bytes, whose flags
hold the marks of a fragment and of the last one, the number of fragments and the index, on
top of each other. `FragmentAssembler` puts the fragments of each request together.

`reassembles_iff` : of packets whose fragments are fed in between each other, all come out
whole, once, and with their last fragment, exactly when each is sent in one piece or in four.
-/

namespace BoostGateway.Net

/-- A packet. -/
structure DecodedPacket where
  version : UInt8 := 0
  messageId : UInt16
  requestId : UInt32
  sequenceNumber : UInt32 := 0
  errorCode : Int32
  flags : UInt8
  body : Bytes
  deriving DecidableEq

def kFragmentThreshold : ℕ := 8192
def kFragmentPayloadSize : ℕ := 4096

def kFragment : UInt8 := 0x10
def kLastFragment : UInt8 := 0x20

/-- A packet of which parts are there. -/
structure FragmentAssembly where
  messageId : UInt16 := 0
  requestId : UInt32 := 0
  errorCode : Int32 := 0
  fragmentCount : UInt8 := 0
  fragmentsReceived : UInt8 := 0
  body : Bytes := []

/-- `FragmentAssembler`. -/
structure FragmentAssembler where
  assemblies : UInt32 → Option FragmentAssembly := fun _ => none

/-- A fragment is added to its assembly, which index 0 starts anew. -/
def FragmentAssembly.add (assembly : FragmentAssembly) (fragment : DecodedPacket) :
    FragmentAssembly :=
  let totalCount := (fragment.flags >>> 4) &&& 0x07
  let fragIndex := fragment.flags &&& 0x03
  let assembly :=
    if fragIndex = 0 then
      { messageId := fragment.messageId
        requestId := fragment.requestId
        errorCode := fragment.errorCode
        fragmentCount := totalCount
        fragmentsReceived := 0
        body := [] }
    else assembly
  { assembly with
    body := assembly.body ++ fragment.body
    fragmentsReceived := assembly.fragmentsReceived + 1 }

def FragmentAssembly.complete (assembly : FragmentAssembly) : DecodedPacket where
  messageId := assembly.messageId
  requestId := assembly.requestId
  errorCode := assembly.errorCode
  flags := 0
  body := assembly.body

/-- `feed`, for the entry of the request in the map. -/
def feedEntry (entry : Option FragmentAssembly) (fragment : DecodedPacket) :
    Option FragmentAssembly × Option DecodedPacket :=
  if fragment.flags &&& kFragment = 0 then (entry, some fragment)
  else
    let isLast := fragment.flags &&& kLastFragment ≠ 0
    let assembly := (entry.getD {}).add fragment
    if isLast ∨ assembly.fragmentCount ≤ assembly.fragmentsReceived then
      (none, some assembly.complete)
    else (some assembly, none)

def FragmentAssembler.feed (a : FragmentAssembler) (fragment : DecodedPacket) :
    FragmentAssembler × Option DecodedPacket :=
  let (entry, packet) := feedEntry (a.assemblies fragment.requestId) fragment
  ({ assemblies := Function.update a.assemblies fragment.requestId entry }, packet)

/-- A packet to be sent. -/
structure Outgoing where
  messageId : UInt16
  requestId : UInt32
  errorCode : Int32
  body : Bytes

namespace Outgoing

/-- The packet in one piece. -/
def whole (p : Outgoing) : DecodedPacket where
  messageId := p.messageId
  requestId := p.requestId
  errorCode := p.errorCode
  flags := 0
  body := p.body

/-- The number of fragments, in eight bits. -/
def totalFragments (p : Outgoing) : UInt8 :=
  UInt8.ofNat ((p.body.length + kFragmentPayloadSize - 1) / kFragmentPayloadSize)

def fragment (p : Outgoing) (i : ℕ) : DecodedPacket :=
  let offset := i * kFragmentPayloadSize
  let len := min kFragmentPayloadSize (p.body.length - offset)
  let flags := kFragment ||| (p.totalFragments <<< 4) ||| (UInt8.ofNat i &&& 0x03)
  { messageId := p.messageId
    requestId := p.requestId
    errorCode := p.errorCode
    flags := if i + 1 = p.totalFragments.toNat then flags ||| kLastFragment else flags
    body := (p.body.drop offset).take len }

/-- `fragment_packet`. -/
def fragments (p : Outgoing) : List DecodedPacket :=
  if p.body.length ≤ kFragmentThreshold then [p.whole]
  else (List.range p.totalFragments.toNat).map p.fragment

end Outgoing

/-- What the assembler answers to each packet that it is fed. -/
def feedAll (a : FragmentAssembler) : List DecodedPacket →
    List (DecodedPacket × Option DecodedPacket)
  | [] => []
  | fragment :: fed => (fragment, (a.feed fragment).2) :: feedAll (a.feed fragment).1 fed

/-- The packets are fed in between each other, the fragments of each in their order. -/
structure Interleaves (packets : List Outgoing) (fed : List DecodedPacket) : Prop where
  distinct : (packets.map (·.requestId)).Nodup
  own : ∀ p ∈ packets, fed.filter (·.requestId = p.requestId) = p.fragments
  others : ∀ fragment ∈ fed, ∃ p ∈ packets, fragment.requestId = p.requestId

/-- The packet comes out whole with its last fragment, and nothing else under its id. -/
structure Reassembles (fed : List DecodedPacket) (p : Outgoing) : Prop where
  last : ((feedAll {} fed).filter (·.1.requestId = p.requestId)).map (·.2) =
    List.replicate (p.fragments.length - 1) none ++ [some p.whole]
  once : ((feedAll {} fed).filterMap (·.2)).filter (·.requestId = p.requestId) = [p.whole]

/-- The packet is sent in one piece, or in four. -/
def Fits (p : Outgoing) : Prop :=
  p.body.length ≤ 8192 ∨ 12288 < p.body.length ∧ p.body.length ≤ 16384

/-! ## One request -/

/-- What is answered to the packets of one request. -/
def feedEntries (entry : Option FragmentAssembly) : List DecodedPacket →
    List (DecodedPacket × Option DecodedPacket)
  | [] => []
  | fragment :: fed =>
    (fragment, (feedEntry entry fragment).2) :: feedEntries (feedEntry entry fragment).1 fed

/-- The requests do not see each other. -/
theorem filter_feedAll (a : FragmentAssembler) (fed : List DecodedPacket) (requestId : UInt32) :
    (feedAll a fed).filter (·.1.requestId = requestId) =
      feedEntries (a.assemblies requestId) (fed.filter (·.requestId = requestId)) := by
  induction fed generalizing a with
  | nil => rfl
  | cons fragment fed ih =>
    rw [feedAll]
    by_cases h : fragment.requestId = requestId
    · rw [List.filter_cons_of_pos (by simpa using h), List.filter_cons_of_pos (by simpa using h),
        ih, feedEntries, ← h]
      simp only [FragmentAssembler.feed, Function.update_self]
    · rw [List.filter_cons_of_neg (by simpa using h), List.filter_cons_of_neg (by simpa using h), ih]
      simp only [FragmentAssembler.feed, Function.update_of_ne (Ne.symm h)]

theorem mem_feedAll {a : FragmentAssembler} {fed : List DecodedPacket}
    {x : DecodedPacket × Option DecodedPacket} (h : x ∈ feedAll a fed) : x.1 ∈ fed := by
  induction fed generalizing a with
  | nil => cases h
  | cons fragment fed ih =>
    rcases List.mem_cons.mp h with rfl | h
    · exact List.mem_cons_self
    · exact List.mem_cons_of_mem _ (ih h)

/-! ## In one piece, or in four -/

variable {p : Outgoing}

theorem feedEntry_whole (entry : Option FragmentAssembly) (p : Outgoing) :
    feedEntry entry p.whole = (entry, some p.whole) :=
  if_pos (by decide : (0 : UInt8) &&& kFragment = 0)

theorem fragments_of_le (h : p.body.length ≤ 8192) : p.fragments = [p.whole] := if_pos h

theorem fragments_of_gt (h : 8192 < p.body.length) :
    p.fragments = (List.range p.totalFragments.toNat).map p.fragment :=
  if_neg (Nat.not_le_of_lt h)

theorem totalFragments_of_fits (h : 12288 < p.body.length) (h' : p.body.length ≤ 16384) :
    p.totalFragments = 4 := by
  have hcount : (p.body.length + kFragmentPayloadSize - 1) / kFragmentPayloadSize = 4 := by
    unfold kFragmentPayloadSize
    omega
  rw [Outgoing.totalFragments, hcount]
  rfl

theorem fragments_of_four (h : 12288 < p.body.length) (h' : p.body.length ≤ 16384) :
    p.fragments = [p.fragment 0, p.fragment 1, p.fragment 2, p.fragment 3] := by
  rw [fragments_of_gt (by omega), totalFragments_of_fits h h']
  rfl

theorem flags_of_four (h : p.totalFragments = 4) : (p.fragment 0).flags = 0x50 ∧
    (p.fragment 1).flags = 0x51 ∧ (p.fragment 2).flags = 0x52 ∧ (p.fragment 3).flags = 0x73 := by
  simp only [Outgoing.fragment, h]
  decide

/-- A body in four pieces. -/
theorem four_pieces (body : Bytes) (k : ℕ) :
    (body.drop (0 * k)).take k ++ (body.drop (1 * k)).take k ++ (body.drop (2 * k)).take k ++
      body.drop (3 * k) = body := by
  have hjoin (n : ℕ) : (body.drop (n * k)).take k ++ body.drop ((n + 1) * k) =
      body.drop (n * k) := by
    rw [Nat.succ_mul, ← List.drop_drop, List.take_append_drop]
  rw [List.append_assoc, List.append_assoc, hjoin 2, hjoin 1, hjoin 0, Nat.zero_mul]
  rfl

theorem body_fragment (p : Outgoing) (i : ℕ) : (p.fragment i).body =
    (p.body.drop (i * kFragmentPayloadSize)).take
      (min kFragmentPayloadSize (p.body.length - i * kFragmentPayloadSize)) := rfl

/-- The bodies of four fragments are the body. -/
theorem bodies_of_four (h : 12288 < p.body.length) (h' : p.body.length ≤ 16384) :
    (p.fragment 0).body ++ (p.fragment 1).body ++ (p.fragment 2).body ++ (p.fragment 3).body =
      p.body := by
  have hfull (i : ℕ) (hi : i < 3) :
      (p.fragment i).body = (p.body.drop (i * kFragmentPayloadSize)).take kFragmentPayloadSize := by
    have hmin : min kFragmentPayloadSize (p.body.length - i * kFragmentPayloadSize) =
        kFragmentPayloadSize := by
      unfold kFragmentPayloadSize
      omega
    rw [body_fragment, hmin]
  have hlast : (p.fragment 3).body = p.body.drop (3 * kFragmentPayloadSize) := by
    rw [body_fragment, List.take_of_length_le]
    rw [List.length_drop]
    unfold kFragmentPayloadSize
    omega
  rw [hfull 0 (by decide), hfull 1 (by decide), hfull 2 (by decide), hlast]
  exact four_pieces p.body kFragmentPayloadSize

theorem add_first {assembly : FragmentAssembly} {f : DecodedPacket} (h : f.flags &&& 0x03 = 0) :
    assembly.add f =
      { messageId := f.messageId
        requestId := f.requestId
        errorCode := f.errorCode
        fragmentCount := (f.flags >>> 4) &&& 0x07
        fragmentsReceived := 1
        body := f.body } := by
  unfold FragmentAssembly.add
  dsimp only
  rw [if_pos h]
  rfl

theorem add_next {assembly : FragmentAssembly} {f : DecodedPacket} (h : f.flags &&& 0x03 ≠ 0) :
    assembly.add f = { assembly with
      body := assembly.body ++ f.body
      fragmentsReceived := assembly.fragmentsReceived + 1 } := by
  unfold FragmentAssembly.add
  dsimp only
  rw [if_neg h]

variable {entry : Option FragmentAssembly} {f : DecodedPacket}

theorem feedEntry_on (h : f.flags &&& kFragment ≠ 0) (hlast : f.flags &&& kLastFragment = 0)
    (hcount : ((entry.getD {}).add f).fragmentsReceived < ((entry.getD {}).add f).fragmentCount) :
    feedEntry entry f = (some ((entry.getD {}).add f), none) := by
  unfold feedEntry
  dsimp only
  rw [if_neg h, if_neg]
  rintro (hnot | hle)
  · exact hnot hlast
  · exact UInt8.not_lt.mpr hle hcount

theorem feedEntry_complete (h : f.flags &&& kFragment ≠ 0)
    (hdone : f.flags &&& kLastFragment ≠ 0 ∨
      ((entry.getD {}).add f).fragmentCount ≤ ((entry.getD {}).add f).fragmentsReceived) :
    feedEntry entry f = (none, some ((entry.getD {}).add f).complete) := by
  unfold feedEntry
  dsimp only
  rw [if_neg h, if_pos hdone]

/-- The assembly of a packet in four fragments, of which some were received. -/
def partly (p : Outgoing) (received : UInt8) (body : Bytes) : FragmentAssembly where
  messageId := p.messageId
  requestId := p.requestId
  errorCode := p.errorCode
  fragmentCount := 5
  fragmentsReceived := received
  body := body

theorem feedEntry_first (h : (p.fragment 0).flags = 0x50) :
    feedEntry entry (p.fragment 0) = (some (partly p 1 (p.fragment 0).body), none) := by
  have hadd : (entry.getD {}).add (p.fragment 0) = partly p 1 (p.fragment 0).body := by
    rw [add_first (by rw [h]; decide), h]
    rfl
  rw [feedEntry_on (by rw [h]; decide) (by rw [h]; decide), hadd]
  rw [hadd]
  exact (by decide : (1 : UInt8) < 5)

theorem feedEntry_next {received : UInt8} {body : Bytes} (hindex : f.flags &&& 0x03 ≠ 0)
    (h : f.flags &&& kFragment ≠ 0) (hlast : f.flags &&& kLastFragment = 0)
    (hcount : received + 1 < 5) : feedEntry (some (partly p received body)) f =
      (some (partly p (received + 1) (body ++ f.body)), none) := by
  have hadd : (partly p received body).add f = partly p (received + 1) (body ++ f.body) :=
    add_next hindex
  rw [feedEntry_on h hlast, Option.getD_some, hadd]
  rw [Option.getD_some, hadd]
  exact hcount

theorem feedEntry_last {received : UInt8} {body : Bytes} (h : f.flags = 0x73) :
    feedEntry (some (partly p received body)) f =
      (none, some { p.whole with body := body ++ f.body }) := by
  rw [feedEntry_complete (by rw [h]; decide) (.inl (by rw [h]; decide)), Option.getD_some,
    add_next (by rw [h]; decide)]
  rfl

theorem feedEntries_of_four (h : 12288 < p.body.length) (h' : p.body.length ≤ 16384) :
    (feedEntries none p.fragments).map (·.2) = [none, none, none, some p.whole] := by
  obtain ⟨f0, f1, f2, f3⟩ := flags_of_four (totalFragments_of_fits h h')
  have hbody := bodies_of_four h h'
  rw [fragments_of_four h h']
  simp only [feedEntries, List.map_cons, List.map_nil]
  rw [feedEntry_first f0]
  dsimp only
  rw [feedEntry_next (by rw [f1]; decide) (by rw [f1]; decide) (by rw [f1]; decide) (by decide)]
  dsimp only
  rw [feedEntry_next (by rw [f2]; decide) (by rw [f2]; decide) (by rw [f2]; decide) (by decide)]
  dsimp only
  rw [feedEntry_last f3, hbody]
  rfl

/-! ## In another number of fragments -/

theorem or_and (a b c : UInt8) : (a ||| b) &&& c = (a &&& c) ||| (b &&& c) := by
  apply UInt8.toNat.inj
  simp [Nat.and_or_distrib_right]

theorem isFragment (p : Outgoing) (i : ℕ) : (p.fragment i).flags &&& kFragment ≠ 0 := by
  have habsorb (y : UInt8) : (kFragment ||| y) &&& kFragment = kFragment := by
    apply UInt8.eq_of_toBitVec_eq
    simp
    grind
  have hflags : (p.fragment i).flags &&& kFragment = kFragment := by
    simp only [Outgoing.fragment]
    split_ifs
    · rw [UInt8.or_assoc, UInt8.or_assoc, habsorb]
    · rw [UInt8.or_assoc, habsorb]
  rw [hflags]
  decide

theorem toNat_and_three (n : UInt8) : (n &&& 3).toNat = n.toNat % 4 := by
  rw [UInt8.toNat_and]
  exact Nat.and_two_pow_sub_one_eq_mod n.toNat 2

/-- Every fourth fragment has the index of the first one. -/
theorem index_fragment (p : Outgoing) {i : ℕ} (h : i % 4 = 0) :
    (p.fragment i).flags &&& 0x03 = 0 := by
  have hcount (t : UInt8) : (t <<< 4) &&& 0x03 = 0 := by
    apply UInt8.toNat.inj
    rw [toNat_and_three, UInt8.toNat_shiftLeft]
    simp
    omega
  have hindex : (UInt8.ofNat i &&& 0x03) &&& 0x03 = 0 := by
    apply UInt8.toNat.inj
    rw [toNat_and_three, toNat_and_three]
    simp
    omega
  simp only [Outgoing.fragment]
  split_ifs
  · rw [or_and, or_and, or_and, hcount, hindex]
    decide
  · rw [or_and, or_and, hcount, hindex]
    decide

theorem length_body_fragment (p : Outgoing) (i : ℕ) : (p.fragment i).body.length ≤ 4096 := by
  rw [body_fragment, List.length_take]
  exact (Nat.min_le_left _ _).trans (Nat.min_le_left _ _)

/-- Nothing comes out that is longer than four fragments. -/
theorem length_body_of_feedEntries (p : Outgoing) (n : ℕ) {i : ℕ}
    {entry : Option FragmentAssembly}
    (hentry : i % 4 ≠ 0 → ∀ assembly ∈ entry, assembly.body.length ≤ 4096 * (i % 4)) :
    ∀ x ∈ feedEntries entry ((List.range' i n).map p.fragment), ∀ packet ∈ x.2,
      packet.body.length ≤ 16384 := by
  induction n generalizing i entry with
  | zero => exact nofun
  | succ n ih =>
    have hadded : ((entry.getD {}).add (p.fragment i)).body.length ≤ 4096 * (i % 4 + 1) := by
      have hbody := length_body_fragment p i
      by_cases hi : i % 4 = 0
      · rw [add_first (index_fragment p hi)]
        dsimp only
        omega
      · have hold : (entry.getD {}).body.length ≤ 4096 * (i % 4) := by
          cases entry with
          | none => exact Nat.zero_le _
          | some assembly => exact hentry hi assembly rfl
        by_cases hindex : (p.fragment i).flags &&& 0x03 = 0
        · rw [add_first hindex]
          dsimp only
          omega
        · rw [add_next hindex]
          dsimp only
          rw [List.length_append]
          omega
    have hmod : i % 4 < 4 := Nat.mod_lt _ (by decide)
    rw [List.range'_succ, List.map_cons, feedEntries]
    by_cases hdone : (p.fragment i).flags &&& kLastFragment ≠ 0 ∨
        ((entry.getD {}).add (p.fragment i)).fragmentCount ≤
          ((entry.getD {}).add (p.fragment i)).fragmentsReceived
    · rw [feedEntry_complete (isFragment p i) hdone]
      intro x hx packet hpacket
      rcases List.mem_cons.mp hx with rfl | hx
      · obtain rfl := Option.some.inj hpacket
        exact hadded.trans (by omega)
      · exact ih (fun _ _ hnone => absurd hnone (Option.not_mem_none _)) x hx packet hpacket
    · rw [not_or, not_not, UInt8.not_le] at hdone
      rw [feedEntry_on (isFragment p i) hdone.1 hdone.2]
      intro x hx packet hpacket
      rcases List.mem_cons.mp hx with rfl | hx
      · cases hpacket
      · refine ih (fun hi assembly hassembly => ?_) x hx packet hpacket
        obtain rfl := Option.some.inj hassembly
        exact hadded.trans (by omega)

/-- Three fragments : the first one counts as the last. -/
theorem feedEntries_of_three (h : 8192 < p.body.length) (h' : p.body.length ≤ 12288) :
    p.fragments.length = 3 ∧
      ∃ packet answers, (feedEntries none p.fragments).map (·.2) = some packet :: answers := by
  have hcount : (p.body.length + kFragmentPayloadSize - 1) / kFragmentPayloadSize = 3 := by
    unfold kFragmentPayloadSize
    omega
  have htotal : p.totalFragments = 3 := by
    rw [Outgoing.totalFragments, hcount]
    rfl
  have hflags : (p.fragment 0).flags &&& kLastFragment ≠ 0 := by
    simp only [Outgoing.fragment, htotal]
    decide
  rw [fragments_of_gt h, htotal]
  obtain ⟨packet, hpacket⟩ : ∃ packet, feedEntry none (p.fragment 0) = (none, some packet) :=
    ⟨_, feedEntry_complete (isFragment p 0) (.inl hflags)⟩
  refine ⟨rfl, packet, (feedEntries none [p.fragment 1, p.fragment 2]).map (·.2), ?_⟩
  change (feedEntries none (p.fragment 0 :: [p.fragment 1, p.fragment 2])).map _ = _
  rw [feedEntries, hpacket]
  rfl

/-- The fragments of one packet, fed to an assembler that has none of it. -/
theorem feedEntries_iff (p : Outgoing) : (feedEntries none p.fragments).map (·.2) =
    List.replicate (p.fragments.length - 1) none ++ [some p.whole] ↔ Fits p := by
  constructor
  · intro h
    by_contra hfits
    rw [Fits, not_or, not_and_or, Nat.not_le, Nat.not_lt, Nat.not_le] at hfits
    obtain ⟨hlarge, hthree | hmore⟩ := hfits
    · obtain ⟨hlength, packet, answers, hanswers⟩ := feedEntries_of_three hlarge hthree
      rw [hanswers, hlength] at h
      cases (List.cons.inj h).1
    · have hwhole : some p.whole ∈ (feedEntries none p.fragments).map (·.2) := by
        rw [h]
        exact List.mem_append_right _ (List.mem_singleton_self _)
      obtain ⟨x, hx, heq⟩ := List.mem_map.mp hwhole
      rw [fragments_of_gt hlarge, List.range_eq_range'] at hx
      have hle := length_body_of_feedEntries p _
        (fun _ _ hnone => absurd hnone (Option.not_mem_none _)) x hx _ heq
      exact Nat.not_le_of_lt hmore hle
  · rintro (h | ⟨h, h'⟩)
    · rw [fragments_of_le h, feedEntries, feedEntry_whole]
      rfl
    · rw [feedEntries_of_four h h', fragments_of_four h h']
      rfl

/-! ## Packets in between each other -/

variable {packets : List Outgoing} {fed : List DecodedPacket}

/-- The answers to the fragments of one packet are those that it gets alone. -/
theorem Interleaves.answers (h : Interleaves packets fed) (hp : p ∈ packets) :
    (feedAll {} fed).filter (·.1.requestId = p.requestId) = feedEntries none p.fragments := by
  rw [filter_feedAll, h.own p hp]

/-- Packets that come out with fragments of their own request are those of its answers. -/
theorem filter_filterMap {answered : List (DecodedPacket × Option DecodedPacket)}
    (h : ∀ x ∈ answered, ∀ packet ∈ x.2, packet.requestId = x.1.requestId) (requestId : UInt32) :
    (answered.filterMap (·.2)).filter (·.requestId = requestId) =
      ((answered.filter (·.1.requestId = requestId)).map (·.2)).filterMap id := by
  induction answered with
  | nil => rfl
  | cons x answered ih =>
    have ih := ih fun y hy => h y (List.mem_cons_of_mem _ hy)
    obtain ⟨fragment, packet⟩ := x
    cases packet with
    | none =>
      rw [List.filterMap_cons_none rfl, ih]
      by_cases hid : fragment.requestId = requestId
      · rw [List.filter_cons_of_pos (by simpa using hid)]
        rfl
      · rw [List.filter_cons_of_neg (by simpa using hid)]
    | some packet =>
      have hown := h _ List.mem_cons_self packet rfl
      change ((packet :: answered.filterMap (·.2)).filter _) = _
      by_cases hid : fragment.requestId = requestId
      · rw [List.filter_cons_of_pos (by simpa using hown.trans hid),
          List.filter_cons_of_pos (by simpa using hid), ih]
        rfl
      · rw [List.filter_cons_of_neg (by simpa using fun heq => hid (hown.symm.trans heq)),
          List.filter_cons_of_neg (by simpa using hid), ih]

theorem reassembles_iff (h : Interleaves packets fed) :
    (∀ p ∈ packets, Reassembles fed p) ↔ ∀ p ∈ packets, Fits p := by
  have hlast {p : Outgoing} (hp : p ∈ packets) (hfits : Fits p) :
      ((feedAll {} fed).filter (·.1.requestId = p.requestId)).map (·.2) =
        List.replicate (p.fragments.length - 1) none ++ [some p.whole] := by
    rw [h.answers hp]
    exact (feedEntries_iff p).mpr hfits
  constructor
  · intro hall p hp
    rw [← feedEntries_iff, ← h.answers hp]
    exact (hall p hp).last
  · intro hfits p hp
    refine ⟨hlast hp (hfits p hp), ?_⟩
    rw [filter_filterMap, hlast hp (hfits p hp)]
    · simp
    · intro x hx packet hpacket
      obtain ⟨q, hq, hid⟩ := h.others x.1 (mem_feedAll hx)
      have hmem : x.2 ∈ ((feedAll {} fed).filter (·.1.requestId = q.requestId)).map (·.2) :=
        List.mem_map_of_mem (List.mem_filter.mpr ⟨hx, decide_eq_true hid⟩)
      rw [hlast hq (hfits q hq), hpacket] at hmem
      rcases List.mem_append.mp hmem with hmem | hmem
      · cases List.eq_of_mem_replicate hmem
      · obtain rfl := Option.some.inj (List.mem_singleton.mp hmem)
        exact hid.symm

/-- Four fragments with a small packet in between. -/
theorem reassembles_between : ∃ packets fed, Interleaves packets fed ∧ packets.length = 2 ∧
    ((∀ p ∈ packets, Reassembles fed p) ↔ ∀ p ∈ packets, Fits p) := by
  obtain ⟨p, hid, hlength⟩ : ∃ p : Outgoing, p.requestId = 1 ∧ p.body.length = 12289 :=
    ⟨⟨3001, 1, 0, List.replicate 12289 0⟩, rfl, List.length_replicate⟩
  obtain ⟨q, hid', hlength'⟩ : ∃ q : Outgoing, q.requestId = 2 ∧ q.body.length = 1 :=
    ⟨⟨3001, 2, 0, [0]⟩, rfl, rfl⟩
  have hrequest (i : ℕ) : (p.fragment i).requestId = 1 := hid
  have hrequest' : q.whole.requestId = 2 := hid'
  have h : Interleaves [p, q]
      [p.fragment 0, q.whole, p.fragment 1, p.fragment 2, p.fragment 3] := by
    refine ⟨by simp [hid, hid'], ?_, ?_⟩
    · intro r hr
      rcases List.mem_cons.mp hr with rfl | hr
      · rw [fragments_of_four (by omega) (by omega), hid]
        simp [hrequest, hrequest']
      · obtain rfl := List.mem_singleton.mp hr
        rw [fragments_of_le (by omega), hid']
        simp [hrequest, hrequest']
    · simp [hrequest, hrequest', hid, hid']
  exact ⟨_, _, h, rfl, reassembles_iff h⟩

theorem interleaves_alone (p : Outgoing) : Interleaves [p] p.fragments := by
  have hown : ∀ f ∈ p.fragments, f.requestId = p.requestId := by
    intro f hf
    unfold Outgoing.fragments at hf
    split_ifs at hf
    · rw [List.mem_singleton.mp hf]
      rfl
    · obtain ⟨i, -, rfl⟩ := List.mem_map.mp hf
      rfl
  refine ⟨List.nodup_singleton _, fun q hq => ?_,
    fun f hf => ⟨p, List.mem_singleton_self p, hown f hf⟩⟩
  obtain rfl := List.mem_singleton.mp hq
  exact List.filter_eq_self.mpr fun f hf => decide_eq_true (hown f hf)

/-- One byte too much for one piece : the first of the three fragments comes out alone. -/
theorem not_reassembles : ¬∀ packets fed, Interleaves packets fed →
    ∀ p ∈ packets, Reassembles fed p := by
  intro h
  obtain ⟨p, hlength⟩ : ∃ p : Outgoing, p.body.length = 8193 :=
    ⟨⟨3001, 1, 0, List.replicate 8193 0⟩, List.length_replicate⟩
  have halone := interleaves_alone p
  have hlast := (h _ _ halone p (List.mem_singleton_self p)).last
  rw [halone.answers (List.mem_singleton_self p), feedEntries_iff, Fits] at hlast
  omega

end BoostGateway.Net
