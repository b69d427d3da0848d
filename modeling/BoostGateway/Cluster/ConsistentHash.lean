import Mathlib.Data.Finset.Dedup
import Mathlib.Data.List.Induction
import Mathlib.Data.UInt
import BoostGateway.Base.Bytes
import BoostGateway.Base.Circle

/-!
# The consistent hash ring

`ConsistentHashRing` (`consistent_hash.h`). A node is put on the ring at the FNV-1a hashes
of its virtual nodes, `name#0`, `name#1` and so on, and a key belongs to the node at the
first point from the key's hash on. Names and keys are byte strings, and the name of no
node is empty.

Neither `add_node` nor `remove_node` looks whose point it writes or erases. Two names with
one hash share all their points (`vnodeHashes_congr`), and to remove one of them takes the
other off the ring as well (`not_lookupLaw_sharedHash`). Where no call touches a point of
another present node, the ring holds exactly the points of the present nodes
(`Exact`), and a lookup names one of them and depends on nothing else
(`lookupLaw_of_undisputed`).

Keys move to an added node only, and from a removed node that is present
(`minimalMovement_iff`). `lookup_n` goes once round the ring and keeps the first owners
(`lookupN_replicas`).
-/

namespace BoostGateway.Cluster

scoped instance instLinearOrderUInt32 : LinearOrder UInt32 where
  le_refl := UInt32.le_refl
  le_trans _ _ _ := UInt32.le_trans
  le_antisymm _ _ := UInt32.le_antisymm
  le_total := UInt32.le_total
  lt_iff_le_not_ge a b := by
    rw [UInt32.lt_iff_toNat_lt, UInt32.le_iff_toNat_le, UInt32.le_iff_toNat_le]
    omega
  toDecidableLE := inferInstance

def fnv1aHash (key : Bytes) : UInt32 :=
  key.foldl (fun hash c => (hash ^^^ c.toUInt32) * 16777619) 2166136261

/-- The key of a virtual node : `name#i`. -/
def vnodeKey (nodeName : Bytes) (i : ℕ) : Bytes :=
  nodeName ++ encodeUtf8 ('#' :: Nat.toDigits 10 i)

/-- The points of a node with so many virtual nodes. -/
def vnodeHashes (virtualNodes : ℕ) (nodeName : Bytes) : List UInt32 :=
  (List.range virtualNodes).map fun i => fnv1aHash (vnodeKey nodeName i)

/-- `ConsistentHashRing`. -/
structure ConsistentHashRing where
  virtualNodes : ℕ := 150
  ring : Circle UInt32 Bytes := {}
  physicalNodes : List Bytes := []

namespace ConsistentHashRing

variable (r : ConsistentHashRing)

/-- The points of a node on this ring. -/
abbrev hashes (nodeName : Bytes) : List UInt32 :=
  vnodeHashes r.virtualNodes nodeName

def addNode (nodeName : Bytes) : ConsistentHashRing :=
  { r with
    ring := r.ring.insertAll (r.hashes nodeName) nodeName
    physicalNodes := r.physicalNodes ++ [nodeName] }

def removeNode (nodeName : Bytes) : ConsistentHashRing :=
  { r with
    ring := r.ring.eraseAll (r.hashes nodeName)
    physicalNodes := r.physicalNodes.filter (· ≠ nodeName) }

/-- The owner of a key; the empty name on an empty ring. -/
def lookup (key : Bytes) : Bytes :=
  ((r.ring.successor (fnv1aHash key)).map Prod.snd).getD []

/-- The loop of `lookup_n` : so many steps are left, and the iterator stands before the
points `it`. `seen` holds the names of the result. -/
def lookupLoop (ring : List (UInt32 × Bytes)) (n : ℕ) :
    ℕ → List (UInt32 × Bytes) → List Bytes → List Bytes
  | 0, _, result => result
  | steps + 1, it, result =>
    if result.length < n then
      match if it = [] then ring else it with
      | [] => result
      | (_, node) :: it =>
        lookupLoop ring n steps it (if node ∈ result then result else result ++ [node])
    else result

def lookupN (key : Bytes) (n : ℕ) : List Bytes :=
  if r.ring.entries = [] ∨ n = 0 then []
  else lookupLoop r.ring.entries n r.ring.entries.length (r.ring.lowerBound (fnv1aHash key)) []

/-! ## Histories -/

/-- The calls. -/
inductive RingCall
  | add (nodeName : Bytes)
  | remove (nodeName : Bytes)
  deriving DecidableEq

def step : RingCall → ConsistentHashRing
  | .add nodeName => r.addNode nodeName
  | .remove nodeName => r.removeNode nodeName

/-- The ring after some calls. -/
def afterCalls (virtualNodes : ℕ) (calls : List RingCall) : ConsistentHashRing :=
  calls.foldl step { virtualNodes }

variable (virtualNodes : ℕ)

variable (calls : List RingCall)

theorem afterCalls_concat (c : RingCall) :
    afterCalls virtualNodes (calls ++ [c]) = (afterCalls virtualNodes calls).step c := by
  rw [afterCalls, List.foldl_append]
  rfl

theorem virtualNodes_afterCalls : (afterCalls virtualNodes calls).virtualNodes = virtualNodes := by
  induction calls using List.reverseRecOn with
  | nil => rfl
  | append_singleton calls c ih =>
    rw [afterCalls_concat]
    cases c <;> exact ih

/-- Every point belongs to a present node, at one of its hashes. -/
def Owned : Prop :=
  ∀ e ∈ r.ring.entries, e.2 ∈ r.physicalNodes ∧ e.1 ∈ r.hashes e.2

theorem Owned.step {r : ConsistentHashRing} (h : r.Owned) (c : RingCall) : (r.step c).Owned := by
  intro e he
  cases c with
  | add n =>
    rcases Circle.mem_insertAll.mp he with ⟨hk, hn⟩ | ⟨he, -⟩
    · exact ⟨List.mem_append_right _ (List.mem_singleton.mpr hn), hn ▸ hk⟩
    · exact ⟨List.mem_append_left _ (h e he).1, (h e he).2⟩
  | remove n =>
    obtain ⟨hin, hk⟩ := Circle.mem_eraseAll.mp he
    refine ⟨List.mem_filter.mpr ⟨(h e hin).1, ?_⟩, (h e hin).2⟩
    rw [decide_eq_true_eq]
    intro hn
    exact hk (hn ▸ (h e hin).2)

theorem owned_afterCalls : (afterCalls virtualNodes calls).Owned := by
  induction calls using List.reverseRecOn with
  | nil => exact fun e he => absurd he List.not_mem_nil
  | append_singleton calls c ih =>
    rw [afterCalls_concat]
    exact ih.step c

/-! ## Points that are shared -/

/-- Two names with one hash put all their virtual nodes at the same points. -/
theorem vnodeHashes_congr {n m : Bytes} (h : fnv1aHash n = fnv1aHash m) (virtualNodes : ℕ) :
    vnodeHashes virtualNodes n = vnodeHashes virtualNodes m := by
  refine List.map_congr_left fun i _ => ?_
  rw [vnodeKey, vnodeKey, fnv1aHash, fnv1aHash, List.foldl_append, List.foldl_append]
  exact congrArg (fun hash => List.foldl _ hash _) h

/-- No present node other than `n` has a point of `n`. -/
def Apart (n : Bytes) : Prop :=
  ∀ m ∈ r.physicalNodes, m ≠ n → ∀ k ∈ r.hashes n, k ∉ r.hashes m

/-- The ring holds exactly the points of the present nodes, and these have names. -/
structure Exact (r : ConsistentHashRing) : Prop where
  mem_ring : ∀ e, e ∈ r.ring.entries ↔ e.2 ∈ r.physicalNodes ∧ e.1 ∈ r.hashes e.2
  named : [] ∉ r.physicalNodes

/-- What a call must meet : the node has a name, and shares no point with another present
node. -/
def Undisputed : RingCall → Prop
  | .add n => n ≠ [] ∧ r.Apart n
  | .remove n => r.Apart n

instance (r : ConsistentHashRing) (n : Bytes) : Decidable (r.Apart n) :=
  decidable_of_iff
    (r.physicalNodes.all fun m => m = n || (r.hashes n).all fun k => k ∉ r.hashes m)
    (by simp [Apart, or_iff_not_imp_left])

instance (r : ConsistentHashRing) : (c : RingCall) → Decidable (r.Undisputed c)
  | .add n => inferInstanceAs (Decidable (n ≠ [] ∧ r.Apart n))
  | .remove n => inferInstanceAs (Decidable (r.Apart n))

theorem Exact.step {r : ConsistentHashRing} (h : r.Exact) {c : RingCall} (hc : r.Undisputed c) :
    (r.step c).Exact := by
  cases c with
  | add n =>
    obtain ⟨hname, hapart⟩ := hc
    refine ⟨fun e => ?_, ?_⟩
    · refine Circle.mem_insertAll.trans ?_
      change _ ↔ e.2 ∈ r.physicalNodes ++ [n] ∧ e.1 ∈ r.hashes e.2
      rw [h.mem_ring, List.mem_append, List.mem_singleton]
      by_cases hn : e.2 = n
      · rw [hn]
        tauto
      · have := hapart e.2
        tauto
    · change [] ∉ r.physicalNodes ++ [n]
      rw [List.mem_append, List.mem_singleton]
      exact not_or.mpr ⟨h.named, Ne.symm hname⟩
  | remove n =>
    refine ⟨fun e => ?_, fun hnil => h.named (List.mem_of_mem_filter hnil)⟩
    refine Circle.mem_eraseAll.trans ?_
    change _ ↔ e.2 ∈ r.physicalNodes.filter (· ≠ n) ∧ e.1 ∈ r.hashes e.2
    rw [h.mem_ring, List.mem_filter, decide_eq_true_eq]
    by_cases hn : e.2 = n
    · rw [hn]
      tauto
    · have := hc e.2
      tauto

/-- Every call of the history is undisputed when it is made. -/
def UndisputedRun (virtualNodes : ℕ) (calls : List RingCall) : Prop :=
  ∀ before c, before ++ [c] <+: calls → (afterCalls virtualNodes before).Undisputed c

theorem UndisputedRun.nil {virtualNodes : ℕ} : UndisputedRun virtualNodes [] := fun before c h =>
  absurd (List.prefix_nil.mp h) (by simp)

theorem UndisputedRun.concat {virtualNodes : ℕ} {calls : List RingCall}
    (h : UndisputedRun virtualNodes calls) (c : RingCall)
    (hc : (afterCalls virtualNodes calls).Undisputed c) :
    UndisputedRun virtualNodes (calls ++ [c]) := by
  intro before c' hpre
  rcases List.prefix_concat_iff.mp hpre with heq | hpre
  · obtain ⟨rfl, rfl⟩ := List.append_singleton_inj.mp heq
    exact hc
  · exact h before c' hpre

theorem exact_afterCalls {virtualNodes : ℕ} {calls : List RingCall}
    (h : UndisputedRun virtualNodes calls) : (afterCalls virtualNodes calls).Exact := by
  induction calls using List.reverseRecOn with
  | nil => exact ⟨fun e => by simp [afterCalls], List.not_mem_nil⟩
  | append_singleton calls c ih =>
    rw [afterCalls_concat]
    exact (ih fun before c' hpre => h before c' (hpre.trans (List.prefix_append _ _))).step
      (h calls c List.prefix_rfl)

/-! ## Lookups name present nodes -/

theorem lookup_eq_of_successor {r : ConsistentHashRing} {key : Bytes} {e : UInt32 × Bytes}
    (h : r.ring.successor (fnv1aHash key) = some e) : r.lookup key = e.2 := by
  rw [lookup, h]
  rfl

theorem lookup_eq_nil {r : ConsistentHashRing} {key : Bytes}
    (h : r.ring.successor (fnv1aHash key) = none) : r.lookup key = [] := by
  rw [lookup, h]
  rfl

/-- With nodes present a lookup names one of them, and with none it names nothing. -/
def LookupLaw : Prop :=
  ∀ key, (r.physicalNodes ≠ [] → r.lookup key ≠ [] ∧ r.lookup key ∈ r.physicalNodes) ∧
    (r.physicalNodes = [] → r.lookup key = [])

theorem Exact.lookupLaw {r : ConsistentHashRing} (h : r.Exact) (hv : 1 ≤ r.virtualNodes) :
    r.LookupLaw := by
  intro key
  constructor
  · intro hne
    obtain ⟨n, hn⟩ := List.exists_mem_of_ne_nil _ hne
    have hpoint : (fnv1aHash (vnodeKey n 0), n) ∈ r.ring.entries :=
      (h.mem_ring _).mpr ⟨hn, List.mem_map.mpr ⟨0, List.mem_range.mpr hv, rfl⟩⟩
    cases hs : r.ring.successor (fnv1aHash key) with
    | none => exact absurd hpoint (by simp [Circle.successor_eq_none_iff.mp hs])
    | some e =>
      have hmem := ((h.mem_ring e).mp (Circle.mem_of_successor hs)).1
      rw [lookup_eq_of_successor hs]
      exact ⟨fun hnil => h.named (hnil ▸ hmem), hmem⟩
  · intro hnil
    refine lookup_eq_nil (Circle.successor_eq_none_iff.mpr
      (List.eq_nil_iff_forall_not_mem.mpr fun e he => ?_))
    have hmem := ((h.mem_ring e).mp he).1
    rw [hnil] at hmem
    exact List.not_mem_nil hmem

/-- The present nodes decide the ring. -/
theorem Exact.ring_eq {r r' : ConsistentHashRing} (h : r.Exact) (h' : r'.Exact)
    (hv : r.virtualNodes = r'.virtualNodes)
    (hnodes : ∀ n, n ∈ r.physicalNodes ↔ n ∈ r'.physicalNodes) : r.ring = r'.ring := by
  refine Circle.ext_entries fun e => ?_
  rw [h.mem_ring, h'.mem_ring, hnodes, hashes, hashes, hv]

/-- In undisputed histories a lookup names a present node, and the set of present nodes
decides it. -/
theorem lookupLaw_of_undisputed {virtualNodes : ℕ} (hv : 1 ≤ virtualNodes)
    {calls : List RingCall} (h : UndisputedRun virtualNodes calls) :
    (afterCalls virtualNodes calls).LookupLaw ∧
    ∀ calls', UndisputedRun virtualNodes calls' →
      (∀ n, n ∈ (afterCalls virtualNodes calls').physicalNodes ↔
        n ∈ (afterCalls virtualNodes calls).physicalNodes) →
      ∀ key, (afterCalls virtualNodes calls').lookup key =
        (afterCalls virtualNodes calls).lookup key := by
  have hexact := exact_afterCalls h
  refine ⟨hexact.lookupLaw (by rwa [virtualNodes_afterCalls]), fun calls' h' hnodes key => ?_⟩
  have hring := (exact_afterCalls h').ring_eq hexact
    (by rw [virtualNodes_afterCalls, virtualNodes_afterCalls]) hnodes
  rw [lookup, lookup, hring]

/-- Two rings that each have the owner the other one gives a key agree on it. -/
theorem Exact.lookup_eq {r r' : ConsistentHashRing} (h : r.Exact) (h' : r'.Exact)
    (hv : r.virtualNodes = r'.virtualNodes) {key : Bytes}
    (hmem : r.lookup key ∈ r'.physicalNodes) (hmem' : r'.lookup key ∈ r.physicalNodes) :
    r.lookup key = r'.lookup key := by
  cases hs : r.ring.successor (fnv1aHash key) with
  | none => exact absurd (lookup_eq_nil hs ▸ hmem) h'.named
  | some e =>
    cases hs' : r'.ring.successor (fnv1aHash key) with
    | none => exact absurd (lookup_eq_nil hs' ▸ hmem') h.named
    | some e' =>
      rw [lookup_eq_of_successor hs] at hmem
      rw [lookup_eq_of_successor hs'] at hmem'
      obtain ⟨hin, hleast⟩ := Circle.successor_eq_some_iff.mp hs
      obtain ⟨hin', hleast'⟩ := Circle.successor_eq_some_iff.mp hs'
      have hother : e ∈ r'.ring.entries := by
        refine (h'.mem_ring e).mpr ⟨hmem, ?_⟩
        rw [hashes, ← hv]
        exact ((h.mem_ring e).mp hin).2
      have hother' : e' ∈ r.ring.entries := by
        refine (h.mem_ring e').mpr ⟨hmem', ?_⟩
        rw [hashes, hv]
        exact ((h'.mem_ring e').mp hin').2
      have hpoint : e.1 = e'.1 := Circle.eq_of_around_eq
        (le_antisymm (hleast e' hother') (hleast' e hother))
      rw [lookup_eq_of_successor hs, lookup_eq_of_successor hs',
        Circle.eq_of_point_eq hother hin' hpoint]

/-- `10.0.172.62:9000`, whose hash is that of `192.168.105.146:9302`. -/
def nodeA : Bytes := encodeUtf8 "10.0.172.62:9000".toList

def nodeB : Bytes := encodeUtf8 "192.168.105.146:9302".toList

def nodeC : Bytes := encodeUtf8 "10.0.172.63:9000".toList

/-- Both nodes join and one of them leaves. -/
def sharedHash : List RingCall := [.add nodeA, .add nodeB, .remove nodeA]

/-- Removing a name with the hash of the only other node empties the ring. -/
theorem Owned.entries_removeNode {r : ConsistentHashRing} (h : r.Owned) {n m : Bytes}
    (hash : fnv1aHash n = fnv1aHash m) (hnodes : ∀ p ∈ (r.removeNode n).physicalNodes, p = m) :
    (r.removeNode n).ring.entries = [] := by
  refine List.eq_nil_iff_forall_not_mem.mpr fun e he => ?_
  obtain ⟨hin, hk⟩ := Circle.mem_eraseAll.mp he
  obtain ⟨howner, hpoint⟩ := h.step (.remove n) e he
  have hshared : r.hashes n = r.hashes e.2 :=
    hnodes _ howner ▸ vnodeHashes_congr hash r.virtualNodes
  exact hk (hshared ▸ hpoint)

/-- The node that stays is off the ring. -/
theorem not_lookupLaw_sharedHash : ¬(afterCalls 150 sharedHash).LookupLaw := by
  intro h
  have hempty : (afterCalls 150 sharedHash).ring.entries = [] :=
    (owned_afterCalls 150 [.add nodeA, .add nodeB]).entries_removeNode (n := nodeA) (m := nodeB)
      (by decide +kernel) (by decide +kernel)
  exact ((h []).1 (by decide +kernel)).1 (lookup_eq_nil (Circle.successor_eq_none_iff.mpr hempty))

theorem lookupLaw_of_undisputed_two : (afterCalls 1 [.add nodeA, .add [65]]).LookupLaw :=
  (lookupLaw_of_undisputed le_rfl ((UndisputedRun.nil.concat (.add nodeA)
    (by decide)).concat (.add [65]) (by decide +kernel))).1

/-! ## What moves -/

/-- Keys move to an added node only, and from a removed node only. -/
def MinimalMovement (n : Bytes) : Prop :=
  (∀ key, (r.addNode n).lookup key ≠ r.lookup key → (r.addNode n).lookup key = n) ∧
  ∀ key, (r.removeNode n).lookup key ≠ r.lookup key → r.lookup key = n

/-- No two present nodes share a point. -/
def Disjoint : Prop := ∀ n ∈ r.physicalNodes, r.Apart n

instance (r : ConsistentHashRing) : Decidable r.Disjoint :=
  inferInstanceAs (Decidable (∀ n ∈ r.physicalNodes, r.Apart n))

/-- Going round from the point `e` past the points of `n`, the next one has the owner of
`e`. -/
def StaysWith (n : Bytes) (e : UInt32 × Bytes) : Prop :=
  (∃ f ∈ r.ring.entries, f.1 ∉ r.hashes n ∧ f.2 = e.2 ∧
    ∀ g ∈ r.ring.entries, g.1 ∉ r.hashes n → Circle.around e.1 f.1 ≤ Circle.around e.1 g.1) ∨
  e.2 = [] ∧ ∀ g ∈ r.ring.entries, g.1 ∈ r.hashes n

/-- Whatever the history, keys move to an added node only. -/
theorem lookup_addNode (n key : Bytes)
    (h : (r.addNode n).lookup key ≠ r.lookup key) : (r.addNode n).lookup key = n := by
  cases hs : (r.addNode n).ring.successor (fnv1aHash key) with
  | some e =>
    rw [lookup_eq_of_successor hs] at h ⊢
    rcases Circle.successor_insertAll hs with hn | hold
    · exact hn
    · exact absurd (lookup_eq_of_successor hold).symm h
  | none =>
    have hempty : (r.ring.insertAll (r.hashes n) n).entries = [] :=
      Circle.successor_eq_none_iff.mp hs
    have hbefore : r.ring.entries = [] := by
      refine List.eq_nil_iff_forall_not_mem.mpr fun e he => ?_
      have hnot : ∀ f, f ∉ (r.ring.insertAll (r.hashes n) n).entries := fun f hf =>
        List.not_mem_nil (hempty ▸ hf)
      by_cases hk : e.1 ∈ r.hashes n
      · exact hnot (e.1, n) (Circle.mem_insertAll.mpr (Or.inl ⟨hk, rfl⟩))
      · exact hnot e (Circle.mem_insertAll.mpr (Or.inr ⟨he, hk⟩))
    rw [lookup_eq_nil hs, lookup_eq_nil (Circle.successor_eq_none_iff.mpr hbefore)] at h
    exact absurd rfl h

/-- What a lookup at a taken point gives once the points are gone. -/
theorem staysWith_iff {r : ConsistentHashRing} {n : Bytes} {e : UInt32 × Bytes} :
    r.StaysWith n e ↔
      (((r.ring.eraseAll (r.hashes n)).successor e.1).map Prod.snd).getD [] = e.2 := by
  cases hs : (r.ring.eraseAll (r.hashes n)).successor e.1 with
  | some f =>
    obtain ⟨hf, hleast⟩ := Circle.successor_eq_some_iff.mp hs
    obtain ⟨hin, hk⟩ := Circle.mem_eraseAll.mp hf
    rw [Option.map_some, Option.getD_some]
    constructor
    · rintro (⟨f', hf', hk', howner, hleast'⟩ | ⟨-, hall⟩)
      · have heq : f' = f := Circle.eq_of_point_eq hf' hin (Circle.eq_of_around_eq
          (le_antisymm (hleast' f hin hk) (hleast f' (Circle.mem_eraseAll.mpr ⟨hf', hk'⟩))))
        rw [← heq, howner]
      · exact absurd (hall f hin) hk
    · intro howner
      exact Or.inl ⟨f, hin, hk, howner, fun g hg hgk =>
        hleast g (Circle.mem_eraseAll.mpr ⟨hg, hgk⟩)⟩
  | none =>
    have hall : ∀ g ∈ r.ring.entries, g.1 ∈ r.hashes n := fun g hg => by
      by_contra hk
      have hmem := Circle.mem_eraseAll.mpr ⟨hg, hk⟩
      simp [Circle.successor_eq_none_iff.mp hs] at hmem
    rw [Option.map_none, Option.getD_none]
    constructor
    · rintro (⟨f, hf, hk, -⟩ | ⟨hnil, -⟩)
      · exact absurd (hall f hf) hk
      · exact hnil.symm
    · exact fun hnil => Or.inr ⟨hnil.symm, hall⟩

/-- Keys move as they should exactly when the node is present, or the points it would take
from other nodes leave their keys where they are. -/
theorem minimalMovement_iff (virtualNodes : ℕ) (calls : List RingCall)
    (hdisjoint : (afterCalls virtualNodes calls).Disjoint) (n : Bytes) :
    (afterCalls virtualNodes calls).MinimalMovement n ↔
      n ∈ (afterCalls virtualNodes calls).physicalNodes ∨
      ∀ e ∈ (afterCalls virtualNodes calls).ring.entries,
        e.1 ∈ (afterCalls virtualNodes calls).hashes n → e.2 ≠ n →
        (afterCalls virtualNodes calls).StaysWith n e := by
  have howned := owned_afterCalls virtualNodes calls
  generalize afterCalls virtualNodes calls = r at hdisjoint howned ⊢
  constructor
  · rintro ⟨-, hremove⟩
    refine Or.inr fun e he hk hn => ?_
    obtain ⟨i, -, hi⟩ := List.mem_map.mp (howned e he).2
    have hlookup : r.lookup (vnodeKey e.2 i) = e.2 :=
      lookup_eq_of_successor (hi ▸ Circle.successor_self he)
    have hstays : (r.removeNode n).lookup (vnodeKey e.2 i) = e.2 := by
      by_contra hmoved
      exact hn (hlookup ▸ hremove _ (by rwa [hlookup]))
    rw [staysWith_iff, ← hi]
    exact hstays
  · intro hcond
    refine ⟨fun key => r.lookup_addNode n key, fun key hmoved => ?_⟩
    cases hs : r.ring.successor (fnv1aHash key) with
    | none =>
      have hempty := Circle.successor_eq_none_iff.mp hs
      have hafter : (r.removeNode n).ring.successor (fnv1aHash key) = none := by
        refine Circle.successor_eq_none_iff.mpr (List.eq_nil_iff_forall_not_mem.mpr fun e he => ?_)
        have hin := (Circle.mem_eraseAll.mp he).1
        simp [hempty] at hin
      rw [lookup_eq_nil hs, lookup_eq_nil hafter] at hmoved
      exact absurd rfl hmoved
    | some e =>
      have he := Circle.mem_of_successor hs
      rw [lookup_eq_of_successor hs] at hmoved ⊢
      by_contra hn
      by_cases hk : e.1 ∈ r.hashes n
      · have hstays : r.StaysWith n e := by
          rcases hcond with hin | hstays
          · exact absurd (howned e he).2 (hdisjoint n hin e.2 (howned e he).1 hn e.1 hk)
          · exact hstays e he hk hn
        refine hmoved ?_
        rw [lookup, removeNode, Circle.successor_eraseAll_of_taken hs]
        exact staysWith_iff.mp hstays
      · exact hmoved (lookup_eq_of_successor (Circle.successor_eraseAll hs hk))

/-- The key of a virtual node goes to the node that was added last. -/
theorem lookup_vnodeKey_addNode (n : Bytes) {i : ℕ}
    (hi : i < r.virtualNodes) : (r.addNode n).lookup (vnodeKey n i) = n := by
  have hpoint : (fnv1aHash (vnodeKey n i), n) ∈ (r.addNode n).ring.entries :=
    Circle.mem_insertAll.mpr (Or.inl ⟨List.mem_map.mpr ⟨i, List.mem_range.mpr hi, rfl⟩, rfl⟩)
  exact lookup_eq_of_successor (Circle.successor_self hpoint)

theorem disjoint_add (n : Bytes) : (afterCalls virtualNodes [.add n]).Disjoint := by
  intro m hm p hp hne
  rw [List.mem_singleton.mp hm, List.mem_singleton.mp hp] at hne
  exact absurd rfl hne

/-- Removing a node that is not there takes the only node off the ring. -/
theorem not_minimalMovement_absent : (afterCalls 150 [.add nodeA]).Disjoint ∧
    ¬(afterCalls 150 [.add nodeA]).MinimalMovement nodeB := by
  refine ⟨disjoint_add 150 nodeA, fun h => ?_⟩
  have hlookup : (afterCalls 150 [.add nodeA]).lookup (vnodeKey nodeA 0) = nodeA :=
    lookup_vnodeKey_addNode { virtualNodes := 150 } nodeA (by decide)
  have hempty : ((afterCalls 150 [.add nodeA]).removeNode nodeB).ring.entries = [] :=
    (owned_afterCalls 150 [.add nodeA]).entries_removeNode (n := nodeB) (m := nodeA)
      (by decide +kernel) (by decide +kernel)
  have hmoved := h.2 (vnodeKey nodeA 0)
  rw [lookup_eq_nil (Circle.successor_eq_none_iff.mpr hempty), hlookup] at hmoved
  exact absurd (hmoved (by decide)) (by decide)

theorem minimalMovement_iff_add :
    (afterCalls 10 [.add nodeA, .add nodeC]).MinimalMovement nodeA :=
  (minimalMovement_iff 10 [.add nodeA, .add nodeC] (by decide +kernel) nodeA).mpr
    (Or.inl (by decide +kernel))

/-! ## Replicas -/

/-- The names that follow `result` in the order of their first occurrence. -/
def firsts (result names : List Bytes) : List Bytes :=
  names.foldl (fun result node => if node ∈ result then result else result ++ [node]) result

variable (result : List Bytes)

theorem firsts_cons (node : Bytes) (names : List Bytes) :
    firsts result (node :: names) =
      firsts (if node ∈ result then result else result ++ [node]) names := rfl

variable (names : List Bytes)

theorem firsts_append (names' : List Bytes) :
    firsts result (names ++ names') = firsts (firsts result names) names' :=
  List.foldl_append

theorem prefix_firsts : result <+: firsts result names := by
  induction names generalizing result with
  | nil => exact List.prefix_rfl
  | cons node names ih =>
    rw [firsts_cons]
    refine List.IsPrefix.trans ?_ (ih _)
    split_ifs
    · exact List.prefix_rfl
    · exact List.prefix_append _ _

theorem mem_firsts {result names : List Bytes} {node : Bytes} :
    node ∈ firsts result names ↔ node ∈ result ∨ node ∈ names := by
  induction names generalizing result with
  | nil => simp [firsts]
  | cons m names ih =>
    rw [firsts_cons, ih]
    split_ifs with hm
    · rw [List.mem_cons]
      by_cases heq : node = m
      · simp [heq, hm]
      · simp [heq]
    · simp [or_assoc]

theorem nodup_firsts {result : List Bytes} (h : result.Nodup) (names : List Bytes) :
    (firsts result names).Nodup := by
  induction names generalizing result with
  | nil => exact h
  | cons node names ih =>
    rw [firsts_cons]
    split_ifs with hnode
    · exact ih h
    · exact ih (List.nodup_append'.mpr
        ⟨h, List.nodup_singleton node, List.disjoint_singleton.mpr hnode⟩)

theorem length_firsts : (firsts [] names).length = names.dedup.length := by
  refine ((List.perm_ext_iff_of_nodup (nodup_firsts List.nodup_nil names)
    (List.nodup_dedup names)).mpr fun node => ?_).length_eq
  simp [mem_firsts]

theorem lookupLoop_of_full {ring it : List (UInt32 × Bytes)} {n steps : ℕ} {result : List Bytes}
    (h : n ≤ result.length) : lookupLoop ring n steps it result = result := by
  cases steps with
  | zero => rfl
  | succ steps => rw [lookupLoop, if_neg (by omega)]

/-- The loop over the points `s` collects their owners up to the `n`-th. -/
theorem lookupLoop_append (ring s t : List (UInt32 × Bytes)) (n steps : ℕ)
    (result : List Bytes) :
    lookupLoop ring n (s.length + steps) (s ++ t) (result.take n) =
      lookupLoop ring n steps t ((firsts result (s.map Prod.snd)).take n) := by
  induction s generalizing result with
  | nil => rw [List.length_nil, Nat.zero_add]; rfl
  | cons e s ih =>
    by_cases hfull : n ≤ result.length
    · have htake : (firsts result ((e :: s).map Prod.snd)).take n = result.take n := by
        obtain ⟨rest, hrest⟩ := prefix_firsts result ((e :: s).map Prod.snd)
        rw [← hrest, List.take_append_of_le_length hfull]
      have hlen : n ≤ (result.take n).length := by
        rw [List.length_take]
        omega
      rw [htake, lookupLoop_of_full hlen, lookupLoop_of_full hlen]
    · have hall : ∀ result' : List Bytes, result'.length ≤ result.length + 1 →
          result'.take n = result' := fun result' hlen => List.take_of_length_le (by omega)
      rw [hall result (by omega), List.length_cons, Nat.add_right_comm, lookupLoop,
        if_pos (by omega), List.map_cons, firsts_cons, ← ih]
      have hstep : (if e.2 ∈ result then result else result ++ [e.2]).take n =
          if e.2 ∈ result then result else result ++ [e.2] := by
        refine hall _ ?_
        split_ifs <;> simp
      rw [hstep]
      rfl

/-- `lookup_n` keeps the first owners on the way round. -/
theorem lookupN_eq (key : Bytes) (n : ℕ) :
    r.lookupN key n =
      (firsts [] ((r.ring.rotation (fnv1aHash key)).map Prod.snd)).take n := by
  obtain ⟨p, hsplit, hrot⟩ := r.ring.exists_rotation_eq (fnv1aHash key)
  rw [lookupN]
  split_ifs with h
  · rcases h with hempty | rfl
    · have hnil : r.ring.rotation (fnv1aHash key) = [] :=
        List.perm_nil.mp (hempty ▸ r.ring.rotation_perm (fnv1aHash key))
      rw [hnil]
      exact List.take_nil.symm
    · exact List.take_zero.symm
  · obtain ⟨hne, hn⟩ := not_or.mp h
    rw [hrot]
    generalize r.ring.lowerBound (fnv1aHash key) = s at hsplit ⊢
    generalize r.ring.entries = ring at hsplit hne ⊢
    subst hsplit
    have hfirst := lookupLoop_append (p ++ s) s [] n p.length []
    -- at the end of the points the iterator goes on from the first
    have hwrap : ∀ result, lookupLoop (p ++ s) n p.length [] result =
        lookupLoop (p ++ s) n p.length (p ++ s) result := fun result => by
      cases p.length with
      | zero => rfl
      | succ steps => simp only [lookupLoop, if_true, ite_self]
    have hsecond := lookupLoop_append (p ++ s) p s n 0 (firsts [] (s.map Prod.snd))
    rw [List.append_nil, List.take_nil, hwrap] at hfirst
    rw [Nat.add_zero] at hsecond
    rw [List.length_append, Nat.add_comm, hfirst, hsecond, List.map_append, firsts_append]
    rfl

/-- So many distinct owners as there are, at most `n`, the first of them the owner of the
key, and the same ones first for every `n`. -/
theorem lookupN_replicas (r : ConsistentHashRing) (key : Bytes) (n : ℕ) :
    (r.lookupN key n).length = min n (r.ring.entries.map Prod.snd).dedup.length ∧
    (r.lookupN key n).Nodup ∧ (r.lookupN key n) ⊆ r.ring.entries.map Prod.snd ∧
    (∀ node, (r.lookupN key n).head? = some node → node = r.lookup key) ∧
    ∀ m ≤ n, r.lookupN key m <+: r.lookupN key n := by
  have hperm := (r.ring.rotation_perm (fnv1aHash key)).map Prod.snd
  refine ⟨?_, ?_, fun node hnode => ?_, fun node hnode => ?_, fun m hm => ?_⟩
  · rw [lookupN_eq, List.length_take, length_firsts, hperm.dedup.length_eq]
  · rw [lookupN_eq]
    exact (nodup_firsts List.nodup_nil _).sublist (List.take_sublist _ _)
  · rw [lookupN_eq] at hnode
    rcases mem_firsts.mp (List.mem_of_mem_take hnode) with hnil | hmem
    · exact absurd hnil List.not_mem_nil
    · exact hperm.mem_iff.mp hmem
  · rw [lookupN_eq] at hnode
    rw [lookup, ← Circle.head?_rotation]
    cases hrot : r.ring.rotation (fnv1aHash key) with
    | nil => simp [hrot, firsts] at hnode
    | cons e l =>
      obtain ⟨rest, hrest⟩ := prefix_firsts [e.2] (l.map Prod.snd)
      rw [hrot, List.map_cons, firsts_cons, if_neg List.not_mem_nil, List.nil_append,
        ← hrest] at hnode
      cases n with
      | zero => simp at hnode
      | succ n => simpa using hnode.symm
  · rw [lookupN_eq, lookupN_eq]
    exact List.take_prefix_take_left hm

end ConsistentHashRing

end BoostGateway.Cluster
