import Mathlib.Logic.Function.Basic
import BoostGateway.Base.TermLog

/-!
# Replicated logs with elected leaders

The abstract protocol behind leader-based log replication. A `Ledger` holds the
term and the log of every replica together with the history an argument about
elections needs : who led which term, the chain of entries of that term, the logs
the candidates ran with, the votes (with the voter's log), which candidates gave a
term up, and which prefixes were acknowledged.

Each operation of the protocol is a function on ledgers, and `Sound` is kept by all
of them under the stated conditions. A voter may vote twice in a term if its first
vote was for itself and it has conceded the term to the leader it knows of :
elections stay safe (`Sound.leader_eq_none`). An acknowledged point either stays in
the log of its replica or some later leader lacks it (`Sound.retained`), and a
majority of acknowledgements rules the second case out
(`Sound.committed_prefix_chain`). So acknowledged majorities agree
(`Sound.committed_comparable`) and keep their entries (`Sound.committed_held`).
-/

set_option linter.unusedSectionVars false

namespace BoostGateway

open TermLog

/-- Terms and logs of the replicas `ν`, with the history of the run. -/
structure Ledger (ν ε : Type*) where
  /-- The term a replica is in. -/
  term : ν → ℕ
  /-- The log of a replica. -/
  log : ν → List ε
  /-- The replica elected in a term. -/
  leader : ℕ → Option ν
  /-- The log of the leader of a term, as long as it led. -/
  chain : ℕ → List ε
  /-- The log a candidate ran with in a term. -/
  campaign : ν → ℕ → Option (List ε)
  /-- `vote v T c l` : with the log `l`, `v` voted for `c` in `T`. -/
  vote : ν → ℕ → ν → List ε → Prop
  /-- A candidate that gave a term up to its leader. -/
  conceded : ν → ℕ → Prop
  /-- `ack v T m` : in term `T`, `v` held the first `m` entries of the chain of `T`. -/
  ack : ν → ℕ → ℕ → Prop

namespace Ledger

variable {ν ε : Type*} [DecidableEq ν] [Termed ε]

/-- Every replica in term `0` with an empty log and no history. -/
def init : Ledger ν ε where
  term _ := 0
  log _ := []
  leader _ := none
  chain _ := []
  campaign _ _ := none
  vote _ _ _ _ := False
  conceded _ _ := False
  ack _ _ _ := False

variable (g : Ledger ν ε)

/-- A replica learns of a later term. -/
def raise (v : ν) (T : ℕ) : Ledger ν ε :=
  { g with term := Function.update g.term v T }

/-- A replica runs in a new term and votes for itself. -/
def run (v : ν) (T : ℕ) : Ledger ν ε :=
  { g with
    term := Function.update g.term v T
    campaign := fun u t => if u = v ∧ t = T then some (g.log v) else g.campaign u t
    vote := fun u t c l => g.vote u t c l ∨ u = v ∧ t = T ∧ c = v ∧ l = g.log v }

/-- A replica votes in its term. -/
def cast (v c : ν) : Ledger ν ε :=
  { g with vote := fun u t d l => g.vote u t d l ∨ u = v ∧ t = g.term v ∧ d = c ∧ l = g.log v }

/-- A replica gives its term up. -/
def concede (v : ν) : Ledger ν ε :=
  { g with conceded := fun u t => g.conceded u t ∨ u = v ∧ t = g.term v }

/-- A candidate becomes the leader of its term. -/
def elect (c : ν) : Ledger ν ε :=
  { g with
    leader := Function.update g.leader (g.term c) (some c)
    chain := Function.update g.chain (g.term c) (g.log c) }

/-- The leader of a term appends an entry. -/
def extend (c : ν) (e : ε) : Ledger ν ε :=
  { g with
    log := Function.update g.log c (g.log c ++ [e])
    chain := Function.update g.chain (g.term c) (g.chain (g.term c) ++ [e])
    ack := fun u t m =>
      g.ack u t m ∨ u = c ∧ t = g.term c ∧ m = (g.chain (g.term c)).length + 1 }

/-- A replica changes its log to `l` and acknowledges the first `k` entries of the
chain of its term. -/
def replicate (v : ν) (l : List ε) (k : ℕ) : Ledger ν ε :=
  { g with
    log := Function.update g.log v l
    ack := fun u t m => g.ack u t m ∨ u = v ∧ t = g.term v ∧ m = k }

/-- A leader of a term after `T` and before `U` whose chain lacks `p`. -/
def Lost (T : ℕ) (p : List ε) (U : ℕ) : Prop :=
  ∃ S, T < S ∧ S < U ∧ g.leader S ≠ none ∧ ¬p <+: g.chain S

/-- `v` acknowledged the point `p` of term `T`. -/
def Acked (v : ν) (T : ℕ) (p : List ε) : Prop :=
  Point g.chain T p ∧ ∃ m, g.ack v T m ∧ p.length ≤ m

/-- What every run of the protocol keeps. -/
structure Sound (members : Finset ν) (g : Ledger ν ε) : Prop where
  bounded : Bounded g.chain
  chain_eq_nil : ∀ T, g.leader T = none → g.chain T = []
  rooted_chain : ∀ T, Rooted g.chain (g.chain T)
  rooted_log : ∀ v, Rooted g.chain (g.log v)
  rooted_vote : ∀ v T c l, g.vote v T c l → Rooted g.chain l
  rooted_campaign : ∀ c T l, g.campaign c T = some l → Rooted g.chain l
  log_le : ∀ v, ∀ e ∈ g.log v, termOf e ≤ g.term v
  campaign_le : ∀ c T l, g.campaign c T = some l → T ≤ g.term c ∧ ∀ e ∈ l, termOf e < T
  leader_log : ∀ T c, g.leader T = some c → g.term c = T → g.log c = g.chain T
  leader_campaign : ∀ T c, g.leader T = some c →
    ∃ b, g.campaign c T = some b ∧ b <+: g.chain T
  vote_campaign : ∀ v T c l, g.vote v T c l →
    T ≤ g.term v ∧ ∃ b, g.campaign c T = some b ∧ UpToDate b l
  vote_unique : ∀ v T c l c' l', g.vote v T c l → g.vote v T c' l' →
    c = c' ∨ g.conceded v T ∧ (c = v ∨ c' = v)
  conceded_leader : ∀ v T, g.conceded v T → T ≤ g.term v ∧ ∃ c, g.leader T = some c ∧ c ≠ v
  ack_le : ∀ v T m, g.ack v T m → T ≤ g.term v ∧ m ≤ (g.chain T).length
  leader_acked : ∀ T c p, g.leader T = some c → Point g.chain T p → g.Acked c T p
  retained : ∀ v T p, g.Acked v T p → p <+: g.log v ∨ g.Lost T p (g.term v + 1)
  voted : ∀ v T' c l, g.vote v T' c l → ∀ T p, T < T' → g.Acked v T p →
    p <+: l ∨ g.Lost T p T' ∨ g.leader T' ≠ none
  elected : ∀ T' c, g.leader T' = some c → ∃ Q, Quorum members Q ∧ ∀ v ∈ Q, ∃ l,
    g.vote v T' c l ∧ ∀ T p, T < T' → g.Acked v T p → p <+: l ∨ g.Lost T p T'

theorem sound_init (members : Finset ν) : Sound members (init : Ledger ν ε) where
  bounded := by simp [Bounded, init]
  chain_eq_nil _ _ := rfl
  rooted_chain _ := rooted_nil
  rooted_log _ := rooted_nil
  rooted_vote _ _ _ _ h := h.elim
  rooted_campaign := by simp [init]
  log_le := by simp [init]
  campaign_le := by simp [init]
  leader_log := by simp [init]
  leader_campaign := by simp [init]
  vote_campaign _ _ _ _ h := h.elim
  vote_unique _ _ _ _ _ _ h := h.elim
  conceded_leader _ _ h := h.elim
  ack_le _ _ _ h := h.elim
  leader_acked := by simp [init]
  retained _ _ _ h := by
    obtain ⟨-, m, h, -⟩ := h
    exact h.elim
  voted _ _ _ _ h := h.elim
  elected := by simp [init]

theorem Lost.mono_right {g : Ledger ν ε} {T U U' : ℕ} {p : List ε} (h : g.Lost T p U)
    (hU : U ≤ U') : g.Lost T p U' := by
  obtain ⟨S, hTS, hSU, hl, hp⟩ := h
  exact ⟨S, hTS, by omega, hl, hp⟩

/-! ## The history only grows -/

/-- The history of `g'` extends the history of `g`. -/
structure Le (g g' : Ledger ν ε) : Prop where
  term : ∀ v, g.term v ≤ g'.term v
  leader : ∀ T c, g.leader T = some c → g'.leader T = some c
  chain : ∀ T, g.chain T <+: g'.chain T
  campaign : ∀ c T b, g.campaign c T = some b → g'.campaign c T = some b
  vote : ∀ v T c l, g.vote v T c l → g'.vote v T c l
  conceded : ∀ v T, g.conceded v T → g'.conceded v T
  ack : ∀ v T m, g.ack v T m → g'.ack v T m

theorem Le.refl : g.Le g :=
  ⟨fun _ => le_rfl, fun _ _ h => h, fun _ => List.prefix_refl _, fun _ _ _ h => h,
    fun _ _ _ _ h => h, fun _ _ h => h, fun _ _ _ h => h⟩

theorem Le.trans {g g' g'' : Ledger ν ε} (h : g.Le g') (h' : g'.Le g'') : g.Le g'' where
  term v := (h.term v).trans (h'.term v)
  leader T c hc := h'.leader T c (h.leader T c hc)
  chain T := (h.chain T).trans (h'.chain T)
  campaign c T b hb := h'.campaign c T b (h.campaign c T b hb)
  vote v T c l hv := h'.vote v T c l (h.vote v T c l hv)
  conceded v T hc := h'.conceded v T (h.conceded v T hc)
  ack v T m hm := h'.ack v T m (h.ack v T m hm)

/-- Raising one value of a function raises it everywhere. -/
theorem le_update {f : ν → ℕ} {v : ν} {T : ℕ} (hT : f v ≤ T) (u : ν) :
    f u ≤ Function.update f v T u := by
  by_cases hu : u = v
  · rw [hu, Function.update_self]
    exact hT
  · rw [Function.update_of_ne hu]

theorem le_raise {g : Ledger ν ε} {v : ν} {T : ℕ} (hT : g.term v ≤ T) : g.Le (g.raise v T) :=
  { Le.refl g with term := le_update hT }

theorem le_cast (v c : ν) : g.Le (g.cast v c) :=
  { Le.refl g with vote := fun _ _ _ _ h => Or.inl h }

theorem le_concede (v : ν) : g.Le (g.concede v) :=
  { Le.refl g with conceded := fun _ _ h => Or.inl h }

theorem le_extend (c : ν) (e : ε) : g.Le (g.extend c e) :=
  { Le.refl g with
    chain := fun T => by
      by_cases hT : T = g.term c
      · simp [Ledger.extend, hT]
      · simp [Ledger.extend, hT]
    ack := fun _ _ _ h => Or.inl h }

theorem le_replicate (v : ν) (l : List ε) (k : ℕ) : g.Le (g.replicate v l k) :=
  { Le.refl g with ack := fun _ _ _ h => Or.inl h }

variable {members : Finset ν}

theorem Sound.le_run {g : Ledger ν ε} (h : Sound members g) {v : ν} {T : ℕ}
    (hT : g.term v < T) : g.Le (g.run v T) :=
  { le_raise hT.le with
    campaign := fun c t b hb => by
      have hne : ¬(c = v ∧ t = T) := by
        rintro ⟨rfl, rfl⟩
        exact absurd (h.campaign_le c t b hb).1 (by omega)
      simpa [Ledger.run, hne] using hb
    vote := fun _ _ _ _ hv => Or.inl hv }

theorem Sound.le_elect {g : Ledger ν ε} (h : Sound members g) {c : ν}
    (hnone : g.leader (g.term c) = none) : g.Le (g.elect c) :=
  { Le.refl g with
    leader := fun T d hd => by
      have hT : T ≠ g.term c := by
        rintro rfl
        simp [hnone] at hd
      simpa [Ledger.elect, hT] using hd
    chain := fun T => by
      by_cases hT : T = g.term c
      · simp [hT, h.chain_eq_nil _ hnone]
      · simp [Ledger.elect, hT] }

theorem Acked.mono {g g' : Ledger ν ε} {v : ν} {T : ℕ} {p : List ε} (ha : g.Acked v T p)
    (h : g.Le g') : g'.Acked v T p := by
  obtain ⟨⟨hp, hq⟩, m, hm, hpm⟩ := ha
  exact ⟨⟨hp.trans (h.chain T), hq⟩, m, h.ack v T m hm, hpm⟩

/-! ## Points, losses and acknowledgements after an operation -/

section Operations

variable {g : Ledger ν ε} {c v : ν} {e : ε} {T U : ℕ} {p : List ε}

theorem elect_leader_ne_none (c : ν) (h : g.leader T ≠ none) : (g.elect c).leader T ≠ none := by
  by_cases hT : T = g.term c
  · simp [Ledger.elect, hT]
  · simpa [Ledger.elect, hT] using h

/-- A new chain has no entry of its own term yet. -/
theorem point_of_elect (hlt : ∀ e ∈ g.log c, termOf e < g.term c)
    (hp : Point (g.elect c).chain T p) : Point g.chain T p ∧ T ≠ g.term c := by
  by_cases hT : T = g.term c
  · exfalso
    obtain ⟨hp, q, e, rfl, he⟩ := hp
    have hmem : e ∈ g.log c := by
      have := hp.subset (show e ∈ q ++ [e] by simp)
      simpa [Ledger.elect, hT] using this
    have := hlt e hmem
    omega
  · exact ⟨by simpa [Point, Ledger.elect, hT] using hp, hT⟩

theorem Lost.elect (h : g.Lost T p U) (hnone : g.leader (g.term c) = none) :
    (g.elect c).Lost T p U := by
  obtain ⟨S, hTS, hSU, hl, hp⟩ := h
  have hS : S ≠ g.term c := by
    rintro rfl
    exact hl hnone
  exact ⟨S, hTS, hSU, elect_leader_ne_none c hl, by simpa [Ledger.elect, hS] using hp⟩

theorem point_of_extend (hp : Point (g.extend c e).chain T p) :
    Point g.chain T p ∨ T = g.term c ∧ p = g.chain T ++ [e] := by
  obtain ⟨hp, hq⟩ := hp
  by_cases hT : T = g.term c
  · subst hT
    rcases List.prefix_concat_iff.mp (by simpa [Ledger.extend] using hp) with heq | hp'
    · exact Or.inr ⟨rfl, heq⟩
    · exact Or.inl ⟨hp', hq⟩
  · exact Or.inl ⟨by simpa [Ledger.extend, hT] using hp, hq⟩

theorem Lost.extend (h : g.Lost T p U) (he : termOf e = g.term c) (hpt : Point g.chain T p) :
    (g.extend c e).Lost T p U := by
  obtain ⟨S, hTS, hSU, hs, hp⟩ := h
  refine ⟨S, hTS, hSU, hs, ?_⟩
  by_cases hS : S = g.term c
  · have hne : termOf e ≠ T := by omega
    simpa [Ledger.extend, hS] using hpt.not_prefix_concat (hS ▸ hp) hne
  · simpa [Ledger.extend, hS] using hp

/-- A new acknowledgement is the leader's own, of the whole new chain. -/
theorem Sound.acked_of_extend {members : Finset ν} (h : Sound members g)
    (ha : (g.extend c e).Acked v T p) : g.Acked v T p ∨ v = c ∧ T = g.term c := by
  obtain ⟨hp, m, hm | ⟨rfl, rfl, -⟩, hpm⟩ := ha
  · rcases point_of_extend hp with hp' | ⟨rfl, rfl⟩
    · exact Or.inl ⟨hp', m, hm, hpm⟩
    · have := (h.ack_le v _ m hm).2
      simp at hpm
      omega
  · exact Or.inr ⟨rfl, rfl⟩

/-- A new acknowledgement is the follower's, of entries it has. -/
theorem acked_of_replicate {u : ν} {l : List ε} {k : ℕ}
    (hk : k ≤ (g.chain (g.term v)).length) (hack : (g.chain (g.term v)).take k <+: l)
    (ha : (g.replicate v l k).Acked u T p) :
    g.Acked u T p ∨ u = v ∧ T = g.term v ∧ p <+: l := by
  obtain ⟨hp, m, hm | ⟨rfl, rfl, rfl⟩, hpm⟩ := ha
  · exact Or.inl ⟨hp, m, hm, hpm⟩
  · refine Or.inr ⟨rfl, rfl, List.IsPrefix.trans ?_ hack⟩
    exact List.prefix_of_prefix_length_le hp.1 (List.take_prefix _ _) (by simp; omega)

end Operations

namespace Sound

variable {members : Finset ν} {g : Ledger ν ε}

section

variable (h : Sound members g)
include h

theorem leader_le {T : ℕ} {c : ν} (hl : g.leader T = some c) : T ≤ g.term c := by
  obtain ⟨b, hb, -⟩ := h.leader_campaign T c hl
  exact (h.campaign_le c T b hb).1

theorem acked_le {v : ν} {T : ℕ} {p : List ε} (ha : g.Acked v T p) : T ≤ g.term v := by
  obtain ⟨-, m, hm, -⟩ := ha
  exact (h.ack_le v T m hm).1

/-! ## The operations keep a ledger sound -/

theorem raise {v : ν} {T : ℕ} (hT : g.term v ≤ T) : Sound members (g.raise v T) := by
  have hle : ∀ u, g.term u ≤ Function.update g.term v T u := le_update hT
  refine { h with
    log_le := fun u e he => (h.log_le u e he).trans (hle u)
    campaign_le := fun c t l hc =>
      ⟨(h.campaign_le c t l hc).1.trans (hle c), (h.campaign_le c t l hc).2⟩
    leader_log := ?_
    vote_campaign := fun u t c l hv =>
      ⟨(h.vote_campaign u t c l hv).1.trans (hle u), (h.vote_campaign u t c l hv).2⟩
    conceded_leader := fun u t hc =>
      ⟨(h.conceded_leader u t hc).1.trans (hle u), (h.conceded_leader u t hc).2⟩
    ack_le := fun u t m ha => ⟨(h.ack_le u t m ha).1.trans (hle u), (h.ack_le u t m ha).2⟩
    retained := ?_ }
  · intro t c hl ht
    refine h.leader_log t c hl (le_antisymm ?_ (h.leader_le hl))
    exact (hle c).trans ht.le
  · intro u t p ha
    rcases h.retained u t p ha with hp | hp
    · exact Or.inl hp
    · exact Or.inr (hp.mono_right (Nat.add_le_add_right (hle u) 1))

theorem run {v : ν} {T : ℕ} (hT : g.term v < T) : Sound members (g.run v T) := by
  have hr := h.raise hT.le
  have hcamp := (h.le_run hT).campaign
  have hvote : ∀ u t c l, g.vote u t c l → ¬(u = v ∧ t = T) := by
    rintro u t c l hv ⟨rfl, rfl⟩
    exact absurd (h.vote_campaign _ _ c l hv).1 (by omega)
  refine { hr with
    rooted_vote := ?_
    rooted_campaign := ?_
    campaign_le := ?_
    leader_campaign := ?_
    vote_campaign := ?_
    vote_unique := ?_
    voted := ?_
    elected := ?_ }
  · rintro u t c l (hv | ⟨rfl, rfl, rfl, rfl⟩)
    · exact h.rooted_vote u t c l hv
    · exact h.rooted_log _
  · intro c t l hc
    by_cases hct : c = v ∧ t = T
    · obtain rfl : g.log v = l := by simpa [Ledger.run, hct] using hc
      exact h.rooted_log v
    · exact h.rooted_campaign c t l (by simpa [Ledger.run, hct] using hc)
  · intro c t l hc
    by_cases hct : c = v ∧ t = T
    · obtain ⟨rfl, rfl⟩ := hct
      obtain rfl : g.log c = l := by simpa [Ledger.run] using hc
      refine ⟨by simp [Ledger.run], fun e he => ?_⟩
      exact lt_of_le_of_lt (h.log_le c e he) hT
    · have hc' : g.campaign c t = some l := by simpa [Ledger.run, hct] using hc
      exact hr.campaign_le c t l hc'
  · intro t c hl
    obtain ⟨b, hb, hbc⟩ := h.leader_campaign t c hl
    exact ⟨b, hcamp c t b hb, hbc⟩
  · rintro u t c l (hv | ⟨rfl, rfl, rfl, rfl⟩)
    · obtain ⟨hle, b, hb, hup⟩ := hr.vote_campaign u t c l hv
      exact ⟨hle, b, hcamp c t b hb, hup⟩
    · exact ⟨by simp [Ledger.run], _, by simp [Ledger.run], UpToDate.refl _⟩
  · rintro u t c l c' l' (hv | ⟨rfl, rfl, rfl, rfl⟩) (hv' | ⟨hu, ht, rfl, rfl⟩)
    · exact h.vote_unique u t c l c' l' hv hv'
    · exact absurd ⟨hu, ht⟩ (hvote u t c l hv)
    · exact absurd ⟨rfl, rfl⟩ (hvote _ _ c' l' hv')
    · exact Or.inl hu.symm
  · rintro u t c l (hv | ⟨rfl, rfl, rfl, rfl⟩) t₀ p hlt ha
    · exact h.voted u t c l hv t₀ p hlt ha
    · rcases h.retained _ t₀ p ha with hp | hp
      · exact Or.inl hp
      · exact Or.inr (Or.inl (hp.mono_right hT))
  · intro t c hl
    obtain ⟨Q, hQ, hv⟩ := h.elected t c hl
    refine ⟨Q, hQ, fun u hu => ?_⟩
    obtain ⟨l, hl, hp⟩ := hv u hu
    exact ⟨l, Or.inl hl, hp⟩

theorem cast {v c : ν} {b : List ε}
    (hc : g.campaign c (g.term v) = some b) (hup : UpToDate b (g.log v))
    (hold : ∀ d l, g.vote v (g.term v) d l → d = c ∨ g.conceded v (g.term v) ∧ d = v) :
    Sound members (g.cast v c) := by
  refine { h with
    rooted_vote := ?_
    vote_campaign := ?_
    vote_unique := ?_
    voted := ?_
    elected := ?_ }
  · rintro u t d l (hv | ⟨rfl, rfl, rfl, rfl⟩)
    · exact h.rooted_vote u t d l hv
    · exact h.rooted_log _
  · rintro u t d l (hv | ⟨rfl, rfl, rfl, rfl⟩)
    · exact h.vote_campaign u t d l hv
    · exact ⟨le_rfl, b, hc, hup⟩
  · rintro u t d l d' l' (hv | ⟨rfl, rfl, rfl, rfl⟩) (hv' | ⟨hu, ht, rfl, rfl⟩)
    · exact h.vote_unique u t d l d' l' hv hv'
    · subst hu ht
      rcases hold d l hv with rfl | ⟨hcon, rfl⟩
      · exact Or.inl rfl
      · exact Or.inr ⟨hcon, Or.inl rfl⟩
    · rcases hold d' l' hv' with rfl | ⟨hcon, rfl⟩
      · exact Or.inl rfl
      · exact Or.inr ⟨hcon, Or.inr rfl⟩
    · exact Or.inl rfl
  · rintro u t d l (hv | ⟨rfl, rfl, rfl, rfl⟩) t₀ p hlt ha
    · exact h.voted u t d l hv t₀ p hlt ha
    · rcases h.retained _ t₀ p ha with hp | ⟨S, hTS, hSU, hl, hp⟩
      · exact Or.inl hp
      · rcases Nat.lt_succ_iff_lt_or_eq.mp hSU with hlt' | rfl
        · exact Or.inr (Or.inl ⟨S, hTS, hlt', hl, hp⟩)
        · exact Or.inr (Or.inr hl)
  · intro t d hl
    obtain ⟨Q, hQ, hv⟩ := h.elected t d hl
    refine ⟨Q, hQ, fun u hu => ?_⟩
    obtain ⟨l, hl, hp⟩ := hv u hu
    exact ⟨l, Or.inl hl, hp⟩

theorem concede {v c : ν} (hl : g.leader (g.term v) = some c)
    (hne : c ≠ v) : Sound members (g.concede v) := by
  refine { h with
    vote_unique := ?_
    conceded_leader := ?_ }
  · intro u t d l d' l' hv hv'
    rcases h.vote_unique u t d l d' l' hv hv' with heq | ⟨hcon, hd⟩
    · exact Or.inl heq
    · exact Or.inr ⟨Or.inl hcon, hd⟩
  · rintro u t (hcon | ⟨rfl, rfl⟩)
    · exact h.conceded_leader u t hcon
    · exact ⟨le_rfl, c, hl, hne⟩

/-- Election safety : a candidate with a majority of the votes of a term it has not
conceded is the first leader of that term. -/
theorem leader_eq_none {c : ν} {T : ℕ} {Q : Finset ν}
    (hcon : ¬g.conceded c T) (hnew : g.leader T ≠ some c) (hQ : Quorum members Q)
    (hv : ∀ v ∈ Q, ∃ l, g.vote v T c l) : g.leader T = none := by
  by_contra hne
  obtain ⟨d, hd⟩ := Option.ne_none_iff_exists'.mp hne
  obtain ⟨Q', hQ', hv'⟩ := h.elected T d hd
  obtain ⟨v, hvQ, hvQ'⟩ := hQ.inter hQ'
  obtain ⟨l, hl⟩ := hv v hvQ
  obtain ⟨l', hl', -⟩ := hv' v hvQ'
  rcases h.vote_unique v T c l d l' hl hl' with rfl | ⟨hcv, rfl | rfl⟩
  · exact hnew hd
  · exact hcon hcv
  · obtain ⟨-, d', hd', hne'⟩ := h.conceded_leader _ T hcv
    exact hne' (Option.some_inj.mp (hd'.symm.trans hd))

theorem elect {c : ν} {Q : Finset ν}
    (hc : g.campaign c (g.term c) = some (g.log c)) (hcon : ¬g.conceded c (g.term c))
    (hnew : g.leader (g.term c) ≠ some c) (hQ : Quorum members Q)
    (hv : ∀ v ∈ Q, ∃ l, g.vote v (g.term c) c l) : Sound members (g.elect c) := by
  have hnone := h.leader_eq_none hcon hnew hQ hv
  have hchain := (h.le_elect hnone).chain
  have hleader := (h.le_elect hnone).leader
  have hlt : ∀ e ∈ g.log c, termOf e < g.term c := (h.campaign_le c _ _ hc).2
  have hacked : ∀ v T p, (g.elect c).Acked v T p → g.Acked v T p :=
    fun v T p ha => ⟨(point_of_elect hlt ha.1).1, ha.2⟩
  have hlost : ∀ T p U, g.Lost T p U → (g.elect c).Lost T p U := fun T p U hl => hl.elect hnone
  refine { h with
    bounded := ?_
    chain_eq_nil := ?_
    rooted_chain := ?_
    rooted_log := fun v => (h.rooted_log v).mono hchain
    rooted_vote := fun v T d l hd => (h.rooted_vote v T d l hd).mono hchain
    rooted_campaign := fun d T l hd => (h.rooted_campaign d T l hd).mono hchain
    leader_log := ?_
    leader_campaign := ?_
    conceded_leader := ?_
    ack_le := fun v T m ha =>
      ⟨(h.ack_le v T m ha).1, (h.ack_le v T m ha).2.trans (hchain T).length_le⟩
    leader_acked := ?_
    retained := ?_
    voted := ?_
    elected := ?_ }
  · intro T e he
    by_cases hT : T = g.term c
    · have hmem : e ∈ g.log c := by simpa [Ledger.elect, hT] using he
      exact hT ▸ (hlt e hmem).le
    · exact h.bounded T e (by simpa [Ledger.elect, hT] using he)
  · intro T hl
    by_cases hT : T = g.term c
    · simp [Ledger.elect, hT] at hl
    · simpa [Ledger.elect, hT] using h.chain_eq_nil T (by simpa [Ledger.elect, hT] using hl)
  · intro T
    by_cases hT : T = g.term c
    · have := (h.rooted_log c).mono hchain
      simpa [Ledger.elect, hT] using this
    · have := (h.rooted_chain T).mono hchain
      simpa [Ledger.elect, hT] using this
  · intro T d hl ht
    by_cases hT : T = g.term c
    · obtain rfl : c = d := by simpa [Ledger.elect, hT] using hl
      simp [Ledger.elect, hT]
    · have := h.leader_log T d (by simpa [Ledger.elect, hT] using hl) ht
      simpa [Ledger.elect, hT] using this
  · intro T d hl
    by_cases hT : T = g.term c
    · obtain rfl : c = d := by simpa [Ledger.elect, hT] using hl
      exact ⟨g.log c, by simpa [Ledger.elect, hT] using hc, by simp [Ledger.elect, hT]⟩
    · obtain ⟨b, hb, hbc⟩ := h.leader_campaign T d (by simpa [Ledger.elect, hT] using hl)
      exact ⟨b, hb, hbc.trans (hchain T)⟩
  · intro v T hcv
    obtain ⟨hle, d, hd, hne⟩ := h.conceded_leader v T hcv
    exact ⟨hle, d, hleader T d hd, hne⟩
  · intro T d p hl hp
    obtain ⟨hp', hT⟩ := point_of_elect hlt hp
    obtain ⟨-, hm⟩ := h.leader_acked T d p (by simpa [Ledger.elect, hT] using hl) hp'
    exact ⟨hp, hm⟩
  · intro v T p ha
    exact (h.retained v T p (hacked v T p ha)).imp id (hlost T p _)
  · intro v T' d l hvd T p hlt' ha
    rcases h.voted v T' d l hvd T p hlt' (hacked v T p ha) with hp | hp | hp
    · exact Or.inl hp
    · exact Or.inr (Or.inl (hlost T p _ hp))
    · exact Or.inr (Or.inr (elect_leader_ne_none c hp))
  · intro T' d hl
    by_cases hT : T' = g.term c
    · obtain rfl : c = d := by simpa [Ledger.elect, hT] using hl
      subst hT
      refine ⟨Q, hQ, fun v hvQ => ?_⟩
      obtain ⟨l, hvl⟩ := hv v hvQ
      refine ⟨l, hvl, fun T p hlt' ha => ?_⟩
      rcases h.voted v _ c l hvl T p hlt' (hacked v T p ha) with hp | hp | hp
      · exact Or.inl hp
      · exact Or.inr (hlost T p _ hp)
      · exact absurd hnone hp
    · obtain ⟨Q', hQ', hv'⟩ := h.elected T' d (by simpa [Ledger.elect, hT] using hl)
      refine ⟨Q', hQ', fun v hvQ => ?_⟩
      obtain ⟨l, hvl, hp⟩ := hv' v hvQ
      exact ⟨l, hvl, fun T p hlt' ha =>
        (hp T p hlt' (hacked v T p ha)).imp id (hlost T p _)⟩

theorem extend {c : ν} {e : ε} (hl : g.leader (g.term c) = some c)
    (he : termOf e = g.term c) : Sound members (g.extend c e) := by
  have hlog : g.log c = g.chain (g.term c) := h.leader_log _ c hl rfl
  have hchain := (le_extend g c e).chain
  have hgrow : ∀ v, g.log v <+: (g.extend c e).log v := by
    intro v
    by_cases hv : v = c
    · simp [Ledger.extend, hv]
    · simp [Ledger.extend, hv]
  refine { h with
    bounded := ?_
    chain_eq_nil := ?_
    rooted_chain := ?_
    rooted_log := ?_
    rooted_vote := fun v T d l hd => (h.rooted_vote v T d l hd).mono hchain
    rooted_campaign := fun d T l hd => (h.rooted_campaign d T l hd).mono hchain
    log_le := ?_
    leader_log := ?_
    leader_campaign := ?_
    ack_le := ?_
    leader_acked := ?_
    retained := ?_
    voted := ?_
    elected := ?_ }
  · intro T x hx
    by_cases hT : T = g.term c
    · subst hT
      have hx' : x ∈ g.chain (g.term c) ∨ x = e := by simpa [Ledger.extend] using hx
      rcases hx' with hx' | rfl
      · exact h.bounded _ x hx'
      · exact he.le
    · exact h.bounded T x (by simpa [Ledger.extend, hT] using hx)
  · intro T hT
    have hne : T ≠ g.term c := by
      rintro rfl
      simp [Ledger.extend, hl] at hT
    simpa [Ledger.extend, hne] using h.chain_eq_nil T hT
  · intro T
    have hT' := (h.rooted_chain T).mono hchain
    by_cases hT : T = g.term c
    · subst hT
      have := hT'.concat (e := e) (by simp [Ledger.extend, he])
      simpa [Ledger.extend] using this
    · simpa [Ledger.extend, hT] using hT'
  · intro v
    have hv' := (h.rooted_log v).mono hchain
    by_cases hv : v = c
    · subst hv
      have := hv'.concat (e := e) (by simp [Ledger.extend, he, hlog])
      simpa [Ledger.extend] using this
    · simpa [Ledger.extend, hv] using hv'
  · intro v x hx
    by_cases hv : v = c
    · subst hv
      have hx' : x ∈ g.log v ∨ x = e := by simpa [Ledger.extend] using hx
      rcases hx' with hx' | rfl
      · exact h.log_le v x hx'
      · exact he.le
    · exact h.log_le v x (by simpa [Ledger.extend, hv] using hx)
  · intro T d hd ht
    have hlog' := h.leader_log T d hd ht
    by_cases hT : T = g.term c
    · obtain rfl : d = c := Option.some_inj.mp (hd.symm.trans (hT ▸ hl))
      simpa [Ledger.extend, hT] using hlog'
    · have hdc : d ≠ c := by
        rintro rfl
        exact hT ht.symm
      simpa [Ledger.extend, hT, hdc] using hlog'
  · intro T d hd
    obtain ⟨b, hb, hbc⟩ := h.leader_campaign T d hd
    exact ⟨b, hb, hbc.trans (hchain T)⟩
  · rintro v T m (hm | ⟨rfl, rfl, rfl⟩)
    · exact ⟨(h.ack_le v T m hm).1, (h.ack_le v T m hm).2.trans (hchain T).length_le⟩
    · simp [Ledger.extend]
  · intro T d p hd hp
    refine ⟨hp, ?_⟩
    rcases point_of_extend hp with hp' | ⟨rfl, rfl⟩
    · obtain ⟨-, m, hm, hpm⟩ := h.leader_acked T d p hd hp'
      exact ⟨m, Or.inl hm, hpm⟩
    · obtain rfl : d = c := Option.some_inj.mp (hd.symm.trans hl)
      exact ⟨_, Or.inr ⟨rfl, rfl, rfl⟩, by simp⟩
  · intro v T p ha
    rcases h.acked_of_extend ha with ha' | ⟨rfl, rfl⟩
    · rcases h.retained v T p ha' with hp | hp
      · exact Or.inl (hp.trans (hgrow v))
      · exact Or.inr (hp.extend he ha'.1)
    · have := ha.1.1
      simp only [Ledger.extend, Function.update_self] at this ⊢
      exact Or.inl (hlog ▸ this)
  · intro v T' d l hv T p hlt ha
    rcases h.acked_of_extend ha with ha' | ⟨rfl, rfl⟩
    · rcases h.voted v T' d l hv T p hlt ha' with hp | hp | hp
      · exact Or.inl hp
      · exact Or.inr (Or.inl (hp.extend he ha'.1))
      · exact Or.inr (Or.inr hp)
    · exact absurd (h.vote_campaign v T' d l hv).1 (by omega)
  · intro T' d hd
    obtain ⟨Q, hQ, hv⟩ := h.elected T' d hd
    refine ⟨Q, hQ, fun v hvQ => ?_⟩
    obtain ⟨l, hvl, hp⟩ := hv v hvQ
    refine ⟨l, hvl, fun T p hlt ha => ?_⟩
    rcases h.acked_of_extend ha with ha' | ⟨rfl, rfl⟩
    · exact (hp T p hlt ha').imp id fun hlost => hlost.extend he ha'.1
    · exact absurd (h.vote_campaign v T' d l hvl).1 (by omega)

/-- A follower's new log keeps what it shared with the chain of its term and holds
nothing from elsewhere. -/
theorem replicate {v c : ν} {l : List ε} {k : ℕ} (hl : g.leader (g.term v) = some c) (hne : c ≠ v)
    (hkeep : ∀ p, p <+: g.log v → p <+: g.chain (g.term v) → p <+: l)
    (hsrc : l <+: g.log v ∨ l <+: g.chain (g.term v))
    (hk : k ≤ (g.chain (g.term v)).length) (hack : (g.chain (g.term v)).take k <+: l) :
    Sound members (g.replicate v l k) := by
  refine { h with
    rooted_log := ?_
    log_le := ?_
    leader_log := ?_
    ack_le := ?_
    leader_acked := ?_
    retained := ?_
    voted := ?_
    elected := ?_ }
  · intro u
    by_cases hu : u = v
    · subst hu
      have hr : Rooted g.chain l := by
        rcases hsrc with hs | hs
        · exact (h.rooted_log u).of_isPrefix hs
        · exact (h.rooted_chain _).of_isPrefix hs
      simpa [Ledger.replicate] using hr
    · simpa [Ledger.replicate, hu] using h.rooted_log u
  · intro u x hx
    by_cases hu : u = v
    · subst hu
      have hx' : x ∈ l := by simpa [Ledger.replicate] using hx
      rcases hsrc with hs | hs
      · exact h.log_le u x (hs.subset hx')
      · exact h.bounded _ x (hs.subset hx')
    · exact h.log_le u x (by simpa [Ledger.replicate, hu] using hx)
  · intro T d hd ht
    have hdv : d ≠ v := by
      rintro rfl
      have ht' : g.term d = T := ht
      exact hne (Option.some_inj.mp (hl.symm.trans (ht' ▸ hd)))
    simpa [Ledger.replicate, hdv] using h.leader_log T d hd ht
  · rintro u T m (hm | ⟨rfl, rfl, rfl⟩)
    · exact h.ack_le u T m hm
    · exact ⟨le_rfl, hk⟩
  · intro T d p hd hp
    obtain ⟨-, m, hm, hpm⟩ := h.leader_acked T d p hd hp
    exact ⟨hp, m, Or.inl hm, hpm⟩
  · intro u T p ha
    rcases acked_of_replicate hk hack ha with ha' | ⟨rfl, rfl, hp⟩
    · by_cases hu : u = v
      · subst hu
        rcases h.retained u T p ha' with hp | hp
        · by_cases hpc : p <+: g.chain (g.term u)
          · exact Or.inl (by simpa [Ledger.replicate] using hkeep p hp hpc)
          · have hlt : T < g.term u := by
              refine lt_of_le_of_ne (h.acked_le ha') ?_
              rintro rfl
              exact hpc ha'.1.1
            exact Or.inr ⟨g.term u, hlt, Nat.lt_succ_self _, by simp [Ledger.replicate, hl], hpc⟩
        · exact Or.inr hp
      · have hlog : (g.replicate v l k).log u = g.log u := by simp [Ledger.replicate, hu]
        exact (h.retained u T p ha').imp (fun hp => hlog ▸ hp) id
    · exact Or.inl (by simpa [Ledger.replicate] using hp)
  · intro u T' d l' hv T p hlt ha
    rcases acked_of_replicate hk hack ha with ha' | ⟨rfl, rfl, -⟩
    · exact h.voted u T' d l' hv T p hlt ha'
    · exact absurd (h.vote_campaign u T' d l' hv).1 (by omega)
  · intro T' d hd
    obtain ⟨Q, hQ, hv⟩ := h.elected T' d hd
    refine ⟨Q, hQ, fun u hu => ?_⟩
    obtain ⟨l', hvl, hp⟩ := hv u hu
    refine ⟨l', hvl, fun T p hlt ha => ?_⟩
    rcases acked_of_replicate hk hack ha with ha' | ⟨rfl, rfl, -⟩
    · exact hp T p hlt ha'
    · exact absurd (h.vote_campaign u T' d l' hvl).1 (by omega)

end

end Sound

theorem raise_self (v : ν) : g.raise v (g.term v) = g := by
  rw [Ledger.raise, Function.update_eq_self]

/-! ## Moves of one replica -/

/-- A sound ledger after operations of `v` only. -/
structure Move (members : Finset ν) (v : ν) (g g' : Ledger ν ε) : Prop where
  sound : Sound members g'
  le : g.Le g'
  term : ∀ u, u ≠ v → g'.term u = g.term u
  log : ∀ u, u ≠ v → g'.log u = g.log u
  vote : ∀ u, u ≠ v → ∀ T c l, g'.vote u T c l → g.vote u T c l
  conceded : ∀ u, u ≠ v → ∀ T, g'.conceded u T → g.conceded u T
  leader : ∀ u, u ≠ v → ∀ T, g'.leader T = some u → g.leader T = some u

section Move

variable {members : Finset ν} {g g' g'' : Ledger ν ε} {v : ν}

theorem Move.refl (h : Sound members g) : Move members v g g :=
  ⟨h, Le.refl g, fun _ _ => rfl, fun _ _ => rfl, fun _ _ _ _ _ h => h, fun _ _ _ h => h,
    fun _ _ _ h => h⟩

theorem Move.trans (h : Move members v g g') (h' : Move members v g' g'') :
    Move members v g g'' where
  sound := h'.sound
  le := h.le.trans h'.le
  term u hu := (h'.term u hu).trans (h.term u hu)
  log u hu := (h'.log u hu).trans (h.log u hu)
  vote u hu T c l hv := h.vote u hu T c l (h'.vote u hu T c l hv)
  conceded u hu T hc := h.conceded u hu T (h'.conceded u hu T hc)
  leader u hu T hl := h.leader u hu T (h'.leader u hu T hl)

theorem Sound.move_raise (h : Sound members g) {T : ℕ} (hT : g.term v ≤ T) :
    Move members v g (g.raise v T) :=
  { Move.refl h with
    sound := h.raise hT
    le := le_raise hT
    term := fun _ hu => Function.update_of_ne hu _ _ }

theorem Sound.move_run (h : Sound members g) {T : ℕ} (hT : g.term v < T) :
    Move members v g (g.run v T) :=
  { Move.refl h with
    sound := h.run hT
    le := h.le_run hT
    term := fun _ hu => Function.update_of_ne hu _ _
    vote := fun _ hu _ _ _ hv => hv.resolve_right fun hn => hu hn.1 }

theorem Sound.move_cast (h : Sound members g) {c : ν} {b : List ε}
    (hc : g.campaign c (g.term v) = some b) (hup : UpToDate b (g.log v))
    (hold : ∀ d l, g.vote v (g.term v) d l → d = c ∨ g.conceded v (g.term v) ∧ d = v) :
    Move members v g (g.cast v c) :=
  { Move.refl h with
    sound := h.cast hc hup hold
    le := le_cast g v c
    vote := fun _ hu _ _ _ hv => hv.resolve_right fun hn => hu hn.1 }

theorem Sound.move_concede (h : Sound members g) {c : ν} (hl : g.leader (g.term v) = some c)
    (hne : c ≠ v) : Move members v g (g.concede v) :=
  { Move.refl h with
    sound := h.concede hl hne
    le := le_concede g v
    conceded := fun _ hu _ hc => hc.resolve_right fun hn => hu hn.1 }

theorem Sound.move_elect (h : Sound members g) {Q : Finset ν}
    (hc : g.campaign v (g.term v) = some (g.log v)) (hcon : ¬g.conceded v (g.term v))
    (hnew : g.leader (g.term v) ≠ some v) (hQ : Quorum members Q)
    (hv : ∀ u ∈ Q, ∃ l, g.vote u (g.term v) v l) : Move members v g (g.elect v) :=
  { Move.refl h with
    sound := h.elect hc hcon hnew hQ hv
    le := h.le_elect (h.leader_eq_none hcon hnew hQ hv)
    leader := fun u hu T hl => by
      by_cases hT : T = g.term v
      · have : v = u := by simpa [Ledger.elect, hT] using hl
        exact absurd this.symm hu
      · simpa [Ledger.elect, hT] using hl }

theorem Sound.move_extend (h : Sound members g) {e : ε} (hl : g.leader (g.term v) = some v)
    (he : termOf e = g.term v) : Move members v g (g.extend v e) :=
  { Move.refl h with
    sound := h.extend hl he
    le := le_extend g v e
    log := fun _ hu => Function.update_of_ne hu _ _ }

theorem Sound.move_replicate (h : Sound members g) {c : ν} {l : List ε} {k : ℕ}
    (hl : g.leader (g.term v) = some c) (hne : c ≠ v)
    (hkeep : ∀ p, p <+: g.log v → p <+: g.chain (g.term v) → p <+: l)
    (hsrc : l <+: g.log v ∨ l <+: g.chain (g.term v))
    (hk : k ≤ (g.chain (g.term v)).length) (hack : (g.chain (g.term v)).take k <+: l) :
    Move members v g (g.replicate v l k) :=
  { Move.refl h with
    sound := h.replicate hl hne hkeep hsrc hk hack
    le := le_replicate g v l k
    log := fun _ hu => Function.update_of_ne hu _ _ }

end Move

/-! ## Acknowledged majorities -/

/-- A majority acknowledged the point `p` of term `T`. -/
def Committed (members : Finset ν) (g : Ledger ν ε) (T : ℕ) (p : List ε) : Prop :=
  Point g.chain T p ∧ ∃ Q, Quorum members Q ∧ ∀ v ∈ Q, g.Acked v T p

theorem Committed.mono {g g' : Ledger ν ε} {T : ℕ} {p : List ε}
    (hc : Committed members g T p) (h : g.Le g') : Committed members g' T p := by
  obtain ⟨⟨hp, hq⟩, Q, hQ, ha⟩ := hc
  exact ⟨⟨hp.trans (h.chain T), hq⟩, Q, hQ, fun v hv => (ha v hv).mono h⟩

namespace Sound

variable {members : Finset ν} {g : Ledger ν ε} {T T' : ℕ} {p p' : List ε}

/-- Leader completeness : the chain of every later leader holds a committed point. -/
theorem committed_prefix_chain (h : Sound members g) (hc : Committed members g T p) :
    ∀ T', T < T' → g.leader T' ≠ none → p <+: g.chain T' := by
  obtain ⟨hpt, Q, hQ, hacked⟩ := hc
  intro T'
  induction T' using Nat.strong_induction_on with
  | _ T' ih =>
    intro hlt hl
    obtain ⟨c, hc⟩ := Option.ne_none_iff_exists'.mp hl
    obtain ⟨Q', hQ', hvotes⟩ := h.elected T' c hc
    obtain ⟨v, hvQ, hvQ'⟩ := hQ.inter hQ'
    obtain ⟨l, hv, hkept⟩ := hvotes v hvQ'
    have hpl : p <+: l := by
      rcases hkept T p hlt (hacked v hvQ) with hp | ⟨S, hTS, hST, hS, hp⟩
      · exact hp
      · exact absurd (ih S hST hTS hS) hp
    obtain ⟨-, b, hb, hup⟩ := h.vote_campaign v T' c l hv
    obtain ⟨b', hb', hbc⟩ := h.leader_campaign T' c hc
    obtain rfl : b' = b := Option.some_inj.mp (hb'.symm.trans hb)
    refine List.IsPrefix.trans ?_ hbc
    refine hup.carries h.bounded (h.rooted_campaign c T' b' hb) (h.rooted_vote v T' c l hv) hpt hpl
      fun S hTS hSb hne => ih S ?_ hTS fun hS => hne (h.chain_eq_nil S hS)
    -- The candidate ran with entries of earlier terms only.
    rcases List.eq_nil_or_concat' b' with rfl | ⟨q, e, rfl⟩
    · simp at hSb
      omega
    · have := (h.campaign_le c T' _ hb).2 e (by simp)
      rw [lastTerm_concat] at hSb
      omega

/-- Committed points lie on one line. -/
theorem committed_comparable (h : Sound members g) (hc : Committed members g T p)
    (hc' : Committed members g T' p') : p <+: p' ∨ p' <+: p := by
  have key : ∀ {T T' p p'}, Committed members g T p → Committed members g T' p' → T ≤ T' →
      p <+: p' ∨ p' <+: p := by
    intro T T' p p' hc hc' hle
    have hp : p <+: g.chain T' := by
      rcases hle.lt_or_eq with hlt | rfl
      · refine h.committed_prefix_chain hc T' hlt fun hnone => hc'.1.ne_nil ?_
        simpa [h.chain_eq_nil T' hnone] using hc'.1.1
      · exact hc.1.1
    exact List.prefix_or_prefix_of_prefix hp hc'.1.1
  rcases Nat.le_total T T' with hle | hle
  · exact key hc hc' hle
  · exact (key hc' hc hle).symm

/-- Whoever acknowledged a committed point still holds it. -/
theorem committed_held (h : Sound members g) (hc : Committed members g T p) {v : ν}
    (hv : g.Acked v T p) : p <+: g.log v := by
  rcases h.retained v T p hv with hp | ⟨S, hTS, -, hS, hp⟩
  · exact hp
  · exact absurd (h.committed_prefix_chain hc S hTS hS) hp

end Sound

end Ledger

end BoostGateway
