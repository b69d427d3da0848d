import Mathlib.Data.Finset.Card
import Mathlib.Data.List.Infix

/-!
# Logs whose entries carry a term

A replicated log is a list of entries, each stamped with the term of the leader
that created it. Everything a leader appends in one term forms one list, the
`chain` of that term. A log is `Rooted` in the chains when each of its prefixes is
a prefix of the chain of the term the prefix ends in. Two rooted logs that hold an
entry of the same term at the same position agree up to it (`Rooted.agree`), and
the terms along a rooted log never fall (`Rooted.termOf_le_lastTerm`).

A `Point` of term `T` is a prefix of the chain of `T` that ends in an entry of `T`.
`UpToDate.carries` is the comparison of last entries in an election : a log at
least as up to date as one that holds a point also holds it, provided the chains
of the terms in between hold it.
-/

set_option linter.unusedSectionVars false

namespace BoostGateway

/-- Entries stamped with a term. -/
class Termed (ε : Type*) where
  /-- The term of an entry. -/
  termOf : ε → ℕ

export Termed (termOf)

/-- `Q` is a strict majority of `members`. -/
def Quorum {ν : Type*} (members Q : Finset ν) : Prop :=
  Q ⊆ members ∧ members.card < 2 * Q.card

/-- Two majorities share a member. -/
theorem Quorum.inter {ν : Type*} [DecidableEq ν] {members Q Q' : Finset ν}
    (h : Quorum members Q) (h' : Quorum members Q') : ∃ v, v ∈ Q ∧ v ∈ Q' := by
  by_contra hne
  have hd : Disjoint Q Q' := by
    rw [Finset.disjoint_left]
    intro v hv hv'
    exact hne ⟨v, hv, hv'⟩
  have hcard : (Q ∪ Q').card ≤ members.card :=
    Finset.card_le_card (Finset.union_subset h.1 h'.1)
  rw [Finset.card_union_of_disjoint hd] at hcard
  have := h.2
  have := h'.2
  omega

namespace TermLog

variable {ε : Type*} [Termed ε]

/-- The term of the last entry, `0` for the empty log. -/
def lastTerm (l : List ε) : ℕ := (l.getLast?.map termOf).getD 0

@[simp] theorem lastTerm_nil : lastTerm ([] : List ε) = 0 := rfl

@[simp] theorem lastTerm_concat (l : List ε) (e : ε) : lastTerm (l ++ [e]) = termOf e := by
  simp [lastTerm]

/-- The log `c` is at least as up to date as `v`. -/
def UpToDate (c v : List ε) : Prop :=
  lastTerm v < lastTerm c ∨ lastTerm v = lastTerm c ∧ v.length ≤ c.length

theorem UpToDate.refl (l : List ε) : UpToDate l l := Or.inr ⟨rfl, le_rfl⟩

/-- Each prefix of `l` is a prefix of the chain of the term it ends in. -/
def Rooted (chain : ℕ → List ε) (l : List ε) : Prop :=
  ∀ p e, p ++ [e] <+: l → p ++ [e] <+: chain (termOf e)

/-- The chain of a term holds no entry of a later term. -/
def Bounded (chain : ℕ → List ε) : Prop :=
  ∀ T, ∀ e ∈ chain T, termOf e ≤ T

variable {chain chain' : ℕ → List ε} {l l' p : List ε}

theorem rooted_nil : Rooted chain ([] : List ε) := by
  intro p e h
  simp at h

theorem Rooted.of_isPrefix (h : Rooted chain l) (hp : l' <+: l) : Rooted chain l' :=
  fun p e hpe => h p e (hpe.trans hp)

theorem Rooted.mono (h : Rooted chain l) (hc : ∀ T, chain T <+: chain' T) : Rooted chain' l :=
  fun p e hpe => (h p e hpe).trans (hc _)

/-- A log that ends in an entry of term `T` is a prefix of the chain of `T`. -/
theorem Rooted.prefix_chain (h : Rooted chain l) (hl : l ≠ []) : l <+: chain (lastTerm l) := by
  obtain ⟨q, e, rfl⟩ := List.eq_nil_or_concat' l |>.resolve_left hl
  rw [lastTerm_concat]
  exact h q e (List.prefix_refl _)

/-- Two rooted logs with an entry of one term at one position agree up to it. -/
theorem Rooted.agree (h : Rooted chain l) (h' : Rooted chain l') {q q' : List ε} {e e' : ε}
    (hq : q ++ [e] <+: l) (hq' : q' ++ [e'] <+: l') (hlen : q.length = q'.length)
    (ht : termOf e = termOf e') : q ++ [e] = q' ++ [e'] := by
  have h1 := h q e hq
  have h2 := h' q' e' hq'
  rw [ht] at h1
  exact (List.prefix_of_prefix_length_le h1 h2 (by simp [hlen])).eq_of_length (by simp [hlen])

/-- Appending to a chain keeps it rooted in itself. -/
theorem Rooted.concat (h : Rooted chain l) {e : ε} (hc : l ++ [e] <+: chain (termOf e)) :
    Rooted chain (l ++ [e]) := by
  intro p e' hp
  rcases List.prefix_concat_iff.mp hp with heq | hp'
  · obtain ⟨rfl, he⟩ := List.append_inj' heq rfl
    obtain rfl : e' = e := by simpa using he
    exact hc
  · exact h p e' hp'

/-- No entry of a rooted log has a later term than the last one. -/
theorem Rooted.termOf_le_lastTerm (h : Rooted chain l) (hb : Bounded chain) {e : ε}
    (he : e ∈ l) : termOf e ≤ lastTerm l :=
  hb _ e ((h.prefix_chain (List.ne_nil_of_mem he)).subset he)

/-- A prefix of the chain of `T` that ends in an entry of `T`. -/
def Point (chain : ℕ → List ε) (T : ℕ) (p : List ε) : Prop :=
  p <+: chain T ∧ ∃ q e, p = q ++ [e] ∧ termOf e = T

theorem Point.lastTerm {T : ℕ} (h : Point chain T p) : lastTerm p = T := by
  obtain ⟨-, q, e, rfl, rfl⟩ := h
  simp

theorem Point.ne_nil {T : ℕ} (h : Point chain T p) : p ≠ [] := by
  obtain ⟨-, q, e, rfl, -⟩ := h
  simp

/-- An entry of another term does not complete a point. -/
theorem Point.not_prefix_concat {T : ℕ} (h : Point chain T p) (hp : ¬p <+: l) {e : ε}
    (he : termOf e ≠ T) : ¬p <+: l ++ [e] := by
  intro hpe
  rcases List.prefix_concat_iff.mp hpe with heq | hpe'
  · have := h.lastTerm
    rw [heq, lastTerm_concat] at this
    exact he this
  · exact hp hpe'

/-- A log at least as up to date as one holding a point holds it too, if the chains
of the later terms up to its own last one do. -/
theorem UpToDate.carries {c v : List ε} {T : ℕ} (hb : Bounded chain) (hc : Rooted chain c)
    (hv : Rooted chain v) (hu : UpToDate c v) (hp : Point chain T p) (hpv : p <+: v)
    (hlater : ∀ S, T < S → S ≤ TermLog.lastTerm c → chain S ≠ [] → p <+: chain S) : p <+: c := by
  have hvne : v ≠ [] := fun h => hp.ne_nil (by simpa [h] using hpv)
  have hTv : T ≤ TermLog.lastTerm v := by
    obtain ⟨-, q, e, rfl, rfl⟩ := hp
    exact hv.termOf_le_lastTerm hb (hpv.subset (by simp))
  rcases hu with hlt | ⟨heq, hlen⟩
  · have hcne : c ≠ [] := by
      rintro rfl
      simp at hlt
    have hcc := hc.prefix_chain hcne
    have hpc := hlater (TermLog.lastTerm c) (by omega) le_rfl
      (fun h => hcne (by simpa [h] using hcc))
    rcases List.prefix_or_prefix_of_prefix hpc hcc with h | h
    · exact h
    · exfalso
      obtain ⟨q, e, rfl⟩ := List.eq_nil_or_concat' c |>.resolve_left hcne
      have he : termOf e ≤ T := hb T e (hp.1.subset (h.subset (by simp)))
      rw [lastTerm_concat] at hlt
      omega
  · have hcne : c ≠ [] := by
      rintro rfl
      exact hvne (by simpa using hlen)
    have h1 := hv.prefix_chain hvne
    have h2 := hc.prefix_chain hcne
    rw [heq] at h1
    exact hpv.trans (List.prefix_of_prefix_length_le h1 h2 hlen)

/-! ## Splicing a piece of a chain into a log -/

/-- Cutting a log before an entry of another term than the chain's keeps what they share. -/
theorem prefix_take_of_conflict {c q : List ε} {i : ℕ} {e : ε} (he : l[i]? = some e)
    (hq : q <+: c) (hlen : q.length = i + 1) (hne : termOf e ≠ TermLog.lastTerm q)
    (hpl : p <+: l) (hpc : p <+: c) : p <+: l.take i := by
  have hle : p.length ≤ i := by
    by_contra hlt
    have hql : q <+: l := (List.prefix_of_prefix_length_le hq hpc (by omega)).trans hpl
    obtain ⟨q', x, rfl⟩ := List.eq_nil_or_concat' q |>.resolve_left (by rintro rfl; simp at hlen)
    obtain rfl : q'.length = i := by simpa using hlen
    have hx : l[q'.length]? = some x := by
      simpa using List.prefix_iff_getElem?.mp hql q'.length (by simp)
    obtain rfl : x = e := Option.some_inj.mp (hx.symm.trans he)
    exact hne (lastTerm_concat q' x).symm
  exact List.prefix_take_iff.mpr ⟨hpl, hle⟩

/-- Replacing everything after the splice point by the entries, unless they are there. -/
def splice [DecidableEq ε] (l : List ε) (i : ℕ) (es : List ε) : List ε :=
  if es <+: l.drop i then l else l.take i ++ es

variable [DecidableEq ε] {c es : List ε} {i : ℕ}

/-- The spliced entries are in the log. -/
theorem take_append_prefix_splice : l.take i ++ es <+: splice l i es := by
  unfold splice
  split_ifs with h
  · conv_rhs => rw [← List.take_append_drop i l]
    exact (List.prefix_append_right_inj _).mpr h
  · exact List.prefix_refl _

/-- A splice from a chain keeps what the log shares with the chain. -/
theorem prefix_splice (hc : l.take i ++ es <+: c) (hpl : p <+: l) (hpc : p <+: c) :
    p <+: splice l i es := by
  unfold splice
  split_ifs with h
  · exact hpl
  · rcases List.prefix_or_prefix_of_prefix hpc hc with hp | hp
    · exact hp
    · refine absurd ?_ h
      have hl : l.take i ++ es <+: l.take i ++ l.drop i := by
        rw [List.take_append_drop]
        exact hp.trans hpl
      exact (List.prefix_append_right_inj _).mp hl

/-- A splice from a chain holds nothing from elsewhere. -/
theorem splice_from (hc : l.take i ++ es <+: c) :
    splice l i es <+: l ∨ splice l i es <+: c := by
  unfold splice
  split_ifs
  · exact Or.inl (List.prefix_refl _)
  · exact Or.inr hc

end TermLog

end BoostGateway
