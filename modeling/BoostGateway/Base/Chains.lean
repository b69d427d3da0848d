import Mathlib.Data.Fintype.Card
import Mathlib.Logic.Relation

/-!
# Chains of a relation

`HasChain r k a` says that `a` begins `k` steps of `r` one after the other. An element from
which there are chains of every length, of a relation with finitely many elements that have a
step, comes to a cycle (`exists_onCycle`), and an element on a cycle has them
(`OnCycle.hasChain`).
-/

namespace BoostGateway

open Relation

variable {α : Type*} {r : α → α → Prop} {a : α} {k l : ℕ}

def HasChain (r : α → α → Prop) : ℕ → α → Prop
  | 0, _ => True
  | k + 1, a => ∃ b, r a b ∧ HasChain r k b

def OnCycle (r : α → α → Prop) (a : α) : Prop := TransGen r a a

theorem HasChain.of_succ (h : HasChain r (k + 1) a) : HasChain r k a := by
  induction k generalizing a with
  | zero => trivial
  | succ k ih =>
    obtain ⟨b, hab, hb⟩ := h
    exact ⟨b, hab, ih hb⟩

theorem HasChain.of_le (h : HasChain r l a) (hle : k ≤ l) : HasChain r k a := by
  induction hle with
  | refl => exact h
  | step _ ih => exact ih h.of_succ

/-- Where chains of one length can be made longer, so can longer ones. -/
theorem HasChain.of_forall_succ {s : α → Prop} (hs : ∀ a b, r a b → s b)
    (hlonger : ∀ b, s b → HasChain r k b → HasChain r (k + 1) b) (ha : s a)
    (h : HasChain r k a) (l : ℕ) : HasChain r l a := by
  have hall : ∀ n b, s b → HasChain r (k + n) b → HasChain r (k + n + 1) b := by
    intro n
    induction n with
    | zero => exact hlonger
    | succ n ih =>
      rintro b - ⟨c, hbc, hc⟩
      exact ⟨c, hbc, ih c (hs b c hbc) hc⟩
  have hlong : ∀ n, HasChain r (k + n) a := by
    intro n
    induction n with
    | zero => exact h
    | succ n ih => exact hall n a ha ih
  exact (hlong l).of_le (Nat.le_add_left l k)

/-- From an element there are chains of every length, or there is a longest one. -/
theorem forall_hasChain_or_exists (r : α → α → Prop) (a : α) :
    (∀ k, HasChain r k a) ∨ ∃ k, HasChain r k a ∧ ¬HasChain r (k + 1) a := by
  by_contra! hnot
  obtain ⟨⟨k, hk⟩, hlonger⟩ := hnot
  have hall : ∀ l, HasChain r l a := by
    intro l
    induction l with
    | zero => trivial
    | succ l ih => exact hlonger l ih
  exact hk (hall k)

theorem HasChain.le_of_not (h : HasChain r k a) (hl : ¬HasChain r (l + 1) a) : k ≤ l := by
  by_contra! hlt
  exact hl (h.of_le hlt)

/-- The next element of a cycle is on it. -/
theorem OnCycle.exists_step (h : OnCycle r a) : ∃ b, r a b ∧ OnCycle r b := by
  obtain ⟨b, hab, hba⟩ := TransGen.head'_iff.mp h
  exact ⟨b, hab, TransGen.tail' hba hab⟩

theorem OnCycle.hasChain (h : OnCycle r a) (k : ℕ) : HasChain r k a := by
  induction k generalizing a with
  | zero => trivial
  | succ k ih =>
    obtain ⟨b, hab, hb⟩ := h.exists_step
    exact ⟨b, hab, ih hb⟩

/-- The elements of a chain. -/
theorem HasChain.exists_path (h : HasChain r k a) :
    ∃ path : ℕ → α, path 0 = a ∧ ∀ m < k, r (path m) (path (m + 1)) := by
  induction k generalizing a with
  | zero => exact ⟨fun _ => a, rfl, fun m hm => absurd hm (Nat.not_lt_zero m)⟩
  | succ k ih =>
    obtain ⟨b, hab, hb⟩ := h
    obtain ⟨path, rfl, hpath⟩ := ih hb
    refine ⟨fun m => m.casesOn a path, rfl, fun m hm => ?_⟩
    cases m with
    | zero => exact hab
    | succ m => exact hpath m (Nat.lt_of_succ_lt_succ hm)

theorem reflTransGen_path {path : ℕ → α} (hpath : ∀ m < k, r (path m) (path (m + 1)))
    {i j : ℕ} (hij : i ≤ j) (hj : j ≤ k) : ReflTransGen r (path i) (path j) := by
  induction hij with
  | refl => exact .refl
  | step hle ih => exact (ih (Nat.le_of_succ_le hj)).tail (hpath _ hj)

/-- A chain longer than there are elements comes to a cycle. -/
theorem HasChain.exists_onCycle {s : Finset α} (hs : ∀ a b, r a b → a ∈ s)
    (h : HasChain r (s.card + 1) a) : ∃ c, OnCycle r c ∧ ReflTransGen r a c := by
  obtain ⟨path, rfl, hpath⟩ := h.exists_path
  have hcard : s.card < (Finset.range (s.card + 1)).card := by
    rw [Finset.card_range]
    exact Nat.lt_succ_self _
  obtain ⟨i, hi, j, hj, hne, heq⟩ :=
    Finset.exists_ne_map_eq_of_card_lt_of_maps_to (f := path) hcard
      fun m hm => hs _ _ (hpath m (Finset.mem_range.mp hm))
  have hcycle : ∀ i j, i < j → j ∈ Finset.range (s.card + 1) → path i = path j →
      OnCycle r (path i) := by
    intro i j hij hj heq
    have hj := Finset.mem_range.mp hj
    have hrest := reflTransGen_path hpath hij hj.le
    rw [← heq] at hrest
    exact .head' (hpath i (hij.trans hj)) hrest
  have hreach := reflTransGen_path hpath (Nat.zero_le i) (Finset.mem_range.mp hi).le
  obtain hlt | hlt := lt_or_gt_of_ne hne
  · exact ⟨path i, hcycle i j hlt hj heq, hreach⟩
  · refine ⟨path i, ?_, hreach⟩
    rw [heq]
    exact hcycle j i hlt hi heq.symm

/-- If what steps to a cycle is on a cycle, then so is all that has chains of every length. -/
theorem onCycle_of_forall_hasChain {s : Finset α} (hs : ∀ a b, r a b → a ∈ s)
    (hback : ∀ a b, r a b → OnCycle r b → OnCycle r a) (h : ∀ k, HasChain r k a) :
    OnCycle r a := by
  obtain ⟨c, hc, hac⟩ := (h (s.card + 1)).exists_onCycle hs
  clear h
  induction hac using ReflTransGen.head_induction_on with
  | refl => exact hc
  | head hab _ ih => exact hback _ _ hab ih

end BoostGateway
