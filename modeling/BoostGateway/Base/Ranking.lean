import Mathlib.Data.List.Pairwise
import Mathlib.Data.List.Sort

/-!
# Rankings

A ranking lists entries, each a score and a name, by falling score, and entries of one
score by an order of the names. `Before tie` is the order of the entries and
`Ranking tie` says that a list is one, with every name once.

Putting an entry in its place keeps a ranking (`Ranking.insert`), and the position of an
entry is the number of entries before it (`Ranking.findIdx?_eq`). Two rankings of the same
entries under two orders of the names begin alike as long as no score occurs twice
(`Ranking.take_eq`), and place an entry alike when as many names of its score come before
it in the one as in the other (`countP_before`).
-/

namespace BoostGateway

variable {α β : Type*} [LinearOrder β]

/-- A higher score comes first, then the names decide. -/
def Before (tie : α → α → Prop) (e f : β × α) : Prop := f.1 < e.1 ∨ e.1 = f.1 ∧ tie e.2 f.2

instance (tie : α → α → Prop) [DecidableRel tie] : DecidableRel (Before (β := β) tie) :=
  fun _ _ => inferInstanceAs (Decidable (_ ∨ _))

section Before

variable {tie : α → α → Prop} {e f g : β × α}

theorem Before.score_le (h : Before tie e f) : f.1 ≤ e.1 := by
  rcases h with h | ⟨h, -⟩
  · exact h.le
  · exact h.ge

variable [IsStrictTotalOrder α tie]

theorem not_before_self : ¬Before tie e e := by
  rintro (h | ⟨-, h⟩)
  · exact lt_irrefl _ h
  · exact irrefl e.2 h

theorem Before.trans (h : Before tie e f) (h' : Before tie f g) : Before tie e g := by
  rcases h with h | ⟨heq, h⟩ <;> rcases h' with h' | ⟨heq', h'⟩
  · exact .inl (h'.trans h)
  · exact .inl (heq' ▸ h)
  · exact .inl (heq ▸ h')
  · exact .inr ⟨heq.trans heq', IsTrans.trans _ _ _ h h'⟩

theorem Before.asymm (h : Before tie e f) : ¬Before tie f e := fun h' =>
  not_before_self (h.trans h')

theorem before_of_not_before (hne : e ≠ f) (h : ¬Before tie e f) : Before tie f e := by
  obtain ⟨h₁, h₂⟩ := not_or.mp h
  rcases (not_lt.mp h₁).lt_or_eq with hlt | heq
  · exact .inl hlt
  · rcases trichotomous_of tie e.2 f.2 with ht | ht | ht
    · exact absurd ⟨heq, ht⟩ h₂
    · exact absurd (Prod.ext heq ht) hne
    · exact .inr ⟨heq.symm, ht⟩

end Before

/-- The entries are in order, and no name occurs twice. -/
structure Ranking (tie : α → α → Prop) (l : List (β × α)) : Prop where
  ordered : l.Pairwise (Before tie)
  names : (l.map Prod.snd).Nodup

namespace Ranking

variable {tie : α → α → Prop} {l l' : List (β × α)}

theorem nil : Ranking tie ([] : List (β × α)) := ⟨.nil, List.nodup_nil⟩

theorem eq_of_name (h : Ranking tie l) {e f : β × α} (he : e ∈ l) (hf : f ∈ l)
    (heq : e.2 = f.2) : e = f :=
  List.inj_on_of_nodup_map h.names he hf heq

theorem filter (h : Ranking tie l) (p : β × α → Bool) : Ranking tie (l.filter p) :=
  ⟨h.ordered.filter p, (List.filter_sublist.map Prod.snd).nodup h.names⟩

variable [IsStrictTotalOrder α tie]

theorem pairwise_orderedInsert [DecidableRel tie] {e : β × α} (hl : l.Pairwise (Before tie))
    (he : e ∉ l) : (l.orderedInsert (Before tie) e).Pairwise (Before tie) := by
  induction l with
  | nil => simp
  | cons f l ih =>
    obtain ⟨hf, hl'⟩ := List.pairwise_cons.mp hl
    obtain ⟨hne, hmem⟩ := not_or.mp (List.mem_cons.not.mp he)
    rw [List.orderedInsert_cons]
    split_ifs with hef
    · refine List.pairwise_cons.mpr ⟨fun x hx => ?_, hl⟩
      rcases List.mem_cons.mp hx with rfl | hx
      · exact hef
      · exact hef.trans (hf x hx)
    · refine List.pairwise_cons.mpr ⟨fun x hx => ?_, ih hl' hmem⟩
      rcases (List.mem_orderedInsert _).mp hx with rfl | hx
      · exact before_of_not_before hne hef
      · exact hf x hx

/-- Putting an entry of a new name in its place. -/
theorem insert [DecidableRel tie] (h : Ranking tie l) {e : β × α} (he : ∀ f ∈ l, f.2 ≠ e.2) :
    Ranking tie (l.orderedInsert (Before tie) e) := by
  refine ⟨pairwise_orderedInsert h.ordered fun hmem => he e hmem rfl, ?_⟩
  rw [((List.perm_orderedInsert _ e l).map Prod.snd).nodup_iff, List.map_cons, List.nodup_cons]
  refine ⟨fun hmem => ?_, h.names⟩
  obtain ⟨f, hf, heq⟩ := List.mem_map.mp hmem
  exact he f hf heq

/-- An entry stands behind the entries before it. -/
theorem findIdx?_eq [DecidableRel tie] [DecidableEq α] (h : Ranking tie l) {e : β × α}
    (he : e ∈ l) :
    l.findIdx? (fun f => f.2 = e.2) = some (l.countP fun f => Before tie f e) := by
  obtain ⟨l₁, l₂, rfl⟩ := List.append_of_mem he
  obtain ⟨-, hcons, hcross⟩ := List.pairwise_append.mp h.ordered
  have hbefore : ∀ f ∈ l₁, Before tie f e := fun f hf => hcross f hf e (by simp)
  have hafter : ∀ f ∈ l₂, ¬Before tie f e :=
    fun f hf => ((List.pairwise_cons.mp hcons).1 f hf).asymm
  have hname : ∀ f ∈ l₁, f.2 ≠ e.2 := by
    intro f hf heq
    have hfe : f = e := h.eq_of_name (by simp [hf]) he heq
    exact not_before_self (hfe ▸ hbefore f hf)
  have hcount : (l₁ ++ e :: l₂).countP (fun f => Before tie f e) = l₁.length := by
    rw [List.countP_append, List.countP_cons_of_neg (by simpa using not_before_self),
      List.countP_eq_length.mpr (by simpa using hbefore),
      List.countP_eq_zero.mpr (by simpa using hafter), Nat.add_zero]
  rw [hcount, List.findIdx?_append, List.findIdx?_eq_none_iff.mpr (by simpa using hname)]
  simp [List.findIdx?_cons]

end Ranking

/-- Two orders of the names list the same entries alike as far as no score occurs twice. -/
theorem Ranking.take_eq {tie tie' : α → α → Prop} [IsStrictTotalOrder α tie]
    [IsStrictTotalOrder α tie'] {l l' : List (β × α)} (h : l.Pairwise (Before tie))
    (h' : l'.Pairwise (Before tie')) (hp : l.Perm l') {k : ℕ}
    (hk : ∀ e ∈ l.take k, ∀ f ∈ l, f.1 = e.1 → f = e) : l.take k = l'.take k := by
  induction k generalizing l l' with
  | zero => simp
  | succ k ih =>
    match l, l' with
    | [], l' => rw [hp.nil_eq]
    | e :: l, [] => exact absurd hp.eq_nil (by simp)
    | e :: l, e' :: l' =>
      obtain ⟨he, hl⟩ := List.pairwise_cons.mp h
      obtain ⟨he', hl'⟩ := List.pairwise_cons.mp h'
      -- both lists begin with the highest score
      have hmem : e' ∈ e :: l := hp.mem_iff.mpr (by simp)
      have hmem' : e ∈ e' :: l' := hp.mem_iff.mp (by simp)
      have hle : e'.1 ≤ e.1 := by
        rcases List.mem_cons.mp hmem with rfl | hm
        · exact le_rfl
        · exact (he e' hm).score_le
      have hge : e.1 ≤ e'.1 := by
        rcases List.mem_cons.mp hmem' with heq | hm
        · exact heq ▸ le_rfl
        · exact (he' e hm).score_le
      obtain rfl : e' = e := hk e (by simp) e' hmem (le_antisymm hle hge)
      rw [List.take_succ_cons, List.take_succ_cons, ih hl hl' hp.cons_inv]
      intro f hf g hg
      exact hk f (by simp [hf]) g (List.mem_cons_of_mem _ hg)

/-- The entries before one have a higher score, or the same and an earlier name. -/
theorem countP_before {tie : α → α → Prop} [DecidableRel tie] (l : List (β × α)) (e : β × α) :
    l.countP (fun f => Before tie f e) =
      l.countP (fun f => e.1 < f.1) + l.countP fun f => f.1 = e.1 ∧ tie f.2 e.2 := by
  induction l with
  | nil => rfl
  | cons f l ih =>
    by_cases h₁ : e.1 < f.1
    · have h₂ : ¬(f.1 = e.1 ∧ tie f.2 e.2) := fun h₂ => lt_irrefl _ (h₂.1 ▸ h₁)
      have hb : Before tie f e := .inl h₁
      simp only [List.countP_cons, ih, h₁, h₂, hb, decide_true, decide_false, if_true]
      simp
      omega
    · by_cases h₂ : f.1 = e.1 ∧ tie f.2 e.2
      · have hb : Before tie f e := .inr h₂
        simp only [List.countP_cons, ih, h₂, hb, decide_true, if_true]
        simp
        omega
      · have hb : ¬Before tie f e := not_or.mpr ⟨h₁, h₂⟩
        simp only [List.countP_cons, ih, h₁, h₂, hb, decide_false]
        simp

end BoostGateway
