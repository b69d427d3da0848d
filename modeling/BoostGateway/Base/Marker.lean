import Mathlib.Data.List.Infix

/-!
# Texts cut at a marker

`cut m cs` : what stands before and after the first occurrence of `m`, as a reader takes a
text apart with `find` and `substr`. A writer puts `m` between two parts without escaping
it. For a marker whose first letter does not occur in it again (`IsMarker`) the reader gets
the two parts back exactly when the first one does not contain it (`cut_append_eq_iff`).
-/

namespace BoostGateway

variable {α : Type*} {m a b cs : List α}

/-- The first letter of the marker does not occur in it again. -/
def IsMarker : List α → Prop
  | [] => False
  | c :: m => c ∉ m

theorem IsMarker.ne_nil (hm : IsMarker m) : m ≠ [] := by
  rintro rfl
  exact hm

/-- Two occurrences of a marker do not overlap. -/
theorem IsMarker.not_prefix_append (hm : IsMarker m) (ha : a ≠ []) (h : ¬m <+: a) :
    ¬m <+: a ++ m ++ b := by
  intro hp
  have hap : a <+: a ++ m ++ b := ⟨m ++ b, by simp⟩
  rcases List.prefix_or_prefix_of_prefix hp hap with hma | ⟨t, ht⟩
  · exact h hma
  · cases m with
    | nil => exact hm
    | cons c m =>
      cases a with
      | nil => exact ha rfl
      | cons x a =>
        obtain ⟨rfl, rfl⟩ : x = c ∧ a ++ t = m := by simpa using ht
        -- The rest of the marker would begin with its first letter.
        cases t with
        | nil => exact h ⟨[], by simp⟩
        | cons y t =>
          have hy : y = x := by
            obtain ⟨u, hu⟩ := hp
            simp only [List.cons_append, List.append_assoc, List.cons.injEq, true_and,
              List.append_cancel_left_eq] at hu
            exact hu.1
          exact hm (by simp [hy])

/-- A marker that begins with `c` is not found over letters other than `c`. -/
theorem infix_append_iff {c : α} (ha : c ∉ a) : c :: m <:+: a ++ b ↔ c :: m <:+: b := by
  constructor
  · intro h
    induction a with
    | nil => exact h
    | cons x a ih =>
      obtain ⟨hx, ha⟩ := not_or.mp (mt List.mem_cons.mpr ha)
      rcases List.infix_cons_iff.mp h with hp | hi
      · exact absurd (List.cons_prefix_cons.mp hp).1 hx
      · exact ih ha hi
  · exact fun h => h.trans (List.suffix_append a b).isInfix

variable [DecidableEq α]

def cut (m : List α) : List α → Option (List α × List α)
  | [] => if m <+: [] then some ([], []) else none
  | c :: cs =>
    if m <+: c :: cs then some ([], (c :: cs).drop m.length)
    else (cut m cs).map fun parts => (c :: parts.1, parts.2)

theorem cut_of_prefix (h : m <+: cs) : cut m cs = some ([], cs.drop m.length) := by
  cases cs with
  | nil => rw [cut, if_pos h, List.drop_nil]
  | cons c cs => rw [cut, if_pos h]

theorem cut_append (hm : IsMarker m) (h : ¬m <:+: a) : cut m (a ++ m ++ b) = some (a, b) := by
  induction a with
  | nil => rw [List.nil_append, cut_of_prefix (List.prefix_append m b), List.drop_left]
  | cons c a ih =>
    have hprefix : ¬m <+: c :: a ++ m ++ b :=
      hm.not_prefix_append (by simp) fun hp => h hp.isInfix
    rw [List.cons_append, List.cons_append] at hprefix ⊢
    rw [cut, if_neg hprefix, ih fun hi => h (hi.trans (List.suffix_cons c a).isInfix)]
    rfl

/-- An occurrence in the first part comes first. -/
theorem cut_append_of_infix (hm : m ≠ []) (h : m <:+: a) (b : List α) :
    ∃ x y, cut m (a ++ b) = some (x, y) ∧ x.length < a.length := by
  induction a with
  | nil => exact absurd (List.eq_nil_of_infix_nil h) hm
  | cons c a ih =>
    by_cases hp : m <+: c :: (a ++ b)
    · exact ⟨[], _, cut_of_prefix hp, by simp⟩
    · have hi : m <:+: a := by
        rcases List.infix_cons_iff.mp h with hpa | hi
        · exact absurd (hpa.trans (List.prefix_append (c :: a) b)) hp
        · exact hi
      obtain ⟨x, y, hcut, hlt⟩ := ih hi
      refine ⟨c :: x, y, ?_, by simpa using hlt⟩
      rw [List.cons_append, cut, if_neg hp, hcut]
      rfl

theorem append_of_cut (h : cut m cs = some (a, b)) : a ++ m ++ b = cs := by
  induction cs generalizing a with
  | nil =>
    rw [cut] at h
    split_ifs at h with hp
    obtain ⟨rfl, rfl⟩ : [] = a ∧ [] = b := by simpa using h
    simp [List.eq_nil_of_prefix_nil hp]
  | cons c cs ih =>
    rw [cut] at h
    split_ifs at h with hp
    · obtain ⟨rfl, rfl⟩ : [] = a ∧ (c :: cs).drop m.length = b := by simpa using h
      exact List.prefix_iff_eq_append.mp hp
    · obtain ⟨parts, hcut, heq⟩ := Option.map_eq_some_iff.mp h
      obtain ⟨rfl, rfl⟩ : c :: parts.1 = a ∧ parts.2 = b := by simpa using heq
      rw [List.cons_append, List.cons_append, ih hcut]

theorem cut_eq_none_iff (hm : m ≠ []) : cut m cs = none ↔ ¬m <:+: cs := by
  constructor
  · intro h hi
    obtain ⟨x, y, hcut, -⟩ := cut_append_of_infix hm hi []
    rw [List.append_nil, h] at hcut
    cases hcut
  · intro h
    cases hcut : cut m cs with
    | none => rfl
    | some parts => exact absurd ⟨parts.1, parts.2, append_of_cut hcut⟩ h

/-- The occurrence is the first one. -/
theorem not_infix_of_cut (hm : m ≠ []) (h : cut m cs = some (a, b)) : ¬m <:+: a := by
  intro hi
  obtain ⟨x, y, hcut, hlt⟩ := cut_append_of_infix hm hi (m ++ b)
  rw [← List.append_assoc, append_of_cut h, h] at hcut
  obtain ⟨rfl, -⟩ : a = x ∧ b = y := by simpa using hcut
  exact lt_irrefl _ hlt

/-- The two parts are read back when the first one does not contain the marker. -/
theorem cut_append_eq_iff (hm : IsMarker m) :
    (cut m (a ++ m ++ b)).map Prod.fst = some a ↔ ¬m <:+: a := by
  constructor
  · intro h hi
    obtain ⟨x, y, hcut, hlt⟩ := cut_append_of_infix hm.ne_nil hi (m ++ b)
    rw [List.append_assoc, hcut] at h
    simp only [Option.map_some, Option.some.injEq] at h
    rw [h] at hlt
    exact lt_irrefl _ hlt
  · intro h
    rw [cut_append hm h]
    rfl

end BoostGateway
