import Mathlib.Data.List.Nodup
import Mathlib.Data.List.TakeWhile
import Mathlib.Data.Prod.Lex
import Mathlib.Order.BooleanAlgebra.Basic
import Mathlib.Order.Basic

/-!
# Owned points on a circle

A finite map from points to owners, listed by increasing point and read as a circle :
`rotation h` goes round it once from the first point that is not below `h`, and
`successor h` is the point it begins with.

The order of the points as seen from `h` is the linear order of `around h`, with the
points below `h` behind the others (`pairwise_rotation`). The successor is the least
point of that order (`successor_eq_some_iff`), so giving some points to an owner moves
successors to that owner only (`successor_insertAll`), and taking points away moves only
the successors that were taken (`successor_eraseAll`).
-/

namespace BoostGateway

/-- Points on a circle, each with its owner. -/
structure Circle (α β : Type*) [LinearOrder α] where
  entries : List (α × β) := []
  ordered : entries.Pairwise fun e f => e.1 < f.1 := by exact List.Pairwise.nil

namespace Circle

variable {α β : Type*} [LinearOrder α]

/-! ## Points and their owners -/

def insert (c : Circle α β) (k : α) (v : β) : Circle α β where
  entries := c.entries.filter (·.1 < k) ++ (k, v) :: c.entries.filter (k < ·.1)
  ordered := by
    refine List.pairwise_append.mpr ⟨c.ordered.filter _, List.pairwise_cons.mpr
      ⟨fun e he => by simpa using (List.mem_filter.mp he).2, c.ordered.filter _⟩, ?_⟩
    intro e he f hf
    have hek : e.1 < k := by simpa using (List.mem_filter.mp he).2
    rcases List.mem_cons.mp hf with rfl | hf
    · exact hek
    · exact hek.trans (by simpa using (List.mem_filter.mp hf).2)

def erase (c : Circle α β) (k : α) : Circle α β where
  entries := c.entries.filter (·.1 ≠ k)
  ordered := c.ordered.filter _

/-- Give the points `ks` to one owner. -/
def insertAll (c : Circle α β) (ks : List α) (v : β) : Circle α β :=
  ks.foldl (fun c k => c.insert k v) c

/-- Take the points `ks` away. -/
def eraseAll (c : Circle α β) (ks : List α) : Circle α β := ks.foldl erase c

variable {c d : Circle α β} {e f : α × β} {ks : List α} {k h : α} {v : β}

theorem mem_insert : e ∈ (c.insert k v).entries ↔ e = (k, v) ∨ e ∈ c.entries ∧ e.1 ≠ k := by
  simp only [insert, List.mem_append, List.mem_cons, List.mem_filter, decide_eq_true_eq,
    ne_iff_lt_or_gt]
  tauto

theorem mem_erase : e ∈ (c.erase k).entries ↔ e ∈ c.entries ∧ e.1 ≠ k := by
  simp [erase]

theorem mem_insertAll : e ∈ (c.insertAll ks v).entries ↔
    (e.1 ∈ ks ∧ e.2 = v) ∨ e ∈ c.entries ∧ e.1 ∉ ks := by
  induction ks generalizing c with
  | nil => simp [insertAll]
  | cons k ks ih =>
    rw [insertAll, List.foldl_cons, ← insertAll, ih, mem_insert, Prod.ext_iff, List.mem_cons]
    tauto

theorem mem_eraseAll : e ∈ (c.eraseAll ks).entries ↔ e ∈ c.entries ∧ e.1 ∉ ks := by
  induction ks generalizing c with
  | nil => simp [eraseAll]
  | cons k ks ih =>
    rw [eraseAll, List.foldl_cons, ← eraseAll, ih, mem_erase, List.mem_cons]
    tauto

theorem nodup_points (c : Circle α β) : (c.entries.map Prod.fst).Nodup :=
  List.pairwise_map.mpr (c.ordered.imp ne_of_lt)

/-- A point has one owner. -/
theorem eq_of_point_eq (he : e ∈ c.entries) (hf : f ∈ c.entries) (hef : e.1 = f.1) : e = f :=
  List.inj_on_of_nodup_map c.nodup_points he hf hef

/-- A circle is the set of its owned points. -/
theorem ext_entries (h : ∀ e, e ∈ c.entries ↔ e ∈ d.entries) : c = d := by
  have hperm : c.entries.Perm d.entries :=
    (List.perm_ext_iff_of_nodup c.nodup_points.of_map d.nodup_points.of_map).mpr h
  have heq : c.entries = d.entries := hperm.eq_of_pairwise
    (fun e f _ _ hef hfe => absurd hef hfe.asymm) c.ordered d.ordered
  cases c
  cases d
  congr

/-! ## Going round -/

/-- `lower_bound` : the points from `h` on. -/
def lowerBound (c : Circle α β) (h : α) : List (α × β) := c.entries.dropWhile (·.1 < h)

/-- Once round the circle from `h`. -/
def rotation (c : Circle α β) (h : α) : List (α × β) :=
  c.lowerBound h ++ c.entries.takeWhile (·.1 < h)

/-- The first point from `h` on, or else the first of all. -/
def successor (c : Circle α β) (h : α) : Option (α × β) :=
  match c.lowerBound h with
  | [] => c.entries.head?
  | e :: _ => some e

/-- The place of a point as seen from `h`. -/
def around (h k : α) : Bool ×ₗ α := toLex (decide (k < h), k)

theorem eq_of_around_eq {k' : α} (heq : around h k = around h k') : k = k' :=
  (Prod.ext_iff.mp (toLex_inj.mp heq)).2

theorem lt_of_mem_takeWhile (he : e ∈ c.entries.takeWhile (·.1 < h)) : e.1 < h := by
  simpa using List.mem_takeWhile_imp he

theorem le_of_mem_lowerBound (he : e ∈ c.lowerBound h) : h ≤ e.1 := by
  have hsorted : (c.lowerBound h).Pairwise fun e f => e.1 < f.1 :=
    c.ordered.sublist (List.dropWhile_sublist _)
  have hhead : ∀ hne : c.lowerBound h ≠ [], ¬((c.lowerBound h).head hne).1 < h := fun hne =>
    of_decide_eq_false (List.head_dropWhile_not (fun e : α × β => decide (e.1 < h)) hne)
  cases hdrop : c.lowerBound h with
  | nil => simp [hdrop] at he
  | cons f l =>
    rw [hdrop] at he hsorted hhead
    have hf : h ≤ f.1 := not_lt.mp (hhead (List.cons_ne_nil f l))
    rcases List.mem_cons.mp he with rfl | he
    · exact hf
    · exact hf.trans ((List.pairwise_cons.mp hsorted).1 e he).le

theorem pairwise_rotation (c : Circle α β) (h : α) :
    (c.rotation h).Pairwise fun e f => around h e.1 < around h f.1 := by
  refine List.pairwise_append.mpr ⟨?_, ?_, fun e he f hf => ?_⟩
  · refine (c.ordered.sublist (List.dropWhile_sublist _)).imp_of_mem fun {e f} he hf hef => ?_
    have heh := not_lt.mpr (le_of_mem_lowerBound he)
    have hfh := not_lt.mpr (le_of_mem_lowerBound hf)
    simp [around, Prod.Lex.toLex_lt_toLex, heh, hfh, hef]
  · refine (c.ordered.sublist (List.takeWhile_sublist _)).imp_of_mem fun {e f} he hf hef => ?_
    have heh := lt_of_mem_takeWhile he
    have hfh := lt_of_mem_takeWhile hf
    simp [around, Prod.Lex.toLex_lt_toLex, heh, hfh, hef]
  · have heh := not_lt.mpr (le_of_mem_lowerBound he)
    have hfh := lt_of_mem_takeWhile hf
    simp [around, Prod.Lex.toLex_lt_toLex, heh, hfh]

/-- The points below `h` and then those from `h` on. -/
theorem takeWhile_append_lowerBound (c : Circle α β) (h : α) :
    c.entries.takeWhile (·.1 < h) ++ c.lowerBound h = c.entries :=
  List.takeWhile_append_dropWhile

/-- The way round from `h` ends with the points it began after. -/
theorem exists_rotation_eq (c : Circle α β) (h : α) :
    ∃ p, p ++ c.lowerBound h = c.entries ∧ c.rotation h = c.lowerBound h ++ p :=
  ⟨_, c.takeWhile_append_lowerBound h, rfl⟩

theorem rotation_perm (c : Circle α β) (h : α) : (c.rotation h).Perm c.entries := by
  exact List.perm_append_comm.trans (List.Perm.of_eq (c.takeWhile_append_lowerBound h))

theorem mem_rotation : e ∈ c.rotation h ↔ e ∈ c.entries := (c.rotation_perm h).mem_iff

/-- The way round begins with the successor. -/
theorem head?_rotation (c : Circle α β) (h : α) : (c.rotation h).head? = c.successor h := by
  unfold successor rotation
  have hsplit := c.takeWhile_append_lowerBound h
  split
  next hnil =>
    rw [hnil, List.append_nil] at hsplit
    rw [hnil, List.nil_append, hsplit]
  next e l hcons => rw [hcons, List.cons_append, List.head?_cons]

/-- The successor is the first point as seen from `h`. -/
theorem successor_eq_some_iff : c.successor h = some e ↔
    e ∈ c.entries ∧ ∀ f ∈ c.entries, around h e.1 ≤ around h f.1 := by
  have hround := c.pairwise_rotation h
  rw [← head?_rotation]
  simp only [← mem_rotation (c := c) (h := h)]
  cases hrot : c.rotation h with
  | nil => simp
  | cons g l =>
    rw [hrot] at hround
    have hfirst : ∀ f ∈ g :: l, around h g.1 ≤ around h f.1 := fun f hf => by
      rcases List.mem_cons.mp hf with rfl | hf
      · exact le_rfl
      · exact ((List.pairwise_cons.mp hround).1 f hf).le
    rw [List.head?_cons, Option.some_inj]
    constructor
    · rintro rfl
      exact ⟨List.mem_cons_self, hfirst⟩
    · rintro ⟨he, hleast⟩
      have hpoint := eq_of_around_eq
        (le_antisymm (hfirst e he) (hleast g List.mem_cons_self))
      have hmem : ∀ f ∈ g :: l, f ∈ c.entries := fun f hf =>
        mem_rotation.mp (hrot ▸ hf)
      exact eq_of_point_eq (hmem g List.mem_cons_self) (hmem e he) hpoint

theorem successor_eq_none_iff : c.successor h = none ↔ c.entries = [] := by
  rw [← head?_rotation, List.head?_eq_none_iff, ← List.length_eq_zero_iff,
    (c.rotation_perm h).length_eq, List.length_eq_zero_iff]

theorem mem_of_successor (hs : c.successor h = some e) : e ∈ c.entries :=
  (successor_eq_some_iff.mp hs).1

/-- A point is its own successor. -/
theorem successor_self (he : e ∈ c.entries) : c.successor e.1 = some e := by
  refine successor_eq_some_iff.mpr ⟨he, fun f _ => ?_⟩
  by_cases hf : f.1 < e.1
  · simp [around, Prod.Lex.toLex_le_toLex, hf]
  · simp [around, Prod.Lex.toLex_le_toLex, hf, not_lt.mp hf]

/-- Giving points to an owner moves successors to that owner only. -/
theorem successor_insertAll (hs : (c.insertAll ks v).successor h = some e) :
    e.2 = v ∨ c.successor h = some e := by
  obtain ⟨he, hleast⟩ := successor_eq_some_iff.mp hs
  rcases mem_insertAll.mp he with ⟨-, hv⟩ | ⟨he, -⟩
  · exact Or.inl hv
  · refine Or.inr (successor_eq_some_iff.mpr ⟨he, fun f hf => ?_⟩)
    by_cases hk : f.1 ∈ ks
    · exact hleast (f.1, v) (mem_insertAll.mpr (Or.inl ⟨hk, rfl⟩))
    · exact hleast f (mem_insertAll.mpr (Or.inr ⟨hf, hk⟩))

/-- Taking points away moves only the successors that were taken. -/
theorem successor_eraseAll (hs : c.successor h = some e) (hk : e.1 ∉ ks) :
    (c.eraseAll ks).successor h = some e := by
  obtain ⟨he, hleast⟩ := successor_eq_some_iff.mp hs
  exact successor_eq_some_iff.mpr
    ⟨mem_eraseAll.mpr ⟨he, hk⟩, fun f hf => hleast f (mem_eraseAll.mp hf).1⟩

/-- Seen from the first of three points, the others stand as they stand from `h`. -/
theorem around_le_around_iff {x y z : α} (hy : around h x ≤ around h y)
    (hz : around h x ≤ around h z) : around x y ≤ around x z ↔ around h y ≤ around h z := by
  simp only [around, Prod.Lex.toLex_le_toLex, Bool.lt_iff, decide_eq_false_iff_not,
    decide_eq_true_eq] at *
  grind

/-- A successor that is taken away leaves the way on to its own next point. -/
theorem successor_eraseAll_of_taken (hs : c.successor h = some e) :
    (c.eraseAll ks).successor h = (c.eraseAll ks).successor e.1 := by
  obtain ⟨-, hleast⟩ := successor_eq_some_iff.mp hs
  refine Option.ext fun f => ?_
  rw [successor_eq_some_iff, successor_eq_some_iff]
  refine and_congr_right fun hf => forall₂_congr fun g hg => ?_
  exact (around_le_around_iff (hleast f (mem_eraseAll.mp hf).1)
    (hleast g (mem_eraseAll.mp hg).1)).symm

end Circle

end BoostGateway
