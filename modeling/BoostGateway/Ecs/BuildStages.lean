import BoostGateway.Base.Chains
import BoostGateway.Ecs.SystemExecutor
import Mathlib

/-!
# Stages and dependencies

`build_stages` is Kahn's algorithm. Before its `k`-th round the degree of a system counts the
dependencies of it from which there are chains of `k` dependencies (`waitingFor`), and the
systems that are ready are those whose longest chain has the length `k`. Systems with chains of
every length are left over and share the last stage : those on a cycle, and those that depend
on one (`buildStages_respects_iff`).
-/

namespace BoostGateway.Ecs

variable {systems : List SystemMetadata} {i j k : ℕ}

/-- One of the systems is a known dependency of the other. -/
def DependsOn (systems : List SystemMetadata) (i j : ℕ) : Prop :=
  ∃ metadata, systems[i]? = some metadata ∧ j ∈ dependencyIndices systems metadata

/-- The dependencies of the system at an index, with their repetitions. -/
def dependenciesOf (systems : List SystemMetadata) (i : ℕ) : List ℕ :=
  ((systems[i]?).map (dependencyIndices systems)).getD []

theorem mem_dependenciesOf : j ∈ dependenciesOf systems i ↔ DependsOn systems i j := by
  unfold dependenciesOf DependsOn
  cases systems[i]? <;> simp

theorem systemIndex_lt {name : String} (h : systemIndex systems name = some i) :
    i < systems.length := by
  unfold systemIndex at h
  split_ifs at h
  obtain ⟨⟨metadata, j⟩, hlast, rfl⟩ := Option.map_eq_some_iff.mp h
  have hmem := (List.mem_filter.mp (List.mem_of_getLast? hlast)).1
  exact (List.mem_zipIdx' hmem).1

theorem DependsOn.lt (h : DependsOn systems i j) : i < systems.length ∧ j < systems.length := by
  obtain ⟨metadata, hi, hj⟩ := h
  obtain ⟨name, -, hname⟩ := List.mem_filterMap.mp hj
  exact ⟨(List.getElem?_eq_some_iff.mp hi).1, systemIndex_lt hname⟩

theorem count_flatMap_zipIdx {α : Type} (f : α → List ℕ) (l : List α) (n i j : ℕ) :
    ((l.zipIdx n).flatMap fun (a, m) => ((f a).filter (· = j)).map fun _ => m).count i =
      if n ≤ i then (((l[i - n]?).map f).getD []).count j else 0 := by
  induction l generalizing n with
  | nil => simp
  | cons a l ih =>
    rw [List.zipIdx_cons, List.flatMap_cons, List.count_append, ih (n + 1)]
    have hfirst : (((f a).filter (· = j)).map fun _ => n).count i =
        if n = i then (f a).count j else 0 := by
      rw [List.map_const', List.count_replicate, ← List.countP_eq_length_filter]
      simp [List.count, BEq.beq, eq_comm]
    rw [hfirst]
    obtain hlt | rfl | hlt := lt_trichotomy n i
    · obtain ⟨m, rfl⟩ := Nat.exists_eq_add_of_lt hlt
      have hsub : n + m + 1 - n = m + 1 := by omega
      have hsub' : n + m + 1 - (n + 1) = m := by omega
      rw [if_neg hlt.ne, if_pos (by omega), if_pos hlt.le, hsub, hsub', List.getElem?_cons_succ,
        Nat.zero_add]
    · simp
    · rw [if_neg hlt.ne', if_neg (by omega), if_neg (by omega)]

/-- An edge is counted at both its ends. -/
theorem count_dependents (systems : List SystemMetadata) (i j : ℕ) :
    (dependents systems j).count i = (dependenciesOf systems i).count j := by
  rw [dependents, count_flatMap_zipIdx, if_pos (Nat.zero_le i), dependenciesOf, Nat.sub_zero]

/-! ## One round -/

/-- What is left of the degrees, and who comes to no degree on the way. -/
theorem removeEdges_spec (inDegree : ℕ → ℕ) (edges : List ℕ)
    (h : ∀ i, edges.count i ≤ inDegree i) :
    (∀ i, (removeEdges inDegree edges).1 i = inDegree i - edges.count i) ∧
      (removeEdges inDegree edges).2.Nodup ∧
      ∀ i, i ∈ (removeEdges inDegree edges).2 ↔ i ∈ edges ∧ inDegree i = edges.count i := by
  induction edges generalizing inDegree with
  | nil => simp [removeEdges]
  | cons a edges ih =>
    have ha := h a
    rw [List.count_cons_self] at ha
    obtain ⟨hdegree, hnodup, hready⟩ :=
      ih (Function.update inDegree a (inDegree a - 1)) fun i => by
        obtain rfl | hne := eq_or_ne i a
        · rw [Function.update_self]
          omega
        · rw [Function.update_of_ne hne, ← List.count_cons_of_ne hne.symm]
          exact h i
    unfold removeEdges
    dsimp only
    rw [Function.update_self]
    refine ⟨fun i => ?_, ?_, fun i => ?_⟩
    · rw [hdegree]
      obtain rfl | hne := eq_or_ne i a
      · rw [Function.update_self, List.count_cons_self]
        omega
      · rw [Function.update_of_ne hne, List.count_cons_of_ne hne.symm]
    · split_ifs with hzero
      · refine List.nodup_cons.mpr ⟨fun hmem => ?_, hnodup⟩
        have hcount := List.count_pos_iff.mpr ((hready a).mp hmem).1
        omega
      · exact hnodup
    · obtain rfl | hne := eq_or_ne i a
      · have hi := hready i
        rw [Function.update_self] at hi
        rw [List.count_cons_self]
        split_ifs with hzero
        · exact iff_of_true List.mem_cons_self ⟨List.mem_cons_self, by omega⟩
        · rw [hi]
          constructor
          · rintro ⟨hmem, heq⟩
            exact ⟨List.mem_cons_self, by omega⟩
          · rintro ⟨-, heq⟩
            exact ⟨List.count_pos_iff.mp (by omega), by omega⟩
      · have hi := hready i
        rw [Function.update_of_ne hne] at hi
        rw [List.count_cons_of_ne hne.symm, List.mem_cons, or_iff_right hne, ← hi]
        split_ifs
        · rw [List.mem_cons, or_iff_right hne]
        · rfl

/-! ## The rounds -/

theorem countP_split {α : Type} {p q q' : α → Bool} {l : List α}
    (h : ∀ a ∈ l, p a = (q a || q' a)) (hdisjoint : ∀ a ∈ l, ¬(q a = true ∧ q' a = true)) :
    l.countP p = l.countP q + l.countP q' := by
  induction l with
  | nil => rfl
  | cons a l ih =>
    rw [List.forall_mem_cons] at h hdisjoint
    rw [List.countP_cons, List.countP_cons, List.countP_cons, ih h.2 hdisjoint.2, h.1]
    have ha := hdisjoint.1
    cases hq : q a <;> cases hq' : q' a <;> simp [hq, hq'] at ha ⊢ <;> omega

/-- An entry is counted once for each place of it in the list. -/
theorem sum_count_of_nodup {ready l : List ℕ} (hnodup : ready.Nodup) :
    (ready.map fun j => l.count j).sum = l.countP (· ∈ ready) := by
  induction ready with
  | nil => simp
  | cons a ready ih =>
    obtain ⟨ha, hnodup⟩ := List.nodup_cons.mp hnodup
    rw [List.map_cons, List.sum_cons, ih hnodup]
    symm
    refine countP_split (fun j _ => ?_) fun j _ => ?_
    · simp [List.mem_cons, BEq.beq]
    · rintro ⟨heq, hmem⟩
      obtain rfl := eq_of_beq heq
      exact ha (of_decide_eq_true hmem)

section

open Classical

/-- The dependencies that begin chains of the length. -/
noncomputable def waitingFor (systems : List SystemMetadata) (k i : ℕ) : ℕ :=
  (dependenciesOf systems i).countP fun j => HasChain (DependsOn systems) k j

/-- The systems from which there are chains of the length. -/
noncomputable def left (systems : List SystemMetadata) (k : ℕ) : ℕ :=
  (List.range systems.length).countP fun i => HasChain (DependsOn systems) k i

/-- The state of the algorithm before the round. -/
structure Round (systems : List SystemMetadata) (k : ℕ) (ready : List ℕ) (inDegree : ℕ → ℕ) :
    Prop where
  degree : ∀ i, inDegree i = waitingFor systems k i
  nodup : ready.Nodup
  ready : ∀ i, i ∈ ready ↔ i < systems.length ∧ HasChain (DependsOn systems) k i ∧
    ¬HasChain (DependsOn systems) (k + 1) i

variable {ready : List ℕ} {inDegree : ℕ → ℕ}

theorem waitingFor_eq_zero : waitingFor systems k i = 0 ↔
    ¬HasChain (DependsOn systems) (k + 1) i := by
  rw [waitingFor, List.countP_eq_zero]
  constructor
  · rintro h ⟨j, hij, hj⟩
    exact h j (mem_dependenciesOf.mpr hij) (decide_eq_true hj)
  · intro h j hj hchain
    exact h ⟨j, mem_dependenciesOf.mp hj, of_decide_eq_true hchain⟩

theorem Round.mem_or_iff (h : Round systems k ready inDegree) (hj : j < systems.length) :
    HasChain (DependsOn systems) k j ↔
      j ∈ ready ∨ HasChain (DependsOn systems) (k + 1) j := by
  rw [h.ready]
  constructor
  · intro hk
    by_cases hlonger : HasChain (DependsOn systems) (k + 1) j
    · exact .inr hlonger
    · exact .inl ⟨hj, hk, hlonger⟩
  · rintro (⟨-, hk, -⟩ | hlonger)
    · exact hk
    · exact hlonger.of_succ

theorem Round.count_edges (h : Round systems k ready inDegree) (i : ℕ) :
    inDegree i = (ready.flatMap (dependents systems)).count i + waitingFor systems (k + 1) i := by
  have hedges : (ready.flatMap (dependents systems)).count i =
      (dependenciesOf systems i).countP (· ∈ ready) := by
    rw [List.count_flatMap, ← sum_count_of_nodup h.nodup]
    exact congrArg List.sum (List.map_congr_left fun j _ => count_dependents systems i j)
  rw [h.degree, hedges]
  refine countP_split (fun j hj => ?_) fun j hj => ?_
  · have hlt := (mem_dependenciesOf.mp hj).lt.2
    rw [← Bool.decide_or]
    exact decide_eq_decide.mpr (h.mem_or_iff hlt)
  · rintro ⟨hmem, hlonger⟩
    exact ((h.ready j).mp (of_decide_eq_true hmem)).2.2 (of_decide_eq_true hlonger)

theorem mem_dependents : i ∈ dependents systems j ↔ DependsOn systems i j := by
  rw [← mem_dependenciesOf, ← List.count_pos_iff, ← List.count_pos_iff, count_dependents]

/-- A round comes to the next. -/
theorem Round.next (h : Round systems k ready inDegree) :
    Round systems (k + 1) (removeEdges inDegree (ready.flatMap (dependents systems))).2
      (removeEdges inDegree (ready.flatMap (dependents systems))).1 := by
  have hcount := h.count_edges
  obtain ⟨hdegree, hnodup, hready⟩ :=
    removeEdges_spec inDegree (ready.flatMap (dependents systems)) fun i => by
      rw [hcount i]
      exact Nat.le_add_right _ _
  refine ⟨fun i => ?_, hnodup, fun i => ?_⟩
  · rw [hdegree, hcount i, Nat.add_sub_cancel_left]
  · rw [hready, hcount i, Nat.add_eq_left, waitingFor_eq_zero, List.mem_flatMap, ← and_assoc]
    refine and_congr_left fun hlast => ?_
    constructor
    · rintro ⟨j, hj, hij⟩
      have hij := mem_dependents.mp hij
      exact ⟨hij.lt.1, j, hij, ((h.ready j).mp hj).2.1⟩
    · rintro ⟨-, j, hij, hj⟩
      refine ⟨j, (h.ready j).mpr ⟨hij.lt.2, hj, fun hlonger => hlast ⟨j, hij, hlonger⟩⟩, ?_⟩
      exact mem_dependents.mpr hij

/-- A round with systems that are ready leaves fewer. -/
theorem Round.left_lt (h : Round systems k ready inDegree) (hne : ready ≠ []) :
    left systems (k + 1) < left systems k := by
  have hsplit : left systems k =
      (List.range systems.length).countP (· ∈ ready) + left systems (k + 1) := by
    refine countP_split (fun j hj => ?_) fun j hj => ?_
    · rw [← Bool.decide_or]
      exact decide_eq_decide.mpr (h.mem_or_iff (List.mem_range.mp hj))
    · rintro ⟨hmem, hlonger⟩
      exact ((h.ready j).mp (of_decide_eq_true hmem)).2.2 (of_decide_eq_true hlonger)
  obtain ⟨i, hi⟩ := List.exists_mem_of_ne_nil ready hne
  have hpos : 0 < (List.range systems.length).countP (· ∈ ready) :=
    List.countP_pos_iff.mpr ⟨i, List.mem_range.mpr ((h.ready i).mp hi).1, decide_eq_true hi⟩
  omega

/-- The stages from a round on, and the degrees at the end. -/
structure Staged (systems : List SystemMetadata) (k : ℕ) (stages : List (List ℕ))
    (inDegree : ℕ → ℕ) : Prop where
  stage : ∀ m stage, stages[m]? = some stage → stage.Nodup ∧ ∀ i, i ∈ stage ↔
    i < systems.length ∧ HasChain (DependsOn systems) (k + m) i ∧
      ¬HasChain (DependsOn systems) (k + m + 1) i
  degree : ∀ i, inDegree i = waitingFor systems (k + stages.length) i
  last : ∀ i < systems.length, HasChain (DependsOn systems) (k + stages.length) i →
    HasChain (DependsOn systems) (k + stages.length + 1) i

theorem Round.staged_nil (h : Round systems k [] inDegree) : Staged systems k [] inDegree where
  stage m stage hm := by simp at hm
  degree := h.degree
  last i hi hk := by
    by_contra hlonger
    exact List.not_mem_nil ((h.ready i).mpr ⟨hi, hk, hlonger⟩)

theorem Round.staged (h : Round systems k ready inDegree) (n : ℕ) (hn : left systems k ≤ n) :
    Staged systems k (stagesFrom systems n ready inDegree).1
      (stagesFrom systems n ready inDegree).2 := by
  induction n generalizing k ready inDegree with
  | zero =>
    have hnil : ready = [] := by
      by_contra hne
      have hlt := h.left_lt hne
      omega
    subst hnil
    exact h.staged_nil
  | succ n ih =>
    unfold stagesFrom
    split_ifs with hnil
    · subst hnil
      exact h.staged_nil
    · have hlt := h.left_lt hnil
      obtain ⟨hstage, hdegree, hlast⟩ := ih h.next (by omega)
      dsimp only
      have hround : ∀ m, k + (m + 1) = k + 1 + m := fun m => by omega
      refine ⟨fun m stage hm => ?_, fun i => ?_, fun i hi => ?_⟩
      · cases m with
        | zero =>
          obtain rfl := Option.some.inj hm
          exact ⟨h.nodup, h.ready⟩
        | succ m =>
          rw [hround]
          exact hstage m stage hm
      · rw [List.length_cons, hround]
        exact hdegree i
      · rw [List.length_cons, hround]
        exact hlast i hi

/-- The first round has the systems without dependencies. -/
theorem round_zero (systems : List SystemMetadata) (inDegree : ℕ → ℕ)
    (hdegree : ∀ i, inDegree i = (dependenciesOf systems i).length) :
    Round systems 0 ((List.range systems.length).filter (inDegree · = 0)) inDegree := by
  have hwaiting : ∀ i, inDegree i = waitingFor systems 0 i := by
    intro i
    rw [hdegree, waitingFor]
    exact (List.countP_eq_length.mpr fun j _ => decide_eq_true (p := HasChain _ 0 j) trivial).symm
  refine ⟨hwaiting, List.nodup_range.filter _, fun i => ?_⟩
  rw [List.mem_filter, List.mem_range, decide_eq_true_eq, hwaiting, waitingFor_eq_zero]
  exact and_congr_right fun _ => (and_iff_right trivial).symm

/-- The stages of the rounds, and a last one with the systems that are left. -/
theorem exists_staged (systems : List SystemMetadata) : ∃ stages inDegree,
    Staged systems 0 stages inDegree ∧ buildStages systems =
      if stages.flatten.length = systems.length ∨
          (List.range systems.length).filter (0 < inDegree ·) = [] then stages
      else stages ++ [(List.range systems.length).filter (0 < inDegree ·)] := by
  have hleft : left systems 0 ≤ systems.length :=
    List.countP_le_length.trans_eq List.length_range
  have hround := round_zero systems (fun i => ((systems[i]?).map fun metadata =>
    (dependencyIndices systems metadata).length).getD 0) fun i => by
      unfold dependenciesOf
      cases systems[i]? <;> rfl
  exact ⟨_, _, hround.staged systems.length hleft, rfl⟩

end

/-- The system is in the stage with this number. -/
def InStage (systems : List SystemMetadata) (i k : ℕ) : Prop :=
  ∃ stage, (buildStages systems)[k]? = some stage ∧ i ∈ stage

/-- Every system has a place, which is one. -/
theorem flatten_perm_range {stages : List (List ℕ)} {n : ℕ} (place : ℕ → ℕ)
    (hnodup : ∀ stage ∈ stages, stage.Nodup)
    (hstage : ∀ k stage, stages[k]? = some stage → ∀ i, i ∈ stage ↔ i < n ∧ place i = k)
    (hplace : ∀ i < n, place i < stages.length) : stages.flatten.Perm (List.range n) := by
  have hdisjoint : stages.Pairwise List.Disjoint := by
    rw [List.pairwise_iff_getElem]
    intro k l hk hl hlt i hik hil
    have hpk := (hstage k _ (List.getElem?_eq_getElem hk) i).mp hik
    have hpl := (hstage l _ (List.getElem?_eq_getElem hl) i).mp hil
    omega
  rw [List.perm_ext_iff_of_nodup (List.nodup_flatten.mpr ⟨hnodup, hdisjoint⟩) List.nodup_range]
  intro i
  rw [List.mem_flatten, List.mem_range]
  constructor
  · rintro ⟨stage, hmem, hi⟩
    obtain ⟨k, hk⟩ := List.getElem?_of_mem hmem
    exact ((hstage k stage hk i).mp hi).1
  · intro hi
    have hlt := hplace i hi
    exact ⟨_, List.getElem_mem hlt,
      (hstage _ _ (List.getElem?_eq_getElem hlt) i).mpr ⟨hi, rfl⟩⟩

/-- The stage of a system is the length of its longest chain, or the last stage when there are
chains of every length. -/
def AtStage (systems : List SystemMetadata) (last i k : ℕ) : Prop :=
  (HasChain (DependsOn systems) k i ∧ ¬HasChain (DependsOn systems) (k + 1) i) ∨
    (k = last ∧ ∀ m, HasChain (DependsOn systems) m i)

theorem exists_atStage (systems : List SystemMetadata) (last i : ℕ) :
    ∃ k, AtStage systems last i k := by
  obtain hall | ⟨k, hk⟩ := forall_hasChain_or_exists (DependsOn systems) i
  · exact ⟨last, .inr ⟨rfl, hall⟩⟩
  · exact ⟨k, .inl hk⟩

theorem AtStage.unique {last k' : ℕ} (h : AtStage systems last i k)
    (h' : AtStage systems last i k') : k = k' := by
  obtain ⟨hk, hlast⟩ | ⟨rfl, hall⟩ := h
  · obtain ⟨hk', hlast'⟩ | ⟨-, hall'⟩ := h'
    · exact le_antisymm (hk.le_of_not hlast') (hk'.le_of_not hlast)
    · exact absurd (hall' (k + 1)) hlast
  · obtain ⟨-, hlast'⟩ | ⟨rfl, -⟩ := h'
    · exact absurd (hall (k' + 1)) hlast'
    · rfl

section Fallback

variable {stages : List (List ℕ)} {inDegree : ℕ → ℕ}

theorem Staged.hasChain (h : Staged systems 0 stages inDegree) (hi : i < systems.length)
    (hchain : HasChain (DependsOn systems) stages.length i) (m : ℕ) :
    HasChain (DependsOn systems) m i := by
  have hlast := h.last
  rw [Nat.zero_add] at hlast
  exact hchain.of_forall_succ (s := (· < systems.length)) (fun a b hab => hab.lt.2) hlast hi m

theorem Staged.mem_fallback (h : Staged systems 0 stages inDegree) :
    i ∈ (List.range systems.length).filter (0 < inDegree ·) ↔
      i < systems.length ∧ ∀ m, HasChain (DependsOn systems) m i := by
  rw [List.mem_filter, List.mem_range, decide_eq_true_eq, Nat.pos_iff_ne_zero, h.degree,
    Nat.zero_add, ne_eq, waitingFor_eq_zero, not_not]
  exact and_congr_right fun hi => ⟨fun hlast => h.hasChain hi hlast.of_succ, fun hall => hall _⟩

/-- The stages of the rounds with what is left after them. -/
theorem Staged.mem_iff (h : Staged systems 0 stages inDegree) {stage : List ℕ}
    (hstage : (stages ++ [(List.range systems.length).filter (0 < inDegree ·)])[k]? =
      some stage) :
    stage.Nodup ∧ ∀ i, i ∈ stage ↔ i < systems.length ∧ AtStage systems stages.length i k := by
  obtain hlt | hle := lt_or_ge k stages.length
  · rw [List.getElem?_append_left hlt] at hstage
    obtain ⟨hnodup, hmem⟩ := h.stage k stage hstage
    refine ⟨hnodup, fun i => (hmem i).trans (and_congr_right fun _ => ?_)⟩
    rw [Nat.zero_add, AtStage, or_iff_left fun hlast => hlt.ne hlast.1]
  · rw [List.getElem?_append_right hle] at hstage
    rw [List.getElem?_singleton] at hstage
    split_ifs at hstage with hzero
    obtain rfl := Option.some.inj hstage
    obtain rfl : k = stages.length := by omega
    refine ⟨List.nodup_range.filter _, fun i => h.mem_fallback.trans ?_⟩
    refine and_congr_right fun hi => ⟨fun hall => .inr ⟨rfl, hall⟩, ?_⟩
    rintro (⟨hchain, -⟩ | ⟨-, hall⟩)
    · exact h.hasChain hi hchain
    · exact hall

theorem Staged.le_length (h : Staged systems 0 stages inDegree) (hi : i < systems.length)
    (hk : AtStage systems stages.length i k) : k ≤ stages.length := by
  obtain ⟨hchain, hlast⟩ | ⟨rfl, -⟩ := hk
  · by_contra! hlt
    exact hlast (h.hasChain hi (hchain.of_le hlt.le) (k + 1))
  · exact le_rfl

theorem Staged.perm (h : Staged systems 0 stages inDegree) :
    (stages ++ [(List.range systems.length).filter (0 < inDegree ·)]).flatten.Perm
      (List.range systems.length) := by
  choose place hplace using exists_atStage systems stages.length
  refine flatten_perm_range place (fun stage hmem => ?_) (fun k stage hk i => ?_) fun i hi => ?_
  · obtain ⟨k, hk⟩ := List.getElem?_of_mem hmem
    exact (h.mem_iff hk).1
  · rw [(h.mem_iff hk).2]
    refine and_congr_right fun _ => ⟨(hplace i).unique, ?_⟩
    rintro rfl
    exact hplace i
  · rw [List.length_append, List.length_singleton]
    exact Nat.lt_succ_of_le (h.le_length hi (hplace i))

end Fallback

/-- Every system is in one stage, that of its longest chain or the last. -/
theorem buildStages_spec (systems : List SystemMetadata) :
    (buildStages systems).flatten.Perm (List.range systems.length) ∧
      ∃ last, ∀ i k, InStage systems i k ↔ i < systems.length ∧ AtStage systems last i k := by
  obtain ⟨stages, inDegree, h, hbuild⟩ := exists_staged systems
  have hperm := h.perm
  have hin : ∀ i k, (∃ stage, (stages ++
      [(List.range systems.length).filter (0 < inDegree ·)])[k]? = some stage ∧ i ∈ stage) ↔
      i < systems.length ∧ AtStage systems stages.length i k := by
    intro i k
    constructor
    · rintro ⟨stage, hk, hi⟩
      exact ((h.mem_iff hk).2 i).mp hi
    · rintro ⟨hi, hk⟩
      have hlt : k < (stages ++
          [(List.range systems.length).filter (0 < inDegree ·)]).length := by
        rw [List.length_append, List.length_singleton]
        exact Nat.lt_succ_of_le (h.le_length hi hk)
      have hstage := List.getElem?_eq_getElem hlt
      exact ⟨_, hstage, ((h.mem_iff hstage).2 i).mpr ⟨hi, hk⟩⟩
  unfold InStage
  generalize hfallback : (List.range systems.length).filter (0 < inDegree ·) = fallback
    at hbuild hperm hin
  by_cases hnil : fallback = []
  · subst hnil
    rw [hbuild, if_pos (.inr rfl)]
    rw [List.flatten_append, List.flatten_singleton, List.append_nil] at hperm
    refine ⟨hperm, stages.length, fun i k => (exists_congr fun stage => ?_).trans (hin i k)⟩
    refine and_congr_left fun hi => ?_
    obtain hlt | hle := lt_or_ge k stages.length
    · rw [List.getElem?_append_left hlt]
    · rw [List.getElem?_append_right hle, List.getElem?_eq_none hle, List.getElem?_singleton]
      split_ifs
      · refine iff_of_false nofun fun hnil => ?_
        obtain rfl := Option.some.inj hnil
        cases hi
      · rfl
  · have hlength := hperm.length_eq
    rw [List.flatten_append, List.flatten_singleton, List.length_append, List.length_range]
      at hlength
    have hpos := List.length_pos_of_ne_nil hnil
    rw [hbuild, if_neg (not_or.mpr ⟨by omega, hnil⟩)]
    exact ⟨hperm, stages.length, hin⟩

/-! ## Dependencies -/

/-- The stages are as they should be. -/
structure RespectsDependencies (systems : List SystemMetadata) : Prop where
  /-- Every system is in one stage, and once. -/
  once : (buildStages systems).flatten.Perm (List.range systems.length)
  later : ∀ i j k l, DependsOn systems i j → ¬OnCycle (DependsOn systems) i →
    InStage systems i k → InStage systems j l → l < k
  longest : (∀ i, ¬OnCycle (DependsOn systems) i) → ∀ i k, i < systems.length →
    (InStage systems i k ↔ IsGreatest {m | HasChain (DependsOn systems) m i} k)

theorem isGreatest_iff : IsGreatest {m | HasChain (DependsOn systems) m i} k ↔
    HasChain (DependsOn systems) k i ∧ ¬HasChain (DependsOn systems) (k + 1) i := by
  refine and_congr_right fun _ => ⟨fun hk hlonger => ?_, fun hlast m hm => hm.le_of_not hlast⟩
  exact Nat.not_succ_le_self k (hk hlonger)

/-- Systems with chains of every length depend on a cycle. -/
theorem onCycle_of_endless
    (hback : ∀ i j, DependsOn systems i j → OnCycle (DependsOn systems) j →
      OnCycle (DependsOn systems) i) (h : ∀ m, HasChain (DependsOn systems) m i) :
    OnCycle (DependsOn systems) i :=
  onCycle_of_forall_hasChain (s := Finset.range systems.length)
    (fun _ _ hij => Finset.mem_range.mpr hij.lt.1) hback h

/-- A system with a longest chain is later than those on which it depends. -/
theorem lt_of_dependsOn {last l : ℕ} (hij : DependsOn systems i j)
    (hend : ¬∀ m, HasChain (DependsOn systems) m i) (hi : AtStage systems last i k)
    (hj : AtStage systems last j l) : l < k := by
  obtain ⟨-, hlast⟩ | ⟨-, hall⟩ := hi
  · obtain ⟨hchain, -⟩ | ⟨-, hall⟩ := hj
    · exact HasChain.le_of_not ⟨j, hij, hchain⟩ hlast
    · exact absurd ⟨j, hij, hall k⟩ hlast
  · exact absurd hall hend

/-- The stages respect the dependencies exactly when all that depends on a cycle is on one. -/
theorem buildStages_respects_iff (systems : List SystemMetadata) :
    RespectsDependencies systems ↔ ∀ i j, DependsOn systems i j →
      OnCycle (DependsOn systems) j → OnCycle (DependsOn systems) i := by
  obtain ⟨hperm, last, hin⟩ := buildStages_spec systems
  constructor
  · intro h i j hij hj
    by_contra hi
    have hall : ∀ m, HasChain (DependsOn systems) m i :=
      fun m => HasChain.of_succ ⟨j, hij, hj.hasChain m⟩
    have hlast := h.later i j last last hij hi ((hin i last).mpr ⟨hij.lt.1, .inr ⟨rfl, hall⟩⟩)
      ((hin j last).mpr ⟨hij.lt.2, .inr ⟨rfl, hj.hasChain⟩⟩)
    exact lt_irrefl last hlast
  · intro hback
    refine ⟨hperm, fun i j k l hij hi hk hl => ?_, fun hacyclic i k hi => ?_⟩
    · exact lt_of_dependsOn hij (fun hall => hi (onCycle_of_endless hback hall))
        ((hin i k).mp hk).2 ((hin j l).mp hl).2
    · rw [hin, and_iff_right hi, isGreatest_iff]
      exact or_iff_left fun hlast => hacyclic i (onCycle_of_endless hback hlast.2)

/-- Two systems that wait for each other, and one that waits for the first. -/
theorem not_respectsDependencies : ¬∀ systems, RespectsDependencies systems := by
  intro hall
  have h := hall [{ name := "a", dependencies := ["b"] }, { name := "b", dependencies := ["a"] },
    { name := "c", dependencies := ["a"] }]
  generalize hsystems : ([_, _, _] : List SystemMetadata) = systems at h
  have hstage : buildStages systems = [[0, 1, 2]] := by
    subst hsystems
    decide +kernel
  have hdepends : DependsOn systems 2 0 := by
    rw [← mem_dependenciesOf]
    subst hsystems
    decide +kernel
  have hnone : ∀ i < systems.length, 2 ∉ dependenciesOf systems i := by
    subst hsystems
    decide +kernel
  have hfree : ¬OnCycle (DependsOn systems) 2 := by
    intro hcycle
    obtain ⟨i, -, hi⟩ := Relation.TransGen.tail'_iff.mp hcycle
    exact hnone i hi.lt.1 (mem_dependenciesOf.mpr hi)
  exact lt_irrefl 0 (h.later 2 0 0 0 hdepends hfree ⟨_, by rw [hstage]; rfl, by decide⟩
    ⟨_, by rw [hstage]; rfl, by decide⟩)

end BoostGateway.Ecs
