import BoostGateway.Base.TermLog
import Mathlib.Logic.Function.Iterate

/-!
# Repair of a log

A leader brings the log of a follower in line with its own log `L` : it sends what follows
position `next - 1`, the follower compares the terms of the entries at that position, and the
leader moves `next` back by one when they differ, and past the end of the follower's log when
they do not. Where `next` is outside of `L` it sends nothing, and the follower agrees.

`repaired_iff` : the follower's log becomes `L` exactly when it is not `L` with more behind,
agrees with `L` up to the position where the terms first agree (`meet`), and is not longer
than `L` when `next` is outside of `L`.
-/

set_option linter.unusedSectionVars false

namespace BoostGateway

namespace TermLog

variable {ε : Type*} [Termed ε]

/-- The entries before position `k` have one term. -/
def SameTermAt (L F : List ε) (k : ℕ) : Prop :=
  k = 0 ∨ L[k - 1]?.map termOf = F[k - 1]?.map termOf

instance (L F : List ε) (k : ℕ) : Decidable (SameTermAt L F k) :=
  inferInstanceAs (Decidable (_ ∨ _))

/-- The highest position up to `k` at which `F` is not too short and has the term of `L`. -/
def meet (L F : List ε) : ℕ → ℕ
  | 0 => 0
  | k + 1 => if k + 1 ≤ F.length ∧ SameTermAt L F (k + 1) then k + 1 else meet L F k

theorem meet_le (L F : List ε) : ∀ k, meet L F k ≤ k
  | 0 => le_rfl
  | k + 1 => by
    rw [meet]
    split_ifs
    · exact le_rfl
    · exact (meet_le L F k).trans k.le_succ

theorem meet_of_same {L F : List ε} {k : ℕ} (hk : k ≤ F.length) (h : SameTermAt L F k) :
    meet L F k = k := by
  cases k with
  | zero => rfl
  | succ k => rw [meet, if_pos ⟨hk, h⟩]

theorem SameTermAt.of_prefix {L F : List ε} (h : L <+: F) {k : ℕ} (hk : k ≤ L.length) :
    SameTermAt L F k := by
  cases k with
  | zero => exact Or.inl rfl
  | succ k =>
    obtain ⟨r, rfl⟩ := h
    refine Or.inr ?_
    rw [Nat.add_sub_cancel, List.getElem?_append_left hk]

/-- `meet` looks at nothing past `k`. -/
theorem meet_congr {L F F' : List ε} {j : ℕ} (h : F'.take j = F.take j) :
    ∀ {k}, k ≤ j → meet L F' k = meet L F k
  | 0, _ => rfl
  | k + 1, hk => by
    have hlen : k + 1 ≤ F'.length ↔ k + 1 ≤ F.length := by
      have := congrArg List.length h
      rw [List.length_take, List.length_take] at this
      omega
    have hget : F'[k]? = F[k]? := by
      have := congrArg (fun l => l[k]?) h
      simpa only [List.getElem?_take, if_pos (show k < j from hk)] using this
    have hsame : SameTermAt L F' (k + 1) ↔ SameTermAt L F (k + 1) := by
      rw [SameTermAt, SameTermAt, Nat.add_sub_cancel, hget]
    rw [meet, meet, meet_congr h (Nat.le_of_succ_le hk)]
    simp only [hlen, hsame]

/-- The follower's log, and what the leader keeps of the follower. -/
structure Repair (ε : Type*) where
  log : List ε
  next : ℕ
  matched : Option ℕ

/-- What the position of `next` stands for : itself, or the end of the follower's log. -/
def Repair.start (L : List ε) (s : Repair ε) : ℕ :=
  if 1 ≤ s.next ∧ s.next ≤ L.length + 1 then s.next - 1 else s.log.length

def Repairable (L : List ε) (s : Repair ε) : Prop :=
  s.start L ≤ L.length ∧
    s.log.take (meet L s.log (s.start L)) = L.take (meet L s.log (s.start L)) ∧
      (L <+: s.log → s.log = L)

variable [DecidableEq ε]

instance (L : List ε) (s : Repair ε) : Decidable (Repairable L s) :=
  inferInstanceAs (Decidable (_ ∧ _ ∧ (_ → _)))

/-- One request with its answer. -/
def Repair.step (L : List ε) (s : Repair ε) : Repair ε :=
  if 1 ≤ s.next ∧ s.next ≤ L.length + 1 then
    let k := s.next - 1
    if s.log.length < k then { s with next := k }
    else if SameTermAt L s.log k then
      let log := splice s.log k (L.drop k)
      { log := log, next := log.length + 1, matched := some log.length }
    else { s with log := s.log.take (k - 1), next := k }
  else { s with next := s.log.length + 1, matched := some s.log.length }

def Repair.Done (L : List ε) (s : Repair ε) : Prop :=
  s.log = L ∧ s.matched = some L.length

variable {L : List ε} {s : Repair ε}

theorem Repair.start_of_inside (h : 1 ≤ s.next ∧ s.next ≤ L.length + 1) :
    s.start L = s.next - 1 := if_pos h

theorem Repair.start_of_outside (h : ¬(1 ≤ s.next ∧ s.next ≤ L.length + 1)) :
    s.start L = s.log.length := if_neg h

/-- The repair starts over at the end of the follower's log. -/
theorem Repair.start_of_next_eq (h : s.next = s.log.length + 1) : s.start L = s.log.length := by
  rw [start]
  split_ifs with hin
  · omega
  · rfl

variable {F : List ε}

variable {k : ℕ}

theorem take_splice (hk : k ≤ F.length) (es : List ε) : (splice F k es).take k = F.take k := by
  unfold splice
  split_ifs
  · rfl
  · rw [List.take_append_of_le_length (by rw [List.length_take]; omega), List.take_take, min_self]

theorem le_length_splice (hk : k ≤ F.length) :
    L.length ≤ (splice F k (L.drop k)).length ∨ L.length < k := by
  refine or_iff_not_imp_right.mpr fun hlt => ?_
  unfold splice
  split_ifs with h
  · have := h.length_le
    rw [List.length_drop, List.length_drop] at this
    omega
  · rw [List.length_append, List.length_take, List.length_drop]
    omega

/-- A log that agrees with `L` before the entries of the request becomes `L`, unless it goes
on behind them. -/
theorem splice_eq (hF : F.take k = L.take k) (h : L <+: F → F = L) : splice F k (L.drop k) = L := by
  have hL : F.take k ++ L.drop k = L := by rw [hF, List.take_append_drop]
  unfold splice
  split_ifs with hpre
  · refine h ?_
    rw [← hL]
    conv_rhs => rw [← List.take_append_drop k F]
    exact (List.prefix_append_right_inj _).mpr hpre
  · exact hL

theorem repairable_of_eq (h : s.log = L) : Repairable L s := by
  subst h
  refine ⟨?_, rfl, fun _ => rfl⟩
  rw [Repair.start]
  split_ifs <;> omega

/-! ## The ways through a step -/

theorem Repair.step_outside (h : ¬(1 ≤ s.next ∧ s.next ≤ L.length + 1)) :
    s.step L = { s with next := s.log.length + 1, matched := some s.log.length } := if_neg h

theorem Repair.step_short (h : 1 ≤ s.next ∧ s.next ≤ L.length + 1)
    (hlen : s.log.length < s.next - 1) : s.step L = { s with next := s.next - 1 } := by
  rw [step, if_pos h]
  exact if_pos hlen

theorem Repair.step_accepted (h : 1 ≤ s.next ∧ s.next ≤ L.length + 1)
    (hlen : s.next - 1 ≤ s.log.length) (hsame : SameTermAt L s.log (s.next - 1)) :
    s.step L =
      { log := splice s.log (s.next - 1) (L.drop (s.next - 1))
        next := (splice s.log (s.next - 1) (L.drop (s.next - 1))).length + 1
        matched := some (splice s.log (s.next - 1) (L.drop (s.next - 1))).length } := by
  rw [step, if_pos h]
  exact (if_neg (not_lt.mpr hlen)).trans (if_pos hsame)

theorem Repair.step_conflict (h : 1 ≤ s.next ∧ s.next ≤ L.length + 1)
    (hlen : s.next - 1 ≤ s.log.length) (hsame : ¬SameTermAt L s.log (s.next - 1)) :
    s.step L = { s with log := s.log.take (s.next - 1 - 1), next := s.next - 1 } := by
  rw [step, if_pos h]
  exact (if_neg (not_lt.mpr hlen)).trans (if_neg hsame)

theorem meet_of_not (h : ¬(k ≤ F.length ∧ SameTermAt L F k)) : meet L F k = meet L F (k - 1) := by
  cases k with
  | zero => rfl
  | succ k => rw [meet, if_neg h, Nat.add_sub_cancel]

/-- A refused request leaves what decides about the repair. -/
theorem repairable_refused {m : Option ℕ} (hk : 1 ≤ k)
    (hkL : k ≤ L.length) (hnot : ¬(k ≤ s.log.length ∧ SameTermAt L s.log k))
    (hF : F.take (k - 1) = s.log.take (k - 1)) (hnext : s.next = k + 1) (hlen : ¬L <+: F) :
    Repairable L { log := F, next := k, matched := m } ↔ Repairable L s := by
  have hs : s.start L = k := by
    rw [Repair.start_of_inside ⟨by omega, by omega⟩, hnext, Nat.add_sub_cancel]
  have hs' : Repair.start L { log := F, next := k, matched := m } = k - 1 :=
    Repair.start_of_inside ⟨hk, by change k ≤ _; omega⟩
  have hmeet : meet L F (k - 1) = meet L s.log k := by
    rw [meet_congr hF le_rfl, meet_of_not hnot]
  have htake : F.take (meet L s.log k) = s.log.take (meet L s.log k) := by
    have hle : meet L s.log k ≤ k - 1 := by
      rw [meet_of_not hnot]
      exact meet_le L s.log (k - 1)
    have := congrArg (List.take (meet L s.log k)) hF
    rwa [List.take_take, List.take_take, min_eq_left hle] at this
  have hpre : ¬L <+: s.log := fun h =>
    hnot ⟨hkL.trans h.length_le, SameTermAt.of_prefix h hkL⟩
  unfold Repairable
  rw [hs, hs']
  simp only [hmeet, htake]
  constructor
  · rintro ⟨-, h, -⟩
    exact ⟨hkL, h, fun hp => absurd hp hpre⟩
  · rintro ⟨-, h, -⟩
    exact ⟨by omega, h, fun hp => absurd hp hlen⟩

/-- An accepted request ends the repair, if it can end. -/
theorem repairable_accepted {m : Option ℕ} (hkL : k ≤ L.length) (hk : k ≤ s.log.length)
    (hsame : SameTermAt L s.log k) (hnext : s.next = k + 1) :
    Repairable L { log := splice s.log k (L.drop k)
                   next := (splice s.log k (L.drop k)).length + 1, matched := m } ↔
      Repairable L s := by
  have hs : s.start L = k := by
    rw [Repair.start_of_inside ⟨by omega, by omega⟩, hnext, Nat.add_sub_cancel]
  have hmeet : meet L s.log k = k := meet_of_same hk hsame
  set F' := splice s.log k (L.drop k) with hF'
  constructor
  · rintro ⟨hstart, htake, -⟩
    rw [Repair.start_of_next_eq rfl] at hstart htake
    change F'.length ≤ L.length at hstart
    have hlen : F'.length = L.length := by
      have hle : L.length ≤ F'.length ∨ L.length < k := le_length_splice hk
      omega
    have hsame' : SameTermAt L F' L.length := by
      rcases hkL.lt_or_eq with hlt | rfl
      · right
        have hdrop : F'.drop k = L.drop k := by
          have hpre : s.log.take k ++ L.drop k <+: F' := take_append_prefix_splice
          have hlen' : (s.log.take k ++ L.drop k).length = F'.length := by
            rw [List.length_append, List.length_take, List.length_drop, hlen]
            omega
          rw [← hpre.eq_of_length hlen', List.drop_append_of_le_length
            (by rw [List.length_take]; omega), List.drop_of_length_le
            (by rw [List.length_take]; omega), List.nil_append]
        have hget := congrArg (fun l => l[L.length - 1 - k]?) hdrop
        simp only [List.getElem?_drop] at hget
        rw [show k + (L.length - 1 - k) = L.length - 1 by omega] at hget
        rw [hget]
      · rw [hF', List.drop_length]
        have : splice s.log L.length [] = s.log := if_pos List.nil_prefix
        rwa [this]
    change F'.take (meet L F' F'.length) = L.take (meet L F' F'.length) at htake
    rw [hlen, meet_of_same hlen.ge hsame', List.take_length, ← hlen, List.take_length] at htake
    refine ⟨hs ▸ hkL, ?_, fun hp => ?_⟩
    · rw [hs, hmeet, ← take_splice hk (L.drop k), ← hF', htake]
    · have : F' = s.log := by
        rw [hF', splice, if_pos]
        obtain ⟨r, hr⟩ := hp
        rw [← hr, List.drop_append_of_le_length hkL]
        exact List.prefix_append _ _
      rw [← this, htake]
  · rintro ⟨-, htake, hpre⟩
    rw [hs, hmeet] at htake
    exact repairable_of_eq (splice_eq htake hpre)

/-- A step neither opens nor closes the way to a repaired log. -/
theorem repairable_step_iff : Repairable L (s.step L) ↔ Repairable L s := by
  by_cases hin : 1 ≤ s.next ∧ s.next ≤ L.length + 1
  · have hnext : s.next = s.next - 1 + 1 := by omega
    rcases Nat.lt_or_ge s.log.length (s.next - 1) with hlt | hge
    · rw [Repair.step_short hin hlt]
      refine repairable_refused (by omega) (by omega) (fun h => by omega) rfl hnext fun hp => ?_
      have := hp.length_le
      omega
    · by_cases hsame : SameTermAt L s.log (s.next - 1)
      · rw [Repair.step_accepted hin hge hsame]
        exact repairable_accepted (by omega) hge hsame hnext
      · have hpos : 1 ≤ s.next - 1 := by
          by_contra h
          exact hsame (Or.inl (by omega))
        rw [Repair.step_conflict hin hge hsame]
        refine repairable_refused hpos (by omega) (fun h => hsame h.2) ?_ hnext fun hp => ?_
        · rw [List.take_take, min_self]
        · have := hp.length_le
          rw [List.length_take] at this
          omega
  · rw [Repair.step_outside hin]
    unfold Repairable
    rw [Repair.start_of_outside hin, Repair.start_of_next_eq rfl]

/-! ## The end of a repair -/

/-- Inside of `L` the repair comes to its end in as many steps as `next` says. -/
theorem done_of_inside (hr : Repairable L s) (hin : 1 ≤ s.next ∧ s.next ≤ L.length + 1) :
    ∃ r, ((Repair.step L)^[r] s).Done L := by
  obtain ⟨k, hk⟩ : ∃ k, s.next = k + 1 := ⟨s.next - 1, by omega⟩
  induction k using Nat.strong_induction_on generalizing s with
  | _ k ih =>
    have hr' := repairable_step_iff.mpr hr
    have hs : s.start L = k := by rw [Repair.start_of_inside hin, hk, Nat.add_sub_cancel]
    have hk' : s.next - 1 = k := by omega
    by_cases hacc : k ≤ s.log.length ∧ SameTermAt L s.log k
    · have hstep := Repair.step_accepted hin (hk' ▸ hacc.1) (hk' ▸ hacc.2)
      obtain ⟨-, htake, hpre⟩ := hr
      rw [hs, meet_of_same hacc.1 hacc.2] at htake
      rw [hk', splice_eq htake hpre] at hstep
      exact ⟨1, by rw [Function.iterate_one, hstep]; exact ⟨rfl, rfl⟩⟩
    · have hpos : 1 ≤ k := by
        by_contra h
        obtain rfl : k = 0 := by omega
        exact hacc ⟨Nat.zero_le _, Or.inl rfl⟩
      have hnext : (s.step L).next = k := by
        rcases Nat.lt_or_ge s.log.length (s.next - 1) with hlt | hge
        · rw [Repair.step_short hin hlt]
          exact hk'
        · rw [Repair.step_conflict hin hge fun h => hacc ⟨hk' ▸ hge, hk' ▸ h⟩]
          exact hk'
      obtain ⟨r, hdone⟩ := ih (k - 1) (by omega) hr' ⟨by omega, by omega⟩ (by omega)
      exact ⟨r + 1, by rw [Function.iterate_succ_apply]; exact hdone⟩

/-- The repair comes to its end exactly when it can. -/
theorem repaired_iff : (∃ r, ((Repair.step L)^[r] s).Done L) ↔ Repairable L s := by
  constructor
  · rintro ⟨r, hdone⟩
    have hr := repairable_of_eq hdone.1
    clear hdone
    induction r with
    | zero => exact hr
    | succ r ih =>
      rw [Function.iterate_succ_apply', repairable_step_iff] at hr
      exact ih hr
  · intro hr
    by_cases hin : 1 ≤ s.next ∧ s.next ≤ L.length + 1
    · exact done_of_inside hr hin
    · have hlen : s.log.length ≤ L.length := by
        have := hr.1
        rwa [Repair.start_of_outside hin] at this
      have hr' := repairable_step_iff.mpr hr
      have hnext : (s.step L).next = s.log.length + 1 := by rw [Repair.step_outside hin]
      obtain ⟨r, hdone⟩ := done_of_inside hr' ⟨by omega, by omega⟩
      exact ⟨r + 1, by rw [Function.iterate_succ_apply]; exact hdone⟩

end TermLog

end BoostGateway
