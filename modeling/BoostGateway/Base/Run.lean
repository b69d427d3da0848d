import Mathlib.Logic.Basic

/-!
# Runs of a transition system

A system is a set of initial states and a step function that may refuse an action.
`Reaches init step ok` holds of the states at the end of a run whose actions all
meet `ok`, a condition on the state before the action. A property of every such
state is an invariant (`Reaches.invariant`), and a concrete run is evaluated with
`runWith`, which checks `ok` on the way (`Reaches.runWith`, `Reaches.exists_runWith`).
-/

namespace BoostGateway

variable {σ α : Type*}

/-- The states reached from `init` by actions that meet `ok`. -/
inductive Reaches (init : σ → Prop) (step : σ → α → Option σ) (ok : σ → α → Prop) : σ → Prop
  | init {s : σ} : init s → Reaches init step ok s
  | step {s s' : σ} {a : α} : Reaches init step ok s → ok s a → step s a = some s' →
      Reaches init step ok s'

variable {init : σ → Prop} {step : σ → α → Option σ} {ok : σ → α → Prop}

/-- What holds initially and is kept by every action holds of every state reached. -/
theorem Reaches.invariant {P : σ → Prop} {s : σ} (h : Reaches init step ok s)
    (hinit : ∀ s, init s → P s)
    (hstep : ∀ s a s', P s → ok s a → step s a = some s' → P s') : P s := by
  induction h with
  | init h0 => exact hinit _ h0
  | step _ hok hs ih => exact hstep _ _ _ ih hok hs

/-- The state after a list of actions; `none` when one is refused or fails `ok`. -/
def runWith (step : σ → α → Option σ) (ok : σ → α → Prop) [∀ s a, Decidable (ok s a)] (s : σ)
    (as : List α) : Option σ :=
  as.foldlM (fun s a => if ok s a then step s a else none) s

theorem Reaches.runWith [∀ s a, Decidable (ok s a)] {s s' : σ} {as : List α}
    (h : Reaches init step ok s) (hr : runWith step ok s as = some s') :
    Reaches init step ok s' := by
  induction as generalizing s with
  | nil =>
    obtain rfl : s = s' := by simpa [BoostGateway.runWith] using hr
    exact h
  | cons a as ih =>
    obtain ⟨s₁, ⟨hok, h₁⟩, h₂⟩ : ∃ s₁, (ok s a ∧ step s a = some s₁) ∧
        BoostGateway.runWith step ok s₁ as = some s' := by
      simpa [BoostGateway.runWith, Option.bind_eq_some_iff] using hr
    exact ih (.step h hok h₁) h₂

theorem exists_of_any {x : Option σ} {P : σ → Prop} [DecidablePred P]
    (h : x.any fun s => decide (P s)) : ∃ s, x = some s ∧ P s := by
  obtain ⟨s, hs, hp⟩ := (Option.any_eq_true _ x).mp h
  exact ⟨s, hs, of_decide_eq_true hp⟩

/-- The run ends in a state with the property, as its evaluation shows. -/
theorem Reaches.exists_runWith [∀ s a, Decidable (ok s a)] {s : σ} {P : σ → Prop}
    [DecidablePred P] (h : Reaches init step ok s) (as : List α)
    (hr : (BoostGateway.runWith step ok s as).any fun s => decide (P s)) :
    ∃ s', Reaches init step ok s' ∧ P s' := by
  obtain ⟨s', hs, hp⟩ := exists_of_any hr
  exact ⟨s', h.runWith hs, hp⟩

end BoostGateway
