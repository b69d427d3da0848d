import BoostGateway.Base.Json

/-!
# Members read into a record

A record is filled from an object by one assignment after another, each of a member, or of a
default where the member is missing. A member of another type raises, and what was assigned
before stays. A `Field` is such an assignment, with the types that its conversion takes.

`writeAll_of_hasTypes` and `writeAll_raises` : the assignments are all made exactly when the
value is an object whose members have these types.
-/

namespace BoostGateway

namespace Json

theorem returns_getBool (j : Json) : Returns j.getBool ↔ j.isBool := by
  cases j <;> simp [getBool, isBool]

variable {σ : Type}

/-- The assignment of a member to a field of a record. -/
structure Field (σ : Type) where
  key : String
  /-- The conversion of the member, with the assignment of what it returns. -/
  get : Json → Except TypeError (σ → σ)
  /-- The assignment of the default. -/
  fallback : σ → σ
  typed : Json → Bool
  returns_get : ∀ j, Returns (get j) ↔ typed j

/-- `record.field = j.value(key, fallback)`. -/
def field {α : Type} (get : Json → Except TypeError α) {typed : Json → Bool}
    (h : ∀ j, Returns (get j) ↔ typed j) (key : String) (fallback : α) (set : α → σ → σ) :
    Field σ where
  key := key
  get j := (get j).map set
  fallback := set fallback
  typed := typed
  returns_get j := by
    rw [← h j]
    cases get j with
    | error e => simp [Except.map]
    | ok a => simp [Except.map]

/-- The assignments in their order, and the record they leave. -/
def writeAll : List (Field σ) → Json → σ → Except TypeError Unit × σ
  | [], _, s => (.ok (), s)
  | f :: fs, j, s =>
    match j.value f.get f.key f.fallback with
    | .error e => (.error e, s)
    | .ok set => writeAll fs j (set s)

/-- The value is an object, and its members have the types of the fields. -/
def HasTypes (fs : List (Field σ)) (j : Json) : Prop :=
  ∀ f ∈ fs, (∃ ms, j = .object ms) ∧ (j.find? f.key).all f.typed

/-- What the assignments make of a record where none raises. -/
def readAll (fs : List (Field σ)) (j : Json) (s : σ) : σ :=
  fs.foldl (fun s f => ((j.value f.get f.key f.fallback).toOption.getD id) s) s

theorem Field.returns_value (f : Field σ) (j : Json) :
    Returns (j.value f.get f.key f.fallback) ↔
      (∃ ms, j = .object ms) ∧ (j.find? f.key).all f.typed := by
  cases j with
  | object ms =>
    rw [Json.returns_value f.returns_get ⟨ms, rfl⟩]
    simp
  | _ => simp [value]

theorem writeAll_of_hasTypes {fs : List (Field σ)} {j : Json} (h : HasTypes fs j) (s : σ) :
    writeAll fs j s = (.ok (), readAll fs j s) := by
  induction fs generalizing s with
  | nil => rfl
  | cons f fs ih =>
    obtain ⟨hf, hfs⟩ := List.forall_mem_cons.mp h
    obtain ⟨set, hset⟩ := (f.returns_value j).mpr hf
    rw [writeAll, hset]
    dsimp only
    rw [ih hfs, readAll, readAll, List.foldl_cons, hset]
    rfl

theorem writeAll_raises {fs : List (Field σ)} {j : Json} (h : ¬HasTypes fs j) (s : σ) :
    ∃ e s', writeAll fs j s = (.error e, s') := by
  induction fs generalizing s with
  | nil => exact absurd (List.forall_mem_nil _) h
  | cons f fs ih =>
    rw [writeAll]
    cases hvalue : j.value f.get f.key f.fallback with
    | error e => exact ⟨e, s, rfl⟩
    | ok set =>
      have hf := (f.returns_value j).mp ⟨set, hvalue⟩
      exact ih (fun hfs => h (List.forall_mem_cons.mpr ⟨hf, hfs⟩)) (set s)

end Json

end BoostGateway
