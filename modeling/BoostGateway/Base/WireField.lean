import BoostGateway.Base.Bytes
import Mathlib.Data.Option.NAry
import Mathlib.Logic.Equiv.Basic

/-!
# Views of bytes and the fields they hold

A `ByteView` reads bytes off the front of a byte string. Its accesses are not checked by
themselves : one that needs more bytes than the view has left is an error of its own, not an
absent value.

A `WireField` is a writer and a reader of the values of one kind. The reader stays inside the
view; it gives back the values in `Fits` when it reads behind what was written of them, and
reads no others. Fields are put one after the other by `and`. A field is `Exact` when it
accepts a string only for the bytes that it writes of the value.
-/

namespace BoostGateway

/-- An access past the last byte. -/
inductive OutOfView
  | copy
  | drop
  deriving DecidableEq

/-- A reader of octets. -/
abbrev ByteView := StateT Bytes (Except OutOfView)

namespace ByteView

variable {α β : Type}

def size : ByteView ℕ := do return (← get).length

def copy (n : ℕ) : ByteView Bytes := do
  let data ← get
  if n ≤ data.length then return data.take n else throw .copy

def drop (n : ℕ) : ByteView Unit := do
  let data ← get
  if n ≤ data.length then set (data.drop n) else throw .drop

/-- `v` gives `a` on `data` and leaves `rest`. -/
def Gives (v : ByteView α) (data : Bytes) (a : α) (rest : Bytes) : Prop :=
  v.run data = .ok (a, rest)

theorem Gives.unique {v : ByteView α} {data rest rest' : Bytes} {a a' : α}
    (h : v.Gives data a rest) (h' : v.Gives data a' rest') : a = a' ∧ rest = rest' := by
  have := Except.ok.inj (h.symm.trans h')
  exact ⟨congrArg Prod.fst this, congrArg Prod.snd this⟩

variable {data : Bytes}

@[simp] theorem gives_pure_iff {rest : Bytes} {a b : α} :
    (pure a : ByteView α).Gives data b rest ↔ b = a ∧ rest = data := by
  simp only [Gives, StateT.run_pure]
  constructor
  · intro h
    have := Except.ok.inj h
    exact ⟨(congrArg Prod.fst this).symm, (congrArg Prod.snd this).symm⟩
  · rintro ⟨rfl, rfl⟩
    rfl

theorem gives_bind_iff {v : ByteView α} {k : α → ByteView β} {data rest : Bytes} {b : β} :
    (v >>= k).Gives data b rest ↔ ∃ a mid, v.Gives data a mid ∧ (k a).Gives mid b rest := by
  simp only [Gives, StateT.run_bind]
  constructor
  · intro h
    cases hv : v.run data with
    | error e =>
      rw [hv] at h
      cases h
    | ok p =>
      rw [hv] at h
      exact ⟨p.1, p.2, rfl, h⟩
  · rintro ⟨a, mid, hv, hk⟩
    rw [hv]
    exact hk

theorem Gives.bind {v : ByteView α} {k : α → ByteView β} {data mid rest : Bytes} {a : α} {b : β}
    (hv : v.Gives data a mid) (hk : (k a).Gives mid b rest) : (v >>= k).Gives data b rest :=
  gives_bind_iff.mpr ⟨a, mid, hv, hk⟩

@[simp] theorem gives_size_iff {rest : Bytes} {n : ℕ} :
    size.Gives data n rest ↔ n = data.length ∧ rest = data := by
  change (pure data.length : ByteView ℕ).Gives data n rest ↔ _
  exact gives_pure_iff

theorem gives_copy {n : ℕ} (h : n ≤ data.length) : (copy n).Gives data (data.take n) data := by
  rw [Gives, copy, StateT.run_bind, StateT.run_get, pure_bind, if_pos h]
  rfl

theorem gives_drop {n : ℕ} (h : n ≤ data.length) : (drop n).Gives data () (data.drop n) := by
  rw [Gives, drop, StateT.run_bind, StateT.run_get, pure_bind, if_pos h]
  rfl

/-- `v` stays inside every view. -/
def Total (v : ByteView α) : Prop := ∀ data, ∃ a rest, v.Gives data a rest

theorem total_pure (a : α) : (pure a : ByteView α).Total :=
  fun data => ⟨a, data, gives_pure_iff.mpr ⟨rfl, rfl⟩⟩

theorem Total.bind {v : ByteView α} {k : α → ByteView β} (hv : v.Total) (hk : ∀ a, (k a).Total) :
    (v >>= k).Total := by
  intro data
  obtain ⟨a, mid, ha⟩ := hv data
  obtain ⟨b, rest, hb⟩ := hk a mid
  exact ⟨b, rest, ha.bind hb⟩

/-! ## Readers that may find nothing -/

/-- `k` reads on when `v` found a value. -/
def andThen (v : ByteView (Option α)) (k : α → ByteView (Option β)) : ByteView (Option β) := do
  let some a ← v | return none
  k a

theorem bind_eq_andThen {v : ByteView (Option α)} {k : α → ByteView (Option β)}
    {m : Option α → ByteView (Option β)} (hnone : m none = pure none)
    (hsome : ∀ a, m (some a) = k a) : v >>= m = v.andThen k := by
  refine congrArg (v >>= ·) (funext fun o => ?_)
  cases o with
  | none => exact hnone
  | some a => exact hsome a

theorem Gives.andThen {v : ByteView (Option α)} {k : α → ByteView (Option β)} {a : α}
    {o : Option β} {data mid rest : Bytes} (hv : v.Gives data (some a) mid)
    (hk : (k a).Gives mid o rest) : (v.andThen k).Gives data o rest :=
  Gives.bind hv hk

theorem gives_andThen_iff {v : ByteView (Option α)} {k : α → ByteView (Option β)} {b : β}
    {data rest : Bytes} :
    (v.andThen k).Gives data (some b) rest ↔
      ∃ a mid, v.Gives data (some a) mid ∧ (k a).Gives mid (some b) rest := by
  constructor
  · intro h
    obtain ⟨o, mid, hv, hk⟩ := gives_bind_iff.mp h
    cases o with
    | none => cases (gives_pure_iff.mp hk).1
    | some a => exact ⟨a, mid, hv, hk⟩
  · rintro ⟨a, mid, hv, hk⟩
    exact hv.andThen hk

theorem Total.andThen {v : ByteView (Option α)} {k : α → ByteView (Option β)} (hv : v.Total)
    (hk : ∀ a, (k a).Total) : (v.andThen k).Total := by
  refine hv.bind fun o => ?_
  cases o with
  | none => exact total_pure none
  | some a => exact hk a

end ByteView

open ByteView

/-- A field, with its writer and reader. -/
structure WireField (α : Type) where
  write : α → Bytes
  read : ByteView (Option α)
  Fits : α → Prop
  total : read.Total
  gives_write : ∀ {a}, Fits a → ∀ rest, read.Gives (write a ++ rest) (some a) rest
  fits_of_gives : ∀ {data a rest}, read.Gives data (some a) rest → Fits a

namespace WireField

variable {α β γ : Type}

/-- Whatever is accepted is what is written of the value. -/
def Exact (f : WireField α) : Prop :=
  ∀ ⦃data a rest⦄, f.read.Gives data (some a) rest → data = f.write a ++ rest

/-- What the reader says of a whole byte string; the bytes that are left are ignored. -/
def accept (f : WireField α) (data : Bytes) : Except OutOfView (Option α) := f.read.run' data

theorem accept_of_gives {f : WireField α} {data rest : Bytes} {o : Option α}
    (h : f.read.Gives data o rest) : f.accept data = .ok o := by
  rw [accept, StateT.run'_eq]
  rw [Gives] at h
  rw [h]
  rfl

theorem gives_of_accept {f : WireField α} {data : Bytes} {o : Option α}
    (h : f.accept data = .ok o) : ∃ rest, f.read.Gives data o rest := by
  obtain ⟨o', rest, hg⟩ := f.total data
  cases Except.ok.inj (h.symm.trans (accept_of_gives hg))
  exact ⟨rest, hg⟩

theorem exists_accept (f : WireField α) (data : Bytes) : ∃ o, f.accept data = .ok o := by
  obtain ⟨o, _, h⟩ := f.total data
  exact ⟨o, accept_of_gives h⟩

theorem accept_write_append_iff (f : WireField α) (a : α) (rest : Bytes) :
    f.accept (f.write a ++ rest) = .ok (some a) ↔ f.Fits a := by
  constructor
  · intro h
    obtain ⟨rest, hg⟩ := gives_of_accept h
    exact f.fits_of_gives hg
  · intro h
    exact accept_of_gives (f.gives_write h rest)

theorem accept_write_iff (f : WireField α) (a : α) :
    f.accept (f.write a) = .ok (some a) ↔ f.Fits a := by
  simpa using f.accept_write_append_iff a []

theorem Exact.accept_iff {f : WireField α} (hf : f.Exact) {data : Bytes} {a : α} :
    f.accept data = .ok (some a) ↔ f.Fits a ∧ f.write a <+: data := by
  constructor
  · intro h
    obtain ⟨rest, hg⟩ := gives_of_accept h
    exact ⟨f.fits_of_gives hg, rest, (hf hg).symm⟩
  · rintro ⟨ha, rest, rfl⟩
    exact accept_of_gives (f.gives_write ha rest)

/-! ## One field after the other -/

/-- The second field is read even when the first was not accepted. -/
def and (f : WireField α) (g : WireField β) : WireField (α × β) where
  write p := f.write p.1 ++ g.write p.2
  read := do
    let a ← f.read
    let b ← g.read
    return Option.map₂ Prod.mk a b
  Fits p := f.Fits p.1 ∧ g.Fits p.2
  total := f.total.bind fun _ => g.total.bind fun _ => total_pure _
  gives_write := by
    rintro ⟨a, b⟩ ⟨ha, hb⟩ rest
    rw [List.append_assoc]
    exact (f.gives_write ha _).bind ((g.gives_write hb rest).bind (gives_pure_iff.mpr ⟨rfl, rfl⟩))
  fits_of_gives := by
    rintro data ⟨a, b⟩ rest h
    obtain ⟨a', mid, ha, h⟩ := gives_bind_iff.mp h
    obtain ⟨b', mid', hb, h⟩ := gives_bind_iff.mp h
    obtain ⟨heq, rfl⟩ := gives_pure_iff.mp h
    obtain ⟨a, b, rfl, rfl, hab⟩ := Option.map₂_eq_some_iff.mp heq.symm
    cases hab
    exact ⟨f.fits_of_gives ha, g.fits_of_gives hb⟩

theorem gives_and_iff {f : WireField α} {g : WireField β} {data rest : Bytes} {a : α} {b : β} :
    (f.and g).read.Gives data (some (a, b)) rest ↔
      ∃ mid, f.read.Gives data (some a) mid ∧ g.read.Gives mid (some b) rest := by
  constructor
  · intro h
    obtain ⟨a', mid, ha, h⟩ := gives_bind_iff.mp h
    obtain ⟨b', mid', hb, h⟩ := gives_bind_iff.mp h
    obtain ⟨heq, rfl⟩ := gives_pure_iff.mp h
    obtain ⟨a, b, rfl, rfl, hab⟩ := Option.map₂_eq_some_iff.mp heq.symm
    cases hab
    exact ⟨mid, ha, hb⟩
  · rintro ⟨mid, ha, hb⟩
    exact ha.bind (hb.bind (gives_pure_iff.mpr ⟨rfl, rfl⟩))

theorem Exact.and {f : WireField α} {g : WireField β} (hf : f.Exact) (hg : g.Exact) :
    (f.and g).Exact := by
  rintro data ⟨a, b⟩ rest h
  obtain ⟨mid, ha, hb⟩ := gives_and_iff.mp h
  rw [hf ha, hg hb]
  exact (List.append_assoc _ _ _).symm

/-- The field of no bytes. -/
def nothing : WireField Unit where
  write _ := []
  read := return some ()
  Fits _ := True
  total := total_pure _
  gives_write _ _ := gives_pure_iff.mpr ⟨rfl, rfl⟩
  fits_of_gives _ := trivial

theorem exact_nothing : nothing.Exact := fun _ _ _ h => (gives_pure_iff.mp h).2.symm

/-! ## Values in other words -/

/-- `f`, whose values are given as `α` by `e`, under another writer and reader. -/
def via (f : WireField β) (e : α ≃ β) (write : α → Bytes) (read : ByteView (Option α))
    (hwrite : ∀ a, write a = f.write (e a))
    (hread : read = do return (← f.read).map e.symm) : WireField α where
  write := write
  read := read
  Fits a := f.Fits (e a)
  total := by
    subst hread
    exact f.total.bind fun _ => total_pure _
  gives_write := by
    intro a ha rest
    subst hread
    rw [hwrite]
    refine (f.gives_write ha rest).bind (gives_pure_iff.mpr ⟨?_, rfl⟩)
    rw [Option.map_some, e.symm_apply_apply]
  fits_of_gives := by
    intro data a rest h
    subst hread
    obtain ⟨o, mid, ho, hp⟩ := gives_bind_iff.mp h
    obtain ⟨heq, rfl⟩ := gives_pure_iff.mp hp
    obtain ⟨b, rfl, rfl⟩ := Option.map_eq_some_iff.mp heq.symm
    rw [e.apply_symm_apply]
    exact f.fits_of_gives ho

theorem Exact.via {f : WireField β} (hf : f.Exact) (e : α ≃ β) {write : α → Bytes}
    {read : ByteView (Option α)} (hwrite : ∀ a, write a = f.write (e a))
    (hread : read = do return (← f.read).map e.symm) : (f.via e write read hwrite hread).Exact := by
  intro data a rest h
  subst hread
  obtain ⟨o, mid, ho, hp⟩ := gives_bind_iff.mp h
  obtain ⟨heq, rfl⟩ := gives_pure_iff.mp hp
  obtain ⟨b, rfl, rfl⟩ := Option.map_eq_some_iff.mp heq.symm
  change data = write _ ++ rest
  rw [hwrite, e.apply_symm_apply]
  exact hf ho

theorem accept_via_iff {f : WireField β} (e : α ≃ β) {write : α → Bytes}
    {read : ByteView (Option α)} (hwrite : ∀ a, write a = f.write (e a))
    (hread : read = do return (← f.read).map e.symm) {data : Bytes} {a : α} :
    (f.via e write read hwrite hread).accept data = .ok (some a) ↔
      f.accept data = .ok (some (e a)) := by
  subst hread
  obtain ⟨o, rest, ho⟩ := f.total data
  have hvia : (f.via e write _ hwrite rfl).read.Gives data (o.map e.symm) rest :=
    ho.bind (gives_pure_iff.mpr ⟨rfl, rfl⟩)
  rw [accept_of_gives hvia, accept_of_gives ho, Except.ok.injEq, Except.ok.injEq]
  cases o with
  | none => simp
  | some b => simp [Equiv.symm_apply_eq]

/-! ## Readers of records

A record is read field by field, and made when all of them were there. -/

section Records

variable {δ ρ : Type} (f : WireField α) (g : WireField β) (h : WireField γ) (i : WireField δ)

theorem read_one (mk : α → ρ) :
    (do let a ← f.read; return do return mk (← a)) =
      do return (← f.read).map mk :=
  bind_congr fun a => congrArg pure (by cases a <;> rfl)

theorem read_two (mk : α → β → ρ) :
    (do let a ← f.read; let b ← g.read; return do return mk (← a) (← b)) =
      do return (← (f.and g).read).map fun p => mk p.1 p.2 := by
  simp only [WireField.and, bind_assoc, pure_bind]
  exact bind_congr fun a => bind_congr fun b => congrArg pure (by cases a <;> cases b <;> rfl)

theorem read_three (mk : α → β → γ → ρ) :
    (do let a ← f.read; let b ← g.read; let c ← h.read
        return do return mk (← a) (← b) (← c)) =
      do return (← (f.and (g.and h)).read).map fun p => mk p.1 p.2.1 p.2.2 := by
  simp only [WireField.and, bind_assoc, pure_bind]
  exact bind_congr fun a => bind_congr fun b => bind_congr fun c =>
    congrArg pure (by cases a <;> cases b <;> cases c <;> rfl)

theorem read_four (mk : α → β → γ → δ → ρ) :
    (do let a ← f.read; let b ← g.read; let c ← h.read; let d ← i.read
        return do return mk (← a) (← b) (← c) (← d)) =
      do return (← (f.and (g.and (h.and i))).read).map fun p => mk p.1 p.2.1 p.2.2.1 p.2.2.2 := by
  simp only [WireField.and, bind_assoc, pure_bind]
  exact bind_congr fun a => bind_congr fun b => bind_congr fun c => bind_congr fun d =>
    congrArg pure (by cases a <;> cases b <;> cases c <;> cases d <;> rfl)

end Records

end WireField

end BoostGateway
