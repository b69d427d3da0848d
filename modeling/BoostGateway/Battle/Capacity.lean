import BoostGateway.Battle.BackendService

/-!
# The capacity of the battle backend

`create_instance` refuses a battle when there are `max_instances` entries in its map. The
service never calls `destroy_instance`, so a finished battle keeps its entry : the entries
are the battles ever created (`Counted`), and a creation succeeds exactly while fewer than
`max_instances` of them were created (`create_iff`), finished or not.
-/

namespace BoostGateway.Battle

open Realtime

/-- The ids of the battles created so far. -/
def createdIds (log : List RuntimeEvent) : List String :=
  log.filterMap fun
    | .instanceCreated id => some id
    | _ => none

namespace BattleBackend

/-- The battles created so far. -/
def created (s : BattleBackend) : List String := createdIds s.runtime.log

/-- The number of battles that are not finished. -/
def unfinished (s : BattleBackend) : ℕ :=
  (s.runtime.instances.entries.filter fun e => e.2.state ≠ .kFinished).length

/-- The map of the runtime has an entry for every battle ever created. -/
def Counted (s : BattleBackend) : Prop := s.runtime.instances.keys.Perm s.created

theorem createdIds_append (log events : List RuntimeEvent) :
    createdIds (log ++ events) = createdIds log ++ createdIds events :=
  List.filterMap_append

theorem createdIds_of_isWithin {events : List RuntimeEvent} (h : ∀ e ∈ events, e.isWithin) :
    createdIds events = [] := by
  refine List.filterMap_eq_nil_iff.mpr fun e he => ?_
  have hwithin := h e he
  cases e <;> simp_all [RuntimeEvent.isWithin]

variable {s : BattleBackend}

theorem mem_keys_iff {battleId : String} :
    battleId ∈ s.runtime.instances.keys ↔ s.runtime.find battleId ≠ none := by
  rw [InstanceRuntime.find, Ne, AList.lookup_eq_none, not_not, AList.mem_keys]

theorem Counted.find_eq_none (h : s.Counted) {battleId : String} (hfresh : battleId ∉ s.created) :
    s.runtime.find battleId = none := by
  by_contra hfind
  exact hfresh (h.mem_iff.mp (mem_keys_iff.mpr hfind))

theorem Counted.call (hconf : s.core.Configured) (h : s.Counted) (c : BattleCall) :
    (s.call c).1.Counted := by
  obtain ⟨-, -, hr | ⟨battleId, inst, hfind, hr⟩ | ⟨battleId, inst, inst', events, hfind, hevents,
    hr⟩⟩ := runtime_call_cases hconf c
  · rw [Counted, created, hr]
    exact h
  · have hkey : battleId ∉ s.runtime.instances.keys := fun hmem =>
      mem_keys_iff.mp hmem hfind
    have hkeys : (s.runtime.instances.insert battleId inst).keys =
        battleId :: s.runtime.instances.keys := by
      rw [AList.keys_insert, List.erase_of_not_mem hkey]
    have hids : createdIds (s.runtime.log ++ [RuntimeEvent.instanceCreated battleId]) =
        s.created ++ [battleId] := createdIds_append _ _
    rw [Counted, created, hr, InstanceRuntime.put, hkeys, hids]
    exact (List.Perm.cons battleId h).trans (List.perm_append_singleton _ _).symm
  · have hkey : battleId ∈ s.runtime.instances.keys := mem_keys_iff.mpr (by simp [hfind])
    have hids : createdIds (s.runtime.log ++ events) = s.created := by
      rw [createdIds_append, createdIds_of_isWithin fun e he => (hevents e he).2, List.append_nil]
      rfl
    rw [Counted, created, hr, InstanceRuntime.put, AList.keys_insert, hids]
    exact (List.perm_cons_erase hkey).symm.trans h

end BattleBackend

namespace Serving

theorem counted {s : Serving} (hr : Reaches (fun _ _ => True) s) :
    s.backend.core.Configured ∧ s.backend.Counted :=
  hr.invariant_call (P := fun s => s.backend.Counted) (fun _ _ _ _ _ => List.Perm.nil)
    (fun _ _ h _ => h) fun _ _ c hconf h _ _ => h.call hconf c

/-- A creation of a battle with a new id succeeds while fewer than `max_instances` battles
are unfinished exactly when fewer than that were created at all, or that many are
unfinished. -/
theorem create_iff {s : Serving} (hr : Reaches (fun _ _ => True) s)
    (htype : s.backend.instanceType = "battle") {req : BattleRequest} {nowMs : ℤ}
    {battleId roomId : String} {playerIds : List String} {maxFrames : UInt32}
    (hread : req.read = .ok (.inr (.battleCreate nowMs battleId roomId playerIds maxFrames)))
    (hfresh : battleId ∉ s.backend.created) :
    (s.backend.unfinished < s.backend.runtime.maxInstances.toNat →
      ∃ body, (s.backend.handle req).2 = some (.ok body)) ↔
    s.backend.created.length < s.backend.runtime.maxInstances.toNat ∨
      s.backend.runtime.maxInstances.toNat ≤ s.backend.unfinished := by
  obtain ⟨hconf, hcounted⟩ := counted hr
  have hfind := hcounted.find_eq_none hfresh
  have hlen : s.backend.runtime.instances.keys.length = s.backend.created.length :=
    hcounted.length_eq
  have hreply : (s.backend.handle req).2 =
      some (s.backend.battleCreate nowMs battleId roomId playerIds maxFrames).2 := by
    simp [BattleBackend.handle, hread, BattleBackend.call]
  rw [hreply]
  rcases BattleBackend.battleCreate_cases hconf nowMs battleId roomId playerIds maxFrames with
    ⟨-, ⟨code, reason, herror⟩, hfull⟩ | ⟨inst, -, hsize, -, -, hok, -⟩
  · have hmax := hfull htype hfind
    rw [herror]
    constructor
    · intro h
      by_contra hcon
      obtain ⟨body, hbody⟩ := h (by omega)
      cases hbody
    · rintro (h | h) hlt
      · omega
      · omega
  · obtain ⟨-, body, hbody⟩ := hok (read_battleCreate hread)
    exact ⟨fun _ => .inl (by omega), fun _ _ => ⟨body, by rw [hbody]⟩⟩

/-! ## A full service -/

/-- With nothing created yet a battle can be. -/
theorem create_first : ∃ body,
    (fresh.backend.handle (createRequest "b" 0)).2 = some (.ok body) :=
  (create_iff (.init ⟨_, _, _, _, _, rfl⟩) rfl (read_createRequest (by decide) 0)
    (by decide)).mpr
    (.inl (by decide)) (by decide)

/-- The name of the battle that is created after `n` others. -/
def nameOf (n : ℕ) : String := String.ofList (List.replicate (n + 1) 'b')

theorem nameOf_injective : Function.Injective nameOf := by
  intro m n h
  have hlen := congrArg List.length (String.ofList_injective h)
  simpa using hlen

theorem nameOf_ne_empty (n : ℕ) : nameOf n ≠ "" := by
  intro h
  have hlen := congrArg (fun text => text.toList.length) h
  simp [nameOf] at hlen

theorem unfinished_eq_zero {s : BattleBackend}
    (h : ∀ battleId inst, s.runtime.find battleId = some inst → inst.state = .kFinished) :
    s.unfinished = 0 := by
  refine List.length_eq_zero_iff.mpr (List.filter_eq_nil_iff.mpr fun e he => ?_)
  simpa using h e.1 e.2 (AList.mem_lookup_iff.mpr he)

/-- The service was started without options, created `n` battles, and finished each of
them. -/
structure Spent (n : ℕ) (s : Serving) : Prop where
  reaches : Reaches (fun _ _ => True) s
  instanceType : s.backend.instanceType = "battle"
  maxInstances : s.backend.runtime.maxInstances = 1024
  created : s.backend.created = (List.range n).map nameOf
  finished : ∀ battleId inst, s.backend.runtime.find battleId = some inst →
    inst.state = .kFinished

theorem Spent.nameOf_not_mem {n : ℕ} {s : Serving} (h : Spent n s) :
    nameOf n ∉ s.backend.created := by
  rw [h.created, List.mem_map]
  rintro ⟨m, hm, heq⟩
  exact (List.mem_range.mp hm).ne (nameOf_injective heq)

/-- One more battle is created and finished. -/
theorem Spent.next {n : ℕ} {s : Serving} (h : Spent n s) (hn : n < 1024) :
    ∃ s', Spent (n + 1) s' := by
  obtain ⟨hconf, hcounted⟩ := counted h.reaches
  have hfind := hcounted.find_eq_none h.nameOf_not_mem
  have hlen : s.backend.runtime.instances.keys.length = n := by
    rw [hcounted.length_eq, h.created, List.length_map, List.length_range]
  have hsize : s.backend.runtime.instances.keys.length <
      s.backend.runtime.maxInstances.toNat := by
    rw [hlen, h.maxInstances]
    exact hn
  obtain ⟨s₁, s₂, inst', hs₁, hs₂, hcore₂⟩ :=
    create_finish hconf h.instanceType (nameOf_ne_empty n) hfind hsize 0
  have hout : (InstanceRuntime.finished (nameOf n) inst' .kUserRequested).1.state = .kFinished ∧
      createdIds (InstanceRuntime.finished (nameOf n) inst' .kUserRequested).2 = [] := ⟨rfl, rfl⟩
  generalize InstanceRuntime.finished (nameOf n) inst' .kUserRequested = out at hout hcore₂
  have hr₂ : s₂.backend.runtime = s.backend.runtime.put (nameOf n) out.1
      (.instanceCreated (nameOf n) :: out.2) := congrArg Core.runtime hcore₂
  refine ⟨s₂, .step (.step h.reaches trivial hs₁) trivial hs₂,
    (congrArg Core.instanceType hcore₂).trans h.instanceType,
    (congrArg (fun c => c.runtime.maxInstances) hcore₂).trans h.maxInstances, ?_, ?_⟩
  · have hids : createdIds (s.backend.runtime.log ++ .instanceCreated (nameOf n) :: out.2) =
        s.backend.created ++ [nameOf n] := by
      rw [List.append_cons, BattleBackend.createdIds_append, BattleBackend.createdIds_append,
        hout.2, List.append_nil]
      rfl
    rw [BattleBackend.created, hr₂, InstanceRuntime.put, hids, List.range_succ, List.map_append,
      ← h.created]
    rfl
  · intro battleId inst'' hinst''
    rw [hr₂] at hinst''
    by_cases hid : battleId = nameOf n
    · rw [hid, InstanceRuntime.find_put_self] at hinst''
      cases hinst''
      exact hout.1
    · rw [InstanceRuntime.find_put_of_ne _ hid] at hinst''
      exact h.finished battleId inst'' hinst''

theorem exists_spent {n : ℕ} (hn : n ≤ 1024) : ∃ s, Spent n s := by
  induction n with
  | zero =>
    exact ⟨fresh, .init ⟨_, _, _, _, _, rfl⟩, rfl, rfl, rfl,
      by simp [fresh, BattleBackend.initial, InstanceRuntime.find]⟩
  | succ n ih =>
    obtain ⟨s, hs⟩ := ih (by omega)
    exact hs.next hn

/-- After 1024 battles that are all finished no battle can be created. -/
theorem not_create_spent : ∃ s, Reaches (fun _ _ => True) s ∧
    s.backend.instanceType = "battle" ∧ s.backend.runtime.maxInstances = 1024 ∧
    nameOf 1024 ∉ s.backend.created ∧ s.backend.unfinished = 0 ∧
    (s.backend.handle (createRequest (nameOf 1024) 0)).2 =
      some (.error (-2004) "battle_already_exists") := by
  obtain ⟨s, hs⟩ := exists_spent le_rfl
  obtain ⟨-, hcounted⟩ := counted hs.reaches
  have hlen : s.backend.runtime.instances.keys.length = 1024 := by
    rw [hcounted.length_eq, hs.created, List.length_map, List.length_range]
  have hmax : s.backend.runtime.maxInstances.toNat ≤ s.backend.runtime.instances.keys.length := by
    rw [hlen, hs.maxInstances]
    decide
  refine ⟨s, hs.reaches, hs.instanceType, hs.maxInstances, hs.nameOf_not_mem,
    unfinished_eq_zero hs.finished, ?_⟩
  simp [BattleBackend.handle, read_createRequest (nameOf_ne_empty 1024) 0, BattleBackend.call,
    BattleBackend.battleCreate, InstanceRuntime.createInstance,
    hcounted.find_eq_none hs.nameOf_not_mem, hmax]

end Serving

end BoostGateway.Battle
