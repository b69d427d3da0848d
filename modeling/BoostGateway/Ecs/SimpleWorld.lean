import BoostGateway.Base.Run
import Mathlib

/-!
# The store of a world

`SimpleWorld` (`world.cpp`) keeps the entities in `entity_storage_`, their handles in a pool
with `handle_map_`, and their components in one map for each type. `EntityTable` is what it is
for : which handles were created and destroyed, and the last component added to each.

As long as fewer than 2^32 - 1 entities have been created the world is the table
(`WorldRun.Reaches.sound_iff`). The generation of every entity is 1, so that the one with the
id 0 is taken for no entity, and those after it for the first ones.

Where an entity is stored, in an arena or on the heap, is left out.
-/

namespace BoostGateway.Ecs

/-- The number of an entity. -/
abbrev EntityId := UInt32

/-- The number of a type of components. -/
abbrev ComponentTypeId := UInt32

/-- A handle. -/
structure EntityHandle where
  id : EntityId := 0
  generation : UInt32 := 0
  deriving DecidableEq

/-- `valid`. -/
def EntityHandle.valid (h : EntityHandle) : Bool := h.id ≠ 0

/-- An entity as the world keeps it. -/
structure EntityStorage where
  generation : UInt32

/-- The slots of an `ObjectPool` are numbered by their blocks. -/
structure ObjectPool where
  freeList : List ℕ := []
  blocks : ℕ := 0
  maxBlocks : ℕ := 0

namespace ObjectPool

/-- The slots in a block. -/
def blockSize : ℕ := 256

/-- The slot allocated last is the first that is free. -/
def allocateBlock (p : ObjectPool) : ObjectPool :=
  { p with
    freeList := ((List.range blockSize).map (p.blocks * blockSize + ·)).reverse ++ p.freeList
    blocks := p.blocks + 1 }

/-- A pool without a maximum is never exhausted. -/
def acquire (p : ObjectPool) : Option (ℕ × ObjectPool) :=
  let grown : ObjectPool :=
    if p.freeList.isEmpty ∧ ¬(0 < p.maxBlocks ∧ p.maxBlocks ≤ p.blocks) then p.allocateBlock else p
  match grown.freeList with
  | [] => none
  | slot :: freeList => some (slot, { grown with freeList })

/-- `release`. -/
def release (p : ObjectPool) (slot : ℕ) : ObjectPool := { p with freeList := slot :: p.freeList }

end ObjectPool

variable {C : Type}

/-- A world with components of the type `C`. -/
structure SimpleWorld (C : Type) where
  componentStores : ComponentTypeId → Option (EntityId → Option C) := fun _ => none
  entityStorage : EntityId → Option EntityStorage := fun _ => none
  handleMap : EntityId → Option ℕ := fun _ => none
  nextEntityId : EntityId := 1
  handlePool : ObjectPool := {}

namespace SimpleWorld

variable (w : SimpleWorld C)

/-- `create_entity`. -/
def createEntity : SimpleWorld C × EntityHandle :=
  let entityId := w.nextEntityId
  let storage : EntityStorage := { generation := 1 }
  let w := { w with
    nextEntityId := entityId + 1
    entityStorage := Function.update w.entityStorage entityId (some storage) }
  let handle : EntityHandle := { id := entityId, generation := storage.generation }
  match w.handlePool.acquire with
  | some (slot, handlePool) =>
    ({ w with
      handlePool
      handleMap := Function.update w.handleMap entityId (some slot) }, handle)
  | none => (w, handle)

/-- `exists` -/
def existsEntity (h : EntityHandle) : Bool :=
  h.valid && (w.entityStorage h.id).any (·.generation = h.generation)

/-- `destroy_entity`. -/
def destroyEntity (h : EntityHandle) : SimpleWorld C :=
  if w.existsEntity h then
    let w := { w with
      componentStores := fun typeId =>
        (w.componentStores typeId).map fun store => Function.update store h.id none
      entityStorage := Function.update w.entityStorage h.id none }
    match w.handleMap h.id with
    | some slot =>
      { w with
        handlePool := w.handlePool.release slot
        handleMap := Function.update w.handleMap h.id none }
    | none => w
  else w

/-- `add_component_erased`, with the component that is stored. -/
def addComponent (h : EntityHandle) (typeId : ComponentTypeId) :
    Option C → SimpleWorld C × Option C
  | none => (w, none)
  | some component =>
    if w.existsEntity h then
      let store := (w.componentStores typeId).getD fun _ => none
      ({ w with
        componentStores := Function.update w.componentStores typeId
          (some (Function.update store h.id (some component))) }, some component)
    else (w, none)

/-- `get_component_erased` -/
def getComponent (h : EntityHandle) (typeId : ComponentTypeId) : Option C :=
  if w.existsEntity h then
    match w.componentStores typeId with
    | none => none
    | some store => store h.id
  else none

/-- `remove_component_erased` -/
def removeComponent (h : EntityHandle) (typeId : ComponentTypeId) : SimpleWorld C × Bool :=
  if w.existsEntity h then
    match w.componentStores typeId with
    | none => (w, false)
    | some store =>
      ({ w with
        componentStores := Function.update w.componentStores typeId
          (some (Function.update store h.id none)) }, (store h.id).isSome)
  else (w, false)

/-- What is stored, whoever asks. -/
def component (typeId : ComponentTypeId) (id : EntityId) : Option C :=
  (w.componentStores typeId).bind (· id)

end SimpleWorld

/-! ## What a world is for -/

/-- The entities, in terms of handles. -/
structure EntityTable (C : Type) where
  created : List EntityHandle := []
  destroyed : List EntityHandle := []
  components : EntityHandle → ComponentTypeId → Option C := fun _ _ => none

namespace EntityTable

/-- The entity is alive. -/
def Alive (t : EntityTable C) (h : EntityHandle) : Prop := h ∈ t.created ∧ h ∉ t.destroyed

instance (t : EntityTable C) (h : EntityHandle) : Decidable (t.Alive h) :=
  inferInstanceAs (Decidable (h ∈ t.created ∧ h ∉ t.destroyed))

/-- A new entity. -/
def create (t : EntityTable C) (h : EntityHandle) : EntityTable C :=
  { t with
    created := h :: t.created
    components := Function.update t.components h fun _ => none }

/-- An entity is destroyed, if it is alive. -/
def destroy (t : EntityTable C) (h : EntityHandle) : EntityTable C :=
  if t.Alive h then { t with destroyed := h :: t.destroyed } else t

/-- The component of an entity is put in its place, or taken away. -/
def set (t : EntityTable C) (h : EntityHandle) (typeId : ComponentTypeId) (c : Option C) :
    EntityTable C :=
  if t.Alive h then
    { t with
      components := Function.update t.components h (Function.update (t.components h) typeId c) }
  else t

variable {t : EntityTable C} {h : EntityHandle}

theorem alive_create {new : EntityHandle} (hnew : new ∉ t.created)
    (hdestroyed : ∀ h ∈ t.destroyed, h ∈ t.created) :
    (t.create new).Alive h ↔ h = new ∨ t.Alive h := by
  refine (and_congr_left' List.mem_cons).trans ?_
  rw [or_and_right]
  refine or_congr_left (and_iff_left_of_imp ?_)
  rintro rfl hmem
  exact hnew (hdestroyed _ hmem)

theorem alive_destroy {gone : EntityHandle} (halive : t.Alive gone) :
    (t.destroy gone).Alive h ↔ h ≠ gone ∧ t.Alive h := by
  rw [destroy, if_pos halive]
  unfold Alive
  dsimp only
  rw [List.mem_cons, not_or, and_left_comm]

end EntityTable

/-- The calls. -/
inductive WorldOp (C : Type)
  | createEntity
  | destroyEntity (h : EntityHandle)
  | addComponent (h : EntityHandle) (typeId : ComponentTypeId) (component : Option C)
  | removeComponent (h : EntityHandle) (typeId : ComponentTypeId)
  | getComponent (h : EntityHandle) (typeId : ComponentTypeId)

/-- The entity that the operation is on. -/
def WorldOp.handle? : WorldOp C → Option EntityHandle
  | .createEntity => none
  | .destroyEntity h | .addComponent h _ _ | .removeComponent h _ | .getComponent h _ => some h

/-- A world with the table beside it. -/
structure WorldRun (C : Type) where
  world : SimpleWorld C := {}
  table : EntityTable C := {}

namespace WorldRun

/-- One call. -/
def step (s : WorldRun C) : WorldOp C → Option (WorldRun C)
  | .createEntity =>
    let (world, h) := s.world.createEntity
    some { world, table := s.table.create h }
  | .destroyEntity h =>
    some { world := s.world.destroyEntity h, table := s.table.destroy h }
  | .addComponent h typeId component =>
    some {
      world := (s.world.addComponent h typeId component).1
      table := if component.isSome then s.table.set h typeId component else s.table }
  | .removeComponent h typeId =>
    some {
      world := (s.world.removeComponent h typeId).1
      table := s.table.set h typeId none }
  | .getComponent _ _ => some s

/-- The world is the table. -/
structure Sound (s : WorldRun C) : Prop where
  fresh : s.table.created.Nodup
  live : ∀ h, s.world.existsEntity h = true ↔ s.table.Alive h
  owned : ∀ typeId id, (s.world.component typeId id).isSome = true →
    ∃ h, s.table.Alive h ∧ h.id = id
  gone : ∀ h typeId, ¬s.table.Alive h → s.world.getComponent h typeId = none
  last : ∀ h typeId, s.table.Alive h →
    s.world.getComponent h typeId = s.table.components h typeId

/-- The operation leaves what the other entities have. -/
def Frames (s : WorldRun C) (op : WorldOp C) (s' : WorldRun C) : Prop :=
  ∀ h typeId, op.handle? ≠ some h →
    s'.world.getComponent h typeId = s.world.getComponent h typeId

/-- There is an id for one more entity. -/
def Fits (s : WorldRun C) : WorldOp C → Prop
  | .createEntity => s.table.created.length + 1 < 2 ^ 32
  | _ => True

instance (s : WorldRun C) : ∀ op, Decidable (s.Fits op)
  | .createEntity => inferInstanceAs (Decidable (s.table.created.length + 1 < 2 ^ 32))
  | .destroyEntity _ | .addComponent _ _ _ | .removeComponent _ _ | .getComponent _ _ =>
    isTrue trivial

abbrev Reaches (ok : WorldRun C → WorldOp C → Prop) : WorldRun C → Prop :=
  BoostGateway.Reaches (· = {}) step ok

/-- How the world represents the table. -/
structure Represents (s : WorldRun C) : Prop where
  next : s.world.nextEntityId = UInt32.ofNat (s.table.created.length + 1)
  room : s.table.created.length < 2 ^ 32
  nodup : s.table.created.Nodup
  ids : ∀ h ∈ s.table.created,
    h.generation = 1 ∧ 0 < h.id.toNat ∧ h.id.toNat ≤ s.table.created.length
  destroyed : ∀ h ∈ s.table.destroyed, h ∈ s.table.created
  storage : ∀ id, (s.world.entityStorage id).map (·.generation) =
    if s.table.Alive ⟨id, 1⟩ then some 1 else none
  components : ∀ typeId id, s.world.component typeId id =
    if s.table.Alive ⟨id, 1⟩ then s.table.components ⟨id, 1⟩ typeId else none

end WorldRun

/-! ## The operations -/

namespace SimpleWorld

variable {w : SimpleWorld C} {h : EntityHandle} {typeId : ComponentTypeId}

theorem createEntity_handle : w.createEntity.2 = ⟨w.nextEntityId, 1⟩ := by
  unfold createEntity
  dsimp only
  split <;> rfl

theorem createEntity_stores : w.createEntity.1.nextEntityId = w.nextEntityId + 1 ∧
    w.createEntity.1.entityStorage =
      Function.update w.entityStorage w.nextEntityId (some { generation := 1 }) ∧
    w.createEntity.1.componentStores = w.componentStores := by
  unfold createEntity
  dsimp only
  split <;> exact ⟨rfl, rfl, rfl⟩

theorem destroyEntity_stores (hexists : w.existsEntity h = true) :
    (w.destroyEntity h).nextEntityId = w.nextEntityId ∧
    (w.destroyEntity h).entityStorage = Function.update w.entityStorage h.id none ∧
    (w.destroyEntity h).componentStores = fun typeId =>
      (w.componentStores typeId).map fun store => Function.update store h.id none := by
  unfold destroyEntity
  rw [if_pos hexists]
  dsimp only
  split <;> exact ⟨rfl, rfl, rfl⟩

theorem component_destroyEntity (hexists : w.existsEntity h = true) (id : EntityId) :
    (w.destroyEntity h).component typeId id =
      if id = h.id then none else w.component typeId id := by
  unfold component
  rw [(destroyEntity_stores hexists).2.2]
  dsimp only
  cases w.componentStores typeId with
  | none => exact (ite_self none).symm
  | some store => exact Function.update_apply store h.id none id

theorem getComponent_eq : w.getComponent h typeId =
    if w.existsEntity h then w.component typeId h.id else none := by
  unfold getComponent component
  cases w.componentStores typeId <;> rfl

/-- One component is put in its place, or taken away. -/
theorem component_update (w : SimpleWorld C) (id : EntityId) (typeId : ComponentTypeId)
    (c : Option C) (typeId' : ComponentTypeId) (id' : EntityId) :
    component { w with
      componentStores := Function.update w.componentStores typeId
        (some (Function.update ((w.componentStores typeId).getD fun _ => none) id c)) }
      typeId' id' =
      if typeId' = typeId ∧ id' = id then c else w.component typeId' id' := by
  unfold component
  dsimp only
  obtain rfl | htype := eq_or_ne typeId' typeId
  · rw [Function.update_self, Option.bind_some, Function.update_apply]
    split_ifs with hid hpair hpair
    · rfl
    · exact absurd ⟨rfl, hid⟩ hpair
    · exact absurd hpair.2 hid
    · cases w.componentStores typeId' <;> rfl
  · rw [Function.update_of_ne htype, if_neg fun hpair => htype hpair.1]

theorem addComponent_some (hexists : w.existsEntity h = true) (c : C) :
    (w.addComponent h typeId (some c)).1 =
      { w with
        componentStores := Function.update w.componentStores typeId
          (some (Function.update ((w.componentStores typeId).getD fun _ => none) h.id
            (some c))) } := by
  unfold addComponent
  dsimp only
  rw [if_pos hexists]

theorem component_removeComponent (hexists : w.existsEntity h = true)
    (typeId' : ComponentTypeId) (id : EntityId) :
    (w.removeComponent h typeId).1.component typeId' id =
      if typeId' = typeId ∧ id = h.id then none else w.component typeId' id := by
  have hupdate := component_update w h.id typeId none typeId' id
  unfold removeComponent
  rw [if_pos hexists]
  cases hstore : w.componentStores typeId with
  | none =>
    dsimp only
    split_ifs with hpair
    · rw [hpair.1, component, hstore, Option.bind_none]
    · rfl
  | some store =>
    rw [hstore, Option.getD_some] at hupdate
    exact hupdate

theorem removeComponent_stores :
    (w.removeComponent h typeId).1.nextEntityId = w.nextEntityId ∧
      (w.removeComponent h typeId).1.entityStorage = w.entityStorage := by
  unfold removeComponent
  split_ifs
  · split <;> exact ⟨rfl, rfl⟩
  · exact ⟨rfl, rfl⟩

end SimpleWorld

namespace WorldRun

variable {s s' : WorldRun C} {h : EntityHandle} {typeId : ComponentTypeId}

theorem Represents.eq_of_alive (hr : s.Represents) (halive : s.table.Alive h) :
    h = ⟨h.id, 1⟩ := by
  have hgeneration := (hr.ids h halive.1).1
  cases h
  exact congrArg _ hgeneration

theorem Represents.exists_iff (hr : s.Represents) (h : EntityHandle) :
    s.world.existsEntity h = true ↔ s.table.Alive h := by
  have hstorage := hr.storage h.id
  unfold SimpleWorld.existsEntity EntityHandle.valid
  rw [Bool.and_eq_true, decide_eq_true_eq]
  constructor
  · rintro ⟨-, hany⟩
    obtain ⟨storage, hsome, hgeneration⟩ := (Option.any_eq_true _ _).mp hany
    rw [hsome, Option.map_some] at hstorage
    split_ifs at hstorage with halive
    have hone : h.generation = 1 := by
      rw [← of_decide_eq_true hgeneration]
      exact Option.some.inj hstorage
    rwa [← hone] at halive
  · intro halive
    obtain ⟨hgeneration, hpos, -⟩ := hr.ids h halive.1
    rw [← hr.eq_of_alive halive, if_pos halive] at hstorage
    obtain ⟨storage, hsome, hone⟩ := Option.map_eq_some_iff.mp hstorage
    refine ⟨?_, (Option.any_eq_true _ _).mpr ⟨storage, hsome, ?_⟩⟩
    · rintro hzero
      rw [hzero] at hpos
      exact absurd hpos (by decide)
    · exact decide_eq_true (hone.trans hgeneration.symm)

theorem Represents.sound (hr : s.Represents) : s.Sound := by
  have hlast : ∀ h typeId, s.table.Alive h →
      s.world.getComponent h typeId = s.table.components h typeId := by
    intro h typeId halive
    rw [SimpleWorld.getComponent_eq, if_pos ((hr.exists_iff h).mpr halive), hr.components,
      ← hr.eq_of_alive halive, if_pos halive]
  refine ⟨hr.nodup, hr.exists_iff, fun typeId id hsome => ?_, fun h typeId hgone => ?_, hlast⟩
  · rw [hr.components] at hsome
    split_ifs at hsome with halive
    · exact ⟨_, halive, rfl⟩
    · cases hsome
  · rw [SimpleWorld.getComponent_eq, if_neg fun hexists => hgone ((hr.exists_iff h).mp hexists)]

theorem step_createEntity : s.step .createEntity = some
    { world := s.world.createEntity.1
      table := s.table.create ⟨s.world.nextEntityId, 1⟩ } := by
  rw [← SimpleWorld.createEntity_handle]
  rfl

/-- A new handle, which no entity has had. -/
theorem Represents.createEntity (hr : s.Represents) (hfits : s.Fits .createEntity)
    (hstep : s.step .createEntity = some s') : s'.Represents := by
  obtain ⟨hnext, hstorage, hstores⟩ := s.world.createEntity_stores
  have hlt : s.table.created.length + 1 < 2 ^ 32 := hfits
  have hid : s.world.nextEntityId.toNat = s.table.created.length + 1 := by
    rw [hr.next]
    exact UInt32.toNat_ofNat_of_lt' hlt
  have hnew : ∀ h ∈ s.table.created, h ≠ ⟨s.world.nextEntityId, 1⟩ := by
    rintro h hmem rfl
    have hle := (hr.ids _ hmem).2.2
    rw [hid] at hle
    omega
  have halive : ∀ h, (s.table.create ⟨s.world.nextEntityId, 1⟩).Alive h ↔
      h = ⟨s.world.nextEntityId, 1⟩ ∨ s.table.Alive h :=
    fun _ => EntityTable.alive_create (fun hmem => hnew _ hmem rfl) hr.destroyed
  have hfresh : ¬s.table.Alive ⟨s.world.nextEntityId, 1⟩ := fun ha => hnew _ ha.1 rfl
  have hcomponent : ∀ typeId id, s.world.createEntity.1.component typeId id =
      s.world.component typeId id := by
    intro typeId id
    rw [SimpleWorld.component, hstores, SimpleWorld.component]
  rw [step_createEntity] at hstep
  generalize s.world.createEntity.1 = world at hstep hnext hstorage hcomponent
  obtain rfl := Option.some.inj hstep
  refine ⟨?_, hlt, List.nodup_cons.mpr ⟨fun hmem => hnew _ hmem rfl, hr.nodup⟩,
    List.forall_mem_cons.mpr ⟨?_, fun h hmem => ?_⟩,
    fun h hmem => List.mem_cons_of_mem _ (hr.destroyed h hmem), fun id => ?_,
    fun typeId id => ?_⟩
  · change world.nextEntityId = UInt32.ofNat (s.table.created.length + 1 + 1)
    rw [hnext, hr.next, UInt32.ofNat_add (s.table.created.length + 1) 1]
    rfl
  · refine ⟨rfl, ?_, Nat.le_of_eq hid⟩
    rw [hid]
    exact Nat.succ_pos _
  · obtain ⟨hgeneration, hpos, hle⟩ := hr.ids h hmem
    exact ⟨hgeneration, hpos, Nat.le_succ_of_le hle⟩
  · simp only [halive, EntityHandle.mk.injEq, and_true]
    rw [hstorage]
    obtain rfl | hne := eq_or_ne id s.world.nextEntityId
    · rw [Function.update_self, if_pos (.inl rfl)]
      rfl
    · rw [Function.update_of_ne hne, hr.storage]
      exact if_congr (or_iff_right hne).symm rfl rfl
  · simp only [halive, EntityHandle.mk.injEq, and_true]
    rw [hcomponent, hr.components]
    obtain rfl | hne := eq_or_ne id s.world.nextEntityId
    · rw [if_neg hfresh, if_pos (.inl rfl)]
      have hempty : (s.table.create ⟨s.world.nextEntityId, 1⟩).components
          ⟨s.world.nextEntityId, 1⟩ = fun _ => none := Function.update_self ..
      rw [hempty]
    · have hkeep : (s.table.create ⟨s.world.nextEntityId, 1⟩).components ⟨id, 1⟩ =
          s.table.components ⟨id, 1⟩ :=
        Function.update_of_ne (fun heq => hne (EntityHandle.mk.inj heq).1) _ _
      rw [hkeep]
      exact if_congr (or_iff_right hne).symm rfl rfl

theorem Represents.destroyEntity (hr : s.Represents)
    (hstep : s.step (.destroyEntity h) = some s') : s'.Represents := by
  by_cases halive : s.table.Alive h
  · have hexists := (hr.exists_iff h).mpr halive
    obtain ⟨hnext, hstorage, -⟩ := SimpleWorld.destroyEntity_stores hexists
    have hcomponent := fun typeId : ComponentTypeId =>
      @SimpleWorld.component_destroyEntity C s.world h typeId hexists
    have htable : s.table.destroy h = { s.table with destroyed := h :: s.table.destroyed } :=
      if_pos halive
    have hstill : ∀ id, (s.table.destroy h).Alive ⟨id, 1⟩ ↔
        id ≠ h.id ∧ s.table.Alive ⟨id, 1⟩ := by
      intro id
      have hself : (⟨id, 1⟩ : EntityHandle) = h ↔ id = h.id := by
        rw [hr.eq_of_alive halive, EntityHandle.mk.injEq]
        exact and_iff_left rfl
      rw [EntityTable.alive_destroy halive, ne_eq, hself]
    change some _ = _ at hstep
    generalize s.world.destroyEntity h = world at hstep hnext hstorage hcomponent
    obtain rfl := Option.some.inj hstep
    refine ⟨?_, ?_, ?_, ?_, ?_, fun id => ?_, fun typeId id => ?_⟩
    · rw [hnext, htable]
      exact hr.next
    · rw [htable]
      exact hr.room
    · rw [htable]
      exact hr.nodup
    · rw [htable]
      exact hr.ids
    · rw [htable]
      exact List.forall_mem_cons.mpr ⟨halive.1, hr.destroyed⟩
    · simp only [hstill]
      rw [hstorage]
      obtain rfl | hne := eq_or_ne id h.id
      · rw [Function.update_self, if_neg fun hs => hs.1 rfl]
        rfl
      · rw [Function.update_of_ne hne, hr.storage]
        exact if_congr (and_iff_right hne).symm rfl rfl
    · simp only [hstill]
      rw [hcomponent]
      obtain rfl | hne := eq_or_ne id h.id
      · rw [if_pos rfl, if_neg fun hs => hs.1 rfl]
      · rw [if_neg hne, hr.components, htable]
        exact if_congr (and_iff_right hne).symm rfl rfl
  · have hworld : s.world.destroyEntity h = s.world :=
      if_neg fun hexists => halive ((hr.exists_iff h).mp hexists)
    have htable : s.table.destroy h = s.table := if_neg halive
    have hsame : s' = s := by
      rw [← Option.some.inj hstep, hworld, htable]
    rwa [hsame]

/-- One component of an entity is put in its place, or taken away. -/
theorem Represents.set (hr : s.Represents) (halive : s.table.Alive h) {c : Option C}
    {world : SimpleWorld C} (hnext : world.nextEntityId = s.world.nextEntityId)
    (hstorage : world.entityStorage = s.world.entityStorage)
    (hcomponent : ∀ typeId' id, world.component typeId' id =
      if typeId' = typeId ∧ id = h.id then c else s.world.component typeId' id) :
    Represents { world := world, table := s.table.set h typeId c } := by
  have htable : s.table.set h typeId c = { s.table with
      components :=
        Function.update s.table.components h
          (Function.update (s.table.components h) typeId c) } := if_pos halive
  rw [htable]
  refine ⟨hnext.trans hr.next, hr.room, hr.nodup, hr.ids, hr.destroyed, fun id => ?_,
    fun typeId' id => ?_⟩
  · rw [hstorage]
    exact hr.storage id
  · change world.component typeId' id = if s.table.Alive ⟨id, 1⟩ then
      Function.update s.table.components h (Function.update (s.table.components h) typeId c)
        ⟨id, 1⟩ typeId' else none
    rw [hcomponent, hr.components]
    have hself := hr.eq_of_alive halive
    obtain rfl | hne := eq_or_ne id h.id
    · rw [← hself, if_pos halive, if_pos halive, Function.update_self, Function.update_apply]
      exact if_congr (and_iff_left rfl) rfl rfl
    · have hother : (⟨id, 1⟩ : EntityHandle) ≠ h := fun heq => hne (congrArg (·.id) heq)
      rw [if_neg fun hpair => hne hpair.2, Function.update_of_ne hother]

theorem Represents.addComponent (hr : s.Represents) {component : Option C}
    (hstep : s.step (.addComponent h typeId component) = some s') : s'.Represents := by
  obtain rfl := Option.some.inj hstep
  cases component with
  | none => exact hr
  | some c =>
    by_cases halive : s.table.Alive h
    · refine hr.set halive ?_ ?_ fun typeId' id => ?_
      all_goals rw [SimpleWorld.addComponent_some ((hr.exists_iff h).mpr halive)]
      exact SimpleWorld.component_update s.world h.id typeId (some c) typeId' id
    · have hworld : s.world.addComponent h typeId (some c) = (s.world, none) :=
        if_neg fun hexists => halive ((hr.exists_iff h).mp hexists)
      have htable : s.table.set h typeId (some c) = s.table := if_neg halive
      rw [hworld, Option.isSome_some, if_pos rfl, htable]
      exact hr

theorem Represents.removeComponent (hr : s.Represents)
    (hstep : s.step (.removeComponent h typeId) = some s') : s'.Represents := by
  obtain rfl := Option.some.inj hstep
  by_cases halive : s.table.Alive h
  · obtain ⟨hnext, hstorage⟩ :=
      @SimpleWorld.removeComponent_stores C s.world h typeId
    exact hr.set halive hnext hstorage
      (SimpleWorld.component_removeComponent ((hr.exists_iff h).mpr halive))
  · have hworld : s.world.removeComponent h typeId = (s.world, false) :=
      if_neg fun hexists => halive ((hr.exists_iff h).mp hexists)
    have htable : s.table.set h typeId none = s.table := if_neg halive
    rw [hworld, htable]
    exact hr

theorem Represents.step (hr : s.Represents) {op : WorldOp C} (hfits : s.Fits op)
    (hstep : s.step op = some s') : s'.Represents := by
  cases op with
  | createEntity => exact hr.createEntity hfits hstep
  | destroyEntity h => exact hr.destroyEntity hstep
  | addComponent h typeId component => exact hr.addComponent hstep
  | removeComponent h typeId => exact hr.removeComponent hstep
  | getComponent h typeId =>
    obtain rfl := Option.some.inj hstep
    exact hr

theorem Reaches.represents (h : s.Reaches Fits) : s.Represents := by
  refine h.invariant (P := Represents) ?_ fun s op s' hr hfits hstep => hr.step hfits hstep
  rintro s rfl
  exact ⟨rfl, Nat.two_pow_pos 32, List.nodup_nil, List.forall_mem_nil _, List.forall_mem_nil _,
    fun _ => rfl, fun _ _ => rfl⟩

/-- Apart from its own entity an operation changes nothing of the table. -/
theorem alive_step {op : WorldOp C} (hstep : s.step op = some s') (hne : op.handle? ≠ some h)
    (hnew : op = .createEntity → h ≠ ⟨s.world.nextEntityId, 1⟩) :
    (s'.table.Alive h ↔ s.table.Alive h) ∧ s'.table.components h = s.table.components h := by
  cases op with
  | createEntity =>
    rw [step_createEntity] at hstep
    obtain rfl := Option.some.inj hstep
    refine ⟨and_congr_left' ?_, Function.update_of_ne (hnew rfl) _ _⟩
    exact List.mem_cons.trans (or_iff_right (hnew rfl))
  | destroyEntity h' =>
    have hother : h ≠ h' := fun heq => hne (congrArg some heq.symm)
    obtain rfl := Option.some.inj hstep
    dsimp only
    unfold EntityTable.destroy
    split_ifs
    · refine ⟨and_congr_right' (not_congr ?_), rfl⟩
      exact List.mem_cons.trans (or_iff_right hother)
    · exact ⟨Iff.rfl, rfl⟩
  | addComponent h' typeId component =>
    have hother : h ≠ h' := fun heq => hne (congrArg some heq.symm)
    obtain rfl := Option.some.inj hstep
    dsimp only
    split_ifs
    · unfold EntityTable.set
      split_ifs
      · exact ⟨Iff.rfl, Function.update_of_ne hother _ _⟩
      · exact ⟨Iff.rfl, rfl⟩
    · exact ⟨Iff.rfl, rfl⟩
  | removeComponent h' typeId =>
    have hother : h ≠ h' := fun heq => hne (congrArg some heq.symm)
    obtain rfl := Option.some.inj hstep
    dsimp only
    unfold EntityTable.set
    split_ifs
    · exact ⟨Iff.rfl, Function.update_of_ne hother _ _⟩
    · exact ⟨Iff.rfl, rfl⟩
  | getComponent h' typeId =>
    obtain rfl := Option.some.inj hstep
    exact ⟨Iff.rfl, rfl⟩

theorem Represents.frames (hr : s.Represents) {op : WorldOp C} (hfits : s.Fits op)
    (hstep : s.step op = some s') : s.Frames op s' := by
  have hsound := hr.sound
  have hsound' := (hr.step hfits hstep).sound
  intro h typeId hne
  by_cases hnew : op = .createEntity ∧ h = ⟨s.world.nextEntityId, 1⟩
  · obtain ⟨rfl, rfl⟩ := hnew
    rw [step_createEntity] at hstep
    generalize s.world.createEntity.1 = world at hstep
    obtain rfl := Option.some.inj hstep
    have hnodup : ⟨s.world.nextEntityId, 1⟩ ∉ s.table.created :=
      (List.nodup_cons.mp hsound'.fresh).1
    have halive : (s.table.create ⟨s.world.nextEntityId, 1⟩).Alive ⟨s.world.nextEntityId, 1⟩ :=
      ⟨List.mem_cons_self, fun hmem => hnodup (hr.destroyed _ hmem)⟩
    rw [hsound'.last _ _ halive, hsound.gone _ _ fun ha => hnodup ha.1]
    have hempty : (s.table.create ⟨s.world.nextEntityId, 1⟩).components
        ⟨s.world.nextEntityId, 1⟩ = fun _ => none := Function.update_self ..
    rw [hempty]
  · have hother : op = .createEntity → h ≠ ⟨s.world.nextEntityId, 1⟩ :=
      fun hop heq => hnew ⟨hop, heq⟩
    obtain ⟨halive, hcomponents⟩ := alive_step hstep hne hother
    by_cases ha : s.table.Alive h
    · rw [hsound'.last _ _ (halive.mpr ha), hsound.last _ _ ha, hcomponents]
    · rw [hsound'.gone _ _ fun ha' => ha (halive.mp ha'), hsound.gone _ _ ha]

/-- The entity that gets the id 0 is taken for none. -/
theorem Represents.not_sound_of_full (hr : s.Represents) (hfull : ¬s.Fits .createEntity)
    (hstep : s.step .createEntity = some s') : ¬s'.Sound := by
  intro hsound
  have hlength : s.table.created.length + 1 = 2 ^ 32 :=
    Nat.le_antisymm hr.room (Nat.not_lt.mp hfull)
  have hzero : s.world.nextEntityId = 0 := by
    rw [hr.next, hlength]
    rfl
  rw [step_createEntity, hzero] at hstep
  generalize s.world.createEntity.1 = world at hstep
  obtain rfl := Option.some.inj hstep
  have halive : (s.table.create ⟨0, 1⟩).Alive ⟨0, 1⟩ := by
    refine ⟨List.mem_cons_self, fun hmem => ?_⟩
    have hpos := (hr.ids _ (hr.destroyed _ hmem)).2.1
    exact absurd hpos (by decide)
  have hexists := (hsound.live ⟨0, 1⟩).mpr halive
  cases hexists

/-- As long as there are ids for its entities a world is its table, and it stays so with every
operation but the creation of an entity that gets no id. -/
theorem Reaches.sound_iff (h : s.Reaches Fits) : s.Sound ∧ ∀ op s', s.step op = some s' →
    (s'.Sound ∧ s.Frames op s' ↔ s.Fits op) := by
  have hr := h.represents
  refine ⟨hr.sound, fun op s' hstep => ⟨fun hs => ?_, fun hfits => ?_⟩⟩
  · by_contra hfull
    cases op with
    | createEntity => exact hr.not_sound_of_full hfull hstep hs.1
    | _ => exact hfull trivial
  · exact ⟨(hr.step hfits hstep).sound, hr.frames hfits hstep⟩

/-- An entity that has lost its component, and another that keeps its own. -/
theorem sound_iff_destroyed : ∃ s : WorldRun String,
    s.world.getComponent ⟨1, 1⟩ 1 = none ∧ s.world.getComponent ⟨2, 1⟩ 1 = some "position" ∧
      s.Sound := by
  obtain ⟨s, hs, hgone, hkept⟩ := (Reaches.init rfl :
      Reaches Fits ({} : WorldRun String)).exists_runWith
    (P := fun s => s.world.getComponent ⟨1, 1⟩ 1 = none ∧
      s.world.getComponent ⟨2, 1⟩ 1 = some "position")
    [.createEntity, .createEntity, .addComponent ⟨1, 1⟩ 1 (some "velocity"),
      .addComponent ⟨2, 1⟩ 1 (some "position"), .destroyEntity ⟨1, 1⟩] (by decide +kernel)
  exact ⟨s, hgone, hkept, (Reaches.sound_iff hs).1⟩

theorem exists_created (n : ℕ) (hn : n < 2 ^ 32) : ∃ s : WorldRun C,
    s.Reaches (fun _ _ => True) ∧ s.Represents ∧ s.table.created.length = n := by
  induction n with
  | zero => exact ⟨{}, .init rfl, Reaches.represents (.init rfl), rfl⟩
  | succ n ih =>
    obtain ⟨s, hs, hr, rfl⟩ := ih (Nat.lt_of_succ_lt hn)
    have hfits : s.Fits .createEntity := hn
    exact ⟨_, hs.step (a := .createEntity) trivial step_createEntity,
      hr.step hfits step_createEntity, rfl⟩

/-- After 2^32 - 1 entities the next has the id 0. -/
theorem not_sound : ¬∀ s : WorldRun String, s.Reaches (fun _ _ => True) → s.Sound := by
  intro hall
  obtain ⟨s, hs, hr, hlength⟩ := exists_created (C := String) (2 ^ 32 - 1) (by decide)
  have hfull : ¬s.Fits .createEntity := by
    change ¬s.table.created.length + 1 < 2 ^ 32
    rw [hlength]
    decide
  exact hr.not_sound_of_full hfull step_createEntity
    (hall _ (hs.step (a := .createEntity) trivial step_createEntity))

end WorldRun

end BoostGateway.Ecs
