import BoostGateway.Data.LruCache
import BoostGateway.Data.WriteBehindStore
import Mathlib.Logic.Function.Basic

/-!
# The cached data store

`CachedBattleDataStore` (`cached_data_store.cpp`) keeps saved values in a cache for each kind of
artifact. A value goes on to the write-behind store when it is evicted by a save, or with a
flush. A load that finds nothing in the cache asks the delegate, and caches its answer.

One caller makes the calls, and the worker of the write-behind store makes its steps between
them and while a flush waits. The saves of the delegate succeed.

`CachedReaches.keepsSaved` : in runs without the loads and archives that `Permits` leaves out,
loads answer with what was saved last, and a flush leaves it with the delegate.
`not_keepsSaved` : a load may miss a value that is still in the queue.
-/

namespace BoostGateway.Data

/-- What a store holds of each artifact. -/
abbrev Contents := Artifact × String → Option String

/-- What a write is about. -/
def Write.key (write : Write) : Artifact × String := (write.artifact, write.battleId)

/-- The contents after saves that succeed. -/
def Contents.after (contents : Contents) (writes : List Write) : Contents :=
  writes.foldl (fun held write => Function.update held write.key (some write.json)) contents

namespace Contents

theorem after_append (contents : Contents) (first second : List Write) :
    contents.after (first ++ second) = (contents.after first).after second :=
  List.foldl_append

theorem after_singleton (contents : Contents) (write : Write) (key : Artifact × String) :
    contents.after [write] key = if key = write.key then some write.json else contents key :=
  Function.update_apply contents write.key (some write.json) key

/-- Saves of values that agree with the values held on top. -/
theorem after_or {top : Contents} {writes : List Write}
    (h : ∀ write ∈ writes, top write.key = none ∨ top write.key = some write.json)
    {upper lower : Contents} (hupper : ∀ key, upper key = (top key).or (lower key))
    (key : Artifact × String) :
    upper.after writes key = (top key).or (lower.after writes key) := by
  induction writes generalizing upper lower with
  | nil => exact hupper key
  | cons write writes ih =>
    rw [← List.singleton_append, after_append, after_append]
    refine ih (fun w hw => h w (List.mem_cons_of_mem _ hw)) fun other => ?_
    rw [after_singleton, after_singleton]
    by_cases hother : other = write.key
    · rw [if_pos hother, if_pos hother, hother]
      rcases h write List.mem_cons_self with htop | htop
      · rw [htop]
        rfl
      · rw [htop]
        rfl
    · rw [if_neg hother, if_neg hother]
      exact hupper other

end Contents

/-- `CachedBattleDataStore`. -/
structure CachedDataStore where
  /-- The caches `replay_cache_`, `result_cache_` and `snapshot_cache_`. -/
  cache : Artifact → LruCache String String
  writeBehind : WriteBehindStore := {}
  /-- What the delegate held at first. -/
  initial : Contents
  /-- The entries that a flush has still to enqueue, while one is running. -/
  flushing : Option (List Write) := none
  /-- A record of the values saved last. -/
  saved : Contents := initial

/-- The calls, and the turns of the worker. -/
inductive CachedEvent
  | save (write : Write)
  | load (artifact : Artifact) (battleId : String)
  | persist (archive : BattleArchive)
  | flush
  | enqueueNext
  | flushReturns
  | take
  | call
  | finish

namespace CachedDataStore

/-- What the delegate holds. -/
def delegate (s : CachedDataStore) : Contents := s.initial.after s.writeBehind.calls

/-- What the delegate holds once the queue is worked off. -/
def durable (s : CachedDataStore) : Contents :=
  s.initial.after (s.writeBehind.enqueued.flatMap WriteCommand.writes)

/-- What the cache holds. -/
def cached (s : CachedDataStore) (key : Artifact × String) : Option String :=
  (s.cache key.1).lookup key.2

/-- `persist`. -/
def persist (s : CachedDataStore) (archive : BattleArchive) : CachedDataStore :=
  { s with
    writeBehind := s.writeBehind.persist archive
    saved := s.saved.after (WriteCommand.persist archive).writes }

/-- The three `save` functions. -/
def save (s : CachedDataStore) (write : Write) : CachedDataStore :=
  let (evicted, cache) := (s.cache write.artifact).put write.battleId write.json
  { s with
    cache := Function.update s.cache write.artifact cache
    writeBehind := match evicted with
      | some (battleId, json) =>
        s.writeBehind.enqueue (.save { artifact := write.artifact, battleId, json })
      | none => s.writeBehind
    saved := s.saved.after [write] }

/-- The three `load` functions. -/
def load (s : CachedDataStore) (artifact : Artifact) (battleId : String) :
    Option String × CachedDataStore :=
  match (s.cache artifact).get battleId with
  | (some json, cache) => (some json, { s with cache := Function.update s.cache artifact cache })
  | (none, _) =>
    match s.delegate (artifact, battleId) with
    | some json =>
      (some json, { s with
        cache := Function.update s.cache artifact ((s.cache artifact).put battleId json).2 })
    | none => (none, s)

def saveReplay (s : CachedDataStore) (battleId replayJson : String) : CachedDataStore :=
  s.save { artifact := .replay, battleId, json := replayJson }

def loadReplay (s : CachedDataStore) (battleId : String) : Option String × CachedDataStore :=
  s.load .replay battleId

def saveResult (s : CachedDataStore) (battleId resultJson : String) : CachedDataStore :=
  s.save { artifact := .result, battleId, json := resultJson }

def loadResult (s : CachedDataStore) (battleId : String) : Option String × CachedDataStore :=
  s.load .result battleId

def saveSnapshot (s : CachedDataStore) (battleId snapshotJson : String) : CachedDataStore :=
  s.save { artifact := .snapshot, battleId, json := snapshotJson }

def loadSnapshot (s : CachedDataStore) (battleId : String) : Option String × CachedDataStore :=
  s.load .snapshot battleId

/-- The saves that a flush enqueues for one cache. -/
def entriesOf (s : CachedDataStore) (artifact : Artifact) : List Write :=
  (s.cache artifact).entries.entries.map fun entry =>
    { artifact, battleId := entry.1, json := entry.2 }

/-- `flush`, up to the wait. -/
def flush (s : CachedDataStore) : CachedDataStore :=
  { s with flushing := some (s.entriesOf .replay ++ s.entriesOf .result ++ s.entriesOf .snapshot) }

/-- A running flush enqueues the next entry. -/
def enqueueNext (s : CachedDataStore) (write : Write) (writes : List Write) : CachedDataStore :=
  { s with
    writeBehind := s.writeBehind.enqueue (.save write)
    flushing := some writes }

/-- A step of the write-behind store alone. -/
def behind (s : CachedDataStore) (event : WriteBehindEvent) : Option CachedDataStore :=
  (s.writeBehind.step event).map fun writeBehind => { s with writeBehind }

/-- One call or one turn of the worker. -/
def step (s : CachedDataStore) : CachedEvent → Option CachedDataStore
  | .save write => if s.flushing = none then some (s.save write) else none
  | .load artifact battleId => if s.flushing = none then some (s.load artifact battleId).2 else none
  | .persist archive => if s.flushing = none then some (s.persist archive) else none
  | .flush => if s.flushing = none then some s.flush else none
  | .enqueueNext =>
    match s.flushing with
    | some (write :: writes) => some (s.enqueueNext write writes)
    | _ => none
  | .flushReturns =>
    if s.flushing = some [] then
      (s.behind .flush).map fun s => { s with flushing := none }
    else none
  | .take => s.behind .take
  | .call => s.behind (.call true)
  | .finish => s.behind .finish

/-- A store that nothing was saved to. -/
def ofSize (initial : Contents) (cacheSize : ℕ) (pos : 0 < cacheSize) : CachedDataStore where
  cache _ := .ofSize cacheSize pos
  initial

/-- The stores reached by steps that meet a condition. -/
abbrev CachedReaches (ok : CachedDataStore → CachedEvent → Prop) : CachedDataStore → Prop :=
  Reaches (fun s => ∃ initial cacheSize pos, s = ofSize initial cacheSize pos) step ok

/-- What a step promises of the values saved last. -/
def KeepsSaved (s : CachedDataStore) : CachedEvent → Prop
  | .load artifact battleId => (s.load artifact battleId).1 = s.saved (artifact, battleId)
  | .flushReturns => s.delegate = s.saved
  | _ => True

/-- The entry that a value put into the cache evicts. -/
def evicted (s : CachedDataStore) (artifact : Artifact) (battleId : String) : Option Write :=
  ((s.cache artifact).evicts battleId).map fun entry =>
    { artifact, battleId := entry.1, json := entry.2 }

/-- A load that misses the cache finds no other value for its key in the queue and evicts nothing
that is not written, and an archive finds no other value for its keys in the cache. -/
def Permits (s : CachedDataStore) : CachedEvent → Prop
  | .load artifact battleId => s.cached (artifact, battleId) = none →
    s.delegate (artifact, battleId) = s.durable (artifact, battleId) ∧
      (s.delegate (artifact, battleId) ≠ none →
        ∀ write ∈ s.evicted artifact battleId, s.durable write.key = some write.json)
  | .persist archive => ∀ write ∈ (WriteCommand.persist archive).writes,
    s.cached write.key = none ∨ s.cached write.key = some write.json
  | _ => True

instance (s : CachedDataStore) : (e : CachedEvent) → Decidable (s.Permits e)
  | .load artifact battleId => inferInstanceAs (Decidable (s.cached (artifact, battleId) = none → _))
  | .persist archive => inferInstanceAs (Decidable (∀ _ ∈ (WriteCommand.persist archive).writes, _))
  | .save _ | .flush | .enqueueNext | .flushReturns | .take | .call | .finish =>
    inferInstanceAs (Decidable True)

variable {s s' : CachedDataStore}

/-! ### Caches -/

variable {artifact : Artifact} {battleId : String}

theorem cached_of_put {json : String}
    (h : s'.cache = Function.update s.cache artifact ((s.cache artifact).put battleId json).2)
    (key : Artifact × String) : s'.cached key =
      if key = (artifact, battleId) then some json
      else if (s.evicted artifact battleId).any (·.key = key) then none else s.cached key := by
  obtain ⟨other, id⟩ := key
  unfold cached evicted
  rw [h]
  by_cases hother : other = artifact
  · subst hother
    rw [Function.update_self, LruCache.lookup_put, Option.any_map]
    simp only [Write.key, Prod.mk.injEq, true_and]
  · rw [Function.update_of_ne hother, if_neg fun heq => hother (Prod.mk.inj heq).1, if_neg]
    rw [Option.any_map]
    intro hany
    obtain ⟨entry, -, hentry⟩ := (Option.any_eq_true _ _).mp hany
    exact hother (Prod.mk.inj (of_decide_eq_true hentry)).1.symm

theorem cached_of_get
    (h : s'.cache = Function.update s.cache artifact ((s.cache artifact).get battleId).2)
    (key : Artifact × String) : s'.cached key = s.cached key := by
  obtain ⟨other, id⟩ := key
  unfold cached
  rw [h]
  by_cases hother : other = artifact
  · subst hother
    rw [Function.update_self, LruCache.lookup_get]
  · rw [Function.update_of_ne hother]

theorem cached_evicted {write : Write} (h : s.evicted artifact battleId = some write) :
    s.cached write.key = some write.json ∧ write.key ≠ (artifact, battleId) := by
  obtain ⟨entry, hentry, rfl⟩ := Option.map_eq_some_iff.mp h
  obtain ⟨hlookup, hne⟩ := LruCache.evicts_eq_some hentry
  exact ⟨hlookup, fun heq => hne (Prod.mk.inj heq).2⟩

theorem cached_of_mem_entriesOf {write : Write}
    (h : write ∈ s.entriesOf artifact) : s.cached write.key = some write.json := by
  obtain ⟨entry, hentry, rfl⟩ := List.mem_map.mp h
  exact (s.cache artifact).entries.mem_lookup_iff.mpr hentry

theorem mem_entriesOf_of_cached {key : Artifact × String} {json : String}
    (h : s.cached key = some json) : ⟨key.1, key.2, json⟩ ∈ s.entriesOf key.1 :=
  List.mem_map.mpr ⟨⟨key.2, json⟩, (s.cache key.1).entries.mem_lookup_iff.mp h, rfl⟩

/-! ### The invariant -/

/-- A value saved last is in the cache, or else it is or comes to the delegate; and what a flush
does not enqueue any more, the delegate gets. -/
structure Coherent (s : CachedDataStore) : Prop where
  accounted : s.writeBehind.Accounted
  saved : ∀ key, s.saved key = (s.cached key).or (s.durable key)
  cachedLeft : ∀ writes, s.flushing = some writes →
    ∀ write ∈ writes, s.cached write.key = some write.json
  durableDone : ∀ writes, s.flushing = some writes → ∀ key json, s.cached key = some json →
    s.durable key = some json ∨ ∃ write ∈ writes, write.key = key

theorem durable_enqueue {command : WriteCommand} (hinitial : s'.initial = s.initial)
    (h : s'.writeBehind = s.writeBehind.enqueue command) :
    s'.durable = s.durable.after command.writes := by
  unfold durable WriteBehindStore.enqueue at *
  rw [hinitial, h, ← Contents.after_append]
  simp

theorem accounted_enqueue {writeBehind : WriteBehindStore} (h : writeBehind.Accounted)
    (command : WriteCommand) : (writeBehind.enqueue command).Accounted :=
  WriteBehindStore.accounted_step (e := .enqueue command) h rfl

/-- The entries that a flush has still to enqueue are there only while one is running. -/
theorem Coherent.of_idle (haccounted : s.writeBehind.Accounted)
    (hsaved : ∀ key, s.saved key = (s.cached key).or (s.durable key))
    (hidle : s.flushing = none) : s.Coherent :=
  ⟨haccounted, hsaved, (fun _ hw => nomatch hidle.symm.trans hw),
    (fun _ hw => nomatch hidle.symm.trans hw)⟩

theorem Coherent.save (h : s.Coherent) (write : Write) (hidle : s.flushing = none) :
    (s.save write).Coherent := by
  have hcache : (s.save write).cache = Function.update s.cache write.artifact
      ((s.cache write.artifact).put write.battleId write.json).2 := rfl
  have hbehind : (s.save write).writeBehind = match s.evicted write.artifact write.battleId with
      | some gone => s.writeBehind.enqueue (.save gone)
      | none => s.writeBehind := by
    unfold CachedDataStore.save evicted
    dsimp only
    rw [LruCache.put_fst]
    cases (s.cache write.artifact).evicts write.battleId with
    | none => rfl
    | some entry => rfl
  have hsaved : ∀ key, (s.save write).saved key =
      if key = (write.artifact, write.battleId) then some write.json else s.saved key :=
    Contents.after_singleton s.saved write
  refine .of_idle ?_ (fun key => ?_) hidle
  · rw [hbehind]
    cases s.evicted write.artifact write.battleId with
    | none => exact h.accounted
    | some gone => exact accounted_enqueue h.accounted _
  · rw [cached_of_put hcache, hsaved]
    by_cases hkey : key = (write.artifact, write.battleId)
    · rw [if_pos hkey, if_pos hkey]
      rfl
    · rw [if_neg hkey, if_neg hkey, h.saved]
      cases hgone : s.evicted write.artifact write.battleId with
      | none =>
        rw [hgone] at hbehind
        have hdurable : (s.save write).durable = s.durable := by
          unfold durable
          rw [hbehind]
          rfl
        rw [hdurable]
        rfl
      | some gone =>
        rw [hgone] at hbehind
        have hdurable : (s.save write).durable = s.durable.after (WriteCommand.save gone).writes :=
          durable_enqueue rfl hbehind
        rw [hdurable, WriteCommand.writes, Contents.after_singleton]
        by_cases heq : key = gone.key
        · simp [heq, (cached_evicted hgone).1]
        · simp [heq, Ne.symm heq]

theorem Coherent.persist (h : s.Coherent) {archive : BattleArchive}
    (hpermits : s.Permits (.persist archive)) (hidle : s.flushing = none) :
    (s.persist archive).Coherent := by
  refine .of_idle (accounted_enqueue h.accounted _) (fun key => ?_) hidle
  have hdurable : (s.persist archive).durable =
      s.durable.after (WriteCommand.persist archive).writes := durable_enqueue rfl rfl
  rw [hdurable]
  exact Contents.after_or hpermits h.saved key

theorem load_of_cached {json : String}
    (h : s.cached (artifact, battleId) = some json) : s.load artifact battleId = (some json,
      { s with cache := Function.update s.cache artifact ((s.cache artifact).get battleId).2 }) := by
  have hget : ((s.cache artifact).get battleId).1 = some json := LruCache.get_fst.trans h
  unfold load
  rw [← Prod.mk.eta (p := (s.cache artifact).get battleId), hget]

theorem load_of_not_cached
    (h : s.cached (artifact, battleId) = none) : s.load artifact battleId =
      match s.delegate (artifact, battleId) with
      | some json => (some json, { s with
          cache := Function.update s.cache artifact ((s.cache artifact).put battleId json).2 })
      | none => (none, s) := by
  have hget : ((s.cache artifact).get battleId).1 = none := LruCache.get_fst.trans h
  conv_lhs => unfold load
  rw [← Prod.mk.eta (p := (s.cache artifact).get battleId), hget]

/-- A load answers with the value saved last. -/
theorem Coherent.load_fst (h : s.Coherent) {artifact : Artifact} {battleId : String}
    (hpermits : s.Permits (.load artifact battleId)) :
    (s.load artifact battleId).1 = s.saved (artifact, battleId) := by
  rw [h.saved]
  cases hcached : s.cached (artifact, battleId) with
  | some json =>
    rw [load_of_cached hcached]
    rfl
  | none =>
    rw [load_of_not_cached hcached, ← (hpermits hcached).1]
    cases s.delegate (artifact, battleId) with
    | none => rfl
    | some json => rfl

theorem Coherent.load (h : s.Coherent) {artifact : Artifact} {battleId : String}
    (hpermits : s.Permits (.load artifact battleId)) (hidle : s.flushing = none) :
    (s.load artifact battleId).2.Coherent := by
  cases hcached : s.cached (artifact, battleId) with
  | some json =>
    rw [load_of_cached hcached]
    refine .of_idle h.accounted (fun key => ?_) hidle
    rw [cached_of_get rfl]
    exact h.saved key
  | none =>
    obtain ⟨hdelegate, hclean⟩ := hpermits hcached
    rw [load_of_not_cached hcached]
    cases hjson : s.delegate (artifact, battleId) with
    | none => exact h
    | some json =>
      refine .of_idle h.accounted (fun key => ?_) hidle
      rw [cached_of_put rfl]
      refine (h.saved key).trans ?_
      change _ = Option.or _ (s.durable key)
      by_cases hkey : key = (artifact, battleId)
      · rw [if_pos hkey, hkey, hcached, ← hdelegate, hjson]
        rfl
      · rw [if_neg hkey]
        cases hgone : s.evicted artifact battleId with
        | none => rfl
        | some gone =>
          have hdurable := hclean (by rw [hjson]; exact Option.some_ne_none json) gone hgone
          by_cases heq : gone.key = key
          · subst heq
            simp [hdurable, (cached_evicted hgone).1]
          · simp [heq]

theorem Coherent.flush (h : s.Coherent) : s.flush.Coherent := by
  refine ⟨h.accounted, h.saved, ?_, ?_⟩
  · rintro _ ⟨rfl⟩ write hwrite
    rw [List.mem_append, List.mem_append] at hwrite
    rcases hwrite with (hwrite | hwrite) | hwrite
    · exact cached_of_mem_entriesOf hwrite
    · exact cached_of_mem_entriesOf hwrite
    · exact cached_of_mem_entriesOf hwrite
  · rintro _ ⟨rfl⟩ ⟨artifact, battleId⟩ json hcached
    have hmem := mem_entriesOf_of_cached (s := s) hcached
    refine .inr ⟨⟨artifact, battleId, json⟩, ?_, rfl⟩
    rw [List.mem_append, List.mem_append]
    cases artifact with
    | replay => exact .inl (.inl hmem)
    | result => exact .inl (.inr hmem)
    | snapshot => exact .inr hmem

/-- The worker changes neither the cache nor what comes to the delegate. -/
theorem Coherent.behind (h : s.Coherent) {event : WriteBehindEvent}
    (hstep : s.behind event = some s')
    (henqueued : ∀ writeBehind, s.writeBehind.step event = some writeBehind →
      writeBehind.enqueued = s.writeBehind.enqueued) : s'.Coherent := by
  obtain ⟨writeBehind, hbehind, rfl⟩ := Option.map_eq_some_iff.mp hstep
  have hdurable : ({ s with writeBehind } : CachedDataStore).durable = s.durable := by
    unfold durable
    rw [henqueued writeBehind hbehind]
  refine ⟨WriteBehindStore.accounted_step h.accounted hbehind, fun key => ?_, h.cachedLeft,
    fun writes hw key json hcached => ?_⟩
  · rw [hdurable]
    exact h.saved key
  · rw [hdurable]
    exact h.durableDone writes hw key json hcached

theorem Coherent.enqueueNext (h : s.Coherent) {write : Write} {writes : List Write}
    (hflushing : s.flushing = some (write :: writes)) : (s.enqueueNext write writes).Coherent := by
  have hwrite := h.cachedLeft _ hflushing write List.mem_cons_self
  have hafter : (s.enqueueNext write writes).durable =
      s.durable.after (WriteCommand.save write).writes := durable_enqueue rfl rfl
  have hdurable (key : Artifact × String) : (s.enqueueNext write writes).durable key =
      if key = write.key then some write.json else s.durable key :=
    (congrFun hafter key).trans (Contents.after_singleton s.durable write key)
  refine ⟨accounted_enqueue h.accounted _, fun key => ?_, ?_, ?_⟩
  · rw [hdurable]
    refine (h.saved key).trans ?_
    by_cases hkey : key = write.key
    · subst hkey
      change _ = Option.or (s.cached write.key) _
      rw [hwrite]
      rfl
    · rw [if_neg hkey]
      rfl
  · rintro _ ⟨rfl⟩ other hother
    exact h.cachedLeft _ hflushing other (List.mem_cons_of_mem _ hother)
  · rintro _ ⟨rfl⟩ key json hcached
    rw [hdurable]
    by_cases hkey : key = write.key
    · subst hkey
      rw [if_pos rfl]
      exact .inl (hwrite.symm.trans hcached)
    · rw [if_neg hkey]
      rcases h.durableDone _ hflushing key json hcached with hdone | ⟨other, hother, rfl⟩
      · exact .inl hdone
      · rcases List.mem_cons.mp hother with rfl | hother
        · exact absurd rfl hkey
        · exact .inr ⟨other, hother, rfl⟩

/-- A flush that returns leaves the values saved last with the delegate. -/
theorem Coherent.delegate_eq (h : s.Coherent) (hflushing : s.flushing = some [])
    (hflushed : s.writeBehind.flushed) : s.delegate = s.saved := by
  have hdelegate : s.delegate = s.durable := by
    unfold delegate durable
    rw [h.accounted.order, h.accounted.pending_of_flushed hflushed, List.append_nil]
  funext key
  rw [hdelegate, h.saved]
  cases hcached : s.cached key with
  | none => rfl
  | some json =>
    rcases h.durableDone [] hflushing key json hcached with hdurable | ⟨write, hwrite, -⟩
    · exact hdurable
    · cases hwrite

theorem flushed_of_step {writeBehind writeBehind' : WriteBehindStore}
    (h : writeBehind.step .flush = some writeBehind') :
    writeBehind.flushed ∧ writeBehind' = writeBehind := by
  simp only [WriteBehindStore.step] at h
  split_ifs at h with hflushed
  exact ⟨hflushed, (Option.some.inj h).symm⟩

theorem coherent_step {e : CachedEvent} (h : s.Coherent) (hpermits : s.Permits e)
    (hstep : s.step e = some s') : s'.Coherent := by
  cases e with
  | save write =>
    simp only [step] at hstep
    split_ifs at hstep with hidle
    exact Option.some.inj hstep ▸ h.save write hidle
  | load artifact battleId =>
    simp only [step] at hstep
    split_ifs at hstep with hidle
    exact Option.some.inj hstep ▸ h.load hpermits hidle
  | persist archive =>
    simp only [step] at hstep
    split_ifs at hstep with hidle
    exact Option.some.inj hstep ▸ h.persist hpermits hidle
  | flush =>
    simp only [step] at hstep
    split_ifs at hstep with hidle
    exact Option.some.inj hstep ▸ h.flush
  | enqueueNext =>
    simp only [step] at hstep
    split at hstep
    · rename_i write writes hflushing
      exact Option.some.inj hstep ▸ h.enqueueNext hflushing
    · cases hstep
  | flushReturns =>
    simp only [step] at hstep
    split_ifs at hstep with hflushing
    obtain ⟨s₁, hbehind, rfl⟩ := Option.map_eq_some_iff.mp hstep
    have h₁ := h.behind hbehind fun _ hw => congrArg _ (flushed_of_step hw).2
    exact .of_idle h₁.accounted h₁.saved rfl
  | take =>
    refine h.behind hstep fun writeBehind hw => ?_
    simp only [WriteBehindStore.step] at hw
    split at hw
    · exact Option.some.inj hw ▸ rfl
    · cases hw
  | call =>
    refine h.behind hstep fun writeBehind hw => ?_
    simp only [WriteBehindStore.step] at hw
    split at hw
    · exact Option.some.inj hw ▸ rfl
    · cases hw
  | finish =>
    refine h.behind hstep fun writeBehind hw => ?_
    simp only [WriteBehindStore.step] at hw
    split at hw
    · exact Option.some.inj hw ▸ rfl
    · cases hw

theorem CachedReaches.coherent (h : CachedReaches Permits s) : s.Coherent := by
  refine h.invariant (P := Coherent) ?_ fun s e s' hs hpermits hstep => coherent_step hs hpermits hstep
  rintro s ⟨initial, cacheSize, pos, rfl⟩
  exact .of_idle ⟨rfl, rfl, rfl⟩ (fun _ => rfl) rfl

theorem CachedReaches.keepsSaved (h : CachedReaches Permits s) {e : CachedEvent}
    (hpermits : s.Permits e) (hstep : s.step e = some s') : s.KeepsSaved e := by
  have hcoherent := h.coherent
  cases e with
  | load artifact battleId => exact hcoherent.load_fst hpermits
  | flushReturns =>
    simp only [step] at hstep
    split_ifs at hstep with hflushing
    obtain ⟨_, hbehind, -⟩ := Option.map_eq_some_iff.mp hstep
    obtain ⟨_, hflush, -⟩ := Option.map_eq_some_iff.mp hbehind
    exact hcoherent.delegate_eq hflushing (flushed_of_step hflush).1
  | save _ | persist _ | flush | enqueueNext | take | call | finish => trivial

/-- A value comes back after it was evicted and written. -/
theorem keepsSaved_reloaded : ∃ s s' : CachedDataStore,
    s.step (.load .replay "a") = some s' ∧ s.saved (.replay, "a") = some "1" ∧
      s.KeepsSaved (.load .replay "a") := by
  have hempty : CachedReaches Permits (ofSize (fun _ => none) 1 Nat.one_pos) :=
    .init ⟨_, _, _, rfl⟩
  obtain ⟨s, hs, hidle, hpermits, hsaved⟩ : ∃ s : CachedDataStore, CachedReaches Permits s ∧
      s.flushing = none ∧ s.Permits (.load .replay "a") ∧ s.saved (.replay, "a") = some "1" :=
    hempty.exists_runWith [.save ⟨.replay, "a", "1"⟩, .save ⟨.replay, "b", "2"⟩, .flush,
      .enqueueNext, .take, .call, .finish, .take, .call, .finish, .flushReturns]
      (by decide +kernel)
  have hstep : s.step (.load .replay "a") = some (s.load .replay "a").2 := if_pos hidle
  exact ⟨s, _, hstep, hsaved, hs.keepsSaved hpermits hstep⟩

/-- A value evicted by a save of another battle is not found while it is in the queue. -/
theorem not_keepsSaved : ¬∀ s : CachedDataStore, CachedReaches (fun _ _ => True) s →
    ∀ e s', s.step e = some s' → s.KeepsSaved e := by
  intro h
  have hempty : CachedReaches (fun _ _ => True) (ofSize (fun _ => none) 1 Nat.one_pos) :=
    .init ⟨_, _, _, rfl⟩
  obtain ⟨s, hs, hidle, hload, hsaved⟩ : ∃ s : CachedDataStore,
      CachedReaches (fun _ _ => True) s ∧ s.flushing = none ∧ (s.load .replay "a").1 = none ∧
        s.saved (.replay, "a") = some "1" :=
    hempty.exists_runWith [.save ⟨.replay, "a", "1"⟩, .save ⟨.replay, "b", "2"⟩]
      (by decide +kernel)
  have hkeeps : (s.load .replay "a").1 = s.saved (.replay, "a") :=
    h s hs (.load .replay "a") _ (if_pos hidle)
  rw [hload, hsaved] at hkeeps
  cases hkeeps

end CachedDataStore

end BoostGateway.Data
