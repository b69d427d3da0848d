import BoostGateway.Match.Replica
import BoostGateway.Raft.Provenance

/-!
# The ids of matches in a cluster

A cluster of nodes of the matchmaking service, each a process with its own queues,
threads and counter `g_next_match_id`. A process that is started again begins with empty
queues and the number 1, and its callback gets the log once more. Any attempt to find a
match takes a number; only the leader appends the match it has found.

The matches of one process have different ids until its counter wraps, but two processes
may give one id to different players : the leader may take two numbers for one pair of
players, of which a replay takes only one (`not_match_ids_unique_restart`). Where one
process appends all matches and does not take the last number, ids are unique in the
whole replicated history (`match_ids_unique`).
-/

namespace BoostGateway.Match

open Raft Json

/-! ## The cluster -/

/-- The cluster with its matchmaking. -/
structure MatchCluster where
  raft : Cluster
  matching : NodeId → Matchmaking
  /-- How often the process of a node was started again. -/
  life : NodeId → ℕ := fun _ => 0
  /-- The matches that were appended, each with the node and its life then. -/
  appended : List (NodeId × ℕ × MatchResult) := []

/-- A section of Raft or of matchmaking. -/
inductive MatchClusterAction
  /-- A section of Raft or a move of the network. -/
  | raft (a : Action)
  /-- `RaftNode::start`. -/
  | start (v : NodeId)
  | join (v : NodeId) (player : MatchPlayer)
  | leave (v : NodeId) (userId : UserId) (mode : MatchMode)
  /-- The apply callback gets the next entry of a batch. -/
  | deliver (b : ℕ)
  /-- A thread of `v` takes its next step. -/
  | run (v : NodeId) (i : ℕ) (order : List MatchPlayer) (now : ℕ)
  | restart (v : NodeId)

/-- The actions of a cluster that this file has its own versions of are left out. -/
def internal : Action → Bool
  | .appendCommand _ _ | .deliver _ | .restart _ => false
  | _ => true

namespace MatchCluster

/-- No process has done anything; each has its configuration. -/
def init (peers : List NodeId) (mmrRange : NodeId → ℤ) (maxWait : NodeId → ℕ) : MatchCluster where
  raft := Cluster.init peers
  matching v := { mmrRangeInitial := mmrRange v, maxWaitMs := maxWait v }

variable (s : MatchCluster)

def setMatching (v : NodeId) (m : Matchmaking) : MatchCluster :=
  { s with matching := Function.update s.matching v m }

/-- The record of matches after `v` appends a command, which it does where it leads. -/
def record (v : NodeId) : MatchCommand → List (NodeId × ℕ × MatchResult)
  | .found result =>
    if (s.raft.node v).state = .leader then s.appended ++ [(v, s.life v, result)] else s.appended
  | _ => s.appended

/-- A handler or a thread of `v` calls `append_command`. -/
def append (v : NodeId) (c : MatchCommand) : Option MatchCluster :=
  (s.raft.step (.appendCommand v c.text)).map fun raft =>
    { s with raft, appended := s.record v c }

/-- The state of a process that starts. -/
def fresh (m : Matchmaking) : Matchmaking :=
  { mmrRangeInitial := m.mmrRangeInitial, maxWaitMs := m.maxWaitMs }

def step (s : MatchCluster) : MatchClusterAction → Option MatchCluster
  | .raft a =>
    if internal a then (s.raft.step a).map fun raft => { s with raft } else none
  | .start v =>
    if v ∈ s.raft.peers then
      some { s with raft := s.raft.setNode v (s.raft.node v).start }
    else none
  | .join v player => if player.userId = "" then none else s.append v (.join player)
  | .leave v userId mode => s.append v (.leave userId mode)
  | .deliver b =>
    match s.raft.batches[b]? with
    | some (v, (_, entry) :: _) =>
      match s.raft.step (.deliver b), (s.matching v).applyRaftEntry entry.command with
      | some raft, .ok m => some ({ s with raft }.setMatching v m)
      | _, _ => none
    | _ => none
  | .run v i order now =>
    match (s.matching v).tasks[i]? with
    | none => none
    | some t =>
      match t.appends with
      | some c =>
        (s.append v c).map fun s => s.setMatching v ((s.matching v).setTask i t.afterCallback)
      | none => ((s.matching v).runTask i order now t).map (s.setMatching v)
  | .restart v =>
    (s.raft.step (.restart v)).map fun raft =>
      { s.setMatching v (fresh (s.matching v)) with
        raft, life := Function.update s.life v (s.life v + 1) }

/-- The states reached by actions that meet `ok`. -/
abbrev Reaches (ok : MatchCluster → MatchClusterAction → Prop) : MatchCluster → Prop :=
  BoostGateway.Reaches (fun s => ∃ peers mmrRange maxWait, s = init peers mmrRange maxWait) step ok

/-- The states a run reaches after `s`. -/
abbrev ReachesFrom (ok : MatchCluster → MatchClusterAction → Prop) (s : MatchCluster) :
    MatchCluster → Prop :=
  BoostGateway.Reaches (· = s) step ok

/-- A node has the command in its log below its commit index. -/
def Committed (command : String) : Prop :=
  ∃ v, ∃ i < (s.raft.node v).commitIndex,
    (s.raft.node v).log[i]?.map LogEntry.command = some command

/-- Two matches, one committed in `s` and one in `s'`, have different ids or the same
players. -/
def UniqueMatchIds (s' : MatchCluster) : Prop :=
  ∀ command command' result result', Committed s command → Committed s' command' →
    decodeCommand command = .ok (some (.found result)) →
    decodeCommand command' = .ok (some (.found result')) →
    result.matchId = result'.matchId → result.playerIds = result'.playerIds

/-- No entry that is about to be applied stores a match over one of other players. -/
def KeepsMatches : Prop :=
  ∀ (b : ℕ) v index entry rest result old,
    s.raft.batches[b]? = some (v, (index, entry) :: rest) →
    decodeCommand entry.command = .ok (some (.found result)) →
    (s.matching v).pendingMatches.lookup result.matchId = some old →
    old.playerIds = result.playerIds

/-- No match is appended under an id under which another process has appended a match of
other players. -/
def Unclaimed : MatchClusterAction → Prop
  | .run v i _ _ =>
    match (s.matching v).tasks[i]? with
    | some (.found result _) =>
      (s.raft.node v).state = .leader → ∀ x ∈ s.appended, ¬(x.1 = v ∧ x.2.1 = s.life v) →
        x.2.2.matchId = result.matchId → x.2.2.playerIds = result.playerIds
    | _ => True
  | _ => True

/-- One process appends matches, and no process takes the last number. -/
def SoleMatcher : MatchClusterAction → Prop
  | .run v i _ _ =>
    match (s.matching v).tasks[i]? with
    | some (.found _ _) => (s.raft.node v).state = .leader →
        ∀ x ∈ s.appended, x.1 = v ∧ x.2.1 = s.life v
    | some (.picked _ _ _) => (s.matching v).nextMatchId + 1 < 2 ^ 64
    | _ => True
  | _ => True

theorem SoleMatcher.unclaimed {s : MatchCluster} {a : MatchClusterAction} (h : SoleMatcher s a) :
    Unclaimed s a := by
  cases a with
  | run v i order now =>
    simp only [SoleMatcher, Unclaimed] at h ⊢
    split
    · rename_i hi
      simp only [hi] at h
      exact fun hlead x hx hother => absurd (h hlead x hx) hother
    · trivial
  | _ => trivial

end MatchCluster

/-! ## The numbers of one process -/

def matchIdOf (n : ℕ) : String := "match_" ++ toString n

theorem matchIdOf_injective : Function.Injective matchIdOf := by
  intro m n h
  have hlist := congrArg String.toList h
  simp only [matchIdOf, String.toList_append, List.append_cancel_left_eq] at hlist
  have hdigits : Nat.toDigits 10 m = Nat.toDigits 10 n := by
    rw [← Nat.toList_repr, ← Nat.toList_repr]
    exact hlist
  rw [← Nat.ofDigitChars_ten_toDigits (n := m), hdigits, Nat.ofDigitChars_ten_toDigits]

/-- The id of the match a thread has found and not yet handed on. -/
def Task.ids : Task → List String
  | .found result _ => [result.matchId]
  | _ => []

def Matchmaking.foundIds (m : Matchmaking) : List String := m.tasks.flatMap Task.ids

/-- A step of a thread replaces the ids of one task. -/
theorem foundIds_setTask {m : Matchmaking} {i : ℕ} {t : Task} (h : m.tasks[i]? = some t) :
    ∃ rest, m.foundIds.Perm (t.ids ++ rest) ∧
      ∀ t', (m.setTask i t').foundIds.Perm (t'.ids ++ rest) := by
  obtain ⟨hlt, hget⟩ := List.getElem?_eq_some_iff.mp h
  have hsplit : m.tasks = m.tasks.take i ++ t :: m.tasks.drop (i + 1) := by
    rw [← hget, List.getElem_cons_drop, List.take_append_drop]
  have hids : m.foundIds = (m.tasks.take i).flatMap Task.ids ++
      (t.ids ++ (m.tasks.drop (i + 1)).flatMap Task.ids) := by
    rw [← List.flatMap_cons, ← List.flatMap_append, ← hsplit, Matchmaking.foundIds]
  refine ⟨(m.tasks.take i).flatMap Task.ids ++ (m.tasks.drop (i + 1)).flatMap Task.ids, ?_, ?_⟩
  · rw [hids]
    exact List.perm_append_comm_assoc _ _ _
  · intro t'
    have hset : (m.setTask i t').tasks = m.tasks.take i ++ t' :: m.tasks.drop (i + 1) := by
      rw [Matchmaking.setTask, List.set_eq_take_append_cons_drop, if_pos hlt]
    rw [Matchmaking.foundIds, hset, List.flatMap_append, List.flatMap_cons]
    exact List.perm_append_comm_assoc _ _ _

/-- Applying an entry touches no match that a thread holds, nor the counter. -/
theorem foundIds_applyRaftEntry {m m' : Matchmaking} {command : String}
    (h : m.applyRaftEntry command = .ok m') :
    m'.foundIds = m.foundIds ∧ m'.nextMatchId = m.nextMatchId := by
  rcases Matchmaking.applyRaftEntry_cases h with ⟨-, rfl⟩ | ⟨c, -, rfl⟩
  · exact ⟨rfl, rfl⟩
  · cases c with
    | join player =>
      refine ⟨?_, rfl⟩
      change (m.tasks ++ [Task.snapshot player.mode false]).flatMap Task.ids = m.foundIds
      simp [Task.ids, Matchmaking.foundIds]
    | leave userId mode => exact ⟨rfl, rfl⟩
    | found result => exact ⟨rfl, rfl⟩
    | purge mode userIds =>
      simp only [Matchmaking.applyCommand, Matchmaking.applyMatchPurge]
      split_ifs <;> exact ⟨rfl, rfl⟩

/-- The ids a process has given out, to matches that its threads hold or that it has
appended, are different, and their numbers are below the counter. -/
structure Numbered (m : Matchmaking) (ids : List String) : Prop where
  nodup : (m.foundIds ++ ids).Nodup
  below : ∀ id ∈ m.foundIds ++ ids, ∃ n < m.nextMatchId, id = matchIdOf n

namespace Numbered

variable {m m' : Matchmaking} {ids ids' : List String}

theorem init {m : Matchmaking} (h : m.foundIds = []) : Numbered m [] := by
  constructor <;> simp [h]

/-- Ids are handed on or dropped. -/
theorem shrink (h : Numbered m ids) (hn : m'.nextMatchId = m.nextMatchId)
    (hsub : List.Subperm (m'.foundIds ++ ids') (m.foundIds ++ ids)) : Numbered m' ids' where
  nodup := by
    obtain ⟨l, hl, hsub⟩ := hsub
    exact hl.nodup_iff.mp (hsub.nodup h.nodup)
  below id hid := hn ▸ h.below id (hsub.subset hid)

/-- A thread that has enough players takes a number that is not the last. -/
theorem draw (h : Numbered m ids) {i : ℕ} {mode : MatchMode} {eligible : List MatchPlayer}
    {periodic : Bool} (hi : m.tasks[i]? = some (.picked mode eligible periodic))
    (hlt : m.nextMatchId + 1 < 2 ^ 64) :
    Numbered ({ m with nextMatchId := (m.nextMatchId + 1) % 2 ^ 64 }.setTask i
      (.found (Matchmaking.makeResult m.nextMatchId mode eligible) periodic)) ids := by
  rw [Nat.mod_eq_of_lt hlt]
  obtain ⟨rest, hp, hset⟩ := foundIds_setTask hi
  have hnew : List.Perm (({ m with nextMatchId := m.nextMatchId + 1 } : Matchmaking).setTask i
      (.found (Matchmaking.makeResult m.nextMatchId mode eligible) periodic)).foundIds
      (matchIdOf m.nextMatchId :: m.foundIds) := (hset _).trans (hp.symm.cons _)
  have hfresh : matchIdOf m.nextMatchId ∉ m.foundIds ++ ids := by
    intro hmem
    obtain ⟨n, hn, heq⟩ := h.below _ hmem
    exact absurd (matchIdOf_injective heq) (Nat.ne_of_gt hn)
  constructor
  · exact (hnew.append_right ids).nodup_iff.mpr (List.nodup_cons.mpr ⟨hfresh, h.nodup⟩)
  · intro id hid
    rcases List.mem_cons.mp ((hnew.append_right ids).mem_iff.mp hid) with rfl | hid
    · exact ⟨m.nextMatchId, Nat.lt_succ_self _, rfl⟩
    · obtain ⟨n, hn, heq⟩ := h.below id hid
      exact ⟨n, Nat.lt_succ_of_lt hn, heq⟩

/-- A thread drops what it holds, or goes on without a match. -/
theorem setTask (h : Numbered m ids) {i : ℕ} {t t' : Task} (hi : m.tasks[i]? = some t)
    (ht' : t'.ids = []) : Numbered (m.setTask i t') ids := by
  obtain ⟨rest, hp, hset⟩ := foundIds_setTask hi
  refine h.shrink rfl (List.Subperm.trans ?_ (hp.append_right ids).symm.subperm)
  have hrest : (m.setTask i t').foundIds.Perm rest := by simpa [ht'] using hset t'
  refine ((hrest.append_right ids).subperm).trans ?_
  exact (List.sublist_append_right t.ids (rest ++ ids)).subperm.trans
    (by rw [List.append_assoc])

/-- A match is handed on from a thread to the log. -/
theorem handOn (h : Numbered m ids) {i : ℕ} {result : MatchResult} {periodic : Bool}
    {t' : Task} (hi : m.tasks[i]? = some (.found result periodic)) (ht' : t'.ids = []) :
    Numbered (m.setTask i t') (ids ++ [result.matchId]) ∧ result.matchId ∉ ids := by
  obtain ⟨rest, hp, hset⟩ := foundIds_setTask hi
  have hrest : (m.setTask i t').foundIds.Perm rest := by simpa [ht'] using hset t'
  have hall : List.Perm (m.foundIds ++ ids) (result.matchId :: (rest ++ ids)) :=
    hp.append_right ids
  constructor
  · refine h.shrink rfl (List.Perm.subperm ?_)
    refine (hrest.append_right _).trans ?_
    rw [← List.append_assoc]
    exact List.perm_append_singleton _ _ |>.trans hall.symm
  · have hnd := List.nodup_cons.mp (hall.nodup_iff.mp h.nodup)
    exact fun hmem => hnd.1 (List.mem_append_right _ hmem)

end Numbered

/-! ## What each action does -/

namespace MatchCluster

variable {s s' : MatchCluster} {v : NodeId}

theorem append_spec {c : MatchCommand} (h : s.append v c = some s') :
    ∃ raft, s.raft.step (.appendCommand v c.text) = some raft ∧
      s' = { s with raft, appended := s.record v c } := by
  obtain ⟨raft, hr, rfl⟩ := Option.map_eq_some_iff.mp h
  exact ⟨raft, hr, rfl⟩

theorem step_raft {a : Action} (h : s.step (.raft a) = some s') :
    internal a ∧ ∃ raft, s.raft.step a = some raft ∧ s' = { s with raft } := by
  simp only [step] at h
  split_ifs at h with ha
  obtain ⟨raft, hr, rfl⟩ := Option.map_eq_some_iff.mp h
  exact ⟨ha, raft, hr, rfl⟩

theorem step_deliver {b : ℕ} (h : s.step (.deliver b) = some s') :
    ∃ v index entry rest raft m, s.raft.batches[b]? = some (v, (index, entry) :: rest) ∧
      s.raft.step (.deliver b) = some raft ∧
      (s.matching v).applyRaftEntry entry.command = .ok m ∧
      s' = { s with raft }.setMatching v m := by
  simp only [step] at h
  split at h
  · rename_i v index entry rest hb
    split at h
    · rename_i raft m hr hm
      exact ⟨v, index, entry, rest, raft, m, hb, hr, hm, (Option.some_inj.mp h).symm⟩
    · simp at h
  · simp at h

theorem step_run {i now : ℕ} {order : List MatchPlayer}
    (h : s.step (.run v i order now) = some s') :
    ∃ t, (s.matching v).tasks[i]? = some t ∧
      ((∃ c s₁, t.appends = some c ∧ s.append v c = some s₁ ∧
          s' = s₁.setMatching v ((s₁.matching v).setTask i t.afterCallback)) ∨
        (∃ m, t.appends = none ∧ (s.matching v).runTask i order now t = some m ∧
          s' = s.setMatching v m)) := by
  simp only [step] at h
  split at h
  · simp at h
  · rename_i t ht
    refine ⟨t, ht, ?_⟩
    split at h
    · rename_i c hc
      obtain ⟨s₁, hs₁, rfl⟩ := Option.map_eq_some_iff.mp h
      exact Or.inl ⟨c, s₁, hc, hs₁, rfl⟩
    · rename_i hc
      obtain ⟨m, hm, rfl⟩ := Option.map_eq_some_iff.mp h
      exact Or.inr ⟨m, hc, hm, rfl⟩

theorem step_restart (h : s.step (.restart v) = some s') :
    ∃ raft, s.raft.step (.restart v) = some raft ∧
      s' = { s.setMatching v (fresh (s.matching v)) with
        raft, life := Function.update s.life v (s.life v + 1) } := by
  obtain ⟨raft, hr, rfl⟩ := Option.map_eq_some_iff.mp h
  exact ⟨raft, hr, rfl⟩

/-! ## The invariant -/

/-- A command that reads as a match has the id and the players of one that was appended. -/
def Known (appended : List (NodeId × ℕ × MatchResult)) (command : String) : Prop :=
  ∀ result, decodeCommand command = .ok (some (.found result)) →
    ∃ x ∈ appended, x.2.2.matchId = result.matchId ∧ x.2.2.playerIds = result.playerIds

variable {l : List (NodeId × ℕ × MatchResult)}

theorem Known.mono {l' : List (NodeId × ℕ × MatchResult)} {command : String}
    (h : Known l command) (hl : l ⊆ l') : Known l' command := by
  intro result hd
  obtain ⟨x, hx, hid⟩ := h result hd
  exact ⟨x, hl hx, hid⟩

/-- The command a node appends is known, once the match is recorded. -/
theorem known_text {c : MatchCommand}
    (h : ∀ result, c = .found result → ∃ x ∈ l, x.2.2 = result) : Known l c.text := by
  intro result hd
  rw [decodeCommand_text] at hd
  split_ifs at hd
  · cases c with
    | found result' =>
      obtain ⟨x, hx, heq⟩ := h result' rfl
      obtain rfl : { result' with avgMmr := (Int64.ofInt result'.avgMmr).toInt } = result := by
        simpa [MatchCommand.written] using hd
      exact ⟨x, hx, by rw [heq], by rw [heq]⟩
    | join player => simp [MatchCommand.written] at hd
    | leave userId mode => simp [MatchCommand.written] at hd
    | purge mode userIds => simp [MatchCommand.written] at hd
  · simp at hd

/-- Every match a process has stored has the players of one that was appended under its
id. -/
def Stored (appended : List (NodeId × ℕ × MatchResult)) (m : Matchmaking) : Prop :=
  ∀ id result, m.pendingMatches.lookup id = some result →
    ∃ x ∈ appended, x.2.2.matchId = id ∧ x.2.2.playerIds = result.playerIds

theorem Stored.mono {l' : List (NodeId × ℕ × MatchResult)} {m : Matchmaking}
    (h : Stored l m) (hl : l ⊆ l') : Stored l' m := by
  intro id result hr
  obtain ⟨x, hx, hid⟩ := h id result hr
  exact ⟨x, hl hx, hid⟩

theorem Stored.applyRaftEntry {m m' : Matchmaking}
    {command : String} (h : Stored l m) (hk : Known l command)
    (hm : m.applyRaftEntry command = .ok m') : Stored l m' := by
  rcases Matchmaking.applyRaftEntry_cases hm with ⟨-, rfl⟩ | ⟨c, hd, rfl⟩
  · exact h
  · cases c with
    | join player => exact h
    | leave userId mode => exact h
    | found result =>
      intro id result' hr
      change (m.pendingMatches.insert result.matchId result).lookup id = some result' at hr
      by_cases hid : id = result.matchId
      · subst hid
        rw [AList.lookup_insert, Option.some_inj] at hr
        exact hr ▸ hk result hd
      · rw [AList.lookup_insert_ne hid] at hr
        exact h id result' hr
    | purge mode userIds =>
      simp only [Matchmaking.applyCommand, Matchmaking.applyMatchPurge]
      split_ifs <;> exact h

/-- The ids of the matches on record that `v` has appended in the life `k`. -/
def idsOf (appended : List (NodeId × ℕ × MatchResult)) (v : NodeId) (k : ℕ) : List String :=
  (appended.filter fun x => x.1 = v ∧ x.2.1 = k).map fun x => x.2.2.matchId

theorem mem_idsOf {k : ℕ} {x : NodeId × ℕ × MatchResult}
    (hx : x ∈ l) (hown : x.1 = v ∧ x.2.1 = k) : x.2.2.matchId ∈ idsOf l v k :=
  List.mem_map.mpr ⟨x, List.mem_filter.mpr ⟨hx, decide_eq_true hown⟩, rfl⟩

theorem idsOf_concat_self (l : List (NodeId × ℕ × MatchResult)) (v : NodeId) (k : ℕ)
    (result : MatchResult) : idsOf (l ++ [(v, k, result)]) v k = idsOf l v k ++ [result.matchId] := by
  simp [idsOf]

theorem idsOf_concat_of_ne {u : NodeId} {k k' : ℕ}
    {result : MatchResult} (h : u ≠ v) : idsOf (l ++ [(v, k, result)]) u k' = idsOf l u k' := by
  simp [idsOf, Ne.symm h]

/-- The commands in the cluster are known, the ids of one process are different, what is
stored was appended, and the matches on record have unique ids. -/
structure IdInv (s : MatchCluster) : Prop where
  commands : s.raft.AllCommands (Known s.appended)
  numbered : ∀ v, Numbered (s.matching v) (idsOf s.appended v (s.life v))
  stored : ∀ v, Stored s.appended (s.matching v)
  lives : ∀ x ∈ s.appended, x.2.1 ≤ s.life x.1
  unique : ∀ x ∈ s.appended, ∀ y ∈ s.appended, x.2.2.matchId = y.2.2.matchId →
    x.2.2.playerIds = y.2.2.playerIds

theorem idInv_init (peers : List NodeId) (mmrRange : NodeId → ℤ) (maxWait : NodeId → ℕ) :
    IdInv (init peers mmrRange maxWait) where
  commands := Cluster.allCommands_init peers
  numbered v := Numbered.init rfl
  stored v := by simp [Stored, init]
  lives := by simp [init]
  unique := by simp [init]

namespace IdInv

theorem setMatching (h : IdInv s) {m : Matchmaking}
    (hm : Numbered m (idsOf s.appended v (s.life v))) (hst : Stored s.appended m) :
    IdInv (s.setMatching v m) :=
  { h with
    numbered := (Function.forall_update_iff s.matching fun u m =>
      Numbered m (idsOf s.appended u (s.life u))).mpr ⟨hm, fun u _ => h.numbered u⟩
    stored := (Function.forall_update_iff s.matching fun _ m => Stored s.appended m).mpr
      ⟨hst, fun u _ => h.stored u⟩ }

theorem setRaft (h : IdInv s) {raft : Cluster} (hr : raft.AllCommands (Known s.appended)) :
    IdInv { s with raft } :=
  { h with commands := hr }

/-- A command other than a match. -/
theorem append_other (h : IdInv s) {c : MatchCommand} (hc : ∀ result, c ≠ .found result)
    (hs : s.append v c = some s') : IdInv s' := by
  obtain ⟨raft, hr, rfl⟩ := append_spec hs
  have hrec : s.record v c = s.appended := by
    cases c with
    | found result => exact absurd rfl (hc result)
    | join | leave | purge => rfl
  rw [hrec]
  refine h.setRaft (h.commands.step ?_ hr)
  rintro u command heq
  obtain ⟨-, rfl⟩ := Action.appendCommand.inj heq
  exact known_text fun result heq => absurd heq (hc result)

/-- A thread hands its match on to the log, where the node leads, or drops it. -/
theorem append_found (h : IdInv s) {s₁ : MatchCluster} {i : ℕ} {result : MatchResult}
    {periodic : Bool} {t' : Task} (hi : (s.matching v).tasks[i]? = some (.found result periodic))
    (ht' : t'.ids = [])
    (hok : (s.raft.node v).state = .leader → ∀ x ∈ s.appended, ¬(x.1 = v ∧ x.2.1 = s.life v) →
      x.2.2.matchId = result.matchId → x.2.2.playerIds = result.playerIds)
    (hs : s.append v (.found result) = some s₁) :
    IdInv (s₁.setMatching v ((s₁.matching v).setTask i t')) := by
  obtain ⟨raft, hr, rfl⟩ := append_spec hs
  by_cases hlead : (s.raft.node v).state = .leader
  · rw [record, if_pos hlead]
    obtain ⟨hnum, hnotin⟩ := (h.numbered v).handOn hi ht'
    have hsub : s.appended ⊆ s.appended ++ [(v, s.life v, result)] :=
      List.subset_append_left _ _
    -- an id of this process is another one; an id of another process meets the condition
    have hnew : ∀ x ∈ s.appended, x.2.2.matchId = result.matchId →
        x.2.2.playerIds = result.playerIds := by
      intro x hx hid
      exact hok hlead x hx (fun hown => hnotin (hid ▸ mem_idsOf hx hown)) hid
    constructor
    · refine (h.commands.mono fun c hc => hc.mono hsub).step ?_ hr
      rintro u command heq
      obtain ⟨-, rfl⟩ := Action.appendCommand.inj heq
      exact known_text fun result' heq => ⟨_, List.mem_append_right _ (List.mem_singleton_self _),
        MatchCommand.found.inj heq⟩
    · refine (Function.forall_update_iff s.matching fun u m =>
        Numbered m (idsOf (s.appended ++ [(v, s.life v, result)]) u (s.life u))).mpr
        ⟨?_, fun u hu => ?_⟩
      · rw [idsOf_concat_self]
        exact hnum
      · rw [idsOf_concat_of_ne hu]
        exact h.numbered u
    · refine (Function.forall_update_iff s.matching fun _ m =>
        Stored (s.appended ++ [(v, s.life v, result)]) m).mpr ⟨?_, fun u _ => ?_⟩
      · exact Stored.mono (h.stored v) hsub
      · exact (h.stored u).mono hsub
    · intro x hx
      rcases List.mem_append.mp hx with hx | hx
      · exact h.lives x hx
      · rw [List.mem_singleton.mp hx]
        exact le_refl (s.life v)
    · intro x hx y hy hid
      rcases List.mem_append.mp hx with hx | hx <;> rcases List.mem_append.mp hy with hy | hy
      · exact h.unique x hx y hy hid
      · rw [List.mem_singleton.mp hy] at hid ⊢
        exact hnew x hx hid
      · rw [List.mem_singleton.mp hx] at hid ⊢
        exact (hnew y hy hid.symm).symm
      · rw [List.mem_singleton.mp hx, List.mem_singleton.mp hy]
  · have hraft : raft = s.raft := by
      obtain ⟨-, ⟨-, rfl⟩ | ⟨n, hn, -⟩⟩ := Cluster.step_appendCommand hr
      · rfl
      · simp [RaftNode.appendCommand, hlead] at hn
    rw [record, if_neg hlead, hraft]
    exact h.setMatching ((h.numbered v).setTask hi ht') (h.stored v)

/-- A thread takes a step. -/
theorem runTask (h : IdInv s) {i now : ℕ} {order : List MatchPlayer} {t : Task} {m : Matchmaking}
    (hok : SoleMatcher s (.run v i order now))
    (hi : (s.matching v).tasks[i]? = some t) (ht : t.appends = none)
    (hm : (s.matching v).runTask i order now t = some m) : IdInv (s.setMatching v m) := by
  have hsame := Replica.sameTables_runTask ht hm
  refine h.setMatching ?_ fun id result hr => h.stored v id result (hsame.pendingMatches ▸ hr)
  rcases Matchmaking.runTask_cases hm with ⟨t', ht', rfl⟩ | ⟨mode, eligible, periodic, rfl, rfl⟩ |
    ⟨result, periodic, rfl, -⟩ | ⟨mode, userIds, rfl, -⟩
  · refine (h.numbered v).setTask hi ?_
    cases t' with
    | found result periodic => exact absurd rfl (ht' result periodic)
    | snapshot | scan | picked | expire | purge | finished => rfl
  · exact (h.numbered v).draw hi (by simpa only [SoleMatcher, hi] using hok)
  · simp [Task.appends] at ht
  · simp [Task.appends] at ht

theorem run (h : IdInv s) {i now : ℕ} {order : List MatchPlayer}
    (hok : SoleMatcher s (.run v i order now)) (hs : s.step (.run v i order now) = some s') :
    IdInv s' := by
  obtain ⟨t, hi, ⟨c, s₁, hc, hs₁, rfl⟩ | ⟨m, ht, hm, rfl⟩⟩ := step_run hs
  · cases t with
    | found result periodic =>
      obtain rfl := Option.some_inj.mp hc
      refine h.append_found hi ?_ (by simpa only [Unclaimed, hi] using hok.unclaimed) hs₁
      cases periodic <;> rfl
    | purge mode userIds =>
      obtain rfl := Option.some_inj.mp hc
      obtain ⟨raft, -, rfl⟩ := append_spec hs₁
      exact (h.append_other (by simp) hs₁).setMatching ((h.numbered v).setTask hi rfl) (h.stored v)
    | snapshot | scan | picked | expire | finished => simp [Task.appends] at hc
  · exact h.runTask hok hi ht hm

theorem deliver (h : IdInv s) {b : ℕ} (hs : s.step (.deliver b) = some s') : IdInv s' := by
  obtain ⟨v, index, entry, rest, raft, m, hb, hr, hm, rfl⟩ := step_deliver hs
  have hknown : Known s.appended entry.command :=
    h.commands.batch (v, (index, entry) :: rest) (List.mem_of_getElem? hb) (index, entry)
      List.mem_cons_self
  have hstored : Stored s.appended m := (h.stored v).applyRaftEntry hknown hm
  refine (h.setRaft (h.commands.step (by simp) hr)).setMatching ?_ hstored
  obtain ⟨hids, hnext⟩ := foundIds_applyRaftEntry hm
  refine (h.numbered v).shrink hnext ?_
  rw [hids]

theorem restart (h : IdInv s) (hs : s.step (.restart v) = some s') : IdInv s' := by
  obtain ⟨raft, hr, rfl⟩ := step_restart hs
  constructor
  · exact h.commands.step (by simp) hr
  · refine (Function.forall_update_iff s.matching fun u m =>
      Numbered m (idsOf s.appended u (Function.update s.life v (s.life v + 1) u))).mpr
      ⟨?_, fun u hu => ?_⟩
    · have hnone : idsOf s.appended v (s.life v + 1) = [] := by
        rw [idsOf, List.map_eq_nil_iff, List.filter_eq_nil_iff]
        intro x hx hown
        obtain ⟨rfl, hlife⟩ := of_decide_eq_true hown
        have hle := h.lives x hx
        omega
      rw [Function.update_self, hnone]
      exact Numbered.init rfl
    · rw [Function.update_of_ne hu]
      exact h.numbered u
  · refine (Function.forall_update_iff s.matching fun _ m => Stored s.appended m).mpr
      ⟨?_, fun u _ => h.stored u⟩
    simp [Stored, fresh]
  · intro x hx
    have hle := h.lives x hx
    dsimp only
    by_cases hxv : x.1 = v
    · rw [hxv, Function.update_self]
      rw [hxv] at hle
      omega
    · rwa [Function.update_of_ne hxv]
  · exact h.unique

theorem step {a : MatchClusterAction} (h : IdInv s) (hok : SoleMatcher s a)
    (hs : s.step a = some s') : IdInv s' := by
  cases a with
  | raft a =>
    obtain ⟨hint, raft, hr, rfl⟩ := step_raft hs
    refine h.setRaft (h.commands.step ?_ hr)
    rintro u command rfl
    simp [internal] at hint
  | start v =>
    simp only [MatchCluster.step] at hs
    split_ifs at hs
    obtain rfl := Option.some_inj.mp hs
    exact h.setRaft (h.commands.start v)
  | join v player =>
    simp only [MatchCluster.step] at hs
    split_ifs at hs
    exact h.append_other (by simp) hs
  | leave v userId mode => exact h.append_other (by simp) hs
  | deliver b => exact h.deliver hs
  | run v i order now => exact h.run hok hs
  | restart v => exact h.restart hs

theorem appended_subset {a : MatchClusterAction} (hs : s.step a = some s') :
    s.appended ⊆ s'.appended := by
  have hrecord : ∀ v c, s.appended ⊆ s.record v c := by
    intro v c
    unfold record
    split
    · split_ifs
      · exact List.subset_append_left _ _
      · exact List.Subset.refl _
    · exact List.Subset.refl _
  have happend : ∀ v c s₁, s.append v c = some s₁ → s.appended ⊆ s₁.appended := by
    intro v c s₁ h
    obtain ⟨raft, -, rfl⟩ := append_spec h
    exact hrecord v c
  cases a with
  | raft a =>
    obtain ⟨-, raft, -, rfl⟩ := step_raft hs
    exact List.Subset.refl _
  | start v =>
    simp only [MatchCluster.step] at hs
    split_ifs at hs
    obtain rfl := Option.some_inj.mp hs
    exact List.Subset.refl _
  | join v player =>
    simp only [MatchCluster.step] at hs
    split_ifs at hs
    exact happend _ _ _ hs
  | leave v userId mode => exact happend _ _ _ hs
  | deliver b =>
    obtain ⟨v, index, entry, rest, raft, m, -, -, -, rfl⟩ := step_deliver hs
    exact List.Subset.refl _
  | run v i order now =>
    obtain ⟨t, -, ⟨c, s₁, -, hs₁, rfl⟩ | ⟨m, -, -, rfl⟩⟩ := step_run hs
    · exact happend v c s₁ hs₁
    · exact List.Subset.refl _
  | restart v =>
    obtain ⟨raft, -, rfl⟩ := step_restart hs
    exact List.Subset.refl _

/-- A committed match is on record. -/
theorem mem_appended (h : IdInv s) {command : String} {result : MatchResult}
    (hc : Committed s command) (hd : decodeCommand command = .ok (some (.found result))) :
    ∃ x ∈ s.appended, x.2.2.matchId = result.matchId ∧ x.2.2.playerIds = result.playerIds := by
  obtain ⟨v, i, -, hi⟩ := hc
  obtain ⟨e, he, rfl⟩ := Option.map_eq_some_iff.mp hi
  exact h.commands.log v e (List.mem_of_getElem? he) result hd

end IdInv

/-! ## The whole history -/

/-- No two matches that are committed at any times of a run have one id and different
players, and no match is stored over another one. -/
theorem match_ids_unique (h : Reaches SoleMatcher s) (h' : ReachesFrom SoleMatcher s s') :
    UniqueMatchIds s s' ∧ KeepsMatches s' := by
  have hinv : IdInv s := by
    refine BoostGateway.Reaches.invariant (P := IdInv) h ?_ fun s a s' hi hok hs => hi.step hok hs
    rintro s ⟨peers, mmrRange, maxWait, rfl⟩
    exact idInv_init peers mmrRange maxWait
  have hinv' : IdInv s' ∧ s.appended ⊆ s'.appended := by
    refine BoostGateway.Reaches.invariant (P := fun s' => IdInv s' ∧ s.appended ⊆ s'.appended) h'
      ?_ fun s₁ a s₂ hi hok hs => ⟨hi.1.step hok hs, List.Subset.trans hi.2 (IdInv.appended_subset hs)⟩
    rintro s' rfl
    exact ⟨hinv, List.Subset.refl _⟩
  constructor
  · intro command command' result result' hc hc' hd hd' hid
    obtain ⟨x, hx, hxid, hxp⟩ := hinv.mem_appended hc hd
    obtain ⟨y, hy, hyid, hyp⟩ := hinv'.1.mem_appended hc' hd'
    rw [← hxp, ← hyp]
    exact hinv'.1.unique x (hinv'.2 hx) y hy (by rw [hxid, hyid, hid])
  · intro b v index entry rest result old hb hd hold
    have hknown : Known s'.appended entry.command :=
      hinv'.1.commands.batch (v, (index, entry) :: rest) (List.mem_of_getElem? hb) (index, entry)
        List.mem_cons_self
    obtain ⟨x, hx, hxid, hxp⟩ := hknown result hd
    obtain ⟨y, hy, hyid, hyp⟩ := hinv'.1.stored v _ _ hold
    rw [← hxp, ← hyp]
    exact hinv'.1.unique y hy x hx (by rw [hyid, hxid])

/-! ## A restart -/

instance (s : MatchCluster) (a : MatchClusterAction) : Decidable (SoleMatcher s a) := by
  unfold SoleMatcher
  split
  · split <;> infer_instance
  · infer_instance

/-- The callback gets a command of the service. -/
theorem Reaches.deliver {ok : MatchCluster → MatchClusterAction → Prop} {b index term : ℕ}
    {c : MatchCommand} {rest : Applied} (h : Reaches ok s) (hok : ok s (.deliver b))
    (hb : s.raft.batches[b]? = some (v, (index, ⟨term, c.text⟩) :: rest)) (hn : c.Names) :
    Reaches ok (setMatching
      { s with
        raft := { s.raft with
          batches := s.raft.batches.set b (v, rest)
          delivered := s.raft.delivered ++ [(v, index, ⟨term, c.text⟩)] } }
      v ((s.matching v).applyCommand c.written)) := by
  have hr : s.raft.step (.deliver b) = some { s.raft with
      batches := s.raft.batches.set b (v, rest)
      delivered := s.raft.delivered ++ [(v, index, ⟨term, c.text⟩)] } := by
    simp only [Cluster.step, hb]
  refine .step (a := .deliver b) h hok ?_
  simp only [step, hb, hr, Matchmaking.applyRaftEntry_text, if_pos hn]

def playerP : MatchPlayer := { userId := "p", queuedAtMs := 1 }

def playerQ : MatchPlayer := { userId := "q", queuedAtMs := 2 }

def playerR : MatchPlayer := { userId := "r", queuedAtMs := 3 }

def playerS : MatchPlayer := { userId := "s", queuedAtMs := 4 }

/-- A match of two players under a number. -/
def matchOf (n : ℕ) (x y : MatchPlayer) : MatchResult :=
  ⟨matchIdOf n, .k1v1, [x.userId, y.userId], 1000⟩

/-- Thread `i` of `a` finds nobody for `x`. -/
def attemptAlone (i : ℕ) (x : MatchPlayer) : List MatchClusterAction :=
  [.run "a" i [x] 0, .run "a" i [x] 0, .run "a" i [] 0]

/-- Thread `i` of `a` finds two players and takes a number. -/
def attemptPair (i : ℕ) (x y : MatchPlayer) : List MatchClusterAction :=
  [.run "a" i [x, y] 0, .run "a" i [x, y] 0, .run "a" i [] 0]

/-- A player joins on `a`, which is alone in its cluster, and the call commits. -/
def joinAlone (call : ℕ) (x : MatchPlayer) : List MatchClusterAction :=
  [.join "a" x, .raft (.proceed call 0)]

/-- The process of `a` starts again, and its callback gets the log. -/
def startAgain : List MatchClusterAction := [.restart "a", .raft (.onApply "a")]

/-- `p` and `q` are matched, and then `r` and `s`. -/
theorem match_ids_unique_twice : ∃ s, Reaches SoleMatcher s ∧
    Committed s (makeMatchFoundCommand (matchOf 1 playerP playerQ)) ∧
    Committed s (makeMatchFoundCommand (matchOf 2 playerR playerS)) ∧
    UniqueMatchIds s s ∧ KeepsMatches s := by
  have h₁ : Reaches SoleMatcher _ := .runWith (.init ⟨_, _, _, rfl⟩)
    (rfl : runWith step SoleMatcher (init ["a"] (fun _ => 100) fun _ => 30000)
      (.start "a" :: joinAlone 0 playerP) = some _)
  have h₂ := Reaches.deliver (b := 0) (c := .join playerP) h₁ trivial rfl (by decide)
  have h₃ : Reaches SoleMatcher _ := .runWith h₂
    (rfl : runWith step SoleMatcher _ (attemptAlone 1 playerP ++ joinAlone 1 playerQ) = some _)
  have h₄ := Reaches.deliver (b := 1) (c := .join playerQ) h₃ trivial rfl (by decide)
  have h₅ : Reaches SoleMatcher _ := .runWith h₄
    (rfl : runWith step SoleMatcher _ (attemptPair 2 playerP playerQ ++
      [.run "a" 2 [] 0, .raft (.proceed 2 0)]) = some _)
  have h₆ := Reaches.deliver (b := 2) (c := .found (matchOf 1 playerP playerQ)) h₅ trivial rfl
    (by decide)
  have h₇ : Reaches SoleMatcher _ := .runWith h₆
    (rfl : runWith step SoleMatcher _ (joinAlone 3 playerR) = some _)
  have h₈ := Reaches.deliver (b := 3) (c := .join playerR) h₇ trivial rfl (by decide)
  have h₉ : Reaches SoleMatcher _ := .runWith h₈
    (rfl : runWith step SoleMatcher _ (attemptAlone 3 playerR ++ joinAlone 4 playerS) = some _)
  have h₁₀ := Reaches.deliver (b := 4) (c := .join playerS) h₉ trivial rfl (by decide)
  have h₁₁ : Reaches SoleMatcher _ := .runWith h₁₀
    (rfl : runWith step SoleMatcher _
      (attemptPair 4 playerR playerS ++ [.run "a" 4 [] 0, .raft (.proceed 5 0)]) = some _)
  exact ⟨_, h₁₁, ⟨"a", 2, by decide +kernel, rfl⟩, ⟨"a", 5, by decide +kernel, rfl⟩,
    match_ids_unique h₁₁ (.init rfl)⟩

/-- Two numbers are taken for `p` and `q`, by the thread of the second join and by that of
`Matchmaker::run`; the replay takes one, and the next number is used again. -/
theorem not_match_ids_unique_restart : ∃ s, Reaches (fun _ _ => True) s ∧
    ReachesFrom (fun _ _ => True) s s ∧ ¬UniqueMatchIds s s := by
  have h₁ : Reaches (fun _ _ => True) _ := .runWith (.init ⟨_, _, _, rfl⟩)
    (rfl : runWith step (fun _ _ => True) (init ["a"] (fun _ => 100) fun _ => 30000)
      (.start "a" :: joinAlone 0 playerP) = some _)
  have h₂ := Reaches.deliver (b := 0) (c := .join playerP) h₁ trivial rfl (by decide)
  have h₃ : Reaches (fun _ _ => True) _ := .runWith h₂
    (rfl : runWith step (fun _ _ => True) _
      (attemptAlone 1 playerP ++ joinAlone 1 playerQ) = some _)
  have h₄ := Reaches.deliver (b := 1) (c := .join playerQ) h₃ trivial rfl (by decide)
  have h₅ : Reaches (fun _ _ => True) _ := .runWith h₄
    (rfl : runWith step (fun _ _ => True) _
      (attemptPair 2 playerP playerQ ++ attemptPair 0 playerP playerQ ++
        [.run "a" 2 [] 0, .run "a" 0 [] 0, .raft (.proceed 2 0)] ++ startAgain) = some _)
  have h₆ := Reaches.deliver (b := 3) (c := .join playerP) h₅ trivial rfl (by decide)
  have h₇ : Reaches (fun _ _ => True) _ := .runWith h₆
    (rfl : runWith step (fun _ _ => True) _ (attemptAlone 1 playerP) = some _)
  have h₈ := Reaches.deliver (b := 3) (c := .join playerQ) h₇ trivial rfl (by decide)
  have h₉ : Reaches (fun _ _ => True) _ := .runWith h₈
    (rfl : runWith step (fun _ _ => True) _
      (attemptPair 2 playerP playerQ ++ [.run "a" 2 [] 0]) = some _)
  have h₁₀ := Reaches.deliver (b := 3) (c := .found (matchOf 1 playerP playerQ)) h₉ trivial rfl
    (by decide)
  have h₁₁ := Reaches.deliver (b := 3) (c := .found (matchOf 2 playerP playerQ)) h₁₀ trivial rfl
    (by decide)
  have h₁₂ : Reaches (fun _ _ => True) _ := .runWith h₁₁
    (rfl : runWith step (fun _ _ => True) _ (.start "a" :: joinAlone 4 playerR) = some _)
  have h₁₃ := Reaches.deliver (b := 4) (c := .join playerR) h₁₂ trivial rfl (by decide)
  have h₁₄ : Reaches (fun _ _ => True) _ := .runWith h₁₃
    (rfl : runWith step (fun _ _ => True) _
      (attemptAlone 3 playerR ++ joinAlone 5 playerS) = some _)
  have h₁₅ := Reaches.deliver (b := 5) (c := .join playerS) h₁₄ trivial rfl (by decide)
  have h₁₆ : Reaches (fun _ _ => True) _ := .runWith h₁₅
    (rfl : runWith step (fun _ _ => True) _
      (attemptPair 4 playerR playerS ++ [.run "a" 4 [] 0, .raft (.proceed 6 0)]) = some _)
  refine ⟨_, h₁₆, .init rfl, fun h => ?_⟩
  have heq := h (MatchCommand.found (matchOf 2 playerP playerQ)).text
    (MatchCommand.found (matchOf 2 playerR playerS)).text _ _ ⟨"a", 3, by decide +kernel, rfl⟩
    ⟨"a", 6, by decide +kernel, rfl⟩ (decodeCommand_text _) (decodeCommand_text _) rfl
  exact absurd heq (by decide)

end MatchCluster

end BoostGateway.Match
