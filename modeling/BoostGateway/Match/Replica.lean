import BoostGateway.Match.Commands
import BoostGateway.Raft.Apply

/-!
# Replicas of the matchmaking service

A node of the service with Raft : the queues and the matches change only when the apply
callback gets a log entry (`apply_raft_entry`), and a thread that has found a match or
players that wait too long appends a command instead (`matchmaking_service.cpp:331-356`),
where the node leads. Applying a join starts an attempt to find a match, so on the
leader the callback may append, and deliver, an entry in the middle of a batch.

Two nodes whose callbacks got the same commands have the same queues and matches where
both got them in the order of the log (`replicas_agree`); `Orderly` is the condition for
that. The leader may get a match before an entry it was appended after
(`not_replicas_agree_joinAgain`).
-/

namespace BoostGateway.Match

open Raft Json

/-! ## Applying a command -/

namespace Matchmaking

variable (s : Matchmaking)

def applyMatchJoin (player : MatchPlayer) : Matchmaking :=
  { s.setQueue player.mode ((s.queues player.mode).add player) with
    tasks := s.tasks ++ [.snapshot player.mode false]
    events := s.events ++ [.joined player.userId] }

def applyMatchLeave (mode : MatchMode) (userId : UserId) : Matchmaking :=
  s.setQueue mode ((s.queues mode).remove userId)

def applyMatchPurge (mode : MatchMode) (userIds : List UserId) : Matchmaking :=
  if userIds = [] then s else s.setQueue mode ((s.queues mode).removePlayers userIds)

def applyCommand : MatchCommand → Matchmaking
  | .join player => s.applyMatchJoin player
  | .leave userId mode => s.applyMatchLeave mode userId
  | .found result => s.applyMatchFound result
  | .purge mode userIds => s.applyMatchPurge mode userIds

def applyRaftEntry (command : String) : Except TypeError Matchmaking :=
  return ((← decodeCommand command).map s.applyCommand).getD s

/-- A command of the service is applied, or ignored where it names nobody. -/
theorem applyRaftEntry_text (c : MatchCommand) :
    s.applyRaftEntry c.text = .ok (if c.Names then s.applyCommand c.written else s) := by
  rw [applyRaftEntry, decodeCommand_text]
  split_ifs <;> rfl

/-- An entry is ignored, or it is a command and is applied. -/
theorem applyRaftEntry_cases {s s' : Matchmaking} {command : String}
    (h : s.applyRaftEntry command = .ok s') :
    (decodeCommand command = .ok none ∧ s' = s) ∨
      ∃ c, decodeCommand command = .ok (some c) ∧ s' = s.applyCommand c := by
  unfold applyRaftEntry at h
  cases hd : decodeCommand command with
  | error e => simp [hd, bind, Except.bind] at h
  | ok c =>
    rw [hd] at h
    cases h
    cases c with
    | none => exact Or.inl ⟨rfl, rfl⟩
    | some c => exact Or.inr ⟨c, rfl, rfl⟩

/-- The service after a list of log entries, applied in this order. -/
def replay (commands : List String) : Except TypeError Matchmaking :=
  commands.foldlM applyRaftEntry {}

end Matchmaking

/-- The queues and the matches are the same. -/
structure SameTables (s s' : Matchmaking) : Prop where
  queues : s.queues = s'.queues
  pendingMatches : s.pendingMatches = s'.pendingMatches

theorem SameTables.applyCommand {s s' : Matchmaking} (h : SameTables s s') (c : MatchCommand) :
    SameTables (s.applyCommand c) (s'.applyCommand c) := by
  obtain ⟨hq, hp⟩ := h
  cases c with
  | join player =>
    exact ⟨by simp only [Matchmaking.applyCommand, Matchmaking.applyMatchJoin,
      Matchmaking.setQueue, hq], hp⟩
  | leave userId mode =>
    exact ⟨by simp only [Matchmaking.applyCommand, Matchmaking.applyMatchLeave,
      Matchmaking.setQueue, hq], hp⟩
  | found result =>
    exact ⟨by simp only [Matchmaking.applyCommand, Matchmaking.applyMatchFound,
      Matchmaking.setQueue, hq], by simp only [Matchmaking.applyCommand,
        Matchmaking.applyMatchFound, hp]⟩
  | purge mode userIds =>
    simp only [Matchmaking.applyCommand, Matchmaking.applyMatchPurge]
    split_ifs
    · exact ⟨hq, hp⟩
    · exact ⟨by simp only [Matchmaking.setQueue, hq], hp⟩

theorem SameTables.applyRaftEntry {s s' s₁ : Matchmaking} (h : SameTables s s')
    {command : String} (hs : s.applyRaftEntry command = .ok s₁) :
    ∃ s₁', s'.applyRaftEntry command = .ok s₁' ∧ SameTables s₁ s₁' := by
  rcases Matchmaking.applyRaftEntry_cases hs with ⟨hd, rfl⟩ | ⟨c, hd, rfl⟩
  · exact ⟨s', by rw [Matchmaking.applyRaftEntry, hd]; rfl, h⟩
  · exact ⟨s'.applyCommand c, by rw [Matchmaking.applyRaftEntry, hd]; rfl, h.applyCommand c⟩

/-! ## A node -/

/-- A node with its matchmaking. -/
structure Replica where
  raft : Applying
  matching : Matchmaking

/-- What happens to a node. -/
inductive ReplicaEvent
  /-- A locked section of Raft : a timer, an RPC, or a call of `append_command` by a
  handler. -/
  | locked (e : NodeEvent)
  /-- The callback gets the next entry of a batch. -/
  | deliver (b : ℕ)
  /-- Thread `i` takes its next step, at the time `now`, with what a sort gives it. -/
  | run (i : ℕ) (order : List MatchPlayer) (now : ℕ)
  deriving DecidableEq

namespace Task

/-- The command the match callback or the purge callback appends for a thread. -/
def appends : Task → Option MatchCommand
  | .found result _ => some (.found result)
  | .purge mode userIds => some (.purge mode userIds)
  | _ => none

/-- Where the thread goes on after the callback. -/
def afterCallback : Task → Task
  | .found result periodic => Matchmaking.afterCheck result.mode periodic
  | .purge mode _ => .snapshot mode.next true
  | t => t

end Task

namespace Replica

/-- A process that starts on a file, with its configuration. -/
def init (nodeId : NodeId) (peers : List NodeId) (file : Option PersistentState)
    (mmrRange : ℤ) (maxWait : ℕ) : Replica where
  raft := Applying.init nodeId peers file
  matching := { mmrRangeInitial := mmrRange, maxWaitMs := maxWait }

/-- One event. A node that does not lead appends nothing. The run ends at an entry that
makes `apply_raft_entry` raise; the service writes none (`applyRaftEntry_text`). -/
def step (s : Replica) : ReplicaEvent → Option Replica
  | .locked e => (s.raft.step (.locked e)).map fun raft => { s with raft }
  | .deliver b =>
    match s.raft.batches[b]? with
    | some ((_, entry) :: _) =>
      match s.raft.step (.deliver b), s.matching.applyRaftEntry entry.command with
      | some raft, .ok matching => some { raft, matching }
      | _, _ => none
    | _ => none
  | .run i order now =>
    match s.matching.tasks[i]? with
    | none => none
    | some t =>
      match t.appends with
      | some c =>
        (s.raft.step (.locked (.appendCommand c.text))).map fun raft =>
          { raft, matching := s.matching.setTask i t.afterCallback }
      | none => (s.matching.runTask i order now t).map fun matching => { s with matching }

/-- The states reached by events that meet `ok`. -/
abbrev Reaches (ok : Replica → ReplicaEvent → Prop) : Replica → Prop :=
  BoostGateway.Reaches
    (fun s => ∃ nodeId peers file mmrRange maxWait, s = init nodeId peers file mmrRange maxWait)
    step ok

/-- The commands the callback got, each with its index. -/
def commands (s : Replica) : List (String × ℕ) :=
  s.raft.delivered.map fun x => (x.2.command, x.1)

/-- The callback got the commands of a log, each under its index there, in any order. -/
def HasApplied (s : Replica) (log : List String) : Prop :=
  ∀ x, x ∈ s.commands ↔ x ∈ log.zipIdx 1

/-- The same players in the three queues and the same matches. -/
def Agree (s s' : Replica) : Prop :=
  (∀ mode player, player ∈ s.matching.queues mode ↔ player ∈ s'.matching.queues mode) ∧
    ∀ id, s.matching.pendingMatches.lookup id = s'.matching.pendingMatches.lookup id

/-- No batch overtakes an older one and no request takes `last_applied_` back. -/
def Orderly (s : Replica) : ReplicaEvent → Prop
  | .locked e => Raft.Orderly s.raft (.locked e)
  | .deliver b => Raft.Orderly s.raft (.deliver b)
  | .run _ _ _ => True

instance (s : Replica) (e : ReplicaEvent) : Decidable (Orderly s e) :=
  match e with
  | .locked e => inferInstanceAs (Decidable (Raft.Orderly s.raft (.locked e)))
  | .deliver b => inferInstanceAs (Decidable (Raft.Orderly s.raft (.deliver b)))
  | .run _ _ _ => inferInstanceAs (Decidable True)

/-! ## What each event does -/

variable {s s' : Replica}

theorem step_locked {e : NodeEvent} (h : s.step (.locked e) = some s') :
    s.raft.step (.locked e) = some s'.raft ∧ s'.matching = s.matching := by
  obtain ⟨raft, hr, rfl⟩ := Option.map_eq_some_iff.mp h
  exact ⟨hr, rfl⟩

theorem step_deliver {b : ℕ} (h : s.step (.deliver b) = some s') :
    ∃ index entry rest, s.raft.batches[b]? = some ((index, entry) :: rest) ∧
      s.raft.step (.deliver b) = some s'.raft ∧
      s.matching.applyRaftEntry entry.command = .ok s'.matching := by
  simp only [step] at h
  split at h
  · rename_i index entry rest hb
    split at h
    · rename_i raft matching hr hm
      obtain rfl := Option.some_inj.mp h
      exact ⟨index, entry, rest, hb, hr, hm⟩
    · simp at h
  · simp at h

/-- A thread appends a command, or takes a step that only looks at the queues. -/
theorem step_run {i now : ℕ} {order : List MatchPlayer}
    (h : s.step (.run i order now) = some s') :
    ∃ t, s.matching.tasks[i]? = some t ∧
      ((∃ c, t.appends = some c ∧
          s.raft.step (.locked (.appendCommand c.text)) = some s'.raft ∧
          s'.matching = s.matching.setTask i t.afterCallback) ∨
        (t.appends = none ∧ s.matching.runTask i order now t = some s'.matching ∧
          s'.raft = s.raft)) := by
  simp only [step] at h
  split at h
  · simp at h
  · rename_i t ht
    refine ⟨t, ht, ?_⟩
    split at h
    · rename_i c hc
      obtain ⟨raft, hr, rfl⟩ := Option.map_eq_some_iff.mp h
      exact Or.inl ⟨c, hc, hr, rfl⟩
    · rename_i hc
      obtain ⟨matching, hm, rfl⟩ := Option.map_eq_some_iff.mp h
      exact Or.inr ⟨hc, hm, rfl⟩

/-- The Raft part of a run is a run of Raft. -/
theorem Reaches.raft (h : Reaches Orderly s) : Applying.Reaches Raft.Orderly s.raft := by
  refine BoostGateway.Reaches.invariant (P := fun s => Applying.Reaches Raft.Orderly s.raft) h
    ?_ ?_
  · rintro s ⟨nodeId, peers, file, mmrRange, maxWait, rfl⟩
    exact .init ⟨nodeId, peers, file, rfl⟩
  · intro s e s' hs hok hstep
    cases e with
    | locked e => exact .step (a := .locked e) hs hok (step_locked hstep).1
    | deliver b =>
      obtain ⟨-, -, -, -, hr, -⟩ := step_deliver hstep
      exact .step (a := .deliver b) hs hok hr
    | run i order now =>
      obtain ⟨t, -, ⟨c, -, hr, -⟩ | ⟨-, -, hr⟩⟩ := step_run hstep
      · exact .step (a := .locked (.appendCommand c.text)) hs trivial hr
      · exact hr ▸ hs

/-! ## The tables are a replay of the commands -/

theorem sameTables_runTask {m m' : Matchmaking} {i now : ℕ} {order : List MatchPlayer} {t : Task}
    (ht : t.appends = none) (h : m.runTask i order now t = some m') : SameTables m' m := by
  rcases Matchmaking.runTask_cases h with ⟨t', -, rfl⟩ | ⟨mode, eligible, periodic, -, rfl⟩ |
    ⟨result, periodic, rfl, -⟩ | ⟨mode, userIds, rfl, -⟩
  · exact ⟨rfl, rfl⟩
  · exact ⟨rfl, rfl⟩
  · simp [Task.appends] at ht
  · simp [Task.appends] at ht

/-- The tables are those of the commands the callback got, in the order it got them. -/
def Replayed (s : Replica) : Prop :=
  ∃ m, Matchmaking.replay (s.commands.map Prod.fst) = .ok m ∧ SameTables s.matching m

theorem Replayed.frame (h : Replayed s) (hm : SameTables s'.matching s.matching)
    (hd : s'.raft.delivered = s.raft.delivered) : Replayed s' := by
  obtain ⟨m, hr, hsame⟩ := h
  refine ⟨m, by rw [commands, hd]; exact hr, ?_⟩
  exact ⟨hm.queues.trans hsame.queues, hm.pendingMatches.trans hsame.pendingMatches⟩

theorem delivered_locked {r r' : Applying} {e : NodeEvent} (h : r.step (.locked e) = some r') :
    r'.delivered = r.delivered := by
  simp only [Applying.step] at h
  split_ifs at h
  obtain rfl := Option.some_inj.mp h
  rfl

theorem delivered_deliver {r r' : Applying} {b : ℕ} {x : ℕ × LogEntry} {rest : Applied}
    (hb : r.batches[b]? = some (x :: rest)) (h : r.step (.deliver b) = some r') :
    r'.delivered = r.delivered ++ [x] := by
  simp only [Applying.step, hb] at h
  obtain rfl := Option.some_inj.mp h
  rfl

theorem Replayed.step {e : ReplicaEvent} (h : Replayed s) (hs : s.step e = some s') :
    Replayed s' := by
  cases e with
  | locked e =>
    obtain ⟨hr, hm⟩ := step_locked hs
    exact h.frame (hm ▸ ⟨rfl, rfl⟩) (delivered_locked hr)
  | deliver b =>
    obtain ⟨index, entry, rest, hb, hr, hm⟩ := step_deliver hs
    obtain ⟨m, hreplay, hsame⟩ := h
    obtain ⟨m', hm', hsame'⟩ := hsame.applyRaftEntry hm
    refine ⟨m', ?_, hsame'⟩
    rw [commands, delivered_deliver hb hr, List.map_append, List.map_append, ← commands,
      Matchmaking.replay, List.foldlM_append, ← Matchmaking.replay, hreplay]
    simp [bind, Except.bind, hm', pure, Except.pure]
  | run i order now =>
    obtain ⟨t, -, ⟨c, -, hr, hm⟩ | ⟨ht, hm, hr⟩⟩ := step_run hs
    · exact h.frame (hm ▸ ⟨rfl, rfl⟩) (delivered_locked hr)
    · exact h.frame (sameTables_runTask ht hm) (by rw [hr])

variable {ok : Replica → ReplicaEvent → Prop}

theorem Reaches.replayed (h : Reaches ok s) : Replayed s := by
  refine BoostGateway.Reaches.invariant (P := Replayed) h ?_ fun s e s' hi _ hs => hi.step hs
  rintro s ⟨nodeId, peers, file, mmrRange, maxWait, rfl⟩
  exact ⟨{}, rfl, rfl, rfl⟩

/-! ## Two nodes -/

/-- Commands that came in the order of their indices are those of the log. -/
theorem HasApplied.commands_eq {log : List String} (h : s.HasApplied log) (ho : s.raft.InOrder) :
    s.commands.map Prod.fst = log := by
  have hlen : (s.commands.map Prod.fst).length = s.raft.delivered.length := by simp [commands]
  have hsnd : s.commands.map Prod.snd = s.raft.delivered.map Prod.fst := by simp [commands]
  have hzip : s.commands = (s.commands.map Prod.fst).zipIdx 1 := by
    rw [List.zipIdx_eq_zip_range', hlen, ← ho]
    exact List.zip_of_prod rfl hsnd
  refine List.ext_getElem? fun i => Option.ext fun c => ?_
  have hmem : ∀ l : List String, l[i]? = some c ↔ (c, i + 1) ∈ l.zipIdx 1 := fun l => by
    simp [List.mk_mem_zipIdx_iff_le_and_getElem?_sub]
  rw [hmem, hmem, ← hzip]
  exact h (c, i + 1)

/-- Two nodes whose callbacks got the commands of one log have the same queues and
matches. -/
theorem replicas_agree {log : List String} (h : Reaches Orderly s) (h' : Reaches Orderly s')
    (ha : s.HasApplied log) (ha' : s'.HasApplied log) : Agree s s' := by
  obtain ⟨m, hm, hsame⟩ := h.replayed
  obtain ⟨m', hm', hsame'⟩ := h'.replayed
  rw [ha.commands_eq (applied_in_order h.raft)] at hm
  rw [ha'.commands_eq (applied_in_order h'.raft)] at hm'
  obtain rfl : m = m' := Except.ok.inj (hm.symm.trans hm')
  refine ⟨fun mode player => ?_, fun id => ?_⟩
  · rw [hsame.queues, hsame'.queues]
  · rw [hsame.pendingMatches, hsame'.pendingMatches]

/-! ## A leader and a follower -/

/-- The callback gets a command of the service. -/
theorem Reaches.deliver {b index term : ℕ}
    {c : MatchCommand} {rest : Applied} (h : Reaches ok s) (hok : ok s (.deliver b))
    (hb : s.raft.batches[b]? = some ((index, ⟨term, c.text⟩) :: rest)) (hn : c.Names) :
    Reaches ok
      { raft := { s.raft with
          batches := s.raft.batches.set b rest
          delivered := s.raft.delivered ++ [(index, ⟨term, c.text⟩)] }
        matching := s.matching.applyCommand c.written } := by
  have hr : s.raft.step (.deliver b) = some { s.raft with
      batches := s.raft.batches.set b rest
      delivered := s.raft.delivered ++ [(index, ⟨term, c.text⟩)] } := by
    simp only [Applying.step, hb]
  refine .step (a := .deliver b) h hok ?_
  simp only [step, hb, hr, Matchmaking.applyRaftEntry_text, if_pos hn]

theorem Reaches.hasApplied (_ : Reaches ok s)
    (log : List String) (h : s.commands.Perm (log.zipIdx 1)) : s.HasApplied log :=
  fun _ => h.mem_iff

def playerA : MatchPlayer := { userId := "a", queuedAtMs := 1 }

def playerB : MatchPlayer := { userId := "b", queuedAtMs := 2 }

/-- `a` once more, later. -/
def playerA' : MatchPlayer := { userId := "a", queuedAtMs := 3 }

def matchAB : MatchResult := ⟨"match_1", .k1v1, ["a", "b"], 1000⟩

/-- The follower `f` gets a whole log at once. -/
def receiveLog (log : List String) : ReplicaEvent :=
  .locked (.appendEntries ⟨1, "l", 0, 0, log.map fun c => ⟨1, c⟩, log.length⟩)

/-- The node `l` becomes the leader of `l`, `f` and `g`, and `a` joins. -/
def leadAndJoin : List ReplicaEvent :=
  [.locked .startElection, .locked (.electionReply ⟨1, "l", 0, 0⟩ ⟨1, true⟩),
    .locked .electionFinish, .locked (.appendCommand (makeJoinCommand playerA)),
    .locked (.appendReply "g" ⟨1, true, 1⟩), .locked (.appendFinish 2 0)]

/-- The attempt of thread 1 finds nobody for `a`. -/
def attemptA : List ReplicaEvent := [.run 1 [playerA] 0, .run 1 [playerA] 0, .run 1 [] 0]

/-- The attempt of thread 2 finds `a` and `b`, and the callback gets the match. -/
def attemptAB : List ReplicaEvent :=
  [.run 2 [playerA, playerB] 0, .run 2 [playerA, playerB] 0, .run 2 [] 0, .run 2 [] 0]

/-- The thread of an `append_command` gets the answer of `g` and commits. -/
def commit (index : ℕ) : List ReplicaEvent :=
  [.locked (.appendReply "g" ⟨1, true, index⟩), .locked (.appendFinish 2 0)]

/-- `a` and `b` join and are matched. -/
def joinJoinMatch : List String :=
  [makeJoinCommand playerA, makeJoinCommand playerB, makeMatchFoundCommand matchAB]

/-- The leader gets the log in three batches and a follower in one. -/
theorem replicas_agree_joinJoinMatch : ∃ s s', Reaches Orderly s ∧ Reaches Orderly s' ∧
    s.HasApplied joinJoinMatch ∧ s'.HasApplied joinJoinMatch ∧ Agree s s' := by
  have l₁ : Reaches Orderly _ := .runWith (.init ⟨_, _, _, _, _, rfl⟩)
    (rfl : runWith step Orderly (init "l" ["l", "f", "g"] none 100 30000) leadAndJoin = some _)
  have l₂ := Reaches.deliver (b := 6) (c := .join playerA) l₁ (by decide) rfl (by decide)
  have l₃ : Reaches Orderly _ := .runWith l₂
    (rfl : runWith step Orderly _ (attemptA ++
      .locked (.appendCommand (makeJoinCommand playerB)) :: commit 2) = some _)
  have l₄ := Reaches.deliver (b := 9) (c := .join playerB) l₃ (by decide) rfl (by decide)
  have l₅ : Reaches Orderly _ := .runWith l₄
    (rfl : runWith step Orderly _ (attemptAB ++ commit 3) = some _)
  have l₆ := Reaches.deliver (b := 12) (c := .found matchAB) l₅ (by decide) rfl (by decide)
  have f₁ : Reaches Orderly _ := .runWith (.init ⟨_, _, _, _, _, rfl⟩)
    (rfl : runWith step Orderly (init "f" ["l", "f", "g"] none 100 30000)
      [receiveLog joinJoinMatch] = some _)
  have f₂ := Reaches.deliver (b := 1) (c := .join playerA) f₁ (by decide) rfl (by decide)
  have f₃ : Reaches Orderly _ := .runWith f₂ (rfl : runWith step Orderly _ attemptA = some _)
  have f₄ := Reaches.deliver (b := 1) (c := .join playerB) f₃ (by decide) rfl (by decide)
  have f₅ : Reaches Orderly _ := .runWith f₄ (rfl : runWith step Orderly _ attemptAB = some _)
  have f₆ := Reaches.deliver (b := 1) (c := .found matchAB) f₅ (by decide) rfl (by decide)
  have hl := l₆.hasApplied joinJoinMatch (.refl _)
  have hf := f₆.hasApplied joinJoinMatch (.refl _)
  exact ⟨_, _, l₆, f₆, hl, hf, replicas_agree l₆ f₆ hl hf⟩

/-- `a` joins again before the match is in the log. -/
def joinAgain : List String :=
  [makeJoinCommand playerA, makeJoinCommand playerB, makeJoinCommand playerA',
    makeMatchFoundCommand matchAB]

/-- The leader gets the joins of `b` and `a` in one batch. The attempt after the first of
them appends the match and delivers it before the second. -/
theorem joinAgain_leader : ∃ s, Reaches (fun _ _ => True) s ∧ s.HasApplied joinAgain ∧
    s.matching.queues .k1v1 = [playerA'] := by
  have l₁ : Reaches (fun _ _ => True) _ := .runWith (.init ⟨_, _, _, _, _, rfl⟩)
    (rfl : runWith step (fun _ _ => True) (init "l" ["l", "f", "g"] none 100 30000)
      leadAndJoin = some _)
  have l₂ := Reaches.deliver (b := 6) (c := .join playerA) l₁ trivial rfl (by decide)
  have l₃ : Reaches (fun _ _ => True) _ := .runWith l₂
    (rfl : runWith step (fun _ _ => True) _ (attemptA ++
      [.locked (.appendCommand (makeJoinCommand playerB)),
        .locked (.appendCommand (makeJoinCommand playerA'))] ++ commit 3) = some _)
  have l₄ := Reaches.deliver (b := 10) (c := .join playerB) l₃ trivial rfl (by decide)
  have l₅ : Reaches (fun _ _ => True) _ := .runWith l₄
    (rfl : runWith step (fun _ _ => True) _ (attemptAB ++ commit 4) = some _)
  have l₆ := Reaches.deliver (b := 13) (c := .found matchAB) l₅ trivial rfl (by decide)
  have l₇ := Reaches.deliver (b := 10) (c := .join playerA') l₆ trivial rfl (by decide)
  exact ⟨_, l₇, l₇.hasApplied joinAgain (.cons _ (.cons _ (.swap _ _ _))), by decide +kernel⟩

/-- On a follower, which appends nothing, the match comes last. -/
theorem joinAgain_follower : ∃ s, Reaches (fun _ _ => True) s ∧ s.HasApplied joinAgain ∧
    s.matching.queues .k1v1 = [] := by
  have f₁ : Reaches (fun _ _ => True) _ := .runWith (.init ⟨_, _, _, _, _, rfl⟩)
    (rfl : runWith step (fun _ _ => True) (init "f" ["l", "f", "g"] none 100 30000)
      [receiveLog joinAgain] = some _)
  have f₂ := Reaches.deliver (b := 1) (c := .join playerA) f₁ trivial rfl (by decide)
  have f₃ : Reaches (fun _ _ => True) _ := .runWith f₂
    (rfl : runWith step (fun _ _ => True) _ attemptA = some _)
  have f₄ := Reaches.deliver (b := 1) (c := .join playerB) f₃ trivial rfl (by decide)
  have f₅ : Reaches (fun _ _ => True) _ := .runWith f₄
    (rfl : runWith step (fun _ _ => True) _ attemptAB = some _)
  have f₆ := Reaches.deliver (b := 1) (c := .join playerA') f₅ trivial rfl (by decide)
  have f₇ : Reaches (fun _ _ => True) _ := .runWith f₆
    (rfl : runWith step (fun _ _ => True) _ [.run 3 [playerB, playerA'] 0,
      .run 3 [playerB, playerA'] 0, .run 3 [] 0, .run 3 [] 0] = some _)
  have f₈ := Reaches.deliver (b := 1) (c := .found matchAB) f₇ trivial rfl (by decide)
  exact ⟨_, f₈, f₈.hasApplied joinAgain (.refl _), by decide +kernel⟩

/-- `a` waits on the leader and not on the follower. -/
theorem not_replicas_agree_joinAgain : ∃ s s', Reaches (fun _ _ => True) s ∧
    Reaches (fun _ _ => True) s' ∧ s.HasApplied joinAgain ∧ s'.HasApplied joinAgain ∧
    ¬Agree s s' := by
  obtain ⟨s, hs, ha, hq⟩ := joinAgain_leader
  obtain ⟨s', hs', ha', hq'⟩ := joinAgain_follower
  refine ⟨s, s', hs, hs', ha, ha', fun h => ?_⟩
  have hwaits : playerA' ∈ s'.matching.queues .k1v1 := (h.1 .k1v1 playerA').mp (by simp [hq])
  simp [hq'] at hwaits

end Replica

end BoostGateway.Match
