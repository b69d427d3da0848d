import Mathlib.Data.List.Induction
import BoostGateway.Match.Handlers
import BoostGateway.Match.Replica

/-!
# Whether the status of a user is current

A client joins a queue and asks for its match. What it should get is a match that was formed
for it in this mode since it joined the mode last (`matchesSince`). `handle_match_status` takes
the first stored match that names the user, in whatever order the map has them, and no stored
match is ever removed. So the status of a user is current after every command if and only if
each command is timely (`status_current_iff`) : the user does not join again while a stored match
names it, it is matched in no other mode, and no other match takes over the id of its match.
-/

namespace BoostGateway.Match

variable (u : UserId) (mode : MatchMode)

/-- What a command does to the matches that were formed for the user in the mode since its
latest join there; there are none before the first join. -/
def since (current : Option (List MatchResult)) : MatchCommand → Option (List MatchResult)
  | .join player => if player.userId = u ∧ player.mode = mode then some [] else current
  | .found result =>
    if u ∈ result.playerIds ∧ result.mode = mode then current.map (· ++ [result]) else current
  | .leave _ _ | .purge _ _ => current

/-- The matches that were formed for the user in the mode since it joined there last. -/
def matchesSince (commands : List MatchCommand) : Option (List MatchResult) :=
  commands.foldl (since u mode) none

namespace Matchmaking

/-- The stored matches, in the order the table has them. -/
def storedMatches (s : Matchmaking) : List MatchResult := s.pendingMatches.entries.map (·.2)

/-- A service without commands so far applies them in this order. -/
def applyCommands (s : Matchmaking) (commands : List MatchCommand) : Matchmaking :=
  commands.foldl applyCommand s

end Matchmaking

variable (s : Matchmaking)

/-- After the commands, and in whatever order the map has the matches, the status of the user
is a match formed for it since its latest join, and there is one where such a match exists. -/
def StatusCurrent (commands : List MatchCommand) : Prop :=
  ∀ order, order.Perm (s.applyCommands commands).storedMatches →
    (∀ result, statusMatch order u = some result →
      ∃ current, matchesSince u mode commands = some current ∧ result ∈ current) ∧
    (∀ current, matchesSince u mode commands = some current → current ≠ [] →
      ∃ result, statusMatch order u = some result)

/-- What the status of a user in a mode asks of the next command, after the ones so far. -/
def Timely (commands : List MatchCommand) : MatchCommand → Prop
  | .join player => player.userId = u → player.mode = mode →
      ∀ r ∈ (s.applyCommands commands).storedMatches, u ∉ r.playerIds
  | .found result =>
    if u ∈ result.playerIds then
      result.mode = mode ∧ ∃ player, .join player ∈ commands ∧ player.userId = u ∧
        player.mode = mode
    else
      (∃ r ∈ (s.applyCommands commands).storedMatches, u ∈ r.playerIds) →
        ∃ r ∈ (s.applyCommands commands).storedMatches, u ∈ r.playerIds ∧
          r.matchId ≠ result.matchId
  | .leave _ _ | .purge _ _ => True

/-! ## The matches since the latest join -/

variable {u mode s}

theorem matchesSince_concat (commands : List MatchCommand) (c : MatchCommand) :
    matchesSince u mode (commands ++ [c]) = since u mode (matchesSince u mode commands) c :=
  List.foldl_append

theorem applyCommands_concat (commands : List MatchCommand) (c : MatchCommand) :
    s.applyCommands (commands ++ [c]) = (s.applyCommands commands).applyCommand c :=
  List.foldl_append

variable {commands : List MatchCommand}

/-- There are matches to speak of as soon as the user has joined the mode. -/
theorem exists_matchesSince :
    (∃ current, matchesSince u mode commands = some current) ↔
      ∃ player, .join player ∈ commands ∧ player.userId = u ∧ player.mode = mode := by
  induction commands using List.reverseRecOn with
  | nil => exact iff_of_false (by rintro ⟨_, ⟨⟩⟩) (by rintro ⟨_, hmem, -⟩; cases hmem)
  | append_singleton commands c ih =>
    have hother : (∀ player, c = .join player → ¬(player.userId = u ∧ player.mode = mode)) →
        ((∃ player, .join player ∈ commands ++ [c] ∧ player.userId = u ∧ player.mode = mode) ↔
          ∃ player, .join player ∈ commands ∧ player.userId = u ∧ player.mode = mode) := by
      intro hc
      refine exists_congr fun player => ?_
      rw [List.mem_append, List.mem_singleton]
      exact ⟨fun ⟨hmem, hp⟩ => ⟨hmem.resolve_right fun h => hc player h.symm hp, hp⟩,
        fun ⟨hmem, hp⟩ => ⟨.inl hmem, hp⟩⟩
    rw [matchesSince_concat]
    cases c with
    | join player =>
      by_cases hp : player.userId = u ∧ player.mode = mode
      · rw [since, if_pos hp]
        exact iff_of_true ⟨_, rfl⟩
          ⟨player, List.mem_append_right _ (List.mem_singleton_self _), hp⟩
      · rw [since, if_neg hp, ih, hother]
        rintro _ ⟨⟩
        exact hp
    | found result =>
      rw [hother nofun, ← ih, since]
      split_ifs
      · cases matchesSince u mode commands with
        | none => exact Iff.rfl
        | some current => exact iff_of_true ⟨_, rfl⟩ ⟨_, rfl⟩
      · exact Iff.rfl
    | leave userId mode' => rw [hother nofun, ← ih, since]
    | purge mode' userIds => rw [hother nofun, ← ih, since]

/-- They name the user, in this mode. -/
theorem mem_matchesSince {current : List MatchResult}
    (h : matchesSince u mode commands = some current) {result : MatchResult}
    (hr : result ∈ current) : u ∈ result.playerIds ∧ result.mode = mode := by
  induction commands using List.reverseRecOn generalizing current with
  | nil => cases h
  | append_singleton commands c ih =>
    rw [matchesSince_concat] at h
    cases c with
    | join player =>
      rw [since] at h
      split_ifs at h
      · cases h
        cases hr
      · exact ih h hr
    | found result' =>
      rw [since] at h
      split_ifs at h with hnamed
      · obtain ⟨before, hbefore, rfl⟩ := Option.map_eq_some_iff.mp h
        rcases List.mem_append.mp hr with hr | hr
        · exact ih hbefore hr
        · exact List.mem_singleton.mp hr ▸ hnamed
      · exact ih h hr
    | leave userId mode' => exact ih h hr
    | purge mode' userIds => exact ih h hr

/-! ## The stored matches -/

/-- Every match is stored under its id. -/
def Keyed (s : Matchmaking) : Prop :=
  ∀ id result, s.pendingMatches.lookup id = some result → result.matchId = id

theorem mem_storedMatches {result : MatchResult} :
    result ∈ s.storedMatches ↔ ∃ id, s.pendingMatches.lookup id = some result := by
  simp only [Matchmaking.storedMatches, List.mem_map, Sigma.exists]
  constructor
  · rintro ⟨id, _, hmem, rfl⟩
    exact ⟨id, AList.mem_lookup_iff.mpr hmem⟩
  · rintro ⟨id, h⟩
    exact ⟨id, _, AList.mem_lookup_iff.mp h, rfl⟩

theorem pendingMatches_applyCommand {c : MatchCommand} (h : ∀ result, c ≠ .found result) :
    (s.applyCommand c).pendingMatches = s.pendingMatches := by
  cases c with
  | join player => rfl
  | leave userId mode => rfl
  | found result => exact absurd rfl (h result)
  | purge mode userIds =>
    simp only [Matchmaking.applyCommand, Matchmaking.applyMatchPurge]
    split_ifs <;> rfl

theorem storedMatches_applyCommand {c : MatchCommand} (h : ∀ result, c ≠ .found result) :
    (s.applyCommand c).storedMatches = s.storedMatches := by
  rw [Matchmaking.storedMatches, pendingMatches_applyCommand h, Matchmaking.storedMatches]

theorem Keyed.applyCommand (h : Keyed s) (c : MatchCommand) : Keyed (s.applyCommand c) := by
  intro id r hr
  by_cases hc : ∃ result, c = .found result
  · obtain ⟨result, rfl⟩ := hc
    change (s.pendingMatches.insert result.matchId result).lookup id = some r at hr
    by_cases hid : id = result.matchId
    · subst hid
      rw [AList.lookup_insert, Option.some_inj] at hr
      rw [hr]
    · rw [AList.lookup_insert_ne hid] at hr
      exact h id r hr
  · rw [pendingMatches_applyCommand (not_exists.mp hc)] at hr
    exact h id r hr

/-- A new match takes the place of one with its id. -/
theorem mem_storedMatches_found (h : Keyed s) {r result : MatchResult} :
    r ∈ (s.applyCommand (.found result)).storedMatches ↔
      r = result ∨ r ∈ s.storedMatches ∧ r.matchId ≠ result.matchId := by
  have hlookup : ∀ id, (s.applyCommand (.found result)).pendingMatches.lookup id =
      (s.pendingMatches.insert result.matchId result).lookup id := fun _ => rfl
  simp only [mem_storedMatches, hlookup]
  constructor
  · rintro ⟨id, hr⟩
    by_cases hid : id = result.matchId
    · rw [hid, AList.lookup_insert, Option.some_inj] at hr
      exact .inl hr.symm
    · rw [AList.lookup_insert_ne hid] at hr
      exact .inr ⟨⟨id, hr⟩, (h id r hr).symm ▸ hid⟩
  · rintro (rfl | ⟨⟨id, hr⟩, hid⟩)
    · exact ⟨r.matchId, AList.lookup_insert _⟩
    · rw [h id r hr] at hid
      exact ⟨id, by rw [AList.lookup_insert_ne hid, hr]⟩

theorem Keyed.applyCommands (h : Keyed s) (commands : List MatchCommand) :
    Keyed (s.applyCommands commands) := by
  induction commands using List.reverseRecOn with
  | nil => exact h
  | append_singleton commands c ih =>
    rw [applyCommands_concat]
    exact ih.applyCommand c

/-! ## One command -/

theorem statusMatch_eq_some {order : List MatchResult} {r : MatchResult}
    (h : statusMatch order u = some r) : r ∈ order ∧ u ∈ r.playerIds := by
  have hu := List.find?_some h
  exact ⟨List.mem_of_find?_eq_some h, of_decide_eq_true hu⟩

/-- Any stored match that names the user may come first. -/
theorem statusCurrent_iff :
    StatusCurrent u mode s commands ↔
      (∀ r ∈ (s.applyCommands commands).storedMatches, u ∈ r.playerIds →
        ∃ current, matchesSince u mode commands = some current ∧ r ∈ current) ∧
      (∀ current, matchesSince u mode commands = some current → current ≠ [] →
        ∃ r ∈ (s.applyCommands commands).storedMatches, u ∈ r.playerIds) := by
  constructor
  · intro h
    refine ⟨fun r hr hu => ?_, fun current hcurrent hne => ?_⟩
    · refine (h (r :: (s.applyCommands commands).storedMatches.erase r)
        (List.perm_cons_erase hr).symm).1 r ?_
      exact List.find?_cons_of_pos (decide_eq_true hu)
    · obtain ⟨r, hr⟩ := (h _ (List.Perm.refl _)).2 current hcurrent hne
      exact ⟨r, statusMatch_eq_some hr⟩
  · rintro ⟨hcurrent, hexists⟩ order hperm
    refine ⟨fun r hr => ?_, fun current hsome hne => ?_⟩
    · obtain ⟨hmem, hu⟩ := statusMatch_eq_some hr
      exact hcurrent r (hperm.subset hmem) hu
    · obtain ⟨r, hr, hu⟩ := hexists current hsome hne
      exact Option.isSome_iff_exists.mp
        (List.find?_isSome.mpr ⟨r, hperm.symm.subset hr, decide_eq_true hu⟩)

theorem statusCurrent_join
    (h : StatusCurrent u mode s commands) (player : MatchPlayer) :
    StatusCurrent u mode s (commands ++ [.join player]) ↔
      Timely u mode s commands (.join player) := by
  have hstored : (s.applyCommands (commands ++ [.join player])).storedMatches =
      (s.applyCommands commands).storedMatches := by
    rw [applyCommands_concat, storedMatches_applyCommand (by rintro _ ⟨⟩)]
  by_cases hp : player.userId = u ∧ player.mode = mode
  · have hsince : matchesSince u mode (commands ++ [.join player]) = some [] := by
      rw [matchesSince_concat, since, if_pos hp]
    rw [statusCurrent_iff, hstored, hsince]
    constructor
    · rintro ⟨hcurrent, -⟩
      intro _ _ r hr hu
      obtain ⟨_, ⟨⟩, hmem⟩ := hcurrent r hr hu
      cases hmem
    · intro htimely
      refine ⟨fun r hr hu => absurd hu (htimely hp.1 hp.2 r hr), ?_⟩
      rintro _ ⟨⟩ hne
      exact absurd rfl hne
  · have hsince : matchesSince u mode (commands ++ [.join player]) =
        matchesSince u mode commands := by
      rw [matchesSince_concat, since, if_neg hp]
    refine iff_of_true ?_ fun huser hmode => absurd ⟨huser, hmode⟩ hp
    rw [statusCurrent_iff, hstored, hsince]
    exact statusCurrent_iff.mp h

theorem statusCurrent_found (hkeyed : Keyed s)
    (h : StatusCurrent u mode s commands) (result : MatchResult) :
    StatusCurrent u mode s (commands ++ [.found result]) ↔
      Timely u mode s commands (.found result) := by
  have hmem : ∀ r, r ∈ (s.applyCommands (commands ++ [.found result])).storedMatches ↔
      r = result ∨ r ∈ (s.applyCommands commands).storedMatches ∧
        r.matchId ≠ result.matchId := fun r => by
    rw [applyCommands_concat, mem_storedMatches_found (hkeyed.applyCommands commands)]
  obtain ⟨hcurrent, hexists⟩ := statusCurrent_iff.mp h
  rw [statusCurrent_iff]
  by_cases hu : u ∈ result.playerIds
  · rw [Timely, if_pos hu, ← exists_matchesSince]
    constructor
    · rintro ⟨hcurrent', -⟩
      obtain ⟨current, hsome, hin⟩ := hcurrent' result ((hmem _).mpr (.inl rfl)) hu
      have hmode := (mem_matchesSince hsome hin).2
      rw [matchesSince_concat, since, if_pos ⟨hu, hmode⟩] at hsome
      obtain ⟨before, hbefore, -⟩ := Option.map_eq_some_iff.mp hsome
      exact ⟨hmode, before, hbefore⟩
    · rintro ⟨hmode, before, hbefore⟩
      rw [matchesSince_concat, since, if_pos ⟨hu, hmode⟩, hbefore, Option.map_some]
      refine ⟨fun r hr hru => ⟨_, rfl, ?_⟩, fun _ _ _ => ⟨result, (hmem _).mpr (.inl rfl), hu⟩⟩
      rcases (hmem r).mp hr with rfl | ⟨hr, -⟩
      · exact List.mem_append_right _ (List.mem_singleton_self _)
      · obtain ⟨current, hsome, hin⟩ := hcurrent r hr hru
        rw [hbefore] at hsome
        cases hsome
        exact List.mem_append_left _ hin
  · have hsince : matchesSince u mode (commands ++ [.found result]) =
        matchesSince u mode commands := by
      rw [matchesSince_concat, since, if_neg fun hc => hu hc.1]
    rw [Timely, if_neg hu, hsince]
    constructor
    · rintro ⟨-, hexists'⟩ ⟨r, hr, hru⟩
      obtain ⟨current, hsome, hin⟩ := hcurrent r hr hru
      obtain ⟨r', hr', hru'⟩ := hexists' current hsome (List.ne_nil_of_mem hin)
      rcases (hmem r').mp hr' with rfl | ⟨hr', hid⟩
      · exact absurd hru' hu
      · exact ⟨r', hr', hru', hid⟩
    · intro htimely
      refine ⟨fun r hr hru => ?_, fun current hsome hne => ?_⟩
      · rcases (hmem r).mp hr with rfl | ⟨hr, -⟩
        · exact absurd hru hu
        · exact hcurrent r hr hru
      · obtain ⟨r, hr, hru, hid⟩ := htimely (hexists current hsome hne)
        exact ⟨r, (hmem r).mpr (.inr ⟨hr, hid⟩), hru⟩

/-- A status that is current stays so if and only if the next command is timely. -/
theorem statusCurrent_concat (hkeyed : Keyed s)
    (h : StatusCurrent u mode s commands) (c : MatchCommand) :
    StatusCurrent u mode s (commands ++ [c]) ↔ Timely u mode s commands c := by
  have hother : (∀ result, c ≠ .found result) →
      (matchesSince u mode (commands ++ [c]) = matchesSince u mode commands) →
        StatusCurrent u mode s (commands ++ [c]) := by
    intro hc hsince
    rw [statusCurrent_iff, applyCommands_concat, storedMatches_applyCommand hc, hsince]
    exact statusCurrent_iff.mp h
  cases c with
  | join player => exact statusCurrent_join h player
  | found result => exact statusCurrent_found hkeyed h result
  | leave userId mode' => exact iff_of_true (hother nofun (matchesSince_concat _ _)) trivial
  | purge mode' userIds => exact iff_of_true (hother nofun (matchesSince_concat _ _)) trivial

/-! ## Sequences of commands -/

/-- The status of a user in a mode is current after every command if and only if every command
is timely. -/
theorem status_current_iff (u : UserId) (mode : MatchMode) (mmrRange : ℤ) (maxWait : ℕ)
    (commands : List MatchCommand) :
    (∀ before, before <+: commands →
      StatusCurrent u mode { mmrRangeInitial := mmrRange, maxWaitMs := maxWait } before) ↔
    ∀ before c, before ++ [c] <+: commands →
      Timely u mode { mmrRangeInitial := mmrRange, maxWaitMs := maxWait } before c := by
  have hkeyed : Keyed { mmrRangeInitial := mmrRange, maxWaitMs := maxWait } := by
    rintro _ _ ⟨⟩
  constructor
  · intro h before c hc
    exact (statusCurrent_concat hkeyed (h before ((List.prefix_append _ _).trans hc)) c).mp
      (h _ hc)
  · intro h before hbefore
    induction before using List.reverseRecOn with
    | nil =>
      rw [statusCurrent_iff]
      exact ⟨by rintro _ ⟨⟩, by rintro _ ⟨⟩⟩
    | append_singleton before c ih =>
      have hcurrent := ih ((List.prefix_append _ _).trans hbefore)
      exact (statusCurrent_concat hkeyed hcurrent c).mpr (h before c hbefore)

/-- Two users are matched, and one of them joins again. -/
def joinAgain : List MatchCommand :=
  [.join { userId := "u" }, .join { userId := "v" },
   .found { matchId := "match_1", mode := .k1v1, playerIds := ["u", "v"], avgMmr := 1000 },
   .join { userId := "u" }]

theorem not_status_current : ¬∀ before, before <+: joinAgain →
    StatusCurrent "u" .k1v1 { mmrRangeInitial := 100, maxWaitMs := 30000 } before := by
  intro h
  obtain ⟨_, ⟨⟩, hmem⟩ := (h joinAgain (List.prefix_refl _) _ (List.Perm.refl _)).1
    { matchId := "match_1", mode := .k1v1, playerIds := ["u", "v"], avgMmr := 1000 } (by decide)
  cases hmem

end BoostGateway.Match
