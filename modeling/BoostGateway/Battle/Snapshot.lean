import BoostGateway.Base.JsonFields
import BoostGateway.Base.JsonRoundTrip
import BoostGateway.Battle.World

/-!
# Snapshots of a battle world

`battle_world_snapshot_to_json` and `battle_world_restore_from_json`
(`battle_snapshot.cpp`), over the components of a world. The rows of the participants are
written and read by position, in the order in which their store is visited, and each row
brings its user with it. Scores are 64 bits wide and are read as `int`, and the recorded
frames are not written.

`WorldComponents.restored_iff` : a snapshot of `w` makes a world the same as `w`, each of its
entities being of the user it was created for, exactly when both worlds have their users in
one order and the same recorded frames, and the scores in `w` fit 32 bits.

The members are assigned as they are read, and the clock and the metadata before the
participants are counted. `WorldComponents.intact_iff` says for which documents nothing is
raised and nothing is changed by a restore that fails.
-/

namespace BoostGateway.Battle

open Json

/-! ## Components -/

/-- `BattleMetadataComponent` with the number of its lifecycle, which a restored document
sets to any value of the underlying type. -/
structure StoredMetadata where
  battleId : String
  roomId : String
  lifecycle : UInt8
  nextInputSeq : UInt64
  maxFrames : UInt32
  currentFrameNumber : UInt32

/-- The number of a state. -/
def BattleLifecycleState.number : BattleLifecycleState → UInt8
  | .kCreated => 0
  | .kRunning => 1
  | .kFinished => 2

/-- The components of a world. -/
structure WorldComponents where
  clock : BattleClockComponent
  metadata : StoredMetadata
  replayLog : BattleReplayLogComponent
  /-- In the order in which the map is visited. -/
  participants : List ParticipantEntity
  projectiles : List ProjectileEntity

/-- The components that a snapshot has. -/
def BattleWorld.components (w : BattleWorld) : WorldComponents where
  clock := w.clock
  metadata :=
    { battleId := w.metadata.battleId
      roomId := w.metadata.roomId
      lifecycle := w.metadata.lifecycle.number
      nextInputSeq := w.metadata.nextInputSeq
      maxFrames := w.metadata.maxFrames
      currentFrameNumber := w.metadata.currentFrameNumber }
  replayLog := w.replayLog
  participants := w.participants
  projectiles := w.projectiles

namespace WorldComponents

/-! ## Writing -/

/-- The clock in a snapshot. -/
def clockJson (clock : BattleClockComponent) : Json :=
  ofMembers
    [("frame_number", .unsigned clock.frameNumber.toUInt64),
     ("last_trigger", .string clock.lastTrigger)]

/-- The metadata in a snapshot. -/
def metadataJson (metadata : StoredMetadata) : Json :=
  ofMembers
    [("battle_id", .string metadata.battleId),
     ("room_id", .string metadata.roomId),
     ("lifecycle", .integer metadata.lifecycle.toUInt32.toInt32.toInt64),
     ("frame_number", .unsigned metadata.currentFrameNumber.toUInt64),
     ("max_frames", .unsigned metadata.maxFrames.toUInt64),
     ("next_input_seq", .unsigned metadata.nextInputSeq)]

/-- A player in a snapshot. -/
def participantJson (p : BattleParticipantComponent) : Json :=
  ofMembers
    [("user_id", .string p.userId),
     ("online", .bool p.online),
     ("score", .integer (Int64.ofInt p.score)),
     ("last_submitted_frame", .unsigned p.lastSubmittedFrame.toUInt64),
     ("last_acked_frame", .unsigned p.lastAckedFrame.toUInt64)]

/-- An input in a snapshot. -/
def replayInputJson (r : BattleReplayInputRecord) : Json :=
  ofMembers
    [("input_seq", .unsigned r.inputSeq),
     ("frame_number", .unsigned r.frameNumber.toUInt64),
     ("user_id", .string r.userId),
     ("input_data", .string r.inputData),
     ("score", .integer (Int64.ofInt r.score)),
     ("trigger", .string r.trigger)]

variable (w : WorldComponents)

/-- `battle_world_snapshot_to_json`, before it is dumped. -/
def document : Json :=
  ofMembers
    [("clock", clockJson w.clock),
     ("metadata", metadataJson w.metadata),
     ("participants", .array (w.participants.map fun e => participantJson e.participant)),
     ("replay_inputs", .array (w.replayLog.replayInputs.map replayInputJson))]

/-- `battle_world_snapshot_to_json`. -/
def snapshotToJson (floatText : Float → List Char) (w : WorldComponents) : Bytes :=
  encodeUtf8 (w.document.dump floatText none 0)

/-! ## Reading -/

/-- What a restore raises. -/
inductive RestoreError
  | type (e : TypeError)
  /-- `type_error.305` : a position in something that is no array. -/
  | noArray

/-- What is read of the clock. -/
def clockFields : List (Json.Field BattleClockComponent) :=
  [field getUInt32 returns_getUInt32 "frame_number" 0 fun n c => { c with frameNumber := n },
   field getString returns_getString "last_trigger" "" fun s c => { c with lastTrigger := s }]

/-- What is read of the metadata. -/
def metadataFields : List (Json.Field StoredMetadata) :=
  [field getString returns_getString "battle_id" "" fun s m => { m with battleId := s },
   field getString returns_getString "room_id" "" fun s m => { m with roomId := s },
   field getInt32 returns_getInt32 "lifecycle" 0 fun i m =>
     { m with lifecycle := i.toUInt32.toUInt8 },
   field getUInt32 returns_getUInt32 "frame_number" 0 fun n m =>
     { m with currentFrameNumber := n },
   field getUInt32 returns_getUInt32 "max_frames" 0 fun n m => { m with maxFrames := n },
   field getULongLong returns_getULongLong "next_input_seq" 1 fun n m =>
     { m with nextInputSeq := n }]

/-- What is read of a player. -/
def participantFields : List (Json.Field BattleParticipantComponent) :=
  [field getString returns_getString "user_id" "" fun s p => { p with userId := s },
   field getBool returns_getBool "online" true fun b p => { p with online := b },
   field getInt32 returns_getInt32 "score" 0 fun i p => { p with score := i.toInt },
   field getUInt32 returns_getUInt32 "last_submitted_frame" 0 fun n p =>
     { p with lastSubmittedFrame := n },
   field getUInt32 returns_getUInt32 "last_acked_frame" 0 fun n p =>
     { p with lastAckedFrame := n }]

/-- What is read of an input. -/
def replayInputFields : List (Json.Field BattleReplayInputRecord) :=
  [field getULongLong returns_getULongLong "input_seq" 0 fun n r => { r with inputSeq := n },
   field getUInt32 returns_getUInt32 "frame_number" 0 fun n r => { r with frameNumber := n },
   field getString returns_getString "user_id" "" fun s r => { r with userId := s },
   field getString returns_getString "input_data" "" fun s r => { r with inputData := s },
   field getInt32 returns_getInt32 "score" 0 fun i r => { r with score := i.toInt },
   field getString returns_getString "trigger" "" fun s r => { r with trigger := s }]

/-- `size()`. -/
def size : Json → ℕ
  | .null => 0
  | .array xs => xs.length
  | .object ms => ms.length
  | _ => 1

/-- `operator[]` with a position. -/
def rowAt (j : Json) (i : ℕ) : Except RestoreError Json :=
  match j with
  | .array xs => .ok (xs.getD i .null)
  | _ => .error .noArray

/-- What a range-based `for` visits. -/
def visited : Json → List Json
  | .null => []
  | .array xs => xs
  | .object ms => ms.map Prod.snd
  | j => [j]

/-- The participants from position `i` on get their rows. -/
def restoreParticipants (j : Json) :
    ℕ → List ParticipantEntity → Except RestoreError Unit × List ParticipantEntity
  | _, [] => (.ok (), [])
  | i, e :: es =>
    match rowAt j i with
    | .error err => (.error err, e :: es)
    | .ok row =>
      match writeAll participantFields row e.participant with
      | (.error err, p) => (.error (.type err), { e with participant := p } :: es)
      | (.ok (), p) =>
        let (r, es) := restoreParticipants j (i + 1) es
        (r, { e with participant := p } :: es)

/-- A record is added when all its members are read. -/
def restoreReplayInputs : List Json → List BattleReplayInputRecord →
    Except RestoreError Unit × List BattleReplayInputRecord
  | [], log => (.ok (), log)
  | row :: rows, log =>
    match writeAll replayInputFields row
      { inputSeq := 0, frameNumber := 0, userId := "", inputData := "", score := 0 } with
    | (.error err, _) => (.error (.type err), log)
    | (.ok (), record) => restoreReplayInputs rows (log ++ [record])

/-- The part of the restore after the participants were counted. -/
def restoreRows (participants replayInputs : Json) : Except RestoreError Bool × WorldComponents :=
  match restoreParticipants participants 0 w.participants with
  | (.error err, es) => (.error err, { w with participants := es })
  | (.ok (), es) =>
    let (r, log) := restoreReplayInputs (visited replayInputs) []
    (r.map fun () => true, { w with
      participants := es
      replayLog := { w.replayLog with replayInputs := log } })

/-- The part after the members were found. -/
def restoreMembers (clock metadata participants replayInputs : Json) :
    Except RestoreError Bool × WorldComponents :=
  match writeAll clockFields clock w.clock with
  | (.error err, c) => (.error (.type err), { w with clock := c })
  | (.ok (), c) =>
    match writeAll metadataFields metadata w.metadata with
    | (.error err, m) => (.error (.type err), { w with clock := c, metadata := m })
    | (.ok (), m) =>
      let w := { w with clock := c, metadata := m }
      if w.participants.length ≠ size participants then (.ok false, w)
      else restoreRows w participants replayInputs

/-- The members of a document that has all of them. -/
def members (doc : Json) : Option (Json × Json × Json × Json) :=
  match doc.find? "clock", doc.find? "metadata", doc.find? "participants",
    doc.find? "replay_inputs" with
  | some clock, some metadata, some participants, some replayInputs =>
    some (clock, metadata, participants, replayInputs)
  | _, _, _, _ => none

/-- `battle_world_restore_from_json`. -/
def restoreFromJson (json : Bytes) : Except RestoreError Bool × WorldComponents :=
  match (parse true json).bind members with
  | none => (.ok false, w)
  | some (clock, metadata, participants, replayInputs) =>
    w.restoreMembers clock metadata participants replayInputs

/-! ## Reading back what was written -/

theorem clockJson_eq (clock : BattleClockComponent) : clockJson clock = .object
    [("frame_number", .unsigned clock.frameNumber.toUInt64),
     ("last_trigger", .string clock.lastTrigger)] := by
  simp +decide [clockJson, ofMembers, insertMember]

theorem metadataJson_eq (metadata : StoredMetadata) : metadataJson metadata = .object
    [("battle_id", .string metadata.battleId),
     ("frame_number", .unsigned metadata.currentFrameNumber.toUInt64),
     ("lifecycle", .integer metadata.lifecycle.toUInt32.toInt32.toInt64),
     ("max_frames", .unsigned metadata.maxFrames.toUInt64),
     ("next_input_seq", .unsigned metadata.nextInputSeq),
     ("room_id", .string metadata.roomId)] := by
  simp +decide [metadataJson, ofMembers, insertMember]

theorem participantJson_eq (p : BattleParticipantComponent) : participantJson p = .object
    [("last_acked_frame", .unsigned p.lastAckedFrame.toUInt64),
     ("last_submitted_frame", .unsigned p.lastSubmittedFrame.toUInt64),
     ("online", .bool p.online),
     ("score", .integer (Int64.ofInt p.score)),
     ("user_id", .string p.userId)] := by
  simp +decide [participantJson, ofMembers, insertMember]

theorem replayInputJson_eq (r : BattleReplayInputRecord) : replayInputJson r = .object
    [("frame_number", .unsigned r.frameNumber.toUInt64),
     ("input_data", .string r.inputData),
     ("input_seq", .unsigned r.inputSeq),
     ("score", .integer (Int64.ofInt r.score)),
     ("trigger", .string r.trigger),
     ("user_id", .string r.userId)] := by
  simp +decide [replayInputJson, ofMembers, insertMember]

theorem document_eq : w.document = .object
    [("clock", clockJson w.clock),
     ("metadata", metadataJson w.metadata),
     ("participants", .array (w.participants.map fun e => participantJson e.participant)),
     ("replay_inputs", .array (w.replayLog.replayInputs.map replayInputJson))] := by
  simp +decide [document, ofMembers, insertMember]

theorem plain_document : Plain w.document := by
  have hclock : Plain (clockJson w.clock) := by
    rw [clockJson_eq]
    exact ⟨by simp +decide, trivial, trivial, trivial⟩
  have hmetadata : Plain (metadataJson w.metadata) := by
    rw [metadataJson_eq]
    exact ⟨by simp +decide, trivial, trivial, trivial, trivial, trivial, trivial, trivial⟩
  have hrows : PlainElems (w.participants.map fun e => participantJson e.participant) := by
    refine plainElems_of_forall fun x hx => ?_
    obtain ⟨e, -, rfl⟩ := List.mem_map.mp hx
    rw [participantJson_eq]
    exact ⟨by simp +decide, trivial, trivial, trivial, trivial, trivial, trivial⟩
  have hinputs : PlainElems (w.replayLog.replayInputs.map replayInputJson) := by
    refine plainElems_of_forall fun x hx => ?_
    obtain ⟨r, -, rfl⟩ := List.mem_map.mp hx
    rw [replayInputJson_eq]
    exact ⟨by simp +decide, trivial, trivial, trivial, trivial, trivial, trivial, trivial⟩
  rw [document_eq]
  exact ⟨by simp +decide, hclock, hmetadata, hrows, hinputs, trivial⟩

theorem writeAll_clockJson (clock c : BattleClockComponent) :
    writeAll clockFields (asRead (clockJson clock)) c = (.ok (), clock) := by
  rw [clockJson_eq]
  simp [asRead, asReadMembers, clockFields, writeAll, field, value, find?, getUInt32, getArithmetic,
    getString, Except.map]

theorem writeAll_metadataJson (metadata m : StoredMetadata) :
    writeAll metadataFields (asRead (metadataJson metadata)) m = (.ok (), metadata) := by
  have hint := getInt32_asRead metadata.lifecycle.toUInt32.toInt32
  rw [metadataJson_eq, asRead]
  simp only [asReadMembers]
  generalize asRead (.integer metadata.lifecycle.toUInt32.toInt32.toInt64) = j at hint ⊢
  simp [asRead, metadataFields, writeAll, field, value, find?, getUInt32, getArithmetic,
    getULongLong, getString, hint, Except.map]

/-- A component after it got the row of another. -/
def taken (p q : BattleParticipantComponent) : BattleParticipantComponent :=
  { q with
    userId := p.userId
    online := p.online
    score := toInt32 p.score
    lastSubmittedFrame := p.lastSubmittedFrame
    lastAckedFrame := p.lastAckedFrame }

/-- A score is read from the lower half of what was written. -/
theorem getInt32_score (n : ℤ) : ∃ i, getInt32 (asRead (.integer (Int64.ofInt n))) = .ok i ∧
    i.toInt = toInt32 n := by
  refine ⟨_, getInt32_asRead_integer _, ?_⟩
  rw [Int64.toInt_toInt32, Int64.toInt_ofInt, Int.bmod_bmod_of_dvd (by decide), toInt32]

theorem writeAll_participantJson (p q : BattleParticipantComponent) :
    writeAll participantFields (asRead (participantJson p)) q = (.ok (), taken p q) := by
  obtain ⟨i, hint, hscore⟩ := getInt32_score p.score
  rw [participantJson_eq, asRead]
  simp only [asReadMembers]
  generalize asRead (.integer (Int64.ofInt p.score)) = j at hint ⊢
  simp [asRead, participantFields, writeAll, field, value, find?, getUInt32, getArithmetic,
    getBool, getString, hint, Except.map, taken, hscore]

theorem writeAll_replayInputJson (r s : BattleReplayInputRecord) :
    writeAll replayInputFields (asRead (replayInputJson r)) s =
      (.ok (), { r with score := toInt32 r.score }) := by
  obtain ⟨i, hint, hscore⟩ := getInt32_score r.score
  rw [replayInputJson_eq, asRead]
  simp only [asReadMembers]
  generalize asRead (.integer (Int64.ofInt r.score)) = j at hint ⊢
  simp [asRead, replayInputFields, writeAll, field, value, find?, getUInt32, getArithmetic,
    getULongLong, getString, hint, Except.map, hscore]

theorem asReadElems_eq_map (xs : List Json) : asReadElems xs = xs.map asRead := by
  induction xs with
  | nil => rfl
  | cons x xs ih => rw [asReadElems, ih, List.map_cons]

/-- The participants get the rows from position `i` on. -/
theorem restoreParticipants_array {xs : List Json} {i : ℕ} {ps es : List ParticipantEntity}
    (hxs : xs.drop i = ps.map fun e => asRead (participantJson e.participant))
    (hlength : es.length = ps.length) :
    restoreParticipants (.array xs) i es =
      (.ok (), List.zipWith (fun p e => { e with participant := taken p.participant e.participant })
        ps es) := by
  induction es generalizing i ps with
  | nil =>
    obtain rfl := List.length_eq_zero_iff.mp hlength.symm
    rfl
  | cons e es ih =>
    cases ps with
    | nil => cases hlength
    | cons p ps =>
      rw [List.map_cons] at hxs
      have hi : i < xs.length := by
        by_contra hge
        rw [List.drop_eq_nil_of_le (Nat.not_lt.mp hge)] at hxs
        cases hxs
      rw [List.drop_eq_getElem_cons hi] at hxs
      obtain ⟨hrow, hrest⟩ := List.cons.inj hxs
      have hget : xs.getD i .null = asRead (participantJson p.participant) := by
        rw [List.getD_eq_getElem?_getD, List.getElem?_eq_getElem hi, Option.getD_some, hrow]
      rw [restoreParticipants, rowAt, hget]
      dsimp only
      rw [writeAll_participantJson]
      dsimp only
      rw [ih hrest (Nat.succ.inj hlength)]
      rfl

theorem restoreReplayInputs_map (rs log : List BattleReplayInputRecord) :
    restoreReplayInputs (rs.map fun r => asRead (replayInputJson r)) log =
      (.ok (), log ++ rs.map fun r => { r with score := toInt32 r.score }) := by
  induction rs generalizing log with
  | nil => rw [List.map_nil, List.map_nil, List.append_nil, restoreReplayInputs]
  | cons r rs ih =>
    rw [List.map_cons, restoreReplayInputs, writeAll_replayInputJson]
    dsimp only
    rw [ih, List.append_assoc]
    rfl

/-- A snapshot of as many participants is restored : its rows by their positions, with the
scores that `int` leaves of them. -/
theorem restore_snapshot (floatText : Float → List Char) {w w' : WorldComponents}
    (h : w'.participants.length = w.participants.length) :
    w'.restoreFromJson (w.snapshotToJson floatText) = (.ok true,
      { w' with
        clock := w.clock
        metadata := w.metadata
        participants := List.zipWith
          (fun p e => { e with participant := taken p.participant e.participant })
          w.participants w'.participants
        replayLog := { w'.replayLog with
          replayInputs := w.replayLog.replayInputs.map fun r =>
            { r with score := toInt32 r.score } } }) := by
  have hmembers : members (asRead w.document) = some (asRead (clockJson w.clock),
      asRead (metadataJson w.metadata),
      .array (w.participants.map fun e => asRead (participantJson e.participant)),
      .array (w.replayLog.replayInputs.map fun r => asRead (replayInputJson r))) := by
    rw [document_eq]
    simp [asRead, asReadMembers, asReadElems_eq_map, members, find?, Function.comp_def]
  unfold restoreFromJson snapshotToJson
  rw [parse_dump w.plain_document, Option.bind_some, hmembers]
  dsimp only
  unfold restoreMembers
  rw [writeAll_clockJson, writeAll_metadataJson]
  dsimp only
  rw [if_neg (by simp [size, h]), restoreRows, restoreParticipants_array rfl h]
  dsimp only [visited]
  rw [restoreReplayInputs_map]
  rfl

/-- What a snapshot says of a user. -/
structure UserRow where
  userId : String
  online : Bool
  score : ℤ
  lastSubmittedFrame : UInt32
  lastAckedFrame : UInt32

def userRow (p : BattleParticipantComponent) : UserRow where
  userId := p.userId
  online := p.online
  score := p.score
  lastSubmittedFrame := p.lastSubmittedFrame
  lastAckedFrame := p.lastAckedFrame

/-- The rows of the players. -/
def userRows : List UserRow :=
  w.participants.map fun e => userRow e.participant

/-- The entities of the participants with their users. -/
def owners : List (ℕ × String) :=
  w.participants.map fun e => (e.id, e.participant.userId)

/-- A snapshot of `w` is restored in `w'` : the clock, the metadata, the replay log and what
is said of each user become those of `w`, and the entities keep their users. -/
structure Restored (floatText : Float → List Char) (w w' : WorldComponents) : Prop where
  accepted : (w'.restoreFromJson (w.snapshotToJson floatText)).1 = .ok true
  clock : (w'.restoreFromJson (w.snapshotToJson floatText)).2.clock = w.clock
  metadata : (w'.restoreFromJson (w.snapshotToJson floatText)).2.metadata = w.metadata
  replayLog : (w'.restoreFromJson (w.snapshotToJson floatText)).2.replayLog = w.replayLog
  users : (w'.restoreFromJson (w.snapshotToJson floatText)).2.userRows.Perm w.userRows
  owners : (w'.restoreFromJson (w.snapshotToJson floatText)).2.owners = w'.owners

def FitsInt32 (n : ℤ) : Prop := -2 ^ 31 ≤ n ∧ n < 2 ^ 31

/-- The users stand in one order, the recorded frames are the same, and the scores fit. -/
structure Restorable (w w' : WorldComponents) : Prop where
  users : w'.participants.map (·.participant.userId) = w.participants.map (·.participant.userId)
  frames : w'.replayLog.frameSnapshots = w.replayLog.frameSnapshots
  scores : ∀ e ∈ w.participants, FitsInt32 e.participant.score
  inputs : ∀ r ∈ w.replayLog.replayInputs, FitsInt32 r.score

theorem toInt32_eq_self_iff {n : ℤ} : toInt32 n = n ↔ FitsInt32 n := by
  unfold toInt32 FitsInt32
  constructor
  · intro h
    have hlo := Int.le_bmod (x := n) (m := 2 ^ 32) (by decide)
    have hhi := Int.bmod_lt (x := n) (m := 2 ^ 32) (by decide)
    omega
  · rintro ⟨hlo, hhi⟩
    exact Int.bmod_eq_of_le (by omega) (by omega)

theorem toInt32_toInt32 (n : ℤ) : toInt32 (toInt32 n) = toInt32 n := Int.bmod_bmod

/-- The rows that a restored world has are those of the snapshot, with what `int` leaves of
the scores. -/
theorem userRows_zipWith {ps es : List ParticipantEntity} (h : es.length = ps.length) :
    (List.zipWith (fun p e => { e with participant := taken p.participant e.participant })
        ps es).map (fun e => userRow e.participant) =
      (ps.map fun e => userRow e.participant).map fun r => { r with score := toInt32 r.score } := by
  have hfst : (ps.zip es).map Prod.fst = ps := List.map_fst_zip (Nat.le_of_eq h.symm)
  rw [← List.map_uncurry_zip_eq_zipWith, List.map_map, List.map_map]
  conv_rhs => rw [← hfst]
  rw [List.map_map]
  rfl

theorem owners_zipWith (ps es : List ParticipantEntity) :
    (List.zipWith (fun p e => { e with participant := taken p.participant e.participant })
        ps es).map (fun e => (e.id, e.participant.userId)) =
      (es.map (·.id)).zip (ps.map (·.participant.userId)) := by
  rw [List.map_zipWith, List.zip_eq_zipWith, List.zipWith_map, List.zipWith_comm]
  rfl

/-- The list is what `int` leaves of it only where the scores fit. -/
theorem perm_map_toInt32_iff {rows : List UserRow} :
    (rows.map fun r => { r with score := toInt32 r.score }).Perm rows ↔
      ∀ r ∈ rows, FitsInt32 r.score := by
  constructor
  · intro h r hr
    obtain ⟨r', -, rfl⟩ := List.mem_map.mp (h.mem_iff.mpr hr)
    exact toInt32_eq_self_iff.mp (toInt32_toInt32 r'.score)
  · intro h
    refine .of_eq ((List.map_congr_left fun r hr => ?_).trans (List.map_id _))
    rw [toInt32_eq_self_iff.mpr (h r hr)]
    rfl

theorem map_toInt32_eq_iff {rs : List BattleReplayInputRecord} :
    (rs.map fun r => { r with score := toInt32 r.score }) = rs ↔ ∀ r ∈ rs, FitsInt32 r.score := by
  constructor
  · intro h r hr
    obtain ⟨r', -, rfl⟩ := List.mem_map.mp (h ▸ hr)
    exact toInt32_eq_self_iff.mp (toInt32_toInt32 r'.score)
  · intro h
    refine (List.map_congr_left fun r hr => ?_).trans (List.map_id _)
    rw [toInt32_eq_self_iff.mpr (h r hr)]
    rfl

/-- For worlds of as many participants, a snapshot is restored exactly when the users stand in
one order, the recorded frames are the same, and the scores fit 32 bits. -/
theorem restored_iff (floatText : Float → List Char) {w w' : WorldComponents}
    (h : w'.participants.length = w.participants.length) :
    w.Restored floatText w' ↔ w.Restorable w' := by
  have hrestore := restore_snapshot floatText h
  have hrows := userRows_zipWith h
  have howners := owners_zipWith w.participants w'.participants
  constructor
  · rintro ⟨-, -, -, hlog, husers, howned⟩
    rw [hrestore] at hlog husers howned
    obtain ⟨hinputs, hframes⟩ := BattleReplayLogComponent.mk.inj hlog
    have hperm := perm_map_toInt32_iff.mp ((List.Perm.of_eq hrows.symm).trans husers)
    have hsnd := congrArg (List.map Prod.snd) (howners.symm.trans howned)
    rw [List.map_snd_zip (by simp [h]), owners, List.map_map] at hsnd
    exact ⟨hsnd.symm, hframes, fun e he => hperm _ (List.mem_map_of_mem he),
      map_toInt32_eq_iff.mp hinputs⟩
  · intro hfit
    have hscores : ∀ r ∈ w.userRows, FitsInt32 r.score := by
      intro r hr
      obtain ⟨e, he, rfl⟩ := List.mem_map.mp hr
      exact hfit.scores e he
    refine ⟨?_, ?_, ?_, ?_, ?_, ?_⟩ <;> rw [hrestore]
    · dsimp only
      rw [map_toInt32_eq_iff.mpr hfit.inputs, hfit.frames]
    · exact (List.Perm.of_eq hrows).trans (perm_map_toInt32_iff.mpr hscores)
    · refine howners.trans ?_
      rw [← hfit.users, List.zip_map']
      rfl

/-- An input of a player is restored in a new world of the same players. -/
theorem restored_iff_input : ∃ w w' : BattleWorld,
    (w.components.userRows.map fun r => (r.userId, r.score)) = [("owner", 5), ("member", 0)] ∧
      w.components.Restored (fun _ => []) w'.components := by
  refine ⟨((createBattleWorld .plain "b" "r" ["owner", "member"] 0).processInput
    "owner" "move:1,1" 5 1).1, createBattleWorld .plain "b" "r" ["owner", "member"] 0,
    by decide +kernel, (restored_iff (fun _ => []) (by decide +kernel)).mpr ?_⟩
  refine ⟨by decide +kernel, rfl, ?_, ?_⟩
  · unfold FitsInt32
    decide +kernel
  · unfold FitsInt32
    decide +kernel

/-- In a world of the same players in another order the entities change their users. -/
theorem not_restored : ¬∀ (floatText : Float → List Char) (w w' : WorldComponents),
    w'.participants.length = w.participants.length → w.Restored floatText w' := by
  intro hall
  have h := hall (fun _ => [])
    (createBattleWorld .plain "b" "r" ["owner", "member"] 0).components
    (createBattleWorld .plain "b" "r" ["member", "owner"] 0).components (by decide +kernel)
  have howned := h.owners
  rw [restore_snapshot _ (by decide +kernel)] at howned
  exact absurd howned (by decide +kernel)

/-! ## Restores that fail -/

/-- The restore succeeds, or fails and changes nothing. -/
def Intact (json : Bytes) : Prop :=
  (w.restoreFromJson json).1 = .ok true ∨ w.restoreFromJson json = (.ok false, w)

/-- Every participant from position `i` on finds a row whose members have their types. -/
def RowsTyped (j : Json) (i : ℕ) (es : List ParticipantEntity) : Prop :=
  ∀ k < es.length, ∃ row, rowAt j (i + k) = .ok row ∧ HasTypes participantFields row

/-- A document with all members that is restored, or is rejected with no harm done. -/
structure Harmless (w : WorldComponents) (clock metadata participants replayInputs : Json) :
    Prop where
  clockTyped : HasTypes clockFields clock
  metadataTyped : HasTypes metadataFields metadata
  /-- Where the participants are as many as those of the world, everything else can be read. -/
  rows : w.participants.length = size participants → RowsTyped participants 0 w.participants ∧
    ∀ row ∈ visited replayInputs, HasTypes replayInputFields row
  /-- Where they are not, the clock and the metadata are those of the world. -/
  same : w.participants.length ≠ size participants →
    readAll clockFields clock w.clock = w.clock ∧
      readAll metadataFields metadata w.metadata = w.metadata

theorem rowsTyped_cons {j : Json} {i : ℕ} {e : ParticipantEntity} {es : List ParticipantEntity} :
    RowsTyped j i (e :: es) ↔
      (∃ row, rowAt j i = .ok row ∧ HasTypes participantFields row) ∧ RowsTyped j (i + 1) es := by
  constructor
  · intro h
    refine ⟨h 0 (by simp), fun k hk => ?_⟩
    rw [Nat.add_assoc, Nat.add_comm 1 k]
    exact h (k + 1) (by simpa using hk)
  · rintro ⟨hrow, hrows⟩ k hk
    cases k with
    | zero => exact hrow
    | succ k =>
      rw [Nat.add_comm k 1, ← Nat.add_assoc]
      exact hrows k (by simpa using hk)

theorem restoreParticipants_returns {j : Json} {i : ℕ} {es : List ParticipantEntity} :
    Returns (restoreParticipants j i es).1 ↔ RowsTyped j i es := by
  induction es generalizing i with
  | nil => simp [restoreParticipants, RowsTyped]
  | cons e es ih =>
    rw [rowsTyped_cons, ← ih, restoreParticipants]
    cases rowAt j i with
    | error err => simp
    | ok row =>
      dsimp only
      by_cases htyped : HasTypes participantFields row
      · rw [writeAll_of_hasTypes htyped]
        simp [htyped]
      · obtain ⟨err, p, hraises⟩ := writeAll_raises htyped e.participant
        rw [hraises]
        simp [htyped]

theorem restoreReplayInputs_returns {rows : List Json} (log : List BattleReplayInputRecord) :
    Returns (restoreReplayInputs rows log).1 ↔ ∀ row ∈ rows, HasTypes replayInputFields row := by
  induction rows generalizing log with
  | nil => simp [restoreReplayInputs]
  | cons row rows ih =>
    rw [List.forall_mem_cons, restoreReplayInputs]
    by_cases htyped : HasTypes replayInputFields row
    · rw [writeAll_of_hasTypes htyped]
      simp [htyped, ih]
    · obtain ⟨err, r, hraises⟩ := writeAll_raises htyped
        { inputSeq := 0, frameNumber := 0, userId := "", inputData := "", score := 0 }
      rw [hraises]
      simp [htyped]

theorem restoreRows_eq_true {w : WorldComponents} {participants replayInputs : Json} :
    (w.restoreRows participants replayInputs).1 = .ok true ↔
      RowsTyped participants 0 w.participants ∧
        ∀ row ∈ visited replayInputs, HasTypes replayInputFields row := by
  rw [← restoreParticipants_returns, ← restoreReplayInputs_returns [], restoreRows]
  obtain ⟨r, es⟩ := restoreParticipants participants 0 w.participants
  obtain ⟨r', log⟩ := restoreReplayInputs (visited replayInputs) []
  cases r with
  | error err => simp
  | ok u =>
    cases r' with
    | error err => simp [Except.map]
    | ok u' => simp [Except.map]

/-- Where the rows are read, a restore returns true or raises. -/
theorem restoreRows_ne_false {w w' : WorldComponents} {participants replayInputs : Json} :
    w.restoreRows participants replayInputs ≠ (.ok false, w') := by
  unfold restoreRows
  obtain ⟨r, es⟩ := restoreParticipants participants 0 w.participants
  obtain ⟨r', log⟩ := restoreReplayInputs (visited replayInputs) []
  cases r with
  | error err => simp
  | ok u =>
    cases r' with
    | error err => simp [Except.map]
    | ok u' => simp [Except.map]

theorem restoreMembers_intact {w : WorldComponents}
    {clock metadata participants replayInputs : Json} :
    ((w.restoreMembers clock metadata participants replayInputs).1 = .ok true ∨
        w.restoreMembers clock metadata participants replayInputs = (.ok false, w)) ↔
      w.Harmless clock metadata participants replayInputs := by
  unfold restoreMembers
  by_cases hclock : HasTypes clockFields clock
  case neg =>
    obtain ⟨err, c, hraises⟩ := writeAll_raises hclock w.clock
    rw [hraises]
    simp only [reduceCtorEq, Prod.mk.injEq, false_and, or_self, false_iff]
    exact fun h => hclock h.clockTyped
  by_cases hmetadata : HasTypes metadataFields metadata
  case neg =>
    obtain ⟨err, m, hraises⟩ := writeAll_raises hmetadata w.metadata
    rw [writeAll_of_hasTypes hclock, hraises]
    simp only [reduceCtorEq, Prod.mk.injEq, false_and, or_self, false_iff]
    exact fun h => hmetadata h.metadataTyped
  rw [writeAll_of_hasTypes hclock, writeAll_of_hasTypes hmetadata]
  dsimp only
  by_cases hcount : w.participants.length = size participants
  · rw [if_neg (not_not.mpr hcount), restoreRows_eq_true, or_iff_left restoreRows_ne_false]
    exact ⟨fun h => ⟨hclock, hmetadata, fun _ => h, fun hne => absurd hcount hne⟩,
      fun h => h.rows hcount⟩
  · rw [if_pos hcount]
    constructor
    · rintro (htrue | hsame)
      · cases htrue
      · have hw := (Prod.mk.inj hsame).2
        exact ⟨hclock, hmetadata, fun heq => absurd heq hcount, fun _ =>
          ⟨congrArg (·.clock) hw, congrArg (·.metadata) hw⟩⟩
    · intro h
      obtain ⟨hc, hm⟩ := h.same hcount
      right
      rw [hc, hm]

/-- Nothing is raised and a restore that fails changes nothing exactly when the text is no
document with all members, or one that is harmless. -/
theorem intact_iff (w : WorldComponents) (json : Bytes) : w.Intact json ↔
    ∀ clock metadata participants replayInputs,
      (parse true json).bind members = some (clock, metadata, participants, replayInputs) →
        w.Harmless clock metadata participants replayInputs := by
  unfold Intact restoreFromJson
  cases (parse true json).bind members with
  | none => simp
  | some m =>
    obtain ⟨clock, metadata, participants, replayInputs⟩ := m
    dsimp only
    rw [restoreMembers_intact]
    constructor
    · rintro h c m p r heq
      cases heq
      exact h
    · exact fun h => h _ _ _ _ rfl

/-- A document without participants whose clock shows 7. -/
def laterClock : Json := .object
  [("clock", .object [("frame_number", .unsigned 7)]),
   ("metadata", .object []),
   ("participants", .array []),
   ("replay_inputs", .array [])]

theorem not_intact : ¬∀ (w : WorldComponents) (json : Bytes), w.Intact json := by
  intro hall
  have hplain : Plain laterClock := by
    refine ⟨by decide, ?_⟩
    simp [PlainMembers, Plain, PlainElems]
  have hread : asRead laterClock = laterClock := by
    simp [laterClock, asRead, asReadMembers, asReadElems]
  have hintact := hall (createBattleWorld .plain "b" "r" ["alice"] 10).components
    (encodeUtf8 (laterClock.dump (fun _ => []) none 0))
  unfold Intact restoreFromJson at hintact
  rw [parse_dump hplain, hread] at hintact
  obtain ⟨-, -, -, hsame⟩ := restoreMembers_intact.mp hintact
  obtain ⟨hclock, -⟩ := hsame (by decide)
  have hframe : (7 : UInt32) = 0 := congrArg (·.frameNumber) hclock
  exact absurd hframe (by decide)

end WorldComponents

end BoostGateway.Battle
