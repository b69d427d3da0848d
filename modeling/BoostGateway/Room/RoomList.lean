import Mathlib.Data.Int.GCD
import Mathlib.Data.Nat.Prime.Basic
import BoostGateway.Room.RoomBackend

/-!
# The requests that only read rooms

`room_list`, `room_detail` and `room_state_push` (`room_backend_service.cpp`) build
their replies from the rooms and change none of them.

`room_list` cuts the matching rooms into pages in 32-bit arithmetic. The pages it counts
make up the matching rooms (`flatMap_pages`), but the start of a page behind them wraps
around : with the default page size, page `2 ^ 31 + 1` is page one again
(`not_paginates_one`). `paginates_iff` says for which numbers of rooms and sizes of a page
every page behind the counted ones is empty.
-/

namespace BoostGateway.Room

open Json (value getString getInt32)

/-- `status_to_string`. -/
def RoomStatus.toStr : RoomStatus → String
  | .kWaiting => "waiting"
  | .kInInstance => "in_instance"
  | .kClosed => "closed"

/-- `room_to_json` at the time `now`. -/
def RoomState.toJson (room : RoomState) (now : ℕ) : Json :=
  let member (m : RoomMember) : Json := Json.ofMembers
    [("user_id", .string m.userId), ("display_name", .string m.displayName),
      ("ready", .bool m.ready)]
  let battle := if room.activeBattleId ≠ "" then
    [("active_battle_id", Json.string room.activeBattleId)] else []
  let metadata := match room.metadata with
    | .object [] => []
    | j => [("metadata", j)]
  let idle := match room.lastActivityAt with
    | some last => [("idle_ms", Json.integer (.ofInt (((now : ℤ) - last).tdiv 1000000)))]
    | none => []
  Json.ofMembers
    ([("room_id", Json.string room.roomId), ("owner_user_id", .string room.ownerUserId),
      ("members", .array (room.members.map member)),
      ("member_count", .unsigned (.ofNat room.members.length)),
      ("capacity", .unsigned room.capacity.toUInt64), ("visibility", .string room.visibility),
      ("version", .unsigned room.version.toUInt64), ("status", .string room.status.toStr),
      ("created_at_ms", .integer (.ofInt room.createdAtMs))] ++ battle ++ metadata ++ idle)

/-- The fields of a `room_list` request; a filter that is empty lets every room through. -/
structure RoomListRequest where
  visibility : String := ""
  status : String := ""
  page : Int32 := 1
  pageSize : Int32 := 20
  deriving DecidableEq

namespace RoomListRequest

variable (r : RoomListRequest)

def admits (room : RoomState) : Bool :=
  (r.visibility = "" ∨ room.visibility = r.visibility) ∧
    (r.status = "" ∨ room.status.toStr = r.status)

/-- `page`, converted and at least one. -/
def page32 : UInt32 := if r.page.toUInt32 < 1 then 1 else r.page.toUInt32

/-- `page_size`, converted and between one and a hundred. -/
def pageSize32 : UInt32 :=
  let size := if r.pageSize.toUInt32 < 1 then 20 else r.pageSize.toUInt32
  if 100 < size then 100 else size

end RoomListRequest

/-- `total_pages`. -/
def totalPages (total pageSize : UInt32) : UInt32 :=
  let pages := (total + pageSize - 1) / pageSize
  if pages < 1 then 1 else pages

/-- What `room_list` takes out of the matching rooms. -/
def roomPage {α : Type} (found : List α) (page pageSize : UInt32) : List α :=
  let total := UInt32.ofNat found.length
  let start := (page - 1) * pageSize
  let stop := min (start + pageSize) total
  if start < total then (found.drop start.toNat).take (stop.toNat - start.toNat) else []

namespace RoomBackend

variable (s : RoomBackend)

/-- The rooms that pass the filters, in the order of the map. -/
def found (r : RoomListRequest) : List RoomState :=
  (s.rooms.entries.map Sigma.snd).filter r.admits

/-- The rooms of the reply. -/
def listed (r : RoomListRequest) : List RoomState :=
  roomPage (s.found r) r.page32 r.pageSize32

def roomList (now : ℕ) (r : RoomListRequest) : Reply :=
  let total := UInt32.ofNat (s.found r).length
  makeOk
    [("rooms", .array ((s.listed r).map (·.toJson now))),
      ("total", .unsigned total.toUInt64), ("page", .unsigned r.page32.toUInt64),
      ("page_size", .unsigned r.pageSize32.toUInt64),
      ("total_pages", .unsigned (totalPages total r.pageSize32).toUInt64)]

def roomDetail (now : ℕ) (roomId : String) : Reply :=
  match s.find roomId with
  | none => .error .kRoomNotFound "room_not_found"
  | some room => makeOk [("room", room.toJson now)]

def roomStatePush (now : ℕ) (nowMs : ℤ) (roomId eventType : String) : Reply :=
  match s.find roomId with
  | none => .error .kRoomNotFound "room_not_found"
  | some room => .ok (Json.ofMembers
      [("type", .string "room_state_push"), ("event_type", .string eventType),
        ("room_id", .string roomId), ("room", room.toJson now),
        ("timestamp", .integer (.ofInt nowMs)),
        ("member_user_ids", .array (room.userIds.map .string))])

/-- A handler that only reads, of a request with the given members. -/
def readFields (keys : List String) (payload : Option Json)
    (k : Json → Except Json.TypeError Reply) : Except Json.TypeError Reply :=
  match fields keys payload with
  | none => .ok (.error .kInvalidRequest "invalid_json")
  | some doc => k doc

def readRoomList (doc : Json) : Except Json.TypeError RoomListRequest := do
  let visibility ← doc.value getString "visibility" ""
  let status ← doc.value getString "status" ""
  let page ← doc.value getInt32 "page" 1
  let pageSize ← doc.value getInt32 "page_size" 20
  return { visibility, status, page, pageSize }

def handleRoomList (now : ℕ) (payload : Option Json) : Except Json.TypeError Reply :=
  readFields [] payload fun doc => do
    let r ← readRoomList doc
    return s.roomList now r

def handleRoomDetail (now : ℕ) (payload : Option Json) : Except Json.TypeError Reply :=
  readFields ["room_id"] payload fun doc => do
    let roomId ← stringField doc "room_id"
    return s.roomDetail now roomId

def handleRoomStatePush (now : ℕ) (nowMs : ℤ) (payload : Option Json) :
    Except Json.TypeError Reply :=
  readFields ["room_id"] payload fun doc => do
    let roomId ← stringField doc "room_id"
    let eventType ← doc.value getString "event_type" "state_changed"
    return s.roomStatePush now nowMs roomId eventType

end RoomBackend

/-! ## Pages -/

/-- The counted pages hold every element once, and the pages behind them are empty. -/
def Paginates {α : Type} (found : List α) (pageSize : UInt32) : Prop :=
  let pages := totalPages (.ofNat found.length) pageSize
  ((List.range pages.toNat).flatMap fun i => roomPage found (.ofNat (i + 1)) pageSize).Perm found ∧
    ∀ page, pages < page → roomPage found page pageSize = []

section Pages

variable {α : Type} {found : List α} {page pageSize : UInt32}

/-- The first element of a page, with its wrap. -/
def pageStart (page pageSize : UInt32) : ℕ := (page.toNat - 1) * pageSize.toNat % 2 ^ 32

theorem roomPage_eq (hpage : 1 ≤ page.toNat) :
    roomPage found page pageSize =
      if pageStart page pageSize < found.length % 2 ^ 32 then
        (found.drop (pageStart page pageSize)).take
          (min ((pageStart page pageSize + pageSize.toNat) % 2 ^ 32) (found.length % 2 ^ 32) -
            pageStart page pageSize)
      else [] := by
  have hstart : ((page - 1) * pageSize).toNat = pageStart page pageSize := by
    have hle : (1 : UInt32) ≤ page := UInt32.le_iff_toNat_le.mpr hpage
    rw [UInt32.toNat_mul, UInt32.toNat_sub_of_le _ _ hle]
    rfl
  have htotal : (UInt32.ofNat found.length).toNat = found.length % 2 ^ 32 := UInt32.toNat_ofNat
  have hmin : ∀ a b : UInt32, (min a b).toNat = min a.toNat b.toNat := fun a b => by
    change (if a ≤ b then a else b).toNat = _
    simp only [UInt32.le_iff_toNat_le]
    split_ifs <;> omega
  simp only [roomPage, UInt32.lt_iff_toNat_lt, hmin, UInt32.toNat_add, hstart, htotal]

theorem toNat_totalPages {total : UInt32} (hsize : 1 ≤ pageSize.toNat) :
    (totalPages total pageSize).toNat =
      max 1 ((total.toNat + pageSize.toNat - 1) % 2 ^ 32 / pageSize.toNat) := by
  have hsub : (total + pageSize - 1).toNat = (total.toNat + pageSize.toNat - 1) % 2 ^ 32 := by
    rw [UInt32.toNat_sub, UInt32.toNat_add]
    change (2 ^ 32 - 1 + (total.toNat + pageSize.toNat) % 2 ^ 32) % 2 ^ 32 = _
    omega
  have hone : ∀ a : UInt32, (if a < 1 then 1 else a).toNat = max 1 a.toNat := fun a => by
    have hlt : a < 1 ↔ a.toNat < 1 := UInt32.lt_iff_toNat_lt
    split_ifs with h
    · have := hlt.mp h
      change 1 = _
      omega
    · have := mt hlt.mpr h
      omega
  rw [totalPages]
  simp only [hone, UInt32.toNat_div, hsub]

/-- Where nothing wraps, a page is a window of the elements. -/
theorem roomPage_window {i : ℕ} (hsize : 1 ≤ pageSize.toNat)
    (hsum : found.length % 2 ^ 32 + pageSize.toNat ≤ 2 ^ 32)
    (hi : i = 0 ∨ i * pageSize.toNat < found.length % 2 ^ 32) :
    roomPage found (.ofNat (i + 1)) pageSize =
      ((found.take (found.length % 2 ^ 32)).drop (i * pageSize.toNat)).take pageSize.toNat := by
  have hle : i ≤ i * pageSize.toNat := Nat.le_mul_of_pos_right i hsize
  have hzero : i = 0 → i * pageSize.toNat = 0 := fun h => by rw [h, Nat.zero_mul]
  have hpage : (UInt32.ofNat (i + 1)).toNat = i + 1 := by
    rw [UInt32.toNat_ofNat', Nat.mod_eq_of_lt (by omega)]
  have hstart : pageStart (.ofNat (i + 1)) pageSize = i * pageSize.toNat := by
    rw [pageStart, hpage, Nat.add_sub_cancel, Nat.mod_eq_of_lt (by omega)]
  rw [roomPage_eq (by omega), hstart]
  split_ifs with hlt
  · rw [Nat.mod_eq_of_lt (by omega), List.drop_take, List.take_take]
    congr 1
    omega
  · rw [List.drop_eq_nil_of_le (by rw [List.length_take]; omega), List.take_nil]

theorem flatMap_windows (l : List α) (k m : ℕ) :
    ((List.range m).flatMap fun i => (l.drop (i * k)).take k) = l.take (m * k) := by
  induction m with
  | zero => simp
  | succ m ih =>
    rw [List.range_succ, List.flatMap_append, ih, List.flatMap_singleton, Nat.succ_mul,
      List.take_add]

/-- Where the count of the pages does not wrap, the counted pages make up the elements
that the 32-bit total counts. -/
theorem flatMap_pages (hsize : 1 ≤ pageSize.toNat)
    (hsum : found.length % 2 ^ 32 + pageSize.toNat ≤ 2 ^ 32) :
    ((List.range (totalPages (.ofNat found.length) pageSize).toNat).flatMap fun i =>
      roomPage found (.ofNat (i + 1)) pageSize) = found.take (found.length % 2 ^ 32) := by
  have htotal : (UInt32.ofNat found.length).toNat = found.length % 2 ^ 32 := UInt32.toNat_ofNat'
  rw [toNat_totalPages hsize, htotal, Nat.mod_eq_of_lt (by omega)]
  have hcover : found.length % 2 ^ 32 ≤
      max 1 ((found.length % 2 ^ 32 + pageSize.toNat - 1) / pageSize.toNat) * pageSize.toNat := by
    have hlt := Nat.lt_div_mul_add hsize (a := found.length % 2 ^ 32 + pageSize.toNat - 1)
    have hmul := Nat.mul_le_mul_right pageSize.toNat (Nat.le_max_right 1
      ((found.length % 2 ^ 32 + pageSize.toNat - 1) / pageSize.toNat))
    omega
  have hwindow : ∀ i ∈ List.range
      (max 1 ((found.length % 2 ^ 32 + pageSize.toNat - 1) / pageSize.toNat)),
      roomPage found (.ofNat (i + 1)) pageSize =
        ((found.take (found.length % 2 ^ 32)).drop (i * pageSize.toNat)).take pageSize.toNat := by
    intro i hi
    refine roomPage_window hsize hsum ?_
    rcases Nat.eq_zero_or_pos i with hi0 | hpos
    · exact Or.inl hi0
    · have hdiv : i + 1 ≤ (found.length % 2 ^ 32 + pageSize.toNat - 1) / pageSize.toNat := by
        have := List.mem_range.mp hi
        omega
      have hmul := (Nat.le_div_iff_mul_le hsize).mp hdiv
      rw [Nat.succ_mul] at hmul
      omega
  rw [List.flatMap_congr hwindow, flatMap_windows, List.take_take]
  congr 1
  omega

/-- Where the count of the pages wraps, there is one page, and it is short. -/
theorem length_pages_of_wrap (hsize : 1 ≤ pageSize.toNat)
    (hsum : 2 ^ 32 < found.length % 2 ^ 32 + pageSize.toNat) :
    ((List.range (totalPages (.ofNat found.length) pageSize).toNat).flatMap fun i =>
      roomPage found (.ofNat (i + 1)) pageSize).length ≤ pageSize.toNat := by
  have htotal : (UInt32.ofNat found.length).toNat = found.length % 2 ^ 32 := UInt32.toNat_ofNat'
  have hlt : pageSize.toNat < 2 ^ 32 := pageSize.toNat_lt
  have hsmall : (found.length % 2 ^ 32 + pageSize.toNat - 1) % 2 ^ 32 < pageSize.toNat := by omega
  rw [toNat_totalPages hsize, htotal, Nat.div_eq_of_lt hsmall]
  simp only [Nat.max_zero, List.range_one, List.flatMap_singleton]
  rw [roomPage_eq (by decide)]
  split_ifs
  · rw [List.length_take]
    have hstart : pageStart (.ofNat (0 + 1)) pageSize = 0 := by
      rw [pageStart]
      simp
    rw [hstart]
    omega
  · exact Nat.zero_le _

/-- A page whose start wraps onto the elements is not empty. -/
theorem roomPage_ne_nil (hsize : 1 ≤ pageSize.toNat) (hpage : 1 ≤ page.toNat)
    (hsum : found.length + pageSize.toNat ≤ 2 ^ 32)
    (hstart : pageStart page pageSize < found.length) :
    roomPage found page pageSize ≠ [] := by
  rw [roomPage_eq hpage, Nat.mod_eq_of_lt (by omega : found.length < 2 ^ 32), if_pos hstart,
    Nat.mod_eq_of_lt (by omega), ← List.length_pos_iff, List.length_take, List.length_drop]
  omega

/-- The number of pages, where nothing wraps. -/
theorem toNat_pages (hsize : 1 ≤ pageSize.toNat) (hsum : found.length + pageSize.toNat ≤ 2 ^ 32) :
    (totalPages (.ofNat found.length) pageSize).toNat =
      max 1 ((found.length + pageSize.toNat - 1) / pageSize.toNat) := by
  have htotal : (UInt32.ofNat found.length).toNat = found.length := by
    rw [UInt32.toNat_ofNat', Nat.mod_eq_of_lt (by omega)]
  rw [toNat_totalPages hsize, htotal, Nat.mod_eq_of_lt (by omega)]

/-- With an even page size the start of page `2 ^ 31 + 1` wraps to zero. -/
theorem exists_page_of_even (hsize : 2 ≤ pageSize.toNat) (heven : pageSize.toNat % 2 = 0)
    (hsum : found.length + pageSize.toNat ≤ 2 ^ 32) (hne : 1 ≤ found.length) :
    ∃ page, totalPages (.ofNat found.length) pageSize < page ∧
      roomPage found page pageSize ≠ [] := by
  have hpage : (UInt32.ofNat (2 ^ 31 + 1)).toNat = 2 ^ 31 + 1 := rfl
  refine ⟨.ofNat (2 ^ 31 + 1), ?_, roomPage_ne_nil (by omega) (by omega) hsum ?_⟩
  · rw [UInt32.lt_iff_toNat_lt, toNat_pages (by omega) hsum, hpage]
    have hdiv : (found.length + pageSize.toNat - 1) / pageSize.toNat ≤
        (found.length + pageSize.toNat - 1) / 2 := Nat.div_le_div_left hsize (by decide)
    omega
  · rw [pageStart, hpage]
    omega

/-- With an odd page size other than one the start of some page wraps to one. -/
theorem exists_page_of_odd (hsize : 2 ≤ pageSize.toNat) (hle : pageSize.toNat ≤ 100)
    (hodd : pageSize.toNat % 2 = 1) (hsum : found.length + pageSize.toNat ≤ 2 ^ 32)
    (hne : 2 ≤ found.length) :
    ∃ page, totalPages (.ofNat found.length) pageSize < page ∧
      roomPage found page pageSize ≠ [] := by
  have hcoprime : Nat.Coprime pageSize.toNat (2 ^ 32) :=
    Nat.Coprime.pow_right 32 ((Nat.coprime_two_right).mpr (Nat.odd_iff.mpr hodd))
  obtain ⟨m, hm, hinv⟩ : ∃ m, m < 2 ^ 32 ∧ m * pageSize.toNat % 2 ^ 32 = 1 := by
    obtain ⟨m, hm, hinv⟩ := Nat.exists_mul_mod_eq_one_of_coprime hcoprime (by decide)
    exact ⟨m, hm, by rwa [Nat.mul_comm]⟩
  have hlast : m ≠ 2 ^ 32 - 1 := by
    rintro rfl
    omega
  have hpage : (UInt32.ofNat (m + 1)).toNat = m + 1 := by
    rw [UInt32.toNat_ofNat', Nat.mod_eq_of_lt (by omega)]
  refine ⟨.ofNat (m + 1), ?_, roomPage_ne_nil (by omega) (by omega) hsum ?_⟩
  · rw [UInt32.lt_iff_toNat_lt, toNat_pages (by omega) hsum, hpage]
    have hm0 : m ≠ 0 := by
      rintro rfl
      omega
    by_contra hpages
    have hdiv : m + 1 ≤ (found.length + pageSize.toNat - 1) / pageSize.toNat := by omega
    have hmul := (Nat.le_div_iff_mul_le (by omega : 0 < pageSize.toNat)).mp hdiv
    rw [Nat.succ_mul] at hmul
    have hge : pageSize.toNat ≤ m * pageSize.toNat := Nat.le_mul_of_pos_left _ (by omega)
    rw [Nat.mod_eq_of_lt (by omega)] at hinv
    omega
  · rw [pageStart, hpage, Nat.add_sub_cancel, hinv]
    omega

/-- The pages are right exactly when nothing is found, or a page has one element, or there
is one element and the page size is odd. -/
theorem paginates_list_iff (hsize : 1 ≤ pageSize.toNat) (hle : pageSize.toNat ≤ 100) :
    Paginates found pageSize ↔
      found.length = 0 ∨ pageSize.toNat = 1 ∧ found.length < 2 ^ 32 ∨
        found.length = 1 ∧ pageSize.toNat % 2 = 1 := by
  constructor
  · rintro ⟨hperm, hempty⟩
    have hlength := hperm.length_eq
    by_cases hsum : found.length % 2 ^ 32 + pageSize.toNat ≤ 2 ^ 32
    · rw [flatMap_pages hsize hsum, List.length_take] at hlength
      have hsum' : found.length + pageSize.toNat ≤ 2 ^ 32 := by omega
      by_contra hnot
      rcases Nat.mod_two_eq_zero_or_one pageSize.toNat with heven | hodd
      · obtain ⟨page, hpages, hpage⟩ := exists_page_of_even (by omega) heven hsum' (by omega)
        exact hpage (hempty page hpages)
      · obtain ⟨page, hpages, hpage⟩ :=
          exists_page_of_odd (by omega) hle hodd hsum' (by omega)
        exact hpage (hempty page hpages)
    · have hshort := length_pages_of_wrap hsize (by omega : 2 ^ 32 < found.length % 2 ^ 32 + _)
      omega
  · intro hcond
    have hsum : found.length + pageSize.toNat ≤ 2 ^ 32 := by omega
    have hmod : found.length % 2 ^ 32 = found.length := Nat.mod_eq_of_lt (by omega)
    refine ⟨List.Perm.of_eq ?_, fun page hpages => ?_⟩
    · rw [flatMap_pages hsize (by omega), hmod, List.take_length]
    · rw [UInt32.lt_iff_toNat_lt, toNat_pages hsize hsum] at hpages
      have hlt : page.toNat < 2 ^ 32 := page.toNat_lt
      rw [roomPage_eq (by omega), hmod, if_neg]
      rw [pageStart]
      rcases hcond with hzero | ⟨hone, -⟩ | ⟨hone, hodd⟩
      · omega
      · rw [hone, Nat.div_one] at hpages
        rw [hone, Nat.mul_one, Nat.mod_eq_of_lt (by omega)]
        omega
      · rw [hone]
        intro hstart
        have hdvd : 2 ^ 32 ∣ (page.toNat - 1) * pageSize.toNat :=
          Nat.dvd_of_mod_eq_zero (by omega)
        have hcoprime : Nat.Coprime (2 ^ 32) pageSize.toNat :=
          Nat.Coprime.pow_left 32 ((Nat.coprime_two_left).mpr (Nat.odd_iff.mpr hodd))
        have := Nat.le_of_dvd (by omega) (hcoprime.dvd_of_dvd_mul_right hdvd)
        omega

end Pages

/-! ## The pages of a room list -/

theorem RoomListRequest.pageSize32_bounds (r : RoomListRequest) :
    1 ≤ r.pageSize32.toNat ∧ r.pageSize32.toNat ≤ 100 := by
  simp only [pageSize32, UInt32.lt_iff_toNat_lt]
  have hzero : r.pageSize.toUInt32.toNat < (1 : UInt32).toNat ∨
      (1 : UInt32).toNat ≤ r.pageSize.toUInt32.toNat := Nat.lt_or_ge _ _
  split_ifs <;> simp_all

/-- For fixed rooms, filters and page size : pages one to `total_pages` list every matching
room once, and every page behind them is empty. -/
def RoomBackend.ListsPaginate (s : RoomBackend) (visibility status : String) (pageSize : Int32) :
    Prop :=
  let r (page : Int32) : RoomListRequest := { visibility, status, page, pageSize }
  let pages := totalPages (.ofNat (s.found (r 1)).length) (r 1).pageSize32
  ((List.range pages.toNat).flatMap fun i => s.listed (r (.ofNat (i + 1)))).Perm
      (s.found (r 1)) ∧
    ∀ page, pages < (r page).page32 → s.listed (r page) = []

theorem RoomListRequest.page32_of_pos {r : RoomListRequest} (h : 0 < r.page.toUInt32) :
    r.page32 = r.page.toUInt32 := by
  rw [page32, if_neg]
  rw [UInt32.lt_iff_toNat_lt] at h ⊢
  exact Nat.not_lt.mpr h

theorem listsPaginate_iff (s : RoomBackend) (visibility status : String) (pageSize : Int32) :
    s.ListsPaginate visibility status pageSize ↔
      Paginates (s.found { visibility, status, pageSize })
        (RoomListRequest.pageSize32 { visibility, status, pageSize }) := by
  unfold RoomBackend.ListsPaginate Paginates
  have hpages : ∀ i ∈ List.range
      (totalPages (.ofNat (s.found { visibility, status, pageSize }).length)
        (RoomListRequest.pageSize32 { visibility, status, pageSize })).toNat,
      s.listed { visibility, status, page := .ofNat (i + 1), pageSize } =
        roomPage (s.found { visibility, status, pageSize }) (.ofNat (i + 1))
          (RoomListRequest.pageSize32 { visibility, status, pageSize }) := by
    intro i hi
    have hlt : i + 1 < 2 ^ 32 :=
      Nat.lt_of_le_of_lt (List.mem_range.mp hi) (UInt32.toNat_lt _)
    have hpos : 0 < UInt32.ofNat (i + 1) := by
      rw [UInt32.lt_iff_toNat_lt, UInt32.toNat_ofNat', Nat.mod_eq_of_lt hlt]
      exact Nat.succ_pos i
    have hpage := RoomListRequest.page32_of_pos
      (r := { visibility, status, page := .ofNat (i + 1), pageSize }) hpos
    rw [RoomBackend.listed, hpage]
    rfl
  refine and_congr (by rw [List.flatMap_congr hpages]) ⟨fun h page hlt => ?_, fun h page hlt =>
    h _ hlt⟩
  have hpos : 0 < page := by
    rw [UInt32.lt_iff_toNat_lt] at hlt ⊢
    exact Nat.lt_of_le_of_lt (Nat.zero_le _) hlt
  have hpage : (RoomListRequest.mk visibility status page.toInt32 pageSize).page32 = page :=
    RoomListRequest.page32_of_pos hpos
  have hlisted := h page.toInt32 (hpage.symm ▸ hlt)
  rwa [RoomBackend.listed, hpage] at hlisted

/-- When `room_list` paginates : nothing matches, or pages have one room, or one room
matches and the page size is odd. -/
theorem paginates_iff (s : RoomBackend) (visibility status : String) (pageSize : Int32) :
    s.ListsPaginate visibility status pageSize ↔
      let n := (s.found { visibility, status, pageSize }).length
      let size := (RoomListRequest.pageSize32 { visibility, status, pageSize }).toNat
      n = 0 ∨ size = 1 ∧ n < 2 ^ 32 ∨ n = 1 ∧ size % 2 = 1 := by
  obtain ⟨hsize, hle⟩ := RoomListRequest.pageSize32_bounds { visibility, status, pageSize }
  rw [listsPaginate_iff, paginates_list_iff hsize hle]

/-- One waiting room. -/
def oneRoom : RoomBackend :=
  (RoomBackend.roomCreate {} 0 0 "u" "r" "u" "public" 0 (.object [])).1

/-- The default page size is even : one room is listed on page one and, of one page, on
page `2 ^ 31 + 1`. -/
theorem not_paginates_one : ¬oneRoom.ListsPaginate "" "" 20 := by
  rintro ⟨-, hempty⟩
  have hlisted := congrArg List.length (hempty (-2147483647) (by decide))
  exact absurd hlisted (by decide)

end BoostGateway.Room
