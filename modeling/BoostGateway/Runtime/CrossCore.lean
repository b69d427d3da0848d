import BoostGateway.Runtime.Dispatch
import BoostGateway.Runtime.SpscQueue

/-!
# Messages from other cores

`ActorSystem::send` posts a message for an actor that is pinned to another core into the
ring of that core, and the core empties its ring with `drain_mailbox_and_dispatch`. A
`CrossCore` is the core that owns the ring, with the sends of the other cores that have not
returned. The actors of its `Dispatcher` are those pinned to the core, which alone runs them.

A message that is published is put into the mailbox of its actor once, in order, by the
first drain that begins after it at the latest (`CrossReaches.handsOver`), if no two cores
are posting at once and fewer than `2 ^ 64` messages are sent. A message that finds the ring
full is dropped, and its sender is not told (`not_delivered`).
-/

namespace BoostGateway.Runtime

variable {P : Type}

/-- A call of `post_mailbox` : the index is loaded, room was found, the item is stored. -/
inductive Posting (P : Type)
  | loaded (m : Message P) (write : UInt64)
  | room (m : Message P) (write : UInt64)
  | stored (m : Message P) (write : UInt64)

def Posting.message : Posting P → Message P
  | .loaded m _ | .room m _ | .stored m _ => m

/-- The next step of the loop of `SpscQueue::drain`. -/
inductive DrainStep (P : Type)
  | look
  | take (read : UInt64)
  | release (read : UInt64) (m : Message P)
  | done

/-- Nothing reads how many messages were posted when the drain began. -/
structure Draining (P : Type) where
  next : DrainStep P := .look
  items : List (Message P) := []
  begun : ℕ

/-- The last three fields are a record of the sends that posted, of the calls of
`post_mailbox` that returned, and of what was put into mailboxes. -/
structure CrossCore (P : Type) where
  dispatcher : Dispatcher P := {}
  ring : SpscQueue (Message P) := {}
  posting : List (ℕ × Posting P) := []
  draining : Option (Draining P) := none
  accepted : List (ℕ × Message P) := []
  returned : List (ℕ × Message P × Bool) := []
  delivered : List (Message P) := []

/-- The messages that the drain has taken out of the ring. -/
def Draining.taken (d : Draining P) : List (Message P) :=
  match d.next with
  | .release _ m => d.items ++ [m]
  | _ => d.items

/-- What the cores do. -/
inductive CrossEvent (P : Type)
  /-- The owning core dispatches, or calls the system. -/
  | owner (e : DispatchEvent P)
  /-- Another core sends, and loads the index if it posts. -/
  | send (core : ℕ) (m : Message P)
  /-- The next step of its call of `post_mailbox`. -/
  | post (core : ℕ)
  | drain
  /-- The next step of the drain. -/
  | dequeue
  /-- What was drained is put into the mailboxes and the core dispatches. -/
  | dispatch (now : ℕ → TimePoint)

/-- A step of the drain. -/
def CrossEvent.drains : CrossEvent P → Bool
  | .drain | .dequeue | .dispatch _ => true
  | _ => false

namespace CrossCore

/-- The messages for which `post_mailbox` returned true. -/
def posted (s : CrossCore P) : List (ℕ × Message P) :=
  s.returned.filterMap fun r => if r.2.2 then some (r.1, r.2.1) else none

def setPosting (s : CrossCore P) (core : ℕ) (p : Posting P) : List (ℕ × Posting P) :=
  (core, p) :: s.posting.filter (·.1 ≠ core)

def postMailbox (s : CrossCore P) (core : ℕ) : Posting P → CrossCore P
  | .loaded m write =>
    if SpscQueue.full write s.ring.readIdx then { s with
      posting := s.posting.filter (·.1 ≠ core)
      returned := s.returned ++ [(core, m, false)] }
    else { s with posting := s.setPosting core (.room m write) }
  | .room m write => { s with
      ring := s.ring.put write m
      posting := s.setPosting core (.stored m write) }
  | .stored m write => { s with
      ring := s.ring.publish write
      posting := s.posting.filter (·.1 ≠ core)
      returned := s.returned ++ [(core, m, true)] }

def dequeue (s : CrossCore P) (d : Draining P) : Option (CrossCore P) :=
  match d.next with
  | .look =>
    let next := if s.ring.readIdx < s.ring.writeIdx then .take s.ring.readIdx else .done
    some { s with draining := some { d with next } }
  | .take read =>
    (s.ring.buffer (SpscQueue.slot read)).map fun m => { s with
      ring := s.ring.moveOut read
      draining := some { d with next := .release read m } }
  | .release read m =>
    some { s with
      ring := s.ring.release read
      draining := some { d with next := .look, items := d.items ++ [m] } }
  | .done => none

/-- The drained messages are put into the mailboxes, and a dispatch begins. -/
def deliver (d : Dispatcher P) (items : List (Message P)) (now : ℕ → TimePoint) :
    Option (Dispatcher P) :=
  runWith Dispatcher.step (fun _ _ => True) d
    (items.map (fun m => .call (now 0) (.send m)) ++ [.dispatchAll now])

def step (s : CrossCore P) : CrossEvent P → Option (CrossCore P)
  | .owner e =>
    if s.draining.isNone then
      (s.dispatcher.step e).map fun dispatcher => { s with dispatcher }
    else none
  | .send core m =>
    match s.posting.lookup core with
    | some _ => none
    | none =>
      if s.dispatcher.shuttingDown ∨ ¬s.dispatcher.system.accepts m then some s
      else some { s with
        posting := s.setPosting core (.loaded m s.ring.writeIdx)
        accepted := s.accepted ++ [(core, m)] }
  | .post core => (s.posting.lookup core).map (s.postMailbox core)
  | .drain =>
    if s.draining.isNone ∧ s.dispatcher.calling then
      some { s with draining := some { begun := s.posted.length } }
    else none
  | .dequeue => s.draining.bind s.dequeue
  | .dispatch now =>
    match s.draining with
    | some { next := .done, items, .. } =>
      (deliver s.dispatcher items now).map fun dispatcher => { s with
        dispatcher
        draining := none
        delivered := s.delivered ++ items.filter s.dispatcher.system.accepts }
    | _ => none

/-- A core sends when no other is posting, and there are indices left. -/
def alone (s : CrossCore P) : CrossEvent P → Bool
  | .send _ _ => s.posting.isEmpty ∧ s.accepted.length + 1 < 2 ^ 64
  | _ => true

/-- The systems reached with one producer at a time. -/
abbrev CrossReaches : CrossCore P → Prop :=
  Reaches (fun s => s = {}) step fun s e => s.alone e

/-- The messages that were taken out of the ring. -/
def taken (s : CrossCore P) : List (Message P) :=
  s.delivered ++ (s.draining.map Draining.taken).getD []

variable {s s' : CrossCore P} {core : ℕ} {m : Message P}

/-! ## Steps -/

theorem posting_of_lookup {p : Posting P} (hsingle : s.posting.length ≤ 1)
    (hlookup : s.posting.lookup core = some p) : s.posting = [(core, p)] := by
  match hposting : s.posting with
  | [] =>
    rw [hposting] at hlookup
    cases hlookup
  | [(c, p')] =>
    rw [hposting, List.lookup_cons] at hlookup
    split at hlookup
    · rename_i hc
      rw [Option.some.inj hlookup, beq_iff_eq.mp hc]
    · cases hlookup
  | _ :: _ :: _ =>
    rw [hposting] at hsingle
    simp at hsingle

theorem owner_cases {e : DispatchEvent P} (hstep : s.step (.owner e) = some s') :
    s.draining = none ∧ ∃ d, s.dispatcher.step e = some d ∧ s' = { s with dispatcher := d } := by
  simp only [step] at hstep
  split_ifs at hstep with hidle
  obtain ⟨d, hd, rfl⟩ := Option.map_eq_some_iff.mp hstep
  exact ⟨Option.isNone_iff_eq_none.mp hidle, d, hd, rfl⟩

theorem drain_cases (hstep : s.step .drain = some s') : s.draining = none ∧
    s.dispatcher.calling ∧ s' = { s with draining := some { begun := s.posted.length } } := by
  simp only [step] at hstep
  split_ifs at hstep with hidle
  exact ⟨Option.isNone_iff_eq_none.mp hidle.1, hidle.2, (Option.some.inj hstep).symm⟩

theorem dispatch_cases {now : ℕ → TimePoint} (hstep : s.step (.dispatch now) = some s') :
    ∃ items begun d, s.draining = some { next := .done, items, begun } ∧
      deliver s.dispatcher items now = some d ∧ s' = { s with
        dispatcher := d
        draining := none
        delivered := s.delivered ++ items.filter s.dispatcher.system.accepts } := by
  simp only [step] at hstep
  split at hstep
  · rename_i items begun hdraining
    obtain ⟨d, hdeliver, rfl⟩ := Option.map_eq_some_iff.mp hstep
    exact ⟨items, begun, d, hdraining, hdeliver, rfl⟩
  · cases hstep

theorem send_cases (hsingle : s.posting = []) (hstep : s.step (.send core m) = some s') :
    s' = s ∨ s.dispatcher.system.accepts m ∧ s' = { s with
      posting := [(core, .loaded m s.ring.writeIdx)]
      accepted := s.accepted ++ [(core, m)] } := by
  simp only [step, hsingle, List.lookup_nil, setPosting, List.filter_nil] at hstep
  split_ifs at hstep with hcheck
  · exact .inl (Option.some.inj hstep).symm
  · rw [not_or, not_not] at hcheck
    refine .inr ⟨hcheck.2, ?_⟩
    rw [← Option.some.inj hstep]

theorem post_cases (hsingle : s.posting.length ≤ 1) (hstep : s.step (.post core) = some s') :
    ∃ m w, (s.posting = [(core, .loaded m w)] ∧ SpscQueue.full w s.ring.readIdx ∧
        s' = { s with posting := [], returned := s.returned ++ [(core, m, false)] }) ∨
      (s.posting = [(core, .loaded m w)] ∧ ¬SpscQueue.full w s.ring.readIdx ∧
        s' = { s with posting := [(core, .room m w)] }) ∨
      (s.posting = [(core, .room m w)] ∧
        s' = { s with ring := s.ring.put w m, posting := [(core, .stored m w)] }) ∨
      (s.posting = [(core, .stored m w)] ∧ s' = { s with
        ring := s.ring.publish w
        posting := []
        returned := s.returned ++ [(core, m, true)] }) := by
  simp only [step] at hstep
  obtain ⟨p, hlookup, rfl⟩ := Option.map_eq_some_iff.mp hstep
  have hposting := posting_of_lookup hsingle hlookup
  have hothers : s.posting.filter (·.1 ≠ core) = [] := by simp [hposting]
  cases p with
  | loaded m w =>
    refine ⟨m, w, ?_⟩
    unfold postMailbox setPosting
    rw [hothers]
    by_cases hfull : SpscQueue.full w s.ring.readIdx
    · exact .inl ⟨hposting, hfull, if_pos hfull⟩
    · exact .inr (.inl ⟨hposting, hfull, if_neg hfull⟩)
  | room m w =>
    refine ⟨m, w, .inr (.inr (.inl ⟨hposting, ?_⟩))⟩
    unfold postMailbox setPosting
    rw [hothers]
  | stored m w =>
    refine ⟨m, w, .inr (.inr (.inr ⟨hposting, ?_⟩))⟩
    unfold postMailbox
    rw [hothers]

/-- A step of the loop, by what it finds. -/
theorem dequeue_cases (hstep : s.step .dequeue = some s') : ∃ items begun,
    (s.draining = some { next := .look, items, begun } ∧ s.ring.readIdx < s.ring.writeIdx ∧
      s' = { s with draining := some { next := .take s.ring.readIdx, items, begun } }) ∨
    (s.draining = some { next := .look, items, begun } ∧ ¬s.ring.readIdx < s.ring.writeIdx ∧
      s' = { s with draining := some { next := .done, items, begun } }) ∨
    (∃ read m, s.draining = some { next := .take read, items, begun } ∧
      s.ring.buffer (SpscQueue.slot read) = some m ∧ s' = { s with
        ring := s.ring.moveOut read
        draining := some { next := .release read m, items, begun } }) ∨
    (∃ read m, s.draining = some { next := .release read m, items, begun } ∧ s' = { s with
      ring := s.ring.release read
      draining := some { next := .look, items := items ++ [m], begun } }) := by
  simp only [step] at hstep
  obtain ⟨⟨next, items, begun⟩, hdraining, hstep⟩ := Option.bind_eq_some_iff.mp hstep
  refine ⟨items, begun, ?_⟩
  cases next with
  | look =>
    obtain rfl := Option.some.inj hstep
    by_cases hlt : s.ring.readIdx < s.ring.writeIdx
    · exact .inl ⟨hdraining, hlt, by rw [if_pos hlt]⟩
    · exact .inr (.inl ⟨hdraining, hlt, by rw [if_neg hlt]⟩)
  | take read =>
    obtain ⟨m, hitem, rfl⟩ := Option.map_eq_some_iff.mp hstep
    exact .inr (.inr (.inl ⟨read, m, hdraining, hitem, rfl⟩))
  | release read m =>
    obtain rfl := Option.some.inj hstep
    exact .inr (.inr (.inr ⟨read, m, hdraining, rfl⟩))
  | done => cases hstep

theorem dequeue_eq (hstep : s.step .dequeue = some s') :
    ∃ ring draining, s' = { s with ring, draining } := by
  obtain ⟨items, begun, ⟨-, -, rfl⟩ | ⟨-, -, rfl⟩ | ⟨read, m, -, -, rfl⟩ | ⟨read, m, -, rfl⟩⟩ :=
    dequeue_cases hstep
  · exact ⟨_, _, rfl⟩
  · exact ⟨_, _, rfl⟩
  · exact ⟨_, _, rfl⟩
  · exact ⟨_, _, rfl⟩

theorem posted_refused (s : CrossCore P) (core : ℕ) (m : Message P) :
    { s with returned := s.returned ++ [(core, m, false)] }.posted = s.posted := by
  simp [posted]

theorem posted_returned (s : CrossCore P) (core : ℕ) (m : Message P) :
    { s with returned := s.returned ++ [(core, m, true)] }.posted =
    s.posted ++ [(core, m)] := by
  simp [posted]

/-! ## The sends of the other cores -/

/-- The messages were sent in the order in which their calls return. -/
structure Sends (s : CrossCore P) : Prop where
  single : s.posting.length ≤ 1
  accepted : s.accepted = s.returned.map (fun r => (r.1, r.2.1)) ++
    s.posting.map fun p => (p.1, p.2.message)
  word : s.accepted.length < 2 ^ 64

theorem Sends.posted_lt (h : s.Sends) (hposting : s.posting ≠ []) :
    s.posted.length + 1 < 2 ^ 64 := by
  have hlength := congrArg List.length h.accepted
  have hposted : s.posted.length ≤ s.returned.length := List.length_filterMap_le _ _
  have hsome := List.length_pos_iff.mpr hposting
  have hword := h.word
  rw [List.length_append, List.length_map, List.length_map] at hlength
  omega

theorem sends_step {e : CrossEvent P} (h : s.Sends) (hok : s.alone e)
    (hstep : s.step e = some s') : s'.Sends := by
  cases e with
  | owner e =>
    obtain ⟨-, d, -, rfl⟩ := owner_cases hstep
    exact ⟨h.single, h.accepted, h.word⟩
  | send core m =>
    obtain ⟨hempty, hword⟩ := of_decide_eq_true hok
    have hposting := List.isEmpty_iff.mp hempty
    rcases send_cases hposting hstep with rfl | ⟨-, rfl⟩
    · exact h
    · refine ⟨Nat.le_refl _, ?_, ?_⟩
      · have haccepted := h.accepted
        rw [hposting, List.map_nil, List.append_nil] at haccepted
        rw [haccepted]
        rfl
      · rw [List.length_append]
        exact hword
  | post core =>
    have haccepted := h.accepted
    obtain ⟨m, w, ⟨hposting, -, rfl⟩ | ⟨hposting, -, rfl⟩ | ⟨hposting, rfl⟩ | ⟨hposting, rfl⟩⟩ :=
      post_cases h.single hstep
    · refine ⟨Nat.zero_le _, ?_, h.word⟩
      rw [haccepted, hposting]
      simp [Posting.message]
    · refine ⟨Nat.le_refl _, ?_, h.word⟩
      rw [haccepted, hposting]
      rfl
    · refine ⟨Nat.le_refl _, ?_, h.word⟩
      rw [haccepted, hposting]
      rfl
    · refine ⟨Nat.zero_le _, ?_, h.word⟩
      rw [haccepted, hposting]
      simp [Posting.message]
  | drain =>
    obtain ⟨-, -, rfl⟩ := drain_cases hstep
    exact ⟨h.single, h.accepted, h.word⟩
  | dequeue =>
    obtain ⟨ring, d, rfl⟩ := dequeue_eq hstep
    exact ⟨h.single, h.accepted, h.word⟩
  | dispatch now =>
    obtain ⟨items, begun, d, -, -, rfl⟩ := dispatch_cases hstep
    exact ⟨h.single, h.accepted, h.word⟩

/-! ## The ring -/

/-- What a call of `post_mailbox` relies on between its steps. -/
def Placed (s : CrossCore P) : Posting P → Prop
  | .loaded _ write => write = s.ring.writeIdx
  | .room _ write => write = s.ring.writeIdx ∧ s.posted.length < s.ring.readIdx.toNat + 1024
  | .stored m write => write = s.ring.writeIdx ∧
      s.posted.length < s.ring.readIdx.toNat + 1024 ∧
      s.ring.buffer (s.posted.length % 1024) = some m

/-- What the drain relies on between its steps. -/
def Drains (s : CrossCore P) (begun : ℕ) : DrainStep P → Prop
  | .look => s.ring.readIdx.toNat = s.taken.length
  | .take read => read = s.ring.readIdx ∧ s.ring.readIdx.toNat = s.taken.length ∧
      s.taken.length < s.posted.length
  | .release read _ => read = s.ring.readIdx ∧ s.ring.readIdx.toNat + 1 = s.taken.length
  | .done => s.ring.readIdx.toNat = s.taken.length ∧ begun ≤ s.taken.length

/-- The ring holds what was posted and not taken, and all of it has an actor. -/
structure Linked (s : CrossCore P) : Prop where
  holds : s.ring.Holds (s.posted.map Prod.snd) s.taken.length
  taken : s.taken <+: s.posted.map Prod.snd
  placed : ∀ p ∈ s.posting, s.Placed p.2
  draining : ∀ d, s.draining = some d →
    d.begun ≤ s.posted.length ∧ s.dispatcher.calling ∧ s.Drains d.begun d.next
  idle : s.draining = none → s.ring.readIdx.toNat = s.taken.length
  targets : ∀ a ∈ s.accepted, s.dispatcher.system.accepts a.2

theorem linked_empty : Linked ({} : CrossCore P) where
  holds := SpscQueue.holds_empty
  taken := List.prefix_refl _
  placed _ hp := (List.not_mem_nil hp).elim
  draining _ hd := nomatch hd
  idle _ := rfl
  targets _ ha := (List.not_mem_nil ha).elim

theorem Linked.length_taken_le (h : s.Linked) : s.taken.length ≤ s.posted.length := by
  have hle := h.taken.length_le
  rwa [List.length_map] at hle

/-- The drain does not see the steps of the producers, only more messages. -/
theorem Drains.mono {begun : ℕ} {next : DrainStep P} (h : s.Drains begun next)
    (hread : s'.ring.readIdx = s.ring.readIdx) (htaken : s'.taken = s.taken)
    (hposted : s.posted.length ≤ s'.posted.length) : s'.Drains begun next := by
  unfold Drains at h ⊢
  rw [hread, htaken]
  cases next with
  | look => exact h
  | take read => exact ⟨h.1, h.2.1, Nat.lt_of_lt_of_le h.2.2 hposted⟩
  | release read m => exact h
  | done => exact h

/-- A producer does not see the steps of the drain, only more room. -/
theorem Placed.mono {p : Posting P} (h : s.Placed p) (hposted : s'.posted = s.posted)
    (hwrite : s'.ring.writeIdx = s.ring.writeIdx)
    (hread : s.ring.readIdx.toNat ≤ s'.ring.readIdx.toNat)
    (hbuffer : s.posted.length < s.ring.readIdx.toNat + 1024 →
      s'.ring.buffer (s.posted.length % 1024) = s.ring.buffer (s.posted.length % 1024)) :
    s'.Placed p := by
  cases p with
  | loaded m w => exact h.trans hwrite.symm
  | room m w =>
    refine ⟨h.1.trans hwrite.symm, ?_⟩
    rw [hposted]
    exact Nat.lt_of_lt_of_le h.2 (Nat.add_le_add_right hread _)
  | stored m w =>
    refine ⟨h.1.trans hwrite.symm, ?_, ?_⟩
    · rw [hposted]
      exact Nat.lt_of_lt_of_le h.2.1 (Nat.add_le_add_right hread _)
    · rw [hposted, hbuffer h.2.1]
      exact h.2.2

theorem Linked.send (h : s.Linked) (haccepts : s.dispatcher.system.accepts m) : Linked { s with
    posting := [(core, .loaded m s.ring.writeIdx)]
    accepted := s.accepted ++ [(core, m)] } where
  __ := h
  placed p hp := by
    rw [List.mem_singleton.mp hp]
    exact rfl
  targets a ha := by
    rcases List.mem_append.mp ha with hold | hnew
    · exact h.targets a hold
    · rw [List.mem_singleton.mp hnew]
      exact haccepts

/-- A step of a producer : the drain has not moved, and no message is taken back. -/
theorem Linked.producer (h : s.Linked)
    (hholds : s'.ring.Holds (s'.posted.map Prod.snd) s.taken.length)
    (hplaced : ∀ p ∈ s'.posting, s'.Placed p.2) (hposted : s.posted <+: s'.posted)
    (hread : s'.ring.readIdx = s.ring.readIdx) (hdraining : s'.draining = s.draining)
    (hdelivered : s'.delivered = s.delivered) (haccepted : s'.accepted = s.accepted)
    (hdispatcher : s'.dispatcher = s.dispatcher) : s'.Linked := by
  have htaken : s'.taken = s.taken := by rw [CrossCore.taken, hdelivered, hdraining, CrossCore.taken]
  refine ⟨htaken ▸ hholds, ?_, hplaced, fun d hd => ?_, fun hidle => ?_, ?_⟩
  · rw [htaken]
    exact h.taken.trans (hposted.map _)
  · obtain ⟨hbegun, hcalling, hdrains⟩ := h.draining d (hdraining ▸ hd)
    exact ⟨Nat.le_trans hbegun hposted.length_le, hdispatcher ▸ hcalling,
      hdrains.mono hread htaken hposted.length_le⟩
  · rw [hread, htaken]
    exact h.idle (hdraining ▸ hidle)
  · rw [haccepted, hdispatcher]
    exact h.targets

theorem Linked.post (h : s.Linked) (hsends : s.Sends) (hstep : s.step (.post core) = some s') :
    s'.Linked := by
  have hlength : (s.posted.map Prod.snd).length = s.posted.length := List.length_map ..
  obtain ⟨m, w, ⟨hposting, -, rfl⟩ | ⟨hposting, hfull, rfl⟩ | ⟨hposting, rfl⟩ | ⟨hposting, rfl⟩⟩ :=
    post_cases hsends.single hstep
  · have hposted := posted_refused s core m
    refine h.producer ?_ (fun p hp => (List.not_mem_nil hp).elim) ?_ rfl rfl rfl rfl rfl
    · exact hposted ▸ h.holds
    · exact hposted ▸ List.prefix_refl _
  · refine h.producer h.holds (fun p hp => ?_) (List.prefix_refl _) rfl rfl rfl rfl rfl
    have hplaced := h.placed (core, .loaded m w) (hposting ▸ List.mem_singleton_self _)
    obtain rfl : w = s.ring.writeIdx := hplaced
    have hroom := h.holds.room
    rw [h.holds.full_iff, hlength] at hfull
    rw [hlength] at hroom
    rw [List.mem_singleton.mp hp]
    exact ⟨rfl, Nat.lt_of_le_of_ne hroom hfull⟩
  · have hplaced := h.placed (core, .room m w) (hposting ▸ List.mem_singleton_self _)
    obtain ⟨rfl, hroom⟩ := hplaced
    refine h.producer (h.holds.put (hlength ▸ hroom) m) (fun p hp => ?_) (List.prefix_refl _)
      rfl rfl rfl rfl rfl
    rw [List.mem_singleton.mp hp]
    exact ⟨rfl, hroom, hlength ▸ SpscQueue.buffer_put h.holds m⟩
  · have hplaced := h.placed (core, .stored m w) (hposting ▸ List.mem_singleton_self _)
    obtain ⟨rfl, hroom, hbuffer⟩ := hplaced
    have hposted := posted_returned s core m
    have hword := hsends.posted_lt (hposting ▸ List.cons_ne_nil _ _)
    have hholds := h.holds.publish (hlength ▸ hroom) (hlength ▸ hword) (hlength ▸ hbuffer)
    refine h.producer ?_ (fun p hp => (List.not_mem_nil hp).elim) ?_ rfl rfl rfl rfl rfl
    · change SpscQueue.Holds _ (List.map Prod.snd (CrossCore.posted { s with
        returned := s.returned ++ [(core, m, true)] })) _
      rw [hposted, List.map_append]
      exact hholds
    · exact hposted ▸ List.prefix_append _ _

/-- A step of the drain : a producer finds the slot it has written as it was. -/
theorem Linked.consumer (h : s.Linked) {d d' : Draining P} {ring : SpscQueue (Message P)}
    (hdraining : s.draining = some d) (hbegun : d'.begun = d.begun)
    (hholds : ring.Holds (s.posted.map Prod.snd) (s.delivered ++ d'.taken).length)
    (htaken : s.delivered ++ d'.taken <+: s.posted.map Prod.snd)
    (hdrains : Drains { s with ring, draining := some d' } d.begun d'.next)
    (hwrite : ring.writeIdx = s.ring.writeIdx)
    (hread : s.ring.readIdx.toNat ≤ ring.readIdx.toNat)
    (hbuffer : s.posted.length < s.ring.readIdx.toNat + 1024 →
      ring.buffer (s.posted.length % 1024) = s.ring.buffer (s.posted.length % 1024)) :
    Linked { s with ring, draining := some d' } where
  holds := hholds
  taken := htaken
  placed p hp := (h.placed p hp).mono rfl hwrite hread hbuffer
  draining e he := by
    obtain rfl := Option.some.inj he
    obtain ⟨hle, hcalling, -⟩ := h.draining d hdraining
    rw [hbegun]
    exact ⟨hle, hcalling, hdrains⟩
  idle := nofun
  targets := h.targets

/-- The prefix of a list grows by the next element. -/
theorem append_singleton_prefix {α : Type} {l l' : List α} (h : l <+: l')
    (hlt : l.length < l'.length) : l ++ [l'[l.length]] <+: l' := by
  obtain ⟨rest, rfl⟩ := h
  cases rest with
  | nil => simp at hlt
  | cons a rest => exact ⟨rest, by simp⟩

theorem Linked.dequeue (h : s.Linked) (hstep : s.step .dequeue = some s') : s'.Linked := by
  have hlength : (s.posted.map Prod.snd).length = s.posted.length := List.length_map ..
  obtain ⟨items, begun, hcases⟩ := dequeue_cases hstep
  have htaken : ∀ next, s.draining = some { next, items, begun } →
      s.taken = s.delivered ++ Draining.taken { next, items, begun } := by
    intro next hdraining
    rw [CrossCore.taken, hdraining]
    rfl
  rcases hcases with ⟨hdraining, hlt, rfl⟩ | ⟨hdraining, hlt, rfl⟩ |
    ⟨read, m, hdraining, hitem, rfl⟩ | ⟨read, m, hdraining, rfl⟩
  · obtain ⟨-, -, hread⟩ := h.draining _ hdraining
    have hrest := (h.holds.readIdx_lt_iff hread).mp hlt
    have htaken := htaken _ hdraining
    have hholds := h.holds
    have htakes := h.taken
    unfold Drains at hread
    rw [hlength] at hrest
    rw [htaken] at hread hrest hholds htakes
    exact h.consumer hdraining rfl hholds htakes ⟨rfl, hread, hrest⟩ rfl (Nat.le_refl _)
      fun _ => rfl
  · obtain ⟨hbegun, -, hread⟩ := h.draining _ hdraining
    have hall := (h.holds.readIdx_lt_iff hread).not.mp hlt
    have htaken := htaken _ hdraining
    have hholds := h.holds
    have htakes := h.taken
    unfold Drains at hread
    rw [hlength, Nat.not_lt] at hall
    rw [htaken] at hread hall hholds htakes
    exact h.consumer hdraining rfl hholds htakes ⟨hread, Nat.le_trans hbegun hall⟩ rfl
      (Nat.le_refl _) fun _ => rfl
  · obtain ⟨-, -, rfl, hread, hlt⟩ := h.draining _ hdraining
    rw [← hlength] at hlt
    have hfirst := h.holds.item hread hlt
    have hm := Option.some.inj (hitem.symm.trans hfirst)
    have hholds := h.holds.moveOut hread hlt
    have htakes : s.taken ++ [m] <+: s.posted.map Prod.snd :=
      hm ▸ append_singleton_prefix h.taken hlt
    have hgrown : s.delivered ++ (items ++ [m]) = s.taken ++ [m] := by
      rw [htaken _ hdraining, ← List.append_assoc]
      rfl
    have hone : (s.delivered ++ (items ++ [m])).length = s.taken.length + 1 := by
      rw [hgrown, List.length_append, List.length_singleton]
    refine h.consumer hdraining rfl (hone ▸ hholds) (hgrown ▸ htakes) ⟨rfl, ?_⟩ rfl
      (Nat.le_refl _) fun hroom => ?_
    · exact (congrArg (· + 1) hread).trans hone.symm
    · have hne : s.posted.length % 1024 ≠ s.taken.length % 1024 := by omega
      exact SpscQueue.buffer_moveOut_of_ne hread hne
  · obtain ⟨-, -, rfl, hread⟩ := h.draining _ hdraining
    have htaken := htaken _ hdraining
    obtain ⟨hholds, hread'⟩ := h.holds.release hread
    have htakes := h.taken
    have hle : s.ring.readIdx.toNat ≤ (s.ring.release s.ring.readIdx).readIdx.toNat := by
      rw [hread', ← hread]
      exact Nat.le_succ _
    rw [htaken] at hread' hholds htakes
    exact h.consumer hdraining rfl hholds htakes hread' rfl hle fun _ => rfl

/-! ## The owning core -/

theorem accepts_of_isSome {a b : ActorSystem P}
    (hactors : ∀ id, (a.mailbox? id).isSome → (b.mailbox? id).isSome) (h : a.accepts m) :
    b.accepts m := by
  obtain ⟨htarget, hactor⟩ := of_decide_eq_true h
  exact decide_eq_true ⟨htarget, hactors _ hactor⟩

/-- An actor has a mailbox until the shutdown. -/
theorem isSome_mailbox?_step {d d' : Dispatcher P} {e : DispatchEvent P} {id : ActorId}
    (hstep : d.step e = some d') (halive : d'.shuttingDown = false)
    (h : (d.system.mailbox? id).isSome) : (d'.system.mailbox? id).isSome := by
  cases Dispatcher.step_cases hstep with
  | callRefused | dispatchRefused | abandoned | dispatchReturns => exact h
  | call now c => exact ActorSystem.isSome_mailbox?_call now c h
  | dispatchAll now => exact (ActorSystem.isSome_mailbox?_promote now _ _).trans h
  | shutdown => cases halive
  | skip htake =>
    have hbox := (ActorSystem.takeMessage_cases htake).2
    dsimp only at hbox ⊢
    rwa [hbox]
  | enter htake =>
    obtain ⟨-, mailbox, hold, hbox⟩ := ActorSystem.takeMessage_cases htake
    dsimp only
    rw [hbox, Function.update_apply]
    split_ifs
    · rfl
    · exact h
  | returned =>
    dsimp only
    rwa [ActorSystem.mailbox?_requeue]

theorem isSome_mailbox?_delivered (system : ActorSystem P) (items : List (Message P))
    (now : ℕ → TimePoint) (id : ActorId) :
    (((items.foldl ActorSystem.send system).promoteScheduledMessages now).mailbox? id).isSome =
      (system.mailbox? id).isSome := by
  refine Eq.trans (ActorSystem.isSome_mailbox?_promote now _ _) ?_
  induction items generalizing system with
  | nil => rfl
  | cons m items ih => exact (ih _).trans (ActorSystem.isSome_mailbox?_send system m id)

theorem runWith_cons {σ α : Type} (f : σ → α → Option σ) (t : σ) (a : α) (as : List α) :
    runWith f (fun _ _ => True) t (a :: as) = (f t a).bind fun t => runWith f (fun _ _ => True) t as :=
  rfl

theorem deliver_eq {d : Dispatcher P} (halive : d.shuttingDown = false) (hcalling : d.calling)
    (items : List (Message P)) (now : ℕ → TimePoint) : deliver d items now = some { d with
      system := (items.foldl ActorSystem.send d.system).promoteScheduledMessages now
      sent := d.sent ++ items.filter d.system.accepts ++
        ((items.foldl ActorSystem.send d.system).dueNow now).filter d.system.accepts
      stack := .dispatch :: d.stack } := by
  have hnot : ¬d.shuttingDown = true := by simp [halive]
  unfold deliver
  induction items generalizing d with
  | nil =>
    simp only [List.map_nil, List.nil_append, runWith_cons, Dispatcher.step, if_pos hcalling,
      if_neg hnot, List.filter_nil, List.append_nil, List.foldl_nil]
    rfl
  | cons m items ih =>
    have haccepts : (d.system.send m).accepts = d.system.accepts :=
      funext (ActorSystem.accepts_send m)
    have hih := @ih { d with
      system := d.system.send m, sent := d.sent ++ [m].filter d.system.accepts } halive hcalling hnot
    dsimp only at hih
    rw [haccepts] at hih
    simp only [List.map_cons, List.cons_append, runWith_cons, Dispatcher.step, if_pos hcalling,
      if_neg hnot, List.foldl_cons, Option.bind_some, ActorSystem.call, Call.sends]
    rw [hih, List.append_assoc d.sent, ← List.filter_append, List.singleton_append]

theorem CrossReaches.dispatchReaches (h : CrossReaches s) :
    Dispatcher.DispatchReaches s.dispatcher := by
  refine h.invariant (P := fun s => Dispatcher.DispatchReaches s.dispatcher) ?_
    fun s e s' hd _ hstep => ?_
  · rintro s rfl
    exact .init rfl
  · cases e with
    | owner e =>
      obtain ⟨-, d, hd', rfl⟩ := owner_cases hstep
      exact hd.step trivial hd'
    | send core m =>
      simp only [step] at hstep
      split at hstep
      · cases hstep
      · split_ifs at hstep
        · exact Option.some.inj hstep ▸ hd
        · exact Option.some.inj hstep ▸ hd
    | post core =>
      obtain ⟨p, -, rfl⟩ := Option.map_eq_some_iff.mp hstep
      cases p with
      | loaded m w =>
        unfold postMailbox
        dsimp only
        split_ifs
        · exact hd
        · exact hd
      | room m w => exact hd
      | stored m w => exact hd
    | drain =>
      obtain ⟨-, -, rfl⟩ := drain_cases hstep
      exact hd
    | dequeue =>
      obtain ⟨ring, d, rfl⟩ := dequeue_eq hstep
      exact hd
    | dispatch now =>
      obtain ⟨items, begun, d, -, hdeliver, rfl⟩ := dispatch_cases hstep
      exact hd.runWith hdeliver

theorem CrossReaches.sends (h : CrossReaches s) : s.Sends := by
  refine h.invariant ?_ fun s e s' hs hok hstep => sends_step hs hok hstep
  rintro s rfl
  exact ⟨Nat.zero_le _, rfl, Nat.two_pow_pos 64⟩

/-- Everything that was posted has an actor, and so does what was taken out of the ring. -/
theorem Linked.accepts_of_mem_taken (h : s.Linked) (hsends : s.Sends) (hm : m ∈ s.taken) :
    s.dispatcher.system.accepts m := by
  obtain ⟨a, ha, rfl⟩ := List.mem_map.mp (h.taken.subset hm)
  obtain ⟨r, hr, hposted⟩ := List.mem_filterMap.mp ha
  split_ifs at hposted
  obtain rfl := Option.some.inj hposted
  refine h.targets _ ?_
  rw [hsends.accepted]
  exact List.mem_append_left _ (List.mem_map.mpr ⟨r, hr, rfl⟩)

theorem taken_of_idle (hidle : s.draining = none) : s.taken = s.delivered := by
  rw [taken, hidle]
  exact List.append_nil _

/-- What a drain took is put into mailboxes as it was taken. -/
theorem Linked.dispatch (h : s.Linked) (hsends : s.Sends)
    (halive : s.dispatcher.shuttingDown = false) {now : ℕ → TimePoint}
    (hstep : s.step (.dispatch now) = some s') : s'.dispatcher.shuttingDown = false ∧
      s'.Linked ∧ ∃ d, s.draining = some d ∧ s'.delivered = s.delivered ++ d.items ∧
        d.begun ≤ s'.delivered.length ∧
        s.dispatcher.sent ++ d.items <+: s'.dispatcher.sent := by
  obtain ⟨items, begun, d, hdraining, hdeliver, rfl⟩ := dispatch_cases hstep
  obtain ⟨-, hcalling, hread, hbegun⟩ := h.draining _ hdraining
  have htaken : s.taken = s.delivered ++ items := by rw [CrossCore.taken, hdraining]; rfl
  have hitems : items.filter s.dispatcher.system.accepts = items := by
    refine List.filter_eq_self.mpr fun m hm => h.accepts_of_mem_taken hsends ?_
    rw [htaken]
    exact List.mem_append_right _ hm
  rw [deliver_eq halive hcalling, hitems] at hdeliver
  obtain rfl := Option.some.inj hdeliver
  have hholds := h.holds
  have htakes := h.taken
  rw [htaken] at hholds htakes hread hbegun
  have hdelivered := taken_of_idle (s := { s with
    draining := none, delivered := s.delivered ++ items }) rfl
  rw [hitems]
  refine ⟨halive, ⟨?_, ?_, h.placed, nofun, fun _ => ?_, fun a ha => ?_⟩, _, hdraining, rfl,
    hbegun, ?_⟩
  · exact hdelivered ▸ hholds
  · exact hdelivered ▸ htakes
  · exact hread.trans (congrArg List.length hdelivered.symm)
  · refine accepts_of_isSome (fun id hid => ?_) (h.targets a ha)
    dsimp only
    rw [isSome_mailbox?_delivered]
    exact hid
  · exact List.prefix_append _ _

/-! ## Every message that is posted is delivered once -/

theorem Linked.owner (h : s.Linked) {d : Dispatcher P} {e : DispatchEvent P}
    (hidle : s.draining = none) (hstep : s.dispatcher.step e = some d)
    (halive : d.shuttingDown = false) : Linked { s with dispatcher := d } where
  __ := h
  draining d hd := by
    rw [hidle] at hd
    cases hd
  targets a ha :=
    accepts_of_isSome (fun _ => isSome_mailbox?_step hstep halive) (h.targets a ha)

theorem Linked.drain (h : s.Linked) (hidle : s.draining = none) (hcalling : s.dispatcher.calling) :
    Linked { s with draining := some { begun := s.posted.length } } := by
  have htaken := taken_of_idle hidle
  have hread := h.idle hidle
  have hholds := h.holds
  have htakes := h.taken
  rw [htaken] at hread hholds htakes
  have htaken' : CrossCore.taken { s with draining := some { begun := s.posted.length } } =
    s.delivered := List.append_nil _
  refine ⟨?_, ?_, h.placed, fun d hd => ?_, nofun, h.targets⟩
  · rw [htaken']
    exact hholds
  · rw [htaken']
    exact htakes
  · obtain rfl := Option.some.inj hd
    exact ⟨Nat.le_refl _, hcalling, hread.trans (congrArg List.length htaken'.symm)⟩

/-- Until the shutdown the ring is linked, and after it nothing more is delivered. -/
def Linking (s : CrossCore P) : Prop :=
  s.dispatcher.shuttingDown = false ∧ s.Linked ∨
    s.dispatcher.Stopped ∧ s.delivered <+: s.posted.map Prod.snd

theorem Linked.inOrder (h : s.Linked) : s.delivered <+: s.posted.map Prod.snd :=
  (List.prefix_append _ _).trans h.taken

theorem linked_step {e : CrossEvent P} (h : s.Linked) (hsends : s.Sends) (hok : s.alone e)
    (halive : s.dispatcher.shuttingDown = false) (hreaches : CrossReaches s)
    (hstep : s.step e = some s') : s'.Linking := by
  cases e with
  | owner e =>
    have hreaches' := CrossReaches.dispatchReaches (hreaches.step hok hstep)
    obtain ⟨hidle, d, hd, rfl⟩ := owner_cases hstep
    rcases Dispatcher.DispatchReaches.running_or_stopped hreaches' with ⟨halive', -⟩ | hstopped
    · exact .inl ⟨halive', h.owner hidle hd halive'⟩
    · exact .inr ⟨hstopped, h.inOrder⟩
  | send core m =>
    have hempty := (of_decide_eq_true hok).1
    rcases send_cases (List.isEmpty_iff.mp hempty) hstep with rfl | ⟨haccepts, rfl⟩
    · exact .inl ⟨halive, h⟩
    · exact .inl ⟨halive, h.send haccepts⟩
  | post core =>
    refine .inl ⟨?_, h.post hsends hstep⟩
    obtain ⟨m, w, ⟨-, -, rfl⟩ | ⟨-, -, rfl⟩ | ⟨-, rfl⟩ | ⟨-, rfl⟩⟩ := post_cases hsends.single hstep
    all_goals exact halive
  | drain =>
    obtain ⟨hidle, hcalling, rfl⟩ := drain_cases hstep
    exact .inl ⟨halive, h.drain hidle hcalling⟩
  | dequeue =>
    refine .inl ⟨?_, h.dequeue hstep⟩
    obtain ⟨ring, d, rfl⟩ := dequeue_eq hstep
    exact halive
  | dispatch now =>
    obtain ⟨halive', h', -⟩ := h.dispatch hsends halive hstep
    exact .inl ⟨halive', h'⟩

theorem stopped_step {e : CrossEvent P} (h : s.dispatcher.Stopped)
    (htakes : s.delivered <+: s.posted.map Prod.snd) (hsends : s.Sends) (hok : s.alone e)
    (hstep : s.step e = some s') : s'.Linking := by
  cases e with
  | owner e =>
    obtain ⟨-, d, hd, rfl⟩ := owner_cases hstep
    exact .inr ⟨Dispatcher.stopped_step h hd, htakes⟩
  | send core m =>
    have hempty := (of_decide_eq_true hok).1
    rcases send_cases (List.isEmpty_iff.mp hempty) hstep with rfl | ⟨-, rfl⟩
    · exact .inr ⟨h, htakes⟩
    · exact .inr ⟨h, htakes⟩
  | post core =>
    obtain ⟨m, w, ⟨-, -, rfl⟩ | ⟨-, -, rfl⟩ | ⟨-, rfl⟩ | ⟨-, rfl⟩⟩ := post_cases hsends.single hstep
    · exact .inr ⟨h, posted_refused s core m ▸ htakes⟩
    · exact .inr ⟨h, htakes⟩
    · exact .inr ⟨h, htakes⟩
    · have hposted := posted_returned s core m
      refine .inr ⟨h, htakes.trans ?_⟩
      change _ <+: List.map Prod.snd (CrossCore.posted { s with
        returned := s.returned ++ [(core, m, true)] })
      exact hposted ▸ (List.prefix_append _ _).map _
  | drain =>
    obtain ⟨-, -, rfl⟩ := drain_cases hstep
    exact .inr ⟨h, htakes⟩
  | dequeue =>
    obtain ⟨ring, d, rfl⟩ := dequeue_eq hstep
    exact .inr ⟨h, htakes⟩
  | dispatch now =>
    obtain ⟨items, begun, d, -, hdeliver, rfl⟩ := dispatch_cases hstep
    have hnone : items.filter s.dispatcher.system.accepts = [] := by
      refine List.filter_eq_nil_iff.mpr fun m _ haccepts => ?_
      have hactor := (of_decide_eq_true haccepts).2
      rw [ActorSystem.mailbox?, h.actors] at hactor
      cases hactor
    rw [hnone, List.append_nil]
    refine .inr ⟨?_, htakes⟩
    have hreaches : Reaches (· = s.dispatcher) Dispatcher.step (fun _ _ => True) d :=
      Reaches.runWith (.init rfl) hdeliver
    exact hreaches.invariant (P := Dispatcher.Stopped) (fun d hd => hd ▸ h)
      fun d e d' hd _ hstep => Dispatcher.stopped_step hd hstep

theorem CrossReaches.linking (h : CrossReaches s) : s.Linking := by
  induction h with
  | init h0 =>
    obtain rfl := h0
    exact .inl ⟨rfl, linked_empty⟩
  | step hreaches hok hstep ih =>
    have hsends := CrossReaches.sends hreaches
    rcases ih with ⟨halive, h⟩ | ⟨h, htakes⟩
    · exact linked_step h hsends hok halive hreaches hstep
    · exact stopped_step h htakes hsends hok hstep

theorem CrossReaches.linked (h : CrossReaches s) (halive : s.dispatcher.shuttingDown = false) :
    s.Linked := by
  rcases h.linking with ⟨-, hlinked⟩ | ⟨hstopped, -⟩
  · exact hlinked
  · rw [hstopped.shuttingDown] at halive
    cases halive

/-- What the owning core leads to by draining. -/
abbrev DrainReaches (s : CrossCore P) : CrossCore P → Prop :=
  Reaches (· = s) step fun _ e => e.drains

theorem CrossReaches.drainReaches (h : CrossReaches s) (hdrain : DrainReaches s s') :
    CrossReaches s' := by
  refine hdrain.invariant (P := CrossReaches) (fun t ht => ht ▸ h) fun t e t' ht hok hstep => ?_
  refine ht.step ?_ hstep
  cases e with
  | drain => rfl
  | dequeue => rfl
  | dispatch now => rfl
  | owner e => cases hok
  | send core m => cases hok
  | post core => cases hok

/-- A turn of the loop takes the next message. -/
theorem Linked.takes (h : s.Linked) {t : CrossCore P} {items : List (Message P)} {begun : ℕ}
    (hdrain : DrainReaches t s) (hdraining : s.draining = some { next := .look, items, begun })
    (hlt : s.taken.length < s.posted.length) : ∃ ring m, DrainReaches t
      { s with ring, draining := some { next := .look, items := items ++ [m], begun } } := by
  obtain ⟨-, -, hread⟩ := h.draining _ hdraining
  rw [← List.length_map (f := Prod.snd)] at hlt
  have hnext := (h.holds.readIdx_lt_iff hread).mpr hlt
  obtain ⟨m, hitem⟩ : ∃ m, s.ring.buffer (SpscQueue.slot s.ring.readIdx) = some m :=
    ⟨_, h.holds.item hread hlt⟩
  have htake : DrainReaches t
      { s with draining := some { next := .take s.ring.readIdx, items, begun } } := by
    refine hdrain.step (a := .dequeue) rfl ?_
    rw [step, hdraining, Option.bind_some, CrossCore.dequeue]
    simp only [if_pos hnext]
  have hmove : DrainReaches t { s with
      ring := s.ring.moveOut s.ring.readIdx
      draining := some { next := .release s.ring.readIdx m, items, begun } } := by
    refine htake.step (a := .dequeue) rfl ?_
    rw [step, Option.bind_some, CrossCore.dequeue]
    dsimp only
    rw [hitem, Option.map_some]
  exact ⟨_, m, hmove.step (a := .dequeue) rfl rfl⟩

/-- The loop ends when every message was taken. -/
theorem CrossReaches.empties {t : CrossCore P} (ht : CrossReaches t) (n : ℕ)
    (hdrain : DrainReaches t s) (halive : s.dispatcher.shuttingDown = false)
    {items : List (Message P)} {begun : ℕ}
    (hdraining : s.draining = some { next := .look, items, begun })
    (hn : s.posted.length = s.taken.length + n) : ∃ ring items', DrainReaches t
      { s with ring, draining := some { next := .done, items := items', begun } } ∧
        s.delivered ++ items' = s.posted.map Prod.snd ∧ ring.readIdx = ring.writeIdx := by
  induction n generalizing s items with
  | zero =>
    have hlinked := (CrossReaches.drainReaches ht hdrain).linked halive
    obtain ⟨-, -, hread⟩ := hlinked.draining _ hdraining
    have hall : ¬s.taken.length < (s.posted.map Prod.snd).length := by
      rw [List.length_map]
      omega
    have hend := (hlinked.holds.readIdx_lt_iff hread).not.mpr hall
    refine ⟨s.ring, items, hdrain.step (a := .dequeue) rfl ?_, ?_, ?_⟩
    · rw [step, hdraining, Option.bind_some, CrossCore.dequeue]
      simp only [if_neg hend]
    · have htaken : s.taken = s.delivered ++ items := by rw [CrossCore.taken, hdraining]; rfl
      rw [← htaken]
      refine hlinked.taken.eq_of_length ?_
      rw [List.length_map, hn, Nat.add_zero]
    · refine UInt64.toNat_inj.mp ?_
      rw [hlinked.holds.write, List.length_map, hn]
      exact hread
  | succ n ih =>
    have hlinked := (CrossReaches.drainReaches ht hdrain).linked halive
    obtain ⟨ring, m, hnext⟩ := hlinked.takes hdrain hdraining (by omega)
    have htaken : s.taken = s.delivered ++ items := by rw [CrossCore.taken, hdraining]; rfl
    have hgrown : (s.delivered ++ (items ++ [m])).length = s.taken.length + 1 := by
      rw [htaken, ← List.append_assoc, List.length_append, List.length_singleton]
    have hrest : s.posted.length = (s.delivered ++ (items ++ [m])).length + n := by omega
    obtain ⟨ring', items', hdone, hall, hempty⟩ := ih hnext halive rfl hrest
    exact ⟨ring', items', hdone, hall, hempty⟩

/-- From a state in which it may drain, the owning core delivers everything posted. -/
theorem CrossReaches.drains (h : CrossReaches s) (halive : s.dispatcher.shuttingDown = false)
    (hidle : s.draining = none) (hcalling : s.dispatcher.calling) : ∃ s', DrainReaches s s' ∧
      s'.dispatcher.shuttingDown = false ∧ s'.draining = none ∧ s'.posting = s.posting ∧
      s'.accepted = s.accepted ∧ s'.posted = s.posted ∧
      s'.delivered = s.posted.map Prod.snd ∧ s'.ring.readIdx = s'.ring.writeIdx := by
  have hlinked := h.linked halive
  have hbegin : DrainReaches s { s with draining := some { begun := s.posted.length } } :=
    .step (a := .drain) (.init rfl) rfl
      (if_pos ⟨Option.isNone_iff_eq_none.mpr hidle, hcalling⟩)
  have htaken : CrossCore.taken { s with draining := some { begun := s.posted.length } } =
    s.delivered := List.append_nil _
  obtain ⟨n, hn⟩ := Nat.le.dest hlinked.length_taken_le
  rw [taken_of_idle hidle] at hn
  obtain ⟨ring, items, hdone, hall, hempty⟩ := h.empties n hbegin halive rfl (by
    rw [htaken]
    exact hn.symm)
  have hreached := (CrossReaches.drainReaches h hdone).linked halive
  have hitems : items.filter s.dispatcher.system.accepts = items :=
    List.filter_eq_self.mpr fun m hm => hreached.accepts_of_mem_taken
      (CrossReaches.drainReaches h hdone).sends (List.mem_append_right _ hm)
  obtain ⟨dispatcher, halive', hdeliver⟩ : ∃ dispatcher : Dispatcher P,
      dispatcher.shuttingDown = false ∧
        deliver s.dispatcher items (fun _ => 0) = some dispatcher := by
    refine ⟨_, ?_, deliver_eq halive hcalling items fun _ => 0⟩
    exact halive
  have hlast : DrainReaches s { s with
      dispatcher, ring, draining := none, delivered := s.delivered ++ items } := by
    refine hdone.step (a := .dispatch fun _ => 0) rfl ?_
    rw [step]
    dsimp only
    rw [hdeliver, Option.map_some, hitems]
  exact ⟨_, hlast, halive', rfl, rfl, rfl, rfl, hall, hempty⟩

/-- What the ring promises for a message to an actor of its core. -/
structure HandsOver (s : CrossCore P) : Prop where
  /-- What was delivered was posted before, and is delivered once and in that order. -/
  inOrder : s.delivered <+: s.posted.map Prod.snd
  /-- The calls return in the order in which the messages were sent. -/
  sent : s.accepted = s.returned.map (fun r => (r.1, r.2.1)) ++
    s.posting.map fun p => (p.1, p.2.message)
  /-- A message is refused when 1024 others wait in the ring. -/
  refused : s.dispatcher.shuttingDown = false → ∀ core m s', s.step (.post core) = some s' →
    s'.returned = s.returned ++ [(core, m, false)] →
      s.ring.readIdx.toNat + 1024 ≤ s.posted.length
  /-- A drain puts what it took into the mailboxes, and takes what was posted before it. -/
  drained : s.dispatcher.shuttingDown = false → ∀ now s', s.step (.dispatch now) = some s' →
    ∃ d, s.draining = some d ∧ s'.delivered = s.delivered ++ d.items ∧
      d.begun ≤ s'.delivered.length ∧ s.dispatcher.sent ++ d.items <+: s'.dispatcher.sent
  /-- The core can drain all that was posted whenever it may drain. -/
  drains : s.dispatcher.shuttingDown = false → s.draining = none → s.dispatcher.calling →
    ∃ s', DrainReaches s s' ∧ s'.draining = none ∧ s'.posted = s.posted ∧
      s'.delivered = s.posted.map Prod.snd

theorem CrossReaches.handsOver (h : CrossReaches s) : s.HandsOver where
  inOrder := by
    rcases h.linking with ⟨-, hlinked⟩ | ⟨-, htakes⟩
    · exact hlinked.inOrder
    · exact htakes
  sent := h.sends.accepted
  refused halive core m s' hstep hreturned := by
    have hlinked := h.linked halive
    obtain ⟨m', w, ⟨hposting, hfull, -⟩ | ⟨-, -, rfl⟩ | ⟨-, rfl⟩ | ⟨-, rfl⟩⟩ :=
      post_cases h.sends.single hstep
    · have hplaced := hlinked.placed (core, .loaded m' w) (hposting ▸ List.mem_singleton_self _)
      obtain rfl : w = s.ring.writeIdx := hplaced
      rw [hlinked.holds.full_iff, List.length_map] at hfull
      exact Nat.le_of_eq hfull.symm
    · simp at hreturned
    · simp at hreturned
    · simp at hreturned
  drained halive now s' hstep := (h.linked halive).dispatch h.sends halive hstep |>.2.2
  drains halive hidle hcalling := by
    obtain ⟨s', hreaches, -, hidle', -, -, hposted, hall, -⟩ := h.drains halive hidle hcalling
    exact ⟨s', hreaches, hidle', hposted, hall⟩

/-- Actor 1 of the core, and a message for it. -/
def oneActor : CrossCore String :=
  { dispatcher := { system := ({} : ActorSystem String).createActor } }

def text : Message String := ⟨1, "text"⟩

/-- Core `core` sends actor 1 a text. -/
def posts (core : ℕ) (text : String) : List (CrossEvent String) :=
  [.send core ⟨1, text⟩, .post core, .post core, .post core]

theorem reaches_oneActor : CrossReaches oneActor :=
  .step (a := .owner (.call 0 .createActor)) (.init rfl) rfl rfl

/-- Two texts of one core, with one of another between them. -/
theorem handsOver_text : ∃ s : CrossCore String,
    s.delivered.map Message.payload = ["a", "b", "c"] ∧ s.HandsOver := by
  obtain ⟨s, hs, hdelivered⟩ : ∃ s : CrossCore String, CrossReaches s ∧
      s.delivered.map Message.payload = ["a", "b", "c"] :=
    reaches_oneActor.exists_runWith (.drain :: posts 2 "a" ++ posts 3 "b" ++ posts 2 "c" ++
      List.replicate 10 .dequeue ++ [.dispatch fun _ => 0]) (by decide +kernel)
  exact ⟨s, hdelivered, hs.handsOver⟩

/-! ## A burst -/

theorem step_post {p : Posting P} (hposting : s.posting = [(core, p)]) :
    s.step (.post core) = some (s.postMailbox core p) := by
  rw [step, hposting, List.lookup_cons, beq_self_eq_true]
  rfl

/-- A message is sent from core 2, when no other core is posting. -/
theorem CrossReaches.sends_one (h : CrossReaches s) (halive : s.dispatcher.shuttingDown = false)
    (hposting : s.posting = []) (hword : s.accepted.length + 1 < 2 ^ 64)
    (haccepts : s.dispatcher.system.accepts m) : CrossReaches { s with
      posting := [(2, .loaded m s.ring.writeIdx)]
      accepted := s.accepted ++ [(2, m)] } := by
  refine h.step (a := .send 2 m) (decide_eq_true ⟨List.isEmpty_iff.mpr hposting, hword⟩) ?_
  have hcheck : ¬(s.dispatcher.shuttingDown = true ∨ ¬s.dispatcher.system.accepts m = true) := by
    simp [halive, haccepts]
  simp only [step, hposting, List.lookup_nil, setPosting, List.filter_nil, if_neg hcheck]

/-- It is posted if there is room. -/
theorem CrossReaches.posts_one (h : CrossReaches s) {w : UInt64}
    (hposting : s.posting = [(2, .loaded m w)]) (hroom : ¬SpscQueue.full w s.ring.readIdx) :
    CrossReaches { s with
      ring := (s.ring.put w m).publish w
      posting := []
      returned := s.returned ++ [(2, m, true)] } := by
  have hothers : s.posting.filter (·.1 ≠ 2) = [] := by simp [hposting]
  have hfound : CrossReaches { s with posting := [(2, .room m w)] } := by
    refine h.step (a := .post 2) rfl ((step_post hposting).trans ?_)
    rw [postMailbox, if_neg hroom, setPosting, hothers]
  have hstored : CrossReaches { s with
      ring := s.ring.put w m, posting := [(2, .stored m w)] } := by
    refine hfound.step (a := .post 2) rfl ((step_post rfl).trans ?_)
    rfl
  refine hstored.step (a := .post 2) rfl ((step_post rfl).trans ?_)
  rfl

/-- It is dropped if the ring is full. -/
theorem CrossReaches.drops_one (h : CrossReaches s) {w : UInt64}
    (hposting : s.posting = [(2, .loaded m w)]) (hfull : SpscQueue.full w s.ring.readIdx) :
    CrossReaches { s with
      posting := []
      returned := s.returned ++ [(2, m, false)] } := by
  have hothers : s.posting.filter (·.1 ≠ 2) = [] := by simp [hposting]
  refine h.step (a := .post 2) rfl ((step_post hposting).trans ?_)
  rw [postMailbox, if_pos hfull, hothers]

/-- The state after a burst that was posted. -/
def burst (n : ℕ) (ring : SpscQueue (Message String)) : CrossCore String :=
  { oneActor with
    ring
    accepted := List.replicate n (2, text)
    returned := List.replicate n (2, text, true) }

theorem posted_burst (n : ℕ) (ring : SpscQueue (Message String)) :
    (burst n ring).posted = List.replicate n (2, text) := by
  simp [CrossCore.posted, burst]

theorem full_burst {n : ℕ} {ring : SpscQueue (Message String)} (h : CrossReaches (burst n ring))
    (hread : ring.readIdx = 0) : SpscQueue.full ring.writeIdx ring.readIdx ↔ n = 1024 := by
  have hfull := (h.linked rfl).holds.full_iff
  rw [posted_burst, List.length_map, List.length_replicate] at hfull
  refine hfull.trans ?_
  change n = ring.readIdx.toNat + 1024 ↔ n = 1024
  rw [hread]
  rfl

/-- As long as there is room the messages of a burst are posted. -/
theorem reaches_burst (n : ℕ) (hn : n ≤ 1024) : ∃ ring : SpscQueue (Message String),
    ring.readIdx = 0 ∧ CrossReaches (burst n ring) := by
  induction n with
  | zero => exact ⟨{}, rfl, reaches_oneActor⟩
  | succ n ih =>
    obtain ⟨ring, hread, hreaches⟩ := ih (Nat.le_of_succ_le hn)
    have hsent := hreaches.sends_one (m := text) rfl rfl (by
      change (List.replicate n (2, text)).length + 1 < 2 ^ 64
      rw [List.length_replicate]
      omega) rfl
    have hposted := hsent.posts_one rfl ((full_burst hreaches hread).not.mpr (by omega))
    refine ⟨(ring.put ring.writeIdx text).publish ring.writeIdx, hread, ?_⟩
    unfold burst at hposted ⊢
    rw [List.replicate_succ', List.replicate_succ']
    exact hposted

/-- No send and no drain is under way, and the ring is empty. -/
def Drained (s : CrossCore P) : Prop :=
  s.dispatcher.shuttingDown = false ∧ s.posting = [] ∧ s.draining = none ∧
    s.ring.readIdx = s.ring.writeIdx

/-- One message more is dropped when the ring is full, and the core drains the others. -/
theorem drained_burst {n : ℕ} {ring : SpscQueue (Message String)}
    (h : CrossReaches (burst n ring)) (hword : n + 1 < 2 ^ 64)
    (hfull : SpscQueue.full ring.writeIdx ring.readIdx) : ∃ s : CrossCore String,
      CrossReaches s ∧ s.Drained ∧ s.delivered.length = n ∧ s.accepted.length = n + 1 := by
  have hlength : (burst n ring).accepted.length = n := List.length_replicate
  have hsent := h.sends_one (m := text) rfl rfl (by rwa [hlength]) rfl
  have hdropped := hsent.drops_one rfl hfull
  obtain ⟨s, hdrain, halive, hidle, hposting, haccepted, -, hdelivered, hempty⟩ :=
    hdropped.drains rfl rfl rfl
  refine ⟨s, hdropped.drainReaches hdrain, ⟨halive, hposting, hidle, hempty⟩, ?_, ?_⟩
  · rw [hdelivered]
    change (List.map Prod.snd (CrossCore.posted { burst n ring with
      returned := (burst n ring).returned ++ [(2, text, false)] })).length = n
    rw [posted_refused, posted_burst, List.length_map, List.length_replicate]
  · rw [haccepted]
    change ((burst n ring).accepted ++ [(2, text)]).length = n + 1
    rw [List.length_append, hlength]
    rfl

/-- Of a burst of 1025 messages from one core the last is dropped, though all were sent. -/
theorem not_delivered : ¬∀ s : CrossCore String, CrossReaches s → s.Drained →
    s.delivered.length = s.accepted.length := by
  intro h
  obtain ⟨ring, hread, hreaches⟩ := reaches_burst 1024 (Nat.le_refl _)
  obtain ⟨s, hs, hdrained, hdelivered, haccepted⟩ :=
    drained_burst hreaches (by decide) ((full_burst hreaches hread).mpr rfl)
  have hall := h s hs hdrained
  rw [hdelivered, haccepted] at hall
  exact absurd hall (by decide)

end CrossCore

end BoostGateway.Runtime
