import WalletPair.Sdk.Numbering
import WalletPair.Sdk.Wallet.Moves

/-! The books of the wallet session, for the frames it seals and for the frames it opens:
what the record and the journal say of each direction, that everything else leaves them
alone, and that a crash restores counters above every number that was used. -/

namespace WalletPair.Sdk.Wallet
open WalletPair.Lib WalletPair.Lib.Program

/-! ### What the record says -/

def Obs.sealedFrame : Obs → Option Sealed
  | .sealing frame => some frame
  | _ => none

/-- A sealed frame given to the transport, with what was durable at that moment. -/
def Obs.handedFrame : Obs → Option (Sealed × Disk Snapshot)
  | .sent _ (some frame) disk => some (frame, disk)
  | _ => none

/-- A frame that reached the continuation behind its save. -/
def Obs.delivery : Obs → Option Delivery
  | .delivered d => some d
  | _ => none

/-- The frames sealed since the record had this length, and so on. -/
def Session.sealedFrames (s : Session) (since : Nat := 0) : List Sealed := (s.trace.drop since).filterMap Obs.sealedFrame

def Session.handedFrames (s : Session) (since : Nat := 0) : List (Sealed × Disk Snapshot) :=
  (s.trace.drop since).filterMap Obs.handedFrame

def Session.deliveries (s : Session) (since : Nat := 0) : List Delivery := (s.trace.drop since).filterMap Obs.delivery

/-- The sequence number a waiting continuation holds for the frame it will seal. -/
def Task.reserves : Task → Option Nat
  | .respond _ _ _ _ _ seq => some seq
  | .event _ _ _ seq => some seq
  | _ => none

/-- The opened frame that waits for its save. -/
def Task.receipt : Task → Option Delivery
  | .request frame _ _ => some frame
  | _ => none

def Snapshot.sendMark (d : Snapshot) : Nat := d.sendSeq.getD 0

/-- The first number that a session restored from here still opens. -/
def Snapshot.recvMark (d : Snapshot) : Nat := (d.recvSeq.getD (-1) + 1).toNat

/-! ### The two directions -/

/-- The moves that count frames. -/
def counting : Direction → Kind
  | .outbound => .sending
  | .inbound => .receiving

def Task.number (task : Task) : Direction → Option Nat
  | .outbound => task.reserves
  | .inbound => task.receipt.map Delivery.seq

def Snapshot.mark (d : Snapshot) : Direction → Nat
  | .outbound => d.sendMark
  | .inbound => d.recvMark

def Snapshot.key (d : Snapshot) : Direction → Option Bytes
  | .outbound => d.sendKey
  | .inbound => d.recvKey

def Session.key (s : Session) : Direction → Option Bytes
  | .outbound => s.sendKey
  | .inbound => s.recvKey

/-- The first number not yet handed out or seen. -/
def Session.next (s : Session) : Direction → Nat
  | .outbound => s.sendSeq
  | .inbound => (s.recvSeq + 1).toNat

def Session.used (s : Session) (dir : Direction) (since : Nat := 0) : List Nat :=
  match dir with
  | .outbound => (s.sealedFrames since).map Sealed.seq
  | .inbound => (s.deliveries since).map Delivery.seq

def Session.handed (s : Session) (dir : Direction) (since : Nat := 0) : List (Nat × Disk Snapshot) :=
  match dir with
  | .outbound => (s.handedFrames since).map (fun h => (h.1.seq, h.2))
  | .inbound => []

/-- What `restore` needs to bring back a counter above zero. -/
structure Snapshot.Restorable (d : Snapshot) (dir : Direction) : Prop where
  decodes : ∀ text, nonEmpty d.remotePubKeyB64 = some text → b64urlDecode text ≠ none
  paired : d.key dir ≠ none → d.key dir.flip ≠ none
  keyed : 0 < d.mark dir → d.key dir ≠ none
  limit : d.mark dir ≤ dir.cap

def scheme (o : Origin) (dir : Direction) : Scheme Snapshot Task :=
  ⟨(Snapshot.mark · dir), fun d => o.owns d.privKey → d.Restorable dir, (Task.number · dir), dir.cap, o.ticket⟩

def Session.books (s : Session) (dir : Direction) (since : Nat := 0) : Books Snapshot Task :=
  ⟨s.options.persistence, s.privKey.isSome, (s.key dir).isSome, (s.key dir.flip).isSome, s.next dir, s.ticket,
    s.journal, s.used dir since, s.handed dir since⟩

/-- The invariant of one direction, for what happened since the pairing began. -/
structure Session.Numbered (o : Origin) (dir : Direction) (s : Session) : Prop
    extends Sdk.Numbered (scheme o dir) (s.books dir o.record) where
  began : o.record ≤ s.trace.length

variable {o : Origin} {dir : Direction} {since : Nat}

theorem Task.number_eq_none {task : Task} (other : task.kind ≠ counting dir) : task.number dir = none := by
  cases dir with
  | outbound =>
    cases task with
    | respond id answer data caches observed seq => exact absurd rfl other
    | event name data evtId seq => exact absurd rfl other
    | _ => rfl
  | inbound =>
    cases task with
    | request frame data prevRecvSeq => exact absurd rfl other
    | _ => rfl

theorem Obs.frames_eq_none {o : Obs} (other : o.kind ≠ .sending) :
    o.sealedFrame = none ∧ o.handedFrame = none := by
  cases o with
  | sealing frame => exact absurd rfl other
  | sent message frame disk =>
    cases frame with
    | none => exact ⟨rfl, rfl⟩
    | some frame => exact absurd rfl other
  | _ => exact ⟨rfl, rfl⟩

theorem Obs.delivery_eq_none {o : Obs} (other : o.kind ≠ .receiving) : o.delivery = none := by
  cases o with
  | delivered d => exact absurd rfl other
  | _ => rfl

/-- What is recorded last comes last among what was recorded since. -/
theorem filterMap_since {α : Type} {f : Obs → Option α} {s : Session} (began : since ≤ s.trace.length) (o : Obs) :
    ((s.trace ++ [o]).drop since).filterMap f = (s.trace.drop since).filterMap f ++ (f o).toList := by
  rw [List.drop_append_of_le_length began, List.filterMap_append]
  cases shown : f o <;> simp [shown]

theorem books_note {s : Session} {note : Obs} (began : since ≤ s.trace.length) (other : note.kind ≠ counting dir) :
    Session.books { s with trace := s.trace ++ [note] } dir since = s.books dir since := by
  cases dir with
  | outbound =>
    obtain ⟨sealed, handed⟩ := Obs.frames_eq_none other
    simp [Session.books, Session.key, Session.next, Session.used, Session.handed, Session.sealedFrames,
      Session.handedFrames, filterMap_since began, sealed, handed]
  | inbound =>
    simp [Session.books, Session.key, Session.next, Session.used, Session.handed, Session.deliveries,
      filterMap_since began, Obs.delivery_eq_none other]

theorem serialize_some {s : Session} {snap : Snapshot} (dir : Direction) (current : s.serialize = some snap) :
    s.privKey.isSome = true ∧ snap.mark dir = s.next dir ∧ snap.key dir = s.key dir ∧
      snap.key dir.flip = s.key dir.flip ∧ snap.remotePubKeyB64 = s.remotePubKey.map b64urlEncode ∧
      snap.channelId = s.channelId := by
  unfold Session.serialize at current
  cases key : s.privKey with
  | none => simp [key] at current
  | some privKey =>
    rw [key, Option.map_some, Option.some.injEq] at current
    subst current
    cases dir with
    | outbound => exact ⟨rfl, rfl, rfl, rfl, rfl, rfl⟩
    | inbound => exact ⟨rfl, rfl, rfl, rfl, rfl, rfl⟩

/-- A snapshot taken by a session whose keys are in order can be restored. -/
theorem serialize_restorable {s : Session} {snap : Snapshot} (current : s.serialize = some snap)
    (paired : (s.key dir).isSome → (s.key dir.flip).isSome) (keyed : 0 < s.next dir → (s.key dir).isSome)
    (limit : s.next dir ≤ dir.cap) :
    snap.Restorable dir ∧ snap.mark dir = s.next dir ∧ s.privKey.isSome = true := by
  obtain ⟨live, mark, own, other, remote, -⟩ := serialize_some dir current
  simp only [Option.isSome_iff_ne_none] at paired keyed
  refine ⟨⟨?_, by rwa [own, other], by rwa [mark, own], by rwa [mark]⟩, mark, live⟩
  intro text shown
  have encoded : ∃ bytes, text = b64urlEncode bytes := by
    cases known : s.remotePubKey with
    | none => simp [remote, known, nonEmpty] at shown
    | some bytes =>
      simp only [remote, known, Option.map_some, nonEmpty] at shown
      split_ifs at shown
      exact ⟨bytes, (Option.some.inj shown).symm⟩
  obtain ⟨bytes, rfl⟩ := encoded
  simp [b64urlDecode_encode]

/-! ### What leaves a direction alone -/

theorem Move.length_le {s t : Session} {k : Kind} (move : Move s k t) : s.trace.length ≤ t.trace.length := by
  cases move with
  | note note => simp
  | _ => exact le_rfl

theorem numbered_of_move {s t : Session} {k : Kind} (other : k ≠ counting dir) (move : Move s k t)
    (h : s.Numbered o dir) : t.Numbered o dir := by
  refine ⟨?_, h.began.trans move.length_le⟩
  cases move with
  | note note =>
    rw [books_note h.began other]
    exact h.toNumbered
  | tick u => cases dir <;> exact h.tick
  | rekey sendKey recvKey => cases dir <;> exact h.rekey
  | save task snapshot adapter configured async current =>
    obtain ⟨good, mark, live⟩ := serialize_restorable current h.paired h.keyed h.limit
    have saved := h.enqueue configured async (Task.number_eq_none other)
      fun snap (same : some snapshot = some snap) => Option.some.inj same ▸ ⟨mark, fun _ => good, live⟩
    cases dir <;> exact saved
  | put task snapshot adapter configured sync current =>
    obtain ⟨good, mark, live⟩ := serialize_restorable current h.paired h.keyed h.limit
    have saved := h.put configured sync mark (fun _ => good) live
    cases dir <;> exact saved
  | clear adapter configured async =>
    have passive : (scheme o dir).reserves .cleared = none := by cases dir <;> rfl
    have cleared := h.enqueue configured async passive fun snap (shape : none = some snap) => nomatch shape
    cases dir <;> exact cleared
  | wipe adapter configured sync => cases dir <;> exact h.wipe
  | reserve =>
    cases dir with
    | outbound => exact absurd rfl other
    | inbound => exact h.toNumbered
  | receive seq =>
    cases dir with
    | outbound => exact h.toNumbered
    | inbound => exact absurd rfl other
  | _ => cases dir <;> exact h.toNumbered

theorem numbered_of_moves {α : Type} {m : M α} {ok : Kind → Prop} (other : ¬ ok (counting dir))
    (made : Keeps (Moves ok) m) : Keeps (Preserve (Session.Numbered o dir)) m := by
  refine preserve_of_moves made fun s t k allowed move h => numbered_of_move ?_ move h
  rintro rfl
  rcases allowed with quiet | counts
  · cases dir <;> cases quiet
  · exact other counts

/-- What does not count in this direction keeps its numbering. -/
theorem numbered_kept {α : Type} {m : M α} (made : Keeps (Moves (· ≠ counting dir)) m) :
    Keeps (Preserve (Session.Numbered o dir)) m := numbered_of_moves (by simp) made

theorem numbered_plain {α : Type} {m : M α} (made : Keeps (Moves (· ≠ counting dir)) m) :
    Triple (Session.Numbered o dir) m (fun _ => Session.Numbered o dir) (Session.Numbered o dir) :=
  .preserve (numbered_kept made)

theorem ne_counting {k : Kind} (sends : k ≠ .sending) (receives : k ≠ .receiving) : k ≠ counting dir := by
  cases dir with
  | outbound => exact sends
  | inbound => exact receives

/-! ### Counting -/

/-- A number at or above the next one is handed out and announced: it may be used at once,
or when its save is durable. -/
theorem persistSnapshot_numbered {s t : Session} {n : Nat} {task : Task} (h : s.Numbered o dir)
    (counted : t.books dir o.record = { s.books dir o.record with next := n + 1 }) (trace : t.trace = s.trace)
    (keyed : (s.key dir).isSome) (above : s.next dir ≤ n) (room : n < dir.cap) (holds : task.number dir = some n) :
    Triple (fun u => u = t) (persistSnapshot task)
      (fun waits u => u.Numbered o dir ∧ (waits = false → MayUse (scheme o dir) (u.books dir o.record) n))
      (Session.Numbered o dir) := by
  refine .at_state ?_
  have began : o.record ≤ t.trace.length := trace ▸ h.began
  have ownKey : (t.key dir).isSome = true := (congrArg Books.own counted).trans keyed
  have otherKey : (t.key dir.flip).isSome = true := (congrArg Books.other counted).trans (h.paired keyed)
  have next : t.next dir = n + 1 := congrArg Books.next counted
  have adapterSame : t.options.persistence = s.options.persistence := congrArg Books.adapter counted
  have pairSame : t.privKey.isSome = s.privKey.isSome := congrArg Books.keyPair counted
  have restorable (snap : Snapshot) (current : t.serialize = some snap) :
      snap.Restorable dir ∧ snap.mark dir = n + 1 ∧ s.privKey.isSome = true := by
    obtain ⟨good, mark, live⟩ := serialize_restorable current (fun _ => otherKey) (fun _ => ownKey)
      (next ▸ room : t.next dir ≤ dir.cap)
    exact ⟨good, mark.trans next, pairSame ▸ live⟩
  rcases persistSnapshot_cases task t with
    ⟨none, run⟩ | ⟨adapter, configured, current, run⟩ |
    ⟨adapter, snap, configured, async, current, run⟩ | ⟨adapter, snap, configured, sync, current, run⟩
  · obtain ⟨numbered, may⟩ := h.counted_next (adapterSame.symm.trans none) keyed above room
    rw [← counted] at numbered may
    rw [run]
    exact ⟨⟨numbered, began⟩, fun _ => may⟩
  · have dead : s.privKey.isSome = false := by
      rw [← pairSame]
      simpa [Session.serialize] using current
    have numbered := h.reserve_dormant (Numbered.configured_ne (adapterSame.symm.trans configured)) dead keyed room
    rw [← counted] at numbered
    rw [run]
    exact ⟨numbered, began⟩
  · obtain ⟨good, mark, live⟩ := restorable snap current
    have waiting := h.reserve_enqueue (adapterSame.symm.trans configured) async live keyed above room mark
      (fun _ => good) holds
    have same : Session.books { t with
        ticket := t.ticket + 1, journal := t.journal.enqueue t.ticket (some snap) task } dir o.record =
        { t.books dir o.record with
          ticket := (t.books dir o.record).ticket + 1
          journal := (t.books dir o.record).journal.enqueue (t.books dir o.record).ticket (some snap) task } := by
      cases dir <;> rfl
    rw [run]
    refine ⟨⟨?_, began⟩, nofun⟩
    rw [same, counted]
    exact waiting
  · obtain ⟨good, mark, live⟩ := restorable snap current
    obtain ⟨numbered, may⟩ := h.reserve_put (adapterSame.symm.trans configured) sync live keyed above room mark
      fun _ => good
    have same : Session.books { t with journal := t.journal.put (some snap) } dir o.record =
        { t.books dir o.record with journal := (t.books dir o.record).journal.put (some snap) } := by cases dir <;> rfl
    rw [counted] at same
    rw [← same] at numbered may
    rw [run]
    exact ⟨⟨numbered, began⟩, fun _ => may⟩

/-! ### Crashes -/

/-- Restoring into a new object gives the keys and the counters of the snapshot. -/
theorem restoreSafely_numbered (C : Crypto) {u : Session} {d : Snapshot} (fresh : u.Numbered o dir) (zero : u.next dir = 0)
    (good : d.Restorable dir) (revived : Sdk.Numbered (scheme o dir) { u.books dir o.record with
      keyPair := true, own := (d.key dir).isSome, other := (d.key dir.flip).isSome, next := d.mark dir }) :
    (after (restoreSafely C d) u).Numbered o dir := by
  have keysOnly {t : Session} (same : t.books dir o.record = { u.books dir o.record with
      keyPair := true, own := (d.key dir).isSome, other := (d.key dir.flip).isSome }) (began : o.record ≤ t.trace.length)
      (missing : d.sendKey = none ∨ d.recvKey = none) : t.Numbered o dir := by
    have unkeyed : d.key dir = none := by
      by_contra keyed
      have other := good.paired keyed
      cases dir with
      | outbound => exact missing.elim keyed other
      | inbound => exact missing.elim other keyed
    have unused : d.mark dir = 0 := by
      by_contra above
      exact good.keyed (Nat.pos_of_ne_zero above) unkeyed
    have next : (u.books dir o.record).next = d.mark dir := zero.trans unused.symm
    refine ⟨?_, began⟩
    rw [same]
    rw [← next] at revived
    exact revived
  have body : Triple (fun t => t = u) (restore C d) (fun _ => Session.Numbered o dir) (Session.Numbered o dir) := by
    refine .ite (fun _ => .pure fun _ same => same ▸ fresh) fun _ => ?_
    refine .bind (Q := fun _ t => t.books dir o.record = { u.books dir o.record with keyPair := true } ∧
      o.record ≤ t.trace.length) (.modify fun t same => ?_) fun _ => ?_
    · rw [same]
      exact ⟨by cases dir <;> rfl, fresh.began⟩
    have remote : Triple (fun t : Session => t.books dir o.record = { u.books dir o.record with keyPair := true } ∧
        o.record ≤ t.trace.length) (restoreRemote d.remotePubKeyB64)
        (fun _ t => t.books dir o.record = { u.books dir o.record with keyPair := true } ∧ o.record ≤ t.trace.length)
        (Session.Numbered o dir) := by
      unfold restoreRemote
      cases shown : nonEmpty d.remotePubKeyB64 with
      | none => exact .modify fun _ same => ⟨by cases dir <;> exact same.1, same.2⟩
      | some text =>
        dsimp only
        cases decoded : b64urlDecode text with
        | none => exact absurd decoded (good.decodes text shown)
        | some bytes => exact .modify fun _ same => ⟨by cases dir <;> exact same.1, same.2⟩
    refine .bind remote fun _ => .bind (Q := fun _ t => t.books dir o.record = { u.books dir o.record with
      keyPair := true, own := (d.key dir).isSome, other := (d.key dir.flip).isSome } ∧ o.record ≤ t.trace.length)
      (.modify fun t held => ?_) fun _ => ?_
    · obtain ⟨same, began⟩ := held
      refine ⟨?_, began⟩
      simp only [Session.books, Books.mk.injEq] at same ⊢
      cases dir <;> exact ⟨same.1, same.2.1, rfl, rfl, same.2.2.2.2⟩
    refine .ite (fun missing => .pure fun _ same => keysOnly same.1 same.2 missing) fun _ => ?_
    have opened : Kind.phase .connected ≠ counting dir := ne_counting (by simp) (by simp)
    have dated : Keeps (Preserve (Session.Numbered o dir))
        (modify fun s => { s with dappName := d.dappName, sessionStartTime := d.sessionStartTime } : M Unit) :=
      fun t held => ⟨by cases dir <;> exact held.toNumbered, held.began⟩
    refine .bind (Q := fun _ t => t.Numbered o dir) (.modify fun t held => ?_) fun _ => .preserve
      (.bind .get fun _ => .bind (.runExcept _) fun _ => .ite (.bind dated
        fun _ => .bind (numbered_kept (setPhase_moves _ (Or.inr opened))) fun _ => .pure _) (.pure _))
    obtain ⟨same, began⟩ := held
    have all : Session.books { t with
        sendSeq := d.sendSeq.getD 0, recvSeq := d.recvSeq.getD (-1) } dir o.record = { u.books dir o.record with
        keyPair := true, own := (d.key dir).isSome, other := (d.key dir.flip).isSome, next := d.mark dir } := by
      simp only [Session.books, Books.mk.injEq] at same ⊢
      cases dir <;> exact ⟨same.1, same.2.1, same.2.2.1, same.2.2.2.1, rfl, same.2.2.2.2.2⟩
    rw [← all] at revived
    exact ⟨by cases dir <;> exact revived, began⟩
  exact Triple.final (.tryCatch body fun _ => .pure fun _ held => held) rfl

/-- A new process that restores what storage holds goes on above every used number. -/
theorem restart_numbered (C : Crypto) {s : Session} (h : s.Numbered o dir) (saved : s.options.persistence ≠ none)
    (own : ∀ snap, s.journal.disk.contents = some snap → o.owns snap.privKey) : (after (restart C) s).Numbered o dir := by
  have fresh : Session.Numbered o dir s.renewed := by
    have crashed := Numbered.crashed h.toNumbered saved
    exact ⟨by cases dir <;> exact crashed, h.began⟩
  cases contents : s.journal.disk.contents with
  | none =>
    rw [restart_of_empty C contents]
    exact fresh
  | some snap =>
    have latest := Disk.latest_of_contents contents
    have good := h.latest snap latest (own snap contents)
    rw [restart_of_stored C contents]
    refine restoreSafely_numbered C fresh (by cases dir <;> rfl) good ?_
    have revived := Numbered.restored h.toNumbered saved latest good.limit
      (fun on => Option.isSome_iff_ne_none.mpr (good.paired (Option.isSome_iff_ne_none.mp on)))
      (fun above => Option.isSome_iff_ne_none.mpr (good.keyed above))
    cases dir <;> exact revived

/-! ### Steps inside one pairing -/

/-- The steps of a session inside one pairing: no new pairing, no foreign snapshot, no
wiping of the keys; saves succeed, and become durable and settle in call order. -/
def InPairing (s : Session) (l : Inputs × Label) : Prop :=
  match l.2 with
  | .prepareJoin _ _ => False
  | .restore _ => False
  | .destroy => False
  | .settle ticket ok => ok = true ∧ s.journal.NextToSettle ticket
  | .flush ticket => s.journal.NextToFlush ticket
  | _ => True

instance (s : Session) (l : Inputs × Label) : Decidable (InPairing s l) := by
  obtain ⟨inputs, label⟩ := l
  unfold InPairing
  apply @Label.casesOn _ label <;> intros <;> infer_instance

/-- A crash finds storage empty, or a snapshot of the pairing with this private key. -/
def RestoresOwn (privateKey : Bytes) (s : Session) (l : Inputs × Label) : Prop :=
  match l.2 with
  | .crash => ∀ snap ∈ s.journal.disk.contents, snap.privKey = privateKey
  | _ => True

instance (privateKey : Bytes) (s : Session) (l : Inputs × Label) : Decidable (RestoresOwn privateKey s l) := by
  obtain ⟨inputs, label⟩ := l
  unfold RestoresOwn
  apply @Label.casesOn _ label <;> intros <;> infer_instance

/-- The calls of the adapter stand in the order of their tickets, and a synchronous adapter
leaves none waiting. -/
structure Session.Queued (s : Session) : Prop where
  tickets : s.journal.Ticketed s.ticket
  idle : (∀ adapter, s.options.persistence = some adapter → adapter.async = false) → s.journal.calls = []

theorem queued_rules : StepRules Session.Queued where
  move := fun {s t k} move h => by
    cases move with
    | tick u => exact ⟨h.tickets.tick, h.idle⟩
    | save task snapshot adapter configured async current =>
      exact ⟨h.tickets.enqueue _ _, Numbered.not_idle (b := s.books .outbound) configured async⟩
    | clear adapter configured async =>
      exact ⟨h.tickets.enqueue _ _, Numbered.not_idle (b := s.books .outbound) configured async⟩
    | _ => exact ⟨⟨h.tickets.ascending, h.tickets.below⟩, h.idle⟩
  field := fun same h => by
    refine ⟨?_, fun sync => ?_⟩
    · rw [same.journal, same.ticket]
      exact h.tickets
    · rw [same.journal]
      exact h.idle (same.options ▸ sync)
  removes := fun ticket h => ⟨h.tickets.remove ticket, fun sync => by simp [Journal.remove, h.idle sync]⟩
  flushes := fun ticket h => ⟨h.tickets.flush ticket, fun sync => by simp [Journal.flush, Journal.find, h.idle sync]⟩
  crashes := fun _ => ⟨.idle rfl _, fun _ => rfl⟩

/-- Whatever happened to the object before. -/
theorem run_queued (C : Crypto) (options : Options) (history : List (Inputs × Label)) :
    (Run.run (step C) (.new options) history).Queued :=
  queued_rules.run C history ⟨.idle rfl _, fun _ => rfl⟩

/-- A new pairing starts with nothing sealed and nothing opened, whatever the object did
before, as long as no number of an earlier pairing waits. A key that does not decode, which
no parsed URI has, would leave the keys of the earlier pairing in place. -/
theorem prepareJoin_numbered (C : Crypto) {s : Session} (record : o.record = s.trace.length)
    (ticket : o.ticket = s.ticket) (queued : s.Queued) (waits : s.journal.held (Task.number · dir) = [])
    (stored : s.journal.Every fun d => o.owns d.privKey → d.Restorable dir) (inputs : Inputs) {parsed : PairingParams}
    (decodes : b64urlDecode parsed.pubkey ≠ none) (privateKey : Bytes) :
    (step C s (inputs, .prepareJoin parsed privateKey)).Numbered o dir := by
  have empty {α : Type} (f : Obs → Option α) : (s.trace.drop o.record).filterMap f = [] := by
    rw [record, List.drop_length]
    rfl
  have begins (t : Session) (books : t.books dir o.record = { s.books dir o.record with
      keyPair := true, own := false, other := false, next := 0 }) (trace : t.trace = s.trace) : t.Numbered o dir := by
    refine ⟨?_, by rw [trace, record]⟩
    rw [books]
    refine Numbered.opened queued.tickets ticket queued.idle stored waits ?_ ?_ rfl rfl
    · cases dir <;> exact congrArg (List.map _) (empty _)
    · cases dir with
      | outbound => exact congrArg (List.map _) (empty _)
      | inbound => rfl
  obtain ⟨remote, decoded⟩ := Option.ne_none_iff_exists'.mp decodes
  have run : orThrow "invalid base64" (b64urlDecode parsed.pubkey) = .ok remote := by rw [decoded]; rfl
  let t : Session := { s with inputs := inputs, intentionalClose := false, staleBelow := s.ticket, channelId := parsed.ch }
  have keys : Kind.peer ≠ counting dir := ne_counting (by simp) (by simp)
  have offer : Kind.offer ≠ counting dir := ne_counting (by simp) (by simp)
  have body : Triple (fun u => u = { s with inputs := inputs }) (prepareJoin C parsed privateKey)
      (fun _ => Session.Numbered o dir) (Session.Numbered o dir) := by
    unfold prepareJoin
    rw [run]
    refine .bind (Q := fun _ u => u = t) (.modify fun u same => by rw [same]) fun _ =>
      .bind (Q := fun key u => u = t ∧ key = remote) (fun u same => ⟨same, rfl⟩) fun key => .bind (Q := fun _ u => u.Numbered o dir) (.modify fun u same => ?_) fun _ =>
      numbered_plain (establishKeys_moves C keys offer _ _)
    rw [same.1]
    exact begins _ (by cases dir <;> rfl) rfl
  exact body.final rfl

/-- The pairing that `prepareJoin` begins in this state, under this private key. -/
def Session.origin (s : Session) (privateKey : Bytes) : Origin := ⟨s.trace.length, s.ticket, some privateKey⟩

/-- The session after a pairing was prepared in `s` and the labels were taken. -/
def joinRun (C : Crypto) (s : Session) (inputs : Inputs) (parsed : PairingParams) (privateKey : Bytes)
    (labels : List (Inputs × Label)) : Session :=
  Run.run (step C) (step C s (inputs, .prepareJoin parsed privateKey)) labels

end WalletPair.Sdk.Wallet
