import Mathlib.Data.List.Forall2
import ReadThrough.Redis.Client
import ReadThrough.Store.Values

/-!
# Bytes on a server and bytes in memory

The same calls are made to a server, over a link, and to a map in memory, each at a millisecond that
is the same for both. The two do not work alike. A lifetime of no time at all is a deletion for the
server and an entry that has expired for the map; the server is told whole milliseconds, at least
one, and the map keeps the exact deadline; and the map takes out what it finds expired, which the
server's answers never show.

What they have in common is that whatever one of them still shows under a key comes from a call that
left an entry with the other as well (`Twins`), with two deadlines that are reckoned from the same
call. In whole milliseconds the two deadlines are never told apart, unless the lifetime has a part
of a millisecond beyond its whole ones; that part is what the server's entry lives shorter.
-/

set_option autoImplicit false

namespace ReadThrough

/-! ## Readings of the clock -/

/-- A clock read some milliseconds later shows the sum, or its last nanosecond. -/
theorem Moment.toNanos_afterMillis (m : Moment) (t : Nat) :
    (m.afterMillis t).toNanos =
      min (m.toNanos + t * 1000000) (9223372036854775808 * 1000000000 - 1) := by
  have low := m.le_seconds
  have high := m.seconds_lt
  have part := m.nanos_lt
  unfold afterMillis
  cases read : ofParts? (m.seconds + (t / 1000 : Nat)) (m.nanos + t % 1000 * 1000000) with
  | some later =>
    have sum := toNanos_of_ofParts? read
    have := later.seconds_lt
    have := later.nanos_lt
    simp only [Option.getD_some, toNanos] at sum ⊢
    omega
  | none =>
    unfold ofParts? at read
    split at read
    · cases read
    · simp only [Option.getD_none, toNanos]
      omega

theorem Moment.afterMillis_le (m : Moment) {t u : Nat} (le : t ≤ u) :
    m.afterMillis t ≤ m.afterMillis u := by
  rw [le_iff, toNanos_afterMillis, toNanos_afterMillis]
  omega

/-! ## Calls on either -/

/-- A call of a store of bytes. -/
inductive ByteCall where
  | get (key : String)
  | set (key : String) (bytes : List UInt8) (ttl : Option Duration)
  | delete (key : String)
  deriving DecidableEq, Repr

/-- What a call has answered. -/
inductive ByteAnswer where
  | found (r : Outcome (Option (List UInt8)))
  | done (r : Outcome Unit)

/-- Calls, each at a millisecond. -/
abbrev ByteCalls := List (Nat × ByteCall)

namespace ByteCall

/-- The call made to a server, whose clock shows `t`. -/
def onServer (t : Nat) (l : Redis.Link) : ByteCall → ByteAnswer × Redis.Link
  | .get key => Prod.map .found id (({ l with clock := t } : Redis.Link).get key)
  | .set key bytes ttl => Prod.map .done id (({ l with clock := t } : Redis.Link).set key ttl bytes)
  | .delete key => Prod.map .done id (({ l with clock := t } : Redis.Link).delete key)

/-- The call made to a map in memory, `t` milliseconds after `origin`. -/
def inMemory (origin : Moment) (t : Nat) (m : ByteMap) : ByteCall → ByteAnswer × ByteMap
  | .get key => Prod.map .found id (ByteMap.read (.still (origin.afterMillis t)) key m)
  | .set key bytes ttl => Prod.map .done id (ByteMap.write (origin.afterMillis t) key ttl bytes m)
  | .delete key => Prod.map .done id (ByteMap.delete key m)

/-- The lifetime that the call gives. -/
def ttl? : ByteCall → Option Duration
  | .set _ _ ttl => ttl
  | .get _ | .delete _ => none

/-- The deadline, in milliseconds, is a signed number of 64 bits. -/
def fits (t : Nat) (c : ByteCall) : Bool :=
  c.ttl?.all fun ttl => t + ttl.millis < 9223372036854775808

/-- The lifetime is absent, below one millisecond, or in whole milliseconds. -/
def whole (c : ByteCall) : Bool :=
  c.ttl?.all fun ttl => ttl.toNanos < 1000000 ∨ ttl.toNanos % 1000000 = 0

end ByteCall

namespace ByteCalls

/-- Makes the calls one after another. -/
def replay {σ : Type} (call : Nat → σ → ByteCall → ByteAnswer × σ) (s : σ) :
    ByteCalls → List ByteAnswer × σ
  | [] => ([], s)
  | (t, c) :: rest =>
    ((call t s c).1 :: (replay call (call t s c).2 rest).1, (replay call (call t s c).2 rest).2)

/-- The calls made to an empty server that can be reached and answers as a server does. -/
def onServer (client : Redis.Client) (calls : ByteCalls) : List ByteAnswer × Redis.Link :=
  calls.replay ByteCall.onServer ⟨client, .empty, true, 0, [], none⟩

/-- The calls made to an empty map, on a clock that has started at `origin`. -/
def inMemory (origin : Moment) (calls : ByteCalls) : List ByteAnswer × ByteMap :=
  calls.replay (ByteCall.inMemory origin) .empty

/-- The clock never went back, and it shows `now`. -/
def InTime (calls : ByteCalls) (now : Nat) : Prop :=
  (calls.map (·.1) ++ [now]).Pairwise (· ≤ ·)

instance (calls : ByteCalls) (now : Nat) : Decidable (calls.InTime now) :=
  inferInstanceAs (Decidable (List.Pairwise _ _))

/-- After these calls the server and the map are alike at millisecond `now`. -/
structure Alike (client : Redis.Client) (origin : Moment) (calls : ByteCalls) (now : Nat) :
    Prop where
  /-- No call has failed on the map. -/
  taken : ∀ a ∈ (calls.inMemory origin).1, (∃ bytes, a = .found (.ok bytes)) ∨ a = .done (.ok ())
  /-- Every answer of the server is the map's, or that of an entry that is gone. -/
  sooner : List.Forall₂ (fun a b => a = b ∨ a = .found (.ok none))
    (calls.onServer client).1 (calls.inMemory origin).1
  /-- Every answer of the server is the map's, where no lifetime has a part of a millisecond beyond
  its whole ones. -/
  same : (∀ c ∈ calls, c.2.whole) → (calls.onServer client).1 = (calls.inMemory origin).1
  /-- What can still be read on the server can be read in the map. -/
  shown : ∀ key bytes, (calls.onServer client).2.server.lookup now key = some bytes →
    (calls.inMemory origin).2.live? (origin.afterMillis now) key = some bytes
  /-- What can still be read in the map until some deadline lies on the server as well, and a
  lifetime of one millisecond or more ends there at that deadline or less than a millisecond
  before it. -/
  expiry : ∀ key bytes deadline,
    (calls.inMemory origin).2.get? key = some ⟨bytes, some deadline⟩ →
    ¬deadline ≤ origin.afterMillis now →
    ∃ t ttl goneAt, (t, .set key bytes (some ttl)) ∈ calls ∧
      deadline.toNanos = origin.toNanos + t * 1000000 + ttl.toNanos ∧
      (calls.onServer client).2.server.get? key = some ⟨bytes, some goneAt⟩ ∧
      (ttl.toNanos < 1000000 → goneAt = t + 1) ∧
      (1000000 ≤ ttl.toNanos → origin.toNanos + goneAt * 1000000 ≤ deadline.toNanos ∧
        deadline.toNanos < origin.toNanos + goneAt * 1000000 + 1000000)
  /-- Neither keeps an entry without an end if it has been given a lifetime, be it no time at
  all. -/
  mortal : ∀ t key bytes ttl,
    (∀ held, ((ByteCall.set key bytes (some ttl)).onServer t (calls.onServer client).2).2.server.get?
      key = some held → held.goneAt ≠ none) ∧
    ((ByteCall.set key bytes (some ttl)).fits t → ∀ entry,
      ((ByteCall.set key bytes (some ttl)).inMemory origin t (calls.inMemory origin).2).2.get? key =
        some entry → entry.deadline ≠ none)

end ByteCalls

/-! ## What one call does -/

namespace Redis

/-- The server can be reached, and nobody answers in its place. -/
structure Link.Working (l : Link) : Prop where
  reachable : l.reachable = true
  scripted : l.scripted = none

/-- A server that works carries out what it is sent, and says so. -/
theorem Link.Working.send {l : Link} (works : l.Working) (c : Command) :
    (l.send c).1 = .ok (l.server.perform l.clock c).1 ∧
      (l.send c).2.server = (l.server.perform l.clock c).2 ∧ (l.send c).2.Working := by
  obtain ⟨up, plain⟩ := works
  cases c with
  | auth | select | ping | get | set | setFor | delete =>
    simp only [Link.send, up, plain, Bool.not_true, Bool.false_eq_true, if_false, Server.perform]
    exact ⟨trivial, trivial, rfl, rfl⟩

/-- What the server is told of a lifetime that it can tell, in milliseconds. -/
theorem ttlMillis_of_lt {ttl : Duration} (fits : ttl.millis < 9223372036854775808) :
    ttlMillis ttl = if ttl.toNanos = 0 then none else some (max 1 ttl.millis) := by
  have bound : min (max ttl.millis 1) (Text.Numeral.bound64 - 1) = max 1 ttl.millis := by
    unfold Text.Numeral.bound64
    omega
  simp only [ttlMillis, Duration.isZero, beq_iff_eq, bound]

end Redis

namespace ByteCall

open Redis (Held Link)

variable {origin : Moment} {t : Nat} {l : Link} {m : ByteMap}

/-- What a call is answered. -/
def answer (found : String → Option (List UInt8)) : ByteCall → ByteAnswer
  | .get key => .found (.ok (found key))
  | .set _ _ _ | .delete _ => .done (.ok ())

/-- What the server holds under a key from `t` on, if it is given a lifetime. -/
def heldFor (t : Nat) (bytes : List UInt8) (ttl : Option Duration) : Option Held :=
  ttl.elim (some ⟨bytes, none⟩) fun ttl =>
    (Redis.ttlMillis ttl).map fun millis => ⟨bytes, some (t + millis)⟩

/-- What lies on the server under a key after a call. -/
def heldAfter (t : Nat) (key : String) (held : Option Held) : ByteCall → Option Held
  | .get _ => held
  | .set other bytes ttl => if key = other then heldFor t bytes ttl else held
  | .delete other => if key = other then none else held

/-- Which command is sent, told without a case for the key. -/
theorem setCommand_eq (key : String) (bytes : List UInt8) (ttl : Option Duration) :
    Redis.setCommand key bytes ttl = ttl.elim (.set key bytes) fun ttl =>
      (Redis.ttlMillis ttl).elim (.delete key) (.setFor key · bytes) := by
  -- Said of any number of milliseconds, so that nobody has to compute this one.
  obtain ⟨told, same⟩ : ∃ told, told = Redis.ttlMillis := ⟨_, rfl⟩
  delta Redis.setCommand
  rw [← same]
  cases ttl with
  | none => rfl
  | some ttl =>
    cases millis : told ttl with
    | none => simp only [millis, Option.elim_some, Option.elim_none]
    | some whole => simp only [millis, Option.elim_some]

theorem get?_perform_setCommand (s : Redis.Server) (t : Nat) (key other : String)
    (bytes : List UInt8) (ttl : Option Duration) :
    (s.perform t (Redis.setCommand key bytes ttl)).2.get? other =
      if other = key then heldFor t bytes ttl else s.get? other := by
  rw [setCommand_eq, heldFor]
  cases ttl with
  | none => exact Table.get?_insert s key other _
  | some ttl =>
    rw [Option.elim_some, Option.elim_some]
    cases Redis.ttlMillis ttl with
    | none => exact Table.get?_erase s key other
    | some millis => exact Table.get?_insert s key other _

theorem onServer_spec (works : l.Working) (t : Nat) (c : ByteCall) :
    (c.onServer t l).1 = c.answer (l.server.lookup t) ∧
      (∀ key, (c.onServer t l).2.server.get? key = c.heldAfter t key (l.server.get? key)) ∧
      (c.onServer t l).2.Working := by
  have works' : Link.Working { l with clock := t } := ⟨works.reachable, works.scripted⟩
  cases c with
  | get key =>
    obtain ⟨said, kept, works⟩ := works'.send (.get key)
    refine ⟨?_, fun other => congrArg (Table.get? · other) kept, works⟩
    simp only [onServer, Link.get, Prod.map, said]
    rfl
  | set key bytes ttl =>
    obtain ⟨said, kept, works⟩ := works'.send (Redis.setCommand key bytes ttl)
    refine ⟨?_, fun other => ?_, works⟩
    · simp only [onServer, Link.set, Prod.map, said]
      rfl
    · exact (congrArg (Table.get? · other) kept).trans
        (get?_perform_setCommand l.server t key other bytes ttl)
  | delete key =>
    obtain ⟨said, kept, works⟩ := works'.send (.delete key)
    refine ⟨?_, fun other => ?_, works⟩
    · simp only [onServer, Link.delete, Prod.map, said]
      rfl
    · exact (congrArg (Table.get? · other) kept).trans (Table.get?_erase l.server key other)

end ByteCall

/-- A write is taken if its deadline is on the clock. -/
theorem ByteMap.write_of_add? {now deadline : Moment} {ttl : Duration} (m : ByteMap) (key : String)
    (bytes : List UInt8) (ends : now.add? ttl = some deadline) :
    ByteMap.write now key (some ttl) bytes m = (.ok (), m.insert key ⟨bytes, some deadline⟩) := by
  have put : m.insert? now key bytes (some ttl) = some (m.insert key ⟨bytes, some deadline⟩) := by
    rw [TimedMap.insert?, ends, Option.map_some]
  rw [ByteMap.write, put]

namespace ByteCall

variable {origin : Moment} {t : Nat}

/-- What lies in the map under a key after a call at this reading, if the map can keep it. -/
def entryAfter (now : Moment) (key : String) (entry : Option (Timed (List UInt8))) :
    ByteCall → Option (Timed (List UInt8))
  | .get other => if key = other then entry.filter (!·.isExpired now) else entry
  | .set other bytes ttl =>
    if key = other then some ⟨bytes, ttl.bind now.add?⟩ else entry
  | .delete other => if key = other then none else entry

/-- The clock goes on for as many milliseconds as a signed number of 64 bits can tell. -/
def Room (origin : Moment) : Prop :=
  origin.toNanos + 9223372036854775808 * 1000000 ≤ 9223372036854775808 * 1000000000

/-- A deadline that fits is on the clock. -/
theorem exists_add? (room : Room origin) {ttl : Duration}
    (fits : t + ttl.millis < 9223372036854775808) :
    ∃ d, (origin.afterMillis t).add? ttl = some d ∧
      d.toNanos = origin.toNanos + t * 1000000 + ttl.toNanos := by
  have within : (origin.afterMillis t).toNanos = origin.toNanos + t * 1000000 := by
    rw [Moment.toNanos_afterMillis]
    unfold Room at room
    omega
  cases ends : (origin.afterMillis t).add? ttl with
  | some d => exact ⟨d, rfl, by rw [Moment.toNanos_of_add? ends, within]⟩
  | none =>
    rw [Moment.add?_eq_none_iff, within] at ends
    unfold Room at room
    unfold Duration.millis at fits
    omega

theorem inMemory_spec (room : Room origin) (m : ByteMap) {c : ByteCall} (fits : c.fits t) :
    (c.inMemory origin t m).1 = c.answer (m.live? (origin.afterMillis t)) ∧
      ∀ key, (c.inMemory origin t m).2.get? key =
        c.entryAfter (origin.afterMillis t) key (m.get? key) := by
  cases c with
  | get key =>
    refine ⟨?_, fun other => ?_⟩
    · simp only [inMemory, Prod.map, ByteMap.read, TimedMap.get_fst]
      rfl
    · by_cases at_ : other = key
      · subst at_
        rw [entryAfter, if_pos rfl]
        exact TimedMap.get?_get_self m (.still (origin.afterMillis t)) other
      · rw [entryAfter, if_neg at_, ← TimedMap.get?_get_of_ne m (.still (origin.afterMillis t)) at_]
        rfl
  | set key bytes ttl =>
    cases ttl with
    | none => exact ⟨rfl, fun other => Table.get?_insert m key other _⟩
    | some ttl =>
      rw [ByteCall.fits, ttl?, Option.all_some, decide_eq_true_eq] at fits
      obtain ⟨d, ends, -⟩ := exists_add? room fits
      rw [inMemory, ByteMap.write_of_add? m key bytes ends]
      refine ⟨rfl, fun other => ?_⟩
      rw [entryAfter, Option.bind_some, ends]
      exact Table.get?_insert m key other _
  | delete key => exact ⟨rfl, fun other => Table.get?_erase m key other⟩

/-- What the server is given for a lifetime. -/
theorem heldFor_some {ttl : Duration} (bytes : List UInt8)
    (fits : t + ttl.millis < 9223372036854775808) :
    heldFor t bytes (some ttl) =
      if ttl.toNanos = 0 then none else some ⟨bytes, some (t + max 1 ttl.millis)⟩ := by
  rw [heldFor, Option.elim_some, Redis.ttlMillis_of_lt (by omega)]
  split
  case isTrue => rfl
  case isFalse => rfl

/-- Whatever its lifetime, what is given one ends. -/
theorem goneAt_heldFor {bytes : List UInt8} {ttl : Duration} {held : Redis.Held}
    (given : heldFor t bytes (some ttl) = some held) : held.goneAt ≠ none := by
  rw [heldFor, Option.elim_some, Option.map_eq_some_iff] at given
  obtain ⟨millis, -, rfl⟩ := given
  exact Option.some_ne_none _

end ByteCall

/-! ## Under one key -/

/-- A deadline on the clock has been reached once as many milliseconds have passed. -/
theorem Moment.le_afterMillis_iff {origin deadline : Moment} {x : Nat}
    (ends : deadline.toNanos = origin.toNanos + x) (t : Nat) :
    deadline ≤ origin.afterMillis t ↔ x ≤ t * 1000000 := by
  have high := deadline.seconds_lt
  have part := deadline.nanos_lt
  have last : deadline.toNanos ≤ 9223372036854775808 * 1000000000 - 1 := by
    unfold toNanos
    omega
  rw [le_iff, toNanos_afterMillis]
  omega

namespace ByteCalls

open Redis (Held Link)

variable {origin : Moment} {calls : ByteCalls} {now later t : Nat} {key : String}
  {held : Option Held} {entry : Option (Timed (List UInt8))}

/-- What the server and the map hold under a key. Either both show nothing from now on, or both
hold what one of the calls has left there. -/
inductive Twins (origin : Moment) (calls : ByteCalls) (now : Nat) (key : String) :
    Option Held → Option (Timed (List UInt8)) → Prop
  | lapsed {held : Option Held} {entry : Option (Timed (List UInt8))}
      (gone : ∀ h, held = some h → ∃ g, h.goneAt = some g ∧ g ≤ now)
      (expired : ∀ e, entry = some e → e.isExpired (origin.afterMillis now) = true) :
      Twins origin calls now key held entry
  | kept {t : Nat} {bytes : List UInt8} (call : (t, .set key bytes none) ∈ calls) :
      Twins origin calls now key (some ⟨bytes, none⟩) (some ⟨bytes, none⟩)
  | timed {t : Nat} {bytes : List UInt8} {ttl : Duration} {deadline : Moment}
      (call : (t, .set key bytes (some ttl)) ∈ calls) (some_time : ttl.toNanos ≠ 0)
      (ends : deadline.toNanos = origin.toNanos + (t * 1000000 + ttl.toNanos : Nat)) :
      Twins origin calls now key (some ⟨bytes, some (t + max 1 ttl.millis)⟩)
        (some ⟨bytes, some deadline⟩)

theorem Twins.mono (twins : Twins origin calls now key held entry) (le : now ≤ later) :
    Twins origin calls later key held entry := by
  cases twins with
  | lapsed gone expired =>
    refine .lapsed (fun h at_ => ?_) fun e at_ => ?_
    · obtain ⟨g, ends, past⟩ := gone h at_
      exact ⟨g, ends, Nat.le_trans past le⟩
    · exact Timed.isExpired_of_le (expired e at_) (origin.afterMillis_le le)
  | kept call => exact .kept call
  | timed call some_time ends => exact .timed call some_time ends

/-- What is over in the map is over on the server. -/
theorem Twins.reclaim (twins : Twins origin calls now key held entry) :
    Twins origin calls now key held (entry.filter (!·.isExpired (origin.afterMillis now))) := by
  cases twins with
  | lapsed gone expired =>
    refine .lapsed gone fun e at_ => ?_
    rw [Option.filter_eq_some_iff] at at_
    exact expired e at_.1
  | kept call => exact .kept call
  | @timed t bytes ttl deadline call some_time ends =>
    by_cases past : deadline ≤ origin.afterMillis now
    · have gone : t + max 1 ttl.millis ≤ now := by
        rw [Moment.le_afterMillis_iff ends] at past
        unfold Duration.millis
        omega
      refine .lapsed (fun h at_ => ?_) fun e at_ => ?_
      · cases at_
        exact ⟨_, rfl, gone⟩
      · rw [Option.filter_eq_some_iff, Option.some.injEq] at at_
        obtain ⟨rfl, live⟩ := at_
        simpa [Timed.isExpired] using past
    · have live : Timed.isExpired ⟨bytes, some deadline⟩ (origin.afterMillis now) = false := by
        simpa [Timed.isExpired] using past
      rw [Option.filter_some, live]
      exact .timed call some_time ends

/-- What a call with a lifetime leaves. -/
theorem Twins.set (room : ByteCall.Room origin) {bytes : List UInt8} {ttl : Option Duration}
    (call : (t, .set key bytes ttl) ∈ calls) (fits : (ByteCall.set key bytes ttl).fits t) :
    Twins origin calls t key (ByteCall.heldFor t bytes ttl)
      (some ⟨bytes, ttl.bind (origin.afterMillis t).add?⟩) := by
  cases ttl with
  | none => exact .kept call
  | some ttl =>
    rw [ByteCall.fits, ByteCall.ttl?, Option.all_some, decide_eq_true_eq] at fits
    obtain ⟨d, added, ends⟩ := ByteCall.exists_add? room fits
    have sum : d.toNanos = origin.toNanos + (t * 1000000 + ttl.toNanos : Nat) := by omega
    rw [ByteCall.heldFor_some bytes fits, Option.bind_some, added]
    split
    case isTrue no_time =>
      refine .lapsed (by rintro _ ⟨⟩) fun e at_ => ?_
      have past : d ≤ origin.afterMillis t := (Moment.le_afterMillis_iff sum t).2 (by omega)
      cases at_
      simpa [Timed.isExpired] using past
    case isFalse some_time => exact .timed call some_time sum

/-- What is read under the key is the same, or is no longer there on the server; and it is the same
if no lifetime has a part of a millisecond beyond its whole ones. -/
theorem Twins.read {s : Redis.Server} {m : ByteMap}
    (twins : Twins origin calls now key (s.get? key) (m.get? key)) :
    (s.lookup now key = m.live? (origin.afterMillis now) key ∨ s.lookup now key = none) ∧
      ((∀ c ∈ calls, c.2.whole) → s.lookup now key = m.live? (origin.afterMillis now) key) := by
  unfold Redis.Server.lookup TimedMap.live?
  generalize s.get? key = held at twins
  generalize m.get? key = entry at twins
  cases twins with
  | lapsed gone expired =>
    have nothing : held.filter (fun h => h.goneAt.all (now < ·)) = none := by
      rw [Option.filter_eq_none_iff]
      intro h at_ live
      obtain ⟨g, ends, past⟩ := gone h at_
      rw [ends, Option.all_some, decide_eq_true_eq] at live
      omega
    have nothing' : entry.filter (!·.isExpired (origin.afterMillis now)) = none := by
      rw [Option.filter_eq_none_iff]
      intro e at_
      simp [expired e at_]
    rw [nothing, nothing']
    exact ⟨.inl rfl, fun _ => rfl⟩
  | kept call => exact ⟨.inl rfl, fun _ => rfl⟩
  | @timed t bytes ttl deadline call some_time ends =>
    have served : ∀ g, ((some ⟨bytes, some g⟩ : Option Held).filter fun h =>
        h.goneAt.all (now < ·)).map (·.bytes) = if now < g then some bytes else none := by
      intro g
      by_cases live : now < g <;> simp [Option.filter_some, live]
    have remembered : ((some ⟨bytes, some deadline⟩ : Option (Timed (List UInt8))).filter
        (!·.isExpired (origin.afterMillis now))).map (·.content) =
        if deadline ≤ origin.afterMillis now then none else some bytes := by
      by_cases past : deadline ≤ origin.afterMillis now <;>
        simp [Option.filter_some, Timed.isExpired, past]
    rw [served, remembered]
    simp only [Moment.le_afterMillis_iff ends]
    have millis : ttl.millis = ttl.toNanos / 1000000 := rfl
    by_cases live : now < t + max 1 ttl.millis
    · have not_past : ¬t * 1000000 + ttl.toNanos ≤ now * 1000000 := by omega
      rw [if_pos live, if_neg not_past]
      exact ⟨.inl rfl, fun _ => rfl⟩
    · rw [if_neg live]
      refine ⟨.inr rfl, fun whole => ?_⟩
      have exact_ := whole _ call
      rw [ByteCall.whole, ByteCall.ttl?, Option.all_some, decide_eq_true_eq] at exact_
      have past : t * 1000000 + ttl.toNanos ≤ now * 1000000 := by omega
      rw [if_pos past]

/-! ## Over all calls -/

/-- The server works, and holds under every key what the map holds, or what shows the same. -/
structure Beside (origin : Moment) (calls : ByteCalls) (now : Nat) (l : Link) (m : ByteMap) :
    Prop where
  works : l.Working
  twins : ∀ key, Twins origin calls now key (l.server.get? key) (m.get? key)

variable {l : Link} {m : ByteMap} {c : ByteCall} {rest : ByteCalls}

theorem Beside.mono (beside : Beside origin calls now l m) (le : now ≤ later) :
    Beside origin calls later l m :=
  ⟨beside.works, fun key => (beside.twins key).mono le⟩

theorem Beside.call (room : ByteCall.Room origin) (beside : Beside origin calls t l m)
    (call : (t, c) ∈ calls) (fits : c.fits t) :
    Beside origin calls t (c.onServer t l).2 (c.inMemory origin t m).2 := by
  obtain ⟨-, held, works⟩ := c.onServer_spec beside.works t
  obtain ⟨-, entry⟩ := c.inMemory_spec room m fits
  refine ⟨works, fun key => ?_⟩
  rw [held, entry]
  have twins := beside.twins key
  cases c with
  | get other =>
    rw [ByteCall.heldAfter, ByteCall.entryAfter]
    split
    case isTrue => exact twins.reclaim
    case isFalse => exact twins
  | set other bytes ttl =>
    rw [ByteCall.heldAfter, ByteCall.entryAfter]
    split
    case isTrue at_ =>
      subst at_
      exact .set room call fits
    case isFalse => exact twins
  | delete other =>
    rw [ByteCall.heldAfter, ByteCall.entryAfter]
    split
    case isTrue => exact .lapsed (by rintro _ ⟨⟩) (by rintro _ ⟨⟩)
    case isFalse => exact twins

/-- The server's answer is the map's, or that nothing is there; and it is the map's if no lifetime
has a part of a millisecond beyond its whole ones. -/
theorem Beside.answer (room : ByteCall.Room origin) (beside : Beside origin calls t l m)
    (fits : c.fits t) :
    ((c.onServer t l).1 = (c.inMemory origin t m).1 ∨ (c.onServer t l).1 = .found (.ok none)) ∧
      ((∀ c ∈ calls, c.2.whole) → (c.onServer t l).1 = (c.inMemory origin t m).1) := by
  rw [(c.onServer_spec beside.works t).1, (c.inMemory_spec room m fits).1]
  cases c with
  | get key =>
    obtain ⟨sooner, same⟩ := (beside.twins key).read
    refine ⟨sooner.imp (fun said => ?_) fun said => ?_, fun whole => ?_⟩
    · rw [ByteCall.answer, ByteCall.answer, said]
    · rw [ByteCall.answer, said]
    · rw [ByteCall.answer, ByteCall.answer, same whole]
  | set | delete => exact ⟨.inl rfl, fun _ => rfl⟩

/-- Two answers, the server's and the map's. -/
def Answered (calls : ByteCalls) (a b : ByteAnswer) : Prop :=
  (a = b ∨ a = .found (.ok none)) ∧ ((∀ c ∈ calls, c.2.whole) → a = b)

/-- Calls made one after another keep the two beside each other. -/
theorem Beside.replay (room : ByteCall.Room origin) (beside : Beside origin calls t l m)
    (among : ∀ c ∈ rest, c ∈ calls ∧ c.2.fits c.1) (starts : ∀ c ∈ rest, t ≤ c.1) (le : t ≤ now)
    (in_order : rest.InTime now) :
    List.Forall₂ (Answered calls) (rest.replay ByteCall.onServer l).1
        (rest.replay (ByteCall.inMemory origin) m).1 ∧
      Beside origin calls now (rest.replay ByteCall.onServer l).2
        (rest.replay (ByteCall.inMemory origin) m).2 := by
  induction rest generalizing t l m with
  | nil => exact ⟨.nil, beside.mono le⟩
  | cons c rest ih =>
    obtain ⟨t', c⟩ := c
    obtain ⟨call, fits⟩ := among (t', c) (List.mem_cons_self ..)
    have beside := beside.mono (starts (t', c) (List.mem_cons_self ..))
    obtain ⟨later, in_order⟩ := List.pairwise_cons.1 in_order
    have next := ih (beside.call room call fits)
      (fun c at_ => among c (List.mem_cons_of_mem _ at_))
      (fun c at_ => later c.1 (List.mem_append_left _ (List.mem_map_of_mem at_)))
      (later now (by simp)) in_order
    exact ⟨.cons (beside.answer room fits) next.1, next.2⟩

/-- A call that fits is taken by the map. -/
theorem inMemory_taken (room : ByteCall.Room origin) (fits : ∀ c ∈ rest, c.2.fits c.1) (m : ByteMap) :
    ∀ a ∈ (rest.replay (ByteCall.inMemory origin) m).1,
      (∃ bytes, a = .found (.ok bytes)) ∨ a = .done (.ok ()) := by
  induction rest generalizing m with
  | nil => exact fun a at_ => absurd at_ List.not_mem_nil
  | cons c rest ih =>
    intro a at_
    rcases List.mem_cons.1 at_ with rfl | at_
    · rw [(c.2.inMemory_spec room m (fits c (List.mem_cons_self ..))).1]
      cases c.2 with
      | get key => exact .inl ⟨_, rfl⟩
      | set | delete => exact .inr rfl
    · exact ih (fun c at_ => fits c (List.mem_cons_of_mem _ at_)) _ a at_

/-- An empty server stands beside an empty map. -/
theorem Beside.fresh (client : Redis.Client) :
    Beside origin calls 0 ⟨client, .empty, true, 0, [], none⟩ .empty :=
  ⟨⟨rfl, rfl⟩, fun _ => .lapsed (by rintro _ ⟨⟩) (by rintro _ ⟨⟩)⟩

/-- What can still be read in the map until some deadline has a twin on the server. -/
theorem Beside.expiry (beside : Beside origin calls now l m) {bytes : List UInt8}
    {deadline : Moment} (here : m.get? key = some ⟨bytes, some deadline⟩)
    (live : ¬deadline ≤ origin.afterMillis now) :
    ∃ t ttl goneAt, (t, .set key bytes (some ttl)) ∈ calls ∧
      deadline.toNanos = origin.toNanos + t * 1000000 + ttl.toNanos ∧
      l.server.get? key = some ⟨bytes, some goneAt⟩ ∧
      (ttl.toNanos < 1000000 → goneAt = t + 1) ∧
      (1000000 ≤ ttl.toNanos → origin.toNanos + goneAt * 1000000 ≤ deadline.toNanos ∧
        deadline.toNanos < origin.toNanos + goneAt * 1000000 + 1000000) := by
  have twins := beside.twins key
  rw [here] at twins
  generalize held_ : l.server.get? key = held at twins
  cases twins with
  | lapsed gone expired =>
    have past := expired _ rfl
    simp only [Timed.isExpired, Option.any_some, decide_eq_true_eq] at past
    exact absurd past live
  | @timed t _ ttl _ call some_time ends =>
    have millis : ttl.millis = ttl.toNanos / 1000000 := rfl
    exact ⟨t, ttl, t + max 1 ttl.millis, call, by omega, rfl, by omega, by omega⟩

/-- The server and the map are alike, whatever has been called on both. -/
theorem alike (client : Redis.Client) (origin : Moment) (room : ByteCall.Room origin)
    (calls : ByteCalls) (now : Nat) (in_order : calls.InTime now)
    (fits : ∀ c ∈ calls, c.2.fits c.1) : Alike client origin calls now := by
  have side : List.Forall₂ (Answered calls) (calls.onServer client).1 (calls.inMemory origin).1 ∧
      Beside origin calls now (calls.onServer client).2 (calls.inMemory origin).2 :=
    (Beside.fresh client).replay room (fun c at_ => ⟨at_, fits c at_⟩) (fun c _ => Nat.zero_le c.1)
      (Nat.zero_le now) in_order
  obtain ⟨answers, beside⟩ := side
  refine ⟨inMemory_taken room fits .empty, answers.imp fun _ _ said => said.1, fun whole => ?_,
    fun key bytes shown => ?_, fun key bytes deadline => beside.expiry, fun t key bytes ttl => ?_⟩
  · exact List.forall₂_eq_eq_eq ▸ answers.imp fun _ _ said => said.2 whole
  · rcases (beside.twins key).read.1 with same | nothing
    · rw [← same, shown]
    · rw [nothing] at shown
      cases shown
  · refine ⟨fun held at_ => ?_, fun fits entry at_ => ?_⟩
    · obtain ⟨-, after, -⟩ := (ByteCall.set key bytes (some ttl)).onServer_spec beside.works t
      rw [after, ByteCall.heldAfter, if_pos rfl] at at_
      exact ByteCall.goneAt_heldFor at_
    · have after := ((ByteCall.set key bytes (some ttl)).inMemory_spec room
        (calls.inMemory origin).2 fits).2 key
      rw [ByteCall.fits, ByteCall.ttl?, Option.all_some, decide_eq_true_eq] at fits
      obtain ⟨d, ends, -⟩ := ByteCall.exists_add? room fits
      rw [after, ByteCall.entryAfter, if_pos rfl, Option.bind_some, ends, Option.some.injEq] at at_
      rw [← at_]
      exact Option.some_ne_none d

/-- An entry that lives for a nanosecond is there in its millisecond and gone in the next, on both;
one that is given no time at all takes away the one before it, which had no end. -/
theorem alike_nanosecond :
    let client : Redis.Client := ⟨⟨.network "localhost" 6379, 0, none, none, .two⟩, false⟩
    let calls : ByteCalls :=
      [(7, .set "a" [1] (some (.ofFraction 1))), (7, .get "a"), (8, .get "a"), (8, .set "a" [2] none),
        (9, .get "a"), (9, .set "a" [3] (some .zero)), (9, .get "a")]
    (calls.InTime 9 ∧ (∀ c ∈ calls, c.2.fits c.1) ∧ ∀ c ∈ calls, c.2.whole) ∧
      (calls.onServer client).1 = [.done (.ok ()), .found (.ok (some [1])), .found (.ok none),
        .done (.ok ()), .found (.ok (some [2])), .done (.ok ()), .found (.ok none)] := by
  intro client calls
  have in_order : calls.InTime 9 := by decide
  have fits : ∀ c ∈ calls, c.2.fits c.1 := by decide
  have whole : ∀ c ∈ calls, c.2.whole := by decide
  have room : ByteCall.Room .epoch := by
    unfold ByteCall.Room
    decide
  refine ⟨⟨in_order, fits, whole⟩, ?_⟩
  rw [(alike client .epoch room calls 9 in_order fits).same whole]
  rfl

end ByteCalls

end ReadThrough
