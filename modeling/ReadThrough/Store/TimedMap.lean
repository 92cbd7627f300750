import ReadThrough.Store.Table
import ReadThrough.Time.Moment

/-!
# Maps whose entries expire

An entry may carry a deadline, and is expired from the moment the monotonic clock reaches it;
a lifetime of zero is over as soon as it begins. Nothing happens at the deadline itself. An
expired entry stays until somebody looks: `get` takes out the one it meets and `purge` takes out
all of them, so the size counts entries that nobody can read any more, while `live?` is what a
reader sees and does not change when expired entries are taken out.

Whoever looks reads the clock, and some look more than once, so the clock may go on within one
operation (`Readings`). A `get` that finds its entry expired looks again before it takes the entry
out. `remaining?` finds that the entry has not expired, and then reads the clock anew for what is
left, which may be nothing by then. A `purge` reads the clock at every entry.

A deadline past the end of the clock cannot be written down; `insert?` is then undefined and the
map stays as it was.
-/

set_option autoImplicit false

namespace ReadThrough

/-- What the monotonic clock shows in the course of one operation: when it is read first, when the
operation comes to the entry under a key, and when it is read last. The clock does not go back, but
it need not wait for the operation either. -/
structure Readings where
  first : Moment
  entry : String → Moment
  last : Moment
  first_le : ∀ key, first ≤ entry key
  le_last : ∀ key, entry key ≤ last

namespace Readings

theorem first_le_last (r : Readings) : r.first ≤ r.last :=
  Moment.le_trans (r.first_le "") (r.le_last "")

/-- The clock stands still, as it does for an operation that takes no time. What is said of its
first reading, of its last, or of the one at an entry is then said of one moment. -/
def still (now : Moment) : Readings :=
  ⟨now, fun _ => now, now, fun _ => Moment.le_refl now, fun _ => Moment.le_refl now⟩

@[simp] theorem first_still (now : Moment) : (still now).first = now := rfl

@[simp] theorem entry_still (now : Moment) (key : String) : (still now).entry key = now := rfl

@[simp] theorem last_still (now : Moment) : (still now).last = now := rfl

end Readings

/-- An entry and the moment from which it can no longer be read. -/
structure Timed (α : Type) where
  content : α
  deadline : Option Moment
  deriving DecidableEq, Repr

/-- Entries under string keys, expired ones included. -/
abbrev TimedMap (α : Type) := Table String (Timed α)

namespace Timed

variable {α : Type}

/-- The deadline has been reached. -/
def isExpired (e : Timed α) (now : Moment) : Bool := e.deadline.any (· ≤ now)

/-- An entry that has expired stays so. -/
theorem isExpired_of_le {e : Timed α} {now later : Moment} (h : e.isExpired now)
    (hle : now ≤ later) : e.isExpired later := by
  obtain ⟨content, deadline⟩ := e
  cases deadline with
  | none => simp [isExpired] at h
  | some d =>
    simp only [isExpired, Option.any_some, decide_eq_true_eq] at h ⊢
    exact Moment.le_trans h hle

/-- So if expired entries have been left out, and then those that have expired later, it is as if
only the latter had been. -/
theorem filter_filter {e? : Option (Timed α)} {now later : Moment} (le : now ≤ later) :
    (e?.filter (!·.isExpired now)).filter (!·.isExpired later) =
      e?.filter (!·.isExpired later) := by
  cases e? with
  | none => rfl
  | some e =>
    cases old : e.isExpired now with
    | false => simp [old, Option.filter_some]
    | true => simp [old, isExpired_of_le old le, Option.filter_some]

end Timed

namespace TimedMap

variable {α : Type}

/-- What a reader finds under a key. -/
def live? (m : TimedMap α) (now : Moment) (key : String) : Option α :=
  ((m.get? key).filter (!·.isExpired now)).map (·.content)

/-- Reads a key. An entry that has expired is looked at once more, and taken out if it still has. -/
def get (m : TimedMap α) (now : Readings) (key : String) : Option α × TimedMap α :=
  match m.get? key with
  | none => (none, m)
  | some e =>
    if e.isExpired now.first then (none, if e.isExpired now.last then m.erase key else m)
    else (some e.content, m)

/-- Writes a key with a lifetime from now on, or without one. -/
def insert? (m : TimedMap α) (now : Moment) (key : String) (content : α) :
    Option Duration → Option (TimedMap α)
  | none => some (m.insert key ⟨content, none⟩)
  | some ttl => (now.add? ttl).map fun d => m.insert key ⟨content, some d⟩

/-- The rest of a lifetime: none for an entry that is missing, expired or without one. Whether the
entry has expired is seen at the first reading and what is left at the last, so the answer is a rest
of nothing if the lifetime comes to its end in between. -/
def remaining? (m : TimedMap α) (now : Readings) (key : String) : Option Duration :=
  ((m.get? key).filter (!·.isExpired now.first)).bind fun e => e.deadline.map (·.since now.last)

/-- Takes out every entry that has expired when it is come to, and counts them. -/
def purge (m : TimedMap α) (now : Readings) : Nat × TimedMap α :=
  let kept := m.filter fun key e => !e.isExpired (now.entry key)
  (m.size - kept.size, kept)

/-! ## What a reader sees of each operation

What an operation does to the entries is told by what is found under each key afterwards, and it is
always what was found before, less what had expired. -/

/-- What is answered hangs on the first reading alone. -/
theorem get_fst (m : TimedMap α) (now : Readings) (key : String) :
    (m.get now key).1 = m.live? now.first key := by
  unfold get live?
  cases m.get? key with
  | none => rfl
  | some e => by_cases h : e.isExpired now.first <;> simp [h, Option.filter_some]

/-- A read takes out what has expired: what it has found expired once it finds expired again, since
the clock does not go back. -/
theorem get?_get_self (m : TimedMap α) (now : Readings) (key : String) :
    (m.get now key).2.get? key = (m.get? key).filter (!·.isExpired now.first) := by
  unfold get
  cases here : m.get? key with
  | none => exact here
  | some e =>
    cases old : e.isExpired now.first with
    | false => simp [here, old, Option.filter_some]
    | true =>
      have still_old := Timed.isExpired_of_le old now.first_le_last
      simp [old, still_old, Table.get?_erase, Option.filter_some]

/-- A read leaves what it does not look for. -/
theorem get?_get_of_ne (m : TimedMap α) (now : Readings) {key other : String}
    (at_ : other ≠ key) : (m.get now key).2.get? other = m.get? other := by
  unfold get
  cases m.get? key with
  | none => rfl
  | some e =>
    cases old : e.isExpired now.first <;> cases still_old : e.isExpired now.last <;>
      simp [old, still_old, at_, Table.get?_erase]

/-- A purge leaves what has not expired when it comes to it, as it is. -/
theorem get?_purge (m : TimedMap α) (now : Readings) (key : String) :
    (m.purge now).2.get? key = (m.get? key).filter (!·.isExpired (now.entry key)) :=
  Table.get?_filter ..

end TimedMap

end ReadThrough
