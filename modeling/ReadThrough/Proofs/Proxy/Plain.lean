import ReadThrough.Proofs.Coalescer.Sound
import ReadThrough.Proofs.Proxy.Desk
import ReadThrough.Proofs.Store.Shelf

/-!
# A plain cache

The cache as one would write it if nothing ever ran beside anything else: no tasks, no flights,
no permits, no bytes. There is a shelf with values and deadlines; a call looks at it, asks its
origin if it has to, puts the answer on the shelf, and is done (`Plain.call`). The table of
`Policy` is all there is to it.

Time enters in one way only. A call takes place at one reading of the clocks, and an entry that
has expired by then is not there.
-/

set_option autoImplicit false

namespace ReadThrough

/-- A text whose length a store can write down, as it can for every text that fits in memory. -/
def Fits (text : String) : Prop := text.utf8ByteSize < 18446744073709551616

instance (text : String) : Decidable (Fits text) := inferInstanceAs (Decidable (_ < _))

/-- An origin that a call brings along, by what it has to say about each key. -/
structure Supplier where
  answer : String → Outcome Fetched
  fits : ∀ key a, answer key = .ok a → Fits a.payload

/-- A call that nobody gives up on. -/
inductive Call where
  | lookup (policy : Policy) (key : String) (origin : Supplier) (patient : policy.waitLimit = none)
  | set (policy : Policy) (key payload : String) (fits : Fits payload)
  | remove (key : String)

def Call.request : Call → Request Supplier
  | lookup policy key origin _ => .lookup policy key origin
  | set policy key payload _ => .set policy key payload
  | remove key => .remove key

/-- What a call comes to: its answer, the keys the origin is asked for, and the shelf after it. -/
structure Outlook where
  answer : Outcome Answer
  asked : List String
  shelf : Shelf

/-- What is seen of a call: its answer, the keys the origin was asked for, and what is live when
all is done. -/
@[ext]
structure Report where
  answer : Outcome Answer
  asked : List String
  live : String → Option (Timed (Outcome Value))

def Outlook.report (now : Clocks) (o : Outlook) : Report :=
  ⟨o.answer, o.asked, o.shelf.live? now.monotonic⟩

/-- The origin has answered. A value is put on the shelf; `first` says whether the answer waits
for that, and fails with it. -/
def Shelf.fetched (s : Shelf) (now : Clocks) (first : Bool) (policy : Policy) (storeKey : String) :
    Outcome Fetched → Except Error Fetched × Shelf
  | .ok a =>
    let (r, s) := s.put now.monotonic storeKey (a.stamp now.wall) (policy.ttlFor a.payload)
    (if first then Coalescer.concluded a r else .ok a, s)
  | .failed e => (.error e, s)
  | .crashed t => (.error (Coalescer.crashError t), s)

namespace Plain

/-- The caller is told what the origin said. -/
def told (key : String) (r : Except Error Fetched × Shelf) : Outlook :=
  ⟨(Outcome.ofExcept r.1).map fun a => .found a.payload false, [key], r.2⟩

/-- A lookup that looks at the shelf first. -/
def gentle (now : Clocks) (policy : Policy) (key storeKey : String) (origin : Supplier)
    (s : Shelf) : Outlook :=
  let behind := s.fetched now false policy storeKey (origin.answer key)
  match (s.live? now.monotonic storeKey).map Timed.content with
  | none => told key behind
  | some (.failed e) => ⟨.failed e, [], s⟩
  | some (.crashed t) => ⟨.crashed t, [], s⟩
  | some (.ok v) =>
    if v.absent then told key behind
    else if policy.judgesStale v now.wall && policy.background then
      ⟨.ok (.found v.payload true), [key], behind.2⟩
    else ⟨.ok (.found v.payload true), [], s⟩

/-- One call. -/
def call (keys : KeyScheme) (now : Clocks) (s : Shelf) : Call → Outlook
  | .lookup policy key origin _ =>
    if key = "" then ⟨.ok (.found "" false), [], s⟩
    else if policy.force then
      told key (s.fetched now true policy (keys.build key) (origin.answer key))
    else gentle now policy key (keys.build key) origin s
  | .set policy key payload _ =>
    if key = "" then ⟨.ok .done, [], s⟩
    else
      let (r, s) := s.put now.monotonic (keys.build key) (.stamped now.wall payload false)
        (policy.ttlFor payload)
      ⟨r.map fun _ => .done, [], s⟩
  | .remove key =>
    if key = "" then ⟨.ok .done, [], s⟩ else ⟨.ok .done, [], s.drop (keys.build key)⟩

/-- One call after another, and what is seen of each. -/
def run (keys : KeyScheme) : Shelf → List (Clocks × Call) → List Report
  | _, [] => []
  | s, (now, c) :: calls =>
    (call keys now s c).report now :: run keys (call keys now s c).shelf calls

end Plain

/-! ## Shelves that show the same -/

/-- The same answer from the same origins, and from this moment on the two shelves show the
same. -/
structure Outlook.Like (now : Moment) (o o' : Outlook) : Prop where
  answer : o.answer = o'.answer
  asked : o.asked = o'.asked
  shelf : Shelf.Agree now o.shelf o'.shelf

namespace Outlook.Like

variable {now : Moment} {o o' o'' : Outlook}

theorem refl (now : Moment) (o : Outlook) : o.Like now o := ⟨rfl, rfl, .refl now o.shelf⟩

theorem trans (h : o.Like now o') (h' : o'.Like now o'') : o.Like now o'' :=
  ⟨h.answer.trans h'.answer, h.asked.trans h'.asked, h.shelf.trans h'.shelf⟩

end Outlook.Like

section Agree

variable {s t : Shelf} {now : Clocks}

theorem Shelf.Agree.fetched (h : Agree now.monotonic s t) (first : Bool) (policy : Policy)
    (storeKey : String) (r : Outcome Fetched) :
    (s.fetched now first policy storeKey r).1 = (t.fetched now first policy storeKey r).1 ∧
      Agree now.monotonic (s.fetched now first policy storeKey r).2
        (t.fetched now first policy storeKey r).2 := by
  cases r with
  | ok a =>
    obtain ⟨same, agree⟩ :=
      h.put now.monotonic storeKey (a.stamp now.wall) (policy.ttlFor a.payload)
    refine ⟨?_, agree⟩
    simp only [Shelf.fetched, same]
  | failed | crashed => exact ⟨rfl, h⟩

theorem Shelf.Agree.told (h : Agree now.monotonic s t) (first : Bool) (policy : Policy)
    (key storeKey : String) (r : Outcome Fetched) :
    (Plain.told key (s.fetched now first policy storeKey r)).Like now.monotonic
      (Plain.told key (t.fetched now first policy storeKey r)) := by
  obtain ⟨same, agree⟩ := h.fetched first policy storeKey r
  exact ⟨by rw [Plain.told, Plain.told, same], rfl, agree⟩

theorem Plain.gentle_like (h : Shelf.Agree now.monotonic s t) (policy : Policy)
    (key storeKey : String) (origin : Supplier) :
    (gentle now policy key storeKey origin s).Like now.monotonic
      (gentle now policy key storeKey origin t) := by
  have shown : s.live? now.monotonic storeKey = t.live? now.monotonic storeKey :=
    h now.monotonic storeKey (Moment.le_refl _)
  have behind := h.fetched false policy storeKey (origin.answer key)
  have miss := h.told false policy key storeKey (origin.answer key)
  unfold gentle
  rw [shown]
  cases (t.live? now.monotonic storeKey).map Timed.content with
  | none => exact miss
  | some r =>
    cases r with
    | failed | crashed => exact ⟨rfl, rfl, h⟩
    | ok v =>
      simp only
      split
      · exact miss
      · split
        · exact ⟨rfl, rfl, behind.2⟩
        · exact ⟨rfl, rfl, h⟩

/-- Shelves that show the same come to the same. -/
theorem Plain.call_like (h : Shelf.Agree now.monotonic s t) (keys : KeyScheme) (c : Call) :
    (call keys now s c).Like now.monotonic (call keys now t c) := by
  cases c with
  | lookup policy key origin patient =>
    simp only [call]
    split
    · exact ⟨rfl, rfl, h⟩
    · split
      · exact h.told true policy key (keys.build key) (origin.answer key)
      · exact gentle_like h policy key (keys.build key) origin
  | set policy key payload fits =>
    simp only [call]
    split
    · exact ⟨rfl, rfl, h⟩
    · obtain ⟨same, agree⟩ := h.put now.monotonic (keys.build key)
        (.stamped now.wall payload false) (policy.ttlFor payload)
      exact ⟨by rw [same], rfl, agree⟩
  | remove key =>
    simp only [call]
    split
    · exact ⟨rfl, rfl, h⟩
    · exact ⟨rfl, rfl, h.update (keys.build key) none⟩

end Agree

end ReadThrough
