import ReadThrough.Proofs.Proxy.Lasting
import ReadThrough.Proofs.Proxy.NoWriteLost

/-!
# How a lookup comes to its answer

A proxy keeps of a lookup only where it stands. What it has been through is read off the history:
that it has read the store, and with what answer; which fetch it came to (`flight?`), in which
turn of its call, and that the key of that fetch was taken then (`Turn.Boards`); and whether it
has written for itself. `Journey` says for each place where a lookup can stand how it has got
there, and `Explained` does so for each answer that it can have.

Every turn carries the journeys on (`Travelled.turn`), so that every answer in every run has its
explanation. Where answers come from, and which failures can be among them, is then read off the
cases of `Explained`.
-/

set_option autoImplicit false

namespace ReadThrough

variable {ω : Type}

/-- The turn falls in the time of the call: the caller has come by its end, and had neither its
answer nor left before it. -/
structure Turn.Within (t : Turn ω) (c : Nat) : Prop where
  come : c < t.after.callers.length
  waits : ∀ x, t.before.callers[c]? = some x → x.stage.isSettled = false

/-- The store has been read for the caller during its call, and this is what it answered. -/
def HasRead (past : List (Turn ω)) (c : Nat) (storeKey : String) (r : Outcome (Option Value)) :
    Prop :=
  ∃ recent t earlier, past = recent ++ t :: earlier ∧ t.Within c ∧ t.event = .readAnswered c r ∧
    ∃ u ∈ earlier, u.Within c ∧ .read c storeKey ∈ u.effects

/-- What `read` last found in the stages that the caller has been through. -/
def lately? {α : Type} (read : Caller.Stage → Option α) : List (Turn ω) → Nat → Option α
  | [], _ => none
  | t :: past, c => ((t.after.stage? c).bind read).or (lately? read past c)

def Caller.Stage.flight? : Caller.Stage → Option Flight
  | .waiting flight => some flight
  | _ => none

def Caller.Stage.save? : Caller.Stage → Option Nat
  | .saving save _ => some save
  | _ => none

/-- The flight that the caller waits for, or has waited for. -/
def flight? (past : List (Turn ω)) (c : Nat) : Option Flight := lately? Caller.Stage.flight? past c

/-- The save by which the caller writes for itself, or has done so. -/
def save? (past : List (Turn ω)) (c : Nat) : Option Nat := lately? Caller.Stage.save? past c

/-- By this turn of its call a lookup comes to a flight, and its key is taken by it: at once if the
lookup is forced, and otherwise because the store has nothing for it. -/
structure Turn.Boards (t : Turn ω) (c : Nat) (policy : Policy) (key : String) (origin : ω)
    (flight : Flight) : Prop where
  within : t.Within c
  waits : t.after.stage? c = some (.waiting flight)
  taken : t.after.fetches.inFlight.get? key = some flight.fetch
  leads : flight.leader = t.starts flight.fetch
  cause : (policy.force = true ∧ t.event = .request (.lookup policy key origin)) ∨
    (policy.force = false ∧ ∃ o, t.event = .readAnswered c (.ok o) ∧
      ∀ v, o = some v → v.absent = true)

/-- This is the flight that the lookup came to, and it did so by a turn of its call. -/
structure Aboard (past : List (Turn ω)) (c : Nat) (policy : Policy) (key : String) (origin : ω)
    (flight : Flight) : Prop where
  flight? : flight? past c = some flight
  boards : ∃ t ∈ past, t.Boards c policy key origin flight

/-- Nothing but the caller is changed, and nothing is asked for but a read of the store. -/
structure Turn.OnlyReads (t : Turn ω) (c : Nat) (storeKey : String) : Prop where
  fetches : t.after.fetches = t.before.fetches
  pool : t.after.pool = t.before.pool
  saves : t.after.saves = t.before.saves
  effects : t.effects = [] ∨ t.effects = [.read c storeKey]

/-- Whenever the caller has moved, nothing was done but to read the store. -/
def HasOnlyRead (past : List (Turn ω)) (c : Nat) (storeKey : String) : Prop :=
  ∀ t ∈ past, t.after.callers[c]? ≠ t.before.callers[c]? → t.OnlyReads c storeKey

/-- The caller waited as long as its policy allows, and its flight was not over. -/
def TimedOut (past : List (Turn ω)) (c : Nat) (flight : Flight) : Prop :=
  ∃ t ∈ past, t.event = .limitPassed c ∧ t.before.stage? c = some (.waiting flight) ∧
    t.before.fetches.result? flight.fetch = none

/-- What the store has answered to the write that the caller makes for itself. -/
def HasWritten (past : List (Turn ω)) (c : Nat) (r : Outcome Unit) : Prop :=
  ∃ i, save? past c = some i ∧ ∃ t ∈ past, t.event = .writeAnswered (.save i) r

/-- How a lookup has come to its answer. -/
inductive Explained (keys : KeyScheme) (past : List (Turn ω)) (c : Nat) (policy : Policy)
    (key : String) (origin : ω) : Outcome Answer → Prop
  | blank (blank : key = "") (ashore : flight? past c = none) :
      Explained keys past c policy key origin (.ok (.found "" false))
  /-- The store could not be read. -/
  | unread (r : Outcome (Option Value)) (gentle : policy.force = false) (bad : ∀ o, r ≠ .ok o)
      (ashore : flight? past c = none) (read : HasRead past c (keys.build key) r)
      (only : HasOnlyRead past c (keys.build key)) :
      Explained keys past c policy key origin (r.map fun _ => .done)
  /-- The store had an entry. -/
  | hit (v : Value) (gentle : policy.force = false) (live : v.absent = false)
      (ashore : flight? past c = none)
      (read : HasRead past c (keys.build key) (.ok (some v))) :
      Explained keys past c policy key origin (.ok (.found v.payload true))
  /-- The fetch came to its end. -/
  | told (flight : Flight) (r : Except Error Fetched) (some_key : key ≠ "")
      (aboard : Aboard past c policy key origin flight)
      (known : ∃ t ∈ past, t.before.fetches.result? flight.fetch = some r)
      (plain : ∀ a, r = .ok a → (policy.force && !flight.leader) = false) :
      Explained keys past c policy key origin
        ((Outcome.ofExcept r).map fun a => .found a.payload false)
  | gaveUp (flight : Flight) (limit : Duration) (some_key : key ≠ "")
      (aboard : Aboard past c policy key origin flight) (set : policy.waitLimit = some limit)
      (passed : TimedOut past c flight) :
      Explained keys past c policy key origin
        (.failed (.timeout ("origin fetch for " ++ key ++ " exceeded " ++ limit.text)))
  | crashed (flight : Flight) (text : String) (some_key : key ≠ "")
      (aboard : Aboard past c policy key origin flight)
      (crashed : ∃ t ∈ past, t.event = .limitCrashed c text) :
      Explained keys past c policy key origin (.crashed text)
  /-- The fetch came to its end, and then its own write did. -/
  | saved (flight : Flight) (a : Fetched) (i : Nat) (r : Except Error Unit) (some_key : key ≠ "")
      (aboard : Aboard past c policy key origin flight) (forced : policy.force = true)
      (joined : flight.leader = false)
      (known : ∃ t ∈ past, t.before.fetches.result? flight.fetch = some (.ok a))
      (own : save? past c = some i)
      (finished : ∃ t ∈ past, ∃ s, t.before.saves[i]? = some s ∧ s.stage = .ended r) :
      Explained keys past c policy key origin
        ((Outcome.ofExcept r).map fun _ => .found a.payload false)

/-- How a lookup has come to where it stands. -/
inductive Journey (keys : KeyScheme) (past : List (Turn ω)) (c : Nat) (policy : Policy)
    (key : String) (origin : ω) : Caller.Stage → Prop
  | reading (some_key : key ≠ "") (gentle : policy.force = false) (ashore : flight? past c = none)
      (asked : ∃ u ∈ past, u.Within c ∧ .read c (keys.build key) ∈ u.effects)
      (only : HasOnlyRead past c (keys.build key)) : Journey keys past c policy key origin .reading
  | waiting (flight : Flight) (some_key : key ≠ "")
      (aboard : Aboard past c policy key origin flight) :
      Journey keys past c policy key origin (.waiting flight)
  | saving (flight : Flight) (a : Fetched) (i : Nat) (some_key : key ≠ "")
      (aboard : Aboard past c policy key origin flight) (forced : policy.force = true)
      (joined : flight.leader = false)
      (known : ∃ t ∈ past, t.before.fetches.result? flight.fetch = some (.ok a))
      (own : save? past c = some i) :
      Journey keys past c policy key origin (.saving i a.payload)
  | answered (r : Outcome Answer) (how : Explained keys past c policy key origin r) :
      Journey keys past c policy key origin (.answered r)
  | gone : Journey keys past c policy key origin .gone

section History

variable {past : List (Turn ω)} {t : Turn ω} {c : Nat}

theorem lately?_cons {α : Type} {read : Caller.Stage → Option α} {s : Caller.Stage}
    (stands : t.after.stage? c = some s) (elsewhere : read s = none) :
    lately? read (t :: past) c = lately? read past c := by
  rw [lately?, stands, Option.bind_some, elsewhere, Option.none_or]

theorem lately?_cons_of_some {α : Type} {read : Caller.Stage → Option α} {s : Caller.Stage} {a : α}
    (stands : t.after.stage? c = some s) (here : read s = some a) :
    lately? read (t :: past) c = some a := by
  rw [lately?, stands, Option.bind_some, here, Option.some_or]

theorem exists_lately? {α : Type} {read : Caller.Stage → Option α} {s : Caller.Stage} {a : α}
    (ht : t ∈ past) (stands : t.after.stage? c = some s) (here : read s = some a) :
    ∃ b, lately? read past c = some b := by
  induction past with
  | nil => cases ht
  | cons u past ih =>
    rw [lately?]
    rcases List.mem_cons.1 ht with rfl | old
    · rw [stands, Option.bind_some, here]
      exact ⟨a, rfl⟩
    · obtain ⟨b, found⟩ := ih old
      rw [found]
      cases (u.after.stage? c).bind read with
      | none => exact ⟨b, rfl⟩
      | some b' => exact ⟨b', rfl⟩

theorem exists_cons {P : Turn ω → Prop} (h : ∃ u ∈ past, P u) (t : Turn ω) :
    ∃ u ∈ t :: past, P u := h.imp fun _ h => ⟨List.mem_cons_of_mem _ h.1, h.2⟩

theorem exists_cons_self {P : Turn ω → Prop} (past : List (Turn ω)) (here : P t) :
    ∃ u ∈ t :: past, P u := ⟨t, List.mem_cons_self, here⟩

theorem HasRead.cons {storeKey : String} {r : Outcome (Option Value)}
    (h : HasRead past c storeKey r) (t : Turn ω) : HasRead (t :: past) c storeKey r := by
  obtain ⟨recent, u, earlier, rfl, rest⟩ := h
  exact ⟨t :: recent, u, earlier, rfl, rest⟩

theorem Aboard.cons {policy : Policy} {key : String} {origin : ω} {flight : Flight}
    (h : Aboard past c policy key origin flight) {s : Caller.Stage}
    (stands : t.after.stage? c = some s) (same : s.flight? = none ∨ s.flight? = some flight) :
    Aboard (t :: past) c policy key origin flight := by
  refine ⟨?_, exists_cons h.boards t⟩
  rcases same with elsewhere | there
  · exact (lately?_cons stands elsewhere).trans h.flight?
  · exact lately?_cons_of_some stands there

theorem HasOnlyRead.cons {storeKey : String} (h : HasOnlyRead past c storeKey)
    (now : t.after.callers[c]? ≠ t.before.callers[c]? → t.OnlyReads c storeKey) :
    HasOnlyRead (t :: past) c storeKey := by
  intro u hu moved
  rcases List.mem_cons.1 hu with rfl | old
  · exact now moved
  · exact h u old moved

/-- An explanation stays one as long as the caller does not move. -/
theorem Explained.cons {keys : KeyScheme} {policy : Policy} {key : String} {origin : ω}
    {r : Outcome Answer} (h : Explained keys past c policy key origin r)
    (stands : t.after.stage? c = some (.answered r))
    (same : t.after.callers[c]? = t.before.callers[c]?) :
    Explained keys (t :: past) c policy key origin r := by
  have ashore : flight? (t :: past) c = flight? past c := lately?_cons stands rfl
  have aboard : ∀ {flight}, Aboard past c policy key origin flight →
      Aboard (t :: past) c policy key origin flight := fun h => h.cons stands (Or.inl rfl)
  cases h with
  | blank blank h => exact .blank blank (ashore.trans h)
  | unread r gentle bad h read only =>
    exact .unread r gentle bad (ashore.trans h) (read.cons t)
      (only.cons fun moved => absurd same moved)
  | hit v gentle live h read => exact .hit v gentle live (ashore.trans h) (read.cons t)
  | told flight r some_key h known plain =>
    exact .told flight r some_key (aboard h) (exists_cons known t) plain
  | gaveUp flight limit some_key h set passed =>
    exact .gaveUp flight limit some_key (aboard h) set (exists_cons passed t)
  | crashed flight text some_key h crashed =>
    exact .crashed flight text some_key (aboard h) (exists_cons crashed t)
  | saved flight a i r some_key h forced joined known own finished =>
    exact .saved flight a i r some_key (aboard h) forced joined (exists_cons known t)
      ((lately?_cons stands rfl).trans own) (exists_cons finished t)

theorem Journey.cons {keys : KeyScheme} {policy : Policy} {key : String} {origin : ω}
    {s : Caller.Stage} (h : Journey keys past c policy key origin s)
    (stands : t.after.stage? c = some s)
    (same : t.after.callers[c]? = t.before.callers[c]?) :
    Journey keys (t :: past) c policy key origin s := by
  cases h with
  | reading some_key gentle ashore asked only =>
    exact .reading some_key gentle ((lately?_cons stands rfl).trans ashore)
      (exists_cons asked t) (only.cons fun moved => absurd same moved)
  | waiting flight some_key aboard =>
    exact .waiting flight some_key
      (aboard.cons stands (Or.inr rfl))
  | saving flight a i some_key aboard forced joined known own =>
    exact .saving flight a i some_key (aboard.cons stands (Or.inl rfl)) forced joined
      (exists_cons known t) (lately?_cons_of_some stands rfl)
  | answered r how => exact .answered r (how.cons stands same)
  | gone => exact .gone

end History

/-! ## A turn carries the journeys on -/

namespace Proxy

variable {now : Moment} {p p' p₀ : Proxy ω} {e : Event ω} {fx : List (Effect ω)}
  {past : List (Turn ω)} {c : Nat}

theorem newcomer_of_addCaller {r : Request ω} {s : Caller.Stage} {x : Caller ω}
    (at_ : (p.addCaller r s).callers[c]? = some x)
    (moved : (p.addCaller r s).callers[c]? ≠ p.callers[c]?) : c = p.callers.length ∧ x = ⟨r, s⟩ := by
  rw [getElem?_addCaller] at at_ moved
  split at at_
  case isTrue last => exact ⟨last, (Option.some.inj at_).symm⟩
  case isFalse old => exact absurd (if_neg old) moved

theorem mover_of_setStage {d : Nat} {s : Caller.Stage} {x : Caller ω}
    (at_ : (p.setStage d s).callers[c]? = some x)
    (moved : (p.setStage d s).callers[c]? ≠ p.callers[c]?) :
    d = c ∧ ∃ y, p.callers[c]? = some y ∧ x = { y with stage := s } := by
  rcases getElem?_setStage_cases at_ with ⟨rfl, y, hy, rfl⟩ | ⟨-, same⟩
  · exact ⟨rfl, y, hy, rfl⟩
  · exact absurd (at_.trans same.symm) moved

/-- A caller that moves has just come, or was waiting. -/
theorem Step.within (step : p.Step now e fx p') {x : Caller ω} (at_ : p'.callers[c]? = some x)
    (moved : p'.callers[c]? ≠ p.callers[c]?) : Turn.Within ⟨now, e, p, fx, p'⟩ c where
  come := (List.getElem?_eq_some_iff.1 at_).1
  waits y before := by
    obtain ⟨z, still, -, same⟩ := step.keeps_caller before
    cases settled : y.stage.isSettled with
    | false => rfl
    | true =>
      rw [same settled] at still
      exact absurd (still.trans before.symm) moved

section Boards

variable {policy : Policy} {key : String} {origin : ω} {guarded : Bool} {p₁ : Proxy ω}
  {flight : Flight}

/-- Whoever comes to a flight finds its key taken by it. -/
theorem Boards.taken (b : p.Boards policy key origin guarded p₁ flight fx) :
    p₁.fetches.inFlight.get? key = some flight.fetch := by
  cases b with
  | leadThrough free | leadBack free => exact (Coalescer.get?_start ..).trans (if_pos rfl)
  | joinThrough id taken | joinBack id taken => exact taken

/-- Whoever leads a flight has started it. -/
theorem Boards.starts (b : p.Boards policy key origin guarded p₁ flight fx) (gx : List (Effect ω))
    (same : p'.fetches = p₁.fetches) :
    flight.leader = Turn.starts ⟨now, e, p, gx, p'⟩ flight.fetch := by
  unfold Turn.starts
  rw [same]
  cases b with
  | leadThrough free | leadBack free => simp [Coalescer.start]
  | joinThrough id taken | joinBack id taken =>
    symm
    rw [Bool.and_eq_false_iff]
    by_cases last : p.fetches.fetches.length = id
    · exact Or.inr (by simp [last])
    · exact Or.inl (by simpa using last)

end Boards

/-- A caller that is still to come stands nowhere in the history. -/
theorem unseen (trail : Trail p₀ past p) (new : p.callers.length ≤ c) :
    ∀ t ∈ past, t.after.callers[c]? = none := by
  intro t ht
  refine List.getElem?_eq_none (Nat.le_of_not_lt fun come => ?_)
  exact Nat.lt_irrefl c (Nat.lt_of_lt_of_le (trail.lasts (lasting_came c) ht come) new)

/-- Before a caller has come, it has been through no stage. -/
theorem lately?_of_unseen {α : Type} {read : Caller.Stage → Option α}
    (nobody : ∀ t ∈ past, t.after.callers[c]? = none) : lately? read past c = none := by
  induction past with
  | nil => rfl
  | cons t past ih =>
    rw [lately?, stage?, nobody t List.mem_cons_self]
    exact ih fun u hu => nobody u (List.mem_cons_of_mem _ hu)

/-- Before a caller has come, nothing has happened to it. -/
theorem unborn (trail : Trail p₀ past p) (new : p.callers.length ≤ c) :
    flight? past c = none ∧ ∀ storeKey, HasOnlyRead past c storeKey := by
  have nobody := unseen trail new
  refine ⟨lately?_of_unseen nobody, fun storeKey t ht moved => ?_⟩
  have none_before : t.before.callers.length ≤ c :=
    Nat.le_trans (trail.of_mem ht).2.callers_length_le
      (List.getElem?_eq_none_iff.1 (nobody t ht))
  exact absurd ((nobody t ht).trans (List.getElem?_eq_none none_before).symm) moved

/-- Every lookup has come by a journey to where it stands. -/
def Travelled (past : List (Turn ω)) (p : Proxy ω) : Prop :=
  ∀ (c : Nat) (policy : Policy) (key : String) (origin : ω) (s : Caller.Stage),
    p.callers[c]? = some ⟨.lookup policy key origin, s⟩ →
      Journey p.keys past c policy key origin s

/-- A lookup comes to the end of its wait, and nobody else is touched. -/
theorem Settles.journey {policy : Policy} {key : String} {origin : ω} {s s' : Caller.Stage}
    (how : p.Settles now c ⟨.lookup policy key origin, s⟩ e fx s')
    (h : Journey p.keys past c policy key origin s)
    (at_ : p.callers[c]? = some ⟨.lookup policy key origin, s⟩)
    (within : Turn.Within ⟨now, e, p, fx, p.setStage c s'⟩ c) :
    Journey p.keys (⟨now, e, p, fx, p.setStage c s'⟩ :: past) c policy key origin s' := by
  have stands : (p.setStage c s').stage? c = some s' :=
    stage?_eq_some_iff.2 ⟨_, callers_setStage _ at_⟩
  cases how with
  | unread policy key origin r bad =>
    cases h with
    | reading some_key gentle ashore asked only =>
      exact .answered _ (.unread r gentle bad ((lately?_cons stands rfl).trans ashore)
        ⟨[], _, past, rfl, within, rfl, asked⟩ (only.cons fun _ => ⟨rfl, rfl, rfl, Or.inl rfl⟩))
  | hit policy key origin v live still =>
    cases h with
    | reading some_key gentle ashore asked only =>
      exact .answered _ (.hit v gentle live ((lately?_cons stands rfl).trans ashore)
        ⟨[], _, past, rfl, within, rfl, asked⟩)
  | told policy key origin flight r e looks known plain =>
    cases h with
    | waiting flight some_key aboard =>
      exact .answered _ (.told flight r some_key (aboard.cons stands (Or.inl rfl))
        (exists_cons_self past known) plain)
  | gaveUp policy key origin flight limit set running =>
    cases h with
    | waiting flight some_key aboard =>
      exact .answered _ (.gaveUp flight limit some_key (aboard.cons stands (Or.inl rfl)) set
        (exists_cons_self past ⟨rfl, stage?_eq_some_iff.2 ⟨_, at_⟩, running⟩))
  | crashed r flight text =>
    cases h with
    | waiting flight some_key aboard =>
      exact .answered _ (.crashed flight text some_key (aboard.cons stands (Or.inl rfl))
        (exists_cons_self past rfl))
  | saved r i payload x result there known =>
    cases h with
    | saving flight a i some_key aboard forced joined fetched own =>
      exact .answered _ (.saved flight a i result some_key (aboard.cons stands (Or.inl rfl)) forced
        joined (exists_cons fetched _) ((lately?_cons stands rfl).trans own)
        (exists_cons_self past ⟨x, there, known⟩))
  | written | deleted => cases h
  | left => exact .gone

theorem Travelled.turn (trail : Trail p₀ past p) (h : p.Travelled past)
    (step : p.Step now e fx p') : p'.Travelled (⟨now, e, p, fx, p'⟩ :: past) := by
  intro c policy key origin s at_
  rw [step.keys]
  have stands : p'.stage? c = some s := stage?_eq_some_iff.2 ⟨_, at_⟩
  by_cases moved : p'.callers[c]? = p.callers[c]?
  case pos => exact (h c policy key origin s (moved ▸ at_)).cons stands moved
  have within := step.within at_ moved
  cases step with
  | arrive r fx s' how =>
    obtain ⟨new, e⟩ := newcomer_of_addCaller at_ moved
    cases e
    obtain ⟨ashore, only⟩ := unborn trail (Nat.le_of_eq new.symm)
    cases how with
    | vacuous r a blank told =>
      subst told
      exact .answered _ (.blank (Option.some.inj blank) ((lately?_cons stands rfl).trans ashore))
    | read policy key origin some_key gentle =>
      rw [← new] at within ⊢
      refine .reading some_key gentle ((lately?_cons stands rfl).trans ashore)
        (exists_cons_self past ⟨within, List.mem_singleton.2 rfl⟩)
        ((only _).cons fun _ => ⟨rfl, rfl, rfl, Or.inr rfl⟩)
  | force policy key origin p₁ flight fx some_key forced how =>
    have callers := how.callers
    obtain ⟨new, e⟩ := newcomer_of_addCaller at_ (by rw [callers]; exact moved)
    cases e
    exact .waiting flight some_key ⟨lately?_cons_of_some stands rfl,
      exists_cons_self past ⟨within, stands, how.taken, how.starts _ rfl, Or.inl ⟨forced, rfl⟩⟩⟩
  | drain =>
    obtain ⟨-, e⟩ := newcomer_of_addCaller (p := { p with pool := _ }) at_ moved
    cases e
  | settle d x e fx s' here how =>
    obtain ⟨rfl, ⟨q, waited⟩, before, e⟩ := mover_of_setStage at_ moved
    rw [before] at here
    cases here
    cases e
    exact how.journey (h _ _ _ _ _ before) before within
  | miss d policy key origin o p₁ flight fx here missing how =>
    have callers := how.callers
    obtain ⟨rfl, y, before, e⟩ := mover_of_setStage at_ (by rw [callers]; exact moved)
    rw [callers, here] at before
    cases before
    cases e
    cases h _ _ _ _ _ here with
    | reading some_key gentle ashore asked only =>
      exact .waiting flight some_key ⟨lately?_cons_of_some stands rfl, exists_cons_self past
        ⟨within, stands, how.taken, how.starts _ rfl, Or.inr ⟨gentle, o, rfl, missing⟩⟩⟩
  | stale d policy key origin v p₁ flight fx here live old how =>
    have callers := how.callers
    obtain ⟨rfl, y, before, e⟩ :=
      mover_of_setStage (p := { p₁ with pool := _ }) at_ (by rw [← callers] at moved; exact moved)
    change p₁.callers[_]? = some y at before
    rw [callers, here] at before
    cases before
    cases e
    cases h _ _ _ _ _ here with
    | reading some_key gentle ashore asked only =>
      exact .answered _ (.hit v gentle live ((lately?_cons stands rfl).trans ashore)
        ⟨[], _, past, rfl, within, rfl, asked⟩)
  | again d policy key origin flight a e here looks known forced joined =>
    obtain ⟨rfl, y, before, e⟩ := mover_of_setStage (p := { p with saves := _ }) at_ moved
    change p.callers[_]? = some y at before
    rw [here] at before
    cases before
    cases e
    cases h _ _ _ _ _ here with
    | waiting flight some_key aboard =>
      exact .saving flight a p.saves.length some_key (aboard.cons stands (Or.inl rfl)) forced joined
        (exists_cons_self past known) (lately?_cons_of_some stands rfl)
  | drained d q w here | leaveDrain d q w here =>
    -- A lookup does not wait with the pool.
    obtain ⟨rfl, y, before, e⟩ := mover_of_setStage (p := { p with pool := _ }) at_ moved
    change p.callers[_]? = some y at before
    rw [here] at before
    cases before
    cases e
    cases h _ _ _ _ _ here
  | parks | ask | store | passOn | failThrough | failBack | stored | queue | write | await | skip
  | endJob | save | saved => exact absurd rfl moved

end Proxy

namespace Scene

theorem travelled_run (keys : KeyScheme) (maxTasks : Nat) (es : List (Moment × Event ω)) :
    ((start keys maxTasks).run es).proxy.Travelled ((start keys maxTasks).run es).past := by
  refine turn_induction (P := fun past p => p.Travelled past) ?_ ?_ es
  · intro es now e fx p taken h
    exact h.turn (trail_run keys maxTasks es) taken
  · intro c policy key origin s at_
    cases at_

/-- Every answer of a lookup in a run has its explanation in the history. -/
theorem explained_run (keys : KeyScheme) (maxTasks : Nat) (es : List (Moment × Event ω)) {c : Nat}
    {policy : Policy} {key : String} {origin : ω} {r : Outcome Answer}
    (at_ : ((start keys maxTasks).run es).proxy.callers[c]? =
      some ⟨.lookup policy key origin, .answered r⟩) :
    Explained keys ((start keys maxTasks).run es).past c policy key origin r := by
  have journey := travelled_run keys maxTasks es c policy key origin _ at_
  rw [(accounted_run keys maxTasks es).scheme] at journey
  cases journey with
  | answered r how => exact how

end Scene

end ReadThrough
