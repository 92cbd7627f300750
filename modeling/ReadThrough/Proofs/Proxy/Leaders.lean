import ReadThrough.Proofs.Proxy.Scene

/-!
# Who leads a fetch

A fetch belongs to the call that started it: it asks that call's origin for that call's key, and
its answer is written under that call's policy. A proxy keeps of this only what the fetch still
needs. Here it is read off the history instead. `wish?` says what a call wants of the origin
when it gets as far as wanting something, and in what role; `leader?` finds the turn in which a
fetch was started, and its wish.

`Documented` says that the two agree at all times, and that a fetch is as far as the history
says: it has asked its origin, and what it has been answered, it was answered.
-/

set_option autoImplicit false

namespace ReadThrough

/-- How a call comes to want a fetch. -/
inductive Role where
  /-- It does not look into the store. -/
  | forced
  /-- The store has nothing for it. -/
  | missed
  /-- What the store has for it is to be refreshed behind its back. -/
  | stale
  deriving DecidableEq, Repr

/-- What a call wants of the origin: on whose behalf, under which policy, and for which key. -/
structure Wish (ω : Type) where
  role : Role
  policy : Policy
  key : String
  origin : ω

/-- Whose policy the write of a fetch follows. -/
def AfterFetch.policy : AfterFetch → Policy
  | writeThrough policy _ | writeBack policy _ _ => policy

/-- Where the write of a fetch goes. -/
def AfterFetch.storeKey : AfterFetch → String
  | writeThrough _ storeKey | writeBack _ storeKey _ => storeKey

/-- The fetch is the one that was wished for. -/
structure Wish.Suits {ω : Type} (keys : KeyScheme) (w : Wish ω) (f : Fetch (Plan ω)) : Prop where
  key : f.key = w.key
  origin : f.plan.origin = w.origin
  policy : f.plan.after.policy = w.policy
  storeKey : f.plan.after.storeKey = keys.build w.key

namespace Proxy

variable {ω : Type} {now : Moment} {p p' : Proxy ω}

/-- What an event makes a call want of the origin. -/
def wish? (now : Moment) (p : Proxy ω) : Event ω → Option (Wish ω)
  | .request (.lookup policy key origin) =>
    if policy.force ∧ key ≠ "" then some ⟨.forced, policy, key, origin⟩ else none
  | .readAnswered c (.ok o) =>
    match p.callers[c]?, o with
    | some ⟨.lookup policy key origin, .reading⟩, none => some ⟨.missed, policy, key, origin⟩
    | some ⟨.lookup policy key origin, .reading⟩, some v =>
      if v.absent then some ⟨.missed, policy, key, origin⟩
      else if policy.judgesStale v now ∧ policy.background then some ⟨.stale, policy, key, origin⟩
      else none
    | _, _ => none
  | _ => none

/-- A wish is that of a forced lookup which comes, or of one that has just read the store. -/
theorem wish?_cases {e : Event ω} {w : Wish ω} (wished : p.wish? now e = some w) :
    (w.role = .forced ∧ e = .request (.lookup w.policy w.key w.origin) ∧
      w.policy.force = true ∧ w.key ≠ "") ∨
    ∃ c o, e = .readAnswered c (.ok o) ∧
      p.callers[c]? = some ⟨.lookup w.policy w.key w.origin, .reading⟩ ∧
      ((w.role = .missed ∧ ∀ v, o = some v → v.absent = true) ∨
        (w.role = .stale ∧ ∃ v, o = some v ∧ v.absent = false ∧
          (w.policy.judgesStale v now && w.policy.background) = true)) := by
  cases e with
  | request r =>
    cases r with
    | lookup policy key origin =>
      simp only [wish?] at wished
      split at wished
      case isTrue both =>
        cases wished
        exact Or.inl ⟨rfl, rfl, both⟩
      case isFalse => cases wished
    | set | remove | drain => cases wished
  | readAnswered c r =>
    cases r with
    | ok o =>
      simp only [wish?] at wished
      split at wished
      case h_1 policy key origin at_ =>
        cases wished
        exact Or.inr ⟨c, none, rfl, at_, Or.inl ⟨rfl, by simp⟩⟩
      case h_2 policy key origin v at_ =>
        split at wished
        case isTrue absent =>
          cases wished
          exact Or.inr ⟨c, some v, rfl, at_, Or.inl ⟨rfl, by simpa using absent⟩⟩
        case isFalse live =>
          split at wished <;> cases wished
          case isTrue old =>
            exact Or.inr ⟨c, some v, rfl, at_, Or.inr ⟨rfl, v, rfl, by simpa using live,
              by simpa using old⟩⟩
      case h_3 => cases wished
    | failed | crashed => cases wished
  | resume | originAnswered | writeAnswered | deleteAnswered | limitPassed | limitCrashed
  | abandoned => cases wished

/-! ## What becomes of a fetch -/

/-- What a fetch is after a step, by what it was before. -/
inductive Proceeds (now : Moment) (p : Proxy ω) (e : Event ω) (fx : List (Effect ω))
    (p' : Proxy ω) (id : Nat) : Fetch (Plan ω) → Prop
  | started (f : Fetch (Plan ω)) (w : Wish ω) (wished : p.wish? now e = some w)
      (new : id = p.fetches.fetches.length) (last : p'.fetches.fetches.length = id + 1)
      (suits : w.Suits p.keys f) (queued : f.stage = .queued) : Proceeds now p e fx p' id f
  | stays (f : Fetch (Plan ω)) (at_ : p.fetches.fetches[id]? = some f) : Proceeds now p e fx p' id f
  | asked (f : Fetch (Plan ω)) (at_ : p.fetches.fetches[id]? = some f)
      (told : .ask id f.key f.plan.origin ∈ fx) :
      Proceeds now p e fx p' id { f with stage := .asking }
  | answered (f : Fetch (Plan ω)) (a : Fetched) (s : Fetch.Stage)
      (at_ : p.fetches.fetches[id]? = some f) (asking : f.stage = .asking)
      (event : e = .originAnswered id (.ok a)) (stage : s = .storing a ∨ s = .ended (.ok a)) :
      Proceeds now p e fx p' id { f with stage := s }
  | failed (f : Fetch (Plan ω)) (err : Error) (at_ : p.fetches.fetches[id]? = some f)
      (asking : f.stage = .asking) :
      Proceeds now p e fx p' id { f with stage := .ended (.error err) }
  | stored (f : Fetch (Plan ω)) (a : Fetched) (r : Outcome Unit)
      (at_ : p.fetches.fetches[id]? = some f) (storing : f.stage = .storing a) :
      Proceeds now p e fx p' id { f with stage := .ended (Coalescer.concluded a r) }

section Boards

variable {policy : Policy} {key : String} {origin : ω} {guarded : Bool} {p₁ : Proxy ω}
  {flight : Flight} {fx : List (Effect ω)}

/-- A fetch that is there after boarding was there before, or it is new and just what was wished
for. -/
theorem Boards.fetch (b : p.Boards policy key origin guarded p₁ flight fx) {id : Nat}
    {f : Fetch (Plan ω)} (at_ : p₁.fetches.fetches[id]? = some f) :
    p.fetches.fetches[id]? = some f ∨
      (id = p.fetches.fetches.length ∧ p₁.fetches.fetches.length = id + 1 ∧ f.stage = .queued ∧
        ∀ role, Wish.Suits p.keys ⟨role, policy, key, origin⟩ f) := by
  cases b with
  | leadThrough free | leadBack free =>
    rw [Coalescer.getElem?_start] at at_
    split at at_
    case isTrue new =>
      cases at_
      exact Or.inr ⟨new, by simp [Coalescer.start, new], rfl, fun _ => ⟨rfl, rfl, rfl, rfl⟩⟩
    case isFalse => exact Or.inl at_
  | joinThrough | joinBack => exact Or.inl at_

theorem Boards.length_le (b : p.Boards policy key origin guarded p₁ flight fx) :
    p.fetches.fetches.length ≤ p₁.fetches.fetches.length := by
  cases b with
  | leadThrough free | leadBack free => exact (Coalescer.Move.start key _ free).length_le
  | joinThrough | joinBack => exact Nat.le_refl _

end Boards

/-- Where a step ends one fetch, that is how this one proceeds, and the others stay. -/
theorem proceeds_of_finish {e : Event ω} {fx : List (Effect ω)} {id i : Nat} {f g : Fetch (Plan ω)}
    {r : Except Error Fetched} (at_ : p.fetches.fetches[id]? = some f)
    (hg : (p.fetches.finish f.key id r).fetches[i]? = some g)
    (ends : Proceeds now p e fx p' id { f with stage := .ended r }) :
    Proceeds now p e fx p' i g := by
  rcases Coalescer.getElem?_finish_cases hg with ⟨rfl, g, there, rfl⟩ | ⟨-, same⟩
  · rw [at_] at there
    cases there
    exact ends
  · exact .stays g same

/-- Where a step brings one fetch to another stage, likewise. -/
theorem proceeds_of_setStage {e : Event ω} {fx : List (Effect ω)} {id i : Nat}
    {f g : Fetch (Plan ω)} {s : Fetch.Stage} (at_ : p.fetches.fetches[id]? = some f)
    (hg : (p.fetches.setStage id s).fetches[i]? = some g)
    (comes : Proceeds now p e fx p' id { f with stage := s }) : Proceeds now p e fx p' i g := by
  rcases Coalescer.getElem?_setStage_cases hg with ⟨rfl, g, there, rfl⟩ | ⟨-, same⟩
  · rw [at_] at there
    cases there
    exact comes
  · exact .stays g same

/-- In a step every fetch proceeds in one of these ways. It is told from the state after the step,
so that a fetch which has just been started is among them. -/
theorem Step.proceeds {e : Event ω} {fx : List (Effect ω)} (step : p.Step now e fx p') {i : Nat}
    {g : Fetch (Plan ω)} (hg : p'.fetches.fetches[i]? = some g) :
    Proceeds now p e fx p' i g := by
  cases step with
  | force policy key origin p₁ flight fx some_key forced how =>
    rcases how.fetch hg with old | ⟨new, last, queued, suits⟩
    · exact .stays g old
    · exact .started g ⟨.forced, policy, key, origin⟩ (by simp [wish?, forced, some_key]) new last
        (suits _) queued
  | miss c policy key origin o p₁ flight fx at_ missing how =>
    rcases how.fetch hg with old | ⟨new, last, queued, suits⟩
    · exact .stays g old
    · refine .started g ⟨.missed, policy, key, origin⟩ ?_ new last (suits _) queued
      cases o with
      | none => simp [wish?, at_]
      | some v => simp [wish?, at_, missing v rfl]
  | stale c policy key origin v p₁ flight fx at_ live old how =>
    rcases how.fetch hg with before | ⟨new, last, queued, suits⟩
    · exact .stays g before
    · refine .started g ⟨.stale, policy, key, origin⟩ ?_ new last (suits _) queued
      simp only [Bool.and_eq_true] at old
      simp [wish?, at_, live, old]
  | ask id f at_ stage =>
    exact proceeds_of_setStage at_ hg (.asked f at_ (List.mem_singleton.2 rfl))
  | store id f a policy storeKey at_ stage plan =>
    exact proceeds_of_setStage at_ hg (.answered f a _ at_ stage rfl (Or.inl rfl))
  | passOn id f a policy storeKey guard pool₁ pool₂ spawned idle at_ stage plan spawn back =>
    exact proceeds_of_finish at_ hg (.answered f a _ at_ stage rfl (Or.inr rfl))
  | failThrough id f r err at_ stage bad plan =>
    exact proceeds_of_finish at_ hg (.failed f err at_ stage)
  | failBack id f r err guard pool₁ idle at_ stage bad plan back =>
    exact proceeds_of_finish at_ hg (.failed f err at_ stage)
  | stored id f a r at_ stage => exact proceeds_of_finish at_ hg (.stored f a r at_ stage)
  | arrive | drain | settle | again | drained | parks | leaveDrain | queue | write | await | skip
  | endJob | save | saved => exact .stays g hg

/-- Fetches are numbered as they are started, and stay when they have ended. -/
theorem Step.length_le {e : Event ω} {fx : List (Effect ω)} (step : p.Step now e fx p') :
    p.fetches.fetches.length ≤ p'.fetches.fetches.length := by
  cases step with
  | force policy key origin p₁ flight fx some_key forced how => exact how.length_le
  | miss c policy key origin o p₁ flight fx at_ missing how => exact how.length_le
  | stale c policy key origin v p₁ flight fx at_ live old how => exact how.length_le
  | ask | store => simp
  | passOn | failThrough | failBack | stored => simp [Coalescer.finish]
  | arrive | drain | settle | again | drained | parks | leaveDrain | queue | write | await | skip
  | endJob | save | saved => exact Nat.le_refl _

/-- A fetch keeps what it is for. -/
theorem Step.keeps_fetch {e : Event ω} {fx : List (Effect ω)} (step : p.Step now e fx p')
    {id : Nat} {f : Fetch (Plan ω)} (at_ : p.fetches.fetches[id]? = some f) :
    ∃ g, p'.fetches.fetches[id]? = some g ∧ g.key = f.key ∧ g.plan = f.plan := by
  have there := (List.getElem?_eq_some_iff.1 at_).1
  obtain ⟨g, still⟩ : ∃ g, p'.fetches.fetches[id]? = some g :=
    ⟨_, List.getElem?_eq_getElem (Nat.lt_of_lt_of_le there step.length_le)⟩
  refine ⟨g, still, ?_⟩
  cases step.proceeds still with
  | started g w wished new => exact absurd there (by omega)
  | stays g here | asked g here | answered g a s here | failed g err here | stored g a r here =>
    rw [at_] at here
    cases here
    exact ⟨rfl, rfl⟩

/-- What becomes of the pool when the origin has answered a fetch: where the write comes first there
is nothing to do yet, where it comes later there is a job for it, and a guard goes back. -/
theorem Step.of_originAnswered {id : Nat} {o : Outcome Fetched} {fx : List (Effect ω)}
    (step : p.Step now (.originAnswered id o) fx p') :
    ∃ f, p.fetches.fetches[id]? = some f ∧ f.stage = .asking ∧
      ((∃ a, o = .ok a ∧ f.plan.after.guard? = none ∧ p'.pool = p.pool) ∨
      (∃ a guard, o = .ok a ∧ f.plan.after.guard? = some guard ∧
        p'.pool = ((p.pool.spawn (.writeBack f.plan.after.storeKey (a.stamp now)
          (f.plan.after.policy.ttlFor a.payload))).1.giveBack guard).1) ∨
      ((∀ a, o ≠ .ok a) ∧
        p'.pool = f.plan.after.guard?.elim p.pool fun guard => (p.pool.giveBack guard).1)) := by
  have failed : ∀ {r : Outcome Fetched} {err}, r.caught Coalescer.crashError = .error err →
      ∀ a, r ≠ .ok a := by
    rintro r err bad a rfl
    cases bad
  cases step with
  | settle c x e fx s here how =>
    cases how with
    | told policy key origin flight r e looks => rcases looks with e | e <;> cases e
  | again c policy key origin flight a e here looks => rcases looks with e | e <;> cases e
  | endJob j work e r pool₁ wakes here how => cases how
  | store id f a policy storeKey at_ stage plan =>
    exact ⟨f, at_, stage, Or.inl ⟨a, rfl, by rw [plan]; rfl, rfl⟩⟩
  | passOn id f a policy storeKey guard pool₁ pool₂ spawned idle at_ stage plan spawn back =>
    refine ⟨f, at_, stage, Or.inr (Or.inl ⟨a, guard, rfl, by rw [plan]; rfl, ?_⟩)⟩
    rw [plan]
    show pool₂ = ((p.pool.spawn
      (.writeBack storeKey (a.stamp now) (policy.ttlFor a.payload))).1.giveBack guard).1
    rw [spawn, back]
  | failThrough id f r err at_ stage bad plan =>
    exact ⟨f, at_, stage, Or.inr (Or.inr ⟨failed bad, by rw [plan]; rfl⟩)⟩
  | failBack id f r err guard pool₁ idle at_ stage bad plan back =>
    refine ⟨f, at_, stage, Or.inr (Or.inr ⟨failed bad, ?_⟩)⟩
    rw [plan]
    show pool₁ = (p.pool.giveBack guard).1
    rw [back]

/-- The origin is asked for a fetch by the turn of that fetch, and for its key. -/
theorem Step.asks {e : Event ω} {fx : List (Effect ω)} (step : p.Step now e fx p') {id : Nat}
    {key : String} {origin : ω} (asked : .ask id key origin ∈ fx) :
    e = .resume (.fetch id) ∧
      ∃ f, p.fetches.fetches[id]? = some f ∧ f.key = key ∧ f.plan.origin = origin := by
  have no_wake : ∀ {gx : List (Effect ω)}, (∀ x ∈ gx, ∃ t, x = .wake t) →
      .ask id key origin ∉ gx := by
    intro gx wakes hx
    obtain ⟨t, e⟩ := wakes _ hx
    cases e
  have no_limit : ∀ c policy, .ask id key origin ∉ (limitOf c policy : List (Effect ω)) := by
    intro c policy hx
    obtain ⟨limit, e, -⟩ := limit_of_mem_limitOf hx
    cases e
  have no_log : ∀ work r, .ask id key origin ∉ (endLog work r : List (Effect ω)) := by
    intro work r hx
    obtain ⟨line, e⟩ := log_of_mem_endLog hx
    cases e
  cases step with
  | ask id' f at_ stage =>
    cases List.mem_singleton.1 asked
    exact ⟨rfl, f, at_, rfl, rfl⟩
  | arrive r fx s how => cases how <;> simp at asked
  | settle c x e fx s at_ how => cases how <;> simp at asked
  | force policy key' origin' p₁ flight fx some_key forced how =>
    rcases List.mem_append.1 asked with h | h
    · exact absurd h (no_wake fun x => how.wakes)
    · exact absurd h (no_limit _ _)
  | miss c policy key' origin' o p₁ flight fx at_ missing how =>
    rcases List.mem_append.1 asked with h | h
    · exact absurd h (no_wake fun x => how.wakes)
    · exact absurd h (no_limit _ _)
  | stale c policy key' origin' v p₁ flight fx at_ live old how =>
    rcases List.mem_append.1 asked with h | h
    · exact absurd h (no_wake fun x => how.wakes)
    · simp at h
  | passOn | failBack =>
    rcases List.mem_append.1 asked with h | h
    · exact absurd h (no_wake fun x => wake_of_mem_poolWakes)
    · exact absurd h (no_wake fun x => wake_of_mem_fetchWakes)
  | failThrough | stored => exact absurd asked (no_wake fun x => wake_of_mem_fetchWakes)
  | skip | endJob =>
    rcases List.mem_append.1 asked with h | h
    · exact absurd h (no_log _ _)
    · exact absurd h (no_wake fun x => wake_of_mem_poolWakes)
  | saved =>
    obtain ⟨c, -, e⟩ := List.mem_map.1 asked
    cases e
  | drain | again | drained | parks | leaveDrain | store | queue | write | await | save =>
    simp at asked

theorem Step.keys {e : Event ω} {fx : List (Effect ω)} (step : p.Step now e fx p') :
    p'.keys = p.keys := by
  cases step with
  | force policy key origin p₁ flight fx some_key forced how => exact how.keys
  | miss c policy key origin o p₁ flight fx at_ missing how => exact how.keys
  | stale c policy key origin v p₁ flight fx at_ live old how => exact how.keys
  | _ => rfl

end Proxy

/-! ## The history of a fetch -/

/-- The turn has started the fetch. -/
def Turn.starts {ω : Type} (t : Turn ω) (id : Nat) : Bool :=
  t.before.fetches.fetches.length == id && t.after.fetches.fetches.length == id + 1

/-- What the call wanted that started a fetch. -/
def leader? {ω : Type} : List (Turn ω) → Nat → Option (Wish ω)
  | [], _ => none
  | t :: past, id => if t.starts id then t.before.wish? t.now t.event else leader? past id

/-- The origin has been asked for this key, on behalf of this fetch. -/
def Asked {ω : Type} (past : List (Turn ω)) (id : Nat) (key : String) (origin : ω) : Prop :=
  ∃ t ∈ past, .ask id key origin ∈ t.effects

/-- The origin has answered this fetch with this. -/
def Answered {ω : Type} (past : List (Turn ω)) (id : Nat) (a : Fetched) : Prop :=
  ∃ t ∈ past, t.event = .originAnswered id (.ok a)

section History

variable {ω : Type} {past : List (Turn ω)} {id : Nat}

theorem Asked.cons {key : String} {origin : ω} (h : Asked past id key origin) (t : Turn ω) :
    Asked (t :: past) id key origin :=
  h.imp fun _ h => ⟨List.mem_cons_of_mem _ h.1, h.2⟩

theorem Answered.cons {a : Fetched} (h : Answered past id a) (t : Turn ω) :
    Answered (t :: past) id a :=
  h.imp fun _ h => ⟨List.mem_cons_of_mem _ h.1, h.2⟩

/-- Who has started a fetch is settled once it is there. -/
theorem leader?_cons {t : Turn ω} (old : id < t.before.fetches.fetches.length) :
    leader? (t :: past) id = leader? past id := by
  have other : ¬t.starts id = true := by
    simp [Turn.starts, Nat.ne_of_gt old]
  rw [leader?, if_neg other]

/-- The history accounts for a fetch. -/
structure Recorded (past : List (Turn ω)) (keys : KeyScheme) (id : Nat) (f : Fetch (Plan ω)) :
    Prop where
  led : ∃ w, leader? past id = some w ∧ w.Suits keys f
  asked : f.stage ≠ .queued → Asked past id f.key f.plan.origin
  storing : ∀ a, f.stage = .storing a → Answered past id a
  ended : ∀ a, f.stage = .ended (.ok a) → Answered past id a

theorem Wish.Suits.setStage {keys : KeyScheme} {w : Wish ω} {f : Fetch (Plan ω)}
    (h : w.Suits keys f) (s : Fetch.Stage) : w.Suits keys { f with stage := s } :=
  ⟨h.key, h.origin, h.policy, h.storeKey⟩

theorem Recorded.cons {keys : KeyScheme} {f : Fetch (Plan ω)} (h : Recorded past keys id f)
    {t : Turn ω} (old : t.before.fetches.fetches[id]? = some f) :
    Recorded (t :: past) keys id f := by
  have led : leader? (t :: past) id = leader? past id :=
    leader?_cons (List.getElem?_eq_some_iff.1 old).1
  exact ⟨by rw [led]; exact h.led, fun ne => (h.asked ne).cons t,
    fun a e => (h.storing a e).cons t, fun a e => (h.ended a e).cons t⟩

theorem concluded_eq_ok {a b : Fetched} {r : Outcome Unit}
    (h : Coalescer.concluded a r = .ok b) : a = b := by
  cases r <;> cases h
  rfl

/-- A turn is recorded for every fetch, as far as it brings the fetch. -/
theorem Recorded.turn {now : Moment} {p p' : Proxy ω} {e : Event ω} {fx : List (Effect ω)}
    (h : ∀ f, p.fetches.fetches[id]? = some f → Recorded past p.keys id f)
    (step : p.Step now e fx p') {g : Fetch (Plan ω)} (hg : p'.fetches.fetches[id]? = some g) :
    Recorded (⟨now, e, p, fx, p'⟩ :: past) p'.keys id g := by
  rw [step.keys]
  cases step.proceeds hg with
  | started f w wished new last suits queued =>
    have starts : Turn.starts ⟨now, e, p, fx, p'⟩ id = true := by
      simp [Turn.starts, new ▸ last, new]
    refine ⟨⟨w, ?_, suits⟩, fun ne => absurd queued ne, ?_, ?_⟩
    · rw [leader?, if_pos starts]
      exact wished
    · intro a e
      rw [queued] at e
      cases e
    · intro a e
      rw [queued] at e
      cases e
  | stays f at_ => exact (h g at_).cons at_
  | asked f at_ told =>
    obtain ⟨w, hw, suits⟩ := ((h f at_).cons (t := ⟨now, e, p, fx, p'⟩) at_).led
    exact ⟨⟨w, hw, suits.setStage _⟩, fun _ => ⟨_, List.mem_cons_self, told⟩,
      nofun, nofun⟩
  | answered f a stage at_ asking event ends =>
    have before := (h f at_).cons (t := ⟨now, e, p, fx, p'⟩) at_
    obtain ⟨w, hw, suits⟩ := before.led
    have here : Answered (⟨now, e, p, fx, p'⟩ :: past) id a := ⟨_, List.mem_cons_self, event⟩
    refine ⟨⟨w, hw, suits.setStage _⟩, fun _ => before.asked (by rw [asking]; simp), ?_, ?_⟩
    · intro b e
      rcases ends with rfl | rfl <;> cases e
      exact here
    · intro b e
      rcases ends with rfl | rfl <;> cases e
      exact here
  | failed f err at_ asking =>
    have before := (h f at_).cons (t := ⟨now, e, p, fx, p'⟩) at_
    obtain ⟨w, hw, suits⟩ := before.led
    exact ⟨⟨w, hw, suits.setStage _⟩, fun _ => before.asked (by rw [asking]; simp),
      nofun, nofun⟩
  | stored f a r at_ storing =>
    have before := (h f at_).cons (t := ⟨now, e, p, fx, p'⟩) at_
    obtain ⟨w, hw, suits⟩ := before.led
    refine ⟨⟨w, hw, suits.setStage _⟩, fun _ => before.asked (by rw [storing]; simp),
      nofun, ?_⟩
    intro b e
    rw [← concluded_eq_ok (Fetch.Stage.ended.inj e)]
    exact before.storing a storing

end History

namespace Scene

variable {ω : Type} {s : Scene ω}

/-- Everything that a fetch of the proxy says about itself is borne out by the history. -/
def Documented (s : Scene ω) : Prop :=
  ∀ (id : Nat) (f : Fetch (Plan ω)), s.proxy.fetches.fetches[id]? = some f →
    Recorded s.past s.proxy.keys id f

theorem Documented.act (h : s.Documented) (now : Moment) (e : Event ω) :
    (s.act now e).Documented := by
  rcases s.act_cases now e with ⟨-, same⟩ | ⟨p, fx, -, taken, acted⟩
  · rw [same]
    exact h
  · rw [acted]
    exact fun id g hg => .turn (h id) taken hg

theorem documented_start (keys : KeyScheme) (maxTasks : Nat) :
    (start keys maxTasks : Scene ω).Documented := by
  intro id f hf
  simp [start, Proxy.ofPool, Coalescer.empty] at hf

theorem documented_run (keys : KeyScheme) (maxTasks : Nat) (es : List (Moment × Event ω)) :
    ((start keys maxTasks).run es).Documented :=
  run_induction (P := Documented) (fun _ now e h => h.act now e) (documented_start keys maxTasks) es

end Scene

end ReadThrough
