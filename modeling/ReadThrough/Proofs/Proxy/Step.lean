import ReadThrough.Proofs.Coalescer.Sound
import ReadThrough.Proofs.Pool.Balanced
import ReadThrough.Proxy.Step

/-!
# What a step of a proxy comes to

`Proxy.step` is written the way a call runs: a request leads to a read, the read to a join, the
join to an entry in the table or to a guard given back. For what holds of every step the other
direction is wanted, and it is said here once: `Step` lists the things that a step can come to,
each with what must have been the case before, and `step_cases` shows that the list is complete.
Nothing after this module opens `Proxy.step` to see what it does.

Three lists are kept apart because their members differ in nothing but the caller concerned. A
caller may come in and touch nobody else (`Arrives`). It may come to the end of its wait and
leave everything as it is (`Settles`). And it may come to a flight of its key in one of four
ways, which three kinds of call have in common (`Boards`).
-/

set_option autoImplicit false

namespace ReadThrough

/-- The caller waits for nothing any more: it has its answer, or it has left without one. -/
def Caller.Stage.isSettled : Caller.Stage → Bool
  | .answered _ | .gone => true
  | _ => false

/-- The key that a request is about. A drain is about the pool. -/
def Request.key? {ω : Type} : Request ω → Option String
  | lookup _ key _ | set _ key _ | remove key => some key
  | drain => none

/-- What is answered where there is nothing. -/
def Request.nothing {ω : Type} : Request ω → Answer
  | lookup _ _ _ => .found "" false
  | set _ _ _ | remove _ | drain => .done

/-- The guard that a fetch will give back. -/
def AfterFetch.guard? : AfterFetch → Option Nat
  | writeThrough _ _ => none
  | writeBack _ _ guard => some guard

namespace Proxy

variable {ω : Type} {now : Moment} {p p' : Proxy ω}

/-! ## Coming in, coming to a flight, coming to an end -/

/-- A caller whose coming touches nobody else: its first stage, and what it wants done. -/
inductive Arrives (now : Moment) (p : Proxy ω) :
    Request ω → List (Effect ω) → Caller.Stage → Prop
  /-- There is nothing under the empty key. -/
  | vacuous (r : Request ω) (a : Answer) (blank : r.key? = some "") (told : a = r.nothing) :
      Arrives now p r [] (.answered (.ok a))
  | read (policy : Policy) (key : String) (origin : ω) (some_key : key ≠ "")
      (gentle : policy.force = false) :
      Arrives now p (.lookup policy key origin) [.read p.callers.length (p.keys.build key)]
        .reading
  | set (policy : Policy) (key payload : String) (some_key : key ≠ "") :
      Arrives now p (.set policy key payload)
        [.write (.caller p.callers.length) (p.keys.build key) (.stamped now payload false)
          (policy.ttlFor payload)] .writing
  | remove (key : String) (some_key : key ≠ "") :
      Arrives now p (.remove key) [.delete p.callers.length (p.keys.build key)] .deleting

/-- The ways to a flight of a key. A guarded caller answers its own caller before the write, so
the pool is to know of the fetch; one that is not guarded has the store written first. -/
inductive Boards (p : Proxy ω) (policy : Policy) (key : String) (origin : ω) :
    (guarded : Bool) → Proxy ω → Flight → List (Effect ω) → Prop
  | leadThrough (free : p.fetches.inFlight.get? key = none) :
      Boards p policy key origin false
        { p with fetches :=
            p.fetches.start key ⟨origin, .writeThrough policy (p.keys.build key)⟩ }
        ⟨p.fetches.fetches.length, true⟩ [.wake (.fetch p.fetches.fetches.length)]
  | leadBack (free : p.fetches.inFlight.get? key = none) :
      Boards p policy key origin true
        { p with
          fetches := p.fetches.start key
            ⟨origin, .writeBack policy (p.keys.build key) p.pool.nextGuard⟩
          pool := p.pool.track.1 }
        ⟨p.fetches.fetches.length, true⟩ [.wake (.fetch p.fetches.fetches.length)]
  | joinThrough (id : Nat) (taken : p.fetches.inFlight.get? key = some id) :
      Boards p policy key origin false p ⟨id, false⟩ []
  | joinBack (id : Nat) (taken : p.fetches.inFlight.get? key = some id) :
      Boards p policy key origin true
        { p with pool := (p.pool.track.1.giveBack p.pool.nextGuard).1 } ⟨id, false⟩
        (p.poolWakes (p.pool.track.1.giveBack p.pool.nextGuard).2)

/-- The ends of a caller's wait that touch nobody else. -/
inductive Settles (now : Moment) (p : Proxy ω) (c : Nat) :
    Caller ω → Event ω → List (Effect ω) → Caller.Stage → Prop
  /-- The store cannot be read. -/
  | unread (policy : Policy) (key : String) (origin : ω) (r : Outcome (Option Value))
      (bad : ∀ o, r ≠ .ok o) :
      Settles now p c ⟨.lookup policy key origin, .reading⟩ (.readAnswered c r) []
        (.answered (r.map fun _ => .done))
  /-- The store has an entry that is not to be refreshed. -/
  | hit (policy : Policy) (key : String) (origin : ω) (v : Value) (live : v.absent = false)
      (still : (policy.judgesStale v now && policy.background) = false) :
      Settles now p c ⟨.lookup policy key origin, .reading⟩ (.readAnswered c (.ok (some v))) []
        (.answered (.ok (.found v.payload true)))
  /-- The fetch is over, and the caller has nothing to write. -/
  | told (policy : Policy) (key : String) (origin : ω) (flight : Flight)
      (r : Except Error Fetched) (e : Event ω)
      (looks : e = .resume (.caller c) ∨ e = .limitPassed c)
      (known : p.fetches.result? flight.fetch = some r)
      (plain : ∀ a, r = .ok a → (policy.force && !flight.leader) = false) :
      Settles now p c ⟨.lookup policy key origin, .waiting flight⟩ e []
        (.answered ((Outcome.ofExcept r).map fun a => .found a.payload false))
  | gaveUp (policy : Policy) (key : String) (origin : ω) (flight : Flight) (limit : Duration)
      (set : policy.waitLimit = some limit) (running : p.fetches.result? flight.fetch = none) :
      Settles now p c ⟨.lookup policy key origin, .waiting flight⟩ (.limitPassed c)
        [.log (.warn ("Gave up waiting on origin for " ++ key ++ " after " ++ limit.text))]
        (.answered (.failed
          (.timeout ("origin fetch for " ++ key ++ " exceeded " ++ limit.text))))
  | crashed (r : Request ω) (flight : Flight) (text : String) :
      Settles now p c ⟨r, .waiting flight⟩ (.limitCrashed c text) [] (.answered (.crashed text))
  /-- Its own write is over. -/
  | saved (r : Request ω) (save : Nat) (payload : String) (s : Save)
      (result : Except Error Unit) (at_ : p.saves[save]? = some s)
      (known : s.stage = .ended result) :
      Settles now p c ⟨r, .saving save payload⟩ (.resume (.caller c)) []
        (.answered ((Outcome.ofExcept result).map fun _ => .found payload false))
  | written (q : Request ω) (r : Outcome Unit) :
      Settles now p c ⟨q, .writing⟩ (.writeAnswered (.caller c) r) []
        (.answered (r.map fun _ => .done))
  | deleted (q : Request ω) (r : Outcome Unit) :
      Settles now p c ⟨q, .deleting⟩ (.deleteAnswered c r) []
        (.answered (r.map fun _ => .done))
  | left (x : Caller ω) (waits : x.stage.isSettled = false)
      (elsewhere : ∀ w, x.stage ≠ .draining w) :
      Settles now p c x (.abandoned c) [] .gone

def endLog (work : Work) : Outcome Unit → List (Effect ω)
  | .failed e => [.log (.err ("Background " ++ work.description ++ " failed: " ++ e.message))]
  | _ => []

/-- A running job whose time has come: the store has answered, or the fetch it waits for is
over. -/
inductive Ends (p : Proxy ω) (j : Nat) : Event ω → Work → Outcome Unit → Prop
  | wroteBack (storeKey : String) (v : Value) (ttl : Duration) (r : Outcome Unit) :
      Ends p j (.writeAnswered (.job j) r) (.writeBack storeKey v ttl) r
  | refreshed (storeKey : String) (f : Nat) (r : Except Error Fetched)
      (known : p.fetches.result? f = some r) :
      Ends p j (.resume (.job j)) (.refresh storeKey f) ((Outcome.ofExcept r).map fun _ => ())

/-! ## The list -/

/-- What a step can come to. -/
inductive Step (now : Moment) (p : Proxy ω) : Event ω → List (Effect ω) → Proxy ω → Prop
  | arrive (r : Request ω) (fx : List (Effect ω)) (s : Caller.Stage)
      (how : p.Arrives now r fx s) : Step now p (.request r) fx (p.addCaller r s)
  | force (policy : Policy) (key : String) (origin : ω) (p₁ : Proxy ω) (flight : Flight)
      (fx : List (Effect ω)) (some_key : key ≠ "") (forced : policy.force = true)
      (how : p.Boards policy key origin false p₁ flight fx) :
      Step now p (.request (.lookup policy key origin)) (fx ++ limitOf p.callers.length policy)
        (p₁.addCaller (.lookup policy key origin) (.waiting flight))
  | drain :
      Step now p (.request .drain) []
        ({ p with pool := p.pool.wait.1 }.addCaller .drain
          (if p.pool.pending = 0 then .answered (.ok .done)
            else .draining p.pool.waiters.length))
  | settle (c : Nat) (x : Caller ω) (e : Event ω) (fx : List (Effect ω)) (s : Caller.Stage)
      (at_ : p.callers[c]? = some x) (how : p.Settles now c x e fx s) :
      Step now p e fx (p.setStage c s)
  | miss (c : Nat) (policy : Policy) (key : String) (origin : ω) (o : Option Value)
      (p₁ : Proxy ω) (flight : Flight) (fx : List (Effect ω))
      (at_ : p.callers[c]? = some ⟨.lookup policy key origin, .reading⟩)
      (missing : ∀ v, o = some v → v.absent = true)
      (how : p.Boards policy key origin true p₁ flight fx) :
      Step now p (.readAnswered c (.ok o)) (fx ++ limitOf c policy)
        (p₁.setStage c (.waiting flight))
  | stale (c : Nat) (policy : Policy) (key : String) (origin : ω) (v : Value)
      (p₁ : Proxy ω) (flight : Flight) (fx : List (Effect ω))
      (at_ : p.callers[c]? = some ⟨.lookup policy key origin, .reading⟩)
      (live : v.absent = false) (old : (policy.judgesStale v now && policy.background) = true)
      (how : p.Boards policy key origin true p₁ flight fx) :
      Step now p (.readAnswered c (.ok (some v)))
        (fx ++ [.wake (.job p₁.pool.jobs.length)])
        ({ p₁ with pool := (p₁.pool.spawn (.refresh (p.keys.build key) flight.fetch)).1 }.setStage c
          (.answered (.ok (.found v.payload true))))
  | again (c : Nat) (policy : Policy) (key : String) (origin : ω) (flight : Flight) (a : Fetched)
      (e : Event ω) (at_ : p.callers[c]? = some ⟨.lookup policy key origin, .waiting flight⟩)
      (looks : e = .resume (.caller c) ∨ e = .limitPassed c)
      (known : p.fetches.result? flight.fetch = some (.ok a)) (forced : policy.force = true)
      (joined : flight.leader = false) :
      Step now p e [.wake (.save p.saves.length)]
        ({ p with
            saves := p.saves ++
              [Save.mk (p.keys.build key) (a.stamp now) (policy.ttlFor a.payload) .queued]
          }.setStage c (.saving p.saves.length a.payload))
  | drained (c : Nat) (q : Request ω) (w : Nat)
      (at_ : p.callers[c]? = some ⟨q, .draining w⟩) (woken : p.pool.waiters[w]? = some .woken)
      (idle : p.pool.pending = 0) :
      Step now p (.resume (.caller c)) []
        ({ p with pool := { p.pool with waiters := p.pool.waiters.set w .returned } }.setStage c
          (.answered (.ok .done)))
  | parks (c : Nat) (q : Request ω) (w : Nat)
      (at_ : p.callers[c]? = some ⟨q, .draining w⟩) (woken : p.pool.waiters[w]? = some .woken)
      (busy : p.pool.pending ≠ 0) :
      Step now p (.resume (.caller c)) []
        { p with pool := { p.pool with waiters := p.pool.waiters.set w .parked } }
  | leaveDrain (c : Nat) (q : Request ω) (w : Nat)
      (at_ : p.callers[c]? = some ⟨q, .draining w⟩) :
      Step now p (.abandoned c) [] ({ p with pool := p.pool.leave w }.setStage c .gone)
  | ask (id : Nat) (f : Fetch (Plan ω)) (at_ : p.fetches.fetches[id]? = some f)
      (stage : f.stage = .queued) :
      Step now p (.resume (.fetch id)) [.ask id f.key f.plan.origin]
        { p with fetches := p.fetches.setStage id .asking }
  | store (id : Nat) (f : Fetch (Plan ω)) (a : Fetched) (policy : Policy) (storeKey : String)
      (at_ : p.fetches.fetches[id]? = some f) (stage : f.stage = .asking)
      (plan : f.plan.after = .writeThrough policy storeKey) :
      Step now p (.originAnswered id (.ok a))
        [.write (.fetch id) storeKey (a.stamp now) (policy.ttlFor a.payload)]
        { p with fetches := p.fetches.setStage id (.storing a) }
  | passOn (id : Nat) (f : Fetch (Plan ω)) (a : Fetched) (policy : Policy) (storeKey : String)
      (guard : Nat) (pool₁ pool₂ : Pool Work) (spawned idle : List Wake)
      (at_ : p.fetches.fetches[id]? = some f) (stage : f.stage = .asking)
      (plan : f.plan.after = .writeBack policy storeKey guard)
      (spawn : p.pool.spawn (.writeBack storeKey (a.stamp now) (policy.ttlFor a.payload)) =
        (pool₁, spawned))
      (back : pool₁.giveBack guard = (pool₂, idle)) :
      Step now p (.originAnswered id (.ok a))
        (p.poolWakes (spawned ++ idle) ++ { p with pool := pool₂ }.fetchWakes id)
        { p with fetches := p.fetches.finish f.key id (.ok a), pool := pool₂ }
  | failThrough (id : Nat) (f : Fetch (Plan ω)) (r : Outcome Fetched) (err : Error)
      (at_ : p.fetches.fetches[id]? = some f) (stage : f.stage = .asking)
      (bad : r.caught Coalescer.crashError = .error err) (plan : f.plan.after.guard? = none) :
      Step now p (.originAnswered id r) (p.fetchWakes id)
        { p with fetches := p.fetches.finish f.key id (.error err) }
  | failBack (id : Nat) (f : Fetch (Plan ω)) (r : Outcome Fetched) (err : Error) (guard : Nat)
      (pool₁ : Pool Work) (idle : List Wake) (at_ : p.fetches.fetches[id]? = some f)
      (stage : f.stage = .asking) (bad : r.caught Coalescer.crashError = .error err)
      (plan : f.plan.after.guard? = some guard)
      (back : p.pool.giveBack guard = (pool₁, idle)) :
      Step now p (.originAnswered id r)
        (p.poolWakes idle ++ { p with pool := pool₁ }.fetchWakes id)
        { p with fetches := p.fetches.finish f.key id (.error err), pool := pool₁ }
  | stored (id : Nat) (f : Fetch (Plan ω)) (a : Fetched) (r : Outcome Unit)
      (at_ : p.fetches.fetches[id]? = some f) (stage : f.stage = .storing a) :
      Step now p (.writeAnswered (.fetch id) r) (p.fetchWakes id)
        { p with fetches := p.fetches.finish f.key id (Coalescer.concluded a r) }
  | queue (j : Nat) (pool₁ : Pool Work) (resumed : p.pool.resume? j = some (false, pool₁)) :
      Step now p (.resume (.job j)) [] { p with pool := pool₁ }
  | write (j : Nat) (pool₁ : Pool Work) (storeKey : String) (v : Value) (ttl : Duration)
      (resumed : p.pool.resume? j = some (true, pool₁))
      (at_ : pool₁.jobs[j]? = some ⟨.writeBack storeKey v ttl, .running⟩) :
      Step now p (.resume (.job j)) [.write (.job j) storeKey v ttl] { p with pool := pool₁ }
  | await (j : Nat) (pool₁ : Pool Work) (storeKey : String) (f : Nat)
      (resumed : p.pool.resume? j = some (true, pool₁))
      (at_ : pool₁.jobs[j]? = some ⟨.refresh storeKey f, .running⟩)
      (running : p.fetches.result? f = none) :
      Step now p (.resume (.job j)) [] { p with pool := pool₁ }
  /-- A refresh gets its permit when its fetch is over. -/
  | skip (j : Nat) (pool₁ pool₂ : Pool Work) (storeKey : String) (f : Nat)
      (r : Except Error Fetched) (wakes : List Wake)
      (resumed : p.pool.resume? j = some (true, pool₁))
      (at_ : pool₁.jobs[j]? = some ⟨.refresh storeKey f, .running⟩)
      (known : p.fetches.result? f = some r)
      (finished : pool₁.finish? j = some (pool₂, wakes)) :
      Step now p (.resume (.job j))
        (endLog (.refresh storeKey f) ((Outcome.ofExcept r).map fun _ => ()) ++
          p.poolWakes wakes)
        { p with pool := pool₂ }
  | endJob (j : Nat) (work : Work) (e : Event ω) (r : Outcome Unit) (pool₁ : Pool Work)
      (wakes : List Wake) (at_ : p.pool.jobs[j]? = some ⟨work, .running⟩)
      (how : p.Ends j e work r) (finished : p.pool.finish? j = some (pool₁, wakes)) :
      Step now p e (endLog work r ++ p.poolWakes wakes) { p with pool := pool₁ }
  | save (s : Nat) (x : Save) (at_ : p.saves[s]? = some x) (stage : x.stage = .queued) :
      Step now p (.resume (.save s)) [.write (.save s) x.storeKey x.value x.ttl]
        { p with saves := p.saves.set s { x with stage := .writing } }
  | saved (s : Nat) (x : Save) (r : Outcome Unit) (at_ : p.saves[s]? = some x)
      (stage : x.stage = .writing) :
      Step now p (.writeAnswered (.save s) r)
        ((p.callersAt (savesBy s)).map fun c => .wake (.caller c))
        { p with saves := p.saves.set s { x with stage := .ended (r.caught saveCrash) } }

/-! ## The list is complete

Function by function, as they call one another. Each is taken apart once, here, and what a branch
has tested on its way becomes what the step says must have been the case. -/

theorem Boards.keys {policy : Policy} {key : String} {origin : ω} {guarded : Bool}
    {p₁ : Proxy ω} {flight : Flight} {fx : List (Effect ω)}
    (h : p.Boards policy key origin guarded p₁ flight fx) : p₁.keys = p.keys := by
  cases h <;> rfl

/-- A flight that writes first is led if the key is free, and joined otherwise. -/
theorem joinThrough_boards (p : Proxy ω) (policy : Policy) (key : String) (origin : ω) :
    p.Boards policy key origin false (p.joinThrough policy key origin).1
      (p.joinThrough policy key origin).2.1 (p.joinThrough policy key origin).2.2 := by
  unfold joinThrough
  rcases p.fetches.join_cases key ⟨origin, .writeThrough policy (p.keys.build key)⟩ with
    ⟨id, taken, h⟩ | ⟨free, h⟩
  · rw [h]
    exact .joinThrough id taken
  · rw [h]
    exact .leadThrough free

/-- So is one that writes later, and here a guard is taken beforehand, since only afterwards it is
known who leads. -/
theorem joinBack_boards (p : Proxy ω) (policy : Policy) (key : String) (origin : ω) :
    p.Boards policy key origin true (p.joinBack policy key origin).1
      (p.joinBack policy key origin).2.1 (p.joinBack policy key origin).2.2 := by
  have guard : p.pool.track.2 = p.pool.nextGuard := rfl
  unfold joinBack
  rcases p.fetches.join_cases key
    ⟨origin, .writeBack policy (p.keys.build key) p.pool.nextGuard⟩ with ⟨id, taken, h⟩ | ⟨free, h⟩
  · simp only [guard, h]
    exact .joinBack id taken
  · simp only [guard, h]
    exact .leadBack free

/-- A request is refused nothing: it comes in at once, and under the empty key it is answered at
once. -/
theorem request_step (p : Proxy ω) (r : Request ω) :
    p.Step now (.request r) (p.request now r).2 (p.request now r).1 := by
  cases r with
  | lookup policy key origin =>
    simp only [request]
    by_cases blank : key = ""
    · subst blank
      exact .arrive _ _ _ (.vacuous _ _ rfl rfl)
    · rw [if_neg (by simpa [String.isEmpty_iff] using blank)]
      have how := p.joinThrough_boards policy key origin
      cases forced : policy.force with
      | true => exact .force policy key origin _ _ _ blank forced how
      | false => exact .arrive _ _ _ (.read policy key origin blank forced)
  | set policy key payload =>
    simp only [request]
    by_cases blank : key = ""
    · subst blank
      exact .arrive _ _ _ (.vacuous _ _ rfl rfl)
    · rw [if_neg (by simpa [String.isEmpty_iff] using blank)]
      exact .arrive _ _ _ (.set policy key payload blank)
  | remove key =>
    simp only [request]
    by_cases blank : key = ""
    · subst blank
      exact .arrive _ _ _ (.vacuous _ _ rfl rfl)
    · rw [if_neg (by simpa [String.isEmpty_iff] using blank)]
      exact .arrive _ _ _ (.remove key blank)
  | drain =>
    have returned : p.pool.wait.1.hasReturned p.pool.wait.2 = decide (p.pool.pending = 0) := by
      by_cases zero : p.pool.pending = 0 <;> simp [Pool.wait, Pool.hasReturned, zero]
    simp only [request, returned, decide_eq_true_eq]
    exact .drain

/-- What has been read is a hit, a hit that is to be refreshed, or a miss, unless it could not be
read. -/
theorem afterRead_step {c : Nat} {policy : Policy} {key : String} {origin : ω}
    (at_ : p.callers[c]? = some ⟨.lookup policy key origin, .reading⟩)
    (r : Outcome (Option Value)) :
    p.Step now (.readAnswered c r) (p.afterRead now c policy key origin r).2
      (p.afterRead now c policy key origin r).1 := by
  have how := p.joinBack_boards policy key origin
  cases r with
  | failed e => exact .settle c _ _ _ _ at_ (.unread policy key origin _ (by simp))
  | crashed t => exact .settle c _ _ _ _ at_ (.unread policy key origin _ (by simp))
  | ok o =>
    cases o with
    | none => exact .miss c policy key origin none _ _ _ at_ (by simp) how
    | some v =>
      simp only [afterRead]
      cases live : v.absent with
      | true => exact .miss c policy key origin (some v) _ _ _ at_ (by simpa using live) how
      | false =>
        cases old : policy.judgesStale v now && policy.background with
        | true =>
          have refresh : p.Step now _ _ _ := .stale c policy key origin v _ _ _ at_ live old how
          rw [← how.keys] at refresh
          exact refresh
        | false => exact .settle c _ _ _ _ at_ (.hit policy key origin v live old)

/-- What a fetch has brought is told to a caller that waits for it, whether it has been woken or its
limit has passed just then. A forced lookup that has not led the fetch has its own write still to
make. -/
theorem deliver_step {c : Nat} {policy : Policy} {key : String} {origin : ω} {flight : Flight}
    {r : Except Error Fetched} {e : Event ω}
    (at_ : p.callers[c]? = some ⟨.lookup policy key origin, .waiting flight⟩)
    (looks : e = .resume (.caller c) ∨ e = .limitPassed c)
    (known : p.fetches.result? flight.fetch = some r) :
    p.Step now e (p.deliver now c policy key flight r).2
      (p.deliver now c policy key flight r).1 := by
  cases r with
  | error err =>
    exact .settle c _ _ _ _ at_ (.told policy key origin flight _ e looks known (by simp))
  | ok a =>
    simp only [deliver]
    cases writes : policy.force && !flight.leader with
    | true =>
      simp only [Bool.and_eq_true, Bool.not_eq_true'] at writes
      exact .again c policy key origin flight a e at_ looks known writes.1 writes.2
    | false =>
      exact .settle c _ _ _ _ at_
        (.told policy key origin flight _ e looks known (by simpa using writes))

/-- A job ends as the pool has it end, and its failure is taken down. -/
theorem endJob?_eq_some_iff {j : Nat} {work : Work} {r : Outcome Unit}
    {fx : List (Effect ω)} :
    p.endJob? j work r = some (p', fx) ↔
      ∃ pool wakes, p.pool.finish? j = some (pool, wakes) ∧ p' = { p with pool := pool } ∧
        fx = endLog work r ++ p.poolWakes wakes := by
  unfold endJob?
  cases p.pool.finish? j with
  | none => simp
  | some pw =>
    obtain ⟨pool, wakes⟩ := pw
    constructor
    · intro h
      cases r <;> cases h <;> exact ⟨pool, wakes, rfl, rfl, rfl⟩
    · rintro ⟨pool, wakes, e, rfl, rfl⟩
      cases e
      cases r <;> rfl

/-- A job that is resumed queues or starts, unless it is a refresh that has started already; and
what it does when it starts hangs on its work. -/
theorem resumeJob?_step {j : Nat} {fx : List (Effect ω)} (h : p.resumeJob? j = some (p', fx)) :
    p.Step now (.resume (.job j)) fx p' := by
  unfold resumeJob? at h
  split at h
  case h_1 storeKey f at_ =>
    -- The refresh has its permit and waits: it can only end.
    obtain ⟨r, known, h⟩ := Option.bind_eq_some_iff.1 h
    obtain ⟨pool, wakes, finished, rfl, rfl⟩ := endJob?_eq_some_iff.1 h
    exact .endJob j _ _ _ pool wakes at_ (.refreshed storeKey f r known) finished
  case h_2 =>
    obtain ⟨⟨starts, pool⟩, resumed, h⟩ := Option.bind_eq_some_iff.1 h
    cases starts with
    | false =>
      cases h
      exact .queue j pool resumed
    | true =>
      simp only [if_true] at h
      unfold work? at h
      split at h
      case h_1 storeKey v ttl at_ =>
        cases h
        exact .write j pool storeKey v ttl resumed at_
      case h_2 storeKey f at_ =>
        cases known : p.fetches.result? f with
        | none =>
          simp only [known] at h
          cases h
          exact .await j pool storeKey f resumed at_ known
        | some r =>
          simp only [known] at h
          obtain ⟨pool₂, wakes, finished, rfl, rfl⟩ := endJob?_eq_some_iff.1 h
          exact .skip j pool pool₂ storeKey f r wakes resumed at_ known finished
      case h_3 => cases h

/-- What an origin has brought ends the fetch, except where a value is to be written first. Failure
and crash are told apart by their text alone. -/
theorem originAnswered?_step {id : Nat} {r : Outcome Fetched} {fx : List (Effect ω)}
    (h : p.originAnswered? now id r = some (p', fx)) :
    p.Step now (.originAnswered id r) fx p' := by
  unfold originAnswered? at h
  obtain ⟨⟨f, c⟩, received, h⟩ := Option.bind_eq_some_iff.1 h
  obtain ⟨at_, stage, rfl⟩ := Coalescer.receive?_eq_some_iff.1 received
  cases r with
  | ok a =>
    cases plan : f.plan.after with
    | writeThrough policy storeKey =>
      simp only [plan] at h
      cases h
      exact .store id f a policy storeKey at_ stage plan
    | writeBack policy storeKey guard =>
      simp only [plan] at h
      obtain ⟨c, concluded, h⟩ := Option.map_eq_some_iff.1 h
      obtain ⟨g, b, hg, hb, rfl⟩ := Coalescer.conclude?_eq_some_iff.1 concluded
      rw [Coalescer.received, Coalescer.getElem?_setStage, at_] at hg
      simp only [Option.map_some, if_true, Option.some.injEq] at hg
      subst hg
      cases hb
      cases h
      rw [Coalescer.received, Coalescer.finish_setStage]
      exact .passOn id f a policy storeKey guard _ _ _ _ at_ stage plan rfl rfl
  | failed e =>
    cases plan : f.plan.after with
    | writeThrough policy storeKey =>
      simp only [plan] at h
      cases h
      exact .failThrough id f _ e at_ stage rfl (by rw [plan]; rfl)
    | writeBack policy storeKey guard =>
      simp only [plan] at h
      cases h
      exact .failBack id f _ e guard _ _ at_ stage rfl (by rw [plan]; rfl) rfl
  | crashed t =>
    cases plan : f.plan.after with
    | writeThrough policy storeKey =>
      simp only [plan] at h
      cases h
      exact .failThrough id f _ _ at_ stage rfl (by rw [plan]; rfl)
    | writeBack policy storeKey guard =>
      simp only [plan] at h
      cases h
      exact .failBack id f _ _ guard _ _ at_ stage rfl (by rw [plan]; rfl) rfl

/-- The store has answered a write, and whose write it was says what follows. -/
theorem writeAnswered?_step {task : Task} {r : Outcome Unit} {fx : List (Effect ω)}
    (h : p.writeAnswered? task r = some (p', fx)) :
    p.Step now (.writeAnswered task r) fx p' := by
  cases task with
  | fetch id =>
    obtain ⟨c, concluded, h⟩ := Option.map_eq_some_iff.1 h
    obtain ⟨f, a, at_, stage, rfl⟩ := Coalescer.conclude?_eq_some_iff.1 concluded
    cases h
    exact .stored id f a r at_ stage
  | job j =>
    simp only [writeAnswered?] at h
    split at h
    case h_1 storeKey v ttl s at_ =>
      obtain ⟨pool, wakes, finished, rfl, rfl⟩ := endJob?_eq_some_iff.1 h
      obtain ⟨running, -, -⟩ := Pool.finish?_eq_some_iff.1 finished
      simp only [Pool.stage?, at_, Option.map_some, Option.some.injEq] at running
      subst running
      exact .endJob j _ _ r pool wakes at_ (.wroteBack storeKey v ttl r) finished
    case h_2 => cases h
  | save s =>
    simp only [writeAnswered?] at h
    split at h
    case h_1 storeKey v ttl at_ =>
      cases h
      exact .saved s _ r at_ rfl
    case h_2 => cases h
  | caller c =>
    simp only [writeAnswered?, stage?] at h
    split at h
    case h_1 stage =>
      obtain ⟨⟨q, s⟩, at_, rfl⟩ := Option.map_eq_some_iff.1 stage
      cases h
      exact .settle c _ _ _ _ at_ (.written q r)
    case h_2 => cases h

/-- A caller that is resumed looks at what it waits for: its fetch, its save, or the count of the
pool. -/
theorem resumeCaller?_step {c : Nat} {fx : List (Effect ω)}
    (h : p.resumeCaller? now c = some (p', fx)) : p.Step now (.resume (.caller c)) fx p' := by
  unfold resumeCaller? at h
  split at h
  case h_1 policy key origin flight at_ =>
    obtain ⟨r, known, h⟩ := Option.map_eq_some_iff.1 h
    have told : p.Step now _ _ _ := deliver_step at_ (Or.inl rfl) known
    rw [h] at told
    exact told
  case h_2 q save payload at_ =>
    split at h
    case h_1 storeKey v ttl result known =>
      cases h
      exact .settle c _ _ _ _ at_ (.saved q save payload _ result known rfl)
    case h_2 => cases h
  case h_3 q w at_ =>
    obtain ⟨pool, looked, h⟩ := Option.map_eq_some_iff.1 h
    obtain ⟨woken, rfl⟩ := Pool.look?_eq_some_iff.1 looked
    have there := (List.getElem?_eq_some_iff.1 woken).1
    by_cases idle : p.pool.pending = 0
    · rw [if_pos idle] at h
      have back : Pool.hasReturned { p.pool with waiters := p.pool.waiters.set w .returned } w =
          true := by simp [Pool.hasReturned, there]
      simp only [back, if_true] at h
      cases h
      exact .drained c q w at_ woken idle
    · rw [if_neg idle] at h
      have waits : Pool.hasReturned { p.pool with waiters := p.pool.waiters.set w .parked } w =
          false := by simp [Pool.hasReturned, there]
      simp only [waits] at h
      cases h
      exact .parks c q w at_ woken idle
  case h_4 => cases h

/-- When a limit passes the caller gives up, unless its fetch has ended meanwhile and it only has
not been resumed yet. -/
theorem limitPassed?_step {c : Nat} {fx : List (Effect ω)}
    (h : p.limitPassed? now c = some (p', fx)) : p.Step now (.limitPassed c) fx p' := by
  unfold limitPassed? at h
  split at h
  case h_1 policy key origin flight at_ =>
    split at h
    case h_1 r known =>
      have told : p.Step now _ _ _ := deliver_step at_ (Or.inr rfl) known
      rw [Option.some.inj h] at told
      exact told
    case h_2 running =>
      obtain ⟨limit, set, h⟩ := Option.map_eq_some_iff.1 h
      cases h
      exact .settle c _ _ _ _ at_ (.gaveUp policy key origin flight limit set running)
  case h_2 => cases h

/-- A caller may leave wherever it waits. Only one that drains has something to give up with it. -/
theorem abandon?_step {c : Nat} {fx : List (Effect ω)} (h : p.abandon? c = some (p', fx)) :
    p.Step now (.abandoned c) fx p' := by
  unfold abandon? stage? at h
  cases at_ : p.callers[c]? with
  | none =>
    rw [at_] at h
    cases h
  | some x =>
    obtain ⟨q, s⟩ := x
    rw [at_] at h
    cases s with
    | answered a => cases h
    | gone => cases h
    | draining w =>
      cases h
      exact .leaveDrain c q w at_
    | reading | waiting | saving | writing | deleting =>
      cases h
      exact .settle c _ _ _ _ at_ (.left _ rfl (by simp))

/-- Every step is one of the list. -/
theorem step_cases {e : Event ω} {fx : List (Effect ω)} (h : p.step now e = some (p', fx)) :
    p.Step now e fx p' := by
  cases e with
  | request r =>
    have asked : p.Step now _ _ _ := p.request_step r
    rw [show p.request now r = (p', fx) from Option.some.inj h] at asked
    exact asked
  | resume task =>
    cases task with
    | caller c => exact resumeCaller?_step h
    | fetch id =>
      obtain ⟨⟨f, c⟩, asked, h⟩ := Option.map_eq_some_iff.1 h
      obtain ⟨at_, stage, rfl⟩ := Coalescer.ask?_eq_some_iff.1 asked
      cases h
      exact .ask id f at_ stage
    | job j => exact resumeJob?_step h
    | save s =>
      simp only [step, resume?, resumeSave?] at h
      split at h
      case h_1 storeKey v ttl at_ =>
        cases h
        exact .save s _ at_ rfl
      case h_2 => cases h
  | originAnswered id r => exact originAnswered?_step h
  | readAnswered c r =>
    simp only [step] at h
    split at h
    case h_1 policy key origin at_ =>
      have read : p.Step now _ _ _ := afterRead_step at_ r
      rw [Option.some.inj h] at read
      exact read
    case h_2 => cases h
  | writeAnswered task r => exact writeAnswered?_step h
  | deleteAnswered c r =>
    simp only [step, stage?] at h
    split at h
    case h_1 stage =>
      obtain ⟨⟨q, s⟩, at_, rfl⟩ := Option.map_eq_some_iff.1 stage
      cases h
      exact .settle c _ _ _ _ at_ (.deleted q r)
    case h_2 => cases h
  | limitPassed c => exact limitPassed?_step h
  | limitCrashed c text =>
    simp only [step, limitCrashed?, stage?] at h
    split at h
    case h_1 flight stage =>
      obtain ⟨⟨q, s⟩, at_, rfl⟩ := Option.map_eq_some_iff.1 stage
      cases h
      exact .settle c _ _ _ _ at_ (.crashed q flight text)
    case h_2 => cases h
  | abandoned c => exact abandon?_step h

end Proxy

end ReadThrough
