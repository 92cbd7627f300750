import ReadThrough.Proxy.Basic
import ReadThrough.Time.DurationText

/-!
# What a proxy does

`Proxy.step` gives the next state of a proxy and what is to be done, for everything that can
happen to it. It is undefined for what cannot happen: an answer that nobody waits for, a turn
for a task that has nothing to do.

A lookup that is not forced reads the store first. A live entry is the answer, whatever happens
behind it; a stale one may also start a refresh. Anything else joins the fetch of the caller's
key. The write that follows a fetch belongs to the fetch: it goes to the pool (`writeBack`), or
comes before the answer (`writeThrough`), and no caller's leaving stops it. A forced lookup that
joined a fetch cannot rely on its write, so it writes once more by a save of its own.

A fetch that ends in a write-back hands the pool its job before it gives its guard back, so the
pool never looks idle in between.
-/

set_option autoImplicit false

namespace ReadThrough

namespace Proxy

variable {ω : Type}

/-! ## Callers and whom to wake -/

/-- Moves a caller on to another stage. -/
def setStage (p : Proxy ω) (caller : Nat) (s : Caller.Stage) : Proxy ω :=
  { p with callers := p.callers.modify caller fun c => { c with stage := s } }

/-- A new caller, at its first stage. -/
def addCaller (p : Proxy ω) (r : Request ω) (s : Caller.Stage) : Proxy ω :=
  { p with callers := p.callers ++ [⟨r, s⟩] }

/-- The numbers of the callers at a stage of some kind. -/
def callersAt (p : Proxy ω) (at? : Caller.Stage → Bool) : List Nat :=
  (List.range p.callers.length).filter fun c => ((p.stage? c).map at?).getD false

/-- The caller waits with the pool under this number. -/
def drainsAs (waiter : Nat) : Caller.Stage → Bool
  | .draining w => w == waiter
  | _ => false

/-- The caller waits for this fetch. -/
def waitsFor (fetch : Nat) : Caller.Stage → Bool
  | .waiting flight => flight.fetch == fetch
  | _ => false

/-- The caller waits for this save. -/
def savesBy (save : Nat) : Caller.Stage → Bool
  | .saving s _ => s == save
  | _ => false

/-- The job waits for this fetch. -/
def refreshesBy (fetch : Nat) (j : Job Work) : Bool :=
  match j with
  | ⟨.refresh _ f, .running⟩ => f == fetch
  | _ => false

/-- The numbers of the running jobs that wait for a fetch. -/
def jobsWaitingFor (p : Proxy ω) (fetch : Nat) : List Nat :=
  (List.range p.pool.jobs.length).filter fun j =>
    ((p.pool.jobs[j]?).map (refreshesBy fetch)).getD false

/-- Wakes whom the pool has woken. -/
def poolWakes (p : Proxy ω) (wakes : List Wake) : List (Effect ω) :=
  wakes.flatMap fun
    | .job j => [.wake (.job j)]
    | .waiter w => (p.callersAt (drainsAs w)).map fun c => .wake (.caller c)

/-- Wakes everybody who waits for a fetch: callers, then refreshes. -/
def fetchWakes (p : Proxy ω) (fetch : Nat) : List (Effect ω) :=
  (p.callersAt (waitsFor fetch)).map (fun c => .wake (.caller c)) ++
    (p.jobsWaitingFor fetch).map fun j => .wake (.job j)

/-! ## Joining a fetch -/

/-- A fetch that was started is to take its turn; one that was joined has it already. -/
def leaderWake (flight : Flight) : List (Effect ω) :=
  if flight.leader then [.wake (.fetch flight.fetch)] else []

/-- The limit that a policy sets on a wait. -/
def limitOf (caller : Nat) (policy : Policy) : List (Effect ω) :=
  match policy.waitLimit with
  | some limit => [.limit caller limit]
  | none => []

/-- Joins the fetch of a key whose answer the store is to have before anybody is answered. -/
def joinThrough (p : Proxy ω) (policy : Policy) (key : String) (origin : ω) :
    Proxy ω × Flight × List (Effect ω) :=
  let (fetches, flight) := p.fetches.join key ⟨origin, .writeThrough policy (p.keys.build key)⟩
  ({ p with fetches := fetches }, flight, leaderWake flight)

/-- Joins the fetch of a key whose answer is written in the background. The guard that keeps the
fetch pending goes along with the plan, so a caller that joins gives it back at once. -/
def joinBack (p : Proxy ω) (policy : Policy) (key : String) (origin : ω) :
    Proxy ω × Flight × List (Effect ω) :=
  let (pool, guard) := p.pool.track
  let (fetches, flight) :=
    p.fetches.join key ⟨origin, .writeBack policy (p.keys.build key) guard⟩
  let p := { p with fetches := fetches, pool := pool }
  if flight.leader then (p, flight, leaderWake flight)
  else
    let (pool, wakes) := p.pool.giveBack guard
    ({ p with pool := pool }, flight, p.poolWakes wakes)

/-- Refreshes a stale entry: a job waits for the fetch of its key. -/
def startRefresh (p : Proxy ω) (policy : Policy) (key : String) (origin : ω) :
    Proxy ω × List (Effect ω) :=
  let (p, flight, joined) := p.joinBack policy key origin
  let (pool, wakes) := p.pool.spawn (.refresh (p.keys.build key) flight.fetch)
  ({ p with pool := pool }, joined ++ p.poolWakes wakes)

/-! ## Requests -/

/-- A new caller asks. The empty key is answered at once, with nothing. -/
def request (now : Moment) (r : Request ω) (p : Proxy ω) : Proxy ω × List (Effect ω) :=
  let caller := p.callers.length
  match r with
  | .lookup policy key origin =>
    if key.isEmpty then (p.addCaller r (.answered (.ok (.found "" false))), [])
    else if policy.force then
      let (p, flight, effects) := p.joinThrough policy key origin
      (p.addCaller r (.waiting flight), effects ++ limitOf caller policy)
    else (p.addCaller r .reading, [.read caller (p.keys.build key)])
  | .set policy key payload =>
    if key.isEmpty then (p.addCaller r (.answered (.ok .done)), [])
    else
      (p.addCaller r .writing,
        [.write (.caller caller) (p.keys.build key) (Value.stamped now payload false)
          (policy.ttlFor payload)])
  | .remove key =>
    if key.isEmpty then (p.addCaller r (.answered (.ok .done)), [])
    else (p.addCaller r .deleting, [.delete caller (p.keys.build key)])
  | .drain =>
    let (pool, waiter) := p.pool.wait
    let stage := if pool.hasReturned waiter then .answered (.ok .done) else .draining waiter
    ({ p with pool := pool }.addCaller r stage, [])

/-- The store has been read for a lookup. -/
def afterRead (now : Moment) (caller : Nat) (policy : Policy) (key : String) (origin : ω)
    (r : Outcome (Option Value)) (p : Proxy ω) : Proxy ω × List (Effect ω) :=
  let miss :=
    let (p, flight, effects) := p.joinBack policy key origin
    (p.setStage caller (.waiting flight), effects ++ limitOf caller policy)
  match r with
  | .failed e => (p.setStage caller (.answered (.failed e)), [])
  | .crashed t => (p.setStage caller (.answered (.crashed t)), [])
  | .ok none => miss
  | .ok (some v) =>
    if v.absent then miss
    else
      let (p, effects) :=
        if policy.judgesStale v now && policy.background then p.startRefresh policy key origin
        else (p, [])
      (p.setStage caller (.answered (.ok (.found v.payload true))), effects)

/-! ## Waiting for a fetch -/

/-- What a caller is told of a crash in its save. -/
def saveCrash (text : String) : Error :=
  .backend ("store write task failed: task # panicked with message " ++ Text.quote text)

/-- A fetch that a caller waits for is over. A forced lookup that joined it writes for itself
before it is answered. -/
def deliver (now : Moment) (caller : Nat) (policy : Policy) (key : String) (flight : Flight)
    (r : Except Error Fetched) (p : Proxy ω) : Proxy ω × List (Effect ω) :=
  match r with
  | .error e => (p.setStage caller (.answered (.failed e)), [])
  | .ok a =>
    if policy.force && !flight.leader then
      let save := p.saves.length
      let saves := p.saves ++
        [⟨p.keys.build key, a.stamp now, policy.ttlFor a.payload, .queued⟩]
      ({ p with saves := saves }.setStage caller (.saving save a.payload),
        [.wake (.save save)])
    else (p.setStage caller (.answered (.ok (.found a.payload false))), [])

/-- A caller gives up waiting for a fetch, which goes on without it. -/
def giveUp (caller : Nat) (key : String) (limit : Duration) (p : Proxy ω) :
    Proxy ω × List (Effect ω) :=
  (p.setStage caller
      (.answered (.failed (.timeout ("origin fetch for " ++ key ++ " exceeded " ++ limit.text)))),
    [.log (.warn ("Gave up waiting on origin for " ++ key ++ " after " ++ limit.text))])

/-- The limit of a caller has passed. A fetch that is over by then is still delivered. -/
def limitPassed? (now : Moment) (caller : Nat) (p : Proxy ω) :
    Option (Proxy ω × List (Effect ω)) :=
  match p.callers[caller]? with
  | some ⟨.lookup policy key _, .waiting flight⟩ =>
    match p.fetches.result? flight.fetch with
    | some r => some (p.deliver now caller policy key flight r)
    | none => policy.waitLimit.map fun limit => p.giveUp caller key limit
  | _ => none

/-- A caller that still waits for a fetch crashes over its limit. The fetch goes on without it. -/
def limitCrashed? (caller : Nat) (text : String) (p : Proxy ω) :
    Option (Proxy ω × List (Effect ω)) :=
  match p.stage? caller with
  | some (.waiting _) => some (p.setStage caller (.answered (.crashed text)), [])
  | _ => none

/-! ## Jobs -/

/-- A job is over. Its failure goes to the log and to nobody else. -/
def endJob? (job : Nat) (work : Work) (r : Outcome Unit) (p : Proxy ω) :
    Option (Proxy ω × List (Effect ω)) :=
  (p.pool.finish? job).map fun (pool, wakes) =>
    let log := match r with
      | .failed e =>
        [Effect.log (.err ("Background " ++ work.description ++ " failed: " ++ e.message))]
      | _ => []
    ({ p with pool := pool }, log ++ p.poolWakes wakes)

/-- The work of a job that has its permit. A refresh may find its fetch over already. -/
def work? (job : Nat) (p : Proxy ω) : Option (Proxy ω × List (Effect ω)) :=
  match p.pool.jobs[job]? with
  | some ⟨.writeBack storeKey v ttl, .running⟩ => some (p, [.write (.job job) storeKey v ttl])
  | some ⟨.refresh storeKey fetch, .running⟩ =>
    match p.fetches.result? fetch with
    | some r =>
      p.endJob? job (.refresh storeKey fetch) ((Outcome.ofExcept r).map fun _ => ())
    | none => some (p, [])
  | _ => none

/-- A job takes its turn: a refresh whose fetch is over ends, any other job asks for its permit
or uses the one it was handed. -/
def resumeJob? (job : Nat) (p : Proxy ω) : Option (Proxy ω × List (Effect ω)) :=
  match p.pool.jobs[job]? with
  | some ⟨.refresh storeKey fetch, .running⟩ =>
    (p.fetches.result? fetch).bind fun r =>
      p.endJob? job (.refresh storeKey fetch) ((Outcome.ofExcept r).map fun _ => ())
  | _ =>
    (p.pool.resume? job).bind fun (starts, pool) =>
      let p := { p with pool := pool }
      if starts then p.work? job else some (p, [])

/-! ## Fetches -/

/-- The origin has answered a fetch. -/
def originAnswered? (now : Moment) (fetch : Nat) (r : Outcome Fetched) (p : Proxy ω) :
    Option (Proxy ω × List (Effect ω)) :=
  (p.fetches.receive? fetch r).bind fun (f, fetches) =>
    let p := { p with fetches := fetches }
    match r, f.plan.after with
    | .ok a, .writeThrough policy storeKey =>
      some (p, [.write (.fetch fetch) storeKey (a.stamp now) (policy.ttlFor a.payload)])
    | .ok a, .writeBack policy storeKey guard =>
      let (pool, spawned) :=
        p.pool.spawn (.writeBack storeKey (a.stamp now) (policy.ttlFor a.payload))
      let (pool, idle) := pool.giveBack guard
      let p := { p with pool := pool }
      (p.fetches.conclude? fetch (.ok ())).map fun fetches =>
        let p := { p with fetches := fetches }
        (p, p.poolWakes (spawned ++ idle) ++ p.fetchWakes fetch)
    | _, .writeThrough _ _ => some (p, p.fetchWakes fetch)
    | _, .writeBack _ _ guard =>
      let (pool, idle) := p.pool.giveBack guard
      let p := { p with pool := pool }
      some (p, p.poolWakes idle ++ p.fetchWakes fetch)

/-! ## Writes -/

/-- The store has been written, or has refused, for a task. -/
def writeAnswered? (task : Task) (r : Outcome Unit) (p : Proxy ω) :
    Option (Proxy ω × List (Effect ω)) :=
  match task with
  | .fetch fetch =>
    (p.fetches.conclude? fetch r).map fun fetches =>
      let p := { p with fetches := fetches }
      (p, p.fetchWakes fetch)
  | .job job =>
    match p.pool.jobs[job]? with
    | some ⟨.writeBack storeKey v ttl, _⟩ => p.endJob? job (.writeBack storeKey v ttl) r
    | _ => none
  | .save save =>
    match p.saves[save]? with
    | some ⟨storeKey, v, ttl, .writing⟩ =>
      let p := { p with
        saves := p.saves.set save ⟨storeKey, v, ttl, .ended (r.caught saveCrash)⟩ }
      some (p, (p.callersAt (savesBy save)).map fun c => .wake (.caller c))
    | _ => none
  | .caller caller =>
    match p.stage? caller with
    | some .writing => some (p.setStage caller (.answered (r.map fun _ => .done)), [])
    | _ => none

/-! ## Turns -/

/-- A caller takes its turn: what it waits for is over. -/
def resumeCaller? (now : Moment) (caller : Nat) (p : Proxy ω) :
    Option (Proxy ω × List (Effect ω)) :=
  match p.callers[caller]? with
  | some ⟨.lookup policy key _, .waiting flight⟩ =>
    (p.fetches.result? flight.fetch).map fun r => p.deliver now caller policy key flight r
  | some ⟨_, .saving save payload⟩ =>
    match p.saves[save]? with
    | some ⟨_, _, _, .ended r⟩ =>
      some (p.setStage caller
        (.answered ((Outcome.ofExcept r).map fun _ => .found payload false)), [])
    | _ => none
  | some ⟨_, .draining waiter⟩ =>
    (p.pool.look? waiter).map fun pool =>
      let p := { p with pool := pool }
      (if pool.hasReturned waiter then p.setStage caller (.answered (.ok .done)) else p, [])
  | _ => none

/-- A save takes its turn and writes. -/
def resumeSave? (save : Nat) (p : Proxy ω) : Option (Proxy ω × List (Effect ω)) :=
  match p.saves[save]? with
  | some ⟨storeKey, v, ttl, .queued⟩ =>
    some ({ p with saves := p.saves.set save ⟨storeKey, v, ttl, .writing⟩ },
      [.write (.save save) storeKey v ttl])
  | _ => none

/-- A task takes its turn. -/
def resume? (now : Moment) (p : Proxy ω) : Task → Option (Proxy ω × List (Effect ω))
  | .caller c => p.resumeCaller? now c
  | .fetch f =>
    (p.fetches.ask? f).map fun (fetch, fetches) =>
      ({ p with fetches := fetches }, [.ask f fetch.key fetch.plan.origin])
  | .job j => p.resumeJob? j
  | .save s => p.resumeSave? s

/-- A caller that is still waiting stops waiting. What it started goes on. -/
def abandon? (caller : Nat) (p : Proxy ω) : Option (Proxy ω × List (Effect ω)) :=
  match p.stage? caller with
  | none | some (.answered _) | some .gone => none
  | some (.draining waiter) =>
    some ({ p with pool := p.pool.leave waiter }.setStage caller .gone, [])
  | some _ => some (p.setStage caller .gone, [])

/-- What a proxy does about an event, at a moment of the wall clock. -/
def step (now : Moment) (p : Proxy ω) : Event ω → Option (Proxy ω × List (Effect ω))
  | .request r => some (p.request now r)
  | .resume task => p.resume? now task
  | .originAnswered fetch r => p.originAnswered? now fetch r
  | .readAnswered caller r =>
    match p.callers[caller]? with
    | some ⟨.lookup policy key origin, .reading⟩ =>
      some (p.afterRead now caller policy key origin r)
    | _ => none
  | .writeAnswered task r => p.writeAnswered? task r
  | .deleteAnswered caller r =>
    match p.stage? caller with
    | some .deleting => some (p.setStage caller (.answered (r.map fun _ => .done)), [])
    | _ => none
  | .limitPassed caller => p.limitPassed? now caller
  | .limitCrashed caller text => p.limitCrashed? caller text
  | .abandoned caller => p.abandon? caller

end Proxy

end ReadThrough
