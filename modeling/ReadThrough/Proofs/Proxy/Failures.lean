import ReadThrough.Proofs.Proxy.Answers

/-!
# Which failures a caller hears of

A lookup may fail for four reasons of its own: the store cannot be read for it, its fetch fails,
it has waited too long, or it writes for itself and cannot. What is done behind callers' backs
may fail as well; that is noted in the log, and nobody is told. `Discreet` draws the line between
the two, for every state of every run.

A fetch lies on the line: it may be led by somebody else, under another policy. What its waiters
are told is said by where its result comes from (`CameBy`): the failure of a write is among it
only if a forced lookup leads the fetch, since only then does the write come before the answer.

The background has one way to be heard of. A job that ends with an error (`Turn.failure?`) leaves
one line in the log, and touches nothing that a caller takes its answer from.
-/

set_option autoImplicit false

namespace ReadThrough

variable {ω : Type}

/-! ## The log -/

/-- The text of an effect that logs an error. -/
def Effect.error? : Effect ω → Option String
  | log ⟨.error, text⟩ => some text
  | _ => none

/-- The errors that are logged, as texts. -/
def errorsLogged (fx : List (Effect ω)) : List String := fx.filterMap Effect.error?

/-- The job that ends in this turn with an error: its number, its work and the error. A job that
writes ends when the store answers; one that waits for a fetch, when it takes its turn and the
fetch is over. -/
def Turn.failure? (t : Turn ω) : Option (Nat × Work × Error) :=
  match t.event with
  | .writeAnswered (.job j) (.failed e) => (t.after.pool.jobs[j]?).map fun x => (j, x.work, e)
  | .resume (.job j) =>
    match t.after.pool.jobs[j]? with
    | some ⟨.refresh storeKey fetch, .ended⟩ =>
      match t.before.fetches.result? fetch with
      | some (.error e) => some (j, .refresh storeKey fetch, e)
      | _ => none
    | _ => none
  | _ => none

/-- How the log words the failure of a job. -/
def failureText (failure : Nat × Work × Error) : String :=
  "Background " ++ failure.2.1.description ++ " failed: " ++ failure.2.2.message

theorem errorsLogged_append (fx gx : List (Effect ω)) :
    errorsLogged (fx ++ gx) = errorsLogged fx ++ errorsLogged gx := List.filterMap_append

theorem errorsLogged_eq_nil {fx : List (Effect ω)} (h : ∀ x ∈ fx, x.error? = none) :
    errorsLogged fx = [] := List.filterMap_eq_nil_iff.2 h

theorem errorsLogged_wakes {fx : List (Effect ω)} (wakes : ∀ x ∈ fx, ∃ t, x = .wake t) :
    errorsLogged fx = [] :=
  errorsLogged_eq_nil fun x hx => by
    obtain ⟨t, rfl⟩ := wakes x hx
    rfl

namespace Proxy

variable {now : Moment} {p p' : Proxy ω} {e : Event ω} {fx : List (Effect ω)}

theorem errorsLogged_limitOf (c : Nat) (policy : Policy) :
    errorsLogged (limitOf c policy : List (Effect ω)) = [] := by
  refine errorsLogged_eq_nil fun x hx => ?_
  obtain ⟨limit, rfl, -⟩ := limit_of_mem_limitOf hx
  rfl

theorem errorsLogged_poolWakes (p : Proxy ω) (wakes : List Wake) :
    errorsLogged (p.poolWakes wakes) = [] :=
  errorsLogged_wakes fun _ => wake_of_mem_poolWakes

theorem errorsLogged_fetchWakes (p : Proxy ω) (id : Nat) : errorsLogged (p.fetchWakes id) = [] :=
  errorsLogged_wakes fun _ => wake_of_mem_fetchWakes

/-- A job fails in this step: what is logged is that and nothing else, and nothing changes outside
the pool. -/
structure JobFails (p : Proxy ω) (fx : List (Effect ω)) (p' : Proxy ω)
    (failure : Nat × Work × Error) : Prop where
  logged : errorsLogged fx = [failureText failure]
  before : ∀ x, p.pool.jobs[failure.1]? = some x → x.stage ≠ .ended
  after : p'.pool.jobs[failure.1]? = some ⟨failure.2.1, .ended⟩
  fetches : p'.fetches = p.fetches
  callers : p'.callers = p.callers
  saves : p'.saves = p.saves

/-- What a turn logs as an error, by the job that fails in it. -/
def Reports (now : Moment) (p : Proxy ω) (e : Event ω) (fx : List (Effect ω)) (p' : Proxy ω) :
    Prop :=
  match Turn.failure? ⟨now, e, p, fx, p'⟩ with
  | none => errorsLogged fx = []
  | some failure => p.JobFails fx p' failure

theorem Reports.of_none (none_fails : Turn.failure? ⟨now, e, p, fx, p'⟩ = none)
    (quiet : errorsLogged fx = []) : p.Reports now e fx p' := by
  unfold Reports
  rw [none_fails]
  exact quiet

theorem Reports.of_some {x : Nat × Work × Error}
    (fails : Turn.failure? ⟨now, e, p, fx, p'⟩ = some x) (h : p.JobFails fx p' x) :
    p.Reports now e fx p' := by
  unfold Reports
  rw [fails]
  exact h

/-- The job is over after `finish?`, with its work as before. -/
theorem ended_of_finish? {pool q : Pool Work} (balanced : pool.Balanced) {j : Nat}
    {wakes : List Wake} {work : Work} {s : Job.Stage} (at_ : pool.jobs[j]? = some ⟨work, s⟩)
    (finished : pool.finish? j = some (q, wakes)) : q.jobs[j]? = some ⟨work, .ended⟩ := by
  obtain ⟨⟨work', s'⟩, there, stage⟩ := Pool.stage?_eq_some (Pool.finish?_stage balanced finished)
  obtain ⟨y, before, same⟩ := (Pool.Keeps.finish? finished).works j _ there
  rw [at_] at before
  cases before
  cases stage
  cases same
  exact there

/-- A refresh whose fetch is over comes to its end. -/
theorem Reports.of_refresh {j : Nat} {q : Pool Work} {storeKey : String} {f : Nat}
    {r : Except Error Fetched} {gx : List (Effect ω)} (known : p.fetches.result? f = some r)
    (before : ∀ x, p.pool.jobs[j]? = some x → x.stage ≠ .ended)
    (ended : q.jobs[j]? = some ⟨.refresh storeKey f, .ended⟩) (quiet : errorsLogged gx = []) :
    p.Reports now (.resume (.job j))
      (endLog (.refresh storeKey f) ((Outcome.ofExcept r).map fun _ => ()) ++ gx)
      { p with pool := q } := by
  cases r with
  | ok a =>
    refine .of_none ?_ quiet
    simp [Turn.failure?, ended, known]
  | error e =>
    refine Reports.of_some (x := (j, .refresh storeKey f, e)) ?_ ⟨?_, before, ended, rfl, rfl, rfl⟩
    · simp [Turn.failure?, ended, known]
    · rw [errorsLogged_append, quiet, List.append_nil]
      rfl

theorem Step.reports (sane : p.Sane) (step : p.Step now e fx p') : p.Reports now e fx p' := by
  cases step with
  | arrive r fx s how =>
    refine .of_none rfl ?_
    cases how <;> rfl
  | force policy key origin p₁ flight fx some_key forced how =>
    refine .of_none rfl ?_
    rw [errorsLogged_append, errorsLogged_limitOf, List.append_nil]
    exact errorsLogged_wakes fun _ => how.wakes
  | miss c policy key origin o p₁ flight fx at_ missing how =>
    refine .of_none rfl ?_
    rw [errorsLogged_append, errorsLogged_limitOf, List.append_nil]
    exact errorsLogged_wakes fun _ => how.wakes
  | stale c policy key origin v p₁ flight fx at_ live old how =>
    refine .of_none rfl ?_
    rw [errorsLogged_append, errorsLogged_wakes fun _ => how.wakes]
    rfl
  | settle c x e fx s at_ how =>
    cases how with
    | told policy key origin flight r e looks =>
      rcases looks with rfl | rfl <;> exact .of_none rfl rfl
    | unread | hit | gaveUp | crashed | saved | written | deleted | left => exact .of_none rfl rfl
  | again c policy key origin flight a e at_ looks =>
    rcases looks with rfl | rfl <;> exact .of_none rfl rfl
  | passOn | failBack =>
    refine .of_none rfl ?_
    rw [errorsLogged_append, errorsLogged_poolWakes, errorsLogged_fetchWakes, List.append_nil]
  | failThrough | stored => exact .of_none rfl (errorsLogged_fetchWakes _ _)
  | queue j pool₁ resumed =>
    obtain ⟨work, waits⟩ := Pool.resume?_job resumed
    refine .of_none ?_ rfl
    simp [Turn.failure?, waits]
  | write j pool₁ storeKey v ttl resumed at_ =>
    refine .of_none ?_ rfl
    simp [Turn.failure?, at_]
  | await j pool₁ storeKey f resumed at_ running =>
    refine .of_none ?_ rfl
    simp [Turn.failure?, at_]
  | skip j pool₁ pool₂ storeKey f r wakes resumed at_ known finished =>
    refine .of_refresh known ?_ (ended_of_finish? (sane.balanced.resume? resumed) at_ finished)
      (errorsLogged_poolWakes _ _)
    intro x before ended
    -- What is resumed was not over.
    rcases (Pool.resume?_cases resumed).2.2.2.2 with ready | ready <;>
      simp [Pool.stage?, before, ended] at ready
  | endJob j work e r pool₁ wakes at_ how finished =>
    have ended := ended_of_finish? sane.balanced at_ finished
    have before : ∀ x, p.pool.jobs[j]? = some x → x.stage ≠ .ended := by
      intro x here ended
      rw [at_] at here
      cases here
      cases ended
    cases how with
    | refreshed storeKey f r known =>
      exact .of_refresh known before ended (errorsLogged_poolWakes _ _)
    | wroteBack storeKey v ttl r =>
      cases r with
      | ok u => exact .of_none rfl (errorsLogged_poolWakes _ _)
      | crashed text => exact .of_none rfl (errorsLogged_poolWakes _ _)
      | failed err =>
        refine Reports.of_some (x := (j, .writeBack storeKey v ttl, err)) ?_
          ⟨?_, before, ended, rfl, rfl, rfl⟩
        · simp [Turn.failure?, ended]
        · rw [errorsLogged_append, errorsLogged_poolWakes, List.append_nil]
          rfl
  | saved s x r at_ stage =>
    refine .of_none rfl (errorsLogged_wakes fun y hy => ?_)
    obtain ⟨c, -, rfl⟩ := List.mem_map.1 hy
    exact ⟨_, rfl⟩
  | drain | drained | parks | leaveDrain | ask | store | save => exact .of_none rfl rfl

/-! ## What a caller is told at once -/

/-- The store has been read for a lookup: a live entry is its answer, and so is an error; and if
there is nothing, it comes to a flight. -/
theorem Step.of_readAnswered {c : Nat} {r : Outcome (Option Value)}
    (step : p.Step now (.readAnswered c r) fx p') :
    ∃ policy key origin s, p.callers[c]? = some ⟨.lookup policy key origin, .reading⟩ ∧
      p'.callers[c]? = some ⟨.lookup policy key origin, s⟩ ∧
      (∀ v, r = .ok (some v) → v.absent = false → s = .answered (.ok (.found v.payload true))) ∧
      (∀ e, r = .failed e → s = .answered (.failed e)) ∧
      (∀ o, r = .ok o → (∀ v, o = some v → v.absent = true) → ∃ flight, s = .waiting flight) := by
  cases step with
  | settle d x e fx s at_ how =>
    cases how with
    | unread policy key origin r bad =>
      refine ⟨policy, key, origin, _, at_, callers_setStage _ at_,
        fun v ok => absurd ok (bad _), ?_, fun o ok => absurd ok (bad o)⟩
      rintro e rfl
      rfl
    | hit policy key origin v live still =>
      refine ⟨policy, key, origin, _, at_, callers_setStage _ at_, ?_, nofun, ?_⟩
      · intro w ok _
        cases ok
        rfl
      · intro o ok missing
        cases ok
        rw [missing v rfl] at live
        cases live
    | told policy key origin flight r e looks => rcases looks with e | e <;> cases e
  | miss d policy key origin o p₁ flight fx at_ missing how =>
    refine ⟨policy, key, origin, .waiting flight, at_,
      callers_setStage _ (by rw [how.callers]; exact at_), ?_, nofun,
      fun _ _ _ => ⟨flight, rfl⟩⟩
    intro v ok live
    cases ok
    rw [missing v rfl] at live
    cases live
  | stale d policy key origin v p₁ flight fx at_ live old how =>
    refine ⟨policy, key, origin, .answered (.ok (.found v.payload true)), at_,
      callers_setStage (p := { p₁ with pool := _ }) _ (how.callers.symm ▸ at_), ?_,
      nofun, ?_⟩
    · intro w ok _
      cases ok
      rfl
    · intro o ok missing
      cases ok
      rw [missing v rfl] at live
      cases live
  | again d policy key origin flight a e at_ looks => rcases looks with e | e <;> cases e
  | endJob j work e r pool₁ wakes at_ how => cases how

/-- Whoever has waited too long is told so. -/
theorem Step.of_limitPassed {c : Nat} {flight : Flight} (step : p.Step now (.limitPassed c) fx p')
    (waits : p.stage? c = some (.waiting flight))
    (running : p.fetches.result? flight.fetch = none) :
    ∃ q e, p'.callers[c]? = some ⟨q, .answered (.failed e)⟩ := by
  obtain ⟨q, here⟩ := stage?_eq_some_iff.1 waits
  cases step with
  | settle d x e fx s at_ how =>
    cases how with
    | told policy key origin flight' r e looks known =>
      rcases looks with e | e
      · cases e
      · cases e
        rw [here] at at_
        cases at_
        rw [running] at known
        cases known
    | gaveUp policy key origin flight' limit set =>
      exact ⟨_, _, callers_setStage _ at_⟩
  | again d policy key origin flight' a e at_ looks known =>
    rcases looks with e | e
    · cases e
    · cases e
      rw [here] at at_
      cases at_
      rw [running] at known
      cases known
  | endJob j work e r pool₁ wakes at_ how => cases how

/-! ## Saves -/

theorem lasting_save (i : Nat) {x : Save} {r : Except Error Unit} (ended : x.stage = .ended r) :
    Lasting fun p : Proxy ω => p.saves[i]? = some x :=
  fun _ _ _ _ _ _ step at_ =>
    step.save_stays at_ (by simp [ended]) fun writing => by rw [ended] at writing; cases writing

theorem Step.of_save_answered {i : Nat} {r : Outcome Unit}
    (step : p.Step now (.writeAnswered (.save i) r) fx p') :
    ∃ x, p'.saves[i]? = some x ∧ x.stage = .ended (r.caught saveCrash) := by
  cases step with
  | settle d x e fx s at_ how =>
    cases how with
    | told policy key origin flight r e looks => rcases looks with e | e <;> cases e
  | again d policy key origin flight a e at_ looks => rcases looks with e | e <;> cases e
  | endJob j work e r pool₁ wakes at_ how => cases how
  | saved s x r at_ stage =>
    have there := (List.getElem?_eq_some_iff.1 at_).1
    exact ⟨{ x with stage := .ended (r.caught saveCrash) }, by simp [there], rfl⟩

/-! ## Failures that are waited for are heard of -/

theorem result?_setStage {c : Nat} {x : Caller ω} {a : Outcome Answer}
    (at_ : p.callers[c]? = some x) : (p.setStage c (.answered a)).result? c = some a :=
  result?_eq_some_iff.2 ⟨_, callers_setStage _ at_, rfl⟩

/-- Whoever waits for a fetch that has failed needs a turn, and is told by it. -/
theorem tells_of_failed_fetch {c : Nat} {policy : Policy} {key : String} {origin : ω}
    {flight : Flight} {err : Error}
    (at_ : p.callers[c]? = some ⟨.lookup policy key origin, .waiting flight⟩)
    (failed : p.fetches.result? flight.fetch = some (.error err)) :
    p.next? (.caller c) = some (.wake (.caller c)) ∧
      ∀ now, p.step now (.resume (.caller c)) = some (p.setStage c (.answered (.failed err)), []) ∧
        p.step now (.limitPassed c) = some (p.setStage c (.answered (.failed err)), []) := by
  refine ⟨?_, fun now => ⟨?_, ?_⟩⟩
  · rw [next?_caller at_]
    simp [callerNeeds?, failed]
  · simp [step, resume?, resumeCaller?, at_, failed, deliver]
  · simp [step, limitPassed?, at_, failed, deliver]

/-- Whoever waits for a save that has failed needs a turn, and is told by it. -/
theorem tells_of_failed_save {c : Nat} {q : Request ω} {i : Nat} {payload : String} {x : Save}
    {err : Error} (at_ : p.callers[c]? = some ⟨q, .saving i payload⟩)
    (there : p.saves[i]? = some x) (failed : x.stage = .ended (.error err)) :
    p.next? (.caller c) = some (.wake (.caller c)) ∧
      ∀ now, p.step now (.resume (.caller c)) =
        some (p.setStage c (.answered (.failed err)), []) := by
  obtain ⟨storeKey, v, ttl, stage⟩ := x
  cases failed
  have finished : p.saveOver i = true := saveOver_eq_true_iff.2 ⟨_, _, there, rfl⟩
  refine ⟨?_, fun now => ?_⟩
  · rw [next?_caller at_]
    simp [callerNeeds?, finished]
  · cases q <;> simp [step, resume?, resumeCaller?, at_, there, Outcome.ofExcept, Outcome.map]

end Proxy

/-! ## Over a run -/

/-- A lookup that came to no flight and failed could not have the store read. -/
theorem Explained.unread_of_ashore {keys : KeyScheme} {past : List (Turn ω)} {c : Nat}
    {policy : Policy} {key : String} {origin : ω} {e : Error}
    (h : Explained keys past c policy key origin (.failed e)) (ashore : flight? past c = none) :
    policy.force = false ∧ HasOnlyRead past c (keys.build key) := by
  have elsewhere : ∀ {flight}, ¬Aboard past c policy key origin flight := by
    intro flight aboard
    rw [aboard.flight?] at ashore
    cases ashore
  generalize hr : Outcome.failed e = r at h
  cases h with
  | unread r gentle bad ashore read only => exact ⟨gentle, only⟩
  | blank | hit | crashed => cases hr
  | told flight r some_key aboard => exact (elsewhere aboard).elim
  | gaveUp flight limit some_key aboard => exact (elsewhere aboard).elim
  | saved flight a i r some_key aboard => exact (elsewhere aboard).elim

/-- A save that is over has the result that the store has answered. -/
theorem Trail.caught_of_save {p₀ p : Proxy ω} {past : List (Turn ω)} (trail : Trail p₀ past p)
    {i : Nat} {x : Save} {r : Except Error Unit} {o : Outcome Unit} (there : p.saves[i]? = some x)
    (ended : x.stage = .ended r) (told : ∃ t ∈ past, t.event = .writeAnswered (.save i) o) :
    r = o.caught Proxy.saveCrash := by
  obtain ⟨t, ht, event⟩ := told
  have step := (trail.of_mem ht).2
  rw [event] at step
  obtain ⟨y, here, result⟩ := step.of_save_answered
  have still := trail.lasts (Proxy.lasting_save i result) ht here
  rw [there] at still
  cases still
  rw [ended] at result
  exact Save.Stage.ended.inj result

/-- The jobs that have failed are over, and each has failed once. -/
theorem Trail.failures {p₀ p : Proxy ω} {past : List (Turn ω)} (trail : Trail p₀ past p) :
    ((past.filterMap Turn.failure?).map Prod.fst).Nodup ∧
      ∀ x ∈ past.filterMap Turn.failure?, p.pool.jobs[x.1]? = some ⟨x.2.1, .ended⟩ := by
  induction trail with
  | start => exact ⟨List.nodup_nil, fun x hx => by cases hx⟩
  | turn t past sofar sane step ih =>
    obtain ⟨distinct, finished⟩ := ih
    have stays : ∀ x ∈ past.filterMap Turn.failure?, t.after.pool.jobs[x.1]? = some ⟨x.2.1, .ended⟩ :=
      fun x hx => Proxy.lasting_job x.1 rfl sane step (finished x hx)
    have reports := step.reports sane
    unfold Proxy.Reports at reports
    cases fails : t.failure? with
    | none =>
      rw [List.filterMap_cons_none fails]
      exact ⟨distinct, stays⟩
    | some x =>
      rw [show Turn.failure? ⟨t.now, t.event, t.before, t.effects, t.after⟩ = some x from fails]
        at reports
      rw [List.filterMap_cons_some fails]
      refine ⟨List.nodup_cons.2 ⟨fun again => ?_, distinct⟩, ?_⟩
      · obtain ⟨y, hy, same⟩ := List.mem_map.1 again
        exact reports.before _ (same ▸ finished y hy) rfl
      · intro y hy
        rcases List.mem_cons.1 hy with rfl | old
        · exact reports.after
        · exact stays y old

namespace Scene

/-- Who hears of which failure. -/
structure Discreet (keys : KeyScheme) (s : Scene ω) : Prop where
  /-- If the store has a live entry for a lookup, that is its answer, by the turn in which it has
  been read and ever after. -/
  hit : ∀ t ∈ s.past, ∀ c v, t.event = .readAnswered c (.ok (some v)) → v.absent = false →
    t.after.result? c = some (.ok (.found v.payload true)) ∧
      s.proxy.result? c = some (.ok (.found v.payload true))
  /-- If the store has nothing for it, it comes to a flight, and is answered what the fetch has
  brought; or that it has waited too long; or it crashes over its limit. -/
  missed : ∀ t ∈ s.past, ∀ c o, t.event = .readAnswered c (.ok o) →
    (∀ v, o = some v → v.absent = true) → ∃ flight, flight? s.past c = some flight ∧
      ∀ policy key origin r, policy.force = false →
        s.proxy.callers[c]? = some ⟨.lookup policy key origin, .answered r⟩ →
        Aboard s.past c policy key origin flight ∧
        ((∃ result, s.proxy.fetches.result? flight.fetch = some result ∧
          r = (Outcome.ofExcept result).map fun a => .found a.payload false) ∨
        (TimedOut s.past c flight ∧ ∃ limit, policy.waitLimit = some limit ∧ r = .failed
          (.timeout ("origin fetch for " ++ key ++ " exceeded " ++ limit.text))) ∨
        ∃ text, (∃ t ∈ s.past, t.event = .limitCrashed c text) ∧ r = .crashed text)
  /-- A fetch has its result from the origin, or from a write if a forced lookup leads it. -/
  results : ∀ id result, s.proxy.fetches.result? id = some result →
    ∃ w, leader? s.past id = some w ∧ CameBy s.past id w.role result
  /-- A forced lookup fails exactly if its fetch has failed, or it has waited too long, or it had
  joined the fetch and its own write has failed. -/
  forced : ∀ c policy key origin r,
    s.proxy.callers[c]? = some ⟨.lookup policy key origin, .answered r⟩ →
    policy.force = true → key ≠ "" → (∀ text, r ≠ .crashed text) →
    ∃ flight, Aboard s.past c policy key origin flight ∧ ((∃ e, r = .failed e) ↔
      (∃ e, s.proxy.fetches.result? flight.fetch = some (.error e)) ∨ TimedOut s.past c flight ∨
        (flight.leader = false ∧ ∃ w, HasWritten s.past c w ∧ ∀ u, w ≠ .ok u))
  /-- If the store cannot be read, the lookup is answered that error and no other; and nothing
  else was ever done or asked for on its behalf. -/
  unread : ∀ t ∈ s.past, ∀ c e, t.event = .readAnswered c (.failed e) →
    ∃ policy key origin, policy.force = false ∧
      s.proxy.callers[c]? = some ⟨.lookup policy key origin, .answered (.failed e)⟩ ∧
      HasOnlyRead s.past c (keys.build key)
  /-- What is logged as an error in a turn is the failure of the job that ends in it, if one does
  so with an error; and such a turn changes nothing outside the pool. -/
  logged : ∀ t ∈ s.past, errorsLogged t.effects = (t.failure?.map failureText).toList ∧
    (t.failure? ≠ none → t.after.callers = t.before.callers ∧
      t.after.fetches = t.before.fetches ∧ t.after.saves = t.before.saves)
  /-- No job fails twice. -/
  once : ((s.past.filterMap Turn.failure?).map Prod.fst).Nodup
  /-- Whoever waits for a fetch that has failed is to be woken, and is told by its next turn. -/
  fetchHeard : ∀ c policy key origin flight e,
    s.proxy.callers[c]? = some ⟨.lookup policy key origin, .waiting flight⟩ →
    s.proxy.fetches.result? flight.fetch = some (.error e) → .wake (.caller c) ∈ s.due ∧
      ∀ now, (s.act now (.resume (.caller c))).proxy.result? c = some (.failed e) ∧
        (s.act now (.limitPassed c)).proxy.result? c = some (.failed e)
  /-- So is whoever waits for its own write. -/
  saveHeard : ∀ c q i payload x e, s.proxy.callers[c]? = some ⟨q, .saving i payload⟩ →
    s.proxy.saves[i]? = some x → x.stage = .ended (.error e) → .wake (.caller c) ∈ s.due ∧
      ∀ now, (s.act now (.resume (.caller c))).proxy.result? c = some (.failed e)

section Run

variable (keys : KeyScheme) (maxTasks : Nat) (es : List (Moment × Event ω))

/-- A save has its result from the store. -/
theorem saved_run {i : Nat} {x : Save} {r : Except Error Unit}
    (at_ : ((start keys maxTasks).run es).proxy.saves[i]? = some x) (ended : x.stage = .ended r) :
    ∃ o, (∃ t ∈ ((start keys maxTasks).run es).past, t.event = .writeAnswered (.save i) o) ∧
      r = o.caught Proxy.saveCrash := by
  refine turn_induction (P := fun past p => ∀ x, p.saves[i]? = some x → x.stage = .ended r →
    ∃ o, (∃ t ∈ past, t.event = .writeAnswered (.save i) o) ∧ r = o.caught Proxy.saveCrash)
    ?_ (fun x at_ => by cases at_) es x at_ ended
  intro es now e fx p taken ih x at_ ended
  rcases taken.save_cases at_ with before | ⟨-, queued⟩ | ⟨y, before, ⟨-, rfl⟩ | ⟨-, o, rfl, rfl⟩⟩
  · obtain ⟨o, told, rfl⟩ := ih x before ended
    exact ⟨o, exists_cons told _, rfl⟩
  · rw [queued] at ended
    cases ended
  · cases ended
  · cases ended
    exact ⟨o, exists_cons_self _ rfl, rfl⟩

/-- Whoever has had an error for a read of the store has that as its answer, and has done nothing
else. -/
theorem unread_run {c : Nat} {err : Error}
    (told : ∃ t ∈ ((start keys maxTasks).run es).past, t.event = .readAnswered c (.failed err)) :
    ∃ policy key origin, policy.force = false ∧
      ((start keys maxTasks).run es).proxy.callers[c]? =
        some ⟨.lookup policy key origin, .answered (.failed err)⟩ ∧
      HasOnlyRead ((start keys maxTasks).run es).past c (keys.build key) := by
  refine turn_induction (P := fun past p => (∃ t ∈ past, t.event = .readAnswered c (.failed err)) →
    ∃ policy key origin, policy.force = false ∧
      p.callers[c]? = some ⟨.lookup policy key origin, .answered (.failed err)⟩ ∧
      HasOnlyRead past c (keys.build key)) ?_ (fun told => by simp at told) es told
  rintro es now e fx p taken ih ⟨t, ht, event⟩
  have trail := trail_run keys maxTasks es
  have travelled := travelled_run keys maxTasks es
  have scheme := (accounted_run keys maxTasks es).scheme
  have sane := sane_run keys maxTasks es
  generalize (start keys maxTasks).run es = scene at *
  rcases List.mem_cons.1 ht with rfl | old
  · obtain rfl : e = .readAnswered c (.failed err) := event
    obtain ⟨policy, key, origin, s, before, after, -, failed, -⟩ := taken.of_readAnswered
    obtain rfl := failed err rfl
    -- It came to no flight before, and has not come to one now.
    have ashore : flight? (⟨now, .readAnswered c (.failed err), scene.proxy, fx, p⟩ :: scene.past) c =
        none := by
      cases travelled c policy key origin _ before with
      | reading some_key gentle ashore =>
        exact (lately?_cons (Proxy.stage?_eq_some_iff.2 ⟨_, after⟩) rfl).trans ashore
    cases travelled.turn trail taken c policy key origin _ after with
    | answered r how =>
      obtain ⟨gentle, only⟩ := how.unread_of_ashore ashore
      rw [taken.keys, scheme] at only
      exact ⟨policy, key, origin, gentle, after, only⟩
  · obtain ⟨policy, key, origin, gentle, before, only⟩ := ih ⟨t, old, event⟩
    have after := Proxy.lasting_caller c rfl sane taken before
    exact ⟨policy, key, origin, gentle, after,
      only.cons fun moved => absurd (after.trans before.symm) moved⟩

theorem hit_run {t : Turn ω} (ht : t ∈ ((start keys maxTasks).run es).past) {c : Nat} {v : Value}
    (event : t.event = .readAnswered c (.ok (some v))) (live : v.absent = false) :
    t.after.result? c = some (.ok (.found v.payload true)) ∧
      ((start keys maxTasks).run es).proxy.result? c = some (.ok (.found v.payload true)) := by
  have trail := trail_run keys maxTasks es
  have step := (trail.of_mem ht).2
  rw [event] at step
  obtain ⟨policy, key, origin, s, -, after, hit, -, -⟩ := step.of_readAnswered
  obtain rfl := hit v rfl live
  exact ⟨Proxy.result?_eq_some_iff.2 ⟨_, after, rfl⟩,
    Proxy.result?_eq_some_iff.2 ⟨_, trail.lasts (Proxy.lasting_caller c rfl) ht after, rfl⟩⟩

/-- Whoever has waited too long is answered with an error. -/
theorem timedOut_run {c : Nat} {flight : Flight} {q : Request ω} {r : Outcome Answer}
    (timed : TimedOut ((start keys maxTasks).run es).past c flight)
    (at_ : ((start keys maxTasks).run es).proxy.callers[c]? = some ⟨q, .answered r⟩) :
    ∃ e, r = .failed e := by
  obtain ⟨t, ht, event, waits, running⟩ := timed
  have trail := trail_run keys maxTasks es
  have step := (trail.of_mem ht).2
  rw [event] at step
  obtain ⟨q', e, after⟩ := step.of_limitPassed waits running
  have still := trail.lasts (Proxy.lasting_caller c rfl) ht after
  rw [at_] at still
  cases still
  exact ⟨e, rfl⟩

theorem missed_run {t : Turn ω} (ht : t ∈ ((start keys maxTasks).run es).past) {c : Nat}
    {o : Option Value} (event : t.event = .readAnswered c (.ok o))
    (missing : ∀ v, o = some v → v.absent = true) :
    ∃ flight, flight? ((start keys maxTasks).run es).past c = some flight := by
  have step := ((trail_run keys maxTasks es).of_mem ht).2
  rw [event] at step
  obtain ⟨policy, key, origin, s, -, after, -, -, waits⟩ := step.of_readAnswered
  obtain ⟨flight, rfl⟩ := waits o rfl missing
  exact exists_lately? ht (Proxy.stage?_eq_some_iff.2 ⟨_, after⟩) rfl

/-- What a lookup is answered that came to a flight and does not write for itself. -/
theorem answer_of_flight {c : Nat} {policy : Policy} {key : String} {origin : ω}
    {r : Outcome Answer} {flight : Flight}
    (at_ : ((start keys maxTasks).run es).proxy.callers[c]? =
      some ⟨.lookup policy key origin, .answered r⟩)
    (gentle : policy.force = false)
    (came : flight? ((start keys maxTasks).run es).past c = some flight) :
    Aboard ((start keys maxTasks).run es).past c policy key origin flight ∧
    ((∃ result, ((start keys maxTasks).run es).proxy.fetches.result? flight.fetch = some result ∧
      r = (Outcome.ofExcept result).map fun a => .found a.payload false) ∨
    (TimedOut ((start keys maxTasks).run es).past c flight ∧
      ∃ limit, policy.waitLimit = some limit ∧ r = .failed
        (.timeout ("origin fetch for " ++ key ++ " exceeded " ++ limit.text))) ∨
    ∃ text, (∃ t ∈ ((start keys maxTasks).run es).past, t.event = .limitCrashed c text) ∧
      r = .crashed text) := by
  have trail := trail_run keys maxTasks es
  have how := explained_run keys maxTasks es at_
  have same : ∀ {other},
      Aboard ((start keys maxTasks).run es).past c policy key origin other → other = flight :=
    fun aboard => Option.some.inj (aboard.flight?.symm.trans came)
  cases how with
  | told other result some_key aboard known plain =>
    obtain rfl := same aboard
    obtain ⟨t, ht, known⟩ := known
    exact ⟨aboard, Or.inl
      ⟨result, trail.lasts_since (Proxy.lasting_result? _ _) ht known, rfl⟩⟩
  | gaveUp other limit some_key aboard set passed =>
    obtain rfl := same aboard
    exact ⟨aboard, Or.inr (Or.inl ⟨passed, limit, set, rfl⟩)⟩
  | crashed other text some_key aboard crashed =>
    obtain rfl := same aboard
    exact ⟨aboard, Or.inr (Or.inr ⟨text, crashed, rfl⟩)⟩
  | saved other a i result some_key aboard forced =>
    rw [gentle] at forced
    cases forced
  | blank blank ashore | unread r gentle bad ashore | hit v gentle live ashore =>
    rw [came] at ashore
    cases ashore

/-- What makes a forced lookup fail. -/
theorem failed_iff_of_forced {c : Nat} {policy : Policy} {key : String} {origin : ω}
    {r : Outcome Answer}
    (at_ : ((start keys maxTasks).run es).proxy.callers[c]? =
      some ⟨.lookup policy key origin, .answered r⟩)
    (forced : policy.force = true) (some_key : key ≠ "") (whole : ∀ text, r ≠ .crashed text) :
    ∃ flight, Aboard ((start keys maxTasks).run es).past c policy key origin flight ∧
      ((∃ e, r = .failed e) ↔
        (∃ e, ((start keys maxTasks).run es).proxy.fetches.result? flight.fetch =
          some (.error e)) ∨
        TimedOut ((start keys maxTasks).run es).past c flight ∨
        (flight.leader = false ∧
          ∃ w, HasWritten ((start keys maxTasks).run es).past c w ∧ ∀ u, w ≠ .ok u)) := by
  have trail := trail_run keys maxTasks es
  have timed : ∀ flight, TimedOut ((start keys maxTasks).run es).past c flight →
      ∃ e, r = .failed e := fun flight late => timedOut_run keys maxTasks es late at_
  have saved : ∀ {i x r}, ((start keys maxTasks).run es).proxy.saves[i]? = some x →
      x.stage = .ended r → ∃ o, (∃ t ∈ ((start keys maxTasks).run es).past,
        t.event = .writeAnswered (.save i) o) ∧ r = o.caught Proxy.saveCrash :=
    fun there ended => saved_run keys maxTasks es there ended
  have how := explained_run keys maxTasks es at_
  generalize (start keys maxTasks).run es = s at *
  have remains : ∀ {id result}, (∃ t ∈ s.past, t.before.fetches.result? id = some result) →
      s.proxy.fetches.result? id = some result := by
    rintro id result ⟨t, ht, known⟩
    exact trail.lasts_since (Proxy.lasting_result? id result) ht known
  cases how with
  | blank blank => exact absurd blank some_key
  | unread r gentle | hit v gentle =>
    rw [forced] at gentle
    cases gentle
  | crashed flight text => exact absurd rfl (whole text)
  | gaveUp flight limit some_key aboard set passed =>
    exact ⟨flight, aboard, fun _ => Or.inr (Or.inl passed), fun _ => ⟨_, rfl⟩⟩
  | told flight result some_key aboard known plain =>
    have known := remains known
    refine ⟨flight, aboard, ?_⟩
    cases result with
    | error e => exact ⟨fun _ => Or.inl ⟨e, known⟩, fun _ => ⟨e, rfl⟩⟩
    | ok a =>
      refine ⟨(fun ⟨e, failed⟩ => by cases failed), ?_⟩
      rintro (⟨e, failed⟩ | late | ⟨joined, -⟩)
      · rw [known] at failed
        cases failed
      · exact timed flight late
      · -- Whoever is forced and has joined writes for itself, and is not told at once.
        have own := plain a rfl
        simp [forced, joined] at own
  | saved flight a i result some_key aboard _ joined known own finished =>
    have known := remains known
    obtain ⟨u, hu, x, there, ended⟩ := finished
    have there := trail.lasts_since (Proxy.lasting_save i ended) hu there
    refine ⟨flight, aboard, ?_⟩
    cases result with
    | error e =>
      obtain ⟨o, told, bad⟩ := saved there ended
      refine ⟨fun _ => Or.inr (Or.inr ⟨joined, o, ⟨i, own, told⟩, ?_⟩), fun _ => ⟨e, rfl⟩⟩
      rintro u rfl
      cases bad
    | ok u =>
      refine ⟨(fun ⟨e, failed⟩ => by cases failed), ?_⟩
      rintro (⟨e, failed⟩ | late | ⟨-, o, ⟨j, same, told⟩, bad⟩)
      · rw [known] at failed
        cases failed
      · exact timed flight late
      · obtain rfl : i = j := Option.some.inj (own.symm.trans same)
        have result := trail.caught_of_save there ended told
        cases o with
        | ok u => exact absurd rfl (bad u)
        | failed | crashed => cases result

end Run

theorem act_proxy {s : Scene ω} {now : Moment} {e : Event ω} {p : Proxy ω} {fx : List (Effect ω)}
    (moves : s.proxy.step now e = some (p, fx)) : (s.act now e).proxy = p := by
  unfold act
  rw [moves]

/-- **Background failures reach no caller, and the others reach whom they concern.** In every state
that a run comes to, whatever origins, the store and the pool do and in whatever order, callers
have heard of failures as `Discreet` says. -/
theorem failures_reach_whom_they_concern (keys : KeyScheme) (maxTasks : Nat)
    (es : List (Moment × Event ω)) : ((start keys maxTasks).run es).Discreet keys where
  hit t ht c v event live := hit_run keys maxTasks es ht event live
  missed t ht c o event missing := by
    obtain ⟨flight, came⟩ := missed_run keys maxTasks es ht event missing
    exact ⟨flight, came, fun policy key origin r gentle at_ =>
      answer_of_flight keys maxTasks es at_ gentle came⟩
  results id result known := cameBy_run keys maxTasks es known
  forced c policy key origin r at_ forced some_key whole :=
    failed_iff_of_forced keys maxTasks es at_ forced some_key whole
  unread t ht c e event := unread_run keys maxTasks es ⟨t, ht, event⟩
  logged t ht := by
    obtain ⟨sane, step⟩ := (trail_run keys maxTasks es).of_mem ht
    have reports := step.reports sane
    unfold Proxy.Reports at reports
    split at reports
    case h_1 none_fails =>
      rw [show t.failure? = none from none_fails]
      exact ⟨reports, fun fails => absurd rfl fails⟩
    case h_2 x fails =>
      rw [show t.failure? = some x from fails]
      exact ⟨reports.logged, fun _ => ⟨reports.callers, reports.fetches, reports.saves⟩⟩
  once := (trail_run keys maxTasks es).failures.1
  fetchHeard c policy key origin flight e at_ failed := by
    obtain ⟨needs, told⟩ := Proxy.tells_of_failed_fetch at_ failed
    refine ⟨covered_run keys maxTasks es _ _ needs, fun now => ⟨?_, ?_⟩⟩
    · rw [act_proxy (told now).1]
      exact Proxy.result?_setStage at_
    · rw [act_proxy (told now).2]
      exact Proxy.result?_setStage at_
  saveHeard c q i payload x e at_ there failed := by
    obtain ⟨needs, told⟩ := Proxy.tells_of_failed_save at_ there failed
    refine ⟨covered_run keys maxTasks es _ _ needs, fun now => ?_⟩
    rw [act_proxy (told now)]
    exact Proxy.result?_setStage at_

end Scene

end ReadThrough
