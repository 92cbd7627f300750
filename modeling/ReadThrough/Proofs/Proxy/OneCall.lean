import ReadThrough.Proofs.Proxy.Carrying

/-!
# One call at a time

If every call waits until the one before it is over and the pool has been drained, little can be
under way at any moment: the store is read, written or cleared for the caller; or one fetch is
under way; or the fetch is over, and at most one write is left, with the pool or with the store.
`Stands` lists these, and says for each what the call will come to: what answer the caller gets,
which key its origin is still asked for, and what the shelf will be like when all is done.

Whatever the surroundings bring next (`Brings`), and in whichever order, none of this changes.
That is shown for each kind of thing that they can bring.
-/

set_option autoImplicit false

namespace ReadThrough

/-- The keys that effects ask origins for. -/
def keysAsked {ω : Type} (fx : List (Effect ω)) : List String :=
  (fx.filterMap Effect.ask?).map fun x => x.2.1

/-- The same outlook, with more keys asked for before. -/
def Outlook.after (o : Outlook) (keys : List String) : Outlook :=
  { o with asked := o.asked ++ keys }

theorem Outlook.after_after (o : Outlook) (keys keys' : List String) :
    (o.after keys).after keys' = o.after (keys ++ keys') := by
  rw [after, after, after, List.append_assoc]

/-- Outlooks that are alike stay so when the same keys have been asked for before. -/
theorem Outlook.Like.after {now : Moment} {o o' : Outlook} (h : o.Like now o')
    (keys : List String) : (o.after keys).Like now (o'.after keys) :=
  ⟨h.answer, congrArg (· ++ keys) h.asked, h.shelf⟩

/-! ## What a fetch comes to -/

namespace Fetch

/-- The key that the origin is still to be asked for. -/
def toAsk {ω : Type} (f : Fetch (Plan ω)) : List String :=
  match f.stage with
  | .queued => [f.key]
  | .asking | .storing _ | .ended _ => []

/-- What the store is asked for on behalf of the fetch itself. -/
def orders {ω : Type} (now : Clocks) (id : Nat) (f : Fetch (Plan ω)) : List (Effect ω) :=
  match f.stage with
  | .storing a =>
    [.write (.fetch id) f.plan.after.storeKey (a.stamp now.wall)
      (f.plan.after.policy.ttlFor a.payload)]
  | .queued | .asking | .ended _ => []

/-- How a fetch will end, and what the shelf will be like once its answer is written. -/
def outcome (now : Clocks) (s : Shelf) (f : Fetch (Plan Supplier)) :
    Except Error Fetched × Shelf :=
  match f.stage with
  | .queued | .asking =>
    s.fetched now f.plan.after.guard?.isNone f.plan.after.policy f.plan.after.storeKey
      (f.plan.origin.answer f.key)
  | .storing a =>
    let (r, s) := s.put now.monotonic f.plan.after.storeKey (a.stamp now.wall)
      (f.plan.after.policy.ttlFor a.payload)
    (Coalescer.concluded a r, s)
  | .ended r => (r, s)

end Fetch

/-- The write is one that the store can make. -/
def Write.Sound (w : Write) : Prop := w.storeKey ≠ "" ∧ Fits w.value.payload

/-- A failed fetch leaves the shelf alone, whichever way it was to be written. -/
theorem Shelf.fetched_of_caught {now : Clocks} {s : Shelf} {first : Bool} {policy : Policy}
    {storeKey : String} {r : Outcome Fetched} {err : Error}
    (bad : r.caught Coalescer.crashError = .error err) :
    s.fetched now first policy storeKey r = (.error err, s) := by
  cases r with
  | ok a => cases bad
  | failed e | crashed t =>
    cases bad
    rfl

namespace Proxy

variable {now : Clocks} {p p' : Proxy Supplier} {n : Nat} {e : Event Supplier}
  {u fx : List (Effect Supplier)} {s : Shelf} {o : Outlook}

/-- Origins are asked by nothing but the turn of a fetch. -/
theorem Step.keysAsked_eq_nil (step : p.Step now.wall e fx p')
    (other : ∀ id, e ≠ .resume (.fetch id)) : keysAsked fx = [] := by
  rw [keysAsked, List.map_eq_nil_iff]
  refine List.filterMap_eq_nil_iff.2 fun x hx => ?_
  cases x with
  | ask id key origin => exact absurd (step.asks hx).1 (other id)
  | wake | read | write | delete | limit | log => rfl

/-! ## Where a call stands -/

/-- No fetch is under way. -/
def Quiet (p : Proxy Supplier) : Prop := ∀ i key, ¬p.fetches.IsAlive i key

/-- While no fetch is under way a call always leads. -/
theorem Quiet.free (h : p.Quiet) (sane : p.Sane) (key : String) :
    p.fetches.inFlight.get? key = none := by
  apply Option.eq_none_iff_forall_ne_some.2
  intro i taken
  exact h i key ((sane.sound key i).1 taken)

/-- The caller has its answer, or will have it with the fetch that it leads. -/
inductive Gets (x : Option (Caller Supplier)) (known : Nat → Option (Except Error Fetched)) :
    Outcome Answer → Prop
  | waits (policy : Policy) (key : String) (origin : Supplier) (id : Nat)
      (r : Except Error Fetched) (at_ : x = some ⟨.lookup policy key origin, .waiting ⟨id, true⟩⟩)
      (ends : known id = some r) :
      Gets x known ((Outcome.ofExcept r).map fun a => .found a.payload false)
  | answered (q : Request Supplier) (a : Outcome Answer) (at_ : x = some ⟨q, .answered a⟩) :
      Gets x known a

/-- What the caller gets is fixed by the results that are known, and more of them make no
difference. -/
theorem Gets.imp {x : Option (Caller Supplier)} {known known' : Nat → Option (Except Error Fetched)}
    {a : Outcome Answer} (h : Gets x known a)
    (more : ∀ i r, known i = some r → known' i = some r) : Gets x known' a := by
  cases h with
  | waits policy key origin id r at_ ends => exact .waits policy key origin id r at_ (more id r ends)
  | answered q a at_ => exact .answered q a at_

/-- A write that is still to be made behind everybody's back, by what has become of it: it waits
for a permit, or a job is making it. -/
inductive Ahead (p : Proxy Supplier) : List (Effect Supplier) → Option Write → Prop
  | nothing (rests : p.queued = []) : Ahead p [] none
  | waits (w : Write) (queued : p.queued = [w]) : Ahead p [] (some w)
  | begun (j : Nat) (w : Write) (rests : p.queued = []) :
      Ahead p [.write (.job j) w.storeKey w.value w.ttl] (some w)

/-- A fetch is under way, and no other; `a` is what its caller gets. -/
structure Flying (now : Clocks) (p : Proxy Supplier) (n : Nat) (u : List (Effect Supplier))
    (s : Shelf) (id : Nat) (f : Fetch (Plan Supplier)) (a : Outcome Answer) : Prop where
  at_ : p.fetches.fetches[id]? = some f
  alive : f.stage.isAlive = true
  alone : ∀ i key, p.fetches.IsAlive i key → i = id
  rests : p.queued = []
  orders : u = f.orders now id
  some_key : f.plan.after.storeKey ≠ ""
  fits : ∀ a, f.stage = .storing a → Fits a.payload
  gets : Gets p.callers[n]? (fun i => if i = id then some (f.outcome now s).1 else none) a
  /-- What is written before anybody is answered has somebody who waits for it. -/
  awaited : f.plan.after.guard? = none → ∀ r, p.result? n ≠ some r

/-- Where a call stands, and what it will come to. -/
inductive Stands (now : Clocks) (p : Proxy Supplier) (n : Nat) (u : List (Effect Supplier))
    (s : Shelf) : Outlook → Prop
  | reading (policy : Policy) (key : String) (origin : Supplier)
      (at_ : p.callers[n]? = some ⟨.lookup policy key origin, .reading⟩) (quiet : p.Quiet)
      (rests : p.queued = []) (orders : u = [.read n (p.keys.build key)])
      (some_key : p.keys.build key ≠ "") :
      Stands now p n u s (Plain.gentle now policy key (p.keys.build key) origin s)
  | setting (q : Request Supplier) (w : Write) (at_ : p.callers[n]? = some ⟨q, .writing⟩)
      (quiet : p.Quiet) (rests : p.queued = [])
      (orders : u = [.write (.caller n) w.storeKey w.value w.ttl]) (sound : w.Sound) :
      Stands now p n u s
        ⟨(s.put now.monotonic w.storeKey w.value w.ttl).1.map fun _ => .done, [],
          (s.put now.monotonic w.storeKey w.value w.ttl).2⟩
  | deleting (q : Request Supplier) (storeKey : String)
      (at_ : p.callers[n]? = some ⟨q, .deleting⟩) (quiet : p.Quiet) (rests : p.queued = [])
      (orders : u = [.delete n storeKey]) (some_key : storeKey ≠ "") :
      Stands now p n u s ⟨.ok .done, [], s.drop storeKey⟩
  | flying (id : Nat) (f : Fetch (Plan Supplier)) (a : Outcome Answer)
      (h : p.Flying now n u s id f a) : Stands now p n u s ⟨a, f.toAsk, (f.outcome now s).2⟩
  | closing (w? : Option Write) (a : Outcome Answer) (quiet : p.Quiet) (ahead : p.Ahead u w?)
      (sound : ∀ w ∈ w?, w.Sound) (gets : Gets p.callers[n]? p.fetches.result? a) :
      Stands now p n u s
        ⟨a, [], w?.elim s fun w => (s.put now.monotonic w.storeKey w.value w.ttl).2⟩

/-- A call that has its answer, with no write left to be made behind it. -/
theorem Stands.of_answered {a : Outcome Answer} (quiet : p.Quiet) (rests : p.queued = [])
    (gets : Gets p.callers[n]? p.fetches.result? a) : p.Stands now n [] s ⟨a, [], s⟩ :=
  .closing none a quiet (.nothing rests) (by simp) gets

/-- Nothing is said of permits, of waiters or of other callers. -/
theorem Stands.congr (h : p.Stands now n u s o) (keys : p'.keys = p.keys)
    (fetches : p'.fetches = p.fetches) (caller : p'.callers[n]? = p.callers[n]?)
    (queued : p'.queued = p.queued) : p'.Stands now n u s o := by
  have result : p'.result? n = p.result? n := by rw [result?, result?, stage?, stage?, caller]
  cases h with
  | reading policy key origin at_ quiet rests orders some_key =>
    rw [← keys] at orders some_key ⊢
    exact .reading policy key origin (caller.trans at_) (by rw [Quiet, fetches]; exact quiet)
      (queued.trans rests) orders some_key
  | setting q w at_ quiet rests orders sound =>
    exact .setting q w (caller.trans at_) (by rw [Quiet, fetches]; exact quiet)
      (queued.trans rests) orders sound
  | deleting q storeKey at_ quiet rests orders some_key =>
    exact .deleting q storeKey (caller.trans at_) (by rw [Quiet, fetches]; exact quiet)
      (queued.trans rests) orders some_key
  | flying id f a h =>
    refine .flying id f a ⟨?_, h.alive, ?_, queued.trans h.rests, h.orders, h.some_key, h.fits,
      by rw [caller]; exact h.gets, by rw [result]; exact h.awaited⟩
    · rw [fetches]
      exact h.at_
    · rw [fetches]
      exact h.alone
  | closing w? a quiet ahead sound gets =>
    refine .closing w? a (by rw [Quiet, fetches]; exact quiet) ?_ sound ?_
    · cases ahead with
      | nothing rests => exact .nothing (queued.trans rests)
      | waits w waits => exact .waits w (queued.trans waits)
      | begun j w rests => exact .begun j w (queued.trans rests)
    · rw [caller, fetches]
      exact gets

/-- A fetch that is under way is the one that is flying. -/
theorem Stands.of_isAlive (h : p.Stands now n u s o) {id : Nat} {f : Fetch (Plan Supplier)}
    (at_ : p.fetches.fetches[id]? = some f) (alive : f.stage.isAlive = true) :
    ∃ a, p.Flying now n u s id f a ∧ o = ⟨a, f.toAsk, (f.outcome now s).2⟩ := by
  have here : p.fetches.IsAlive id f.key := ⟨f, at_, rfl, alive⟩
  cases h with
  | reading policy key origin _ quiet => exact absurd here (quiet id f.key)
  | setting q w _ quiet => exact absurd here (quiet id f.key)
  | deleting q storeKey _ quiet => exact absurd here (quiet id f.key)
  | closing w? a quiet => exact absurd here (quiet id f.key)
  | flying id' f' a h =>
    obtain rfl := h.alone id f.key here
    have same := h.at_
    rw [at_] at same
    cases same
    exact ⟨a, h, rfl⟩

/-! ## What the surroundings bring -/

/-- What the surroundings bring, and what is left of the orders and of the shelf then. -/
inductive Brings (now : Clocks) (p : Proxy Supplier) (u : List (Effect Supplier)) (s : Shelf) :
    Event Supplier → List (Effect Supplier) → Shelf → Prop
  | resume (t : Task) : Brings now p u s (.resume t) u s
  | answer (id : Nat) (f : Fetch (Plan Supplier)) (at_ : p.fetches.fetches[id]? = some f) :
      Brings now p u s (.originAnswered id (f.plan.origin.answer f.key)) u s
  | read (c : Nat) (storeKey : String) (s' : Shelf) (only : u = [.read c storeKey])
      (same : Shelf.Agree now.monotonic s' s) :
      Brings now p u s (.readAnswered c
        (((s.live? now.monotonic storeKey).map Timed.content).elim (.ok none) (·.map some))) [] s'
  | write (t : Task) (w : Write) (only : u = [.write t w.storeKey w.value w.ttl]) :
      Brings now p u s (.writeAnswered t (s.put now.monotonic w.storeKey w.value w.ttl).1) []
        (s.put now.monotonic w.storeKey w.value w.ttl).2
  | delete (c : Nat) (storeKey : String) (only : u = [.delete c storeKey]) :
      Brings now p u s (.deleteAnswered c (.ok ())) [] (s.drop storeKey)

/-- A call stands after a step where it will come to what it was to come to before. -/
def Continues (now : Clocks) (p : Proxy Supplier) (n : Nat) (u : List (Effect Supplier))
    (s : Shelf) (fx : List (Effect Supplier)) (o : Outlook) : Prop :=
  ∃ o', p.Stands now n (u ++ storeOrders fx) s o' ∧
    (o'.after (keysAsked fx)).Like now.monotonic o

/-- Most steps ask no origin, and then it is enough that the call stands where it will come to a
like outlook. -/
theorem Continues.of_asked_nil (o' : Outlook) (stands : p.Stands now n (u ++ storeOrders fx) s o')
    (unasked : keysAsked fx = []) (like : o'.Like now.monotonic o) :
    p.Continues now n u s fx o := by
  refine ⟨o', stands, ?_⟩
  rw [unasked, Outlook.after, List.append_nil]
  exact like

theorem Step.storeOrders_eq_nil (step : p.Step now.wall e fx p') (uncalled : ∀ r, e ≠ .request r)
    (unanswered : ∀ id r, e ≠ .originAnswered id r) (unresumed : ∀ t, e ≠ .resume t) :
    storeOrders fx = [] := by
  rcases step.storeOrders_cases with nothing | ⟨x, -, -, orders⟩
  · exact nothing
  · cases orders with
    | arrive r => exact absurd rfl (uncalled r)
    | store id f a => exact absurd rfl (unanswered id _)
    | write j => exact absurd rfl (unresumed _)
    | save i => exact absurd rfl (unresumed _)

/-! ## The store has been read -/

section Boards

variable {policy : Policy} {key : String} {origin : Supplier} {guarded : Bool}
  {p₁ : Proxy Supplier} {flight : Flight}

/-- Nothing being under way, whoever comes to a flight leads it. -/
theorem Boards.leads (how : p.Boards policy key origin guarded p₁ flight fx) (sane : p.Sane)
    (quiet : p.Quiet) : flight = ⟨p.fetches.fetches.length, true⟩ := by
  have free := quiet.free sane key
  cases how with
  | leadThrough | leadBack => rfl
  | joinThrough id taken | joinBack id taken =>
    rw [free] at taken
    cases taken

/-- The fetch that was started is the only one under way. -/
theorem Boards.flying {q : Proxy Supplier} {x : Clocks} {m : Nat} {t : Shelf}
    (how : p.Boards policy key origin guarded p₁ flight fx) (sane : p.Sane)
    (quiet : p.Quiet) (rests : p.queued = []) (some_key : p.keys.build key ≠ "")
    (fetches : q.fetches = p₁.fetches) (queued : q.queued = p₁.queued) {a : Outcome Answer}
    (gets : Gets q.callers[m]? (fun i => if i = p.fetches.fetches.length then
      some (t.fetched x (!guarded) policy (p.keys.build key) (origin.answer key)).1 else none) a)
    (awaited : guarded = false → ∀ r, q.result? m ≠ some r) :
    q.Stands x m [] t
      ⟨a, [key], (t.fetched x (!guarded) policy (p.keys.build key) (origin.answer key)).2⟩ := by
  have free := quiet.free sane key
  have alone : ∀ plan i k, (p.fetches.start key plan).IsAlive i k → i = p.fetches.fetches.length := by
    intro plan i k alive
    exact ((Coalescer.isAlive_start i k).1 alive).elim And.left fun old => absurd old (quiet i k)
  cases how with
  | joinThrough id taken | joinBack id taken =>
    rw [free] at taken
    cases taken
  | leadThrough =>
    refine .flying p.fetches.fetches.length
      ⟨key, ⟨origin, .writeThrough policy (p.keys.build key)⟩, .queued⟩ a
      ⟨?_, rfl, ?_, queued.trans rests, rfl, some_key, nofun, gets, fun _ => awaited rfl⟩
    · rw [fetches, Coalescer.getElem?_start, if_pos rfl]
    · rw [fetches]
      exact alone _
  | leadBack =>
    refine .flying p.fetches.fetches.length
      ⟨key, ⟨origin, .writeBack policy (p.keys.build key) p.pool.nextGuard⟩, .queued⟩ a
      ⟨?_, rfl, ?_, queued.trans rests, rfl, some_key, nofun, gets, nofun⟩
    · rw [fetches, Coalescer.getElem?_start, if_pos rfl]
    · rw [fetches]
      exact alone _

end Boards

/-- The store has answered a read with what lies on the shelf. -/
theorem Stands.read {c : Nat} {storeKey : String} {s' : Shelf}
    (h : p.Stands now n [.read c storeKey] s o) (sane : p.Sane)
    (same : Shelf.Agree now.monotonic s' s)
    (step : p.Step now.wall (.readAnswered c
      (((s.live? now.monotonic storeKey).map Timed.content).elim (.ok none) (·.map some))) fx p') :
    p'.Continues now n [] s' fx o := by
  have unasked := step.keysAsked_eq_nil (by simp)
  have unordered := step.storeOrders_eq_nil (by simp) (by simp) (by simp)
  have shown : s'.live? now.monotonic storeKey = s.live? now.monotonic storeKey :=
    same now.monotonic storeKey (Moment.le_refl _)
  cases h with
  | reading policy key origin at_ quiet rests orders some_key =>
    cases orders
    refine .of_asked_nil (Plain.gentle now policy key (p.keys.build key) origin s')
      ?_ unasked (Plain.gentle_like same policy key _ origin)
    rw [unordered, List.append_nil]
    rw [← shown] at step
    unfold Plain.gentle
    generalize (s'.live? now.monotonic (p.keys.build key)).map Timed.content = seen at step
    generalize hr : seen.elim (Outcome.ok none) (·.map some) = r at step
    have answers : ∀ a, (p.setStage n (.answered a)).Stands now n [] s' ⟨a, [], s'⟩ :=
      fun a => .of_answered quiet rests (.answered _ a (callers_setStage _ at_))
    cases step with
    | settle c x e fx st there how =>
      cases how with
      | unread policy' key' origin' r bad =>
        rcases seen with - | v | err | text
        · exact absurd hr.symm (bad none)
        · exact absurd hr.symm (bad (some v))
        · cases hr
          exact answers _
        · cases hr
          exact answers _
      | hit policy' key' origin' v live still =>
        rw [at_] at there
        cases there
        rcases seen with - | v' | err | text <;> cases hr
        simp only [live, still, Bool.false_eq_true, if_false]
        exact answers _
      | told policy' key' origin' flight r e looks => rcases looks with e | e <;> cases e
    | miss c policy' key' origin' v p₁ flight fx there missing how =>
      rw [at_] at there
      cases there
      obtain rfl := how.leads sane quiet
      have here : (p₁.setStage n (.waiting ⟨p.fetches.fetches.length, true⟩)).callers[n]? =
          some ⟨.lookup policy key origin, .waiting ⟨p.fetches.fetches.length, true⟩⟩ :=
        callers_setStage _ (by rw [how.callers]; exact at_)
      have stands := how.flying (q := p₁.setStage n _) (x := now) (t := s') sane quiet rests
        some_key rfl rfl (.waits policy key origin _ _ here (if_pos rfl))
        fun unguarded => by cases unguarded
      rcases seen with - | v' | err | text <;> cases hr
      · exact stands
      · simp only [missing v' rfl, if_true]
        exact stands
    | stale c policy' key' origin' v p₁ flight fx there live old how =>
      rw [at_] at there
      cases there
      have spawned := p₁.pool.backlog_spawn (.refresh (p.keys.build key) flight.fetch)
      rw [Work.write?, Option.toList_none, List.append_nil] at spawned
      have stands := how.flying (x := now) (m := n) (t := s') (q := { p₁ with
        pool := (p₁.pool.spawn (.refresh (p.keys.build key) flight.fetch)).1 }.setStage n
          (.answered (.ok (.found v.payload true)))) sane quiet rests some_key rfl
        (congrArg (· ++ _) spawned)
        (.answered _ _ (callers_setStage _ (by rw [← how.callers] at at_; exact at_)))
        fun unguarded => by cases unguarded
      rcases seen with - | v' | err | text <;> cases hr
      simp only [live, old, Bool.false_eq_true, if_false, if_true]
      exact stands
    | again c policy' key' origin' flight a e there looks => rcases looks with e | e <;> cases e
    | endJob j work e r pool₁ wakes there how => cases how
  | setting q w at_ quiet rests orders => cases orders
  | deleting q storeKey at_ quiet rests orders => cases orders
  | flying id f a h =>
    have orders := h.orders
    unfold Fetch.orders at orders
    split at orders <;> cases orders
  | closing w? a quiet ahead => cases ahead

/-! ## The store has been written -/

/-- Once the fetch under way is over, nothing is. -/
theorem Flying.quiet_finish {id : Nat} {f : Fetch (Plan Supplier)} {a : Outcome Answer}
    (h : p.Flying now n u s id f a) (r : Except Error Fetched) :
    Quiet { p with fetches := p.fetches.finish f.key id r } := by
  intro i key alive
  obtain ⟨before, other⟩ := (Coalescer.isAlive_finish i key).1 alive
  exact other (h.alone i key before)

/-- Whoever is promised the outcome of the fetch under way gets it when the fetch is over. -/
theorem Flying.gets_finish {id : Nat} {f : Fetch (Plan Supplier)} {a : Outcome Answer}
    (h : p.Flying now n u s id f a) {r : Except Error Fetched} (ends : (f.outcome now s).1 = r) :
    Gets p.callers[n]? (p.fetches.finish f.key id r).result? a := by
  refine h.gets.imp fun i r' known => ?_
  by_cases here : i = id
  · subst here
    rw [if_pos rfl] at known
    refine Coalescer.result?_eq_some_iff.2 ⟨{ f with stage := .ended r }, ?_, ?_⟩
    · rw [Coalescer.getElem?_finish, h.at_, Option.map_some, if_pos rfl]
    · rw [← ends, Option.some.inj known]
  · rw [if_neg here] at known
    cases known

/-- The store has made a write, and what it has answered is what the shelf gives. -/
theorem Stands.wrote {t : Task} {w : Write}
    (h : p.Stands now n [.write t w.storeKey w.value w.ttl] s o) (sane : p.Sane)
    (step : p.Step now.wall
      (.writeAnswered t (s.put now.monotonic w.storeKey w.value w.ttl).1) fx p') :
    p'.Continues now n [] (s.put now.monotonic w.storeKey w.value w.ttl).2 fx o := by
  have unasked := step.keysAsked_eq_nil (by simp)
  have unordered := step.storeOrders_eq_nil (by simp) (by simp) (by simp)
  refine .of_asked_nil o ?_ unasked (.refl _ o)
  rw [unordered, List.append_nil]
  cases h with
  | reading policy key origin at_ quiet rests orders => cases orders
  | deleting q storeKey at_ quiet rests orders => cases orders
  | setting q w' at_ quiet rests orders =>
    cases w
    cases w'
    cases orders
    cases step with
    | settle c x e fx st there how =>
      cases how with
      | written q' r =>
        exact .of_answered quiet rests (.answered _ _ (callers_setStage _ at_))
      | told policy key origin flight r e looks => rcases looks with e | e <;> cases e
    | again c policy key origin flight a e there looks => rcases looks with e | e <;> cases e
    | endJob j work e r pool₁ wakes there how => cases how
  | flying id f a h =>
    obtain ⟨key, plan, stage⟩ := f
    cases stage with
    | queued | asking | ended => cases h.orders
    | storing b =>
      cases w
      cases h.orders
      cases step with
      | settle c x e fx st there how => cases how.caller?
      | again c policy key origin flight a e there looks => rcases looks with e | e <;> cases e
      | endJob j work e r pool₁ wakes there how => cases how
      | stored id f c r there stage =>
        rw [h.at_] at there
        cases there
        cases stage
        exact .of_answered (h.quiet_finish _) h.rests (h.gets_finish rfl)
  | closing w? a quiet ahead sound gets =>
    generalize hu : [Effect.write t w.storeKey w.value w.ttl] = u at ahead
    cases ahead with
    | nothing | waits => cases hu
    | begun j w' rests =>
      cases w
      cases w'
      cases hu
      cases step with
      | settle c x e fx st there how => cases how.caller?
      | again c policy key origin flight a e there looks => rcases looks with e | e <;> cases e
      | endJob j work e r pool₁ wakes there how finished =>
        refine .of_answered quiet ?_ gets
        rw [queued, Pool.backlog_finish? sane.balanced finished]
        exact rests

/-- The store has made a deletion. -/
theorem Stands.deleted {c : Nat} {storeKey : String} (h : p.Stands now n [.delete c storeKey] s o)
    (step : p.Step now.wall (.deleteAnswered c (.ok ())) fx p') :
    p'.Continues now n [] (s.drop storeKey) fx o := by
  have unasked := step.keysAsked_eq_nil (by simp)
  have unordered := step.storeOrders_eq_nil (by simp) (by simp) (by simp)
  refine .of_asked_nil o ?_ unasked (.refl _ o)
  rw [unordered, List.append_nil]
  cases h with
  | reading policy key origin at_ quiet rests orders => cases orders
  | setting q w at_ quiet rests orders => cases orders
  | deleting q storeKey at_ quiet rests orders =>
    cases orders
    cases step with
    | settle c x e fx st there how =>
      cases how with
      | deleted q' r => exact .of_answered quiet rests (.answered _ _ (callers_setStage _ at_))
      | told policy key origin flight r e looks => rcases looks with e | e <;> cases e
    | again c policy key origin flight a e there looks => rcases looks with e | e <;> cases e
    | endJob j work e r pool₁ wakes there how => cases how
  | flying id f a h =>
    have orders := h.orders
    unfold Fetch.orders at orders
    split at orders <;> cases orders
  | closing w? a quiet ahead => cases ahead

/-! ## The origin has answered -/

/-- The fetch under way is over, and has left at most one write to the pool. -/
theorem Flying.ends {id : Nat} {f : Fetch (Plan Supplier)} {a : Outcome Answer}
    (h : p.Flying now n u s id f a) (w? : Option Write) {r : Except Error Fetched}
    {pool : Pool Work} (backlog : pool.backlog = p.pool.backlog ++ w?.toList)
    (sound : ∀ w ∈ w?, w.Sound) (outcome : f.outcome now s =
      (r, w?.elim s fun w => (s.put now.monotonic w.storeKey w.value w.ttl).2)) :
    Stands now { p with fetches := p.fetches.finish f.key id r, pool := pool } n [] s
      ⟨a, [], (f.outcome now s).2⟩ := by
  obtain ⟨no_job, no_save⟩ := List.append_eq_nil_iff.1 h.rests
  have queued : queued { p with fetches := p.fetches.finish f.key id r, pool := pool } =
      w?.toList := by
    show pool.backlog ++ p.saves.filterMap Save.write? = _
    rw [backlog, no_job, no_save, List.append_nil, List.nil_append]
  have gets := h.gets_finish (congrArg Prod.fst outcome)
  rw [outcome]
  refine .closing w? a (h.quiet_finish r) ?_ sound gets
  cases w? with
  | none => exact .nothing queued
  | some w => exact .waits w queued

/-- An origin has answered its fetch, as the supplier of the call does. -/
theorem Stands.answered {id : Nat} {f : Fetch (Plan Supplier)} (h : p.Stands now n u s o)
    (here : p.fetches.fetches[id]? = some f)
    (step : p.Step now.wall (.originAnswered id (f.plan.origin.answer f.key)) fx p') :
    p'.Continues now n u s fx o := by
  have unasked := step.keysAsked_eq_nil (by simp)
  have inFlight : f.stage = .asking → ∃ a, p.Flying now n u s id f a ∧ u = [] ∧
      o = ⟨a, [], (f.outcome now s).2⟩ ∧ f.outcome now s =
        s.fetched now f.plan.after.guard?.isNone f.plan.after.policy f.plan.after.storeKey
          (f.plan.origin.answer f.key) := by
    intro asking
    obtain ⟨a, flying, rfl⟩ := h.of_isAlive here (by rw [asking]; rfl)
    refine ⟨a, flying, ?_, ?_, ?_⟩
    · rw [flying.orders, Fetch.orders, asking]
    · rw [Fetch.toAsk, asking]
    · rw [Fetch.outcome, asking]
  generalize answers : f.plan.origin.answer f.key = r at step inFlight
  cases step with
  | settle c x e fx st there how => cases how.caller?
  | again c policy key origin flight a e there looks => rcases looks with e | e <;> cases e
  | endJob j work e r pool₁ wakes there how => cases how
  | store id f' a policy storeKey there stage plan =>
    rw [here] at there
    cases there
    obtain ⟨b, flying, rfl, rfl, outcome⟩ := inFlight stage
    have same : Fetch.outcome now s { f with stage := .storing a } = f.outcome now s := by
      rw [outcome, plan, Fetch.outcome, Shelf.fetched, plan]
      rfl
    refine ⟨⟨b, [], (f.outcome now s).2⟩, ?_, ?_⟩
    · rw [← same]
      refine .flying id { f with stage := .storing a } b
        ⟨?_, rfl, ?_, flying.rests, ?_, flying.some_key, ?_, ?_, flying.awaited⟩
      · rw [Coalescer.getElem?_setStage, here, Option.map_some, if_pos rfl]
      · intro i key alive
        exact flying.alone i key ((Coalescer.isAlive_setStage here flying.alive rfl i key).1 alive)
      · rw [Fetch.orders, plan]
        rfl
      · intro c storing
        cases storing
        exact f.plan.origin.fits f.key a answers
      · rw [same]
        exact flying.gets
    · rw [unasked]
      exact .refl _ _
  | passOn id f' a policy storeKey guard pool₁ pool₂ spawned idle there stage plan spawn back =>
    rw [here] at there
    cases there
    obtain ⟨b, flying, rfl, rfl, outcome⟩ := inFlight stage
    rw [plan] at outcome
    have nothing : storeOrders (p.poolWakes (spawned ++ idle) ++
        { p with pool := pool₂ }.fetchWakes id) = [] :=
      storeOrders_eq_nil fun x hx =>
        (List.mem_append.1 hx).elim wake_of_mem_poolWakes wake_of_mem_fetchWakes
    have given := Pool.backlog_giveBack pool₁ guard
    have taken := Pool.backlog_spawn p.pool
      (.writeBack storeKey (a.stamp now.wall) (policy.ttlFor a.payload))
    rw [back] at given
    rw [spawn] at taken
    have key := flying.some_key
    rw [plan] at key
    refine .of_asked_nil _ ?_ unasked (.refl _ _)
    rw [nothing]
    refine flying.ends (some ⟨storeKey, _, _⟩) (given.trans taken) ?_ outcome
    intro w made
    cases made
    exact ⟨key, f.plan.origin.fits f.key a answers⟩
  | failThrough id f' r err there stage bad plan =>
    rw [here] at there
    cases there
    obtain ⟨b, flying, rfl, rfl, outcome⟩ := inFlight stage
    rw [Shelf.fetched_of_caught bad] at outcome
    have nothing : storeOrders (p.fetchWakes id) = [] :=
      storeOrders_eq_nil fun x => wake_of_mem_fetchWakes
    refine .of_asked_nil _ ?_ unasked (.refl _ _)
    rw [nothing]
    exact flying.ends none (List.append_nil _).symm (by simp) outcome
  | failBack id f' r err guard pool₁ idle there stage bad plan back =>
    rw [here] at there
    cases there
    obtain ⟨b, flying, rfl, rfl, outcome⟩ := inFlight stage
    rw [Shelf.fetched_of_caught bad] at outcome
    have nothing : storeOrders (p.poolWakes idle ++ { p with pool := pool₁ }.fetchWakes id) = [] :=
      storeOrders_eq_nil fun x hx =>
        (List.mem_append.1 hx).elim wake_of_mem_poolWakes wake_of_mem_fetchWakes
    have given := Pool.backlog_giveBack p.pool guard
    rw [back] at given
    refine .of_asked_nil _ ?_ unasked (.refl _ _)
    rw [nothing]
    exact flying.ends none (given.trans (List.append_nil _).symm) (by simp) outcome

/-! ## A task takes its turn -/

/-- Nobody else is here but those who have their answers, and those who drain. -/
structure Lone (n : Nat) (p : Proxy Supplier) : Prop where
  others : ∀ (c : Nat) (x : Caller Supplier), p.callers[c]? = some x → c ≠ n →
    (∃ r, x.stage = .answered r) ∨ x.request = .drain
  saves : p.saves = []

/-- Whoever waits for something other than the pool is the one caller. -/
theorem Lone.eq (h : p.Lone n) (patient : p.Patient) {c : Nat} {x : Caller Supplier}
    (at_ : p.callers[c]? = some x) (waits : x.stage.isSettled = false)
    (elsewhere : ∀ w, x.stage ≠ .draining w) : c = n := by
  by_contra other
  rcases h.others c x at_ other with ⟨r, ended⟩ | drains
  · rw [ended] at waits
    cases waits
  · rcases patient c x at_ drains with settled | ⟨w, draining⟩
    · rw [waits] at settled
      cases settled
    · exact elsewhere w draining

/-- The caller itself neither drains nor writes for itself, and has not left. -/
theorem Stands.caller (h : p.Stands now n u s o) : ∃ x, p.callers[n]? = some x ∧
    (x.stage = .reading ∨ x.stage = .writing ∨ x.stage = .deleting ∨
      (∃ id, x.stage = .waiting ⟨id, true⟩) ∨ ∃ r, x.stage = .answered r) := by
  have gets : ∀ {known a}, Gets p.callers[n]? known a → ∃ x, p.callers[n]? = some x ∧
      ((∃ id, x.stage = .waiting ⟨id, true⟩) ∨ ∃ r, x.stage = .answered r) := by
    rintro known a (⟨policy, key, origin, id, r, at_, -⟩ | ⟨q, a, at_⟩)
    · exact ⟨_, at_, Or.inl ⟨id, rfl⟩⟩
    · exact ⟨_, at_, Or.inr ⟨_, rfl⟩⟩
  cases h with
  | reading policy key origin at_ => exact ⟨_, at_, Or.inl rfl⟩
  | setting q w at_ => exact ⟨_, at_, Or.inr (Or.inl rfl)⟩
  | deleting q storeKey at_ => exact ⟨_, at_, Or.inr (Or.inr (Or.inl rfl))⟩
  | flying id f a h => exact (gets h.gets).imp fun x hx => hx.imp_right fun h => Or.inr (Or.inr (Or.inr h))
  | closing w? a quiet ahead sound h =>
    exact (gets h).imp fun x hx => hx.imp_right fun h => Or.inr (Or.inr (Or.inr h))

/-- What a job does concerns the pool, and it may begin the write that it was given. -/
theorem Step.of_job (sane : p.Sane) {j : Nat} (step : p.Step now.wall (.resume (.job j)) fx p') :
    ∃ pool, p' = { p with pool := pool } ∧
      ((storeOrders fx = [] ∧ p.pool.backlog.Perm pool.backlog) ∨
        ∃ w : Write, fx = [.write (.job j) w.storeKey w.value w.ttl] ∧
          p.pool.backlog.Perm (w :: pool.backlog)) := by
  have noted : ∀ {work : Work} {r : Outcome Unit} {wakes : List Wake},
      storeOrders (endLog work r ++ p.poolWakes wakes) = [] := by
    intro work r wakes
    refine List.filter_eq_nil_iff.2 fun x hx => ?_
    rcases List.mem_append.1 hx with log | woken
    · obtain ⟨line, rfl⟩ := log_of_mem_endLog log
      simp [Effect.errand?]
    · obtain ⟨t, rfl⟩ := wake_of_mem_poolWakes woken
      simp [Effect.errand?, Errand.forStore]
  cases step with
  | settle c x e fx st there how => cases how.caller?
  | again c policy key origin flight a e there looks => rcases looks with e | e <;> cases e
  | queue j pool₁ resumed =>
    exact ⟨pool₁, rfl, Or.inl ⟨rfl, .of_eq (Pool.backlog_queue resumed).symm⟩⟩
  | write j pool₁ storeKey v ttl resumed at_ =>
    exact ⟨pool₁, rfl, Or.inr ⟨⟨storeKey, v, ttl⟩, rfl, Pool.backlog_resume? resumed at_⟩⟩
  | await j pool₁ storeKey f resumed at_ running =>
    exact ⟨pool₁, rfl, Or.inl ⟨rfl, Pool.backlog_resume? resumed at_⟩⟩
  | skip j pool₁ pool₂ storeKey f r wakes resumed at_ known finished =>
    refine ⟨pool₂, rfl, Or.inl ⟨noted, ?_⟩⟩
    rw [Pool.backlog_finish? (sane.balanced.resume? resumed) finished]
    exact Pool.backlog_resume? resumed at_
  | endJob j work e r pool₁ wakes there how finished =>
    exact ⟨pool₁, rfl, Or.inl ⟨noted, .of_eq (Pool.backlog_finish? sane.balanced finished).symm⟩⟩

/-- At most one write waits for a permit, and only if nothing but that is left to be done. -/
theorem Stands.queued (h : p.Stands now n u s o) : p.queued = [] ∨
    ∃ w a, p.queued = [w] ∧ u = [] ∧ p.Quiet ∧ w.Sound ∧ Gets p.callers[n]? p.fetches.result? a ∧
      o = ⟨a, [], (s.put now.monotonic w.storeKey w.value w.ttl).2⟩ := by
  cases h with
  | reading policy key origin at_ quiet rests => exact Or.inl rests
  | setting q w at_ quiet rests => exact Or.inl rests
  | deleting q storeKey at_ quiet rests => exact Or.inl rests
  | flying id f a h => exact Or.inl h.rests
  | closing w? a quiet ahead sound gets =>
    cases ahead with
    | nothing rests | begun j w rests => exact Or.inl rests
    | waits w queued => exact Or.inr ⟨w, a, queued, rfl, quiet, sound w rfl, gets, rfl⟩

/-- A job takes its turn. It either gets no further than the queue or the wait for its fetch, or it
begins the one write that is still to be made. -/
theorem Stands.job (h : p.Stands now n u s o) (sane : p.Sane) {j : Nat}
    (step : p.Step now.wall (.resume (.job j)) fx p') : p'.Continues now n u s fx o := by
  have unasked := step.keysAsked_eq_nil (by simp)
  obtain ⟨pool, rfl, ⟨unordered, same⟩ | ⟨w, rfl, begun⟩⟩ := step.of_job sane
  · refine .of_asked_nil o ?_ unasked (.refl _ o)
    rw [unordered, List.append_nil]
    refine h.congr rfl rfl rfl ?_
    have queued : p.queued.Perm (Proxy.queued { p with pool := pool }) := same.append_right _
    rcases h.queued with rests | ⟨w, -, waits, -⟩
    · rw [rests] at queued ⊢
      exact queued.nil_eq.symm
    · rw [waits] at queued ⊢
      exact queued.singleton_eq.symm
  · have queued : p.queued.Perm (w :: Proxy.queued { p with pool := pool }) := begun.append_right _
    rcases h.queued with rests | ⟨w', a, waits, rfl, quiet, sound, gets, rfl⟩
    · rw [rests] at queued
      cases queued.nil_eq
    · rw [waits] at queued
      obtain ⟨rfl, rests⟩ := List.cons.inj queued.singleton_eq
      refine .of_asked_nil _ (.closing (some w') a quiet (.begun j w' rests.symm) ?_ gets) unasked
        (.refl _ _)
      intro w made
      cases made
      exact sound

/-- A fetch asks its origin. -/
theorem Stands.asks (h : p.Stands now n u s o) {id : Nat}
    (step : p.Step now.wall (.resume (.fetch id)) fx p') : p'.Continues now n u s fx o := by
  cases step with
  | settle c x e fx st there how => cases how.caller?
  | again c policy key origin flight a e there looks => rcases looks with e | e <;> cases e
  | endJob j work e r pool₁ wakes there how => cases how
  | ask id f at_ stage =>
    obtain ⟨a, flying, rfl⟩ := h.of_isAlive at_ (by rw [stage]; rfl)
    have same : Fetch.outcome now s { f with stage := .asking } = f.outcome now s := by
      rw [Fetch.outcome, Fetch.outcome, stage]
    refine ⟨⟨a, [], (f.outcome now s).2⟩, ?_, ?_⟩
    · rw [← same]
      refine .flying id { f with stage := .asking } a
        ⟨?_, rfl, ?_, flying.rests, ?_, flying.some_key, nofun, ?_, flying.awaited⟩
      · rw [Coalescer.getElem?_setStage, at_, Option.map_some, if_pos rfl]
      · intro i key alive
        exact flying.alone i key ((Coalescer.isAlive_setStage at_ flying.alive rfl i key).1 alive)
      · rw [flying.orders, Fetch.orders, stage]
        rfl
      · rw [same]
        exact flying.gets
    · rw [Fetch.toAsk, stage]
      exact .refl _ _

/-- The caller is told what its fetch has come to. -/
theorem Stands.deliver (h : p.Stands now n u s o) {policy : Policy} {key : String}
    {origin : Supplier} {flight : Flight} {r : Except Error Fetched}
    (at_ : p.callers[n]? = some ⟨.lookup policy key origin, .waiting flight⟩)
    (known : p.fetches.result? flight.fetch = some r) :
    (p.setStage n (.answered ((Outcome.ofExcept r).map fun a => .found a.payload false))).Stands
      now n u s o := by
  cases h with
  | reading policy' key' origin' there | setting q w there | deleting q storeKey there =>
    rw [at_] at there
    cases there
  | flying id f a h =>
    cases h.gets with
    | answered q a there =>
      rw [at_] at there
      cases there
    | waits policy' key' origin' id' r' there ends =>
      rw [at_] at there
      cases there
      -- Nobody knows the outcome of a fetch that is under way.
      split at ends
      case isTrue same =>
        subst same
        obtain ⟨g, here, ended⟩ := Coalescer.result?_eq_some_iff.1 known
        rw [h.at_] at here
        cases here
        have alive := h.alive
        rw [ended] at alive
        cases alive
      case isFalse => cases ends
  | closing w? a quiet ahead sound gets =>
    cases gets with
    | answered q a there =>
      rw [at_] at there
      cases there
    | waits policy' key' origin' id r' there ends =>
      rw [at_] at there
      cases there
      obtain rfl : r = r' := Option.some.inj (known.symm.trans ends)
      refine .closing w? _ quiet ?_ sound (.answered _ _ (callers_setStage _ at_))
      cases ahead with
      | nothing rests => exact .nothing rests
      | waits w queued => exact .waits w queued
      | begun j w rests => exact .begun j w rests

/-- A caller has nothing to do at its turn but to take its answer, or to look again whether
anything is pending. -/
theorem Stands.told (h : p.Stands now n u s o) (patient : p.Patient) (lone : p.Lone n) {c : Nat}
    (step : p.Step now.wall (.resume (.caller c)) fx p') : p'.Continues now n u s fx o := by
  have unasked := step.keysAsked_eq_nil (by simp)
  obtain ⟨x, here, stands⟩ := h.caller
  cases step with
  | settle d y e fx st at_ how =>
    cases how with
    | told policy key origin flight r e looks known plain =>
      obtain rfl := lone.eq patient at_ rfl (by simp)
      refine .of_asked_nil o ?_ unasked (.refl _ o)
      rw [show storeOrders ([] : List (Effect Supplier)) = [] from rfl, List.append_nil]
      exact h.deliver at_ known
    | saved q save payload s' result there known =>
      rw [lone.saves] at there
      cases there
  | again d policy key origin flight a e at_ looks known forced joined =>
    obtain rfl := lone.eq patient at_ rfl (by simp)
    rw [at_] at here
    cases here
    rcases stands with e | e | e | ⟨id, e⟩ | ⟨r, e⟩ <;> cases e
    cases joined
  | drained c q w at_ woken idle =>
    have other : c ≠ n := by
      rintro rfl
      rw [at_] at here
      cases here
      rcases stands with e | e | e | ⟨id, e⟩ | ⟨r, e⟩ <;> cases e
    refine .of_asked_nil o ?_ unasked (.refl _ o)
    rw [show storeOrders ([] : List (Effect Supplier)) = [] from rfl, List.append_nil]
    refine h.congr rfl rfl ?_ rfl
    rw [getElem?_setStage]
    show (p.callers[n]?).map _ = _
    rw [here, Option.map_some, if_neg other]
  | parks c q w there woken busy =>
    refine .of_asked_nil o ?_ unasked (.refl _ o)
    rw [show storeOrders ([] : List (Effect Supplier)) = [] from rfl, List.append_nil]
    exact h.congr rfl rfl rfl rfl
  | endJob j work e r pool₁ wakes there how => cases how

/-! ## A step -/

/-- No step but a request brings anybody else. -/
theorem Lone.step (h : p.Lone n) (stands : p.Stands now n u s o) (patient : p.Patient)
    (step : p.Step now.wall e fx p') (uncalled : ∀ r, e ≠ .request r) : p'.Lone n where
  others c x at_ other := by
    rcases step.caller_cases at_ with same | ⟨-, came, -⟩ | ⟨y, before, same, waits⟩
    · exact h.others c x same other
    · exact absurd came (uncalled _)
    · rcases h.others c y before other with ⟨r, ended⟩ | drains
      · rw [ended] at waits
        cases waits
      · exact Or.inr (same ▸ drains)
  saves := by
    by_contra some_save
    rcases step.saves some_save with before | ⟨c, policy, key, origin, flight, at_, -, joined⟩
    · exact before h.saves
    · obtain rfl := h.eq patient at_ rfl (by simp)
      obtain ⟨x, here, waits⟩ := stands.caller
      rw [at_] at here
      cases here
      rcases waits with e | e | e | ⟨id, e⟩ | ⟨r, e⟩ <;> cases e
      cases joined

/-- **Whatever the surroundings bring, the call comes to what it was to come to.** -/
theorem Stands.step {u' : List (Effect Supplier)} {s' : Shelf} (h : p.Stands now n u s o)
    (sane : p.Sane) (patient : p.Patient) (lone : p.Lone n)
    (brings : p.Brings now u s e u' s') (step : p.Step now.wall e fx p') :
    p'.Continues now n u' s' fx o := by
  cases brings with
  | resume t =>
    cases t with
    | caller c => exact h.told patient lone step
    | fetch id => exact h.asks step
    | job j => exact h.job sane step
    | save i =>
      cases step with
      | settle c x e fx st there how => cases how.caller?
      | again c policy key origin flight a e there looks => rcases looks with e | e <;> cases e
      | endJob j work e r pool₁ wakes there how => cases how
      | save i x at_ stage =>
        rw [lone.saves] at at_
        cases at_
  | answer id f at_ => exact h.answered at_ step
  | read c storeKey s' only same =>
    subst only
    exact h.read sane same step
  | write t w only =>
    subst only
    exact h.wrote sane step
  | delete c storeKey only =>
    subst only
    exact h.deleted step

end Proxy

end ReadThrough
