import ReadThrough.Proofs.Pool.Wakes
import ReadThrough.Proofs.Proxy.Step

/-!
# What is true of a proxy at all times

The parts of a proxy point at one another by number: a waiting caller at its fetch, a caller
that writes for itself at its save, a drain at its waiter, a refresh at its fetch, and a fetch
at the guard that the pool keeps for it. `Sane` says that nothing points into the void, that a
waiter is waited for by one caller, and that the guards the pool has out are those of the
fetches under way, one each. The table of fetches and the books of the pool are sound besides.

Only a few kinds of change occur in a step, and `Sane` is shown to be kept by each of them in
turn; a step is one or two of these.
-/

set_option autoImplicit false

namespace ReadThrough

/-- The guard that a fetch keeps out while it is under way. -/
def Fetch.guard? {ω : Type} (f : Fetch (Plan ω)) : Option Nat :=
  if f.stage.isAlive then f.plan.after.guard? else none

namespace Proxy

variable {ω : Type} {now : Moment} {p p' : Proxy ω}

/-- What a caller points at is there. -/
def Seated (p : Proxy ω) (x : Caller ω) : Prop :=
  match x.stage with
  | .reading => ∃ policy key origin, x.request = .lookup policy key origin
  | .waiting flight => ∃ policy key origin f, x.request = .lookup policy key origin ∧
      p.fetches.fetches[flight.fetch]? = some f ∧ f.key = key
  | .saving s _ => s < p.saves.length
  | .draining w => p.pool.Awaits w
  | _ => True

/-- The parts of a proxy fit together. -/
structure Sane (p : Proxy ω) : Prop where
  sound : p.fetches.Sound
  balanced : p.pool.Balanced
  seated : ∀ (c : Nat) (x : Caller ω), p.callers[c]? = some x → p.Seated x
  /-- A waiter belongs to one caller. -/
  apart : ∀ (c d : Nat) (x y : Caller ω) (w : Nat), p.callers[c]? = some x →
    p.callers[d]? = some y → x.stage = .draining w → y.stage = .draining w → c = d
  refreshes : ∀ (j : Nat) (x : Job Work) (storeKey : String) (f : Nat), p.pool.jobs[j]? = some x →
    x.work = .refresh storeKey f → f < p.fetches.fetches.length
  /-- The guards that are out are those of the fetches under way. -/
  guards : p.pool.guards.Perm (p.fetches.fetches.filterMap Fetch.guard?)
  /-- A fetch whose answer is written before it ends has no guard. -/
  storing : ∀ (id : Nat) (f : Fetch (Plan ω)) (a : Fetched), p.fetches.fetches[id]? = some f →
    f.stage = .storing a → f.plan.after.guard? = none

/-! ## Callers come and move on -/

theorem getElem?_setStage (p : Proxy ω) (c d : Nat) (s : Caller.Stage) :
    (p.setStage c s).callers[d]? =
      (p.callers[d]?).map fun x => if c = d then { x with stage := s } else x := by
  simp only [setStage, List.getElem?_modify]
  by_cases h : c = d <;> simp [h]

/-- A caller is afterwards the one that moved on, or is where it was. -/
theorem getElem?_setStage_cases {c d : Nat} {s : Caller.Stage} {x : Caller ω}
    (h : (p.setStage c s).callers[d]? = some x) :
    (c = d ∧ ∃ y, p.callers[c]? = some y ∧ x = { y with stage := s }) ∨
      (c ≠ d ∧ p.callers[d]? = some x) :=
  getElem?_modify_cases h

theorem getElem?_addCaller (p : Proxy ω) (r : Request ω) (s : Caller.Stage) (d : Nat) :
    (p.addCaller r s).callers[d]? =
      if d = p.callers.length then some ⟨r, s⟩ else p.callers[d]? :=
  getElem?_append_singleton ..

/-- A caller keeps its seat while fetches keep their keys, saves stay and its waiter is not given
up. -/
theorem Seated.mono {x : Caller ω} (h : p.Seated x)
    (fetches : ∀ (i : Nat) (f : Fetch (Plan ω)), p.fetches.fetches[i]? = some f →
      ∃ f', p'.fetches.fetches[i]? = some f' ∧ f'.key = f.key)
    (saves : p.saves.length ≤ p'.saves.length)
    (waiters : ∀ w, x.stage = .draining w → p.pool.Awaits w → p'.pool.Awaits w) :
    p'.Seated x := by
  obtain ⟨q, s⟩ := x
  cases s with
  | reading => exact h
  | waiting flight =>
    obtain ⟨policy, key, origin, f, hq, hf, hk⟩ := h
    obtain ⟨f', hf', hk'⟩ := fetches _ f hf
    exact ⟨policy, key, origin, f', hq, hf', hk'.trans hk⟩
  | saving s payload => exact Nat.lt_of_lt_of_le h saves
  | draining w => exact waiters w rfl h
  | writing | deleting | answered | gone => trivial

/-- A caller comes to stand elsewhere, but not at a waiter; where a drain begins, the caller is new.
-/
theorem Sane.setStage (h : p.Sane) {c : Nat} {x : Caller ω} {s : Caller.Stage}
    (at_ : p.callers[c]? = some x) (seat : p.Seated ⟨x.request, s⟩)
    (elsewhere : ∀ w, s ≠ .draining w) : (p.setStage c s).Sane where
  sound := h.sound
  balanced := h.balanced
  seated d y hy := by
    rcases getElem?_setStage_cases hy with ⟨rfl, z, hz, rfl⟩ | ⟨-, same⟩
    · rw [at_] at hz
      cases hz
      exact seat
    · exact h.seated d y same
  apart d e y z w hy hz hyw hzw := by
    have old : ∀ (d : Nat) (y : Caller ω), (p.setStage c s).callers[d]? = some y →
        y.stage = .draining w → p.callers[d]? = some y := by
      intro d y hy hyw
      rcases getElem?_setStage_cases hy with ⟨-, z, -, rfl⟩ | ⟨-, same⟩
      · exact absurd hyw (elsewhere w)
      · exact same
    exact h.apart d e y z w (old d y hy hyw) (old e z hz hzw) hyw hzw
  refreshes := h.refreshes
  guards := h.guards
  storing := h.storing

/-- A caller comes. If it is to drain, nobody else waits by the same waiter. -/
theorem Sane.addCaller (h : p.Sane) {r : Request ω} {s : Caller.Stage} (seat : p.Seated ⟨r, s⟩)
    (alone : ∀ (w d : Nat) (y : Caller ω), s = .draining w → p.callers[d]? = some y →
      y.stage ≠ .draining w) : (p.addCaller r s).Sane where
  sound := h.sound
  balanced := h.balanced
  seated d y hy := by
    rw [getElem?_addCaller] at hy
    split at hy
    case isTrue =>
      cases hy
      exact seat
    case isFalse => exact h.seated d y hy
  apart d e y z w hy hz hyw hzw := by
    rw [getElem?_addCaller] at hy hz
    split at hy <;> split at hz
    case isTrue.isTrue hd he => rw [hd, he]
    case isTrue.isFalse =>
      cases hy
      exact absurd hzw (alone w e z hyw hz)
    case isFalse.isTrue =>
      cases hz
      exact absurd hyw (alone w d y hzw hy)
    case isFalse.isFalse => exact h.apart d e y z w hy hz hyw hzw
  refreshes := h.refreshes
  guards := h.guards
  storing := h.storing

/-! ## The pool works -/

/-- The pool may do anything that leaves guards, the work of jobs and those who wait as they are. -/
theorem Sane.withPool (h : p.Sane) {pool : Pool Work} (balanced : pool.Balanced)
    (guards : pool.guards = p.pool.guards)
    (works : ∀ (j : Nat) (x : Job Work), pool.jobs[j]? = some x →
      ∃ y, p.pool.jobs[j]? = some y ∧ y.work = x.work)
    (awaits : ∀ (c w : Nat) (x : Caller ω), p.callers[c]? = some x → x.stage = .draining w →
      p.pool.Awaits w → pool.Awaits w) : Sane { p with pool := pool } where
  sound := h.sound
  balanced := balanced
  seated c x hx := (h.seated c x hx).mono (fun i f hf => ⟨f, hf, rfl⟩) (Nat.le_refl _)
    fun w hw hold => awaits c w x hx hw hold
  apart := h.apart
  refreshes j x storeKey f hx hwork := by
    obtain ⟨y, hy, same⟩ := works j x hx
    exact h.refreshes j y storeKey f hy (same.trans hwork)
  guards := by
    show pool.guards.Perm _
    rw [guards]
    exact h.guards
  storing := h.storing

theorem Sane.keeps (h : p.Sane) {pool : Pool Work} (balanced : pool.Balanced)
    (guards : pool.guards = p.pool.guards) (keeps : p.pool.Keeps pool) :
    Sane { p with pool := pool } :=
  h.withPool balanced guards keeps.works fun _ w _ _ _ hw => keeps.awaits w hw

/-- A job is added; a refresh is added for a fetch that is there. -/
theorem Sane.spawn (h : p.Sane) {work : Work}
    (refresh : ∀ storeKey f, work = .refresh storeKey f → f < p.fetches.fetches.length) :
    Sane { p with pool := (p.pool.spawn work).1 } where
  sound := h.sound
  balanced := h.balanced.spawn work
  seated c x hx := (h.seated c x hx).mono (fun i f hf => ⟨f, hf, rfl⟩) (Nat.le_refl _)
    fun _ _ hw => hw
  apart := h.apart
  refreshes j x storeKey f hx hwork := by
    change (p.pool.spawn work).1.jobs[j]? = some x at hx
    rw [Pool.getElem?_spawn] at hx
    split at hx
    case isTrue =>
      cases hx
      exact refresh storeKey f hwork
    case isFalse => exact h.refreshes j x storeKey f hx hwork
  guards := h.guards
  storing := h.storing

/-- A caller stops draining, and its waiter is not waited by any more. Both have to change at once:
while the caller still points at the waiter, the waiter has to be one that is awaited. That no other
caller points at it is what `apart` is for. -/
theorem Sane.leaveWaiter (h : p.Sane) {c w : Nat} {x : Caller ω} {s : Caller.Stage} {v : Waiter}
    (at_ : p.callers[c]? = some x) (waits : x.stage = .draining w)
    (seat : p.Seated ⟨x.request, s⟩) (elsewhere : ∀ w, s ≠ .draining w)
    (quiet : p.pool.pending = 0 → v ≠ .parked) :
    Sane ({ p with pool := { p.pool with waiters := p.pool.waiters.set w v } }.setStage c s) := by
  refine (h.setStage at_ seat elsewhere).withPool (h.balanced.setWaiter w v quiet) rfl
    (fun j x hx => ⟨x, hx, rfl⟩) ?_
  intro d u y hy hu hold
  rcases getElem?_setStage_cases hy with ⟨-, z, -, rfl⟩ | ⟨other, same⟩
  · exact absurd hu (elsewhere u)
  · refine Pool.Awaits.set hold fun e => other ?_
    subst e
    exact h.apart c d x y w at_ same waits hu

theorem Sane.resume? (h : p.Sane) {j : Nat} {starts : Bool} {pool : Pool Work}
    (resumed : p.pool.resume? j = some (starts, pool)) : Sane { p with pool := pool } :=
  h.keeps (h.balanced.resume? resumed) (Pool.resume?_cases resumed).2.2.1 (.resume? resumed)

theorem Sane.finish? (h : p.Sane) {j : Nat} {wakes : List Wake} {pool : Pool Work}
    (finished : p.pool.finish? j = some (pool, wakes)) : Sane { p with pool := pool } :=
  h.keeps (h.balanced.finish? finished) (Pool.guards_finish? finished) (.finish? finished)

/-! ## Fetches start, go on and end -/

/-- A fetch is started, and the pool has a guard for it if it needs one. -/
theorem Sane.start (h : p.Sane) {key : String} {plan : Plan ω} {pool : Pool Work}
    (free : p.fetches.inFlight.get? key = none) (balanced : pool.Balanced)
    (guards : pool.guards = plan.after.guard?.toList ++ p.pool.guards)
    (keeps : p.pool.Keeps pool) :
    Sane { p with fetches := p.fetches.start key plan, pool := pool } where
  sound := h.sound.move (.start key plan free)
  balanced := balanced
  seated c x hx := by
    refine (h.seated c x hx).mono ?_ (Nat.le_refl _) fun w _ hw => keeps.awaits w hw
    intro i f hf
    obtain ⟨f', hf', hk, -⟩ := (Coalescer.Move.start key plan free).keeps hf
    exact ⟨f', hf', hk⟩
  apart := h.apart
  refreshes j x storeKey f hx hwork := by
    obtain ⟨y, hy, same⟩ := keeps.works j x hx
    have := h.refreshes j y storeKey f hy (same.trans hwork)
    have := (Coalescer.Move.start key plan free).length_le
    show f < (p.fetches.start key plan).fetches.length
    omega
  guards := by
    show pool.guards.Perm (List.filterMap Fetch.guard?
      (p.fetches.fetches ++ [⟨key, plan, .queued⟩]))
    have new : ([⟨key, plan, .queued⟩] : List (Fetch (Plan ω))).filterMap Fetch.guard? =
        plan.after.guard?.toList := by
      cases e : plan.after.guard? <;> simp [Fetch.guard?, Fetch.Stage.isAlive, e]
    rw [List.filterMap_append, new, guards]
    exact (h.guards.append_left _).trans List.perm_append_comm
  storing id f a hf hs := by
    change (p.fetches.start key plan).fetches[id]? = some f at hf
    rw [Coalescer.getElem?_start] at hf
    split at hf
    case isTrue =>
      cases hf
      cases hs
    case isFalse => exact h.storing id f a hf hs

/-- A fetch goes on. It stays under way, so it keeps its guard; and it comes to store its value only
if it has none. -/
theorem Sane.advance (h : p.Sane) {id : Nat} {f : Fetch (Plan ω)} {s : Fetch.Stage}
    (at_ : p.fetches.fetches[id]? = some f) (alive : f.stage.isAlive = true)
    (alive' : s.isAlive = true) (stores : ∀ a, s = .storing a → f.plan.after.guard? = none) :
    Sane { p with fetches := p.fetches.setStage id s } where
  sound := h.sound.move (.advance id f s at_ alive alive')
  balanced := h.balanced
  seated c x hx := by
    refine (h.seated c x hx).mono ?_ (Nat.le_refl _) fun _ _ hw => hw
    intro i g hg
    obtain ⟨g', hg', hk, -⟩ := (Coalescer.Move.advance id f s at_ alive alive').keeps hg
    exact ⟨g', hg', hk⟩
  apart := h.apart
  refreshes j x storeKey i hx hwork := by
    show i < (p.fetches.setStage id s).fetches.length
    rw [Coalescer.setStage_fetches_length]
    exact h.refreshes j x storeKey i hx hwork
  guards := by
    obtain ⟨l₁, l₂, split, modified⟩ := exists_split_modify at_ fun f => { f with stage := s }
    have same : Fetch.guard? { f with stage := s } = f.guard? := by
      simp [Fetch.guard?, alive, alive']
    show p.pool.guards.Perm ((p.fetches.fetches.modify id _).filterMap Fetch.guard?)
    rw [modified, List.filterMap_append, List.filterMap_cons, same, ← List.filterMap_cons,
      ← List.filterMap_append, ← split]
    exact h.guards
  storing i g a hg hs := by
    rcases Coalescer.getElem?_setStage_cases hg with ⟨rfl, g, there, rfl⟩ | ⟨-, same⟩
    · rw [at_] at there
      cases there
      exact stores a hs
    · exact h.storing i g a same hs

/-- A fetch ends, and the pool takes its guard back if it had one. -/
theorem Sane.finish (h : p.Sane) {id : Nat} {f : Fetch (Plan ω)} {r : Except Error Fetched}
    {pool : Pool Work} (at_ : p.fetches.fetches[id]? = some f) (alive : f.stage.isAlive = true)
    (balanced : pool.Balanced)
    (guards : pool.guards = f.plan.after.guard?.elim p.pool.guards p.pool.guards.erase)
    (keeps : p.pool.Keeps pool) :
    Sane { p with fetches := p.fetches.finish f.key id r, pool := pool } where
  sound := h.sound.move (.finish id f r at_ alive)
  balanced := balanced
  seated c x hx := by
    refine (h.seated c x hx).mono ?_ (Nat.le_refl _) fun w _ hw => keeps.awaits w hw
    intro i g hg
    obtain ⟨g', hg', hk, -⟩ := (Coalescer.Move.finish id f r at_ alive).keeps hg
    exact ⟨g', hg', hk⟩
  apart := h.apart
  refreshes j x storeKey i hx hwork := by
    obtain ⟨y, hy, same⟩ := keeps.works j x hx
    have := h.refreshes j y storeKey i hy (same.trans hwork)
    have := (Coalescer.Move.finish id f r at_ alive).length_le
    show i < (p.fetches.finish f.key id r).fetches.length
    omega
  guards := by
    obtain ⟨l₁, l₂, split, modified⟩ :=
      exists_split_modify at_ fun f => { f with stage := .ended r }
    have known : Fetch.guard? { f with stage := .ended r } = none := rfl
    have before : f.guard? = f.plan.after.guard? := by simp [Fetch.guard?, alive]
    have books := h.guards
    rw [split, List.filterMap_append, List.filterMap_cons, before] at books
    show pool.guards.Perm ((p.fetches.finish f.key id r).fetches.filterMap Fetch.guard?)
    rw [show (p.fetches.finish f.key id r).fetches = p.fetches.fetches.modify id
      (fun f => { f with stage := .ended r }) by
        rw [Coalescer.finish, Coalescer.setStage, Coalescer.release_fetches], modified, guards,
      List.filterMap_append, List.filterMap_cons, known]
    cases e : f.plan.after.guard? with
    | none =>
      rw [e] at books
      exact books
    | some guard =>
      rw [e] at books
      -- The one guard that is missing on the right is the one that goes back on the left.
      have first := books.trans List.perm_middle
      have erased := first.erase guard
      rw [List.erase_cons_head] at erased
      exact erased
  storing i g a hg hs := by
    rcases Coalescer.getElem?_finish_cases hg with ⟨-, g, -, rfl⟩ | ⟨-, same⟩
    · cases hs
    · exact h.storing i g a same hs

/-! ## Saves -/

/-- Saves are added or go on, and none is taken away. -/
theorem Sane.withSaves (h : p.Sane) {saves : List Save}
    (length : p.saves.length ≤ saves.length) : Sane { p with saves := saves } where
  sound := h.sound
  balanced := h.balanced
  seated c x hx := (h.seated c x hx).mono (fun _ f hf => ⟨f, hf, rfl⟩) length fun _ _ hw => hw
  apart := h.apart
  refreshes := h.refreshes
  guards := h.guards
  storing := h.storing

/-! ## A step is one or two of these -/

section Boards

variable {policy : Policy} {key : String} {origin : ω} {guarded : Bool} {p₁ : Proxy ω}
  {flight : Flight} {fx : List (Effect ω)}

/-- Whoever boards a flight takes a guard first if one may be needed. The fetch keeps it if it is
new; otherwise it goes back, and the guards are as they were. -/
theorem Boards.sane (b : p.Boards policy key origin guarded p₁ flight fx) (h : p.Sane) :
    p₁.Sane := by
  cases b with
  | leadThrough free => exact h.start free h.balanced rfl (.refl _)
  | leadBack free => exact h.start free h.balanced.track rfl (.of_eq rfl rfl rfl)
  | joinThrough id taken => exact h
  | joinBack id taken =>
    have tracked : p.pool.Keeps p.pool.track.1 := .of_eq rfl rfl rfl
    refine h.keeps (h.balanced.track.giveBack _) ?_ (tracked.trans (.giveBack _ _))
    rw [Pool.giveBack_guards]
    show (p.pool.nextGuard :: p.pool.guards).erase p.pool.nextGuard = p.pool.guards
    rw [List.erase_cons_head]

/-- The flight that is boarded is one for the key. -/
theorem Boards.fetch_of_key (b : p.Boards policy key origin guarded p₁ flight fx)
    (h : p.fetches.Sound) :
    ∃ f, p₁.fetches.fetches[flight.fetch]? = some f ∧ f.key = key := by
  cases b with
  | leadThrough free | leadBack free =>
    exact ⟨_, (Coalescer.getElem?_start ..).trans (if_pos rfl), rfl⟩
  | joinThrough id taken | joinBack id taken =>
    obtain ⟨f, hf, hk, -⟩ := (h key id).1 taken
    exact ⟨f, hf, hk⟩

theorem Boards.callers (b : p.Boards policy key origin guarded p₁ flight fx) :
    p₁.callers = p.callers := by
  cases b <;> rfl

theorem Boards.saves (b : p.Boards policy key origin guarded p₁ flight fx) :
    p₁.saves = p.saves := by
  cases b <;> rfl

end Boards

/-- Every step keeps a proxy sane. -/
theorem Sane.step {e : Event ω} {fx : List (Effect ω)} (h : p.Sane)
    (step : p.Step now e fx p') : p'.Sane := by
  cases step with
  | arrive r fx s how =>
    cases how with
    | vacuous | set | remove => exact h.addCaller trivial (by simp)
    | read policy key origin => exact h.addCaller ⟨policy, key, origin, rfl⟩ (by simp)
  | force policy key origin p₁ flight fx some_key forced how =>
    obtain ⟨f, hf, hk⟩ := how.fetch_of_key h.sound
    exact (how.sane h).addCaller ⟨policy, key, origin, f, rfl, hf, hk⟩ (by simp)
  | drain =>
    have waits : Sane { p with pool := p.pool.wait.1 } := h.keeps h.balanced.wait rfl (.wait _)
    by_cases idle : p.pool.pending = 0
    · rw [if_pos idle]
      exact waits.addCaller trivial (by simp)
    · rw [if_neg idle]
      refine waits.addCaller (Or.inl ?_) ?_
      · show (p.pool.waiters ++ [if p.pool.pending = 0 then .returned else .parked])[
          p.pool.waiters.length]? = some .parked
        simp [idle]
      · intro w d y hw hy hyw
        -- The waiters of those who drain already have smaller numbers.
        cases hw
        have seat := h.seated d y hy
        rw [Seated, hyw] at seat
        exact Nat.lt_irrefl _ (Pool.Awaits.lt seat)
  | settle c x e fx s at_ how =>
    cases how with
    | unread | hit | told | gaveUp | crashed | saved | written | deleted | left =>
      exact h.setStage at_ trivial (by simp)
  | miss c policy key origin o p₁ flight fx at_ missing how =>
    obtain ⟨f, hf, hk⟩ := how.fetch_of_key h.sound
    rw [← how.callers] at at_
    exact (how.sane h).setStage at_ ⟨policy, key, origin, f, rfl, hf, hk⟩ (by simp)
  | stale c policy key origin v p₁ flight fx at_ live old how =>
    obtain ⟨f, hf, -⟩ := how.fetch_of_key h.sound
    rw [← how.callers] at at_
    refine ((how.sane h).spawn ?_).setStage at_ trivial (by simp)
    intro storeKey i e
    cases e
    exact (List.getElem?_eq_some_iff.1 hf).1
  | again c policy key origin flight a e at_ looks known forced joined =>
    refine (h.withSaves (by simp)).setStage at_ ?_ (by simp)
    show p.saves.length < (p.saves ++ [_]).length
    simp
  | drained c q w at_ woken idle =>
    exact h.leaveWaiter at_ rfl trivial (by simp) (fun _ => by simp)
  | parks c q w at_ woken busy =>
    have there := (List.getElem?_eq_some_iff.1 woken).1
    refine h.withPool (h.balanced.setWaiter w .parked fun zero => absurd zero busy) rfl
      (fun j x hx => ⟨x, hx, rfl⟩) ?_
    intro d v x hx hv hw
    by_cases e : w = v
    · subst e
      exact Or.inl (by simp [there])
    · exact hw.set e
  | leaveDrain c q w at_ => exact h.leaveWaiter at_ rfl trivial (by simp) (fun _ => by simp)
  | ask id f at_ stage => exact h.advance at_ (by rw [stage]; rfl) rfl (by simp)
  | store id f a policy storeKey at_ stage plan =>
    exact h.advance at_ (by rw [stage]; rfl) rfl fun _ _ => by rw [plan]; rfl
  | passOn id f a policy storeKey guard pool₁ pool₂ spawned idle at_ stage plan spawn back =>
    obtain rfl : (p.pool.spawn (.writeBack storeKey (a.stamp now) (policy.ttlFor a.payload))).1 =
      pool₁ := by rw [spawn]
    obtain rfl : (Pool.giveBack _ guard).1 = pool₂ := by rw [back]
    have spawned : Sane { p with
        pool := (p.pool.spawn (.writeBack storeKey (a.stamp now) (policy.ttlFor a.payload))).1 } :=
      h.spawn (by simp)
    refine spawned.finish at_ (by rw [stage]; rfl) (spawned.balanced.giveBack guard) ?_
      (.giveBack _ _)
    rw [plan, Pool.giveBack_guards]
    rfl
  | failThrough id f r err at_ stage bad plan =>
    exact h.finish at_ (by rw [stage]; rfl) h.balanced (by rw [plan]; rfl) (.refl _)
  | failBack id f r err guard pool₁ idle at_ stage bad plan back =>
    obtain rfl : (p.pool.giveBack guard).1 = pool₁ := by rw [back]
    refine h.finish at_ (by rw [stage]; rfl) (h.balanced.giveBack guard) ?_ (.giveBack _ _)
    rw [plan, Pool.giveBack_guards]
    rfl
  | stored id f a r at_ stage =>
    exact h.finish at_ (by rw [stage]; rfl) h.balanced (by rw [h.storing id f a at_ stage]; rfl)
      (.refl _)
  | queue j pool₁ resumed | write j pool₁ storeKey v ttl resumed | await j pool₁ _ _ resumed =>
    exact h.resume? resumed
  | skip j pool₁ pool₂ storeKey f r wakes resumed at_ known finished =>
    exact (h.resume? resumed).finish? finished
  | endJob j work e r pool₁ wakes at_ how finished => exact h.finish? finished
  | save s x at_ stage => exact h.withSaves (by simp)
  | saved s x r at_ stage => exact h.withSaves (by simp)

end Proxy

end ReadThrough
