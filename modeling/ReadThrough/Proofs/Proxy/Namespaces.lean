import Mathlib.Logic.Function.Basic
import ReadThrough.Proofs.Proxy.Desk
import ReadThrough.Proofs.Proxy.Writes
import ReadThrough.Proofs.Store.Shelf
import ReadThrough.Proofs.Text.Cuts

/-!
# Proxies that share a store

Proxies with namespaces may share one store. Two things are to be told apart: whether their store
keys can meet, and what follows for what they do to one another.

Store keys of different namespaces meet exactly if one namespace goes on, after a colon, where
the other stops (`Overlaps`): a colon in a namespace is not told from the one that ends it. So
"a" and "a:b" can meet, and then the one proxy reads what the other has written
(`overlapping_proxies_meet`).

Where no two namespaces overlap, each proxy might as well have the store to itself: in every run
of all of them together it stands as in the run of its own moves alone, and so does the part of
the store that is under its keys (`namespaces_isolated`).
-/

set_option autoImplicit false

namespace ReadThrough

/-! ## When store keys meet -/

namespace KeyScheme

/-- One of the two goes on, after a colon, where the other stops. -/
def Overlaps (space other : String) : Prop :=
  (∃ rest, other = space ++ ":" ++ rest) ∨ ∃ rest, space = other ++ ":" ++ rest

theorem toList_colon (a b : String) : (a ++ ":" ++ b).toList = a.toList ++ ':' :: b.toList := by
  rw [String.toList_append, String.toList_append, List.append_assoc]
  rfl

/-- A colon cuts a store key into namespace and key in one way, but for colons in a namespace. -/
theorem build_eq_build_iff {space other key key' : String} :
    build ⟨some space⟩ key = build ⟨some other⟩ key' ↔ (space = other ∧ key = key') ∨
      (∃ m, other = space ++ ":" ++ m ∧ key = m ++ ":" ++ key') ∨
      ∃ m, space = other ++ ":" ++ m ∧ key' = m ++ ":" ++ key := by
  have lift : ∀ {a b c d : String}, (∃ m : List Char, a.toList = b.toList ++ ':' :: m ∧
      c.toList = m ++ ':' :: d.toList) ↔ ∃ m, a = b ++ ":" ++ m ∧ c = m ++ ":" ++ d := by
    intro a b c d
    constructor
    · rintro ⟨m, h, h'⟩
      refine ⟨String.ofList m, ?_, ?_⟩
      · rw [← String.toList_inj, toList_colon, String.toList_ofList, h]
      · rw [← String.toList_inj, toList_colon, String.toList_ofList, h']
    · rintro ⟨m, rfl, rfl⟩
      exact ⟨m.toList, toList_colon _ _, toList_colon _ _⟩
  simp only [build]
  rw [← String.toList_inj, toList_colon, toList_colon, Text.append_cons_eq_iff, lift, lift,
    String.toList_inj, String.toList_inj]

/-- The store keys of two namespaces are apart exactly if the namespaces do not overlap. -/
theorem build_ne_build_iff {space other : String} (ne : space ≠ other) :
    (∀ key key', key ≠ "" → key' ≠ "" → build ⟨some space⟩ key ≠ build ⟨some other⟩ key') ↔
      ¬Overlaps space other := by
  have prolonged : ∀ m key : String, m ++ ":" ++ key ≠ "" := by
    intro m key blank
    have shown := congrArg String.toList blank
    rw [toList_colon] at shown
    simp at shown
  constructor
  · rintro apart (⟨m, rfl⟩ | ⟨m, rfl⟩)
    · exact apart (m ++ ":" ++ "k") "k" (prolonged m "k") (by decide)
        (build_eq_build_iff.2 (Or.inr (Or.inl ⟨m, rfl, rfl⟩)))
    · exact apart "k" (m ++ ":" ++ "k") (by decide) (prolonged m "k")
        (build_eq_build_iff.2 (Or.inr (Or.inr ⟨m, rfl, rfl⟩)))
  · intro apart key key' _ _ meet
    rcases build_eq_build_iff.1 meet with ⟨same, -⟩ | ⟨m, there, -⟩ | ⟨m, there, -⟩
    · exact ne same
    · exact apart (Or.inl ⟨m, there⟩)
    · exact apart (Or.inr ⟨m, there⟩)

/-- The store key is one that this scheme makes of some key. -/
def Owns (k : KeyScheme) (storeKey : String) : Prop := ∃ key, key ≠ "" ∧ storeKey = k.build key

end KeyScheme

/-! ## A proxy keeps to its own keys -/

/-- The store key that an effect is about. -/
def Effect.storeKey? {ω : Type} : Effect ω → Option String
  | read _ storeKey | write _ storeKey _ _ | delete _ storeKey => some storeKey
  | wake _ | ask _ _ _ | limit _ _ | log _ => none

namespace Proxy

variable {ω : Type} {now : Moment} {p p' : Proxy ω}

/-- Whatever the proxy is about to write, it is to write under a key of its own. -/
structure Native (p : Proxy ω) : Prop where
  fetches : ∀ (id : Nat) (f : Fetch (Plan ω)), p.fetches.fetches[id]? = some f →
    p.keys.Owns f.plan.after.storeKey
  jobs : ∀ (j : Nat) (x : Job Work) (w : Write), p.pool.jobs[j]? = some x →
    x.work.write? = some w → p.keys.Owns w.storeKey
  saves : ∀ x ∈ p.saves, p.keys.Owns x.storeKey
  callers : ∀ (c : Nat) (policy : Policy) (key : String) (origin : ω) (s : Caller.Stage),
    p.callers[c]? = some ⟨.lookup policy key origin, s⟩ → s.isSettled = false → key ≠ ""

theorem Native.owned (h : p.Native) {c : Nat} {policy : Policy} {key : String} {origin : ω}
    {s : Caller.Stage} (at_ : p.callers[c]? = some ⟨.lookup policy key origin, s⟩)
    (waits : s.isSettled = false) : p.keys.Owns (p.keys.build key) :=
  ⟨key, h.callers c policy key origin s at_ waits, rfl⟩

/-- A job has been there before, or it writes nothing, or a fetch has handed it its write. -/
theorem Step.work_cases {e : Event ω} {fx : List (Effect ω)} (step : p.Step now e fx p')
    {j : Nat} {x : Job Work} {w : Write} (at_ : p'.pool.jobs[j]? = some x)
    (writes : x.work.write? = some w) :
    (∃ y, p.pool.jobs[j]? = some y ∧ y.work = x.work) ∨
      ∃ (id : Nat) (f : Fetch (Plan ω)), p.fetches.fetches[id]? = some f ∧
        w.storeKey = f.plan.after.storeKey := by
  cases step with
  | force policy key origin p₁ flight fx some_key forced how =>
    exact Or.inl ⟨x, how.jobs ▸ at_, rfl⟩
  | miss c policy key origin o p₁ flight fx here missing how =>
    exact Or.inl ⟨x, how.jobs ▸ at_, rfl⟩
  | stale c policy key origin v p₁ flight fx here live old how =>
    change (p₁.pool.spawn _).1.jobs[j]? = some x at at_
    rw [Pool.getElem?_spawn] at at_
    split at at_
    · cases at_
      cases writes
    · exact Or.inl ⟨x, how.jobs ▸ at_, rfl⟩
  | passOn id f a policy storeKey guard pool₁ pool₂ spawned idle here stage plan spawn back =>
    have jobs := Pool.giveBack_jobs pool₁ guard
    rw [back] at jobs
    change pool₂.jobs[j]? = some x at at_
    obtain rfl : (p.pool.spawn (.writeBack storeKey (a.stamp now) (policy.ttlFor a.payload))).1 =
      pool₁ := by rw [spawn]
    rw [show pool₂.jobs = _ from jobs, Pool.getElem?_spawn] at at_
    split at at_
    · cases at_
      cases writes
      exact Or.inr ⟨id, f, here, by rw [plan]; rfl⟩
    · exact Or.inl ⟨x, at_, rfl⟩
  | failBack id f r err guard pool₁ idle here stage bad plan back =>
    have jobs := Pool.giveBack_jobs p.pool guard
    rw [back] at jobs
    change pool₁.jobs[j]? = some x at at_
    rw [show pool₁.jobs = p.pool.jobs from jobs] at at_
    exact Or.inl ⟨x, at_, rfl⟩
  | queue i pool₁ resumed => exact Or.inl ((Pool.Keeps.resume? resumed).works j x at_)
  | write i pool₁ _ _ _ resumed => exact Or.inl ((Pool.Keeps.resume? resumed).works j x at_)
  | await i pool₁ _ _ resumed => exact Or.inl ((Pool.Keeps.resume? resumed).works j x at_)
  | skip i pool₁ pool₂ _ f r wakes resumed here known finished =>
    exact Or.inl (((Pool.Keeps.resume? resumed).trans (.finish? finished)).works j x at_)
  | endJob i work e r pool₁ wakes here how finished =>
    exact Or.inl ((Pool.Keeps.finish? finished).works j x at_)
  | arrive | drain | settle | again | drained | parks | leaveDrain | ask | store | failThrough
  | stored | save | saved => exact Or.inl ⟨x, at_, rfl⟩

theorem Native.wished (h : p.Native) {e : Event ω} {w : Wish ω} (wished : p.wish? now e = some w) :
    w.key ≠ "" := by
  rcases wish?_cases wished with ⟨-, -, -, some_key⟩ | ⟨c, o, -, at_, -⟩
  · exact some_key
  · exact h.callers c w.policy w.key w.origin _ at_ rfl

theorem Native.step (h : p.Native) {e : Event ω} {fx : List (Effect ω)}
    (step : p.Step now e fx p') : p'.Native where
  fetches id g hg := by
    rw [step.keys]
    cases step.proceeds hg with
    | started g w wished new last suits queued => exact ⟨w.key, h.wished wished, suits.storeKey⟩
    | stays f at_ => exact h.fetches id _ at_
    | asked f at_ told => exact h.fetches id f at_
    | answered f a s at_ asking event stage => exact h.fetches id f at_
    | failed f err at_ asking => exact h.fetches id f at_
    | stored f a r at_ storing => exact h.fetches id f at_
  jobs j x w at_ writes := by
    rw [step.keys]
    rcases step.work_cases at_ writes with ⟨y, there, same⟩ | ⟨id, f, there, same⟩
    · exact h.jobs j y w there (same ▸ writes)
    · rw [same]
      exact h.fetches id f there
  saves x hx := by
    rw [step.keys]
    cases step with
    | again c policy key origin flight a e at_ looks known forced joined =>
      rcases List.mem_append.1 hx with old | new
      · exact h.saves x old
      · rw [List.mem_singleton.1 new]
        exact h.owned at_ rfl
    | save i y at_ stage | saved i y r at_ stage =>
      rcases List.mem_or_eq_of_mem_set hx with old | rfl
      · exact h.saves x old
      · exact h.saves y (List.mem_of_getElem? at_)
    | force policy key origin p₁ flight fx some_key forced how => exact h.saves x (how.saves ▸ hx)
    | miss c policy key origin o p₁ flight fx at_ missing how => exact h.saves x (how.saves ▸ hx)
    | stale c policy key origin v p₁ flight fx at_ live old how => exact h.saves x (how.saves ▸ hx)
    | arrive | drain | settle | drained | parks | leaveDrain | ask | store | passOn | failThrough
    | failBack | stored | queue | write | await | skip | endJob => exact h.saves x hx
  callers c policy key origin s at_ waits := by
    rcases step.caller_cases at_ with same | ⟨-, -, blank⟩ | ⟨⟨q, t⟩, there, rfl, waited⟩
    · exact h.callers c policy key origin s same waits
    · rintro rfl
      rw [blank rfl] at waits
      cases waits
    · exact h.callers c policy key origin t there waited

/-- What the store is asked for is under a key of the proxy's own. -/
theorem Native.orders (h : p.Native) {e : Event ω} {x : Effect ω} (orders : p.Orders now e x p')
    {storeKey : String} (about : x.storeKey? = some storeKey) : p.keys.Owns storeKey := by
  cases orders with
  | arrive r x s how =>
    cases how with
    | read policy key origin some_key | set policy key payload some_key | remove key some_key =>
      cases about
      exact ⟨key, some_key, rfl⟩
  | store id f a policy key at_ stage plan =>
    cases about
    have owned := h.fetches id f at_
    rw [plan] at owned
    exact owned
  | write j pool₁ key v ttl resumed at_ =>
    cases about
    obtain ⟨y, there, same⟩ := (Pool.Keeps.resume? resumed).works j _ at_
    exact h.jobs j y ⟨storeKey, v, ttl⟩ there (by rw [same]; rfl)
  | save i y at_ stage =>
    cases about
    exact h.saves y (List.mem_of_getElem? at_)

end Proxy

namespace Desk

variable {σ ω : Type} {d : Desk ω}

/-- A desk whose orders are all about keys of its own. -/
structure Native (keys : KeyScheme) (d : Desk ω) : Prop where
  scheme : d.proxy.keys = keys
  proxy : d.proxy.Native
  orders : ∀ x ∈ d.orders, ∀ storeKey, x.storeKey? = some storeKey → keys.Owns storeKey

theorem Native.tell {keys : KeyScheme} (h : d.Native keys) (now : Moment) (e : Event ω) :
    (d.tell now e).Native keys := by
  rcases d.tell_cases now e with ⟨-, told⟩ | ⟨p, fx, -, taken, told⟩
  · rw [told]
    exact ⟨h.scheme, h.proxy, fun x hx => h.orders x (mem_of_mem_left hx)⟩
  · rw [told]
    refine ⟨taken.keys.trans h.scheme, h.proxy.step taken, ?_⟩
    intro x hx storeKey about
    rcases List.mem_append.1 hx with old | new
    · exact h.orders x (mem_of_mem_left old) storeKey about
    · obtain ⟨r, asked, store⟩ : ∃ r, x.errand? = some r ∧ r.forStore = true := by
        cases x <;> cases about <;> exact ⟨_, rfl, rfl⟩
      have new : x ∈ fx := (List.mem_filter.1 new).1
      obtain ⟨y, rfl, -, orders⟩ := taken.orders store (mem_errands.2 ⟨x, new, asked⟩)
      cases List.mem_singleton.1 new
      rw [← h.scheme]
      exact h.proxy.orders orders about

theorem native_start (keys : KeyScheme) (maxTasks : Nat) :
    (start keys maxTasks : Desk ω).Native keys where
  scheme := rfl
  proxy :=
    { fetches := fun id f at_ => by
        simp [start, proxy, Scene.start, Proxy.ofPool, Coalescer.empty] at at_
      jobs := fun j x w at_ => by
        simp [start, proxy, Scene.start, Proxy.ofPool, Pool.ofLimit] at at_
      saves := fun x hx => by simp [start, proxy, Scene.start, Proxy.ofPool] at hx
      callers := fun c policy key origin s at_ => by
        simp [start, proxy, Scene.start, Proxy.ofPool] at at_ }
  orders x hx := by simp [start] at hx

end Desk

namespace Keeper

variable {σ γ ω : Type} {k : Keeper σ} {cell : σ → String → γ}

/-- What the store does about an order is confined to the key that the order is about. -/
theorem Cellular.carryOut (h : k.Cellular cell) (now : Moment) (x : Effect ω) :
    (∀ s, k.carryOut now s x = none) ∨
      ∃ (key : String) (f : σ → Event ω × σ), x.storeKey? = some key ∧ Confined cell key f ∧
        ∀ s, k.carryOut now s x = some (f s) := by
  have told : ∀ {α : Type} {key : String} {f : σ → α × σ} (report : α → Event ω),
      Confined cell key f → Confined cell key fun s => (report (f s).1, (f s).2) := by
    intro α key f report confined
    exact ⟨fun s s' same => congrArg report (confined.answer s s' same), confined.within,
      confined.others⟩
  cases x with
  | read c key => exact Or.inr ⟨key, _, rfl, told (.readAnswered c) (h.read now key), fun _ => rfl⟩
  | write t key v ttl =>
    exact Or.inr ⟨key, _, rfl, told (.writeAnswered t) (h.write now key v ttl), fun _ => rfl⟩
  | delete c key =>
    exact Or.inr ⟨key, _, rfl, told (.deleteAnswered c) (h.delete now key), fun _ => rfl⟩
  | wake | ask | limit | log => exact Or.inl fun _ => rfl

end Keeper

/-! ## Several proxies on one store -/

/-- Desks that share a store. -/
structure Office (ι ω σ : Type) where
  desks : ι → Desk ω
  store : σ

namespace Office

variable {ι ω σ γ : Type} [DecidableEq ι]

/-- A proxy in each namespace, and what the store holds. -/
def start (spaces : ι → String) (maxTasks : ι → Nat) (store : σ) : Office ι ω σ :=
  ⟨fun i => .start ⟨some (spaces i)⟩ (maxTasks i), store⟩

/-- One thing happens at one of the desks. -/
def act (k : Keeper σ) (o : Office ι ω σ) (i : ι) (c : Clocks) (m : Move ω) : Office ι ω σ :=
  let after := Desk.act k (o.desks i, o.store) c m
  ⟨Function.update o.desks i after.1, after.2⟩

def run (k : Keeper σ) (o : Office ι ω σ) (ms : List (ι × Clocks × Move ω)) : Office ι ω σ :=
  ms.foldl (fun o m => o.act k m.1 m.2.1 m.2.2) o

/-- Every desk keeps to the keys of its namespace. -/
def Native (spaces : ι → String) (o : Office ι ω σ) : Prop :=
  ∀ i, (o.desks i).Native ⟨some (spaces i)⟩

/-- The two offices look the same from one desk: the desk itself, and what the store holds under
the keys of its namespace. -/
structure Alike (cell : σ → String → γ) (spaces : ι → String) (i : ι) (o o' : Office ι ω σ) :
    Prop where
  desk : o.desks i = o'.desks i
  cells : ∀ storeKey, KeyScheme.Owns ⟨some (spaces i)⟩ storeKey →
    cell o.store storeKey = cell o'.store storeKey

section Law

variable {k : Keeper σ} {cell : σ → String → γ} {spaces : ι → String} {o o' : Office ι ω σ} {i : ι}

theorem Native.act (h : o.Native spaces) (j : ι) (c : Clocks) (m : Move ω) :
    (o.act k j c m).Native spaces := by
  intro i
  show (Function.update o.desks j (Desk.act k (o.desks j, o.store) c m).1 i).Native _
  by_cases here : i = j
  case neg =>
    rw [Function.update_of_ne here]
    exact h i
  subst here
  rw [Function.update_self]
  rcases Desk.act_cases k (o.desks i, o.store) c m with
    ⟨e, -, -, acted⟩ | ⟨r, x, e, s, -, -, -, acted⟩ | ⟨r, -, acted⟩
  · rw [acted]
    exact (h i).tell c.wall e
  · rw [acted]
    exact (h i).tell c.wall e
  · rw [acted]
    exact h i

/-- A move at a desk depends on nothing but what that desk sees. -/
theorem Alike.act (h : Alike cell spaces i o o') (law : k.Cellular cell) (native : o.Native spaces)
    (c : Clocks) (m : Move ω) : Alike cell spaces i (o.act k i c m) (o'.act k i c m) := by
  have both : (Desk.act k (o.desks i, o.store) c m).1 = (Desk.act k (o'.desks i, o'.store) c m).1 ∧
      ∀ storeKey, KeyScheme.Owns ⟨some (spaces i)⟩ storeKey →
        cell (Desk.act k (o.desks i, o.store) c m).2 storeKey =
          cell (Desk.act k (o'.desks i, o'.store) c m).2 storeKey := by
    rw [← h.desk]
    cases m with
    | tell e apart => exact ⟨rfl, h.cells⟩
    | serve r =>
      simp only [Desk.act]
      cases found : (o.desks i).order? r with
      | none => exact ⟨rfl, h.cells⟩
      | some x =>
        simp only [Option.bind_some]
        rcases law.carryOut c.monotonic x with idle | ⟨key, f, about, confined, does⟩
        · simp only [idle]
          exact ⟨trivial, h.cells⟩
        · simp only [does]
          have owned := (native i).orders x (List.mem_of_find?_eq_some found) key about
          have same := h.cells key owned
          refine ⟨by rw [confined.answer _ _ same], ?_⟩
          intro storeKey own
          by_cases here : storeKey = key
          · rw [here]
            exact confined.within _ _ same
          · rw [confined.others _ _ here, confined.others _ _ here]
            exact h.cells storeKey own
  constructor
  · show Function.update o.desks i _ i = Function.update o'.desks i _ i
    rw [Function.update_self, Function.update_self]
    exact both.1
  · exact both.2

/-- A move at another desk is not seen, if the keys of the two namespaces are apart. -/
theorem Alike.skip (h : Alike cell spaces i o o') (law : k.Cellular cell)
    (native : o.Native spaces) {j : ι} (other : j ≠ i)
    (apart : ∀ key, KeyScheme.Owns ⟨some (spaces i)⟩ key → ¬KeyScheme.Owns ⟨some (spaces j)⟩ key)
    (c : Clocks) (m : Move ω) : Alike cell spaces i (o.act k j c m) o' := by
  have kept : ∀ storeKey, KeyScheme.Owns ⟨some (spaces i)⟩ storeKey →
      cell (Desk.act k (o.desks j, o.store) c m).2 storeKey = cell o.store storeKey := by
    intro storeKey own
    cases m with
    | tell e apart => rfl
    | serve r =>
      simp only [Desk.act]
      cases found : (o.desks j).order? r with
      | none => rfl
      | some x =>
        simp only [Option.bind_some]
        rcases law.carryOut c.monotonic x with idle | ⟨key, f, about, confined, does⟩
        · simp only [idle]
        · simp only [does]
          refine confined.others _ _ ?_
          rintro rfl
          exact apart storeKey own
            ((native j).orders x (List.mem_of_find?_eq_some found) storeKey about)
  constructor
  · show Function.update o.desks j _ i = o'.desks i
    rw [Function.update_of_ne (Ne.symm other)]
    exact h.desk
  · intro storeKey own
    exact (kept storeKey own).trans (h.cells storeKey own)

theorem Alike.run (h : Alike cell spaces i o o') (law : k.Cellular cell) (native : o.Native spaces)
    (native' : o'.Native spaces) (apart : ∀ j, j ≠ i → ∀ key,
      KeyScheme.Owns ⟨some (spaces i)⟩ key → ¬KeyScheme.Owns ⟨some (spaces j)⟩ key)
    (ms : List (ι × Clocks × Move ω)) :
    Alike cell spaces i (o.run k ms) (o'.run k (ms.filter fun m => m.1 = i)) := by
  induction ms generalizing o o' with
  | nil => exact h
  | cons m ms ih =>
    obtain ⟨j, c, m⟩ := m
    by_cases here : j = i
    · subst here
      rw [List.filter_cons_of_pos (by simp)]
      exact ih (h.act law native c m) (native.act j c m) (native'.act j c m)
    · rw [List.filter_cons_of_neg (by simpa using here)]
      exact ih (h.skip law native here (apart j here) c m) (native.act j c m) native'

end Law

/-- **Namespaces that do not overlap are isolated.** The store keys of two different namespaces
are apart exactly if the namespaces do not overlap. And if a proxy's namespace overlaps with none
of the others that share its store, then in every run of all the proxies, however it interleaves
them, the proxy stands at the end as in the run of its own moves alone, with the same orders and
the same answers to its callers; and so does the store under every key of its own. -/
theorem namespaces_isolated (k : Keeper σ) (cell : σ → String → γ) (law : k.Cellular cell)
    (spaces : ι → String) (maxTasks : ι → Nat) (store : σ) (i : ι)
    (different : ∀ j, j ≠ i → spaces i ≠ spaces j) :
    (∀ j, j ≠ i → ((∀ key key', key ≠ "" → key' ≠ "" →
      KeyScheme.build ⟨some (spaces i)⟩ key ≠ KeyScheme.build ⟨some (spaces j)⟩ key') ↔
        ¬KeyScheme.Overlaps (spaces i) (spaces j))) ∧
    ((∀ j, j ≠ i → ¬KeyScheme.Overlaps (spaces i) (spaces j)) →
      ∀ ms : List (ι × Clocks × Move ω),
        let together := (start spaces maxTasks store).run k ms
        let alone := (start spaces maxTasks store).run k (ms.filter fun m => m.1 = i)
        together.desks i = alone.desks i ∧
        ∀ key, key ≠ "" → cell together.store (KeyScheme.build ⟨some (spaces i)⟩ key) =
          cell alone.store (KeyScheme.build ⟨some (spaces i)⟩ key)) := by
  constructor
  · exact fun j other => KeyScheme.build_ne_build_iff (different j other)
  · intro apart ms together alone
    have native : (start spaces maxTasks store : Office ι ω σ).Native spaces :=
      fun j => Desk.native_start _ _
    have keys_apart : ∀ j, j ≠ i → ∀ key, KeyScheme.Owns ⟨some (spaces i)⟩ key →
        ¬KeyScheme.Owns ⟨some (spaces j)⟩ key := by
      rintro j other _ ⟨key, some_key, rfl⟩ ⟨key', some_key', meet⟩
      exact (KeyScheme.build_ne_build_iff (different j other)).2 (apart j other) key key' some_key
        some_key' meet
    have alike : Alike cell spaces i together alone :=
      Alike.run ⟨rfl, fun _ _ => rfl⟩ law native native keys_apart ms
    exact ⟨alike.desk, fun key some_key => alike.cells _ ⟨key, some_key, rfl⟩⟩

def atEpoch : Clocks := ⟨.epoch, .epoch⟩

/-- "b:c" is set through the one proxy, and "c" is looked up through the other. -/
def crossing : List (Bool × Clocks × Move Unit) :=
  [(false, atEpoch, .tell (.request (.set .default "b:c" "first")) rfl),
    (false, atEpoch, .serve (.write (.caller 0))),
    (true, atEpoch, .tell (.request (.lookup .default "c" ())) rfl),
    (true, atEpoch, .serve (.read 0))]

def apart : Bool → String
  | false => "a"
  | true => "b"

theorem namespaces_isolated_crossing :
    ((start apart (fun _ => 1) Table.empty).run ByteMap.keeper crossing).desks true =
      ((start apart (fun _ => 1) Table.empty).run ByteMap.keeper
        (crossing.filter fun m => m.1 = true)).desks true := by
  have different : ∀ j, j ≠ true → apart true ≠ apart j := by decide
  refine ((namespaces_isolated ByteMap.keeper Table.get? ByteMap.cellular apart (fun _ => 1)
    Table.empty true different).2 ?_ crossing).1
  intro j other
  refine (KeyScheme.build_ne_build_iff (different j other)).1 ?_
  -- Both store keys begin with a letter, and not with the same one.
  intro key key' _ _ meet
  cases j with
  | true => exact other rfl
  | false =>
    have shown := congrArg String.toList meet
    simp [apart, KeyScheme.build] at shown

/-- The namespaces "a" and "a:b", of which one goes on where the other stops. -/
def nested : Bool → String
  | false => "a"
  | true => "a:b"

theorem crossing_answer {σ : Type} (k : Keeper σ) (s : σ) :
    (((start nested (fun _ => 1) s).run k crossing).desks true).proxy.result? 0 =
      (((Desk.start ⟨some "a:b"⟩ 1).tell .epoch (.request (.lookup .default "c" ()))).tell .epoch
        (.readAnswered 0 (k.read .epoch "a:b:c" (k.write .epoch "a:b:c"
          (.stamped .epoch "first" false) Policy.defaultTtl s).2).1)).proxy.result? 0 := rfl

/-- The one proxy answers with what has been set through the other under another key. -/
theorem overlapping_proxies_meet :
    nested false ≠ nested true ∧
      KeyScheme.build ⟨some (nested false)⟩ "b:c" = KeyScheme.build ⟨some (nested true)⟩ "c" ∧
      (((start nested (fun _ => 1) Table.empty).run ByteMap.keeper crossing).desks
        true).proxy.result? 0 = some (.ok (.found "first" true)) := by
  refine ⟨by decide, by decide, ?_⟩
  have some_key : "a:b:c" ≠ "" := by decide
  have stored := (ByteMap.write_keeper Table.empty .epoch some_key
    (v := .stamped .epoch "first" false) (by decide) Policy.defaultTtl).2
  rw [crossing_answer, ByteMap.read_keeper _ _ some_key, stored]
  rfl

end Office

end ReadThrough
