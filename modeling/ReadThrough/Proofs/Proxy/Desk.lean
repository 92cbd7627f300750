import ReadThrough.Proofs.Proxy.Orders
import ReadThrough.Proofs.Store.Keeper

/-!
# A proxy at work on a store

A `Scene` leaves open what the store answers. Here the store is real: a `Keeper` reads, writes
and deletes on a state of its own, and a `Desk` is a proxy with its orders, which are the errands
that are due, written out in full. Two kinds of thing happen at a desk. The proxy is told of
something that the store has no part in; or the store carries out one of the orders, in
whatever order it likes, and the proxy is told what came of it. Either way the two clocks are
read once, and every run of a desk is a run of the scene on it (`exists_scene_run`), so that what
holds of the runs of scenes holds here.
-/

set_option autoImplicit false

namespace ReadThrough

/-- What the two clocks show at one moment. -/
structure Clocks where
  wall : Moment
  monotonic : Moment

/-- The origin that an effect asks, for which fetch, and for which key. -/
def Effect.ask? {ω : Type} : Effect ω → Option (Nat × String × ω)
  | ask fetch key origin => some (fetch, key, origin)
  | _ => none

/-- Every time an origin was asked, the latest in front. -/
def asked {ω : Type} (past : List (Turn ω)) : List (Nat × String × ω) :=
  past.flatMap fun t => t.effects.filterMap Effect.ask?

namespace Keeper

variable {σ ω : Type}

/-- What the store does about an order, and what it reports back. -/
def carryOut (k : Keeper σ) (now : Moment) (s : σ) : Effect ω → Option (Event ω × σ)
  | .read c key => some (.readAnswered c (k.read now key s).1, (k.read now key s).2)
  | .write t key v ttl =>
    some (.writeAnswered t (k.write now key v ttl s).1, (k.write now key v ttl s).2)
  | .delete c key => some (.deleteAnswered c (k.delete now key s).1, (k.delete now key s).2)
  | .wake _ | .ask _ _ _ | .limit _ _ | .log _ => none

theorem carryOut_errand? {k : Keeper σ} {now : Moment} {s s' : σ} {x : Effect ω} {e : Event ω}
    (h : k.carryOut now s x = some (e, s')) :
    e.errand? = x.errand? ∧ ∃ d, x.errand? = some d ∧ d.forStore = true := by
  cases x <;> cases h <;> exact ⟨rfl, _, rfl, rfl⟩

end Keeper

/-- A proxy at work, and the errands that are due, in full. -/
structure Desk (ω : Type) where
  scene : Scene ω
  orders : List (Effect ω)

/-- What can happen at a desk. -/
inductive Move (ω : Type) where
  /-- The proxy is told of something that is not the store's to tell. -/
  | tell (e : Event ω) (apart : e.errand?.any Errand.forStore = false)
  /-- The store carries out the order that this errand stands for. -/
  | serve (d : Errand)

namespace Desk

variable {σ ω : Type}

def start (keys : KeyScheme) (maxTasks : Nat) : Desk ω := ⟨.start keys maxTasks, []⟩

def proxy (d : Desk ω) : Proxy ω := d.scene.proxy

/-- What the proxy asks for when it is told something. -/
def asks (d : Desk ω) (now : Moment) (e : Event ω) : List (Effect ω) :=
  (d.proxy.step now e).elim [] (·.2)

/-- The orders without the one that the event reports back. -/
def left (d : Desk ω) (e : Event ω) : List (Effect ω) :=
  e.errand?.elim d.orders fun r => d.orders.eraseP fun x => x.errand? = some r

/-- The proxy is told something. -/
def tell (d : Desk ω) (now : Moment) (e : Event ω) : Desk ω :=
  ⟨d.scene.act now e, d.left e ++ (d.asks now e).filter fun x => x.errand?.isSome⟩

/-- The order that an errand stands for. -/
def order? (d : Desk ω) (r : Errand) : Option (Effect ω) :=
  d.orders.find? fun x => x.errand? = some r

/-- One thing happens. -/
def act (k : Keeper σ) (d : Desk ω × σ) (c : Clocks) : Move ω → Desk ω × σ
  | .tell e _ => (d.1.tell c.wall e, d.2)
  | .serve r =>
    match (d.1.order? r).bind (k.carryOut c.monotonic d.2) with
    | some (e, s) => (d.1.tell c.wall e, s)
    | none => d

def run (k : Keeper σ) (d : Desk ω × σ) (ms : List (Clocks × Move ω)) : Desk ω × σ :=
  ms.foldl (fun d m => act k d m.1 m.2) d

/-- What the proxy is told by a move, if it is told anything. -/
def told? (k : Keeper σ) (d : Desk ω × σ) (c : Clocks) : Move ω → Option (Event ω)
  | .tell e _ => some e
  | .serve r => ((d.1.order? r).bind (k.carryOut c.monotonic d.2)).map (·.1)

theorem act_fst (k : Keeper σ) (d : Desk ω × σ) (c : Clocks) (m : Move ω) :
    (act k d c m).1 = (told? k d c m).elim d.1 (d.1.tell c.wall) := by
  cases m with
  | tell e apart => rfl
  | serve r =>
    simp only [act, told?]
    cases (d.1.order? r).bind (k.carryOut c.monotonic d.2) <;> rfl

/-- A move tells the proxy of something, which is its errand if the store served one; or it
changes nothing. -/
theorem act_cases (k : Keeper σ) (d : Desk ω × σ) (c : Clocks) (m : Move ω) :
    (∃ e apart, m = .tell e apart ∧ act k d c m = (d.1.tell c.wall e, d.2)) ∨
    (∃ r x e s, m = .serve r ∧ d.1.order? r = some x ∧ k.carryOut c.monotonic d.2 x = some (e, s) ∧
      act k d c m = (d.1.tell c.wall e, s)) ∨
    ∃ r, m = .serve r ∧ act k d c m = d := by
  cases m with
  | tell e apart => exact Or.inl ⟨e, apart, rfl, rfl⟩
  | serve r =>
    refine Or.inr ?_
    cases served : (d.1.order? r).bind (k.carryOut c.monotonic d.2) with
    | none =>
      refine Or.inr ⟨r, rfl, ?_⟩
      simp only [act, served]
    | some es =>
      obtain ⟨x, hx, carried⟩ := Option.bind_eq_some_iff.1 served
      refine Or.inl ⟨r, x, es.1, es.2, rfl, hx, carried, ?_⟩
      simp only [act, served]

theorem run_induction {k : Keeper σ} {P : Desk ω × σ → Prop}
    (step : ∀ d c m, P d → P (act k d c m)) {d : Desk ω × σ} (h : P d)
    (ms : List (Clocks × Move ω)) : P (run k d ms) := by
  induction ms generalizing d with
  | nil => exact h
  | cons m ms ih => exact ih (step d m.1 m.2 h)

/-- What holds of a desk whatever its proxy is told, holds however the store answers. -/
theorem tell_induction {k : Keeper σ} {P : Desk ω → Prop}
    (told : ∀ d now e, P d → P (d.tell now e)) {d : Desk ω × σ} (h : P d.1)
    (ms : List (Clocks × Move ω)) : P (run k d ms).1 := by
  refine run_induction (P := fun d => P d.1) ?_ h ms
  intro d c m h
  rw [act_fst]
  cases told? k d c m with
  | none => exact h
  | some e => exact told d.1 c.wall e h

/-- The proxy takes a step, or what it is told changes nothing but what is due. -/
theorem tell_cases (d : Desk ω) (now : Moment) (e : Event ω) :
    (d.proxy.step now e = none ∧
      d.tell now e = ⟨{ d.scene with due := e.errand?.elim d.scene.due d.scene.due.erase },
        d.left e⟩) ∨
    (∃ p fx, d.proxy.step now e = some (p, fx) ∧ d.proxy.Step now e fx p ∧
      d.tell now e = ⟨⟨p, e.errand?.elim d.scene.due d.scene.due.erase ++ errands fx,
        ⟨now, e, d.proxy, fx, p⟩ :: d.scene.past⟩,
        d.left e ++ fx.filter fun x => x.errand?.isSome⟩) := by
  rcases d.scene.act_cases now e with ⟨stuck, same⟩ | ⟨p, fx, moves, taken, acted⟩
  · refine Or.inl ⟨stuck, ?_⟩
    rw [tell, asks, proxy, stuck, same, Option.elim_none, List.filter_nil, List.append_nil]
  · refine Or.inr ⟨p, fx, moves, taken, ?_⟩
    rw [tell, asks, proxy, moves, acted, Option.elim_some]

theorem mem_of_mem_left {d : Desk ω} {e : Event ω} {x : Effect ω} (h : x ∈ d.left e) :
    x ∈ d.orders := by
  unfold left at h
  cases run : e.errand? with
  | none =>
    rw [run] at h
    exact h
  | some r =>
    rw [run] at h
    exact List.mem_of_mem_eraseP h

/-! ## A run of a desk is a run of its scene -/

theorem exists_scene_run (k : Keeper σ) (d : Desk ω × σ) (ms : List (Clocks × Move ω)) :
    ∃ es, (run k d ms).1.scene = d.1.scene.run es := by
  refine tell_induction (P := fun d' => ∃ es, d'.scene = d.1.scene.run es) ?_ ⟨[], rfl⟩ ms
  rintro d' now e ⟨es, reached⟩
  refine ⟨es ++ [(now, e)], ?_⟩
  rw [Scene.run_append, ← reached]
  rfl

/-! ## The orders are what is due -/

theorem errands_eraseP (l : List (Effect ω)) (r : Errand) :
    errands (l.eraseP fun x => x.errand? = some r) = (errands l).erase r := by
  induction l with
  | nil => rfl
  | cons x l ih =>
    by_cases h : x.errand? = some r
    · rw [List.eraseP_cons_of_pos (by simpa using h)]
      simp [errands, h]
    · rw [List.eraseP_cons_of_neg (by simpa using h)]
      cases hx : x.errand? with
      | none => simpa [errands, hx] using ih
      | some q =>
        have other : q ≠ r := fun same => h (by rw [hx, same])
        simp only [errands, List.filterMap_cons, hx] at ih ⊢
        rw [List.erase_cons_tail (by simpa using other), ih]

theorem errands_filter (fx : List (Effect ω)) :
    errands (fx.filter fun x => x.errand?.isSome) = errands fx := by
  rw [errands, List.filterMap_filter]
  congr 1
  funext x
  cases x.errand? <;> rfl

/-- The orders are the errands that are due. -/
def Listed (d : Desk ω) : Prop := errands d.orders = d.scene.due

theorem Listed.tell {d : Desk ω} (h : d.Listed) (now : Moment) (e : Event ω) :
    (d.tell now e).Listed := by
  have left : errands (d.left e) = e.errand?.elim d.scene.due d.scene.due.erase := by
    rw [left, ← h]
    cases e.errand? with
    | none => rfl
    | some r => exact errands_eraseP d.orders r
  unfold Listed
  rw [Desk.tell, errands_append, errands_filter, left]
  show _ = (d.scene.act now e).due
  unfold asks Scene.act proxy
  cases d.scene.proxy.step now e with
  | none => exact List.append_nil _
  | some pf => rfl

theorem listed_run (k : Keeper σ) {d : Desk ω × σ} (h : d.1.Listed)
    (ms : List (Clocks × Move ω)) : (run k d ms).1.Listed :=
  tell_induction (fun _ now e h => h.tell now e) h ms

end Desk

end ReadThrough
