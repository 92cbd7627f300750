import Mathlib.Logic.Relation
import ReadThrough.Proofs.Proxy.AtRest
import ReadThrough.Proofs.Proxy.Drain
import ReadThrough.Proofs.Proxy.Plain
import ReadThrough.Proofs.Proxy.Termination
import ReadThrough.Proofs.Proxy.Writes

/-!
# Orders are carried out

What a proxy orders is carried out by its surroundings, one order at a time and in whatever order
they like: a task is resumed, the store does what it is asked for, and an origin answers the key
that it was asked for (`Carried`). A call that is left to itself is a sequence of these.

Such a sequence cannot go on forever, and while anything is needed it can go on. So whatever
holds when nothing is needed any more is reached on every way that the surroundings can take
(`inevitably`).
-/

set_option autoImplicit false

namespace ReadThrough

/-- However one goes on, one comes to where it holds. -/
inductive Inevitably {α : Type} (R : α → α → Prop) (P : α → Prop) : α → Prop
  | now {a : α} (h : P a) : Inevitably R P a
  | later {a : α} (onward : ∃ b, R a b) (all : ∀ b, R a b → Inevitably R P b) : Inevitably R P a

theorem Inevitably.reached {α : Type} {R : α → α → Prop} {P : α → Prop} {a : α}
    (h : Inevitably R P a) : ∃ b, Relation.ReflTransGen R a b ∧ P b := by
  induction h with
  | now h => exact ⟨_, .refl, h⟩
  | later onward all ih =>
    obtain ⟨b, first⟩ := onward
    obtain ⟨c, others, h⟩ := ih b first
    exact ⟨c, others.head first, h⟩

/-- The orders that are for the store. -/
def storeOrders {ω : Type} (fx : List (Effect ω)) : List (Effect ω) :=
  fx.filter fun x => x.errand?.any Errand.forStore

section StoreOrders

variable {ω : Type} {now : Moment} {p p' : Proxy ω} {x : Effect ω} {fx gx : List (Effect ω)}

theorem mem_storeOrders :
    x ∈ storeOrders fx ↔ x ∈ fx ∧ ∃ r, x.errand? = some r ∧ r.forStore = true := by
  rw [storeOrders, List.mem_filter, Option.any_eq_true]

theorem storeOrders_append : storeOrders (fx ++ gx) = storeOrders fx ++ storeOrders gx :=
  List.filter_append ..

theorem storeOrders_isSome :
    storeOrders (fx.filter fun x => x.errand?.isSome) = storeOrders fx := by
  rw [storeOrders, List.filter_filter]
  refine List.filter_congr fun x _ => ?_
  cases x.errand? <;> simp

theorem storeOrders_eq_nil (h : ∀ x ∈ fx, ∃ t, x = .wake t) : storeOrders fx = [] := by
  refine List.filter_eq_nil_iff.2 fun x hx => ?_
  obtain ⟨t, rfl⟩ := h x hx
  simp [Effect.errand?, Errand.forStore]

theorem Proxy.Step.storeOrders_cases {e : Event ω} (step : p.Step now e fx p') :
    storeOrders fx = [] ∨ ∃ x, fx = [x] ∧ storeOrders fx = [x] ∧ p.Orders now e x p' := by
  cases listed : storeOrders fx with
  | nil => exact Or.inl rfl
  | cons y ys =>
    have hy : y ∈ storeOrders fx := by rw [listed]; exact List.mem_cons_self
    obtain ⟨here, r, asked, store⟩ := mem_storeOrders.1 hy
    obtain ⟨x, rfl, asked', orders⟩ := step.orders store (mem_errands.2 ⟨y, here, asked⟩)
    refine Or.inr ⟨x, rfl, ?_, orders⟩
    rw [← listed]
    simp [storeOrders, asked', store]

end StoreOrders

namespace Desk

variable {ω : Type}

/-! ## A desk in order -/

/-- An origin that is to be asked is asked what its fetch is for. -/
def Faithful (d : Desk ω) : Prop :=
  ∀ id key origin, .ask id key origin ∈ d.orders →
    ∃ f, d.proxy.fetches.fetches[id]? = some f ∧ f.key = key ∧ f.plan.origin = origin

/-- What holds of a desk at all times. -/
structure InOrder (d : Desk ω) : Prop where
  sane : d.proxy.Sane
  patient : d.proxy.Patient
  covered : d.scene.Covered
  orderly : d.scene.Orderly
  documented : d.scene.Documented
  listed : d.Listed
  faithful : d.Faithful

section InOrder

variable {ω : Type} {d : Desk ω}

theorem Faithful.tell (h : d.Faithful) (now : Moment) (e : Event ω) : (d.tell now e).Faithful := by
  rcases d.tell_cases now e with ⟨-, told⟩ | ⟨p, fx, -, taken, told⟩
  · rw [told]
    exact fun id key origin due => h id key origin (mem_of_mem_left due)
  · rw [told]
    intro id key origin due
    obtain ⟨f, at_, rfl, rfl⟩ : ∃ f, d.proxy.fetches.fetches[id]? = some f ∧ f.key = key ∧
        f.plan.origin = origin := by
      rcases List.mem_append.1 due with old | new
      · exact h id key origin (mem_of_mem_left old)
      · exact (taken.asks (List.mem_filter.1 new).1).2
    obtain ⟨g, still, same, plan⟩ := taken.keeps_fetch at_
    exact ⟨g, still, same, by rw [plan]⟩

theorem InOrder.tell (h : d.InOrder) (now : Moment) (e : Event ω) : (d.tell now e).InOrder where
  sane := Scene.act_sane h.sane now e
  patient := by
    rcases d.tell_cases now e with ⟨-, told⟩ | ⟨p, fx, -, taken, told⟩
    · rw [told]
      exact h.patient
    · rw [told]
      exact h.patient.step taken
  covered := h.covered.act h.sane now e
  orderly := h.orderly.act h.sane now e
  documented := h.documented.act now e
  listed := h.listed.tell now e
  faithful := h.faithful.tell now e

theorem inOrder_start (keys : KeyScheme) (maxTasks : Nat) :
    (start keys maxTasks : Desk ω).InOrder where
  sane := Scene.sane_start keys maxTasks
  patient c x at_ := by simp [start, proxy, Scene.start, Proxy.ofPool] at at_
  covered := Scene.covered_start keys maxTasks
  orderly d _ due := by cases due
  documented := Scene.documented_start keys maxTasks
  listed := rfl
  faithful id key origin due := by cases due

/-! ## What is left for the store -/

theorem storeOrders_left {e : Event ω} (apart : e.errand?.any Errand.forStore = false) :
    storeOrders (d.left e) = storeOrders d.orders := by
  unfold left
  cases run : e.errand? with
  | none => rfl
  | some r =>
    rw [run] at apart
    refine filter_eraseP_of_neg (fun x hx => ?_) d.orders
    rw [of_decide_eq_true hx]
    exact apart

theorem storeOrders_left_of_forStore {e : Event ω} {r : Errand} (run : e.errand? = some r)
    (store : r.forStore = true) {x : Effect ω} (only : storeOrders d.orders = [x])
    (same : x.errand? = some r) : storeOrders (d.left e) = [] := by
  have kept : storeOrders (d.left e) =
      (storeOrders d.orders).eraseP fun x => x.errand? = some r := by
    unfold left
    rw [run]
    refine filter_eraseP_of_pos (fun x hx => ?_) d.orders
    rw [of_decide_eq_true hx]
    exact store
  rw [kept, only, List.eraseP_cons_of_pos (by simpa using same)]

/-- The orders for the store after a step: those that are left, and the new ones. -/
theorem storeOrders_told {e : Event ω} {due : List Errand} {past : List (Turn ω)} {p : Proxy ω}
    {fx : List (Effect ω)} :
    storeOrders (Desk.mk ⟨p, due, past⟩ (d.left e ++ fx.filter fun x => x.errand?.isSome)).orders =
      storeOrders (d.left e) ++ storeOrders fx := by
  rw [storeOrders_append, storeOrders_isSome]

end InOrder

/-! ## One order is carried out -/

section Carried

variable {σ : Type} {k : Keeper σ} {now : Clocks} {d d' : Desk Supplier × σ}

/-- One order is carried out, and the proxy is told what came of it. -/
inductive Carried (k : Keeper σ) (now : Clocks) (d : Desk Supplier × σ) : Desk Supplier × σ → Prop
  | resume (t : Task) (due : .wake t ∈ d.1.orders) :
      Carried k now d (d.1.tell now.wall (.resume t), d.2)
  | answer (id : Nat) (key : String) (origin : Supplier) (due : .ask id key origin ∈ d.1.orders) :
      Carried k now d (d.1.tell now.wall (.originAnswered id (origin.answer key)), d.2)
  | serve (x : Effect Supplier) (e : Event Supplier) (s : σ) (due : x ∈ d.1.orders)
      (carried : k.carryOut now.monotonic d.2 x = some (e, s)) :
      Carried k now d (d.1.tell now.wall e, s)

theorem Carried.told (h : Carried k now d d') : ∃ x e, x ∈ d.1.orders ∧ e.errand? = x.errand? ∧
    (∃ r, x.errand? = some r ∧ ∀ c, r ≠ .limit c) ∧ d'.1 = d.1.tell now.wall e := by
  cases h with
  | resume t due => exact ⟨_, _, due, rfl, ⟨_, rfl, by simp⟩, rfl⟩
  | answer id key origin due => exact ⟨_, _, due, rfl, ⟨_, rfl, by simp⟩, rfl⟩
  | serve x e s due carried =>
    obtain ⟨same, r, asked, store⟩ := Keeper.carryOut_errand? carried
    refine ⟨x, e, due, same, ⟨r, asked, ?_⟩, rfl⟩
    rintro c rfl
    cases store

theorem Carried.inOrder (h : Carried k now d d') (ordered : d.1.InOrder) : d'.1.InOrder := by
  obtain ⟨x, e, -, -, -, told⟩ := h.told
  rw [told]
  exact ordered.tell now.wall e

/-- If nothing can be carried out, nothing is needed. -/
theorem InOrder.idle_of_stuck (h : d.1.InOrder) (stuck : ∀ d', ¬Carried k now d d') :
    d.1.proxy.Idle := by
  intro t
  apply Option.eq_none_iff_forall_ne_some.2
  intro r needed
  obtain ⟨x, due, asked⟩ : ∃ x ∈ d.1.orders, x.errand? = some r := by
    have due := h.covered t r needed
    rw [← h.listed] at due
    exact mem_errands.1 due
  cases x with
  | wake task => exact stuck _ (.resume task due)
  | ask id key origin => exact stuck _ (.answer id key origin due)
  | read | write | delete => exact stuck _ (.serve _ _ _ due rfl)
  | limit c limit =>
    -- Nobody needs a clock to come further.
    cases asked
    have task := Proxy.task_of_next? needed
    subst task
    obtain ⟨x, -, e | ⟨-, e⟩ | ⟨-, e⟩ | ⟨-, e⟩⟩ := Proxy.caller_of_needed needed <;> cases e
  | log => cases asked

/-- An order that is carried out takes turns away, or was in vain and is out of the way. -/
theorem Carried.falls (h : Carried k now d d') (ordered : d.1.InOrder) :
    d.1.proxy.Falls d'.1.proxy ∨
      (d'.1.proxy = d.1.proxy ∧ d'.1.orders.length < d.1.orders.length) := by
  obtain ⟨x, e, due, same, ⟨r, asked, -⟩, told⟩ := h.told
  rcases d.1.tell_cases now.wall e with ⟨-, stays⟩ | ⟨p, fx, -, taken, moved⟩
  · refine Or.inr ?_
    rw [told, stays]
    refine ⟨rfl, ?_⟩
    have fewer := List.length_eraseP_of_mem due (p := fun x => x.errand? = some r)
      (decide_eq_true asked)
    have some_due := List.length_pos_of_mem due
    show (d.1.left e).length < d.1.orders.length
    rw [left, same, asked, Option.elim_some]
    omega
  · refine Or.inl ?_
    rw [told, moved]
    refine taken.falls ordered.sane ?_
    rintro q rfl
    rw [asked] at same
    cases same

/-- **What holds once nothing is needed is reached**, whatever way the surroundings take. -/
theorem inevitably {P I : Desk Supplier × σ → Prop} (ordered : ∀ d, I d → d.1.InOrder)
    (keeps : ∀ d d', I d → Carried k now d d' → I d')
    (rest : ∀ d, I d → d.1.proxy.Idle → P d) {d : Desk Supplier × σ} (h : I d) :
    Inevitably (Carried k now) P d := by
  by_cases onward : ∃ d', Carried k now d d'
  · refine .later onward fun d' carried => ?_
    have falls := carried.falls (ordered d h)
    exact inevitably ordered keeps rest (keeps d d' h carried)
  · exact .now (rest d h ((ordered d h).idle_of_stuck fun d' carried => onward ⟨d', carried⟩))
termination_by (d.1.proxy.toGo, d.1.proxy.pool.looks, d.1.orders.length)
decreasing_by
  rcases falls with (fewer | ⟨same, fewer⟩) | ⟨same, fewer⟩
  · exact Prod.Lex.left _ _ fewer
  · rw [same]
    exact Prod.Lex.right _ (Prod.Lex.left _ _ fewer)
  · rw [same]
    exact Prod.Lex.right _ (Prod.Lex.right _ fewer)

end Carried

end Desk

end ReadThrough
