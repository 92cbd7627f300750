import ReadThrough.Proofs.Coalescer.Sound

/-!
# Traffic at a coalescer

Everything that can go on around one coalescer, in any order: callers ask for keys and are
handed flights, look whether their flight is over, or drop it; fetches begin, their origins
answer, refuse or crash; what the leaders want done afterwards is done, or fails, or crashes. A
run is a list of such events, and an event that cannot happen where it stands changes nothing.

`Traffic` remembers two things that the coalescer itself forgets: what became of each flight
that was handed out, and what has been done outside for which fetch (`Deed`), in order. Every
plan is marked with the number of the call that brought it, so a deed shows whose plan it
follows.
-/

set_option autoImplicit false

namespace ReadThrough

structure Brought (σ : Type) where
  call : Nat
  plan : σ
  deriving DecidableEq, Repr

/-- What has become of a flight that was handed out. -/
inductive Holder.Stage where
  | waiting
  | received (result : Except Error Fetched)
  | dropped

/-- One call: what it asked for, what it brought along and what it was handed. -/
structure Holder (σ : Type) where
  key : String
  brought : σ
  flight : Flight
  stage : Holder.Stage

/-- What is done outside of a coalescer for the fetch of a number. -/
inductive Deed (σ : Type) where
  /-- The origin of this plan is called with this key. -/
  | asked (fetch : Nat) (key : String) (plan : Brought σ)
  /-- The call of the origin is over. -/
  | answered (fetch : Nat) (answer : Outcome Fetched)
  /-- What this plan wants done with the answer is begun. -/
  | followed (fetch : Nat) (plan : Brought σ) (answer : Fetched)
  /-- What was begun is over. -/
  | concluded (fetch : Nat) (ending : Outcome Unit)

def Deed.fetch {σ : Type} : Deed σ → Nat
  | asked fetch _ _ | answered fetch _ | followed fetch _ _ | concluded fetch _ => fetch

/-- A coalescer, everybody who was ever handed a flight, and what has been done so far. -/
structure Traffic (σ : Type) where
  coalescer : Coalescer (Brought σ)
  holders : List (Holder σ)
  deeds : List (Deed σ)

namespace Traffic

variable {σ : Type}

/-- What can happen. -/
inductive Event (σ : Type) where
  /-- Somebody asks for a key. -/
  | fetch (key : String) (plan : σ)
  /-- A fetch takes its first turn. -/
  | begin (fetch : Nat)
  /-- The call of its origin ends. -/
  | answer (fetch : Nat) (answer : Outcome Fetched)
  /-- What its leader wants done ends. -/
  | conclude (fetch : Nat) (ending : Outcome Unit)
  /-- The holder of this number looks whether its flight is over. -/
  | poll (holder : Nat)
  | drop (holder : Nat)

/-- Nobody has asked for anything. -/
def empty : Traffic σ := ⟨.empty, [], []⟩

instance : Inhabited (Traffic σ) := ⟨empty⟩

/-- The answer is there: what is done about it. -/
def followUp (fetch : Nat) (plan : Brought σ) : Outcome Fetched → List (Deed σ)
  | .ok a => [.followed fetch plan a]
  | _ => []

def act (t : Traffic σ) : Event σ → Traffic σ
  | .fetch key plan =>
    let (c, flight) := t.coalescer.join key ⟨t.holders.length, plan⟩
    { t with coalescer := c, holders := t.holders ++ [⟨key, plan, flight, .waiting⟩] }
  | .begin id =>
    match t.coalescer.ask? id with
    | some (f, c) => { t with coalescer := c, deeds := t.deeds ++ [.asked id f.key f.plan] }
    | none => t
  | .answer id r =>
    match t.coalescer.receive? id r with
    | some (f, c) =>
      { t with coalescer := c, deeds := t.deeds ++ .answered id r :: followUp id f.plan r }
    | none => t
  | .conclude id r =>
    match t.coalescer.conclude? id r with
    | some c => { t with coalescer := c, deeds := t.deeds ++ [.concluded id r] }
    | none => t
  | .poll h =>
    match t.holders[h]? with
    | some ⟨key, plan, flight, .waiting⟩ =>
      match t.coalescer.result? flight.fetch with
      | some r => { t with holders := t.holders.set h ⟨key, plan, flight, .received r⟩ }
      | none => t
    | _ => t
  | .drop h =>
    match t.holders[h]? with
    | some ⟨key, plan, flight, .waiting⟩ =>
      { t with holders := t.holders.set h ⟨key, plan, flight, .dropped⟩ }
    | _ => t

def run (t : Traffic σ) (events : List (Event σ)) : Traffic σ := events.foldl act t

theorem run_induction {P : Traffic σ → Prop} (step : ∀ t e, P t → P (t.act e)) {t : Traffic σ}
    (h : P t) (es : List (Event σ)) : P (t.run es) := by
  induction es generalizing t with
  | nil => exact h
  | cons e es ih => exact ih (step t e h)

/-! ## What an event comes to -/

/-- The eight things that an event can come to. -/
inductive Step (t : Traffic σ) : Traffic σ → Prop
  | nothing : Step t t
  /-- A caller joins the fetch that has the key. -/
  | join (key : String) (plan : σ) (id : Nat)
      (taken : t.coalescer.inFlight.get? key = some id) :
      Step t { t with holders := t.holders ++ [⟨key, plan, ⟨id, false⟩, .waiting⟩] }
  /-- A caller starts a fetch. -/
  | lead (key : String) (plan : σ) (free : t.coalescer.inFlight.get? key = none) :
      Step t { t with
        coalescer := t.coalescer.start key ⟨t.holders.length, plan⟩
        holders := t.holders ++
          [⟨key, plan, ⟨t.coalescer.fetches.length, true⟩, .waiting⟩] }
  | begin (id : Nat) (f : Fetch (Brought σ)) (at_ : t.coalescer.fetches[id]? = some f)
      (stage : f.stage = .queued) :
      Step t { t with
        coalescer := t.coalescer.setStage id .asking
        deeds := t.deeds ++ [.asked id f.key f.plan] }
  | answer (id : Nat) (f : Fetch (Brought σ)) (r : Outcome Fetched)
      (at_ : t.coalescer.fetches[id]? = some f) (stage : f.stage = .asking) :
      Step t { t with
        coalescer := t.coalescer.received f.key id r
        deeds := t.deeds ++ .answered id r :: followUp id f.plan r }
  | conclude (id : Nat) (f : Fetch (Brought σ)) (a : Fetched) (r : Outcome Unit)
      (at_ : t.coalescer.fetches[id]? = some f) (stage : f.stage = .storing a) :
      Step t { t with
        coalescer := t.coalescer.finish f.key id (Coalescer.concluded a r)
        deeds := t.deeds ++ [.concluded id r] }
  /-- A holder finds its flight over. -/
  | receive (i : Nat) (h : Holder σ) (r : Except Error Fetched) (at_ : t.holders[i]? = some h)
      (known : t.coalescer.result? h.flight.fetch = some r) :
      Step t { t with holders := t.holders.set i { h with stage := .received r } }
  | drop (i : Nat) (h : Holder σ) (at_ : t.holders[i]? = some h) :
      Step t { t with holders := t.holders.set i { h with stage := .dropped } }

theorem act_step (t : Traffic σ) (e : Event σ) : t.Step (t.act e) := by
  cases e with
  | fetch key plan =>
    rcases t.coalescer.join_cases key ⟨t.holders.length, plan⟩ with ⟨id, taken, h⟩ | ⟨free, h⟩
    · simp only [act, h]
      exact .join key plan id taken
    · simp only [act, h]
      exact .lead key plan free
  | begin id =>
    simp only [act]
    cases h : t.coalescer.ask? id with
    | none => exact .nothing
    | some fc =>
      obtain ⟨f, c⟩ := fc
      obtain ⟨at_, stage, rfl⟩ := Coalescer.ask?_eq_some_iff.1 h
      exact .begin id f at_ stage
  | answer id r =>
    simp only [act]
    cases h : t.coalescer.receive? id r with
    | none => exact .nothing
    | some fc =>
      obtain ⟨f, c⟩ := fc
      obtain ⟨at_, stage, rfl⟩ := Coalescer.receive?_eq_some_iff.1 h
      exact .answer id f r at_ stage
  | conclude id r =>
    simp only [act]
    cases h : t.coalescer.conclude? id r with
    | none => exact .nothing
    | some c =>
      obtain ⟨f, a, at_, stage, rfl⟩ := Coalescer.conclude?_eq_some_iff.1 h
      exact .conclude id f a r at_ stage
  | poll i =>
    simp only [act]
    split
    case h_1 key plan flight at_ =>
      cases known : t.coalescer.result? flight.fetch with
      | none => exact .nothing
      | some r => exact .receive i ⟨key, plan, flight, .waiting⟩ r at_ known
    case h_2 => exact .nothing
  | drop i =>
    simp only [act]
    split
    case h_1 key plan flight at_ => exact .drop i ⟨key, plan, flight, .waiting⟩ at_
    case h_2 => exact .nothing

/-! ## The fetches, whoever holds their flights -/

theorem Step.coalescer {t t' : Traffic σ} (h : t.Step t') :
    t'.coalescer = t.coalescer ∨ t.coalescer.Move t'.coalescer := by
  cases h with
  | nothing | join | receive | drop => exact Or.inl rfl
  | lead key plan free => exact Or.inr (.start key _ free)
  | begin id f at_ stage => exact Or.inr (.advance id f _ at_ (by rw [stage]; rfl) rfl)
  | answer id f r at_ stage =>
    exact Or.inr (Coalescer.receive?_moves (Coalescer.receive?_eq_some_iff.2 ⟨at_, stage, rfl⟩))
  | conclude id f a r at_ stage => exact Or.inr (.finish id f _ at_ (by rw [stage]; rfl))

theorem Step.sound {t t' : Traffic σ} (h : t.Step t') (hs : t.coalescer.Sound) :
    t'.coalescer.Sound := by
  rcases h.coalescer with same | m
  · rw [same]; exact hs
  · exact hs.move m

theorem Step.result? {t t' : Traffic σ} (h : t.Step t') {id : Nat} {r : Except Error Fetched}
    (hr : t.coalescer.result? id = some r) : t'.coalescer.result? id = some r := by
  rcases h.coalescer with same | m
  · rw [same]; exact hr
  · exact m.result? hr

theorem sound_run (es : List (Event σ)) : ((empty : Traffic σ).run es).coalescer.Sound :=
  run_induction (fun t e => (act_step t e).sound) Coalescer.Sound.empty es

end Traffic

end ReadThrough
