import Mathlib.Data.List.Induction
import ReadThrough.Proofs.Proxy.Carrying
import ReadThrough.Proofs.Proxy.Failures
import ReadThrough.Proofs.Staleness
import ReadThrough.Proofs.Store.LastWord
import ReadThrough.Simulation.World

/-!
# Durations that lead past the end of the clock

The durations of a policy are longer than any clock, and each of them meets a clock in its own
place. The offsets meet the wall clock where an entry is judged, and a sum past the end is an answer
there: the entry never gets stale. The limit of a wait meets the monotonic clock where a timer is
set: a sum past the end is a wait of thirty years there, but one that ends within the last
millisecond before it (`Moment.Untimeable`) is a crash. A lifetime meets the monotonic clock where
the store sets a deadline, and a sum past the end (`Moment.Overruns`) is a crash there.

What is proved here is that nothing else ever crashes, and what becomes of those crashes. At a desk
whose store is the one in memory, and where no origin crashes, whatever crashes is such a limit or
such a write; and each such write does crash, unless its value cannot be written anyway, and leaves
the store as it was, where an entry that does not expire would have been the natural reading.
Callers crash over their own durations only. A `set` hears of the crash of its write, a fetch that
writes before it answers and a save make an error of it; the crash of a job is seen by nobody, not
in the log either (`Proxy.CrashShown`).
-/

set_option autoImplicit false

namespace ReadThrough

/-! ## Two sums -/

namespace Moment

/-- What is to last this long from now would end where the clock shows nothing any more. -/
def Overruns (now : Moment) (d : Duration) : Prop := endNanos ≤ now.toNanos + d.toNanos

/-- A limit that ends on the clock, but after the last whole millisecond that it shows. -/
def Untimeable (now : Moment) (limit : Duration) : Prop :=
  now.toNanos + limit.toNanos < endNanos ∧ endNanos ≤ now.toNanos + limit.toNanos + 999999

theorem overruns_iff {now : Moment} {d : Duration} : now.Overruns d ↔ now.add? d = none :=
  (add?_eq_none_iff now d).symm

end Moment

open Simulation.World in
/-- A timer cannot be set exactly if the limit is untimeable. -/
theorem Simulation.World.ringsAfter?_eq_none_iff (now : Moment) (limit : Duration) :
    ringsAfter? now limit = none ↔ now.Untimeable limit := by
  unfold ringsAfter?
  cases ends : now.add? limit with
  | none =>
    have overruns : now.Overruns limit := Moment.overruns_iff.2 ends
    simp [Moment.Untimeable, Int.not_lt.2 overruns]
  | some deadline =>
    have sum := Moment.toNanos_of_add? ends
    have within := deadline.toNanos_lt_end
    have millisecond : (roundingUp.toNanos : Int) = 999999 := by decide
    have rounded : deadline.add? roundingUp = none ↔
        Moment.endNanos ≤ now.toNanos + limit.toNanos + 999999 := by
      rw [← Moment.overruns_iff, Moment.Overruns, sum, millisecond]
    rw [Option.map_eq_none_iff, rounded, Moment.Untimeable, ← sum]
    exact (and_iff_right within).symm

/-! ## The store in memory -/

namespace ByteMap

/-- How a write ends, and what is in the store then. -/
inductive WriteEnds (m : ByteMap) (now : Moment) (key : String) (v : Value) (ttl : Duration) :
    Outcome Unit → ByteMap → Prop
  /-- A value made before 1970 has no written form. -/
  | early (made : Moment) (dated : v.createdAt = some made) (before : made < Moment.epoch) :
      WriteEnds m now key v ttl (.failed (.serialization Codec.unwritableText)) m
  /-- There is no deadline to set, and the store is left as it was. -/
  | late (since1970 : ∀ made, v.createdAt = some made → Moment.epoch ≤ made)
      (overruns : now.Overruns ttl) : WriteEnds m now key v ttl (.crashed Moment.endCrash) m
  | kept (since1970 : ∀ made, v.createdAt = some made → Moment.epoch ≤ made)
      (bytes : List UInt8) (encoded : (Codec.encodeEntry v).outcome = .ok bytes)
      (deadline : Moment) (ends : now.add? ttl = some deadline) :
      WriteEnds m now key v ttl (.ok ()) (m.insert key ⟨bytes, some deadline⟩)

theorem writeEnds (m : ByteMap) (now : Moment) {key : String} (some_key : key ≠ "") (v : Value)
    (ttl : Duration) :
    WriteEnds m now key v ttl (keeper.write now key v ttl m).1 (keeper.write now key v ttl m).2 := by
  by_cases early : ∃ made, v.createdAt = some made ∧ made < Moment.epoch
  · obtain ⟨made, dated, before⟩ := early
    have unwritable : Codec.encodeTime? v.createdAt = none := not_not.1 fun writable =>
      (Codec.encodeTime?_ne_none_iff _).1 writable made dated before
    obtain ⟨failed, same⟩ := writeValue_early m now some_key ttl unwritable
    show WriteEnds m now key v ttl (m.writeValue now key v ttl).1.outcome
      (m.writeValue now key v ttl).2
    rw [failed, same]
    exact .early made dated before
  · have since1970 : ∀ made, v.createdAt = some made → Moment.epoch ≤ made :=
      fun made dated before => early ⟨made, dated, before⟩
    obtain ⟨bytes, encoded⟩ := (Codec.exists_encodeEntry_iff v).2 since1970
    have written : keeper.write now key v ttl m = m.write now key (some ttl) bytes :=
      writeValue_of_encoded m now some_key ttl encoded
    rw [written, ByteMap.write, TimedMap.insert?]
    cases ends : now.add? ttl with
    | none => exact .late since1970 (Moment.overruns_iff.2 ends)
    | some deadline => exact .kept since1970 bytes encoded deadline ends

theorem decodeEntry_ne_crashed (bytes : List UInt8) (text : String) :
    (Codec.decodeEntry bytes).outcome ≠ .crashed text := by
  intro crashed
  unfold Codec.decodeEntry Codec.acceptRecord at crashed
  split at crashed
  · split at crashed
    · cases crashed
    · split at crashed <;> cases crashed
  · cases crashed

theorem read_ne_crashed (m : ByteMap) (now : Moment) (key text : String) :
    (keeper.read now key m).1 ≠ .crashed text := by
  intro crashed
  simp only [keeper, readValue, readValueBy, read] at crashed
  split at crashed
  · cases crashed
  · cases found : (m.get (.still now) key).1 with
    | none =>
      simp only [found] at crashed
      cases crashed
    | some bytes =>
      simp only [found] at crashed
      cases outcome : (Codec.decodeEntry bytes).outcome with
      | crashed t => exact decodeEntry_ne_crashed bytes t outcome
      | ok | failed =>
        simp only [outcome] at crashed
        cases crashed

theorem delete_ne_crashed (m : ByteMap) (now : Moment) (key text : String) :
    (keeper.delete now key m).1 ≠ .crashed text := by
  intro crashed
  simp only [keeper, deleteValue, deleteValueBy, delete] at crashed
  split at crashed <;> cases crashed

end ByteMap

/-! ## What a step asks for, and which crash it passes on -/

/-- The policy of a request that has one. -/
def Request.policy? {ω : Type} : Request ω → Option Policy
  | lookup policy _ _ | set policy _ _ => some policy
  | remove _ | drain => none

/-- The text of a crash that the proxy is told of. -/
def Event.crash? {ω : Type} : Event ω → Option String
  | originAnswered _ (.crashed text) | readAnswered _ (.crashed text)
  | writeAnswered _ (.crashed text) | deleteAnswered _ (.crashed text)
  | limitCrashed _ text => some text
  | _ => none

/-- The event tells a caller of a crash that the caller passes on. -/
inductive Event.Strikes {ω : Type} (c : Nat) (text : String) : Event ω → Prop
  | read : Strikes c text (.readAnswered c (.crashed text))
  | write : Strikes c text (.writeAnswered (.caller c) (.crashed text))
  | delete : Strikes c text (.deleteAnswered c (.crashed text))
  | limit : Strikes c text (.limitCrashed c text)

theorem Event.Strikes.crash? {ω : Type} {c : Nat} {text : String} {e : Event ω}
    (h : e.Strikes c text) : e.crash? = some text := by
  cases h <;> rfl

namespace Proxy

variable {ω : Type} {now : Moment} {p p' : Proxy ω} {e : Event ω} {fx : List (Effect ω)}

/-- The caller has asked for this. -/
def Asks (p : Proxy ω) (c : Nat) (r : Request ω) : Prop :=
  ∃ x, p.callers[c]? = some x ∧ x.request = r

/-- A limit is set for a lookup, and its policy says how long. -/
theorem Step.of_limit (step : p.Step now e fx p') {c : Nat} {limit : Duration}
    (set : .limit c limit ∈ fx) :
    ∃ policy key origin, p'.Asks c (.lookup policy key origin) ∧
      policy.waitLimit = some limit := by
  have not_wake : ∀ {gx : List (Effect ω)}, (∀ x ∈ gx, ∃ t, x = .wake t) → .limit c limit ∉ gx := by
    intro gx wakes mem
    obtain ⟨t, e⟩ := wakes _ mem
    cases e
  cases step with
  | force policy key origin p₁ flight fx some_key forced how =>
    obtain ⟨_, e, limits⟩ := limit_of_mem_limitOf
      ((List.mem_append.1 set).resolve_left (not_wake fun _ => how.wakes))
    cases e
    refine ⟨policy, key, origin, ⟨⟨_, .waiting flight⟩, ?_, rfl⟩, limits⟩
    rw [getElem?_addCaller, how.callers, if_pos rfl]
  | miss d policy key origin o p₁ flight fx at_ missing how =>
    obtain ⟨_, e, limits⟩ := limit_of_mem_limitOf
      ((List.mem_append.1 set).resolve_left (not_wake fun _ => how.wakes))
    cases e
    exact ⟨policy, key, origin,
      ⟨_, callers_setStage _ (by rw [how.callers]; exact at_), rfl⟩, limits⟩
  | stale d policy key origin v p₁ flight fx at_ live old how =>
    rcases List.mem_append.1 set with mem | mem
    · exact absurd mem (not_wake fun _ => how.wakes)
    · cases List.mem_singleton.1 mem
  | arrive r fx s how => cases how <;> simp at set
  | settle d x e fx s at_ how => cases how <;> simp at set
  | passOn | failBack =>
    rcases List.mem_append.1 set with mem | mem
    · exact absurd mem (not_wake fun _ => wake_of_mem_poolWakes)
    · exact absurd mem (not_wake fun _ => wake_of_mem_fetchWakes)
  | failThrough | stored => exact absurd set (not_wake fun _ => wake_of_mem_fetchWakes)
  | skip | endJob =>
    rcases List.mem_append.1 set with mem | mem
    · obtain ⟨line, e⟩ := log_of_mem_endLog mem
      cases e
    · exact absurd mem (not_wake fun _ => wake_of_mem_poolWakes)
  | saved =>
    obtain ⟨d, -, e⟩ := List.mem_map.1 set
    cases e
  | again | ask | store | write | save => cases List.mem_singleton.1 set
  | drain | drained | parks | leaveDrain | queue | await => cases set

/-- A write on behalf of a caller is what the caller has asked for. -/
theorem Step.of_write (step : p.Step now e fx p') {c : Nat} {storeKey : String} {v : Value}
    {ttl : Duration} (writes : .write (.caller c) storeKey v ttl ∈ fx) :
    ∃ policy key, p'.Asks c (.set policy key v.payload) ∧ ttl = policy.ttlFor v.payload := by
  obtain ⟨x, rfl, -, orders⟩ := step.orders (d := .write (.caller c)) rfl
    (mem_errands.2 ⟨_, writes, rfl⟩)
  obtain rfl := List.mem_singleton.1 writes
  cases orders with
  | arrive r x s how =>
    cases how with
    | set policy key payload some_key =>
      refine ⟨policy, key, ⟨⟨_, .writing⟩, ?_, rfl⟩, rfl⟩
      rw [getElem?_addCaller, if_pos rfl]
      rfl

/-- Whoever is answered by a crash was told of it in this step. -/
theorem Step.of_crashed (step : p.Step now e fx p') {c : Nat} {text : String}
    (crashed : p'.result? c = some (.crashed text)) :
    p.result? c = some (.crashed text) ∨ e.Strikes c text := by
  obtain ⟨⟨q, _⟩, at_, rfl⟩ := result?_eq_some_iff.1 crashed
  by_cases moved : p'.callers[c]? = p.callers[c]?
  case pos => exact Or.inl (result?_eq_some_iff.2 ⟨_, moved ▸ at_, rfl⟩)
  refine Or.inr ?_
  cases step with
  | arrive r fx s how =>
    obtain ⟨-, e⟩ := newcomer_of_addCaller at_ moved
    cases e
    cases how
  | force policy key origin p₁ flight fx some_key forced how =>
    have callers := how.callers
    obtain ⟨-, e⟩ := newcomer_of_addCaller at_ (by rw [callers]; exact moved)
    cases e
  | drain =>
    obtain ⟨-, e⟩ := newcomer_of_addCaller (p := { p with pool := _ }) at_ moved
    split at e <;> cases e
  | settle d x e fx s here how =>
    obtain ⟨rfl, y, -, e⟩ := mover_of_setStage at_ moved
    cases e
    generalize stood : Caller.Stage.answered (.crashed text) = s at how
    cases how with
    | unread policy key origin r bad =>
      cases r <;> cases stood
      exact .read
    | written q r =>
      cases r <;> cases stood
      exact .write
    | deleted q r =>
      cases r <;> cases stood
      exact .delete
    | crashed q flight text =>
      cases stood
      exact .limit
    | told policy key origin flight r => cases r <;> cases stood
    | saved q i payload x r => cases r <;> cases stood
    | hit | gaveUp | left => cases stood
  | miss d policy key origin o p₁ flight fx here missing how =>
    have callers := how.callers
    obtain ⟨-, y, -, e⟩ := mover_of_setStage at_ (by rw [callers]; exact moved)
    cases e
  | stale d policy key origin v p₁ flight fx here live old how =>
    have callers := how.callers
    obtain ⟨-, y, -, e⟩ :=
      mover_of_setStage (p := { p₁ with pool := _ }) at_ (by rw [← callers] at moved; exact moved)
    cases e
  | again d policy key origin flight a e here =>
    obtain ⟨-, y, -, e⟩ := mover_of_setStage (p := { p with saves := _ }) at_ moved
    cases e
  | drained d q w here | leaveDrain d q w here =>
    obtain ⟨-, y, -, e⟩ := mover_of_setStage (p := { p with pool := _ }) at_ moved
    cases e
  | parks | ask | store | passOn | failThrough | failBack | stored | queue | write | await | skip
  | endJob | save | saved => exact absurd rfl moved

/-! ## What is seen of a write that has crashed -/

/-- What there is to see of the crash of a write, by whom it was made for. A caller that still waits
is answered by the crash. Those who wait for a fetch or for a save get an error. Of a job there is
nothing to see: it is over, no log line says why, and nothing outside the pool has changed. -/
def CrashShown (p : Proxy ω) (fx : List (Effect ω)) (p' : Proxy ω) (text : String) : Task → Prop
  | .caller c => p.stage? c = some .gone ∨ p'.result? c = some (.crashed text)
  | .fetch id => p'.fetches.result? id = some (.error (Coalescer.crashError text))
  | .save i => ∃ x, p'.saves[i]? = some x ∧ x.stage = .ended (.error (saveCrash text))
  | .job j => p'.pool.stage? j = some .ended ∧ (∀ line, .log line ∉ fx) ∧
      p'.callers = p.callers ∧ p'.fetches = p.fetches ∧ p'.saves = p.saves

theorem Step.crashShown (sane : p.Sane) {task : Task} {text : String}
    (step : p.Step now (.writeAnswered task (.crashed text)) fx p') :
    p.CrashShown fx p' text task := by
  cases step with
  | settle c x e fx s at_ how =>
    cases how with
    | written q r => exact Or.inr (result?_setStage at_)
    | told policy key origin flight r e looks => rcases looks with e | e <;> cases e
  | again c policy key origin flight a e at_ looks => rcases looks with e | e <;> cases e
  | stored id f a r at_ stage =>
    refine Coalescer.result?_eq_some_iff.2
      ⟨{ f with stage := .ended (Coalescer.concluded a (.crashed text)) }, ?_, rfl⟩
    rw [Coalescer.getElem?_finish, at_, Option.map_some, if_pos rfl]
  | endJob j work e r pool₁ wakes at_ how finished =>
    cases how with
    | wroteBack storeKey v ttl r =>
      refine ⟨Pool.finish?_stage sane.balanced finished, fun line mem => ?_, rfl, rfl, rfl⟩
      obtain ⟨t, e⟩ := wake_of_mem_poolWakes mem
      cases e
  | saved i x r at_ stage =>
    have there := (List.getElem?_eq_some_iff.1 at_).1
    exact ⟨{ x with stage := .ended (.error (saveCrash text)) },
      by simp [there, Outcome.caught], rfl⟩

end Proxy

/-! ## Runs in which nothing crashes without need -/

/-- What is written for this long, or waited for, ends on the clock. The offsets do not matter. -/
structure Policy.Fits (p : Policy) (now : Moment) : Prop where
  ttl : ¬now.Overruns p.ttl
  emptyTtl : ¬now.Overruns p.emptyTtl
  limit : ∀ limit, p.waitLimit = some limit → ¬now.Untimeable limit

theorem Policy.Fits.ttlFor {p : Policy} {now : Moment} (h : p.Fits now) (payload : String) :
    ¬now.Overruns (p.ttlFor payload) := by
  unfold Policy.ttlFor
  split
  · exact h.emptyTtl
  · exact h.ttl

namespace Desk

variable {σ ω : Type}

/-- In the run the move is made by this clock, when the desk and its store have come to `d`. -/
def Happens (k : Keeper σ) (d₀ : Desk ω × σ) (ms : List (Clocks × Move ω)) (d : Desk ω × σ)
    (c : Clocks) (m : Move ω) : Prop :=
  ∃ earlier later, ms = earlier ++ (c, m) :: later ∧ run k d₀ earlier = d

section Happens

variable {k : Keeper σ} {d₀ d : Desk ω × σ} {ms : List (Clocks × Move ω)} {c : Clocks} {m : Move ω}

theorem Happens.mem (h : Happens k d₀ ms d c m) : (c, m) ∈ ms := by
  obtain ⟨earlier, later, rfl, -⟩ := h
  simp

theorem Happens.append (h : Happens k d₀ ms d c m) (more : List (Clocks × Move ω)) :
    Happens k d₀ (ms ++ more) d c m := by
  obtain ⟨earlier, later, rfl, reached⟩ := h
  exact ⟨earlier, later ++ more, by simp, reached⟩

end Happens

/-- Around the proxy nothing crashes without need: no origin does, and a timer does only over a
limit that is to be set and that it cannot set. -/
structure Sober (d : Desk ω) (c : Clocks) (m : Move ω) : Prop where
  origin : ∀ id text apart, m ≠ .tell (.originAnswered id (.crashed text)) apart
  timer : ∀ caller text apart, m = .tell (.limitCrashed caller text) apart →
    text = Moment.endCrash ∧ ∃ limit, .limit caller limit ∈ d.orders ∧
      Simulation.World.ringsAfter? c.monotonic limit = none

theorem Sober.serve (d : Desk ω) (c : Clocks) (r : Errand) : Sober d c (.serve r) where
  origin _ _ _ tells := by cases tells
  timer _ _ _ tells := by cases tells

theorem Sober.tell (d : Desk ω) (c : Clocks) {e : Event ω}
    (apart : e.errand?.any Errand.forStore = false) (calm : e.crash? = none) :
    Sober d c (.tell e apart) where
  origin _ _ _ tells := by
    cases tells
    cases calm
  timer _ _ _ tells := by
    cases tells
    cases calm

def SoberRun (k : Keeper σ) (d₀ : Desk ω × σ) (ms : List (Clocks × Move ω)) : Prop :=
  ∀ d c m, Happens k d₀ ms d c m → Sober d.1 c m

theorem SoberRun.nil (k : Keeper σ) (d₀ : Desk ω × σ) : SoberRun k d₀ [] := by
  rintro d c m ⟨earlier, later, none, -⟩
  simp at none

theorem SoberRun.cons {k : Keeper σ} {d : Desk ω × σ} {c : Clocks} {m : Move ω}
    {ms : List (Clocks × Move ω)} (first : Sober d.1 c m) (rest : SoberRun k (act k d c m) ms) :
    SoberRun k d ((c, m) :: ms) := by
  rintro d' c' m' ⟨earlier, later, split, reached⟩
  cases earlier with
  | nil =>
    cases split
    cases reached
    exact first
  | cons x earlier =>
    cases split
    exact rest d' c' m' ⟨earlier, later, rfl, reached⟩

/-! ## Where orders come from -/

/-- What is still to be done was asked for in some turn. -/
def Ordered (d : Desk ω) : Prop := ∀ x ∈ d.orders, ∃ t ∈ d.scene.past, x ∈ t.effects

theorem Ordered.tell {d : Desk ω} (h : d.Ordered) (now : Moment) (e : Event ω) :
    (d.tell now e).Ordered := by
  rcases d.tell_cases now e with ⟨-, told⟩ | ⟨p, fx, -, -, told⟩
  · rw [told]
    exact fun x due => h x (mem_of_mem_left due)
  · rw [told]
    intro x due
    rcases List.mem_append.1 due with old | new
    · exact exists_cons (h x (mem_of_mem_left old)) _
    · exact exists_cons_self _ (List.mem_filter.1 new).1

section Run

variable {k : Keeper σ} {keys : KeyScheme} {maxTasks : Nat} {s : σ} {ms : List (Clocks × Move ω)}
  {d : Desk ω × σ} {c : Clocks} {m : Move ω}

theorem Happens.exists_scene (happens : Happens k (start keys maxTasks, s) ms d c m) :
    ∃ es, d.1.scene = (Scene.start keys maxTasks).run es := by
  obtain ⟨earlier, later, -, rfl⟩ := happens
  exact exists_scene_run k (start keys maxTasks, s) earlier

theorem Happens.inOrder (happens : Happens k (start keys maxTasks, s) ms d c m) : d.1.InOrder := by
  obtain ⟨earlier, later, -, rfl⟩ := happens
  exact tell_induction (fun _ now e h => h.tell now e) (inOrder_start keys maxTasks) earlier

theorem Happens.ordered (happens : Happens k (start keys maxTasks, s) ms d c m) : d.1.Ordered := by
  obtain ⟨earlier, later, -, rfl⟩ := happens
  exact tell_induction (fun _ now e h => h.tell now e) (fun x due => by cases due) earlier

/-- Every write that is ordered is for a key that somebody has called with, and lives as long as the
policy of that call says. -/
theorem Happens.policy_of_write (happens : Happens k (start keys maxTasks, s) ms d c m)
    {task : Task} {storeKey : String} {v : Value} {ttl : Duration}
    (due : .write task storeKey v ttl ∈ d.1.orders) :
    storeKey ≠ "" ∧ ∃ r policy, d.1.proxy.Called r ∧ r.policy? = some policy ∧
      ttl = policy.ttlFor v.payload := by
  obtain ⟨t, ht, asked⟩ := happens.ordered _ due
  obtain ⟨es, scene⟩ := happens.exists_scene
  unfold proxy
  rw [scene] at ht ⊢
  have begins : (⟨storeKey, v, ttl⟩ : Write) ∈ begun ((Scene.start keys maxTasks).run es).past :=
    List.mem_flatMap.2 ⟨t, ht, List.mem_filterMap.2 ⟨_, asked, rfl⟩⟩
  obtain ⟨w, hw, same⟩ := List.mem_map.1
    ((Scene.accounted_run keys maxTasks es).books.mem_iff.2 (List.mem_append_left _ begins))
  obtain ⟨rfl, rfl, rfl⟩ : keys.build w.key = storeKey ∧
      (w.write keys).value = v ∧ w.policy.ttlFor w.payload = ttl := by
    cases same
    exact ⟨rfl, rfl, rfl⟩
  obtain ⟨some_key, ⟨-, called⟩ | ⟨-, origin, called⟩⟩ := Scene.called_of_cause keys maxTasks es hw
  · exact ⟨keys.build_ne_empty some_key, _, _, called, rfl, rfl⟩
  · exact ⟨keys.build_ne_empty some_key, _, _, called, rfl, rfl⟩

/-- What is due was asked for in a turn, and what no step takes back since then still holds. -/
theorem Happens.turn_of_due (happens : Happens k (start keys maxTasks, s) ms d c m) {x : Effect ω}
    (due : x ∈ d.1.orders) :
    ∃ t : Turn ω, x ∈ t.effects ∧ t.before.Step t.now t.event t.effects t.after ∧
      ∀ {P : Proxy ω → Prop}, Proxy.Lasting P → P t.after → P d.1.proxy := by
  obtain ⟨t, ht, asked⟩ := happens.ordered _ due
  obtain ⟨es, scene⟩ := happens.exists_scene
  unfold proxy
  rw [scene] at ht ⊢
  have trail := Scene.trail_run keys maxTasks es
  exact ⟨t, asked, (trail.of_mem ht).2, fun lasting h => trail.lasts lasting ht h⟩

/-- A write on behalf of a caller lives as long as the caller's own policy says. -/
theorem Happens.asks_of_write (happens : Happens k (start keys maxTasks, s) ms d c m) {caller : Nat}
    {storeKey : String} {v : Value} {ttl : Duration}
    (due : .write (.caller caller) storeKey v ttl ∈ d.1.orders) :
    ∃ policy key, d.1.proxy.Asks caller (.set policy key v.payload) ∧
      ttl = policy.ttlFor v.payload := by
  obtain ⟨t, asked, step, lasts⟩ := happens.turn_of_due due
  obtain ⟨policy, key, asks, lives⟩ := step.of_write asked
  exact ⟨policy, key, lasts (Proxy.lasting_request caller _) asks, lives⟩

/-- A limit that is set is that of the caller's own policy. -/
theorem Happens.asks_of_limit (happens : Happens k (start keys maxTasks, s) ms d c m) {caller : Nat}
    {limit : Duration} (due : .limit caller limit ∈ d.1.orders) :
    ∃ policy key origin, d.1.proxy.Asks caller (.lookup policy key origin) ∧
      policy.waitLimit = some limit := by
  obtain ⟨t, asked, step, lasts⟩ := happens.turn_of_due due
  obtain ⟨policy, key, origin, asks, limited⟩ := step.of_limit asked
  exact ⟨policy, key, origin, lasts (Proxy.lasting_request caller _) asks, limited⟩

end Run

/-! ## One move -/

/-- What the proxy is told of a crash, and why it had to come: a write whose lifetime overruns, or a
limit that is untimeable. -/
inductive Crashes (d : Desk ω × ByteMap) (c : Clocks) : Move ω → Event ω → Prop
  | write (task : Task) (storeKey : String) (v : Value) (ttl : Duration)
      (due : d.1.order? (.write task) = some (.write task storeKey v ttl))
      (overruns : c.monotonic.Overruns ttl) :
      Crashes d c (.serve (.write task)) (.writeAnswered task (.crashed Moment.endCrash))
  | limit (caller : Nat) (limit : Duration) (due : .limit caller limit ∈ d.1.orders)
      (untimeable : c.monotonic.Untimeable limit)
      (apart : (Event.limitCrashed (ω := ω) caller Moment.endCrash).errand?.any
        Errand.forStore = false) :
      Crashes d c (.tell (.limitCrashed caller Moment.endCrash) apart)
        (.limitCrashed caller Moment.endCrash)

/-- Nothing else crashes. -/
theorem Sober.crashes {d : Desk ω × ByteMap} {c : Clocks} {m : Move ω} {e : Event ω} {text : String}
    (sober : Sober d.1 c m) (some_keys : ∀ task storeKey v ttl,
      .write task storeKey v ttl ∈ d.1.orders → storeKey ≠ "")
    (told : told? ByteMap.keeper d c m = some e) (crash : e.crash? = some text) :
    Crashes d c m e := by
  cases m with
  | tell e' apart =>
    cases told
    cases e with
    | limitCrashed caller text' =>
      obtain ⟨rfl, limit, due, silent⟩ := sober.timer caller text' apart rfl
      have untimeable := (Simulation.World.ringsAfter?_eq_none_iff c.monotonic limit).1 silent
      exact .limit caller limit due untimeable apart
    | originAnswered id r =>
      cases r with
      | crashed text' => exact absurd rfl (sober.origin id text' apart)
      | ok | failed => cases crash
    | readAnswered | writeAnswered | deleteAnswered => cases apart
    | request | resume | limitPassed | abandoned => cases crash
  | serve r =>
    obtain ⟨⟨e', s⟩, served, rfl⟩ := Option.map_eq_some_iff.1 told
    obtain ⟨x, due, carried⟩ := Option.bind_eq_some_iff.1 served
    have mem := List.mem_of_find?_eq_some due
    have own : x.errand? = some r := by simpa using List.find?_some due
    cases x with
    | read caller key =>
      cases carried
      cases outcome : (ByteMap.keeper.read c.monotonic key d.2).1 with
      | crashed t => exact absurd outcome (ByteMap.read_ne_crashed d.2 c.monotonic key t)
      | ok | failed =>
        rw [outcome] at crash
        cases crash
    | delete caller key =>
      cases carried
      cases outcome : (ByteMap.keeper.delete c.monotonic key d.2).1 with
      | crashed t => exact absurd outcome (ByteMap.delete_ne_crashed d.2 c.monotonic key t)
      | ok | failed =>
        rw [outcome] at crash
        cases crash
    | write task storeKey v ttl =>
      cases own
      cases carried
      have ends := ByteMap.writeEnds d.2 c.monotonic (some_keys _ _ _ _ mem) v ttl
      generalize (ByteMap.keeper.write c.monotonic storeKey v ttl d.2).1 = o at *
      generalize (ByteMap.keeper.write c.monotonic storeKey v ttl d.2).2 = s at *
      cases ends with
      | late since1970 overruns => exact .write task storeKey v ttl due overruns
      | early | kept => cases crash
    | wake | ask | limit | log => cases carried

/-- What is ordered of the store, somebody waits for, or it is for a caller that has left. -/
theorem InOrder.crashShown {d : Desk ω} (h : d.InOrder) {task : Task} {x : Effect ω}
    (due : d.order? (.write task) = some x) (now : Moment) (text : String) :
    d.proxy.CrashShown (d.asks now (.writeAnswered task (.crashed text)))
      (d.tell now (.writeAnswered task (.crashed text))).proxy text task := by
  have listed : .write task ∈ d.scene.due := by
    rw [← h.listed]
    exact mem_errands.2 ⟨x, List.mem_of_find?_eq_some due, by simpa using List.find?_some due⟩
  rcases (h.orderly _ rfl listed).2 with needed | ⟨c, caller, gone⟩
  · obtain ⟨p, fx, moves⟩ := Proxy.step_of_next? h.sane needed
      (e := .writeAnswered task (.crashed text)) rfl now
    have shown := (Proxy.step_cases moves).crashShown h.sane
    have after : (d.tell now (.writeAnswered task (.crashed text))).proxy = p :=
      Scene.act_proxy moves
    have asks : d.asks now (.writeAnswered task (.crashed text)) = fx := by
      show ((d.proxy.step now _).elim [] (·.2)) = fx
      rw [show d.proxy.step now _ = _ from moves]
      rfl
    rw [after, asks]
    exact shown
  · obtain rfl : task = .caller c := caller
    exact Or.inl gone

/-- Whoever still waits is answered by the crash of its limit. -/
theorem result?_of_limitCrashed {d : Desk ω} {caller : Nat} {flight : Flight}
    (waits : d.proxy.stage? caller = some (.waiting flight)) (now : Moment) (text : String) :
    (d.tell now (.limitCrashed caller text)).proxy.result? caller = some (.crashed text) := by
  obtain ⟨r, at_⟩ := Proxy.stage?_eq_some_iff.1 waits
  have moves : d.proxy.step now (.limitCrashed caller text) =
      some (d.proxy.setStage caller (.answered (.crashed text)), []) := by
    show d.proxy.limitCrashed? caller text = _
    simp only [Proxy.limitCrashed?, waits]
  have after : (d.tell now (.limitCrashed caller text)).proxy = _ := Scene.act_proxy moves
  rw [after]
  exact Proxy.result?_setStage at_

/-! ## A whole run -/

section Run

variable {k : Keeper σ} {keys : KeyScheme} {maxTasks : Nat} {s : σ} {ms : List (Clocks × Move ω)}
  {d : Desk ω × σ} {c : Clocks} {m : Move ω}

/-- What no step takes back still holds at the end of a run. -/
theorem Happens.lasts {P : Proxy ω → Prop} (lasting : Proxy.Lasting P)
    (happens : Happens k (start keys maxTasks, s) ms d c m) (h : P d.1.proxy) :
    P (run k (start keys maxTasks, s) ms).1.proxy := by
  have order := happens.inOrder
  obtain ⟨earlier, later, rfl, rfl⟩ := happens
  rw [run, List.foldl_append]
  refine (tell_induction (P := fun d => d.InOrder ∧ P d.proxy) ?_ ⟨order, h⟩ ((c, m) :: later)).2
  rintro d now e ⟨order, h⟩
  refine ⟨order.tell now e, ?_⟩
  rcases d.tell_cases now e with ⟨-, told⟩ | ⟨p, fx, -, step, told⟩
  · rw [told]
    exact h
  · rw [told]
    exact lasting order.sane step h

/-- Whoever is answered by a crash was told of it in some move. -/
theorem exists_strike {i : Nat} {text : String}
    (crashed : (run k (start keys maxTasks, s) ms).1.proxy.result? i = some (.crashed text)) :
    ∃ d c m e, Happens k (start keys maxTasks, s) ms d c m ∧ told? k d c m = some e ∧
      e.Strikes i text := by
  induction ms using List.reverseRecOn with
  | nil => cases crashed
  | append_singleton ms x ih =>
    obtain ⟨c, m⟩ := x
    by_cases before : (run k (start keys maxTasks, s) ms).1.proxy.result? i = some (.crashed text)
    case pos =>
      obtain ⟨d, c', m', e, happens, told, strikes⟩ := ih before
      exact ⟨d, c', m', e, happens.append [(c, m)], told, strikes⟩
    rw [run, List.foldl_append] at crashed
    change (act k (run k (start keys maxTasks, s) ms) c m).1.proxy.result? i = _ at crashed
    rw [act_fst] at crashed
    cases told : told? k (run k (start keys maxTasks, s) ms) c m with
    | none =>
      rw [told] at crashed
      exact absurd crashed before
    | some e =>
      rw [told, Option.elim_some] at crashed
      rcases (run k (start keys maxTasks, s) ms).1.tell_cases c.wall e with
        ⟨-, after⟩ | ⟨p, fx, -, step, after⟩
      · rw [after] at crashed
        exact absurd crashed before
      · rw [after] at crashed
        exact ⟨_, c, m, e, ⟨ms, [], rfl, rfl⟩, told, (step.of_crashed crashed).resolve_left before⟩

end Run

/-! ## What is promised -/

/-- The call of somebody who is answered by a crash, and the duration of its own that it crashed
over, at some time of the run. -/
inductive Overstretched (p : Proxy ω) (ms : List (Clocks × Move ω)) (i : Nat) : Prop
  | set (policy : Policy) (key payload : String) (asks : p.Asks i (.set policy key payload))
      (overruns : ∃ m ∈ ms, m.1.monotonic.Overruns (policy.ttlFor payload))
  | lookup (policy : Policy) (key : String) (origin : ω)
      (asks : p.Asks i (.lookup policy key origin)) (limit : Duration)
      (limited : policy.waitLimit = some limit)
      (untimeable : ∃ m ∈ ms, m.1.monotonic.Untimeable limit)

/-- What crashes over a run on the store in memory. -/
structure OnlyOverrunsCrash (d₀ : Desk ω × ByteMap) (ms : List (Clocks × Move ω)) : Prop where
  /-- Every write lives as long as a policy says that somebody has called with. If its value can be
  written at all, it crashes exactly if that leads past the end of the clock, and the store is then
  as it was. -/
  writes : ∀ d c task storeKey v ttl, Happens ByteMap.keeper d₀ ms d c (.serve (.write task)) →
    d.1.order? (.write task) = some (.write task storeKey v ttl) →
      (∃ r policy, d.1.proxy.Called r ∧ r.policy? = some policy ∧ ttl = policy.ttlFor v.payload) ∧
      ∃ r m, act ByteMap.keeper d c (.serve (.write task)) =
          (d.1.tell c.wall (.writeAnswered task r), m) ∧
        ByteMap.WriteEnds d.2 c.monotonic storeKey v ttl r m
  /-- What is to be seen of such a crash depends on whose write it was. -/
  shown : ∀ d c task text, Happens ByteMap.keeper d₀ ms d c (.serve (.write task)) →
    told? ByteMap.keeper d c (.serve (.write task)) = some (.writeAnswered task (.crashed text)) →
      d.1.proxy.CrashShown (d.1.asks c.wall (.writeAnswered task (.crashed text)))
        (act ByteMap.keeper d c (.serve (.write task))).1.proxy text task
  /-- Every limit is that of the caller's own policy. -/
  limits : ∀ d c m caller limit, Happens ByteMap.keeper d₀ ms d c m →
    .limit caller limit ∈ d.1.orders → ∃ policy key origin,
      d.1.proxy.Asks caller (.lookup policy key origin) ∧ policy.waitLimit = some limit
  /-- One that cannot be set is a crash for the caller if it still waits. -/
  struck : ∀ d c caller text apart flight,
    Happens ByteMap.keeper d₀ ms d c (.tell (.limitCrashed caller text) apart) →
    d.1.proxy.stage? caller = some (.waiting flight) →
      (act ByteMap.keeper d c (.tell (.limitCrashed caller text) apart)).1.proxy.result? caller =
        some (.crashed text)
  /-- Nothing but these writes and limits ever crashes. -/
  crashes : ∀ d c m e text, Happens ByteMap.keeper d₀ ms d c m →
    told? ByteMap.keeper d c m = some e → e.crash? = some text → Crashes d c m e
  /-- Nobody crashes over a duration that is not its own. -/
  callers : ∀ i text, (run ByteMap.keeper d₀ ms).1.proxy.result? i = some (.crashed text) →
    text = Moment.endCrash ∧ Overstretched (run ByteMap.keeper d₀ ms).1.proxy ms i
  /-- While all policies fit, nothing crashes at all. -/
  fitting : (∀ r policy, (run ByteMap.keeper d₀ ms).1.proxy.Called r → r.policy? = some policy →
      ∀ m ∈ ms, policy.Fits m.1.monotonic) →
    (∀ d c m e, Happens ByteMap.keeper d₀ ms d c m → told? ByteMap.keeper d c m = some e →
      e.crash? = none) ∧
    ∀ i text, (run ByteMap.keeper d₀ ms).1.proxy.result? i ≠ some (.crashed text)

section Memory

variable {keys : KeyScheme} {maxTasks : Nat} {store : ByteMap} {ms : List (Clocks × Move ω)}
  {d : Desk ω × ByteMap} {c : Clocks} {m : Move ω}

theorem Happens.crashes {e : Event ω} {text : String}
    (happens : Happens ByteMap.keeper (start keys maxTasks, store) ms d c m)
    (sober : SoberRun ByteMap.keeper (start keys maxTasks, store) ms)
    (told : told? ByteMap.keeper d c m = some e) (crash : e.crash? = some text) :
    Crashes d c m e :=
  (sober d c m happens).crashes (fun _ _ _ _ due => (happens.policy_of_write due).1) told crash

/-- Whoever is told of a crash that it passes on has asked for too long a time itself. -/
theorem Happens.overstretched {e : Event ω} {i : Nat} {text : String}
    (happens : Happens ByteMap.keeper (start keys maxTasks, store) ms d c m)
    (crashes : Crashes d c m e) (strikes : e.Strikes i text) :
    text = Moment.endCrash ∧
      Overstretched (run ByteMap.keeper (start keys maxTasks, store) ms).1.proxy ms i := by
  cases crashes with
  | write task storeKey v ttl due overruns =>
    cases strikes
    obtain ⟨policy, key, asks, rfl⟩ := happens.asks_of_write (List.mem_of_find?_eq_some due)
    exact ⟨rfl, .set policy key v.payload (happens.lasts (Proxy.lasting_request i _) asks)
      ⟨_, happens.mem, overruns⟩⟩
  | limit caller limit due untimeable apart =>
    cases strikes
    obtain ⟨policy, key, origin, asks, limited⟩ := happens.asks_of_limit due
    exact ⟨rfl, .lookup policy key origin (happens.lasts (Proxy.lasting_request i _) asks)
      limit limited ⟨_, happens.mem, untimeable⟩⟩

/-- What crashes does not fit. -/
theorem Happens.not_crashes {e : Event ω}
    (happens : Happens ByteMap.keeper (start keys maxTasks, store) ms d c m)
    (fitting : ∀ r policy, (run ByteMap.keeper (start keys maxTasks, store) ms).1.proxy.Called r →
      r.policy? = some policy → policy.Fits c.monotonic) : ¬Crashes d c m e := by
  intro crashes
  cases crashes with
  | write task storeKey v ttl due overruns =>
    obtain ⟨-, r, policy, called, own, rfl⟩ :=
      happens.policy_of_write (List.mem_of_find?_eq_some due)
    exact (fitting r policy (happens.lasts (Proxy.lasting_called r) called) own).ttlFor _ overruns
  | limit caller limit due untimeable apart =>
    obtain ⟨policy, key, origin, asks, limited⟩ := happens.asks_of_limit due
    obtain ⟨x, at_, same⟩ := happens.lasts (Proxy.lasting_request caller _) asks
    exact (fitting _ policy ⟨caller, x, at_, same⟩ rfl).limit limit limited untimeable

/-- **Nothing but a duration that leads past the end of the clock crashes.** Over every run on the
store in memory, whatever is asked for and whatever the clocks show, and while no origin crashes: a
write of a value that can be written crashes exactly if the lifetime that its policy gives it leads
past the end of the monotonic clock, and it then leaves the store as it was; a limit crashes only
within the last millisecond before that end; and each caller hears of no crash but its own. While
the policies fit the clock, nothing crashes. -/
theorem only_overruns_crash (keys : KeyScheme) (maxTasks : Nat) (store : ByteMap)
    (ms : List (Clocks × Move ω))
    (sober : SoberRun ByteMap.keeper (start keys maxTasks, store) ms) :
    OnlyOverrunsCrash (start keys maxTasks, store) ms where
  writes d c task storeKey v ttl happens due := by
    obtain ⟨some_key, policy⟩ := happens.policy_of_write (List.mem_of_find?_eq_some due)
    refine ⟨policy, _, _, ?_, ByteMap.writeEnds d.2 c.monotonic some_key v ttl⟩
    simp only [act, due, Option.bind_some, Keeper.carryOut]
  shown d c task text happens told := by
    obtain ⟨⟨e, s⟩, served, -⟩ := Option.map_eq_some_iff.1 told
    obtain ⟨x, due, -⟩ := Option.bind_eq_some_iff.1 served
    rw [act_fst, told, Option.elim_some]
    exact happens.inOrder.crashShown due c.wall text
  limits d c m caller limit happens due := happens.asks_of_limit due
  struck d c caller text apart flight _ waits := result?_of_limitCrashed waits c.wall text
  crashes d c m e text happens told crash := happens.crashes sober told crash
  callers i text crashed := by
    obtain ⟨d, c, m, e, happens, told, strikes⟩ := exists_strike crashed
    exact happens.overstretched (happens.crashes sober told strikes.crash?) strikes
  fitting fits := by
    have none : ∀ d c m e, Happens ByteMap.keeper (start keys maxTasks, store) ms d c m →
        told? ByteMap.keeper d c m = some e → e.crash? = none := by
      intro d c m e happens told
      refine Option.eq_none_iff_forall_ne_some.2 fun text crash => ?_
      exact happens.not_crashes (fun r policy called own => fits r policy called own _ happens.mem)
        (happens.crashes sober told crash)
    refine ⟨none, fun i text crashed => ?_⟩
    obtain ⟨d, c, m, e, happens, told, strikes⟩ := exists_strike crashed
    exact absurd ((none d c m e happens told).symm.trans strikes.crash?) (by simp)

end Memory

/-- To be kept for longer than any clock shows. -/
def forever : Policy := { Policy.default with ttl := .ofSeconds 18446744073709551615 }

/-- To be waited for until just before the end. -/
def patiently : Policy :=
  { Policy.default with waitLimit := Duration.ofNanos? 9223372036854775807999999999 }

/-- A `set` for ever, a miss whose write is for ever, and a miss that waits until just before the
end. -/
def stretched : List (Clocks × Move String) :=
  [(⟨.epoch, .epoch⟩, .tell (.request (.set forever "k" "v")) rfl),
    (⟨.epoch, .epoch⟩, .serve (.write (.caller 0))),
    (⟨.epoch, .epoch⟩, .tell (.request (.lookup forever "k" "origin")) rfl),
    (⟨.epoch, .epoch⟩, .serve (.read 1)),
    (⟨.epoch, .epoch⟩, .tell (.resume (.fetch 0)) rfl),
    (⟨.epoch, .epoch⟩, .tell (.originAnswered 0 (.ok (.steady "v"))) rfl),
    (⟨.epoch, .epoch⟩, .tell (.resume (.caller 1)) rfl),
    (⟨.epoch, .epoch⟩, .tell (.resume (.job 0)) rfl),
    (⟨.epoch, .epoch⟩, .serve (.write (.job 0))),
    (⟨.epoch, .epoch⟩, .tell (.request (.lookup patiently "m" "origin")) rfl),
    (⟨.epoch, .epoch⟩, .serve (.read 2)),
    (⟨.epoch, .epoch⟩, .tell (.limitCrashed 2 Moment.endCrash) rfl)]

theorem soberRun_stretched :
    SoberRun ByteMap.keeper (start ⟨none⟩ 1, Table.empty) stretched := by
  refine .cons (.tell _ _ _ rfl) <| .cons (.serve ..) <| .cons (.tell _ _ _ rfl) <|
    .cons (.serve ..) <| .cons (.tell _ _ _ rfl) <| .cons (.tell _ _ _ rfl) <|
    .cons (.tell _ _ _ rfl) <| .cons (.tell _ _ _ rfl) <| .cons (.serve ..) <|
    .cons (.tell _ _ _ rfl) <| .cons (.serve ..) <| .cons ⟨?_, ?_⟩ (.nil _ _)
  · intro id text apart tells
    cases tells
  · intro caller text apart tells
    cases tells
    exact ⟨rfl, ⟨9223372036854775807, 999999999, by decide, by decide⟩,
      List.mem_of_getElem? (i := 1) rfl, by decide⟩

/-- When the write of the job is all that the store has to do. -/
def beforeJob : Desk String × ByteMap :=
  run ByteMap.keeper (start ⟨none⟩ 1, Table.empty) (stretched.take 8)

/-- Both callers who are answered by a crash have asked for too much, and nothing is to be seen of
the crash of the job. -/
theorem only_overruns_crash_stretched :
    let s := run ByteMap.keeper (start ⟨none⟩ 1, Table.empty) stretched
    let job : Event String := .writeAnswered (.job 0) (.crashed Moment.endCrash)
    Overstretched s.1.proxy stretched 0 ∧ Overstretched s.1.proxy stretched 2 ∧
      beforeJob.1.proxy.CrashShown (beforeJob.1.asks .epoch job) (beforeJob.1.tell .epoch job).proxy
        Moment.endCrash (.job 0) := by
  intro s job
  have only := only_overruns_crash ⟨none⟩ 1 Table.empty stretched soberRun_stretched
  have happens : Happens ByteMap.keeper (start ⟨none⟩ 1, Table.empty) stretched beforeJob
      ⟨.epoch, .epoch⟩ (.serve (.write (.job 0))) :=
    ⟨stretched.take 8, stretched.drop 9, rfl, rfl⟩
  exact ⟨(only.callers 0 Moment.endCrash rfl).2, (only.callers 2 Moment.endCrash rfl).2,
    only.shown beforeJob ⟨.epoch, .epoch⟩ (.job 0) Moment.endCrash happens rfl⟩

/-- The origin has answered, and yet the `set` and the lookup that waits crash; and so does the
write of the other lookup, which has its answer and whose entry nobody will find. -/
theorem answered_origin_crashes :
    SoberRun ByteMap.keeper (start ⟨none⟩ 1, Table.empty) stretched ∧
    let s := run ByteMap.keeper (start ⟨none⟩ 1, Table.empty) stretched
    s.1.proxy.result? 0 = some (.crashed Moment.endCrash) ∧
      s.1.proxy.result? 1 = some (.ok (.found "v" false)) ∧
      told? ByteMap.keeper beforeJob ⟨.epoch, .epoch⟩ (.serve (.write (.job 0))) =
        some (.writeAnswered (.job 0) (.crashed Moment.endCrash)) ∧
      s.1.proxy.result? 2 = some (.crashed Moment.endCrash) ∧ s.2 = Table.empty :=
  ⟨soberRun_stretched, rfl, rfl, rfl, rfl, rfl⟩

end Desk

end ReadThrough
