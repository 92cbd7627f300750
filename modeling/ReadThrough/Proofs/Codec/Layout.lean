import ReadThrough.Codec.Entry
import ReadThrough.Proofs.Text.Bytes

/-!
# Which bytes are a record

A reader says step by step what it takes. Here the format is written down beside the readers, as a
matter of shape alone: a number is so many groups of seven bits (`Varint.Form`), a time is a tag and
two numbers, a text is its length and its bytes, and a record is its fields in a row (`RecordForm`).
A number may have more groups than it needs, and the fraction of a time may hold whole seconds; a
value therefore has many forms, of which one is written.

A reader accepts a form if it reads whatever has the form, with anything behind it, and reads
nothing else (`Accepts`). That is shown field by field, and of a record by putting its fields in a
row. So exactly the bytes that start with the form of a record are read as one, and among these the
magic is judged before the version (`decodeEntry_exact`).
-/

set_option autoImplicit false

namespace ReadThrough

/-- A reading of the clock is made of any seconds and nanoseconds that come to it. -/
theorem Moment.ofParts?_eq_some_iff {s : Int} {n : Nat} {m : Moment} :
    Moment.ofParts? s n = some m ↔ m.toNanos = s * 1000000000 + n := by
  constructor
  · exact Moment.toNanos_of_ofParts?
  · intro sum
    obtain ⟨t, k, low, high, small⟩ := m
    simp only [Moment.toNanos] at sum
    have seconds : s + ((n / 1000000000 : Nat) : Int) = t := by omega
    have nanos : n % 1000000000 = k := by omega
    unfold Moment.ofParts?
    rw [dif_pos (by rw [seconds]; exact ⟨low, high⟩)]
    simp only [seconds, nanos]

namespace Codec

/-! ## Numbers -/

namespace Varint

/-- What groups of seven bits come to, the lowest group first. The high bit of a byte is no part of
its group. -/
def total : List UInt8 → Nat
  | [] => 0
  | b :: more => b.toNat % 128 + 128 * total more

/-- The bytes are a number of this width: all of them but the last say that another follows, there
are no more than the width has groups, and the last possible one is no larger than it may be. -/
inductive Form (w : Width) : Nat → List UInt8 → Prop
  | groups (more : List UInt8) (last : UInt8) (go_on : ∀ b ∈ more, 128 ≤ b.toNat)
      (stops : last.toNat < 128) (fits : more.length < w.groups)
      (small : more.length + 1 = w.groups → last.toNat ≤ w.lastByte) :
      Form w (total (more ++ [last])) (more ++ [last])

variable {lastByte groups n : Nat} {b : UInt8} {form bytes rest : List UInt8}

theorem Form.last (stops : b.toNat < 128) (small : groups = 0 → b.toNat ≤ lastByte) :
    Form ⟨groups + 1, lastByte⟩ b.toNat [b] := by
  have value : total ([] ++ [b]) = b.toNat := by
    simp only [List.nil_append, total]
    omega
  rw [← value]
  exact .groups [] b (by simp) stops (Nat.succ_pos groups) fun only => small (by simpa using only.symm)

theorem Form.cons (go_on : 128 ≤ b.toNat) (h : Form ⟨groups, lastByte⟩ n form) :
    Form ⟨groups + 1, lastByte⟩ (b.toNat - 128 + 128 * n) (b :: form) := by
  cases h with
  | groups more last others stops fits small =>
    have value : total ((b :: more) ++ [last]) = b.toNat - 128 + 128 * total (more ++ [last]) := by
      have := b.toNat_lt
      simp only [List.cons_append, total]
      omega
    rw [← value]
    refine .groups (b :: more) last ?_ stops (Nat.succ_lt_succ fits) fun full => ?_
    · intro c hc
      rcases List.mem_cons.1 hc with rfl | old
      · exact go_on
      · exact others c old
    · exact small (Nat.succ.inj full)

theorem form_of_readGroups (h : readGroups lastByte groups bytes = .ok (n, rest)) :
    ∃ form, Form ⟨groups, lastByte⟩ n form ∧ bytes = form ++ rest := by
  induction groups generalizing bytes n with
  | zero => cases h
  | succ groups ih =>
    cases bytes with
    | nil => cases h
    | cons b tail =>
      rw [readGroups] at h
      split at h
      case isTrue stops =>
        split at h
        case isTrue => cases h
        case isFalse small =>
          cases h
          exact ⟨[b], .last stops fun only => Nat.le_of_not_lt fun large => small ⟨only, large⟩, rfl⟩
      case isFalse go_on =>
        cases high : readGroups lastByte groups tail with
        | error f =>
          rw [high] at h
          cases h
        | ok p =>
          rw [high] at h
          cases h
          obtain ⟨form, formed, rfl⟩ := ih high
          exact ⟨b :: form, formed.cons (Nat.le_of_not_lt go_on), rfl⟩

theorem readGroups_of_form (h : Form ⟨groups, lastByte⟩ n form) (rest : List UInt8) :
    readGroups lastByte groups (form ++ rest) = .ok (n, rest) := by
  cases h with
  | groups more last go_on stops fits small =>
    induction more generalizing groups with
    | nil =>
      obtain ⟨groups, rfl⟩ := Nat.exists_eq_succ_of_ne_zero (Nat.ne_of_gt fits)
      have whole : ¬(groups = 0 ∧ lastByte < last.toNat) := by
        rintro ⟨rfl, large⟩
        exact Nat.not_le.2 large (small rfl)
      simp only [List.nil_append, List.cons_append, readGroups, if_pos stops, if_neg whole, total,
        Except.ok.injEq, Prod.mk.injEq, and_true]
      omega
    | cons b more ih =>
      obtain ⟨groups, rfl⟩ := Nat.exists_eq_succ_of_ne_zero (Nat.ne_of_gt (Nat.zero_lt_of_lt fits))
      have more_follows : 128 ≤ b.toNat := go_on b List.mem_cons_self
      have high := ih (fun c hc => go_on c (List.mem_cons_of_mem b hc)) (Nat.lt_of_succ_lt_succ fits)
        fun full => small (congrArg Nat.succ full)
      have := b.toNat_lt
      simp only [List.cons_append, readGroups, if_neg (Nat.not_lt.2 more_follows), high, total,
        Except.ok.injEq, Prod.mk.injEq, and_true]
      omega

/-- What is read is below the bound of the width. -/
theorem lt_bound_of_readGroups (h : readGroups lastByte groups bytes = .ok (n, rest)) :
    n < bound lastByte groups := by
  induction groups generalizing bytes n with
  | zero => cases h
  | succ groups ih =>
    have positive : 0 < bound lastByte (groups + 1) := by
      clear h ih
      induction groups with
      | zero => exact Nat.succ_pos lastByte
      | succ groups ih => exact Nat.mul_pos (by decide) ih
    cases bytes with
    | nil => cases h
    | cons b tail =>
      have := b.toNat_lt
      rw [readGroups] at h
      split at h
      case isTrue stops =>
        split at h <;> cases h
        case isFalse small =>
          cases groups with
          | zero => simpa [bound, Nat.lt_succ_iff] using small
          | succ groups =>
            simp only [bound] at positive ⊢
            omega
      case isFalse go_on =>
        cases high : readGroups lastByte groups tail with
        | error f =>
          rw [high] at h
          cases h
        | ok p =>
          rw [high] at h
          cases h
          have below := ih high
          cases groups with
          | zero => cases high
          | succ groups =>
            simp only [bound]
            omega

/-- A number of ten groups is below `2 ^ 64`. -/
theorem lt_of_form_word64 (h : Form word64 n form) : n < 18446744073709551616 := by
  have below := lt_bound_of_readGroups (readGroups_of_form h [])
  simpa only [bound, word64] using below

end Varint

/-! ## Fields -/

/-- A time, or none. Nanoseconds of a billion or more are whole seconds besides; what it comes to
has to be a reading of the clock. -/
inductive TimeForm : Option Moment → List UInt8 → Prop
  | none : TimeForm none [0]
  | some (m : Moment) (seconds nanos : Nat) {front back : List UInt8}
      (counted : Varint.Form Varint.word64 seconds front)
      (fraction : Varint.Form Varint.word32 nanos back)
      (sum : m.toNanos = seconds * 1000000000 + nanos) :
      TimeForm (some m) (1 :: (front ++ back))

/-- A text: the number of its bytes, and these. -/
inductive TextForm (s : String) : List UInt8 → Prop
  | sized {size : List UInt8} (counted : Varint.Form Varint.word64 s.utf8ByteSize size) :
      TextForm s (size ++ s.toUTF8.toList)

/-- A value: its fields in a row. A flag is one byte, 0 or 1. -/
inductive ValueForm (v : Value) : List UInt8 → Prop
  | fields {time text : List UInt8} (timed : TimeForm v.createdAt time)
      (told : TextForm v.payload text) :
      ValueForm v (time ++ (encodeFlag v.volatile ++ (encodeFlag v.absent ++ text)))

/-- A record: the magic, the version, and the value behind them. -/
inductive RecordForm (r : Record) : List UInt8 → Prop
  | enveloped {version value : List UInt8}
      (versioned : Varint.Form Varint.word32 r.version version)
      (valued : ValueForm r.value value) :
      RecordForm r (r.magic.toList ++ (version ++ value))

/-! ## Readers and what they accept -/

/-- The reader reads a thing from bytes that have the form of it, with anything behind them, and
reads nothing else. -/
def Accepts {α : Type} (read : List UInt8 → Except Fault (α × List UInt8))
    (Form : α → List UInt8 → Prop) : Prop :=
  ∀ bytes a rest, read bytes = .ok (a, rest) ↔ ∃ form, Form a form ∧ bytes = form ++ rest

/-- A reader that comes first in a row takes its part and leaves the rest to the others. -/
theorem Accepts.bind_eq_ok_iff {α β : Type} {read : List UInt8 → Except Fault (α × List UInt8)}
    {Form : α → List UInt8 → Prop} (h : Accepts read Form) (bytes : List UInt8)
    (next : α × List UInt8 → Except Fault β) (b : β) :
    (read bytes >>= next) = .ok b ↔
      ∃ a form rest, Form a form ∧ bytes = form ++ rest ∧ next (a, rest) = .ok b := by
  constructor
  · intro both
    cases first : read bytes with
    | error f =>
      rw [first] at both
      cases both
    | ok p =>
      rw [first] at both
      obtain ⟨form, formed, split⟩ := (h bytes p.1 p.2).1 first
      exact ⟨p.1, form, p.2, formed, split, both⟩
  · rintro ⟨a, form, rest, formed, split, then_⟩
    rw [(h bytes a rest).2 ⟨form, formed, split⟩]
    exact then_

theorem accepts_number (w : Varint.Width) : Accepts (Varint.read w) (Varint.Form w) := by
  intro bytes n rest
  constructor
  · exact Varint.form_of_readGroups
  · rintro ⟨form, formed, rfl⟩
    exact Varint.readGroups_of_form formed rest

theorem accepts_magic : Accepts readMagic fun m form => form = m.toList := by
  intro bytes m rest
  constructor
  · intro read
    unfold readMagic at read
    split at read <;> cases read
    exact ⟨_, rfl, rfl⟩
  · rintro ⟨form, rfl, rfl⟩
    rfl

theorem accepts_flag : Accepts readFlag fun b form => form = encodeFlag b := by
  intro bytes b rest
  constructor
  · intro read
    cases bytes with
    | nil => cases read
    | cons c tail =>
      rw [readFlag] at read
      split at read
      case isTrue zero =>
        cases read
        exact ⟨_, rfl, by rw [zero]; rfl⟩
      case isFalse =>
        split at read <;> cases read
        case isTrue one => exact ⟨_, rfl, by rw [one]; rfl⟩
  · rintro ⟨form, rfl, rfl⟩
    cases b <;> rfl

/-- The two numbers of a time, and what follows them. -/
theorem readMoment_eq_ok_iff (bytes : List UInt8) (m : Moment) (rest : List UInt8) :
    readMoment bytes = .ok (m, rest) ↔
      ∃ seconds front nanos back, Varint.Form Varint.word64 seconds front ∧
        Varint.Form Varint.word32 nanos back ∧ m.toNanos = seconds * 1000000000 + nanos ∧
        bytes = front ++ (back ++ rest) := by
  simp only [← Moment.ofParts?_eq_some_iff]
  unfold readMoment
  -- What `ofParts?` does is settled, and it is not to be computed on the way.
  obtain ⟨f, settled⟩ : ∃ f, Moment.ofParts? = f := ⟨_, rfl⟩
  rw [settled]
  simp only [(accepts_number _).bind_eq_ok_iff]
  constructor
  · rintro ⟨seconds, front, _, counted, rfl, nanos, back, tail, fraction, rfl, then_⟩
    cases made : f seconds nanos with
    | none =>
      rw [made] at then_
      cases then_
    | some _ =>
      rw [made] at then_
      cases then_
      exact ⟨seconds, front, nanos, back, counted, fraction, made, rfl⟩
  · rintro ⟨seconds, front, nanos, back, counted, fraction, made, rfl⟩
    refine ⟨seconds, front, back ++ rest, counted, rfl, nanos, back, rest, fraction, rfl, ?_⟩
    rw [made]

theorem accepts_time : Accepts readTime TimeForm := by
  intro bytes t rest
  constructor
  · intro read
    cases bytes with
    | nil => cases read
    | cons b tail =>
      rw [readTime] at read
      split at read
      case isTrue zero =>
        cases read
        exact ⟨_, .none, by rw [zero]; rfl⟩
      case isFalse =>
        split at read
        case isFalse => cases read
        case isTrue one =>
          cases moment : readMoment tail with
          | error f =>
            rw [moment] at read
            cases read
          | ok p =>
            rw [moment] at read
            cases read
            obtain ⟨seconds, front, nanos, back, counted, fraction, sum, rfl⟩ :=
              (readMoment_eq_ok_iff _ _ _).1 moment
            exact ⟨_, .some p.1 seconds nanos counted fraction sum, by
              rw [one, List.cons_append, List.append_assoc]⟩
  · rintro ⟨form, formed, rfl⟩
    cases formed with
    | none => rfl
    | some m seconds nanos counted fraction sum =>
      have moment := (readMoment_eq_ok_iff _ m rest).2
        ⟨seconds, _, nanos, _, counted, fraction, sum, rfl⟩
      show readTime (1 :: (_ ++ _ ++ rest)) = _
      rw [List.append_assoc]
      simp only [readTime, moment]
      rfl

theorem accepts_text : Accepts readText TextForm := by
  intro bytes s rest
  unfold readText
  rw [(accepts_number _).bind_eq_ok_iff]
  constructor
  · rintro ⟨size, front, tail, counted, rfl, then_⟩
    dsimp only at then_
    split at then_
    case isTrue => cases then_
    case isFalse long =>
      cases read : String.fromUTF8? ⟨(tail.take size).toArray⟩ with
      | none =>
        simp only [read] at then_
        cases then_
      | some s' =>
        simp only [read] at then_
        cases then_
        have bytes := fromUTF8?_eq_some_iff.1 read
        have size_eq : s.utf8ByteSize = size := by
          rw [← length_toUTF8, ← bytes, List.length_take]
          omega
        refine ⟨front ++ s.toUTF8.toList, .sized (size_eq ▸ counted), ?_⟩
        rw [← bytes, List.append_assoc, List.take_append_drop]
  · rintro ⟨form, ⟨counted⟩, rfl⟩
    have size := length_toUTF8 s
    refine ⟨s.utf8ByteSize, _, s.toUTF8.toList ++ rest, counted, List.append_assoc .., ?_⟩
    dsimp only
    rw [if_neg (by rw [List.length_append, size]; omega), ← size, List.take_left, List.drop_left,
      fromUTF8?_eq_some_iff.2 rfl]

theorem accepts_value : Accepts readValue ValueForm := by
  intro bytes v rest
  unfold readValue
  simp only [accepts_time.bind_eq_ok_iff, accepts_flag.bind_eq_ok_iff,
    accepts_text.bind_eq_ok_iff]
  constructor
  · rintro ⟨t, time, _, timed, rfl, volatile, _, _, rfl, rfl, absent, _, _, rfl, rfl, s, text, _,
      told, rfl, ⟨⟩⟩
    exact ⟨_, .fields timed told, by simp only [List.append_assoc]⟩
  · rintro ⟨form, ⟨timed, told⟩, rfl⟩
    exact ⟨_, _, _, timed, by simp only [List.append_assoc], _, _, _, rfl, rfl, _, _, _, rfl, rfl,
      _, _, rest, told, rfl, rfl⟩

theorem accepts_record : Accepts readRecord RecordForm := by
  intro bytes r rest
  unfold readRecord
  simp only [accepts_magic.bind_eq_ok_iff, (accepts_number _).bind_eq_ok_iff,
    accepts_value.bind_eq_ok_iff]
  constructor
  · rintro ⟨magic, _, _, rfl, rfl, n, version, _, versioned, rfl, v, value, _, valued, rfl, ⟨⟩⟩
    exact ⟨_, .enveloped versioned valued, by simp only [List.append_assoc]⟩
  · rintro ⟨form, ⟨versioned, valued⟩, rfl⟩
    exact ⟨_, _, _, rfl, by simp only [List.append_assoc], _, _, _, versioned, rfl, _, _, rest,
      valued, rfl, rfl⟩

/-! ## Entries -/

/-- The bytes start with a form of the record. -/
def StartWith (r : Record) (bytes : List UInt8) : Prop := ∃ form, RecordForm r form ∧ form <+: bytes

theorem startWith_iff {r : Record} {bytes : List UInt8} :
    StartWith r bytes ↔ ∃ rest, readRecord bytes = .ok (r, rest) := by
  constructor
  · rintro ⟨form, formed, rest, rfl⟩
    exact ⟨rest, (accepts_record _ r rest).2 ⟨form, formed, rfl⟩⟩
  · rintro ⟨rest, read⟩
    obtain ⟨form, formed, rfl⟩ := (accepts_record _ r rest).1 read
    exact ⟨form, formed, rest, rfl⟩

theorem decodeEntry_of_startWith {r : Record} {bytes : List UInt8} (h : StartWith r bytes) :
    decodeEntry bytes = acceptRecord r := by
  obtain ⟨rest, read⟩ := startWith_iff.1 h
  rw [decodeEntry, read]

theorem decodeEntry_of_not_startWith {bytes : List UInt8} (h : ∀ r, ¬StartWith r bytes) :
    ∃ f : Fault, (decodeEntry bytes).outcome = .failed (.deserialization f.text) := by
  cases read : readRecord bytes with
  | ok p => exact absurd (startWith_iff.2 ⟨p.2, read⟩) (h p.1)
  | error f => exact ⟨f, by rw [decodeEntry, read]⟩

theorem acceptRecord_eq_ok_iff {r : Record} {v : Value} :
    (acceptRecord r).outcome = .ok v ↔ r = ⟨entryMagic, entryVersion, v⟩ := by
  unfold acceptRecord
  constructor
  · intro accepted
    split at accepted
    case isTrue => cases accepted
    case isFalse magic =>
      split at accepted
      case isTrue => cases accepted
      case isFalse version =>
        cases accepted
        obtain ⟨m, n, v⟩ := r
        obtain rfl : m = entryMagic := Decidable.not_not.1 magic
        obtain rfl : n = entryVersion := Decidable.not_not.1 version
        rfl
  · rintro rfl
    rfl

theorem decodeEntry_ok_iff (bytes : List UInt8) (v : Value) :
    (decodeEntry bytes).outcome = .ok v ↔ StartWith ⟨entryMagic, entryVersion, v⟩ bytes := by
  constructor
  · intro accepted
    by_cases start : ∃ r, StartWith r bytes
    · obtain ⟨r, start⟩ := start
      rw [decodeEntry_of_startWith start, acceptRecord_eq_ok_iff] at accepted
      exact accepted ▸ start
    · obtain ⟨f, failed⟩ := decodeEntry_of_not_startWith (not_exists.1 start)
      rw [failed] at accepted
      cases accepted
  · intro start
    rw [decodeEntry_of_startWith start]
    exact acceptRecord_eq_ok_iff.2 rfl

/-- Bytes are an entry exactly if they start with a form of a record that has the magic and the
version of this cache. A record with another magic is refused for that, whatever its version;
one with another version only, for this. All other bytes are no record. -/
theorem decodeEntry_exact (bytes : List UInt8) :
    entryMagic.toList = "CPXY".toUTF8.toList ∧
    (∀ v, (decodeEntry bytes).outcome = .ok v ↔ StartWith ⟨entryMagic, 1, v⟩ bytes) ∧
    (∀ r, StartWith r bytes →
      (r.magic ≠ entryMagic → (decodeEntry bytes).outcome =
        .failed (.invalidEntry ("Invalid magic: expected [67, 80, 88, 89], got " ++ r.magic.text))) ∧
      (r.magic = entryMagic → r.version ≠ 1 →
        (decodeEntry bytes).outcome = .failed (.versionMismatch 1 r.version))) ∧
    ((∀ r, ¬StartWith r bytes) →
      ∃ f : Fault, (decodeEntry bytes).outcome = .failed (.deserialization f.text)) := by
  refine ⟨?_, decodeEntry_ok_iff bytes,
    fun r start => ⟨fun magic => ?_, fun magic version => ?_⟩, decodeEntry_of_not_startWith⟩
  · rw [toList_bytes]
    rfl
  · rw [decodeEntry_of_startWith start, acceptRecord, if_pos magic]
    rfl
  · rw [decodeEntry_of_startWith start, acceptRecord, if_neg (not_not_intro magic),
      if_pos (show r.version ≠ entryVersion from version)]
    rfl

/-- Four letters that are not the magic are reported before a version that is not the right one. -/
theorem decodeEntry_exact_foreign :
    (decodeEntry [67, 80, 88, 90, 2, 0, 0, 0, 0]).outcome =
      .failed (.invalidEntry "Invalid magic: expected [67, 80, 88, 89], got [67, 80, 88, 90]") ∧
    (decodeEntry [67, 80, 88, 89, 2, 0, 0, 0, 0]).outcome = .failed (.versionMismatch 1 2) := by
  have foreign : StartWith ⟨⟨67, 80, 88, 90⟩, 2, ⟨none, false, false, ""⟩⟩
      [67, 80, 88, 90, 2, 0, 0, 0, 0] := startWith_iff.2 ⟨[], rfl⟩
  have newer : StartWith ⟨entryMagic, 2, ⟨none, false, false, ""⟩⟩
      [67, 80, 88, 89, 2, 0, 0, 0, 0] := startWith_iff.2 ⟨[], rfl⟩
  exact ⟨((decodeEntry_exact _).2.2.1 _ foreign).1 (by decide),
    ((decodeEntry_exact _).2.2.1 _ newer).2 rfl (by decide)⟩

end Codec

end ReadThrough
