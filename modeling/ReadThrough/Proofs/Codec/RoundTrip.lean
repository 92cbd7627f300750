import ReadThrough.Proofs.Codec.Layout

/-!
# What is written as an entry is read back

Writing a value as bytes loses nothing: the bytes of an entry are read as the value they were made
of, whatever follows them (`decodeEntry_append`). For what is written has the form of a record,
field by field, and whatever has this form is read. Two bounds come in here. A time before 1970 is
never written, and the length of a text is a number of 64 bits.

The other way round, whatever has been read can be written and is read again as the same value
(`codec_round_trip`), though it may take fewer bytes than before.
-/

set_option autoImplicit false

namespace ReadThrough

theorem Moment.epoch_le_iff (m : Moment) : Moment.epoch ≤ m ↔ 0 ≤ m.seconds := by
  have := m.nanos_lt
  rw [Moment.le_iff]
  simp only [Moment.epoch, Moment.ofSeconds, Moment.toNanos]
  omega

/-- The time since second zero is what a reading denotes. -/
theorem Moment.toNanos_of_sinceEpoch? {m : Moment} {d : Duration} (h : m.sinceEpoch? = some d) :
    m.toNanos = d.seconds * 1000000000 + d.nanos := by
  unfold Moment.sinceEpoch? at h
  split at h <;> cases h
  case isTrue late =>
    simp only [Moment.since, Moment.toNanos, Moment.epoch, Moment.ofSeconds]
    omega

namespace Codec

/-! ## What is written has the form -/

theorem Varint.form_encode {w : Varint.Width} {n : Nat}
    (back : ∀ rest, Varint.read w (Varint.encode n ++ rest) = .ok (n, rest)) :
    Varint.Form w n (Varint.encode n) := by
  obtain ⟨form, formed, same⟩ := (accepts_number w _ n []).1 (back [])
  rw [List.append_nil, List.append_nil] at same
  rw [same]
  exact formed

/-- A time has no written form exactly if it lies before 1970. -/
theorem encodeTime?_eq_none_iff (t : Option Moment) :
    encodeTime? t = none ↔ t.any (·.seconds < 0) = true := by
  cases t with
  | none => simp [encodeTime?]
  | some m =>
    simp only [Option.any_some, decide_eq_true_eq, encodeTime?, Option.map_eq_none_iff,
      Moment.sinceEpoch?]
    split
    case isTrue late => simpa using late
    case isFalse early => simpa using early

theorem encodeTime?_ne_none_iff (t : Option Moment) :
    encodeTime? t ≠ none ↔ ∀ m, t = some m → Moment.epoch ≤ m := by
  rw [Ne, encodeTime?_eq_none_iff]
  cases t <;> simp [Moment.epoch_le_iff]

theorem timeForm_of_encodeTime? {t : Option Moment} {bytes : List UInt8}
    (written : encodeTime? t = some bytes) : TimeForm t bytes := by
  cases t with
  | none =>
    cases written
    exact .none
  | some m =>
    obtain ⟨d, since, rfl⟩ := Option.map_eq_some_iff.1 written
    have small : d.nanos < 4294967296 := Nat.lt_trans d.nanos_lt (by decide)
    exact .some m d.seconds d.nanos (Varint.form_encode (Varint.read_word64_encode d.seconds_lt))
      (Varint.form_encode (Varint.read_word32_encode small)) (Moment.toNanos_of_sinceEpoch? since)

theorem textForm_encodeText {s : String} (fits : s.utf8ByteSize < 18446744073709551616) :
    TextForm s (encodeText s) :=
  .sized (Varint.form_encode (Varint.read_word64_encode fits))

theorem valueForm_of_encodeValue? {v : Value} {bytes : List UInt8}
    (fits : v.payload.utf8ByteSize < 18446744073709551616)
    (written : encodeValue? v = some bytes) : ValueForm v bytes := by
  obtain ⟨time, timed, rfl⟩ := Option.map_eq_some_iff.1 written
  rw [List.append_assoc, List.append_assoc]
  exact .fields (timeForm_of_encodeTime? timed) (textForm_encodeText fits)

theorem recordForm_of_encode? {r : Record} {bytes : List UInt8} (version : r.version < 4294967296)
    (fits : r.value.payload.utf8ByteSize < 18446744073709551616)
    (written : r.encode? = some bytes) : RecordForm r bytes := by
  obtain ⟨value, valued, rfl⟩ := Option.map_eq_some_iff.1 written
  rw [List.append_assoc]
  exact .enveloped (Varint.form_encode (Varint.read_word32_encode version))
    (valueForm_of_encodeValue? fits valued)

/-! ## Entries -/

/-- What is written as an entry has the form of its record. -/
theorem recordForm_of_encodeEntry {v : Value}
    (fits : v.payload.utf8ByteSize < 18446744073709551616) {bytes : List UInt8}
    (written : (encodeEntry v).outcome = .ok bytes) :
    RecordForm ⟨entryMagic, entryVersion, v⟩ bytes := by
  unfold encodeEntry at written
  split at written <;> cases written
  case h_1 encoded => exact recordForm_of_encode? (show 1 < 4294967296 by decide) fits encoded

/-- The bytes of an entry are read as its value, whatever follows them. -/
theorem decodeEntry_append {v : Value} (fits : v.payload.utf8ByteSize < 18446744073709551616)
    {bytes : List UInt8} (written : (encodeEntry v).outcome = .ok bytes) (rest : List UInt8) :
    decodeEntry (bytes ++ rest) = .quiet (.ok v) := by
  have form := recordForm_of_encodeEntry fits written
  rw [decodeEntry_of_startWith ⟨bytes, form, rest, rfl⟩]
  rfl

/-- A value can be written unless it was made before 1970. -/
theorem exists_encodeEntry_iff (v : Value) :
    (∃ bytes, (encodeEntry v).outcome = .ok bytes) ↔
      ∀ t, v.createdAt = some t → Moment.epoch ≤ t := by
  have written : (∃ bytes, (encodeEntry v).outcome = .ok bytes) ↔
      ¬encodeTime? v.createdAt = none := by
    cases time : encodeTime? v.createdAt <;>
      simp [encodeEntry, Record.encode?, encodeValue?, time, Reply.quiet]
  rw [written]
  exact encodeTime?_ne_none_iff v.createdAt

/-- A value whose time can be written is written as bytes, and read back from them. -/
theorem decodeEntry_of_encodeEntry (v : Value)
    (fits : v.payload.utf8ByteSize < 18446744073709551616) :
    (∃ bytes, encodeEntry v = .quiet (.ok bytes) ∧ decodeEntry bytes = .quiet (.ok v)) ∨
      (encodeTime? v.createdAt = none ∧
        (encodeEntry v).outcome = .failed (.serialization unwritableText)) := by
  cases time : encodeTime? v.createdAt with
  | none =>
    refine Or.inr ⟨rfl, ?_⟩
    simp [encodeEntry, Record.encode?, encodeValue?, time]
  | some t =>
    obtain ⟨bytes, written⟩ : ∃ bytes, encodeEntry v = .quiet (.ok bytes) := by
      simp only [encodeEntry, Record.encode?, encodeValue?, time, Option.map_some]
      exact ⟨_, rfl⟩
    have read := decodeEntry_append fits (congrArg Reply.outcome written) []
    rw [List.append_nil] at read
    exact Or.inl ⟨bytes, written, read⟩

/-! ## Writing what has been read -/

/-- What has the form of a value was not written before 1970, and its payload has a length. -/
theorem ValueForm.writable {v : Value} {form : List UInt8} (h : ValueForm v form) :
    (∀ t, v.createdAt = some t → Moment.epoch ≤ t) ∧
      v.payload.utf8ByteSize < 18446744073709551616 := by
  obtain ⟨timed, ⟨counted⟩⟩ := h
  refine ⟨fun t made => ?_, Varint.lt_of_form_word64 counted⟩
  rw [made] at timed
  cases timed with
  | some _ seconds nanos _ _ sum =>
    rw [Moment.le_iff, sum]
    show (0 : Int) ≤ _
    omega

/-- A value can be written, and what is written is read as this value with anything behind it,
unless it was made before 1970. What has been read can be written and is read again as the same
value, though the bytes of it need not be those that were read. -/
theorem codec_round_trip :
    (∀ v : Value, v.payload.utf8ByteSize < 18446744073709551616 →
      ((∃ bytes, (encodeEntry v).outcome = .ok bytes) ↔
        ∀ t, v.createdAt = some t → Moment.epoch ≤ t) ∧
      ∀ bytes, (encodeEntry v).outcome = .ok bytes →
        ∀ rest, (decodeEntry (bytes ++ rest)).outcome = .ok v) ∧
    (∀ bytes v, (decodeEntry bytes).outcome = .ok v →
      ∃ again, (encodeEntry v).outcome = .ok again ∧ (decodeEntry again).outcome = .ok v) := by
  refine ⟨fun v fits => ⟨exists_encodeEntry_iff v, fun bytes written rest => ?_⟩,
    fun bytes v read => ?_⟩
  · rw [decodeEntry_append fits written]
    rfl
  · obtain ⟨form, ⟨versioned, valued⟩, -⟩ := ((decodeEntry_ok_iff bytes v).1 read)
    obtain ⟨since1970, fits⟩ := valued.writable
    obtain ⟨again, written⟩ := (exists_encodeEntry_iff v).2 since1970
    have back := decodeEntry_append fits written []
    rw [List.append_nil] at back
    exact ⟨again, written, by rw [back]; rfl⟩

/-- Five seconds and two billion and seven nanoseconds, with a version and a length of more groups
than they need and a byte behind the record: it is read as seven seconds and seven nanoseconds,
which are written and read again. -/
theorem codec_round_trip_redundant :
    let v : Value := ⟨some ⟨7, 7, by decide, by decide, by decide⟩, false, true, "hi"⟩
    let bytes :=
      [67, 80, 88, 89, 129, 0, 1, 5, 135, 168, 214, 185, 7, 0, 1, 130, 0, 104, 105, 9]
    (decodeEntry bytes).outcome = .ok v ∧
      ∃ again, (encodeEntry v).outcome = .ok again ∧ (decodeEntry again).outcome = .ok v ∧
        (decodeEntry (again ++ [9])).outcome = .ok v := by
  intro v bytes
  have read : (decodeEntry bytes).outcome = .ok v := rfl
  obtain ⟨again, written, back⟩ := codec_round_trip.2 bytes v read
  exact ⟨read, again, written, back, (codec_round_trip.1 v (by decide)).2 again written [9]⟩

end Codec

end ReadThrough
