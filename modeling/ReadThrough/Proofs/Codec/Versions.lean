import ReadThrough.Proofs.Codec.Layout

/-!
# Entries of another version

The version is raised when the layout of a value changes, so that entries under the old layout are
told apart and fetched anew. What follows the version of such an entry is then a value in another
layout, of which this reader knows nothing: any bytes at all (`Versioned`).

The reader does not stop at the version, though. It reads the whole record in the layout of today
and looks at the version afterwards, and so another version is named only if what follows it happens
to start with a value in today's layout (`versionMismatch_iff`). All other bytes are reported as
damage, with the fault that the first unreadable field happens to give
(`decodeEntry_of_unreadable`); a layout whose first byte is neither 0 nor 1 is never recognised.
`foreign_version_exact` says so of every version but the own one and of every layout: nothing of
another version is ever taken for a value, and which of the two refusals it gets is decided by the
bytes behind the version, not by the version.
-/

set_option autoImplicit false

namespace ReadThrough.Codec

/-- The magic of this cache, the number of a version, and any bytes behind it. -/
inductive Versioned (version : Nat) (body : List UInt8) : List UInt8 → Prop
  | tagged {number : List UInt8} (numbered : Varint.Form Varint.word32 version number) :
      Versioned version body (entryMagic.toList ++ (number ++ body))

/-- The bytes start with a value, in the layout that this cache writes. -/
def StartWithValue (v : Value) (body : List UInt8) : Prop := ∃ form, ValueForm v form ∧ form <+: body

theorem startWithValue_iff {v : Value} {body : List UInt8} :
    StartWithValue v body ↔ ∃ rest, readValue body = .ok (v, rest) := by
  constructor
  · rintro ⟨form, formed, rest, rfl⟩
    exact ⟨rest, (accepts_value _ v rest).2 ⟨form, formed, rfl⟩⟩
  · rintro ⟨rest, read⟩
    obtain ⟨form, formed, rfl⟩ := (accepts_value _ v rest).1 read
    exact ⟨form, formed, rest, rfl⟩

section
variable {w : Nat} {body bytes : List UInt8}

/-- Behind the version, the record is read as the value is. -/
theorem readRecord_of_versioned (tagged : Versioned w body bytes) :
    readRecord bytes = (readValue body).map fun p => (⟨entryMagic, w, p.1⟩, p.2) := by
  cases tagged with
  | @tagged digits numbered =>
    have magic : readMagic (entryMagic.toList ++ (digits ++ body)) =
        .ok (entryMagic, digits ++ body) := rfl
    have number := (accepts_number _ _ w body).2 ⟨digits, numbered, rfl⟩
    unfold readRecord
    rw [magic]
    show (Varint.read Varint.word32 _ >>= _) = _
    rw [number]
    show (readValue body >>= _) = _
    cases readValue body <;> rfl

/-- The bytes start with a record of the version they are tagged with if a value is behind it. -/
theorem startWith_of_versioned (tagged : Versioned w body bytes) {v : Value}
    (valued : StartWithValue v body) : StartWith ⟨entryMagic, w, v⟩ bytes := by
  obtain ⟨rest, read⟩ := startWithValue_iff.1 valued
  exact startWith_iff.2 ⟨rest, by rw [readRecord_of_versioned tagged, read]; rfl⟩

/-- And with no other record. -/
theorem eq_of_startWith_of_versioned (tagged : Versioned w body bytes) {r : Record}
    (start : StartWith r bytes) : ∃ v, StartWithValue v body ∧ r = ⟨entryMagic, w, v⟩ := by
  obtain ⟨rest, read⟩ := startWith_iff.1 start
  rw [readRecord_of_versioned tagged] at read
  cases value : readValue body with
  | error f =>
    rw [value] at read
    cases read
  | ok p =>
    rw [value] at read
    cases read
    exact ⟨p.1, startWithValue_iff.2 ⟨p.2, value⟩, rfl⟩

/-- What cannot be read as a value of today is damage, whatever the version in front of it. -/
theorem decodeEntry_of_unreadable (tagged : Versioned w body bytes) {f : Fault}
    (unreadable : readValue body = .error f) :
    decodeEntry bytes = ⟨.failed (.deserialization f.text),
      [.err ("Stored value deserialization failed: " ++ f.text)]⟩ := by
  rw [decodeEntry, readRecord_of_versioned tagged, unreadable]
  rfl

/-- A layout that does not begin with 0 or 1 goes unrecognised under every version. -/
theorem decodeEntry_of_first_byte {b : UInt8} {more : List UInt8}
    (tagged : Versioned w (b :: more) bytes) (zero : b ≠ 0) (one : b ≠ 1) :
    (decodeEntry bytes).outcome = .failed (.deserialization Fault.badOption.text) := by
  have time : readTime (b :: more) = .error .badOption := by
    rw [readTime, if_neg zero, if_neg one]
  have unreadable : readValue (b :: more) = .error .badOption := by
    rw [readValue, time]
    rfl
  rw [decodeEntry_of_unreadable tagged unreadable]

end

/-- Another version is named of bytes that are one whole record of it, in today's layout, and of no
other bytes. -/
theorem versionMismatch_iff (bytes : List UInt8) (expected found : Nat) :
    (decodeEntry bytes).outcome = .failed (.versionMismatch expected found) ↔
      expected = entryVersion ∧ found ≠ entryVersion ∧
        ∃ v, StartWith ⟨entryMagic, found, v⟩ bytes := by
  constructor
  · intro mismatch
    by_cases start : ∃ r, StartWith r bytes
    · obtain ⟨r, start⟩ := start
      rw [decodeEntry_of_startWith start, acceptRecord] at mismatch
      split at mismatch
      case isTrue => cases mismatch
      case isFalse magic =>
        split at mismatch
        case isFalse => cases mismatch
        case isTrue version =>
          cases mismatch
          exact ⟨rfl, version, r.value, (Decidable.not_not.1 magic) ▸ start⟩
    · obtain ⟨f, failed⟩ := decodeEntry_of_not_startWith (not_exists.1 start)
      rw [failed] at mismatch
      cases mismatch
  · rintro ⟨rfl, version, v, start⟩
    rw [decodeEntry_of_startWith start, acceptRecord, if_neg (not_not_intro rfl), if_pos version]

/-- How bytes with the magic of this cache and the number of another version are refused. -/
structure ForeignRefused (w : Nat) (body bytes : List UInt8) : Prop where
  /-- They are never a value, and the error says that the store holds something unusable. -/
  refused : ∃ e, (decodeEntry bytes).outcome = .failed e ∧ e.isStore = true
  /-- The version is named exactly if a value in today's layout comes right behind it. -/
  named_iff : (decodeEntry bytes).outcome = .failed (.versionMismatch 1 w) ↔
    ∃ v, StartWithValue v body
  /-- A version that is named is the one in the bytes, next to the own one. -/
  right : ∀ expected found, (decodeEntry bytes).outcome = .failed (.versionMismatch expected found) →
    expected = 1 ∧ found = w
  /-- In every other layout the bytes are reported, and logged, as damage. -/
  damaged : (∀ v, ¬StartWithValue v body) → ∃ f : Fault, readValue body = .error f ∧
    decodeEntry bytes = ⟨.failed (.deserialization f.text),
      [.err ("Stored value deserialization failed: " ++ f.text)]⟩

/-- Of every version but the own one, with anything behind it: what is there is refused, and the
version is given as the reason exactly if the layout has not changed. -/
theorem foreign_version_exact (w : Nat) (body bytes : List UInt8) (foreign : w ≠ 1)
    (tagged : Versioned w body bytes) : ForeignRefused w body bytes := by
  have named_iff : (decodeEntry bytes).outcome = .failed (.versionMismatch 1 w) ↔
      ∃ v, StartWithValue v body := by
    rw [versionMismatch_iff]
    constructor
    · rintro ⟨-, -, v, start⟩
      obtain ⟨v', valued, -⟩ := eq_of_startWith_of_versioned tagged start
      exact ⟨v', valued⟩
    · rintro ⟨v, valued⟩
      exact ⟨rfl, foreign, v, startWith_of_versioned tagged valued⟩
  have damaged : (∀ v, ¬StartWithValue v body) → ∃ f : Fault, readValue body = .error f ∧
      decodeEntry bytes = ⟨.failed (.deserialization f.text),
        [.err ("Stored value deserialization failed: " ++ f.text)]⟩ := by
    intro none
    cases value : readValue body with
    | ok p => exact absurd (startWithValue_iff.2 ⟨p.2, value⟩) (none p.1)
    | error f => exact ⟨f, rfl, decodeEntry_of_unreadable tagged value⟩
  refine ⟨?refused, named_iff, ?right, damaged⟩
  case refused =>
    by_cases valued : ∃ v, StartWithValue v body
    · exact ⟨_, named_iff.2 valued, rfl⟩
    · obtain ⟨f, -, failed⟩ := damaged (not_exists.1 valued)
      exact ⟨_, by rw [failed], rfl⟩
  case right =>
    intro expected found mismatch
    obtain ⟨own, -, v, start⟩ := (versionMismatch_iff ..).1 mismatch
    obtain ⟨v', -, same⟩ := eq_of_startWith_of_versioned tagged start
    exact ⟨own, congrArg Record.version same⟩

/-- Version 2, with a value of today behind it and with three letters: only the first is named. -/
theorem foreign_version_exact_two :
    Versioned 2 [0, 0, 0, 0] [67, 80, 88, 89, 2, 0, 0, 0, 0] ∧
    (decodeEntry [67, 80, 88, 89, 2, 0, 0, 0, 0]).outcome = .failed (.versionMismatch 1 2) ∧
    ∃ f : Fault, readValue [97, 98, 99] = .error f ∧
      (decodeEntry [67, 80, 88, 89, 2, 97, 98, 99]).outcome = .failed (.deserialization f.text) := by
  have number : Varint.Form Varint.word32 2 [2] := .last (b := 2) (by decide) (by decide)
  have today : Versioned 2 [0, 0, 0, 0] [67, 80, 88, 89, 2, 0, 0, 0, 0] := .tagged number
  have letters : Versioned 2 [97, 98, 99] [67, 80, 88, 89, 2, 97, 98, 99] := .tagged number
  have value : StartWithValue ⟨none, false, false, ""⟩ [0, 0, 0, 0] :=
    startWithValue_iff.2 ⟨[], rfl⟩
  have none : ∀ v, ¬StartWithValue v [97, 98, 99] := fun v valued => by
    obtain ⟨rest, read⟩ := startWithValue_iff.1 valued
    cases read
  obtain ⟨f, unreadable, failed⟩ :=
    (foreign_version_exact 2 [97, 98, 99] _ (by decide) letters).damaged none
  exact ⟨today, (foreign_version_exact 2 _ _ (by decide) today).named_iff.2 ⟨_, value⟩,
    f, unreadable, by rw [failed]⟩

/-- Not every entry of another version is recognised: a layout of version 2 that begins with the
length of a text is reported as a damaged entry, and version 2 is not named. -/
theorem foreign_layout_unrecognised :
    Versioned 2 [3, 97, 98, 99] [67, 80, 88, 89, 2, 3, 97, 98, 99] ∧
    (decodeEntry [67, 80, 88, 89, 2, 3, 97, 98, 99]).outcome =
      .failed (.deserialization "Found an Option discriminant that wasn't 0 or 1") ∧
    ¬∀ (w : Nat) (body bytes : List UInt8), w ≠ 1 → Versioned w body bytes →
      (decodeEntry bytes).outcome = .failed (.versionMismatch 1 w) := by
  have tagged : Versioned 2 [3, 97, 98, 99] [67, 80, 88, 89, 2, 3, 97, 98, 99] :=
    .tagged (.last (b := 2) (by decide) (by decide))
  have damaged := decodeEntry_of_first_byte tagged (by decide) (by decide)
  refine ⟨tagged, damaged, fun always => ?_⟩
  have mismatch := always 2 _ _ (by decide) tagged
  rw [damaged] at mismatch
  cases mismatch

end ReadThrough.Codec
