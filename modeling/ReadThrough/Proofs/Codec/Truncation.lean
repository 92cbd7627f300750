import ReadThrough.Proofs.Codec.RoundTrip

/-!
# Bytes that end too soon

A reader that stops on its own has seen enough: some first bytes have decided what it comes to, a
value or a fault, and what stands behind them plays no part. Before it has seen these it can only
ask for more. Such a reader is called prompt here (`Prompt`), and the point is that it never comes
to anything else on the way: none of the bytes that decide could have been left out (`Decides`).

Readers in a row are prompt if each of them is (`Prompt.bind`), so the reader of a record is, with
all the lengths and tags in it that say how far to go on. From there the two things that are wanted
of a store follow for every string of bytes (`truncation_detected`): what is behind an entry never
matters, and an entry of which something is missing at the end is never taken for another one, nor
for an entry that is damaged in some other way.
-/

set_option autoImplicit false

namespace ReadThrough.Codec

/-- What a reader comes to is decided by these first bytes. With anything behind them it comes to
the same and leaves that alone; with fewer of them it asks for more. -/
structure Decides {α : Type} (read : List UInt8 → Except Fault (α × List UInt8))
    (front : List UInt8) (r : Except Fault α) : Prop where
  enough : ∀ rest, read (front ++ rest) = r.map (·, rest)
  needed : ∀ short, short <+: front → short ≠ front → read short = .error .endOfInput

/-- A reader asks for more, or what it comes to has been decided by the bytes it has looked at. -/
def Prompt {α : Type} (read : List UInt8 → Except Fault (α × List UInt8)) : Prop :=
  ∀ bytes, read bytes = .error .endOfInput ∨ ∃ front r, front <+: bytes ∧ Decides read front r

section
variable {α β : Type} {read : List UInt8 → Except Fault (α × List UInt8)}

/-- A reader that is done before it has looked at anything. -/
theorem Decides.at_once (r : Except Fault α) : Decides (fun rest => r.map (·, rest)) [] r where
  enough _ := rfl
  needed _ short proper := absurd (List.prefix_nil.1 short) proper

theorem prompt_of_at_once (r : Except Fault α) : Prompt fun rest => r.map (·, rest) :=
  fun _ => .inr ⟨[], r, List.nil_prefix, .at_once r⟩

theorem prompt_ok (a : α) : Prompt fun bytes => (.ok (a, bytes) : Except Fault _) :=
  prompt_of_at_once (.ok a)

theorem prompt_error (f : Fault) : Prompt fun _ => (.error f : Except Fault (α × List UInt8)) :=
  prompt_of_at_once (.error f)

/-- A reader that looks at one byte and goes on as this byte says. -/
theorem prompt_of_byte (nil : read [] = .error .endOfInput)
    (cons : ∀ b, Prompt fun rest => read (b :: rest)) : Prompt read := by
  intro bytes
  cases bytes with
  | nil => exact .inl nil
  | cons b rest =>
    rcases cons b rest with more | ⟨front, r, start, decided⟩
    · exact .inl more
    · refine .inr ⟨b :: front, r, List.cons_prefix_cons.2 ⟨rfl, start⟩, decided.enough, ?_⟩
      intro short shorter proper
      cases short with
      | nil => exact nil
      | cons c tail =>
        obtain ⟨rfl, within⟩ := List.cons_prefix_cons.1 shorter
        exact decided.needed tail within fun whole => proper (whole ▸ rfl)

/-- Where something is missing at the end of two parts, it is missing from the first, or the first
is all there and something is missing from the second. -/
theorem missing_cases {short front back : List UInt8} (h : short <+: front ++ back)
    (proper : short ≠ front ++ back) :
    (short <+: front ∧ short ≠ front) ∨
      ∃ tail, short = front ++ tail ∧ tail <+: back ∧ tail ≠ back := by
  by_cases within : short <+: front ∧ short ≠ front
  · exact .inl within
  · have first : front <+: short := by
      rcases List.prefix_or_prefix_of_prefix h (List.prefix_append front back) with le | ge
      · exact (Decidable.not_not.1 fun ne => within ⟨le, ne⟩) ▸ List.prefix_rfl
      · exact ge
    obtain ⟨tail, rfl⟩ := first
    exact .inr ⟨tail, rfl, (List.prefix_append_right_inj front).1 h,
      fun whole => proper (whole ▸ rfl)⟩

/-- Readers in a row. -/
theorem Prompt.bind (first : Prompt read) {next : α × List UInt8 → Except Fault (β × List UInt8)}
    (second : ∀ a, Prompt fun rest => next (a, rest)) :
    Prompt fun bytes => read bytes >>= next := by
  intro bytes
  rcases first bytes with more | ⟨front, r, ⟨behind, rfl⟩, decided⟩
  · left
    show read bytes >>= next = _
    rw [more]
    rfl
  cases r with
  | error f =>
    refine .inr ⟨front, .error f, List.prefix_append _ _, fun rest => ?_,
      fun short shorter proper => ?_⟩
    · show read (front ++ rest) >>= next = _
      rw [decided.enough rest]
      rfl
    · show read short >>= next = _
      rw [decided.needed short shorter proper]
      rfl
  | ok a =>
    have goes_on : ∀ rest, read (front ++ rest) >>= next = next (a, rest) := fun rest => by
      rw [decided.enough rest]
      rfl
    rcases second a behind with more | ⟨back, r, ⟨rest, rfl⟩, decided'⟩
    · exact .inl ((goes_on behind).trans more)
    · refine .inr ⟨front ++ back, r, ⟨rest, List.append_assoc ..⟩, fun rest => ?_,
        fun short shorter proper => ?_⟩
      · show read (front ++ back ++ rest) >>= next = _
        rw [List.append_assoc, goes_on]
        exact decided'.enough rest
      · show read short >>= next = _
        rcases missing_cases shorter proper with ⟨within, missing⟩ | ⟨tail, rfl, within, missing⟩
        · rw [decided.needed short within missing]
          rfl
        · rw [goes_on]
          exact decided'.needed tail within missing

end

/-! ## The readers of a record -/

theorem prompt_groups (lastByte groups : Nat) : Prompt (Varint.readGroups lastByte groups) := by
  induction groups with
  | zero => exact prompt_error .endlessNumber
  | succ groups ih =>
    refine prompt_of_byte rfl fun b => ?_
    by_cases stops : b.toNat < 128
    · simp only [Varint.readGroups, if_pos stops]
      split
      · exact prompt_error .endlessNumber
      · exact prompt_ok b.toNat
    · have in_a_row : (fun rest => Varint.readGroups lastByte (groups + 1) (b :: rest)) =
          fun rest => Varint.readGroups lastByte groups rest >>= fun p =>
            .ok (b.toNat - 128 + 128 * p.1, p.2) := by
        funext rest
        rw [Varint.readGroups, if_neg stops]
        cases Varint.readGroups lastByte groups rest <;> rfl
      rw [in_a_row]
      exact ih.bind fun n => prompt_ok (b.toNat - 128 + 128 * n)

theorem prompt_number (w : Varint.Width) : Prompt (Varint.read w) :=
  prompt_groups w.lastByte w.groups

theorem prompt_magic : Prompt readMagic :=
  prompt_of_byte rfl fun b0 => prompt_of_byte rfl fun b1 => prompt_of_byte rfl fun b2 =>
    prompt_of_byte rfl fun b3 => prompt_ok (⟨b0, b1, b2, b3⟩ : Magic)

theorem prompt_flag : Prompt readFlag := by
  refine prompt_of_byte rfl fun b => ?_
  simp only [readFlag]
  split
  · exact prompt_ok false
  · split
    · exact prompt_ok true
    · exact prompt_error .badFlag

theorem prompt_moment : Prompt readMoment := by
  unfold readMoment
  -- Whatever `ofParts?` says, it looks at no more bytes, and it is not to be computed on the way.
  obtain ⟨judge, settled⟩ : ∃ judge, Moment.ofParts? = judge := ⟨_, rfl⟩
  rw [settled]
  refine (prompt_number _).bind fun seconds => (prompt_number _).bind fun nanos => ?_
  dsimp only
  cases judge seconds nanos with
  | none => exact prompt_error .badTime
  | some m => exact prompt_ok m

theorem prompt_time : Prompt readTime := by
  refine prompt_of_byte rfl fun b => ?_
  simp only [readTime]
  split
  · exact prompt_ok none
  · split
    · exact prompt_moment.bind fun m => prompt_ok (some m)
    · exact prompt_error .badOption

/-- A text needs all of its bytes before it is judged, be it good or bad. -/
theorem prompt_text : Prompt readText := by
  refine (prompt_number _).bind fun size bytes => ?_
  dsimp only
  by_cases short : bytes.length < size
  · exact .inl (if_pos short)
  · obtain ⟨judged, settled⟩ : ∃ judged : Except Fault String, judged =
        (String.fromUTF8? ⟨(bytes.take size).toArray⟩).elim (.error .badText) .ok := ⟨_, rfl⟩
    have length : (bytes.take size).length = size := List.length_take_of_le (Nat.le_of_not_lt short)
    refine .inr ⟨bytes.take size, judged, List.take_prefix _ _, fun rest => ?_,
      fun cut shorter proper => ?_⟩
    · have enough : ¬(bytes.take size ++ rest).length < size := by
        rw [List.length_append, length]
        omega
      rw [if_neg enough, List.take_left' length, List.drop_left' length, settled]
      cases String.fromUTF8? ⟨(bytes.take size).toArray⟩ <;> rfl
    · have less : cut.length < size := Nat.lt_of_not_le fun long =>
        proper (shorter.sublist.eq_of_length_le (length.symm ▸ long))
      exact if_pos less

theorem prompt_value : Prompt readValue :=
  prompt_time.bind fun createdAt => prompt_flag.bind fun volatile => prompt_flag.bind fun absent =>
    prompt_text.bind fun payload => prompt_ok (⟨createdAt, volatile, absent, payload⟩ : Value)

theorem prompt_record : Prompt readRecord :=
  prompt_magic.bind fun magic => (prompt_number _).bind fun version =>
    prompt_value.bind fun value => prompt_ok (⟨magic, version, value⟩ : Record)

/-! ## Entries -/

/-- What is said of an entry that ends too soon. -/
def truncated : Reply Value :=
  ⟨.failed (.deserialization "Hit the end of buffer, expected more data"),
    [.err "Stored value deserialization failed: Hit the end of buffer, expected more data"]⟩

theorem decodeEntry_of_endOfInput {bytes : List UInt8} (h : readRecord bytes = .error .endOfInput) :
    decodeEntry bytes = truncated := by
  rw [decodeEntry, h]
  rfl

/-- The bytes that decide what a record is decide what the entry is. -/
theorem Decides.decodeEntry_eq {front : List UInt8} {r : Except Fault Record}
    (decided : Decides readRecord front r) (rest rest' : List UInt8) :
    decodeEntry (front ++ rest) = decodeEntry (front ++ rest') := by
  rw [decodeEntry, decodeEntry, decided.enough, decided.enough]
  cases r <;> rfl

/-- Of bytes that are reported as anything but too short, some first ones say everything: what is
behind them does not matter, and none of them can be missing without being missed. -/
theorem exists_deciding {bytes : List UInt8}
    (said : (decodeEntry bytes).outcome ≠ truncated.outcome) :
    ∃ n ≤ bytes.length, (∀ rest, decodeEntry (bytes.take n ++ rest) = decodeEntry bytes) ∧
      ∀ short, short <+: bytes → short.length < n → decodeEntry short = truncated := by
  rcases prompt_record bytes with more | ⟨front, r, ⟨behind, rfl⟩, decided⟩
  · exact absurd (congrArg Reply.outcome (decodeEntry_of_endOfInput more)) said
  · have within : front.length ≤ (front ++ behind).length :=
      (List.prefix_append front behind).length_le
    refine ⟨front.length, within, fun rest => ?_, fun short start less => ?_⟩
    · rw [List.take_left]
      exact decided.decodeEntry_eq rest behind
    · have of_front : short <+: front := List.prefix_of_prefix_length_le start
        (List.prefix_append front behind) (Nat.le_of_lt less)
      exact decodeEntry_of_endOfInput (decided.needed short of_front fun whole =>
        Nat.ne_of_lt less (congrArg List.length whole))

/-- What is written as an entry is missed as soon as any of it is missing at the end: it is read as
a record with nothing behind it, so it is all of it needed. -/
theorem decodeEntry_of_cut {v : Value} (fits : v.payload.utf8ByteSize < 18446744073709551616)
    {bytes : List UInt8} (written : (encodeEntry v).outcome = .ok bytes) {short : List UInt8}
    (start : short <+: bytes) (cut : short ≠ bytes) : decodeEntry short = truncated := by
  have read : readRecord bytes = .ok (⟨entryMagic, entryVersion, v⟩, []) :=
    (accepts_record ..).2 ⟨bytes, recordForm_of_encodeEntry fits written, (List.append_nil _).symm⟩
  rcases prompt_record bytes with more | ⟨front, r, ⟨behind, rfl⟩, decided⟩
  · rw [more] at read
    cases read
  · rw [decided.enough] at read
    cases r <;> cases read
    rw [List.append_nil] at start cut
    exact decodeEntry_of_endOfInput (decided.needed short start cut)

/-- Bytes that are reported as anything but too short start with some that decide this: whatever is
behind these, the report is the same, and with fewer of them the bytes are too short. So an entry
that has been cut anywhere is reported as that, and no entry is what another one starts with. -/
theorem truncation_detected :
    (∀ bytes, (decodeEntry bytes).outcome ≠ truncated.outcome →
      ∃ n ≤ bytes.length, (∀ rest, decodeEntry (bytes.take n ++ rest) = decodeEntry bytes) ∧
        ∀ short, short <+: bytes → short.length < n → decodeEntry short = truncated) ∧
    (∀ v : Value, v.payload.utf8ByteSize < 18446744073709551616 →
      ∀ bytes, (encodeEntry v).outcome = .ok bytes →
        (∀ short, short <+: bytes → short ≠ bytes → decodeEntry short = truncated) ∧
        ∀ w : Value, w.payload.utf8ByteSize < 18446744073709551616 →
          ∀ bytes', (encodeEntry w).outcome = .ok bytes' → bytes' <+: bytes → bytes' = bytes) := by
  refine ⟨fun bytes said => exists_deciding said, fun v fits bytes written =>
    ⟨fun short start cut => decodeEntry_of_cut fits written start cut,
      fun w fits' bytes' written' start => Decidable.byContradiction fun cut => ?_⟩⟩
  have unread : decodeEntry bytes' = truncated := decodeEntry_of_cut fits written start cut
  have read := decodeEntry_append fits' written' []
  rw [List.append_nil, unread] at read
  cases read

/-- A payload of two bytes that is no text, with a byte behind it: the fault is known after the
second of these and not before. And an entry of nine bytes, one of which is missing. -/
theorem truncation_detected_badText :
    let bytes : List UInt8 := [67, 80, 88, 89, 1, 0, 0, 0, 2, 255, 254, 9]
    let v : Value := ⟨none, false, true, ""⟩
    (decodeEntry bytes).outcome = .failed (.deserialization Fault.badText.text) ∧
      (∃ n ≤ bytes.length, (∀ rest, decodeEntry (bytes.take n ++ rest) = decodeEntry bytes) ∧
        ∀ short, short <+: bytes → short.length < n → decodeEntry short = truncated) ∧
      (encodeEntry v).outcome = .ok [67, 80, 88, 89, 1, 0, 0, 1, 0] ∧
      decodeEntry [67, 80, 88, 89, 1, 0, 0, 1] = truncated := by
  intro bytes v
  have damaged : (decodeEntry bytes).outcome = .failed (.deserialization Fault.badText.text) := rfl
  have written : (encodeEntry v).outcome = .ok [67, 80, 88, 89, 1, 0, 0, 1, 0] := by
    have one_byte : ∀ n : Nat, n < 128 → Varint.encode n = [UInt8.ofNat n] := by
      intro n small
      rw [Varint.encode, if_pos small]
    have payload : encodeText "" = [0] := by
      rw [encodeText, one_byte _ (by decide), toList_bytes]
      rfl
    have record : (Record.mk entryMagic entryVersion v).encode? =
        some [67, 80, 88, 89, 1, 0, 0, 1, 0] := by
      rw [Record.encode?, one_byte _ (by decide), encodeValue?, payload]
      rfl
    rw [encodeEntry, record]
    rfl
  refine ⟨damaged, truncation_detected.1 bytes ?_, written,
    (truncation_detected.2 v (by decide) _ written).1 _ ⟨[0], rfl⟩ (by decide)⟩
  rw [damaged]
  simp [truncated, Fault.text]

end ReadThrough.Codec
