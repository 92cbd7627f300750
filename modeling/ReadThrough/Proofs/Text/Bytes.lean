import ReadThrough.Text.Percent

/-!
# Texts and their bytes

A text has one row of bytes, character by character (`bytesOf`), and bytes that can be read as text
are the bytes of that text.

Behind percent signs other bytes may stand, but never more of them: three characters are read as one
byte, and every other character as the bytes it has anyway. So the bytes that a written text stands
for are at most as many as its own, and they are its own exactly if no percent sign has two
hexadecimal digits behind it (`percentBytes_eq_iff`). This is what lets a text be found again in a
longer one: what stands for it cannot be a shorter piece.
-/

set_option autoImplicit false

namespace ReadThrough

/-! ## Rows of bytes -/

/-- The bytes of an array, one after another. -/
theorem toList_loop (bytes : ByteArray) (i : Nat) (done : List UInt8) :
    ByteArray.toList.loop bytes i done = done.reverse ++ bytes.data.toList.drop i := by
  induction hn : bytes.size - i generalizing i done with
  | zero =>
    have beyond : bytes.data.toList.length ≤ i := by
      rw [Array.length_toList]
      exact Nat.le_of_sub_eq_zero hn
    rw [ByteArray.toList.loop, if_neg (by omega), List.drop_eq_nil_of_le beyond, List.append_nil]
  | succ n ih =>
    have there : i < bytes.size := by omega
    have here : i < bytes.data.toList.length := by
      rw [Array.length_toList]
      exact there
    rw [ByteArray.toList.loop, if_pos there, ih (i + 1) _ (by omega), List.drop_eq_getElem_cons here,
      List.reverse_cons, List.append_assoc, List.singleton_append]
    congr 2
    obtain ⟨data⟩ := bytes
    have inside : i < data.size := there
    simp [ByteArray.get!, inside]

theorem toList_bytes (bytes : ByteArray) : bytes.toList = bytes.data.toList := by
  rw [ByteArray.toList, toList_loop, List.reverse_nil, List.nil_append, List.drop_zero]

theorem length_toUTF8 (s : String) : s.toUTF8.toList.length = s.utf8ByteSize := by
  rw [toList_bytes, Array.length_toList]
  rfl

/-- Bytes that are UTF-8 are those of the text that they are read as. -/
theorem fromUTF8?_eq_some_iff {bytes : List UInt8} {s : String} :
    String.fromUTF8? ⟨bytes.toArray⟩ = some s ↔ bytes = s.toUTF8.toList := by
  constructor
  · intro read
    unfold String.fromUTF8? at read
    split at read <;> cases read
    show bytes = ByteArray.toList ⟨bytes.toArray⟩
    rw [toList_bytes]
  · rintro rfl
    rw [toList_bytes, Array.toArray_toList]
    exact dif_pos s.isValidUTF8

namespace Text

/-- The bytes of some characters. -/
def bytesOf (cs : List Char) : List UInt8 := cs.flatMap charBytes

@[simp] theorem bytesOf_nil : bytesOf [] = [] := rfl

@[simp] theorem bytesOf_cons (c : Char) (cs : List Char) :
    bytesOf (c :: cs) = charBytes c ++ bytesOf cs := rfl

@[simp] theorem bytesOf_append (cs ds : List Char) :
    bytesOf (cs ++ ds) = bytesOf cs ++ bytesOf ds :=
  List.flatMap_append

/-- The bytes of a text are those of its characters. -/
theorem toUTF8_eq_bytesOf (s : String) : s.toUTF8.toList = bytesOf s.toList := by
  have encoded : ∀ cs : List Char, (cs.utf8Encode).toList = bytesOf cs := by
    intro cs
    induction cs with
    | nil => rw [toList_bytes]; rfl
    | cons c rest ih =>
      have first : charBytes c = ([c].utf8Encode).toList :=
        congrArg ByteArray.toList String.toByteArray_singleton
      rw [List.utf8Encode_cons, toList_bytes, ByteArray.data_append, Array.toList_append,
        ← toList_bytes, ← toList_bytes, ih, ← first]
      rfl
  rw [← encoded, String.utf8Encode_toList]
  rfl

theorem length_charBytes_pos (c : Char) : 0 < (charBytes c).length := by
  rw [charBytes, length_toUTF8]
  show 0 < (String.singleton c).utf8ByteSize
  rw [String.utf8ByteSize_singleton]
  exact c.utf8Size_pos

/-- What is left of a text has fewer bytes, unless nothing is left out. -/
theorem eq_or_fewer_of_sublist {cs ds : List Char} (kept : cs.Sublist ds) :
    cs = ds ∨ (bytesOf cs).length < (bytesOf ds).length := by
  induction kept with
  | slnil => exact Or.inl rfl
  | cons c kept ih =>
    have pos := length_charBytes_pos c
    rcases ih with rfl | fewer
    · exact Or.inr (by rw [bytesOf_cons, List.length_append]; omega)
    · exact Or.inr (by rw [bytesOf_cons, List.length_append]; omega)
  | cons_cons c kept ih =>
    rcases ih with rfl | fewer
    · exact Or.inl rfl
    · exact Or.inr (by simpa using fewer)

/-! ## Percent signs -/

/-- A percent sign stands first, and two hexadecimal digits behind it. -/
def beginsEscape : List Char → Bool
  | '%' :: a :: b :: _ => (hexDigit? a).isSome && (hexDigit? b).isSome
  | _ => false

/-- Somewhere a percent sign stands before two hexadecimal digits. -/
def HasEscape (cs : List Char) : Prop := ∃ rest, rest <:+ cs ∧ beginsEscape rest

theorem not_hasEscape_nil : ¬HasEscape [] := by
  rintro ⟨rest, last, escape⟩
  rw [List.suffix_nil.1 last] at escape
  cases escape

/-- It stands at the front or behind it. -/
theorem hasEscape_cons {c : Char} {cs : List Char} :
    HasEscape (c :: cs) ↔ beginsEscape (c :: cs) ∨ HasEscape cs := by
  constructor
  · rintro ⟨rest, last, escape⟩
    rcases List.suffix_cons_iff.1 last with rfl | behind
    · exact Or.inl escape
    · exact Or.inr ⟨rest, behind, escape⟩
  · rintro (escape | ⟨rest, behind, escape⟩)
    · exact ⟨_, List.suffix_refl _, escape⟩
    · exact ⟨rest, List.suffix_cons_iff.2 (Or.inr behind), escape⟩

instance decidableHasEscape : (cs : List Char) → Decidable (HasEscape cs)
  | [] => isFalse not_hasEscape_nil
  | _ :: cs =>
    have := decidableHasEscape cs
    decidable_of_iff _ hasEscape_cons.symm

/-- A text stands for its own bytes, or for fewer. -/
theorem percentBytes_cases (cs : List Char) :
    (¬HasEscape cs ∧ percentBytes cs = bytesOf cs) ∨
      (HasEscape cs ∧ (percentBytes cs).length < (bytesOf cs).length) := by
  -- A character that begins no escape adds its own bytes to both sides.
  have behind : ∀ {c : Char} {rest : List Char}, (HasEscape (c :: rest) ↔ HasEscape rest) →
      (¬HasEscape rest ∧ percentBytes rest = bytesOf rest) ∨
        (HasEscape rest ∧ (percentBytes rest).length < (bytesOf rest).length) →
      (¬HasEscape (c :: rest) ∧ charBytes c ++ percentBytes rest = bytesOf (c :: rest)) ∨
        (HasEscape (c :: rest) ∧
          (charBytes c ++ percentBytes rest).length < (bytesOf (c :: rest)).length) := by
    rintro c rest same (⟨none, equal⟩ | ⟨escape, fewer⟩)
    · exact Or.inl ⟨mt same.1 none, by rw [equal, bytesOf_cons]⟩
    · refine Or.inr ⟨same.2 escape, ?_⟩
      rw [bytesOf_cons, List.length_append, List.length_append]
      exact Nat.add_lt_add_left fewer _
  fun_induction percentBytes cs with
  | case1 a b rest x y second first ih =>
    have escape : HasEscape ('%' :: a :: b :: rest) :=
      hasEscape_cons.2 (Or.inl (by rw [beginsEscape, first, second]; rfl))
    refine Or.inr ⟨escape, ?_⟩
    have shorter : (percentBytes rest).length ≤ (bytesOf rest).length := by
      rcases ih with ⟨-, same⟩ | ⟨-, fewer⟩
      · exact Nat.le_of_eq (congrArg List.length same)
      · exact Nat.le_of_lt fewer
    have sign := length_charBytes_pos '%'
    have digit := length_charBytes_pos a
    simp only [bytesOf_cons, List.length_append, List.length_cons]
    omega
  | case2 a b rest other ih =>
    have plain : ¬beginsEscape ('%' :: a :: b :: rest) := by
      rw [beginsEscape, Bool.and_eq_true]
      rintro ⟨first, second⟩
      exact other _ _ (Option.some_get first).symm (Option.some_get second).symm
    exact behind (hasEscape_cons.trans (or_iff_right plain)) ih
  | case3 c rest other ih =>
    have plain : ¬beginsEscape (c :: rest) := by
      unfold beginsEscape
      split
      case h_1 same =>
        cases same
        exact (other _ _ _ rfl rfl).elim
      case h_2 => exact Bool.false_ne_true
    exact behind (hasEscape_cons.trans (or_iff_right plain)) ih
  | case4 => exact Or.inl ⟨not_hasEscape_nil, rfl⟩

theorem length_percentBytes_le (cs : List Char) :
    (percentBytes cs).length ≤ (bytesOf cs).length := by
  rcases percentBytes_cases cs with ⟨-, same⟩ | ⟨-, fewer⟩
  · exact Nat.le_of_eq (congrArg List.length same)
  · exact Nat.le_of_lt fewer

/-- A text stands for itself exactly if nothing in it stands for anything else. -/
theorem percentBytes_eq_iff {cs : List Char} : percentBytes cs = bytesOf cs ↔ ¬HasEscape cs := by
  rcases percentBytes_cases cs with ⟨none, same⟩ | ⟨escape, fewer⟩
  · exact iff_of_true same none
  · refine iff_of_false (fun same => ?_) (not_not_intro escape)
    rw [same] at fewer
    exact Nat.lt_irrefl _ fewer

theorem percentBytes_escape {a b : Char} {x y : Nat} (first : hexDigit? a = some x)
    (second : hexDigit? b = some y) (rest : List Char) :
    percentBytes ('%' :: a :: b :: rest) = UInt8.ofNat (16 * x + y) :: percentBytes rest := by
  rw [percentBytes, first, second]

/-- A text is what some characters stand for if its bytes are. -/
theorem percentText?_eq_some_iff {cs : List Char} {s : String} :
    percentText? cs = some s ↔ percentBytes cs = bytesOf s.toList := by
  rw [percentText?, fromUTF8?_eq_some_iff, toUTF8_eq_bytesOf]

end Text

end ReadThrough
