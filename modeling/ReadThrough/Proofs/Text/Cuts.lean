import Mathlib.Data.List.TakeDrop
import ReadThrough.Text.Cut
import ReadThrough.Text.Numeral

/-!
# Where a text is cut

A cut at a separator is told by what it gives: the two parts make up the text, and the separator
does not occur in the part that was searched. That fixes the cut, so a reader that cuts can be read
backwards, from its parts to the text, and a writer forwards. The same goes for a piece that is read
as far as a kind of characters goes.

A number is written in digits alone and read back from them.
-/

set_option autoImplicit false

namespace ReadThrough.Text

/-! ## Cuts -/

/-- A piece is read as far as its kind of characters goes. -/
theorem span_eq_iff {α : Type} {p : α → Bool} {l front back : List α} :
    l.span p = (front, back) ↔
      l = front ++ back ∧ (∀ a ∈ front, p a) ∧ ∀ a ∈ back.head?, p a = false := by
  rw [List.span_eq_takeWhile_dropWhile, Prod.mk.injEq]
  constructor
  · rintro ⟨rfl, rfl⟩
    refine ⟨List.takeWhile_append_dropWhile.symm,
      List.all_eq_true.1 (List.all_takeWhile), fun a first => ?_⟩
    have stop := List.head?_dropWhile_not p l
    rw [first] at stop
    exact stop
  · rintro ⟨rfl, kind, stop⟩
    rw [List.takeWhile_append_of_pos kind, List.dropWhile_append_of_pos kind]
    cases back with
    | nil => exact ⟨List.append_nil _, rfl⟩
    | cons b rest =>
      have other : ¬p b := Bool.eq_false_iff.1 (stop b rfl)
      rw [List.takeWhile_cons_of_neg other, List.dropWhile_cons_of_neg other]
      exact ⟨List.append_nil _, rfl⟩

variable {c : Char} {cs before after : List Char}

/-- The first separator is the one that has none before it. -/
theorem cutAt_eq_some_iff :
    cutAt c cs = (before, some after) ↔ cs = before ++ c :: after ∧ c ∉ before := by
  have kind : (∀ d ∈ before, decide (d ≠ c)) ↔ c ∉ before := by
    simp only [decide_eq_true_eq]
    exact ⟨fun other mem => other c mem rfl, fun none d mem same => none (same ▸ mem)⟩
  have cut : cs.span (· ≠ c) = (before, c :: after) ↔ cs = before ++ c :: after ∧ c ∉ before := by
    rw [span_eq_iff, kind]
    simp
  rw [← cut, cutAt]
  split
  case h_1 front d back found =>
    have stop : d = c := by simpa using (span_eq_iff.1 found).2.2 d rfl
    rw [found, stop]
    simp only [Prod.mk.injEq, Option.some.injEq, List.cons.injEq, true_and]
  case h_2 front found =>
    rw [found]
    simp only [Prod.mk.injEq, reduceCtorEq, and_false]

/-- The last separator is the one that has none after it. -/
theorem cutAtLast_eq_some_iff :
    cutAtLast c cs = (some before, after) ↔ cs = before ++ c :: after ∧ c ∉ after := by
  have mirrored : cutAt c cs.reverse = (after.reverse, some before.reverse) ↔
      cs = before ++ c :: after ∧ c ∉ after := by
    rw [cutAt_eq_some_iff, List.mem_reverse, List.reverse_eq_iff]
    simp
  rw [← mirrored, cutAtLast]
  split
  case h_1 back front found => simp [found, List.reverse_eq_iff, and_comm]
  case h_2 front found => simp [found]

/-- Two cuts of one text: the same, or one of them is made at a later place than the other. -/
theorem append_cons_eq_iff {α : Type} {c : α} {a b a' b' : List α} :
    a ++ c :: b = a' ++ c :: b' ↔ (a = a' ∧ b = b') ∨
      (∃ m, a' = a ++ c :: m ∧ b = m ++ c :: b') ∨ ∃ m, a = a' ++ c :: m ∧ b' = m ++ c :: b := by
  constructor
  · intro h
    rcases List.append_eq_append_iff.1 h with ⟨m, ha, hb⟩ | ⟨m, ha, hb⟩
    · cases m with
      | nil =>
        rw [List.append_nil] at ha
        exact Or.inl ⟨ha.symm, (List.cons.inj hb).2⟩
      | cons x m =>
        obtain ⟨rfl, rfl⟩ := List.cons.inj hb
        exact Or.inr (Or.inl ⟨m, ha, rfl⟩)
    · cases m with
      | nil =>
        rw [List.append_nil] at ha
        exact Or.inl ⟨ha, (List.cons.inj hb).2.symm⟩
      | cons x m =>
        obtain ⟨rfl, rfl⟩ := List.cons.inj hb
        exact Or.inr (Or.inr ⟨m, ha, rfl⟩)
  · rintro (⟨rfl, rfl⟩ | ⟨m, rfl, rfl⟩ | ⟨m, rfl, rfl⟩)
    · rfl
    · simp
    · simp

/-! ## Numbers -/

namespace Numeral

theorem digit?_of_isDigit {c : Char} (digit : c.isDigit) :
    digit? c = some (c.toNat - '0'.toNat) := by
  rw [Char.isDigit, Bool.and_eq_true, decide_eq_true_eq, decide_eq_true_eq] at digit
  exact if_pos digit

theorem isSome_digit? (c : Char) : (digit? c).isSome = c.isDigit := by
  cases digit : c.isDigit with
  | true => rw [digit?_of_isDigit digit, Option.isSome_some]
  | false =>
    have other : ¬('0' ≤ c ∧ c ≤ '9') := by
      rw [Char.isDigit, Bool.and_eq_false_iff, decide_eq_false_iff_not,
        decide_eq_false_iff_not] at digit
      rintro ⟨low, high⟩
      exact digit.elim (fun below => below low) fun above => above high
    rw [digit?, if_neg other, Option.isSome_none]

theorem digits?_eq (cs : List Char) (start : Nat) (digits : ∀ c ∈ cs, c.isDigit) :
    digits? start cs = some (Nat.ofDigitChars 10 cs start) := by
  induction cs generalizing start with
  | nil => rfl
  | cons c rest ih =>
    rw [digits?, digit?_of_isDigit (digits c List.mem_cons_self), Option.bind_some,
      ih _ fun d later => digits d (List.mem_cons_of_mem c later), Nat.ofDigitChars_cons,
      Nat.mul_comm]

theorem isDigit_of_mem {n : Nat} {c : Char} (mem : c ∈ (toString n).toList) : c.isDigit := by
  rw [Nat.toString_eq_ofList_toDigits, String.toList_ofList] at mem
  exact Nat.isDigit_of_mem_toDigits (by decide) (by decide) mem

/-- There is at least one digit. -/
theorem toList_toString_ne_nil (n : Nat) : (toString n).toList ≠ [] := by
  rw [Nat.toString_eq_ofList_toDigits, String.toList_ofList]
  exact Nat.toDigits_ne_nil

/-- A number is read back from its digits. -/
theorem digits?_toString (n : Nat) : digits? 0 (toString n).toList = some n := by
  rw [digits?_eq _ 0 fun c => isDigit_of_mem, Nat.toString_eq_ofList_toDigits,
    String.toList_ofList, Nat.ofDigitChars_ten_toDigits]

theorem unsigned?_toString (n : Nat) : unsigned? (toString n).toList = some n := by
  unfold unsigned?
  split
  case h_1 none => exact (toList_toString_ne_nil n none).elim
  case h_2 => exact digits?_toString n

end Numeral

end ReadThrough.Text
