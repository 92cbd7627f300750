/-!
# Numbers of variable length

A number is cut into groups of seven bits, the lowest first, one group a byte; the high bit of a
byte says that another follows. Small numbers take one byte. A reader knows how wide the number
may be, which bounds the groups, and in the last possible group how large a byte may be. Within
that width a number may be written with more groups than it needs: such a form is read, but
never written.
-/

set_option autoImplicit false

namespace ReadThrough.Codec

/-- Why stored bytes cannot be read as a record. -/
inductive Fault where
  | endOfInput
  | endlessNumber
  | badFlag
  | badOption
  | badText
  | badTime
  deriving DecidableEq, Repr

namespace Varint

/-- How wide a number may be: this many groups, and at most this value in the last of them. -/
structure Width where
  groups : Nat
  lastByte : Nat
  deriving DecidableEq, Repr

/-- Numbers below `2 ^ 32`. -/
def word32 : Width := ⟨5, 0x0f⟩

/-- Numbers below `2 ^ 64`. -/
def word64 : Width := ⟨10, 0x01⟩

/-- The shortest written form. -/
def encode (n : Nat) : List UInt8 :=
  if n < 128 then [UInt8.ofNat n] else UInt8.ofNat (n % 128 + 128) :: encode (n / 128)

/-- Reads a number of at most `groups` groups and returns what follows it. -/
def readGroups (lastByte : Nat) : Nat → List UInt8 → Except Fault (Nat × List UInt8)
  | 0, _ => .error .endlessNumber
  | _ + 1, [] => .error .endOfInput
  | groups + 1, b :: rest =>
    if b.toNat < 128 then
      if groups = 0 ∧ lastByte < b.toNat then .error .endlessNumber else .ok (b.toNat, rest)
    else
      match readGroups lastByte groups rest with
      | .ok (n, rest) => .ok (b.toNat - 128 + 128 * n, rest)
      | .error e => .error e

/-- Reads a number of the given width and returns what follows it. -/
def read (w : Width) (bytes : List UInt8) : Except Fault (Nat × List UInt8) :=
  readGroups w.lastByte w.groups bytes

/-! ## What is written is read back -/

/-- One more than the largest number of so many groups. -/
def bound (lastByte : Nat) : Nat → Nat
  | 0 => 0
  | 1 => lastByte + 1
  | groups + 2 => 128 * bound lastByte (groups + 1)

theorem readGroups_encode {lastByte : Nat} (hl : lastByte < 128) (groups n : Nat)
    (hn : n < bound lastByte groups) (rest : List UInt8) :
    readGroups lastByte groups (encode n ++ rest) = .ok (n, rest) := by
  induction groups generalizing n with
  | zero => simp [bound] at hn
  | succ groups ih =>
    by_cases h : n < 128
    · have hb : (UInt8.ofNat n).toNat = n := by
        rw [UInt8.toNat_ofNat']
        omega
      have hlast : ¬(groups = 0 ∧ lastByte < n) := by
        rintro ⟨rfl, hlt⟩
        simp only [bound] at hn
        omega
      rw [encode, if_pos h]
      simp only [List.cons_append, List.nil_append, readGroups, hb, if_pos h, if_neg hlast]
    · have hb : (UInt8.ofNat (n % 128 + 128)).toNat = n % 128 + 128 := by
        rw [UInt8.toNat_ofNat']
        omega
      have hq : n / 128 < bound lastByte groups := by
        cases groups with
        | zero =>
          simp only [bound] at hn
          omega
        | succ groups =>
          simp only [bound] at hn
          omega
      rw [encode, if_neg h, List.cons_append, readGroups, hb, if_neg (by omega), ih _ hq]
      simp only [Except.ok.injEq, Prod.mk.injEq, and_true]
      omega

theorem read_word32_encode {n : Nat} (hn : n < 4294967296) (rest : List UInt8) :
    read word32 (encode n ++ rest) = .ok (n, rest) := by
  have hb : bound word32.lastByte word32.groups = 4294967296 := by simp only [bound, word32]
  exact readGroups_encode (by decide) _ n (hb ▸ hn) rest

theorem read_word64_encode {n : Nat} (hn : n < 18446744073709551616) (rest : List UInt8) :
    read word64 (encode n ++ rest) = .ok (n, rest) := by
  have hb : bound word64.lastByte word64.groups = 18446744073709551616 := by
    simp only [bound, word64]
  exact readGroups_encode (by decide) _ n (hb ▸ hn) rest

end Varint

end ReadThrough.Codec
