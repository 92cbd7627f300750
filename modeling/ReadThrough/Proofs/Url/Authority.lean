import ReadThrough.Proofs.Text.Bytes
import ReadThrough.Proofs.Text.Cuts
import ReadThrough.Url.Basic

/-!
# User, password and place

The authority of a URL goes as far as the first character that ends it. The last `@` in it ends the
user information, and the first colon in that stands between user and password. Read backwards,
these three cuts say how the text is put together (`Divides`), and two texts that are put together
alike are cut alike.

What is written as a user, a colon, a password and an `@` need not be cut there again, for the cuts
know nothing of what was written. They are made there if the credentials are `Unmistakable`. If they
are not, no other place will do: a shorter piece never stands for as many bytes, and a longer one
would have to hold a separator that the cuts have left behind (`Divides.unmistakable`).
-/

set_option autoImplicit false

namespace ReadThrough.Url

open Text

/-- What follows two slashes: user, password and place, as they are written, and the rest. -/
structure Divides (cs user password place rest : List Char) : Prop where
  text : cs = user ++ ':' :: (password ++ '@' :: (place ++ rest))
  inside : ∀ c ∈ user ++ ':' :: (password ++ '@' :: place), endsAuthority c = false
  ends : ∀ c ∈ rest.head?, endsAuthority c = true
  noColon : ':' ∉ user
  noAt : '@' ∉ place

variable {cs user password place rest : List Char}

/-- The text is put together so exactly if the three cuts find these parts. -/
theorem divides_iff : Divides cs user password place rest ↔ ∃ authority info,
    cs.span (fun c => !endsAuthority c) = (authority, rest) ∧
      cutAtLast '@' authority = (some info, place) ∧ cutAt ':' info = (user, some password) := by
  simp only [span_eq_iff, cutAtLast_eq_some_iff, cutAt_eq_some_iff, Bool.not_eq_true',
    Bool.not_eq_false']
  constructor
  · rintro ⟨rfl, inside, ends, noColon, noAt⟩
    exact ⟨_, _, ⟨by simp, inside, ends⟩, ⟨by simp, noAt⟩, rfl, noColon⟩
  · rintro ⟨_, _, ⟨rfl, inside, ends⟩, ⟨rfl, noAt⟩, rfl, noColon⟩
    simp only [List.append_assoc, List.cons_append] at inside ⊢
    exact ⟨rfl, inside, ends, noColon, noAt⟩

/-! ## Finding credentials again -/

/-- What stands for a text of which some characters may have been left out in writing is no other
piece than the one that was written, and nothing has been left out, if no other separator is in the
way. -/
theorem eq_of_cut {c : Char} {all written found more tail : List Char}
    (same : found ++ c :: tail = written ++ c :: more) (kept : written.Sublist all)
    (stands : percentBytes found = bytesOf all) (early : c ∉ found ∨ c ∉ more) :
    found = all ∧ written = all ∧ tail = more := by
  have few : (bytesOf all).length ≤ (bytesOf found).length := by
    rw [← stands]
    exact length_percentBytes_le found
  rcases append_cons_eq_iff.1 same with ⟨rfl, behind⟩ | ⟨m, rfl, -⟩ | ⟨m, rfl, rfl⟩
  · rcases eq_or_fewer_of_sublist kept with rfl | fewer
    · exact ⟨rfl, rfl, behind⟩
    · exact (Nat.not_lt.2 few fewer).elim
  · -- What is found is a shorter piece than what was written.
    have separator := length_charBytes_pos c
    have enough : (bytesOf (found ++ c :: m)).length ≤ (bytesOf all).length := by
      rcases eq_or_fewer_of_sublist kept with rfl | fewer
      · exact Nat.le_refl _
      · exact Nat.le_of_lt fewer
    simp only [bytesOf_append, bytesOf_cons, List.length_append] at enough
    omega
  · -- It is a longer piece, with a separator in it that is also behind what was written.
    rcases early with none | none
    · exact (none (List.mem_append_right _ List.mem_cons_self)).elim
    · exact (none (List.mem_append_right _ List.mem_cons_self)).elim

/-- Credentials that stay apart from each other and from what is behind them: no character in them
ends the authority, and there is no colon in the user. -/
structure Separable (user password : List Char) : Prop where
  inside : (user ++ password).any endsAuthority = false
  noColon : ':' ∉ user

/-- Credentials in which there is nothing to mistake: neither is there anything that is taken for a
separator, nor a percent sign that stands for a byte. -/
structure Unmistakable (user password : List Char) : Prop extends Separable user password where
  unescaped : ¬HasEscape user ∧ ¬HasEscape password

theorem separable_iff {user password : List Char} : Separable user password ↔
    (user ++ password).any endsAuthority = false ∧ ':' ∉ user :=
  ⟨fun s => ⟨s.inside, s.noColon⟩, fun s => ⟨s.1, s.2⟩⟩

theorem unmistakable_iff {user password : List Char} : Unmistakable user password ↔
    Separable user password ∧ ¬HasEscape user ∧ ¬HasEscape password :=
  ⟨fun u => ⟨u.toSeparable, u.unescaped⟩, fun u => ⟨u.1, u.2⟩⟩

instance (user password : List Char) : Decidable (Separable user password) :=
  decidable_of_iff _ separable_iff.symm

instance (user password : List Char) : Decidable (Unmistakable user password) :=
  decidable_of_iff _ unmistakable_iff.symm

/-- Credentials of which some characters may have been left out in writing are read back from there
only if nothing has been left out and there is nothing in them to mistake. -/
theorem Divides.unmistakable {u p u' p' more : List Char}
    (d : Divides (u' ++ ':' :: (p' ++ '@' :: more)) user password place rest) (noAt : '@' ∉ more)
    (kept : u'.Sublist u) (kept' : p'.Sublist p)
    (stands : percentBytes user = bytesOf u) (stands' : percentBytes password = bytesOf p) :
    (user = u ∧ password = p) ∧ (u' = u ∧ p' = p) ∧ Unmistakable u p := by
  obtain ⟨rfl, users, behind⟩ := eq_of_cut d.text.symm kept stands (Or.inl d.noColon)
  obtain ⟨rfl, passwords, -⟩ := eq_of_cut behind kept' stands' (Or.inr noAt)
  have inside : (user ++ password).any endsAuthority = false := by
    refine List.any_eq_false.2 fun c mem => Bool.eq_false_iff.1 (d.inside c ?_)
    rcases List.mem_append.1 mem with mem | mem
    · exact List.mem_append_left _ mem
    · exact List.mem_append_right _ (List.mem_cons_of_mem _ (List.mem_append_left _ mem))
  exact ⟨⟨rfl, rfl⟩, ⟨users, passwords⟩, ⟨inside, d.noColon⟩, percentBytes_eq_iff.1 stands,
    percentBytes_eq_iff.1 stands'⟩

/-- Credentials that stay apart are cut out where they were written. -/
theorem Separable.divides {u p : List Char} (apart : Separable u p) (noAt : '@' ∉ place)
    (inside : ∀ c ∈ place, endsAuthority c = false)
    (ends : ∀ c ∈ rest.head?, endsAuthority c = true) :
    Divides (u ++ ':' :: (p ++ '@' :: (place ++ rest))) u p place rest := by
  have written := fun c mem => Bool.eq_false_iff.2 (List.any_eq_false.1 apart.inside c mem)
  refine ⟨rfl, fun c mem => ?_, ends, apart.noColon, noAt⟩
  simp only [List.mem_append, List.mem_cons] at mem
  rcases mem with mem | rfl | mem | rfl | mem
  · exact written c (List.mem_append_left p mem)
  · rfl
  · exact written c (List.mem_append_right u mem)
  · rfl
  · exact inside c mem

/-- Credentials that cannot be mistaken stand for themselves. -/
theorem Unmistakable.percentText? {user password : String}
    (clear : Unmistakable user.toList password.toList) :
    Text.percentText? user.toList = some user ∧ Text.percentText? password.toList = some password :=
  ⟨percentText?_eq_some_iff.2 (percentBytes_eq_iff.2 clear.unescaped.1),
    percentText?_eq_some_iff.2 (percentBytes_eq_iff.2 clear.unescaped.2)⟩

end ReadThrough.Url
