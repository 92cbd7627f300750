import ReadThrough.Proofs.Url.Authority

/-!
# Reading the URL of a server

The reader of URLs makes the three cuts of the authority and judges what it has cut out. What it
takes for user and password are therefore the parts that the cuts give, except that it does without
a password that is empty (`divides_of_readAuthority?`). In the other direction, an authority that is
put together of credentials, a host of ordinary characters and a written port is read whole, and so
is a path that is a number.
-/

set_option autoImplicit false

namespace ReadThrough.Url

open Text

/-! ## Characters -/

theorem endsAuthority_of_isDigit {c : Char} (digit : c.isDigit) : endsAuthority c = false := by
  rw [Bool.eq_false_iff]
  intro ends
  simp only [endsAuthority, Bool.or_eq_true, beq_iff_eq] at ends
  rcases ends with (rfl | rfl) | rfl
  · exact absurd digit (by decide)
  · exact absurd digit (by decide)
  · exact absurd digit (by decide)

theorem isEdge_of_isDigit {c : Char} (digit : c.isDigit) : isEdge c = false := by
  rw [Char.isDigit, Bool.and_eq_true, decide_eq_true_eq] at digit
  have low : 48 ≤ c.toNat := digit.1
  exact decide_eq_false (by omega)

/-- What ends an authority, or divides it, is in no host. -/
theorem of_not_forbidden {c : Char} (whole : isForbidden c = false) :
    endsAuthority c = false ∧ c ≠ ':' ∧ c ≠ '@' ∧ c ≠ '[' ∧ c ≠ ']' := by
  have other : ∀ d, isForbidden d = true → c ≠ d := by
    rintro d forbidden rfl
    rw [whole] at forbidden
    cases forbidden
  refine ⟨?_, other ':' (by decide), other '@' (by decide), other '[' (by decide),
    other ']' (by decide)⟩
  simp [endsAuthority, other '/' (by decide), other '?' (by decide), other '#' (by decide)]

/-! ## The text -/

/-- Between characters that belong to the text nothing is dropped but breaks. -/
theorem tidy_eq_filter {cs : List Char} (first : ∀ c ∈ cs.head?, isEdge c = false)
    (last : ∀ c ∈ cs.getLast?, isEdge c = false) : tidy cs = cs.filter fun c => !isBreak c := by
  have kept : ∀ {l : List Char}, (∀ c ∈ l.head?, isEdge c = false) → l.dropWhile isEdge = l := by
    intro l front
    cases l with
    | nil => rfl
    | cons c rest => exact List.dropWhile_cons_of_neg (by simp [front c rfl])
  rw [tidy, kept first, kept (by rwa [List.head?_reverse]), List.reverse_reverse]

/-- A text from which no break is dropped has none. -/
theorem unbroken_iff {cs : List Char} :
    cs.filter (fun c => !isBreak c) = cs ↔ ∀ c ∈ cs, isBreak c = false := by
  rw [List.filter_eq_self]
  simp only [Bool.not_eq_true']

/-! ## Host and port -/

variable {host rest : List Char} {port : Nat}

theorem spanHost_append (whole : ∀ c ∈ host, isForbidden c = false) :
    spanHost false (host ++ ':' :: rest) = (host, ':' :: rest) := by
  induction host with
  | nil => rfl
  | cons c host ih =>
    obtain ⟨inside, colon, -, opening, closing⟩ := of_not_forbidden (whole c List.mem_cons_self)
    have more := ih fun d mem => whole d (List.mem_cons_of_mem c mem)
    simp [spanHost, inside, colon, opening, closing, more]

theorem readHost?_of_whole (whole : ∀ c ∈ host, isForbidden c = false) :
    readHost? host = some (String.ofList host) := by
  unfold readHost?
  split
  case h_1 cs => exact ((of_not_forbidden (whole '[' List.mem_cons_self)).2.2.2.1 rfl).elim
  case h_2 => exact if_neg (by simpa using whole)

theorem readPort?_append (small : port < Numeral.bound16)
    (ends : ∀ c ∈ rest.head?, endsAuthority c = true) :
    readPort? ((toString port).toList ++ rest) = some (some port, rest) := by
  have cut : ((toString port).toList ++ rest).span (fun c => (Numeral.digit? c).isSome) =
      ((toString port).toList, rest) := by
    simp only [Numeral.isSome_digit?]
    refine span_eq_iff.2 ⟨rfl, fun c => Numeral.isDigit_of_mem, fun c mem => ?_⟩
    rw [Bool.eq_false_iff]
    intro digit
    exact absurd (ends c mem) (by rw [endsAuthority_of_isDigit digit]; exact Bool.false_ne_true)
  have behind : (rest.head?.all fun c => endsAuthority c || c == '\\') = true := by
    rw [Option.all_eq_true]
    intro c mem
    rw [ends c mem, Bool.true_or]
  have digits : (toString port).toList.isEmpty = false :=
    List.isEmpty_eq_false_iff.2 (Numeral.toList_toString_ne_nil port)
  unfold readPort?
  rw [cut]
  simp only [behind, digits, Numeral.digits?_toString]
  simp [small]

/-- Host and port are read back where the authority ends behind them. -/
theorem readServer?_append (whole : ∀ c ∈ host, isForbidden c = false) (some_host : host ≠ [])
    (small : port < Numeral.bound16) (ends : ∀ c ∈ rest.head?, endsAuthority c = true) :
    readServer? (host ++ ':' :: ((toString port).toList ++ rest)) =
      some (some (String.ofList host), some port, rest) := by
  unfold readServer?
  rw [spanHost_append whole]
  split
  case h_1 same => exact (some_host (Prod.mk.inj same).1).elim
  case h_2 same => exact (some_host (Prod.mk.inj same).1).elim
  case h_3 same =>
    cases same
    rw [readHost?_of_whole whole, readPort?_append small ends]
    rfl
  case h_4 other same =>
    cases same
    exact (other _ rfl).elim

/-! ## Numbers as paths -/

theorem fields_of_not_mem {separator : Char} {cs : List Char} (none : separator ∉ cs) :
    fields separator cs = [cs] := by
  induction cs with
  | nil => rfl
  | cons c rest ih =>
    have other : c ≠ separator := fun same => none (same ▸ List.mem_cons_self)
    simp [fields, ih fun mem => none (List.mem_cons_of_mem c mem), other]

theorem tidyPath_number (n : Nat) :
    tidyPath ('/' :: (toString n).toList) = '/' :: (toString n).toList := by
  have slash : '/' ∉ (toString n).toList := fun mem =>
    absurd (Numeral.isDigit_of_mem mem) (by decide)
  have dots : dots? (toString n).toList = none := by
    cases shown : (toString n).toList with
    | nil => exact (Numeral.toList_toString_ne_nil n shown).elim
    | cons c rest =>
      have digit : c.isDigit := Numeral.isDigit_of_mem (shown ▸ List.mem_cons_self)
      unfold dots?
      split
      case h_1 same => cases same
      case h_2 same => cases same; exact absurd digit (by decide)
      case h_3 same => cases same; exact absurd digit (by decide)
      case h_4 same => cases same; exact absurd digit (by decide)
      case h_5 => rfl
  rw [tidyPath, fields_of_not_mem slash, resolve, dots]
  rfl

/-- Behind a number the path ends with the text or at a hash, and there is no query. -/
theorem readRest_number (n : Nat) {tail : List Char} (ends : ∀ c ∈ tail.head?, c = '#') :
    readRest ('/' :: ((toString n).toList ++ tail)) = ('/' :: (toString n).toList, []) := by
  have cut : ('/' :: ((toString n).toList ++ tail)).span (fun c => !(c == '?' || c == '#')) =
      ('/' :: (toString n).toList, tail) := by
    refine span_eq_iff.2 ⟨rfl, fun c mem => ?_, fun c mem => ?_⟩
    · rcases List.mem_cons.1 mem with rfl | mem
      · rfl
      · have inside := endsAuthority_of_isDigit (Numeral.isDigit_of_mem mem)
        simp only [endsAuthority, Bool.or_eq_false_iff] at inside
        simp [inside]
    · rw [ends c mem]
      rfl
  unfold readRest
  rw [cut]
  dsimp only
  split
  case h_1 query => cases ends '?' rfl
  case h_2 => rfl

/-! ## The authority -/

variable {cs user password place : List Char} {scheme : String} {u : Url}

theorem cutAt_of_readUser (secured : (readUser cs).2 = some password) :
    cutAt ':' cs = ((readUser cs).1, some password) ∧ password ≠ [] := by
  obtain ⟨found, nonempty⟩ := Option.filter_eq_some_iff.1 secured
  exact ⟨Prod.ext rfl found, by simpa using nonempty⟩

/-- A user and a password that are read are what the cuts give. -/
theorem divides_of_readAuthority? (read : readAuthority? scheme cs = some u)
    (secured : u.password = some password) :
    ∃ place rest, Divides cs u.user password place rest ∧ password ≠ [] := by
  obtain ⟨authority, rest, cut⟩ : ∃ authority rest,
      cs.span (fun c => !endsAuthority c) = (authority, rest) := ⟨_, _, rfl⟩
  obtain ⟨info, place, last⟩ : ∃ info place, cutAtLast '@' authority = (info, place) := ⟨_, _, rfl⟩
  unfold readAuthority? at read
  simp only [cut, last] at read
  split at read
  · cases read
  · obtain ⟨⟨host, port, more⟩, -, read⟩ := Option.bind_eq_some_iff.1 read
    dsimp only at read
    split at read
    · cases read
    · have parts : u.user = (readUser (info.getD [])).1 ∧
          u.password = (readUser (info.getD [])).2 := by
        cases read
        exact ⟨rfl, rfl⟩
      rw [parts.2] at secured
      obtain ⟨first, nonempty⟩ := cutAt_of_readUser secured
      cases info with
      | none => cases first
      | some info =>
        rw [parts.1]
        exact ⟨place, rest, divides_iff.2 ⟨authority, info, cut, last, first⟩, nonempty⟩

/-- What is put together of credentials, host, port and a number is read so. -/
theorem readAuthority?_of_divides {database : Nat} {tail : List Char}
    (d : Divides cs user password (host ++ ':' :: (toString port).toList)
      ('/' :: ((toString database).toList ++ tail)))
    (ends : ∀ c ∈ tail.head?, c = '#') (some_password : password ≠ [])
    (whole : ∀ c ∈ host, isForbidden c = false) (some_host : host ≠ [])
    (small : port < Numeral.bound16) :
    readAuthority? scheme cs = some ⟨scheme, user, some password, some (String.ofList host),
      some port, '/' :: (toString database).toList, []⟩ := by
  obtain ⟨authority, info, cut, last, first⟩ := divides_iff.1 d
  have path : ∀ c ∈ ('/' :: ((toString database).toList ++ tail)).head?,
      endsAuthority c = true := by
    rintro c ⟨⟩
    rfl
  have server := readServer?_append whole some_host small path
  have credentials : readUser info = (user, some password) := by
    rw [readUser, first]
    simp [some_password]
  unfold readAuthority?
  simp only [cut, last]
  rw [if_neg (by simp), Option.getD_some, credentials, List.append_assoc, List.cons_append, server]
  simp only [Option.bind_some, readRest_number database ends, tidyPath_number]
  rfl

end ReadThrough.Url
