import ReadThrough.Proofs.Url.Server
import ReadThrough.Redis.Address

/-!
# What the client makes of a URL

The client judges the parts of a URL in turn and stops at the first one that is at fault. What it
has in the end is what each part says by itself (`ofNetworkUrl_eq_ok_iff`): a user and a password
are the texts that stand behind percent signs, an empty user is none, and a path that is a number
is the database. Over the network it reaches only what a URL with a host names
(`credentials_of_ofUrl`).
-/

set_option autoImplicit false

namespace ReadThrough.Redis.Address

open Text Url

theorem bind_eq_ok_iff {ε α β : Type} {x : Except ε α} {f : α → Except ε β} {b : β} :
    (x >>= f) = .ok b ↔ ∃ a, x = .ok a ∧ f a = .ok b := by
  cases x with
  | error e => exact iff_of_false nofun fun ⟨_, failed, _⟩ => nomatch failed
  | ok a => exact ⟨fun done => ⟨a, rfl, done⟩, fun ⟨_, same, done⟩ => by cases same; exact done⟩

theorem map_some_eq_ok_iff {ε α : Type} {x : Except ε α} {a : α} :
    x.map some = .ok (some a) ↔ x = .ok a := by
  cases x with
  | error e => exact iff_of_false nofun nofun
  | ok b => rw [Except.map, Except.ok.injEq, Option.some.injEq, Except.ok.injEq]

theorem readText_eq_ok_iff {f : Fault} {cs : List Char} {text : String} :
    readText f cs = .ok text ↔ percentText? cs = some text := by
  unfold readText
  split
  case h_1 read => rw [read, Except.ok.injEq, Option.some.injEq]
  case h_2 none => exact iff_of_false nofun fun read => nomatch none.symm.trans read

/-- An empty user is none. -/
theorem readUsername_eq_some_iff {cs : List Char} {username : String} :
    readUsername cs = .ok (some username) ↔ cs ≠ [] ∧ percentText? cs = some username := by
  unfold readUsername
  split
  case isTrue empty =>
    exact iff_of_false nofun fun present => present.1 (List.isEmpty_iff.1 empty)
  case isFalse present =>
    rw [List.isEmpty_iff] at present
    rw [map_some_eq_ok_iff, readText_eq_ok_iff]
    exact (and_iff_right present).symm

theorem readPassword_eq_some_iff {written : Option (List Char)} {password : String} :
    readPassword written = .ok (some password) ↔
      ∃ cs, written = some cs ∧ percentText? cs = some password := by
  cases written with
  | none => exact iff_of_false nofun fun ⟨_, present, _⟩ => nomatch present
  | some cs =>
    rw [readPassword, map_some_eq_ok_iff, readText_eq_ok_iff]
    simp only [Option.some.injEq, exists_eq_left']

/-- A server on the network is what its URL says, part by part. -/
theorem ofNetworkUrl_eq_ok_iff {u : Url} {host : String} {a : Address} :
    ofNetworkUrl u host = .ok a ↔ ∃ database username password version,
      databaseOfPath u.path = .ok database ∧ readUsername u.user = .ok username ∧
        readPassword u.password = .ok password ∧
          readVersion u.query = .ok version ∧
            a = ⟨.network host (u.port.getD defaultPort), database, username, password,
              version⟩ := by
  unfold ofNetworkUrl
  simp only [bind_eq_ok_iff, pure, Except.pure, Except.ok.injEq]
  constructor
  · rintro ⟨database, number, username, user, password, secret, version, chosen, rfl⟩
    exact ⟨database, username, password, version, number, user, secret, chosen, rfl⟩
  · rintro ⟨database, username, password, version, number, user, secret, chosen, rfl⟩
    exact ⟨database, number, username, user, password, secret, version, chosen, rfl⟩

/-- Only a server on the network is reached over the network. -/
theorem ofNetworkUrl_of_ofUrl {u : Url} {a : Address} {host : String} {port : Nat}
    (read : ofUrl u = .ok a) (reached : a.place = .network host port) :
    ∃ host, ofNetworkUrl u host = .ok a := by
  unfold ofUrl at read
  split at read
  case h_1 => cases read
  case h_2 =>
    unfold ofSocketUrl at read
    split at read
    · cases read
    · dsimp only at read
      split at read <;>
      · obtain ⟨database, -, read⟩ := bind_eq_ok_iff.1 read
        obtain ⟨version, -, read⟩ := bind_eq_ok_iff.1 read
        cases read
        cases reached
  case h_3 => cases read
  case h_4 => cases read
  case h_5 => exact ⟨_, read⟩

/-- A user and a password that the client logs in with stand for parts of the URL. -/
theorem credentials_of_ofUrl {u : Url} {a : Address} {host username password : String} {port : Nat}
    (read : ofUrl u = .ok a) (reached : a.place = .network host port)
    (users : a.username = some username) (passwords : a.password = some password) :
    u.user ≠ [] ∧ percentText? u.user = some username ∧
      ∃ written, u.password = some written ∧ percentText? written = some password := by
  obtain ⟨_, networked⟩ := ofNetworkUrl_of_ofUrl read reached
  obtain ⟨_, _, _, _, -, user, secret, -, rfl⟩ := ofNetworkUrl_eq_ok_iff.1 networked
  cases users
  cases passwords
  obtain ⟨some_user, users⟩ := readUsername_eq_some_iff.1 user
  exact ⟨some_user, users, readPassword_eq_some_iff.1 secret⟩

theorem readSigned?_number {n : Nat} (small : n < 9223372036854775808) :
    readSigned? (toString n).toList = some (n : Int) := by
  have within : (-9223372036854775808 : Int) ≤ n ∧ (n : Int) < 9223372036854775808 := by omega
  have unsigned : ∀ sign : Char, sign.isDigit = false →
      ∀ rest, (toString n).toList ≠ sign :: rest := by
    intro sign other rest same
    have digit := Numeral.isDigit_of_mem (same ▸ List.mem_cons_self : sign ∈ (toString n).toList)
    rw [other] at digit
    cases digit
  unfold readSigned?
  split
  case h_1 rest same => exact (unsigned '-' rfl rest same).elim
  case h_2 rest same => exact (unsigned '+' rfl rest same).elim
  case h_3 =>
    rw [Numeral.unsigned?_toString]
    exact Option.filter_some_pos (decide_eq_true within)

theorem databaseOfPath_number {n : Nat} (small : n < 9223372036854775808) :
    databaseOfPath ('/' :: (toString n).toList) = .ok n := by
  have kept : ∀ {cs : List Char}, (∀ ch ∈ cs, ch.isDigit) →
      cs.dropWhile (fun ch => ch == '/') = cs := by
    intro cs digits
    cases cs with
    | nil => rfl
    | cons ch rest =>
      refine List.dropWhile_cons_of_neg fun slash => ?_
      rw [beq_iff_eq] at slash
      exact absurd (digits ch List.mem_cons_self) (by rw [slash]; decide)
  have digits : ∀ ch ∈ (toString n).toList, ch.isDigit := fun ch => Numeral.isDigit_of_mem
  unfold databaseOfPath
  dsimp only
  rw [List.dropWhile_cons_of_pos (by rfl), kept digits,
    kept fun ch mem => digits ch (List.mem_reverse.1 mem), List.reverse_reverse]
  split
  case h_1 none => exact (Numeral.toList_toString_ne_nil n none).elim
  case h_2 => rw [readDatabase, readSigned?_number small]

end ReadThrough.Redis.Address
