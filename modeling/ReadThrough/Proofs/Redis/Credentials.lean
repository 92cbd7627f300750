import ReadThrough.Proofs.Redis.Address
import ReadThrough.Redis.Config

/-!
# Credentials in a connection string

A connection string is a URL, and the settings of a connection are written into it as they are. So
whether they can be read back is decided by the credentials alone, where a host is plain: nothing in
them may be taken for the end of the authority, for the colon between user and password, or for a
byte behind a percent sign.

The grammar of URLs is stated on its own (`namedBy?`). By that grammar the settings are read back
exactly if the credentials are unmistakable. The client's own reader is stricter: it drops tabs and
line ends, and an empty user or password is none to it. It connects as the settings say exactly if
the credentials are unmistakable and free of all that. Both are equivalences, so for all other
credentials the string names another place, another user or another password, or nothing. A password
may even hold a place of its own, and the client then logs in there (`misdirected`).
-/

set_option autoImplicit false

namespace ReadThrough.Redis

open Text Url

/-! ## The grammar -/

/-- What the URL of a server names. -/
structure Named where
  username : String
  password : String
  host : String
  port : Nat
  database : Nat
  deriving DecidableEq, Repr

/-- What follows the scheme and two slashes. -/
def afterScheme? : List Char → Option (List Char)
  | 'r' :: 'e' :: 'd' :: 'i' :: 's' :: ':' :: '/' :: '/' :: rest => some rest
  | _ => none

/-- User, password and place: user information ends at the last `@`, and a user at the first
colon. -/
def cutCredentials? (authority : List Char) : Option (List Char × List Char × List Char) :=
  match cutAtLast '@' authority with
  | (some info, place) =>
    match cutAt ':' info with
    | (user, some password) => some (user, password, place)
    | (_, none) => none
  | (none, _) => none

/-- Host and port. -/
def cutPort? (place : List Char) : Option (String × Nat) :=
  match cutAt ':' place with
  | (host, some port) => (Numeral.unsigned? port).map fun port => (String.ofList host, port)
  | (_, none) => none

/-- The number that a path is. -/
def numberedBy? (rest : List Char) : Option Nat :=
  match (readRest rest).1 with
  | '/' :: digits => Numeral.unsigned? digits
  | _ => none

/-- What a connection string names by the grammar of URLs: the authority ends at the first slash,
question mark or hash, the user information is cut out of it and stands behind percent signs, and
the path is the database. -/
def namedBy? (s : String) : Option Named := do
  let cs ← afterScheme? s.toList
  let (authority, rest) := cs.span fun c => !endsAuthority c
  let (user, password, place) ← cutCredentials? authority
  let username ← percentText? user
  let password ← percentText? password
  let (host, port) ← cutPort? place
  let database ← numberedBy? rest
  return ⟨username, password, host, port, database⟩

theorem cutCredentials?_eq_some_iff {authority user password place : List Char} :
    cutCredentials? authority = some (user, password, place) ↔
      ∃ info, cutAtLast '@' authority = (some info, place) ∧
        cutAt ':' info = (user, some password) := by
  rw [cutCredentials?]
  split
  case h_1 info place' last =>
    rw [last]
    split
    case h_1 user' password' first =>
      constructor
      · rintro ⟨⟩
        exact ⟨info, rfl, first⟩
      · rintro ⟨_, ⟨⟩, again⟩
        cases first.symm.trans again
        rfl
    case h_2 user' first =>
      refine iff_of_false nofun ?_
      rintro ⟨_, ⟨⟩, again⟩
      cases first.symm.trans again
  case h_2 place' last =>
    refine iff_of_false nofun ?_
    rintro ⟨_, again, -⟩
    cases last.symm.trans again

variable {s : String} {n : Named} {cs : List Char}

/-- The parts that stand for a user and a password are those that the cuts give. -/
theorem divides_of_namedBy? (shown : afterScheme? s.toList = some cs) (read : namedBy? s = some n) :
    ∃ user password place rest, Divides cs user password place rest ∧
      percentText? user = some n.username ∧ percentText? password = some n.password := by
  obtain ⟨authority, rest, cut⟩ : ∃ authority rest,
      cs.span (fun c => !endsAuthority c) = (authority, rest) := ⟨_, _, rfl⟩
  unfold namedBy? at read
  simp only [shown, cut, Option.bind_eq_bind, Option.bind_some, Option.bind_eq_some_iff,
    Prod.exists] at read
  obtain ⟨user, password, place, cut', username, users, written, passwords, host, port, -, database,
    -, ⟨⟩⟩ := read
  obtain ⟨info, last, first⟩ := cutCredentials?_eq_some_iff.1 cut'
  exact ⟨user, password, place, rest, divides_iff.2 ⟨authority, info, cut, last, first⟩, users,
    passwords⟩

/-- What is put together of parts that stand for a user and a password, of a host and of numbers is
read so. -/
theorem namedBy?_of_divides {user password host tail : List Char}
    (shown : afterScheme? s.toList = some cs)
    (d : Divides cs user password (host ++ ':' :: (toString n.port).toList)
      ('/' :: ((toString n.database).toList ++ tail)))
    (ends : ∀ c ∈ tail.head?, c = '#') (users : percentText? user = some n.username)
    (passwords : percentText? password = some n.password)
    (hosted : String.ofList host = n.host) (noColon : ':' ∉ host) : namedBy? s = some n := by
  obtain ⟨authority, info, cut, last, first⟩ := divides_iff.1 d
  have credentials := cutCredentials?_eq_some_iff.2 ⟨info, last, first⟩
  have place : cutPort? (host ++ ':' :: (toString n.port).toList) = some (n.host, n.port) := by
    rw [cutPort?, cutAt_eq_some_iff.2 ⟨rfl, noColon⟩]
    simp only [Numeral.unsigned?_toString, Option.map_some, hosted]
  have number : numberedBy? ('/' :: ((toString n.database).toList ++ tail)) = some n.database := by
    rw [numberedBy?, readRest_number n.database ends]
    exact Numeral.unsigned?_toString n.database
  unfold namedBy?
  simp only [shown, cut, Option.bind_eq_bind, Option.bind_some, credentials, users, passwords,
    place, number]
  rfl

/-! ## The settings as they are written -/

/-- A character of a plain host name: a letter, a digit, a dot or a hyphen. -/
def isPlain (c : Char) : Bool := c.isAlphanum || c == '.' || c == '-'

/-- A plain host name. -/
def isPlainName (host : String) : Bool := host.toList.all isPlain

namespace Config

/-- The user that is named next to a password. -/
def user (c : Config) : String := c.username.getD "default"

/-- Settings with a password, for a host with a plain name. -/
structure Secured (c : Config) (password : String) : Prop where
  password : c.password = some password
  host : isPlainName c.host

/-- Host, port and database, with something behind them. -/
def placed (c : Config) (tail : List Char) : List Char :=
  c.host.toList ++
    ':' :: ((toString c.port).toList ++ '/' :: ((toString c.database).toList ++ tail))

end Config

variable {c : Config} {password : String}

theorem isPlain_of_mem {host : String} (plain : isPlainName host) {ch : Char}
    (mem : ch ∈ host.toList) : isPlain ch :=
  List.all_eq_true.1 plain ch mem

theorem isForbidden_of_isPlain {ch : Char} (plain : isPlain ch) : isForbidden ch = false := by
  have none : " #/:<>?@[\\]^|".toList.any isPlain = false := by decide
  rw [Bool.eq_false_iff]
  intro forbidden
  rw [isForbidden, Bool.or_eq_true, decide_eq_true_eq, List.contains_iff_mem] at forbidden
  rcases forbidden with zero | mem
  · obtain rfl : ch = Char.ofNat 0 := by rw [← zero, Char.ofNat_toNat]
    exact absurd plain (by decide)
  · exact List.any_eq_false.1 none ch mem plain

theorem isBreak_of_isPlain {ch : Char} (plain : isPlain ch) : isBreak ch = false := by
  rw [Bool.eq_false_iff]
  intro dropped
  simp only [isBreak, Bool.or_eq_true, beq_iff_eq] at dropped
  rcases dropped with (rfl | rfl) | rfl
  · exact absurd plain (by decide)
  · exact absurd plain (by decide)
  · exact absurd plain (by decide)

theorem isPlain_of_isDigit {ch : Char} (digit : ch.isDigit) : isPlain ch := by
  simp [isPlain, Char.isAlphanum, digit]

/-- What is behind the credentials is plain but for a colon and a slash. -/
theorem mem_placed (plain : isPlainName c.host) {ch : Char}
    (mem : ch ∈ c.placed []) : isPlain ch ∨ ch = ':' ∨ ch = '/' := by
  simp only [Config.placed, List.append_nil, List.mem_append, List.mem_cons] at mem
  rcases mem with mem | rfl | mem | rfl | mem
  · exact Or.inl (isPlain_of_mem plain mem)
  · exact Or.inr (Or.inl rfl)
  · exact Or.inl (isPlain_of_isDigit (Numeral.isDigit_of_mem mem))
  · exact Or.inr (Or.inr rfl)
  · exact Or.inl (isPlain_of_isDigit (Numeral.isDigit_of_mem mem))

theorem at_not_mem_placed (plain : isPlainName c.host) : '@' ∉ c.placed [] := by
  intro mem
  rcases mem_placed plain mem with shown | same | same
  · exact absurd shown (by decide)
  · exact absurd same (by decide)
  · exact absurd same (by decide)

theorem isBreak_of_mem_placed (plain : isPlainName c.host) {ch : Char}
    (mem : ch ∈ c.placed []) : isBreak ch = false := by
  rcases mem_placed plain mem with shown | rfl | rfl
  · exact isBreak_of_isPlain shown
  · rfl
  · rfl

theorem placed_append (c : Config) (tail : List Char) : c.placed [] ++ tail = c.placed tail := by
  simp only [Config.placed, List.append_nil, List.append_assoc, List.cons_append]

theorem toList_place (c : Config) : c.place.toList = c.placed [] := by
  simp only [Config.place, Config.placed, String.toList_append, List.append_assoc, List.append_nil]
  rfl

theorem toList_connectionString (secured : c.password = some password) :
    c.connectionString.toList =
      "redis://".toList ++ (c.user.toList ++ ':' :: (password.toList ++ '@' :: c.placed [])) := by
  unfold Config.connectionString Config.user
  rw [secured]
  cases c.username with
  | none =>
    simp only [String.toList_append, toList_place, List.append_assoc]
    rfl
  | some username =>
    simp only [String.toList_append, toList_place, List.append_assoc]
    rfl

/-- Credentials that stay apart are found in front of the host. -/
theorem divides_placed {user password : List Char} (apart : Separable user password)
    (plain : isPlainName c.host) (tail : List Char) :
    Divides (user ++ ':' :: (password ++ '@' :: c.placed tail)) user password
      (c.host.toList ++ ':' :: (toString c.port).toList)
      ('/' :: ((toString c.database).toList ++ tail)) := by
  have place : ∀ tail, c.placed tail = (c.host.toList ++ ':' :: (toString c.port).toList) ++
      '/' :: ((toString c.database).toList ++ tail) := by
    intro tail
    simp only [Config.placed, List.append_assoc, List.cons_append]
  have noAt := at_not_mem_placed plain
  rw [place] at noAt ⊢
  refine apart.divides (fun mem => noAt (List.mem_append_left _ mem)) (fun ch mem => ?_)
    (by rintro ch ⟨⟩; rfl)
  rcases List.mem_append.1 mem with mem | mem
  · exact (of_not_forbidden (isForbidden_of_isPlain (isPlain_of_mem plain mem))).1
  · rcases List.mem_cons.1 mem with rfl | mem
    · rfl
    · exact endsAuthority_of_isDigit (Numeral.isDigit_of_mem mem)

/-! ## Reading them by the grammar -/

theorem afterScheme?_connectionString (secured : c.password = some password) :
    afterScheme? c.connectionString.toList =
      some (c.user.toList ++ ':' :: (password.toList ++ '@' :: c.placed [])) := by
  rw [toList_connectionString secured]
  rfl

/-- Credentials that stay apart are read as what they stand for, and with them the place behind
them. -/
theorem namedBy?_of_separable {user password : List Char} {username secret : String}
    {tail : List Char}
    (shown : afterScheme? s.toList = some (user ++ ':' :: (password ++ '@' :: c.placed tail)))
    (plain : isPlainName c.host) (apart : Separable user password)
    (ends : ∀ ch ∈ tail.head?, ch = '#') (users : percentText? user = some username)
    (passwords : percentText? password = some secret) :
    namedBy? s = some ⟨username, secret, c.host, c.port, c.database⟩ := by
  have noColon : ':' ∉ c.host.toList := fun mem => absurd (isPlain_of_mem plain mem) (by decide)
  exact namedBy?_of_divides shown (divides_placed apart plain tail) ends users passwords
    String.ofList_toList noColon

/-- By the grammar the settings are read back if there is nothing in the credentials to mistake, and
for no other credentials. -/
theorem namedBy?_connectionString_iff (sec : c.Secured password) :
    namedBy? c.connectionString = some ⟨c.user, password, c.host, c.port, c.database⟩ ↔
      Unmistakable c.user.toList password.toList := by
  have shown := afterScheme?_connectionString sec.password
  constructor
  · intro read
    obtain ⟨_, _, _, _, d, users, passwords⟩ := divides_of_namedBy? shown read
    exact (d.unmistakable (at_not_mem_placed sec.host) (List.Sublist.refl _) (List.Sublist.refl _)
      (percentText?_eq_some_iff.1 users) (percentText?_eq_some_iff.1 passwords)).2.2
  · intro clear
    exact namedBy?_of_separable shown sec.host clear.toSeparable nofun clear.percentText?.1
      clear.percentText?.2

/-! ## Reading them as the client does -/

/-- Of a connection string nothing is dropped but breaks in the credentials. -/
theorem tidy_connectionString (sec : c.Secured password) :
    tidy c.connectionString.toList = "redis://".toList ++
      ((c.user.toList.filter fun ch => !isBreak ch) ++
        ':' :: ((password.toList.filter fun ch => !isBreak ch) ++ '@' :: c.placed [])) := by
  have first : ∀ ch ∈ c.connectionString.toList.head?, isEdge ch = false := by
    rw [toList_connectionString sec.password]
    rintro ch ⟨⟩
    rfl
  have last : ∀ ch ∈ c.connectionString.toList.getLast?, isEdge ch = false := by
    obtain ⟨d, found⟩ := Option.isSome_iff_exists.1
      (List.getLast?_isSome.2 (Numeral.toList_toString_ne_nil c.database))
    have digit : c.connectionString.toList.getLast? = some d := by
      rw [toList_connectionString sec.password, Config.placed, List.append_nil]
      simp only [← List.cons_append, ← List.append_assoc]
      rw [List.getLast?_append, List.getLast?_cons, found]
      rfl
    rw [digit]
    rintro ch ⟨⟩
    exact isEdge_of_isDigit (Numeral.isDigit_of_mem (List.mem_of_getLast? found))
  have kept := unbroken_iff.2 fun ch mem => isBreak_of_mem_placed sec.host mem
  rw [tidy_eq_filter first last, toList_connectionString sec.password, List.filter_append,
    List.filter_append, List.filter_cons_of_pos (by decide), List.filter_append,
    List.filter_cons_of_pos (by decide), kept]
  rfl

theorem read?_connectionString (sec : c.Secured password) :
    Url.read? c.connectionString = readAuthority? "redis"
      ((c.user.toList.filter fun ch => !isBreak ch) ++
        ':' :: ((password.toList.filter fun ch => !isBreak ch) ++ '@' :: c.placed [])) := by
  have scheme : ∀ cs, readScheme? ("redis://".toList ++ cs) = some ("redis", '/' :: '/' :: cs) := by
    intro cs
    have cut : cutAt ':' ("redis://".toList ++ cs) =
        ("redis".toList, some ('/' :: '/' :: cs)) := cutAt_eq_some_iff.2 ⟨rfl, by decide⟩
    rw [readScheme?, cut]
    rfl
  rw [Url.read?, tidy_connectionString sec, scheme]
  rfl

/-- Settings that name a place on the network: a plain name, and numbers that fit. -/
structure Config.Reachable (c : Config) : Prop where
  plain : isPlainName c.host
  hosted : c.host ≠ ""
  port : c.port < 65536
  database : c.database < 4294967296

/-- Credentials that the client takes as they are written. -/
structure Usable (user password : String) : Prop where
  clear : Unmistakable user.toList password.toList
  present : user ≠ "" ∧ password ≠ ""
  unbroken : (user.toList ++ password.toList).any isBreak = false

theorem Usable.isBreak {user password : String} (usable : Usable user password) {ch : Char}
    (mem : ch ∈ user.toList ++ password.toList) : Url.isBreak ch = false :=
  Bool.eq_false_iff.2 (List.any_eq_false.1 usable.unbroken ch mem)

/-- With usable credentials the client logs in where the place behind them says. -/
theorem read_of_usable {user : String} {tail : List Char}
    (parsed : Url.read? s =
      readAuthority? "redis" (user.toList ++ ':' :: (password.toList ++ '@' :: c.placed tail)))
    (reach : c.Reachable) (usable : Usable user password) (ends : ∀ ch ∈ tail.head?, ch = '#') :
    Address.read s =
      .ok ⟨.network c.host c.port, c.database, some user, some password, .two⟩ := by
  have whole : ∀ ch ∈ c.host.toList, isForbidden ch = false := fun ch mem =>
    isForbidden_of_isPlain (isPlain_of_mem reach.plain mem)
  have decoded := usable.clear.percentText?
  have d := divides_placed usable.clear.toSeparable reach.plain tail
  rw [Address.read, parsed, readAuthority?_of_divides d ends
    (mt String.toList_eq_nil_iff.1 usable.present.2) whole
    (mt String.toList_eq_nil_iff.1 reach.hosted) reach.port]
  have database : c.database < 9223372036854775808 := Nat.lt_trans reach.database (by decide)
  refine Address.ofNetworkUrl_eq_ok_iff.2 ⟨c.database, some user, some password, .two,
    Address.databaseOfPath_number database,
    Address.readUsername_eq_some_iff.2 ⟨mt String.toList_eq_nil_iff.1 usable.present.1, decoded.1⟩,
    Address.readPassword_eq_some_iff.2 ⟨_, rfl, decoded.2⟩, rfl, ?_⟩
  rw [String.ofList_toList, Option.getD_some]

/-- Where there is a place to reach, the client logs in there as the settings say if it takes the
credentials as they are written, and for no other credentials. -/
theorem read_connectionString_iff (sec : c.Secured password) (reach : c.Reachable) :
    Address.read c.connectionString =
        .ok ⟨.network c.host c.port, c.database, some c.user, some password, .two⟩ ↔
      Usable c.user password := by
  constructor
  · intro read
    unfold Address.read at read
    rw [read?_connectionString sec] at read
    split at read
    case h_2 => cases read
    case h_1 u parsed =>
      obtain ⟨some_user, users, written, passwords, shown⟩ :=
        Address.credentials_of_ofUrl read rfl rfl rfl
      obtain ⟨place, rest, d, some_password⟩ := divides_of_readAuthority? parsed passwords
      obtain ⟨⟨user, secret⟩, ⟨kept, kept'⟩, clear⟩ := d.unmistakable
        (at_not_mem_placed sec.host) List.filter_sublist List.filter_sublist
        (percentText?_eq_some_iff.1 users) (percentText?_eq_some_iff.1 shown)
      refine ⟨clear, ⟨?_, ?_⟩, List.any_eq_false.2 fun ch mem => Bool.eq_false_iff.1 ?_⟩
      · rw [user] at some_user
        exact mt String.toList_eq_nil_iff.2 some_user
      · rw [secret] at some_password
        exact mt String.toList_eq_nil_iff.2 some_password
      · rcases List.mem_append.1 mem with mem | mem
        · exact unbroken_iff.1 kept ch mem
        · exact unbroken_iff.1 kept' ch mem
  · intro usable
    have parsed := read?_connectionString sec
    rw [unbroken_iff.2 fun ch mem => usable.isBreak (List.mem_append_left _ mem),
      unbroken_iff.2 fun ch mem => usable.isBreak (List.mem_append_right _ mem)] at parsed
    exact read_of_usable parsed reach usable nofun

/-! ## What is carried -/

/-- How far a connection string carries the settings that it is written from. -/
structure Carried (c : Config) (password : String) : Prop where
  /-- By the grammar, all of them are read back exactly if the credentials are unmistakable. -/
  by_grammar : namedBy? c.connectionString =
    some ⟨c.user, password, c.host, c.port, c.database⟩ ↔
      Unmistakable c.user.toList password.toList
  /-- The client, where there is a place to reach, logs in there as the settings say exactly if they
  are unmistakable, not empty, and without the characters that it drops. -/
  by_client : c.Reachable → (Address.read c.connectionString =
    .ok ⟨.network c.host c.port, c.database, some c.user, some password, .two⟩ ↔
      Usable c.user password)

/-- Settings with a password, for a host with a plain name, are carried by their string if the
credentials cannot be mistaken, and for no other credentials. -/
theorem connectionString_carries_exactly (c : Config) (password : String)
    (sec : c.Secured password) : Carried c password :=
  ⟨namedBy?_connectionString_iff sec, read_connectionString_iff sec⟩

/-- Separators behind the place where they separate do no harm. -/
theorem connectionString_carries_exactly_separators :
    let c : Config := { Config.default with username := some "a@b", password := some "c:d@e" }
    c.Secured "c:d@e" ∧
      namedBy? c.connectionString = some ⟨"a@b", "c:d@e", "localhost", 6379, 0⟩ ∧
      Address.read c.connectionString =
        .ok ⟨.network "localhost" 6379, 0, some "a@b", some "c:d@e", .two⟩ := by
  intro c
  have sec : c.Secured "c:d@e" := ⟨rfl, by decide⟩
  have reach : c.Reachable := ⟨by decide, by decide, by decide, by decide⟩
  have usable : Usable c.user "c:d@e" := ⟨by decide, by decide, by decide⟩
  have carried := connectionString_carries_exactly c "c:d@e" sec
  exact ⟨sec, carried.by_grammar.2 usable.clear, (carried.by_client reach).2 usable⟩

/-- A password may hold a place of its own. The string then names that place, and the client sends
what stands before it there. -/
theorem misdirected {elsewhere : Config} (reach : elsewhere.Reachable)
    (sec : c.Secured (password ++ "@" ++ elsewhere.place ++ "#"))
    (usable : Usable c.user password) :
    namedBy? c.connectionString =
        some ⟨c.user, password, elsewhere.host, elsewhere.port, elsewhere.database⟩ ∧
      Address.read c.connectionString = .ok ⟨.network elsewhere.host elsewhere.port,
        elsewhere.database, some c.user, some password, .two⟩ := by
  have split : (password ++ "@" ++ elsewhere.place ++ "#").toList ++ '@' :: c.placed [] =
      password.toList ++ '@' :: elsewhere.placed ('#' :: '@' :: c.placed []) := by
    rw [← placed_append elsewhere]
    simp only [String.toList_append, toList_place, List.append_assoc]
    rfl
  have tail : ∀ ch ∈ ('#' :: '@' :: c.placed []).head?, ch = '#' := by
    rintro ch ⟨⟩
    rfl
  have users : ∀ ch ∈ c.user.toList, isBreak ch = false := fun ch mem =>
    usable.isBreak (List.mem_append_left _ mem)
  have secret : ∀ ch ∈ (password ++ "@" ++ elsewhere.place ++ "#").toList, isBreak ch = false := by
    intro ch mem
    simp only [String.toList_append, toList_place, List.mem_append] at mem
    rcases mem with ((mem | mem) | mem) | mem
    · exact usable.isBreak (List.mem_append_right _ mem)
    · cases List.mem_singleton.1 mem
      rfl
    · exact isBreak_of_mem_placed reach.plain mem
    · cases List.mem_singleton.1 mem
      rfl
  have shown := afterScheme?_connectionString sec.password
  have parsed := read?_connectionString sec
  rw [unbroken_iff.2 users, unbroken_iff.2 secret, split] at parsed
  rw [split] at shown
  have decoded := usable.clear.percentText?
  exact ⟨namedBy?_of_separable shown reach.plain usable.clear.toSeparable tail decoded.1 decoded.2,
    read_of_usable parsed reach usable tail⟩

/-- The settings of a server on this machine, with a password. -/
def onThisMachine (password : String) : Config :=
  { Config.default with password := some password }

/-- A slash in a password leaves no URL at all, a percent sign another password, and a place in it
is where the client logs in. -/
theorem reserved_characters_misread :
    namedBy? (onThisMachine "a/b").connectionString = none ∧
      Address.read (onThisMachine "a/b").connectionString = .error .notParsed ∧
      namedBy? (onThisMachine "%41").connectionString =
        some ⟨"default", "A", "localhost", 6379, 0⟩ ∧
      Address.read (onThisMachine "x@other:1/2#").connectionString =
        .ok ⟨.network "other" 1, 2, some "default", some "x", .two⟩ ∧
      ¬∀ (c : Config) (password : String), c.Secured password →
        namedBy? c.connectionString = some ⟨c.user, password, c.host, c.port, c.database⟩ := by
  have slash : namedBy? (onThisMachine "a/b").connectionString = none := by decide
  refine ⟨slash, by decide, ?_, ?_, fun carried => ?_⟩
  · have user : percentText? (onThisMachine "%41").user.toList = some "default" :=
      percentText?_eq_some_iff.2 (percentBytes_eq_iff.2 (by decide))
    have secret : percentText? "%41".toList = some "A" := by
      have first : hexDigit? '4' = some 4 := rfl
      have second : hexDigit? '1' = some 1 := rfl
      have escape : percentBytes "%41".toList = 65 :: percentBytes [] :=
        percentBytes_escape first second []
      have none : percentBytes [] = [] := percentBytes_eq_iff.2 not_hasEscape_nil
      have letter : bytesOf "A".toList = [65] := congrArg (· ++ []) (toList_bytes _)
      rw [percentText?_eq_some_iff, escape, none, letter]
    exact namedBy?_of_separable (afterScheme?_connectionString rfl) rfl (by decide) nofun user secret
  · have reach : Config.Reachable ⟨"other", 1, none, none, 2, 16, .ofSeconds 5⟩ :=
      ⟨rfl, by decide, by decide, by decide⟩
    have usable : Usable (onThisMachine "x@other:1/2#").user "x" :=
      ⟨by decide, by decide, by decide⟩
    exact (misdirected reach ⟨rfl, rfl⟩ usable).2
  · have read := carried (onThisMachine "a/b") "a/b" ⟨rfl, by decide⟩
    rw [slash] at read
    cases read

end ReadThrough.Redis
