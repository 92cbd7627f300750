import ReadThrough.Value

/-!
# Policies

A policy belongs to one call and says what that call wants: whether to look into the store at
all, whether a stale entry may be served while it is refreshed behind the caller's back, when
an entry counts as stale, how long what is written lives, and how long the caller is willing to
wait for the origin.

| `force` | `background` | store holds | the call |
|---|---|---|---|
| yes | any | anything | asks the origin and writes before it answers |
| no | any | nothing | asks the origin, answers, writes in the background |
| no | yes | a stale entry | answers the entry, refreshes it in the background |
| no | any | a fresh entry | answers the entry |
| no | no | a stale entry | answers the entry |
-/

set_option autoImplicit false

namespace ReadThrough

/-- What one call asks of the cache. -/
structure Policy where
  /-- Do not look into the store; fetch, and write before answering. -/
  force : Bool
  /-- A stale entry is served and refreshed in the background. -/
  background : Bool
  /-- The age at which an ordinary entry counts as stale. -/
  refreshAfter : Duration
  /-- The age at which a volatile entry counts as stale. -/
  fastRefreshAfter : Duration
  /-- How long a written entry lives. -/
  ttl : Duration
  /-- How long a written entry lives that says the origin knows of nothing. -/
  emptyTtl : Duration
  /-- How long the caller waits for the origin; without a limit it waits to the end. -/
  waitLimit : Option Duration
  deriving DecidableEq, Repr

namespace Policy

/-- Ten minutes. -/
def defaultRefreshAfter : Duration := .ofSeconds 600

/-- One day. -/
def defaultTtl : Duration := .ofSeconds 86400

/-- Look into the store first, serve what is there, wait for the origin to the end. -/
def default : Policy where
  force := false
  background := false
  refreshAfter := defaultRefreshAfter
  fastRefreshAfter := defaultRefreshAfter
  ttl := defaultTtl
  emptyTtl := defaultTtl
  waitLimit := none

instance : Inhabited Policy := ⟨default⟩

/-- For readers that prefer an old answer to waiting: both offsets are `after`. -/
def staleWhileRevalidate (after : Duration) : Policy :=
  { default with background := true, refreshAfter := after, fastRefreshAfter := after }

/-- How long a written payload lives under this policy. -/
def ttlFor (p : Policy) (payload : String) : Duration :=
  if payload.isEmpty then p.emptyTtl else p.ttl

/-- Whether a stored value is stale for this call. -/
def judgesStale (p : Policy) (v : Value) (now : Moment) : Bool :=
  v.isStale p.refreshAfter p.fastRefreshAfter now

end Policy

end ReadThrough
