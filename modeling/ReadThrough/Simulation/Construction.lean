import ReadThrough.Simulation.Session

/-!
# Trying out a new proxy

A proxy that has just been built is tried out once: it writes one payload under one key, and
then the store is looked at from the side, under the keys that the payload may have come to
stand under.
-/

set_option autoImplicit false

namespace ReadThrough.Simulation

/-- What trying out a new proxy shows. -/
structure Construction where
  set : Response
  health : Response
  size : Nat
  /-- What the store holds under each key that was looked at. -/
  found : List Response
  pending : Nat

namespace Construction

/-- Runs commands one after another and collects their answers. -/
def runAll (s : Session) : List Command → List Response × Session
  | [] => ([], s)
  | c :: rest =>
    let (r, s) := s.run c
    let (rs, s) := runAll s rest
    (r :: rs, s)

/-- Tries out a proxy with one payload under one key. -/
def inspect (start : Moment) (p : Proxy Source) (key payload : String) (keys : List String) :
    Construction :=
  let s : Session := ⟨World.ofProxies start [p], .empty⟩
  let (set, s) := s.run (.set 0 .default key payload)
  let (health, s) := s.run .health
  let size := s.world.store.size
  let (found, s) := runAll s (keys.map .storeGet)
  ⟨set, health, size, found, s.world.proxies.foldl (· + ·.pending) 0⟩

end Construction

end ReadThrough.Simulation
