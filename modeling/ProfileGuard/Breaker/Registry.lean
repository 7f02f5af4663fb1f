import ProfileGuard.Breaker.Switchboard

/-!
# One breaker for each dependency

A service depends on a primary store, a cache, a document store and a message broker, each behind a
breaker of its own.

* **`Dependency`** — the four dependencies.
* **`Breaker.Registry`** — the breaker of each, with the calls through it.
* **`Breaker.Registry.status`** / **`Breaker.Registry.isHealthy`** — questions about all of them.
-/

namespace ProfileGuard

/-- A dependency of the service. -/
inductive Dependency where
  | primaryStore
  | cache
  | documentStore
  | messageBroker
  deriving DecidableEq

namespace Dependency

/-- All dependencies, in their order. -/
def all : List Dependency := [primaryStore, cache, documentStore, messageBroker]

/-- The name of a dependency. -/
def name : Dependency → String
  | primaryStore => "postgres"
  | cache => "redis"
  | documentStore => "mongodb"
  | messageBroker => "kafka"

/-- The dependency of a name. -/
def ofName? (text : String) : Option Dependency := all.find? (·.name = text)

end Dependency

namespace Breaker

/-- The breakers of all dependencies, with the calls through them. -/
abbrev Registry := Dependency → Traffic

namespace Registry

/-- Fresh breakers. -/
def start (settings : Dependency → Settings) (now : Instant) : Registry :=
  fun d => Traffic.start (settings d) now

/-- Default settings under the name of each dependency. -/
def defaults (d : Dependency) : Settings := { name := d.name }

/-- The registry with a fresh breaker for one dependency. -/
def replace (d : Dependency) (settings : Settings) (now : Instant) (r : Registry) : Registry :=
  fun other => if other = d then Traffic.start settings now else r other

/-- The phase of every breaker. -/
def status (now : Instant) (r : Registry) : Registry × List (Dependency × Phase) :=
  let looked : Registry := fun d => (r d).step now .observe
  (looked, Dependency.all.map fun d => (d, (looked d).breaker.circuit.phase))

/-- Looks at the given breakers until one is found open. -/
def noneOpen (now : Instant) : List Dependency → Registry → Registry × Bool
  | [], r => (r, true)
  | d :: ds, r =>
    let traffic := (r d).step now .observe
    let r : Registry := Switchboard.setLine d traffic r
    if traffic.breaker.circuit.phase = .opened then (r, false) else noneOpen now ds r

/-- Whether no breaker is open. -/
def isHealthy (now : Instant) (r : Registry) : Registry × Bool := noneOpen now Dependency.all r

end Registry

end Breaker

end ProfileGuard
