import ProfileGuard.KeySource.Basic
import ProfileGuard.Time.Duration

/-!
# Key rotation

A manager keeps an encryptor and the age of its current key.  Changing the key is left to an operator; a
checker, once started, looks at the age from time to time and publishes whether a change is due.

* **`Rotation.Manager`** — encryptor, age, checker, and what was published and announced.
* **`Rotation.Manager.rotate`** — a new key becomes the current one.
* **`Rotation.Manager.tick`** — the checker looks at the age of the key.
* **`Rotation.Manager.poll`** — a subscriber looks at what was published.
-/

namespace ProfileGuard.Rotation

/-- When a key change is due and how often that is looked at. -/
structure Schedule where
  /-- The age at which a key should be changed. -/
  period : Duration := Duration.ofSeconds (90 * 86400)
  /-- The time between two looks. -/
  interval : Duration := Duration.ofSeconds 3600

/-- The announcement of a key change to an observer. -/
structure Announcement where
  /-- The observer. -/
  observer : Nat
  old : UInt32
  new : UInt32
  deriving DecidableEq

/-- An encryptor with the age of its current key. -/
structure Manager where
  encryptor : Field.Encryptor
  schedule : Schedule
  lastRotation : Instant
  /-- Whether a key change was published to be due. -/
  due : Bool := false
  /-- How often that was published. -/
  publications : Nat := 0
  /-- The observer of key changes, the latest one. -/
  observer : Option Nat := none
  /-- The announcements made, oldest first. -/
  announced : List Announcement := []
  /-- When the checker looks next, while it runs. -/
  nextTick : Option Instant := none

namespace Manager

/-- A manager whose key is taken to be new. -/
def start (encryptor : Field.Encryptor) (schedule : Schedule) (now : Instant) : Manager :=
  { encryptor, schedule, lastRotation := now }

/-- The manager of all keys of a source. -/
def ofSnapshot (s : Except KeySource.Error KeySource.Snapshot) (secret : Bytes)
    (schedule : Schedule) (now : Instant) : Except Field.Error Manager := do
  match s with
  | .ok snapshot => return start (← snapshot.encryptor secret) schedule now
  | .error e => throw (.keySource e)

/-- The age of the current key. -/
def age (m : Manager) (now : Instant) : Duration := now - m.lastRotation

/-- Whether a key change is due. -/
def isDue (m : Manager) (now : Instant) : Bool := m.schedule.period ≤ m.age now

/-- The age of the current key in days, counted in whole seconds. -/
def days (m : Manager) (now : Instant) : Float :=
  (m.age now / Duration.ofSeconds 1).toFloat / 86400

/-- The manager with an observer in place of any other. -/
def observe (m : Manager) (observer : Nat) : Manager := { m with observer := some observer }

/-- Whether the checker runs. -/
def isRunning (m : Manager) : Bool := m.nextTick.isSome

/-- The checker starts and looks at once, unless it runs already. -/
def startChecker (m : Manager) (now : Instant) : Manager :=
  { m with nextTick := m.nextTick.or (some now) }

/-- The checker stops. -/
def stopChecker (m : Manager) : Manager := { m with nextTick := none }

/-- The checker looks at the age of the key; only a change is published. -/
def check (m : Manager) (now : Instant) : Manager :=
  if m.isDue now = m.due then m
  else { m with due := m.isDue now, publications := m.publications + 1 }

/-- The checker looks, if it is time. -/
def tick (m : Manager) (now : Instant) : Manager :=
  match m.nextTick with
  | some due =>
    if due ≤ now then { m.check now with nextTick := some (due + m.schedule.interval) } else m
  | none => m

/-- The announcement of a change of versions, if someone observes. -/
def announce (m : Manager) (old new : UInt32) : List Announcement :=
  match m.observer with
  | some observer => [⟨observer, old, new⟩]
  | none => []

/-- A key written in base64 becomes the current one, as the version after the present one. -/
def rotate (m : Manager) (now : Instant) (key : String) : Except Field.Error (Manager × UInt32) := do
  let key ← Field.Key.ofBase64 key
  let encryptor ← m.encryptor.promote key
  let manager := { m with
    encryptor
    lastRotation := now
    due := false
    publications := m.publications + 1
    announced := m.announced ++ m.announce m.encryptor.current encryptor.current }
  return (manager, encryptor.current)

/-- What a subscriber sees who has seen some number of publications: whether a change is due, and
whether anything was published since. -/
def poll (m : Manager) (seen : Nat) : Bool × Bool := (m.due, m.publications != seen)

end Manager

end ProfileGuard.Rotation
