/-!
# Metrics

Counters and gauges of 64 bits with their exposition text: a help line, a type line and the value.

* **`Counter`** — a count that only grows, and wraps.
* **`Gauge`** — a value that is set.
* **`Buffer.Metrics`** / **`ReadThrough.Metrics`** — what the buffer and the read-through count.
-/

namespace ProfileGuard

/-- The exposition text of one metric. -/
def exposition (name help kind : String) (value : UInt64) : String :=
  let shown := value.toNat
  s!"# HELP {name} {help}\n# TYPE {name} {kind}\n{name} {shown}\n"

/-- A count that only grows. -/
structure Counter where
  name : String
  help : String
  value : UInt64 := 0

namespace Counter

/-- The counter after `amount` more; past `2 ^ 64` it starts over. -/
def add (c : Counter) (amount : UInt64) : Counter := { c with value := c.value + amount }

/-- The counter after one more. -/
def increment (c : Counter) : Counter := c.add 1

/-- The exposition text. -/
def text (c : Counter) : String := exposition c.name c.help "counter" c.value

end Counter

/-- A value that goes up and down. -/
structure Gauge where
  name : String
  help : String
  value : UInt64 := 0

namespace Gauge

/-- The gauge at a new value. -/
def set (g : Gauge) (value : UInt64) : Gauge := { g with value }

/-- The exposition text. -/
def text (g : Gauge) : String := exposition g.name g.help "gauge" g.value

end Gauge

/-- What an event buffer counts. -/
structure Buffer.Metrics where
  /-- Events accepted into the buffer. -/
  buffered : Counter
  /-- Events handed to overflow storage. -/
  persisted : Counter
  /-- Events refused by a full buffer. -/
  dropped : Counter
  /-- Events delivered by a flush. -/
  flushed : Counter
  /-- Events in the buffer. -/
  size : Gauge

/-- Fresh buffer metrics whose names begin with `family`. -/
def Buffer.Metrics.named (family : String) : Buffer.Metrics where
  buffered := ⟨family ++ "_events_buffered_total",
    "Total number of events accepted into the local buffer", 0⟩
  persisted := ⟨family ++ "_events_persisted_total",
    "Total number of events moved to overflow storage", 0⟩
  dropped := ⟨family ++ "_events_dropped_total",
    "Total number of events rejected by a full buffer", 0⟩
  flushed := ⟨family ++ "_events_flushed_total",
    "Total number of buffered events delivered", 0⟩
  size := ⟨family ++ "_buffer_size", "Current number of events in the local buffer", 0⟩

/-- The exposition text of all buffer metrics. -/
def Buffer.Metrics.text (m : Buffer.Metrics) : String :=
  m.buffered.text ++ m.persisted.text ++ m.dropped.text ++ m.flushed.text ++ m.size.text

/-- What a read-through counts. -/
structure ReadThrough.Metrics where
  /-- Reads served from the cache. -/
  hits : Counter
  /-- Reads served by the loader. -/
  fallbacks : Counter

/-- Fresh read-through metrics whose names begin with `family`. -/
def ReadThrough.Metrics.named (family : String) : ReadThrough.Metrics where
  hits := ⟨family ++ "_cache_hits_total", "Total number of reads served from cache", 0⟩
  fallbacks := ⟨family ++ "_fallback_loads_total",
    "Total number of reads served by the primary loader", 0⟩

/-- The exposition text of both read-through metrics. -/
def ReadThrough.Metrics.text (m : ReadThrough.Metrics) : String :=
  m.hits.text ++ m.fallbacks.text

end ProfileGuard
