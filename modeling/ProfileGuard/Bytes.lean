/-!
# Byte sequences

Keys, payloads, nonces and JSON documents are finite sequences of bytes.  A text is tied to them by
UTF-8: every text has bytes, and only well-formed bytes are a text.

* **`Bytes`** — a list of bytes.
* **`Bytes.ofText`** — the UTF-8 form of a text.
* **`Bytes.text?`** — the text whose UTF-8 form the bytes are, if there is one.
* **`Bytes.text?_ofText`** — reading the UTF-8 form of a text gives the text back.
-/

namespace ProfileGuard

/-- A finite sequence of bytes. -/
abbrev Bytes := List UInt8

namespace Bytes

/-- The UTF-8 form of a text. -/
def ofText (text : String) : Bytes := text.toUTF8.data.toList

/-- The text whose UTF-8 form is `bytes`; `none` when the bytes are not well-formed UTF-8. -/
def text? (bytes : Bytes) : Option String := String.fromUTF8? ⟨bytes.toArray⟩

/-- Reading the UTF-8 form of a text gives the text back. -/
theorem text?_ofText (text : String) : text? (ofText text) = some text := by
  have h : (⟨(ofText text).toArray⟩ : ByteArray) = text.toByteArray := by
    simp [ofText, String.toUTF8]
  rw [text?, String.fromUTF8?, dif_pos (h ▸ text.isValidUTF8)]
  congr 1

/-- The bytes of `bytes` as one big-endian number. -/
def toNat (bytes : Bytes) : Nat := bytes.foldl (fun n b => n * 256 + b.toNat) 0

/-- The last `width` base-256 digits of `n`, most significant first. -/
def ofNat (width n : Nat) : Bytes :=
  (List.range width).map fun i => UInt8.ofNat (n >>> (8 * (width - 1 - i)))

end Bytes

end ProfileGuard
