import ProfileGuard.Proofs.Audit.WireForm

/-!
# The signature of an audit event covers the event

What is signed is the JSON form with an empty signature.  Since it can be read back, it determines every
other field, and two events under one signature are the same unless the digest itself collides.

* **`Digest.IsCollision`** — two messages with one authentication code.
* **`Audit.Event.eq_of_signedBytes`** — the signed bytes determine the event but for its signature.
* **`Audit.Event.verify_eq_true_iff`** — an event verifies if it carries the code of its signed bytes.
* **`Audit.Event.signature_covers`** — events that verify with one signature are equal or collide.
-/

namespace ProfileGuard

/-- Two messages have the same authentication code under a secret. -/
def Digest.IsCollision (secret m₁ m₂ : Bytes) : Prop :=
  m₁ ≠ m₂ ∧ Digest.hmac secret m₁ = Digest.hmac secret m₂

theorem Digest.hmacHex_injective {secret m₁ m₂ : Bytes}
    (h : Digest.hmacHex secret m₁ = Digest.hmacHex secret m₂) :
    Digest.hmac secret m₁ = Digest.hmac secret m₂ :=
  Text.Hex.encode_injective h

namespace Audit.Event

/-- What an event says apart from its signature. -/
def unsigned (e : Event) : Event := { e with hmac := "" }

theorem eq_withHmac_of_unsigned {e₁ e₂ : Event} (h : e₁.unsigned = e₂.unsigned) :
    e₁ = { e₂ with hmac := e₁.hmac } := by
  show { e₁.unsigned with hmac := e₁.hmac } = { e₂.unsigned with hmac := e₁.hmac }
  rw [h]

theorem signedBytes_withHmac (e : Event) (hmac : String) :
    { e with hmac := hmac }.signedBytes = e.signedBytes := rfl

/-- The signed bytes determine the event but for its signature. -/
theorem eq_of_signedBytes {e₁ e₂ : Event} (h : e₁.signedBytes = e₂.signedBytes) :
    e₁ = { e₂ with hmac := e₁.hmac } := by
  have hread : read? e₁.unsigned.toJson = read? e₂.unsigned.toJson := congrArg read? h
  rw [read?_toJson, read?_toJson] at hread
  exact eq_withHmac_of_unsigned (Option.some.inj hread)

/-- An event verifies if it carries the code of its signed bytes. -/
theorem verify_eq_true_iff (e : Event) (secret : Bytes) :
    e.verify secret = true ↔ e.hmac = Digest.hmacHex secret e.signedBytes := by
  rw [verify, beq_iff_eq, signature]
  exact eq_comm

/-- Equal signed bytes mean equal fields other than the signature; so two events that verify under a
secret and carry one signature are equal, or their signed bytes are a collision of the digest. -/
theorem signature_covers (e₁ e₂ : Event) :
    (e₁.signedBytes = e₂.signedBytes → e₁ = { e₂ with hmac := e₁.hmac }) ∧
    ∀ secret, e₁.verify secret = true → e₂.verify secret = true → e₁.hmac = e₂.hmac →
      e₁ = e₂ ∨ Digest.IsCollision secret e₁.signedBytes e₂.signedBytes := by
  refine ⟨eq_of_signedBytes, ?_⟩
  intro secret hverify₁ hverify₂ hhmac
  by_cases hbytes : e₁.signedBytes = e₂.signedBytes
  · left
    rw [eq_of_signedBytes hbytes, hhmac]
  · right
    refine ⟨hbytes, Digest.hmacHex_injective ?_⟩
    calc Digest.hmacHex secret e₁.signedBytes
      _ = e₁.hmac := ((verify_eq_true_iff e₁ secret).1 hverify₁).symm
      _ = e₂.hmac := hhmac
      _ = Digest.hmacHex secret e₂.signedBytes := (verify_eq_true_iff e₂ secret).1 hverify₂

theorem signature_covers_of_signed :
    let secret : Bytes := [0x6B, 0x65, 0x79]
    let blank : Event := {
      id := ⟨1⟩
      timestamp := .clockStart
      userId := "u"
      actorId := "a"
      actorKind := .admin
      action := .delete
      resource := .device
      resourceId := none
      fieldsChanged := []
      ipHash := ""
      requestId := "r"
      serviceName := some "s"
      result := .success
      failureReason := none
      hmac := "" }
    let signed : Event := { blank with hmac := blank.signature secret }
    (signed.signedBytes = blank.signedBytes ∧ signed = { blank with hmac := signed.hmac }) ∧
      signed.verify secret = true ∧
      (signed = signed ∨ Digest.IsCollision secret signed.signedBytes signed.signedBytes) := by
  intro secret blank signed
  have hbytes : signed.signedBytes = blank.signedBytes := signedBytes_withHmac blank _
  have hverify : signed.verify secret = true := verify_withSignature blank secret
  exact ⟨⟨hbytes, (signature_covers signed blank).1 hbytes⟩, hverify,
    (signature_covers signed signed).2 secret hverify hverify rfl⟩

end Audit.Event

end ProfileGuard
