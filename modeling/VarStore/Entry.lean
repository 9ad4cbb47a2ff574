import VarStore.Clock

/-!
# Stored values with an expiry

An entry is a payload and possibly the instant at which it expires.  It is expired from that
instant on.  Asking whether it is expired changes nothing; erasing it is for the collection.

The expiry is given in seconds from a reading of the clock.  Beyond the end of the range there is
no expiry at all; before its beginning the reading itself serves, which is past as soon as it is
set.
-/

namespace VarStore

/-- A payload with an optional instant of expiry. -/
structure Entry where
  payload : String
  expiry : Option Instant
  deriving DecidableEq

namespace Entry

/-- A payload that never expires. -/
def fresh (payload : String) : Entry := ⟨payload, none⟩

/-- Replace the payload and keep the expiry. -/
def setPayload (e : Entry) (payload : String) : Entry := { e with payload }

/-- The instant `seconds` after the reading `now`. -/
def expiryFrom (now : Instant) (seconds : Int32) : Option Instant :=
  if 0 ≤ seconds.toInt then now.later? seconds.toInt.toNat
  else some ((now.earlier? (-seconds.toInt).toNat).getD now)

/-- Let the entry expire `seconds` after the reading `now`. -/
def setExpiry (e : Entry) (now : Instant) (seconds : Int32) : Entry :=
  { e with expiry := expiryFrom now seconds }

/-- Is the entry expired at the reading `now`? -/
def isExpiredAt (e : Entry) (now : Instant) : Bool :=
  match e.expiry with
  | some t => t ≤ now
  | none => false

@[simp] theorem payload_fresh (s : String) : (fresh s).payload = s := rfl

@[simp] theorem expiry_fresh (s : String) : (fresh s).expiry = none := rfl

@[simp] theorem isExpiredAt_fresh (s : String) (now : Instant) :
    (fresh s).isExpiredAt now = false := rfl

@[simp] theorem payload_setPayload (e : Entry) (s : String) : (e.setPayload s).payload = s := rfl

@[simp] theorem expiry_setPayload (e : Entry) (s : String) : (e.setPayload s).expiry = e.expiry :=
  rfl

@[simp] theorem isExpiredAt_setPayload (e : Entry) (s : String) (now : Instant) :
    (e.setPayload s).isExpiredAt now = e.isExpiredAt now := rfl

@[simp] theorem payload_setExpiry (e : Entry) (now : Instant) (seconds : Int32) :
    (e.setExpiry now seconds).payload = e.payload := rfl

@[simp] theorem expiry_setExpiry (e : Entry) (now : Instant) (seconds : Int32) :
    (e.setExpiry now seconds).expiry = expiryFrom now seconds := rfl

/-- What is expired stays expired. -/
theorem isExpiredAt_mono {e : Entry} {s t : Instant} (hst : s ≤ t)
    (he : e.isExpiredAt s = true) : e.isExpiredAt t = true := by
  rw [isExpiredAt] at he ⊢
  cases hexpiry : e.expiry with
  | none =>
    rw [hexpiry] at he
    cases he
  | some u =>
    rw [hexpiry] at he
    have hus : u ≤ s := of_decide_eq_true he
    rw [Instant.le_def] at hst hus
    exact decide_eq_true ((Instant.le_def u t).2 (Int.le_trans hus hst))

end Entry

end VarStore
