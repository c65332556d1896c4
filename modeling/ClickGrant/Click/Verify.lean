import ClickGrant.Click.Event
import ClickGrant.Component.Basic
import ClickGrant.Decimal.Text
import ClickGrant.Occlusion
import ClickGrant.Saturating

/-!
# Verifying a click

A click is believed only if it is recent and reaches the component. Time stamps count within
`[now - window, now]`, never in the future. A pointer click must hit the component as drawn, the
component must not be covered, and the payload must be as the policy wants it; a key press must
use a confirming key; for an accessibility click the caller vets the channel it came through. The
first violated condition, in this order, is the answer.

Some rejections cannot come from an honest race: a time stamp out of the window, or a payload that
is missing or empty. They count as tampering.
-/
set_option autoImplicit false

namespace ClickGrant

/-- Limits of click verification. -/
structure ClickPolicy where
  /-- How far back a time stamp may lie, in milliseconds. -/
  window : UInt64
  allowedKeys : List Int32
  maxExtraLength : UInt64
  /-- Refuse pointer clicks without any payload. -/
  requireExtra : Bool

/-- Space, enter and the enter key of the numeric pad. -/
def confirmingKeys : List Int32 := [2050, 2054, 2124]

/-- The limits in force unless configured otherwise. -/
def ClickPolicy.standard : ClickPolicy where
  window := 1000
  allowedKeys := confirmingKeys
  maxExtraLength := 0x1000
  requireExtra := false

/-- Why a click was refused. -/
inductive ClickRejection where
  | invalidTimestamp (timestamp now : UInt64)
  | miss (target : Point)
  | occluded (cause : Occlusion)
  | missingExtraData
  | extraDataTooLarge (length : Nat) (most : UInt64)
  | badKey (keyCode : Int32)
  | untrustedChannel
  deriving Repr

namespace ClickRejection

/-- Whether the rejection points to a forged or replayed event. -/
def isTampering : ClickRejection → Bool
  | invalidTimestamp .. => true
  | missingExtraData => true
  | _ => false

/-- A short code. -/
def code : ClickRejection → String
  | invalidTimestamp .. => "INVALID_TIMESTAMP"
  | miss _ => "MISS"
  | occluded _ => "OCCLUDED"
  | missingExtraData => "MISSING_EXTRA_DATA"
  | extraDataTooLarge .. => "EXTRA_DATA_TOO_LARGE"
  | badKey _ => "BAD_KEY"
  | untrustedChannel => "UNTRUSTED_CHANNEL"

/-- The wording of a cause. -/
def message : ClickRejection → String
  | invalidTimestamp t now => s!"timestamp {t} outside the accepted window (now {now})"
  | miss p => "point (" ++ showFloat p.x ++ ", " ++ showFloat p.y ++ ") misses the component"
  | occluded cause => "component is occluded: " ++ cause.message
  | missingExtraData => "extra info is present but empty"
  | extraDataTooLarge length most => s!"extra info is {length} bytes, limit is {most}"
  | badKey keyCode => s!"key code {keyCode} cannot click a security component"
  | untrustedChannel => "accessibility click from an untrusted channel"

end ClickRejection

/-- A verifier: its limits, which windows are exempt, and the tolerance of the hit test. -/
structure ClickVerifier where
  policy : ClickPolicy
  classifier : WindowClassifier
  epsilon : Float

namespace ClickVerifier

/-- The time stamp lies in the accepted window. -/
def checkTimestamp (v : ClickVerifier) (timestamp now : UInt64) : Except ClickRejection Unit :=
  if timestamp < saturatingSub now v.policy.window || now < timestamp then
    .error (.invalidTimestamp timestamp now)
  else .ok ()

/-- The payload is as the policy wants it. -/
def checkExtra (v : ClickVerifier) : Option (List UInt8) → Except ClickRejection Unit
  | some [] => .error .missingExtraData
  | some bytes =>
    if v.policy.maxExtraLength.toNat < bytes.length then
      .error (.extraDataTooLarge bytes.length v.policy.maxExtraLength)
    else .ok ()
  | none => if v.policy.requireExtra then .error .missingExtraData else .ok ()

/-- The point hits the component, the component is not covered, the payload is right. -/
def checkPoint (v : ClickVerifier) (c : Component) (target : Point) (extra : Option (List UInt8))
    (snapshot : List Window) : Except ClickRejection Unit := do
  let rect := c.screenRect
  if !rect.containsPoint target v.epsilon then throw (.miss target)
  match v.classifier.check c.windowId rect snapshot with
  | .error cause => throw (.occluded cause)
  | .ok _ => v.checkExtra extra

/-- The key is a confirming one. -/
def checkKey (v : ClickVerifier) (keyCode : Int32) : Except ClickRejection Unit :=
  if v.policy.allowedKeys.contains keyCode then .ok () else .error (.badKey keyCode)

/-- Whether the event is a believable click on the component at the time `now`. -/
def checkClick (v : ClickVerifier) (c : Component) (event : ClickEvent) (now : UInt64)
    (snapshot : List Window) : Except ClickRejection Unit := do
  v.checkTimestamp event.timestamp now
  match event with
  | .point _ target extra => v.checkPoint c target extra snapshot
  | .key _ keyCode => v.checkKey keyCode
  | .accessibility _ => return ()

end ClickVerifier

end ClickGrant
