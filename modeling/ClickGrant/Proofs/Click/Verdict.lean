import ClickGrant.Click.Verify
import Mathlib.Tactic.Common

/-!
# The verdict on a click

When a click is believed, and which rejection it gets if it is not. `Refused` has one constructor
for each condition that can be violated; each says that those asked before it hold, so it lists the
order of the checks. What is proved:
  1. `believed_or_refused` — every click is believed or refused for a cause.
  2. `checkClick_of_believed`, `checkClick_of_refused` — the verifier says so, and names this cause.
  3. `verdict_exact` — so its answer is determined by the conditions, in both directions, and it
     speaks of tampering exactly if the time stamp is out of the window or a click that hits an
     uncovered component lacks its payload.
-/
set_option autoImplicit false

namespace ClickGrant

namespace ClickVerifier

variable {v : ClickVerifier} {c : Component} {event : ClickEvent} {timestamp now : UInt64} {target : Point}
  {extra : Option (List UInt8)} {snapshot : List Window} {e : ClickRejection}

/-- The time stamp lies in the window that ends now. -/
structure Recent (v : ClickVerifier) (timestamp now : UInt64) : Prop where
  past : timestamp.toNat ≤ now.toNat
  young : now.toNat - timestamp.toNat ≤ v.policy.window.toNat

/-- The point lies on the component where it is drawn, up to the tolerance. -/
structure Hits (v : ClickVerifier) (c : Component) (target : Point) : Prop where
  left : c.screenRect.x - v.epsilon ≤ target.x
  right : target.x ≤ c.screenRect.right + v.epsilon
  top : c.screenRect.y - v.epsilon ≤ target.y
  bottom : target.y ≤ c.screenRect.bottom + v.epsilon

/-- Nothing covers the component where it is drawn. -/
def Uncovered (v : ClickVerifier) (c : Component) (snapshot : List Window) : Prop :=
  v.classifier.check c.windowId c.screenRect snapshot = .ok ()

/-- The payload is absent where none is asked for, or neither empty nor too long. -/
def Fitting (v : ClickVerifier) : Option (List UInt8) → Prop
  | none => v.policy.requireExtra = false
  | some bytes => 1 ≤ bytes.length ∧ bytes.length ≤ v.policy.maxExtraLength.toNat

/-- The payload is there and empty, or asked for and not there. -/
def Lacking (v : ClickVerifier) (extra : Option (List UInt8)) : Prop :=
  extra = some [] ∨ extra = none ∧ v.policy.requireExtra = true

/-- What is asked of an event besides its time stamp. -/
def Genuine (v : ClickVerifier) (c : Component) (snapshot : List Window) : ClickEvent → Prop
  | .point _ target extra => v.Hits c target ∧ v.Uncovered c snapshot ∧ v.Fitting extra
  | .key _ keyCode => keyCode ∈ v.policy.allowedKeys
  | .accessibility _ => True

/-- The first condition that an event violates, and the rejection for it. -/
inductive Refused (v : ClickVerifier) (c : Component) (now : UInt64) (snapshot : List Window) :
    ClickEvent → ClickRejection → Prop where
  | untimely {event : ClickEvent} (late : ¬v.Recent event.timestamp now) :
      Refused v c now snapshot event (.invalidTimestamp event.timestamp now)
  | missed {timestamp : UInt64} {target : Point} {extra : Option (List UInt8)}
      (recent : v.Recent timestamp now) (misses : ¬v.Hits c target) :
      Refused v c now snapshot (.point timestamp target extra) (.miss target)
  | occluded {timestamp : UInt64} {target : Point} {extra : Option (List UInt8)} {cause : Occlusion}
      (recent : v.Recent timestamp now) (hits : v.Hits c target)
      (covered : v.classifier.check c.windowId c.screenRect snapshot = .error cause) :
      Refused v c now snapshot (.point timestamp target extra) (.occluded cause)
  | lacking {timestamp : UInt64} {target : Point} {extra : Option (List UInt8)}
      (recent : v.Recent timestamp now) (hits : v.Hits c target) (uncovered : v.Uncovered c snapshot)
      (lacks : v.Lacking extra) : Refused v c now snapshot (.point timestamp target extra) .missingExtraData
  | oversized {timestamp : UInt64} {target : Point} {bytes : List UInt8}
      (recent : v.Recent timestamp now) (hits : v.Hits c target) (uncovered : v.Uncovered c snapshot)
      (long : v.policy.maxExtraLength.toNat < bytes.length) :
      Refused v c now snapshot (.point timestamp target (some bytes))
        (.extraDataTooLarge bytes.length v.policy.maxExtraLength)
  | badKey {timestamp : UInt64} {keyCode : Int32} (recent : v.Recent timestamp now)
      (other : keyCode ∉ v.policy.allowedKeys) :
      Refused v c now snapshot (.key timestamp keyCode) (.badKey keyCode)

/-! ## The single checks -/

/-- Subtraction that stops at zero draws the line where subtraction of whole numbers does. -/
theorem outside_iff : (timestamp < saturatingSub now v.policy.window ∨ now < timestamp) ↔
    ¬v.Recent timestamp now := by
  rw [UInt64.lt_iff_toNat_lt, UInt64.lt_iff_toNat_lt, toNat_saturatingSub]
  constructor
  · rintro outside ⟨past, young⟩
    omega
  · intro late
    by_contra inside
    exact late ⟨by omega, by omega⟩

theorem checkTimestamp_of_recent (recent : v.Recent timestamp now) :
    v.checkTimestamp timestamp now = .ok () := by
  have inside := mt outside_iff.mp (not_not_intro recent)
  unfold checkTimestamp
  exact if_neg (by simpa using inside)

theorem checkTimestamp_of_late (late : ¬v.Recent timestamp now) :
    v.checkTimestamp timestamp now = .error (.invalidTimestamp timestamp now) := by
  have outside := outside_iff.mpr late
  unfold checkTimestamp
  exact if_pos (by simpa using outside)

theorem containsPoint_iff : c.screenRect.containsPoint target v.epsilon = true ↔ v.Hits c target := by
  simp only [Rect.containsPoint, Bool.and_eq_true, decide_eq_true_eq, ge_iff_le]
  exact ⟨fun ⟨⟨⟨left, right⟩, top⟩, bottom⟩ => ⟨left, right, top, bottom⟩,
    fun ⟨left, right, top, bottom⟩ => ⟨⟨⟨left, right⟩, top⟩, bottom⟩⟩

theorem checkPoint_of_missed (misses : ¬v.Hits c target) :
    v.checkPoint c target extra snapshot = .error (.miss target) := by
  have outside : c.screenRect.containsPoint target v.epsilon = false :=
    Bool.eq_false_iff.mpr fun inside => misses (containsPoint_iff.mp inside)
  unfold checkPoint
  simp only [outside]
  rfl

theorem checkPoint_of_hit (hits : v.Hits c target) : v.checkPoint c target extra snapshot =
    match v.classifier.check c.windowId c.screenRect snapshot with
    | .error cause => .error (.occluded cause)
    | .ok _ => v.checkExtra extra := by
  unfold checkPoint
  simp only [containsPoint_iff.mpr hits]
  rfl

theorem checkExtra_of_fitting (fits : v.Fitting extra) : v.checkExtra extra = .ok () := by
  match extra, fits with
  | none, fits => exact if_neg (by rw [fits]; exact Bool.false_ne_true)
  | some (b :: bytes), ⟨_, short⟩ => exact if_neg (Nat.not_lt.mpr short)

theorem checkExtra_of_lacking (lacks : v.Lacking extra) : v.checkExtra extra = .error .missingExtraData := by
  rcases lacks with rfl | ⟨rfl, asked⟩
  · rfl
  · exact if_pos asked

theorem checkExtra_of_long {bytes : List UInt8} (long : v.policy.maxExtraLength.toNat < bytes.length) :
    v.checkExtra (some bytes) = .error (.extraDataTooLarge bytes.length v.policy.maxExtraLength) := by
  match bytes, long with
  | b :: bytes, long => exact if_pos long

/-- A payload fits, is lacking or is too long. -/
theorem fitting_or : ∀ extra : Option (List UInt8), v.Fitting extra ∨ v.Lacking extra ∨
    ∃ bytes, extra = some bytes ∧ v.policy.maxExtraLength.toNat < bytes.length
  | none => by
    cases asked : v.policy.requireExtra with
    | false => exact .inl asked
    | true => exact .inr (.inl (.inr ⟨rfl, asked⟩))
  | some [] => .inr (.inl (.inl rfl))
  | some (b :: bytes) => by
    rcases Nat.lt_or_ge v.policy.maxExtraLength.toNat (b :: bytes).length with long | short
    · exact .inr (.inr ⟨_, rfl, long⟩)
    · exact .inl ⟨Nat.succ_pos _, short⟩

/-! ## The verdict -/

theorem checkClick_of_recent : v.Recent event.timestamp now → v.checkClick c event now snapshot =
    match event with
    | .point _ target extra => v.checkPoint c target extra snapshot
    | .key _ keyCode => v.checkKey keyCode
    | .accessibility _ => .ok () := by
  intro recent
  unfold checkClick
  rw [checkTimestamp_of_recent recent]
  rfl

theorem checkClick_of_believed (recent : v.Recent event.timestamp now) (genuine : v.Genuine c snapshot event) :
    v.checkClick c event now snapshot = .ok () := by
  rw [checkClick_of_recent recent]
  cases event with
  | point timestamp target extra =>
    obtain ⟨hits, uncovered, fits⟩ := genuine
    show v.checkPoint c target extra snapshot = .ok ()
    rw [checkPoint_of_hit hits, uncovered]
    exact checkExtra_of_fitting fits
  | key timestamp keyCode => exact if_pos (List.contains_iff_mem.mpr genuine)
  | accessibility timestamp => rfl

theorem checkClick_of_refused (refused : Refused v c now snapshot event e) :
    v.checkClick c event now snapshot = .error e := by
  cases refused with
  | untimely late =>
    unfold checkClick
    rw [checkTimestamp_of_late late]
    rfl
  | missed recent misses => exact (checkClick_of_recent recent).trans (checkPoint_of_missed misses)
  | occluded recent hits covered =>
    exact (checkClick_of_recent recent).trans ((checkPoint_of_hit hits).trans (by rw [covered]))
  | lacking recent hits uncovered lacks =>
    refine (checkClick_of_recent recent).trans ((checkPoint_of_hit hits).trans ?_)
    rw [uncovered]
    exact checkExtra_of_lacking lacks
  | oversized recent hits uncovered long =>
    refine (checkClick_of_recent recent).trans ((checkPoint_of_hit hits).trans ?_)
    rw [uncovered]
    exact checkExtra_of_long long
  | badKey recent other =>
    exact (checkClick_of_recent recent).trans (if_neg fun listed => other (List.contains_iff_mem.mp listed))

theorem believed_or_refused (v : ClickVerifier) (c : Component) (event : ClickEvent) (now : UInt64)
    (snapshot : List Window) :
    v.Recent event.timestamp now ∧ v.Genuine c snapshot event ∨ ∃ e, Refused v c now snapshot event e := by
  by_cases recent : v.Recent event.timestamp now
  · cases event with
    | point timestamp target extra =>
      by_cases hits : v.Hits c target
      · cases verdict : v.classifier.check c.windowId c.screenRect snapshot with
        | error cause => exact .inr ⟨_, .occluded recent hits verdict⟩
        | ok =>
          rcases fitting_or (v := v) extra with fits | lacks | ⟨bytes, rfl, long⟩
          · exact .inl ⟨recent, hits, verdict, fits⟩
          · exact .inr ⟨_, .lacking recent hits verdict lacks⟩
          · exact .inr ⟨_, .oversized recent hits verdict long⟩
      · exact .inr ⟨_, .missed recent hits⟩
    | key timestamp keyCode =>
      by_cases listed : keyCode ∈ v.policy.allowedKeys
      · exact .inl ⟨recent, listed⟩
      · exact .inr ⟨_, .badKey recent listed⟩
    | accessibility timestamp => exact .inl ⟨recent, trivial⟩
  · exact .inr ⟨_, .untimely recent⟩

theorem checkClick_eq_ok_iff : v.checkClick c event now snapshot = .ok () ↔
    v.Recent event.timestamp now ∧ v.Genuine c snapshot event := by
  constructor
  · intro passes
    rcases believed_or_refused v c event now snapshot with believed | ⟨e, refused⟩
    · exact believed
    · rw [checkClick_of_refused refused] at passes
      cases passes
  · exact fun ⟨recent, genuine⟩ => checkClick_of_believed recent genuine

theorem checkClick_eq_error_iff :
    v.checkClick c event now snapshot = .error e ↔ Refused v c now snapshot event e := by
  constructor
  · intro fails
    rcases believed_or_refused v c event now snapshot with ⟨recent, genuine⟩ | ⟨e', refused⟩
    · rw [checkClick_of_believed recent genuine] at fails
      cases fails
    · rw [checkClick_of_refused refused] at fails
      cases fails
      exact refused
  · exact checkClick_of_refused

/-- A pointer click that hits an uncovered component without the payload it should have. -/
def Forged (v : ClickVerifier) (c : Component) (snapshot : List Window) : ClickEvent → Prop
  | .point _ target extra => v.Hits c target ∧ v.Uncovered c snapshot ∧ v.Lacking extra
  | _ => False

theorem isTampering_iff (refused : Refused v c now snapshot event e) :
    e.isTampering = true ↔ ¬v.Recent event.timestamp now ∨ v.Forged c snapshot event := by
  cases refused with
  | untimely late => exact iff_of_true rfl (.inl late)
  | missed recent misses => exact iff_of_false Bool.false_ne_true (by
      rintro (late | ⟨hits, -⟩)
      exacts [late recent, misses hits])
  | occluded recent hits covered => exact iff_of_false Bool.false_ne_true (by
      rintro (late | ⟨-, uncovered, -⟩)
      · exact late recent
      · rw [uncovered] at covered
        cases covered)
  | lacking recent hits uncovered lacks => exact iff_of_true rfl (.inr ⟨hits, uncovered, lacks⟩)
  | oversized recent hits uncovered long => exact iff_of_false Bool.false_ne_true (by
      rintro (late | ⟨-, -, empty | ⟨absent, -⟩⟩)
      · exact late recent
      · cases empty
        exact Nat.not_lt_zero _ long
      · cases absent)
  | badKey recent other => exact iff_of_false Bool.false_ne_true (by
      rintro (late | forged)
      exacts [late recent, forged])

theorem refused_of_forged (recent : v.Recent event.timestamp now) (forged : v.Forged c snapshot event) :
    Refused v c now snapshot event .missingExtraData := by
  cases event with
  | point timestamp target extra =>
    obtain ⟨hits, uncovered, lacks⟩ := forged
    exact .lacking recent hits uncovered lacks
  | key timestamp keyCode => exact forged.elim
  | accessibility timestamp => exact forged.elim

/-- **The verdict.** A click is believed exactly if its time stamp is recent and it is genuine; if
it is not, the rejection is that of the first condition it violates; and the rejection speaks of
tampering exactly if the time stamp is out of the window, or if the click hits an uncovered
component and lacks its payload. -/
theorem verdict_exact (v : ClickVerifier) (c : Component) (event : ClickEvent) (now : UInt64)
    (snapshot : List Window) :
    (v.checkClick c event now snapshot = .ok () ↔
      v.Recent event.timestamp now ∧ v.Genuine c snapshot event) ∧
    (∀ e, v.checkClick c event now snapshot = .error e ↔ Refused v c now snapshot event e) ∧
    ((∃ e, v.checkClick c event now snapshot = .error e ∧ e.isTampering = true) ↔
      ¬v.Recent event.timestamp now ∨ v.Forged c snapshot event) := by
  refine ⟨checkClick_eq_ok_iff, fun e => checkClick_eq_error_iff, ?_⟩
  -- an untimely click is not looked at further, so a forged one counts as such only if it is recent
  simp only [checkClick_eq_error_iff]
  constructor
  · rintro ⟨e, refused, tampering⟩
    exact (isTampering_iff refused).mp tampering
  · intro suspect
    by_cases recent : v.Recent event.timestamp now
    · exact ⟨_, refused_of_forged recent (suspect.resolve_left (not_not_intro recent)), rfl⟩
    · exact ⟨_, .untimely recent, rfl⟩

end ClickVerifier

end ClickGrant
