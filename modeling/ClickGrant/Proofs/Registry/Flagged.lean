import ClickGrant.Proofs.Registry.Changes
import ClickGrant.Proofs.Registry.Disturbed
import ClickGrant.Proofs.Registry.Standalone

/-!
# Quarantine and calls under way

Whether a caller is flagged is looked up at the door, and not again. So a call that is under way
when its process is flagged goes on, and may end well. What is proved:
  1. `RegistersAmid.sameFlags`, `ClicksAmid.sameFlags` — a registration and the report of a click
     that end well flag nobody.
  2. `flagged_iff_found_flagged` — so when one of them has ended well, its caller was not flagged
     when it began, and is flagged exactly if its last answer has found it so.
That the answer finds it flagged does happen: in the examples at the end, a second call of the process
is caught tampering while the first one waits for the display.
-/
set_option autoImplicit false

namespace ClickGrant.Registry

variable {s : Settings} {caller : Caller} {c : Component} {declared : String} {r r' t u : Registry}
  {visits : List (Visit Registry)} {id : ComponentId} {kind : Kind} {event : ClickEvent}
  {handle : Option UInt64}

/-- The same processes are flagged. -/
def SameFlags (r r' : Registry) : Prop := r'.quarantine = r.quarantine

theorem SameFlags.refl (r : Registry) : SameFlags r r := rfl

theorem SameFlags.trans (h₁ : SameFlags r t) (h₂ : SameFlags t u) : SameFlags r u :=
  Eq.trans h₂ h₁

theorem moves_syncPosture_sameFlags : (syncPosture s).Moves SameFlags := by
  have counted : Counted fun _ => SameFlags := ⟨.refl, fun _ h => h, .trans⟩
  exact syncPosture_moves counted (fun _ => rfl) (fun _ => rfl) fun _ => rfl

/-- A registration that ends well flags nobody. -/
theorem RegistersAmid.sameFlags (h : RegistersAmid s caller kind c declared r visits (.ok id) r') :
    Kept SameFlags r visits r' := by
  cases h with
  | @stored v₁ v₂ c' _ table n u w t _ _ quiet found _ _ stored posture =>
    subst found
    have kept : Kept SameFlags w v₂ t := moves_syncPosture_sameFlags.kept posture
    have entered : SameFlags (lastFound r v₁) w := by
      rw [stored]
      rfl
    have waiting := (quiet.kept SameFlags.refl).then (fun _ _ _ => .trans) entered
    refine (waiting.append (fun _ _ _ => .trans) kept).then (fun _ _ _ => .trans) ?_
    rfl

/-- The report of a click that ends well flags nobody. -/
theorem ClicksAmid.sameFlags
    (h : ClicksAmid s caller id c declared event handle r visits (.ok ()) r') :
    Kept SameFlags r visits r' := by
  cases h with
  | granted _ verified quiet found =>
    subst found
    have verifying := verified.kept SameFlags.refl (fun _ _ => rfl) fun _ _ _ => .trans
    refine (verifying.append (fun _ _ _ => .trans) (quiet.kept .refl)).then (fun _ _ _ => .trans) ?_
    rfl

/-! ## Traffic -/

/-- Who registers a component, or reports a click. -/
def Act.applicant? : Act → Option Caller
  | .register caller .. => some caller
  | .reportClick caller .. => some caller
  | _ => none

/-- A call that has ended well flagged nobody, and its caller was welcome when it began. -/
theorem applicant_goes {act : Act} (applies : act.applicant? = some caller)
    (h : (perform s act).Goes r visits (.ok ()) t) :
    r.quarantine.contains caller.pid = false ∧ Kept SameFlags r visits t := by
  cases act with
  | register caller' kind c declared =>
    cases applies
    obtain ⟨v, result, u, _, registers, done, rfl⟩ := Op.goes_bind.mp h
    obtain ⟨rfl, same, rfl⟩ := Op.goes_pure.mp done
    cases result with
    | error e => cases same
    | ok id =>
      rw [List.append_nil]
      obtain ⟨f, u, ends, rfl⟩ := register_goes registers
      refine ⟨?_, ends.sameFlags.then (fun _ _ _ => .trans) rfl⟩
      cases ends with
      | stored welcome => exact welcome.trusted
  | reportClick caller' id c declared event handle =>
    cases applies
    obtain ⟨u, ends, rfl⟩ := reportClick_goes h
    refine ⟨?_, ends.sameFlags.then (fun _ _ _ => .trans) rfl⟩
    cases ends with
    | granted door => exact door.welcome.trusted
  | _ => cases applies

/-- A registration or the report of a click that has ended well was let in because its caller was
not flagged then; afterwards the caller is flagged exactly if the last answer has found it so. -/
theorem flagged_iff_found_flagged (s : Settings) (r : Registry) (moves : List (Move Act)) :
    ∀ call ∈ (trafficFrom s r moves).courses, ∀ caller after,
      call.act.applicant? = some caller → call.rest = .done after (.ok ()) →
      call.before.quarantine.contains caller.pid = false ∧
        after.quarantine.contains caller.pid =
          (lastFound call.before call.visits).quarantine.contains caller.pid := by
  intro call hcall caller after applies ended
  have genuine : Traffic.Genuine (perform s) (trafficFrom s r moves) :=
    (Traffic.genuine_start _).run moves
  obtain ⟨trusted, kept⟩ := applicant_goes applies (genuine.goes hcall ended)
  exact ⟨trusted, congrArg (·.contains caller.pid) kept.last⟩

namespace Scene

/-- A click that was made long ago. -/
def replayed : Act := .reportClick app 1000 saveButton "" (.point 0 ⟨150, 130⟩ (some [1])) none

/-- A button is registered. Something is begun, and while it waits for the display, an old click on
the button is reported once more. -/
def caughtMeanwhile (act : Act) : List (Move Act) :=
  [.begin (.register app .save saveButton ""), .answer 0 reply, .answer 0 reply,
   .begin act, .begin replayed, .answer 2 reply, .answer 2 reply, .answer 2 reply,
   .answer 1 reply, .answer 1 reply, .answer 1 reply, .answer 1 reply]

/-- A call has ended well with its process flagged, and the states it began and ended in are related
like this. -/
def gains (gain : Registry → Registry → Bool) (call : Course Registry Act (Except Refusal Unit)) : Bool :=
  match call.rest with
  | .done after (.ok ()) => after.quarantine.contains app.pid && gain call.before after
  | _ => false

end Scene

-- A registration of a process that is flagged meanwhile stores a new component.
open Scene in
example :
    (trafficFrom settings fresh
      (caughtMeanwhile (.register app .save lowerButton ""))).courses[1]?.any (gains fun before after =>
        !before.table.isLive 1001 && after.table.isLive 1001) = true := by
  decide +kernel

-- The click of a process that is flagged meanwhile is granted.
open Scene in
example :
    (trafficFrom settings fresh
      (caughtMeanwhile (click 1000 saveButton 150 130))).courses[1]?.any (gains fun before after =>
        !before.verifySavePermission app.token && after.verifySavePermission app.token) = true := by
  decide +kernel

end ClickGrant.Registry
