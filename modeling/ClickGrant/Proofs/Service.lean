import ClickGrant.Proofs.Registry.Standalone
import ClickGrant.Service

/-!
# Calls on a service that is about to end

Once the service is about to end every call is refused, and the caller may try again later. An
`Inbound` is a call from outside with what it brings; `serve` carries it out, and `Told` is what the
caller gets to know. What is proved of every state in which the service is about to end, whether a
component is stored in it or not:
  1. `openInfo_of_down` — a declaration is not even opened.
  2. `serve_of_down` — nobody is asked, nothing is changed, and the refusal can be told from the
     call alone.
  3. `turned_away_iff` — the refusal says that the service is unavailable and that trying again makes
     sense, unless the call registers a component of a kind that does not exist. That is noticed
     first, and such a caller is told never to try again.
-/
set_option autoImplicit false

namespace ClickGrant.Service

/-- A call from outside. -/
inductive Inbound where
  | register (caller : Caller) (kindCode : Int32) (info : List UInt8)
  | update (caller : Caller) (id : ComponentId) (info : List UInt8)
  | unregister (caller : Caller) (id : ComponentId)
  | reportClick (caller : Caller) (id : ComponentId) (info : List UInt8) (event : ClickEvent)
      (handle : Option UInt64)
  | preRegister (caller : Caller)
  | enhanceObject

/-- What a caller gets to know. -/
inductive Told where
  | component (result : Except Refusal ComponentId)
  | outcome (result : Except Refusal Unit)
  | click (reply : ClickReply)
  | handle (result : Except Refusal UInt64)

/-- Carries a call out. -/
def serve (s : Settings) : Inbound → Op Registry Told
  | .register caller kindCode info => do return .component (← (register s caller kindCode info).run)
  | .update caller id info => do return .outcome (← (update s caller id info).run)
  | .unregister caller id => do return .outcome (← (unregister s caller id).run)
  | .reportClick caller id info event handle => do
    return .click (← reportClick s caller id info event handle)
  | .preRegister caller => do return .outcome (← (preRegister s caller).run)
  | .enhanceObject => do return .handle (← (enhanceObject s).run)

/-- How the caller gets to know of a refusal. -/
def Inbound.refused (e : Refusal) : Inbound → Told
  | .register .. => .component (.error e)
  | .update .. | .unregister .. | .preRegister .. => .outcome (.error e)
  | .reportClick .. => .click (.ofResult (.error e))
  | .enhanceObject => .handle (.error e)

/-- The call does not speak of a kind that does not exist. -/
def Inbound.knowsKind : Inbound → Bool
  | .register _ kindCode _ => (Kind.ofCode? kindCode).isSome
  | _ => true

/-- Why the call is refused when the service is about to end. -/
def Inbound.lateRefusal : Inbound → Refusal
  | .register _ kindCode _ =>
    match Kind.ofCode? kindCode with
    | none => .invalidArgument (.unknownKind kindCode)
    | some _ => .exiting
  | _ => .exiting

variable {s : Settings} {r : Registry}

/-- A call that first makes sure that the service is running goes no further when it is not. -/
theorem running_bind_of_down {α : Type} (down : r.shuttingDown = true) (f : Unit → Call Registry α) :
    (Registry.ensureRunning >>= f).run r = .done r (.error .exiting) := by
  have stops : Registry.ensureRunning.run r = .done r (.error .exiting) := by
    show (if r.shuttingDown = true then throw .exiting else pure () : Call Registry Unit).run r = _
    rw [if_pos down]
    rfl
  rw [ExceptT.run_bind, Op.bind_apply, stops]
  rfl

/-- A declaration is not opened, so nothing is said of what is wrong with it. -/
theorem openInfo_of_down {α : Type} (down : r.shuttingDown = true) (info : List UInt8)
    (f : Component × String → Call Registry α) :
    (openInfo s info >>= f).run r = .done r (.error .exiting) := by
  rw [openInfo, bind_assoc]
  exact running_bind_of_down down _

theorem serve_of_down (down : r.shuttingDown = true) (call : Inbound) :
    serve s call r = .done r (call.refused call.lateRefusal) := by
  -- each of them is a call that stops in this state, with its reply wrapped up
  cases call with
  | register caller kindCode info =>
    have stops : (register s caller kindCode info).run r =
        .done r (.error (Inbound.register caller kindCode info).lateRefusal) := by
      simp only [register, Inbound.lateRefusal]
      cases Kind.ofCode? kindCode with
      | none => rfl
      | some kind => exact openInfo_of_down down info _
    rw [serve, Op.bind_apply, stops]
    rfl
  | update caller id info =>
    have stops : (update s caller id info).run r = .done r (.error .exiting) :=
      openInfo_of_down down info _
    rw [serve, Op.bind_apply, stops]
    rfl
  | unregister caller id =>
    have stops : (unregister s caller id).run r = .done r (.error .exiting) :=
      running_bind_of_down down _
    rw [serve, Op.bind_apply, stops]
    rfl
  | reportClick caller id info event handle =>
    have stops : reportClick s caller id info event handle r =
        .done r (.ofResult (.error .exiting)) := by
      unfold reportClick
      rw [Op.bind_apply, openInfo_of_down down info]
      rfl
    rw [serve, Op.bind_apply, stops]
    rfl
  | preRegister caller =>
    have stops : (preRegister s caller).run r = .done r (.error .exiting) :=
      running_bind_of_down down _
    rw [serve, Op.bind_apply, stops]
    rfl
  | enhanceObject =>
    have stops : (enhanceObject s).run r = .done r (.error .exiting) := running_bind_of_down down _
    rw [serve, Op.bind_apply, stops]
    rfl

/-- Trying again later makes sense exactly for those calls that speak of no unknown kind. -/
theorem lateRefusal_retryable_iff (call : Inbound) :
    (call.lateRefusal.code = .unavailable ∧ call.lateRefusal.isRetryable = true) ↔
      call.knowsKind = true := by
  cases call with
  | register caller kindCode info =>
    simp only [Inbound.lateRefusal, Inbound.knowsKind]
    cases Kind.ofCode? kindCode with
    | none => simp [Refusal.code]
    | some kind => simp [Refusal.code, Refusal.isRetryable]
  | _ => exact ⟨fun _ => rfl, fun _ => ⟨rfl, rfl⟩⟩

theorem turned_away_iff (s : Settings) (r : Registry) (down : r.shuttingDown = true) (call : Inbound) :
    ∃ e, serve s call r = .done r (call.refused e) ∧
      ((e.code = .unavailable ∧ e.isRetryable = true) ↔ call.knowsKind = true) :=
  ⟨call.lateRefusal, serve_of_down down call, lateRefusal_retryable_iff call⟩

namespace Scene

open Registry.Scene

/-- Nobody registers a component for so long a time that the service ends. -/
def closing : List Registry.Act := [.armIdleExit, .setClock 2000000000, .runDueTimers]

end Scene

open Registry.Scene Scene in
theorem turned_away_closing :
    (state closing).shuttingDown = true ∧
    ∃ e, serve settings (.reportClick app (-1) [] (.point 0 ⟨0, 0⟩ none) none) (state closing) =
        .done (state closing) (.click (.ofResult (.error e))) ∧
      e.code = .unavailable ∧ e.isRetryable = true := by
  have down : (state closing).shuttingDown = true := by decide +kernel
  obtain ⟨e, refused, retryable⟩ := turned_away_iff settings (state closing) down
    (.reportClick app (-1) [] (.point 0 ⟨0, 0⟩ none) none)
  exact ⟨down, e, refused, retryable.mpr rfl⟩

open Registry.Scene Scene in
/-- Not every call is told that the service is unavailable. -/
theorem misjudged_when_closing :
    Registry.Run settings fresh (turns closing) (state closing) ∧
    (state closing).shuttingDown = true ∧
    serve settings (.register app 99 [123, 125]) (state closing) =
      .done (state closing) (.component (.error (.invalidArgument (.unknownKind 99)))) ∧
    (Refusal.invalidArgument (.unknownKind 99)).code ≠ .unavailable ∧
    (Refusal.invalidArgument (.unknownKind 99)).isRetryable = false := by
  have down : (state closing).shuttingDown = true := by decide +kernel
  refine ⟨run_turns closing, down, ?_, by decide, rfl⟩
  exact serve_of_down down (.register app 99 [123, 125])

end ClickGrant.Service
