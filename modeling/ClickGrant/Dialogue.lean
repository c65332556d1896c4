import ClickGrant.Component.Basic
import ClickGrant.Occlusion
import ClickGrant.Refusal
import ClickGrant.Validity.Policy

/-!
# Dialogues with collaborators

The service does not act alone: it asks the display, the window manager, the identity store, the
consent dialog and the enhancement module. While it waits for an answer nothing is locked, so
other calls may change its state in between.

A `Dialogue` is such a computation laid open: it is finished, with the state it leaves and its
result, or it asks something in a state and goes on from whatever state it finds with the answer.
An `Op` is a dialogue for every state; operations compose as a monad. `Dialogue.run` carries a
dialogue out against an environment, which sees each request with the state it is asked in and
may change that state before it answers.

Assumed: a state moves only while an answer is awaited, so whatever is done between two requests is
done at once. Of the collaborators nothing is assumed: any answer may come to any request. A result
that needs more of one of them says so in a hypothesis.
-/
set_option autoImplicit false

namespace ClickGrant

/-- Answer of the consent dialog. -/
inductive ConsentDecision where
  /-- The user has just agreed. -/
  | granted
  /-- The user agreed elsewhere before. -/
  | alreadyGranted
  /-- A dialog is showing. -/
  | wait
  deriving DecidableEq, Repr

/-- What is asked of a collaborator. -/
inductive Request where
  /-- The size of a display. -/
  | screen (display : UInt64) (crossAxis : Bool)
  /-- The render scale of a window. -/
  | windowScale (window : Int32)
  /-- The windows on screen. -/
  | windowStack
  /-- Give an identity a permission. -/
  | grant (token : Token) (permission : Permission)
  /-- Take a permission from an identity. -/
  | revoke (token : Token) (permission : Permission)
  /-- Whether an identity has a permission. -/
  | verify (token : Token) (permission : Permission)
  /-- The user's consent to the first grant of a kind; the handle anchors the dialog. -/
  | consent (token : Token) (kind : Kind) (handle : Option UInt64)
  /-- Whether a declared component comes from the trusted rendering path. -/
  | inspect (pid : Pid) (component : Component) (declared : String)
  /-- Close an envelope. -/
  | seal (payload : List UInt8)
  /-- Open an envelope. -/
  | unseal (envelope : List UInt8)
  /-- Announce a process. -/
  | admitProcess (pid : Pid)
  /-- Protect the input path. -/
  | enableInput
  /-- Stop protecting the input path. -/
  | disableInput
  /-- A process has died. -/
  | processDied (pid : Pid)
  /-- The module's object for clients. -/
  | clientHandle

/-- What a request is answered with. -/
def Request.Answer : Request → Type
  | .screen .. => Except Outage Screen
  | .windowScale _ => Except Outage WindowScale
  | .windowStack => Except Outage (List Window)
  | .grant .. => Except Outage Unit
  | .revoke .. => Except Outage Unit
  | .verify .. => Bool
  | .consent .. => Except Outage ConsentDecision
  | .inspect .. => Except EnhanceFailure Unit
  | .seal _ => Except EnhanceFailure (List UInt8)
  | .unseal _ => Except EnhanceFailure (List UInt8)
  | .admitProcess _ => Except EnhanceFailure Unit
  | .enableInput => Unit
  | .disableInput => Unit
  | .processDied _ => Unit
  | .clientHandle => Option UInt64

/-- A computation over states `σ` that may ask on its way. -/
inductive Dialogue (σ α : Type) where
  | done (state : σ) (result : α)
  | ask (state : σ) (request : Request) (next : σ → request.Answer → Dialogue σ α)

/-- A dialogue for every state. -/
def Op (σ α : Type) : Type := σ → Dialogue σ α

namespace Dialogue

variable {σ τ α β γ : Type}

/-- Goes on with `f` where the dialogue is finished. -/
def bind : Dialogue σ α → (α → Op σ β) → Dialogue σ β
  | done s a, f => f a s
  | ask s q next, f => ask s q fun s' r => (next s' r).bind f

/-- A dialogue over a part of a larger state. Others may change the rest while it waits. -/
def within (part : τ → σ) (put : τ → σ → τ) : Dialogue σ α → τ → Dialogue τ α
  | done s a, t => done (put t s) a
  | ask s q next, t => ask (put t s) q fun t' r => (next (part t') r).within part put t'

/-- Carries a dialogue out. -/
def run {m : Type → Type} [Monad m] (answer : (q : Request) → σ → m (q.Answer × σ)) :
    Dialogue σ α → m (α × σ)
  | done s a => pure (a, s)
  | ask s q next => do
    let (r, s') ← answer q s
    (next s' r).run answer

theorem bind_done (d : Dialogue σ α) : d.bind (fun a s => done s a) = d := by
  induction d with
  | done s a => rfl
  | ask s q next ih =>
    simp only [bind, ask.injEq, heq_eq_eq, true_and]
    exact funext fun s' => funext fun r => ih s' r

theorem bind_assoc (d : Dialogue σ α) (f : α → Op σ β) (g : β → Op σ γ) :
    (d.bind f).bind g = d.bind fun a s => (f a s).bind g := by
  induction d with
  | done s a => rfl
  | ask s q next ih =>
    simp only [bind, ask.injEq, heq_eq_eq, true_and]
    exact funext fun s' => funext fun r => ih s' r

end Dialogue

namespace Op

variable {σ τ α β : Type}

instance : Monad (Op σ) where
  pure a := fun s => .done s a
  bind x f := fun s => (x s).bind f

instance : MonadStateOf σ (Op σ) where
  get := fun s => .done s s
  set s := fun _ => .done s ()
  modifyGet f := fun s => .done (f s).2 (f s).1

/-- Asks a collaborator. -/
def ask (q : Request) : Op σ q.Answer := fun s => .ask s q fun s' r => .done s' r

/-- An operation over a part of a larger state. -/
def within (part : τ → σ) (put : τ → σ → τ) (x : Op σ α) : Op τ α :=
  fun t => (x (part t)).within part put t

theorem pure_apply (a : α) (s : σ) : (pure a : Op σ α) s = .done s a := rfl

theorem bind_apply (x : Op σ α) (f : α → Op σ β) (s : σ) : (x >>= f) s = (x s).bind f := rfl

theorem get_apply (s : σ) : (get : Op σ σ) s = .done s s := rfl

theorem modifyGet_apply (f : σ → α × σ) (s : σ) :
    (modifyGet f : Op σ α) s = .done (f s).2 (f s).1 := rfl

theorem ask_apply (q : Request) (s : σ) : (ask q : Op σ q.Answer) s = .ask s q fun s' r => .done s' r := rfl

instance : LawfulMonad (Op σ) :=
  LawfulMonad.mk' (Op σ)
    (fun x => funext fun s => Dialogue.bind_done (x s))
    (fun _ _ => rfl)
    (fun x f g => funext fun s => Dialogue.bind_assoc (x s) f g)

end Op

/-- An operation that may be refused. The state changes made before a refusal stay. -/
abbrev Call (σ α : Type) : Type := ExceptT Refusal (Op σ) α

namespace Call

variable {σ τ α : Type}

/-- Asks a collaborator. -/
def ask (q : Request) : Call σ q.Answer := ExceptT.lift (Op.ask q)

/-- Changes the state, or refuses and leaves it as it is. -/
def attempt (f : σ → Except Refusal (α × σ)) : Call σ α :=
  ExceptT.mk fun s =>
    match f s with
    | .ok (a, s') => .done s' (.ok a)
    | .error e => .done s (.error e)

/-- Goes on with a value, or refuses. -/
def ofExcept {ε : Type} (refuse : ε → Refusal) : Except ε α → Call σ α
  | .ok a => pure a
  | .error e => throw (refuse e)

/-- A call over a part of a larger state. -/
def within (part : τ → σ) (put : τ → σ → τ) (x : Call σ α) : Call τ α :=
  ExceptT.mk (Op.within part put x.run)

end Call

end ClickGrant
