import ClickGrant.Proofs.Registry.Run
import ClickGrant.Standalone.Environment

/-!
# Runs against the standalone collaborators

What the registry does against collaborators with a state of their own is a run
(`run_playActs`). So is, in particular, what it does when the service runs alone, and a state that
is computed this way has been reached.

The scene at the end is a service that runs alone with one display and one window, and an
application that puts buttons into this window. It shows that what is proved of all runs is not
proved of none.
-/
set_option autoImplicit false

namespace ClickGrant.Registry

/-- An act carried out against collaborators that answer like this. -/
def playAct {ε : Type} (answer : ε → (q : Request) → q.Answer × ε) (s : Settings) (act : Act)
    (r : Registry) (e : ε) : Turn × ε :=
  (⟨r, act, ((perform s act r).play answer e).1.1, ((perform s act r).play answer e).1.2.1,
    ((perform s act r).play answer e).1.2.2⟩, ((perform s act r).play answer e).2)

/-- Acts carried out one after the other. -/
def playActs {ε : Type} (answer : ε → (q : Request) → q.Answer × ε) (s : Settings) :
    List Act → Registry → ε → List Turn
  | [], _, _ => []
  | act :: rest, r, e =>
    let (t, e) := playAct answer s act r e
    t :: playActs answer s rest t.after e

/-- The state that turns lead to. -/
def lastState : Registry → List Turn → Registry
  | r, [] => r
  | _, t :: rest => lastState t.after rest

variable {ε : Type} (answer : ε → (q : Request) → q.Answer × ε) (s : Settings)

theorem taken_playAct (act : Act) (r : Registry) (e : ε) : (playAct answer s act r e).1.Taken s :=
  Dialogue.ends_play answer (perform s act r) e

theorem run_playActs : ∀ (acts : List Act) (r : Registry) (e : ε),
    Run s r (playActs answer s acts r e) (lastState r (playActs answer s acts r e))
  | [], r, _ => .done r
  | act :: rest, r, e => .next (taken_playAct answer s act r e) (run_playActs rest _ _)

theorem map_act_playActs : ∀ (acts : List Act) (r : Registry) (e : ε),
    (playActs answer s acts r e).map (·.act) = acts
  | [], _, _ => rfl
  | act :: rest, r, e => by
    rw [playActs, List.map_cons, map_act_playActs rest]
    rfl

/-! ## A scene -/

namespace Scene

/-- One display and standard limits. -/
def config : Config := { Config.standard with displays := [⟨0, 1000, 2000, false⟩] }

def settings : Settings := Settings.ofConfig config none false

theorem accepted_config : config.validate = .ok () := by
  have passes : config.validate.toBool = true := by decide +kernel
  cases result : config.validate with
  | ok => rfl
  | error e => rw [result] at passes; cases passes

/-- The application's window fills the display. -/
def environment : Environment :=
  { Environment.ofConfig config with screens.windows := [⟨1, ⟨0, 0, 1000, 2000⟩, 10, 1⟩] }

/-- The collaborators answer as if nothing had been asked of them before. -/
def reply (q : Request) : q.Answer := (environment.answer q).1

def app : Caller := { pid := 4242, uid := 20010, token := 537 }

/-- White label without a background. -/
def look : Look where
  background := .none
  fontSize := 16
  iconSize := 16
  textIconSpace := 4
  padding := ⟨4, 4, 4, 4⟩
  borderWidth := 0
  fontColor := ⟨0xFFFFFFFF⟩
  iconColor := ⟨0xFFFFFFFF⟩
  backgroundColor := ⟨0⟩
  borderRadius := none

/-- A button of the application with its top left corner at a point. -/
def button (labels : Labels) (x y : Float) : Component where
  labels := labels
  rect := ⟨x, y, 200, 60⟩
  windowRect := ⟨0, 0, 1000, 2000⟩
  windowId := 1
  displayId := 0
  crossAxis := false
  tipPosition := none
  look := look
  parentEffect := .none
  isValid := false
  isGranted := false
  drawn := none

def saveButton : Component := button (.save (some .save) none) 100 100

/-- Another one below it. -/
def lowerButton : Component := button (.save (some .save) none) 100 300

def locationButton : Component := button (.location (some .currentLocation) none) 100 100

/-- The service when it starts. -/
def fresh : Registry := .start 1000000 (.ofFile .missing) none

/-- Acts carried out on a fresh service, one after the other. -/
def turns (acts : List Act) : List Turn :=
  playActs Environment.answer settings acts fresh environment

/-- A click on a button at the point `x`, `y`. -/
def click (id : ComponentId) (c : Component) (x y : Float) : Act :=
  .reportClick app id c "" (.point 1000000 ⟨x, y⟩ (some [1])) none

/-- The state that acts on a fresh service lead to. -/
def state (acts : List Act) : Registry := lastState fresh (turns acts)

theorem run_turns (acts : List Act) : Run settings fresh (turns acts) (state acts) :=
  run_playActs Environment.answer settings acts fresh environment

theorem map_act_turns (acts : List Act) : (turns acts).map (·.act) = acts :=
  map_act_playActs Environment.answer settings acts fresh environment

/-- What an act does after others. -/
def turn (acts : List Act) (act : Act) : Turn :=
  (playAct Environment.answer settings act (state acts) environment).1

theorem run_before_turn (acts : List Act) (act : Act) :
    Run settings fresh (turns acts) (turn acts act).before := run_turns acts

theorem taken_turn (acts : List Act) (act : Act) : (turn acts act).Taken settings :=
  taken_playAct Environment.answer settings act (state acts) environment

end Scene

end ClickGrant.Registry
