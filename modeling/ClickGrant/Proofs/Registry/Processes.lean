import ClickGrant.Proofs.Registry.Grants
import ClickGrant.Proofs.Registry.Table

/-!
# What each act does to the processes

An act does one of four things to the table (`Reshapes`): it takes components away or changes
marks, it stores a new component, it puts a new declaration in the place of a stored component, or
it notes that a process has come to the foreground or gone to the background. A new declaration is
stored by a successful update and by a granted click alike (`Redraws`); in both cases it is drawn
in the rectangle that the validity rules have yielded for it.
-/
set_option autoImplicit false

namespace ClickGrant.Registry

variable {s : Settings} {caller : Caller} {c : Component} {declared : String} {r r' : Registry}
  {log : List Exchange} {id : ComponentId} {event : ClickEvent} {handle : Option UInt64}
  {act : Act} {reply : Except Refusal Unit} {rect : Rect}

/-- A stored component is declared anew, by an update or by a granted click, and is now drawn in
this rectangle. -/
def Redraws (s : Settings) (act : Act) (log : List Exchange) (reply : Except Refusal Unit)
    (caller : Caller) (id : ComponentId) (rect : Rect) : Prop :=
  ∃ c declared screen scale rest,
    (act = .update caller id c declared ∨
      ∃ event handle, act = .reportClick caller id c declared event handle) ∧
    reply = .ok () ∧ log = survey c screen scale ++ rest ∧
    s.validity.validateDrawn c ⟨screen, scale⟩ = .ok rect

/-- The display and the window manager have reported one thing only. -/
theorem survey_inj {screen screen' : Screen} {scale scale' : WindowScale} {rest rest' : List Exchange}
    (h : survey c screen scale ++ rest = survey c screen' scale' ++ rest') :
    screen = screen' ∧ scale = scale' := by
  unfold survey at h
  simp only [List.cons_append, List.nil_append, List.cons.injEq] at h
  obtain ⟨first, second, -⟩ := h
  injection first with _ first
  injection second with _ second
  exact ⟨Except.ok.inj first, Except.ok.inj second⟩

/-- What an act can do to the table. -/
inductive Reshapes (s : Settings) (r : Registry) (act : Act) (log : List Exchange)
    (reply : Except Refusal Unit) (t : ComponentTable) : Prop where
  | thins (thins : r.table.Thins t)
  | registered {caller : Caller} {kind : Kind} {c c' : Component} {declared : String}
      {id : ComponentId} {u : ComponentTable} (act : act = .register caller kind c declared)
      (fits : Fits s caller c' r id u) (left : t = u.insert caller.pid caller.token ⟨id, c'⟩)
  | redrawn {caller : Caller} {id : ComponentId} {kind : Kind} {token : Token} {rect : Rect}
      {f : Component → Component} (redraws : Redraws s act log reply caller id rect)
      (present : StoredAs r caller.pid id kind token) (drawn : ∀ old, (f old).screenRect = rect)
      (left : t = r.table.modify caller.pid id f)
  | moved (pid : Pid) (foreground : Bool) (act : act = if foreground then .foreground pid else .background pid)
      (left : t = r.table.setForeground pid foreground)

theorem Admits.table_eq {result : Except Refusal Component}
    (h : Admits s caller c declared r log result r') : r'.table = r.table := by
  cases h with
  | tampered => simp
  | _ => rfl

theorem Believes.table_eq {result : Except Refusal Unit}
    (h : Believes s caller c event r log result r') : r'.table = r.table := by
  cases h with
  | rejected =>
    split
    · exact table_quarantineCaller r caller
    · rfl
  | _ => rfl

theorem thins_markInvalid (pid : Pid) (id : ComponentId) (r : Registry) :
    r.table.Thins (markInvalid pid id r).table :=
  ComponentTable.thins_modify (f := fun c => { c with isValid := false }) (fun _ => rfl) r.table pid id

theorem Clicks.thins_of_error {e : Refusal}
    (h : Clicks s caller id c declared event handle r log (.error e) r') :
    r.table.Thins r'.table := by
  cases h with
  | unadmitted _ refused => exact refused.table_eq ▸ thins_markInvalid caller.pid id _
  | unbelieved _ _ disbelief => rw [disbelief.table_eq]; exact .refl _
  | denied _ _ _ _ refused => cases refused; exact .refl _
  | _ => exact .refl _

theorem Fires.thins {fired : TimerEvent} (h : Fires r fired log r') : r.table.Thins r'.table := by
  cases h with
  | save token serial =>
    unfold withdrawSave changeGrants
    cases GrantState.revokeSave token serial r.toGrantState with
    | mk last g =>
      cases last
      · exact .refl _
      · exact ComponentTable.thins_clearGranted _ _ _
  | background =>
    unfold backgrounded
    dsimp only
    split
    · exact .refl _
    · exact ComponentTable.thins_clearGranted _ _ _
  | idle =>
    unfold beginShutdown
    split <;> exact .refl _

theorem FiresAll.thins {events : List TimerEvent} (h : FiresAll r events log r') :
    r.table.Thins r'.table :=
  h.keeps (fun u => r.table.Thins u.table) (fun first thins => thins.trans first.thins) (.refl _)

theorem Outcome.reshapes (h : Outcome s r act log reply r') : Reshapes s r act log reply r'.table := by
  cases h with
  | register f ends =>
    cases ends with
    | barred => exact .thins (.refl _)
    | otherKind => exact .thins (.refl _)
    | unadmitted _ _ refused =>
      rw [table_measure, refused.table_eq]
      exact .thins (.refl _)
    | clash => exact .thins (.refl _)
    | stored _ _ _ fits stored =>
      refine .registered rfl fits ?_
      rw [table_measure, showActive_eq, table_measure, table_synced, stored]
  | update ends =>
    cases ends with
    | turnedAway => exact .thins (.refl _)
    | unadmitted _ refused =>
      exact .thins (refused.table_eq ▸ thins_markInvalid _ _ _)
    | replaced door admitted =>
      obtain ⟨-, screen, scale, rect, drawn, rfl, rfl⟩ := admitted.of_ok
      exact .redrawn ⟨_, _, screen, scale, _, .inl rfl, rfl, rfl, drawn⟩ door.present
        (fun _ => rfl) rfl
  | unregister ends =>
    cases ends with
    | taken _ _ _ left =>
      refine .thins ?_
      rw [table_synced, showActive_eq, table_measure, left]
      exact (ComponentTable.thins_take _ _ _).trans (ComponentTable.thins_dropIfEmpty _ _)
    | _ => exact .thins (.refl _)
  | reportClick f ends =>
    rw [table_measure]
    cases reply with
    | error e => exact .thins ends.thins_of_error
    | ok =>
      cases ends with
      | granted _ door admitted =>
        obtain ⟨-, screen, scale, rect, drawn, rfl, rfl⟩ := admitted.of_ok
        exact .redrawn ⟨_, _, screen, scale, _, .inr ⟨_, _, rfl⟩, rfl, List.append_assoc .., drawn⟩
          door.present (fun _ => rfl) rfl
  | foreground pid =>
    cases found : r.table.processes.get? pid with
    | none => rw [processForeground_of_none found]; exact .thins (.refl _)
    | some p => rw [processForeground_of_some found]; exact .moved pid true rfl rfl
  | background pid =>
    cases found : r.table.processes.get? pid with
    | none => rw [processBackground_of_none found]; exact .thins (.refl _)
    | some p => rw [processBackground_of_some found]; exact .moved pid false rfl rfl
  | died ends =>
    cases ends with
    | unknown => exact .thins (ComponentTable.thins_dropProcess _ _)
    | known _ _ left =>
      rw [table_synced, showActive_eq, table_measure, left]
      exact .thins (ComponentTable.thins_dropProcess _ _)
  | armIdleExit => exact .thins (.refl _)
  | fire ends => exact .thins ends.thins
  | runDueTimers ends => exact .thins ends.thins
  | setClock now => exact .thins (.refl _)

/-- A component that is declared anew is stored where the rules draw it. -/
theorem Outcome.redrawn (h : Outcome s r act log reply r')
    (redraws : Redraws s act log reply caller id rect) :
    ∃ kind token f, StoredAs r caller.pid id kind token ∧ (∀ old, (f old).screenRect = rect) ∧
      r'.table = r.table.modify caller.pid id f := by
  obtain ⟨c, declared, screen, scale, rest, act | ⟨event, handle, act⟩, ok, asked, drawn⟩ := redraws
  · subst act ok
    cases h with
    | update ends =>
      cases ends with
      | replaced door admitted =>
        obtain ⟨-, screen', scale', rect', drawn', rfl, same⟩ := admitted.of_ok
        -- the exchanges say what was reported, so the rules have yielded this very rectangle
        obtain ⟨rfl, rfl⟩ := survey_inj (asked.symm.trans same)
        rw [drawn] at drawn'
        cases drawn'
        exact ⟨_, _, _, door.present, fun _ => rfl, rfl⟩
  · subst act ok
    cases h with
    | reportClick f ends =>
      cases ends with
      | granted _ door admitted =>
        obtain ⟨-, screen', scale', rect', drawn', rfl, rfl⟩ := admitted.of_ok
        rw [List.append_assoc] at asked
        obtain ⟨rfl, rfl⟩ := survey_inj asked.symm
        rw [drawn] at drawn'
        cases drawn'
        exact ⟨_, _, _, door.present, fun _ => rfl, rfl⟩

/-- No turn gives two components of one process the same identifier. -/
theorem Outcome.distinct (h : Outcome s r act log reply r') (distinct : r.table.Distinct) :
    r'.table.Distinct := by
  cases h.reshapes with
  | thins thins => exact distinct.thins thins
  | registered _ fits left => rw [left]; exact distinct.insert fits.free _ _
  | redrawn _ _ _ left => rw [left]; exact distinct.modify _ _ _
  | moved pid foreground _ left => rw [left]; exact distinct.setForeground _ _

end ClickGrant.Registry
