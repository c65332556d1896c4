import ClickGrant.Proofs.Registry.Parts
import ClickGrant.Registry.Admission

/-!
# How admission ends

`Admits s caller c declared r log result r'` lists the ways in which the admission of a declared
component can end, with the exchanges each of them takes. What is admitted is the declared
component marked with the rectangle that the validity rules yielded in the reported context. A
component that fails an inspection has its caller quarantined; nothing else ever changes the
state.
-/
set_option autoImplicit false

namespace ClickGrant

/-- The component as a passed check marks it. -/
def Component.shownAt (c : Component) (rect : Rect) : Component :=
  { c with isValid := true, drawn := some rect }

@[simp] theorem Component.screenRect_shownAt (c : Component) (rect : Rect) :
    (c.shownAt rect).screenRect = rect := rfl

@[simp] theorem Component.kind_shownAt (c : Component) (rect : Rect) :
    (c.shownAt rect).kind = c.kind := rfl

namespace Registry

/-- Display and window manager have reported. -/
def survey (c : Component) (screen : Screen) (scale : WindowScale) : List Exchange :=
  [⟨.screen c.displayId c.crossAxis, Except.ok screen⟩, ⟨.windowScale c.windowId, Except.ok scale⟩]

/-- The enhancement module, if there is one, has accepted the component. -/
def inspection (s : Settings) (caller : Caller) (c : Component) (declared : String) : List Exchange :=
  if s.enhanced then [⟨.inspect caller.pid c declared, Except.ok ()⟩] else []

/-- The ways in which an admission can end. -/
inductive Admits (s : Settings) (caller : Caller) (c : Component) (declared : String) (r : Registry) :
    List Exchange → Except Refusal Component → Registry → Prop where
  | noScreen (o : Outage) :
      Admits s caller c declared r [⟨.screen c.displayId c.crossAxis, Except.error o⟩]
        (.error (.outage o)) r
  | noScale (screen : Screen) (o : Outage) :
      Admits s caller c declared r
        [⟨.screen c.displayId c.crossAxis, Except.ok screen⟩, ⟨.windowScale c.windowId, Except.error o⟩]
        (.error (.outage o)) r
  | invalid {screen : Screen} {scale : WindowScale} {cause : Invalidity}
      (verdict : s.validity.validateDrawn c ⟨screen, scale⟩ = .error cause) :
      Admits s caller c declared r (survey c screen scale) (.error (.invalidComponent cause)) r
  | tampered {screen : Screen} {scale : WindowScale} {rect : Rect} (cause : EnhanceFailure)
      (verdict : s.validity.validateDrawn c ⟨screen, scale⟩ = .ok rect) (enhanced : s.enhanced = true) :
      Admits s caller c declared r
        (survey c screen scale ++ [⟨.inspect caller.pid (c.shownAt rect) declared, Except.error cause⟩])
        (.error (.integrityFailure cause)) (quarantineCaller caller r)
  | admitted {screen : Screen} {scale : WindowScale} {rect : Rect}
      (verdict : s.validity.validateDrawn c ⟨screen, scale⟩ = .ok rect) :
      Admits s caller c declared r
        (survey c screen scale ++ inspection s caller (c.shownAt rect) declared)
        (.ok (c.shownAt rect)) r

variable {s : Settings} {caller : Caller} {c : Component} {declared : String} {r r' : Registry}
  {log : List Exchange}

theorem validityContext_ends {result : Except Refusal ValidityContext}
    (h : Call.Does (validityContext c) r log result r') :
    r' = r ∧
      ((∃ o, log = [⟨.screen c.displayId c.crossAxis, Except.error o⟩] ∧ result = .error (.outage o)) ∨
       (∃ screen o, log = [⟨.screen c.displayId c.crossAxis, Except.ok screen⟩,
          ⟨.windowScale c.windowId, Except.error o⟩] ∧ result = .error (.outage o)) ∨
       ∃ screen scale, log = survey c screen scale ∧ result = .ok ⟨screen, scale⟩) := by
  unfold validityContext at h
  rw [Call.does_ask_bind] at h
  obtain ⟨screen, l, h, rfl⟩ := h
  cases screen with
  | error o =>
    obtain ⟨rfl, rfl, rfl⟩ := Call.does_throw_bind.mp h
    exact ⟨rfl, .inl ⟨o, rfl, rfl⟩⟩
  | ok screen =>
    simp only [Call.ofExcept, pure_bind] at h
    rw [Call.does_ask_bind] at h
    obtain ⟨scale, l, h, rfl⟩ := h
    cases scale with
    | error o =>
      obtain ⟨rfl, rfl, rfl⟩ := Call.does_throw_bind.mp h
      exact ⟨rfl, .inr (.inl ⟨screen, o, rfl, rfl⟩)⟩
    | ok scale =>
      obtain ⟨rfl, rfl, rfl⟩ := Call.does_pure.mp h
      exact ⟨rfl, .inr (.inr ⟨screen, scale, rfl, rfl⟩)⟩

theorem admits_of_does {result : Except Refusal Component}
    (h : Call.Does (admission s caller c declared) r log result r') :
    Admits s caller c declared r log result r' := by
  unfold admission at h
  rw [Call.does_bind] at h
  obtain ⟨e, h, rfl⟩ | ⟨l₁, ctx, u, l₂, reported, h, rfl⟩ := h
  · obtain ⟨rfl, ⟨o, rfl, he⟩ | ⟨screen, o, rfl, he⟩ | ⟨_, _, _, ⟨⟩⟩⟩ := validityContext_ends h
    · cases he; exact .noScreen o
    · cases he; exact .noScale screen o
  obtain ⟨rfl, ⟨_, _, ⟨⟩⟩ | ⟨_, _, _, ⟨⟩⟩ | ⟨screen, scale, rfl, ⟨⟩⟩⟩ := validityContext_ends reported
  unfold ValidityPolicy.validateAndMark at h
  cases verdict : s.validity.validateDrawn c ⟨screen, scale⟩ with
  | error cause =>
    rw [verdict] at h
    obtain ⟨rfl, rfl, rfl⟩ := Call.does_throw.mp h
    rw [List.append_nil]
    exact .invalid verdict
  | ok rect =>
    -- how it ends if an inspection is passed, or none is needed
    have pass : Admits s caller c declared u _ _ u := .admitted verdict
    rw [inspection] at pass
    rw [verdict] at h
    dsimp only at h
    split at h
    next enhanced =>
      rw [if_pos enhanced] at pass
      rw [Call.does_ask_bind] at h
      obtain ⟨answer, l, h, rfl⟩ := h
      cases answer with
      | error cause =>
        rw [Call.does_modify_bind, Call.does_throw] at h
        obtain ⟨rfl, rfl, rfl⟩ := h
        exact .tampered cause verdict enhanced
      | ok _ =>
        obtain ⟨rfl, rfl, rfl⟩ := Call.does_pure.mp h
        exact pass
    next plain =>
      rw [if_neg plain] at pass
      obtain ⟨rfl, rfl, rfl⟩ := Call.does_pure.mp h
      exact pass

/-- Each of these ways can be gone. -/
theorem does_of_admits {result : Except Refusal Component} (h : Admits s caller c declared r log result r') :
    Call.Does (admission s caller c declared) r log result r' := by
  have reported (screen : Screen) (scale : WindowScale) :
      Call.Does (validityContext c) r (survey c screen scale) (.ok ⟨screen, scale⟩) r :=
    .ask rfl (.ask rfl (.done _ _))
  unfold admission
  rw [Call.does_bind]
  cases h with
  | noScreen o => exact .inl ⟨_, .ask rfl (.done _ _), rfl⟩
  | noScale screen o => exact .inl ⟨_, .ask rfl (.ask rfl (.done _ _)), rfl⟩
  | @invalid screen scale cause verdict =>
    refine .inr ⟨_, _, _, [], reported screen scale, ?_, (List.append_nil _).symm⟩
    unfold ValidityPolicy.validateAndMark
    rw [verdict]
    exact Call.does_throw.mpr ⟨rfl, rfl, rfl⟩
  | @tampered screen scale rect cause verdict enhanced =>
    refine .inr ⟨_, _, _, _, reported screen scale, ?_, rfl⟩
    unfold ValidityPolicy.validateAndMark
    rw [verdict]
    dsimp only
    rw [if_pos enhanced]
    exact .ask rfl (.done _ _)
  | @admitted screen scale rect verdict =>
    refine .inr ⟨_, _, _, _, reported screen scale, ?_, rfl⟩
    unfold ValidityPolicy.validateAndMark inspection
    rw [verdict]
    dsimp only
    split
    · exact .ask rfl (.done _ _)
    · exact .done _ _

/-- The ways in which the admission of a stored component's new declaration can end. -/
theorem readmission_ends {id : ComponentId} {result : Except Refusal Component}
    (h : Call.Does (readmission s caller id c declared) r log result r') :
    (∃ e u, Admits s caller c declared r log (.error e) u ∧ result = .error e ∧
      r' = markInvalid caller.pid id u) ∨
    ∃ c', Admits s caller c declared r log (.ok c') r' ∧ result = .ok c' := by
  rw [readmission, Call.does_tryCatch] at h
  obtain ⟨l₁, e, u, l₂, refused, h, rfl⟩ | ⟨c', h, rfl⟩ := h
  · rw [Call.does_modify_bind, Call.does_throw] at h
    obtain ⟨rfl, rfl, rfl⟩ := h
    rw [List.append_nil]
    exact .inl ⟨e, u, admits_of_does refused, rfl, rfl⟩
  · exact .inr ⟨c', admits_of_does h, rfl⟩

/-- What is admitted is the declaration, marked as drawn where the rules say. The state stays. -/
theorem Admits.of_ok {c' : Component} (h : Admits s caller c declared r log (.ok c') r') :
    r' = r ∧ ∃ screen scale rect, s.validity.validateDrawn c ⟨screen, scale⟩ = .ok rect ∧
      c' = c.shownAt rect ∧
      log = survey c screen scale ++ inspection s caller (c.shownAt rect) declared := by
  cases h with
  | admitted verdict => exact ⟨rfl, _, _, _, verdict, rfl, rfl⟩

/-- A refused admission at most quarantines the caller. -/
theorem Admits.of_error {e : Refusal} (h : Admits s caller c declared r log (.error e) r') :
    r' = r ∨ r' = quarantineCaller caller r := by
  cases h with
  | tampered => exact .inr rfl
  | _ => exact .inl rfl

end Registry

end ClickGrant
