import ClickGrant.Proofs.Validity.Bounds

/-!
# Four groups of rules

A component is valid if four groups of rules pass, asked in order. `FailsFirst` says which group is the
first to fail, and `SameGeometry`, `SameLabel`, `SameSizes` and `SameColors` which parts of two components
agree. What is proved:
  1. `blames_checkBounds` and its like — every cause that a group gives is one of this group.
  2. `validate_eq_ok_iff`, `validate_eq_error_iff` — a component is valid exactly if all four groups pass;
     otherwise the cause is the one of the first group that fails.
  3. `checkBounds_eq_of_sameGeometry` and its like — what each group reads. Bounds read the geometry, the
     parent effect reads only itself, sizes and contrast read which labels are shown, whether on a
     background, and beyond that nothing in common.
  4. `verdict_of_groups` — all of this, with the marks that a check leaves, which hold nothing of an
     earlier check.
-/
set_option autoImplicit false

namespace ClickGrant

/-- A rule that refuses, and what is asked after it. -/
theorem refusing_eq {α : Type} {rule : Prop} [Decidable rule] {cause : Invalidity}
    {rest : Unit → Except Invalidity α} :
    (if rule then (throw cause : Except Invalidity Unit) >>= rest else rest ()) =
      if rule then .error cause else rest () := by
  split <;> rfl

/-! ## Causes of one group -/

/-- All causes that a check gives belong to one group. -/
def Blames {α : Type} (g : ValidityGroup) (x : Except Invalidity α) : Prop := ∀ e, x = .error e → e.group = g

namespace Blames

variable {α β : Type} {g : ValidityGroup}

theorem ok (a : α) : Blames g (.ok a) := by
  intro e h
  cases h

theorem error {cause : Invalidity} (h : cause.group = g) : Blames g (.error cause : Except Invalidity α) := by
  intro e same
  cases same
  exact h

theorem bind {x : Except Invalidity α} {f : α → Except Invalidity β} (first : Blames g x)
    (rest : ∀ a, Blames g (f a)) : Blames g (x >>= f) := by
  intro e h
  cases x with
  | error cause =>
    change (Except.error cause : Except Invalidity β) = .error e at h
    cases h
    exact first e rfl
  | ok a => exact rest a e h

theorem ite {c : Prop} [Decidable c] {x y : Except Invalidity α} (yes : Blames g x) (no : Blames g y) :
    Blames g (if c then x else y) := by
  split
  · exact yes
  · exact no

theorem refusing {c : Prop} [Decidable c] {cause : Invalidity} {rest : Unit → Except Invalidity α}
    (h : cause.group = g) (after : Blames g (rest ())) :
    Blames g (if c then (throw cause : Except Invalidity Unit) >>= rest else rest ()) := by
  rw [refusing_eq]
  exact .ite (.error h) after

end Blames

namespace ValidityPolicy

variable {p : ValidityPolicy} {c c' : Component} {ctx : ValidityContext} {e : Invalidity} {g : ValidityGroup}
  {r w drawn : Rect}

theorem blames_scaledGeometry (p : ValidityPolicy) (c : Component) (s : WindowScale) :
    Blames .bounds (p.scaledGeometry c s) := by
  unfold scaledGeometry
  exact .ite (.error rfl) (.ite (.ok _) (.ok _))

theorem blames_onScreen (p : ValidityPolicy) (c : Component) (r : Rect) (s : Screen) :
    Blames .bounds (p.onScreen c r s) := by
  unfold onScreen
  exact .ite (.ite (.error rfl) (.ok _)) (.ite (.ok _) (.error rfl))

theorem blames_checkBounds (p : ValidityPolicy) (c : Component) (ctx : ValidityContext) :
    Blames .bounds (p.checkBounds c ctx) := by
  unfold checkBounds
  apply Blames.refusing rfl
  apply Blames.refusing rfl
  apply Blames.refusing rfl
  apply Blames.bind (blames_scaledGeometry _ _ _)
  intro drawn
  apply Blames.refusing rfl
  apply Blames.bind (blames_onScreen _ _ _ _)
  intro _
  apply Blames.refusing rfl
  exact .ok _

theorem blames_checkParentEffect (p : ValidityPolicy) (c : Component) (drawn : Rect) :
    Blames .parentEffect (p.checkParentEffect c drawn) := by
  unfold checkParentEffect
  apply Blames.ite (.error rfl)
  apply Blames.ite _ (.ok _)
  cases c.parentEffect.clip with
  | none => exact .error rfl
  | some clip => exact .ite (.ok _) (.error rfl)

theorem blames_checkPadding (p : ValidityPolicy) (look : Look) : Blames .size (p.checkPadding look) := by
  unfold checkPadding
  exact .ite (.ite (.error rfl) (.ok _)) (.ite (.error rfl) (.ok _))

theorem blames_checkSizes (p : ValidityPolicy) (c : Component) : Blames .size (p.checkSizes c) := by
  unfold checkSizes
  apply Blames.refusing rfl
  apply Blames.refusing rfl
  apply Blames.bind (blames_checkPadding _ _)
  intro _
  apply Blames.refusing rfl
  apply Blames.refusing rfl
  exact .ite (.error rfl) (.ok _)

theorem blames_checkContrast (p : ValidityPolicy) (c : Component) : Blames .contrast (p.checkContrast c) := by
  unfold checkContrast
  apply Blames.refusing rfl
  apply Blames.refusing rfl
  apply Blames.ite (.ok _)
  apply Blames.refusing rfl
  exact .ite (.error rfl) (.ok _)

/-! ## The groups in order -/

/-- All groups pass, and the component and its window are drawn at `r` and `w`. -/
structure Passes (p : ValidityPolicy) (c : Component) (ctx : ValidityContext) (r w : Rect) : Prop where
  bounds : p.checkBounds c ctx = .ok (r, w)
  parentEffect : p.checkParentEffect c r = .ok ()
  sizes : p.checkSizes c = .ok ()
  contrast : p.checkContrast c = .ok ()

/-- A group fails, and those before it pass. -/
inductive FailsFirst (p : ValidityPolicy) (c : Component) (ctx : ValidityContext) :
    ValidityGroup → Invalidity → Prop where
  | bounds {e : Invalidity} (fails : p.checkBounds c ctx = .error e) : FailsFirst p c ctx .bounds e
  | parentEffect {r w : Rect} {e : Invalidity} (bounds : p.checkBounds c ctx = .ok (r, w))
      (fails : p.checkParentEffect c r = .error e) : FailsFirst p c ctx .parentEffect e
  | size {r w : Rect} {e : Invalidity} (bounds : p.checkBounds c ctx = .ok (r, w))
      (parentEffect : p.checkParentEffect c r = .ok ()) (fails : p.checkSizes c = .error e) :
      FailsFirst p c ctx .size e
  | contrast {r w : Rect} {e : Invalidity} (bounds : p.checkBounds c ctx = .ok (r, w))
      (parentEffect : p.checkParentEffect c r = .ok ()) (sizes : p.checkSizes c = .ok ())
      (fails : p.checkContrast c = .error e) : FailsFirst p c ctx .contrast e

theorem FailsFirst.group_eq (h : p.FailsFirst c ctx g e) : e.group = g := by
  cases h with
  | bounds fails => exact blames_checkBounds p c ctx e fails
  | parentEffect _ fails => exact blames_checkParentEffect p c _ e fails
  | size _ _ fails => exact blames_checkSizes p c e fails
  | contrast _ _ _ fails => exact blames_checkContrast p c e fails

theorem FailsFirst.validateDrawn_eq (h : p.FailsFirst c ctx g e) : p.validateDrawn c ctx = .error e := by
  unfold validateDrawn
  cases h with
  | bounds fails => rw [fails]; rfl
  | parentEffect bounds fails => rw [bounds]; simp only [bind, Except.bind, fails]
  | size bounds parentEffect fails => rw [bounds]; simp only [bind, Except.bind, parentEffect, fails]
  | contrast bounds parentEffect sizes fails =>
    rw [bounds]
    simp only [bind, Except.bind, parentEffect, sizes, fails]

theorem Passes.validateDrawn_eq (h : p.Passes c ctx r w) : p.validateDrawn c ctx = .ok r := by
  unfold validateDrawn
  rw [h.bounds]
  simp only [bind, Except.bind, h.parentEffect, h.sizes, h.contrast, pure, Except.pure]

/-- The groups all pass, or one of them is the first to fail. -/
theorem passes_or_failsFirst (p : ValidityPolicy) (c : Component) (ctx : ValidityContext) :
    (∃ r w, p.Passes c ctx r w) ∨ ∃ g e, p.FailsFirst c ctx g e := by
  cases bounds : p.checkBounds c ctx with
  | error e => exact .inr ⟨_, e, .bounds bounds⟩
  | ok drawn =>
    cases parentEffect : p.checkParentEffect c drawn.1 with
    | error e => exact .inr ⟨_, e, .parentEffect bounds parentEffect⟩
    | ok _ =>
      cases sizes : p.checkSizes c with
      | error e => exact .inr ⟨_, e, .size bounds parentEffect sizes⟩
      | ok _ =>
        cases contrast : p.checkContrast c with
        | error e => exact .inr ⟨_, e, .contrast bounds parentEffect sizes contrast⟩
        | ok _ => exact .inl ⟨_, _, bounds, parentEffect, sizes, contrast⟩

theorem Passes.validate_eq (h : p.Passes c ctx r w) : p.validate c ctx = .ok () := by
  unfold validate
  rw [h.validateDrawn_eq]
  rfl

theorem FailsFirst.validate_eq (h : p.FailsFirst c ctx g e) : p.validate c ctx = .error e := by
  unfold validate
  rw [h.validateDrawn_eq]
  rfl

theorem validate_eq_ok_iff : p.validate c ctx = .ok () ↔ ∃ r w, p.Passes c ctx r w := by
  constructor
  · intro valid
    rcases passes_or_failsFirst p c ctx with passes | ⟨g, e, fails⟩
    · exact passes
    · rw [fails.validate_eq] at valid
      cases valid
  · rintro ⟨r, w, passes⟩
    exact passes.validate_eq

/-- The cause is the one of the first group that fails, and names this group. -/
theorem validate_eq_error_iff : p.validate c ctx = .error e ∧ e.group = g ↔ p.FailsFirst c ctx g e := by
  constructor
  · rintro ⟨invalid, rfl⟩
    rcases passes_or_failsFirst p c ctx with ⟨r, w, passes⟩ | ⟨g, e', fails⟩
    · rw [passes.validate_eq] at invalid
      cases invalid
    · rw [fails.validate_eq] at invalid
      cases invalid
      rwa [fails.group_eq]
  · intro fails
    exact ⟨fails.validate_eq, fails.group_eq⟩

/-! ## What the groups read -/

/-- Two components are in the same place and of the same shape. -/
structure SameGeometry (c c' : Component) : Prop where
  rect : c'.rect = c.rect
  windowRect : c'.windowRect = c.windowRect
  borderRadius : c'.look.borderRadius = c.look.borderRadius

/-- Two components show a text, an icon and a background alike. -/
structure SameLabel (c c' : Component) : Prop where
  text : c'.hasText = c.hasText
  icon : c'.hasIcon = c.hasIcon
  background : c'.look.background = c.look.background

/-- Two components have the same sizes. -/
structure SameSizes (c c' : Component) : Prop where
  font : c'.look.fontSize = c.look.fontSize
  icon : c'.look.iconSize = c.look.iconSize
  textIconSpace : c'.look.textIconSpace = c.look.textIconSpace
  padding : c'.look.padding = c.look.padding
  borderWidth : c'.look.borderWidth = c.look.borderWidth

/-- Two components have the same colours. -/
structure SameColors (c c' : Component) : Prop where
  font : c'.look.fontColor = c.look.fontColor
  icon : c'.look.iconColor = c.look.iconColor
  background : c'.look.backgroundColor = c.look.backgroundColor

theorem scaledGeometry_eq_of_sameGeometry (same : SameGeometry c c') (s : WindowScale) :
    p.scaledGeometry c' s = p.scaledGeometry c s := by
  simp only [scaledGeometry, same.rect, same.windowRect]

theorem checkBounds_eq_of_sameGeometry (same : SameGeometry c c') :
    p.checkBounds c' ctx = p.checkBounds c ctx := by
  have screen : ∀ r s, p.onScreen c' r s = p.onScreen c r s := by
    intro r s
    simp only [onScreen, same.borderRadius]
  simp only [checkBounds, scaledGeometry_eq_of_sameGeometry same, screen, same.rect, same.windowRect]

theorem checkParentEffect_eq_of_same (same : c'.parentEffect = c.parentEffect) (drawn : Rect) :
    p.checkParentEffect c' drawn = p.checkParentEffect c drawn := by
  simp only [checkParentEffect, same]

theorem checkSizes_eq_of_sameSizes (label : SameLabel c c') (sizes : SameSizes c c') :
    p.checkSizes c' = p.checkSizes c := by
  unfold checkSizes checkPadding minFontSize
  dsimp only
  rw [label.text, label.icon, label.background, sizes.font, sizes.icon, sizes.textIconSpace, sizes.padding,
    sizes.borderWidth]

theorem checkContrast_eq_of_sameColors (label : SameLabel c c') (colors : SameColors c c') :
    p.checkContrast c' = p.checkContrast c := by
  unfold checkContrast contrastInsufficient
  dsimp only
  rw [label.text, label.icon, label.background, colors.font, colors.icon, colors.background]

/-! ## Marks -/

theorem Passes.marked (h : p.Passes c ctx r w) :
    p.validateAndMark c ctx = ({ c with isValid := true, drawn := some r }, .ok ()) := by
  unfold validateAndMark
  rw [h.validateDrawn_eq]

theorem FailsFirst.marked (h : p.FailsFirst c ctx g e) :
    p.validateAndMark c ctx = ({ c with isValid := false, drawn := none }, .error e) := by
  unfold validateAndMark
  rw [h.validateDrawn_eq]

/-- What an earlier check left is not looked at, and not kept. -/
theorem marked_of_marked (p : ValidityPolicy) (c : Component) (ctx : ValidityContext) (valid : Bool)
    (drawn : Option Rect) :
    p.validateAndMark { c with isValid := valid, drawn := drawn } ctx = p.validateAndMark c ctx := by
  have same : p.validateDrawn { c with isValid := valid, drawn := drawn } ctx = p.validateDrawn c ctx := rfl
  unfold validateAndMark
  rw [same]

theorem marked_twice (p : ValidityPolicy) (c : Component) (ctx : ValidityContext) :
    p.validateAndMark (p.validateAndMark c ctx).1 ctx = p.validateAndMark c ctx := by
  rcases passes_or_failsFirst p c ctx with ⟨r, w, passes⟩ | ⟨g, e, fails⟩
  · rw [passes.marked]
    exact (marked_of_marked ..).trans passes.marked
  · rw [fails.marked]
    exact (marked_of_marked ..).trans fails.marked

/-- **The verdict on a component** is that of four groups in order, and the marks of a check say what
this check found. Bounds and the parent effect share the rectangle that is drawn. Sizes and contrast
both read whether there is a text, whether there is an icon and of what type the background is, so
changing one of these three can change either verdict; beyond that they have nothing in common. -/
theorem verdict_of_groups (p : ValidityPolicy) (c : Component) (ctx : ValidityContext) :
    -- all groups pass, or the first one that fails is named
    ((p.validate c ctx = .ok () ↔ ∃ r w, p.Passes c ctx r w) ∧
      ∀ g e, p.validate c ctx = .error e ∧ e.group = g ↔ p.FailsFirst c ctx g e) ∧
    -- what a group does not read cannot change its verdict
    ((∀ c', SameGeometry c c' → p.checkBounds c' ctx = p.checkBounds c ctx) ∧
      (∀ c' drawn, c'.parentEffect = c.parentEffect →
        p.checkParentEffect c' drawn = p.checkParentEffect c drawn) ∧
      (∀ c', SameLabel c c' → SameSizes c c' → p.checkSizes c' = p.checkSizes c) ∧
      (∀ c', SameLabel c c' → SameColors c c' → p.checkContrast c' = p.checkContrast c) ∧
      ∀ isValid isGranted drawn tipPosition windowId displayId crossAxis,
        let c' := { c with isValid, isGranted, drawn, tipPosition, windowId, displayId, crossAxis }
        p.checkBounds c' ctx = p.checkBounds c ctx ∧
          (∀ r, p.checkParentEffect c' r = p.checkParentEffect c r) ∧
          p.checkSizes c' = p.checkSizes c ∧ p.checkContrast c' = p.checkContrast c) ∧
    -- the marks
    (p.validateAndMark c ctx).2 = p.validate c ctx ∧
    (∀ r w, p.Passes c ctx r w → p.scaledGeometry c ctx.windowScale = .ok (r, w) ∧
      (p.validateAndMark c ctx).1 = { c with isValid := true, drawn := some r }) ∧
    (∀ e, p.validate c ctx = .error e →
      (p.validateAndMark c ctx).1 = { c with isValid := false, drawn := none }) ∧
    (∀ isValid drawn, p.validateAndMark { c with isValid, drawn } ctx = p.validateAndMark c ctx) ∧
    p.validateAndMark (p.validateAndMark c ctx).1 ctx = p.validateAndMark c ctx := by
  refine ⟨⟨validate_eq_ok_iff, fun _ _ => validate_eq_error_iff⟩,
    ⟨fun _ => checkBounds_eq_of_sameGeometry, fun _ drawn same => checkParentEffect_eq_of_same same drawn,
      fun _ => checkSizes_eq_of_sameSizes, fun _ => checkContrast_eq_of_sameColors, ?_⟩,
    ?_, ?_, ?_, marked_of_marked p c ctx, marked_twice p c ctx⟩
  · intro isValid isGranted drawn tipPosition windowId displayId crossAxis c'
    have geometry : SameGeometry c c' := ⟨rfl, rfl, rfl⟩
    have label : SameLabel c c' := ⟨rfl, rfl, rfl⟩
    exact ⟨checkBounds_eq_of_sameGeometry geometry, checkParentEffect_eq_of_same rfl,
      checkSizes_eq_of_sameSizes label ⟨rfl, rfl, rfl, rfl, rfl⟩,
      checkContrast_eq_of_sameColors label ⟨rfl, rfl, rfl⟩⟩
  · rcases passes_or_failsFirst p c ctx with ⟨r, w, passes⟩ | ⟨g, e, fails⟩
    · rw [passes.marked, passes.validate_eq]
    · rw [fails.marked, fails.validate_eq]
  · intro r w passes
    exact ⟨(inBounds passes.bounds).scaled, by rw [passes.marked]⟩
  · intro e invalid
    have fails := validate_eq_error_iff.mp ⟨invalid, rfl⟩
    rw [fails.marked]

end ValidityPolicy

end ClickGrant
