import ClickGrant.Occlusion
import Mathlib.Data.List.Basic
import Mathlib.Data.List.Perm.Basic

/-!
# What covers a component

The occlusion check is a search that stops at the first hit, with two hits to look for: the
component's own window, and a window over it. What is proved:
  1. `check_eq_windowMissing_iff`, `check_eq_coveredBy_iff`, `check_eq_ok_iff` — when each answer is
     given, and which window it names. If the own id is listed twice, its first entry counts.
  2. `isCovered_of_inserted` — further windows, put in anywhere, uncover nothing.
  3. `isCovered_perm` — the order of the snapshot does not matter if the own id is listed once or
     not at all.
  4. `exists_classifier` — every set of exempt ids is that of a classifier.
-/
set_option autoImplicit false

namespace ClickGrant

section

variable {α : Type} {p : α → Bool} {l l' : List α} {a : α}

/-- The first member of a list with a property. -/
def FirstWith (P : α → Prop) (l : List α) (a : α) : Prop :=
  ∃ before after, l = before ++ a :: after ∧ P a ∧ ∀ b ∈ before, ¬P b

theorem find?_eq_some_iff_firstWith : l.find? p = some a ↔ FirstWith (p · = true) l a := by
  rw [List.find?_eq_some_iff_append]
  constructor
  · rintro ⟨here, before, after, split, none⟩
    exact ⟨before, after, split, here, fun b hb => by simpa using none b hb⟩
  · rintro ⟨before, after, split, here, none⟩
    exact ⟨here, before, after, split, fun b hb => by simpa using none b hb⟩

/-- A search that can only hit one member hits it in every order. -/
theorem find?_perm (once : l.countP p ≤ 1) (perm : l.Perm l') : l'.find? p = l.find? p := by
  rw [← List.head?_filter, ← List.head?_filter]
  have hits := perm.filter p
  rw [List.countP_eq_length_filter] at once
  cases found : l.filter p with
  | nil =>
    rw [found] at hits
    rw [hits.symm.eq_nil]
  | cons b rest =>
    rw [found, List.length_cons] at once
    have alone : rest = [] := List.eq_nil_of_length_eq_zero (Nat.le_zero.mp (Nat.le_of_succ_le_succ once))
    rw [found, alone] at hits
    rw [alone, List.singleton_perm.mp hits]

end

namespace WindowClassifier

variable {classifier : WindowClassifier} {window layer : Int32} {rect : Rect}
  {snapshot wider other : List Window} {w : Window}

/-- A window over `rect`, for a component whose own window has the id `window` and lies on `layer`. -/
structure Covering (window layer : Int32) (rect : Rect) (w : Window) : Prop where
  another : w.id ≠ window
  overlaps : w.effectiveRect.intersects rect = true
  notBelow : layer ≤ w.layer

theorem covers_iff : covers window layer rect w = true ↔ Covering window layer rect w := by
  simp only [covers, Bool.and_eq_true, decide_eq_true_eq, ge_iff_le]
  exact ⟨fun ⟨⟨another, overlaps⟩, notBelow⟩ => ⟨another, overlaps, notBelow⟩,
    fun ⟨another, overlaps, notBelow⟩ => ⟨⟨another, overlaps⟩, notBelow⟩⟩

theorem find?_own_eq_some_iff {own : Window} :
    snapshot.find? (·.id = window) = some own ↔ FirstWith (·.id = window) snapshot own := by
  rw [find?_eq_some_iff_firstWith]
  simp only [decide_eq_true_eq]

theorem find?_own_eq_none_iff : snapshot.find? (·.id = window) = none ↔ ∀ w ∈ snapshot, w.id ≠ window := by
  simp only [List.find?_eq_none, decide_eq_true_eq, ne_eq]

theorem find?_covers_eq_some_iff :
    snapshot.find? (covers window layer rect) = some w ↔ FirstWith (Covering window layer rect) snapshot w := by
  rw [find?_eq_some_iff_firstWith]
  simp only [covers_iff]

theorem find?_covers_eq_none_iff :
    snapshot.find? (covers window layer rect) = none ↔ ∀ w ∈ snapshot, ¬Covering window layer rect w := by
  simp only [List.find?_eq_none, covers_iff]

/-! ## The answers -/

theorem check_of_isExtension (exempt : classifier.isExtension window = true) :
    classifier.check window rect snapshot = .ok () := if_pos exempt

theorem check_of_missing (subject : classifier.isExtension window = false)
    (missing : snapshot.find? (·.id = window) = none) :
    classifier.check window rect snapshot = .error (.windowMissing window) := by
  simp [check, subject, missing]

theorem check_of_found {own : Window} (subject : classifier.isExtension window = false)
    (found : snapshot.find? (·.id = window) = some own) :
    classifier.check window rect snapshot =
      match snapshot.find? (covers window own.layer rect) with
      | none => .ok ()
      | some w => .error (.coveredBy w.id w.layer own.layer) := by
  unfold check
  rw [subject, found]
  rfl

theorem check_eq_windowMissing_iff {id : Int32} :
    classifier.check window rect snapshot = .error (.windowMissing id) ↔
      classifier.isExtension window = false ∧ (∀ w ∈ snapshot, w.id ≠ window) ∧ id = window := by
  rw [← find?_own_eq_none_iff]
  cases subject : classifier.isExtension window with
  | true => simp [check_of_isExtension subject]
  | false =>
    cases found : snapshot.find? (·.id = window) with
    | none => simp [check_of_missing subject found, eq_comm]
    | some own =>
      rw [check_of_found subject found]
      cases snapshot.find? (covers window own.layer rect) <;> simp

theorem check_eq_coveredBy_iff {byWindow byLayer ownLayer : Int32} :
    classifier.check window rect snapshot = .error (.coveredBy byWindow byLayer ownLayer) ↔
      classifier.isExtension window = false ∧
        ∃ own, FirstWith (·.id = window) snapshot own ∧ own.layer = ownLayer ∧
          ∃ w, FirstWith (Covering window ownLayer rect) snapshot w ∧ w.id = byWindow ∧ w.layer = byLayer := by
  simp only [← find?_own_eq_some_iff, ← find?_covers_eq_some_iff]
  cases subject : classifier.isExtension window with
  | true => simp [check_of_isExtension subject]
  | false =>
    cases found : snapshot.find? (·.id = window) with
    | none => simp [check_of_missing subject found]
    | some own =>
      rw [check_of_found subject found]
      cases above : snapshot.find? (covers window own.layer rect) with
      | none =>
        simp only [reduceCtorEq, false_iff]
        rintro ⟨-, own', same, rfl, w, hit, -⟩
        cases same
        rw [above] at hit
        cases hit
      | some w =>
        constructor
        · intro answer
          cases answer
          exact ⟨rfl, own, rfl, rfl, w, above, rfl, rfl⟩
        · rintro ⟨-, own', same, rfl, w', hit, rfl, rfl⟩
          cases same
          rw [above] at hit
          cases hit
          rfl

theorem check_eq_ok_iff :
    classifier.check window rect snapshot = .ok () ↔
      classifier.isExtension window = true ∨
        ∃ own, FirstWith (·.id = window) snapshot own ∧ ∀ w ∈ snapshot, ¬Covering window own.layer rect w := by
  simp only [← find?_own_eq_some_iff, ← find?_covers_eq_none_iff]
  cases subject : classifier.isExtension window with
  | true => simp [check_of_isExtension subject]
  | false =>
    cases found : snapshot.find? (·.id = window) with
    | none => simp [check_of_missing subject found]
    | some own =>
      simp only [Bool.false_eq_true, false_or, Option.some.injEq, exists_eq_left']
      rw [check_of_found subject found]
      cases snapshot.find? (covers window own.layer rect) <;> simp

/-! ## Other snapshots -/

/-- Whether a component is covered, by the first entry of its own window and all the others. -/
theorem isCovered_eq : classifier.isCovered window rect snapshot =
    (!classifier.isExtension window &&
      match snapshot.find? (·.id = window) with
      | none => true
      | some own => snapshot.any (covers window own.layer rect)) := by
  unfold isCovered
  cases subject : classifier.isExtension window with
  | true => rw [check_of_isExtension subject]; rfl
  | false =>
    cases found : snapshot.find? (·.id = window) with
    | none => rw [check_of_missing subject found]; rfl
    | some own =>
      rw [check_of_found subject found]
      cases above : snapshot.find? (covers window own.layer rect) with
      | none => simpa using above
      | some w => simpa using ⟨w, List.mem_of_find?_eq_some above, List.find?_some above⟩

/-- The second snapshot is the first one with windows of other ids put in, as many as there may be and
wherever they may be. -/
inductive Inserted (window : Int32) : List Window → List Window → Prop where
  | done : Inserted window [] []
  | keep {snapshot wider : List Window} (w : Window) (rest : Inserted window snapshot wider) :
      Inserted window (w :: snapshot) (w :: wider)
  | insert {snapshot wider : List Window} (w : Window) (another : w.id ≠ window)
      (rest : Inserted window snapshot wider) : Inserted window snapshot (w :: wider)

theorem Inserted.find?_own (inserted : Inserted window snapshot wider) :
    wider.find? (·.id = window) = snapshot.find? (·.id = window) := by
  -- what is put in has another id, so the search for the own one passes over it
  induction inserted with
  | done => rfl
  | keep w rest ih => rw [List.find?_cons, List.find?_cons, ih]
  | insert w another rest ih => rw [List.find?_cons_of_neg (by simpa using another), ih]

theorem Inserted.sublist (inserted : Inserted window snapshot wider) : snapshot.Sublist wider := by
  induction inserted with
  | done => exact .slnil
  | keep w rest ih => exact ih.cons_cons w
  | insert w another rest ih => exact ih.cons w

theorem isCovered_of_inserted (inserted : Inserted window snapshot wider)
    (covered : classifier.isCovered window rect snapshot = true) :
    classifier.isCovered window rect wider = true := by
  rw [isCovered_eq, Bool.and_eq_true] at covered ⊢
  rw [inserted.find?_own]
  refine ⟨covered.1, ?_⟩
  cases found : snapshot.find? (·.id = window) with
  | none => rfl
  | some own =>
    have above := covered.2
    rw [found] at above
    obtain ⟨w, listed, hit⟩ := List.any_eq_true.mp above
    exact List.any_eq_true.mpr ⟨w, inserted.sublist.subset listed, hit⟩

theorem isCovered_perm (once : snapshot.countP (·.id = window) ≤ 1) (perm : snapshot.Perm other) :
    classifier.isCovered window rect other = classifier.isCovered window rect snapshot := by
  rw [isCovered_eq, isCovered_eq, find?_perm once perm]
  cases snapshot.find? (·.id = window) with
  | none => rfl
  | some own => simp only [perm.any_eq]

/-! ## Classifiers -/

/-- The ids of all windows there can be are finitely many, so that any of them can be listed. -/
theorem exists_classifier (exempt : Int32 → Bool) :
    ∃ classifier : WindowClassifier, ∀ id, classifier.isExtension id = exempt id := by
  let ids : List Int32 := (List.finRange (2 ^ 32)).map fun n => ⟨⟨⟨n⟩⟩⟩
  refine ⟨.listed (ids.filter exempt), fun id => ?_⟩
  have listed : id ∈ ids := List.mem_map.mpr ⟨id.toUInt32.toBitVec.toFin, List.mem_finRange _, rfl⟩
  show (ids.filter exempt).contains id = exempt id
  rw [Bool.eq_iff_iff, List.contains_iff_mem, List.mem_filter]
  exact and_iff_right listed

/-- **The occlusion check.** It reports a missing window exactly if the id is neither exempt nor
listed, and a covering window exactly if there is one, and then the first of them; in all other
cases it passes. What is covered stays covered when windows are put in, and if the own window is
listed at most once, when they are put in another order. -/
theorem check_exact (classifier : WindowClassifier) (window : Int32) (rect : Rect) (snapshot : List Window) :
    (∀ id, classifier.check window rect snapshot = .error (.windowMissing id) ↔
      classifier.isExtension window = false ∧ (∀ w ∈ snapshot, w.id ≠ window) ∧ id = window) ∧
    (∀ byWindow byLayer ownLayer,
      classifier.check window rect snapshot = .error (.coveredBy byWindow byLayer ownLayer) ↔
        classifier.isExtension window = false ∧
          ∃ own, FirstWith (·.id = window) snapshot own ∧ own.layer = ownLayer ∧
            ∃ w, FirstWith (Covering window ownLayer rect) snapshot w ∧ w.id = byWindow ∧ w.layer = byLayer) ∧
    (classifier.check window rect snapshot = .ok () ↔
      classifier.isExtension window = true ∨
        ∃ own, FirstWith (·.id = window) snapshot own ∧ ∀ w ∈ snapshot, ¬Covering window own.layer rect w) ∧
    (∀ wider, Inserted window snapshot wider → classifier.isCovered window rect snapshot = true →
      classifier.isCovered window rect wider = true) ∧
    (∀ other, snapshot.countP (·.id = window) ≤ 1 → snapshot.Perm other →
      classifier.isCovered window rect other = classifier.isCovered window rect snapshot) ∧
    ∀ exempt : Int32 → Bool, ∃ classifier : WindowClassifier, ∀ id, classifier.isExtension id = exempt id :=
  ⟨fun _ => check_eq_windowMissing_iff, fun _ _ _ => check_eq_coveredBy_iff, check_eq_ok_iff,
    fun _ => isCovered_of_inserted, fun _ => isCovered_perm, exists_classifier⟩

/-- A floating window that is drawn too small to reach the component, one of a scale that is not
believed on the component's own layer, and the component's own window. -/
def stacked : List Window :=
  [⟨6, ⟨0, 0, 300, 300⟩, 50, 0.25⟩, ⟨7, ⟨150, 120, 10, 10⟩, 10, -1⟩, ⟨1, ⟨0, 0, 1000, 2000⟩, 10, 1⟩]

/-- The window of the scale that is not believed is named, and it covers in the reverse order too. -/
theorem check_exact_stacked :
    (∃ own, FirstWith (·.id = 1) stacked own ∧ own.layer = 10 ∧
      ∃ w, FirstWith (Covering 1 10 ⟨100, 100, 100, 40⟩) stacked w ∧ w.id = 7 ∧ w.layer = 10) ∧
    (mask standardExtensionMask).isCovered 1 ⟨100, 100, 100, 40⟩ stacked.reverse = true := by
  obtain ⟨-, coveredBy, -, -, permuted, -⟩ :=
    check_exact (.mask standardExtensionMask) 1 ⟨100, 100, 100, 40⟩ stacked
  have answer : (mask standardExtensionMask).check 1 ⟨100, 100, 100, 40⟩ stacked =
      .error (.coveredBy 7 10 10) := by decide +kernel
  refine ⟨((coveredBy 7 10 10).mp answer).2, ?_⟩
  rw [permuted stacked.reverse (by decide) stacked.reverse_perm.symm, isCovered, answer]

end WindowClassifier

end ClickGrant
