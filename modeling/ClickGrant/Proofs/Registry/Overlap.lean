import ClickGrant.Proofs.Registry.Processes
import ClickGrant.Proofs.Registry.Standalone

/-!
# When components of a process overlap

Registration refuses a component that would lie over another one of the same process. That is not
enough to keep a process's components apart: a new declaration of a stored component, by an update
or by a granted click, is stored wherever it is drawn. What is proved:
  1. `apart_modify_iff` — with a component drawn anew, a process's components are still apart
     exactly if the rectangle meets none of the others.
  2. `Outcome.apart_iff` — no other act ever brings two components together.
  3. `apart_throughout_iff` — so the components of every process are apart in every state of a run
     exactly if no update and no granted click of the run stacks a component over another one.
  4. `stacked_by_update_and_click` — and that does happen: an application moves its second button
     onto its first one.

The test that would be missing is there, `Registration.overlapping?` with the component's own
identifier excepted; only registration uses it, and there without an exception.
-/
set_option autoImplicit false

namespace ClickGrant

theorem Rect.intersects_comm (a b : Rect) : a.intersects b = b.intersects a := by
  unfold Rect.intersects
  cases decide (a.x < b.right) <;> cases decide (b.x < a.right) <;>
    cases decide (a.y < b.bottom) <;> cases decide (b.y < a.bottom) <;> rfl

/-- The components are not drawn over each other. -/
def Entry.Apart (a b : Entry) : Prop :=
  a.component.screenRect.intersects b.component.screenRect = false

instance (a b : Entry) : Decidable (a.Apart b) := inferInstanceAs (Decidable (_ = false))

namespace Registration

variable {p : Registration} {id : ComponentId} {rect : Rect} {f : Component → Component}

/-- No two components of the process are drawn over each other. -/
def Apart (p : Registration) : Prop := p.components.Pairwise Entry.Apart

instance (p : Registration) : Decidable p.Apart :=
  inferInstanceAs (Decidable (p.components.Pairwise Entry.Apart))

theorem apart_iff_places (p : Registration) :
    p.Apart ↔ p.places.Pairwise fun a b => a.2.intersects b.2 = false := by
  rw [places, List.pairwise_map]
  rfl

/-- Nothing but the excepted component lies under the rectangle. -/
theorem overlapping?_eq_none_iff (p : Registration) (rect : Rect) (except : Option ComponentId) :
    p.overlapping? rect except = none ↔
      ∀ e ∈ p.components, some e.id ≠ except → e.component.screenRect.intersects rect = false := by
  unfold overlapping?
  rw [Option.map_eq_none_iff, List.find?_eq_none]
  simp only [Bool.and_eq_true, decide_eq_true_eq, not_and, Bool.not_eq_true]

/-- The changed entry is there. -/
theorem exists_mem_modifyEntries : ∀ {es : List Entry}, id ∈ es.map (·.id) →
    ∃ old : Entry, { old with component := f old.component } ∈ modifyEntries id f es
  | [], h => by cases h
  | e :: rest, h => by
    unfold modifyEntries
    split
    · exact ⟨e, .head _⟩
    next other =>
      rcases List.mem_cons.mp h with same | h
      · exact absurd same.symm other
      · obtain ⟨old, hm⟩ := exists_mem_modifyEntries h
        exact ⟨old, .tail _ hm⟩

/-- Entries that are apart, with one of them drawn anew. -/
theorem pairwise_modifyEntries_iff (drawn : ∀ old, (f old).screenRect = rect) :
    ∀ {es : List Entry}, es.Pairwise Entry.Apart → (es.map (·.id)).Nodup → id ∈ es.map (·.id) →
      ((modifyEntries id f es).Pairwise Entry.Apart ↔
        ∀ e ∈ es, e.id ≠ id → e.component.screenRect.intersects rect = false)
  | [], _, _, h => by cases h
  | e :: rest, apart, distinct, h => by
    obtain ⟨first, apart⟩ := List.pairwise_cons.mp apart
    rw [List.map_cons, List.nodup_cons] at distinct
    unfold modifyEntries
    split
    next here =>
      -- the changed entry stands first, and only the others can be met
      subst here
      rw [List.pairwise_cons, List.forall_mem_cons]
      have others : ∀ b ∈ rest, b.id ≠ e.id := by
        intro b hb same
        exact distinct.1 (List.mem_map.mpr ⟨b, hb, same⟩)
      constructor
      · intro h
        refine ⟨fun ne => absurd rfl ne, fun b hb _ => ?_⟩
        have := h.1 b hb
        rw [Entry.Apart, drawn, Rect.intersects_comm] at this
        exact this
      · intro h
        refine ⟨fun b hb => ?_, apart⟩
        rw [Entry.Apart, drawn, Rect.intersects_comm]
        exact h.2 b hb (others b hb)
    next other =>
      -- it stands later, so the first entry is one of those that it can meet
      have later : id ∈ rest.map (·.id) := by
        rcases List.mem_cons.mp h with same | later
        · exact absurd same.symm other
        · exact later
      have ih := pairwise_modifyEntries_iff drawn apart distinct.2 later
      rw [List.pairwise_cons, ih, List.forall_mem_cons]
      refine and_congr_left fun _ => ?_
      constructor
      · intro h _
        obtain ⟨old, hm⟩ := exists_mem_modifyEntries (f := f) later
        have := h _ hm
        rw [Entry.Apart, drawn] at this
        exact this
      · intro h b hb
        rcases mem_modifyEntries hb with hb | ⟨old, -, rfl⟩
        · exact first b hb
        · rw [Entry.Apart, drawn]
          exact h other

/-- With a component drawn anew, the components are apart exactly if the rectangle meets none of
the others. -/
theorem apart_modify_iff (drawn : ∀ old, (f old).screenRect = rect) (apart : p.Apart)
    (distinct : (p.components.map (·.id)).Nodup) (present : id ∈ p.components.map (·.id)) :
    (p.modify id f).Apart ↔ p.overlapping? rect (some id) = none := by
  rw [overlapping?_eq_none_iff]
  refine (pairwise_modifyEntries_iff drawn apart distinct present).trans ?_
  simp only [ne_eq, Option.some.injEq]

end Registration

namespace ComponentTable

variable {t t' : ComponentTable} {pid : Pid} {p : Registration} {id : ComponentId} {rect : Rect}
  {f : Component → Component}

/-- No two components of one process are drawn over each other. -/
def Apart (t : ComponentTable) : Prop := ∀ pid p, t.processes.get? pid = some p → p.Apart

theorem Apart.all (apart : t.Apart) (pid : Pid) :
    (t.processes.get? pid).all (fun p => decide p.Apart) = true := by
  rw [Option.all_eq_true]
  intro p found
  exact decide_eq_true (apart pid p found)

theorem apart_empty : empty.Apart := by
  intro pid p h
  cases h

theorem Apart.thins (apart : t.Apart) (thins : t.Thins t') : t'.Apart := by
  intro pid p' found
  obtain ⟨p, old, thin⟩ := thins pid p' found
  rw [Registration.apart_iff_places]
  exact ((Registration.apart_iff_places p).mp (apart pid p old)).sublist thin.places

theorem Apart.setForeground (apart : t.Apart) (pid : Pid) (foreground : Bool) :
    (t.setForeground pid foreground).Apart := by
  intro pid' p' found
  rw [get?_setForeground] at found
  obtain ⟨p, old, rfl | rfl⟩ := old_of_changed found
  · exact apart pid' p old
  · exact apart pid' p' old

/-- Storing a component with nothing of its process under it. -/
theorem Apart.insert {e : Entry} (apart : t.Apart) (same : t'.processes = t.processes)
    (room : ∀ p, t.processes.get? pid = some p → p.overlapping? e.component.screenRect none = none)
    (token : Token) : (t'.insert pid token e).Apart := by
  intro pid' p' found
  rw [get?_insert, same] at found
  split at found
  next here =>
    cases found
    unfold Assoc.getD
    cases old : t.processes.get? pid with
    | none => exact List.pairwise_singleton _ _
    | some p =>
      refine List.pairwise_append.mpr ⟨apart pid p old, List.pairwise_singleton _ _, ?_⟩
      intro a ha b hb
      rw [List.mem_singleton] at hb
      subst hb
      exact (Registration.overlapping?_eq_none_iff p _ _).mp (room p old) a ha (by simp)
  next => exact apart pid' p' found

/-- With a component drawn anew, the processes' components are apart exactly if the rectangle meets
none of the others of its process. -/
theorem apart_modify_iff (drawn : ∀ old, (f old).screenRect = rect) (apart : t.Apart)
    (distinct : t.Distinct) (found : t.processes.get? pid = some p)
    (present : id ∈ p.components.map (·.id)) :
    (t.modify pid id f).Apart ↔ p.overlapping? rect (some id) = none := by
  have step := Registration.apart_modify_iff drawn (apart pid p found) (distinct pid p found) present
  constructor
  · intro h
    refine step.mp (h pid (p.modify id f) ?_)
    rw [get?_modify, if_pos rfl, found]
    rfl
  · intro h pid' p' found'
    rw [get?_modify] at found'
    split at found'
    next here =>
      subst here
      rw [found] at found'
      cases found'
      exact step.mpr h
    next => exact apart pid' p' found'

end ComponentTable

namespace Registry

variable {s : Settings} {r r' : Registry} {log : List Exchange} {act : Act}
  {reply : Except Refusal Unit} {caller : Caller} {id : ComponentId} {kind : Kind} {token : Token}

/-- The turn puts a stored component over another one of its process: it is declared anew, and the
rectangle it is now drawn in meets another component. -/
def Stacks (s : Settings) (t : Turn) : Prop :=
  ∃ caller id rect p, Redraws s t.act t.log t.reply caller id rect ∧
    t.before.table.processes.get? caller.pid = some p ∧ (p.overlapping? rect (some id)).isSome = true

theorem StoredAs.id_mem {pid : Pid} (h : StoredAs r pid id kind token) :
    ∃ p, r.table.processes.get? pid = some p ∧ id ∈ p.components.map (·.id) := by
  obtain ⟨p, e, process, entry, -, -⟩ := h
  refine ⟨p, process, List.mem_map.mpr ⟨e, List.mem_of_find?_eq_some entry, ?_⟩⟩
  simpa using List.find?_some entry

/-- After a component was declared anew, its process's components are apart exactly if the new
rectangle meets none of the others. -/
theorem Outcome.apart_iff_of_redraws {p : Registration} {rect : Rect} (h : Outcome s r act log reply r')
    (distinct : r.table.Distinct) (apart : r.table.Apart)
    (redraws : Redraws s act log reply caller id rect)
    (found : r.table.processes.get? caller.pid = some p) :
    r'.table.Apart ↔ p.overlapping? rect (some id) = none := by
  obtain ⟨kind, token, f, stored, drawn, left⟩ := h.redrawn redraws
  obtain ⟨p', found', present⟩ := stored.id_mem
  obtain rfl : p = p' := Option.some.inj (found.symm.trans found')
  rw [left]
  exact ComponentTable.apart_modify_iff drawn apart distinct found present

/-- Components that are apart stay so, unless the act stacks one of them over another. -/
theorem Outcome.apart_iff (h : Outcome s r act log reply r') (distinct : r.table.Distinct)
    (apart : r.table.Apart) : r'.table.Apart ↔ ¬Stacks s ⟨r, act, log, reply, r'⟩ := by
  constructor
  · intro apart' ⟨caller, id, rect, p, redraws, found, under⟩
    rw [(h.apart_iff_of_redraws distinct apart redraws found).mp apart'] at under
    cases under
  · intro clear
    -- only what is stored or drawn anew can come to lie over something
    cases h.reshapes with
    | thins thins => exact apart.thins thins
    | @registered _ _ _ c' _ id _ _ fits left =>
      have same := (ComponentTable.allocate_ends fits.free).2
      rw [left]
      exact apart.insert (e := ⟨id, c'⟩) same fits.apart _
    | redrawn redraws stored =>
      obtain ⟨p, found, -⟩ := stored.id_mem
      refine (h.apart_iff_of_redraws distinct apart redraws found).mpr ?_
      rw [← Option.not_isSome_iff_eq_none]
      intro under
      exact clear ⟨_, _, _, p, redraws, found, under⟩
    | moved pid foreground _ left => rw [left]; exact apart.setForeground pid foreground

/-- The components of every process are apart in every state of a run exactly if no turn of the run
stacks a component over another one of its process. -/
theorem apart_throughout_iff {now : UInt64} {consents : ConsentStore} {metrics : Option Metrics}
    {turns : List Turn} (run : Run s (.start now consents metrics) turns r) :
    (∀ t ∈ turns, t.after.table.Apart) ↔ ∀ t ∈ turns, ¬Stacks s t :=
  @Run.keeps_iff s _ _ _ (fun r => r.table.Distinct) (fun r => r.table.Apart) (Stacks s)
    (fun _ taken distinct => taken.outcome.distinct distinct)
    (fun _ taken distinct apart => taken.outcome.apart_iff distinct apart)
    run ComponentTable.distinct_empty ComponentTable.apart_empty

namespace Scene

/-- An application registers two buttons, one below the other. -/
def twoButtons : List Act :=
  [.register app .save saveButton "", .register app .save lowerButton ""]

/-- The lower button, moved up. -/
def movedButton : Component := { lowerButton with rect := saveButton.rect }

end Scene

open Scene in
theorem apart_throughout_twoButtons :
    Run settings fresh (turns twoButtons) (state twoButtons) ∧
      ((∀ t ∈ turns twoButtons, t.after.table.Apart) ↔ ∀ t ∈ turns twoButtons, ¬Stacks settings t) :=
  ⟨run_turns twoButtons, apart_throughout_iff (run_turns twoButtons)⟩

open Scene in
/-- The application moves its lower button onto the other one, by an update or by a click on it.
Either is accepted. -/
theorem stacked_by_update_and_click :
    (∃ turns r, Run settings fresh turns r ∧
      turns.map (·.act) = twoButtons ++ [.update app 1001 movedButton ""] ∧ ¬r.table.Apart) ∧
    (∃ turns r, Run settings fresh turns r ∧
      turns.map (·.act) = twoButtons ++ [click 1001 movedButton 150 130] ∧ ¬r.table.Apart) := by
  refine ⟨⟨_, _, run_turns _, map_act_turns _, fun apart => ?_⟩,
    ⟨_, _, run_turns _, map_act_turns _, fun apart => ?_⟩⟩
  · exact absurd (apart.all 4242) (by decide +kernel)
  · exact absurd (apart.all 4242) (by decide +kernel)

end Registry

end ClickGrant
