import Mathlib.Algebra.GroupWithZero.Nat
import ClickGrant.Proofs.Registry.Identifiers

/-!
# How many components are stored

A table's components are counted process by process. The lemmas say how each change of a table
changes their number: storing a component adds one, taking one out subtracts one, a process takes as
many with it as it has, and marks, later declarations and news about a process leave the number as
it is. Where a process is taken out the table must list it once only.
-/
set_option autoImplicit false

namespace ClickGrant

/-- How many components a process has; none, if it is not registered. -/
def Registration.size? (p : Option Registration) : Nat := (p.map fun p => p.components.length).getD 0

namespace ComponentTable

variable {t : ComponentTable} {pid : Pid} {id : ComponentId}

/-- The components of listed processes. -/
def population (l : List (Pid × Registration)) : Nat := (l.map fun e => e.2.components.length).sum

theorem componentCount_eq (t : ComponentTable) : t.componentCount = population t.processes.entries := by
  unfold componentCount population Assoc.values
  induction t.processes.entries with
  | nil => rfl
  | cons e rest ih => simp only [List.map_cons, List.foldr_cons, List.sum_cons, ih]

theorem population_cons (e : Pid × Registration) (rest : List (Pid × Registration)) :
    population (e :: rest) = e.2.components.length + population rest := by
  rw [population, List.map_cons, List.sum_cons, population]

theorem population_put (pid : Pid) (p : Registration) : ∀ l : List (Pid × Registration),
    population (Assoc.put pid p l) + Registration.size? (Assoc.find pid l) =
      population l + p.components.length
  | [] => by rw [Assoc.put, population_cons]; exact Nat.add_comm ..
  | (pid', p') :: rest => by
    rw [Assoc.put, Assoc.find, population_cons]
    by_cases here : pid' = pid
    · rw [if_pos here, if_pos here, population_cons, Registration.size?, Option.map_some,
        Option.getD_some]
      dsimp only
      omega
    · have ih := population_put pid p rest
      rw [if_neg here, if_neg here, population_cons]
      dsimp only
      omega

/-- A process that is listed once takes its own components along. -/
theorem population_filter (pid : Pid) : ∀ l : List (Pid × Registration), (l.map (·.1)).Nodup →
    population (l.filter (·.1 ≠ pid)) + Registration.size? (Assoc.find pid l) = population l
  | [], _ => rfl
  | (pid', p') :: rest, once => by
    obtain ⟨fresh, once⟩ := List.nodup_cons.mp once
    rw [population_cons]
    by_cases here : pid' = pid
    · subst here
      -- the rest of the list does not have the process again
      have others : rest.filter (·.1 ≠ pid') = rest := by
        rw [List.filter_eq_self]
        intro e he
        have other : e.1 ≠ pid' := fun same => fresh (List.mem_map.mpr ⟨e, he, same⟩)
        exact decide_eq_true other
      rw [List.filter_cons_of_neg (by simp), others, Assoc.find, if_pos rfl]
      exact Nat.add_comm ..
    · have ih := population_filter pid rest once
      rw [List.filter_cons_of_pos (by simpa using here), population_cons, Assoc.find, if_neg here,
        Nat.add_assoc, ih]

/-- One process is registered with other components than before, or anew. -/
theorem componentCount_set (t : ComponentTable) (pid : Pid) (p : Registration) (next : ComponentId) :
    componentCount ⟨t.processes.set pid p, next⟩ + Registration.size? (t.processes.get? pid) =
      t.componentCount + p.components.length := by
  rw [componentCount_eq, componentCount_eq]
  exact population_put pid p t.processes.entries

/-- A process's components are changed, but not their number. -/
theorem componentCount_modify_of_length {f : Registration → Registration}
    (same : ∀ p, (f p).components.length = p.components.length) (t : ComponentTable) (pid : Pid) :
    componentCount { t with processes := t.processes.modify pid f } = t.componentCount := by
  unfold Assoc.modify
  cases found : t.processes.get? pid with
  | none => rfl
  | some p =>
    have set := componentCount_set t pid (f p) t.nextId
    rw [found, same] at set
    exact Nat.add_right_cancel set

@[simp] theorem componentCount_modify (t : ComponentTable) (pid : Pid) (id : ComponentId)
    (f : Component → Component) : (t.modify pid id f).componentCount = t.componentCount := by
  refine componentCount_modify_of_length (fun p => ?_) t pid
  rw [← Registration.length_ids, ← Registration.length_ids]
  exact congrArg List.length (Registration.ids_modifyEntries id f p.components)

@[simp] theorem componentCount_setForeground (t : ComponentTable) (pid : Pid) (foreground : Bool) :
    (t.setForeground pid foreground).componentCount = t.componentCount :=
  componentCount_modify_of_length (f := fun p => { p with isForeground := foreground })
    (fun _ => rfl) t pid

@[simp] theorem componentCount_clearGranted (t : ComponentTable) (token : Token) (style : GrantStyle) :
    (t.clearGranted token style).componentCount = t.componentCount := by
  rw [componentCount_eq, componentCount_eq]
  simp only [clearGranted, Assoc.mapValues, population, List.map_map]
  refine congrArg List.sum (List.map_congr_left fun e _ => ?_)
  simp only [Function.comp_apply]
  split
  · exact List.length_map _
  · rfl

theorem componentCount_insert (t : ComponentTable) (pid : Pid) (token : Token) (e : Entry) :
    (t.insert pid token e).componentCount = t.componentCount + 1 := by
  have old : Registration.size? (t.processes.get? pid) =
      (t.processes.getD pid (.start token)).components.length := by
    unfold Assoc.getD
    cases t.processes.get? pid <;> rfl
  have set : (t.insert pid token e).componentCount + Registration.size? (t.processes.get? pid) =
      t.componentCount + ((t.processes.getD pid (.start token)).components ++ [e]).length :=
    componentCount_set t pid _ t.nextId
  rw [old, List.length_append, List.length_singleton] at set
  omega

/-- A death takes all components of the process. -/
theorem componentCount_dropProcess (once : t.processes.keys.Nodup) (pid : Pid) :
    (t.dropProcess pid).componentCount + Registration.size? (t.processes.get? pid) =
      t.componentCount := by
  rw [componentCount_eq, componentCount_eq]
  exact population_filter pid t.processes.entries once

/-- A component that is stored is one less when it is taken out. -/
theorem componentCount_take (present : (t.lookup? pid id).isSome) :
    (t.take pid id).componentCount + 1 = t.componentCount := by
  obtain ⟨p, found, here⟩ : ∃ p, t.processes.get? pid = some p ∧ (p.get? id).isSome := by
    unfold lookup? at present
    cases found : t.processes.get? pid with
    | none => rw [found] at present; cases present
    | some p => exact ⟨p, rfl, by rwa [found] at present⟩
  have set := componentCount_set t pid (p.erase id) t.nextId
  have taken : t.take pid id = ⟨t.processes.set pid (p.erase id), t.nextId⟩ := by
    simp only [take, Assoc.modify, found]
  obtain ⟨e, he, same⟩ := List.find?_isSome.mp here
  have fewer : (p.erase id).components.length = p.components.length - 1 :=
    List.length_eraseP_of_mem he same
  have least : 0 < p.components.length := List.length_pos_of_mem he
  rw [found, fewer] at set
  simp only [Registration.size?, Option.map_some, Option.getD_some] at set
  rw [taken]
  omega

/-- A process without components takes nothing along. -/
theorem componentCount_dropIfEmpty (once : t.processes.keys.Nodup) (pid : Pid) :
    (t.dropIfEmpty pid).componentCount = t.componentCount := by
  unfold dropIfEmpty
  cases found : t.processes.get? pid with
  | none => rfl
  | some p =>
    dsimp only
    split
    next empty =>
      have drop := componentCount_dropProcess once pid
      rw [found] at drop
      simp only [Registration.size?, Option.map_some, Option.getD_some, List.isEmpty_iff.mp empty,
        List.length_nil, Nat.add_zero] at drop
      exact drop
    next => rfl

theorem componentCount_takenOut (once : t.processes.keys.Nodup) (present : (t.lookup? pid id).isSome) :
    ((t.take pid id).dropIfEmpty pid).componentCount + 1 = t.componentCount := by
  have still : (t.take pid id).processes.keys.Nodup := Assoc.nodup_keys_modify once pid _
  rw [componentCount_dropIfEmpty still, componentCount_take present]

/-- Handing out an identifier stores nothing. -/
theorem componentCount_allocate {t' : ComponentTable} (h : t.allocate = some (id, t')) :
    t'.componentCount = t.componentCount := by
  rw [componentCount, (allocate_ends h).2]
  rfl

end ComponentTable

end ClickGrant
