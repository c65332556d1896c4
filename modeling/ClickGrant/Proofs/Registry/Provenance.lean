import ClickGrant.Proofs.Registry.Edits
import ClickGrant.Proofs.Registry.Posture
import ClickGrant.Proofs.Registry.Vetting

/-!
# Where stored components come from

A component is as its last store left it, but for two marks: it is invalid once a new declaration
failed since, and the mark of a grant may have been cleared. `Account` says so against the chronicle
of the traffic, `ClickTrace` where the mark of a grant comes from. What is proved:
  1. `Stores.found`, `Stores.others` and the same for `Rejects` — such a stage changes one component,
     and how.
  2. `grantMarks` — what a call of each sort makes of the mark of a grant.
  3. `traced_next` — what one stage does to the account of every component.
  4. `stored_components_vetted` — so in all traffic every stored component was vetted by the call that
     stored it, whatever marks the declaration bore.
-/
set_option autoImplicit false

namespace ClickGrant

/-! ## Components by identifier -/

theorem Registration.find?_modifyEntries (id : ComponentId) (f : Component → Component) :
    ∀ es : List Entry, (modifyEntries id f es).find? (fun e => decide (e.id = id)) =
      (es.find? fun e => decide (e.id = id)).map fun e => { e with component := f e.component }
  | [] => rfl
  | e :: rest => by
    unfold modifyEntries
    split
    next here =>
      have hit := decide_eq_true here
      rw [List.find?_cons_of_pos (p := fun e : Entry => decide (e.id = id)) hit]
      exact List.find?_cons_of_pos hit
    next other =>
      have missed : ¬decide (e.id = id) = true := by simpa using other
      rw [List.find?_cons_of_neg (p := fun e : Entry => decide (e.id = id)) missed,
        List.find?_cons_of_neg (p := fun e : Entry => decide (e.id = id)) missed]
      exact find?_modifyEntries id f rest

namespace ComponentTable

variable {t : ComponentTable} {pid pid' : Pid} {id : ComponentId} {e : Entry}

theorem lookup?_of_lists (distinct : t.Distinct) (lists : t.Lists pid e) :
    t.lookup? pid e.id = some e := by
  obtain ⟨p, found, listed⟩ := lists
  rw [lookup?, found]
  exact Registry.find?_ids (distinct pid p found) listed

theorem lists_of_lookup? (h : t.lookup? pid id = some e) : t.Lists pid e ∧ e.id = id := by
  obtain ⟨p, found, entry⟩ := Option.bind_eq_some_iff.mp h
  have here : e.id = id := by simpa using List.find?_some entry
  exact ⟨⟨p, found, List.mem_of_find?_eq_some entry⟩, here⟩

theorem lookup?_modify (t : ComponentTable) (pid : Pid) (id : ComponentId) (f : Component → Component) :
    (t.modify pid id f).lookup? pid id =
      (t.lookup? pid id).map fun e => { e with component := f e.component } := by
  rw [lookup?, get?_modify, if_pos rfl, lookup?]
  cases t.processes.get? pid with
  | none => rfl
  | some p => exact Registration.find?_modifyEntries id f p.components

theorem lists_of_modify {f : Component → Component} (lists : (t.modify pid id f).Lists pid' e)
    (other : ¬(pid' = pid ∧ e.id = id)) : t.Lists pid' e := by
  obtain ⟨p', found, listed⟩ := lists
  rw [get?_modify] at found
  split at found
  next same =>
    obtain ⟨p, old, rfl⟩ := Option.map_eq_some_iff.mp found
    rcases Registration.mem_modifyEntries listed with listed | ⟨e', entry, rfl⟩
    · exact ⟨p, old, listed⟩
    · have here : e'.id = id := by simpa using List.find?_some entry
      exact absurd ⟨same.symm, here⟩ other
  · exact ⟨p', found, listed⟩

theorem lists_of_insert {token : Token} {new : Entry} (lists : (t.insert pid token new).Lists pid' e)
    (other : ¬(pid' = pid ∧ e.id = new.id)) : t.Lists pid' e := by
  obtain ⟨p', found, listed⟩ := lists
  rw [get?_insert] at found
  split at found
  next same =>
    subst same
    cases found
    rcases List.mem_append.mp listed with listed | listed
    · unfold Assoc.getD at listed
      cases old : t.processes.get? pid with
      | none =>
        rw [old] at listed
        cases listed
      | some p =>
        rw [old] at listed
        exact ⟨p, old, listed⟩
    · exact absurd ⟨rfl, congrArg Entry.id (List.mem_singleton.mp listed)⟩ other
  · exact ⟨p', found, listed⟩

end ComponentTable

namespace Registry

variable {s : Settings} {act : Act} {log : List Exchange} {t t' : ComponentTable}
  {reply : Option (Except Refusal Unit)} {pid pid' : Pid} {id : ComponentId} {c : Component} {e : Entry}

/-! ## One stage -/

theorem Stores.found (h : Stores s act log t t' reply pid id c) : t'.lookup? pid id = some ⟨id, c⟩ := by
  cases h with
  | @registered caller kind c declared rect id u call vetted free left =>
    obtain ⟨unused, processes⟩ := ComponentTable.allocate_ends free
    have unused : u.isLive id = false := by
      unfold ComponentTable.isLive at unused ⊢
      rw [processes]
      exact unused
    rw [left]
    exact ComponentTable.lookup?_insert (e := ⟨id, _⟩) unused caller.pid caller.token
  | updated call vetted ended found left =>
    rw [left, ComponentTable.lookup?_modify, found, ← (ComponentTable.lists_of_lookup? found).2]
    rfl
  | clicked call vetted ended found left =>
    rw [left, ComponentTable.lookup?_modify, found, ← (ComponentTable.lists_of_lookup? found).2]
    rfl

theorem Stores.others (h : Stores s act log t t' reply pid id c) (lists : t'.Lists pid' e)
    (other : ¬(pid' = pid ∧ e.id = id)) : t.Lists pid' e := by
  cases h with
  | registered call vetted free left =>
    rw [left] at lists
    obtain ⟨p, found, listed⟩ := ComponentTable.lists_of_insert lists other
    rw [(ComponentTable.allocate_ends free).2] at found
    exact ⟨p, found, listed⟩
  | updated call vetted ended found left =>
    rw [left] at lists
    exact ComponentTable.lists_of_modify lists other
  | clicked call vetted ended found left =>
    rw [left] at lists
    exact ComponentTable.lists_of_modify lists other

theorem Rejects.found (h : Rejects s act log t t' reply pid id) : t'.lookup? pid id =
    (t.lookup? pid id).map fun e => { e with component := { e.component with isValid := false } } := by
  obtain ⟨redeclares, same, refused, left⟩ := h
  rw [left]
  exact ComponentTable.lookup?_modify ..

theorem Rejects.others (h : Rejects s act log t t' reply pid id) (lists : t'.Lists pid' e)
    (other : ¬(pid' = pid ∧ e.id = id)) : t.Lists pid' e := by
  obtain ⟨redeclares, same, refused, left⟩ := h
  rw [left] at lists
  exact ComponentTable.lists_of_modify lists other

/-- What a stage neither stores nor rejects was there before, and has lost the mark of a grant at
most. -/
theorem Touches.kept (h : Touches s act log t t' reply) (lists : t'.Lists pid e)
    (unstored : ∀ c, ¬Stores s act log t t' reply pid e.id c)
    (unrejected : ¬Rejects s act log t t' reply pid e.id) :
    ∃ old, t.Lists pid old ∧ e.id = old.id ∧
      (e.component = old.component ∨ e.component = unmarked old.component) := by
  cases h with
  | wanes wanes idle => exact wanes pid e lists
  | @stores pid' id c stores =>
    refine ⟨e, stores.others lists ?_, rfl, .inl rfl⟩
    rintro ⟨rfl, rfl⟩
    exact unstored c stores
  | @rejects pid' id rejects =>
    refine ⟨e, rejects.others lists ?_, rfl, .inl rfl⟩
    rintro ⟨rfl, rfl⟩
    exact unrejected rejects

/-- In the course of a call made by the process, display and window manager reported a context in
which the component is valid and drawn where it says, and the enhancement module, if there is one,
accepted it as such. Marks of a grant that the component was shown with do not count. -/
def VettedAs (s : Settings) (act : Act) (log : List Exchange) (pid : Pid) (c : Component) : Prop :=
  ∃ caller declared screen scale rect granted, act.declarer? = some caller ∧ caller.pid = pid ∧
    s.validity.validateDrawn c ⟨screen, scale⟩ = .ok rect ∧ c.drawn = some rect ∧
    survey c screen scale ++
      inspection s caller { c with isValid := true, isGranted := granted } declared <+: log

theorem Stores.vettedAs (h : Stores s act log t t' reply pid id c) :
    VettedAs s act log pid c ∧ c.isValid = true := by
  cases h with
  | @registered caller kind c declared rect id u call vetted free left =>
    obtain ⟨screen, scale, verdict, told⟩ := vetted
    exact ⟨⟨caller, declared, screen, scale, rect, false, call ▸ rfl, rfl, verdict, rfl, told⟩, rfl⟩
  | @updated caller id c declared rect old call vetted ended found left =>
    obtain ⟨screen, scale, verdict, told⟩ := vetted
    exact ⟨⟨caller, declared, screen, scale, rect, c.isGranted, call ▸ rfl, rfl, verdict, rfl, told⟩, rfl⟩
  | @clicked caller id c declared event handle rect old call vetted ended found left =>
    obtain ⟨screen, scale, verdict, told⟩ := vetted
    exact ⟨⟨caller, declared, screen, scale, rect, c.isGranted, call ▸ rfl, rfl, verdict, rfl, told⟩, rfl⟩

/-! ## What stages make of a component -/

section History

/-- What the traffic has been through. -/
abbrev History := List (Stage Registry Act (Except Refusal Unit))

variable {past later : History} {st : Stage Registry Act (Except Refusal Unit)}

/-- The stage has stored the component under this identifier of the process. -/
abbrev Stored (s : Settings) (st : Stage Registry Act (Except Refusal Unit)) (pid : Pid)
    (id : ComponentId) (c : Component) : Prop :=
  Stores s st.act st.log st.before.table st.after.table st.reply pid id c

/-- On this stage a new declaration of the component was not admitted. -/
abbrev Rejected (s : Settings) (st : Stage Registry Act (Except Refusal Unit)) (pid : Pid)
    (id : ComponentId) : Prop :=
  Rejects s st.act st.log st.before.table st.after.table st.reply pid id

/-- What a call of each sort makes of the mark of a grant, whatever the declaration said of it. -/
structure GrantMarks (s : Settings) (st : Stage Registry Act (Except Refusal Unit)) : Prop where
  registered : ∀ caller kind c declared, st.act = .register caller kind c declared →
    ∀ pid id c', Stored s st pid id c' → c'.isGranted = false
  /-- A new declaration that succeeds carries the mark over. -/
  updated : ∀ caller id c declared, st.act = .update caller id c declared → st.reply = some (.ok ()) →
    ∃ old rect, st.before.table.lookup? caller.pid id = some old ∧
      Stored s st caller.pid id { c.shownAt rect with isGranted := old.component.isGranted }
  clicked : ∀ caller id c declared event handle,
    st.act = .reportClick caller id c declared event handle → st.reply = some (.ok ()) →
    ∃ rect, Stored s st caller.pid id { c.shownAt rect with isGranted := true }

/-- Calls that succeed in declaring a component store it. -/
theorem Touches.stores_of_succeeds (h : Touches s act log t t' reply) (succeeds : Succeeds act reply) :
    ∃ pid id c, Stores s act log t t' reply pid id c := by
  cases h with
  | wanes wanes idle => exact absurd succeeds idle
  | stores stores => exact ⟨_, _, _, stores⟩
  | rejects rejects =>
    cases rejects
    exact absurd succeeds (not_succeeds_error _)

theorem grantMarks (genuine : st.Genuine (perform s)) : GrantMarks s st where
  registered := by
    intro caller kind c declared call pid id c' stored
    cases stored with
    | registered => rfl
    | updated call' => rw [call] at call'; cases call'
    | clicked call' => rw [call] at call'; cases call'
  updated := by
    intro caller id c declared call ended
    have succeeds : Succeeds st.act st.reply := ⟨⟨caller, id, c, declared, call ▸ .update ..⟩, ended⟩
    obtain ⟨pid, id', c', stored⟩ := (genuine.meets (perform_meets s)).stores_of_succeeds succeeds
    cases stored with
    | registered call' => rw [call] at call'; cases call'
    | @updated _ _ _ _ rect old call' vetted ended found left =>
      rw [call] at call'
      cases call'
      exact ⟨old, rect, found, .updated call vetted ended found left⟩
    | clicked call' => rw [call] at call'; cases call'
  clicked := by
    intro caller id c declared event handle call ended
    have succeeds : Succeeds st.act st.reply :=
      ⟨⟨caller, id, c, declared, call ▸ .reportClick ..⟩, ended⟩
    obtain ⟨pid, id', c', stored⟩ := (genuine.meets (perform_meets s)).stores_of_succeeds succeeds
    cases stored with
    | registered call' => rw [call] at call'; cases call'
    | updated call' => rw [call] at call'; cases call'
    | @clicked _ _ _ _ _ _ rect old call' vetted ended found left =>
      rw [call] at call'
      cases call'
      exact ⟨rect, .clicked call vetted ended found left⟩

/-- A stored component is what one stage has stored, as `c`. -/
structure Account (s : Settings) (past : History) (pid : Pid) (e : Entry)
    (st : Stage Registry Act (Except Refusal Unit)) (later : History) (c : Component) : Prop where
  within : ∃ earlier, past = earlier ++ st :: later
  stored : Stored s st pid e.id c
  last : ∀ u ∈ later, ∀ c', ¬Stored s u pid e.id c'
  same : e.component = { c with isValid := e.component.isValid, isGranted := e.component.isGranted }
  invalid : e.component.isValid = false ↔ ∃ u ∈ later, Rejected s u pid e.id
  granted : e.component.isGranted = true → c.isGranted = true

theorem Account.mem (h : Account s past pid e st later c) : st ∈ past := by
  obtain ⟨earlier, rfl⟩ := h.within
  exact List.mem_append_right _ List.mem_cons_self

theorem Account.mem_of_later {u : Stage Registry Act (Except Refusal Unit)}
    (h : Account s past pid e st later c) (hu : u ∈ later) : u ∈ past := by
  obtain ⟨earlier, rfl⟩ := h.within
  exact List.mem_append_right _ (.tail _ hu)

/-- A report of a click on the component has succeeded, and since then nothing was registered under
its identifier. -/
def ClickTrace (s : Settings) (past : History) (pid : Pid) (id : ComponentId) : Prop :=
  ∃ earlier st later, past = earlier ++ st :: later ∧
    (∃ caller c declared event handle, st.act = .reportClick caller id c declared event handle ∧
      caller.pid = pid ∧ st.reply = some (.ok ())) ∧
    ∀ u ∈ later, ∀ c, Stored s u pid id c → u.act.target? = some id

/-- Where the component and its mark of a grant come from. -/
structure Traced (s : Settings) (past : History) (pid : Pid) (e : Entry) : Prop where
  account : ∃ st later c, Account s past pid e st later c
  clicked : e.component.isGranted = true → ClickTrace s past pid e.id

theorem ClickTrace.next (h : ClickTrace s past pid id)
    (named : ∀ c, Stored s st pid id c → st.act.target? = some id) :
    ClickTrace s (past ++ [st]) pid id := by
  obtain ⟨earlier, click, later, rfl, clicked, since⟩ := h
  refine ⟨earlier, click, later ++ [st], by rw [List.append_assoc, List.cons_append], clicked, ?_⟩
  intro u hu
  rcases List.mem_append.mp hu with hu | hu
  · exact since u hu
  · exact List.mem_singleton.mp hu ▸ named

/-- On a stage that does not store the component, its account goes on. -/
theorem Account.next {old : Entry} {first : Stage Registry Act (Except Refusal Unit)}
    (h : Account s past pid old first later c) (ids : e.id = old.id)
    (unstored : ∀ c', ¬Stored s st pid e.id c')
    (same : e.component = { old.component with
      isValid := e.component.isValid, isGranted := e.component.isGranted })
    (valid : e.component.isValid = false ↔ old.component.isValid = false ∨ Rejected s st pid e.id)
    (granted : e.component.isGranted = true → old.component.isGranted = true) :
    Account s (past ++ [st]) pid e first (later ++ [st]) c where
  within := by
    obtain ⟨earlier, rfl⟩ := h.within
    exact ⟨earlier, by rw [List.append_assoc, List.cons_append]⟩
  stored := ids ▸ h.stored
  last := by
    intro u hu
    rcases List.mem_append.mp hu with hu | hu
    · exact ids ▸ h.last u hu
    · exact List.mem_singleton.mp hu ▸ unstored
  same := by
    rw [same, h.same]
  invalid := by
    rw [valid, h.invalid, ids]
    simp only [List.mem_append, List.mem_singleton, or_and_right, exists_or, exists_eq_left]
  granted := fun marked => h.granted (granted marked)

/-- The mark of a grant comes from a click, or is carried over. -/
theorem Stores.clickTrace (h : Stored s st pid id c) (marked : c.isGranted = true)
    (held : ∀ old, st.before.table.Lists pid old → Traced s past pid old) :
    ClickTrace s (past ++ [st]) pid id := by
  cases h with
  | registered => cases marked
  | @updated caller id c declared rect old call vetted ended found left =>
    obtain ⟨lists, rfl⟩ := ComponentTable.lists_of_lookup? found
    exact ((held old lists).clicked marked).next fun _ _ => by rw [call]; rfl
  | @clicked caller id c declared event handle rect old call vetted ended found left =>
    exact ⟨past, st, [], rfl, ⟨caller, c, declared, event, handle, call, rfl, ended⟩,
      List.forall_mem_nil _⟩

theorem Stores.traced (h : Stored s st pid id c)
    (held : ∀ old, st.before.table.Lists pid old → Traced s past pid old) :
    Traced s (past ++ [st]) pid ⟨id, c⟩ := by
  have account : Account s (past ++ [st]) pid ⟨id, c⟩ st [] c :=
    { within := ⟨past, rfl⟩
      stored := h
      last := List.forall_mem_nil _
      same := rfl
      invalid := by
        show c.isValid = false ↔ _
        rw [h.vettedAs.2]
        simp only [List.not_mem_nil, false_and, exists_false, Bool.true_eq_false]
      granted := fun marked => marked }
  exact ⟨⟨st, [], c, account⟩, fun marked => h.clickTrace marked held⟩

/-- Every component that a stage leaves behind is accounted for if all were before. -/
theorem traced_next (distinct : st.after.table.Distinct)
    (touches : Shown s st.act st.log st.before st.after st.reply)
    (held : ∀ old, st.before.table.Lists pid old → Traced s past pid old)
    (lists : st.after.table.Lists pid e) : Traced s (past ++ [st]) pid e := by
  have present := ComponentTable.lookup?_of_lists distinct lists
  by_cases stored : ∃ c, Stored s st pid e.id c
  · obtain ⟨c, stored⟩ := stored
    have same := stored.found
    rw [present] at same
    have traced := stored.traced held
    rwa [← Option.some.inj same] at traced
  have unstored : ∀ c, ¬Stored s st pid e.id c := fun c h => stored ⟨c, h⟩
  by_cases rejected : Rejected s st pid e.id
  · -- the component has been marked as invalid
    have same := rejected.found
    rw [present] at same
    obtain ⟨old, found, rfl⟩ := Option.map_eq_some_iff.mp same.symm
    obtain ⟨⟨first, later, c, account⟩, clicked⟩ := held old (ComponentTable.lists_of_lookup? found).1
    refine ⟨⟨first, later ++ [st], c, ?_⟩, fun marked => ?_⟩
    · exact account.next rfl unstored rfl ⟨fun _ => .inr rejected, fun _ => rfl⟩ fun marked => marked
    · exact (clicked marked).next fun c h => absurd h (unstored c)
  · -- the mark of a grant may have been cleared
    obtain ⟨old, before, ids, kept⟩ := touches.kept lists unstored rejected
    obtain ⟨⟨first, later, c, account⟩, clicked⟩ := held old before
    have valid : e.component.isValid = old.component.isValid := by
      rcases kept with kept | kept
      · rw [kept]
      · rw [kept]
        rfl
    have granted : e.component.isGranted = true → old.component.isGranted = true := by
      intro marked
      rcases kept with kept | kept
      · rwa [kept] at marked
      · rw [kept] at marked
        cases marked
    refine ⟨⟨first, later ++ [st], c, account.next ids unstored ?_ ?_ granted⟩, fun marked => ?_⟩
    · rcases kept with kept | kept
      · rw [kept]
      · rw [kept]
        rfl
    · rw [valid]
      exact ⟨.inl, fun h => h.resolve_right rejected⟩
    · rw [ids]
      exact (clicked (granted marked)).next fun c h => absurd (ids ▸ h) (unstored c)

/-- Every stored component is traced, and identifiers tell them apart. -/
structure Provenant (s : Settings) (past : History) (r : Registry) : Prop where
  /-- What is stored is found again by its identifier. -/
  sound : r.table.Sound (max 1 s.maxComponents.toNat)
  traced : ∀ pid e, r.table.Lists pid e → Traced s past pid e

theorem provenant_start (s : Settings) (now : UInt64) (consents : ConsentStore)
    (metrics : Option Metrics) : Provenant s [] (start now consents metrics) := by
  refine ⟨ComponentTable.sound_startingAt _ baseId, ?_⟩
  rintro pid e ⟨p, found, -⟩
  cases found

theorem Provenant.next (genuine : st.Genuine (perform s)) (held : Provenant s past st.before) :
    Provenant s (past ++ [st]) st.after := by
  have least : 1 ≤ max 1 s.maxComponents.toNat := Nat.le_max_left ..
  have enough : s.maxComponents.toNat ≤ max 1 s.maxComponents.toNat := Nat.le_max_right ..
  have changes : Changes s 1 st.before st.after := genuine.moves (moves_perform s)
  have sound := changes.sound least enough held.sound
  refine ⟨sound, fun pid e lists => ?_⟩
  exact traced_next sound.distinct (genuine.meets (perform_meets s)) (held.traced pid) lists

end History

/-! ## Traffic -/

/-- Whatever is begun while calls wait for their collaborators, every component that is stored was
put there by one stage of the traffic, a registration, a new declaration or a click whose call had it
vetted as it is stored; it has been marked as invalid exactly if a new declaration of it was rejected
since, and a mark of a grant goes back to a click that was reported with success. A registration
leaves no such mark, a new declaration carries it over, and a click sets it. The marks of a check that
a declaration bears make no difference at all, nor does the mark of a grant that a registration
bears. -/
theorem stored_components_vetted (s : Settings) (now : UInt64) (consents : ConsentStore)
    (metrics : Option Metrics) (moves : List (Move Act)) :
    let past := Traffic.chronicle (perform s) (.start (start now consents metrics)) moves
    (∀ pid e, (trafficFrom s (start now consents metrics) moves).state.table.Lists pid e →
      (∃ st later c, Account s past pid e st later c ∧ VettedAs s st.act st.log pid e.component) ∧
      (e.component.isGranted = true → ClickTrace s past pid e.id)) ∧
    (∀ st ∈ past, GrantMarks s st) ∧
    (∀ act valid drawn, perform s (act.remarked valid drawn) = perform s act) ∧
    ∀ caller kind c declared granted,
      perform s (.register caller kind { c with isGranted := granted } declared) =
        perform s (.register caller kind c declared) := by
  intro past
  have marks : ∀ st ∈ past, GrantMarks s st :=
    fun st hst => grantMarks (Traffic.genuine_chronicle _ moves st hst)
  refine ⟨fun pid e lists => ?_, marks, perform_remarked s, perform_register_granted s⟩
  have held : Provenant s past (trafficFrom s (start now consents metrics) moves).state :=
    Traffic.chronicle_invariant (provenant_start s now consents metrics)
      (fun _ _ genuine held => held.next genuine) moves
  obtain ⟨⟨st, later, c, account⟩, clicked⟩ := held.traced pid e lists
  refine ⟨⟨st, later, c, account, ?_⟩, clicked⟩
  rw [account.same]
  exact account.stored.vettedAs.1

namespace Scene

/-- How they are answered where the enhancement module accepts every component. -/
def watchedReply (q : Request) : q.Answer := (watch environment q).1

/-- A button that does not fit on the display. -/
def misplacedButton : Component := button (.save (some .save) none) 950 100

/-- A button is registered and clicked, and then it is declared anew where it cannot be. -/
def misplaced : List (Move Act) :=
  [.begin (.register app .save saveButton "")] ++ List.replicate 4 (.answer 0 watchedReply) ++
  [.begin (click 1000 saveButton 150 130)] ++ List.replicate 5 (.answer 1 watchedReply) ++
  [.begin (.update app 1000 misplacedButton "")] ++ List.replicate 2 (.answer 2 watchedReply)

end Scene

open Scene in
/-- The button is still stored as it was clicked, vetted by that call, but it is invalid now. -/
theorem stored_components_vetted_misplaced :
    let past := Traffic.chronicle (perform watched) (.start fresh) misplaced
    ∃ e, (trafficFrom watched fresh misplaced).state.table.Lists app.pid e ∧ e.id = 1000 ∧
      e.component.isValid = false ∧ e.component.isGranted = true ∧
      (∃ st ∈ past, VettedAs watched st.act st.log app.pid e.component) ∧
      (∃ u ∈ past, Rejected watched u app.pid 1000) ∧ ClickTrace watched past app.pid 1000 := by
  intro past
  obtain ⟨provenance, -, -⟩ :=
    stored_components_vetted watched 1000000 (.ofFile .missing) none misplaced
  rw [← fresh] at provenance
  have present : ((trafficFrom watched fresh misplaced).state.table.lookup? app.pid 1000).any
      (fun e => !e.component.isValid && e.component.isGranted) = true := by decide +kernel
  obtain ⟨e, found, marks⟩ := (Option.any_eq_true _ _).mp present
  obtain ⟨unmarked, granted⟩ := (Bool.and_eq_true _ _).mp marks
  have invalid : e.component.isValid = false := (Bool.not_eq_true' _).mp unmarked
  obtain ⟨lists, id⟩ := ComponentTable.lists_of_lookup? found
  obtain ⟨⟨st, later, c, account, vetted⟩, clicked⟩ := provenance app.pid e lists
  obtain ⟨u, hu, rejected⟩ := account.invalid.mp invalid
  exact ⟨e, lists, id, invalid, granted, ⟨st, account.mem, vetted⟩,
    ⟨u, account.mem_of_later hu, id ▸ rejected⟩, id ▸ clicked granted⟩

end Registry

end ClickGrant
