import ClickGrant.Proofs.Dialogue

/-!
# Dialogues that others disturb

While a dialogue waits for an answer, others may move the state. A `Visit` is a request with its
answer, the state it was asked in and the state the answer found. `d.Passes visits e` says that the
dialogue `d` goes through the visits and then stands where `e` does; `x.Goes s visits a t` says that
the operation `x`, begun in the state `s`, goes through them and is finished in `t`. What is proved:
  1. `Op.goes_bind`, `Call.goes_bind` and their like open an operation along the way it is built.
  2. `Dialogue.Moves.kept` — an operation of which every part moves the state as a relation allows
     does so between any two of its visits, whatever they find.
  3. `Op.AsksFirst.does` — an operation that leaves the state alone until it has its last answer
     ends as if nobody had disturbed it, in the state that the last answer found.
  4. `Dialogue.Passes.ends` — so does every operation whose visits find the state as they left it.
-/
set_option autoImplicit false

namespace ClickGrant

/-- A request that was answered. -/
structure Visit (σ : Type) where
  exchange : Exchange
  /-- The state it was asked in. -/
  asked : σ
  /-- The state its answer found. -/
  found : σ

variable {σ τ α β : Type}

/-- The state that the last answer found. -/
def lastFound : σ → List (Visit σ) → σ
  | s, [] => s
  | _, v :: visits => lastFound v.found visits

/-- From `s` to `t`, the state was moved as `step` allows wherever it was not moved by others. -/
def Kept (step : σ → σ → Prop) : σ → List (Visit σ) → σ → Prop
  | s, [], t => step s t
  | s, v :: visits, t => step s v.asked ∧ Kept step v.found visits t

/-- The state was moved by others only. -/
def Quiet (s : σ) (visits : List (Visit σ)) : Prop := Kept (· = ·) s visits (lastFound s visits)

section Visits

variable {s t u : σ} {step step' : σ → σ → Prop} {visits v₁ v₂ : List (Visit σ)}

theorem lastFound_append : ∀ (s : σ) (v₁ v₂ : List (Visit σ)),
    lastFound s (v₁ ++ v₂) = lastFound (lastFound s v₁) v₂
  | _, [], _ => rfl
  | _, v :: rest, v₂ => lastFound_append v.found rest v₂

/-- The last answer has found the state in which it all began, or one that some answer found. -/
theorem lastFound_mem : ∀ (s : σ) (visits : List (Visit σ)),
    lastFound s visits ∈ s :: visits.map (·.found)
  | _, [] => .head _
  | _, v :: rest => .tail _ (lastFound_mem v.found rest)

/-- It comes after all of them. -/
theorem lastFound_latest (refl : ∀ s, step s s) : ∀ {visits : List (Visit σ)} {s : σ},
    (s :: visits.map (·.found)).Pairwise step → ∀ m ∈ s :: visits.map (·.found), step m (lastFound s visits)
  | [], s, _, m, hm => by
    rw [List.mem_singleton.mp hm]
    exact refl s
  | v :: rest, s, ordered, m, hm => by
    obtain ⟨first, ordered⟩ := List.pairwise_cons.mp ordered
    rcases List.mem_cons.mp hm with rfl | hm
    · exact first _ (lastFound_mem v.found rest)
    · exact lastFound_latest refl ordered m hm

theorem Kept.mono (weaker : ∀ s t, step s t → step' s t) :
    ∀ {visits : List (Visit σ)} {s : σ}, Kept step s visits t → Kept step' s visits t
  | [], _, h => weaker _ _ h
  | _ :: _, _, h => ⟨weaker _ _ h.1, mono weaker h.2⟩

theorem Kept.append (trans : ∀ s t u, step s t → step t u → step s u) :
    ∀ {v₁ : List (Visit σ)} {s : σ}, Kept step s v₁ u → Kept step u v₂ t → Kept step s (v₁ ++ v₂) t
  | [], s, first, h => by
    cases v₂ with
    | nil => exact trans s u t first h
    | cons v rest => exact ⟨trans s u v.asked first h.1, h.2⟩
  | _ :: _, _, h₁, h₂ => ⟨h₁.1, append trans h₁.2 h₂⟩

theorem Kept.then (trans : ∀ s t u, step s t → step t u → step s u) (h : Kept step s visits u)
    (last : step u t) : Kept step s visits t := by
  have both : Kept step s (visits ++ []) t := h.append trans last
  rwa [List.append_nil] at both

theorem Kept.last (h : Kept step s visits t) : step (lastFound s visits) t := by
  induction visits generalizing s with
  | nil => exact h
  | cons v rest ih => exact ih h.2

theorem quiet_nil (s : σ) : Quiet s [] := rfl

/-- What moves nothing moves as any reflexive relation allows. -/
theorem Quiet.kept (quiet : Quiet s visits) (refl : ∀ s, step s s) :
    Kept step s visits (lastFound s visits) :=
  Kept.mono (fun s _ same => same ▸ refl s) quiet

end Visits

namespace Dialogue

/-- Where the state is when the dialogue has come this far. -/
def state : Dialogue σ α → σ
  | done s _ => s
  | ask s _ _ => s

/-- The dialogue goes through the visits and then stands where the other one does. -/
inductive Passes : Dialogue σ α → List (Visit σ) → Dialogue σ α → Prop where
  | here (d : Dialogue σ α) : Passes d [] d
  | on {asked found : σ} {q : Request} {next : σ → q.Answer → Dialogue σ α} {r : q.Answer}
      {visits : List (Visit σ)} {e : Dialogue σ α} (rest : Passes (next found r) visits e) :
      Passes (.ask asked q next) (⟨⟨q, r⟩, asked, found⟩ :: visits) e

variable {s t : σ} {a : α} {visits : List (Visit σ)} {step : σ → σ → Prop}

theorem passes_done {b : α} :
    (Dialogue.done s a).Passes visits (.done t b) ↔ visits = [] ∧ b = a ∧ t = s := by
  constructor
  · intro h; cases h; exact ⟨rfl, rfl, rfl⟩
  · intro h
    obtain ⟨rfl, rfl, rfl⟩ := h
    exact .here _

theorem passes_ask {q : Request} {next : σ → q.Answer → Dialogue σ α} :
    (Dialogue.ask s q next).Passes visits (.done t a) ↔
      ∃ found r rest, (next found r).Passes rest (.done t a) ∧ visits = ⟨⟨q, r⟩, s, found⟩ :: rest := by
  constructor
  · intro h
    cases h with
    | on rest => exact ⟨_, _, _, rest, rfl⟩
  · intro h
    obtain ⟨found, r, rest, h, rfl⟩ := h
    exact .on h

/-- A sequence goes through the visits of both parts. -/
theorem passes_bind {f : α → Op σ β} {b : β} : ∀ (d : Dialogue σ α) (visits : List (Visit σ)),
    (d.bind f).Passes visits (.done t b) ↔
      ∃ v₁ a u v₂, d.Passes v₁ (.done u a) ∧ (f a u).Passes v₂ (.done t b) ∧ visits = v₁ ++ v₂ := by
  intro d
  induction d with
  | done s a =>
    intro visits
    constructor
    · intro h; exact ⟨[], a, s, visits, .here _, h, rfl⟩
    · intro h
      obtain ⟨v₁, a', u, v₂, h₁, h₂, rfl⟩ := h
      obtain ⟨rfl, rfl, rfl⟩ := passes_done.mp h₁
      exact h₂
  | ask s q next ih =>
    intro visits
    rw [bind, passes_ask]
    constructor
    · intro h
      obtain ⟨found, r, rest, h, rfl⟩ := h
      obtain ⟨v₁, a, u, v₂, h₁, h₂, rfl⟩ := (ih found r rest).mp h
      exact ⟨_ :: v₁, a, u, v₂, .on h₁, h₂, rfl⟩
    · intro h
      obtain ⟨v₁, a, u, v₂, h₁, h₂, rfl⟩ := h
      obtain ⟨found, r, rest, h, rfl⟩ := passes_ask.mp h₁
      exact ⟨found, r, rest ++ v₂, (ih found r _).mpr ⟨rest, a, u, v₂, h, h₂, rfl⟩, rfl⟩

/-- One more answer. -/
theorem Passes.snoc {d : Dialogue σ α} {q : Request} {next : σ → q.Answer → Dialogue σ α}
    (h : d.Passes visits (.ask s q next)) (found : σ) (r : q.Answer) :
    d.Passes (visits ++ [⟨⟨q, r⟩, s, found⟩]) (next found r) := by
  generalize he : Dialogue.ask s q next = e at h
  induction h with
  | here d => subst he; exact .on (.here _)
  | on rest ih => exact .on (ih he)

/-- If every visit finds the state as it left it, the dialogue ends as if undisturbed. -/
theorem Passes.ends {d : Dialogue σ α} (h : d.Passes visits (.done t a))
    (still : ∀ v ∈ visits, v.found = v.asked) : d.Ends (· = ·) (visits.map (·.exchange)) a t := by
  generalize he : Dialogue.done t a = e at h
  induction h with
  | here d => subst he; exact .done t a
  | on rest ih =>
    obtain ⟨same, others⟩ := List.forall_mem_cons.mp still
    exact .ask same.symm (ih others he)

/-! ## How the state is moved -/

/-- Begun in `s`, the dialogue moves the state as `step` allows, whatever its visits find. -/
def Moves (step : σ → σ → Prop) : σ → Dialogue σ α → Prop
  | s, done t _ => step s t
  | s, ask t _ next => step s t ∧ ∀ found r, (next found r).Moves step found

theorem Moves.head : ∀ {d : Dialogue σ α}, d.Moves step s → step s d.state
  | done _ _, h => h
  | ask _ _ _, h => h.1

/-- It goes on like this after any answer. -/
theorem Moves.next {d : Dialogue σ α} {q : Request} {next : σ → q.Answer → Dialogue σ α}
    (h : d.Moves step s) (passes : d.Passes visits (.ask t q next)) (found : σ) (r : q.Answer) :
    (next found r).Moves step found := by
  generalize he : Dialogue.ask t q next = e at passes
  induction passes generalizing s with
  | here d => subst he; exact h.2 found r
  | on rest ih => exact ih (h.2 _ _) he

theorem Moves.kept {d : Dialogue σ α} (h : d.Moves step s) (passes : d.Passes visits (.done t a)) :
    Kept step s visits t := by
  generalize he : Dialogue.done t a = e at passes
  induction passes generalizing s with
  | here d => subst he; exact h
  | on rest ih => exact ⟨h.1, ih (h.2 _ _) he⟩

theorem Moves.mono {step' : σ → σ → Prop} (weaker : ∀ s t, step s t → step' s t) :
    ∀ {d : Dialogue σ α} {s : σ}, d.Moves step s → d.Moves step' s
  | done _ _, _, h => weaker _ _ h
  | ask _ _ _, _, h => ⟨weaker _ _ h.1, fun found r => mono weaker (h.2 found r)⟩

/-- Moves that go on after a first one. -/
theorem Moves.after {step' : σ → σ → Prop} {u : σ} (glued : ∀ t, step u t → step' s t)
    (weaker : ∀ s t, step s t → step' s t) : ∀ {d : Dialogue σ α}, d.Moves step u → d.Moves step' s
  | done t _, h => glued t h
  | ask t _ _, h => ⟨glued t h.1, fun found r => (h.2 found r).mono weaker⟩

/-- A sequence moves the state as its parts do, or by a move of the first and one of the second
part. -/
theorem Moves.bind {first second step : σ → σ → Prop} {f : α → Op σ β}
    (left : ∀ s t, first s t → step s t) (right : ∀ s t, second s t → step s t)
    (both : ∀ s t u, first s t → second t u → step s u) (rest : ∀ a t, (f a t).Moves second t) :
    ∀ {d : Dialogue σ α} {s : σ}, d.Moves first s → (d.bind f).Moves step s
  | done t a, s, h => (rest a t).after (fun u => both s t u h) right
  | ask t _ _, s, h => ⟨left s t h.1, fun found r => Moves.bind left right both rest (h.2 found r)⟩

/-- A dialogue over a part of the state moves that part. -/
theorem Moves.within {part : τ → σ} {put : τ → σ → τ} {step' : τ → τ → Prop}
    (lift : ∀ t s, step (part t) s → step' t (put t s)) :
    ∀ {d : Dialogue σ α} {t : τ}, d.Moves step (part t) → (d.within part put t).Moves step' t
  | done s _, t, h => lift t s h
  | ask s _ _, t, h => ⟨lift t s h.1, fun found r => Moves.within lift (h.2 (part found) r)⟩

/-! ## What is asked -/

/-- Nothing is asked but what is allowed. -/
def Asks (allowed : Request → Prop) : Dialogue σ α → Prop
  | done _ _ => True
  | ask _ q next => allowed q ∧ ∀ found r, (next found r).Asks allowed

theorem Asks.bind {allowed : Request → Prop} {f : α → Op σ β} (rest : ∀ a s, (f a s).Asks allowed) :
    ∀ {d : Dialogue σ α}, d.Asks allowed → (d.bind f).Asks allowed
  | done s a, _ => rest a s
  | ask _ _ _, h => ⟨h.1, fun found r => Asks.bind rest (h.2 found r)⟩

theorem Asks.passes {allowed : Request → Prop} {d e : Dialogue σ α} (asks : d.Asks allowed)
    (h : d.Passes visits e) : ∀ v ∈ visits, allowed v.exchange.request := by
  induction h with
  | here d => intro v hv; cases hv
  | on rest ih => exact List.forall_mem_cons.mpr ⟨asks.1, ih (asks.2 _ _)⟩

end Dialogue

namespace Op

/-- The operation moves the state as `step` allows, whatever others do meanwhile. -/
def Moves (step : σ → σ → Prop) (x : Op σ α) : Prop := ∀ s, (x s).Moves step s

/-- Begun in `s`, the operation goes through the visits and is finished with the result in `t`. -/
def Goes (x : Op σ α) (s : σ) (visits : List (Visit σ)) (a : α) (t : σ) : Prop :=
  (x s).Passes visits (.done t a)

variable {s t : σ} {visits : List (Visit σ)} {step : σ → σ → Prop}

theorem Moves.kept {x : Op σ α} {a : α} (moves : x.Moves step) (h : x.Goes s visits a t) :
    Kept step s visits t := Dialogue.Moves.kept (moves s) h

theorem Goes.does {x : Op σ α} {a : α} (h : x.Goes s visits a t)
    (still : ∀ v ∈ visits, v.found = v.asked) : x.Does s (visits.map (·.exchange)) a t :=
  Dialogue.Passes.ends h still

/-! ## Sequences -/

theorem goes_pure {a b : α} : Goes (pure a : Op σ α) s visits b t ↔ visits = [] ∧ b = a ∧ t = s :=
  Dialogue.passes_done

theorem goes_bind {x : Op σ α} {f : α → Op σ β} {b : β} :
    Goes (x >>= f) s visits b t ↔
      ∃ v₁ a u v₂, x.Goes s v₁ a u ∧ (f a).Goes u v₂ b t ∧ visits = v₁ ++ v₂ :=
  Dialogue.passes_bind (x s) visits

theorem goes_modify_bind {g : σ → σ} {f : PUnit → Op σ β} {b : β} :
    Goes (modify g >>= f) s visits b t ↔ (f ⟨⟩).Goes (g s) visits b t := Iff.rfl

theorem goes_within_modifyGet_bind {part : τ → σ} {put : τ → σ → τ} (part_put : ∀ t s, part (put t s) = s)
    (put_put : ∀ t s s', put (put t s) s' = put t s') {g : σ → α × σ} {f : α → Op σ β} {b : β} {t u : τ}
    {visits : List (Visit τ)} :
    (Op.within part put (modifyGet g >>= f)).Goes t visits b u ↔
      (Op.within part put (f (g (part t)).1)).Goes (put t (g (part t)).2) visits b u := by
  have same : Op.within part put (modifyGet g >>= f) t =
      Op.within part put (f (g (part t)).1) (put t (g (part t)).2) := by
    show (f (g (part t)).1 (g (part t)).2).within part put t =
      (f (g (part t)).1 (part (put t _))).within part put (put t _)
    rw [part_put]
    cases f (g (part t)).1 (g (part t)).2 <;> simp only [Dialogue.within, put_put]
  unfold Goes
  rw [same]

/-! ## How operations move the state -/

theorem moves_pure (a : α) (refl : ∀ s, step s s) : Moves step (pure a : Op σ α) := refl

theorem moves_modifyGet {f : σ → α × σ} (h : ∀ s, step s (f s).2) :
    Moves step (modifyGet f : Op σ α) := h

theorem moves_modify {f : σ → σ} (h : ∀ s, step s (f s)) : Moves step (modify f : Op σ PUnit) := h

theorem moves_ask (q : Request) (refl : ∀ s, step s s) :
    Moves step (Op.ask q : Op σ q.Answer) := fun s => ⟨refl s, fun found _ => refl found⟩

theorem moves_get_bind {f : σ → Op σ β} (h : ∀ s, (f s).Moves step) : (get >>= f).Moves step :=
  fun s => h s s

theorem moves_bind {first second : σ → σ → Prop} {x : Op σ α} {f : α → Op σ β}
    (left : ∀ s t, first s t → step s t) (right : ∀ s t, second s t → step s t)
    (both : ∀ s t u, first s t → second t u → step s u) (hx : x.Moves first)
    (hf : ∀ a, (f a).Moves second) : (x >>= f).Moves step :=
  fun s => Dialogue.Moves.bind left right both hf (hx s)

theorem moves_within {part : τ → σ} {put : τ → σ → τ} {x : Op σ α} {step' : τ → τ → Prop}
    (lift : ∀ t s, step (part t) s → step' t (put t s)) (h : x.Moves step) :
    (x.within part put).Moves step' := fun t => Dialogue.Moves.within lift (h (part t))

/-- The operation asks nothing but what is allowed. -/
def Asks (allowed : Request → Prop) (x : Op σ α) : Prop := ∀ s, (x s).Asks allowed

theorem Asks.goes {allowed : Request → Prop} {x : Op σ α} {a : α} (asks : x.Asks allowed)
    (h : x.Goes s visits a t) : ∀ v ∈ visits, allowed v.exchange.request :=
  Dialogue.Asks.passes (asks s) h

theorem asks_pure (allowed : Request → Prop) (a : α) : (pure a : Op σ α).Asks allowed := fun _ => trivial

theorem asks_modify (allowed : Request → Prop) (f : σ → σ) : (modify f : Op σ PUnit).Asks allowed :=
  fun _ => trivial

theorem asks_ask {allowed : Request → Prop} {q : Request} (h : allowed q) :
    (Op.ask q : Op σ q.Answer).Asks allowed := fun _ => ⟨h, fun _ _ => trivial⟩

theorem asks_get_bind {allowed : Request → Prop} {f : σ → Op σ β} (h : ∀ s, (f s).Asks allowed) :
    (get >>= f).Asks allowed := fun s => h s s

theorem asks_bind {allowed : Request → Prop} {x : Op σ α} {f : α → Op σ β} (hx : x.Asks allowed)
    (hf : ∀ a, (f a).Asks allowed) : (x >>= f).Asks allowed := fun s => Dialogue.Asks.bind hf (hx s)

/-! ## Operations that ask first -/

/-- The operation asks nothing. -/
def Instant (x : Op σ α) : Prop := ∀ s, ∃ t a, x s = .done t a

/-- The operation does nothing but return. -/
def Returns (x : Op σ α) : Prop := ∃ a, x = pure a

/-- The operation leaves the state alone until it has its last answer, and then does what `last`
describes. -/
inductive AsksFirst (last : Op σ α → Prop) : Op σ α → Prop where
  | last {x : Op σ α} (h : last x) : AsksFirst last x
  | ask {x : Op σ α} (q : Request) (next : q.Answer → Op σ α)
      (eq : x = fun s => .ask s q fun s' r => next r s') (rest : ∀ r, (next r).AsksFirst last) :
      AsksFirst last x

/-- The operation ends as if nobody had disturbed it, in the state that its last answer found. -/
theorem AsksFirst.does {x : Op σ α} {a : α} (h : x.AsksFirst Instant) (goes : x.Goes s visits a t) :
    Quiet s visits ∧ x.Does (lastFound s visits) (visits.map (·.exchange)) a t := by
  induction h generalizing s visits with
  | @last x instant =>
    obtain ⟨u, b, same⟩ := instant s
    have ends : (x s).Passes visits (.done t a) := goes
    rw [same] at ends
    obtain ⟨rfl, rfl, rfl⟩ := Dialogue.passes_done.mp ends
    refine ⟨quiet_nil s, ?_⟩
    show (x s).Ends _ _ _ _
    rw [same]
    exact .done t a
  | ask q next eq rest ih =>
    subst eq
    obtain ⟨found, r, others, h, rfl⟩ := Dialogue.passes_ask.mp goes
    obtain ⟨quiet, does⟩ := ih r h
    exact ⟨⟨rfl, quiet⟩, .ask rfl does⟩

theorem AsksFirst.bind {last : Op σ α → Prop} {last' : Op σ β → Prop} {x : Op σ α} {f : α → Op σ β}
    (h : x.AsksFirst last) (rest : ∀ y, last y → (y >>= f).AsksFirst last') :
    (x >>= f).AsksFirst last' := by
  induction h with
  | last h => exact rest _ h
  | ask q next eq _ ih =>
    subst eq
    exact .ask q (fun r => next r >>= f) rfl ih

/-- What only asks may be followed by more questions. -/
theorem AsksFirst.bind_returns {last : Op σ β → Prop} {x : Op σ α} {f : α → Op σ β}
    (h : x.AsksFirst Returns) (rest : ∀ a, (f a).AsksFirst last) : (x >>= f).AsksFirst last := by
  refine h.bind fun y returns => ?_
  obtain ⟨a, rfl⟩ := returns
  rw [pure_bind]
  exact rest a

theorem Instant.bind {x : Op σ α} {f : α → Op σ β} (hx : x.Instant) (hf : ∀ a, (f a).Instant) :
    (x >>= f).Instant := by
  intro s
  obtain ⟨t, a, same⟩ := hx s
  obtain ⟨u, b, same'⟩ := hf a t
  exact ⟨u, b, by rw [Op.bind_apply, same]; exact same'⟩

theorem AsksFirst.bind_instant {x : Op σ α} {f : α → Op σ β} (h : x.AsksFirst Instant)
    (rest : ∀ a, (f a).Instant) : (x >>= f).AsksFirst Instant :=
  h.bind fun _ instant => .last (instant.bind rest)

theorem instant_pure (a : α) : Instant (pure a : Op σ α) := fun s => ⟨s, a, rfl⟩

theorem asksFirst_pure (a : α) : AsksFirst Returns (pure a : Op σ α) := .last ⟨a, rfl⟩

theorem AsksFirst.within {part : τ → σ} {put : τ → σ → τ} (put_part : ∀ t, put t (part t) = t)
    {x : Op σ α} (h : x.AsksFirst Instant) : (x.within part put).AsksFirst Instant := by
  induction h with
  | @last x instant =>
    refine .last fun t => ?_
    obtain ⟨u, a, same⟩ := instant (part t)
    exact ⟨put t u, a, by rw [Op.within, same]; rfl⟩
  | ask q next eq rest ih =>
    subst eq
    refine .ask q (fun r => (next r).within part put) (funext fun t => ?_) ih
    show Dialogue.ask (put t (part t)) q _ = Dialogue.ask t q _
    rw [put_part]
    rfl

end Op

/-- Moves that are counted: `step n` allows at most `n` of something, and none is needed to stay. -/
structure Counted (step : Nat → σ → σ → Prop) : Prop where
  refl (s : σ) : step 0 s s
  mono {m n : Nat} {s t : σ} (le : m ≤ n) (h : step m s t) : step n s t
  trans {m n : Nat} {s t u : σ} (h₁ : step m s t) (h₂ : step n t u) : step (m + n) s u

namespace Counted

variable {step : Nat → σ → σ → Prop} {m n : Nat}

theorem moves_pure (counted : Counted step) (a : α) : Op.Moves (step 0) (pure a : Op σ α) :=
  Op.moves_pure a counted.refl

theorem moves_ask (counted : Counted step) (q : Request) : Op.Moves (step 0) (Op.ask q : Op σ q.Answer) :=
  Op.moves_ask q counted.refl

theorem moves_mono (counted : Counted step) {x : Op σ α} (le : m ≤ n) (h : x.Moves (step m)) :
    x.Moves (step n) := fun s => (h s).mono fun _ _ => counted.mono le

theorem moves_bind (counted : Counted step) {x : Op σ α} {f : α → Op σ β} (hx : x.Moves (step m))
    (hf : ∀ a, (f a).Moves (step n)) : (x >>= f).Moves (step (m + n)) :=
  Op.moves_bind (fun _ _ => counted.mono (Nat.le_add_right m n))
    (fun _ _ => counted.mono (Nat.le_add_left n m)) (fun _ _ _ => counted.trans) hx hf

/-- After a part that needs none. -/
theorem moves_then (counted : Counted step) {x : Op σ α} {f : α → Op σ β} (hx : x.Moves (step 0))
    (hf : ∀ a, (f a).Moves (step n)) : (x >>= f).Moves (step n) :=
  counted.moves_mono (Nat.le_of_eq (Nat.zero_add n)) (counted.moves_bind hx hf)

/-- Before parts that need none. -/
theorem moves_before (counted : Counted step) {x : Op σ α} {f : α → Op σ β} (hx : x.Moves (step n))
    (hf : ∀ a, (f a).Moves (step 0)) : (x >>= f).Moves (step n) := counted.moves_bind hx hf

theorem moves_map (counted : Counted step) {x : Op σ α} (f : α → β) (hx : x.Moves (step n)) :
    (f <$> x).Moves (step n) := by
  rw [map_eq_pure_bind]
  exact counted.moves_bind hx fun a => counted.moves_pure (f a)

end Counted

namespace Call

/-- The call, begun in `s`, goes through the visits and is finished with the result in `t`. -/
def Goes (x : Call σ α) (s : σ) (visits : List (Visit σ)) (result : Except Refusal α) (t : σ) : Prop :=
  Op.Goes x.run s visits result t

/-- The call moves the state as `step` allows, whatever others do meanwhile. -/
def Moves (step : σ → σ → Prop) (x : Call σ α) : Prop := Op.Moves step x.run

variable {s t : σ} {visits : List (Visit σ)}

/-! ## Sequences -/

theorem goes_pure {a : α} {result : Except Refusal α} :
    Goes (pure a : Call σ α) s visits result t ↔ visits = [] ∧ result = .ok a ∧ t = s := Op.goes_pure

theorem goes_throw {e : Refusal} {result : Except Refusal α} :
    Goes (throw e : Call σ α) s visits result t ↔ visits = [] ∧ result = .error e ∧ t = s := Op.goes_pure

theorem goes_modify {g : σ → σ} {result : Except Refusal PUnit} :
    Goes (modify g : Call σ PUnit) s visits result t ↔ visits = [] ∧ result = .ok ⟨⟩ ∧ t = g s :=
  Op.goes_pure

/-- A sequence ends with its first part if that is refused. -/
theorem goes_bind {x : Call σ α} {f : α → Call σ β} {result : Except Refusal β} :
    Goes (x >>= f) s visits result t ↔
      (∃ e, Goes x s visits (.error e) t ∧ result = .error e) ∨
      ∃ v₁ a u v₂, Goes x s v₁ (.ok a) u ∧ Goes (f a) u v₂ result t ∧ visits = v₁ ++ v₂ := by
  rw [Goes, ExceptT.run_bind, Op.goes_bind]
  constructor
  · intro h
    obtain ⟨v₁, a, u, v₂, h₁, h₂, rfl⟩ := h
    cases a with
    | error e =>
      obtain ⟨rfl, rfl, rfl⟩ := Op.goes_pure.mp h₂
      exact .inl ⟨e, by rwa [List.append_nil], rfl⟩
    | ok a => exact .inr ⟨v₁, a, u, v₂, h₁, h₂, rfl⟩
  · intro h
    obtain ⟨e, h, rfl⟩ | ⟨v₁, a, u, v₂, h₁, h₂, rfl⟩ := h
    · exact ⟨visits, .error e, t, [], h, Op.goes_pure.mpr ⟨rfl, rfl, rfl⟩,
        (List.append_nil visits).symm⟩
    · exact ⟨v₁, .ok a, u, v₂, h₁, h₂, rfl⟩

theorem goes_throw_bind {e : Refusal} {f : α → Call σ β} {result : Except Refusal β} :
    Goes (throw e >>= f) s visits result t ↔ visits = [] ∧ result = .error e ∧ t = s := Op.goes_pure

theorem goes_modify_bind {g : σ → σ} {f : PUnit → Call σ β} {result : Except Refusal β} :
    Goes (modify g >>= f) s visits result t ↔ Goes (f ⟨⟩) (g s) visits result t := Iff.rfl

theorem goes_modifyGet_bind {g : σ → α × σ} {f : α → Call σ β} {result : Except Refusal β} :
    Goes (modifyGet g >>= f) s visits result t ↔ Goes (f (g s).1) (g s).2 visits result t := Iff.rfl

theorem goes_liftM_bind {x : Op σ α} {f : α → Call σ β} {result : Except Refusal β} :
    Goes ((liftM x : Call σ α) >>= f) s visits result t ↔
      ∃ v₁ a u v₂, x.Goes s v₁ a u ∧ Goes (f a) u v₂ result t ∧ visits = v₁ ++ v₂ := by
  have opened : ((liftM x : Call σ α) >>= f).run = x >>= fun a => (f a).run := by
    show (Except.ok <$> x >>= ExceptT.bindCont fun a => f a) = _
    rw [map_eq_pure_bind, bind_assoc]
    simp only [pure_bind]
    rfl
  rw [Goes, opened, Op.goes_bind]
  rfl

section Within

variable {part : τ → σ} {put : τ → σ → τ} {t u : τ} {visits : List (Visit τ)}

theorem goes_within_pure {a : α} {result : Except Refusal α} :
    Goes (Call.within part put (pure a)) t visits result u ↔
      visits = [] ∧ result = .ok a ∧ u = put t (part t) := Dialogue.passes_done

theorem goes_within_throw {e : Refusal} {result : Except Refusal α} :
    Goes (Call.within part put (throw e)) t visits result u ↔
      visits = [] ∧ result = .error e ∧ u = put t (part t) := Dialogue.passes_done

theorem goes_within_modify {g : σ → σ} {result : Except Refusal PUnit} :
    Goes (Call.within part put (modify g)) t visits result u ↔
      visits = [] ∧ result = .ok ⟨⟩ ∧ u = put t (g (part t)) := Dialogue.passes_done

theorem goes_within_get_bind {f : σ → Call σ β} {result : Except Refusal β} :
    Goes (Call.within part put (get >>= f)) t visits result u ↔
      Goes (Call.within part put (f (part t))) t visits result u := Iff.rfl

theorem goes_within_ask_bind {q : Request} {f : q.Answer → Call σ β} {result : Except Refusal β} :
    Goes (Call.within part put (Call.ask q >>= f)) t visits result u ↔
      ∃ found r rest, Goes (Call.within part put (f r)) found rest result u ∧
        visits = ⟨⟨q, r⟩, put t (part t), found⟩ :: rest := Dialogue.passes_ask

end Within

/-! ## Calls that ask first -/

theorem returns_throw (e : Refusal) : Op.Returns (throw e : Call σ α).run := ⟨.error e, rfl⟩

theorem asksFirst_pure (a : α) : Op.AsksFirst Op.Returns (pure a : Call σ α).run := Op.asksFirst_pure _

theorem asksFirst_throw (e : Refusal) : Op.AsksFirst Op.Returns (throw e : Call σ α).run :=
  Op.asksFirst_pure _

theorem asksFirst_ask (q : Request) : Op.AsksFirst Op.Returns (Call.ask q : Call σ q.Answer).run :=
  .ask q (fun r => pure (.ok r)) rfl fun r => .last ⟨.ok r, rfl⟩

theorem asksFirst_ofExcept {ε : Type} (refuse : ε → Refusal) (x : Except ε α) :
    Op.AsksFirst Op.Returns (ofExcept refuse x : Call σ α).run := by
  cases x with
  | ok a => exact asksFirst_pure a
  | error e => exact asksFirst_throw _

/-- What only asks may be followed by more questions, unless it is refused. -/
theorem asksFirst_bind {last : Op σ (Except Refusal β) → Prop} (halt : ∀ e, last (pure (.error e)))
    {x : Call σ α} {f : α → Call σ β} (h : Op.AsksFirst Op.Returns x.run)
    (rest : ∀ a, Op.AsksFirst last (f a).run) : Op.AsksFirst last (x >>= f).run := by
  rw [ExceptT.run_bind]
  refine h.bind_returns fun result => ?_
  cases result with
  | error e => exact .last (halt e)
  | ok a => exact rest a

theorem instant_pure (a : α) : Op.Instant (pure a : Call σ α).run := Op.instant_pure _

theorem instant_throw (e : Refusal) : Op.Instant (throw e : Call σ α).run := Op.instant_pure _

theorem instant_get : Op.Instant (get : Call σ σ).run := fun s => ⟨s, .ok s, rfl⟩

theorem instant_modify (f : σ → σ) : Op.Instant (modify f : Call σ PUnit).run :=
  fun s => ⟨f s, .ok ⟨⟩, rfl⟩

theorem instant_modifyGet (f : σ → α × σ) : Op.Instant (modifyGet f : Call σ α).run :=
  fun s => ⟨(f s).2, .ok (f s).1, rfl⟩

theorem instant_attempt (f : σ → Except Refusal (α × σ)) : Op.Instant (attempt f).run := by
  intro s
  unfold attempt ExceptT.run ExceptT.mk
  dsimp only
  cases f s with
  | error e => exact ⟨s, .error e, rfl⟩
  | ok p => exact ⟨p.2, .ok p.1, rfl⟩

theorem instant_bind {x : Call σ α} {f : α → Call σ β} (hx : Op.Instant x.run)
    (hf : ∀ a, Op.Instant (f a).run) : Op.Instant (x >>= f).run := by
  rw [ExceptT.run_bind]
  refine hx.bind fun result => ?_
  cases result with
  | error e => exact Op.instant_pure _
  | ok a => exact hf a

theorem asksFirst_bind_instant {x : Call σ α} {f : α → Call σ β} (h : Op.AsksFirst Op.Instant x.run)
    (rest : ∀ a, Op.Instant (f a).run) : Op.AsksFirst Op.Instant (x >>= f).run := by
  rw [ExceptT.run_bind]
  refine h.bind_instant fun result => ?_
  cases result with
  | error e => exact Op.instant_pure _
  | ok a => exact rest a

theorem asksFirst_tryCatch {x : Call σ α} {f : Refusal → Call σ α} (h : Op.AsksFirst Op.Instant x.run)
    (handler : ∀ e, Op.Instant (f e).run) : Op.AsksFirst Op.Instant (tryCatch x f).run := by
  rw [ExceptT.run_tryCatch]
  refine h.bind_instant fun result => ?_
  cases result with
  | error e => exact handler e
  | ok a => exact Op.instant_pure _

/-- The call ends as if nobody had disturbed it, in the state that its last answer found. -/
theorem Goes.does_of_asksFirst {x : Call σ α} {result : Except Refusal α}
    (h : Goes x s visits result t) (asks : Op.AsksFirst Op.Instant x.run) :
    Quiet s visits ∧ Does x (lastFound s visits) (visits.map (·.exchange)) result t := asks.does h

/-- A call that asks nothing has no visits. -/
theorem Goes.does_of_instant {x : Call σ α} {result : Except Refusal α} (h : Goes x s visits result t)
    (instant : Op.Instant x.run) : visits = [] ∧ Does x s [] result t := by
  obtain ⟨u, b, same⟩ := instant s
  have ends : (x.run s).Passes visits (.done t result) := h
  rw [same] at ends
  obtain ⟨rfl, rfl, rfl⟩ := Dialogue.passes_done.mp ends
  refine ⟨rfl, ?_⟩
  show (x.run s).Ends _ _ _ _
  rw [same]
  exact .done t result

/-! ## How calls move the state -/

section Counted

variable {step : Nat → σ → σ → Prop} {m n : Nat}

theorem moves_pure (counted : Counted step) (a : α) : Moves (step 0) (pure a : Call σ α) :=
  counted.moves_pure _

theorem moves_throw (counted : Counted step) (e : Refusal) : Moves (step 0) (throw e : Call σ α) :=
  counted.moves_pure _

theorem moves_ofExcept (counted : Counted step) {ε : Type} (refuse : ε → Refusal) (x : Except ε α) :
    Moves (step 0) (ofExcept refuse x : Call σ α) := by
  cases x with
  | ok a => exact moves_pure counted a
  | error e => exact moves_throw counted _

theorem moves_liftM (counted : Counted step) {x : Op σ α} (h : x.Moves (step n)) :
    Moves (step n) (liftM x : Call σ α) := counted.moves_map Except.ok h

theorem moves_ask (counted : Counted step) (q : Request) :
    Moves (step 0) (Call.ask q : Call σ q.Answer) := moves_liftM counted (counted.moves_ask q)

theorem moves_get_bind {step : σ → σ → Prop} {f : σ → Call σ β} (h : ∀ s, Moves step (f s)) :
    Moves step (get >>= f) := fun s => h s s

theorem moves_modify {step : σ → σ → Prop} {f : σ → σ} (h : ∀ s, step s (f s)) :
    Moves step (modify f : Call σ PUnit) := h

theorem moves_modifyGet {step : σ → σ → Prop} {f : σ → α × σ} (h : ∀ s, step s (f s).2) :
    Moves step (modifyGet f : Call σ α) := h

theorem moves_attempt (counted : Counted step) {f : σ → Except Refusal (α × σ)}
    (h : ∀ s a t, f s = .ok (a, t) → step 0 s t) : Moves (step 0) (attempt f) := by
  intro s
  unfold attempt ExceptT.run ExceptT.mk
  dsimp only
  cases verdict : f s with
  | error e => exact counted.refl s
  | ok p => exact h s p.1 p.2 verdict

theorem moves_mono (counted : Counted step) {x : Call σ α} (le : m ≤ n) (h : Moves (step m) x) :
    Moves (step n) x := counted.moves_mono le h

theorem moves_bind (counted : Counted step) {x : Call σ α} {f : α → Call σ β} (hx : Moves (step m) x)
    (hf : ∀ a, Moves (step n) (f a)) : Moves (step (m + n)) (x >>= f) := by
  unfold Moves
  rw [ExceptT.run_bind]
  refine counted.moves_bind hx fun result => ?_
  cases result with
  | error e => exact counted.moves_mono (Nat.zero_le n) (counted.moves_pure _)
  | ok a => exact hf a

/-- After a part that needs none. -/
theorem moves_then (counted : Counted step) {x : Call σ α} {f : α → Call σ β} (hx : Moves (step 0) x)
    (hf : ∀ a, Moves (step n) (f a)) : Moves (step n) (x >>= f) :=
  moves_mono counted (Nat.le_of_eq (Nat.zero_add n)) (moves_bind counted hx hf)

/-- Before parts that need none. -/
theorem moves_before (counted : Counted step) {x : Call σ α} {f : α → Call σ β}
    (hx : Moves (step n) x) (hf : ∀ a, Moves (step 0) (f a)) : Moves (step n) (x >>= f) :=
  moves_bind counted hx hf

theorem moves_tryCatch (counted : Counted step) {x : Call σ α} {f : Refusal → Call σ α}
    (hx : Moves (step n) x) (hf : ∀ e, Moves (step 0) (f e)) : Moves (step n) (tryCatch x f) := by
  unfold Moves
  rw [ExceptT.run_tryCatch]
  refine counted.moves_before hx fun result => ?_
  cases result with
  | error e => exact hf e
  | ok a => exact counted.moves_pure _

end Counted

end Call

end ClickGrant
