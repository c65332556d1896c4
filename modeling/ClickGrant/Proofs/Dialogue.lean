import ClickGrant.Dialogue

/-!
# How dialogues end

`d.Ends meanwhile log a s` says that the dialogue `d` can go through the exchanges `log` and be
finished with the result `a` in the state `s`. Any answer may come to any request; between a
request and its answer the state may move as `meanwhile` allows.

`x.Does s log a s'` says the same of an operation that nobody disturbs: it starts in `s`, and the
state stands still while a collaborator is asked. The lemmas open an operation along the way it is
built, so that the ends of each operation of the service can be read off its parts:

* `Op.does_bind`, `Call.does_bind`: a sequence ends as its second part does, after the first one;
  a refused first part ends a call;
* `Op.does_within`, `Call.does_within`: an operation over a part of the state changes that part;
* `Dialogue.ends_play`: what a dialogue does against an environment with a state of its own is one
  of its ends.
-/
set_option autoImplicit false

namespace ClickGrant

/-- A request with the answer it got. -/
structure Exchange where
  request : Request
  answer : request.Answer

namespace Dialogue

variable {σ τ α β ε : Type}

/-- The dialogue can go through the exchanges and be finished with this result in this state. -/
inductive Ends (meanwhile : σ → σ → Prop) : Dialogue σ α → List Exchange → α → σ → Prop where
  | done (s : σ) (a : α) : Ends meanwhile (.done s a) [] a s
  | ask {s s' t : σ} {q : Request} {next : σ → q.Answer → Dialogue σ α} {r : q.Answer}
      {log : List Exchange} {a : α} (between : meanwhile s s')
      (rest : Ends meanwhile (next s' r) log a t) :
      Ends meanwhile (.ask s q next) (⟨q, r⟩ :: log) a t

theorem ends_done {meanwhile : σ → σ → Prop} {s t : σ} {a b : α} {log : List Exchange} :
    (Dialogue.done s a).Ends meanwhile log b t ↔ log = [] ∧ b = a ∧ t = s := by
  constructor
  · intro h; cases h; exact ⟨rfl, rfl, rfl⟩
  · intro h
    obtain ⟨rfl, rfl, rfl⟩ := h
    exact .done t b

theorem ends_ask {meanwhile : σ → σ → Prop} {s t : σ} {q : Request}
    {next : σ → q.Answer → Dialogue σ α} {log : List Exchange} {a : α} :
    (Dialogue.ask s q next).Ends meanwhile log a t ↔
      ∃ s' r log', meanwhile s s' ∧ (next s' r).Ends meanwhile log' a t ∧ log = ⟨q, r⟩ :: log' := by
  constructor
  · intro h
    cases h with
    | ask between rest => exact ⟨_, _, _, between, rest, rfl⟩
  · intro h
    obtain ⟨s', r, log', between, rest, rfl⟩ := h
    exact .ask between rest

/-- A sequence goes through the exchanges of both parts. -/
theorem ends_bind {meanwhile : σ → σ → Prop} {f : α → Op σ β} {b : β} {t : σ} :
    ∀ (d : Dialogue σ α) (log : List Exchange), (d.bind f).Ends meanwhile log b t ↔
      ∃ l₁ a u l₂, d.Ends meanwhile l₁ a u ∧ (f a u).Ends meanwhile l₂ b t ∧ log = l₁ ++ l₂ := by
  intro d
  -- the exchanges are the first part's until that is finished
  induction d with
  | done s a =>
    intro log
    constructor
    · intro h; exact ⟨[], a, s, log, .done s a, h, rfl⟩
    · intro h
      obtain ⟨l₁, a', u, l₂, h₁, h₂, rfl⟩ := h
      obtain ⟨rfl, rfl, rfl⟩ := ends_done.mp h₁
      exact h₂
  | ask s q next ih =>
    intro log
    rw [bind, ends_ask]
    constructor
    · intro h
      obtain ⟨s', r, log', between, rest, rfl⟩ := h
      obtain ⟨l₁, a, u, l₂, h₁, h₂, rfl⟩ := (ih s' r log').mp rest
      exact ⟨⟨q, r⟩ :: l₁, a, u, l₂, .ask between h₁, h₂, rfl⟩
    · intro h
      obtain ⟨l₁, a, u, l₂, h₁, h₂, rfl⟩ := h
      obtain ⟨s', r, l₁', between, rest, rfl⟩ := ends_ask.mp h₁
      exact ⟨s', r, l₁' ++ l₂, between, (ih s' r _).mpr ⟨l₁', a, u, l₂, rest, h₂, rfl⟩, rfl⟩

/-- What is asked and answered, nobody disturbing the dialogue, determines where it ends. -/
theorem ends_unique {d : Dialogue σ α} {l₁ l₂ : List Exchange} {a b : α} {s t : σ}
    (h : d.Ends (· = ·) l₁ a s) (h' : d.Ends (· = ·) (l₁ ++ l₂) b t) : l₂ = [] ∧ b = a ∧ t = s := by
  induction h with
  | done s a => exact ends_done.mp h'
  | ask between rest ih =>
    obtain ⟨_, _, _, rfl, rest', same⟩ := ends_ask.mp h'
    cases between
    cases same
    exact ih rest'

/-- A dialogue over a part of the state, undisturbed: the part ends as the dialogue does, and the
rest stays. -/
theorem ends_within {part : τ → σ} {put : τ → σ → τ} (part_put : ∀ t s, part (put t s) = s)
    (put_put : ∀ t s s', put (put t s) s' = put t s') {b : α} {t' : τ} :
    ∀ (d : Dialogue σ α) (t : τ) (log : List Exchange),
      (d.within part put t).Ends (· = ·) log b t' ↔ ∃ s', d.Ends (· = ·) log b s' ∧ t' = put t s' := by
  intro d
  induction d with
  | done s a =>
    intro t log
    rw [within, ends_done]
    constructor
    · intro h
      obtain ⟨rfl, rfl, rfl⟩ := h
      exact ⟨s, .done s b, rfl⟩
    · intro h
      obtain ⟨s', h, rfl⟩ := h
      obtain ⟨rfl, rfl, rfl⟩ := ends_done.mp h
      exact ⟨rfl, rfl, rfl⟩
  | ask s q next ih =>
    intro t log
    rw [within, ends_ask]
    -- nobody moves the rest meanwhile, so the part goes on from where it has asked
    constructor
    · intro h
      obtain ⟨_, r, log', rfl, rest, rfl⟩ := h
      rw [part_put] at rest
      obtain ⟨s', h, rfl⟩ := (ih s r (put t s) log').mp rest
      exact ⟨s', .ask rfl h, put_put t s s'⟩
    · intro h
      obtain ⟨s', h, rfl⟩ := h
      obtain ⟨_, r, log', rfl, rest, rfl⟩ := ends_ask.mp h
      refine ⟨put t s, r, log', rfl, ?_, rfl⟩
      rw [part_put]
      exact (ih s r (put t s) log').mpr ⟨s', rest, (put_put t s s').symm⟩

/-- Carries a dialogue out, undisturbed, against an environment with a state of its own, and keeps
the exchanges. -/
def play (answer : ε → (q : Request) → q.Answer × ε) : Dialogue σ α → ε → (List Exchange × α × σ) × ε
  | done s a, e => (([], a, s), e)
  | ask s q next, e =>
    let (r, e) := answer e q
    let ((log, result), e) := (next s r).play answer e
    ((⟨q, r⟩ :: log, result), e)

theorem ends_play (answer : ε → (q : Request) → q.Answer × ε) :
    ∀ (d : Dialogue σ α) (e : ε),
      d.Ends (· = ·) (d.play answer e).1.1 (d.play answer e).1.2.1 (d.play answer e).1.2.2 := by
  intro d
  induction d with
  | done s a => intro e; exact .done s a
  | ask s q next ih => intro e; exact .ask rfl (ih s (answer e q).1 (answer e q).2)

end Dialogue

namespace Op

variable {σ τ α β : Type}

/-- The operation, which nobody disturbs, can go from one state to another through these exchanges
and with this result. -/
def Does (x : Op σ α) (s : σ) (log : List Exchange) (a : α) (s' : σ) : Prop :=
  (x s).Ends (· = ·) log a s'

variable {s t : σ} {log : List Exchange}

theorem does_pure {a b : α} :
    Does (pure a : Op σ α) s log b t ↔ log = [] ∧ b = a ∧ t = s := Dialogue.ends_done

theorem does_bind {x : Op σ α} {f : α → Op σ β} {b : β} :
    Does (x >>= f) s log b t ↔
      ∃ l₁ a u l₂, x.Does s l₁ a u ∧ (f a).Does u l₂ b t ∧ log = l₁ ++ l₂ :=
  Dialogue.ends_bind (x s) log

theorem does_map {x : Op σ α} {f : α → β} {b : β} :
    Does (f <$> x) s log b t ↔ ∃ a, x.Does s log a t ∧ b = f a := by
  rw [map_eq_pure_bind, does_bind]
  constructor
  · intro h
    obtain ⟨l₁, a, u, l₂, h, h', rfl⟩ := h
    obtain ⟨rfl, rfl, rfl⟩ := does_pure.mp h'
    exact ⟨a, by rwa [List.append_nil], rfl⟩
  · intro h
    obtain ⟨a, h, rfl⟩ := h
    exact ⟨log, a, t, [], h, does_pure.mpr ⟨rfl, rfl, rfl⟩, (List.append_nil log).symm⟩

theorem does_modifyGet {f : σ → α × σ} {a : α} :
    Does (modifyGet f : Op σ α) s log a t ↔ log = [] ∧ a = (f s).1 ∧ t = (f s).2 :=
  Dialogue.ends_done

theorem does_modify {f : σ → σ} {a : PUnit} :
    Does (modify f : Op σ PUnit) s log a t ↔ log = [] ∧ t = f s := by
  refine does_modifyGet.trans ?_
  simp

theorem does_ask {q : Request} {r : q.Answer} :
    Does (Op.ask q : Op σ q.Answer) s log r t ↔ log = [⟨q, r⟩] ∧ t = s := by
  constructor
  · intro h
    obtain ⟨_, r', log', rfl, rest, rfl⟩ := Dialogue.ends_ask.mp h
    obtain ⟨rfl, rfl, rfl⟩ := Dialogue.ends_done.mp rest
    exact ⟨rfl, rfl⟩
  · intro h
    obtain ⟨rfl, rfl⟩ := h
    exact .ask rfl (.done t r)

theorem does_ask_bind {q : Request} {f : q.Answer → Op σ β} {b : β} :
    Does (Op.ask q >>= f) s log b t ↔ ∃ r l, (f r).Does s l b t ∧ log = ⟨q, r⟩ :: l := by
  rw [does_bind]
  constructor
  · intro h
    obtain ⟨l₁, r, u, l, h₁, h, rfl⟩ := h
    obtain ⟨rfl, rfl⟩ := does_ask.mp h₁
    exact ⟨r, l, h, rfl⟩
  · intro h
    obtain ⟨r, l, h, rfl⟩ := h
    exact ⟨[⟨q, r⟩], r, s, l, does_ask.mpr ⟨rfl, rfl⟩, h, rfl⟩

theorem does_modifyGet_bind {g : σ → α × σ} {f : α → Op σ β} {b : β} :
    Does (modifyGet g >>= f) s log b t ↔ (f (g s).1).Does (g s).2 log b t := Iff.rfl

theorem does_get_bind {f : σ → Op σ β} {b : β} :
    Does (get >>= f) s log b t ↔ (f s).Does s log b t := Iff.rfl

theorem does_modify_bind {g : σ → σ} {f : PUnit → Op σ β} {b : β} :
    Does (modify g >>= f) s log b t ↔ (f ⟨⟩).Does (g s) log b t := Iff.rfl

theorem does_within {part : τ → σ} {put : τ → σ → τ} (part_put : ∀ t s, part (put t s) = s)
    (put_put : ∀ t s s', put (put t s) s' = put t s') {x : Op σ α} {u u' : τ} {a : α} :
    (x.within part put).Does u log a u' ↔ ∃ s', x.Does (part u) log a s' ∧ u' = put u s' :=
  Dialogue.ends_within part_put put_put (x (part u)) u log

end Op

namespace Call

variable {σ τ α β : Type}

/-- The call, which nobody disturbs, can go from one state to another through these exchanges and
with this result. -/
def Does (x : Call σ α) (s : σ) (log : List Exchange) (result : Except Refusal α) (s' : σ) : Prop :=
  Op.Does x.run s log result s'

variable {s t : σ} {log : List Exchange}

theorem does_pure {a : α} {result : Except Refusal α} :
    Does (pure a : Call σ α) s log result t ↔ log = [] ∧ result = .ok a ∧ t = s := Op.does_pure

theorem does_throw {e : Refusal} {result : Except Refusal α} :
    Does (throw e : Call σ α) s log result t ↔ log = [] ∧ result = .error e ∧ t = s := Op.does_pure

/-- A sequence ends with its first part if that is refused. -/
theorem does_bind {x : Call σ α} {f : α → Call σ β} {result : Except Refusal β} :
    Does (x >>= f) s log result t ↔
      (∃ e, Does x s log (.error e) t ∧ result = .error e) ∨
      ∃ l₁ a u l₂, Does x s l₁ (.ok a) u ∧ Does (f a) u l₂ result t ∧ log = l₁ ++ l₂ := by
  rw [Does, ExceptT.run_bind, Op.does_bind]
  constructor
  · intro h
    obtain ⟨l₁, a, u, l₂, h₁, h₂, rfl⟩ := h
    cases a with
    | error e =>
      obtain ⟨rfl, rfl, rfl⟩ := Op.does_pure.mp h₂
      exact .inl ⟨e, by rwa [List.append_nil], rfl⟩
    | ok a => exact .inr ⟨l₁, a, u, l₂, h₁, h₂, rfl⟩
  · intro h
    obtain ⟨e, h, rfl⟩ | ⟨l₁, a, u, l₂, h₁, h₂, rfl⟩ := h
    · exact ⟨log, .error e, t, [], h, Op.does_pure.mpr ⟨rfl, rfl, rfl⟩, (List.append_nil log).symm⟩
    · exact ⟨l₁, .ok a, u, l₂, h₁, h₂, rfl⟩

theorem does_lift {x : Op σ α} {result : Except Refusal α} :
    Does (ExceptT.lift x) s log result t ↔ ∃ a, x.Does s log a t ∧ result = .ok a := Op.does_map

theorem does_liftM {x : Op σ α} {result : Except Refusal α} :
    Does (liftM x : Call σ α) s log result t ↔ ∃ a, x.Does s log a t ∧ result = .ok a := does_lift

theorem does_modifyGet {f : σ → α × σ} {result : Except Refusal α} :
    Does (modifyGet f : Call σ α) s log result t ↔ log = [] ∧ result = .ok (f s).1 ∧ t = (f s).2 := by
  refine (does_lift (x := modifyGet f)).trans ⟨?_, ?_⟩
  · intro h
    obtain ⟨a, h, rfl⟩ := h
    obtain ⟨rfl, rfl, rfl⟩ := Op.does_modifyGet.mp h
    exact ⟨rfl, rfl, rfl⟩
  · intro h
    obtain ⟨rfl, rfl, rfl⟩ := h
    exact ⟨(f s).1, Op.does_modifyGet.mpr ⟨rfl, rfl, rfl⟩, rfl⟩

theorem does_modify {f : σ → σ} {result : Except Refusal PUnit} :
    Does (modify f : Call σ PUnit) s log result t ↔ log = [] ∧ result = .ok ⟨⟩ ∧ t = f s :=
  does_modifyGet

theorem does_ask {q : Request} {result : Except Refusal q.Answer} :
    Does (Call.ask q : Call σ q.Answer) s log result t ↔
      ∃ r, log = [⟨q, r⟩] ∧ result = .ok r ∧ t = s := by
  rw [Call.ask, does_lift]
  constructor
  · intro h
    obtain ⟨r, h, rfl⟩ := h
    obtain ⟨rfl, rfl⟩ := Op.does_ask.mp h
    exact ⟨r, rfl, rfl, rfl⟩
  · intro h
    obtain ⟨r, rfl, rfl, rfl⟩ := h
    exact ⟨r, Op.does_ask.mpr ⟨rfl, rfl⟩, rfl⟩

theorem does_throw_bind {e : Refusal} {f : α → Call σ β} {result : Except Refusal β} :
    Does (throw e >>= f) s log result t ↔ log = [] ∧ result = .error e ∧ t = s := Op.does_pure

theorem does_get_bind {f : σ → Call σ β} {result : Except Refusal β} :
    Does (get >>= f) s log result t ↔ Does (f s) s log result t := Iff.rfl

theorem does_modify_bind {g : σ → σ} {f : PUnit → Call σ β} {result : Except Refusal β} :
    Does (modify g >>= f) s log result t ↔ Does (f ⟨⟩) (g s) log result t := Iff.rfl

theorem does_modifyGet_bind {g : σ → α × σ} {f : α → Call σ β} {result : Except Refusal β} :
    Does (modifyGet g >>= f) s log result t ↔ Does (f (g s).1) (g s).2 log result t := Iff.rfl

theorem does_liftM_bind {x : Op σ α} {f : α → Call σ β} {result : Except Refusal β} :
    Does ((liftM x : Call σ α) >>= f) s log result t ↔
      ∃ l₁ a u l₂, x.Does s l₁ a u ∧ Does (f a) u l₂ result t ∧ log = l₁ ++ l₂ := by
  rw [does_bind]
  constructor
  · intro h
    obtain ⟨e, h, rfl⟩ | ⟨l₁, a, u, l₂, h₁, h, rfl⟩ := h
    · obtain ⟨_, _, ⟨⟩⟩ := does_liftM.mp h
    · obtain ⟨_, h₁, ⟨⟩⟩ := does_liftM.mp h₁
      exact ⟨l₁, a, u, l₂, h₁, h, rfl⟩
  · intro h
    obtain ⟨l₁, a, u, l₂, h₁, h, rfl⟩ := h
    exact .inr ⟨l₁, a, u, l₂, does_liftM.mpr ⟨a, h₁, rfl⟩, h, rfl⟩

/-- Asking is never refused. -/
theorem does_ask_bind {q : Request} {f : q.Answer → Call σ β} {result : Except Refusal β} :
    Does (Call.ask q >>= f) s log result t ↔ ∃ r l, Does (f r) s l result t ∧ log = ⟨q, r⟩ :: l := by
  rw [does_bind]
  constructor
  · intro h
    obtain ⟨e, h, rfl⟩ | ⟨l₁, r, u, l, h₁, h, rfl⟩ := h
    · obtain ⟨_, _, ⟨⟩, _⟩ := does_ask.mp h
    · obtain ⟨_, rfl, ⟨⟩, rfl⟩ := does_ask.mp h₁
      exact ⟨r, l, h, rfl⟩
  · intro h
    obtain ⟨r, l, h, rfl⟩ := h
    exact .inr ⟨[⟨q, r⟩], r, s, l, does_ask.mpr ⟨r, rfl, rfl, rfl⟩, h, rfl⟩

theorem does_attempt {f : σ → Except Refusal (α × σ)} {result : Except Refusal α} :
    Does (Call.attempt f) s log result t ↔ log = [] ∧
      ((∃ e, f s = .error e ∧ result = .error e ∧ t = s) ∨
        ∃ a, f s = .ok (a, t) ∧ result = .ok a) := by
  unfold Does Op.Does Call.attempt ExceptT.run ExceptT.mk
  dsimp only
  cases f s with
  | error e =>
    rw [Dialogue.ends_done]
    constructor
    · intro h
      obtain ⟨rfl, rfl, rfl⟩ := h
      exact ⟨rfl, .inl ⟨e, rfl, rfl, rfl⟩⟩
    · intro h
      obtain ⟨rfl, ⟨_, ⟨⟩, rfl, rfl⟩ | ⟨_, ⟨⟩, _⟩⟩ := h
      exact ⟨rfl, rfl, rfl⟩
  | ok p =>
    obtain ⟨a, u⟩ := p
    rw [Dialogue.ends_done]
    constructor
    · intro h
      obtain ⟨rfl, rfl, rfl⟩ := h
      exact ⟨rfl, .inr ⟨a, rfl, rfl⟩⟩
    · intro h
      obtain ⟨rfl, ⟨_, ⟨⟩, _⟩ | ⟨_, ⟨⟩, rfl⟩⟩ := h
      exact ⟨rfl, rfl, rfl⟩

/-- A refused call goes on with the handler. -/
theorem does_tryCatch {x : Call σ α} {f : Refusal → Call σ α} {result : Except Refusal α} :
    Does (tryCatch x f) s log result t ↔
      (∃ l₁ e u l₂, Does x s l₁ (.error e) u ∧ Does (f e) u l₂ result t ∧ log = l₁ ++ l₂) ∨
      ∃ a, Does x s log (.ok a) t ∧ result = .ok a := by
  rw [Does, ExceptT.run_tryCatch, Op.does_bind]
  constructor
  · intro h
    obtain ⟨l₁, a, u, l₂, h₁, h₂, rfl⟩ := h
    cases a with
    | error e => exact .inl ⟨l₁, e, u, l₂, h₁, h₂, rfl⟩
    | ok a =>
      obtain ⟨rfl, rfl, rfl⟩ := Op.does_pure.mp h₂
      exact .inr ⟨a, by rwa [List.append_nil], rfl⟩
  · intro h
    obtain ⟨l₁, e, u, l₂, h₁, h₂, rfl⟩ | ⟨a, h, rfl⟩ := h
    · exact ⟨l₁, .error e, u, l₂, h₁, h₂, rfl⟩
    · exact ⟨log, .ok a, t, [], h, Op.does_pure.mpr ⟨rfl, rfl, rfl⟩, (List.append_nil log).symm⟩

theorem does_within {part : τ → σ} {put : τ → σ → τ} (part_put : ∀ t s, part (put t s) = s)
    (put_put : ∀ t s s', put (put t s) s' = put t s') {x : Call σ α} {u u' : τ}
    {result : Except Refusal α} :
    Does (x.within part put) u log result u' ↔ ∃ s', Does x (part u) log result s' ∧ u' = put u s' :=
  Op.does_within part_put put_put

end Call

end ClickGrant
