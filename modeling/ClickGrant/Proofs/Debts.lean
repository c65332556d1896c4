import ClickGrant.Proofs.Traffic

/-!
# Debts of operations under way

What every stretch keeps holds at all times (`Traffic.run_preserves`). Some things hold only when
nobody is at work: an operation may spoil them, wait for an answer, and put them right afterwards. A
dialogue `Owes Good` if it goes on, whatever it finds, until the state is good; an operation `Pays
Good` if every stretch that it begins in a good state ends in a good state or leaves it owing. What
is proved:
  1. `Dialogue.good_or_owes_bind`, `Op.pays_bind` — debts are paid in sequences if they are paid in
     their parts.
  2. `Traffic.good_or_owed` — where every operation pays, the state is good or some course owes,
     however the courses interrupt each other. A course that spoils what another one owes does no
     harm, and neither does one that puts it right.
  3. `Traffic.good_of_ended` — so the state is good whenever every course has ended.
-/
set_option autoImplicit false

namespace ClickGrant

variable {σ α β : Type}

namespace Dialogue

/-- The dialogue is finished. -/
def isDone : Dialogue σ α → Bool
  | done _ _ => true
  | ask _ _ _ => false

/-- Whatever it finds, the dialogue goes on until the state is good. -/
def Owes (Good : σ → Prop) : Dialogue σ α → Prop
  | done _ _ => False
  | ask _ _ next => ∀ found r, Good (next found r).state ∨ (next found r).Owes Good

/-- Every stretch of the dialogue, which is begun in `s`, that is begun in a good state ends in a
good state or leaves the dialogue owing. -/
def Pays (Good : σ → Prop) : σ → Dialogue σ α → Prop
  | s, done t _ => Good s → Good t
  | s, ask t q next =>
    (Good s → Good t ∨ (ask t q next).Owes Good) ∧ ∀ found r, (next found r).Pays Good found

variable {Good : σ → Prop} {s t : σ} {visits : List (Visit σ)}

theorem not_owes_of_isDone {d : Dialogue σ α} (isDone : d.isDone = true) : ¬d.Owes Good := by
  cases d with
  | done s a => exact id
  | ask s q next => cases isDone

theorem Pays.head : ∀ {d : Dialogue σ α}, d.Pays Good s → Good s → Good d.state ∨ d.Owes Good
  | done _ _, h, good => .inl (h good)
  | ask _ _ _, h, good => h.1 good

/-- It goes on like this after any answer. -/
theorem Pays.next {d : Dialogue σ α} {q : Request} {next : σ → q.Answer → Dialogue σ α}
    (h : d.Pays Good s) (passes : d.Passes visits (.ask t q next)) (found : σ) (r : q.Answer) :
    (next found r).Pays Good found := by
  generalize he : Dialogue.ask t q next = e at passes
  induction passes generalizing s with
  | here d => subst he; exact h.2 found r
  | on rest ih => exact ih (h.2 _ _) he

/-- What keeps the state good owes nothing. -/
theorem Moves.pays : ∀ {d : Dialogue σ α} {s : σ},
    d.Moves (fun s t => Good s → Good t) s → d.Pays Good s
  | done _ _, _, h => h
  | ask _ _ _, _, h => ⟨fun good => .inl (h.1 good), fun found r => Moves.pays (h.2 found r)⟩

/-- A state that is good, or that the dialogue owes, stays so when an operation that pays follows. -/
theorem good_or_owes_bind {f : α → Op σ β} (rest : ∀ a u, (f a u).Pays Good u) :
    ∀ {d : Dialogue σ α}, Good d.state ∨ d.Owes Good →
      Good (d.bind f).state ∨ (d.bind f).Owes Good
  | done t a, h => by
    rcases h with good | owes
    · exact (rest a t).head good
    · exact owes.elim
  | ask _ _ _, h => by
    rcases h with good | owes
    · exact .inl good
    · exact .inr fun found r => good_or_owes_bind rest (owes found r)

/-- What matters of where a dialogue began is how its first stretch ends. -/
theorem Pays.of_head : ∀ {d : Dialogue σ α}, (Good s → Good d.state ∨ d.Owes Good) →
    d.Pays Good t → d.Pays Good s
  | done _ _, first, _ => fun good => (first good).resolve_right id
  | ask _ _ _, first, h => ⟨first, h.2⟩

theorem Pays.bind {f : α → Op σ β} (rest : ∀ a u, (f a u).Pays Good u) :
    ∀ {d : Dialogue σ α} {s : σ}, d.Pays Good s → (d.bind f).Pays Good s
  | done t a, _, h => (rest a t).of_head fun good => (rest a t).head (h good)
  | ask t q next, _, h =>
    ⟨fun good => good_or_owes_bind rest (d := .ask t q next) (h.1 good),
      fun found r => Pays.bind rest (h.2 found r)⟩

end Dialogue

namespace Op

variable {Good : σ → Prop}

/-- What the operation spoils it owes, and what it owes it pays. -/
def Pays (Good : σ → Prop) (x : Op σ α) : Prop := ∀ s, (x s).Pays Good s

theorem Moves.pays {x : Op σ α} (h : x.Moves fun s t => Good s → Good t) : x.Pays Good :=
  fun s => Dialogue.Moves.pays (h s)

theorem pays_bind {x : Op σ α} {f : α → Op σ β} (hx : x.Pays Good) (hf : ∀ a, (f a).Pays Good) :
    (x >>= f).Pays Good := fun s => Dialogue.Pays.bind hf (hx s)

theorem pays_pure (a : α) : (pure a : Op σ α).Pays Good := fun _ good => good

end Op

/-- A member of a list is still there when another place is written. -/
theorem mem_set_or_eq {l : List α} {n : Nat} {a b c : α} (there : l[n]? = some a) (h : c ∈ l) :
    c = a ∨ c ∈ l.set n b := by
  obtain ⟨m, hm⟩ := List.mem_iff_getElem?.mp h
  by_cases same : n = m
  · subst same
    rw [there] at hm
    exact .inl (Option.some.inj hm).symm
  · refine .inr (List.mem_of_getElem? (i := m) ?_)
    rw [List.getElem?_set_ne same]
    exact hm

namespace Traffic

variable {A ρ : Type} {perform : A → Op σ ρ} {Good : σ → Prop} {t : Traffic σ A ρ}

/-- The state is good, or some course owes it. -/
def GoodOrOwed (Good : σ → Prop) (t : Traffic σ A ρ) : Prop :=
  Good t.state ∨ ∃ c ∈ t.courses, c.rest.Owes Good

theorem GoodOrOwed.begin (every : ∀ act, (perform act).Pays Good) (h : GoodOrOwed Good t) (act : A) :
    GoodOrOwed Good (t.next perform (.begin act)) := by
  rcases h with good | ⟨c, hc, owes⟩
  · rcases (every act t.state).head good with good | owes
    · exact .inl good
    · exact .inr ⟨_, List.mem_append_right _ (List.mem_singleton_self _), owes⟩
  · exact .inr ⟨c, List.mem_append_left _ hc, owes⟩

/-- The course that goes on is the one that owes, or leaves that one alone. -/
theorem GoodOrOwed.answer (every : ∀ act, (perform act).Pays Good) (genuine : Genuine perform t)
    (h : GoodOrOwed Good t) (number : Nat) (reply : (q : Request) → q.Answer) :
    GoodOrOwed Good (t.next perform (.answer number reply)) := by
  unfold next
  dsimp only
  split
  next act before visits asked q goOn waiting =>
    have inside : number < t.courses.length := (List.getElem?_eq_some_iff.mp waiting).1
    -- the course that goes on, where it owes afterwards
    have passed (owes : (goOn t.state (reply q)).Owes Good) :
        ∃ c ∈ t.courses.set number
            ⟨act, before, visits ++ [⟨⟨q, reply q⟩, asked, t.state⟩], goOn t.state (reply q)⟩,
          c.rest.Owes Good := ⟨_, List.mem_set inside _, owes⟩
    rcases h with good | ⟨c, hc, owes⟩
    · have pays := (every act before).next (genuine _ (List.mem_of_getElem? waiting)) t.state (reply q)
      exact (pays.head good).imp_right passed
    · rcases mem_set_or_eq waiting hc with rfl | hc
      · exact (owes t.state (reply q)).imp_right passed
      · exact .inr ⟨c, hc, owes⟩
  next => exact h

theorem good_or_owed (every : ∀ act, (perform act).Pays Good) {s : σ} (first : Good s)
    (moves : List (Move A)) : GoodOrOwed Good ((start s).run perform moves) := by
  refine (run_keeps (fun t => Genuine perform t ∧ GoodOrOwed Good t)
    (fun t move ⟨genuine, h⟩ => ⟨genuine.next move, ?_⟩) moves ⟨genuine_start s, .inl first⟩).2
  cases move with
  | begin act => exact h.begin every act
  | answer number reply => exact h.answer every genuine number reply

theorem good_of_ended (every : ∀ act, (perform act).Pays Good) {s : σ} (first : Good s)
    (moves : List (Move A)) (ended : ∀ c ∈ ((start s).run perform moves).courses, c.rest.isDone = true) :
    Good ((start s).run perform moves).state := by
  rcases good_or_owed every first moves with good | ⟨c, hc, owes⟩
  · exact good
  · exact absurd owes (Dialogue.not_owes_of_isDone (ended c hc))

end Traffic

end ClickGrant
