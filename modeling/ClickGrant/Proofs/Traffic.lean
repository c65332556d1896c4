import ClickGrant.Proofs.Disturbance

/-!
# Operations under way at once

While an operation waits for an answer, others begin, go on and end: from other threads, or from
within the collaborator that was asked. A `Course` is an operation as far as it has come. `Traffic`
is the state with every course there has been, those that have ended included, and with every
stretch on which one of them has moved the state. One `Move` begins an operation, or answers one
that waits; either way it goes on without a break to its next request or to its end. Calls that are
nested in each other, as those are that a collaborator makes before it answers, are the traffic in
which whatever was begun last is answered first. What is proved:
  1. `Genuine.run` — every course has gone through the dialogue of its operation.
  2. `run_invariant` — what every stretch keeps holds now, and it held whenever a course began or
     went on.
  3. `run_leads`, `run_ordered` — where every stretch leads, all later states are, and of the states
     in which a course began or went on, each leads to those that come after it.
-/
set_option autoImplicit false

namespace ClickGrant

/-- An operation under way: what it is, the state it began in, what it has gone through, and where
it stands. -/
structure Course (σ A ρ : Type) where
  act : A
  before : σ
  visits : List (Visit σ)
  rest : Dialogue σ ρ

/-- The states in which it began or went on, in this order. -/
def Course.starts {σ A ρ : Type} (c : Course σ A ρ) : List σ := c.before :: c.visits.map (·.found)

/-- From where to where a course has moved the state without a break. -/
structure Stretch (σ : Type) where
  before : σ
  after : σ

/-- The state, every course, and every stretch so far. -/
structure Traffic (σ A ρ : Type) where
  state : σ
  courses : List (Course σ A ρ)
  past : List (Stretch σ)

/-- What happens next. -/
inductive Move (A : Type) where
  | begin (act : A)
  /-- The request that the course with this number waits at is answered. -/
  | answer (number : Nat) (reply : (q : Request) → q.Answer)

namespace Traffic

variable {σ A ρ : Type}

/-- Nothing has happened yet. -/
def start (s : σ) : Traffic σ A ρ := ⟨s, [], []⟩

/-- A course has come to stand here. -/
def settle (t : Traffic σ A ρ) (courses : List (Course σ A ρ)) (d : Dialogue σ ρ) : Traffic σ A ρ :=
  ⟨d.state, courses, t.past ++ [⟨t.state, d.state⟩]⟩

/-- The traffic after a move. Where no course waits, an answer has no effect. -/
def next (perform : A → Op σ ρ) (t : Traffic σ A ρ) : Move A → Traffic σ A ρ
  | .begin act =>
    t.settle (t.courses ++ [⟨act, t.state, [], perform act t.state⟩]) (perform act t.state)
  | .answer number reply =>
    match t.courses[number]? with
    | some ⟨act, before, visits, .ask asked q next⟩ =>
      t.settle (t.courses.set number
        ⟨act, before, visits ++ [⟨⟨q, reply q⟩, asked, t.state⟩], next t.state (reply q)⟩)
        (next t.state (reply q))
    | _ => t

/-- The traffic after some moves. -/
def run (perform : A → Op σ ρ) (t : Traffic σ A ρ) (moves : List (Move A)) : Traffic σ A ρ :=
  moves.foldl (next perform) t

variable {perform : A → Op σ ρ} {t : Traffic σ A ρ}

/-- What every move keeps is kept by all of them. -/
theorem run_keeps (Kept : Traffic σ A ρ → Prop) (step : ∀ t move, Kept t → Kept (t.next perform move)) :
    ∀ (moves : List (Move A)) {t : Traffic σ A ρ}, Kept t → Kept (t.run perform moves)
  | [], _, h => h
  | move :: rest, t, h => run_keeps Kept step rest (step t move h)

/-- A move begins a course, has one go on that was waiting, or has no effect. -/
theorem next_cases (perform : A → Op σ ρ) (t : Traffic σ A ρ) (move : Move A) :
    t.next perform move = t ∨
    (∃ act, t.next perform move =
      t.settle (t.courses ++ [⟨act, t.state, [], perform act t.state⟩]) (perform act t.state)) ∨
    ∃ number act before visits asked q goOn r,
      (⟨act, before, visits, .ask asked q goOn⟩ : Course σ A ρ) ∈ t.courses ∧
      t.next perform move = t.settle (t.courses.set number
        ⟨act, before, visits ++ [⟨⟨q, r⟩, asked, t.state⟩], goOn t.state r⟩) (goOn t.state r) := by
  cases move with
  | begin act => exact .inr (.inl ⟨act, rfl⟩)
  | answer number reply =>
    unfold next
    dsimp only
    split
    next act before visits asked q goOn waiting =>
      exact .inr (.inr ⟨number, act, before, visits, asked, q, goOn, reply q,
        List.mem_of_getElem? waiting, rfl⟩)
    next => exact .inl rfl

/-- The operations that moves begin. -/
def begun (moves : List (Move A)) : List A :=
  moves.filterMap fun
    | .begin act => some act
    | .answer .. => none

/-- The courses stand in the order in which they were begun. -/
theorem acts_run : ∀ (moves : List (Move A)) (t : Traffic σ A ρ),
    (t.run perform moves).courses.map (·.act) = t.courses.map (·.act) ++ begun moves
  | [], t => (List.append_nil _).symm
  | .begin act :: rest, t => by
    refine (acts_run rest (t.next perform (.begin act))).trans ?_
    simp [next, settle, begun]
  | .answer number reply :: rest, t => by
    refine (acts_run rest (t.next perform (.answer number reply))).trans ?_
    have same : (t.next perform (.answer number reply)).courses.map (·.act) = t.courses.map (·.act) := by
      unfold next
      dsimp only
      split
      next act before visits asked q goOn waiting =>
        obtain ⟨inside, there⟩ := List.getElem?_eq_some_iff.mp waiting
        have inside' : number < (t.courses.map (·.act)).length := by rwa [List.length_map]
        rw [settle, List.map_set]
        calc (t.courses.map (·.act)).set number act
          _ = (t.courses.map (·.act)).set number (t.courses.map (·.act))[number] := by
            rw [List.getElem_map, there]
          _ = t.courses.map (·.act) := List.set_getElem_self inside'
      next => rfl
    rw [same]
    rfl

theorem act_of_number {s : σ} {moves : List (Move A)} {number : Nat} {c : Course σ A ρ}
    (h : ((start s).run perform moves).courses[number]? = some c) :
    (begun moves)[number]? = some c.act := by
  have same : (((start s).run perform moves).courses.map (·.act))[number]? = some c.act := by
    rw [List.getElem?_map, h]
    rfl
  rwa [acts_run] at same

/-! ## Courses -/

/-- Every course has gone through the dialogue of its operation. -/
def Genuine (perform : A → Op σ ρ) (t : Traffic σ A ρ) : Prop :=
  ∀ c ∈ t.courses, (perform c.act c.before).Passes c.visits c.rest

theorem Genuine.next (genuine : Genuine perform t) (move : Move A) :
    Genuine perform (t.next perform move) := by
  obtain same | ⟨act, begun⟩ | ⟨number, act, before, visits, asked, q, goOn, r, waiting, moved⟩ :=
    next_cases perform t move
  · rw [same]; exact genuine
  · rw [begun]
    intro c h
    rcases List.mem_append.mp h with h | h
    · exact genuine c h
    · rw [List.mem_singleton.mp h]; exact .here _
  · rw [moved]
    intro c h
    rcases List.mem_or_eq_of_mem_set h with h | rfl
    · exact genuine c h
    · exact Dialogue.Passes.snoc (genuine _ waiting) t.state r

theorem not_mem_start {s : σ} {c : Course σ A ρ} : c ∉ (start s : Traffic σ A ρ).courses :=
  List.not_mem_nil

theorem genuine_start (s : σ) : Genuine perform (start s) := fun _ h => absurd h not_mem_start

theorem Genuine.run (genuine : Genuine perform t) (moves : List (Move A)) :
    Genuine perform (t.run perform moves) :=
  run_keeps (Genuine perform) (fun _ move genuine => genuine.next move) moves genuine

/-- A course that has ended is a way for its operation to go. -/
theorem Genuine.goes (genuine : Genuine perform t) {c : Course σ A ρ} (h : c ∈ t.courses) {s : σ}
    {reply : ρ} (ended : c.rest = .done s reply) : (perform c.act).Goes c.before c.visits reply s := by
  have passes := genuine c h
  rw [ended] at passes
  exact passes

/-- The courses after a move started where they have started before, or in the present state. -/
theorem mem_starts_next {move : Move A} {c : Course σ A ρ} (h : c ∈ (t.next perform move).courses) :
    c ∈ t.courses ∨ c.starts = [t.state] ∨
      ∃ c' ∈ t.courses, c.starts = c'.starts ++ [t.state] := by
  obtain same | ⟨act, begun⟩ | ⟨number, act, before, visits, asked, q, goOn, r, waiting, moved⟩ :=
    next_cases perform t move
  · rw [same] at h; exact .inl h
  · rw [begun] at h
    rcases List.mem_append.mp h with h | h
    · exact .inl h
    · rw [List.mem_singleton.mp h]; exact .inr (.inl rfl)
  · rw [moved] at h
    rcases List.mem_or_eq_of_mem_set h with h | rfl
    · exact .inl h
    · refine .inr (.inr ⟨_, waiting, ?_⟩)
      simp [Course.starts]

/-! ## Stretches -/

variable {step : σ → σ → Prop}

/-- A move without an effect adds no stretch; any other adds one, on which the state is moved as
every operation moves it. -/
theorem Genuine.stretch (genuine : Genuine perform t) (every : ∀ act, (perform act).Moves step)
    (move : Move A) : t.next perform move = t ∨
      (t.next perform move).past = t.past ++ [⟨t.state, (t.next perform move).state⟩] ∧
        step t.state (t.next perform move).state := by
  obtain same | ⟨act, begun⟩ | ⟨number, act, before, visits, asked, q, goOn, r, waiting, moved⟩ :=
    next_cases perform t move
  · exact .inl same
  · rw [begun]
    exact .inr ⟨rfl, (every act t.state).head⟩
  · rw [moved]
    exact .inr ⟨rfl, ((every act before).next (genuine _ waiting) t.state r).head⟩

/-- What holds at first, and after a stretch if it did before, holds now, and it held whenever a
course began or went on. What holds may depend on the stretches so far. -/
theorem run_invariant {Holds : List (Stretch σ) → σ → Prop} {s : σ}
    (every : ∀ act, (perform act).Moves step) (first : Holds [] s)
    (keeps : ∀ past s t, step s t → Holds past s → Holds (past ++ [⟨s, t⟩]) t) (moves : List (Move A)) :
    Holds ((start s).run perform moves).past ((start s).run perform moves).state ∧
      ∀ c ∈ ((start s).run perform moves).courses, ∀ m ∈ c.starts,
        ∃ earlier, earlier <+: ((start s).run perform moves).past ∧ Holds earlier m := by
  refine (run_keeps
    (fun t => Genuine perform t ∧ Holds t.past t.state ∧
      ∀ c ∈ t.courses, ∀ m ∈ c.starts, ∃ earlier, earlier <+: t.past ∧ Holds earlier m)
    (fun t move ⟨genuine, now, started⟩ => ⟨genuine.next move, ?_⟩) moves
    ⟨genuine_start s, first, fun _ h => absurd h not_mem_start⟩).2
  obtain same | ⟨past, moved⟩ := genuine.stretch every move
  · rw [same]; exact ⟨now, started⟩
  have grown : t.past <+: (t.next perform move).past := by
    rw [past]
    exact List.prefix_append ..
  have before (c : Course σ A ρ) (h : c ∈ t.courses) (m : σ) (hm : m ∈ c.starts) :
      ∃ earlier, earlier <+: (t.next perform move).past ∧ Holds earlier m := by
    obtain ⟨earlier, le, held⟩ := started c h m hm
    exact ⟨earlier, le.trans grown, held⟩
  refine ⟨past ▸ keeps t.past t.state _ moved now, fun c h m hm => ?_⟩
  obtain h | starts | ⟨c', h, starts⟩ := mem_starts_next h
  · exact before c h m hm
  · rw [starts] at hm
    exact ⟨t.past, grown, List.mem_singleton.mp hm ▸ now⟩
  · rw [starts] at hm
    rcases List.mem_append.mp hm with hm | hm
    · exact before c' h m hm
    · exact ⟨t.past, grown, List.mem_singleton.mp hm ▸ now⟩

/-- What every stretch keeps holds now, and it held whenever a course began or went on. -/
theorem run_preserves (Kept : σ → Prop) {s : σ} (every : ∀ act, (perform act).Moves step)
    (first : Kept s) (keeps : ∀ s t, step s t → Kept s → Kept t) (moves : List (Move A)) :
    Kept ((start s).run perform moves).state ∧
      ∀ c ∈ ((start s).run perform moves).courses, ∀ m ∈ c.starts, Kept m := by
  -- the stretches so far do not matter
  let Holds : List (Stretch σ) → σ → Prop := fun _ s => Kept s
  have begins : Holds [] s := first
  have goesOn : ∀ past s t, step s t → Holds past s → Holds (past ++ [⟨s, t⟩]) t := fun _ => keeps
  obtain ⟨last, starts⟩ := run_invariant every begins goesOn moves
  refine ⟨last, fun c h m hm => ?_⟩
  obtain ⟨_, -, held⟩ := starts c h m hm
  exact held

/-- Where every stretch leads, many of them do. -/
theorem run_leads (refl : ∀ s, step s s) (trans : ∀ s t u, step s t → step t u → step s u)
    (every : ∀ act, (perform act).Moves step) (genuine : Genuine perform t) (moves : List (Move A)) :
    step t.state (t.run perform moves).state := by
  refine (run_keeps (fun u => Genuine perform u ∧ step t.state u.state)
    (fun u move ⟨genuine, leads⟩ => ⟨genuine.next move, ?_⟩) moves ⟨genuine, refl t.state⟩).2
  obtain same | ⟨-, moved⟩ := genuine.stretch every move
  · rw [same]; exact leads
  · exact trans _ _ _ leads moved

/-- The states in which a course began or went on lead to each other in this order, and to the
present state. -/
theorem run_ordered (refl : ∀ s, step s s) (trans : ∀ s t u, step s t → step t u → step s u)
    (every : ∀ act, (perform act).Moves step) (s : σ) (moves : List (Move A)) :
    ∀ c ∈ ((start s).run perform moves).courses,
      c.starts.Pairwise step ∧ ∀ m ∈ c.starts, step m ((start s).run perform moves).state := by
  refine (run_keeps
    (fun t => Genuine perform t ∧
      ∀ c ∈ t.courses, c.starts.Pairwise step ∧ ∀ m ∈ c.starts, step m t.state)
    (fun t move ⟨genuine, ordered⟩ => ⟨genuine.next move, fun c h => ?_⟩) moves
    ⟨genuine_start s, fun _ h => absurd h not_mem_start⟩).2
  have leads : step t.state (t.next perform move).state := by
    obtain same | ⟨-, moved⟩ := genuine.stretch every move
    · rw [same]; exact refl _
    · exact moved
  have onward {c : Course σ A ρ} (h : c ∈ t.courses) (m : σ) (hm : m ∈ c.starts) :
      step m (t.next perform move).state := trans _ _ _ ((ordered c h).2 m hm) leads
  obtain h | starts | ⟨c', h, starts⟩ := mem_starts_next h
  · exact ⟨(ordered c h).1, onward h⟩
  · rw [starts]
    exact ⟨List.pairwise_singleton _ _, fun m hm => List.mem_singleton.mp hm ▸ leads⟩
  · rw [starts]
    constructor
    · refine List.pairwise_append.mpr ⟨(ordered c' h).1, List.pairwise_singleton _ _, ?_⟩
      intro m hm n hn
      exact List.mem_singleton.mp hn ▸ (ordered c' h).2 m hm
    · intro m hm
      rcases List.mem_append.mp hm with hm | hm
      · exact onward h m hm
      · exact List.mem_singleton.mp hm ▸ leads

end Traffic

end ClickGrant
