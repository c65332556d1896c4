import ClickGrant.Proofs.Traffic

/-!
# Chronicles of traffic

A `Stage` is a stretch of the traffic together with the operation that went it, what that operation
had been told by then, and its reply if it ended there. The chronicle of some moves lists their
stages in order, so it says which operation brought the state about, and on what grounds. What is
proved:
  1. `Traffic.past_run` — the stretches of the traffic are those of its chronicle.
  2. `Dialogue.Meets.stage` — what is shown of a dialogue at each of its halts, from what it has been
     told, holds of every stage of the operation. The rules `Meets.bind`, `Op.Moves.meets_bind` and
     `Op.AsksFirst.meets` follow the way an operation is built.
  3. `Traffic.chronicle_invariant` — what holds of the start with no history, and after a stage if it
     held before, holds of the whole chronicle and the present state.
-/
set_option autoImplicit false

namespace ClickGrant

variable {σ α β : Type}

/-- What an operation has done on one stretch. -/
structure Stage (σ A ρ : Type) extends Stretch σ where
  act : A
  /-- What it had been told since it began. -/
  log : List Exchange
  /-- Its reply, if it has ended. -/
  reply : Option ρ

/-- The result of a dialogue that is finished. -/
def Dialogue.reply? : Dialogue σ α → Option α
  | done _ a => some a
  | ask _ _ _ => none

/-- The last stage of a course, which went on in the state `before`. -/
def Course.stage {A ρ : Type} (c : Course σ A ρ) (before : σ) : Stage σ A ρ where
  before := before
  after := c.rest.state
  act := c.act
  log := c.visits.map (·.exchange)
  reply := c.rest.reply?

/-- A stage of a course that has gone through the dialogue of its operation. -/
def Stage.Genuine {A ρ : Type} (perform : A → Op σ ρ) (st : Stage σ A ρ) : Prop :=
  ∃ c : Course σ A ρ, (perform c.act c.before).Passes c.visits c.rest ∧
    st = c.stage (lastFound c.before c.visits)

/-! ## What holds of every stage -/

namespace Dialogue

/-- Whenever the dialogue halts, having been told the log in all and having gone on last from the
state `s`, this holds: to begin with, `log` is what was said before and `s` where it begins. -/
def Meets (P : List Exchange → σ → σ → Option α → Prop) :
    List Exchange → σ → Dialogue σ α → Prop
  | log, s, done t a => P log s t (some a)
  | log, s, ask t q next => P log s t none ∧
      ∀ found r, (next found r).Meets P (log ++ [⟨q, r⟩]) found

variable {P P' : List Exchange → σ → σ → Option α → Prop} {log : List Exchange} {s : σ}

theorem Meets.head : ∀ {d : Dialogue σ α}, d.Meets P log s → P log s d.state d.reply?
  | done _ _, h => h
  | ask _ _ _, h => h.1

/-- What a dialogue has been told since it began comes to what was said before. -/
theorem Meets.stage {visits : List (Visit σ)} {d e : Dialogue σ α} (h : d.Meets P log s)
    (passes : d.Passes visits e) :
    P (log ++ visits.map (·.exchange)) (lastFound s visits) e.state e.reply? := by
  induction passes generalizing log s with
  | here d =>
    rw [List.map_nil, List.append_nil]
    exact h.head
  | on rest ih =>
    have after := ih (h.2 _ _)
    rw [List.append_assoc] at after
    exact after

theorem Meets.mono (weaker : ∀ log s t o, P log s t o → P' log s t o) :
    ∀ {d : Dialogue σ α} {log : List Exchange} {s : σ}, d.Meets P log s → d.Meets P' log s
  | done _ _, _, _, h => weaker _ _ _ _ h
  | ask _ _ _, _, _, h => ⟨weaker _ _ _ _ h.1, fun found r => mono weaker (h.2 found r)⟩

/-- What is to be shown of the first part of a sequence: where it halts, the claim itself, and where
it ends, that the second part goes on well. -/
def Before (P : List Exchange → σ → σ → Option β → Prop) (f : α → Op σ β) :
    List Exchange → σ → σ → Option α → Prop
  | log, s, t, none => P log s t none
  | log, s, t, some a => (f a t).Meets P log s

theorem Meets.bind {P : List Exchange → σ → σ → Option β → Prop} {f : α → Op σ β} :
    ∀ {d : Dialogue σ α} {log : List Exchange} {s : σ}, d.Meets (Before P f) log s →
      (d.bind f).Meets P log s
  | done _ _, _, _, h => h
  | ask _ _ _, _, _, h => ⟨h.1, fun found r => Meets.bind (h.2 found r)⟩

/-- A dialogue that moves the state as `step` allows does so on its first stretch, which may have
begun earlier, and on each one after it. -/
theorem Moves.meets {step : σ → σ → Prop} : ∀ {d : Dialogue σ α} {u : σ} {log : List Exchange} {s : σ},
    d.Moves step u → (∀ t o, step u t → P log s t o) →
      (∀ log' s' t o, log <+: log' → step s' t → P log' s' t o) → d.Meets P log s
  | done t _, _, _, _, h, first, _ => first t _ h
  | ask t q _, _, log, _, h, first, later => by
    refine ⟨first t _ h.1, fun found r => ?_⟩
    have told : log <+: log ++ [⟨q, r⟩] := List.prefix_append ..
    exact Moves.meets (h.2 found r) (fun u o moved => later _ found u o told moved)
      fun log' s' u o more => later log' s' u o (told.trans more)

end Dialogue

namespace Op

variable {P : List Exchange → σ → σ → Option α → Prop} {Q : List Exchange → σ → σ → Option β → Prop}
  {log : List Exchange} {s t : σ}

/-- A sequence halts where its first part does, and then where its second part does. -/
theorem meets_bind {x : Op σ α} {f : α → Op σ β} (h : (x t).Meets P log s)
    (halts : ∀ log s t, P log s t none → Q log s t none)
    (ends : ∀ a log s t, P log s t (some a) → (f a t).Meets Q log s) :
    ((x >>= f) t).Meets Q log s := by
  refine Dialogue.Meets.bind (h.mono fun log s t o shown => ?_)
  cases o with
  | none => exact halts log s t shown
  | some a => exact ends a log s t shown

/-- What leaves the state alone until it has its last answer ends as if undisturbed, in the state
that this answer finds. -/
theorem AsksFirst.meets {x : Op σ α} (h : x.AsksFirst Instant)
    (halts : ∀ log' s', log <+: log' → P log' s' s' none)
    (ends : ∀ exchanges s' a t, x.Does s' exchanges a t → P (log ++ exchanges) s' t (some a)) :
    (x s).Meets P log s := by
  induction h generalizing log s with
  | @last x instant =>
    obtain ⟨t, a, same⟩ := instant s
    have does : x.Does s [] a t := by
      unfold Does
      rw [same]
      exact .done t a
    have ended := ends [] s a t does
    rw [List.append_nil] at ended
    rw [same]
    exact ended
  | ask q next eq rest ih =>
    subst eq
    refine ⟨halts log s (List.prefix_refl _), fun found r => ih r ?_ ?_⟩
    · exact fun log' s' told => halts log' s' ((List.prefix_append log _).trans told)
    · intro exchanges s' a t does
      have ended := ends (⟨q, r⟩ :: exchanges) s' a t (.ask rfl does)
      rwa [List.append_cons] at ended

/-- If it moves the state as `step` allows where nobody disturbs it, it does so in any case. -/
theorem AsksFirst.moves {step : σ → σ → Prop} (refl : ∀ s, step s s) {x : Op σ α}
    (h : x.AsksFirst Instant) (ends : ∀ s exchanges a t, x.Does s exchanges a t → step s t) :
    x.Moves step := by
  induction h with
  | @last x instant =>
    intro s
    obtain ⟨t, a, same⟩ := instant s
    have does : x.Does s [] a t := by
      unfold Does
      rw [same]
      exact .done t a
    rw [same]
    exact ends s [] a t does
  | ask q next eq rest ih =>
    subst eq
    refine fun s => ⟨refl s, fun found r => ih r ?_ found⟩
    exact fun s' exchanges a t does => ends s' (⟨q, r⟩ :: exchanges) a t (.ask rfl does)

end Op

namespace Call

/-- What is to be shown of the first part of a call: where it halts or is refused, the claim itself,
and where it succeeds, that the second part goes on well. -/
def Before (P : List Exchange → σ → σ → Option (Except Refusal β) → Prop) (f : α → Call σ β) :
    List Exchange → σ → σ → Option (Except Refusal α) → Prop
  | log, s, t, none => P log s t none
  | log, s, t, some (.error e) => P log s t (some (.error e))
  | log, s, t, some (.ok a) => ((f a).run t).Meets P log s

variable {P : List Exchange → σ → σ → Option (Except Refusal β) → Prop} {log : List Exchange} {s t : σ}

theorem meets_bind {x : Call σ α} {f : α → Call σ β} (h : (x.run t).Meets (Before P f) log s) :
    ((x >>= f).run t).Meets P log s := by
  rw [ExceptT.run_bind]
  refine Op.meets_bind h (fun _ _ _ shown => shown) fun result log s t shown => ?_
  cases result with
  | error e => exact shown
  | ok a => exact shown

/-- A part that only looks at the state may end the call. -/
theorem meets_look_bind {x : Call σ α} {f : α → Call σ β} (looks : ∃ result, x.run t = .done t result)
    (refused : ∀ e, P log s t (some (.error e))) (passed : ∀ a, ((f a).run t).Meets P log s) :
    ((x >>= f).run t).Meets P log s := by
  apply meets_bind
  obtain ⟨result, looks⟩ := looks
  rw [looks]
  cases result with
  | error e => exact refused e
  | ok a => exact passed a

end Call

/-! ## The chronicle -/

namespace Traffic

variable {A ρ : Type} {perform : A → Op σ ρ} {t : Traffic σ A ρ}

/-- The course that a move begins, or has go on, as it then stands. -/
def moved? (perform : A → Op σ ρ) (t : Traffic σ A ρ) : Move A → Option (Course σ A ρ)
  | .begin act => some ⟨act, t.state, [], perform act t.state⟩
  | .answer number reply =>
    match t.courses[number]? with
    | some ⟨act, before, visits, .ask asked q next⟩ =>
      some ⟨act, before, visits ++ [⟨⟨q, reply q⟩, asked, t.state⟩], next t.state (reply q)⟩
    | _ => none

/-- The stages of some moves, in order. -/
def chronicle (perform : A → Op σ ρ) : Traffic σ A ρ → List (Move A) → List (Stage σ A ρ)
  | _, [] => []
  | t, move :: rest =>
    ((moved? perform t move).map (·.stage t.state)).toList ++ chronicle perform (t.next perform move) rest

theorem next_of_none {move : Move A} (h : moved? perform t move = none) : t.next perform move = t := by
  cases move with
  | begin act => cases h
  | answer number reply =>
    unfold moved? at h
    unfold next
    dsimp only at h ⊢
    cases found : t.courses[number]? with
    | none => rfl
    | some c =>
      obtain ⟨act, before, visits, rest⟩ := c
      cases rest with
      | done => rfl
      | ask =>
        rw [found] at h
        cases h

theorem next_of_some {move : Move A} {c : Course σ A ρ} (h : moved? perform t move = some c) :
    ∃ courses, t.next perform move = t.settle courses c.rest := by
  cases move with
  | begin act =>
    cases h
    exact ⟨_, rfl⟩
  | answer number reply =>
    unfold moved? at h
    unfold next
    dsimp only at h ⊢
    cases found : t.courses[number]? with
    | none =>
      rw [found] at h
      cases h
    | some c =>
      obtain ⟨act, before, visits, rest⟩ := c
      rw [found] at h
      cases rest with
      | done => cases h
      | ask =>
        cases h
        exact ⟨_, rfl⟩

theorem chronicle_of_none {move : Move A} (h : moved? perform t move = none) (rest : List (Move A)) :
    chronicle perform t (move :: rest) = chronicle perform (t.next perform move) rest := by
  rw [chronicle, h]
  rfl

theorem chronicle_of_some {move : Move A} {c : Course σ A ρ} (h : moved? perform t move = some c)
    (rest : List (Move A)) :
    chronicle perform t (move :: rest) =
      c.stage t.state :: chronicle perform (t.next perform move) rest := by
  rw [chronicle, h]
  rfl

/-- The stretches that moves add are those of their chronicle. -/
theorem past_run : ∀ (moves : List (Move A)) (t : Traffic σ A ρ),
    (t.run perform moves).past = t.past ++ (chronicle perform t moves).map (·.toStretch)
  | [], t => (List.append_nil _).symm
  | move :: rest, t => by
    refine (past_run rest (t.next perform move)).trans ?_
    cases moved : moved? perform t move with
    | none => rw [chronicle_of_none moved, next_of_none moved]
    | some c =>
      obtain ⟨courses, settled⟩ := next_of_some moved
      have past : (t.next perform move).past = t.past ++ [(c.stage t.state).toStretch] := by
        rw [settled]
        rfl
      rw [chronicle_of_some moved, past, List.map_cons, List.append_assoc, List.singleton_append]

theorem Genuine.moved? (genuine : Genuine perform t) {move : Move A} {c : Course σ A ρ}
    (h : moved? perform t move = some c) :
    (perform c.act c.before).Passes c.visits c.rest ∧ lastFound c.before c.visits = t.state := by
  cases move with
  | begin act =>
    cases h
    exact ⟨.here _, rfl⟩
  | answer number reply =>
    unfold Traffic.moved? at h
    dsimp only at h
    split at h
    next act before visits asked q goOn waiting =>
      cases h
      refine ⟨(genuine _ (List.mem_of_getElem? waiting)).snoc t.state (reply q), ?_⟩
      rw [lastFound_append]
      rfl
    · cases h

theorem chronicle_invariant {P : List (Stage σ A ρ) → σ → Prop} {s : σ} (first : P [] s)
    (keeps : ∀ past st, st.Genuine perform → P past st.before → P (past ++ [st]) st.after)
    (moves : List (Move A)) :
    P (chronicle perform (start s) moves) ((start s).run perform moves).state := by
  suffices all : ∀ (moves : List (Move A)) (t : Traffic σ A ρ) past, Genuine perform t →
      P past t.state → P (past ++ chronicle perform t moves) (t.run perform moves).state from
    all moves (start s) [] (genuine_start s) first
  intro moves
  induction moves with
  | nil =>
    intro t past _ held
    rw [chronicle, List.append_nil]
    exact held
  | cons move rest ih =>
    intro t past genuine held
    cases moved : moved? perform t move with
    | none =>
      rw [chronicle_of_none moved]
      have held : P past (t.next perform move).state := by rwa [next_of_none moved]
      exact ih (t.next perform move) past (genuine.next move) held
    | some c =>
      obtain ⟨passes, found⟩ := genuine.moved? moved
      obtain ⟨courses, settled⟩ := next_of_some moved
      have stage : P (past ++ [c.stage t.state]) (t.next perform move).state := by
        rw [settled]
        exact keeps past (c.stage t.state) ⟨c, passes, by rw [found]⟩ held
      rw [chronicle_of_some moved, List.append_cons]
      exact ih (t.next perform move) _ (genuine.next move) stage

/-- Every stage of a chronicle is one of an operation under way. -/
theorem genuine_chronicle (s : σ) (moves : List (Move A)) :
    ∀ st ∈ chronicle perform (start s) moves, st.Genuine perform := by
  refine chronicle_invariant (P := fun past _ => ∀ st ∈ past, st.Genuine perform)
    (List.forall_mem_nil _) (fun past st genuine held u hu => ?_) moves
  rcases List.mem_append.mp hu with hu | hu
  · exact held u hu
  · exact List.mem_singleton.mp hu ▸ genuine

end Traffic

/-- What is shown of every act at each halt holds of every stage. -/
theorem Stage.Genuine.meets {A ρ : Type} {perform : A → Op σ ρ} {st : Stage σ A ρ}
    {P : A → List Exchange → σ → σ → Option ρ → Prop} (genuine : st.Genuine perform)
    (every : ∀ act s, (perform act s).Meets (P act) [] s) :
    P st.act st.log st.before st.after st.reply := by
  obtain ⟨c, passes, rfl⟩ := genuine
  exact (every c.act c.before).stage passes

/-- On every stage the state moves as every act moves it. -/
theorem Stage.Genuine.moves {A ρ : Type} {perform : A → Op σ ρ} {st : Stage σ A ρ}
    {step : σ → σ → Prop} (genuine : st.Genuine perform) (every : ∀ act, (perform act).Moves step) :
    step st.before st.after :=
  genuine.meets (P := fun _ _ s t _ => step s t) fun act s =>
    (every act s).meets (fun _ _ moved => moved) fun _ _ _ _ _ moved => moved

end ClickGrant
