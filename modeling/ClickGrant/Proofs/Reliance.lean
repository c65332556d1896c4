import ClickGrant.Proofs.Traffic

/-!
# Operations that rely on each other

While an operation waits, others go on, and what it does afterwards may be right only because they
keep to some rules. A `Pact` says what an operation may do to the state without a break, what it may
expect of the others while it waits, and what it may ask in which state. `x.Honours pact pre post`
says that the operation `x`, begun where `pre` holds, keeps to the pact as long as the others do, and
that `post` holds where it ends; `x.Keeps pact` says so without any conditions. What is proved:
  1. `Op.keeps_bind`, `Call.honours_bind` and their like — an operation keeps to a pact if its parts
     do, each one from where the part before it ends.
  2. `Call.Keeps.under` — under a condition that the others keep, an operation may be judged by a pact
     that does not expect anything of them.
  3. `Traffic.honoured` — where every operation keeps to a pact, everybody does in all traffic: what
     each operation relies on is what all the others do.
-/
set_option autoImplicit false

namespace ClickGrant

/-- The rules that operations on a state keep to, and may expect of each other. -/
structure Pact (σ : Type) where
  /-- What an operation may do to the state without a break. -/
  moves : σ → σ → Prop
  /-- What it may expect of the state that an answer finds. -/
  relies : σ → σ → Prop
  /-- What it may ask. -/
  asks : σ → Request → Prop
  moves_refl (s : σ) : moves s s
  moves_trans {s t u : σ} (h₁ : moves s t) (h₂ : moves t u) : moves s u
  /-- All that anybody does is what the others expect. -/
  relied {s t : σ} (h : moves s t) : relies s t
  relies_trans {s t u : σ} (h₁ : relies s t) (h₂ : relies t u) : relies s u

variable {σ τ α β : Type} {pact : Pact σ}

namespace Dialogue

/-- The dialogue, which has gone on from `s` without a break, keeps to the pact as long as the others
do, and ends where `post` holds. -/
def Honours (pact : Pact σ) (post : α → σ → Prop) : σ → Dialogue σ α → Prop
  | s, done t a => pact.moves s t ∧ post a t
  | s, ask t q next => pact.moves s t ∧ pact.asks t q ∧
      ∀ found r, pact.relies t found → (next found r).Honours pact post found

variable {post : α → σ → Prop} {s t : σ}

theorem Honours.head : ∀ {d : Dialogue σ α}, d.Honours pact post s → pact.moves s d.state
  | done _ _, h => h.1
  | ask _ _ _, h => h.1

/-- After a first move. -/
theorem Honours.after (first : pact.moves s t) :
    ∀ {d : Dialogue σ α}, d.Honours pact post t → d.Honours pact post s
  | done _ _, h => ⟨pact.moves_trans first h.1, h.2⟩
  | ask _ _ _, h => ⟨pact.moves_trans first h.1, h.2⟩

theorem Honours.bind {f : α → Op σ β} {ends : β → σ → Prop}
    (rest : ∀ a t, post a t → (f a t).Honours pact ends t) :
    ∀ {d : Dialogue σ α} {s : σ}, d.Honours pact post s → (d.bind f).Honours pact ends s
  | done t a, _, h => (rest a t h.2).after h.1
  | ask _ _ _, _, h => ⟨h.1, h.2.1, fun found r expected => Honours.bind rest (h.2.2 found r expected)⟩

/-- A pact that is stricter wherever `I` holds, and expects less, is kept to all the more as long as
the others keep `I`. -/
theorem Honours.under {pact' : Pact σ} {I : σ → Prop} {ends : α → σ → Prop}
    (moves : ∀ s t, I s → pact.moves s t → pact'.moves s t)
    (relies : ∀ s t, pact'.relies s t → pact.relies s t) (asks : ∀ s q, pact.asks s q → pact'.asks s q)
    (stable : ∀ s t, pact'.relies s t → I s → I t) (weaker : ∀ a t, I t → post a t → ends a t) :
    ∀ {d : Dialogue σ α} {s : σ}, I s → d.Honours pact post s → d.Honours pact' ends s
  | done t a, s, here, h => by
    have moved := moves s t here h.1
    exact ⟨moved, weaker a t (stable s t (pact'.relied moved) here) h.2⟩
  | ask t q _, s, here, h => by
    have moved := moves s t here h.1
    refine ⟨moved, asks t q h.2.1, fun found r expected => ?_⟩
    exact under moves relies asks stable weaker
      (stable t found expected (stable s t (pact'.relied moved) here))
      (h.2.2 found r (relies t found expected))

/-- A dialogue over a part of the state, which does not expect anything of the others. -/
theorem Honours.within {pact' : Pact τ} {part : τ → σ} {put : τ → σ → τ}
    (free : ∀ s t, pact.relies s t) (moves : ∀ t s, pact.moves (part t) s → pact'.moves t (put t s))
    (asks : ∀ s t q, pact.asks s q → pact'.asks t q) :
    ∀ {d : Dialogue σ α} {t : τ}, d.Honours pact (fun _ _ => True) (part t) →
      (d.within part put t).Honours pact' (fun _ _ => True) t
  | done s _, t, h => ⟨moves t s h.1, trivial⟩
  | ask s q _, t, h => ⟨moves t s h.1, asks s _ q h.2.1, fun found r _ =>
      within free moves asks (h.2.2 (part found) r (free s (part found)))⟩

/-- What is asked under a pact that does not expect anything is asked whatever others do. -/
theorem Honours.asks {allowed : Request → Prop} (free : ∀ s t, pact.relies s t)
    (asks : ∀ s q, pact.asks s q → allowed q) :
    ∀ {d : Dialogue σ α} {s : σ}, d.Honours pact post s → d.Asks allowed
  | done _ _, _, _ => trivial
  | ask t q _, _, h => ⟨asks t q h.2.1, fun found r =>
      Honours.asks free asks (h.2.2 found r (free t found))⟩

end Dialogue

namespace Op

/-- Begun where `pre` holds, the operation keeps to the pact as long as the others do, and ends where
`post` holds. -/
def Honours (pact : Pact σ) (pre : σ → Prop) (x : Op σ α) (post : α → σ → Prop) : Prop :=
  ∀ s, pre s → (x s).Honours pact post s

theorem honours_bind {pre : σ → Prop} {post : α → σ → Prop} {ends : β → σ → Prop} {x : Op σ α}
    {f : α → Op σ β} (hx : x.Honours pact pre post) (hf : ∀ a, (f a).Honours pact (post a) ends) :
    (x >>= f).Honours pact pre ends := fun s here => Dialogue.Honours.bind hf (hx s here)

/-- Begun anywhere, the operation keeps to the pact as long as the others do. -/
def Keeps (pact : Pact σ) (x : Op σ α) : Prop := x.Honours pact (fun _ => True) fun _ _ => True

theorem keeps_pure (a : α) : Keeps pact (pure a : Op σ α) := fun s _ => ⟨pact.moves_refl s, trivial⟩

theorem keeps_modifyGet {f : σ → α × σ} (h : ∀ s, pact.moves s (f s).2) :
    Keeps pact (modifyGet f : Op σ α) := fun s _ => ⟨h s, trivial⟩

theorem keeps_modify {f : σ → σ} (h : ∀ s, pact.moves s (f s)) :
    Keeps pact (modify f : Op σ PUnit) := fun s _ => ⟨h s, trivial⟩

theorem keeps_ask {q : Request} (h : ∀ s, pact.asks s q) : Keeps pact (Op.ask q : Op σ q.Answer) :=
  fun s _ => ⟨pact.moves_refl s, h s, fun found _ _ => ⟨pact.moves_refl found, trivial⟩⟩

theorem keeps_get_bind {f : σ → Op σ β} (h : ∀ s, (f s).Keeps pact) : (get >>= f).Keeps pact :=
  fun s => h s s

theorem keeps_bind {x : Op σ α} {f : α → Op σ β} (hx : x.Keeps pact) (hf : ∀ a, (f a).Keeps pact) :
    (x >>= f).Keeps pact := honours_bind hx hf

theorem Keeps.within {pact' : Pact τ} {part : τ → σ} {put : τ → σ → τ} {x : Op σ α} (h : x.Keeps pact)
    (free : ∀ s t, pact.relies s t) (moves : ∀ t s, pact.moves (part t) s → pact'.moves t (put t s))
    (asks : ∀ s t q, pact.asks s q → pact'.asks t q) : (x.within part put).Keeps pact' :=
  fun t _ => (h (part t) trivial).within free moves asks

theorem Keeps.asks {x : Op σ α} {allowed : Request → Prop} (h : x.Keeps pact)
    (free : ∀ s t, pact.relies s t) (asks : ∀ s q, pact.asks s q → allowed q) : x.Asks allowed :=
  fun s => (h s trivial).asks free asks

theorem Keeps.under {pact' : Pact σ} {I : σ → Prop} {x : Op σ α} (h : x.Keeps pact)
    (moves : ∀ s t, I s → pact.moves s t → pact'.moves s t)
    (relies : ∀ s t, pact'.relies s t → pact.relies s t) (asks : ∀ s q, pact.asks s q → pact'.asks s q)
    (stable : ∀ s t, pact'.relies s t → I s → I t) : x.Honours pact' I fun _ => I :=
  fun s here => (h s trivial).under moves relies asks stable (fun _ _ there _ => there) here

end Op

namespace Call

/-- Begun where `pre` holds, the call keeps to the pact as long as the others do, and `post` holds
where it succeeds. -/
def Honours (pact : Pact σ) (pre : σ → Prop) (x : Call σ α) (post : α → σ → Prop) : Prop :=
  Op.Honours pact pre x.run fun result t => ∀ a, result = .ok a → post a t

/-- A refused first part ends the call. -/
theorem honours_bind {pre : σ → Prop} {post : α → σ → Prop} {ends : β → σ → Prop} {x : Call σ α}
    {f : α → Call σ β} (hx : Honours pact pre x post) (hf : ∀ a, Honours pact (post a) (f a) ends) :
    Honours pact pre (x >>= f) ends := by
  unfold Honours
  rw [ExceptT.run_bind]
  refine Op.honours_bind hx fun result => ?_
  cases result with
  | error e => exact fun s _ => ⟨pact.moves_refl s, fun _ same => nomatch same⟩
  | ok a => exact fun s here => hf a s (here a rfl)

/-- Begun anywhere, the call keeps to the pact as long as the others do. -/
abbrev Keeps (pact : Pact σ) (x : Call σ α) : Prop := Op.Keeps pact x.run

theorem keeps_pure (a : α) : Keeps pact (pure a : Call σ α) := Op.keeps_pure _

theorem keeps_throw (e : Refusal) : Keeps pact (throw e : Call σ α) := Op.keeps_pure _

theorem keeps_ofExcept {ε : Type} (refuse : ε → Refusal) (x : Except ε α) :
    Keeps pact (ofExcept refuse x : Call σ α) := by
  cases x with
  | ok a => exact keeps_pure a
  | error e => exact keeps_throw _

theorem keeps_modify {f : σ → σ} (h : ∀ s, pact.moves s (f s)) :
    Keeps pact (modify f : Call σ PUnit) := fun s _ => ⟨h s, trivial⟩

theorem keeps_modifyGet {f : σ → α × σ} (h : ∀ s, pact.moves s (f s).2) :
    Keeps pact (modifyGet f : Call σ α) := fun s _ => ⟨h s, trivial⟩

theorem keeps_get_bind {f : σ → Call σ β} (h : ∀ s, Keeps pact (f s)) : Keeps pact (get >>= f) :=
  fun s => h s s

theorem keeps_attempt {f : σ → Except Refusal (α × σ)}
    (h : ∀ s a t, f s = .ok (a, t) → pact.moves s t) : Keeps pact (attempt f) := by
  intro s _
  unfold attempt ExceptT.run ExceptT.mk
  dsimp only
  cases verdict : f s with
  | error e => exact ⟨pact.moves_refl s, trivial⟩
  | ok p => exact ⟨h s p.1 p.2 verdict, trivial⟩

theorem keeps_liftM {x : Op σ α} (h : x.Keeps pact) : Keeps pact (liftM x : Call σ α) := by
  show Op.Keeps pact (Except.ok <$> x)
  rw [map_eq_pure_bind]
  exact Op.keeps_bind h fun a => Op.keeps_pure _

theorem keeps_ask {q : Request} (h : ∀ s, pact.asks s q) :
    Keeps pact (Call.ask q : Call σ q.Answer) := keeps_liftM (Op.keeps_ask h)

theorem keeps_bind {x : Call σ α} {f : α → Call σ β} (hx : Keeps pact x)
    (hf : ∀ a, Keeps pact (f a)) : Keeps pact (x >>= f) := by
  unfold Keeps
  rw [ExceptT.run_bind]
  refine Op.keeps_bind hx fun result => ?_
  cases result with
  | error e => exact Op.keeps_pure _
  | ok a => exact hf a

theorem keeps_tryCatch {x : Call σ α} {f : Refusal → Call σ α} (hx : Keeps pact x)
    (hf : ∀ e, Keeps pact (f e)) : Keeps pact (tryCatch x f) := by
  unfold Keeps
  rw [ExceptT.run_tryCatch]
  refine Op.keeps_bind hx fun result => ?_
  cases result with
  | error e => exact hf e
  | ok a => exact Op.keeps_pure _

theorem Keeps.under {pact' : Pact σ} {I : σ → Prop} {x : Call σ α} (h : Keeps pact x)
    (moves : ∀ s t, I s → pact.moves s t → pact'.moves s t)
    (relies : ∀ s t, pact'.relies s t → pact.relies s t) (asks : ∀ s q, pact.asks s q → pact'.asks s q)
    (stable : ∀ s t, pact'.relies s t → I s → I t) : Honours pact' I x fun _ => I :=
  fun s here => (h s trivial).under moves relies asks stable (fun _ _ there _ _ _ => there) here

end Call

/-! ## Traffic -/

section Traffic

variable {A ρ : Type} {perform : A → Op σ ρ}

/-- What an operation under way has asked, the request it waits at included, with the states it has
asked in. -/
def Course.asked (c : Course σ A ρ) : List (σ × Request) :=
  c.visits.map (fun v => (v.asked, v.exchange.request)) ++
    match c.rest with
    | .done .. => []
    | .ask s q _ => [(s, q)]

/-- The operation has kept to the pact so far, and will. -/
structure Course.Loyal (pact : Pact σ) (now : σ) (c : Course σ A ρ) : Prop where
  asked : ∀ v ∈ c.visits, pact.asks v.asked v.exchange.request
  onward : ∃ s, c.rest.Honours pact (fun _ _ => True) s
  /-- What has happened since it began to wait is what it expects. -/
  expected : ∀ s q next, c.rest = .ask s q next → pact.relies s now

theorem Course.Loyal.later {now later : σ} {c : Course σ A ρ} (h : c.Loyal pact now)
    (moved : pact.moves now later) : c.Loyal pact later where
  asked := h.asked
  onward := h.onward
  expected s q next waits := pact.relies_trans (h.expected s q next waits) (pact.relied moved)

theorem Course.loyal_of_honours {now : σ} {c : Course σ A ρ}
    (asked : ∀ v ∈ c.visits, pact.asks v.asked v.exchange.request)
    (honours : c.rest.Honours pact (fun _ _ => True) now) : c.Loyal pact c.rest.state where
  asked := asked
  onward := ⟨now, honours⟩
  expected s q next waits := by
    rw [waits]
    exact pact.relied (pact.moves_refl s)

theorem Course.Loyal.asks {now : σ} {c : Course σ A ρ} (h : c.Loyal pact now) :
    ∀ x ∈ c.asked, pact.asks x.1 x.2 := by
  intro x hx
  rcases List.mem_append.mp hx with hx | hx
  · obtain ⟨v, hv, rfl⟩ := List.mem_map.mp hx
    exact h.asked v hv
  · obtain ⟨s, honours⟩ := h.onward
    revert hx honours
    cases c.rest with
    | done t a => exact fun hx => nomatch hx
    | ask t q next =>
      intro hx honours
      rw [List.mem_singleton.mp hx]
      exact honours.2.1

/-- Every stretch and every request keeps to the pact, and what such stretches keep holds before and
after each of them. -/
structure Traffic.Honoured (pact : Pact σ) (Good : σ → Prop) (t : Traffic σ A ρ) : Prop where
  moves : ∀ p ∈ t.past, pact.moves p.before p.after
  loyal : ∀ c ∈ t.courses, c.Loyal pact t.state
  always : ∀ p ∈ t.past, Good p.before ∧ Good p.after
  now : Good t.state

variable {Good : σ → Prop}

/-- One course has come to stand somewhere else, and none of the others has gone on. -/
theorem Traffic.Honoured.settle {t : Traffic σ A ρ} (h : t.Honoured pact Good)
    (keeps : ∀ s t, pact.moves s t → Good s → Good t) (c : Course σ A ρ)
    {courses : List (Course σ A ρ)} (among : ∀ c' ∈ courses, c' ∈ t.courses ∨ c' = c)
    (asked : ∀ v ∈ c.visits, pact.asks v.asked v.exchange.request)
    (honours : c.rest.Honours pact (fun _ _ => True) t.state) :
    (t.settle courses c.rest).Honoured pact Good := by
  have moved := honours.head
  have good : Good c.rest.state := keeps t.state c.rest.state moved h.now
  refine ⟨?_, fun c' hc' => ?_, ?_, good⟩
  · exact List.forall_mem_append.mpr ⟨h.moves, List.forall_mem_singleton.mpr moved⟩
  · rcases among c' hc' with old | rfl
    · exact (h.loyal c' old).later moved
    · exact Course.loyal_of_honours asked honours
  · exact List.forall_mem_append.mpr ⟨h.always, List.forall_mem_singleton.mpr ⟨h.now, good⟩⟩

/-- Where every operation keeps to a pact, so does all their traffic. -/
theorem Traffic.honoured (every : ∀ act, (perform act).Keeps pact)
    (keeps : ∀ s t, pact.moves s t → Good s → Good t) {s : σ} (first : Good s) (moves : List (Move A)) :
    ((start s).run perform moves).Honoured pact Good := by
  have begins : (start s : Traffic σ A ρ).Honoured pact Good :=
    ⟨List.forall_mem_nil _, fun _ h => absurd h not_mem_start, List.forall_mem_nil _, first⟩
  refine run_keeps (fun t => t.Honoured pact Good) (fun t move h => ?_) moves begins
  obtain same | ⟨act, begun⟩ | ⟨number, act, before, visits, asked, q, goOn, r, waiting, moved⟩ :=
    next_cases perform t move
  · rw [same]; exact h
  · rw [begun]
    refine h.settle keeps ⟨act, t.state, [], perform act t.state⟩ (fun c' hc' => ?_)
      (List.forall_mem_nil _) (every act t.state trivial)
    exact (List.mem_append.mp hc').imp_right List.mem_singleton.mp
  · rw [moved]
    have loyal := h.loyal _ waiting
    obtain ⟨s, honours⟩ := loyal.onward
    have expected : pact.relies asked t.state := loyal.expected asked q goOn rfl
    refine h.settle keeps ⟨act, before, visits ++ [⟨⟨q, r⟩, asked, t.state⟩], goOn t.state r⟩
      (fun c' hc' => List.mem_or_eq_of_mem_set hc') ?_ (honours.2.2 t.state r expected)
    exact List.forall_mem_append.mpr ⟨loyal.asked, List.forall_mem_singleton.mpr honours.2.1⟩

end Traffic

end ClickGrant
