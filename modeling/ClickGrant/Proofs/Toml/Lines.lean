import ClickGrant.Proofs.Toml.Scalars
import ClickGrant.Proofs.Toml.Strings

/-!
# A printed document reads back line by line

`Written` says of the text of a value, and `Line` of the text of a statement, that the reader finds it
and stops at the end of the line. The printer's values have the first property (`written_quoted`,
`written_stringArray` and the like), its headers and assignments the second. `Spells` puts lines
together to a text, blank lines between them, and `read_spells` reads the whole: what is left is the
building of tables from the statements.
-/
set_option autoImplicit false

namespace ClickGrant.Toml

variable {c : Char} {cs rest : List Char} {levels : Nat} {name : String} {d : Datum} {s : Statement}

/-! ## Values -/

/-- The text of a value: at the end of a line it is read as that value. -/
structure Written (levels : Nat) (cs : List Char) (d : Datum) : Prop where
  start : ∃ c tail, cs = c :: tail ∧ isBlank c = false
  reads : ∀ rest, value levels (cs ++ '\n' :: rest) = some (d, '\n' :: rest)

theorem stops_newline (rest : List Char) : Stops ('\n' :: rest) := by
  rintro c h
  cases h
  decide

theorem value_quoted (levels : Nat) (s : String) (ends : Ends rest) :
    value levels (quoted s ++ rest) = some (.text s, rest) := by
  have read := string_quoted s ends
  have text : (string (quoted s ++ rest)).map (fun p => (Datum.text (String.ofList p.1), p.2)) =
      some (.text s, rest) := by
    rw [read, Option.map_some]
    dsimp only
    rw [String.ofList_toList]
  obtain ⟨c, cs, eq, mark⟩ := quoted_cons s
  rw [eq] at text ⊢
  rcases mark with rfl | rfl
  · rw [value.eq_def]
    exact text
  · rw [value.eq_def]
    exact text

theorem start_of_word (letters : ∀ c ∈ cs, isWord c = true) (some_word : cs ≠ []) :
    ∃ c tail, cs = c :: tail ∧ isBlank c = false := by
  obtain _ | ⟨c, tail⟩ := cs
  · exact absurd rfl some_word
  · refine ⟨c, tail, rfl, ?_⟩
    have letter := letters c List.mem_cons_self
    unfold isBlank
    rw [Bool.or_eq_false_iff, decide_eq_false_iff_not, decide_eq_false_iff_not]
    constructor <;> rintro rfl <;> exact absurd letter (by decide)

theorem written_quoted (levels : Nat) (s : String) : Written levels (quoted s) (.text s) where
  start := by
    obtain ⟨c, cs, eq, rfl | rfl⟩ := quoted_cons s
    · exact ⟨_, cs, eq, by decide⟩
    · exact ⟨_, cs, eq, by decide⟩
  reads := fun rest => value_quoted levels s ⟨by simp, by simp⟩

theorem written_bool (levels : Nat) (b : Bool) : Written levels (bool b) (.flag b) where
  start := by cases b <;> exact ⟨_, _, rfl, by decide⟩
  reads := fun rest => value_bool levels b (stops_newline rest)

theorem written_natural (levels : Nat) {n : Nat} (small : n < Nat.pow 2 63) :
    Written levels (natural n) (.int n) where
  start := start_of_word (fun _ member => isWord_of_isDigit (Decimal.isDigit_of_mem_digitsOf member))
    (Decimal.digitsOf_ne_nil n)
  reads := fun rest => value_natural levels small (stops_newline rest)

theorem written_float (levels : Nat) {x : Float} (reads : float? (float x) = some x) :
    Written levels (float x) (.real x) where
  start := start_of_word (float_word x).1 (float_word x).2.2.2
  reads := fun rest => value_float levels reads (stops_newline rest)

/-! An array of strings. -/

/-- A mark is no filler. -/
theorem skipFiller_quoted (s : String) (rest : List Char) :
    skipFiller false (quoted s ++ rest) = quoted s ++ rest := by
  obtain ⟨c, cs, eq, rfl | rfl⟩ := quoted_cons s <;> rw [eq] <;> rfl

/-- An item that is a string, and what the reader does behind it. -/
theorem arrayItems_quoted {fuel : Nat} (item : String) (here : skipFiller false cs = quoted item ++ rest)
    (ends : Ends rest) :
    arrayItems (value levels) (fuel + 1) cs =
      match skipFiller false rest with
      | ',' :: rest => do
        let (ds, rest) ← arrayItems (value levels) fuel rest
        return (.text item :: ds, rest)
      | ']' :: rest => some ([.text item], rest)
      | _ => none := by
  have read := value_quoted levels item ends
  obtain ⟨c, tail, eq, mark⟩ := quoted_cons item
  rw [eq, List.cons_append] at here read
  rw [arrayItems.eq_def]
  dsimp only
  rw [here]
  split
  next whole =>
    rw [(List.cons.inj whole).1] at mark
    exact absurd mark (by decide)
  next =>
    rw [read]
    rfl

/-- An item a line. -/
def itemLines (ss : List String) : List Char :=
  ss.flatMap fun s => "    ".toList ++ quoted s ++ [',', '\n']

theorem arrayItems_lines (levels : Nat) (rest : List Char) :
    ∀ (fuel : Nat) (ss : List String), ss.length < fuel →
    arrayItems (value levels) fuel ('\n' :: (itemLines ss ++ ']' :: rest)) = some (ss.map .text, rest)
  | fuel + 1, [], _ => rfl
  | fuel + 1, s :: ss, enough => by
    have ih := arrayItems_lines levels rest fuel ss (Nat.lt_of_succ_lt_succ enough)
    have here : skipFiller false ('\n' :: (itemLines (s :: ss) ++ ']' :: rest)) =
        quoted s ++ ',' :: '\n' :: (itemLines ss ++ ']' :: rest) := by
      rw [← skipFiller_quoted s]
      simp only [itemLines, List.flatMap_cons, List.append_assoc]
      rfl
    rw [arrayItems_quoted s here ⟨by simp, by simp⟩]
    show (arrayItems (value levels) fuel _ >>= fun p => some (.text s :: p.1, p.2)) = _
    rw [ih]
    rfl

theorem length_itemLines (ss : List String) : ss.length ≤ (itemLines ss).length := by
  induction ss with
  | nil => exact Nat.le_refl 0
  | cons s ss ih =>
    rw [itemLines, List.flatMap_cons, List.length_append, List.length_cons, Nat.add_comm]
    exact Nat.add_le_add (by simp) ih

theorem written_stringArray (levels : Nat) (ss : List String) :
    Written (levels + 1) (stringArray ss) (.list (ss.map .text)) where
  start := by
    unfold stringArray
    split <;> exact ⟨_, _, rfl, by decide⟩
  reads := by
    intro rest
    have reads (items : List Char)
        (read : arrayItems (value levels) ((items ++ '\n' :: rest).length + 1) (items ++ '\n' :: rest) =
          some (ss.map .text, '\n' :: rest)) :
        value (levels + 1) ('[' :: (items ++ '\n' :: rest)) = some (.list (ss.map .text), '\n' :: rest) := by
      have array : value (levels + 1) ('[' :: (items ++ '\n' :: rest)) =
          (arrayItems (value levels) ((items ++ '\n' :: rest).length + 1) (items ++ '\n' :: rest)).map
            fun p => (.list p.1, p.2) := rfl
      rw [array, read]
      rfl
    match ss with
    | [] => exact reads [']'] rfl
    | [s] =>
      show value (levels + 1) ('[' :: (quoted s ++ [']'] ++ '\n' :: rest)) = _
      refine reads _ ?_
      rw [List.append_assoc, arrayItems_quoted s (skipFiller_quoted s _) ⟨by simp, by simp⟩]
      rfl
    | s :: s' :: ss =>
      refine reads ('\n' :: (itemLines (s :: s' :: ss) ++ [']'])) ?_
      rw [List.cons_append, List.append_assoc]
      refine arrayItems_lines levels ('\n' :: rest) _ (s :: s' :: ss) ?_
      refine Nat.lt_succ_of_le (Nat.le_trans (length_itemLines (s :: s' :: ss)) ?_)
      rw [List.length_cons, List.length_append]
      omega

/-! ## Keys -/

/-- A name that is written as a key without quotes. -/
def Bare (name : String) : Prop := name.toList ≠ [] ∧ name.toList.all isBare = true

instance (name : String) : Decidable (Bare name) := inferInstanceAs (Decidable (_ ∧ _))

/-- It is no mark, no bracket and no filler. -/
theorem ne_of_isBare {d : Char} (bare : isBare c = true) (other : isBare d = false) : c ≠ d := by
  rintro rfl
  rw [bare] at other
  cases other

theorem skipBlanks_bare (bare : isBare c = true) (cs : List Char) : skipBlanks (c :: cs) = c :: cs := by
  have visible : isBlank c = false := by
    unfold isBlank
    rw [Bool.or_eq_false_iff, decide_eq_false_iff_not, decide_eq_false_iff_not]
    exact ⟨ne_of_isBare bare (by decide), ne_of_isBare bare (by decide)⟩
  rw [skipBlanks, List.dropWhile_cons, if_neg (by rw [visible]; decide)]

/-- A key of one part, with what follows it. -/
theorem key_bare (parts : Nat) (bare : Bare name) (stop : ∀ c, rest.head? = some c → isBare c = false)
    (undotted : ∀ cs, skipBlanks rest ≠ '.' :: cs) :
    key (parts + 1) (name.toList ++ rest) = some ([name], skipBlanks rest) := by
  obtain ⟨some_letter, all⟩ := bare
  have letters := List.all_eq_true.mp all
  have part : keyPart (name.toList ++ rest) = some (name, rest) := by
    have run := span_append letters stop
    have word : keyPart (name.toList ++ rest) =
        if ((name.toList ++ rest).span isBare).1.isEmpty then none else
          some (String.ofList ((name.toList ++ rest).span isBare).1,
            ((name.toList ++ rest).span isBare).2) := by
      obtain ⟨c, cs, eq⟩ := List.exists_cons_of_ne_nil some_letter
      have first := letters c (by rw [eq]; exact List.mem_cons_self)
      rw [eq, List.cons_append, keyPart.eq_def]
      split
      next whole => exact absurd (List.cons.inj whole).1 (ne_of_isBare first (by decide))
      next whole => exact absurd (List.cons.inj whole).1 (ne_of_isBare first (by decide))
      · rfl
    rw [word, run]
    dsimp only
    rw [if_neg (by rw [List.isEmpty_iff]; exact some_letter), String.ofList_toList]
  have unskipped : skipBlanks (name.toList ++ rest) = name.toList ++ rest := by
    obtain ⟨c, cs, eq⟩ := List.exists_cons_of_ne_nil some_letter
    rw [eq]
    exact skipBlanks_bare (letters c (by rw [eq]; exact List.mem_cons_self)) (cs ++ rest)
  rw [key, unskipped, part, Option.bind_eq_bind, Option.bind_some]
  dsimp only
  split
  next whole => exact absurd whole (undotted _)
  · rfl

/-! ## Lines -/

/-- The text of a statement, read up to the end of the line. -/
structure Line (cs : List Char) (s : Statement) : Prop where
  start : ∃ c tail, cs = c :: tail ∧ (c = '[' ∨ isBare c = true)
  reads : ∀ rest, statement (cs ++ '\n' :: rest) = some (s, '\n' :: rest)

theorem Bare.start (bare : Bare name) : ∃ c tail, name.toList = c :: tail ∧ isBare c = true := by
  obtain ⟨c, tail, eq⟩ := List.exists_cons_of_ne_nil bare.1
  exact ⟨c, tail, eq, List.all_eq_true.mp bare.2 c (by rw [eq]; exact List.mem_cons_self)⟩

/-- The closing brackets end the key of a header. -/
theorem headerPath_bare (bare : Bare name) (more rest : List Char) :
    headerPath (']' :: more) (name.toList ++ ']' :: (more ++ rest)) = some ([name], rest) := by
  have closed : (']' :: more).isPrefixOf (']' :: (more ++ rest)) = true :=
    List.isPrefixOf_iff_prefix.mpr ⟨rest, rfl⟩
  have after : (']' :: (more ++ rest)).drop (']' :: more).length = rest := List.drop_left
  have unskipped : skipBlanks (']' :: (more ++ rest)) = ']' :: (more ++ rest) := rfl
  unfold headerPath depthLimit
  rw [key_bare _ bare, unskipped, Option.bind_eq_bind, Option.bind_some]
  · dsimp only
    rw [if_pos closed, after]
  · rintro c h
    cases h
    decide
  · rw [unskipped]
    nofun

theorem line_header (bare : Bare name) : Line ('[' :: name.toList ++ [']']) (.header [name]) where
  start := ⟨_, _, rfl, .inl rfl⟩
  reads := by
    intro rest
    have path := headerPath_bare bare [] ('\n' :: rest)
    have single : statement ('[' :: (name.toList ++ ']' :: '\n' :: rest)) =
        headerPath [']'] (name.toList ++ ']' :: '\n' :: rest) >>= fun p => some (.header p.1, p.2) := by
      obtain ⟨c, tail, eq, first⟩ := bare.start
      rw [eq, List.cons_append, statement.eq_def]
      split
      next whole => exact absurd (List.cons.inj (List.cons.inj whole).2).1 (ne_of_isBare first (by decide))
      next whole => cases whole; rfl
      next other => exact absurd rfl (other _)
    rw [List.append_assoc, List.cons_append]
    exact single.trans (congrArg (· >>= _) path)

theorem line_arrayHeader (bare : Bare name) :
    Line ('[' :: '[' :: name.toList ++ [']', ']']) (.arrayHeader [name]) where
  start := ⟨_, _, rfl, .inl rfl⟩
  reads := by
    intro rest
    have path := headerPath_bare bare [']'] ('\n' :: rest)
    rw [List.append_assoc, List.cons_append, List.cons_append]
    exact congrArg (· >>= _) path

theorem line_assignment (bare : Bare name) (written : Written depthLimit cs d) :
    Line (name.toList ++ " = ".toList ++ cs) (.assign [name] d) where
  start := by
    obtain ⟨c, tail, eq, first⟩ := bare.start
    exact ⟨c, _, by rw [eq]; rfl, .inr first⟩
  reads := by
    intro rest
    have path : key depthLimit (name.toList ++ ' ' :: '=' :: ' ' :: (cs ++ '\n' :: rest)) =
        some ([name], '=' :: ' ' :: (cs ++ '\n' :: rest)) := by
      unfold depthLimit
      rw [key_bare _ bare]
      · rfl
      · rintro c h
        cases h
        decide
      · nofun
    have unskipped : skipBlanks (' ' :: (cs ++ '\n' :: rest)) = cs ++ '\n' :: rest := by
      obtain ⟨c, tail, eq, visible⟩ := written.start
      show (cs ++ '\n' :: rest).dropWhile isBlank = _
      rw [eq, List.cons_append, List.dropWhile_cons, visible, if_neg Bool.false_ne_true]
    have assigned : statement (name.toList ++ ' ' :: '=' :: ' ' :: (cs ++ '\n' :: rest)) =
        keyValue (value depthLimit) (name.toList ++ ' ' :: '=' :: ' ' :: (cs ++ '\n' :: rest)) >>=
          fun p => some (.assign p.1.1 p.1.2, p.2) := by
      obtain ⟨c, tail, eq, first⟩ := bare.start
      rw [eq, List.cons_append, statement.eq_def]
      split
      next whole => exact absurd (List.cons.inj whole).1 (ne_of_isBare first (by decide))
      next whole => exact absurd (List.cons.inj whole).1 (ne_of_isBare first (by decide))
      · rfl
    have pair : keyValue (value depthLimit) (name.toList ++ ' ' :: '=' :: ' ' :: (cs ++ '\n' :: rest)) =
        some (([name], d), '\n' :: rest) := by
      rw [keyValue, path, Option.bind_eq_bind, Option.bind_some]
      show (value depthLimit (skipBlanks (' ' :: (cs ++ '\n' :: rest))) >>=
        fun p => some (([name], p.1), p.2)) = _
      rw [unskipped, written.reads rest]
      rfl
    rw [List.append_assoc, List.append_assoc]
    exact assigned.trans (by rw [pair]; rfl)

/-- A text of such lines, with blank ones anywhere between, and the statements it makes. -/
inductive Spells : List Char → List Statement → Prop where
  | nil : Spells [] []
  | blank {cs : List Char} {ss : List Statement} (later : Spells cs ss) : Spells ('\n' :: cs) ss
  | line {written cs : List Char} {s : Statement} {ss : List Statement} (line : Line written s)
      (later : Spells cs ss) : Spells (written ++ '\n' :: cs) (s :: ss)

theorem Spells.append {cs ds : List Char} {ss ts : List Statement} (first : Spells cs ss)
    (later : Spells ds ts) :
    Spells (cs ++ ds) (ss ++ ts) := by
  induction first with
  | nil => exact later
  | blank _ ih => exact .blank ih
  | line line _ ih =>
    rw [List.append_assoc]
    exact .line line ih

theorem Spells.flatMap {α : Type} {text : α → List Char} {made : α → List Statement} : ∀ xs : List α,
    (∀ x ∈ xs, Spells (text x) (made x)) → Spells (xs.flatMap text) (xs.flatMap made)
  | [], _ => .nil
  | x :: xs, all => (all x List.mem_cons_self).append
      (Spells.flatMap xs fun y member => all y (List.mem_cons_of_mem x member))

theorem Spells.length {cs : List Char} {ss : List Statement} (spells : Spells cs ss) :
    ss.length ≤ cs.length := by
  induction spells with
  | nil => exact Nat.le_refl 0
  | blank _ ih => exact Nat.le_succ_of_le ih
  | line _ _ ih =>
    rw [List.length_append, List.length_cons, List.length_cons]
    omega

theorem Line.skipFiller {written : List Char} (line : Line written s) (cs : List Char) :
    skipFiller false (written ++ '\n' :: cs) = written ++ '\n' :: cs := by
  obtain ⟨c, tail, eq, first⟩ := line.start
  have other {d : Char} (bracket : d ≠ '[') (bare : isBare d = false) : c ≠ d := by
    rcases first with rfl | first
    · exact bracket.symm
    · exact ne_of_isBare first bare
  have visible : isBlank c = false := by
    unfold isBlank
    rw [Bool.or_eq_false_iff, decide_eq_false_iff_not, decide_eq_false_iff_not]
    exact ⟨other (by decide) (by decide), other (by decide) (by decide)⟩
  rw [eq, List.cons_append, skipFiller.eq_def]
  split
  next whole => cases whole
  next whole => exact absurd (List.cons.inj whole).1 (other (by decide) (by decide))
  next whole => exact absurd (List.cons.inj whole).1 (other (by decide) (by decide))
  next whole =>
    obtain ⟨rfl, rfl⟩ := List.cons.inj whole
    rw [if_neg Bool.false_ne_true, visible, if_neg Bool.false_ne_true, if_neg (other (by decide) (by decide))]

/-- The statements are found, one a line. -/
theorem statements_spells {cs : List Char} {ss : List Statement} (spells : Spells cs ss) :
    ∀ fuel, ss.length < fuel →
    statements fuel cs = some ss := by
  induction spells with
  | nil =>
    rintro (_ | fuel) enough
    · cases enough
    · rfl
  | blank _ ih =>
    rintro (_ | fuel) enough
    · cases enough
    · exact ih (fuel + 1) enough
  | @line written cs s ss line _ ih =>
    rintro (_ | fuel) enough
    · cases enough
    · have later := ih fuel (Nat.lt_of_succ_lt_succ enough)
      have read := line.reads cs
      have here := line.skipFiller cs
      obtain ⟨c, tail, eq, -⟩ := line.start
      rw [eq, List.cons_append] at here read ⊢
      rw [statements.eq_def]
      dsimp only
      rw [here]
      split
      next whole => cases whole
      next =>
        rw [read, Option.bind_eq_bind, Option.bind_some]
        show (statements fuel cs).bind _ = _
        rw [later]
        rfl

theorem read_spells {cs : List Char} {ss : List Statement} (spells : Spells cs ss) :
    read (String.ofList cs) = build ss := by
  have unmarked : skipMark cs = cs := by
    cases spells with
    | nil => rfl
    | blank => rfl
    | line line later =>
      obtain ⟨c, tail, eq, first⟩ := line.start
      rw [eq, List.cons_append, skipMark.eq_def]
      split
      next whole =>
        obtain ⟨rfl, -⟩ := List.cons.inj whole
        exact absurd first (by decide)
      · rfl
  unfold read
  dsimp only
  rw [String.toList_ofList, unmarked, statements_spells spells _ (Nat.lt_succ_of_le spells.length)]
  rfl

end ClickGrant.Toml
