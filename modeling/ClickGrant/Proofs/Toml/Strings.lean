import ClickGrant.Toml.Printer
import ClickGrant.Toml.Strings

/-!
# A printed string reads back

Whichever form a string is printed in, the reader finds it again and stops behind its closing marks
(`string_quoted`), provided that no further mark follows these. Between quotation marks this rests on
the escapes, each of which is undone (`basicBody_escape`, `multilineBody_escape`), so no string is
excluded there. Between apostrophes nothing is escaped, and the conditions under which the printer
chooses such a form (`StringForm.of`) are what the reader needs.

Between three marks one or two of the same mark may stand anywhere, in front of the closing ones too:
the reader looks three marks ahead, which is why the proofs about these forms look at the next two
characters as well.
-/
set_option autoImplicit false

namespace ClickGrant.Toml

variable {c : Char} {cs rest : List Char}

/-! ## Characters -/

theorem isPlain_iff : isPlain c = true ↔ c = '\t' ∨ (' ' ≤ c ∧ c ≠ '\x7f') := by
  unfold isPlain
  simp

/-- Only a line feed needs no escape and is yet not plain. -/
theorem isPlain_of_not_needsEscape (clear : needsEscape c = false) (h : c ≠ '\n') : isPlain c = true := by
  unfold needsEscape at clear
  rw [isPlain_iff]
  by_cases tab : c = '\t'
  · exact .inl tab
  · right
    simpa [tab, h] using clear

/-- A character that is printed as `\u00` and two digits. -/
theorem hexChar_hexDigits {c : Char} (h : c < ' ' ∨ c = '\x7f') :
    hexChar ['0', '0', hexDigit (c.toNat / 16), hexDigit (c.toNat % 16)] = some c := by
  have table : ∀ n < 128, hexChar ['0', '0', hexDigit (n / 16), hexDigit (n % 16)] = some (Char.ofNat n) := by
    decide
  have small : c.toNat < 128 := by
    rcases h with below | rfl
    · have := Char.lt_def.mp below
      exact Nat.lt_trans (UInt32.lt_iff_toNat_lt.mp this) (by decide)
    · decide
  rw [table c.toNat small, Char.ofNat_toNat]

/-- The ways a character is printed: by the letter of a short escape, by its code, or as it is. -/
theorem escape_cases (multiline : Bool) (c : Char) :
    (∃ e, shortEscape e = some c ∧ escape multiline c = ['\\', e]) ∨
    ((c < ' ' ∨ c = '\x7f') ∧
      escape multiline c = ['\\', 'u', '0', '0', hexDigit (c.toNat / 16), hexDigit (c.toNat % 16)]) ∨
    (isPlain c = true ∧ c ≠ '\\' ∧ escape multiline c = [c]) ∨
    (multiline = true ∧ c = '\n' ∧ escape multiline c = ['\n']) := by
  unfold escape
  split
  next back => exact .inl ⟨'b', back ▸ rfl, rfl⟩
  split
  next tab => exact .inl ⟨'t', tab ▸ rfl, rfl⟩
  split
  next line =>
    cases multiline with
    | true => exact .inr (.inr (.inr ⟨rfl, line, rfl⟩))
    | false => exact .inl ⟨'n', line ▸ rfl, rfl⟩
  split
  next feed => exact .inl ⟨'f', feed ▸ rfl, rfl⟩
  split
  next ret => exact .inl ⟨'r', ret ▸ rfl, rfl⟩
  split
  next slash => exact .inl ⟨'\\', by rw [slash]; rfl, rfl⟩
  next slash =>
    split
    next control => exact .inr (.inl ⟨by simpa using control, rfl⟩)
    next visible => exact .inr (.inr (.inl ⟨isPlain_iff.mpr (.inr (by simpa using visible)), slash, rfl⟩))

/-! ## Between quotation marks -/

theorem basicBody_plain (plain : isPlain c = true) (mark : c ≠ '"') (slash : c ≠ '\\') (cs : List Char) :
    basicBody (c :: cs) = push c (basicBody cs) := by
  rw [basicBody.eq_def]
  split <;> simp_all

theorem basicBody_short {e x : Char} (short : shortEscape e = some x) (cs : List Char) :
    basicBody ('\\' :: e :: cs) = push x (basicBody cs) := by
  unfold shortEscape at short
  split at short <;> cases short <;> rfl

/-- What is printed for a character is read as that character. -/
theorem basicBody_escape (mark : c ≠ '"') (cs : List Char) :
    basicBody (escape false c ++ cs) = push c (basicBody cs) := by
  rcases escape_cases false c with ⟨e, short, eq⟩ | ⟨control, eq⟩ | ⟨plain, slash, eq⟩ | ⟨none, _⟩
  · rw [eq]
    exact basicBody_short short cs
  · have read : basicBody
        ('\\' :: 'u' :: '0' :: '0' :: hexDigit (c.toNat / 16) :: hexDigit (c.toNat % 16) :: cs) =
        (hexChar ['0', '0', hexDigit (c.toNat / 16), hexDigit (c.toNat % 16)]).bind
          fun x => push x (basicBody cs) := rfl
    rw [eq]
    rw [hexChar_hexDigits control] at read
    exact read
  · rw [eq]
    exact basicBody_plain plain mark slash cs
  · cases none

theorem basicBody_escapeAll (run : Nat) : ∀ cs : List Char,
    basicBody (escapeAll false 0 run cs ++ '"' :: rest) = some (cs, rest)
  | [] => rfl
  | c :: cs => by
    have ih := basicBody_escapeAll 0 cs
    unfold escapeAll
    split
    next mark =>
      subst mark
      show basicBody ('\\' :: '"' :: (escapeAll false 0 0 cs ++ '"' :: rest)) = _
      rw [basicBody_short rfl, ih]
      rfl
    next mark =>
      rw [List.append_assoc, basicBody_escape mark, ih]
      rfl

/-! ## Between three quotation marks -/

theorem multilineBody_plain (plain : isPlain c = true) (mark : c ≠ '"') (slash : c ≠ '\\') (cs : List Char) :
    multilineBody .within (c :: cs) = push c (multilineBody .within cs) := by
  rw [multilineBody.eq_def]
  split <;> simp_all [isPlain]

theorem multilineBody_short {e x : Char} (short : shortEscape e = some x) (cs : List Char) :
    multilineBody .within ('\\' :: e :: cs) = push x (multilineBody .within cs) := by
  unfold shortEscape at short
  split at short <;> cases short <;> rfl

/-- A single mark is content unless two more follow. -/
theorem multilineBody_mark (more : ∀ cs', cs ≠ '"' :: '"' :: cs') :
    multilineBody .within ('"' :: cs) = push '"' (multilineBody .within cs) := by
  rw [multilineBody.eq_def]
  split <;> rename_i whole <;> cases whole
  · exact absurd rfl (more _)
  · exact absurd rfl (more _)
  · exact absurd rfl (more _)
  · rfl

theorem multilineBody_escape (mark : c ≠ '"') (cs : List Char) :
    multilineBody .within (escape true c ++ cs) = push c (multilineBody .within cs) := by
  rcases escape_cases true c with ⟨e, short, eq⟩ | ⟨control, eq⟩ | ⟨plain, slash, eq⟩ | ⟨-, line, eq⟩
  · rw [eq]
    exact multilineBody_short short cs
  · have read : multilineBody .within
          ('\\' :: 'u' :: '0' :: '0' :: hexDigit (c.toNat / 16) :: hexDigit (c.toNat % 16) :: cs) =
        (hexChar ['0', '0', hexDigit (c.toNat / 16), hexDigit (c.toNat % 16)]).bind
          fun x => push x (multilineBody .within cs) := rfl
    rw [hexChar_hexDigits control] at read
    rw [eq]
    exact read
  · rw [eq]
    exact multilineBody_plain plain mark slash cs
  · rw [eq, line]
    rfl

/-- What is printed for a character other than the mark does not start with a mark. -/
theorem escape_cons (multiline : Bool) (mark : c ≠ '"') :
    ∃ d ds, escape multiline c = d :: ds ∧ d ≠ '"' := by
  rcases escape_cases multiline c with ⟨e, -, eq⟩ | ⟨-, eq⟩ | ⟨-, -, eq⟩ | ⟨-, -, eq⟩
  · exact ⟨'\\', _, eq, by decide⟩
  · exact ⟨'\\', _, eq, by decide⟩
  · exact ⟨c, _, eq, mark⟩
  · exact ⟨'\n', _, eq, by decide⟩

/-- Once as many marks stand in a row as may, the next one is escaped. -/
theorem escapeAll_most_cons (multiline : Bool) (most : Nat) (c : Char) (cs : List Char) :
    ∃ d ds, escapeAll multiline most most (c :: cs) = d :: ds ∧ d ≠ '"' := by
  unfold escapeAll
  split
  next => exact ⟨'\\', _, by rw [if_neg (Nat.lt_irrefl most)], by decide⟩
  next mark =>
    obtain ⟨d, ds, eq, head⟩ := escape_cons multiline mark
    exact ⟨d, _, by rw [eq]; rfl, head⟩

/-- So behind a mark two more stand only where the content ends there, or with one more mark. -/
theorem escapeAll_ne_marks (multiline : Bool) {run : Nat} (small : run < 2)
    (more : ¬(run = 0 ∧ c :: cs = ['"'])) (cs' : List Char) :
    escapeAll multiline 2 (run + 1) (c :: cs) ++ rest ≠ '"' :: '"' :: cs' := by
  intro same
  match run, small with
  | 1, _ =>
    obtain ⟨d, ds, eq, head⟩ := escapeAll_most_cons multiline 2 c cs
    rw [eq] at same
    exact head (List.cons.inj same).1
  | 0, _ =>
    unfold escapeAll at same
    split at same
    next mark =>
      subst mark
      obtain _ | ⟨d, ds⟩ := cs
      · exact more ⟨rfl, rfl⟩
      · obtain ⟨e, es, eq, head⟩ := escapeAll_most_cons multiline 2 d ds
        rw [if_pos (by decide), eq] at same
        exact head (List.cons.inj (List.cons.inj same).2).1
    next mark =>
      obtain ⟨d, ds, eq, head⟩ := escape_cons multiline mark
      rw [eq] at same
      exact head (List.cons.inj same).1

/-- The closing marks, after up to two of the same mark that belong to the content. -/
theorem multilineBody_closing (next : rest.head? ≠ some '"') :
    multilineBody .within ('"' :: '"' :: '"' :: rest) = some ([], rest) ∧
    multilineBody .within ('"' :: '"' :: '"' :: '"' :: rest) = some (['"'], rest) ∧
    multilineBody .within ('"' :: '"' :: '"' :: '"' :: '"' :: rest) = some (['"', '"'], rest) := by
  refine ⟨?_, ?_, rfl⟩ <;> rw [multilineBody.eq_def] <;> split <;> rename_i whole <;> cases whole
  · exact absurd rfl next
  · exact absurd rfl next
  · rfl
  next three _ _ _ => exact (three _ rfl rfl).elim
  · exact absurd rfl next
  · rfl
  next four => exact absurd rfl (four _)
  next three _ _ _ => exact (three _ rfl rfl).elim

theorem multilineBody_escapeAll (next : rest.head? ≠ some '"') : ∀ (run : Nat) (cs : List Char),
    multilineBody .within (escapeAll true 2 run cs ++ '"' :: '"' :: '"' :: rest) = some (cs, rest)
  | _, [] => (multilineBody_closing next).1
  | run, c :: cs => by
    have escaped := multilineBody_escapeAll next 0 cs
    unfold escapeAll
    split
    next mark =>
      subst mark
      split
      next few =>
        have ih := multilineBody_escapeAll next (run + 1) cs
        -- the marks of the content may run into the closing ones
        obtain _ | ⟨d, ds⟩ := cs
        · exact (multilineBody_closing next).2.1
        · by_cases last : run = 0 ∧ d :: ds = ['"']
          · obtain ⟨rfl, same⟩ := last
            rw [same]
            exact (multilineBody_closing next).2.2
          · rw [List.cons_append, multilineBody_mark (escapeAll_ne_marks true few last), ih]
            rfl
      next =>
        show multilineBody .within ('\\' :: '"' :: (escapeAll true 2 0 cs ++ '"' :: '"' :: '"' :: rest)) = _
        rw [multilineBody_short rfl, escaped]
        rfl
    next mark =>
      rw [List.append_assoc, multilineBody_escape mark, escaped]
      rfl

/-! ## Between apostrophes -/

theorem literalBody_plain (plain : isPlain c = true) (mark : c ≠ '\'') (cs : List Char) :
    literalBody (c :: cs) = push c (literalBody cs) := by
  rw [literalBody.eq_def]
  split <;> simp_all

theorem literalBody_append : ∀ cs : List Char, (∀ c ∈ cs, isPlain c = true ∧ c ≠ '\'') →
    literalBody (cs ++ '\'' :: rest) = some (cs, rest)
  | [], _ => rfl
  | c :: cs, h => by
    obtain ⟨plain, mark⟩ := h c List.mem_cons_self
    rw [List.cons_append, literalBody_plain plain mark,
      literalBody_append cs fun d member => h d (List.mem_cons_of_mem c member)]
    rfl

theorem multilineLiteralBody_plain (plain : isPlain c = true) (mark : c ≠ '\'') (cs : List Char) :
    multilineLiteralBody (c :: cs) = push c (multilineLiteralBody cs) := by
  rw [multilineLiteralBody.eq_def]
  split <;> rename_i whole <;> cases whole
  · exact absurd plain (by decide)
  · exact absurd plain (by decide)
  · exact absurd rfl mark
  · exact absurd rfl mark
  · exact absurd rfl mark
  · exact if_pos plain

theorem multilineLiteralBody_mark (more : ∀ cs', cs ≠ '\'' :: '\'' :: cs') :
    multilineLiteralBody ('\'' :: cs) = push '\'' (multilineLiteralBody cs) := by
  rw [multilineLiteralBody.eq_def]
  split <;> rename_i whole <;> cases whole
  · exact absurd rfl (more _)
  · exact absurd rfl (more _)
  · exact absurd rfl (more _)
  · rfl

theorem multilineLiteralBody_closing (next : rest.head? ≠ some '\'') :
    multilineLiteralBody ('\'' :: '\'' :: '\'' :: rest) = some ([], rest) ∧
    multilineLiteralBody ('\'' :: '\'' :: '\'' :: '\'' :: rest) = some (['\''], rest) ∧
    multilineLiteralBody ('\'' :: '\'' :: '\'' :: '\'' :: '\'' :: rest) = some (['\'', '\''], rest) := by
  refine ⟨?_, ?_, rfl⟩ <;> rw [multilineLiteralBody.eq_def] <;> split <;> rename_i whole <;> cases whole
  · exact absurd rfl next
  · exact absurd rfl next
  · rfl
  next three => exact (three _ rfl rfl).elim
  · exact absurd rfl next
  · rfl
  next four => exact (four _ rfl).elim
  next three => exact (three _ rfl rfl).elim

theorem le_longestRun (q : Char) (run : Nat) (cs : List Char) : run < longestRun q run (q :: cs) := by
  unfold longestRun
  rw [if_pos rfl]
  exact Nat.lt_of_lt_of_le (Nat.lt_succ_self run) (Nat.le_max_left _ _)

theorem longestRun_tail (q : Char) (run : Nat) (cs : List Char) :
    longestRun q (run + 1) cs ≤ longestRun q run (q :: cs) := by
  conv => rhs; unfold longestRun
  rw [if_pos rfl]
  exact Nat.le_max_right _ _

/-- Three marks in a row are a run of at least three. -/
theorem longestRun_three (q : Char) (run : Nat) (cs : List Char) :
    3 ≤ longestRun q run (q :: q :: q :: cs) := by
  have third : run + 2 < longestRun q (run + 1 + 1) (q :: cs) := le_longestRun q (run + 2) cs
  have second := longestRun_tail q (run + 1) (q :: cs)
  have first := longestRun_tail q run (q :: q :: cs)
  omega

theorem longestRun_of_ne {q : Char} (mark : c ≠ q) (run : Nat) :
    longestRun q run (c :: cs) = longestRun q 0 cs := by
  conv => lhs; unfold longestRun
  rw [if_neg mark]

/-- So behind a mark two more stand only where the content ends there, or with one more mark. -/
theorem ne_marks_of_longestRun {q : Char} {run : Nat} (few : longestRun q run (q :: c :: cs) ≤ 2)
    (more : c :: cs ≠ [q]) (cs' : List Char) : c :: cs ++ rest ≠ q :: q :: cs' := by
  intro same
  obtain ⟨rfl, same⟩ := List.cons.inj same
  obtain _ | ⟨d, ds⟩ := cs
  · exact more rfl
  · obtain ⟨rfl, -⟩ := List.cons.inj same
    exact absurd (Nat.le_trans (longestRun_three d run ds) few) (by decide)

/-- Where the longest run is none, the mark does not occur. -/
theorem not_mem_of_longestRun {q : Char} : ∀ cs : List Char, longestRun q 0 cs = 0 → q ∉ cs
  | [], _ => List.not_mem_nil
  | c :: cs, h => by
    by_cases mark : c = q
    · subst mark
      exact absurd (le_longestRun c 0 cs) (by rw [h]; exact Nat.lt_irrefl 0)
    · rw [longestRun_of_ne mark] at h
      rw [List.mem_cons]
      exact not_or.mpr ⟨fun same => mark same.symm, not_mem_of_longestRun cs h⟩

theorem multilineLiteralBody_append (next : rest.head? ≠ some '\'') : ∀ (run : Nat) (cs : List Char),
    (∀ c ∈ cs, needsEscape c = false) → longestRun '\'' run cs ≤ 2 →
    multilineLiteralBody (cs ++ '\'' :: '\'' :: '\'' :: rest) = some (cs, rest)
  | _, [], _, _ => (multilineLiteralBody_closing next).1
  | run, c :: cs, clear, few => by
    have later : ∀ d ∈ cs, needsEscape d = false := fun d member => clear d (List.mem_cons_of_mem c member)
    by_cases mark : c = '\''
    · subst mark
      have ih := multilineLiteralBody_append next (run + 1) cs later
        (Nat.le_trans (longestRun_tail '\'' run cs) few)
      -- the marks of the content may run into the closing ones, but are at most two in a row
      obtain _ | ⟨d, ds⟩ := cs
      · exact (multilineLiteralBody_closing next).2.1
      · by_cases last : d :: ds = ['\'']
        · rw [last]
          exact (multilineLiteralBody_closing next).2.2
        · rw [List.cons_append, multilineLiteralBody_mark (ne_marks_of_longestRun few last), ih]
          rfl
    · have ih := multilineLiteralBody_append next 0 cs later (longestRun_of_ne mark run ▸ few)
      by_cases line : c = '\n'
      · subst line
        show push '\n' (multilineLiteralBody (cs ++ '\'' :: '\'' :: '\'' :: rest)) = _
        rw [ih]
        rfl
      · have plain := isPlain_of_not_needsEscape (clear c List.mem_cons_self) line
        rw [List.cons_append, multilineLiteralBody_plain plain mark, ih]
        rfl

/-! ## Every form -/

theorem skipNewline_cons (line : c ≠ '\n') (ret : c ≠ '\r') (cs : List Char) :
    skipNewline (c :: cs) = c :: cs := by
  rw [skipNewline.eq_def]
  split <;> simp_all

/-- Text with several lines starts on a line of its own, which does not count. -/
def lead (cs : List Char) : List Char := if cs.contains '\n' then ['\n'] else []

/-- Other text must not start with a line end then. -/
theorem skipNewline_lead {ds : List Char}
    (start : '\n' ∉ cs → ∃ d ds', ds = d :: ds' ∧ d ≠ '\n' ∧ d ≠ '\r') :
    skipNewline (lead cs ++ ds) = ds := by
  unfold lead
  split
  next => rfl
  next none =>
    obtain ⟨d, ds', rfl, line, ret⟩ := start fun line => none (List.contains_iff_mem.mpr line)
    exact skipNewline_cons line ret ds'

theorem escapeAll_start (most : Nat) (single : '\n' ∉ cs) (more : List Char) :
    ∃ d ds, escapeAll true most 0 cs ++ '"' :: more = d :: ds ∧ d ≠ '\n' ∧ d ≠ '\r' := by
  obtain _ | ⟨c, cs⟩ := cs
  · exact ⟨'"', _, rfl, by decide, by decide⟩
  · unfold escapeAll
    split
    next =>
      split
      · exact ⟨'"', _, rfl, by decide, by decide⟩
      · exact ⟨'\\', _, rfl, by decide, by decide⟩
    next =>
      rcases escape_cases true c with ⟨e, -, eq⟩ | ⟨-, eq⟩ | ⟨plain, -, eq⟩ | ⟨-, line, -⟩
      · exact ⟨'\\', _, by rw [eq]; rfl, by decide, by decide⟩
      · exact ⟨'\\', _, by rw [eq]; rfl, by decide, by decide⟩
      · refine ⟨c, _, by rw [eq]; rfl, ?_, ?_⟩ <;> rintro rfl <;> exact absurd plain (by decide)
      · exact absurd (line ▸ List.mem_cons_self) single

theorem literal_start (clear : ∀ c ∈ cs, needsEscape c = false) (single : '\n' ∉ cs) (more : List Char) :
    ∃ d ds, cs ++ '\'' :: more = d :: ds ∧ d ≠ '\n' ∧ d ≠ '\r' := by
  obtain _ | ⟨c, cs⟩ := cs
  · exact ⟨'\'', _, rfl, by decide, by decide⟩
  · refine ⟨c, _, rfl, fun line => single (line ▸ List.mem_cons_self), fun ret => ?_⟩
    exact absurd (ret ▸ clear c List.mem_cons_self) (by decide)

/-- What the printer makes sure of before it puts a string between apostrophes. -/
theorem StringForm.of_literal (form : StringForm.of cs = .literal) :
    ∀ c ∈ cs, isPlain c = true ∧ c ≠ '\'' := by
  have checked : cs.any needsEscape = false ∧ longestRun '\'' 0 cs = 0 ∧ cs.contains '\n' = false := by
    unfold StringForm.of at form
    dsimp only at form
    split at form
    · cases form
    split at form
    next checks => simpa [and_assoc] using checks
    split at form
    · cases form
    split at form
    · cases form
    split at form <;> cases form
  obtain ⟨controls, apostrophes, newline⟩ := checked
  intro c member
  have clear : needsEscape c = false := by simpa using List.any_eq_false.mp controls c member
  refine ⟨isPlain_of_not_needsEscape clear ?_, ?_⟩
  · rintro rfl
    exact absurd (List.contains_iff_mem.mpr member) (by rw [newline]; decide)
  · rintro rfl
    exact not_mem_of_longestRun cs apostrophes member

theorem StringForm.of_multilineLiteral (form : StringForm.of cs = .multilineLiteral) :
    (∀ c ∈ cs, needsEscape c = false) ∧ longestRun '\'' 0 cs ≤ 2 := by
  have checked : cs.any needsEscape = false ∧ longestRun '\'' 0 cs ≤ 2 := by
    unfold StringForm.of at form
    dsimp only at form
    split at form
    · cases form
    split at form
    · cases form
    split at form
    · cases form
    split at form
    next checks => simpa using checks
    split at form <;> cases form
  exact ⟨fun c member => by simpa using List.any_eq_false.mp checked.1 c member, checked.2⟩

theorem string_quotation (more : ∀ cs', cs ≠ '"' :: '"' :: cs') : string ('"' :: cs) = basicBody cs := by
  rw [string.eq_def]
  split
  next whole => cases whole; exact absurd rfl (more _)
  next whole => cases whole
  · rfl

theorem string_apostrophe (more : ∀ cs', cs ≠ '\'' :: '\'' :: cs') :
    string ('\'' :: cs) = literalBody cs := by
  rw [string.eq_def]
  split
  next whole => cases whole
  next whole => cases whole; exact absurd rfl (more _)
  · rfl

/-- No mark follows that a string could take for its own. -/
def Ends (rest : List Char) : Prop := rest.head? ≠ some '"' ∧ rest.head? ≠ some '\''

/-- A printed string is read as the string, in whichever form it is printed. -/
theorem string_quoted (s : String) (ends : Ends rest) :
    string (quoted s ++ rest) = some (s.toList, rest) := by
  unfold quoted
  dsimp only
  generalize s.toList = cs
  cases form : StringForm.of cs with
  | basic =>
    show string ('"' :: (escapeAll false 0 0 cs ++ ['"'] ++ rest)) = _
    rw [List.append_assoc, string_quotation, List.singleton_append, basicBody_escapeAll]
    obtain _ | ⟨c, cs⟩ := cs
    · intro cs' same
      have follows : rest = '"' :: cs' := (List.cons.inj same).2
      exact ends.1 (by rw [follows]; rfl)
    · obtain ⟨d, ds, eq, head⟩ := escapeAll_most_cons false 0 c cs
      rw [eq]
      exact fun _ same => head (List.cons.inj same).1
  | literal =>
    have clear := StringForm.of_literal form
    show string ('\'' :: (cs ++ ['\''] ++ rest)) = _
    rw [List.append_assoc, string_apostrophe, List.singleton_append, literalBody_append cs clear]
    obtain _ | ⟨c, cs⟩ := cs
    · intro cs' same
      have follows : rest = '\'' :: cs' := (List.cons.inj same).2
      exact ends.2 (by rw [follows]; rfl)
    · exact fun _ same => (clear c List.mem_cons_self).2 (List.cons.inj same).1
  | multilineBasic =>
    show multilineBody .within (skipNewline (lead cs ++ escapeAll true 2 0 cs ++ ['"', '"', '"'] ++ rest)) = _
    rw [List.append_assoc, List.append_assoc, skipNewline_lead]
    · exact multilineBody_escapeAll ends.1 0 cs
    · exact fun single => escapeAll_start 2 single _
  | multilineLiteral =>
    obtain ⟨clear, few⟩ := StringForm.of_multilineLiteral form
    show multilineLiteralBody (skipNewline (lead cs ++ cs ++ ['\'', '\'', '\''] ++ rest)) = _
    rw [List.append_assoc, List.append_assoc, skipNewline_lead]
    · exact multilineLiteralBody_append ends.2 0 cs clear few
    · exact fun single => literal_start clear single _

/-- It starts with a mark. -/
theorem quoted_cons (s : String) : ∃ c cs, quoted s = c :: cs ∧ (c = '"' ∨ c = '\'') := by
  unfold quoted
  dsimp only
  split
  · exact ⟨_, _, rfl, .inl rfl⟩
  · exact ⟨_, _, rfl, .inr rfl⟩
  · exact ⟨_, _, rfl, .inl rfl⟩
  · exact ⟨_, _, rfl, .inr rfl⟩

end ClickGrant.Toml
