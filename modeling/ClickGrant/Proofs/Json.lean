import Mathlib.Data.List.Basic
import ClickGrant.Json.Printer
import ClickGrant.Json.Reader
import ClickGrant.Proofs.Digits

/-!
# Reading back what was written as JSON

A record of whole numbers below 2^64 whose keys need no escapes reads back as it was written, with the
digits of its keys as they are spelled (`value_numbers`), and so does a record with such a record as
its only member (`readSpelled_print`). The reader works on bytes, of which a character below 128 is
one; it looks one byte past a number to see where the number ends.
-/
set_option autoImplicit false

namespace ClickGrant.Json

/-! ## Characters and bytes -/

/-- Characters of one byte each. -/
def Ascii (cs : List Char) : Prop := ∀ c ∈ cs, c.toNat < 128

theorem toNat_code {c : Char} (h : c.toNat < 128) : (code c).toNat = c.toNat := by
  show c.toNat % 256 = c.toNat
  omega

theorem code_inj {c d : Char} (hc : c.toNat < 128) (hd : d.toNat < 128) : code c = code d ↔ c = d := by
  constructor
  · intro same
    have values := congrArg UInt8.toNat same
    rw [toNat_code hc, toNat_code hd] at values
    exact Char.toNat_inj.mp values
  · exact congrArg code

theorem utf8EncodeChar_of_ascii {c : Char} (h : c.toNat < 128) : String.utf8EncodeChar c = [code c] := by
  have size : c.utf8Size = 1 := Char.utf8Size_eq_one_iff.mpr (UInt32.le_iff_toNat_le.mpr (by
    show c.toNat ≤ 127
    omega))
  rw [String.utf8EncodeChar_eq_singleton size]
  rfl

theorem utf8Encode_of_ascii {cs : List Char} (h : Ascii cs) :
    cs.utf8Encode = (cs.map code).toByteArray := by
  have each : cs.flatMap String.utf8EncodeChar = cs.map code := by
    rw [List.flatMap_congr fun c hc => utf8EncodeChar_of_ascii (h c hc)]
    exact List.flatMap_pure_eq_map ..
  rw [List.utf8Encode, each]

theorem toList_loop (bs : ByteArray) : ∀ (left i : Nat) (read : List UInt8), bs.size - i = left →
    ByteArray.toList.loop bs i read = read.reverse ++ bs.data.toList.drop i
  | 0, i, read, h => by
    have done : bs.data.toList.length ≤ i := Nat.le_of_sub_eq_zero h
    have stop : ¬i < bs.size := Nat.not_lt.mpr done
    rw [ByteArray.toList.loop.eq_1, if_neg stop, List.drop_eq_nil_of_le done,
      List.append_nil]
  | left + 1, i, read, h => by
    have go : i < bs.size := Nat.lt_of_sub_eq_succ h
    have more : i < bs.data.toList.length := go
    have next : bs.get! i = bs.data.toList[i] := getElem!_pos bs.data i more
    rw [ByteArray.toList.loop.eq_1, if_pos go, toList_loop bs left (i + 1) _ (by omega),
      List.drop_eq_getElem_cons more, List.reverse_cons, List.append_assoc, next]
    rfl

theorem toList_toByteArray (l : List UInt8) : l.toByteArray.toList = l := by
  rw [ByteArray.toList, toList_loop _ _ 0 [] rfl, List.data_toByteArray]
  rfl

theorem toUTF8_of_ascii {cs : List Char} (h : Ascii cs) :
    (String.ofList cs).toUTF8.toList = cs.map code := by
  rw [String.toUTF8, String.toByteArray_ofList, utf8Encode_of_ascii h, toList_toByteArray]

theorem fromUTF8_of_ascii {cs : List Char} (h : Ascii cs) :
    String.fromUTF8? ⟨(cs.map code).toArray⟩ = some (String.ofList cs) := by
  have bytes : (⟨(cs.map code).toArray⟩ : ByteArray) = (String.ofList cs).toByteArray := by
    rw [String.toByteArray_ofList, utf8Encode_of_ascii h]
    exact ByteArray.ext List.data_toByteArray.symm
  have valid : ByteArray.IsValidUTF8 ⟨(cs.map code).toArray⟩ := by
    rw [bytes]
    exact (String.ofList cs).isValidUTF8
  rw [String.fromUTF8?, dif_pos valid]
  exact congrArg some (String.toByteArray_inj.mp bytes)

/-! ## Strings -/

/-- The character stands for itself in a string. -/
def Plain (c : Char) : Prop := 32 ≤ c.toNat ∧ c.toNat < 128 ∧ c ≠ '"' ∧ c ≠ '\\'

theorem plain_of_isDigit {c : Char} (h : Decimal.isDigit c = true) : Plain c := by
  obtain ⟨low, high⟩ := Decimal.toNat_of_isDigit h
  refine ⟨by omega, by omega, ?_, ?_⟩
  · rintro rfl; revert h; decide
  · rintro rfl; revert h; decide

theorem escape_of_plain {c : Char} (h : Plain c) : escape c = [c] := by
  obtain ⟨low, -, quote, backslash⟩ := h
  have other (d : Char) (below : d.toNat < 32) : c ≠ d := by
    rintro rfl
    omega
  have shown : ¬c < ' ' := by
    rw [Char.lt_def, UInt32.lt_iff_toNat_lt]
    exact Nat.not_lt.mpr low
  unfold escape
  rw [if_neg quote, if_neg backslash, if_neg (other _ (by decide)), if_neg (other _ (by decide)),
    if_neg (other _ (by decide)), if_neg (other _ (by decide)), if_neg (other _ (by decide)),
    if_neg shown]

theorem quoted_of_plain {s : String} (h : ∀ c ∈ s.toList, Plain c) :
    quoted s = '"' :: s.toList ++ ['"'] := by
  have each : s.toList.flatMap escape = s.toList := by
    rw [List.flatMap_congr fun c hc => escape_of_plain (h c hc), List.flatMap_singleton']
  rw [quoted, each]

/-- The pieces of plain characters, up to the closing quote. -/
theorem stringPieces_of_plain (rest : List UInt8) : ∀ (cs : List Char) (read : List Piece),
    (∀ c ∈ cs, Plain c) → stringPieces read (cs.map code ++ code '"' :: rest) =
      some (read.reverse ++ cs.map (fun c => .byte (code c)), rest)
  | [], read, _ => by
    rw [List.map_nil, List.nil_append, stringPieces.eq_def]
    dsimp only
    rw [if_pos (beq_self_eq_true _), List.map_nil, List.append_nil]
  | c :: cs, read, h => by
    obtain ⟨low, high, quote, backslash⟩ := h c (List.mem_cons_self ..)
    have ih := stringPieces_of_plain rest cs (.byte (code c) :: read) fun d hd => h d (.tail _ hd)
    have other (d : Char) (below : d.toNat < 128) (ne : c ≠ d) : ¬(code c == code d) = true := by
      rw [beq_iff_eq, code_inj high below]
      exact ne
    have shown : ¬code c < 32 := by
      rw [UInt8.lt_iff_toNat_lt, toNat_code high]
      exact Nat.not_lt.mpr low
    rw [List.map_cons, List.cons_append, stringPieces.eq_def]
    dsimp only
    rw [if_neg (other _ (by decide) quote), if_neg (other _ (by decide) backslash), if_neg shown, ih,
      List.reverse_cons, List.append_assoc]
    rfl

theorem assemble_bytes : ∀ bs : List UInt8, assemble (bs.map .byte) = some bs
  | [] => rfl
  | b :: bs => by rw [List.map_cons, assemble, assemble_bytes bs]; rfl

/-- Characters that are written as they are are spelled as they read. -/
theorem spellingOf_of_plain {cs : List Char} (h : ∀ c ∈ cs, Plain c) :
    spellingOf (cs.map fun c => .byte (code c)) = some (String.ofList cs) := by
  have pieces : (cs.map fun c => Piece.byte (code c)) = (cs.map code).map .byte := by
    rw [List.map_map]
    rfl
  have spelled : spellingOf ((cs.map code).map .byte) = textOf ((cs.map code).map .byte) := by
    refine congrArg textOf ?_
    rw [List.flatMap_map]
    exact List.flatMap_pure_eq_map ..
  rw [pieces, spelled, textOf, assemble_bytes, Option.bind_some]
  exact fromUTF8_of_ascii fun c hc => (h c hc).2.1

/-! ## Numbers -/

theorem isDigit_code {c : Char} (h : Decimal.isDigit c = true) : isDigit (code c) = true := by
  obtain ⟨low, high⟩ := Decimal.toNat_of_isDigit h
  rw [isDigit, Bool.and_eq_true, decide_eq_true_eq, decide_eq_true_eq, UInt8.le_iff_toNat_le,
    UInt8.le_iff_toNat_le, toNat_code (by omega)]
  exact ⟨low, high⟩

/-- A comma or the end of a record follows. -/
def Ends (rest : List UInt8) : Prop := ∃ tail, rest = code ',' :: tail ∨ rest = code '}' :: tail

theorem digits_append {ds : List Char} (all : ∀ c ∈ ds, Decimal.isDigit c = true) {rest : List UInt8}
    (ends : Ends rest) : digits (ds.map code ++ rest) = (ds.map code, rest) := by
  have every : ∀ b ∈ ds.map code, isDigit b = true := by
    intro b hb
    obtain ⟨c, hc, rfl⟩ := List.mem_map.mp hb
    exact isDigit_code (all c hc)
  refine span_append every fun b first => ?_
  obtain ⟨tail, rfl | rfl⟩ := ends <;> cases first <;> rfl

theorem chars_code {cs : List Char} (h : Ascii cs) : chars (cs.map code) = cs := by
  rw [chars, List.map_map]
  refine (List.map_congr_left fun c hc => ?_).trans (List.map_id cs)
  show Char.ofNat (code c).toNat = c
  rw [toNat_code (h c hc), Char.ofNat_toNat]

theorem ascii_digitsOf (n : Nat) : Ascii (Decimal.digitsOf n) := by
  intro c hc
  have range := Decimal.toNat_of_isDigit (Decimal.isDigit_of_mem_digitsOf hc)
  omega

theorem fractionPart_ends {rest : List UInt8} (ends : Ends rest) : fractionPart rest = some (none, rest) := by
  obtain ⟨tail, rfl | rfl⟩ := ends <;> rfl

theorem exponentPart_ends {rest : List UInt8} (ends : Ends rest) : exponentPart rest = some (none, rest) := by
  obtain ⟨tail, rfl | rfl⟩ := ends <;> rfl

/-- A byte of a digit is none of these. -/
theorem code_ne_of_isDigit {c d : Char} (h : Decimal.isDigit c = true) (ascii : d.toNat < 128)
    (other : Decimal.isDigit d = false) : ¬(code c == code d) = true := by
  have range := Decimal.toNat_of_isDigit h
  rw [beq_iff_eq, code_inj (by omega) ascii]
  rintro rfl
  rw [h] at other
  cases other

/-- A whole number that fits 64 bits reads back. -/
theorem number_digitsOf {n : Nat} (small : n < UInt64.size) {rest : List UInt8} (ends : Ends rest) :
    number ((Decimal.digitsOf n).map code ++ rest) = some (.int n, rest) := by
  obtain ⟨c, cs, eq, first⟩ := Decimal.digitsOf_cases n
  have digit : ∀ d ∈ Decimal.digitsOf n, Decimal.isDigit d = true :=
    fun d => Decimal.isDigit_of_mem_digitsOf
  have front : Decimal.isDigit c = true := digit c (eq ▸ List.mem_cons_self ..)
  have value : Decimal.ofDigits (chars ((Decimal.digitsOf n).map code)) = n := by
    rw [chars_code (ascii_digitsOf n), Decimal.ofDigits_digitsOf]
  have all := digits_append digit ends
  rw [eq, List.map_cons, List.cons_append] at all ⊢
  rw [eq] at value
  unfold number
  dsimp only
  rw [if_neg (code_ne_of_isDigit front (by decide) (by decide))]
  dsimp only
  -- a number that begins with a zero is zero
  split
  next zero =>
    have range := Decimal.toNat_of_isDigit front
    obtain ⟨rfl, rfl⟩ := first ((code_inj (by omega) (by decide)).mp (beq_iff_eq.mp zero))
    simp only [Option.bind_eq_bind, Option.bind_some, List.map_nil, List.nil_append,
      fractionPart_ends ends, exponentPart_ends ends]
    simp only [List.map_cons, List.map_nil] at value
    simp [numberOf, value]
  next =>
    rw [if_pos (isDigit_code front), all]
    simp only [Option.bind_eq_bind, Option.bind_some, fractionPart_ends ends, exponentPart_ends ends]
    simp only [List.map_cons] at value
    simp [numberOf, value, small]

/-! ## Records of numbers -/

theorem skipBlanks_cons {b : UInt8} (h : isBlank b = false) (rest : List UInt8) :
    skipBlanks (b :: rest) = b :: rest := by
  rw [skipBlanks, List.dropWhile_cons_of_neg (by simp [h])]

theorem isBlank_of_isDigit {b : UInt8} (h : isDigit b = true) : isBlank b = false := by
  rw [isDigit, Bool.and_eq_true, decide_eq_true_eq, decide_eq_true_eq, UInt8.le_iff_toNat_le,
    UInt8.le_iff_toNat_le] at h
  have range : 48 ≤ b.toNat ∧ b.toNat ≤ 57 := h
  have other (c : UInt8) (below : c.toNat < 48) : (b == c) = false := by
    rw [beq_eq_false_iff_ne]
    rintro rfl
    omega
  simp [isBlank, other]

theorem value_digitsOf (keyOf : List Piece → Option String) {n : Nat} (small : n < UInt64.size)
    {rest : List UInt8} (ends : Ends rest) (fuel : Nat) :
    value keyOf (fuel + 1) ((Decimal.digitsOf n).map code ++ rest) = some (.int n, rest) := by
  have reads := number_digitsOf small ends
  obtain ⟨c, cs, eq, -⟩ := Decimal.digitsOf_cases n
  have front : Decimal.isDigit c = true :=
    Decimal.isDigit_of_mem_digitsOf (n := n) (eq ▸ List.mem_cons_self ..)
  rw [eq, List.map_cons, List.cons_append] at reads ⊢
  rw [value, skipBlanks_cons (isBlank_of_isDigit (isDigit_code front))]
  dsimp only
  rw [if_neg (code_ne_of_isDigit front (by decide) (by decide)),
    if_neg (code_ne_of_isDigit front (by decide) (by decide)),
    if_neg (code_ne_of_isDigit front (by decide) (by decide)),
    if_neg (code_ne_of_isDigit front (by decide) (by decide)),
    if_neg (code_ne_of_isDigit front (by decide) (by decide)),
    if_neg (code_ne_of_isDigit front (by decide) (by decide)), reads]

/-- The text of a key and its colon. -/
theorem member_text {k : String} (plain : ∀ c ∈ k.toList, Plain c) (d : Datum) (rest : List Char) :
    (quoted k ++ ':' :: render d ++ rest).map code =
      code '"' :: (k.toList.map code ++ code '"' :: code ':' :: ((render d).map code ++ rest.map code)) := by
  rw [quoted_of_plain plain]
  simp

/-- A member is read up to what follows its value, and then the next one, if a comma follows. -/
theorem members_cons {k : String} (plain : ∀ c ∈ k.toList, Plain c) {d : Datum} {text rest : List UInt8}
    {fuel : Nat} (reads : value spellingOf fuel (text ++ rest) = some (d, rest)) (ends : Ends rest) :
    members spellingOf (fuel + 1)
        (code '"' :: (k.toList.map code ++ code '"' :: code ':' :: (text ++ rest))) =
      match rest with
      | [] => none
      | b :: tail =>
        if b == code ',' then
          (members spellingOf fuel tail).map fun (ms, after) => (joinMember (some k) d ms, after)
        else some (some [(k, d)], tail) := by
  have key : string spellingOf (k.toList.map code ++ code '"' :: code ':' :: (text ++ rest)) =
      some (some k, code ':' :: (text ++ rest)) := by
    rw [string, stringPieces_of_plain _ _ _ plain, List.reverse_nil, List.nil_append, Option.map_some]
    dsimp only
    rw [spellingOf_of_plain plain, String.ofList_toList]
  rw [members, skipBlanks_cons (by decide)]
  dsimp only
  rw [if_pos (beq_self_eq_true _), key]
  simp only [Option.bind_eq_bind, Option.bind_some]
  rw [skipBlanks_cons (by decide)]
  dsimp only
  rw [if_pos (beq_self_eq_true _), reads]
  simp only [Option.bind_some]
  obtain ⟨tail, rfl | rfl⟩ := ends
  · rw [skipBlanks_cons (by decide)]
    dsimp only
    rw [if_pos (beq_self_eq_true _)]
    cases members spellingOf fuel tail <;> rfl
  · rw [skipBlanks_cons (by decide)]
    rfl

/-- Members with whole numbers for values. -/
def numbers (ns : List (String × Nat)) : List (String × Datum) := ns.map fun (k, n) => (k, .int n)

/-- The keys need no escapes and the numbers fit 64 bits. -/
def Simple (ns : List (String × Nat)) : Prop :=
  ∀ k n, (k, n) ∈ ns → (∀ c ∈ k.toList, Plain c) ∧ n < UInt64.size

theorem render_int (n : Nat) : render (.int n) = Decimal.digitsOf n := by
  rw [render, integer]
  exact Decimal.toList_toString n

theorem ends_brace (rest : List UInt8) : Ends (code '}' :: rest) := ⟨rest, .inr rfl⟩

theorem ends_comma (rest : List UInt8) : Ends (code ',' :: rest) := ⟨rest, .inl rfl⟩

theorem members_numbers (rest : List UInt8) : ∀ (ns : List (String × Nat)) (fuel : Nat), ns ≠ [] →
    Simple ns → ns.length < fuel →
    members spellingOf fuel ((memberChars (numbers ns)).map code ++ code '}' :: rest) =
      some (some (numbers ns), rest)
  | [], _, nonempty, _, _ => absurd rfl nonempty
  | (k, n) :: ns, 0, _, _, enough => absurd enough (Nat.not_lt_zero _)
  | (k, n) :: ns, fuel + 1, _, simple, enough => by
    obtain ⟨plain, small⟩ := simple k n (List.mem_cons_self ..)
    obtain ⟨fuel, rfl⟩ : ∃ left, fuel = left + 1 := ⟨fuel - 1, by simp at enough; omega⟩
    cases ns with
    | nil =>
      have reads := value_digitsOf spellingOf small (ends_brace rest) fuel
      have text := member_text plain (.int n) []
      rw [List.append_nil, List.map_nil, List.append_nil] at text
      show members spellingOf _ ((quoted k ++ ':' :: render (.int n)).map code ++ _) = _
      rw [text, List.cons_append, List.append_assoc, List.cons_append, List.cons_append, render_int,
        members_cons plain reads (ends_brace rest)]
      rfl
    | cons next ns =>
      have after := members_numbers rest (next :: ns) (fuel + 1) (List.cons_ne_nil _ _)
        (fun k n h => simple k n (.tail _ h)) (Nat.lt_of_succ_lt_succ enough)
      have reads := value_digitsOf spellingOf small
        (ends_comma ((memberChars (numbers (next :: ns))).map code ++ code '}' :: rest)) fuel
      have text := member_text plain (.int n) (',' :: memberChars (numbers (next :: ns)))
      show members spellingOf _ ((quoted k ++ ':' :: render (.int n) ++
        ',' :: memberChars (numbers (next :: ns))).map code ++ _) = _
      rw [text, List.cons_append, List.append_assoc, List.cons_append, List.cons_append,
        List.append_assoc, List.map_cons, List.cons_append, render_int,
        members_cons plain reads (ends_comma _)]
      dsimp only
      rw [if_pos (beq_self_eq_true _), after]
      rfl

/-- A record of numbers reads back, whatever follows it. -/
theorem value_numbers {ns : List (String × Nat)} (simple : Simple ns) {fuel : Nat}
    (enough : ns.length + 1 < fuel) (rest : List UInt8) :
    value spellingOf fuel ((render (.record (numbers ns))).map code ++ rest) =
      some (.record (numbers ns), rest) := by
  obtain ⟨fuel, rfl⟩ : ∃ left, fuel = left + 1 := ⟨fuel - 1, by omega⟩
  rw [render, List.cons_append, List.map_cons, List.map_append, List.cons_append, List.append_assoc, value,
    skipBlanks_cons (by decide)]
  dsimp only
  rw [if_pos (beq_self_eq_true _)]
  cases ns with
  | nil => rfl
  | cons first ns =>
    have reads := members_numbers rest (first :: ns) fuel (List.cons_ne_nil _ _) simple (by omega)
    obtain ⟨text, starts⟩ : ∃ text, (memberChars (numbers (first :: ns))).map code = code '"' :: text := by
      cases ns <;> exact ⟨_, rfl⟩
    simp only [List.map_cons, List.map_nil, List.cons_append, List.nil_append, starts] at reads ⊢
    rw [skipBlanks_cons (by decide)]
    dsimp only
    rw [if_neg (by decide), reads]
    rfl

/-! ## Texts -/

theorem ascii_append {cs ds : List Char} (hc : Ascii cs) (hd : Ascii ds) : Ascii (cs ++ ds) := by
  intro c h
  rcases List.mem_append.mp h with h | h
  · exact hc c h
  · exact hd c h

theorem ascii_quoted {k : String} (plain : ∀ c ∈ k.toList, Plain c) : Ascii (quoted k) := by
  rw [quoted_of_plain plain]
  intro c hc
  simp only [List.cons_append, List.mem_cons, List.mem_append, List.not_mem_nil, or_false] at hc
  rcases hc with rfl | hc | rfl
  · decide
  · exact (plain c hc).2.1
  · decide

theorem ascii_cons {c : Char} {cs : List Char} (hc : c.toNat < 128) (hcs : Ascii cs) : Ascii (c :: cs) :=
  have first : Ascii [c] := by simpa [Ascii] using hc
  ascii_append first hcs

theorem ascii_memberChars : ∀ ns : List (String × Nat), Simple ns → Ascii (memberChars (numbers ns))
  | [], _ => nofun
  | [(k, n)], simple => by
    show Ascii (quoted k ++ ':' :: render (.int n))
    rw [render_int]
    exact ascii_append (ascii_quoted (simple k n (List.mem_cons_self ..)).1)
      (ascii_cons (by decide) (ascii_digitsOf n))
  | (k, n) :: next :: ns, simple => by
    show Ascii (quoted k ++ ':' :: render (.int n) ++ ',' :: memberChars (numbers (next :: ns)))
    rw [render_int]
    exact ascii_append (ascii_append (ascii_quoted (simple k n (List.mem_cons_self ..)).1)
      (ascii_cons (by decide) (ascii_digitsOf n)))
      (ascii_cons (by decide) (ascii_memberChars (next :: ns) fun k n h => simple k n (.tail _ h)))

theorem length_le_memberChars : ∀ ns : List (String × Nat), ns.length ≤ (memberChars (numbers ns)).length
  | [] => Nat.le_refl 0
  | [(k, n)] => by
    show 1 ≤ (quoted k ++ ':' :: render (.int n)).length
    rw [List.length_append, List.length_cons]
    omega
  | (k, n) :: next :: ns => by
    have ih := length_le_memberChars (next :: ns)
    show _ ≤ (quoted k ++ ':' :: render (.int n) ++ ',' :: memberChars (numbers (next :: ns))).length
    rw [List.length_append, List.length_cons (a := ','), List.length_cons (a := (k, n))]
    omega

/-- A record whose only member is a record of numbers reads back. -/
theorem readSpelled_print {name : String} (plain : ∀ c ∈ name.toList, Plain c)
    {ns : List (String × Nat)} (simple : Simple ns) :
    readSpelled (print (.record [(name, .record (numbers ns))])).toUTF8.toList =
      some (.record [(name, .record (numbers ns))]) := by
  have inner : Ascii (render (.record (numbers ns))) := by
    rw [render]
    exact ascii_cons (by decide) (ascii_append (ascii_memberChars ns simple) (by simp [Ascii]))
  have text : (render (.record [(name, .record (numbers ns))])).map code =
      code '\x7b' :: code '"' :: (name.toList.map code ++ code '"' :: code ':' ::
        ((render (.record (numbers ns))).map code ++ [code '}'])) := by
    have member := member_text plain (.record (numbers ns)) ['}']
    rw [render, memberChars, List.cons_append, List.map_cons, member]
    rfl
  have ascii : Ascii (render (.record [(name, .record (numbers ns))])) := by
    rw [render, memberChars]
    exact ascii_cons (by decide) (ascii_append (ascii_append (ascii_quoted plain)
      (ascii_cons (by decide) inner)) (by simp [Ascii]))
  rw [readSpelled, readWith, print, toUTF8_of_ascii ascii]
  generalize bound : 2 * ((render (.record [(name, .record (numbers ns))])).map code).length + 2 = fuel
  have enough : ns.length + 3 < fuel := by
    have least := length_le_memberChars ns
    rw [← bound, text]
    simp only [List.length_cons, List.length_append, List.length_map, render]
    omega
  obtain ⟨fuel, rfl⟩ : ∃ left, fuel = left + 2 := ⟨fuel - 2, by omega⟩
  have reads := value_numbers simple (show ns.length + 1 < fuel by omega) [code '}']
  have whole : value spellingOf (fuel + 2) ((render (.record [(name, .record (numbers ns))])).map code) =
      some (.record [(name, .record (numbers ns))], []) := by
    rw [text, value, skipBlanks_cons (by decide)]
    dsimp only
    rw [if_pos (beq_self_eq_true _), skipBlanks_cons (by decide)]
    dsimp only
    rw [if_neg (by decide), members_cons plain reads (ends_brace [])]
    rfl
  rw [whole]
  rfl

end ClickGrant.Json
