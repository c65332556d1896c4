import ClickGrant.Proofs.Consent.Masks
import ClickGrant.Proofs.Datum
import ClickGrant.Proofs.Json
import ClickGrant.Proofs.Registry.Identifiers

/-!
# The consent file

What is written to the file is what a store opens with (`decode?_encode`): identities are written in
plain decimal and read as such, masks are whole numbers of 32 bits, and every identity is written
once. That every identity is listed once holds of whatever a file opens as
(`nodup_keys_ofFile`) and is kept by records.
-/
set_option autoImplicit false

namespace ClickGrant

namespace Assoc

variable {κ α : Type} [DecidableEq κ]

/-- A new key comes last. -/
theorem put_of_new {k : κ} {v : α} : ∀ {l : List (κ × α)}, k ∉ l.map (·.1) → put k v l = l ++ [(k, v)]
  | [], _ => rfl
  | (k', v') :: rest, new => by
    rw [List.map_cons, List.mem_cons, not_or] at new
    rw [put, if_neg (Ne.symm new.1), put_of_new new.2]
    rfl

theorem foldl_set_of_nodup : ∀ (l before : List (κ × α)), ((before ++ l).map (·.1)).Nodup →
    l.foldl (fun m p => m.set p.1 p.2) (⟨before⟩ : Assoc κ α) = ⟨before ++ l⟩
  | [], before, _ => by rw [List.append_nil]; rfl
  | (k, v) :: rest, before, once => by
    have new : k ∉ before.map (·.1) := by
      intro old
      rw [List.map_append, List.map_cons, List.nodup_append] at once
      exact once.2.2 k old k (List.mem_cons_self ..) rfl
    rw [List.append_cons before (k, v) rest] at once ⊢
    have first : (⟨before⟩ : Assoc κ α).set k v = ⟨before ++ [(k, v)]⟩ := by
      rw [set, put_of_new new]
    rw [List.foldl_cons, first]
    exact foldl_set_of_nodup rest _ once

/-- Pairs with different keys make the map that lists them. -/
theorem ofList_entries {m : Assoc κ α} (once : m.keys.Nodup) : ofList m.entries = m :=
  foldl_set_of_nodup m.entries [] once

theorem nodup_keys_foldl_set : ∀ (l : List (κ × α)) (m : Assoc κ α), m.keys.Nodup →
    (l.foldl (fun m p => m.set p.1 p.2) m).keys.Nodup
  | [], _, once => once
  | (k, v) :: rest, m, once => nodup_keys_foldl_set rest (m.set k v) (nodup_keys_set once k v)

theorem nodup_keys_ofList (l : List (κ × α)) : (ofList l).keys.Nodup :=
  nodup_keys_foldl_set l empty List.nodup_nil

end Assoc

/-- An identity is read off its decimal. -/
theorem Token.ofDecimal?_toString (token : Token) : Token.ofDecimal? (toString token) = some token := by
  have text : (toString token).toList = Decimal.digitsOf token.toNat := Decimal.toList_toString token.toNat
  obtain ⟨c, rest, eq, first⟩ := Decimal.digitsOf_cases token.toNat
  have digits : (c :: rest).all Char.isDigit = true := by
    rw [← eq, List.all_eq_true]
    exact fun d hd => Nat.isDigit_of_mem_toDigits (by decide) (by decide) hd
  have canonical : (decide (c ≠ '0') || rest.isEmpty) = true := by
    by_cases zero : c = '0'
    · rw [(first zero).2]
      simp
    · simp [zero]
  have value : (c :: rest).foldl (fun n d => 10 * n + (d.toNat - '0'.toNat)) 0 = token.toNat := by
    rw [← eq]
    exact Decimal.ofDigits_digitsOf token.toNat
  unfold Token.ofDecimal?
  rw [text, eq]
  dsimp only
  rw [if_pos (Bool.and_eq_true_iff.mpr ⟨digits, canonical⟩), value, if_pos token.toNat_lt]
  exact congrArg some token.ofNat_toNat

namespace ConsentStore

variable {c : ConsentStore} {file : ConsentFile}

/-- The members that records are written as. -/
def members (records : Assoc Token UInt32) : List (String × Nat) :=
  records.entries.map fun (token, mask) => (toString token, mask.toNat)

theorem simple_members (records : Assoc Token UInt32) : Json.Simple (members records) := by
  intro k n h
  obtain ⟨⟨token, mask⟩, -, eq⟩ := List.mem_map.mp h
  obtain ⟨rfl, rfl⟩ := Prod.mk.inj eq
  constructor
  · intro c hc
    have text : (toString token).toList = Decimal.digitsOf token.toNat := Decimal.toList_toString token.toNat
    rw [text] at hc
    exact Json.plain_of_isDigit (Decimal.isDigit_of_mem_digitsOf hc)
  · have below := mask.toNat_lt
    exact Nat.lt_trans below (by decide)

theorem masksOf?_members {records : Assoc Token UInt32} (once : records.keys.Nodup) :
    masksOf? (.record (Json.numbers (members records))) = some records := by
  have first (e : Token × UInt32) : maskOf? (toString e.1, .int e.2.toNat) = some e := by
    simp only [maskOf?, Token.ofDecimal?_toString, Datum.uint32?_toNat, Option.bind_eq_bind, Option.bind_some,
      Option.pure_def]
  have each := mapM_map_of first records.entries
  rw [List.map_id'] at each
  rw [masksOf?, members, Json.numbers, List.map_map]
  show (List.mapM maskOf? (records.entries.map fun e => (toString e.1, Datum.int e.2.toNat))).map
    Assoc.ofList = _
  rw [each, Option.map_some, Assoc.ofList_entries once]

/-- What is written is what is read. -/
theorem decode?_encode {records : Assoc Token UInt32} (once : records.keys.Nodup) :
    decode? (encode records) = some records := by
  have plain : ∀ c ∈ "records".toList, Json.Plain c := by
    intro c hc
    have text : "records".toList = ['r', 'e', 'c', 'o', 'r', 'd', 's'] := by decide
    rw [text] at hc
    simp only [List.mem_cons, List.not_mem_nil, or_false] at hc
    rcases hc with rfl | rfl | rfl | rfl | rfl | rfl | rfl <;>
      exact ⟨by decide, by decide, by decide, by decide⟩
  have reads := Json.readSpelled_print plain (simple_members records)
  have written : encode records =
      (Json.print (.record [("records", .record (Json.numbers (members records)))])).toUTF8.toList := by
    rw [encode, members, Json.numbers, List.map_map]
    rfl
  rw [decode?, written, reads]
  show Datum.Fields.withDefault [("records", .record (Json.numbers (members records)))] "records" .empty
    masksOf? = some records
  exact masksOf?_members once

theorem nodup_keys_of_decode? {content : List UInt8} {records : Assoc Token UInt32}
    (h : decode? content = some records) : records.keys.Nodup := by
  have read {d : Datum} (h : masksOf? d = some records) : records.keys.Nodup := by
    unfold masksOf? at h
    split at h
    · obtain ⟨l, -, rfl⟩ := Option.map_eq_some_iff.mp h
      exact Assoc.nodup_keys_ofList l
    · cases h
  unfold decode? at h
  simp only [Option.bind_eq_bind, Option.bind_eq_some_iff] at h
  obtain ⟨d, -, fs, -, h⟩ := h
  unfold Datum.Fields.withDefault at h
  split at h
  · exact read h
  · cases h; exact List.nodup_nil

theorem nodup_keys_ofFile (file : ConsentFile) : (ofFile file).records.keys.Nodup := by
  cases file with
  | bytes content =>
    show ((decode? content).getD .empty).keys.Nodup
    cases decoded : decode? content with
    | none => exact List.nodup_nil
    | some records => exact nodup_keys_of_decode? decoded
  | _ => exact List.nodup_nil

theorem nodup_keys_record (once : c.records.keys.Nodup) (token : Token) (kind : Kind) :
    (c.record token kind).2.records.keys.Nodup := Assoc.nodup_keys_set once token _

/-- A file that was written opens with what was written. -/
theorem ofFile_encode {records : Assoc Token UInt32} (once : records.keys.Nodup) :
    (ofFile (.bytes (encode records))).records = records := by
  show (decode? (encode records)).getD .empty = records
  rw [decode?_encode once]
  rfl

end ConsentStore

end ClickGrant
