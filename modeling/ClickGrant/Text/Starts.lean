/-!
# Starts

Where the characters of a text start, in bytes of UTF-8. The starts ascend, and together with the
end of the text they are the places between characters, at which a text may be cut.
-/
set_option autoImplicit false

namespace ClickGrant.Text

/-- Where the characters start, when `before` bytes stand in front of the first. -/
def starts : Nat → List Char → List Nat
  | _, [] => []
  | before, c :: rest => before :: starts (before + c.utf8Size) rest

theorem le_of_mem_starts {n before : Nat} {cs : List Char} (h : n ∈ starts before cs) : before ≤ n := by
  induction cs generalizing before with
  | nil => simp [starts] at h
  | cons c rest ih =>
    rcases List.mem_cons.mp h with rfl | later
    · exact Nat.le_refl _
    · exact Nat.le_of_add_right_le (ih later)

theorem pairwise_starts (before : Nat) (cs : List Char) : (starts before cs).Pairwise (· < ·) := by
  induction cs generalizing before with
  | nil => exact .nil
  | cons c rest ih =>
    refine .cons (fun n later => ?_) (ih _)
    have := le_of_mem_starts later
    have := c.utf8Size_pos
    omega

/-- The first characters of a text end where the next one starts, or they are the whole text. -/
theorem exists_take_iff_mem_starts {n : Nat} (before : Nat) (cs : List Char) :
    (∃ i, n = before + (String.ofList (cs.take i)).utf8ByteSize) ↔
      n ∈ starts before cs ∨ n = before + (String.ofList cs).utf8ByteSize := by
  induction cs generalizing before with
  | nil => simp [starts]
  | cons c rest ih =>
    have later : (∃ i, n = before + (String.ofList ((c :: rest).take (i + 1))).utf8ByteSize) ↔
        ∃ i, n = before + c.utf8Size + (String.ofList (rest.take i)).utf8ByteSize := by
      simp [String.ofList_cons, Nat.add_assoc]
    rw [starts, List.mem_cons, or_assoc, String.ofList_cons, String.utf8ByteSize_append,
      String.utf8ByteSize_singleton, ← Nat.add_assoc, ← ih, ← later]
    constructor
    · rintro ⟨_ | i, here⟩
      · exact .inl (by simpa using here)
      · exact .inr ⟨i, here⟩
    · rintro (rfl | ⟨i, here⟩)
      · exact ⟨0, by simp⟩
      · exact ⟨i + 1, here⟩

theorem isValid_iff_mem_starts {text : String} {n : Nat} :
    String.Pos.Raw.IsValid text ⟨n⟩ ↔ n ∈ starts 0 text.toList ∨ n = text.utf8ByteSize := by
  have places := exists_take_iff_mem_starts (n := n) 0 text.toList
  simp only [Nat.zero_add, String.ofList_toList] at places
  rw [String.Pos.Raw.isValid_iff_exists_take_toList, places]

end ClickGrant.Text
