import Mathlib.Algebra.GroupWithZero.Nat
import Mathlib.Data.List.Nodup
import Mathlib.Data.List.ProdSigma
import ClickGrant.Component.Kind
import ClickGrant.Metrics.Basic
import ClickGrant.Refusal

/-!
# Counters and their labels

Counting a combination of labels adds one to its counter and leaves the others alone, as long as
their texts differ (`Series.count_add`). The combinations that the service counts are a kind, or a
kind and a result. Their labels run together to texts that are pairwise different
(`nodup_keys_cells`, `nodup_keys_kinds`), so no two of them share a counter.
-/
set_option autoImplicit false

namespace ClickGrant

namespace Series

theorem count_add (s : Series) (values others : List String) :
    (s.add values).count others =
      if key values = key others then s.count others + 1 else s.count others := by
  have same (here : key values = key others) : s.count values = s.count others := by
    rw [count, here, ← count]
  rw [count, add, put, Assoc.get?_set]
  split
  next here => rw [Option.map_some, Option.getD_some, same here]
  next => rfl

/-- The labels of a kind. -/
def ofKind (kind : Kind) : List String := [kind.name]

/-- The labels of a kind and a result. -/
def cell (kind : Kind) (code : ResultCode) : List String := [kind.name, code.name]

end Series

/-- Every result code, in order. -/
def ResultCode.all : List ResultCode :=
  [.ok, .invalidArgument, .notFound, .conflict, .integrityFailure, .clickInvalid, .permissionDenied,
   .unavailable, .waitForConsent, .noEnhanceModule, .serviceError]

theorem ResultCode.mem_all (code : ResultCode) : code ∈ ResultCode.all := by cases code <;> decide

theorem Kind.mem_all (kind : Kind) : kind ∈ Kind.all := by cases kind <;> decide

namespace Series

/-! ## No two combinations share a counter -/

theorem nodup_keys_kinds : (Kind.all.map fun kind => key (ofKind kind)).Nodup := by decide +kernel

theorem nodup_keys_cells :
    ((Kind.all.product ResultCode.all).map fun c => key (cell c.1 c.2)).Nodup := by decide +kernel

theorem key_ofKind_inj {kind kind' : Kind} : key (ofKind kind) = key (ofKind kind') ↔ kind = kind' := by
  constructor
  · exact List.inj_on_of_nodup_map nodup_keys_kinds kind.mem_all kind'.mem_all
  · exact congrArg fun kind => key (ofKind kind)

theorem key_cell_inj {kind kind' : Kind} {code code' : ResultCode} :
    key (cell kind code) = key (cell kind' code') ↔ kind = kind' ∧ code = code' := by
  constructor
  · intro same
    have listed (kind : Kind) (code : ResultCode) :
        (kind, code) ∈ Kind.all.product ResultCode.all :=
      List.pair_mem_product.mpr ⟨kind.mem_all, code.mem_all⟩
    exact Prod.ext_iff.mp
      (List.inj_on_of_nodup_map nodup_keys_cells (listed kind code) (listed kind' code') same)
  · rintro ⟨rfl, rfl⟩
    rfl

theorem count_add_ofKind (s : Series) (kind kind' : Kind) :
    (s.add (ofKind kind)).count (ofKind kind') =
      s.count (ofKind kind') + if kind' = kind then 1 else 0 := by
  rw [count_add]
  simp only [key_ofKind_inj, eq_comm (a := kind)]
  split <;> rfl

theorem count_add_cell (s : Series) (kind kind' : Kind) (code code' : ResultCode) :
    (s.add (cell kind code)).count (cell kind' code') =
      s.count (cell kind' code') + if kind' = kind ∧ code' = code then 1 else 0 := by
  rw [count_add]
  simp only [key_cell_inj, eq_comm (a := kind), eq_comm (a := code)]
  split <;> rfl

/-- How often a result was counted, of all kinds together. -/
def total (s : Series) (code : ResultCode) : Nat := (Kind.all.map fun kind => s.count (cell kind code)).sum

theorem total_add (s : Series) (kind : Kind) (code code' : ResultCode) :
    (s.add (cell kind code)).total code' = s.total code' + if code' = code then 1 else 0 := by
  unfold total
  simp only [count_add_cell, Kind.all, List.map_cons, List.map_nil, List.sum_cons, List.sum_nil]
  -- one of the three kinds is this one
  by_cases same : code' = code
  · cases kind <;> simp [same] <;> omega
  · simp [same]

end Series

end ClickGrant
