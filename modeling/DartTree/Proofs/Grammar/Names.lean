import DartTree.Grammar.Kind
import DartTree.Interchange.Tree
import Mathlib.Data.List.Nodup

/-! Kinds and their names: a name belongs to one kind, is found again, and is
never taken for one of the types of error recovery. -/
namespace DartTree
namespace Kind

private theorem all_index (kind : Kind) : all[kind.index]? = some kind := by
  cases kind <;> rfl

theorem mem_all (kind : Kind) : kind ∈ all := List.mem_of_getElem? (all_index kind)

private def nameBytes (kind : Kind) : List Nat := kind.name.toByteArray.data.toList.map UInt8.toNat

-- The table is in the order of the names, so that neighbours alone are compared.
private theorem names_ascend : (all.map nameBytes).IsChain (· < ·) := by
  decide +kernel

theorem name_injective (left right : Kind) (same : left.name = right.name) : left = right := by
  have ascending := List.isChain_iff_pairwise.mp names_ascend
  have distinct : (all.map nameBytes).Nodup := by
    apply ascending.imp
    intro first second before equal
    exact List.lt_irrefl _ (equal ▸ before)
  have bytes : nameBytes left = nameBytes right := by rw [nameBytes,nameBytes,same]
  exact List.inj_on_of_nodup_map distinct (mem_all left) (mem_all right) bytes

theorem ofName_eq_some_iff (text : String) (kind : Kind) :
    ofName? text = some kind ↔ kind.name = text := by
  constructor
  · intro found
    simpa using List.find?_some found
  · intro named
    have present : (ofName? text).isSome := by
      rw [ofName?,List.find?_isSome]
      exact ⟨kind,mem_all kind,by simpa using named⟩
    obtain ⟨other,found⟩ := Option.isSome_iff_exists.mp present
    have same : other.name = text := by simpa using List.find?_some found
    rw [found,name_injective other kind (same.trans named.symm)]

theorem ofName_name (kind : Kind) : ofName? kind.name = some kind :=
  (ofName_eq_some_iff kind.name kind).mpr rfl

private theorem name_initial (kind : Kind) :
    ∃ first rest, kind.name = String.ofList (first :: rest) ∧ first ≠ 'E' ∧ first ≠ 'M' := by
  cases kind <;> exact ⟨_,_,rfl,by decide,by decide⟩

theorem name_ne_error (kind : Kind) : kind.name ≠ RawNode.errorType := by
  obtain ⟨first,rest,named,apart,_⟩ := name_initial kind
  intro same
  have mark : RawNode.errorType = String.ofList ['E','R','R','O','R'] := rfl
  rw [named,mark] at same
  have letters := String.ofList_injective same
  exact apart (List.cons.inj letters).1

theorem name_not_missing (kind : Kind) :
    RawNode.missingMark.toList.isPrefixOf kind.name.toList = false := by
  obtain ⟨first,rest,named,_,apart⟩ := name_initial kind
  have mark : RawNode.missingMark = String.ofList ['M','I','S','S','I','N','G'] := rfl
  rw [named,mark,String.toList_ofList,String.toList_ofList]
  simp [List.isPrefixOf,apart.symm]

end Kind
end DartTree
