import DartTree.Span
import Mathlib.Data.List.Perm.Basic

/-! The order of spans. Enclosure is a partial order on all pairs of offsets,
inverted ones included, and merging is the join of it: what encloses a merged
span is what encloses both of its parts. All that is said about many spans at
once follows from this, in whatever order and grouping they are merged. -/
namespace DartTree

theorem Offset.max_le_iff (left right bound : Offset) :
    max left right ≤ bound ↔ left ≤ bound ∧ right ≤ bound := by
  change (if left ≤ right then right else left) ≤ bound ↔ _
  split_ifs with ordered
  · exact ⟨fun within => ⟨UInt64.le_trans ordered within,within⟩,And.right⟩
  · have reversed := UInt64.le_of_lt (UInt64.not_le.mp ordered)
    exact ⟨fun within => ⟨within,UInt64.le_trans reversed within⟩,And.left⟩

namespace Span

theorem encloses_iff (outer inner : Span) :
    outer.encloses inner = true ↔ outer.start ≤ inner.start ∧ inner.stop ≤ outer.stop := by
  simp only [encloses,Bool.and_eq_true,decide_eq_true_eq]

theorem contains_iff (span : Span) (offset : Offset) :
    span.contains offset = true ↔ span.start ≤ offset ∧ offset < span.stop := by
  simp only [contains,Bool.and_eq_true,decide_eq_true_eq]

theorem encloses_refl (span : Span) : span.encloses span = true :=
  (encloses_iff span span).mpr ⟨UInt64.le_refl span.start,UInt64.le_refl span.stop⟩

theorem encloses_antisymm (left right : Span) (first : left.encloses right = true)
    (second : right.encloses left = true) : left = right := by
  rw [encloses_iff] at first second
  rw [Span.mk.injEq]
  exact ⟨UInt64.le_antisymm first.1 second.1,UInt64.le_antisymm second.2 first.2⟩

theorem encloses_trans (outer middle inner : Span) (first : outer.encloses middle = true)
    (second : middle.encloses inner = true) : outer.encloses inner = true := by
  rw [encloses_iff] at first second ⊢
  exact ⟨UInt64.le_trans first.1 second.1,UInt64.le_trans second.2 first.2⟩

theorem encloses_merge_iff (outer left right : Span) :
    outer.encloses (left.merge right) = true ↔
      outer.encloses left = true ∧ outer.encloses right = true := by
  simp only [encloses_iff,merge,Std.le_min_iff,Offset.max_le_iff]
  exact and_and_and_comm

private theorem encloses_iff_merge (outer inner : Span) :
    outer.encloses inner = true ↔ outer.merge inner = outer := by
  have parts := (encloses_merge_iff (outer.merge inner) outer inner).mp (encloses_refl _)
  constructor
  · intro enclosed
    have covered := (encloses_merge_iff outer outer inner).mpr ⟨encloses_refl outer,enclosed⟩
    exact encloses_antisymm _ _ parts.1 covered
  · intro same
    rw [same] at parts
    exact parts.2

private theorem contains_of_encloses (outer inner : Span) (offset : Offset)
    (enclosed : outer.encloses inner = true) (inside : inner.contains offset = true) :
    outer.contains offset = true := by
  rw [encloses_iff] at enclosed
  rw [contains_iff] at inside ⊢
  exact ⟨UInt64.le_trans enclosed.1 inside.1,UInt64.lt_of_lt_of_le inside.2 enclosed.2⟩

-- Natural subtraction stops at zero, as the length of an inverted span does.
theorem length_toNat (span : Span) :
    span.length.toNat = span.stop.toNat - span.start.toNat := by
  unfold length
  split_ifs with forward
  · exact UInt64.toNat_sub_of_le _ _ (UInt64.le_of_lt forward)
  · rw [UInt64.lt_iff_toNat_lt] at forward
    rw [UInt64.toNat_zero]
    omega

private theorem length_le_of_encloses (outer inner : Span)
    (enclosed : outer.encloses inner = true) :
    inner.length ≤ outer.length := by
  rw [encloses_iff,UInt64.le_iff_toNat_le,UInt64.le_iff_toNat_le] at enclosed
  rw [UInt64.le_iff_toNat_le,length_toNat,length_toNat]
  omega

/-- A way to merge spans two at a time, down to one. -/
inductive Merging where
  | alone (span : Span)
  | both (left right : Merging)

namespace Merging

def spans : Merging → List Span
  | .alone span => [span]
  | .both left right => left.spans ++ right.spans

def result : Merging → Span
  | .alone span => span
  | .both left right => left.result.merge right.result

def inTurn (first : Merging) : List Span → Merging
  | [] => first
  | next :: rest => (Merging.both first (.alone next)).inTurn rest

private theorem inTurn_spans (first : Merging) (rest : List Span) :
    (first.inTurn rest).spans = first.spans ++ rest := by
  induction rest generalizing first with
  | nil => exact (List.append_nil first.spans).symm
  | cons next rest ih => rw [inTurn,ih,spans,spans,List.append_assoc,List.singleton_append]

private theorem inTurn_result (first : Merging) (rest : List Span) :
    (first.inTurn rest).result = rest.foldl merge first.result := by
  induction rest generalizing first with
  | nil => rfl
  | cons next rest ih => rw [inTurn,ih,List.foldl_cons,result,result]

private theorem encloses_result_iff (merging : Merging) (outer : Span) :
    outer.encloses merging.result = true ↔
      ∀ span ∈ merging.spans, outer.encloses span = true := by
  induction merging with
  | alone span => rw [result,spans,List.forall_mem_singleton]
  | both left right first second =>
    rw [result,spans,encloses_merge_iff,first,second,List.forall_mem_append]

private theorem result_eq_of_mem_iff (left right : Merging)
    (same : ∀ span, span ∈ left.spans ↔ span ∈ right.spans) : left.result = right.result := by
  have covers (outer : Span) :
      outer.encloses left.result = true ↔ outer.encloses right.result = true := by
    simp only [encloses_result_iff,same]
  exact encloses_antisymm _ _ ((covers _).mp (encloses_refl _)) ((covers _).mpr (encloses_refl _))

end Merging

/-- Spans are a join-semilattice under enclosure, with merging for its join. Any
way to merge the spans of a list gives the least span that encloses them all,
and what is enclosed has no offset and no length beyond what encloses it. -/
theorem merge_semilattice :
    (∀ span : Span, span.encloses span = true) ∧
      (∀ left right : Span, left.encloses right = true → right.encloses left = true →
        left = right) ∧
      (∀ outer middle inner : Span, outer.encloses middle = true → middle.encloses inner = true →
        outer.encloses inner = true) ∧
      (∀ (first : Span) (rest : List Span) (merging : Merging),
        merging.spans.Perm (first :: rest) →
          merging.result = rest.foldl merge first ∧
          (∀ span ∈ first :: rest, merging.result.encloses span = true) ∧
          ∀ outer : Span, (∀ span ∈ first :: rest, outer.encloses span = true) →
            outer.encloses merging.result = true) ∧
      (∀ left right : Span, left.encloses right = true ↔ left.merge right = left) ∧
      ∀ left right : Span, left.encloses right = true →
        (∀ offset, right.contains offset = true → left.contains offset = true) ∧
          right.length ≤ left.length := by
  refine ⟨encloses_refl,encloses_antisymm,encloses_trans,?_,encloses_iff_merge,?_⟩
  · intro first rest merging order
    have turns : ((Merging.alone first).inTurn rest).spans = first :: rest :=
      Merging.inTurn_spans (.alone first) rest
    have least (outer : Span) := merging.encloses_result_iff outer
    simp only [order.mem_iff] at least
    have same : merging.result = ((Merging.alone first).inTurn rest).result := by
      apply Merging.result_eq_of_mem_iff
      intro span
      rw [order.mem_iff,turns]
    exact ⟨same.trans (Merging.inTurn_result (.alone first) rest),
      (least merging.result).mp (encloses_refl _),fun outer => (least outer).mpr⟩
  · intro left right enclosed
    exact ⟨fun offset => contains_of_encloses left right offset enclosed,
      length_le_of_encloses left right enclosed⟩

/-- An inverted span, an empty one and one at the end of all offsets, merged from
the right and in another order than they are listed. -/
theorem scattered_spans_merged :
    (Merging.both (.alone ⟨7,7⟩) (.both (.alone ⟨18446744073709551614,18446744073709551615⟩)
        (.alone ⟨9,3⟩))).spans.Perm
        [⟨9,3⟩,⟨7,7⟩,⟨18446744073709551614,18446744073709551615⟩] ∧
      (Merging.both (.alone ⟨7,7⟩) (.both (.alone ⟨18446744073709551614,18446744073709551615⟩)
        (.alone ⟨9,3⟩))).result = ⟨7,18446744073709551615⟩ := by
  have order : (Merging.both (.alone ⟨7,7⟩)
      (.both (.alone ⟨18446744073709551614,18446744073709551615⟩) (.alone ⟨9,3⟩))).spans.Perm
      [⟨9,3⟩,⟨7,7⟩,⟨18446744073709551614,18446744073709551615⟩] := by decide
  obtain ⟨_,_,_,lists,_⟩ := merge_semilattice
  obtain ⟨merged,_⟩ := lists ⟨9,3⟩ [⟨7,7⟩,⟨18446744073709551614,18446744073709551615⟩] _ order
  exact ⟨order,merged.trans (by decide)⟩

end Span
end DartTree
