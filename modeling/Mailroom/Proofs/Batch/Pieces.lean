import Mailroom.Batch.Processor

/-!
# The batches of a list

The list is cut from the front. Joined together the batches are the list again, every batch but the
last is full, none is empty, and there are as few as possible.
-/

namespace Mailroom.Batch

variable {α : Type} {size : Nat}

/-- A list cut into pieces of a given size, where the last may be shorter but not empty. -/
structure Cut (size : Nat) (items : List α) (pieces : List (List α)) : Prop where
  flatten_eq : pieces.flatten = items
  full : ∀ piece ∈ pieces.dropLast, piece.length = size
  ne_nil : ∀ piece ∈ pieces, piece ≠ []
  length_le : ∀ piece ∈ pieces, piece.length ≤ size
  /-- The number of pieces is the number of items by the size of a piece, rounded up. -/
  length_eq : pieces.length = (items.length + (size - 1)) / size

namespace Cut

theorem nil (positive : 0 < size) : Cut size ([] : List α) [] where
  flatten_eq := rfl
  full _ member := nomatch member
  ne_nil _ member := nomatch member
  length_le _ member := nomatch member
  length_eq := (Nat.div_eq_of_lt (by simp only [List.length_nil]; omega)).symm

/-- The first piece takes what there is, up to the size of a piece, and the rest is cut alike. -/
theorem cons (positive : 0 < size) {items : List α} (some : items ≠ []) {pieces : List (List α)}
    (rest : Cut size (items.drop size) pieces) : Cut size items (items.take size :: pieces) := by
  have length_pos : 0 < items.length := List.length_pos_iff.mpr some
  refine ⟨?flatten, ?full, ?ne, ?le, ?count⟩
  case flatten => rw [List.flatten_cons, rest.flatten_eq, List.take_append_drop]
  case full =>
    intro piece member
    cases pieces with
    | nil => simp at member
    | cons next pieces =>
      rcases List.mem_cons.mp member with rfl | later
      · -- a piece follows, so there was more than one piece to take
        have more : items.drop size ≠ [] := by
          rw [← rest.flatten_eq]
          simp [rest.ne_nil next]
        exact List.length_take_of_le
          (Nat.le_of_lt (List.length_lt_of_drop_ne_nil more))
      · exact rest.full piece later
  case ne =>
    intro piece member
    rcases List.mem_cons.mp member with rfl | later
    · simp [some, Nat.pos_iff_ne_zero.mp positive]
    · exact rest.ne_nil piece later
  case le =>
    intro piece member
    rcases List.mem_cons.mp member with rfl | later
    · exact List.length_take_le size items
    · exact rest.length_le piece later
  case count =>
    rw [List.length_cons, rest.length_eq, List.length_drop]
    rcases Nat.le_total items.length size with short | long
    · have one : (items.length + (size - 1)) / size = 1 :=
        (Nat.div_eq_iff positive).mpr (by omega)
      rw [Nat.sub_eq_zero_of_le short, one, Nat.div_eq_of_lt (by omega)]
    · rw [← Nat.add_div_right _ positive]
      congr 1
      omega

end Cut

/-- Enough pieces cut the whole list. -/
theorem cut_piecesOf (positive : 0 < size) (count : Nat) (items : List α)
    (enough : items.length ≤ count) : Cut size items (piecesOf size count items) := by
  induction count generalizing items with
  | zero =>
    obtain rfl : items = [] := List.eq_nil_of_length_eq_zero (by omega)
    exact Cut.nil positive
  | succ count ih =>
    cases items with
    | nil => exact Cut.nil positive
    | cons item items =>
      refine Cut.cons positive (List.cons_ne_nil _ _) (ih _ ?_)
      rw [List.length_drop]
      simp only [List.length_cons] at enough ⊢
      omega

/-- The batches cut the list of messages. -/
theorem cut_batchesOf (messages : List α) : Cut batchSize messages (batchesOf messages) :=
  cut_piecesOf (by decide) messages.length messages (Nat.le_refl _)

end Mailroom.Batch
