/-!
# Consecutive blocks of a sequence

Hash functions read their message, and the text codec its bytes, in blocks of a fixed size.  The
last block may be shorter than the others.  No block is empty, and joining the blocks gives the
sequence back.
-/

namespace NodeKeys

/-- Cut a sequence into blocks of `size` items, the last one possibly shorter.  A size of zero
counts as one, so that the cut always ends. -/
def blocks {α : Type} (size : Nat) (items : List α) : List (List α) :=
  if items.isEmpty then []
  else items.take (max size 1) :: blocks size (items.drop (max size 1))
termination_by items.length
decreasing_by
  cases items with
  | nil => simp_all
  | cons first rest => simp only [List.length_drop, List.length_cons]; omega

theorem flatten_blocks {α : Type} (size : Nat) (items : List α) :
    (blocks size items).flatten = items := by
  fun_induction blocks size items with
  | case1 items empty => simp_all
  | case2 items _ ih => simp [ih]

end NodeKeys
