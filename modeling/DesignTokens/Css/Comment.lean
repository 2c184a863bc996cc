import DesignTokens.Text.Basic

/-!
Text inside a comment. Every `*/` is taken out, and those that form by it as well, until none is
left: a text then cannot end the comment it stands in.
-/

namespace DesignTokens

/-- What ends a comment. -/
def commentEnd : Text := ['*', '/']

/-- The text without the ends of comments in it, found from left to right. -/
def dropCommentEnds : Text → Text
  | '*' :: '/' :: rest => dropCommentEnds rest
  | c :: rest => c :: dropCommentEnds rest
  | [] => []

theorem length_dropCommentEnds_le (t : Text) : (dropCommentEnds t).length ≤ t.length := by
  fun_induction dropCommentEnds t with
  | case1 rest ih => simp only [List.length_cons]; omega
  | case2 c rest _ ih => simpa using ih
  | case3 => simp

/-- A text that holds the end of a comment is shorter without it. -/
theorem length_dropCommentEnds_lt (t : Text) (h : Text.includes commentEnd t = true) :
    (dropCommentEnds t).length < t.length := by
  fun_induction dropCommentEnds t with
  | case1 rest ih =>
    have := length_dropCommentEnds_le rest
    simp only [List.length_cons]
    omega
  | case2 c rest hne ih =>
    simp only [Text.includes, Bool.or_eq_true] at h
    rcases h with h | h
    · cases rest with
      | nil => simp [commentEnd] at h
      | cons d rest =>
        simp only [commentEnd, List.isPrefixOf, Bool.and_eq_true, beq_iff_eq] at h
        exact (hne rest h.1.symm (by rw [← h.2.1])).elim
    · simpa using ih h
  | case3 => simp [Text.includes, commentEnd] at h

/-- The text with ends of comments taken out until none is left. -/
def commentText (t : Text) : Text :=
  if Text.includes commentEnd t then commentText (dropCommentEnds t) else t
termination_by t.length
decreasing_by exact length_dropCommentEnds_lt t ‹_›

end DesignTokens
