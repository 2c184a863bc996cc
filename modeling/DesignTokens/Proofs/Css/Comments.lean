import DesignTokens.Render.Output
import Mathlib.Logic.Function.Iterate

/-!
Text cannot close the comment it stands in. Taking out the ends of comments may bring new ones
together, so it is done in rounds until none is left:

    a **//*/ b ──▶ a */ b ──▶ a  b

Every round makes the text shorter, so the rounds come to an end (`commentText_rounds`). A single
pass with a stack does the same at once, taking a pair out as soon as it forms: a round takes out
pairs that the pass would take out as well, and leaves to it what it would have kept
(`cancelEnds_dropCommentEnds`); a text in which no pair forms is kept by both. What stands in a
comment then ends in a blank and the end of the comment, which is the only one there is.
-/

namespace DesignTokens

/-! ### Texts that hold the end of a comment -/

namespace Text

theorem includes_iff {part t : Text} : includes part t ↔ part <:+: t := by
  induction t with
  | nil => rw [includes, List.isEmpty_iff, List.infix_nil]
  | cons c rest ih =>
    rw [includes, Bool.or_eq_true, List.isPrefixOf_iff_prefix, ih, List.infix_cons_iff]

theorem prefix_append_cons_iff {part : Text} {c : Char} (hc : c ∉ part) (a b : Text) :
    part <+: a ++ c :: b ↔ part <+: a := by
  have hfront : a <+: a ++ c :: b := List.prefix_append a (c :: b)
  refine ⟨fun h => ?_, fun h => h.trans hfront⟩
  rcases List.prefix_or_prefix_of_prefix h hfront with hpart | ⟨rest, rfl⟩
  · exact hpart
  · rw [List.prefix_append_right_inj] at h
    cases rest with
    | nil => simp
    | cons d rest =>
      obtain ⟨rfl, -⟩ := List.cons_prefix_cons.mp h
      exact absurd (List.mem_append_right a List.mem_cons_self) hc

/-- A part lies on one side of every character that it does not have. -/
theorem infix_append_cons_iff {part : Text} {c : Char} (hc : c ∉ part) (a b : Text) :
    part <:+: a ++ c :: b ↔ part <:+: a ∨ part <:+: b := by
  induction a with
  | nil =>
    have hfront : part <+: c :: b ↔ part <+: [] := prefix_append_cons_iff hc [] b
    rw [List.nil_append, List.infix_cons_iff, hfront, List.prefix_nil, List.infix_nil]
  | cons d a ih =>
    rw [List.cons_append, List.infix_cons_iff, ← List.cons_append, prefix_append_cons_iff hc, ih,
      List.infix_cons_iff, or_assoc]

end Text

/-- Where the end of a comment is put behind a text in which none is even begun, it is the only
one. -/
theorem eq_of_append_commentEnd {body before after : Text}
    (hbody : ¬commentEnd <:+: body ++ ['*'])
    (h : body ++ commentEnd = before ++ commentEnd ++ after) : before = body ∧ after = [] := by
  rcases List.eq_nil_or_concat after with rfl | ⟨rest, c, rfl⟩
  · rw [List.append_nil] at h
    exact ⟨(List.append_cancel_right h).symm, rfl⟩
  · refine absurd ?_ hbody
    have hends : (body ++ ['*']) ++ ['/'] = (before ++ commentEnd ++ rest) ++ [c] := by
      simpa [commentEnd] using h
    rw [(List.append_inj' hends rfl).1]
    exact ⟨before, rest, rfl⟩

/-! ### Rounds -/

theorem commentText_eq_self {t : Text} (h : ¬commentEnd <:+: t) : commentText t = t := by
  rw [commentText, if_neg (mt Text.includes_iff.mp h)]

theorem not_infix_commentText (t : Text) : ¬commentEnd <:+: commentText t := by
  fun_induction commentText t with
  | case1 t _ ih => exact ih
  | case2 t h => exact mt Text.includes_iff.mpr h

/-- The rounds that it takes: as long as there is something to take out another one is made, each
makes the text shorter, and what is left after the last one is the result. -/
theorem commentText_rounds (t : Text) :
    ∃ n, n + (commentText t).length ≤ t.length ∧
      (∀ k < n, commentEnd <:+: dropCommentEnds^[k] t) ∧
      commentText t = dropCommentEnds^[n] t := by
  fun_induction commentText t with
  | case1 t h ih =>
    obtain ⟨n, hlength, hends, hresult⟩ := ih
    refine ⟨n + 1, ?_, fun k hk => ?_, hresult⟩
    · have hlt := length_dropCommentEnds_lt t h
      omega
    · cases k with
      | zero => exact Text.includes_iff.mp h
      | succ k => exact hends k (Nat.lt_of_succ_lt_succ hk)
  | case2 t h => exact ⟨0, by omega, fun k hk => absurd hk (Nat.not_lt_zero k), rfl⟩

/-! ### One pass -/

/-- One character further, with the characters that are kept so far, the nearest first: a slash
behind an asterisk takes it out, everything else is kept. -/
def cancelStep : Text → Char → Text
  | '*' :: kept, '/' => kept
  | kept, c => c :: kept

/-- The text after one pass from left to right that takes out each end of a comment as soon as it
forms. -/
def cancelEnds (t : Text) : Text := (t.foldl cancelStep []).reverse

theorem cancelStep_asterisk (kept : Text) : cancelStep kept '*' = '*' :: kept := by
  simp [cancelStep]

/-- A character is kept where no end of a comment forms. -/
theorem cancelStep_eq_cons {kept : Text} {c : Char}
    (h : ¬commentEnd <:+: kept.reverse ++ [c]) : cancelStep kept c = c :: kept := by
  unfold cancelStep
  split
  · next rest =>
    refine absurd ⟨rest.reverse, [], ?_⟩ h
    simp [commentEnd]
  · rfl

/-- The pass does not see whether some ends of comments have been taken out before. -/
theorem foldl_cancelStep_dropCommentEnds (t : Text) :
    ∀ kept, (dropCommentEnds t).foldl cancelStep kept = t.foldl cancelStep kept := by
  fun_induction dropCommentEnds t with
  | case1 rest ih =>
    intro kept
    rw [ih, List.foldl_cons, List.foldl_cons, cancelStep_asterisk]
    rfl
  | case2 c rest _ ih => exact fun kept => ih (cancelStep kept c)
  | case3 => exact fun _ => rfl

theorem cancelEnds_dropCommentEnds (t : Text) : cancelEnds (dropCommentEnds t) = cancelEnds t :=
  congrArg List.reverse (foldl_cancelStep_dropCommentEnds t [])

/-- The pass keeps a text in which no end of a comment forms. -/
theorem foldl_cancelStep_eq {t : Text} : ∀ kept : Text,
    ¬commentEnd <:+: kept.reverse ++ t → t.foldl cancelStep kept = t.reverse ++ kept := by
  induction t with
  | nil => exact fun _ _ => rfl
  | cons c rest ih =>
    intro kept h
    have hpush : cancelStep kept c = c :: kept := by
      refine cancelStep_eq_cons fun hends => h (hends.trans ?_)
      exact ⟨[], rest, by simp⟩
    rw [List.foldl_cons, hpush, ih (c :: kept) (by simpa using h)]
    simp

theorem cancelEnds_eq_self {t : Text} (h : ¬commentEnd <:+: t) : cancelEnds t = t := by
  rw [cancelEnds, foldl_cancelStep_eq [] h, List.append_nil, List.reverse_reverse]

/-- The rounds come to what one pass gives. -/
theorem commentText_eq_cancelEnds (t : Text) : commentText t = cancelEnds t := by
  fun_induction commentText t with
  | case1 t _ ih => rw [ih, cancelEnds_dropCommentEnds]
  | case2 t h => exact (cancelEnds_eq_self (mt Text.includes_iff.mpr h)).symm

/-! ### Comments that stand for a pass -/

/-- No end of a comment forms where parts that have none are set apart by blanks. -/
theorem not_infix_spaced {a m b : Text} (ha : ¬commentEnd <:+: a) (hm : ¬commentEnd <:+: m)
    (hb : ¬commentEnd <:+: b) : ¬commentEnd <:+: a ++ ' ' :: (m ++ ' ' :: b) := by
  have hblank : ' ' ∉ commentEnd := by decide
  rw [Text.infix_append_cons_iff hblank a (m ++ ' ' :: b), Text.infix_append_cons_iff hblank m b]
  exact not_or.mpr ⟨ha, not_or.mpr ⟨hm, hb⟩⟩

/-- The text is one comment: it is opened in front, and nowhere but at its very end is it closed. -/
def IsOneComment (text : Text) : Prop :=
  ∃ body : Text, text = "/*" ++ body ++ commentEnd ∧
    ∀ before after, text = before ++ commentEnd ++ after → before = "/*" ++ body ∧ after = []

/-- Whatever the message of an error is, the note on it is one comment. -/
theorem isOneComment_errorComment (e : RenderError) : IsOneComment (errorComment e) := by
  let opening : Text := " Error while generating output:"
  let body : Text := opening ++ ' ' :: (commentText e.message ++ [' '])
  have htext : errorComment e = "/*" ++ body ++ commentEnd := by
    have hnote : errorComment e =
        "/* Error while generating output: " ++ commentText e.message ++ " */" := rfl
    simp [hnote, body, opening, commentEnd]
  have hbody : ¬commentEnd <:+: "/*" ++ body ++ ['*'] := by
    have hopening : ¬commentEnd <:+: "/*" ++ opening := mt Text.includes_iff.mpr (by decide)
    have hasterisk : ¬commentEnd <:+: ['*'] := mt Text.includes_iff.mpr (by decide)
    have hspaced := not_infix_spaced hopening (not_infix_commentText e.message) hasterisk
    simpa only [body, List.append_assoc, List.cons_append, List.nil_append] using hspaced
  exact ⟨body, htext, fun before after h => eq_of_append_commentEnd hbody (htext.symm.trans h)⟩

/-- Text in a comment stays in it. The rounds that take out ends of comments come to an end, and
what they leave has none; it is what one pass with a stack leaves, and is left as it is by another
time, as is a text that has none. So the note that stands for a pass that fails is one comment. -/
theorem comment_text_stays_inside (t : Text) :
    (∃ n, n + (commentText t).length ≤ t.length ∧
        (∀ k < n, commentEnd <:+: dropCommentEnds^[k] t) ∧
        commentText t = dropCommentEnds^[n] t) ∧
      ¬commentEnd <:+: commentText t ∧
      commentText t = cancelEnds t ∧
      commentText (commentText t) = commentText t ∧
      (¬commentEnd <:+: t → commentText t = t) ∧
      ∀ c context sources e, tryRender c context sources = .error e →
        IsOneComment (render c context sources).1 := by
  have hfree : ¬commentEnd <:+: commentText t := not_infix_commentText t
  refine ⟨commentText_rounds t, hfree, commentText_eq_cancelEnds t, commentText_eq_self hfree,
    commentText_eq_self, fun c context sources e he => ?_⟩
  have hnote : (render c context sources).1 = errorComment e := by rw [render, he]
  rw [hnote]
  exact isOneComment_errorComment e

/-- A separator that is too long is named in the note, and would end it early; two rounds are needed
for it. -/
theorem long_separator_stays_inside :
    let c : Config := { Config.default with pathSeparator := "a **//*/ b" }
    let x := Context.of ⟨["gap"]⟩ .defaults
    let note : Text :=
      "/* Error while generating output: pathSeparator 'a  b' is longer than 5 characters */"
    commentText c.pathSeparator = "a  b" ∧
      tryRender c x [] = .error (.config (.separatorTooLong .pathSeparator c.pathSeparator)) ∧
      (render c x []).1 = note ∧ IsOneComment note := by
  intro c x note
  obtain ⟨-, -, hpass, -, -, hcloses⟩ := comment_text_stays_inside c.pathSeparator
  have hfails : tryRender c x [] =
      .error (.config (.separatorTooLong .pathSeparator c.pathSeparator)) := by
    have hfault : c.fault = some (.separatorTooLong .pathSeparator c.pathSeparator) := by
      decide +kernel
    rw [tryRender, hfault]
  have hnote : (render c x []).1 = note := by
    rw [render, hfails]
    show "/* Error while generating output: " ++ commentText _ ++ " */" = note
    rw [commentText_eq_cancelEnds]
    decide +kernel
  exact ⟨hpass.trans (by decide +kernel), hfails, hnote, hnote ▸ hcloses c x [] _ hfails⟩

end DesignTokens
