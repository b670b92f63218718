import FormScaffold.Arrangement
import FormScaffold.Proofs.Code.Lines
import FormScaffold.Proofs.Text.Words

/-!
# What a layout does with the parts of a form

A layout stands around the parts and moves them in, and that is all it does: every line and every
gap of every part is there once and in order, whatever the parts are.  Where they stand is decided
by the layout and the title alone, and the classes of the container are the words of its class list
(`Parts.arranged_in_order`).
-/

namespace FormScaffold

open Code (marks moveIn)
open Text (IsWord Worded)

/-! ## The frame around the parts -/

/-- The lines, each with its depth, that stand around the fields and the buttons of a form, and the
levels by which these are moved in. -/
structure Frame where
  opening : List (Nat × String)
  fieldLevels : Nat
  separator : List (Nat × String)
  actionLevels : Nat
  closing : List (Nat × String)

/-- The lines and gaps of the fields and of the buttons in a frame. -/
def Frame.around (frame : Frame) (fields actions : List (Option (Nat × String))) :
    List (Option (Nat × String)) :=
  frame.opening.map some ++ moveIn frame.fieldLevels fields ++
    frame.separator.map some ++ moveIn frame.actionLevels actions ++ frame.closing.map some

/-- What a layout puts around the parts of a form with a title. -/
def Layout.frame (title : String) : Layout → Frame
  | .stacked =>
    { opening := [(0, "<div className=\"space-y-8\">")]
      fieldLevels := 1
      separator := [(1, "<div className=\"flex justify-between items-center\">")]
      actionLevels := 2
      closing := [(1, "</div>"), (0, "</div>")] }
  | .card =>
    { opening :=
        [ (0, "<Card>"),
          (1, "<CardHeader>"),
          (2, "<CardTitle>" ++ Quoted.childText title ++ "</CardTitle>"),
          (2, "<CardDescription>" ++ Parts.cardDescription ++ "</CardDescription>"),
          (1, "</CardHeader>"),
          (1, "<CardContent className=\"space-y-8\">") ]
      fieldLevels := 2
      separator :=
        [(1, "</CardContent>"), (1, "<CardFooter className=\"flex justify-between\">")]
      actionLevels := 2
      closing := [(1, "</CardFooter>"), (0, "</Card>")] }
  | .inline =>
    { opening := [(0, "<div className=\"flex items-center space-x-4\">")]
      fieldLevels := 1
      separator := []
      actionLevels := 1
      closing := [(0, "</div>")] }

namespace Parts

/-- A link that is not there has no lines among the buttons. -/
theorem flatMap_marks_actions (parts : Parts) (depth : Nat) :
    parts.actions.flatMap (marks depth) =
      (parts.buttons ++ parts.link.toList).flatMap (marks depth) := by
  cases hlink : parts.link with
  | none => simp [actions, hlink, marks]
  | some link => simp [actions, hlink]

/-- The lines and gaps of the parts in a layout. -/
theorem marks_arrange (parts : Parts) (layout : Layout) :
    (parts.arrange layout).marks 0 =
      (layout.frame parts.title).around (parts.fields.flatMap (marks 0))
        ((parts.buttons ++ parts.link.toList).flatMap (marks 0)) := by
  rw [Frame.around, ← Code.flatMap_marks, ← Code.flatMap_marks]
  cases layout with
  | stacked => simp [arrange, Layout.frame, Code.marks_seq, flatMap_marks_actions]
  | card => simp [arrange, Layout.frame, cardHeader, Code.marks_seq, flatMap_marks_actions]
  | inline => simp [arrange, Layout.frame, Code.marks_seq, flatMap_marks_actions]

end Parts

/-! ## The classes of the container -/

/-- The classes that a container may have, apart from those of its width. -/
def fixedClasses : List String :=
  [ "flex", "flex-col", "items-start", "mx-auto", "items-end", "justify-start", "justify-center",
    "justify-end", "min-h-screen" ]

theorem mem_containerClasses {horizontal : Option HorizontalAlign}
    {vertical : Option VerticalAlign} {width c : String}
    (h : c ∈ containerClasses horizontal vertical width) :
    c ∈ fixedClasses ∨ c ∈ Text.words width := by
  have hcolumn : ∀ c ∈ ["flex", "flex-col", "min-h-screen"], c ∈ fixedClasses := by decide
  have hhorizontal (align : HorizontalAlign) : align.className ∈ fixedClasses := by
    cases align <;> decide
  have hvertical (align : VerticalAlign) : align.className ∈ fixedClasses := by
    cases align <;> decide
  simp only [containerClasses, List.mem_append, Option.mem_toList, Option.map_eq_some_iff] at h
  rcases h with (((h | ⟨align, -, rfl⟩) | ⟨align, -, rfl⟩) | h) | h
  · exact .inl (hcolumn c (List.mem_append_left ["min-h-screen"] h))
  · exact .inl (hhorizontal align)
  · exact .inl (hvertical align)
  · exact .inl (hcolumn c (List.mem_append_right ["flex", "flex-col"] h))
  · exact .inr h

theorem isWord_of_mem_containerClasses {horizontal : Option HorizontalAlign}
    {vertical : Option VerticalAlign} {width c : String}
    (h : c ∈ containerClasses horizontal vertical width) : IsWord c.toList := by
  have hfixed : ∀ c ∈ fixedClasses, IsWord c.toList := by decide
  rcases mem_containerClasses h with h | h
  · exact hfixed c h
  · exact (Text.worded_words width).isWord c h

/-- The parts of a form stand in a layout as they are: all fields in order and then all buttons and
the link, in a frame that depends on the layout and the title only.  The words of the class list of
the container are its classes, and the last of these are the words of the width. -/
theorem Parts.arranged_in_order (parts : Parts) (layout : Layout)
    (horizontal : Option HorizontalAlign) (vertical : Option VerticalAlign) (width : String) :
    (parts.arrange layout).marks 0 =
        (layout.frame parts.title).around (parts.fields.flatMap (marks 0))
          ((parts.buttons ++ parts.link.toList).flatMap (marks 0)) ∧
      (∀ classes, Worded (containerClass horizontal vertical width).toList classes ↔
        classes = containerClasses horizontal vertical width) ∧
      ∃ words, Worded width.toList words ∧
        containerClasses horizontal vertical width =
          ["flex", "flex-col"] ++ (horizontal.map (·.className)).toList ++
            (vertical.map (·.className)).toList ++ "min-h-screen" :: words := by
  refine ⟨parts.marks_arrange layout, fun classes => ?_, ?_⟩
  · have hwords : Text.words (containerClass horizontal vertical width) =
        containerClasses horizontal vertical width :=
      Text.words_intercalate fun _ => isWord_of_mem_containerClasses
    rw [← Text.words_eq_iff, hwords, eq_comm]
  · refine ⟨Text.words width, Text.worded_words width, ?_⟩
    rw [containerClasses, List.append_assoc _ ["min-h-screen"], List.singleton_append]

end FormScaffold
