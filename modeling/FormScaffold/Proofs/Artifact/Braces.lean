import FormScaffold.Proofs.Artifact.Parts
import FormScaffold.Proofs.Artifact.References

/-!
# Braces of the artifacts

The source of a valid form closes every brace and every literal that it opens, artifact by
artifact, so that no text of the form can open or close a block (`Form.balanced_contents`).
-/

namespace FormScaffold

open BraceReader (Plain Quotable Reads Turns)
open BraceReader (turns_braced turns_childText turns_literal)
open Quoted (braced)

/-! ## The schema -/

theorem Constraint.turns_method (c : Constraint) : Turns c.method 0 0 := by
  rw [method]
  split
  · exact .between (by decide) (turns_literal _ 0) (by decide)
  · refine .between (.between (by decide) ?_ (by decide)) (turns_literal _ 0) (by decide)
    exact (plain_decimal _).turns 0
  · refine .between (.between (by decide) ?_ (by decide)) (turns_literal _ 0) (by decide)
    exact (plain_decimal _).turns 0
  · decide
  · decide
  · exact .between (by decide) (turns_literal _ 0) (by decide)
  · exact .between (by decide) (turns_literal _ 0) (by decide)

theorem Constraint.turns_schemaExpression (chain : List Constraint) :
    Turns (schemaExpression chain) 0 0 := by
  refine .append (by split <;> decide) ?_
  induction chain with
  | nil => decide
  | cons c chain ih =>
    rw [List.map_cons, String.join_cons]
    exact .append c.turns_method ih

namespace Form

section Valid

variable {form : Form} (h : form.Valid)
include h

theorem Valid.plain_name : Plain form.name := plain_of_isIdentifier h.name

theorem Valid.plain_schemaSymbol : Plain form.naming.schemaSymbol :=
  h.plain_name.append (by decide)

theorem Valid.plain_actionSymbol : Plain form.naming.actionSymbol :=
  h.plain_name.append (by decide)

theorem Valid.plain_valuesType : Plain form.naming.valuesType :=
  ((show Plain "z.infer<typeof " by decide).append h.plain_schemaSymbol).append (by decide)

theorem Valid.plain_importPath (source target : Role) :
    Plain (form.naming.importPath source target) := by
  refine List.all_eq_true.mpr fun c hc => ?_
  rcases Naming.mem_toList_importPath h.name hc with rfl | rfl | hword
  · decide
  · decide
  · exact isPlain_of_continuesIdentifier hword

theorem Valid.turns_schemaImport (source : Role) :
    (form.naming.schemaImport source).code.Turns 0 0 := by
  refine Import.turns_named (fun s hs => ?_) (h.plain_importPath source .schema)
  rw [List.mem_singleton.mp hs]
  exact h.plain_schemaSymbol

theorem Valid.turns_schema : form.schema.Turns 0 0 := by
  have hvalues : Plain form.naming.valuesSymbol := h.plain_name.append (by decide)
  refine .cons ?_ (.cons (.gap 0) (.cons ?_ (.cons (.gap 0) (.cons (.line ?_) (.nil 0)))))
  · exact Import.turns_named (by decide) (by decide)
  · refine .braces ?_ (.seq fun part hpart => ?_) (by decide)
    · exact .between (by decide) (h.plain_schemaSymbol.turns 0) (by decide)
    · obtain ⟨f, hf, rfl⟩ := List.mem_map.mp hpart
      have hname : Plain f.name := plain_of_isIdentifier (h.fieldNames f hf)
      refine .line (.between (.append (hname.turns 1) (by decide)) ?_ (by decide))
      exact (Constraint.turns_schemaExpression f.constraints).within 1
  · refine .between (.between (by decide) (hvalues.turns 0) (by decide)) ?_ (by decide)
    exact h.plain_valuesType.turns 0

/-! ## The server -/

theorem Valid.turns_serverImports (source : Role) : (form.serverImports source).Turns 0 0 := by
  refine .cons (h.turns_schemaImport source) (.cons (.when fun _ => ?_) (.nil 0))
  exact Import.turns_default (by decide) (h.plain_importPath source .databaseClient)

end Valid

theorem turns_processing (form : Form) {value : String} (hvalue : Plain value) :
    (form.processing value).Turns 0 0 := by
  rw [processing]
  split
  · refine .cons (.line (by decide)) (.cons (.line ?_) (.cons (.line ?_) (.cons (.line ?_)
      (.nil 0))))
    · exact .between (by decide) (turns_literal _ 0) (by decide)
    · exact .between (by decide) (turns_literal _ 0) (by decide)
    · exact .between (by decide) (hvalue.turns 0) (by decide)
  · exact .cons (.line (by decide)) (.cons (.line (by decide)) (.nil 0))

theorem turns_failureResult : Turns failureResult 0 0 := by
  refine (Reads.append (show Turns _ 0 1 by decide) (?_ : Turns caughtMessage 1 1)).append
    (show Turns _ 1 0 by decide)
  exact .append (by decide) (turns_literal _ 1)

theorem turns_guarded {attempt failure : Code} (ha : attempt.Turns 0 0)
    (hf : failure.Turns 0 0) : (guarded attempt failure).Turns 0 0 := by
  refine turns_tryCatch ha hf ?_
  exact .seq_cons (.line (show Turns _ 1 0 by decide)) (.nil 0)

section Valid

variable {form : Form} (h : form.Valid)
include h

theorem Valid.turns_serverActionCode : form.serverActionCode.Turns 0 0 := by
  have hattempt : Code.Turns (.seq
      [ .line ("const validatedData = " ++ form.naming.schemaSymbol ++ ".parse(data);"), .gap,
        form.processing "validatedData", .gap,
        .line "return \x7b success: true, data: validatedData \x7d;" ]) 0 0 := by
    refine .cons (.line ?_) (.cons (.gap 0) (.cons (form.turns_processing (by decide))
      (.cons (.gap 0) (.cons (.line (by decide)) (.nil 0)))))
    exact .between (by decide) (h.plain_schemaSymbol.turns 0) (by decide)
  have hfailure : Code.Turns (.seq
      [ .line "console.error(\"Server action error:\", error);",
        .line ("return " ++ failureResult ++ ";") ]) 0 0 := by
    refine .cons (.line (by decide)) (.cons (.line ?_) (.nil 0))
    exact .between (by decide) turns_failureResult (by decide)
  refine .cons (.line (by decide)) (.cons (.gap 0) (.cons (h.turns_serverImports .serverAction)
    (.cons (.gap 0) (.cons (.braces ?_ ?_ (by decide)) (.nil 0)))))
  · exact .between (by decide) (h.plain_actionSymbol.turns 0) (by decide)
  · exact (turns_guarded hattempt hfailure).within 1

theorem Valid.turns_appRoute : form.appRoute.Turns 0 0 := by
  have hattempt : Code.Turns (.seq
      [ .line "const body = await req.json();",
        .line ("const data = " ++ form.naming.schemaSymbol ++ ".parse(body);"), .gap,
        form.processing "data", .gap,
        .line "return NextResponse.json(\x7b success: true, data \x7d);" ]) 0 0 := by
    refine .cons (.line (by decide)) (.cons (.line ?_) (.cons (.gap 0)
      (.cons (form.turns_processing (by decide)) (.cons (.gap 0) (.cons (.line (by decide))
        (.nil 0))))))
    exact .between (by decide) (h.plain_schemaSymbol.turns 0) (by decide)
  have hfailure : Code.Turns (.seq
      [ .line "console.error(\"API route error:\", error);",
        .line "return NextResponse.json(",
        .indent (.seq [.line (failureResult ++ ","), .line "\x7b status: 400 \x7d,"]),
        .line ");" ]) 0 0 := by
    refine .cons (.line (by decide)) (.cons (.line (by decide)) (.cons (.indent ?_)
      (.cons (.line (by decide)) (.nil 0))))
    refine .cons (.line ?_) (.cons (.line (by decide)) (.nil 0))
    exact .append turns_failureResult (by decide)
  refine .cons ?_ (.cons (h.turns_serverImports .apiRoute) (.cons (.gap 0)
    (.cons (.braces (by decide) ?_ (by decide)) (.nil 0))))
  · exact Import.turns_named (by decide) (by decide)
  · exact (turns_guarded hattempt hfailure).within 1

theorem Valid.turns_pagesRoute : form.pagesRoute.Turns 0 0 := by
  have hattempt : Code.Turns (.seq
      [ .line ("const data = " ++ form.naming.schemaSymbol ++ ".parse(req.body);"), .gap,
        form.processing "data", .gap,
        .line "res.status(200).json(\x7b success: true, data \x7d);" ]) 0 0 := by
    refine .cons (.line ?_) (.cons (.gap 0) (.cons (form.turns_processing (by decide))
      (.cons (.gap 0) (.cons (.line (by decide)) (.nil 0)))))
    exact .between (by decide) (h.plain_schemaSymbol.turns 0) (by decide)
  have hfailure : Code.Turns (.seq
      [ .line "console.error(\"API route error:\", error);",
        .line ("res.status(400).json(" ++ failureResult ++ ");") ]) 0 0 := by
    refine .cons (.line (by decide)) (.cons (.line ?_) (.nil 0))
    exact .between (by decide) turns_failureResult (by decide)
  refine .cons ?_ (.cons (h.turns_serverImports .apiRoute) (.cons (.gap 0)
    (.cons (.braces (by decide) (.cons ?_ (.cons (.gap 1) (.cons ?_ (.nil 1)))) (by decide))
      (.nil 0))))
  · exact Import.turns_types (by decide) (by decide)
  · refine .braces (by decide) ?_ (by decide)
    exact .cons (.line (by decide)) (.cons (.line (by decide)) (.cons (.line (by decide)) (.nil 2)))
  · exact (turns_guarded hattempt hfailure).within 1

theorem Valid.turns_apiRouteCode : form.apiRouteCode.Turns 0 0 := by
  rw [apiRouteCode]
  split
  · exact h.turns_appRoute
  · exact h.turns_pagesRoute

end Valid

theorem turns_databaseConnection : databaseConnection.Turns 0 0 := by
  have hvariable : Plain databaseVariableRead := by decide
  have hcheck : Code.Turns (.block ("if (!" ++ databaseVariableRead ++ ") \x7b")
      (.line ("throw new Error('Invalid/Missing environment variable: \"" ++ databaseVariable ++
        "\"');")) "\x7d") 0 0 := by
    refine .braces ?_ (.line ?_) (by decide)
    · exact .between (by decide) (hvariable.turns 0) (by decide)
    · exact (show Quotable databaseVariable by decide).turns_between (by decide) (by decide)
  refine .cons ?_ (.cons (.gap 0) (.cons hcheck (.cons (.gap 0) (.cons (.line ?_) ?_))))
  · exact Import.turns_named (by decide) (by decide)
  · exact .between (by decide) (hvariable.turns 0) (by decide)
  · decide +kernel

theorem turns_databaseClientCode (form : Form) : form.databaseClientCode.Turns 0 0 := by
  refine .cons turns_databaseConnection (.cons (.gap 0) (.cons ?_ (.nil 0)))
  split
  · refine .cons (.line ?_) (.cons (.line ?_) (.nil 0))
    · exact .between (by decide) (turns_literal _ 0) (by decide)
    · exact .between (by decide) (turns_literal _ 0) (by decide)
  · exact .empty 0

/-! ## The component -/

theorem turns_themeStyle (form : Form) : form.themeStyle.Turns 0 0 := by
  rw [themeStyle]
  split
  · exact .empty 0
  · refine .braces (by decide) (.cons (.line ?_) (.cons (.line ?_) (.nil 1))) (by decide)
    · exact .between (by decide) (turns_literal _ 1) (by decide)
    · exact .between (by decide) (turns_literal _ 1) (by decide)

theorem turns_of_mem_buttonsFrom (form : Form) {position : Nat} {buttons : List Button}
    {code : Code} (h : code ∈ form.buttonsFrom position buttons) : code.Turns 0 0 := by
  induction buttons generalizing position with
  | nil => exact absurd h List.not_mem_nil
  | cons b bs ih =>
    rcases List.mem_cons.mp h with rfl | h
    · exact b.turns_markup _ _
    · exact ih h

section Valid

variable {form : Form} (h : form.Valid)
include h

theorem Valid.turns_componentImports : form.componentImports.Turns 0 0 := by
  have hlibrary {name : String} (hname : Plain name) : Plain (libraryModule name) :=
    (show Plain "@/components/ui/" by decide).append hname
  refine .cons (Import.turns_named ?_ (by decide)) (.cons (Import.turns_named ?_ (by decide))
    (.cons (Import.turns_named ?_ (by decide)) (.cons (Import.turns_named ?_ (by decide))
    (.cons (.when fun _ => Import.turns_default (by decide) (by decide))
    (.cons (Import.turns_named ?_ (hlibrary (by decide)))
    (.cons (.when fun _ => Import.turns_named ?_ (hlibrary (by decide)))
    (.cons (.when fun _ => Import.turns_named ?_ (hlibrary (by decide)))
    (.cons (Import.turns_named ?_ (hlibrary (by decide)))
    (.cons (.when fun _ => Import.turns_named ?_ (hlibrary (by decide)))
    (.cons (h.turns_schemaImport .component)
    (.cons (.when fun _ => Import.turns_named ?_ (h.plain_importPath _ _)) (.nil 0))))))))))))
  · split <;> decide
  · decide
  · decide
  · decide
  · decide
  · decide
  · decide
  · decide
  · decide
  · intro s hs
    rw [List.mem_singleton.mp hs]
    exact h.plain_actionSymbol

theorem Valid.turns_view : form.view.Turns 0 0 := by
  have hopening : Turns form.containerOpening 0 0 := by
    refine .between ?_ ?_ (by decide)
    · exact (quotable_containerClass _ _ h.width).turns_between (by decide) (by decide)
    · split
      · exact .append (by decide) (turns_braced (by decide))
      · decide
  have hparts : (form.parts.arrange form.layout).Turns 0 0 := by
    refine Parts.turns_arrange (fun f hf => ?_) (fun b hb => form.turns_of_mem_buttonsFrom hb)
      (fun l hl => ?_) _
    · obtain ⟨field, hfield, rfl⟩ := List.mem_map.mp hf
      exact Field.turns_markup (h.fieldNames field hfield)
    · obtain ⟨link, -, rfl⟩ := Option.map_eq_some_iff.mp hl
      exact link.turns_markup
  have hform : Turns ("<form onSubmit=" ++ braced "form.handleSubmit(onSubmit)" ++
      " className=\"space-y-8 w-full\">") 0 0 :=
    .between (by decide) (turns_braced (by decide)) (by decide)
  refine .element hopening (.cons (.line ?_) (.cons (.element ?_ ?_ (by decide))
    (.cons (.when fun _ => .line (turns_braced ?_)) (.cons (.line (turns_braced ?_)) (.nil 0)))))
    (by decide)
  · exact .between (by decide) (turns_childText _ 0) (by decide)
  · exact .between (by decide) (turns_braced (by decide)) (by decide)
  · exact .element hform hparts (by decide)
  · exact .between (by decide) (turns_braced (by decide)) (by decide)
  · exact .between (by decide) (turns_braced (by decide)) (by decide)

theorem Valid.turns_componentBody : form.componentBody.Turns 0 0 := by
  have hdefaults : form.defaultValues.Turns 0 0 := by
    refine .seq fun part hpart => ?_
    obtain ⟨f, hf, rfl⟩ := List.mem_map.mp hpart
    exact .line (.append ((plain_of_isIdentifier (h.fieldNames f hf)).turns 0) (by decide))
  refine .cons form.submission.turns_stateHooks (.cons (.braces ?_ ?_ (by decide))
    (.cons (.gap 0) (.cons (.braces ?_ ?_ (by decide)) (.cons (.gap 0)
    (.cons (.element (by decide) h.turns_view (by decide)) (.nil 0))))))
  · exact .between (by decide) (h.plain_valuesType.turns 0) (by decide)
  · refine .cons (.line ?_) (.cons (.braces (by decide) (hdefaults.within 2) (by decide)) (.nil 1))
    exact .between (by decide) (h.plain_schemaSymbol.turns 1) (by decide)
  · exact .between (by decide) (h.plain_valuesType.turns 0) (by decide)
  · exact (form.submission.turns_handler h.name).within 1

theorem Valid.turns_component : form.component.Turns 0 0 := by
  have hcomponent : Plain form.naming.componentSymbol := h.plain_name.append (by decide)
  refine .cons (.line (by decide)) (.cons (.gap 0) (.cons h.turns_componentImports (.cons (.gap 0)
    (.cons form.turns_themeStyle (.cons (.gap 0) (.cons (.braces ?_ ?_ (by decide)) (.nil 0)))))))
  · exact .between (by decide) (hcomponent.turns 0) (by decide)
  · exact h.turns_componentBody.within 1

end Valid

/-! ## All artifacts -/

theorem Valid.turns_code {form : Form} (h : form.Valid) (role : Role) :
    (form.code role).Turns 0 0 := by
  cases role with
  | component => exact h.turns_component
  | schema => exact h.turns_schema
  | serverAction => exact h.turns_serverActionCode
  | apiRoute => exact h.turns_apiRouteCode
  | databaseClient => exact form.turns_databaseClientCode
  | snapshot => exact .empty 0

/-- No text of a form opens or closes a block or a literal of the source that is generated. -/
theorem balanced_contents {form : Form} {artifacts : List Artifact}
    (h : form.generate = .ok artifacts) :
    ∀ a ∈ artifacts, a.role ≠ .snapshot → BraceReader.Balanced a.contents := by
  intro a ha hrole
  obtain ⟨hvalid, rfl⟩ := valid_of_generate h
  obtain ⟨role, -, rfl⟩ := List.mem_map.mp ha
  have hcontents : form.contents role = (form.code role).render := form.contents_eq_render hrole
  show BraceReader.Balanced (form.contents role)
  rw [hcontents]
  exact Code.balanced_render (hvalid.turns_code role)

/-- A form whose texts hold quotes, backslashes, line feeds and unmatched braces. -/
def unmatchedTexts : Form :=
  { named "contact" with
    fields :=
      [{ name := "email", label := "\x7d\n\x7b\x7b", placeholder := "\x22\\\x7d", type := .email,
         rules := "required", message := some "\x22);\x7d" }]
    buttons := [{ text := "Send \x7b", variant := .default }]
    successMessage := "\\\x22\x7d"
    link := some { text := "</a>\x7d", target := "/\x22\x7b" } }

theorem balanced_contents_unmatchedTexts :
    unmatchedTexts.generate = .ok unmatchedTexts.artifacts ∧
      ∀ a ∈ unmatchedTexts.artifacts, a.role ≠ .snapshot → BraceReader.Balanced a.contents := by
  have h : unmatchedTexts.generate = .ok unmatchedTexts.artifacts :=
    generate_of_valid (by decide) (by decide)
  exact ⟨h, balanced_contents h⟩

end Form

end FormScaffold
