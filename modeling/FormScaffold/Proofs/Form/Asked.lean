import FormScaffold.Proofs.Dialogue.Ensured
import FormScaffold.Proofs.Dialogue.Held
import FormScaffold.Proofs.Form.Valid

/-!
# Forms that were asked for

The questions for a form ensure all that a valid form needs, except for one thing: the names of a
database and a collection may hold quotes, backslashes and white space inside
(`Form.validate_of_yields`).  At a terminal, whatever keys are pressed there, no other forms come of
the questions (`Form.run_questions`).
-/

namespace FormScaffold

open Dialogue (Ensures Reaches Yields ensures_color ensures_count ensures_filled ensures_trimmed
  ensures_withFallback reaches_bind_iff reaches_filled refuseUnless_eq_none_iff wellPosed_choose
  wellPosed_count wellPosed_say wellPosed_text wellPosed_trimmed wellPosed_yesNo)

theorem Text.ne_empty_of_not_allBlank {s : String} (h : ¬Text.AllBlank s) : s ≠ "" := by
  rintro rfl
  exact h (by decide)

/-! ## Parts of a form -/

theorem Link.ensures_question :
    Link.question.Ensures fun l => ¬Text.AllBlank l.text ∧ ¬Text.AllBlank l.target :=
  (ensures_filled _ _).bind fun _ htext => (ensures_filled _ _).bind fun _ htarget =>
    ⟨htext, htarget⟩

theorem Theme.ensures_question :
    Theme.question.Ensures fun t =>
      isHexColor t.primary = true ∧ isHexColor t.secondary = true :=
  (ensures_color _).bind fun _ hprimary => (ensures_color _).bind fun _ hsecondary =>
    ⟨hprimary, hsecondary⟩

/-- The names of a storage are only asked not to be blank. -/
theorem Storage.ensures_question :
    Storage.question.Ensures fun s =>
      ¬Text.AllBlank s.database ∧ ¬Text.AllBlank s.collection :=
  (ensures_filled _ _).bind fun _ hdatabase => (ensures_filled _ _).bind fun _ hcollection =>
    ⟨hdatabase, hcollection⟩

/-- Any names that are not blank are let pass. -/
theorem Storage.reaches_question {database collection : String}
    (hdatabase : ¬Text.AllBlank (Text.trim database))
    (hcollection : ¬Text.AllBlank (Text.trim collection)) :
    Reaches Storage.question ⟨Text.trim database, Text.trim collection⟩ := by
  refine reaches_bind_iff.mpr ⟨_, reaches_filled _ _ hdatabase, ?_⟩
  exact reaches_bind_iff.mpr ⟨_, reaches_filled _ _ hcollection, .done _⟩

/-! ## Fields and buttons -/

/-- Names of fields that can stand together. -/
structure WellNamed (fields : List Field) : Prop where
  identifiers : ∀ f ∈ fields, isIdentifier f.name = true
  distinct : (fields.map (·.name)).Nodup

theorem fieldNameRefusal?_eq_none_iff {taken : List Field} {name : String} :
    fieldNameRefusal? taken name = none ↔
      isIdentifier name = true ∧ ∀ f ∈ taken, f.name ≠ name := by
  rw [fieldNameRefusal?]
  by_cases hname : isIdentifier name = true
  · simp [hname]
  · simp [hname]

theorem Field.ensures_question (taken : List Field) :
    (Field.question taken).Ensures fun field =>
      isIdentifier field.name = true ∧ ∀ f ∈ taken, f.name ≠ field.name := by
  refine (Ensures.trivial (Dialogue.say _)).bind fun _ _ => ?_
  refine (ensures_trimmed _ _ _).bind fun name hname => ?_
  refine (ensures_filled _ _).bind fun label _ => ?_
  refine (Ensures.trivial _).bind fun placeholder _ => ?_
  refine (Ensures.trivial _).bind fun type _ => ?_
  refine (Ensures.trivial _).bind fun rules _ => ?_
  refine (Ensures.trivial _).bind fun message _ => ?_
  exact fieldNameRefusal?_eq_none_iff.mp hname

theorem WellNamed.append {taken : List Field} {field : Field} (h : WellNamed taken)
    (hname : isIdentifier field.name = true) (hnew : ∀ f ∈ taken, f.name ≠ field.name) :
    WellNamed (taken ++ [field]) where
  identifiers f hf := by
    rcases List.mem_append.mp hf with hf | hf
    · exact h.identifiers f hf
    · rw [List.mem_singleton.mp hf]
      exact hname
  distinct := by
    rw [List.map_append, List.map_singleton, List.nodup_append]
    refine ⟨h.distinct, by simp, fun a ha b hb => ?_⟩
    obtain ⟨f, hf, rfl⟩ := List.mem_map.mp ha
    rw [List.mem_singleton.mp hb]
    exact hnew f hf

/-- Each further field keeps the names apart. -/
theorem Form.ensures_fieldQuestions (left : Nat) {taken : List Field} (h : WellNamed taken) :
    (Form.fieldQuestions left taken).Ensures WellNamed := by
  induction left generalizing taken with
  | zero => exact h
  | succ left ih =>
    exact (Field.ensures_question taken).bind fun field hfield => ih (h.append hfield.1 hfield.2)

theorem Button.ensures_question (taken : Nat) :
    (Button.question taken).Ensures fun b => ¬Text.AllBlank b.text := by
  refine (Ensures.trivial (Dialogue.say _)).bind fun _ _ => ?_
  exact (ensures_filled _ _).bind fun text htext => (Ensures.trivial _).bind fun _ _ => htext

/-- There are as many buttons as were asked for, and each has a text. -/
theorem Form.ensures_buttonQuestions (left : Nat) {taken : List Button}
    (h : ∀ b ∈ taken, ¬Text.AllBlank b.text) :
    (Form.buttonQuestions left taken).Ensures fun buttons =>
      buttons.length = taken.length + left ∧ ∀ b ∈ buttons, ¬Text.AllBlank b.text := by
  induction left generalizing taken with
  | zero => exact ⟨rfl, h⟩
  | succ left ih =>
    refine (Button.ensures_question taken.length).bind fun button hbutton => ?_
    have htaken : ∀ b ∈ taken ++ [button], ¬Text.AllBlank b.text := by
      intro b hb
      rcases List.mem_append.mp hb with hb | hb
      · exact h b hb
      · rw [List.mem_singleton.mp hb]
        exact hbutton
    refine (ih htaken).mono fun buttons hbuttons => ⟨?_, hbuttons.2⟩
    rw [hbuttons.1, List.length_append, List.length_singleton]
    omega

/-! ## Questions at a terminal -/

theorem Link.wellPosed_question : Link.question.WellPosed :=
  (wellPosed_trimmed _ _ _).bind fun _ => (wellPosed_trimmed _ _ _).bind fun _ => True.intro

theorem Theme.wellPosed_question : Theme.question.WellPosed :=
  (wellPosed_trimmed _ _ _).bind fun _ => (wellPosed_trimmed _ _ _).bind fun _ => True.intro

theorem Storage.wellPosed_question : Storage.question.WellPosed :=
  (wellPosed_trimmed _ _ _).bind fun _ => (wellPosed_trimmed _ _ _).bind fun _ => True.intro

theorem Field.wellPosed_question (taken : List Field) : (Field.question taken).WellPosed := by
  refine (wellPosed_say _).bind fun _ => ?_
  refine (wellPosed_trimmed _ _ _).bind fun name => ?_
  refine (wellPosed_trimmed _ _ _).bind fun label => ?_
  refine (wellPosed_text _).bind fun placeholder => ?_
  refine (wellPosed_choose _ _ (by decide)).bind fun type => ?_
  refine (wellPosed_text _).bind fun rules => ?_
  exact (wellPosed_text _).bind fun message => True.intro

theorem Button.wellPosed_question (taken : Nat) : (Button.question taken).WellPosed := by
  refine (wellPosed_say _).bind fun _ => ?_
  refine (wellPosed_trimmed _ _ _).bind fun text => ?_
  exact (wellPosed_choose _ _ (by decide)).bind fun variant => True.intro

namespace Form

theorem wellPosed_fieldQuestions (left : Nat) (taken : List Field) :
    (fieldQuestions left taken).WellPosed := by
  induction left generalizing taken with
  | zero => exact True.intro
  | succ left ih => exact (Field.wellPosed_question taken).bind fun field => ih _

theorem wellPosed_buttonQuestions (left : Nat) (taken : List Button) :
    (buttonQuestions left taken).WellPosed := by
  induction left generalizing taken with
  | zero => exact True.intro
  | succ left ih => exact (Button.wellPosed_question taken.length).bind fun button => ih _

theorem wellPosed_questions : questions.WellPosed := by
  refine (wellPosed_trimmed _ _ _).bind fun name => ?_
  refine (wellPosed_count _ _ _).bind fun fieldCount => ?_
  refine (wellPosed_count _ _ _).bind fun buttonCount => ?_
  refine (wellPosed_count _ _ _).bind fun submitIndex => ?_
  refine (wellPosed_ifWanted _ Link.wellPosed_question).bind fun link => ?_
  refine (wellPosed_choose _ _ (by decide)).bind fun routing => ?_
  extract_lets routed
  have hrouted (serverAction : Bool) : (routed serverAction).WellPosed := by
    dsimp -zeta only [routed]
    extract_lets arranged
    have harranged (wantsRoute : Bool) : (arranged wantsRoute).WellPosed := by
      refine (wellPosed_choose _ _ (by decide)).bind fun layout => ?_
      refine (wellPosed_choose _ _ (by decide)).bind fun horizontal => ?_
      refine (wellPosed_choose _ _ (by decide)).bind fun vertical => ?_
      refine (wellPosed_text _).bind fun width => ?_
      refine (wellPosed_ifWanted _ Theme.wellPosed_question).bind fun theme => ?_
      refine (wellPosed_yesNo _ _).bind fun loadingState => ?_
      refine (wellPosed_yesNo _ _).bind fun errorDisplay => ?_
      refine (wellPosed_text _).bind fun successMessage => ?_
      refine (wellPosed_text _).bind fun errorMessage => ?_
      refine (wellPosed_ifWanted _ Storage.wellPosed_question).bind fun storage => ?_
      extract_lets needsRoute stored
      have hstored (u : Unit) : (stored u).WellPosed :=
        (wellPosed_fieldQuestions _ _).bind fun fields =>
          (wellPosed_buttonQuestions _ _).bind fun buttons => True.intro
      exact .ite ((wellPosed_say _).bind hstored) (hstored ())
    exact .ite (harranged false) ((wellPosed_yesNo _ _).bind harranged)
  exact .ite ((wellPosed_yesNo _ _).bind hrouted) (hrouted false)

/-- The questions come to an end, whatever keys there are, and a form that is then the result is
one that they yield. -/
theorem run_questions {m : Type → Type} [Monad m] [LawfulMonad m] (screen : Screen) :
    ∃ result after, (questions.run : StateT Screen m _).run screen = pure (result, after) ∧
      ∀ form, result = .ok form → Yields questions form := by
  obtain ⟨result, after, hrun, hreaches⟩ := Dialogue.run_reaches (m := m) wellPosed_questions screen
  exact ⟨result, after, hrun, fun form hform => (hreaches form hform).yields⟩

/-- The forms that the questions lead to are those that come of some keys. -/
theorem reaches_questions_iff {form : Form} :
    Reaches questions form ↔ ∃ keys after,
      (questions.run : StateM Screen _).run (.withKeys (some keys)) = (.ok form, after) :=
  Dialogue.reaches_iff_run wellPosed_questions

/-! ## Whole forms -/

/-- The form, which stores nothing. -/
def withoutStorage (form : Form) : Form := { form with storage := none }

/-- What the questions ensure: the form is valid but for the names of its storage, which are not
blank. -/
structure Asked (form : Form) : Prop where
  valid : form.withoutStorage.Valid
  route : form.storage.isSome = true → form.serverAction = false → form.apiRoute = true
  storage : ∀ s ∈ form.storage, ¬Text.AllBlank s.database ∧ ¬Text.AllBlank s.collection

/-- Only the names of its storage can be wrong with a form that was asked for. -/
theorem Asked.violation?_eq {form : Form} (h : form.Asked) :
    form.violation? = form.storage.bind Storage.violation? := by
  have hnone := form.withoutStorage.violation?_eq_none_iff.mpr h.valid
  simp only [violation?, violations, List.findSome?_eq_none_iff, List.forall_mem_cons, id_eq,
    withoutStorage] at hnone
  obtain ⟨hname, hfields, hbuttons, htexts, hsubmit, hwidth, hlink, htheme, -, haction, -⟩ := hnone
  have hsubmit : require (1 ≤ form.submitIndex && form.submitIndex ≤ form.buttons.length)
      (.submitIndexOutOfRange form.submitIndex form.buttons.length) = none := hsubmit
  have haction : require (!form.serverAction || form.routing = .app) .serverActionNeedsApp =
      none := haction
  have hroute : require (form.storage.isNone || form.serverAction || form.apiRoute)
      .routeRequired = none := by
    rw [require_eq_none_iff]
    have := h.route
    cases hs : form.storage <;> cases ha : form.serverAction <;> simp_all
  simp only [violation?, violations, hname, hfields, hbuttons, htexts, hsubmit, hwidth, hlink,
    htheme, haction, hroute, List.findSome?_cons, List.findSome?_nil, id_eq]
  cases form.storage.bind Storage.violation? <;> rfl

theorem ensures_questions : Form.questions.Ensures Form.Asked := by
  refine (ensures_trimmed _ _ _).bind fun name hname => ?_
  refine (ensures_count _ _ (by simp)).bind fun fieldCount _ => ?_
  refine (ensures_count _ _ (by simp)).bind fun buttonCount hbuttonCount => ?_
  have hbound : ∀ b ∈ some buttonCount, 1 ≤ b := by
    intro b hb
    rw [← Option.some.inj hb]
    exact hbuttonCount.1
  refine (ensures_count _ _ hbound).bind fun submitIndex hsubmit => ?_
  refine (ensures_ifWanted _ Link.ensures_question).bind fun link hlink => ?_
  refine (Ensures.trivial _).bind fun routing _ => ?_
  extract_lets routed
  have hrouted (serverAction : Bool) (haction : serverAction = true → routing = .app) :
      (routed serverAction).Ensures Asked := by
    dsimp -zeta only [routed]
    extract_lets arranged
    have harranged (wantsRoute : Bool) : (arranged wantsRoute).Ensures Asked := by
      refine (Ensures.trivial _).bind fun layout _ => ?_
      refine (Ensures.trivial _).bind fun horizontal _ => ?_
      refine (Ensures.trivial _).bind fun vertical _ => ?_
      refine (ensures_withFallback _ (by decide)).bind fun width hwidth => ?_
      refine (ensures_ifWanted _ Theme.ensures_question).bind fun theme htheme => ?_
      refine (Ensures.trivial _).bind fun loadingState _ => ?_
      refine (Ensures.trivial _).bind fun errorDisplay _ => ?_
      refine (Ensures.trivial _).bind fun successMessage _ => ?_
      refine (Ensures.trivial _).bind fun errorMessage _ => ?_
      refine (ensures_ifWanted _ Storage.ensures_question).bind fun storage hstorage => ?_
      extract_lets needsRoute stored
      have hstored (u : Unit) : (stored u).Ensures Asked := by
        refine (ensures_fieldQuestions _ ⟨by simp, by simp⟩).bind fun fields hfields => ?_
        refine (ensures_buttonQuestions _ (by simp)).bind fun buttons hbuttons => ?_
        obtain ⟨hlength, htexts⟩ := hbuttons
        rw [List.length_nil, Nat.zero_add] at hlength
        refine ⟨?_, fun hsome hno => ?_, hstorage⟩
        · exact
            { name := refuseUnless_eq_none_iff.mp hname
              fieldNames := hfields.identifiers
              distinct := hfields.distinct
              buttons := List.ne_nil_of_length_pos (hlength ▸ hbuttonCount.1)
              buttonTexts := htexts
              submitIndex := ⟨hsubmit.1, hlength ▸ hsubmit.2 buttonCount rfl⟩
              width := refuseUnless_eq_none_iff.mp hwidth
              link := hlink
              theme := htheme
              storage := fun s hs => absurd hs (Option.not_mem_none s)
              serverAction := haction
              route := fun hsome => absurd hsome Bool.false_ne_true }
        · dsimp only at hsome hno
          simp [needsRoute, hsome, hno]
      refine .ite (fun _ => ?_) fun _ => hstored ()
      exact (Ensures.trivial _).bind fun u _ => hstored u
    refine .ite (fun _ => harranged false) fun _ => ?_
    exact (Ensures.trivial _).bind fun wantsRoute _ => harranged wantsRoute
  refine .ite (fun happ => ?_) fun _ => hrouted false (by simp)
  exact (Ensures.trivial _).bind fun serverAction _ => hrouted serverAction fun _ => happ

/-- A form that was asked for is valid exactly when the names of its storage can be used, and if it
is not valid, one of these names is to blame. -/
theorem validate_of_yields {form : Form} (h : Yields Form.questions form) :
    (form.validate = .ok () ↔ ∀ s ∈ form.storage,
      isStorageName s.database = true ∧ isStorageName s.collection = true) ∧
    ∀ v, form.validate = .error v → ∃ s ∈ form.storage,
      v = .invalidStorageName "databaseName" s.database ∨
        v = .invalidStorageName "collectionName" s.collection := by
  have hasked : form.Asked := ensures_questions.of_yields h
  rw [validate, hasked.violation?_eq]
  cases hs : form.storage with
  | none => simp
  | some s =>
    obtain ⟨hdatabase, hcollection⟩ := hasked.storage s hs
    have hnames (key : String) {name : String} (hblank : ¬Text.AllBlank name) :
        storageNameViolation? key name =
          if isStorageName name then none else some (.invalidStorageName key name) := by
      rw [storageNameViolation?, (require_eq_none_iff _ _).mpr, Option.none_or, require]
      exact decide_eq_true (Text.ne_empty_of_not_allBlank hblank)
    rw [Option.bind_some, Storage.violation?, hnames _ hdatabase, hnames _ hcollection]
    by_cases hd : isStorageName s.database = true
    · by_cases hc : isStorageName s.collection = true
      · simp [hd, hc]
      · simp [hd, hc]
    · simp [hd]

/-- A form that is saved in a database. -/
def storedIn (database : String) : Form :=
  { named "contact" with
    fields := [.named "email" .email]
    buttons := [{ text := "Send", variant := .default }]
    storage := some { database, collection := "entries" }
    apiRoute := true }

/-- The questions are answered with defaults and plain words, but for the name of the database. -/
theorem reaches_storedIn {answer database : String} (htrim : Text.trim answer = database)
    (h : ¬Text.AllBlank database) : Reaches Form.questions (storedIn database) := by
  subst htrim
  refine .ask "contact" (by decide) ?_
  refine .ask "1" (by decide) (.ask "1" (by decide) (.ask "1" (by decide) ?_))
  refine .ask false (by decide) ?_
  -- routes by directory, no server action, an API route
  refine .ask 0 (by decide) (.ask false (by decide) (.ask true (by decide) ?_))
  refine .ask 0 (by decide) (.ask 1 (by decide) (.ask 1 (by decide) ?_))
  refine .ask defaultWidth (by decide) (.ask false (by decide) ?_)
  refine .ask true (by decide) (.ask true (by decide) ?_)
  refine .ask defaultSuccessMessage (by decide) (.ask defaultErrorMessage (by decide) ?_)
  have hstorage := Storage.reaches_question h (by decide : ¬Text.AllBlank (Text.trim "entries"))
  refine reaches_bind_iff.mpr ⟨_, .done _, reaches_bind_iff.mpr
    ⟨_, reaches_ifWanted _ hstorage, ?_⟩⟩
  -- the field
  refine .tell (.ask "email" (by decide) (.ask "email" (by decide) (.ask "" (by decide) ?_)))
  refine .ask 1 (by decide) (.ask "" (by decide) (.ask "" (by decide) ?_))
  -- the button
  exact .tell (.ask "Send" (by decide) (.ask 0 (by decide) (.done _)))

theorem validate_of_yields_storedIn :
    Yields Form.questions (storedIn "crm") ∧ (storedIn "crm").validate = .ok () := by
  have h : Yields Form.questions (storedIn "crm") :=
    (reaches_storedIn (by decide : Text.trim "crm " = "crm") (by decide)).yields
  refine ⟨h, (validate_of_yields h).1.mpr fun s hs => ?_⟩
  obtain rfl := Option.some.inj hs
  exact ⟨by decide, by decide⟩

theorem storedIn_refused :
    Reaches Form.questions (storedIn "my db") ∧
      (storedIn "my db").validate = .error (.invalidStorageName "databaseName" "my db") := by
  have hviolation : (storedIn "my db").violation? =
      some (.invalidStorageName "databaseName" "my db") := by decide
  refine ⟨reaches_storedIn (by decide : Text.trim "my db" = "my db") (by decide), ?_⟩
  rw [validate, hviolation]

end Form

end FormScaffold
