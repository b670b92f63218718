import FormScaffold.Artifact.Write
import FormScaffold.Snapshot.Load

/-!
# Programs on files below a state

A program that is written against `FileAccess` runs on files alone and below a state that has
nothing to do with them, such as a screen.  It has the same result there and does the same to the
files (`ActsAs`), since it can do nothing with the state.
-/

namespace FormScaffold

variable {σ : Type} {m : Type → Type} [Monad m] {α β : Type}

/-- Whatever the state is, the first program has the result of the second one, and what it does
below the state is what the second one does. -/
def ActsAs (x : StateT σ m α) (y : m α) : Prop := ∀ state, Prod.fst <$> x.run state = y

variable [LawfulMonad m]

namespace ActsAs

theorem pure (a : α) : ActsAs (pure a : StateT σ m α) (pure a) := by
  intro state
  rw [StateT.run_pure, map_pure]

theorem bind {x : StateT σ m α} {y : m α} {f : α → StateT σ m β} {g : α → m β} (h : ActsAs x y)
    (hf : ∀ a, ActsAs (f a) (g a)) : ActsAs (x >>= f) (y >>= g) := by
  intro state
  rw [StateT.run_bind, map_bind]
  calc (x.run state >>= fun p => Prod.fst <$> (f p.1).run p.2)
      = x.run state >>= fun p => g p.1 := bind_congr fun p => hf p.1 p.2
    _ = (Prod.fst <$> x.run state) >>= g := (bind_map_left _ _ _).symm
    _ = y >>= g := by rw [h state]

theorem lift (y : m α) : ActsAs (monadLift y : StateT σ m α) y := by
  intro state
  rw [StateT.run_monadLift, map_bind]
  simp

/-- What only changes the state does nothing below it. -/
theorem modify (f : σ → σ) : ActsAs (modify f : StateT σ m PUnit) (Pure.pure ⟨⟩) := by
  intro state
  exact map_pure _ _

end ActsAs

/-! ## Looking at files -/

variable [FileAccess m]

theorem actsAs_isDirectory (path : Path) :
    ActsAs (FileAccess.isDirectory path : StateT σ m Bool) (FileAccess.isDirectory path) := by
  refine .bind (.lift (FileAccess.kind path)) fun kind => ?_
  rcases kind with fault | (_ | _ | _)
  all_goals exact .pure _

theorem actsAs_isPresent (path : Path) :
    ActsAs (FileAccess.isPresent path : StateT σ m Bool) (FileAccess.isPresent path) := by
  refine .bind (.lift (FileAccess.kind path)) fun kind => ?_
  cases kind with
  | ok kind => exact .pure true
  | error fault => exact .pure false

theorem actsAs_readText (path : Path) :
    ActsAs (FileAccess.readText path : StateT σ m _) (FileAccess.readText path) := by
  refine .bind (.lift (FileAccess.read path)) fun read => ?_
  cases read with
  | error fault => exact .pure _
  | ok bytes =>
    dsimp only
    cases String.fromUTF8? bytes with
    | some text => exact .pure _
    | none => exact .pure _

theorem Snapshot.actsAs_load (path : Path) :
    ActsAs (Snapshot.load path : StateT σ m _) (Snapshot.load path) := by
  refine .bind (actsAs_readText path) fun text => ?_
  cases text with
  | error fault => exact .pure _
  | ok text => exact .pure _

/-! ## Making directories -/

theorem actsAs_ensureDirectory (path : Path) :
    ActsAs (FileAccess.ensureDirectory path : StateT σ m _) (FileAccess.ensureDirectory path) := by
  refine .bind (.lift (FileAccess.makeDirectory path)) fun made => ?_
  cases made with
  | ok _ => exact .pure _
  | error fault =>
    refine .bind (actsAs_isDirectory path) fun there => ?_
    cases there with
    | true => exact .pure _
    | false => exact .pure _

theorem actsAs_makeDirectoryBelow (path : Path) (above : List Path) :
    ActsAs (FileAccess.makeDirectoryBelow path above : StateT σ m _)
      (FileAccess.makeDirectoryBelow path above) := by
  induction above generalizing path with
  | nil =>
    rw [FileAccess.makeDirectoryBelow, FileAccess.makeDirectoryBelow]
    cases path.isEmpty with
    | true => exact .pure _
    | false => exact actsAs_ensureDirectory path
  | cons parent above ih =>
    rw [FileAccess.makeDirectoryBelow, FileAccess.makeDirectoryBelow]
    cases path.isEmpty with
    | true => exact .pure _
    | false =>
      refine .bind (actsAs_ensureDirectory path) fun made => ?_
      split
      · refine .bind (ih parent) fun made => ?_
        cases made with
        | ok _ => exact actsAs_ensureDirectory path
        | error fault => exact .pure _
      · exact .pure made

theorem actsAs_makeDirectories (path : Path) :
    ActsAs (FileAccess.makeDirectories path : StateT σ m _) (FileAccess.makeDirectories path) :=
  actsAs_makeDirectoryBelow path path.ancestors

/-! ## Writing -/

theorem actsAs_makeParents (files : List PlannedFile) :
    ActsAs (makeParents files : StateT σ m _) (makeParents files) := by
  induction files with
  | nil => exact .pure _
  | cons file files ih =>
    rw [makeParents, makeParents]
    cases file.path.parent? with
    | none => exact ih
    | some parent =>
      refine .bind (actsAs_makeDirectories parent) fun made => ?_
      cases made with
      | ok _ => exact ih
      | error fault => exact .pure _

theorem actsAs_stage (file : PlannedFile) : ActsAs (stage file : StateT σ m _) (stage file) := by
  refine .bind (actsAs_isDirectory file.path) fun there => ?_
  cases there with
  | true => exact .pure _
  | false =>
    refine .bind (.lift (FileAccess.write _ _)) fun written => ?_
    cases written with
    | ok _ => exact .pure _
    | error fault => exact .pure _

theorem actsAs_discard (paths : List Path) :
    ActsAs (discard paths : StateT σ m Unit) (discard paths) := by
  induction paths with
  | nil => exact .pure _
  | cons path paths ih => exact .bind (.lift (FileAccess.remove path)) fun _ => ih

theorem actsAs_stageAll (staged : List Path) (files : List PlannedFile) :
    ActsAs (stageAll staged files : StateT σ m _) (stageAll staged files) := by
  induction files generalizing staged with
  | nil => exact .pure _
  | cons file files ih =>
    refine .bind (actsAs_stage file) fun done => ?_
    cases done with
    | ok _ => exact ih _
    | error error => exact .bind (actsAs_discard staged) fun _ => .pure _

theorem actsAs_moveAll (created : List Path) (files : List PlannedFile) :
    ActsAs (moveAll created files : StateT σ m _) (moveAll created files) := by
  induction files generalizing created with
  | nil => exact .pure _
  | cons file files ih =>
    refine .bind (actsAs_isPresent file.path) fun existed => ?_
    refine .bind (.lift (FileAccess.rename _ _)) fun moved => ?_
    cases moved with
    | ok _ => exact ih _
    | error fault =>
      exact .bind (actsAs_discard _) fun _ => .bind (actsAs_discard created) fun _ => .pure _

theorem actsAs_writeFiles (files : List PlannedFile) :
    ActsAs (writeFiles files : StateT σ m _) (writeFiles files) := by
  refine .bind (actsAs_makeParents files) fun made => ?_
  cases made with
  | error error => exact .pure _
  | ok _ =>
    refine .bind (actsAs_stageAll [] files) fun staged => ?_
    cases staged with
    | error error => exact .pure _
    | ok _ => exact actsAs_moveAll [] files

theorem actsAs_writeArtifacts (artifacts : List Artifact) (settings : Settings) :
    ActsAs (writeArtifacts artifacts settings : StateT σ m _)
      (writeArtifacts artifacts settings) := by
  rw [writeArtifacts, writeArtifacts]
  cases settings.dryRun with
  | true => exact .pure _
  | false =>
    refine .bind (actsAs_writeFiles _) fun written => ?_
    cases written with
    | ok _ => exact .pure _
    | error error => exact .pure _

end FormScaffold
