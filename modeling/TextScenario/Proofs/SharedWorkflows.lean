import TextScenario.Proofs.ChangedCommand
import TextScenario.Proofs.FileNames
import TextScenario.Proofs.LowerCase
import TextScenario.Proofs.RequestRoutes
import TextScenario.Proofs.SessionCalls

/-! Which scenario files of a directory belong to one workflow. The steps of a file ask for the session of
its own workflow and for no other. -/

namespace TextScenario

private theorem isScenarioName_ended {name : String} (scenario : FileSystem.isScenarioName name = true) :
    ∃ stem ending, name.toList = stem ++ '.' :: ending ∧ ending.map Char.toLower = "txt".toList := by
  obtain ⟨extension, found, same⟩ := (Option.any_eq_true _ _).mp scenario
  have same : extension.toList.map Char.toLower = "txt".toList := by
    simpa using congrArg String.toList (beq_iff_eq.mp same)
  have rest (text : List Char) :
      text.drop (text.takeWhile (· != '.')).length = text.dropWhile (· != '.') := by
    calc text.drop (text.takeWhile (· != '.')).length
      _ = (text.takeWhile (· != '.') ++ text.dropWhile (· != '.')).drop
            (text.takeWhile (· != '.')).length := by rw [List.takeWhile_append_dropWhile]
      _ = text.dropWhile (· != '.') := List.drop_left
  rw [FilePath.splitExtension, rest] at found
  split at found
  next => cases found
  next => cases found
  next dot stem _ cut =>
    split at found
    next => cases found
    next =>
      cases found
      have stopped : dot = '.' := by
        have first := List.head?_dropWhile_not (· != '.') name.toList.reverse
        simpa [cut] using first
      have whole := List.takeWhile_append_dropWhile (p := (· != '.')) (l := name.toList.reverse)
      rw [cut, stopped] at whole
      generalize name.toList.reverse.takeWhile (· != '.') = after at whole same
      refine ⟨stem.reverse, after.reverse, ?_, ?_⟩
      · rw [← List.reverse_reverse name.toList, ← whole]
        simp
      · simpa using same

private theorem ascii_of_toLower {char : Char} (lower : char.toLower ∈ ".txt".toList) :
    char.toNat < 128 := by
  change (if _ : _ then _ else char) ∈ _ at lower
  split at lower
  next upper =>
    have bound : char.toNat ≤ 'Z'.toNat := UInt32.le_iff_toNat_le.mp upper.2
    have last : 'Z'.toNat = 90 := rfl
    omega
  next =>
    simp at lower
    rcases lower with rfl | rfl | rfl | rfl <;> decide

namespace WorkflowId

variable {name other : String}

/-- A scenario file's name loses its ending, and nothing else is lost from its lower-case form. -/
theorem ofFileName_scenario (scenario : FileSystem.isScenarioName name = true) :
    ∃ base, Text.lower name.toList = base ++ ".txt".toList ∧
      (ofFileName name).text = String.ofList base ++ "-flow" := by
  obtain ⟨stem, ending, whole, lower⟩ := isScenarioName_ended scenario
  have ascii : ∀ char ∈ '.' :: ending, char.toNat < 128 := by
    intro char member
    have kept := List.mem_map_of_mem (f := Char.toLower) member
    rw [List.map_cons, lower] at kept
    exact ascii_of_toLower kept
  obtain ⟨base, lowered⟩ := Text.lower_ended stem ascii
  rw [List.map_cons, lower] at lowered
  refine ⟨base, by rw [whole]; exact lowered, ?_⟩
  have cut : Text.stripEnd? ".txt".toList (base ++ ".txt".toList) = some base := by
    simp [Text.stripEnd?, Text.strip?]
  have lowered : Text.lower name.toList = base ++ ".txt".toList := by
    rw [whole]
    exact lowered
  rw [ofFileName, lowered, cut]
  rfl

theorem ofFileName_eq_iff (first : FileSystem.isScenarioName name = true)
    (second : FileSystem.isScenarioName other = true) :
    ofFileName name = ofFileName other ↔ Text.lowered name = Text.lowered other := by
  obtain ⟨base, lowered, text⟩ := ofFileName_scenario first
  obtain ⟨otherBase, otherLowered, otherText⟩ := ofFileName_scenario second
  have ids : ofFileName name = ofFileName other ↔ (ofFileName name).text = (ofFileName other).text := by
    rw [WorkflowId.mk.injEq]
  rw [ids, text, otherText, Text.lowered, Text.lowered, lowered, otherLowered]
  simp

private theorem ofFileName_plain (scenario : FileSystem.isScenarioName name = true)
    (plain : '/' ∉ name.toList) : '/' ∉ (ofFileName name).text.toList := by
  obtain ⟨base, lowered, text⟩ := ofFileName_scenario scenario
  have absent := Text.lowerAfter_plain [] plain
  rw [← Text.lower, lowered] at absent
  rw [text]
  simpa using absent

theorem directory_eq_iff {first second : WorkflowId} (root : String)
    (firstPlain : '/' ∉ first.text.toList) (secondPlain : '/' ∉ second.text.toList) :
    first.directory root = second.directory root ↔ first = second := by
  have ids : first = second ↔ first.text = second.text := by
    cases first
    cases second
    rw [WorkflowId.mk.injEq]
  rw [ids, directory, directory]
  by_cases empty : root = ""
  · simp [FilePath.join, empty]
  · obtain ⟨lead, -, joined⟩ := FilePath.join_eq empty
    rw [joined _ firstPlain, joined _ secondPlain]
    simp

end WorkflowId

section Sessions

variable {σ : Type} {context : RunContext σ} {workflow : WorkflowId} {state between after : σ}

/-- What becomes of the sessions' state while time passes and one workflow's session is asked for. -/
inductive Asked (context : RunContext σ) (workflow : WorkflowId) (state : σ) : σ → Prop
  | nothing : Asked context workflow state state
  | elapse {after : σ} (before : Asked context workflow state after) :
      Asked context workflow state (context.elapse after)
  | connect {after opened : σ} (before : Asked context workflow state after)
      (connected : context.sessions.connect workflow after = .ok opened) :
      Asked context workflow state opened
  | call {after : σ} (before : Asked context workflow state after) (call : SessionCall) :
      Asked context workflow state (context.sessions.call workflow call after).2

theorem Asked.trans (first : Asked context workflow state between)
    (second : Asked context workflow between after) : Asked context workflow state after := by
  induction second with
  | nothing => exact first
  | elapse _ ih => exact ih.elapse
  | connect _ connected ih => exact ih.connect connected
  | call _ call ih => exact ih.call call

namespace Executor

private theorem dispatch_asked (step : CompiledStep) (state : σ) :
    Asked context step.workflow state (dispatch context.toExecutionContext step state).2 := by
  rw [dispatch]
  split
  next => exact .nothing
  next opened connected => exact (Asked.nothing.connect connected).call step.call

private theorem executeParsed_asked (executor : Executor σ) (action : String) (workflow : WorkflowId) :
    Asked context workflow executor.state
      (executor.executeParsed context.toExecutionContext action workflow).2.state := by
  rw [executeParsed]
  cases compiled : executor.compileParsed action workflow with
  | error => exact .nothing
  | ok step =>
    obtain ⟨-, rfl⟩ := compiled_names step compiled
    exact dispatch_asked step executor.state

private theorem runSteps_asked (executor : Executor σ) (place : Nat) (steps : List Step) :
    Asked context workflow executor.state
      (executor.runSteps context workflow place steps).2.2.state := by
  induction steps generalizing executor place with
  | nil => exact .nothing
  | cons step steps ih =>
    have waited : Asked context workflow executor.state (executor.elapse context).state :=
      Asked.nothing.elapse
    have executed : Asked context workflow _ _ :=
      executeParsed_asked (executor.elapse context) step.action workflow
    rw [runSteps]
    split
    · exact waited
    · generalize (executor.elapse context).executeParsed _ _ _ = result at executed
      obtain ⟨outcome, later⟩ := result
      dsimp only
      split
      · exact (waited.trans executed).trans (ih later (place + 1))
      · exact waited.trans executed

private theorem runCases_asked (executor : Executor σ) (cases : List Case) :
    Asked context workflow executor.state (executor.runCases context workflow cases).2.2.state := by
  induction cases generalizing executor with
  | nil => exact .nothing
  | cons case cases ih =>
    have waited : Asked context workflow executor.state (executor.elapse context).state :=
      Asked.nothing.elapse
    rw [runCases]
    split
    · exact waited
    · exact (waited.trans (runSteps_asked _ 1 case.steps)).trans (ih _)

private theorem runDocument_asked (executor : Executor σ) (document : Document) :
    Asked context document.workflow executor.state
      (executor.runDocument context document).2.state :=
  (runCases_asked executor document.cases).elapse

end Executor

end Sessions

/-- Running a scenario file makes one cache directory and asks for one session, those of its workflow. -/
structure RunsIn (shown : String → String) (path : String) : Prop where
  cache : ∀ environment settings (files : FileSystem), files.shown = shown →
    (CommandLine.loadScenario environment settings files path).2 = (files.createDirectories
      ((WorkflowId.ofPath path shown).directory settings.execution.cacheDirectory)).2
  session : ∀ {σ : Type} (context : RunContext σ) (executor : Executor σ) environment settings
    (files : FileSystem) document, files.shown = shown →
    (CommandLine.loadScenario environment settings files path).1 = .ok document →
      Asked context (.ofPath path shown) executor.state (executor.runDocument context document).2.state

private theorem CommandLine.loadScenario_workflow {environment : Environment} {settings : Settings}
    {files : FileSystem} {path : String} {document : Document}
    (loaded : (loadScenario environment settings files path).1 = .ok document) :
    document.workflow = .ofPath path files.shown := by
  unfold loadScenario FileSystem.prepareWorkflow at loaded
  dsimp only at loaded
  generalize files.createDirectories _ = created at loaded
  obtain ⟨result, after⟩ := created
  cases result with
  | error => cases loaded
  | ok =>
    change after.readScenario environment path (.ofPath path files.shown) = .ok document at loaded
    rw [FileSystem.readScenario] at loaded
    cases read : after.readText path with
    | error error =>
      rw [read] at loaded
      cases loaded
    | ok text =>
      rw [read] at loaded
      cases loaded
      rfl

private theorem runsIn_ofPath (shown : String → String) (path : String) : RunsIn shown path where
  cache environment settings files same := by
    rw [CommandLine.loadScenario_files, same]
  session context executor environment settings files document same loaded := by
    rw [← same, ← CommandLine.loadScenario_workflow loaded]
    exact executor.runDocument_asked document

namespace FileSystem

variable {files : FileSystem} {directory path : String}

private theorem HasScenario.named (wellFormed : files.WellFormed) (found : files.HasScenario directory path) :
    ∃ name, FilePath.fileName? path = some name ∧ path = FilePath.join directory name ∧
      isScenarioName name = true ∧ '/' ∉ name.toList := by
  obtain ⟨location, name, opened, there, scenario, rfl, -⟩ := found
  have plain : '/' ∉ name.toList := by
    obtain ⟨entry, there⟩ := Option.ne_none_iff_exists'.mp there
    exact (wellFormed.named _ (mem_entries there (by simp)) name (by simp)).2
  have nonempty : directory ≠ "" := by
    rintro rfl
    cases opened
  obtain ⟨names, blanks, -, -, split⟩ := FilePath.rawNames_join nonempty plain
  exact ⟨name, FilePath.fileName?_eq split (isScenarioName_proper scenario), rfl, scenario, plain⟩

/-- The text that stands for a name has the ending of the name and no slash. -/
structure KeepsNames (files : FileSystem) : Prop where
  scenario : ∀ name, isScenarioName name = true → isScenarioName (files.shown name) = true
  plain : ∀ name : String, '/' ∉ name.toList → '/' ∉ (files.shown name).toList

/-- Two scenario files of a directory share a workflow, and with it a cache directory, exactly if the texts
of their names are the same in lower case. Each runs in the session of its own workflow, and two of them
that are apart ask for nothing at one target if the ids stand for themselves in an address. -/
theorem scenarioFiles_share (wellFormed : files.WellFormed) (keeps : files.KeepsNames)
    {scenarios : List String} (listed : files.scenarioFiles directory = .ok scenarios)
    {first second : String} (firstListed : first ∈ scenarios) (secondListed : second ∈ scenarios) :
    ∃ firstName secondName, FilePath.fileName? first = some firstName ∧
      FilePath.fileName? second = some secondName ∧ (first = second ↔ firstName = secondName) ∧
      let alike := Text.lowered (files.shown firstName) = Text.lowered (files.shown secondName)
      let firstId := WorkflowId.ofPath first files.shown
      let secondId := WorkflowId.ofPath second files.shown
      (firstId = secondId ↔ alike) ∧
      (∀ root, firstId.directory root = secondId.directory root ↔ alike) ∧
      (∀ endpoint : String, '?' ∉ endpoint.toList → '#' ∉ endpoint.toList →
        HttpSession.Literal firstId.text.toList → HttpSession.Literal secondId.text.toList → ¬ alike →
        ∀ call, ∀ request ∈ HttpSession.requests endpoint firstId call,
          ∀ otherCall, ∀ other ∈ HttpSession.requests endpoint secondId otherCall,
            request.url.target ≠ other.url.target) ∧
      RunsIn files.shown first ∧ RunsIn files.shown second := by
  obtain ⟨firstName, firstNamed, firstPath, firstScenario, firstPlain⟩ :=
    ((mem_scenarioFiles wellFormed listed).mp firstListed).named wellFormed
  obtain ⟨secondName, secondNamed, secondPath, secondScenario, secondPlain⟩ :=
    ((mem_scenarioFiles wellFormed listed).mp secondListed).named wellFormed
  have firstId : WorkflowId.ofPath first files.shown = .ofFileName (files.shown firstName) := by
    rw [WorkflowId.ofPath, firstNamed, Option.map_some, Option.getD_some]
  have secondId : WorkflowId.ofPath second files.shown = .ofFileName (files.shown secondName) := by
    rw [WorkflowId.ofPath, secondNamed, Option.map_some, Option.getD_some]
  have ids := WorkflowId.ofFileName_eq_iff (keeps.scenario _ firstScenario) (keeps.scenario _ secondScenario)
  rw [← firstId, ← secondId] at ids
  refine ⟨firstName, secondName, firstNamed, secondNamed, ?_, ids, ?_, ?_, runsIn_ofPath _ first,
    runsIn_ofPath _ second⟩
  · constructor
    · rintro rfl
      exact Option.some.inj (firstNamed.symm.trans secondNamed)
    · intro same
      rw [firstPath, secondPath, same]
  · intro root
    rw [← ids, firstId, secondId]
    apply WorkflowId.directory_eq_iff root
    · exact WorkflowId.ofFileName_plain (keeps.scenario _ firstScenario) (keeps.plain _ firstPlain)
    · exact WorkflowId.ofFileName_plain (keeps.scenario _ secondScenario) (keeps.plain _ secondPlain)
  · intro endpoint noQuery noFragment literal otherLiteral apart call request asked otherCall other
      otherAsked same
    obtain ⟨front, ended⟩ := HttpSession.ofPath_ended first files.shown
    obtain ⟨otherFront, otherEnded⟩ := HttpSession.ofPath_ended second files.shown
    have routed := literal.requests_routed noQuery noFragment ended asked
    have otherRouted := otherLiteral.requests_routed noQuery noFragment otherEnded otherAsked
    exact apart (ids.mp (routed.target_unique otherRouted same).1)

/-- A directory with scenarios of which two have names that differ in case only. -/
def likeNamed : FileSystem where
  entries :=
    [(["s"], .directory), (["s", "Login.txt"], .file "## Login\nopen the page\n".toUTF8),
      (["s", "cart.TXT"], .file "## Cart\nadd a mug\n".toUTF8),
      (["s", "login.txt"], .file "## Logout\nleave\n".toUTF8)]

private theorem likeNamed_wellFormed : likeNamed.WellFormed where
  once := by simp [likeNamed]
  named := by simp [likeNamed, FileSystem.Plain]
  rooted := by
    intro entry member
    simp only [likeNamed, List.mem_cons, List.not_mem_nil, or_false] at member
    rcases member with rfl | rfl | rfl | rfl <;> rfl
  working := rfl

private theorem likeNamed_listed : ∃ scenarios, likeNamed.scenarioFiles "s" = .ok scenarios ∧
    "s/Login.txt" ∈ scenarios ∧ "s/cart.TXT" ∈ scenarios ∧ "s/login.txt" ∈ scenarios := by
  have found : likeNamed.lookup "s" = .ok (["s"], .directory) := rfl
  have member (name : String) (there : (likeNamed.entry? ["s", name]).isSome = true)
      (scenario : isScenarioName name = true)
      (file : likeNamed.isFile (FilePath.join "s" name) = true) :=
    (mem_scenarioFiles likeNamed_wellFormed (scenarioFiles_ok found)).mpr
      ⟨["s"], name, found, Option.isSome_iff_ne_none.mp there, scenario, rfl, file⟩
  refine ⟨_, scenarioFiles_ok found, ?_, ?_, ?_⟩
  · exact member "Login.txt" rfl (by decide +kernel) (by decide +kernel)
  · exact member "cart.TXT" rfl (by decide +kernel) (by decide +kernel)
  · exact member "login.txt" rfl (by decide +kernel) (by decide +kernel)

private theorem likeNamed_keepsNames : likeNamed.KeepsNames where
  scenario _ scenario := scenario
  plain _ plain := plain

/-- Two scenarios whose names differ in more than case have workflows of their own. -/
theorem scenarioFiles_share_cart :
    WorkflowId.ofPath "s/cart.TXT" likeNamed.shown ≠ .ofPath "s/login.txt" likeNamed.shown ∧
      Text.lowered "cart.TXT" ≠ Text.lowered "login.txt" := by
  have apart : Text.lowered "cart.TXT" ≠ Text.lowered "login.txt" := by decide +kernel
  obtain ⟨scenarios, listed, -, cart, login⟩ := likeNamed_listed
  obtain ⟨firstName, secondName, first, second, -, ids, -⟩ :=
    scenarioFiles_share likeNamed_wellFormed likeNamed_keepsNames listed cart login
  cases first
  cases second
  exact ⟨fun same => apart (ids.mp same), apart⟩

theorem scenarioFiles_shared :
    ∃ scenarios, likeNamed.scenarioFiles "s" = .ok scenarios ∧ "s/Login.txt" ∈ scenarios ∧
      "s/login.txt" ∈ scenarios ∧ "s/Login.txt" ≠ "s/login.txt" ∧
      WorkflowId.ofPath "s/Login.txt" likeNamed.shown = .ofPath "s/login.txt" likeNamed.shown := by
  obtain ⟨scenarios, listed, first, -, second⟩ := likeNamed_listed
  exact ⟨scenarios, listed, first, second, by decide, by decide +kernel⟩

end FileSystem

end TextScenario
