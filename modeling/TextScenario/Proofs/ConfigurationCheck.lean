import TextScenario.Proofs.FileWays
import TextScenario.Proofs.RuleBooks

/-! Checking a configuration directory and loading it agree. They find the same issues in the same
order; only the check minds files that are missing and a list without rules. -/

namespace TextScenario

namespace FileSystem

theorem exists?_of_readText {files : FileSystem} {path text : String}
    (read : files.readText path = .ok text) : files.exists? path = true := by
  cases bytes : files.readBytes path with
  | error error =>
    simp [readText, bytes, bind, Except.bind] at read
  | ok content =>
    obtain ⟨location, found⟩ := readBytes_eq_ok_iff.mp bytes
    exact exists?_iff.mpr ⟨location, _, found⟩

private theorem readText_ne_notFound {files : FileSystem} {path : String}
    (present : files.exists? path = true) : files.readText path ≠ .error .notFound := by
  obtain ⟨location, entry, found⟩ := exists?_iff.mp present
  cases entry with
  | file content =>
    have bytes : files.readBytes path = content.open := by
      rw [readBytes, found]
      rfl
    rw [readText, bytes, FileContent.open]
    cases content.refusal with
    | some message => simp [bind, Except.bind]
    | none =>
      simp only [bind, Except.bind]
      split <;> simp
  | directory | link _ =>
    simp [readText, readBytes, found, bind, Except.bind]

end FileSystem

namespace Configuration

/-- A list of issues with others put in between. -/
inductive Inserted (added : Issue → Prop) : List Issue → List Issue → Prop
  | nil : Inserted added [] []
  | kept {issues more} (issue : Issue) (others : Inserted added issues more) :
      Inserted added (issue :: issues) (issue :: more)
  | added {issues more} {issue : Issue} (new : added issue) (others : Inserted added issues more) :
      Inserted added issues (issue :: more)

namespace Inserted

variable {added : Issue → Prop}

theorem refl (issues : List Issue) : Inserted added issues issues := by
  induction issues with
  | nil => exact .nil
  | cons issue rest ih => exact .kept issue ih

private theorem append {first more second last : List Issue} (left : Inserted added first more)
    (right : Inserted added second last) : Inserted added (first ++ second) (more ++ last) := by
  induction left with
  | nil => exact right
  | kept issue _ ih => exact .kept issue ih
  | added new _ ih => exact .added new ih

private theorem ofNew {issues : List Issue} (new : ∀ issue ∈ issues, added issue) :
    Inserted added [] issues := by
  induction issues with
  | nil => exact .nil
  | cons issue rest ih =>
    obtain ⟨here, others⟩ := List.forall_mem_cons.mp new
    exact .added here (ih others)

end Inserted

/-- What only a check minds: a file that is missing, or a list of rules that is empty. -/
inductive Shortage (files : FileSystem) (directory : String) : Issue → Prop
  | core (absent : files.readText (corePath directory) = .error .notFound) :
      Shortage files directory
        { source := corePath directory, message := "file is missing" }
  | rules (absent : files.readText (rulesPath directory) = .error .notFound) :
      Shortage files directory
        { source := rulesPath directory, message := "file is missing" }
  | list {document : Yaml.Value}
      (read : readRules files (rulesPath directory) = .ok (some document))
      (empty : listed? document = some []) :
      Shortage files directory
        { source := rulesPath directory, message := "`rules` list is empty" }

section Reading

variable {α : Type} {decode : String → Option α} {files : FileSystem} {path : String}

theorem readAs_eq (decode : String → Option α) (files : FileSystem) (path : String) :
    readAs decode files path =
      match files.readText path with
      | .ok text =>
        match decode text with
        | some content => .ok (some content)
        | none => .error .malformed
      | .error .notFound => .ok none
      | .error error => .error (.unreadable error) := by
  rw [readAs, readOptional]
  cases files.readText path with
  | ok text => rfl
  | error error => cases error <;> rfl

theorem readAs_eq_none_iff :
    readAs decode files path = .ok none ↔ files.readText path = .error .notFound := by
  rw [readAs_eq]
  cases files.readText path with
  | ok text => cases decoded : decode text <;> simp [decoded]
  | error error => cases error <;> simp

private theorem exists?_of_readAs {content : α} (read : readAs decode files path = .ok (some content)) :
    files.exists? path = true := by
  rw [readAs_eq] at read
  split at read
  next text found => exact FileSystem.exists?_of_readText found
  next => simp at read
  next => simp at read

def unusable (path : String) : Except ConfigFileError (Option α) → List Issue
  | .ok _ => []
  | .error error => [error.issue path]

def missing (path : String) : Except ConfigFileError (Option α) → List Issue
  | .ok none => [{ source := path, message := "file is missing" }]
  | .ok (some _) | .error _ => []

private theorem mem_missing {issue : Issue} :
    issue ∈ missing path (readAs decode files path) ↔
      files.readText path = .error .notFound ∧
        issue = { source := path, message := "file is missing" } := by
  have absent : readAs decode files path = .ok none ↔ _ := readAs_eq_none_iff
  rw [← absent]
  rcases readAs decode files path with _ | (_ | _) <;> simp [missing]

end Reading

def configOf : Except ConfigFileError (Option TranslationConfig) → TranslationConfig
  | .ok config => config.getD {}
  | .error _ => {}

def listingOf (path : String) : Except ConfigFileError (Option Yaml.Value) → Listing
  | .ok none => {}
  | .ok (some document) => .ofDocument path document
  | .error error => { issues := [error.issue path] }

/-- The issue of a rules file that lists nothing. -/
def unlisted (path : String) : Except ConfigFileError (Option Yaml.Value) → List Issue
  | .ok (some document) => emptyListIssues path document
  | .ok none | .error _ => []

private theorem mem_unlisted {path : String} {rules : Except ConfigFileError (Option Yaml.Value)}
    {issue : Issue} :
    issue ∈ unlisted path rules ↔
      ∃ document, rules = .ok (some document) ∧ listed? document = some [] ∧
        issue = { source := path, message := "`rules` list is empty" } := by
  rcases rules with _ | (_ | document)
  · simp [unlisted]
  · simp [unlisted]
  · rw [unlisted, emptyListIssues]
    split <;> simp_all

section Directory

variable (files : FileSystem) (directory : String)

def usedConfig : TranslationConfig :=
  configOf (readCore files (corePath directory))

def usedListing : Listing :=
  listingOf (rulesPath directory) (readRules files (rulesPath directory))

def coreIssues : List Issue :=
  unusable (corePath directory) (readCore files (corePath directory))

def results : List (Except (List Issue) CompiledRule) :=
  (usedListing files directory).entries.map fun (index, spec) =>
    spec.compile (rulesPath directory) index (usedConfig files directory).delimiter
      (usedConfig files directory).library .regular

/-- The issues that only a check finds, before and after those of the core file and the listing. -/
def coreShortages : List Issue :=
  missing (corePath directory) (readCore files (corePath directory))

def ruleShortages : List Issue :=
  missing (rulesPath directory) (readRules files (rulesPath directory)) ++
    unlisted (rulesPath directory) (readRules files (rulesPath directory))

theorem read_eq :
    read files directory =
      { config := usedConfig files directory
        listing := { usedListing files directory with
          issues := coreIssues files directory ++ (usedListing files directory).issues } } := by
  simp only [read, usedConfig, usedListing, coreIssues]
  rcases readCore files (corePath directory) with _ | _ <;>
    rcases readRules files (rulesPath directory) with _ | (_ | _) <;> rfl

theorem check_eq :
    check files directory =
      ((results files directory).countP Except.isOk,
        coreShortages files directory ++ coreIssues files directory ++
          ((usedListing files directory).issues ++ ruleShortages files directory) ++
          (results files directory).flatMap RuleSpec.refusals) := by
  simp only [check, results, usedConfig, usedListing, coreIssues, coreShortages, ruleShortages]
  rcases readCore files (corePath directory) with _ | (_ | _) <;>
    rcases readRules files (rulesPath directory) with _ | (_ | _) <;>
    simp [configOf, listingOf, unusable, missing, unlisted]

private theorem book_rules :
    ((RuleSource.directory directory).book files none .regular).rules =
      (results files directory).filterMap Except.toOption := by
  rw [RuleSource.book, RuleSource.contents, read_eq, RuleBook.build]
  rfl

theorem book_issues :
    ((RuleSource.directory directory).book files none .regular).issues =
      coreIssues files directory ++ (usedListing files directory).issues ++
        (results files directory).flatMap RuleSpec.refusals := by
  rw [RuleSource.book, RuleSource.contents, read_eq, RuleBook.build]
  rfl

private theorem mem_shortages {issue : Issue} :
    issue ∈ coreShortages files directory ++ ruleShortages files directory ↔
      Shortage files directory issue := by
  rw [coreShortages, ruleShortages, List.mem_append, List.mem_append, mem_unlisted]
  constructor
  · rintro (member | member | ⟨document, read, empty, rfl⟩)
    · obtain ⟨absent, rfl⟩ := mem_missing.mp member
      exact .core absent
    · obtain ⟨absent, rfl⟩ := mem_missing.mp member
      exact .rules absent
    · exact .list read empty
  · intro shortage
    cases shortage with
    | core absent => exact .inl (mem_missing.mpr ⟨absent, rfl⟩)
    | rules absent => exact .inr (.inl (mem_missing.mpr ⟨absent, rfl⟩))
    | list read empty => exact .inr (.inr ⟨_, read, empty, rfl⟩)

end Directory

private theorem check_count (files : FileSystem) (directory : String) :
    (check files directory).1 =
      ((RuleSource.directory directory).book files none .regular).rules.length := by
  rw [check_eq, book_rules, List.length_filterMap_eq_countP]
  refine congrArg (List.countP · _) (funext fun result => ?_)
  cases result <;> rfl

private theorem check_inserted (files : FileSystem) (directory : String) :
    Inserted (Shortage files directory)
      ((RuleSource.directory directory).book files none .regular).issues (check files directory).2 := by
  have core : Inserted (Shortage files directory) [] (coreShortages files directory) :=
    .ofNew fun issue member => (mem_shortages files directory).mp (List.mem_append_left _ member)
  have rules : Inserted (Shortage files directory) [] (ruleShortages files directory) :=
    .ofNew fun issue member => (mem_shortages files directory).mp (List.mem_append_right _ member)
  rw [check_eq, book_issues]
  have listed := ((Inserted.refl (usedListing files directory).issues).append rules)
  rw [List.append_nil] at listed
  exact ((core.append (.refl _)).append listed).append (.refl _)

private theorem shortage_checked {files : FileSystem} {directory : String} {issue : Issue}
    (shortage : Shortage files directory issue) : issue ∈ (check files directory).2 := by
  rw [check_eq]
  rcases List.mem_append.mp ((mem_shortages files directory).mpr shortage) with core | rules
  · simp [core]
  · simp [rules]

private theorem validate_cases (files : FileSystem) (directory : String) :
    validate files directory =
      if (check files directory).2 = [] then .ok (check files directory).1
      else .error (check files directory).2 := by
  unfold validate
  split
  next checked => simp [checked]
  next some checked => simp [checked, show _ ≠ [] from some]

private theorem rules_length {files : FileSystem} {directory : String}
    (sound : ((RuleSource.directory directory).book files none .regular).issues = []) :
    ((RuleSource.directory directory).book files none .regular).rules.length =
      (usedListing files directory).entries.length := by
  rw [book_issues, List.append_eq_nil_iff, List.flatMap_eq_nil_iff] at sound
  have compiled : ∀ result ∈ results files directory, result.isOk = true := by
    intro result member
    obtain ⟨⟨index, spec⟩, _, rfl⟩ := List.mem_map.mp member
    exact (spec.refusals_eq_nil_iff _ _ _ _).mp (sound.2 _ member)
  rw [← check_count, check_eq, List.countP_eq_length.mpr compiled, results, List.length_map]

/-- A check is clean exactly if loading has no issues and nothing is short. -/
theorem check_clean_iff (files : FileSystem) (directory : String) :
    (check files directory).2 = [] ↔
      ((RuleSource.directory directory).book files none .regular).issues = [] ∧
        ∀ issue, ¬ Shortage files directory issue := by
  have short : (∀ issue, ¬ Shortage files directory issue) ↔
      coreShortages files directory ++ ruleShortages files directory = [] := by
    rw [List.eq_nil_iff_forall_not_mem]
    exact forall_congr' fun issue => not_congr (mem_shortages files directory).symm
  rw [short, check_eq, book_issues]
  simp only [List.append_eq_nil_iff]
  constructor
  · rintro ⟨⟨⟨noCore, core⟩, listed, noRules⟩, refused⟩
    exact ⟨⟨⟨core, listed⟩, refused⟩, noCore, noRules⟩
  · rintro ⟨⟨⟨core, listed⟩, refused⟩, noCore, noRules⟩
    exact ⟨⟨⟨noCore, core⟩, listed, noRules⟩, refused⟩

theorem Listing.ofDocument_nil {source : String} {document : Yaml.Value}
    (sound : (Listing.ofDocument source document).issues = []) :
    (Listing.ofDocument source document).entries = [] ↔ listed? document = some [] := by
  rw [Listing.ofDocument] at sound ⊢
  split at sound
  next => cases sound
  next values found =>
    simp only [found, List.filterMap_eq_nil_iff] at sound ⊢
    constructor
    · intro none
      cases values with
      | nil => rfl
      | cons value rest =>
        -- A first element would become an entry or an issue, and there is neither.
        have member : entryOf source 0 value ∈
            ((value :: rest).zipIdx.map fun entry => entryOf source entry.2 entry.1) := by
          simp [List.zipIdx_cons]
        have refused := none _ member
        have accepted := sound _ member
        cases result : entryOf source 0 value with
        | ok entry =>
          rw [result] at refused
          cases refused
        | error issue =>
          rw [result] at accepted
          cases accepted
    · intro empty
      cases empty
      simp

theorem sufficient_iff {files : FileSystem} {directory : String}
    (sound : ((RuleSource.directory directory).book files none .regular).issues = []) :
    (∀ issue, ¬ Shortage files directory issue) ↔
      files.exists? (corePath directory) = true ∧
        files.exists? (rulesPath directory) = true ∧
          1 ≤ ((RuleSource.directory directory).book files none .regular).rules.length := by
  rw [rules_length sound]
  rw [book_issues, List.append_eq_nil_iff, List.append_eq_nil_iff, coreIssues] at sound
  obtain ⟨⟨core, listed⟩, _⟩ := sound
  constructor
  · intro enough
    constructor
    · cases read : readCore files (corePath directory) with
      | error error =>
        rw [read] at core
        cases core
      | ok config =>
        cases config with
        | none => exact absurd (.core (readAs_eq_none_iff.mp read)) (enough _)
        | some config => exact exists?_of_readAs read
    · rw [usedListing] at listed ⊢
      cases read : readRules files (rulesPath directory) with
      | error error =>
        rw [read] at listed
        cases listed
      | ok document =>
        cases document with
        | none => exact absurd (.rules (readAs_eq_none_iff.mp read)) (enough _)
        | some document =>
          rw [read] at listed
          refine ⟨exists?_of_readAs read, List.length_pos_iff.mpr fun none => ?_⟩
          exact enough _ (.list read ((Listing.ofDocument_nil listed).mp none))
  · rintro ⟨coreFound, rulesFound, some⟩ issue shortage
    cases shortage with
    | core absent => exact FileSystem.readText_ne_notFound coreFound absent
    | rules absent => exact FileSystem.readText_ne_notFound rulesFound absent
    | list read empty =>
      rw [usedListing, read] at listed some
      rw [listingOf, (Listing.ofDocument_nil listed).mpr empty] at some
      cases some

/-- A directory is valid exactly if both files are there and loading it has no issues and some rule,
and the check then counts the rules. Otherwise the issues of the check are those of loading, in the same
order, and in between whatever is short. -/
theorem validate_load (files : FileSystem) (directory : String) (environment : Environment) :
    let translator := Translator.load files (.directory directory) none environment
    (∀ count, validate files directory = .ok count ↔
      files.exists? (corePath directory) = true ∧
        files.exists? (rulesPath directory) = true ∧
        translator.book.issues = [] ∧ translator.ruleCount = count ∧ 1 ≤ count) ∧
    ∀ issues, validate files directory = .error issues →
      Inserted (Shortage files directory) translator.book.issues issues ∧
        ∀ issue, Shortage files directory issue → issue ∈ issues := by
  intro translator
  constructor
  · intro count
    rw [validate_cases, check_count]
    constructor
    · intro valid
      split at valid
      next clean =>
        cases valid
        obtain ⟨sound, enough⟩ := (check_clean_iff files directory).mp clean
        obtain ⟨core, rules, some⟩ := (sufficient_iff sound).mp enough
        exact ⟨core, rules, sound, rfl, some⟩
      next => cases valid
    · rintro ⟨core, rules, sound, rfl, some⟩
      have enough := (sufficient_iff sound).mpr ⟨core, rules, some⟩
      rw [if_pos ((check_clean_iff files directory).mpr ⟨sound, enough⟩)]
      rfl
  · intro issues failed
    rw [validate_cases] at failed
    split at failed
    next => cases failed
    next =>
      cases failed
      exact ⟨check_inserted files directory, fun _ => shortage_checked⟩

end Configuration

end TextScenario
