import Mathlib.Data.List.DropRight
import TextScenario.Translator.Operation

/-! Translators in use. Whatever is edited and asked in between, a translator answers from the one book
that was made of the files as they stood when they were last read. -/

namespace TextScenario.Translator

namespace Operation

def isReload : Operation → Bool
  | .reload => true
  | _ => false

def isSnapshot : Operation → Bool
  | .snapshot => true
  | _ => false

def filesAfter (files : FileSystem) : Operation → FileSystem
  | .edit edited => edited
  | _ => files

/-- The files as they stood at the latest reload among some operations, or at the start if there was
none. -/
def filesRead (files : FileSystem) (operations : List Operation) : FileSystem :=
  (operations.rdropWhile (!·.isReload)).foldl filesAfter files

private theorem filesRead_reload (files : FileSystem) (earlier : List Operation) :
    filesRead files (earlier ++ [.reload]) = earlier.foldl filesAfter files := by
  rw [filesRead, List.rdropWhile_concat_neg _ _ _ (by simp [isReload]), List.foldl_append]
  rfl

private theorem filesRead_other (files : FileSystem) (earlier : List Operation) {operation : Operation}
    (other : operation.isReload = false) :
    filesRead files (earlier ++ [operation]) = filesRead files earlier := by
  rw [filesRead, List.rdropWhile_concat_pos _ _ _ (by simp [other]), filesRead]

section Answers

variable (source : RuleSource) (strict : Option Bool) (environment : Environment)
  (compiler : PatternCompiler) (files : FileSystem)

/-- The book made of the files as they stood at the latest reload among some operations. -/
def bookRead (operations : List Operation) : RuleBook :=
  source.book (filesRead files operations) strict compiler

/-- What an operation answers after others. A snapshot that is consulted is known by the number of
snapshots before it. -/
def Answers (earlier : List Operation) (answer : Answer) : Operation → Prop
  | .edit _ => answer = .nothing
  | .reload =>
    let book := source.book (earlier.foldl filesAfter files) strict compiler
    answer = .reloaded { rules := book.rules.length, issues := book.issues }
  | .translate text =>
    answer = .translated
      ((bookRead source strict compiler files earlier).translate text (environment.expand text))
  | .translateExpanded text =>
    answer = .translated ((bookRead source strict compiler files earlier).translate text text)
  | .candidates text =>
    answer = .candidates
      ((bookRead source strict compiler files earlier).candidates (environment.expand text))
  | .ruleCount => answer = .ruleCount (bookRead source strict compiler files earlier).rules.length
  | .issues => answer = .issues (bookRead source strict compiler files earlier).issues
  | .snapshot => answer = .book (bookRead source strict compiler files earlier)
  | .consult place =>
    ∀ before between, earlier = before ++ .snapshot :: between →
      before.countP isSnapshot = place →
        answer = .book (bookRead source strict compiler files before)

end Answers

end Operation

namespace Desk

open TextScenario.Translator.Operation

theorem run_cons (desk : Desk) (operation : Operation) (rest : List Operation) :
    desk.run (operation :: rest) =
      ((desk.perform operation).1 :: ((desk.perform operation).2.run rest).1,
        ((desk.perform operation).2.run rest).2) := rfl

theorem run_append (desk : Desk) (first second : List Operation) :
    desk.run (first ++ second) =
      ((desk.run first).1 ++ ((desk.run first).2.run second).1, ((desk.run first).2.run second).2) := by
  induction first generalizing desk with
  | nil => rfl
  | cons operation rest ih => rw [List.cons_append, run_cons, run_cons, ih, List.cons_append]

private theorem run_length (desk : Desk) (operations : List Operation) :
    (desk.run operations).1.length = operations.length := by
  induction operations generalizing desk with
  | nil => rfl
  | cons operation rest ih => rw [run_cons, List.length_cons, ih, List.length_cons]

section Runs

variable (source : RuleSource) (strict : Option Bool) (environment : Environment)
  (compiler : PatternCompiler) (files : FileSystem)

/-- How a desk stands after some operations. Its translator is loaded afresh from the files that were
last read, and it keeps the book of each snapshot. -/
structure Stands (operations : List Operation) (desk : Desk) : Prop where
  current : desk.files = operations.foldl filesAfter files
  translator : desk.translator = load (filesRead files operations) source strict environment compiler
  count : desk.snapshots.length = operations.countP isSnapshot
  snapshots : ∀ before between, operations = before ++ .snapshot :: between →
    desk.snapshots[before.countP isSnapshot]? = some (bookRead source strict compiler files before)

variable {source strict environment compiler files} {operations : List Operation} {desk : Desk}

/-- One more operation leaves all earlier snapshots in their places. -/
theorem Stands.next (stands : Stands source strict environment compiler files operations desk)
    {operation : Operation} {after : Desk} (current : after.files = operation.filesAfter desk.files)
    (translator : after.translator =
      load (filesRead files (operations ++ [operation])) source strict environment compiler)
    (snapshots : after.snapshots = desk.snapshots ++
      if operation.isSnapshot then [bookRead source strict compiler files operations] else []) :
    Stands source strict environment compiler files (operations ++ [operation]) after := by
  refine ⟨?_, translator, ?_, ?_⟩
  · rw [current, stands.current, List.foldl_append]
    rfl
  · rw [snapshots, List.length_append, stands.count, List.countP_append, List.countP_singleton]
    split <;> rfl
  · intro before between split
    -- The snapshot is taken by this operation itself, or it was kept already.
    rcases between.eq_nil_or_concat with rfl | ⟨rest, last, rfl⟩
    · obtain ⟨rfl, same⟩ := List.append_inj' split rfl
      cases same
      rw [snapshots, ← stands.count]
      exact List.getElem?_concat_length
    · rw [List.concat_eq_append, ← List.cons_append, ← List.append_assoc] at split
      obtain ⟨earlier, _⟩ := List.append_inj' split rfl
      have found := stands.snapshots before rest earlier
      obtain ⟨inside, _⟩ := List.getElem?_eq_some_iff.mp found
      rw [snapshots, List.getElem?_append_left inside, found]

private theorem Stands.perform (stands : Stands source strict environment compiler files operations desk)
    (operation : Operation) :
    Stands source strict environment compiler files (operations ++ [operation])
      (desk.perform operation).2 := by
  have kept (other : operation.isReload = false) : desk.translator =
      load (filesRead files (operations ++ [operation])) source strict environment compiler := by
    rw [filesRead_other files operations other]
    exact stands.translator
  cases operation with
  | edit edited => exact stands.next rfl (kept rfl) (List.append_nil _).symm
  | reload =>
    refine stands.next rfl ?_ (List.append_nil _).symm
    rw [filesRead_reload, ← stands.current]
    change desk.translator.reload desk.files = _
    rw [stands.translator]
    rfl
  | translate text | translateExpanded text | candidates text | ruleCount | issues =>
    exact stands.next rfl (kept rfl) (List.append_nil _).symm
  | snapshot =>
    refine stands.next rfl (kept rfl) ?_
    change desk.snapshots ++ [desk.translator.book] = _
    rw [stands.translator]
    rfl
  | consult place =>
    rw [Desk.perform]
    split <;> exact stands.next rfl (kept rfl) (List.append_nil _).symm

private theorem Stands.answers (stands : Stands source strict environment compiler files operations desk)
    (operation : Operation) :
    operation.Answers source strict environment compiler files operations (desk.perform operation).1 := by
  obtain ⟨current, translator, snapshots⟩ := desk
  obtain rfl : translator = _ := stands.translator
  obtain rfl : current = _ := stands.current
  cases operation with
  | consult place =>
    intro before between split number
    rw [Desk.perform, ← number, stands.snapshots before between split]
  | _ => rfl

private theorem start_stands :
    Stands source strict environment compiler files []
      { files, translator := load files source strict environment compiler } := by
  refine ⟨rfl, rfl, rfl, fun before between split => ?_⟩
  simp at split

private theorem run_stands (operations : List Operation) :
    Stands source strict environment compiler files operations
      (run { files, translator := load files source strict environment compiler } operations).2 := by
  -- From the right, since an operation is answered according to all that came before it.
  induction operations using List.reverseRecOn with
  | nil => exact start_stands
  | append_singleton earlier operation ih =>
    rw [run_append]
    exact ih.perform operation

end Runs

/-- Every answer of a translator in use is that of the one book made of the files as they stood at the
latest reload, and a snapshot is that book for good. Reading the rules again leaves the translator that
is loaded afresh from the files as they stand. -/
theorem run_answers (source : RuleSource) (strict : Option Bool) (environment : Environment)
    (compiler : PatternCompiler) (files : FileSystem) (operations : List Operation) :
    let start : Desk := { files, translator := load files source strict environment compiler }
    (start.run operations).1.length = operations.length ∧
    (∀ earlier operation later, operations = earlier ++ operation :: later →
      ∃ answer, (start.run operations).1[earlier.length]? = some answer ∧
        operation.Answers source strict environment compiler files earlier answer) ∧
    (start.run (operations ++ [.reload])).2.translator =
      load (operations.foldl filesAfter files) source strict environment compiler := by
  intro start
  refine ⟨start.run_length operations, ?_, ?_⟩
  · rintro earlier operation later rfl
    have stands : Stands source strict environment compiler files earlier (start.run earlier).2 :=
      run_stands earlier
    refine ⟨_, ?_, stands.answers operation⟩
    rw [run_append, run_cons, ← start.run_length earlier,
      List.getElem?_append_right (Nat.le_refl _), Nat.sub_self]
    rfl
  · have stands : Stands source strict environment compiler files (operations ++ [.reload])
      (start.run (operations ++ [.reload])).2 := run_stands _
    rw [stands.translator, filesRead_reload]

end Desk

end TextScenario.Translator
