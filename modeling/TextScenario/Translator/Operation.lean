import TextScenario.Translator
/-!
A translator in use. Texts are translated while the rule files change and are read again.
-/

namespace TextScenario.Translator

/-- One thing that is done with a translator or with the files around it. A book that was taken hold
of is known by its place among the snapshots so far. -/
inductive Operation where
  | edit (files : FileSystem)
  | reload
  | translate (text : String)
  | translateExpanded (text : String)
  | candidates (text : String)
  | ruleCount
  | issues
  | snapshot
  | consult (place : Nat)

inductive Answer where
  | nothing
  | reloaded (summary : ReloadSummary)
  | translated (result : Except MissingParameters Translation)
  | candidates (candidates : List Candidate)
  | ruleCount (count : Nat)
  | issues (issues : List Issue)
  | book (book : RuleBook)

structure Desk where
  files : FileSystem
  translator : Translator
  snapshots : List RuleBook := []

namespace Desk

def perform (desk : Desk) : Operation → Answer × Desk
  | .edit files => (.nothing, { desk with files })
  | .reload =>
    let translator := desk.translator.reload desk.files
    (.reloaded translator.summary, { desk with translator })
  | .translate text => (.translated (desk.translator.translate text), desk)
  | .translateExpanded text => (.translated (desk.translator.translateExpanded text), desk)
  | .candidates text => (.candidates (desk.translator.candidates text), desk)
  | .ruleCount => (.ruleCount desk.translator.ruleCount, desk)
  | .issues => (.issues desk.translator.book.issues, desk)
  | .snapshot =>
    let book := desk.translator.book
    (.book book, { desk with snapshots := desk.snapshots ++ [book] })
  | .consult place =>
    match desk.snapshots[place]? with
    | some book => (.book book, desk)
    | none => (.nothing, desk)

def run (desk : Desk) : List Operation → List Answer × Desk
  | [] => ([], desk)
  | operation :: rest =>
    let (answer, desk) := desk.perform operation
    let (answers, desk) := desk.run rest
    (answer :: answers, desk)

end Desk

end TextScenario.Translator
