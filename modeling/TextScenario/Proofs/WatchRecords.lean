import TextScenario.Change.Timeline
import TextScenario.Proofs.ChangeScans

/-! What a run of the monitor leaves in the cache. A batch that ran is marked with the digests that
its files have after the callback, which need not be the versions that were delivered. -/

namespace TextScenario

/-- Whether the callback was given a version of a file with this key. -/
def Delivery.Hands (delivery : Delivery) (key digest : String) : Prop :=
  ∃ change ∈ delivery.batch, delivery.before.cacheKey change.file = key ∧ change.digest = digest

/-- Whether a file has a digest after the callback that it did not have before, or has it under another
key. -/
def Delivery.Edited (delivery : Delivery) (change : ScenarioChange) (digest : String) : Prop :=
  delivery.after.digest change.file = .ok digest ∧
    ¬ (delivery.before.digest change.file = .ok digest ∧
      delivery.before.cacheKey change.file = delivery.after.cacheKey change.file)

/-- A delivery whose files are the same after the callback as before it, or gone. -/
def Delivery.Settled (delivery : Delivery) : Prop :=
  ∀ change ∈ delivery.batch, ∀ digest, ¬ delivery.Edited change digest

/-- Whether a batch that ran has a file with this key when it is marked. -/
def Delivery.Marks (delivery : Delivery) (key : String) : Prop :=
  delivery.ran = true ∧ ∃ change ∈ delivery.batch, delivery.after.cacheKey change.file = key

/-- Whether a file is the last of its batch to be marked under its key. -/
def Delivery.EndsWith (delivery : Delivery) (change : ScenarioChange) : Prop :=
  ∃ earlier later, delivery.batch = earlier ++ change :: later ∧
    ∀ other ∈ later, delivery.after.cacheKey other.file ≠ delivery.after.cacheKey change.file

def Delivery.record (cache : ChangeCache) (delivery : Delivery) : ChangeCache :=
  if delivery.ran then
    (ChangeDetector.note delivery.after cache (delivery.batch.map (·.file))).2
  else cache

/-- Whether every file of a batch that ran could be read or was gone when the batch was marked. -/
def Delivery.Marked (delivery : Delivery) (cache : ChangeCache) : Prop :=
  delivery.ran = true →
    (ChangeDetector.note delivery.after cache (delivery.batch.map (·.file))).1 = .ok ()

private theorem Delivery.record_unmarked {delivery : Delivery} {cache : ChangeCache} {key : String}
    (marked : delivery.Marked cache) (unmarked : ¬ delivery.Marks key) :
    (Delivery.record cache delivery).get? key = cache.get? key := by
  rw [Delivery.record]
  split
  next ran =>
    have noted := ChangeDetector.note_notedEntry (Prod.ext (marked ran) rfl) key
    rw [noted]
    apply ChangeDetector.notedEntry_absent
    intro path member same
    obtain ⟨change, inside, rfl⟩ := List.mem_map.mp member
    exact unmarked ⟨ran, change, inside, same⟩
  next => rfl

private theorem Delivery.record_last {delivery : Delivery} {cache : ChangeCache} {change : ScenarioChange}
    (marked : delivery.Marked cache) (ran : delivery.ran = true) (last : delivery.EndsWith change) :
    (Delivery.record cache delivery).get? (delivery.after.cacheKey change.file) =
      (delivery.after.digest change.file).toOption := by
  obtain ⟨earlier, later, whole, others⟩ := last
  have noted := ChangeDetector.note_notedEntry (Prod.ext (marked ran) rfl)
    (delivery.after.cacheKey change.file)
  rw [Delivery.record, if_pos ran, noted, whole, List.map_append, List.map_cons]
  apply ChangeDetector.notedEntry_last
  intro path member
  obtain ⟨other, inside, rfl⟩ := List.mem_map.mp member
  exact others other inside

private theorem List.last_or_none {α : Type} (holds : α → Prop) (elements : List α) :
    (∀ element ∈ elements, ¬ holds element) ∨
      ∃ before element after, elements = before ++ element :: after ∧ holds element ∧
        ∀ other ∈ after, ¬ holds other := by
  induction elements with
  | nil => exact .inl (List.forall_mem_nil _)
  | cons first rest ih =>
    rcases ih with none | ⟨before, element, after, rfl, found, others⟩
    · by_cases own : holds first
      · exact .inr ⟨[], first, rest, rfl, own, none⟩
      · exact .inl (List.forall_mem_cons.mpr ⟨own, none⟩)
    · exact .inr ⟨first :: before, element, after, rfl, found, others⟩

/-- Deliveries that are marked one after the other, from a cache on. -/
def AllMarked (cache : ChangeCache) : List Delivery → Prop
  | [] => True
  | delivery :: rest => delivery.Marked cache ∧ AllMarked (Delivery.record cache delivery) rest

private theorem AllMarked.append {cache : ChangeCache} {before after : List Delivery}
    (marked : AllMarked cache (before ++ after)) : AllMarked (before.foldl Delivery.record cache) after := by
  induction before generalizing cache with
  | nil => exact marked
  | cons delivery rest ih => exact ih marked.2

private theorem AllMarked.keeps {cache : ChangeCache} {deliveries : List Delivery} {key : String}
    (marked : AllMarked cache deliveries) (unmarked : ∀ delivery ∈ deliveries, ¬ delivery.Marks key) :
    (deliveries.foldl Delivery.record cache).get? key = cache.get? key := by
  induction deliveries generalizing cache with
  | nil => rfl
  | cons delivery rest ih =>
    obtain ⟨own, others⟩ := List.forall_mem_cons.mp unmarked
    rw [List.foldl_cons, ih marked.2 others, Delivery.record_unmarked marked.1 own]

/-- The entry of a key is the digest that the last file to be marked under it had then. -/
theorem AllMarked.last {cache : ChangeCache} {before later : List Delivery} {delivery : Delivery}
    {change : ScenarioChange} (marked : AllMarked cache (before ++ delivery :: later))
    (ran : delivery.ran = true) (last : delivery.EndsWith change)
    (unmarked : ∀ other ∈ later, ¬ other.Marks (delivery.after.cacheKey change.file)) :
    ((before ++ delivery :: later).foldl Delivery.record cache).get? (delivery.after.cacheKey change.file) =
      (delivery.after.digest change.file).toOption := by
  obtain ⟨own, others⟩ := marked.append
  rw [List.foldl_append, List.foldl_cons, others.keeps unmarked, Delivery.record_last own ran last]

namespace Monitor

theorem deliver_cache (monitor : Monitor) (batch : List ScenarioChange) :
    (monitor.deliver batch).detector.cache = monitor.detector.cache := rfl

theorem finish_cache (monitor : Monitor) (delivery : Delivery) :
    (monitor.finish delivery.after delivery.batch delivery.ran).2.1.detector.cache =
      Delivery.record monitor.detector.cache delivery := by
  rw [finish, Delivery.record]
  split
  · exact ChangeDetector.mark_cache _ _ _
  · rfl

private theorem finish_marked {monitor : Monitor} {delivery : Delivery}
    (done : ((monitor.deliver delivery.batch).finish delivery.after delivery.batch delivery.ran).1 = .ok ()) :
    delivery.Marked monitor.detector.cache := by
  intro ran
  rw [finish, if_pos ran] at done
  dsimp only at done
  rw [ChangeDetector.mark, deliver_cache] at done
  split at done
  · contradiction
  next cache noted => rw [noted]

private theorem fresh_digest {monitor : Monitor} {files : FileSystem} {batch : List ScenarioChange}
    (found : monitor.fresh files = .ok batch) {change : ScenarioChange} (member : change ∈ batch) :
    files.digest change.file = .ok change.digest := by
  obtain ⟨changes, looked, found⟩ := Except.bind_ok found
  cases found
  exact ChangeDetector.changes_digest looked (List.mem_filter.mp member).1

/-- What one poll can come to: the run ends, nothing is delivered, or a batch is, which can end the
run as well. -/
inductive Round (options : MonitorOptions) (stop fuel : Nat) (monitor : Monitor)
    (callbacks : List Callback) : Watched → Prop
  | stopped (timeline : Timeline) :
    Round options stop fuel monitor callbacks { deliveries := [], timeline, result := .ok monitor }
  | failed (timeline : Timeline) (failure : FileFailure) :
    Round options stop fuel monitor callbacks
      { deliveries := [], timeline, result := .error failure }
  | quiet (timeline : Timeline) (due : Nat) :
    Round options stop fuel monitor callbacks
      (watch options stop fuel monitor timeline due callbacks)
  | unmarked (delivery : Delivery) (timeline : Timeline) (failure : FileFailure)
      (fresh : monitor.fresh delivery.before = .ok delivery.batch) :
    Round options stop fuel monitor callbacks
      { deliveries := [delivery], timeline, result := .error failure }
  | delivered (delivery : Delivery) (timeline : Timeline) (due : Nat)
      (fresh : monitor.fresh delivery.before = .ok delivery.batch)
      (done : ((monitor.deliver delivery.batch).finish delivery.after delivery.batch delivery.ran).1 = .ok ())
      (rest : Watched)
      (later : rest = watch options stop fuel
        ((monitor.deliver delivery.batch).finish delivery.after delivery.batch delivery.ran).2.1
        timeline due (callbacks.drop 1)) :
    Round options stop fuel monitor callbacks
      { rest with deliveries := delivery :: rest.deliveries }

private theorem watch_round (options : MonitorOptions) (stop fuel : Nat) (monitor : Monitor)
    (timeline : Timeline) (due : Nat) (callbacks : List Callback) :
    Round options stop fuel monitor callbacks
      (watch options stop (fuel + 1) monitor timeline due callbacks) := by
  rw [watch]
  dsimp only
  split
  · exact .stopped _
  · split
    · exact .failed _ _
    · exact .quiet _ _
    · split
      · exact .stopped _
      · split
        · exact .failed _ _
        · exact .quiet _ _
        next batch _ fresh =>
          split
          · refine .unmarked _ _ _ ?_
            exact fresh
          next _ done =>
            refine .delivered _ _ _ ?_ ?_ _ rfl
            · exact fresh
            · exact done

/-- The cache at the end comes from the first one by marking the deliveries in order. -/
theorem watch_cache (options : MonitorOptions) (stop fuel : Nat) (monitor : Monitor)
    (timeline : Timeline) (due : Nat) (callbacks : List Callback) {final : Monitor}
    (finished : (watch options stop fuel monitor timeline due callbacks).result = .ok final) :
    final.detector.cache =
        (watch options stop fuel monitor timeline due callbacks).deliveries.foldl Delivery.record
          monitor.detector.cache ∧
      AllMarked monitor.detector.cache (watch options stop fuel monitor timeline due callbacks).deliveries := by
  induction fuel generalizing monitor timeline due callbacks with
  | zero =>
    cases finished
    exact ⟨rfl, trivial⟩
  | succ fuel ih =>
    have round := watch_round options stop fuel monitor timeline due callbacks
    generalize watch options stop (fuel + 1) monitor timeline due callbacks = run at *
    cases round with
    | stopped =>
      cases finished
      exact ⟨rfl, trivial⟩
    | failed | unmarked => cases finished
    | quiet timeline due => exact ih monitor timeline due callbacks finished
    | delivered delivery timeline due fresh done rest later =>
      subst later
      obtain ⟨same, others⟩ := ih _ _ _ _ finished
      rw [finish_cache, deliver_cache] at same others
      exact ⟨same, finish_marked done, others⟩

/-- Every batch holds the versions that its files have when it is delivered. -/
theorem watch_batch (options : MonitorOptions) (stop fuel : Nat) (monitor : Monitor)
    (timeline : Timeline) (due : Nat) (callbacks : List Callback) {delivery : Delivery}
    (member : delivery ∈ (watch options stop fuel monitor timeline due callbacks).deliveries)
    {change : ScenarioChange} (inside : change ∈ delivery.batch) :
    delivery.before.digest change.file = .ok change.digest := by
  induction fuel generalizing monitor timeline due callbacks with
  | zero => cases member
  | succ fuel ih =>
    have round := watch_round options stop fuel monitor timeline due callbacks
    generalize watch options stop (fuel + 1) monitor timeline due callbacks = run at *
    cases round with
    | stopped | failed => cases member
    | quiet timeline due => exact ih monitor timeline due callbacks member
    | unmarked only _ _ fresh =>
      cases List.mem_singleton.mp member
      exact fresh_digest fresh inside
    | delivered first timeline due fresh done rest later =>
      subst later
      rcases List.mem_cons.mp member with rfl | member
      · exact fresh_digest fresh inside
      · exact ih _ _ _ _ member

end Monitor

/-- An entry of the cache is accounted for if it was there before, or if the callback was given this
version and ran it. -/
def Watched.Accounts (run : Watched) (cache : ChangeCache) (key digest : String) : Prop :=
  cache.get? key = some digest ∨
    ∃ delivery ∈ run.deliveries, delivery.ran = true ∧ delivery.Hands key digest

/-- No version that was never delivered is in the cache at the end. -/
def Watched.LosesNoEdit (run : Watched) (cache : ChangeCache) : Prop :=
  ∀ final, run.result = .ok final → ∀ key digest, final.detector.cache.get? key = some digest →
    run.Accounts cache key digest

/-- A file was edited while the callback ran on it, and no batch that ran later had its key. What it was edited to
is neither the version that was known at the start nor one that the callback was given and ran. -/
def Watched.Overtaken (run : Watched) (cache : ChangeCache) : Prop :=
  (∃ final, run.result = .ok final) ∧
    ∃ before delivery later, run.deliveries = before ++ delivery :: later ∧ delivery.ran = true ∧
      ∃ change digest, delivery.Edited change digest ∧ delivery.EndsWith change ∧
        (∀ other ∈ later, ¬ other.Marks (delivery.after.cacheKey change.file)) ∧
        cache.get? (delivery.after.cacheKey change.file) ≠ some digest ∧
        ∀ other ∈ run.deliveries, other.ran = true →
          ¬ other.Hands (delivery.after.cacheKey change.file) digest

private theorem Delivery.hands_or_edited {delivery : Delivery} {change : ScenarioChange} {digest : String}
    (inside : change ∈ delivery.batch) (read : delivery.after.digest change.file = .ok digest)
    (shown : delivery.before.digest change.file = .ok change.digest) :
    delivery.Hands (delivery.after.cacheKey change.file) digest ∨ delivery.Edited change digest := by
  by_cases same : delivery.before.digest change.file = .ok digest ∧
      delivery.before.cacheKey change.file = delivery.after.cacheKey change.file
  · obtain ⟨unedited, sameKey⟩ := same
    have given : change.digest = digest := by
      have digests := shown.symm.trans unedited
      injection digests
    exact .inl ⟨change, inside, sameKey, given⟩
  · exact .inr ⟨read, same⟩

private theorem Delivery.Marks.last {delivery : Delivery} {key : String} (marks : delivery.Marks key) :
    ∃ change ∈ delivery.batch, delivery.after.cacheKey change.file = key ∧ delivery.EndsWith change := by
  obtain ⟨-, listed, member, named⟩ := marks
  rcases List.last_or_none (fun change => delivery.after.cacheKey change.file = key) delivery.batch with
    none | ⟨earlier, change, later, whole, own, others⟩
  · exact absurd named (none listed member)
  · refine ⟨change, by simp [whole], own, earlier, later, whole, ?_⟩
    intro other inside
    rw [own]
    exact others other inside

namespace Monitor

section

variable (options : MonitorOptions) (stop fuel : Nat) (monitor : Monitor) (timeline : Timeline) (due : Nat)
  (callbacks : List Callback)

private theorem watch_overtaken
    (overtaken : (watch options stop fuel monitor timeline due callbacks).Overtaken monitor.detector.cache) :
    ¬ (watch options stop fuel monitor timeline due callbacks).LosesNoEdit monitor.detector.cache := by
  obtain ⟨⟨final, finished⟩, before, delivery, later, whole, ran, change, digest, edited, last, unmarked, unknown,
    unseen⟩ := overtaken
  intro kept
  obtain ⟨same, marked⟩ := watch_cache options stop fuel monitor timeline due callbacks finished
  rw [whole] at same marked
  have recorded : final.detector.cache.get? (delivery.after.cacheKey change.file) = some digest := by
    rw [same, marked.last ran last unmarked, edited.1]
    rfl
  rcases kept final finished _ _ recorded with first | ⟨other, member, accepted, handed⟩
  · exact unknown first
  · exact unseen other member accepted handed

/-- A version in the cache that is not accounted for was found when the last batch with its key was marked. -/
theorem watch_unaccounted {final : Monitor} {key digest : String}
    (finished : (watch options stop fuel monitor timeline due callbacks).result = .ok final)
    (recorded : final.detector.cache.get? key = some digest)
    (lost : ¬ (watch options stop fuel monitor timeline due callbacks).Accounts monitor.detector.cache key digest) :
    (watch options stop fuel monitor timeline due callbacks).Overtaken monitor.detector.cache := by
  obtain ⟨same, marked⟩ := watch_cache options stop fuel monitor timeline due callbacks finished
  rw [same] at recorded
  rcases List.last_or_none (Delivery.Marks · key)
      (watch options stop fuel monitor timeline due callbacks).deliveries with
    none | ⟨before, delivery, later, whole, marks, unmarked⟩
  · rw [marked.keeps none] at recorded
    exact absurd (.inl recorded) lost
  · have member : delivery ∈ (watch options stop fuel monitor timeline due callbacks).deliveries := by
      simp [whole]
    obtain ⟨change, inside, rfl, last⟩ := marks.last
    rw [whole] at recorded marked
    rw [marked.last marks.1 last unmarked] at recorded
    have read : delivery.after.digest change.file = .ok digest := by
      cases read : delivery.after.digest change.file with
      | error failure =>
        rw [read] at recorded
        cases recorded
      | ok found =>
        rw [read] at recorded
        cases recorded
        rfl
    have shown := watch_batch options stop fuel monitor timeline due callbacks member inside
    rcases Delivery.hands_or_edited inside read shown with handed | edited
    · exact absurd (.inr ⟨delivery, member, marks.1, handed⟩) lost
    · refine ⟨⟨final, finished⟩, before, delivery, later, whole, marks.1, change, digest, edited, last, unmarked, ?_, ?_⟩
      · exact fun first => lost (.inl first)
      · exact fun other member ran handed => lost (.inr ⟨other, member, ran, handed⟩)

end

/-- A run loses an edit exactly if a file is edited while the callback runs on it, to a version that is not known, and
is not marked again. -/
theorem watch_losesNoEdit_iff (options : MonitorOptions) (stop fuel : Nat) (monitor : Monitor)
    (timeline : Timeline) (due : Nat) (callbacks : List Callback) :
    let run := watch options stop fuel monitor timeline due callbacks
    (run.LosesNoEdit monitor.detector.cache ↔ ¬ run.Overtaken monitor.detector.cache) ∧
      ((∀ delivery ∈ run.deliveries, delivery.ran = true → delivery.Settled) →
        run.LosesNoEdit monitor.detector.cache) := by
  intro run
  have losesNoEdit_iff :
      run.LosesNoEdit monitor.detector.cache ↔ ¬ run.Overtaken monitor.detector.cache := by
    constructor
    · intro kept overtaken
      exact watch_overtaken options stop fuel monitor timeline due callbacks overtaken kept
    · intro none final finished key digest recorded
      apply Classical.byContradiction
      intro lost
      exact none (watch_unaccounted options stop fuel monitor timeline due callbacks finished recorded lost)
  refine ⟨losesNoEdit_iff, ?_⟩
  intro settled
  rw [losesNoEdit_iff]
  rintro ⟨-, before, delivery, later, whole, ran, change, digest, edited, ⟨earlier, after, batch, -⟩, -⟩
  have member : delivery ∈ run.deliveries := by simp [whole]
  have inside : change ∈ delivery.batch := by simp [batch]
  exact settled delivery member ran change inside digest edited

def oneScenario (content : ByteArray) : FileSystem :=
  { entries := [(["s"], .directory), (["s", "a.txt"], .file content)] }

def editedRun : Watched :=
  watch {} 800 10 { detector := { directory := "s", cachePath := "c", cache := {} } }
    { files := oneScenario ⟨#[1]⟩ } 0 [{ edit := fun _ => oneScenario ⟨#[2]⟩ }]

set_option maxRecDepth 10000 in
theorem editedRun_loses : ¬ editedRun.LosesNoEdit {} := by
  have recorded : editedRun.result.toOption.bind (·.detector.cache.get? "/s/a.txt") =
      some (Digest.ofBytes ⟨#[2]⟩) := by decide +kernel
  have handed : editedRun.deliveries.all
      (fun delivery => delivery.batch.all (·.digest != Digest.ofBytes ⟨#[2]⟩)) = true := by
    decide +kernel
  intro kept
  cases finished : editedRun.result with
  | error failure =>
    rw [finished] at recorded
    cases recorded
  | ok final =>
    rw [finished] at recorded
    rcases kept final finished _ _ recorded with first | ⟨delivery, member, -, change, inside, -, same⟩
    · cases first
    · have different := List.all_eq_true.mp (List.all_eq_true.mp handed delivery member) change inside
      simp [same] at different

end Monitor

end TextScenario
