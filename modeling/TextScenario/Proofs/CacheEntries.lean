import TextScenario.Change.Detector
import TextScenario.Proofs.JsonFields

/-! Entries of the change cache, and what taking note of files does to them. -/

namespace TextScenario

theorem Except.bind_ok {ε α β : Type} {first : Except ε α} {next : α → Except ε β} {result : β}
    (done : first >>= next = .ok result) :
    ∃ value, first = .ok value ∧ next value = .ok result := by
  cases first with
  | error failure => cases done
  | ok value => exact ⟨value, rfl, done⟩

private theorem Except.mapM_ok {ε α β : Type} {action : α → Except ε β} {items : List α} {results : List β}
    (done : items.mapM action = .ok results) {result : β} (member : result ∈ results) :
    ∃ item ∈ items, action item = .ok result := by
  induction items generalizing results with
  | nil =>
    cases done
    cases member
  | cons item rest ih =>
    rw [List.mapM_cons] at done
    obtain ⟨first, performed, done⟩ := Except.bind_ok done
    obtain ⟨others, later, done⟩ := Except.bind_ok done
    cases done
    rcases List.mem_cons.mp member with rfl | inside
    · exact ⟨item, by simp, performed⟩
    · obtain ⟨other, inside, performed⟩ := ih later inside
      exact ⟨other, by simp [inside], performed⟩

namespace ChangeCache

theorem get?_insert (cache : ChangeCache) (key other digest : String) :
    (cache.insert key digest).get? other = if other = key then some digest else cache.get? other :=
  Json.lookup_insertField key other digest cache.files

theorem get?_erase (cache : ChangeCache) (key other : String) :
    (cache.erase key).get? other = if other = key then none else cache.get? other :=
  List.lookup_erased cache.files key other

end ChangeCache

namespace ChangeDetector

private theorem changeOf?_digest {detector : ChangeDetector} {files : FileSystem} {file : String}
    {change : ScenarioChange} (found : detector.changeOf? files file = .ok (some change)) :
    files.digest change.file = .ok change.digest := by
  rw [changeOf?] at found
  obtain ⟨digest, read, found⟩ := Except.bind_ok found
  split at found
  · cases found
  · cases found
    exact read

theorem changes_digest {detector : ChangeDetector} {files : FileSystem} {changes : List ScenarioChange}
    (found : detector.changes files = .ok changes) {change : ScenarioChange}
    (member : change ∈ changes) : files.digest change.file = .ok change.digest := by
  rw [ChangeDetector.changes] at found
  obtain ⟨paths, -, found⟩ := Except.bind_ok found
  obtain ⟨results, mapped, found⟩ := Except.bind_ok found
  cases found
  obtain ⟨result, inside, some⟩ := List.mem_filterMap.mp member
  obtain ⟨path, -, looked⟩ := Except.mapM_ok mapped inside
  exact changeOf?_digest (looked.trans (congrArg Except.ok some))

theorem mark_cache (detector : ChangeDetector) (files : FileSystem) (paths : List String) :
    (detector.mark files paths).2.1.cache = (note files detector.cache paths).2 := by
  rw [mark]
  split
  next failure cache noted => rw [noted]
  next cache noted => rw [noted]

end ChangeDetector

end TextScenario
