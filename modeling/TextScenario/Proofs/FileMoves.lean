import TextScenario.Proofs.FileChanges

/-! Files and links that are moved or removed. The way to a directory passes no link that leads to
anything else, so it is kept when such links and files go; a file that is moved onto another is found
where the other was. -/

namespace TextScenario.FileSystem

variable {files other after : FileSystem} {last : Bool} {used : Nat} {at_ location place : Location}
  {name : String} {names rest : List String}

/-- No way to a directory passes a link here. -/
def Blind (files : FileSystem) (place : Location) : Prop :=
  ∀ target rest location, files.entry? place = some (.link target) →
    files.Leads true (origin target place.dropLast) (rawNames target ++ rest) location →
      files.entry? location ≠ some .directory

theorem Redirected.refl (files : FileSystem) (place : Location) : Redirected files files place :=
  fun _ _ there => .inl there

private theorem Leads.onto_solid (wellFormed : files.WellFormed) (start : files.entry? at_ = some .directory)
    (solid : files.entry? place ≠ some .directory) (leads : files.Leads true at_ names place)
    (further : files.Leads true at_ (names ++ rest) location) :
    location = place ∨ files.entry? location = none :=
  (Redirected.refl files place).leads_still wellFormed solid start leads further

private theorem Leads.through {target : String} (leads : files.Leads true at_ [name] location) (named : Names name)
    (found : files.entry? (at_ ++ [name]) = some (.link target)) :
    files.Leads true (origin target at_) (rawNames target) location := by
  rw [entered named, found] at leads
  simpa using leads

theorem Blind.of_leads (wellFormed : files.WellFormed) (start : files.entry? at_ = some .directory)
    (named : Names name) (leads : files.Leads true at_ [name] location)
    (solid : files.entry? location ≠ some .directory) : files.Blind (at_ ++ [name]) := by
  intro target rest goal found onward directory
  rw [List.dropLast_concat] at onward
  have leads := leads.through named found
  rcases leads.onto_solid wellFormed (origin_directory target start) solid onward with rfl | absent
  · exact solid directory
  · rw [absent] at directory
    cases directory

/-- What was blind is blind after a change that redirects nothing but to a place. -/
theorem Redirected.blind (redirected : Redirected files other place) (wellFormed : files.WellFormed)
    (solid : files.entry? place ≠ some .directory) (start : files.entry? at_ = some .directory)
    (blind : files.Blind (at_ ++ [name])) : other.Blind (at_ ++ [name]) := by
  intro target rest goal found onward directory
  rw [List.dropLast_concat] at onward
  have start := origin_directory target start
  have before := redirected.directory directory
  have apart : goal ≠ place := by
    rintro rfl
    exact solid before
  have leads : files.Leads true (origin target at_) (rawNames target ++ rest) goal := by
    rcases redirected.leads_before wellFormed solid start onward with leads | same | absent
    · exact leads
    · exact absurd same apart
    · rw [absent] at directory
      cases directory
  rcases redirected _ _ found with there | ⟨-, content, isFile⟩ | ⟨_, isLink, toPlace⟩
  · exact blind target rest goal there (by rwa [List.dropLast_concat]) before
  · cases isFile
  · cases isLink
    rw [List.dropLast_concat] at toPlace
    rcases toPlace.onto_solid wellFormed start solid leads with same | absent
    · exact apart same
    · rw [absent] at before
      cases before

namespace LeadsBy

/-- The way to a directory is kept if all directories are kept, and all links that are not blind. -/
theorem kept_directory (leads : files.LeadsBy true used at_ names location)
    (directory : files.entry? location = some .directory)
    (directories : ∀ place, files.entry? place = some .directory → other.entry? place = some .directory)
    (links : ∀ place target, files.entry? place = some (.link target) →
      other.entry? place = some (.link target) ∨ files.Blind place) :
    other.LeadsBy true used at_ names location := by
  refine leads.kept (by simp [directory]) directories ?_ ?_
  · intro place target rest fewer _ found onward
    rcases links place target found with kept | blind
    · exact kept
    · exact absurd directory (blind target rest location found onward.leads)
  · intro content file
    rw [directory] at file
    cases file

private theorem onward {target : String} (leads : files.LeadsBy true used at_ [name] location)
    (named : Names name) (found : files.entry? (at_ ++ [name]) = some (.link target)) :
    ∃ further, used = further + 1 ∧
      files.LeadsBy true further (origin target at_) (rawNames target) location := by
  cases leads with
  | here blank => exact absurd blank (by simp [named.1.1, named.1.2.1])
  | up => exact absurd rfl named.1.2.2
  | free _ absent => simp [found] at absent
  | down _ other => simp [found] at other
  | file _ other => simp [found] at other
  | stop _ _ unfollowed => cases unfollowed
  | link _ same _ onward =>
    rw [found] at same
    cases same
    exact ⟨_, rfl, by simpa using onward⟩

/-- Of all ways of names there is one with the least number of links. -/
theorem least (leads : files.LeadsBy last used at_ names location) :
    ∃ least ≤ used, files.LeadsBy last least at_ names location ∧
      ∀ fewer < least, ¬ files.LeadsBy last fewer at_ names location := by
  induction used using Nat.strongRecOn with
  | ind used ih =>
    by_cases shorter : ∃ fewer < used, files.LeadsBy last fewer at_ names location
    · obtain ⟨fewer, less, leads⟩ := shorter
      obtain ⟨least, within, facts⟩ := ih fewer less leads
      exact ⟨least, Nat.le_trans within (Nat.le_of_lt less), facts⟩
    · exact ⟨used, Nat.le_refl used, leads, fun fewer less leads => shorter ⟨fewer, less, leads⟩⟩

end LeadsBy

/-- Moving a file, or a link to a file, onto another entry of the same directory, which leads to another
place. -/
structure Move (files after : FileSystem) (directory : Location) (source target : String)
    (moved : Entry) (stored : Location) (content : FileContent) : Prop where
  inside : files.entry? directory = some .directory
  sourceNamed : Names source
  targetNamed : Names target
  found : files.entry? (directory ++ [source]) = some moved
  free : files.entry? (directory ++ [target]) ≠ some .directory
  leads : files.Leads true directory [source] stored
  present : files.entry? stored = some (.file content)
  replaced : ∃ held, files.Leads true directory [target] held ∧ files.entry? held ≠ some .directory ∧
    stored ≠ held
  after_eq : after = (files.erase (directory ++ [source])).put (directory ++ [target]) moved

namespace Move

variable {directory stored : Location} {source target : String} {moved : Entry} {content : FileContent}

private theorem entry?_new (move : Move files after directory source target moved stored content) :
    after.entry? (directory ++ [target]) = some moved := by
  rw [move.after_eq, entry?_put_self _ _ (by simp)]

private theorem entry?_other (move : Move files after directory source target moved stored content)
    (notOld : location ≠ directory ++ [source]) (notNew : location ≠ directory ++ [target]) :
    after.entry? location = files.entry? location := by
  rw [move.after_eq, entry?_put_other _ _ notNew, entry?_erase_other _ notOld]

private theorem properLinks (move : Move files after directory source target moved stored content)
    (proper : files.ProperLinks) : after.ProperLinks := by
  intro location text linked
  by_cases isNew : location = directory ++ [target]
  · rw [isNew, move.entry?_new] at linked
    cases linked
    exact proper _ text move.found
  by_cases isOld : location = directory ++ [source]
  · rw [move.after_eq, entry?_put_other _ _ isNew, isOld, entry?_erase_self _ (by simp)] at linked
    cases linked
  · rw [move.entry?_other isOld isNew] at linked
    exact proper location text linked

private theorem moved_cases (move : Move files after directory source target moved stored content) :
    (stored = directory ++ [source] ∧ moved = .file content) ∨
      stored ≠ directory ++ [source] ∧ ∃ text, moved = .link text := by
  have leads := move.leads
  have present := move.present
  rw [Leads.entered move.sourceNamed, move.found] at leads
  cases moved with
  | directory =>
    cases leads
    rw [move.found] at present
    cases present
  | file other =>
    obtain ⟨-, rfl⟩ := leads
    rw [move.found] at present
    cases present
    exact .inl ⟨rfl, rfl⟩
  | link text =>
    refine .inr ⟨?_, text, rfl⟩
    rintro rfl
    rw [move.found] at present
    cases present

private theorem directories (move : Move files after directory source target moved stored content)
    (found : files.entry? location = some .directory) : after.entry? location = some .directory := by
  rw [move.entry?_other]
  · exact found
  · rintro rfl
    rw [move.found] at found
    rcases move.moved_cases with ⟨-, rfl⟩ | ⟨-, text, rfl⟩ <;> cases found
  · rintro rfl
    exact move.free found

/-- The way to a directory is kept: neither what is moved nor what is replaced leads to one. -/
theorem kept_directory (move : Move files after directory source target moved stored content)
    (wellFormed : files.WellFormed) (leads : files.LeadsBy true used at_ names location)
    (isDirectory : files.entry? location = some .directory) :
    after.LeadsBy true used at_ names location := by
  obtain ⟨held, replaced, solid, -⟩ := move.replaced
  refine leads.kept_directory isDirectory (fun _ => move.directories) ?_
  intro place text linked
  by_cases isOld : place = directory ++ [source]
  · subst isOld
    exact .inr (.of_leads wellFormed move.inside move.sourceNamed move.leads (by simp [move.present]))
  by_cases isNew : place = directory ++ [target]
  · subst isNew
    exact .inr (.of_leads wellFormed move.inside move.targetNamed replaced solid)
  · exact .inl (by rw [move.entry?_other isOld isNew, linked])

private theorem arrives (move : Move files after directory source target moved stored content)
    (wellFormed : files.WellFormed) (leads : files.LeadsBy true used directory [source] stored) :
    ∃ fewer ≤ used, ∃ goal, after.LeadsBy true fewer directory [target] goal ∧
      after.entry? goal = some (.file content) := by
  obtain ⟨held, replaced, solid, apart⟩ := move.replaced
  have isNew := move.entry?_new
  rcases move.moved_cases with ⟨-, rfl⟩ | ⟨notOld, text, rfl⟩
  · exact ⟨0, Nat.zero_le used, _, .file move.targetNamed isNew, isNew⟩
  obtain ⟨further, rfl, onward⟩ := leads.onward move.sourceNamed move.found
  obtain ⟨least, within, onward, fewest⟩ := onward.least
  have notNew : stored ≠ directory ++ [target] := by
    rintro rfl
    rw [Leads.entered move.targetNamed, move.present] at replaced
    exact apart replaced.2.symm
  have stays : after.entry? stored = some (.file content) := by
    rw [move.entry?_other notOld notNew, move.present]
  refine ⟨least + 1, Nat.succ_le_succ within, stored,
    .link move.targetNamed isNew (.inl rfl) ?_, stays⟩
  rw [List.append_nil]
  refine onward.kept (by simp [move.present]) (fun _ => move.directories) ?_ fun _ _ => ⟨content, stays⟩
  intro place other rest fewer less linked passes
  by_cases isOld : place = directory ++ [source]
  · -- A way that comes to the moved link comes to its target, which leads on with fewer links.
    subst isOld
    rw [move.found] at linked
    cases linked
    rw [List.dropLast_concat] at passes
    cases onward.leads.at_file wellFormed (origin_directory text move.inside) move.present passes.leads
    rw [List.append_nil] at passes
    exact absurd passes (fewest fewer less)
  by_cases isNew : place = directory ++ [target]
  · subst isNew
    rw [List.dropLast_concat] at passes
    have leads := replaced.through move.targetNamed linked
    rcases leads.onto_solid wellFormed (origin_directory other move.inside) solid passes.leads with
      same | absent
    · exact absurd same apart
    · rw [move.present] at absent
      cases absent
  · rw [move.entry?_other isOld isNew, linked]

end Move

def remove (files : FileSystem) (path : String) : Except FileError FileSystem := do
  let location ← files.locate path false
  match files.entry? location with
  | none => .error .notFound
  | some .directory => .error .isDirectory
  | some _ => .ok (files.erase location)

theorem remove_ok {path : String} (removed : files.remove path = .ok after) :
    ∃ location, files.locate path false = .ok location ∧ files.entry? location ≠ none ∧
      files.entry? location ≠ some .directory ∧ after = files.erase location := by
  obtain ⟨location, led, removed⟩ := Except.bind_ok removed
  cases found : files.entry? location with
  | none =>
    rw [found] at removed
    cases removed
  | some entry =>
    rw [found] at removed
    cases entry with
    | directory => cases removed
    | file | link =>
      cases removed
      exact ⟨location, led, by simp [found], by simp [found], rfl⟩

section Removal

variable (below : location ≠ []) (solid : files.entry? location ≠ some .directory)
include below

theorem ProperLinks.erase (proper : files.ProperLinks) : (files.erase location).ProperLinks := by
  intro place target linked
  by_cases same : place = location
  · rw [same, entry?_erase_self _ below] at linked
    cases linked
  · rw [entry?_erase_other _ same] at linked
    exact proper place target linked

omit below
include solid

theorem entry?_erase_directory (found : files.entry? place = some .directory) :
    entry? (files.erase location) place = some .directory := by
  rw [entry?_erase_other, found]
  rintro rfl
  exact solid found

/-- The way to a directory is kept when something blind is removed. -/
theorem LeadsBy.erase (blind : files.Blind location) (leads : files.LeadsBy true used at_ names place)
    (found : files.entry? place = some .directory) :
    (files.erase location).LeadsBy true used at_ names place := by
  refine leads.kept_directory found (fun _ => entry?_erase_directory solid) ?_
  intro other target linked
  by_cases same : other = location
  · exact .inr (same ▸ blind)
  · exact .inl (by rw [entry?_erase_other _ same, linked])

end Removal

theorem proper_of_file (wellFormed : files.WellFormed) {path : String} {content : FileContent}
    (split : rawNames path = names ++ [name]) (found : files.lookup path = .ok (location, .file content)) :
    FilePath.Proper name := by
  obtain ⟨led, file⟩ := lookup_eq_ok_iff.mp found
  have start := origin_directory path wellFormed.working
  exact (locate_leads led).ends_properly wellFormed start file (by simp [split])

/-- A file that is moved onto another file of its directory is found where that one was. -/
theorem rename_read (wellFormed : files.WellFormed) (proper : files.ProperLinks)
    {source target sourceName targetName : String} {stored held : Location} {content : ByteArray} {old : FileContent}
    (sourceNames : rawNames source = names ++ [sourceName])
    (targetNames : rawNames target = names ++ [targetName])
    (renamed : files.rename source target = .ok after)
    (written : files.lookup source = .ok (stored, .file content))
    (replaced : files.lookup target = .ok (held, .file old)) (apart : stored ≠ held) :
    after.readBytes target = .ok content := by
  obtain ⟨sourceAt, present⟩ := lookup_eq_ok_iff.mp written
  obtain ⟨targetAt, file⟩ := lookup_eq_ok_iff.mp replaced
  have sourceProper := proper_of_file wellFormed sourceNames written
  have targetProper := proper_of_file wellFormed targetNames replaced
  have sameOrigin : origin source files.working = origin target files.working := by
    rw [origin, origin, FilePath.isAbsolute_eq sourceNames sourceProper.1,
      FilePath.isAbsolute_eq targetNames targetProper.1]
  obtain ⟨nonempty, plain, -⟩ := (locate_eq_ok_iff proper).mp targetAt
  obtain ⟨-, -, used, within, leads⟩ := (locate_eq_ok_iff proper).mp sourceAt
  rw [sourceNames, sameOrigin] at leads
  obtain ⟨first, second, directory, rfl, above, inside, leads⟩ :=
    leads.parent wellFormed (origin_directory target wellFormed.working) sourceProper.1
  have onto {last : Bool} {place : Location} (led : files.locate target last = .ok place) :=
    locate_from wellFormed targetNames targetProper.1 above.leads led
  have sourceNamed := leads.leads.named sourceProper
  have targetNamed := (onto targetAt).named targetProper
  obtain ⟨from_, to_, moved, led, leadsTo, found, free, -, -, rfl⟩ := rename_ok renamed
  cases (locate_from wellFormed sourceNames sourceProper.1 (sameOrigin ▸ above.leads) led).single sourceNamed
  cases (onto leadsTo).single targetNamed
  have move : Move files _ directory sourceName targetName moved stored content :=
    ⟨inside, sourceNamed, targetNamed, found, free, leads.leads, present,
      ⟨held, onto targetAt, by simp [file], apart⟩, rfl⟩
  obtain ⟨fewer, less, goal, last, arrived⟩ := move.arrives wellFormed leads
  refine readBytes_eq_ok_iff.mpr ⟨goal, lookup_eq_ok_iff.mpr ⟨?_, arrived⟩⟩
  refine (locate_eq_ok_iff (move.properLinks proper)).mpr ⟨nonempty, plain, first + fewer, by omega, ?_⟩
  rw [targetNames]
  exact (move.kept_directory wellFormed above inside).append (move.directories inside) last

end TextScenario.FileSystem
