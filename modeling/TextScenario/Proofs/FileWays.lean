import TextScenario.FileSystem
import TextScenario.Proofs.JsonFields
import TextScenario.Proofs.TextLines

/-! The way of a path: the locations that are looked at while it is followed. Two file systems that
have the same entries on the way of a path lead it to the same place. -/

namespace TextScenario

/-- A name that a path can be known by. -/
def FilePath.Proper (name : String) : Prop :=
  name ≠ "" ∧ name ≠ "." ∧ name ≠ ".."

theorem FileContent.open_eq_ok_iff {content : FileContent} {bytes : ByteArray} :
    content.open = .ok bytes ↔ content = bytes := by
  obtain ⟨held, refusal⟩ := content
  cases refusal <;> simp [FileContent.open]

/-- An entry without its content. Following a path sees no more of it. -/
def Entry.outline : Entry → Entry
  | .file _ => .file ByteArray.empty
  | .directory => .directory
  | .link target => .link target

namespace FileSystem

def outline? (files : FileSystem) (location : Location) : Option Entry :=
  files.entry? location |>.map Entry.outline

theorem entry?_put_self (files : FileSystem) {location : Location} (entry : Entry)
    (below : location ≠ []) : entry? (files.put location entry) location = some entry := by
  simp [put, entry?, below]

theorem entry?_put_other (files : FileSystem) {location other : Location} (entry : Entry)
    (different : other ≠ location) :
    entry? (files.put location entry) other = files.entry? other := by
  simp only [put, entry?, List.lookup_cons, beq_eq_false_iff_ne.mpr different, List.lookup_erased,
    if_neg different]

theorem entry?_erase_self (files : FileSystem) {location : Location} (below : location ≠ []) :
    entry? (files.erase location) location = none := by
  simp [erase, entry?, below, List.lookup_erased]

theorem entry?_erase_other (files : FileSystem) {location other : Location}
    (different : other ≠ location) : entry? (files.erase location) other = files.entry? other := by
  simp only [erase, entry?, List.lookup_erased, if_neg different]

def enter (files : FileSystem) (last : Bool) (fuel links : Nat) (at_ : Location) (name : String)
    (rest : List String) : Except FileError Location :=
  match files.entry? (at_ ++ [name]) with
  | none => if rest.all (· == "") then .ok (at_ ++ [name]) else .error .notFound
  | some .directory => follow files last fuel links (at_ ++ [name]) rest
  | some (.file _) => if rest.isEmpty then .ok (at_ ++ [name]) else .error .notDirectory
  | some (.link target) =>
    if rest.isEmpty && !last then .ok (at_ ++ [name])
    else match links with
      | 0 => .error .tooManyLinks
      | links + 1 =>
        if target = "" then .error .notFound
        else
          follow files last fuel links (if FilePath.isAbsolute target then [] else at_)
            (rawNames target ++ rest)

/-- The locations that are looked at while names are followed. -/
def visited (files : FileSystem) (last : Bool) : Nat → Nat → Location → List String → List Location
  | 0, _, _, _ => []
  | _ + 1, _, _, [] => []
  | fuel + 1, links, at_, name :: rest =>
    if name = "" ∨ name = "." then visited files last fuel links at_ rest
    else if name = ".." then visited files last fuel links at_.dropLast rest
    else if name.utf8ByteSize > greatestName then []
    else
      let next := at_ ++ [name]
      next ::
        match files.entry? next with
        | none => []
        | some .directory => visited files last fuel links next rest
        | some (.file _) => []
        | some (.link target) =>
          if rest.isEmpty && !last then []
          else match links with
            | 0 => []
            | links + 1 =>
              if target = "" then []
              else
                visited files last fuel links (if FilePath.isAbsolute target then [] else at_)
                  (rawNames target ++ rest)

def beyond (files : FileSystem) (last : Bool) (fuel links : Nat) (at_ : Location) (name : String)
    (rest : List String) : List Location :=
  match files.entry? (at_ ++ [name]) with
  | none => []
  | some .directory => visited files last fuel links (at_ ++ [name]) rest
  | some (.file _) => []
  | some (.link target) =>
    if rest.isEmpty && !last then []
    else match links with
      | 0 => []
      | links + 1 =>
        if target = "" then []
        else
          visited files last fuel links (if FilePath.isAbsolute target then [] else at_)
            (rawNames target ++ rest)

/-- A name that leads from a directory to something in it. -/
def Names (name : String) : Prop :=
  FilePath.Proper name ∧ name.utf8ByteSize ≤ greatestName

theorem name_cases (name : String) :
    (name = "" ∨ name = ".") ∨ name = ".." ∨
      FilePath.Proper name ∧ name.utf8ByteSize > greatestName ∨ Names name := by
  by_cases here : name = "" ∨ name = "."
  · exact .inl here
  by_cases up : name = ".."
  · exact .inr (.inl up)
  have proper : FilePath.Proper name :=
    ⟨fun same => here (.inl same), fun same => here (.inr same), up⟩
  rcases Nat.lt_or_ge greatestName name.utf8ByteSize with long | short
  · exact .inr (.inr (.inl ⟨proper, long⟩))
  · exact .inr (.inr (.inr ⟨proper, short⟩))

section Names

variable {files : FileSystem} {last : Bool} {fuel links : Nat} {at_ : Location} {name : String}
  {rest : List String}

theorem follow_here (here : name = "" ∨ name = ".") :
    files.follow last (fuel + 1) links at_ (name :: rest) =
      files.follow last fuel links at_ rest := by
  rw [follow, if_pos here]

theorem follow_up :
    files.follow last (fuel + 1) links at_ (".." :: rest) =
      files.follow last fuel links at_.dropLast rest := by
  rw [follow, if_neg (by simp), if_pos rfl]

theorem follow_long (proper : FilePath.Proper name) (long : name.utf8ByteSize > greatestName) :
    files.follow last (fuel + 1) links at_ (name :: rest) = .error .nameTooLong := by
  rw [follow, if_neg (by simp [proper.1, proper.2.1]), if_neg proper.2.2, if_pos long]

theorem follow_name (named : Names name) :
    files.follow last (fuel + 1) links at_ (name :: rest) =
      files.enter last fuel links at_ name rest := by
  obtain ⟨⟨nonempty, notHere, notUp⟩, short⟩ := named
  rw [follow, if_neg (by simp [nonempty, notHere]), if_neg notUp, if_neg (by omega)]
  rfl

theorem visited_here (here : name = "" ∨ name = ".") :
    files.visited last (fuel + 1) links at_ (name :: rest) =
      files.visited last fuel links at_ rest := by
  rw [visited, if_pos here]

theorem visited_up :
    files.visited last (fuel + 1) links at_ (".." :: rest) =
      files.visited last fuel links at_.dropLast rest := by
  rw [visited, if_neg (by simp), if_pos rfl]

theorem visited_name (named : Names name) :
    files.visited last (fuel + 1) links at_ (name :: rest) =
      (at_ ++ [name]) :: files.beyond last fuel links at_ name rest := by
  obtain ⟨⟨nonempty, notHere, notUp⟩, short⟩ := named
  rw [visited, if_neg (by simp [nonempty, notHere]), if_neg notUp, if_neg (by omega)]
  rfl

theorem follow_blanks {location : Location} {blanks : List String} (blank : ∀ name ∈ blanks, name = "")
    (led : files.follow last fuel links at_ blanks = .ok location) :
    location = at_ ∧ files.visited last fuel links at_ blanks = [] := by
  induction fuel generalizing blanks with
  | zero => cases led
  | succ fuel ih =>
    cases blanks with
    | nil =>
      cases led
      exact ⟨rfl, rfl⟩
    | cons name rest =>
      have here : name = "" ∨ name = "." := .inl (blank name (.head _))
      rw [follow_here here] at led
      rw [visited_here here]
      exact ih (fun other inside => blank other (.tail _ inside)) led

end Names

/-- Where names lead in two file systems that they take the same way in, as far as a location whose
entries differ. -/
inductive Parting (files other : FileSystem) (last : Bool) (place : Location) :
    Except FileError Location → Except FileError Location → Prop
  | intro (fuel links : Nat) (at_ : Location) (name : String) (rest : List String)
      (place_eq : at_ ++ [name] = place)
      (differ : files.outline? place ≠ other.outline? place) :
      Parting files other last place (files.enter last fuel links at_ name rest)
        (other.enter last fuel links at_ name rest)

/-- Two file systems lead names to the same place, or part on the way. -/
theorem follow_parting (files other : FileSystem) (last : Bool) (fuel links : Nat) (at_ : Location)
    (names : List String) :
    other.follow last fuel links at_ names = files.follow last fuel links at_ names ∨
      ∃ place ∈ files.visited last fuel links at_ names,
        Parting files other last place (files.follow last fuel links at_ names)
          (other.follow last fuel links at_ names) := by
  induction fuel generalizing links at_ names with
  | zero => exact .inl rfl
  | succ fuel ih =>
    cases names with
    | nil => exact .inl rfl
    | cons name rest =>
      rcases name_cases name with here | rfl | ⟨proper, long⟩ | named
      · rw [follow_here here, follow_here here, visited_here here]
        exact ih links at_ rest
      · rw [follow_up, follow_up, visited_up]
        exact ih links at_.dropLast rest
      · exact .inl (by rw [follow_long proper long, follow_long proper long])
      rw [follow_name named, follow_name named, visited_name named]
      by_cases differ : files.outline? (at_ ++ [name]) = other.outline? (at_ ++ [name])
      · have onward (deeper : Nat) (from_ : Location) (names : List String)
            (further : files.beyond last fuel links at_ name rest =
              files.visited last fuel deeper from_ names) :
            other.follow last fuel deeper from_ names = files.follow last fuel deeper from_ names ∨
              ∃ place ∈ (at_ ++ [name]) :: files.beyond last fuel links at_ name rest,
                Parting files other last place
                  (files.follow last fuel deeper from_ names)
                  (other.follow last fuel deeper from_ names) :=
          (ih deeper from_ names).imp_right fun ⟨place, member, parting⟩ =>
            ⟨place, .tail _ (further ▸ member), parting⟩
        cases found : files.entry? (at_ ++ [name]) with
        | none =>
          have absent : other.entry? (at_ ++ [name]) = none := by
            simpa [outline?, found] using differ.symm
          exact .inl (by simp only [enter, found, absent])
        | some entry =>
          obtain ⟨twin, present, alike⟩ : ∃ twin, other.entry? (at_ ++ [name]) = some twin ∧
              twin.outline = entry.outline := by
            simpa [outline?, found] using differ.symm
          cases entry with
          | directory =>
            cases twin <;> cases alike
            simp only [enter, found, present]
            exact onward links _ rest (by simp only [beyond, found])
          | file content =>
            cases twin <;> cases alike
            exact .inl (by simp only [enter, found, present])
          | link target =>
            cases twin <;> cases alike
            simp only [enter, found, present]
            by_cases stop : (rest.isEmpty && !last) = true
            · exact .inl (by simp only [if_pos stop])
            cases links with
            | zero => exact .inl rfl
            | succ links =>
              by_cases empty : target = ""
              · exact .inl (by simp only [if_pos empty])
              simp only [if_neg stop, if_neg empty]
              exact onward links _ _ (by simp only [beyond, found, if_neg stop, if_neg empty])
      · exact .inr ⟨at_ ++ [name], .head _, .intro fuel links at_ name rest rfl differ⟩

theorem Parting.differ {files other : FileSystem} {last : Bool}
    {place : Location} {result otherResult : Except FileError Location}
    (parting : Parting files other last place result otherResult) :
    files.outline? place ≠ other.outline? place := by
  obtain ⟨fuel, links, at_, name, rest, rfl, differ⟩ := parting
  exact differ

private theorem follow_last (files : FileSystem) (fuel links : Nat) (at_ : Location) (names : List String) :
    files.follow true fuel links at_ names = files.follow false fuel links at_ names ∨
      ∃ location target, files.follow false fuel links at_ names = .ok location ∧
        files.entry? location = some (.link target) := by
  induction fuel generalizing links at_ names with
  | zero => exact .inl rfl
  | succ fuel ih =>
    cases names with
    | nil => exact .inl rfl
    | cons name rest =>
      rcases name_cases name with here | rfl | ⟨proper, long⟩ | named
      · simpa only [follow_here here] using ih links at_ rest
      · simpa only [follow_up] using ih links at_.dropLast rest
      · exact .inl (by rw [follow_long proper long, follow_long proper long])
      rw [follow_name named, follow_name named]
      cases found : files.entry? (at_ ++ [name]) with
      | none => exact .inl (by simp only [enter, found])
      | some entry =>
        cases entry with
        | directory => simpa only [enter, found] using ih links _ rest
        | file content => exact .inl (by simp only [enter, found])
        | link target =>
          cases rest with
          | nil =>
            refine .inr ⟨at_ ++ [name], target, ?_, found⟩
            simp only [enter, found, List.isEmpty_nil, Bool.not_false, Bool.and_self, if_true]
          | cons next rest =>
            cases links with
            | zero =>
              refine .inl ?_
              simp only [enter, found, List.isEmpty_cons, Bool.false_and]
            | succ links =>
              by_cases empty : target = ""
              · refine .inl ?_
                simp only [enter, found, if_pos empty, List.isEmpty_cons, Bool.false_and]
              · simpa only [enter, found, if_neg empty, List.isEmpty_cons, Bool.false_and,
                  Bool.false_eq_true, if_false] using ih links _ _

theorem locate_last (files : FileSystem) (path : String) :
    files.locate path = files.locate path false ∨
      ∃ location target, files.locate path false = .ok location ∧
        files.entry? location = some (.link target) := by
  simp only [locate]
  split
  · exact .inl rfl
  split
  · exact .inl rfl
  exact follow_last files _ _ _ _

theorem Parting.present {files other : FileSystem} {last : Bool}
    {place location : Location} {result otherResult : Except FileError Location}
    (parting : Parting files other last place result otherResult) (led : result = .ok location)
    (found : files.entry? location ≠ none) : files.entry? place ≠ none := by
  obtain ⟨fuel, links, at_, name, rest, rfl, -⟩ := parting
  intro absent
  simp only [enter, absent] at led
  split at led
  · cases led
    exact found absent
  · cases led

/-- A directory that was created where a way ended is where the way ends still. -/
theorem Parting.created {files other : FileSystem} {last : Bool}
    {place location leads : Location} {result otherResult : Except FileError Location}
    (parting : Parting files other last place result otherResult)
    (absent : files.entry? place = none) (created : other.entry? place = some .directory)
    (led : result = .ok location) (still : otherResult = .ok leads) : leads = location := by
  obtain ⟨fuel, links, at_, name, rest, rfl, -⟩ := parting
  simp only [enter, absent] at led
  simp only [enter, created] at still
  split at led
  next blank =>
    cases led
    exact (follow_blanks (by simpa using blank) still).1
  next => cases led

def looked (files : FileSystem) (path : String) (last : Bool := true) : List Location :=
  if path = "" then []
  else if path.toList.contains '\x00' then []
  else
    let start := if FilePath.isAbsolute path then [] else files.working
    files.visited last (path.length + 42 * 4096) greatestLinks start (rawNames path)

/-- The locations on the way of a path, with the one that it leads to. -/
def way (files : FileSystem) (path : String) : List Location :=
  files.looked path ++ (files.locate path).toOption.toList

theorem locate_parting (files other : FileSystem) (working : other.working = files.working)
    (path : String) (last : Bool) :
    other.locate path last = files.locate path last ∨
      ∃ place ∈ files.looked path last,
        Parting files other last place (files.locate path last)
          (other.locate path last) := by
  simp only [locate, looked, working]
  split
  · exact .inl rfl
  split
  · exact .inl rfl
  exact follow_parting files other last _ _ _ _

theorem lookup_eq_ok_iff {files : FileSystem} {path : String} {location : Location} {entry : Entry} :
    files.lookup path = .ok (location, entry) ↔
      files.locate path = .ok location ∧ files.entry? location = some entry := by
  cases located : files.locate path with
  | error failure =>
    have failed : files.lookup path = .error failure := by
      rw [lookup, located]
      rfl
    simp [failed]
  | ok found =>
    cases present : files.entry? found with
    | none =>
      have failed : files.lookup path = .error .notFound := by
        simp only [lookup, located, bind, Except.bind, present]
      simp only [failed, reduceCtorEq, false_iff, not_and, Except.ok.injEq]
      rintro rfl
      simp [present]
    | some other =>
      have looked : files.lookup path = .ok (found, other) := by
        simp only [lookup, located, bind, Except.bind, present]
      simp only [looked, Except.ok.injEq, Prod.mk.injEq]
      constructor
      · rintro ⟨rfl, rfl⟩
        exact ⟨rfl, present⟩
      · rintro ⟨rfl, same⟩
        rw [present] at same
        cases same
        exact ⟨rfl, rfl⟩

private theorem mem_way {files : FileSystem} {path : String} {location : Location}
    (led : files.locate path = .ok location) : location ∈ files.way path := by
  simp [way, led, Except.toOption]

/-- A path that leads to something leads to it still if all that it finds on its way is kept. -/
theorem lookup_kept {files other : FileSystem} (working : other.working = files.working)
    {path : String} {location : Location} {entry : Entry}
    (kept : ∀ place ∈ files.way path, ∀ entry, files.entry? place = some entry →
      other.entry? place = some entry)
    (found : files.lookup path = .ok (location, entry)) :
    other.lookup path = .ok (location, entry) := by
  obtain ⟨led, present⟩ := lookup_eq_ok_iff.mp found
  refine lookup_eq_ok_iff.mpr ⟨?_, kept location (mem_way led) entry present⟩
  rcases locate_parting files other working path true with same | ⟨place, member, parting⟩
  · rw [same, led]
  · obtain ⟨there, before⟩ :=
      Option.ne_none_iff_exists'.mp (parting.present led (by simp [present]))
    have after := kept place (List.mem_append_left _ member) there before
    exact absurd (by rw [outline?, outline?, before, after]) parting.differ

theorem readBytes_eq_ok_iff {files : FileSystem} {path : String} {content : ByteArray} :
    files.readBytes path = .ok content ↔ ∃ location, files.lookup path = .ok (location, .file content) := by
  cases found : files.lookup path with
  | error failure =>
    have failed : files.readBytes path = .error failure := by
      rw [readBytes, found]
      rfl
    simp [failed]
  | ok present =>
    obtain ⟨location, entry⟩ := present
    cases entry with
    | file held =>
      have read : files.readBytes path = held.open := by
        rw [readBytes, found]
        rfl
      simp [read, FileContent.open_eq_ok_iff]
    | directory | link _ =>
      have failed : files.readBytes path = .error .isDirectory := by
        rw [readBytes, found]
        rfl
      simp [failed]

theorem isFile_iff {files : FileSystem} {path : String} :
    files.isFile path = true ↔ ∃ location content, files.lookup path = .ok (location, .file content) := by
  rw [isFile]
  constructor
  · intro file
    split at file
    next location content found => exact ⟨location, content, found⟩
    next => cases file
  · rintro ⟨location, content, found⟩
    rw [found]

theorem exists?_iff {files : FileSystem} {path : String} :
    files.exists? path = true ↔ ∃ location entry, files.lookup path = .ok (location, entry) := by
  rw [exists?]
  cases found : files.lookup path with
  | error failure => simp [Except.isOk, Except.toBool]
  | ok present =>
    obtain ⟨location, entry⟩ := present
    simp [Except.isOk, Except.toBool]

def origin (target : String) (at_ : Location) : Location :=
  if FilePath.isAbsolute target then [] else at_

/-- Where names lead from a directory. -/
inductive Leads (files : FileSystem) (last : Bool) : Location → List String → Location → Prop
  | nil {at_} : Leads files last at_ [] at_
  | here {at_ name rest location} (blank : name = "" ∨ name = ".")
      (onward : Leads files last at_ rest location) : Leads files last at_ (name :: rest) location
  | up {at_ rest location} (onward : Leads files last at_.dropLast rest location) :
      Leads files last at_ (".." :: rest) location
  | free {at_ name rest} (named : Names name) (absent : files.entry? (at_ ++ [name]) = none)
      (blank : ∀ other ∈ rest, other = "") : Leads files last at_ (name :: rest) (at_ ++ [name])
  | down {at_ name rest location} (named : Names name)
      (found : files.entry? (at_ ++ [name]) = some .directory)
      (onward : Leads files last (at_ ++ [name]) rest location) :
      Leads files last at_ (name :: rest) location
  | file {at_ name content} (named : Names name)
      (found : files.entry? (at_ ++ [name]) = some (.file content)) :
      Leads files last at_ [name] (at_ ++ [name])
  | stop {at_ name target} (named : Names name)
      (found : files.entry? (at_ ++ [name]) = some (.link target)) (unfollowed : last = false) :
      Leads files last at_ [name] (at_ ++ [name])
  | link {at_ name rest target location} (named : Names name)
      (found : files.entry? (at_ ++ [name]) = some (.link target)) (onto : last = true ∨ rest ≠ [])
      (onward : Leads files last (origin target at_) (rawNames target ++ rest) location) :
      Leads files last at_ (name :: rest) location

/-- Where names lead from a directory, with the number of links that are followed. -/
inductive LeadsBy (files : FileSystem) (last : Bool) : Nat → Location → List String → Location → Prop
  | nil {at_} : LeadsBy files last 0 at_ [] at_
  | here {used at_ name rest location} (blank : name = "" ∨ name = ".")
      (onward : LeadsBy files last used at_ rest location) :
      LeadsBy files last used at_ (name :: rest) location
  | up {used at_ rest location} (onward : LeadsBy files last used at_.dropLast rest location) :
      LeadsBy files last used at_ (".." :: rest) location
  | free {at_ name rest} (named : Names name) (absent : files.entry? (at_ ++ [name]) = none)
      (blank : ∀ other ∈ rest, other = "") :
      LeadsBy files last 0 at_ (name :: rest) (at_ ++ [name])
  | down {used at_ name rest location} (named : Names name)
      (found : files.entry? (at_ ++ [name]) = some .directory)
      (onward : LeadsBy files last used (at_ ++ [name]) rest location) :
      LeadsBy files last used at_ (name :: rest) location
  | file {at_ name content} (named : Names name)
      (found : files.entry? (at_ ++ [name]) = some (.file content)) :
      LeadsBy files last 0 at_ [name] (at_ ++ [name])
  | stop {at_ name target} (named : Names name)
      (found : files.entry? (at_ ++ [name]) = some (.link target)) (unfollowed : last = false) :
      LeadsBy files last 0 at_ [name] (at_ ++ [name])
  | link {used at_ name rest target location} (named : Names name)
      (found : files.entry? (at_ ++ [name]) = some (.link target)) (onto : last = true ∨ rest ≠ [])
      (onward : LeadsBy files last used (origin target at_) (rawNames target ++ rest) location) :
      LeadsBy files last (used + 1) at_ (name :: rest) location

section Leads

variable {files : FileSystem} {last : Bool} {used : Nat} {at_ location : Location}
  {names : List String}

theorem LeadsBy.leads (leads : files.LeadsBy last used at_ names location) :
    files.Leads last at_ names location := by
  induction leads with
  | nil => exact .nil
  | here blank _ ih => exact .here blank ih
  | up _ ih => exact .up ih
  | free named absent blank => exact .free named absent blank
  | down named found _ ih => exact .down named found ih
  | file named found => exact .file named found
  | stop named found unfollowed => exact .stop named found unfollowed
  | link named found onto _ ih => exact .link named found onto ih

theorem follow_leadsBy {fuel links : Nat}
    (led : files.follow last fuel links at_ names = .ok location) :
    ∃ used ≤ links, files.LeadsBy last used at_ names location := by
  induction fuel generalizing links at_ names with
  | zero => cases led
  | succ fuel ih =>
    cases names with
    | nil =>
      cases led
      exact ⟨0, Nat.zero_le _, .nil⟩
    | cons name rest =>
      rcases name_cases name with here | rfl | ⟨proper, long⟩ | named
      · rw [follow_here here] at led
        obtain ⟨used, within, onward⟩ := ih led
        exact ⟨used, within, .here here onward⟩
      · rw [follow_up] at led
        obtain ⟨used, within, onward⟩ := ih led
        exact ⟨used, within, .up onward⟩
      · rw [follow_long proper long] at led
        cases led
      rw [follow_name named, enter] at led
      split at led
      next absent =>
        split at led
        next blank =>
          cases led
          exact ⟨0, Nat.zero_le _, .free named absent (by simpa using blank)⟩
        next => cases led
      next found =>
        obtain ⟨used, within, onward⟩ := ih led
        exact ⟨used, within, .down named found onward⟩
      next found =>
        split at led
        next final =>
          cases led
          cases List.isEmpty_iff.mp final
          exact ⟨0, Nat.zero_le _, .file named found⟩
        next => cases led
      next target found =>
        split at led
        next stop =>
          obtain ⟨final, unfollowed⟩ : rest = [] ∧ last = false := by simpa using stop
          subst final
          cases led
          exact ⟨0, Nat.zero_le _, .stop named found unfollowed⟩
        next onto =>
          have onto : last = true ∨ rest ≠ [] := by
            cases last <;> simp_all
          split at led
          · cases led
          split at led
          · cases led
          obtain ⟨used, within, onward⟩ := ih led
          exact ⟨used + 1, Nat.succ_le_succ within, .link named found onto onward⟩

private theorem follow_leads {fuel links : Nat} (led : files.follow last fuel links at_ names = .ok location) :
    files.Leads last at_ names location := by
  obtain ⟨used, -, leads⟩ := follow_leadsBy led
  exact leads.leads

theorem locate_leads {path : String} (led : files.locate path last = .ok location) :
    files.Leads last (origin path files.working) (rawNames path) location := by
  rw [locate] at led
  split at led
  · cases led
  split at led
  · cases led
  exact follow_leads led

end Leads

end FileSystem
end TextScenario
