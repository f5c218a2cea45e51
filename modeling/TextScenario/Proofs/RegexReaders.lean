import TextScenario.Regex.Reader

/-! The readers of single constructs look no further than the end of the group that they are in. What they
read from a text they read as well if a closing parenthesis and anything else stand after it. -/

namespace TextScenario.Regex

theorem dropWhile_append {accepts : Char → Bool} {text : List Char} (after : List Char)
    (kept : text.dropWhile accepts ≠ []) :
    (text ++ after).dropWhile accepts = text.dropWhile accepts ++ after := by
  rw [List.dropWhile_append]
  split
  next none => exact absurd (List.isEmpty_iff.mp none) kept
  next => rfl

private theorem skipBlanks_comment (fuel : Nat) (rest : List Char) :
    skipBlanks (fuel + 1) ('#' :: rest) = skipBlanks fuel (rest.dropWhile (· != '\n')) := rfl

theorem skipBlanks_cons {char : Char} (noMark : char ≠ '#') (fuel : Nat) (rest : List Char) :
    skipBlanks (fuel + 1) (char :: rest) =
      if Text.isBlank char then skipBlanks fuel rest else char :: rest := by
  rw [skipBlanks.eq_def]
  split
  · contradiction
  next same => exact absurd (List.cons.inj same).1 noMark
  next counted same =>
    cases counted
    cases same
    rfl
  · contradiction

theorem skipBlanks_append (after : List Char) {text : List Char} {fuel : Nat} (extra : Nat)
    (enough : text.length ≤ fuel) (kept : skipBlanks fuel text ≠ []) :
    skipBlanks (fuel + extra) (text ++ after) = skipBlanks fuel text ++ after := by
  fun_induction skipBlanks fuel text with
  | case1 text =>
    have empty : text = [] := List.length_eq_zero_iff.mp (Nat.le_zero.mp enough)
    exact absurd empty kept
  | case2 fuel rest ih =>
    have shorter := (List.dropWhile_suffix (· != '\n') (l := rest)).length_le
    have more : rest.dropWhile (· != '\n') ≠ [] := by
      intro none
      rw [none] at kept
      cases fuel <;> exact absurd rfl kept
    rw [Nat.succ_add, List.cons_append, skipBlanks_comment, dropWhile_append after more]
    refine ih ?_ kept
    rw [List.length_cons] at enough
    omega
  | case3 fuel char rest noMark blank ih =>
    rw [Nat.succ_add, List.cons_append, skipBlanks_cons noMark, if_pos blank]
    exact ih (Nat.le_of_succ_le_succ enough) kept
  | case4 fuel char rest noMark solid =>
    rw [Nat.succ_add, List.cons_append, skipBlanks_cons noMark, if_neg solid]
  | case5 => exact absurd rfl kept

variable {flags : Flags} {text rest : List Char}

theorem skip_append (after : List Char) (kept : skip flags text ≠ []) :
    skip flags (text ++ after) = skip flags text ++ after := by
  unfold skip at kept ⊢
  split
  next ignored =>
    rw [if_pos ignored] at kept
    rw [List.length_append]
    exact skipBlanks_append after after.length (Nat.le_refl _) kept
  next => rfl

theorem skip_cons {char : Char} (after : List Char) (found : skip flags text = char :: rest) :
    skip flags (text ++ after) = char :: (rest ++ after) := by
  rw [skip_append after (by simp [found]), found, List.cons_append]

private theorem skipBlanks_closing {text : List Char} {fuel : Nat} (enough : text.length ≤ fuel)
    (blank : skipBlanks fuel text = []) :
    (∀ extra after, skipBlanks (fuel + (extra + 1)) (text ++ ')' :: after) = ')' :: after) ∨
      ∀ extra, skipBlanks (fuel + extra) (text ++ [')']) = [] := by
  have closing (fuel : Nat) (after : List Char) : skipBlanks (fuel + 1) (')' :: after) = ')' :: after := rfl
  fun_induction skipBlanks fuel text with
  | case1 text =>
    have empty : text = [] := List.length_eq_zero_iff.mp (Nat.le_zero.mp enough)
    subst empty
    exact .inl fun extra after => closing _ after
  | case2 fuel rest ih =>
    have shorter := (List.dropWhile_suffix (· != '\n') (l := rest)).length_le
    cases ended : rest.dropWhile (· != '\n') with
    | nil =>
      -- the comment goes on behind the parenthesis
      refine .inr fun extra => ?_
      rw [Nat.succ_add, List.cons_append, skipBlanks_comment, List.dropWhile_append, ended]
      cases fuel + extra <;> rfl
    | cons char others =>
      have more : rest.dropWhile (· != '\n') ≠ [] := by simp [ended]
      rcases ih (by rw [List.length_cons] at enough; omega) blank with closed | swallowed
      · refine .inl fun extra after => ?_
        rw [Nat.succ_add, List.cons_append, skipBlanks_comment, dropWhile_append _ more]
        exact closed extra after
      · refine .inr fun extra => ?_
        rw [Nat.succ_add, List.cons_append, skipBlanks_comment, dropWhile_append _ more]
        exact swallowed extra
  | case3 fuel char rest noMark isBlank ih =>
    rcases ih (Nat.le_of_succ_le_succ enough) blank with closed | swallowed
    · refine .inl fun extra after => ?_
      rw [Nat.succ_add, List.cons_append, skipBlanks_cons noMark, if_pos isBlank]
      exact closed extra after
    · refine .inr fun extra => ?_
      rw [Nat.succ_add, List.cons_append, skipBlanks_cons noMark, if_pos isBlank]
      exact swallowed extra
  | case4 => contradiction
  | case5 fuel => exact .inl fun extra after => closing _ after

/-- What is left before a parenthesis is skipped, unless it is a comment that goes on behind it. -/
theorem skip_closing {flags : Flags} {text : List Char} (blank : skip flags text = []) :
    (∀ after, skip flags (text ++ ')' :: after) = ')' :: after) ∨ skip flags (text ++ [')']) = [] := by
  unfold skip at blank ⊢
  split at blank
  next ignored =>
    simp only [if_pos ignored, List.length_append, List.length_cons]
    rcases skipBlanks_closing (Nat.le_refl _) blank with closed | swallowed
    · exact .inl fun after => closed after.length after
    · exact .inr (swallowed _)
  next counted =>
    subst blank
    simp only [if_neg counted]
    exact .inl fun after => rfl

theorem skip_nil (flags : Flags) : skip flags [] = [] := by
  unfold skip
  split <;> rfl

theorem skip_parenthesis (flags : Flags) (after : List Char) : skip flags (')' :: after) = ')' :: after := by
  unfold skip
  split <;> rfl

private theorem skip_length_le (flags : Flags) (text : List Char) : (skip flags text).length ≤ text.length := by
  have blanks (fuel : Nat) (text : List Char) : (skipBlanks fuel text).length ≤ text.length := by
    fun_induction skipBlanks fuel text with
    | case1 | case4 | case5 => exact Nat.le_refl _
    | case2 fuel rest ih =>
      have shorter := (List.dropWhile_suffix (· != '\n') (l := rest)).length_le
      rw [List.length_cons]
      omega
    | case3 fuel char rest noMark blank ih => exact Nat.le_succ_of_le ih
  unfold skip
  split
  · exact blanks _ _
  · exact Nat.le_refl _

theorem takeWhile_append {accepts : Char → Bool} {next : Char}
    (ended : text.drop (text.takeWhile accepts).length = next :: rest) (after : List Char) :
    (text ++ after).takeWhile accepts = text.takeWhile accepts ∧
      (text ++ after).drop (text.takeWhile accepts).length = next :: (rest ++ after) := by
  induction text with
  | nil => simp at ended
  | cons char text ih =>
    rw [List.cons_append]
    cases accepted : accepts char with
    | true =>
      rw [List.takeWhile_cons_of_pos accepted] at ended ⊢
      rw [List.takeWhile_cons_of_pos accepted]
      obtain ⟨taken, left⟩ := ih ended
      exact ⟨congrArg (char :: ·) taken, left⟩
    | false =>
      have other : ¬ accepts char = true := by simp [accepted]
      rw [List.takeWhile_cons_of_neg other] at ended ⊢
      rw [List.takeWhile_cons_of_neg other]
      cases ended
      exact ⟨rfl, rfl⟩

theorem readHex_append {count : Nat} (positive : 0 < count) {char : Char} {isByte : Bool}
    (read : readHex flags count text = some (char, isByte, rest)) (after : List Char) :
    readHex flags count (text ++ after) = some (char, isByte, rest ++ after) := by
  unfold readHex at read ⊢
  cases start : skip flags text with
  | nil =>
    have short : ¬ (0 = count) := by omega
    simp [start, short] at read
  | cons first others =>
    rw [start] at read
    rw [skip_cons after start]
    split at read
    next same =>
      cases same
      dsimp only at read
      split at read
      next left ended =>
        obtain ⟨taken, more⟩ := takeWhile_append ended after
        simp only [taken, more]
        split at read
        · contradiction
        next valid =>
          obtain ⟨own, coded, same⟩ := Option.map_eq_some_iff.mp read
          rw [if_neg valid, coded]
          cases same
          rfl
      next => contradiction
    next noBrace =>
      split
      next same =>
        cases same
        exact absurd rfl (noBrace others)
      next =>
        dsimp only at read ⊢
        split at read
        · contradiction
        next valid =>
          have long : count ≤ (first :: others).length := by
            have exact := (not_or.mp valid).1
            rw [ne_eq, Decidable.not_not, List.length_take] at exact
            omega
          obtain ⟨own, coded, same⟩ := Option.map_eq_some_iff.mp read
          rw [← List.cons_append, List.take_append_of_le_length long,
            List.drop_append_of_le_length long, if_neg valid, coded]
          cases same
          rfl

theorem readNamedSet_append [Engine] {negated : Bool} {set : CharSet}
    (read : readNamedSet flags negated text = some (set, rest)) (after : List Char) :
    readNamedSet flags negated (text ++ after) = some (set, rest ++ after) := by
  unfold readNamedSet at read ⊢
  dsimp only at read ⊢
  split at read
  · contradiction
  next unicode =>
    rw [if_neg unicode]
    split at read
    next others start =>
      rw [skip_cons after start]
      split at read
      next left ended =>
        obtain ⟨taken, more⟩ := takeWhile_append ended after
        simp only [taken, more]
        split at read
        next =>
          obtain ⟨own, named, same⟩ := Option.map_eq_some_iff.mp read
          rw [named]
          cases same
          rfl
        next =>
          split at read
          all_goals
            obtain ⟨own, named, same⟩ := Option.map_eq_some_iff.mp read
            rw [named]
            cases same
            rfl
      next => contradiction
    next char others noBrace start =>
      rw [skip_cons after start]
      split at read
      · contradiction
      next letter =>
        obtain ⟨own, named, same⟩ := Option.map_eq_some_iff.mp read
        split
        next left again =>
          cases again
          exact absurd rfl noBrace
        next char _ _ again =>
          cases again
          rw [if_neg letter, named]
          cases same
          rfl
        next again => cases again
    next => contradiction

/-- What may stand after a part of an expression that is complete: the end of the group around it, the next
branch, or a dollar sign. -/
def closers : List Char := [')', '|', '$']

variable {closer : Char}

private theorem closer_ne {char : Char} (closes : closer ∈ closers) (other : char ∉ closers) : closer ≠ char :=
  fun same => other (same ▸ closes)

/-- A boundary may be followed by a brace, which no closer is. -/
theorem readBoundary_append (closes : closer ∈ closers) {look : Look}
    (read : readBoundary flags text = some (look, rest)) (after : List Char) :
    readBoundary flags (text ++ closer :: after) = some (look, rest ++ closer :: after) := by
  unfold readBoundary at read ⊢
  dsimp only at read ⊢
  split at read
  next others =>
    rw [List.cons_append]
    cases start : skip flags others with
    | nil => simp [start] at read
    | cons first name =>
      have again := skip_cons (closer :: after) start
      simp only [start] at read
      simp only [again]
      split at read
      next letter =>
        rw [if_pos letter]
        split at read
        next left ended =>
          obtain ⟨taken, more⟩ := takeWhile_append ended (closer :: after)
          rw [List.cons_append] at taken more
          simp only [taken, more]
          split at read <;> cases read <;> rfl
        next => contradiction
      next other =>
        rw [if_neg other]
        cases read
        rfl
  next noBrace =>
    cases read
    cases text with
    | nil =>
      rw [List.nil_append]
      split
      next same =>
        cases same
        exact absurd rfl (closer_ne closes (by decide))
      next => rfl
    | cons char others =>
      rw [List.cons_append]
      split
      next same =>
        cases same
        exact absurd rfl (noBrace others)
      next => rfl

theorem readEscape_append [Engine] (closes : closer ∈ closers) {atom : Atom}
    (read : readEscape flags text = some (atom, rest)) (after : List Char) :
    readEscape flags (text ++ closer :: after) = some (atom, rest ++ closer :: after) := by
  cases text with
  | nil => contradiction
  | cons char others =>
    rw [List.cons_append]
    unfold readEscape at read ⊢
    dsimp only at read ⊢
    split at read
    iterate 3
      obtain ⟨⟨own, isByte, left⟩, found, same⟩ := Option.map_eq_some_iff.mp read
      cases same
      rw [readHex_append (by decide) found]
      rfl
    iterate 2
      obtain ⟨⟨set, left⟩, found, same⟩ := Option.map_eq_some_iff.mp read
      cases same
      rw [readNamedSet_append found]
      rfl
    all_goals try (cases read; rfl)
    · obtain ⟨⟨look, left⟩, found, same⟩ := Option.map_eq_some_iff.mp read
      cases same
      rw [readBoundary_append closes found]
      rfl
    · split at read
      next escapable =>
        rw [if_pos escapable]
        cases read
        rfl
      next => contradiction

theorem readCaret_append (after : List Char) (kept : (readCaret flags text).2 ≠ []) :
    readCaret flags (text ++ after) = ((readCaret flags text).1, (readCaret flags text).2 ++ after) := by
  fun_cases readCaret flags text with
  | case1 rest =>
    rw [List.cons_append, readCaret, skip_append after kept]
  | case2 text other =>
    cases text with
    | nil => exact absurd rfl kept
    | cons char others =>
      rw [List.cons_append]
      unfold readCaret
      split
      next same => exact (other others (by rw [(List.cons.inj same).1])).elim
      next => rfl

theorem readHyphens_append (after : List Char) {fuel : Nat} {bracket : OpenBracket} (extra : Nat)
    (enough : text.length ≤ fuel) (kept : (readHyphens flags fuel bracket text).2 ≠ []) :
    readHyphens flags (fuel + extra) bracket (text ++ after) =
      ((readHyphens flags fuel bracket text).1, (readHyphens flags fuel bracket text).2 ++ after) := by
  fun_induction readHyphens flags fuel bracket text with
  | case1 fuel bracket rest ih =>
    have begun : skip flags rest ≠ [] := by
      intro none
      rw [none] at kept
      cases fuel <;> exact absurd rfl kept
    have shorter := skip_length_le flags rest
    rw [Nat.succ_add, List.cons_append, readHyphens,
      skip_append after begun]
    refine ih ?_ kept
    rw [List.length_cons] at enough
    omega
  | case2 fuel bracket text other =>
    cases text with
    | nil => exact absurd rfl kept
    | cons char others =>
      cases fuel with
      | zero => contradiction
      | succ fuel =>
        rw [Nat.succ_add, List.cons_append]
        unfold readHyphens
        split
        next same =>
          cases same
          exact absurd rfl (other fuel others rfl)
        next => rfl

theorem openBracket_append {bracket : OpenBracket} (read : openBracket flags text = some (bracket, rest))
    (more : rest ≠ []) (after : List Char) :
    openBracket flags (text ++ after) = some (bracket, rest ++ after) := by
  unfold openBracket at read ⊢
  dsimp only at read ⊢
  have hyphens : (readHyphens flags (readCaret flags (skip flags text)).2.length
      { negated := (readCaret flags (skip flags text)).1 } (readCaret flags (skip flags text)).2).2 ≠ [] := by
    intro none
    rw [none] at read
    contradiction
  have caret : (readCaret flags (skip flags text)).2 ≠ [] := by
    intro none
    rw [none] at hyphens
    exact hyphens rfl
  have begun : skip flags text ≠ [] := by
    intro none
    rw [none] at caret
    exact caret rfl
  rw [skip_append after begun, readCaret_append after caret]
  dsimp only
  rw [List.length_append, readHyphens_append after _ (Nat.le_refl _) hyphens]
  generalize readHyphens flags _ _ _ = start at read hyphens ⊢
  obtain ⟨bracket, left⟩ := start
  dsimp only at read hyphens ⊢
  cases left with
  | nil => exact absurd rfl hyphens
  | cons char others =>
    rw [List.cons_append]
    split at read
    · contradiction
    next same =>
      cases same
      split at read
      next nothing =>
        simp only [if_pos nothing]
        cases read
        rw [skip_append after more]
      next something =>
        simp only [if_neg something]
        cases read
        rfl
    next other =>
      cases read
      split
      · contradiction
      next same =>
        cases same
        exact absurd rfl (other others)
      next => rfl

private theorem asciiClass?_plain {name : String} {set : CharSet} (named : asciiClass? name = some set) :
    ∀ closer ∈ closers, closer ∉ name.toList := by
  suffices plain : (closers.all fun closer => !name.toList.contains closer) = true by simpa using plain
  unfold asciiClass? at named
  dsimp only at named
  split at named
  all_goals first | decide | contradiction

/-- No name of a class has a closer in it, so a name that goes on behind one is of no class. -/
theorem readClassName_append (closes : closer ∈ closers) (negated : Bool) (text after : List Char) :
    readClassName negated (text ++ closer :: after) =
      (readClassName negated text).map fun read => (read.1, read.2 ++ closer :: after) := by
  unfold readClassName
  dsimp only
  cases ended : text.drop (text.takeWhile (· != ':')).length with
  | nil =>
    have whole : text.takeWhile (· != ':') = text :=
      (List.takeWhile_prefix _).eq_of_length_le (List.drop_eq_nil_iff.mp ended)
    have inside : ∀ char ∈ text, (char != ':') = true := by
      rw [← whole]
      exact List.all_eq_true.mp List.all_takeWhile
    have named : closer ∈ (text ++ closer :: after).takeWhile (· != ':') := by
      have other : closer ≠ ':' := closer_ne closes (by decide)
      rw [List.takeWhile_append_of_pos inside, List.takeWhile_cons_of_pos (by simpa using other)]
      simp
    have noClass : asciiClass? (String.ofList ((text ++ closer :: after).takeWhile (· != ':'))) = none := by
      refine Option.eq_none_iff_forall_ne_some.mpr ?_
      intro set found
      exact asciiClass?_plain found closer closes (by rwa [String.toList_ofList])
    rw [noClass]
    split <;> rfl
  | cons next left =>
    obtain ⟨taken, more⟩ := takeWhile_append ended (closer :: after)
    rw [taken, more]
    cases left with
    | nil =>
      have other : closer ≠ ']' := closer_ne closes (by decide)
      split
      next same => simp [other] at same
      next =>
        split
        next same => simp at same
        next => rfl
    | cons second left =>
      rw [List.cons_append]
      split
      next same =>
        cases same
        simp only [Option.map_map]
        rfl
      next other =>
        split
        next same =>
          cases same
          exact (other (left ++ closer :: after) rfl).elim
        next => rfl

theorem readAsciiClass_append (closes : closer ∈ closers) (text after : List Char) :
    readAsciiClass (text ++ closer :: after) =
      (readAsciiClass text).map fun read => (read.1, read.2 ++ closer :: after) := by
  cases text with
  | nil =>
    have other : closer ≠ ':' := closer_ne closes (by decide)
    rw [List.nil_append, readAsciiClass]
    · rfl
    all_goals simp [other]
  | cons first text =>
    by_cases colon : first = ':'
    · subst colon
      cases text with
      | nil =>
        have other : closer ≠ '^' := closer_ne closes (by decide)
        rw [List.cons_append, List.nil_append, readAsciiClass]
        · exact readClassName_append closes false [] after
        · simpa using other
      | cons second text =>
        by_cases caret : second = '^'
        · subst caret
          exact readClassName_append closes true text after
        · rw [List.cons_append, List.cons_append, readAsciiClass, readAsciiClass]
          · exact readClassName_append closes false (second :: text) after
          all_goals simpa using caret
    · rw [List.cons_append, readAsciiClass, readAsciiClass]
      · rfl
      all_goals simp [colon]

theorem readMember_append [Engine] (closes : closer ∈ closers) {atom : Atom}
    (read : readMember flags text = some (atom, rest)) (after : List Char) :
    readMember flags (text ++ closer :: after) = some (atom, rest ++ closer :: after) := by
  cases text with
  | nil => contradiction
  | cons char others =>
    rw [List.cons_append]
    by_cases escape : char = '\\'
    · subst escape
      obtain ⟨found, allowed⟩ := Option.filter_eq_some_iff.mp read
      rw [readMember, readEscape_append closes found, Option.filter_some, if_pos allowed]
    · rw [readMember] at read ⊢
      · split at read
        next allowed =>
          rw [if_pos allowed]
          cases read
          rfl
        next => contradiction
      all_goals exact escape

theorem readRange_append [Engine] (closes : closer ∈ closers) {set : CharSet}
    (read : readRange flags text = some (set, rest)) (after : List Char) :
    readRange flags (text ++ closer :: after) = some (set, rest ++ closer :: after) := by
  unfold readRange at read ⊢
  rw [Option.bind_eq_bind, Option.bind_eq_some_iff] at read
  obtain ⟨⟨first, left⟩, found, kept⟩ := read
  rw [readMember_append closes found, Option.bind_eq_bind, Option.bind_some]
  dsimp only at kept ⊢
  cases start : skip flags left with
  | nil => simp [start] at kept
  | cons char others =>
    rw [skip_cons _ start]
    rw [start] at kept
    split at kept
    · contradiction
    next same =>
      cases same
      split at kept
      · contradiction
      next beyond =>
        cases kept
        simp only [skip_cons (closer :: after) beyond]
        rfl
      next beyond =>
        cases kept
        simp only [skip_cons (closer :: after) beyond]
        rfl
      next beyond nonempty noBracket noHyphen =>
        obtain ⟨⟨last, more⟩, ended, kept⟩ := Option.bind_eq_some_iff.mp kept
        obtain ⟨range, made, same⟩ := Option.map_eq_some_iff.mp kept
        cases same
        obtain ⟨next, tail, begun⟩ := List.exists_cons_of_ne_nil fun none => nonempty none
        have again := skip_cons (closer :: after) begun
        rw [begun] at ended noBracket noHyphen
        have read := readMember_append closes ended after
        rw [List.cons_append] at read
        simp only [again]
        split
        · contradiction
        next same =>
          cases same
          exact (noBracket tail rfl).elim
        next same =>
          cases same
          exact (noHyphen tail rfl).elim
        next =>
          rw [read, Option.bind_some, made]
          rfl
    next other =>
      cases kept
      split
      · contradiction
      next same =>
        cases same
        exact absurd rfl (other others)
      · rfl

theorem readBrackets_nil [Engine] (flags : Flags) (fuel deepest : Nat) (bracket : OpenBracket)
    (outer : List OpenBracket) : readBrackets flags fuel deepest bracket outer [] = none := by
  cases fuel with
  | zero => rfl
  | succ fuel => rw [readBrackets, skip_nil]

theorem doubled_append {mark char : Char} (other : closer ≠ mark) {after left : List Char}
    (same : char :: (rest ++ closer :: after) = mark :: mark :: left) :
    ∃ left, char :: rest = mark :: mark :: left := by
  cases rest with
  | nil =>
    obtain ⟨-, same⟩ := List.cons.inj same
    exact absurd (List.cons.inj same).1 other
  | cons second rest =>
    cases same
    exact ⟨rest, rfl⟩

/-- A text in brackets that begins with neither a bracket nor a mark that is written twice. -/
structure Ranged (text : List Char) : Prop where
  open_ne : text.head? ≠ some '['
  close_ne : text.head? ≠ some ']'
  single : ∀ mark ∈ ['&', '-', '~'], ∀ left, text ≠ mark :: mark :: left

private theorem Ranged.append (closes : closer ∈ closers) {char : Char} (ranged : Ranged (char :: rest))
    (after : List Char) : Ranged (char :: (rest ++ closer :: after)) := by
  refine ⟨ranged.open_ne, ranged.close_ne, ?_⟩
  intro mark member left same
  have apart : closer ≠ mark := by
    apply closer_ne closes
    intro inside
    revert member inside
    simp only [closers, List.mem_cons, List.not_mem_nil, or_false]
    rintro (rfl | rfl | rfl) (own | own | own) <;> cases own
  obtain ⟨others, found⟩ := doubled_append apart same
  exact ranged.single mark member others found

private theorem readBrackets_ranged [Engine] {char : Char} (start : skip flags text = char :: rest)
    (ranged : Ranged (char :: rest)) (fuel deepest : Nat) (bracket : OpenBracket) (outer : List OpenBracket) :
    readBrackets flags (fuel + 1) deepest bracket outer text =
      (readRange flags (char :: rest)).bind fun read =>
        readBrackets flags fuel deepest (bracket.add read.1) outer read.2 := by
  obtain ⟨noOpen, noClose, single⟩ := ranged
  rw [readBrackets, start]
  split
  next same => cases same
  next same =>
    cases same
    exact absurd rfl noOpen
  next same =>
    cases same
    exact absurd rfl noClose
  next same => exact absurd same (single _ (by simp) _)
  next same => exact absurd same (single _ (by simp) _)
  next same => exact absurd same (single _ (by simp) _)
  next => rfl

theorem readBrackets_append [Engine] (closes : closer ∈ closers) {fuel deepest depth : Nat} {bracket : OpenBracket}
    {outer : List OpenBracket}
    {set : CharSet} (read : readBrackets flags fuel deepest bracket outer text = some (set, depth, rest))
    (extra : Nat) (after : List Char) :
    readBrackets flags (fuel + extra) deepest bracket outer (text ++ closer :: after) =
      some (set, depth, rest ++ closer :: after) := by
  induction fuel generalizing deepest bracket outer text with
  | zero => contradiction
  | succ fuel ih =>
    rw [Nat.add_right_comm]
    cases start : skip flags text with
    | nil => simp [readBrackets, start] at read
    | cons char others =>
      have begun := skip_cons (closer :: after) start
      by_cases ranged : Ranged (char :: others)
      · rw [readBrackets_ranged start ranged] at read
        rw [readBrackets_ranged begun (ranged.append closes after)]
        obtain ⟨⟨own, left⟩, found, later⟩ := Option.bind_eq_some_iff.mp read
        have again := readRange_append closes found after
        rw [List.cons_append] at again
        rw [again]
        exact ih later
      · unfold readBrackets at read ⊢
        rw [begun]
        rw [start] at read
        split at read
        · contradiction
        next same =>
          cases same
          simp only [readAsciiClass_append closes]
          cases classed : readAsciiClass others with
          | some found =>
            simp only [classed] at read
            exact ih read
          | none =>
            simp only [classed] at read
            rw [Option.bind_eq_bind, Option.bind_eq_some_iff] at read
            obtain ⟨⟨inner, left⟩, opened, later⟩ := read
            have more : left ≠ [] := by
              rintro rfl
              rw [readBrackets_nil] at later
              contradiction
            simp only [Option.map_none, openBracket_append opened more]
            exact ih later
        next same =>
          cases same
          split at read
          next =>
            cases read
            rfl
          next => exact ih read
        iterate 3
          next same =>
            cases same
            exact ih read
        next noOpen noClose noAnd noHyphens noTildes =>
          refine absurd ⟨?_, ?_, ?_⟩ ranged
          · exact fun same => noOpen others (by rw [Option.some.inj same])
          · exact fun same => noClose others (by rw [Option.some.inj same])
          · intro mark member left same
            simp only [List.mem_cons, List.not_mem_nil, or_false] at member
            rcases member with rfl | rfl | rfl
            · exact noAnd left same
            · exact noHyphens left same
            · exact noTildes left same

theorem readSet_append [Engine] (closes : closer ∈ closers) {set : CharSet} {depth : Nat}
    (read : readSet flags text = some (set, depth, rest)) (after : List Char) :
    readSet flags (text ++ closer :: after) = some (set, depth, rest ++ closer :: after) := by
  unfold readSet at read ⊢
  rw [Option.bind_eq_bind, Option.bind_eq_some_iff] at read
  obtain ⟨⟨bracket, inside⟩, opened, read⟩ := read
  rw [Option.bind_eq_bind, Option.bind_eq_some_iff] at read
  obtain ⟨⟨own, deepest, left⟩, found, kept⟩ := read
  have more : inside ≠ [] := by
    rintro rfl
    rw [readBrackets_nil] at found
    contradiction
  have further : (inside ++ closer :: after).length + 1 = inside.length + 1 + (closer :: after).length := by
    rw [List.length_append]
    omega
  have again := readBrackets_append closes found (closer :: after).length after
  rw [← further] at again
  rw [openBracket_append opened more, Option.bind_eq_bind, Option.bind_some]
  dsimp only at kept ⊢
  rw [again, Option.bind_eq_bind, Option.bind_some]
  dsimp only
  split at kept
  next allowed =>
    rw [if_pos allowed]
    cases kept
    rfl
  next => contradiction

namespace Reading

theorem readDecimal_append {value : Nat} (read : readDecimal text = some (value, rest)) (more : rest ≠ [])
    (after : List Char) : readDecimal (text ++ after) = some (value, rest ++ after) := by
  unfold readDecimal at read ⊢
  dsimp only at read ⊢
  split at read
  · contradiction
  next valid =>
    cases read
    have left : (text.dropWhile Text.isBlank).drop
        ((text.dropWhile Text.isBlank).takeWhile Char.isDigit).length ≠ [] := by
      intro none
      rw [none] at more
      exact more rfl
    have begun : text.dropWhile Text.isBlank ≠ [] := by
      intro none
      rw [none] at left
      exact left rfl
    obtain ⟨next, others, ended⟩ := List.exists_cons_of_ne_nil left
    obtain ⟨taken, after'⟩ := takeWhile_append ended after
    rw [dropWhile_append after begun, taken, after', if_neg valid, ← List.cons_append, ← ended,
      dropWhile_append after more]

variable {reading final : Reading}

theorem readLazy_append (closes : closer ∈ closers) (text after : List Char) :
    readLazy (text ++ closer :: after) = ((readLazy text).1, (readLazy text).2 ++ closer :: after) := by
  cases text with
  | nil =>
    have other : closer ≠ '?' := closer_ne closes (by decide)
    rw [List.nil_append, readLazy]
    · rfl
    · simpa using other
  | cons char others =>
    rw [List.cons_append]
    by_cases mark : char = '?'
    · subst mark
      rfl
    · rw [readLazy, readLazy]
      · rfl
      all_goals simp [mark]

theorem repeatLast_append (closes : closer ∈ closers) {least : Nat} {most : Option Nat}
    (read : reading.repeatLast least most text = some (final, rest)) (after : List Char) :
    reading.repeatLast least most (text ++ closer :: after) = some (final, rest ++ closer :: after) := by
  unfold repeatLast at read ⊢
  split at read
  next =>
    cases read
    rw [readLazy_append closes]
    rfl
  next => contradiction

theorem readBounds_append {flags : Flags} {least : Nat} {most : Option Nat}
    (read : readBounds flags text = some (least, most, rest)) (after : List Char) :
    readBounds flags (text ++ closer :: after) = some (least, most, rest ++ closer :: after) := by
  unfold readBounds at read ⊢
  rw [Option.bind_eq_bind, Option.bind_eq_some_iff] at read
  obtain ⟨⟨count, left⟩, counted, read⟩ := read
  have begun : skip flags text ≠ [] := by
    intro none
    rw [none] at counted
    contradiction
  have more : left ≠ [] := by
    rintro rfl
    contradiction
  rw [skip_append _ begun, readDecimal_append counted more, Option.bind_eq_bind, Option.bind_some]
  dsimp only at read ⊢
  split at read
  next others =>
    rw [List.cons_append]
    split at read
    next closed =>
      simp only [skip_cons (closer :: after) closed]
      cases read
      rfl
    next unclosed =>
      obtain ⟨⟨bound, left⟩, bounded, kept⟩ := Option.bind_eq_some_iff.mp read
      have begun : skip flags others ≠ [] := by
        intro none
        rw [none] at bounded
        contradiction
      have more : left ≠ [] := by
        rintro rfl
        contradiction
      obtain ⟨next, tail, start⟩ := List.exists_cons_of_ne_nil begun
      rw [start] at bounded unclosed
      have again := readDecimal_append bounded more (closer :: after)
      rw [List.cons_append] at again
      simp only [skip_cons (closer :: after) start]
      split
      next same =>
        cases same
        exact (unclosed tail rfl).elim
      next =>
        rw [again, Option.bind_some]
        dsimp only at kept ⊢
        split at kept
        next closed =>
          rw [List.cons_append]
          split at kept
          next ordered =>
            simp only [if_pos ordered]
            cases kept
            rfl
          next => contradiction
        next => contradiction
  next others =>
    cases read
    rfl
  next => contradiction

theorem repeatCounted_append (closes : closer ∈ closers)
    (read : reading.repeatCounted text = some (final, rest)) (after : List Char) :
    reading.repeatCounted (text ++ closer :: after) = some (final, rest ++ closer :: after) := by
  unfold repeatCounted at read ⊢
  rw [Option.bind_eq_bind, Option.bind_eq_some_iff] at read
  obtain ⟨⟨least, most, left⟩, bounded, kept⟩ := read
  rw [readBounds_append bounded, Option.bind_eq_bind, Option.bind_some]
  exact repeatLast_append closes kept after

theorem readFlags_append {flags last : Flags} {seen own : List Char}
    (read : readFlags flags seen text = some (last, own, rest)) (after : List Char) :
    readFlags flags seen (text ++ after) = some (last, own, rest ++ after) := by
  induction text generalizing flags seen with
  | nil => contradiction
  | cons char others ih =>
    rw [List.cons_append]
    unfold readFlags at read ⊢
    split at read
    next ends =>
      rw [if_pos ends]
      split at read
      · contradiction
      next allowed =>
        rw [if_neg allowed]
        cases read
        rfl
    next inside =>
      rw [if_neg inside]
      split at read
      · contradiction
      next fresh =>
        rw [if_neg fresh]
        split at read
        next hyphen =>
          rw [if_pos hyphen]
          exact ih read
        next letter =>
          rw [if_neg letter]
          split at read
          · contradiction
          next => exact ih read

theorem readName_append {name : List Char} (read : readName text = some (name, rest)) (after : List Char) :
    readName (text ++ after) = some (name, rest ++ after) := by
  unfold readName at read ⊢
  dsimp only at read ⊢
  split at read
  next left first others ended named =>
    obtain ⟨taken, more⟩ := takeWhile_append ended after
    rw [named] at more
    simp only [named] at read
    simp only [taken, named, more]
    split at read
    next allowed =>
      rw [if_pos allowed]
      cases read
      rfl
    next => contradiction
  next => contradiction

theorem openNamed_append (read : reading.openNamed text = some (final, rest)) (after : List Char) :
    reading.openNamed (text ++ after) = some (final, rest ++ after) := by
  unfold openNamed at read ⊢
  rw [Option.bind_eq_bind, Option.bind_eq_some_iff] at read
  obtain ⟨⟨name, left⟩, found, kept⟩ := read
  rw [readName_append found, Option.bind_eq_bind, Option.bind_some]
  dsimp only at kept ⊢
  split at kept
  · contradiction
  next fresh =>
    rw [if_neg fresh]
    cases kept
    rfl

theorem openFlags_append (read : reading.openFlags text = some (final, rest)) (after : List Char) :
    reading.openFlags (text ++ after) = some (final, rest ++ after) := by
  unfold openFlags at read ⊢
  rw [Option.bind_eq_bind, Option.bind_eq_some_iff] at read
  obtain ⟨⟨flags, seen, left⟩, found, kept⟩ := read
  rw [readFlags_append found, Option.bind_eq_bind, Option.bind_some]
  dsimp only at kept ⊢
  split at kept
  next others =>
    rw [List.cons_append]
    split at kept
    · contradiction
    next some =>
      simp only [if_neg some]
      cases kept
      rfl
  next others =>
    cases kept
    rfl
  next => contradiction

theorem openMarked_append (closes : closer ∈ closers) (read : reading.openMarked text = some (final, rest))
    (after : List Char) :
    reading.openMarked (text ++ closer :: after) = some (final, rest ++ closer :: after) := by
  unfold openMarked at read
  split at read
  iterate 4 contradiction
  next left => exact openNamed_append read _
  next left noEqual noBang =>
    cases left with
    | nil =>
      have noEqual : closer ≠ '=' := closer_ne closes (by decide)
      have noBang : closer ≠ '!' := closer_ne closes (by decide)
      rw [List.cons_append, List.nil_append, openMarked]
      · exact openNamed_append read _
      · simpa using noEqual
      · simpa using noBang
    | cons char left =>
      rw [List.cons_append, List.cons_append, openMarked]
      · exact openNamed_append read _
      · simpa using noEqual
      · simpa using noBang
  next noEqual noBang noBehind noBehind' noNamed noName =>
    have opened := openFlags_append read (closer :: after)
    rcases text with _ | ⟨first, _ | ⟨second, text⟩⟩
    · contradiction
    · have other : closer ≠ '<' := closer_ne closes (by decide)
      rw [List.cons_append, List.nil_append] at opened ⊢
      rw [openMarked]
      · exact opened
      all_goals simp_all
    · rw [List.cons_append, List.cons_append] at opened ⊢
      rw [openMarked]
      · exact opened
      all_goals simp_all

/-- A parenthesis at the end of a text opens a group, and a comment after it would go on. -/
theorem openParenthesis_append (closes : closer ∈ closers)
    (read : reading.openParenthesis text = some (final, rest))
    (solid : skip reading.flags text = [] → reading.flags.ignoreBlanks = false) (after : List Char) :
    reading.openParenthesis (text ++ closer :: after) = some (final, rest ++ closer :: after) := by
  unfold openParenthesis at read ⊢
  cases start : skip reading.flags text with
  | nil =>
    have plain := solid start
    have whole (text : List Char) : skip reading.flags text = text := by rw [skip, plain]; rfl
    have empty : text = [] := (whole text).symm.trans start
    subst empty
    simp only [start] at read
    rw [List.nil_append, whole]
    cases read
    split
    next same =>
      cases same
      exact absurd rfl (closer_ne closes (by decide))
    next => rfl
  | cons first others =>
    rw [skip_cons _ start]
    rw [start] at read
    split at read
    next same =>
      cases same
      exact openMarked_append closes read after
    next noMark =>
      cases read
      split
      next same =>
        cases same
        exact (noMark others rfl).elim
      next => rfl

/-- A construct ends before the closer that stands after it. -/
theorem next_append [Engine] (closes : closer ∈ closers) {char : Char} (read : reading.next char text = some (final, rest))
    (solid : char = '(' → skip reading.flags text = [] → reading.flags.ignoreBlanks = false)
    (after : List Char) :
    reading.next char (text ++ closer :: after) = some (final, rest ++ closer :: after) := by
  unfold next at read ⊢
  split at read
  · exact openParenthesis_append closes read (solid rfl) after
  · obtain ⟨closed, found, same⟩ := Option.map_eq_some_iff.mp read
    rw [found]
    cases same
    rfl
  · cases read
    rfl
  · rw [Option.bind_eq_bind, Option.bind_eq_some_iff] at read
    obtain ⟨⟨set, depth, left⟩, found, kept⟩ := read
    rw [readSet_append closes found, Option.bind_eq_bind, Option.bind_some]
    cases kept
    rfl
  iterate 3 exact repeatLast_append closes read after
  · exact repeatCounted_append closes read after
  · split at read
    next unicode =>
      rw [if_pos unicode]
      cases read
      rfl
    next => contradiction
  iterate 2
    cases read
    rfl
  · rw [Option.bind_eq_bind, Option.bind_eq_some_iff] at read
    obtain ⟨⟨atom, left⟩, found, kept⟩ := read
    obtain ⟨pushed, allowed, same⟩ := Option.map_eq_some_iff.mp kept
    rw [readEscape_append closes found, Option.bind_eq_bind, Option.bind_some]
    dsimp only
    rw [allowed]
    cases same
    rfl
  · obtain ⟨pushed, allowed, same⟩ := Option.map_eq_some_iff.mp read
    rw [allowed]
    cases same
    rfl

end Reading

end TextScenario.Regex
