import TextScenario.Proofs.RegexReadings

/-! Where the constructs of an expression end. None ends in a backslash that could escape what follows, and none
but the dollar sign itself and an escaped one ends in a dollar sign. So whether the dollar sign at the end of an
expression stands for the end of the text is known from the backslashes before it. -/

namespace TextScenario.Regex

/-- Whether what was read of a text ends in a character that is neither a backslash nor a dollar sign. -/
def Settles (text rest : List Char) : Prop :=
  ∃ before last, text = before ++ last :: rest ∧ last ≠ '\\' ∧ last ≠ '$'

private theorem Settles.single {char : Char} (slash : char ≠ '\\') (dollar : char ≠ '$') (rest : List Char) :
    Settles (char :: rest) rest :=
  ⟨[], char, rfl, slash, dollar⟩

private theorem Settles.of_suffix {text left rest : List Char} (settles : Settles left rest) (suffix : left <:+ text) :
    Settles text rest := by
  obtain ⟨front, rfl⟩ := suffix
  obtain ⟨before, last, rfl, plain⟩ := settles
  exact ⟨front ++ before, last, (List.append_assoc ..).symm, plain⟩

theorem Settles.cons {text rest : List Char} (settles : Settles text rest) (char : Char) :
    Settles (char :: text) rest :=
  settles.of_suffix (List.suffix_cons char text)

theorem Settles.trans {text left rest : List Char} (first : Settles text left) (second : Settles left rest) :
    Settles text rest := by
  obtain ⟨before, last, rfl, -⟩ := first
  exact second.of_suffix ⟨before ++ [last], by simp⟩

variable {flags : Flags} {text rest : List Char}

private theorem skipBlanks_suffix (fuel : Nat) (text : List Char) : skipBlanks fuel text <:+ text := by
  fun_induction skipBlanks fuel text with
  | case1 | case4 | case5 => exact List.suffix_refl _
  | case2 fuel rest ih => exact (ih.trans (List.dropWhile_suffix _)).trans (List.suffix_cons _ _)
  | case3 fuel char rest noMark blank ih => exact ih.trans (List.suffix_cons _ _)

private theorem skip_suffix (flags : Flags) (text : List Char) : skip flags text <:+ text := by
  unfold skip
  split
  · exact skipBlanks_suffix _ _
  · exact List.suffix_refl _

private theorem suffix_of_skip {char : Char} (found : skip flags text = char :: rest) : rest <:+ text :=
  (List.suffix_cons char rest).trans (found ▸ skip_suffix flags text)

private theorem skipBlanks_settles {fuel : Nat} {char : Char} (enough : text.length ≤ fuel)
    (found : skipBlanks fuel text = char :: rest) :
    Text.isBlank char = false ∧ (text = char :: rest ∨ Settles text (char :: rest)) := by
  fun_induction skipBlanks fuel text with
  | case1 text =>
    have empty : text = [] := List.length_eq_zero_iff.mp (Nat.le_zero.mp enough)
    rw [empty] at found
    cases found
  | case2 fuel others ih =>
    have shorter := (List.dropWhile_suffix (· != '\n') (l := others)).length_le
    rw [List.length_cons] at enough
    obtain ⟨solid, same | settles⟩ := ih (by omega) found
    · -- the comment would end in a line break, which is a blank
      have ended := List.head?_dropWhile_not (· != '\n') others
      rw [same, List.head?_cons] at ended
      have newline : char = '\n' := by simpa using ended
      subst newline
      contradiction
    · exact ⟨solid, .inr ((settles.of_suffix (List.dropWhile_suffix _)).cons _)⟩
  | case3 fuel first others noMark blank ih =>
    have slash : first ≠ '\\' := by
      rintro rfl
      contradiction
    have dollar : first ≠ '$' := by
      rintro rfl
      contradiction
    obtain ⟨solid, rfl | settles⟩ := ih (Nat.le_of_succ_le_succ enough) found
    · exact ⟨solid, .inr (.single slash dollar _)⟩
    · exact ⟨solid, .inr (settles.cons _)⟩
  | case4 fuel first others noMark solid =>
    cases found
    exact ⟨eq_false_of_ne_true solid, .inl rfl⟩
  | case5 => cases found

private theorem skip_settles {char : Char} (found : skip flags text = char :: rest) :
    text = char :: rest ∨ Settles text (char :: rest) := by
  unfold skip at found
  split at found
  · exact (skipBlanks_settles (Nat.le_refl _) found).2
  · exact .inl found

private theorem settles_drop {accepts : Char → Bool} {mark : Char}
    (ended : text.drop (text.takeWhile accepts).length = mark :: rest) (slash : mark ≠ '\\') (dollar : mark ≠ '$') :
    Settles text rest :=
  (Settles.single slash dollar rest).of_suffix (ended ▸ List.drop_suffix _ _)

private theorem readHex_settles {count : Nat} (positive : 0 < count) {char : Char} {isByte : Bool}
    (read : readHex flags count text = some (char, isByte, rest)) : Settles text rest := by
  refine Settles.of_suffix ?_ (skip_suffix flags text)
  unfold readHex at read
  split at read
  next others start =>
    rw [start]
    dsimp only at read
    split at read
    next ended =>
      split at read
      · contradiction
      · obtain ⟨own, -, same⟩ := Option.map_eq_some_iff.mp read
        cases same
        exact (settles_drop ended (by decide) (by decide)).cons _
    next => contradiction
  next =>
    generalize skip flags text = text at read ⊢
    dsimp only at read
    split at read
    · contradiction
    next valid =>
      obtain ⟨own, -, same⟩ := Option.map_eq_some_iff.mp read
      cases same
      obtain ⟨long, digits⟩ := not_or.mp valid
      simp only [ne_eq, Decidable.not_not, Bool.not_eq_true', Bool.not_eq_false] at long digits
      have some : text.take count ≠ [] := by
        intro none
        rw [none, List.length_nil] at long
        omega
      have last := List.all_eq_true.mp digits _ (List.getLast_mem some)
      refine ⟨(text.take count).dropLast, (text.take count).getLast some, ?_, ?_, ?_⟩
      · rw [← List.singleton_append, ← List.append_assoc, List.dropLast_append_getLast, List.take_append_drop]
      · intro same
        rw [same] at last
        exact absurd last (by decide)
      · intro same
        rw [same] at last
        exact absurd last (by decide)

private theorem readNamedSet_settles [Engine] {negated : Bool} {set : CharSet}
    (read : readNamedSet flags negated text = some (set, rest)) : Settles text rest := by
  refine Settles.of_suffix ?_ (skip_suffix flags text)
  unfold readNamedSet at read
  dsimp only at read
  split at read
  · contradiction
  · split at read
    next others start =>
      rw [start]
      split at read
      next left ended =>
        have settles : Settles ('{' :: others) left := (settles_drop ended (by decide) (by decide)).cons _
        split at read
        · obtain ⟨own, -, same⟩ := Option.map_eq_some_iff.mp read
          cases same
          exact settles
        · split at read
          all_goals
            obtain ⟨own, -, same⟩ := Option.map_eq_some_iff.mp read
            cases same
            exact settles
      next => contradiction
    next char others noBrace start =>
      rw [start]
      split at read
      · contradiction
      next slash =>
        obtain ⟨own, named, same⟩ := Option.map_eq_some_iff.mp read
        cases same
        refine .single slash ?_ _
        rintro rfl
        have unnamed : namedSet? ['$'] = none := rfl
        rw [unnamed] at named
        contradiction
    next => contradiction

private theorem readBoundary_settles {look : Look} (read : readBoundary flags text = some (look, rest)) :
    rest = text ∨ Settles text rest := by
  unfold readBoundary at read
  dsimp only at read
  split at read
  next others =>
    split at read
    · contradiction
    · split at read
      · split at read
        next ended =>
          have settles := (settles_drop ended (by decide) (by decide)).of_suffix (skip_suffix flags others)
          split at read <;> cases read
          all_goals exact .inr (settles.cons _)
        next => contradiction
      · cases read
        exact .inl rfl
  next =>
    cases read
    exact .inl rfl

private theorem readEscape_settles [Engine] {atom : Atom} (read : readEscape flags text = some (atom, rest)) :
    (∃ char, text = char :: rest) ∨ Settles text rest := by
  cases text with
  | nil => contradiction
  | cons char others =>
    unfold readEscape at read
    dsimp only at read
    split at read
    iterate 3
      obtain ⟨⟨own, isByte, left⟩, found, same⟩ := Option.map_eq_some_iff.mp read
      cases same
      exact .inr ((readHex_settles (by decide) found).cons _)
    iterate 2
      obtain ⟨⟨set, left⟩, found, same⟩ := Option.map_eq_some_iff.mp read
      cases same
      exact .inr ((readNamedSet_settles found).cons _)
    all_goals try (cases read; exact .inl ⟨_, rfl⟩)
    · obtain ⟨⟨look, left⟩, found, same⟩ := Option.map_eq_some_iff.mp read
      cases same
      rcases readBoundary_settles found with rfl | settles
      · exact .inl ⟨_, rfl⟩
      · exact .inr (settles.cons _)
    · split at read
      · cases read
        exact .inl ⟨_, rfl⟩
      · contradiction

private theorem Settles.suffix (settles : Settles text rest) : rest <:+ text := by
  obtain ⟨before, last, rfl, -⟩ := settles
  exact ⟨before ++ [last], by simp⟩

private theorem readClassName_suffix {negated : Bool} {set : CharSet} (read : readClassName negated text = some (set, rest)) :
    rest <:+ text := by
  unfold readClassName at read
  dsimp only at read
  split at read
  next after ended =>
    obtain ⟨own, -, same⟩ := Option.map_eq_some_iff.mp read
    cases same
    have inside : ':' :: ']' :: rest <:+ text := ended ▸ List.drop_suffix _ _
    exact (List.suffix_append [':', ']'] rest).trans inside
  next => contradiction

private theorem readAsciiClass_suffix {set : CharSet} (read : readAsciiClass text = some (set, rest)) : rest <:+ text := by
  unfold readAsciiClass at read
  split at read
  · exact (readClassName_suffix read).trans (List.suffix_append [':', '^'] _)
  · exact (readClassName_suffix read).trans (List.suffix_cons _ _)
  · contradiction

private theorem readMember_suffix [Engine] {atom : Atom} (read : readMember flags text = some (atom, rest)) : rest <:+ text := by
  unfold readMember at read
  split at read
  · contradiction
  · obtain ⟨found, -⟩ := Option.filter_eq_some_iff.mp read
    rcases readEscape_settles found with ⟨char, rfl⟩ | settles
    · exact List.suffix_append ['\\', char] rest
    · exact settles.suffix.trans (List.suffix_cons _ _)
  · split at read
    · cases read
      exact List.suffix_cons _ _
    · contradiction

private theorem readRange_suffix [Engine] {set : CharSet} (read : readRange flags text = some (set, rest)) : rest <:+ text := by
  unfold readRange at read
  rw [Option.bind_eq_bind, Option.bind_eq_some_iff] at read
  obtain ⟨⟨first, left⟩, found, read⟩ := read
  have skipped : skip flags left <:+ text := (skip_suffix flags left).trans (readMember_suffix found)
  dsimp only at read
  split at read
  · contradiction
  next after start =>
    split at read
    · contradiction
    · cases read
      exact skipped
    · cases read
      exact skipped
    · obtain ⟨⟨last, others⟩, ended, read⟩ := Option.bind_eq_some_iff.mp read
      obtain ⟨range, -, same⟩ := Option.map_eq_some_iff.mp read
      cases same
      have hyphen : after <:+ text := (List.suffix_cons '-' after).trans (start ▸ skipped)
      exact ((readMember_suffix ended).trans (skip_suffix flags after)).trans hyphen
  · cases read
    exact skipped

private theorem readHyphens_suffix (fuel : Nat) (bracket : OpenBracket) (text : List Char) :
    (readHyphens flags fuel bracket text).2 <:+ text := by
  fun_induction readHyphens flags fuel bracket text with
  | case1 fuel bracket rest ih => exact (ih.trans (skip_suffix flags rest)).trans (List.suffix_cons _ _)
  | case2 => exact List.suffix_refl _

private theorem readCaret_suffix (text : List Char) : (readCaret flags text).2 <:+ text := by
  unfold readCaret
  split
  · exact (skip_suffix flags _).trans (List.suffix_cons _ _)
  · exact List.suffix_refl _

private theorem openBracket_suffix {bracket : OpenBracket} (read : openBracket flags text = some (bracket, rest)) :
    rest <:+ text := by
  unfold openBracket at read
  dsimp only at read
  have begun : (readHyphens flags (readCaret flags (skip flags text)).2.length
      { negated := (readCaret flags (skip flags text)).1 } (readCaret flags (skip flags text)).2).2 <:+ text :=
    ((readHyphens_suffix _ _ _).trans (readCaret_suffix _)).trans (skip_suffix flags text)
  generalize readHyphens flags _ _ _ = start at read begun
  obtain ⟨bracket, left⟩ := start
  dsimp only at read begun
  split at read
  · contradiction
  next after =>
    split at read
    · cases read
      exact ((skip_suffix flags after).trans (List.suffix_cons _ _)).trans begun
    · cases read
      exact begun
  · cases read
    exact begun

private theorem readBrackets_settles [Engine] {fuel deepest depth : Nat} {bracket : OpenBracket} {outer : List OpenBracket}
    {set : CharSet} (read : readBrackets flags fuel deepest bracket outer text = some (set, depth, rest)) :
    Settles text rest := by
  induction fuel generalizing deepest bracket outer text with
  | zero => contradiction
  | succ fuel ih =>
    unfold readBrackets at read
    have skipped := skip_suffix flags text
    generalize skip flags text = start at read skipped
    refine Settles.of_suffix ?_ skipped
    split at read
    · contradiction
    next others =>
      split at read
      next classed => exact (ih read).of_suffix ((readAsciiClass_suffix classed).trans (List.suffix_cons _ _))
      next =>
        rw [Option.bind_eq_bind, Option.bind_eq_some_iff] at read
        obtain ⟨⟨inner, left⟩, opened, read⟩ := read
        exact (ih read).of_suffix ((openBracket_suffix opened).trans (List.suffix_cons _ _))
    next others =>
      split at read
      · cases read
        exact .single (by decide) (by decide) _
      · exact (ih read).cons _
    iterate 3 exact ((ih read).cons _).cons _
    next =>
      rw [Option.bind_eq_bind, Option.bind_eq_some_iff] at read
      obtain ⟨⟨own, left⟩, found, read⟩ := read
      exact (ih read).of_suffix (readRange_suffix found)

private theorem readSet_settles [Engine] {set : CharSet} {depth : Nat} (read : readSet flags text = some (set, depth, rest)) :
    Settles text rest := by
  unfold readSet at read
  rw [Option.bind_eq_bind, Option.bind_eq_some_iff] at read
  obtain ⟨⟨bracket, inside⟩, opened, read⟩ := read
  rw [Option.bind_eq_bind, Option.bind_eq_some_iff] at read
  obtain ⟨⟨own, deepest, left⟩, found, read⟩ := read
  dsimp only at read
  split at read
  · cases read
    exact (readBrackets_settles found).of_suffix (openBracket_suffix opened)
  · contradiction

namespace Reading

variable {reading final : Reading}

private theorem repeatLast_settles {least : Nat} {most : Option Nat}
    (read : reading.repeatLast least most text = some (final, rest)) : rest = text ∨ Settles text rest := by
  unfold repeatLast at read
  split at read
  · cases read
    split
    · exact .inr (.single (by decide) (by decide) _)
    · exact .inl rfl
  · contradiction

private theorem readDecimal_suffix {value : Nat} (read : readDecimal text = some (value, rest)) : rest <:+ text := by
  unfold readDecimal at read
  dsimp only at read
  split at read
  · contradiction
  · cases read
    exact ((List.dropWhile_suffix _).trans (List.drop_suffix _ _)).trans (List.dropWhile_suffix _)

private theorem readBounds_settles {least : Nat} {most : Option Nat}
    (read : readBounds flags text = some (least, most, rest)) : Settles text rest := by
  unfold readBounds at read
  rw [Option.bind_eq_bind, Option.bind_eq_some_iff] at read
  obtain ⟨⟨count, left⟩, counted, read⟩ := read
  refine Settles.of_suffix ?_ ((readDecimal_suffix counted).trans (skip_suffix flags text))
  have brace (rest : List Char) : Settles ('}' :: rest) rest := .single (by decide) (by decide) rest
  dsimp only at read
  split at read
  next others =>
    split at read
    next closed =>
      cases read
      exact ((closed ▸ brace _).of_suffix (skip_suffix flags others)).cons _
    next =>
      obtain ⟨⟨bound, left⟩, bounded, read⟩ := Option.bind_eq_some_iff.mp read
      have suffix := (readDecimal_suffix bounded).trans (skip_suffix flags others)
      dsimp only at read
      split at read
      · split at read
        · cases read
          exact ((brace _).of_suffix suffix).cons _
        · contradiction
      · contradiction
  next =>
    cases read
    exact brace _
  next => contradiction

private theorem repeatCounted_settles (read : reading.repeatCounted text = some (final, rest)) : Settles text rest := by
  unfold repeatCounted at read
  rw [Option.bind_eq_bind, Option.bind_eq_some_iff] at read
  obtain ⟨⟨least, most, left⟩, bounded, read⟩ := read
  have bounds := readBounds_settles bounded
  rcases repeatLast_settles read with rfl | settles
  · exact bounds
  · exact bounds.trans settles

private theorem readFlags_suffix {flags last : Flags} {seen own : List Char}
    (read : readFlags flags seen text = some (last, own, rest)) : rest <:+ text := by
  induction text generalizing flags seen with
  | nil => contradiction
  | cons char others ih =>
    unfold readFlags at read
    split at read
    · split at read
      · contradiction
      · cases read
        exact List.suffix_refl _
    · split at read
      · contradiction
      · split at read
        · exact (ih read).trans (List.suffix_cons _ _)
        · split at read
          · contradiction
          · exact (ih read).trans (List.suffix_cons _ _)

private theorem openNamed_settles (read : reading.openNamed text = some (final, rest)) : Settles text rest := by
  unfold openNamed at read
  rw [Option.bind_eq_bind, Option.bind_eq_some_iff] at read
  obtain ⟨⟨name, left⟩, found, read⟩ := read
  have settles : Settles text left := by
    unfold readName at found
    dsimp only at found
    split at found
    next ended _ =>
      split at found
      · cases found
        exact settles_drop ended (by decide) (by decide)
      · contradiction
    next => contradiction
  dsimp only at read
  split at read
  · contradiction
  · cases read
    exact settles

private theorem openFlags_settles (read : reading.openFlags text = some (final, rest)) : Settles text rest := by
  unfold openFlags at read
  rw [Option.bind_eq_bind, Option.bind_eq_some_iff] at read
  obtain ⟨⟨flags, seen, left⟩, found, read⟩ := read
  have suffix := readFlags_suffix found
  dsimp only at read
  split at read
  · split at read
    · contradiction
    · cases read
      exact (Settles.single (by decide) (by decide) _).of_suffix suffix
  · cases read
    exact (Settles.single (by decide) (by decide) _).of_suffix suffix
  · contradiction

/-- A parenthesis may be the end of the text, and then its group is open. -/
theorem openParenthesis_settles (read : reading.openParenthesis text = some (final, rest)) :
    Settles ('(' :: text) rest ∨ rest = [] ∧ final.outer ≠ [] := by
  have marked (others : List Char) (read : reading.openMarked others = some (final, rest)) : Settles others rest := by
    unfold openMarked at read
    split at read
    iterate 4 contradiction
    · exact ((openNamed_settles read).cons _).cons _
    · exact (openNamed_settles read).cons _
    · exact openFlags_settles read
  unfold openParenthesis at read
  cases start : skip reading.flags text with
  | nil =>
    rw [start] at read
    cases read
    exact .inr ⟨rfl, List.cons_ne_nil _ _⟩
  | cons char others =>
    left
    rw [start] at read
    split at read
    next same =>
      cases same
      exact ((marked _ read).of_suffix (suffix_of_skip start)).cons _
    next =>
      cases read
      rcases skip_settles start with rfl | settles
      · exact .single (by decide) (by decide) _
      · exact settles.cons _

/-- How a construct ends: in a character that settles it, as a dollar sign, as an escaped character, or as a
parenthesis that is never closed. -/
inductive Ends (char : Char) (text rest : List Char) (final : Reading) : Prop
  | settled (settles : Settles (char :: text) rest)
  | dollar (own : char = '$') (same : rest = text)
  | escaped (own : char = '\\') (other : Char) (same : text = other :: rest)
  | opened (ended : rest = []) (inside : final.outer ≠ [])

private theorem next_ends [Engine] {char : Char} (read : reading.next char text = some (final, rest)) :
    Ends char text rest final := by
  have alone (slash : char ≠ '\\') (dollar : char ≠ '$') (same : rest = text) : Ends char text rest final :=
    .settled (same ▸ .single slash dollar _)
  have further (slash : char ≠ '\\') (dollar : char ≠ '$') (either : rest = text ∨ Settles text rest) :
      Ends char text rest final :=
    either.elim (alone slash dollar) fun settles => .settled (settles.cons _)
  unfold next at read
  split at read
  · rcases openParenthesis_settles read with settles | ⟨ended, inside⟩
    · exact .settled settles
    · exact .opened ended inside
  · obtain ⟨closed, -, same⟩ := Option.map_eq_some_iff.mp read
    cases same
    exact alone (by decide) (by decide) rfl
  · cases read
    exact alone (by decide) (by decide) rfl
  · rw [Option.bind_eq_bind, Option.bind_eq_some_iff] at read
    obtain ⟨⟨set, depth, left⟩, found, read⟩ := read
    cases read
    exact .settled ((readSet_settles found).cons _)
  iterate 3 exact further (by decide) (by decide) (repeatLast_settles read)
  · exact .settled ((repeatCounted_settles read).cons _)
  · split at read
    · cases read
      exact alone (by decide) (by decide) rfl
    · contradiction
  · cases read
    exact alone (by decide) (by decide) rfl
  · cases read
    exact .dollar rfl rfl
  · rw [Option.bind_eq_bind, Option.bind_eq_some_iff] at read
    obtain ⟨⟨atom, left⟩, found, read⟩ := read
    obtain ⟨pushed, -, same⟩ := Option.map_eq_some_iff.mp read
    cases same
    rcases readEscape_settles found with ⟨other, same⟩ | settles
    · exact .escaped rfl other same
    · exact .settled (settles.cons _)
  · obtain ⟨pushed, -, same⟩ := Option.map_eq_some_iff.mp read
    cases same
    exact alone (by assumption) (by assumption) rfl

def slashes (text : List Char) : Nat :=
  (text.reverse.takeWhile (· == '\\')).length

private theorem slashes_settled (before : List Char) {last : Char} (slash : last ≠ '\\') (after : List Char) :
    slashes (before ++ last :: after) = slashes after := by
  have stops : (last :: before.reverse).takeWhile (· == '\\') = [] := by simp [slash]
  rw [slashes, List.reverse_append, List.reverse_cons, List.append_assoc, List.singleton_append,
    List.takeWhile_append, slashes]
  split
  next whole => rw [stops, List.append_nil, whole]
  next => rfl

private theorem slashes_escaped (other : Char) (after : List Char) :
    slashes ('\\' :: other :: after) % 2 = slashes after % 2 := by
  by_cases slash : other = '\\'
  · subst slash
    have front : ('\\' :: '\\' :: after).reverse = after.reverse ++ ['\\', '\\'] := by simp
    rw [slashes, front, List.takeWhile_append, slashes]
    split
    next whole =>
      have pair : ['\\', '\\'].takeWhile (· == '\\') = ['\\', '\\'] := rfl
      rw [pair, List.length_append, whole]
      exact Nat.add_mod_right _ 2
    next => rfl
  · exact congrArg (· % 2) (slashes_settled ['\\'] slash after)

/-- Whether an even number of backslashes stands at the end of a text, and an odd number before a dollar sign there
unless the dollar sign counts. -/
structure Settled (counts : Prop) (text : List Char) : Prop where
  even : slashes text % 2 = 0
  dollar : ∀ before, text = before ++ ['$'] → slashes before % 2 = 1 ∨ counts

theorem Settled.nil (counts : Prop) : Settled counts [] :=
  ⟨rfl, by simp⟩

variable {counts : Prop}

/-- What a text ends in is settled by its last construct, which does not change how many backslashes count. -/
theorem Settled.extend {rest : List Char} (settled : Settled counts rest) (front : List Char)
    (parity : ∀ after, slashes (front ++ after) % 2 = slashes after % 2)
    (last : rest = [] → ∀ before, front = before ++ ['$'] → slashes before % 2 = 1 ∨ counts) :
    Settled counts (front ++ rest) := by
  refine ⟨(parity rest).trans settled.even, ?_⟩
  intro before same
  rcases List.eq_nil_or_concat rest with rfl | ⟨others, final, rfl⟩
  · rw [List.append_nil] at same
    exact last rfl before same
  · rw [List.concat_eq_append, ← List.append_assoc] at same
    obtain ⟨rfl, ended⟩ := List.append_inj' same rfl
    cases ended
    rw [parity]
    exact settled.dollar others List.concat_eq_append

theorem Settled.of_settles {text rest : List Char} (settled : Settled counts rest) (settles : Settles text rest) :
    Settled counts text := by
  obtain ⟨before, last, rfl, slash, dollar⟩ := settles
  have whole : before ++ last :: rest = (before ++ [last]) ++ rest := by simp
  rw [whole]
  refine settled.extend (before ++ [last]) (fun after => ?_) ?_
  · rw [List.append_assoc, List.singleton_append, slashes_settled before slash]
  · intro _ front same
    obtain ⟨-, ended⟩ := List.append_inj' same rfl
    exact absurd (List.cons.inj ended).1 dollar

private theorem Settled.escaped {rest : List Char} (settled : Settled counts rest) (other : Char) :
    Settled counts ('\\' :: other :: rest) := by
  refine settled.extend ['\\', other] (slashes_escaped other) ?_
  intro _ before same
  have parts : ['\\'] ++ [other] = before ++ ['$'] := same
  obtain ⟨rfl, -⟩ := List.append_inj' parts rfl
  exact .inl rfl

private theorem Settled.counted {rest : List Char} (settled : Settled counts rest) (last : rest = [] → counts) :
    Settled counts ('$' :: rest) :=
  settled.extend ['$'] (fun after => congrArg (· % 2) (slashes_settled [] (by decide) after))
    fun none _ _ => .inr (last none)

variable {reading last : Reading}

/-- A text that is read as an expression is settled, and a dollar sign at its end that is not escaped was read as
the end of the text. -/
theorem run_settled [Engine] {fuel : Nat} (read : run fuel reading text = some last) (ended : last.outer = [])
    (plain : last.flags.ignoreBlanks = false) :
    Settled (∃ items kind, last.items = .node ⟨.look kind, 0⟩ :: items) text := by
  have blank (text : List Char) : skip last.flags text = text := by
    rw [skip, plain]
    rfl
  induction fuel generalizing reading text with
  | zero =>
    rw [run] at read
    split at read
    next none =>
      cases read
      rw [blank, List.isEmpty_iff] at none
      rw [none]
      exact .nil _
    next => contradiction
  | succ fuel ih =>
    rw [run] at read
    split at read
    next none =>
      cases read
      rw [blank] at none
      rw [none]
      exact .nil _
    next char rest start =>
      rw [Option.bind_eq_bind, Option.bind_eq_some_iff] at read
      obtain ⟨⟨next, left⟩, consumed, read⟩ := read
      dsimp only at read
      have later := ih read
      have here : Settled (∃ items kind, last.items = .node ⟨.look kind, 0⟩ :: items) (char :: rest) := by
        cases next_ends consumed with
        | settled settles => exact later.of_settles settles
        | dollar own same =>
          subst own same
          refine later.counted ?_
          rintro rfl
          rw [run_nil] at read
          cases read
          cases consumed
          exact ⟨_, _, rfl⟩
        | escaped own other same =>
          subst own same
          exact later.escaped other
        | opened none inside =>
          subst none
          rw [run_nil] at read
          cases read
          contradiction
      rcases skip_settles start with rfl | settles
      · exact here
      · exact here.of_settles settles

end Reading

end TextScenario.Regex
