import Mathlib.Data.List.TakeWhile
import TextScenario.Proofs.UrlSegments

/-! Addresses with a pasted end. What is pasted to an endpoint does not change the host; its text is cut at a
fragment, at a query and at slashes, and its last two pieces are the last two segments of the path. -/

namespace TextScenario

namespace Text

variable {test : Char → Bool} {text : List Char}

theorem splitWhere_ne_nil (test : Char → Bool) (text : List Char) : splitWhere test text ≠ [] := by
  cases text with
  | nil => simp [splitWhere]
  | cons char rest =>
    rw [splitWhere]
    split
    · simp
    split <;> simp

private theorem splitWhere_separated {mark : Char} (marks : test mark = true) (before after : List Char) :
    splitWhere test (before ++ mark :: after) = splitWhere test before ++ splitWhere test after := by
  induction before with
  | nil => simp [splitWhere, marks]
  | cons char before ih =>
    obtain ⟨piece, pieces, found⟩ := List.exists_cons_of_ne_nil (splitWhere_ne_nil test before)
    rw [List.cons_append, splitWhere, splitWhere, ih, found]
    split <;> rfl

private theorem splitWhere_absent (plain : ∀ char ∈ text, test char = false) : splitWhere test text = [text] := by
  induction text with
  | nil => rfl
  | cons char rest ih =>
    rw [splitWhere, if_neg (by simp [plain char]), ih fun other inside => plain other (.tail _ inside)]

private theorem last_mark (test : Char → Bool) (text : List Char) :
    (∀ char ∈ text, test char = false) ∨ ∃ before mark piece, text = before ++ mark :: piece ∧
      test mark = true ∧ ∀ char ∈ piece, test char = false := by
  induction text with
  | nil => exact .inl (by simp)
  | cons char rest ih =>
    rcases ih with plain | ⟨before, mark, piece, rfl, marks, plain⟩
    · by_cases marks : test char = true
      · exact .inr ⟨[], char, rest, rfl, marks, plain⟩
      · refine .inl fun other inside => ?_
        rcases List.mem_cons.mp inside with rfl | inside
        · exact Bool.eq_false_iff.mpr marks
        · exact plain other inside
    · exact .inr ⟨char :: before, mark, piece, rfl, marks, plain⟩

/-- What is after the last mark of a text: all of it, if there is none. -/
structure IsLastPiece (test : Char → Bool) (text piece : List Char) : Prop where
  plain : ∀ char ∈ piece, test char = false
  ends : text = piece ∨ ∃ before mark, test mark = true ∧ text = before ++ mark :: piece

private theorem splitWhere_last (test : Char → Bool) (text : List Char) :
    ∃ front piece, splitWhere test text = front ++ [piece] ∧ IsLastPiece test text piece := by
  rcases last_mark test text with plain | ⟨before, mark, piece, rfl, marks, plain⟩
  · exact ⟨[], text, splitWhere_absent plain, plain, .inl rfl⟩
  · exact ⟨splitWhere test before, piece, by rw [splitWhere_separated marks, splitWhere_absent plain], plain,
      .inr ⟨before, mark, marks, rfl⟩⟩

end Text

private theorem dropWhile_stop {α : Type} {test : α → Bool} {item : α} (stop : test item = false)
    (front rest : List α) :
    (front ++ item :: rest).dropWhile test = front.dropWhile test ++ item :: rest := by
  rw [List.dropWhile_append, List.dropWhile_cons_of_neg (by simp [stop])]
  split
  next none => rw [List.isEmpty_iff.mp none, List.nil_append]
  next => rfl

private theorem takeWhile_stop {α : Type} {test : α → Bool} {item : α} (stop : test item = false)
    (front rest : List α) : (front ++ item :: rest).takeWhile test = front.takeWhile test := by
  induction front with
  | nil => rw [List.nil_append, List.takeWhile_cons_of_neg (by simp [stop]), List.takeWhile_nil]
  | cons first front ih => rw [List.cons_append, List.takeWhile_cons, List.takeWhile_cons, ih]

private theorem drop_takeWhile {α : Type} (test : α → Bool) (items : List α) :
    items.drop (items.takeWhile test).length = items.dropWhile test := by
  induction items with
  | nil => rfl
  | cons item items ih => by_cases holds : test item = true <;> simp [holds, ih]

namespace Url

variable {above : List (List Char)} {segment kind : List Char} {text rest : List Char} {mark : Char}

theorem cutAt_append (absent : mark ∉ text) (rest : List Char) :
    cutAt mark (text ++ rest) = (text ++ (cutAt mark rest).1, (cutAt mark rest).2) := by
  have kept : ∀ char ∈ text, (char != mark) = true := by
    intro char inside
    exact bne_iff_ne.mpr fun same => absent (same ▸ inside)
  rw [cutAt, cutAt, List.takeWhile_append_of_pos kept, List.length_append, List.drop_length_add_append]

theorem cutAt_absent (absent : mark ∉ text) : cutAt mark text = (text, none) := by
  have whole := cutAt_append absent []
  rw [List.append_nil] at whole
  rw [whole]
  simp [cutAt]

theorem cutAt_marked (mark : Char) (before after : List Char) :
    ∃ left, cutAt mark (before ++ mark :: after) = (before.takeWhile (· != mark), some left) := by
  rw [cutAt]
  simp only [drop_takeWhile]
  rw [takeWhile_stop (by simp), dropWhile_stop (by simp)]
  cases before.dropWhile (· != mark) <;> exact ⟨_, rfl⟩

/-- What a segment that is not the last makes of the segments above it. -/
def climb (above : List (List Char)) (segment : List Char) : List (List Char) :=
  if dotted segment = ['.'] then above
  else if dotted segment = ['.', '.'] then above.drop 1
  else encode pathReserved segment :: above

theorem settle_append (above segments : List (List Char)) {rest : List (List Char)} (more : rest ≠ []) :
    settle above (segments ++ rest) = settle (segments.foldl climb above) rest := by
  induction segments generalizing above with
  | nil => rfl
  | cons segment segments ih =>
    have onward : (segments ++ rest).isEmpty = false := by simp [more]
    rw [List.cons_append, settle, List.foldl_cons, climb]
    simp only [onward, Bool.false_eq_true, if_false]
    split
    · exact ih above
    split
    · exact ih (above.drop 1)
    · exact ih _

private theorem dotted_of_letter (letter : 'w' ∈ segment) :
    dotted segment ≠ ['.'] ∧ dotted segment ≠ ['.', '.'] := by
  have kept : 'w' ∈ dotted segment := by
    fun_induction dotted segment with
    | case1 rest ih => simpa using ih (by simpa using letter)
    | case2 rest ih => simpa using ih (by simpa using letter)
    | case3 char rest _ _ ih =>
      rcases List.mem_cons.mp letter with rfl | inside
      · exact .head _
      · exact .tail _ (ih inside)
    | case4 => cases letter
  constructor <;> intro same <;> simp [same] at kept

/-- A last segment that is written as it is. -/
structure IsPlainEnd (segment : List Char) : Prop where
  dots : dotted segment ≠ ['.'] ∧ dotted segment ≠ ['.', '.']
  encoded : encode pathReserved segment = segment
  plain : ∀ char ∈ segment, isSlash char = false

/-- The last two segments of a path: the last piece of a text, and what comes after it. -/
theorem pathOf_pasted (lead : List Char) (front : List Char) (ended : IsPlainEnd rest) :
    ∃ base piece, pathOf (lead ++ '/' :: (front ++ 'w' :: '/' :: rest)) =
        String.ofList (base ++ '/' :: (encode pathReserved piece ++ '/' :: rest)) ∧
      Text.IsLastPiece isSlash (front ++ ['w']) piece := by
  obtain ⟨pieces, piece, found, last⟩ := Text.splitWhere_last isSlash (front ++ ['w'])
  have letter : 'w' ∈ piece := by
    rcases last.ends with rfl | ⟨before, mark, marks, whole⟩
    · simp
    · rcases piece.eq_nil_or_concat with rfl | ⟨start, last, rfl⟩
      · cases (List.append_inj' whole rfl).2
        cases marks
      · rw [List.concat_eq_append, ← List.cons_append, ← List.append_assoc] at whole
        cases (List.append_inj' whole rfl).2
        simp
  obtain ⟨first, more, leading⟩ := List.exists_cons_of_ne_nil (Text.splitWhere_ne_nil isSlash lead)
  have cut : (Text.splitWhere isSlash (lead ++ '/' :: (front ++ 'w' :: '/' :: rest))).drop 1 =
      (more ++ pieces) ++ [piece, rest] := by
    have tail : front ++ 'w' :: '/' :: rest = (front ++ ['w']) ++ '/' :: rest := by simp
    rw [Text.splitWhere_separated (by decide), leading, tail, Text.splitWhere_separated (by decide),
      found, Text.splitWhere_absent ended.plain]
    simp
  obtain ⟨notDot, notDots⟩ := dotted_of_letter letter
  refine ⟨((more ++ pieces).foldl climb []).reverse.flatMap ('/' :: ·), piece, ?_, last⟩
  rw [pathOf, if_neg (by simp), cut, settle_append _ _ (by simp), settle, if_neg notDot, if_neg notDots,
    settle, if_neg ended.dots.1, if_neg ended.dots.2, settle, ended.encoded]
  simp

def isIgnored (char : Char) : Bool :=
  ['\t', '\n', '\r'].contains char

/-- A text without what is ignored in an address. -/
def kept (text : List Char) : List Char :=
  text.filter (!isIgnored ·)

theorem stripEnds_append {last : Char} (visible : isControlOrSpace last = false)
    (lead front : List Char) :
    stripEnds (lead ++ '/' :: (front ++ [last])) =
      lead.dropWhile isControlOrSpace ++ '/' :: (front ++ [last]) := by
  rw [stripEnds, dropWhile_stop (by decide), List.reverse_append, List.reverse_cons, List.reverse_append,
    List.reverse_singleton]
  simp [visible]

theorem schemeOf?_append (lead rest : List Char) :
    schemeOf? (lead ++ '/' :: rest) =
      (schemeOf? lead).map fun found => (found.1, found.2 ++ '/' :: rest) := by
  unfold schemeOf?
  simp only [drop_takeWhile]
  rw [takeWhile_stop (by decide), dropWhile_stop (by decide)]
  generalize lead.takeWhile _ = scheme
  generalize lead.dropWhile _ = left
  cases scheme with
  | nil => rfl
  | cons first more =>
    cases left with
    | nil => rfl
    | cons mark left =>
      by_cases colon : mark = ':'
      · subst colon
        cases alpha : first.isAlpha <;> simp [alpha]
      · rw [List.cons_append]
        split
        next equal => exact absurd (List.cons.inj equal).1 colon
        next =>
          split
          next equal => exact absurd (List.cons.inj equal).1 colon
          next => rfl

private theorem schemeOf?_suffix {found : String × List Char} (scheme : schemeOf? text = some found) :
    ∀ char ∈ found.2, char ∈ text := by
  simp only [schemeOf?] at scheme
  split at scheme
  next left _ cut =>
    split at scheme
    · cases scheme
      intro char inside
      exact List.mem_of_mem_drop (cut ▸ List.mem_cons_of_mem ':' inside)
    · cases scheme
  next => cases scheme

/-- What the front of an address settles: the host, and the start of the path. -/
structure Origin where
  secure : Bool
  host : String
  port : Nat
  lead : List Char

/-- The address with more text after the start of its path. -/
def Origin.url (origin : Origin) (text : List Char) : Url where
  secure := origin.secure
  host := origin.host
  port := origin.port
  path := pathOf (origin.lead ++ '/' :: (cutAt '?' (cutAt '#' text).1).1)
  query := (cutAt '?' (cutAt '#' text).1).2.map fun query => String.ofList (encode queryReserved query)

private theorem read_pasted (front text : List Char) {last : Char} (visible : isControlOrSpace last = false) :
    (stripEnds (front ++ '/' :: ("workflows".toList ++ '/' :: (text ++ [last])))).filter
        (fun char => !(['\t', '\n', '\r'].contains char)) =
      kept (front.dropWhile isControlOrSpace) ++
        '/' :: ("workflows".toList ++ '/' :: kept (text ++ [last])) := by
  have whole : '/' :: ("workflows".toList ++ '/' :: (text ++ [last])) =
      '/' :: (("workflows".toList ++ '/' :: text) ++ [last]) := by simp
  rw [whole, stripEnds_append visible, ← whole]
  exact List.filter_append ..

/-- What stands after the scheme and its slashes, up to the first segment of the path. -/
def headOf (left : List Char) : List Char :=
  (left ++ '/' :: "workflows".toList).dropWhile isSlash

private theorem head_pasted (left rest : List Char) :
    (left ++ '/' :: ("workflows".toList ++ '/' :: rest)).dropWhile isSlash = (headOf left ++ ['/']) ++ rest := by
  have solid : ¬ (headOf left).isEmpty = true := by
    intro empty
    have blank := List.isEmpty_iff.mp empty
    rw [headOf, List.dropWhile_eq_nil_iff] at blank
    exact absurd (blank 'w' (List.mem_append_right _ (by decide))) (by decide)
  have whole : left ++ '/' :: ("workflows".toList ++ '/' :: rest) =
      (left ++ '/' :: "workflows".toList) ++ '/' :: rest := by simp
  rw [headOf] at solid
  rw [whole, List.dropWhile_append, if_neg solid, ← headOf, List.append_assoc, List.singleton_append]

private theorem not_mem_head {left : List Char} {mark : Char} (absent : mark ∉ left)
    (apart : mark ∉ '/' :: "workflows".toList) : mark ∉ headOf left ++ ['/'] := by
  intro inside
  rcases List.mem_append.mp inside with inside | own
  · rcases List.mem_append.mp ((List.dropWhile_suffix _).subset inside) with before | own
    · exact absent before
    · exact apart own
  · exact apart (List.mem_singleton.mp own ▸ .head _)

/-- Whatever text is pasted after the first segment of a path, it leaves what is before it. -/
theorem parse?_pasted {front : List Char} (noQuery : '?' ∉ front) (noFragment : '#' ∉ front) :
    ∃ origin : Option Origin, ∀ text last, isControlOrSpace last = false →
      parse? (String.ofList (front ++ '/' :: ("workflows".toList ++ '/' :: (text ++ [last])))) =
        origin.map (·.url (kept (text ++ [last]))) := by
  cases scheme : schemeOf? (kept (front.dropWhile isControlOrSpace)) with
  | none =>
    refine ⟨none, fun text last visible => ?_⟩
    rw [parse?, String.toList_ofList, read_pasted front text visible, schemeOf?_append, scheme]
    rfl
  | some found =>
    obtain ⟨name, left⟩ := found
    have headOut {mark : Char} (absent : mark ∉ front) (apart : mark ∉ '/' :: "workflows".toList) :
        mark ∉ headOf left ++ ['/'] := by
      apply not_mem_head _ apart
      intro inside
      have inside := schemeOf?_suffix scheme mark inside
      exact absent ((List.dropWhile_suffix _).subset (List.mem_filter.mp inside).1)
    have authority (rest : List Char) :
        ((headOf left ++ ['/']) ++ rest).takeWhile (!isSlash ·) = (headOf left).takeWhile (!isSlash ·) := by
      rw [List.append_assoc]
      exact takeWhile_stop (by decide) (headOf left) rest
    have onward (rest : List Char) :
        ((headOf left ++ ['/']) ++ rest).dropWhile (!isSlash ·) =
          (headOf left).dropWhile (!isSlash ·) ++ '/' :: rest := by
      rw [List.append_assoc]
      exact dropWhile_stop (by decide) (headOf left) rest
    by_cases other : name ≠ "http" ∧ name ≠ "https"
    · refine ⟨none, fun text last visible => ?_⟩
      rw [parse?, String.toList_ofList, read_pasted front text visible, schemeOf?_append, scheme]
      simp only [Option.map_some, Option.bind_eq_bind, Option.bind_some, if_pos other]
      rfl
    cases address : hostAndPort? (if name == "https" then 443 else 80) ((headOf left).takeWhile (!isSlash ·)) with
    | none =>
      refine ⟨none, fun text last visible => ?_⟩
      rw [parse?, String.toList_ofList, read_pasted front text visible, schemeOf?_append, scheme]
      simp only [Option.map_some, Option.bind_eq_bind, Option.bind_some, if_neg other, head_pasted,
        cutAt_append (headOut noFragment (by decide)), cutAt_append (headOut noQuery (by decide)),
        authority, address]
      rfl
    | some place =>
      refine ⟨some ⟨name == "https", place.1, place.2, (headOf left).dropWhile (!isSlash ·)⟩,
        fun text last visible => ?_⟩
      rw [parse?, String.toList_ofList, read_pasted front text visible, schemeOf?_append, scheme]
      simp only [Option.map_some, Option.bind_eq_bind, Option.bind_some, if_neg other, head_pasted,
        cutAt_append (headOut noFragment (by decide)), cutAt_append (headOut noQuery (by decide)),
        authority, drop_takeWhile, onward, address]
      rfl

end Url

end TextScenario
