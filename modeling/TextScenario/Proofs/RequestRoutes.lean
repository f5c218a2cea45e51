import TextScenario.Proofs.TextLines
import TextScenario.Proofs.UrlPaths
import TextScenario.Session.Http

/-! Where calls are sent. The address of a call names its workflow and its kind exactly if the workflow's
text stands for itself in an address, and then no other call has the same target. -/

namespace TextScenario.HttpSession

open Url

/-- Keeps what it is asked and answers nothing. -/
def recorder : HttpServer (List HttpRequest) where
  answer request requests := (none, requests ++ [request])

def requests (endpoint : String) (workflow : WorkflowId) (call : SessionCall) : List HttpRequest :=
  ((provider recorder endpoint).call workflow call []).2

/-- The path asked for ends in the kind of a call, after a segment that stands for its workflow. -/
def Routed (url : Url) (workflow : WorkflowId) (kind : ActionKind) : Prop :=
  url.query = none ∧ ∃ base segment,
    url.path.toList = base ++ '/' :: (segment ++ '/' :: kind.text.toList) ∧ '/' ∉ segment ∧
      (decode segment).toByteArray = workflow.text.toUTF8

/-- A text that stands for itself as a segment of an address. -/
structure Literal (text : List Char) : Prop where
  plain : ∀ char ∈ text, isSlash char = false ∧ isIgnored char = false ∧ char ≠ '?' ∧ char ≠ '#'
  unescaped : hasEscape text = false

theorem literal_iff {text : List Char} :
    Literal text ↔
      (text.all fun char => !isSlash char && !isIgnored char && char != '?' && char != '#') = true ∧
        hasEscape text = false := by
  constructor
  · rintro ⟨plain, unescaped⟩
    refine ⟨List.all_eq_true.mpr fun char inside => ?_, unescaped⟩
    simp [plain char inside]
  · rintro ⟨plain, unescaped⟩
    refine ⟨fun char inside => ?_, unescaped⟩
    simpa [and_assoc] using List.all_eq_true.mp plain char inside

instance (text : List Char) : Decidable (Literal text) :=
  decidable_of_iff _ literal_iff.symm

variable {endpoint : String} {workflow other : WorkflowId} {kind otherKind : ActionKind} {url : Url}
  {text : List Char}

/-- Whatever the server, it is asked what the recorder keeps. -/
theorem call_asks {σ : Type} (server : HttpServer σ) (endpoint : String) (workflow : WorkflowId)
    (call : SessionCall) (state : σ) :
    ((provider server endpoint).call workflow call state).2 =
      (requests endpoint workflow call).foldl (fun state request => (server.answer request state).2) state := by
  rw [requests, provider, provider]
  dsimp only
  cases parse? (addressOf endpoint workflow call.kind) with
  | none => rfl
  | some url =>
    dsimp only [recorder, List.nil_append, List.foldl_cons, List.foldl_nil]
    split
    next answered => rw [answered]
    next answered => rw [answered]

theorem requests_eq (endpoint : String) (workflow : WorkflowId) (call : SessionCall) :
    requests endpoint workflow call =
      ((parse? (addressOf endpoint workflow call.kind)).map fun url =>
        { url, instruction := call.instruction }).toList := by
  rw [requests, provider]
  dsimp only
  cases parse? (addressOf endpoint workflow call.kind) <;> rfl

private theorem kind_plain (kind : ActionKind) :
    IsPlainEnd kind.text.toList ∧ kept kind.text.toList = kind.text.toList ∧
      '#' ∉ kind.text.toList ∧ '?' ∉ kind.text.toList ∧
      ∃ start last, kind.text.toList = start ++ [last] ∧ isControlOrSpace last = false := by
  have plain : kind.text.toList.all (!isSlash ·) = true := by cases kind <;> decide
  have unslashed : ∀ char ∈ kind.text.toList, isSlash char = false :=
    fun char inside => by simpa using List.all_eq_true.mp plain char inside
  cases kind with
  | act =>
    exact ⟨⟨by decide, by decide, unslashed⟩, by decide, by decide, by decide, ['a', 'c'], 't', by decide, by decide⟩
  | extract =>
    exact ⟨⟨by decide, by decide, unslashed⟩, by decide, by decide, by decide,
      ['e', 'x', 't', 'r', 'a', 'c'], 't', by decide, by decide⟩
  | agent =>
    exact ⟨⟨by decide, by decide, unslashed⟩, by decide, by decide, by decide, ['a', 'g', 'e', 'n'], 't',
      by decide, by decide⟩

theorem kind_text_injective (same : kind.text.toList = otherKind.text.toList) : kind = otherKind := by
  revert same
  cases kind <;> cases otherKind <;> decide

private theorem after_slash {before after first second : List Char} (firstPlain : '/' ∉ first)
    (secondPlain : '/' ∉ second) (same : before ++ '/' :: first = after ++ '/' :: second) :
    first = second ∧ before = after := by
  have pieces := congrArg (Text.splitAt '/') same
  rw [Text.splitAt_separated, Text.splitAt_separated, Text.splitAt_absent firstPlain,
    Text.splitAt_absent secondPlain] at pieces
  cases (List.append_inj' pieces rfl).2
  exact ⟨rfl, (List.append_inj' same rfl).1⟩

private theorem isSlash_plain {segment : List Char} (plain : ∀ char ∈ segment, isSlash char = false) :
    '/' ∉ segment := by
  intro inside
  cases plain '/' inside

private theorem Routed.unique {otherUrl : Url} (routed : Routed url workflow kind)
    (otherRouted : Routed otherUrl other otherKind) (same : url.path = otherUrl.path) :
    workflow = other ∧ kind = otherKind := by
  obtain ⟨-, base, segment, path, plain, decoded⟩ := routed
  obtain ⟨-, otherBase, otherSegment, otherPath, otherPlain, otherDecoded⟩ := otherRouted
  rw [same, otherPath, ← List.cons_append, ← List.append_assoc, ← List.cons_append, ← List.append_assoc] at path
  obtain ⟨kinds, rest⟩ := after_slash (isSlash_plain (kind_plain otherKind).1.plain)
    (isSlash_plain (kind_plain kind).1.plain) path
  obtain ⟨rfl, -⟩ := after_slash otherPlain plain rest
  rw [decoded, String.toUTF8_eq_toByteArray, String.toUTF8_eq_toByteArray, String.toByteArray_inj] at otherDecoded
  exact ⟨congrArg WorkflowId.mk otherDecoded, kind_text_injective kinds.symm⟩

/-- An endpoint without a query and a fragment settles whether calls are sent, and where to. -/
theorem parse?_addressOf (noQuery : '?' ∉ endpoint.toList) (noFragment : '#' ∉ endpoint.toList) :
    ∃ origin : Option Origin, ∀ workflow kind, parse? (addressOf endpoint workflow kind) =
      origin.map (·.url (kept workflow.text.toList ++ '/' :: kind.text.toList)) := by
  have trimmed {mark : Char} (absent : mark ∉ endpoint.toList) : mark ∉ (trimEndpoint endpoint).toList := by
    intro inside
    rw [trimEndpoint, String.toList_ofList, List.mem_reverse] at inside
    exact absent (List.mem_reverse.mp ((List.dropWhile_suffix _).subset inside))
  obtain ⟨origin, reads⟩ := parse?_pasted (trimmed noQuery) (trimmed noFragment)
  refine ⟨origin, fun workflow kind => ?_⟩
  obtain ⟨-, written, -, -, start, last, split, visible⟩ := kind_plain kind
  have address : addressOf endpoint workflow kind = String.ofList ((trimEndpoint endpoint).toList ++
      '/' :: ("workflows".toList ++ '/' :: ((workflow.text.toList ++ '/' :: start) ++ [last]))) := by
    apply String.toList_inj.mp
    simp [addressOf, split]
  have whole : kept ((workflow.text.toList ++ '/' :: start) ++ [last]) =
      kept workflow.text.toList ++ '/' :: kind.text.toList := by
    rw [List.append_assoc, List.cons_append, ← split, kept, List.filter_append]
    exact congrArg (_ ++ '/' :: ·) written
  rw [address, reads _ last visible, whole]

private theorem mem_kept {char : Char} (counts : isIgnored char = false) : char ∈ kept text ↔ char ∈ text := by
  simp [kept, counts]

private theorem kept_shorter (text : List Char) :
    (utf8 (kept text)).length ≤ (utf8 text).length ∧
      ((∃ char ∈ text, isIgnored char = true) → (utf8 (kept text)).length < (utf8 text).length) := by
  induction text with
  | nil => simp [kept]
  | cons char text ih =>
    obtain ⟨within, shorter⟩ := ih
    have some := utf8_length_pos char
    rw [utf8_cons, List.length_append]
    by_cases ignored : isIgnored char = true
    · have same : kept (char :: text) = kept text := List.filter_cons_of_neg (by simp [ignored])
      rw [same]
      exact ⟨by omega, fun _ => by omega⟩
    · have same : kept (char :: text) = char :: kept text := List.filter_cons_of_pos (by simpa using ignored)
      rw [same, utf8_cons, List.length_append]
      refine ⟨by omega, ?_⟩
      rintro ⟨other, inside, hidden⟩
      rcases List.mem_cons.mp inside with rfl | inside
      · exact absurd hidden ignored
      · have less := shorter ⟨other, inside, hidden⟩
        omega

/-- The part of a text that becomes the segment of a path stands for all of the text exactly if the text is
literal. -/
theorem literal_of_decoded {piece : List Char} (noQuery : '?' ∉ text) (noFragment : '#' ∉ text)
    (last : Text.IsLastPiece isSlash (kept text) piece) (decoded : decode piece = utf8 text) : Literal text := by
  have size := congrArg List.length decoded
  have shorter := decode_length_le piece
  obtain ⟨within, hidden⟩ := kept_shorter text
  have whole : kept text = piece := by
    rcases last.ends with same | ⟨before, mark, -, same⟩
    · exact same
    · have some := utf8_length_pos mark
      rw [same] at within
      simp only [utf8, List.flatMap_append, List.flatMap_cons, List.length_append] at within size shorter some
      omega
  have unescaped : hasEscape piece = false := by
    apply Bool.eq_false_iff.mpr
    intro escape
    have less := decode_shorter escape
    rw [whole] at within
    omega
  have counts : ∀ char ∈ text, isIgnored char = false := by
    intro char inside
    apply Bool.eq_false_iff.mpr
    intro ignored
    have less := hidden ⟨char, inside, ignored⟩
    rw [whole] at less
    omega
  have same : kept text = text := List.filter_eq_self.mpr fun char inside => by simp [counts char inside]
  rw [same] at whole
  subst whole
  refine ⟨fun char inside => ⟨last.plain char inside, counts char inside, ?_, ?_⟩, unescaped⟩
  · rintro rfl
    exact noQuery inside
  · rintro rfl
    exact noFragment inside

theorem ofPath_ended (path : String) (shown : String → String := id) :
    ∃ front, (WorkflowId.ofPath path shown).text.toList = front ++ ['w'] := by
  rw [WorkflowId.ofPath, WorkflowId.ofFileName]
  generalize (Text.stripEnd? _ _).getD _ = base
  exact ⟨base ++ "-flo".toList, by simp⟩

/-- Without a query and a fragment, the last segments are an end of the text and the kind. -/
theorem url_pasted (origin : Origin) (kind : ActionKind) {front : List Char} (ended : text = front ++ ['w'])
    (noQuery : '?' ∉ text) (noFragment : '#' ∉ text) :
    ∃ base piece, (origin.url (kept text ++ '/' :: kind.text.toList)).query = none ∧
      (origin.url (kept text ++ '/' :: kind.text.toList)).path.toList =
        base ++ '/' :: (encode pathReserved piece ++ '/' :: kind.text.toList) ∧
      Text.IsLastPiece isSlash (kept text) piece := by
  obtain ⟨kindEnd, -, kindFragment, kindQuery, -⟩ := kind_plain kind
  have absent {mark : Char} (counts : isIgnored mark = false) (apart : mark ≠ '/')
      (out : mark ∉ text) (kindOut : mark ∉ kind.text.toList) :
      mark ∉ kept text ++ '/' :: kind.text.toList := by
    simp [mem_kept counts, out, apart, kindOut]
  have keptEnd : kept text = kept front ++ ['w'] := by
    rw [ended, kept, List.filter_append]
    rfl
  have whole : cutAt '?' (cutAt '#' (kept text ++ '/' :: kind.text.toList)).1 =
      (kept front ++ 'w' :: '/' :: kind.text.toList, none) := by
    rw [cutAt_absent (absent (by decide) (by decide) noFragment kindFragment),
      cutAt_absent (absent (by decide) (by decide) noQuery kindQuery), keptEnd, List.append_assoc]
    rfl
  obtain ⟨base, piece, path, last⟩ := pathOf_pasted origin.lead (kept front) kindEnd
  refine ⟨base, piece, ?_, ?_, keptEnd ▸ last⟩
  · rw [Origin.url, whole]
    rfl
  · rw [Origin.url, whole, path, String.toList_ofList]

private theorem target_of_path (path : url.query = none) : url.target = url.path := by
  rw [target, path]

private theorem Literal.routed (literal : Literal workflow.text.toList) (origin : Origin) (kind : ActionKind)
    {front : List Char} (ended : workflow.text.toList = front ++ ['w']) :
    Routed (origin.url (kept workflow.text.toList ++ '/' :: kind.text.toList)) workflow kind := by
  obtain ⟨base, piece, query, path, last⟩ := url_pasted origin kind ended
    (fun inside => (literal.plain _ inside).2.2.1 rfl) (fun inside => (literal.plain _ inside).2.2.2 rfl)
  have same : kept workflow.text.toList = workflow.text.toList :=
    List.filter_eq_self.mpr fun char inside => by simp [(literal.plain char inside).2.1]
  have whole : workflow.text.toList = piece := by
    have ends := last.ends
    rw [same] at ends
    rcases ends with same | ⟨before, mark, slash, split⟩
    · exact same
    · have unslashed := (literal.plain mark (by simp [split])).1
      rw [slash] at unslashed
      cases unslashed
  refine ⟨query, base, encode pathReserved piece, path, encode_plain (isSlash_plain last.plain), ?_⟩
  rw [decode_encode, ← whole, decode_of_plain literal.unescaped, toUTF8_eq]

/-- Only a literal text is told apart from others at every kind of call. -/
theorem literal_of_routed (origin : Origin) {front : List Char}
    (ended : workflow.text.toList = front ++ ['w'])
    (routed : ∀ kind : ActionKind,
      Routed (origin.url (kept workflow.text.toList ++ '/' :: kind.text.toList)) workflow kind) :
    Literal workflow.text.toList := by
  -- A fragment takes the kind with it, so that all kinds are asked for at one path.
  have noFragment : '#' ∉ workflow.text.toList := by
    intro inside
    obtain ⟨before, after, marked⟩ := List.append_of_mem ((mem_kept (by decide)).mpr inside)
    have same (kind : ActionKind) : (origin.url (kept workflow.text.toList ++ '/' :: kind.text.toList)).path =
        pathOf (origin.lead ++ '/' :: (cutAt '?' (before.takeWhile (· != '#'))).1) := by
      obtain ⟨left, cut⟩ := cutAt_marked '#' before (after ++ '/' :: kind.text.toList)
      simp only [Origin.url, marked, List.append_assoc, List.cons_append, cut]
    cases ((routed .act).unique (routed .extract) ((same .act).trans (same .extract).symm)).2
  have noQuery : '?' ∉ workflow.text.toList := by
    intro inside
    obtain ⟨before, after, marked⟩ := List.append_of_mem ((mem_kept (by decide)).mpr inside)
    obtain ⟨left, cut⟩ := cutAt_marked '?' before (after ++ '/' :: ActionKind.act.text.toList)
    have whole : cutAt '#' (kept workflow.text.toList ++ '/' :: ActionKind.act.text.toList) =
        (kept workflow.text.toList ++ '/' :: ActionKind.act.text.toList, none) :=
      cutAt_absent (by simp [mem_kept, isIgnored, noFragment, (kind_plain .act).2.2.1])
    have query := (routed .act).1
    simp only [Origin.url, whole] at query
    simp only [marked, List.append_assoc, List.cons_append, cut] at query
    cases query
  obtain ⟨base, piece, -, path, last⟩ := url_pasted origin .act ended noQuery noFragment
  obtain ⟨-, otherBase, segment, otherPath, single, decoded⟩ := routed .act
  rw [path, ← List.cons_append, ← List.append_assoc, ← List.cons_append, ← List.append_assoc] at otherPath
  obtain ⟨-, fronts⟩ := after_slash (isSlash_plain (kind_plain .act).1.plain)
    (isSlash_plain (kind_plain .act).1.plain) otherPath
  obtain ⟨rfl, -⟩ := after_slash (encode_plain (isSlash_plain last.plain)) single fronts
  rw [decode_encode, toUTF8_eq] at decoded
  refine literal_of_decoded noQuery noFragment last ?_
  have bytes := congrArg (·.data.toList) decoded
  simpa using bytes

private theorem url_of_request {origin : Origin} {call : SessionCall} {request : HttpRequest}
    (reads : ∀ workflow kind, parse? (addressOf endpoint workflow kind) =
      some (origin.url (kept workflow.text.toList ++ '/' :: kind.text.toList)))
    (asked : request ∈ requests endpoint workflow call) :
    request.url = origin.url (kept workflow.text.toList ++ '/' :: call.kind.text.toList) := by
  rw [requests_eq, reads] at asked
  cases asked with
  | head => rfl
  | tail _ asked => cases asked

/-- The requests of a workflow with a literal text, from an endpoint without a query and a fragment. -/
theorem Literal.requests_routed (noQuery : '?' ∉ endpoint.toList) (noFragment : '#' ∉ endpoint.toList)
    {front : List Char} (ended : workflow.text.toList = front ++ ['w'])
    (literal : Literal workflow.text.toList) {call : SessionCall} {request : HttpRequest}
    (asked : request ∈ requests endpoint workflow call) : Routed request.url workflow call.kind := by
  obtain ⟨origin, reads⟩ := parse?_addressOf noQuery noFragment
  cases origin with
  | none =>
    rw [requests_eq, reads] at asked
    cases asked
  | some origin =>
    rw [url_of_request reads asked]
    exact literal.routed origin call.kind ended

/-- One target is that of the calls of one workflow and of one kind. -/
theorem Routed.target_unique {otherUrl : Url} (routed : Routed url workflow kind)
    (otherRouted : Routed otherUrl other otherKind) (same : url.target = otherUrl.target) :
    workflow = other ∧ kind = otherKind := by
  rw [target_of_path routed.1, target_of_path otherRouted.1] at same
  exact routed.unique otherRouted same

/-- Every server is asked what the recorder keeps. All calls of a workflow are sent to where they belong
exactly if its text is literal, and calls of such workflows that have one target are calls of one workflow
and of one kind. -/
theorem calls_routed (noQuery : '?' ∉ endpoint.toList) (noFragment : '#' ∉ endpoint.toList) :
    (∀ {σ : Type} (server : HttpServer σ) workflow call state,
      ((provider server endpoint).call workflow call state).2 =
        (requests endpoint workflow call).foldl (fun state request => (server.answer request state).2) state) ∧
    ((∀ workflow call, requests endpoint workflow call = []) ∨
      (∀ workflow call, ∃ url, requests endpoint workflow call = [⟨url, call.instruction⟩]) ∧
      (∀ scenario, (∀ call, ∀ request ∈ requests endpoint (.ofPath scenario) call,
          Routed request.url (.ofPath scenario) call.kind) ↔
        Literal (WorkflowId.ofPath scenario).text.toList) ∧
      ∀ scenario other, Literal (WorkflowId.ofPath scenario).text.toList →
        Literal (WorkflowId.ofPath other).text.toList →
        ∀ call otherCall, ∀ request ∈ requests endpoint (.ofPath scenario) call,
          ∀ otherRequest ∈ requests endpoint (.ofPath other) otherCall,
            request.url.target = otherRequest.url.target →
              WorkflowId.ofPath scenario = WorkflowId.ofPath other ∧ call.kind = otherCall.kind) := by
  refine ⟨fun server workflow call state => call_asks server endpoint workflow call state, ?_⟩
  obtain ⟨origin, reads⟩ := parse?_addressOf noQuery noFragment
  cases origin with
  | none =>
    left
    intro workflow call
    rw [requests_eq, reads]
    rfl
  | some origin =>
    right
    have sent (workflow : WorkflowId) (call : SessionCall) : requests endpoint workflow call =
        [⟨origin.url (kept workflow.text.toList ++ '/' :: call.kind.text.toList), call.instruction⟩] := by
      rw [requests_eq, reads]
      rfl
    have literal {workflow : WorkflowId} (ended : ∃ front, workflow.text.toList = front ++ ['w'])
        (routed : ∀ call, ∀ request ∈ requests endpoint workflow call, Routed request.url workflow call.kind) :
        Literal workflow.text.toList := by
      obtain ⟨front, ended⟩ := ended
      refine literal_of_routed origin ended fun kind => ?_
      exact routed ⟨kind, ""⟩ ⟨_, _⟩ (by rw [sent]; exact .head _)
    refine ⟨fun workflow call => ⟨_, sent workflow call⟩, fun scenario => ⟨literal (ofPath_ended scenario), ?_⟩, ?_⟩
    · intro plain call request asked
      obtain ⟨front, ended⟩ := ofPath_ended scenario
      exact plain.requests_routed noQuery noFragment ended asked
    · intro scenario other plain otherPlain call otherCall request asked otherRequest otherAsked same
      obtain ⟨front, ended⟩ := ofPath_ended scenario
      obtain ⟨otherFront, otherEnded⟩ := ofPath_ended other
      have routed := plain.requests_routed noQuery noFragment ended asked
      have otherRouted := otherPlain.requests_routed noQuery noFragment otherEnded otherAsked
      exact routed.target_unique otherRouted same

theorem calls_routed_blank :
    (∀ call, ∀ request ∈ requests "http://h/api/" (.ofPath "s/a b.txt") call,
      Routed request.url (.ofPath "s/a b.txt") call.kind) ∧
    ∃ url, requests "http://h/api/" (.ofPath "s/a b.txt") ⟨.extract, "title"⟩ = [⟨url, "title"⟩] := by
  have clean : '?' ∉ "http://h/api/".toList := by decide
  rcases (calls_routed clean (by decide)).2 with none | ⟨sent, routed, -⟩
  · exact absurd (none (.ofPath "s/a b.txt") ⟨.extract, "title"⟩) (by decide +kernel)
  · exact ⟨(routed _).mpr (by decide +kernel), sent _ _⟩

/-- A question mark ends the path, a number sign the address; an escape is read as what it stands for. -/
theorem calls_misrouted :
    (∃ request ∈ requests "http://h" (.ofPath "s/a?b.txt") ⟨.act, "go"⟩,
      request.url.target = "/workflows/a?b-flow/act" ∧
        ¬ Routed request.url (.ofPath "s/a?b.txt") .act) ∧
    (∃ request ∈ requests "http://h" (.ofPath "s/a#b.txt") ⟨.act, "go"⟩,
      ∃ other ∈ requests "http://h" (.ofPath "s/a#c.txt") ⟨.extract, "title"⟩,
        request.url.target = "/workflows/a" ∧ other.url.target = "/workflows/a") ∧
    (WorkflowId.ofPath "s/a b.txt" ≠ .ofPath "s/a%20b.txt" ∧
      ∃ request ∈ requests "http://h" (.ofPath "s/a b.txt") ⟨.act, "go"⟩,
        ∃ other ∈ requests "http://h" (.ofPath "s/a%20b.txt") ⟨.act, "go"⟩,
          request.url.target = other.url.target) := by
  refine ⟨?_, by decide +kernel, by decide +kernel⟩
  have asked : ∃ request ∈ requests "http://h" (.ofPath "s/a?b.txt") ⟨.act, "go"⟩,
      request.url.target = "/workflows/a?b-flow/act" ∧ request.url.query ≠ none := by decide +kernel
  obtain ⟨request, inside, target, query⟩ := asked
  exact ⟨request, inside, target, fun routed => query routed.1⟩

end TextScenario.HttpSession
