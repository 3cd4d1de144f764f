import EndpointManifest.Proofs.Call.MethodField
import EndpointManifest.Proofs.Locality
import EndpointManifest.Proofs.Options.Payload

/-! A call named by its method and a `fetch` with a method field give the same endpoint. The field
has no brackets, so the call is closed where it was; it is no key that is read, so the others are
found behind it; and it is the first mention of a method among the options. -/

namespace EndpointManifest

open Text

namespace Options

def valueFrom? (options : Text) (names : List Text) : Option Text :=
  (valueStart? options names).map options.drop

theorem headersBlock_congr {s t : Text}
    (h : valueFrom? s ["headers".toList] = valueFrom? t ["headers".toList]) :
    headersBlock s = headersBlock t := by
  unfold valueFrom? at h
  unfold headersBlock
  cases hs : valueStart? s ["headers".toList] with
  | none =>
    rw [hs, Option.map_none, eq_comm, Option.map_eq_none_iff] at h
    rw [h]
  | some n =>
    rw [hs] at h
    obtain ⟨k, hk, hdrop⟩ := Option.map_eq_some_iff.1 h.symm
    simp only [hk, hdrop]

theorem body?_congr {s t : Text} (h : valueFrom? s ["data".toList, "body".toList] =
    valueFrom? t ["data".toList, "body".toList]) : body? s = body? t := by
  have hread (o : Text) : body? o = (valueFrom? o ["data".toList, "body".toList]).bind value? := by
    rw [body?, valueFrom?]
    cases valueStart? o ["data".toList, "body".toList] <;> rfl
  rw [hread, hread, h]

theorem valueFrom?_front {u w : Text} {names : List Text} {keys : List Key}
    (hscan : Key.scanFrom 1 (u ++ w) = keys ++ Key.scanFrom (1 + u.length) w)
    (hkeys : ∀ key ∈ keys, (names.map lower).contains (lower key.name) = false) :
    valueFrom? ('{' :: (u ++ w)) names = valueFrom? ('{' :: w) names := by
  have hnone : (keys.find? fun key => (names.map lower).contains (lower key.name)) = none :=
    List.find?_eq_none.2 fun key hkey => by rw [hkeys key hkey]; exact Bool.false_ne_true
  have hshift (d : Nat) : ((Key.scanFrom (0 + d) w).find? fun key =>
      (names.map lower).contains (lower key.name)).map (·.valueStart) =
        ((Key.scanFrom 0 w).find? fun key => (names.map lower).contains (lower key.name)).map
          (·.valueStart + d) := by
    rw [Key.scanFrom_shift, List.find?_map, Option.map_map]
    rfl
  have hfront : valueStart? ('{' :: (u ++ w)) names =
      ((Key.scanFrom (0 + (1 + u.length)) w).find? fun key =>
        (names.map lower).contains (lower key.name)).map (·.valueStart) := by
    show ((Key.scanFrom 1 (u ++ w)).find? _).map _ = _
    rw [hscan, List.find?_append, hnone, Option.none_or, Nat.zero_add]
  have hbare : valueStart? ('{' :: w) names = ((Key.scanFrom (0 + 1) w).find? fun key =>
      (names.map lower).contains (lower key.name)).map (·.valueStart) := rfl
  rw [valueFrom?, valueFrom?, hfront, hbare, hshift, hshift, Option.map_map, Option.map_map]
  congr 1
  funext key
  simp only [Function.comp_apply]
  rw [List.drop_succ_cons, ← Nat.add_assoc, Nat.add_right_comm, List.drop_succ_cons,
    Nat.add_comm, List.drop_length_add_append]

end Options

namespace Call

def receiver : Text := "request.".toList

/-- A call on `request`, as far as its closing parenthesis: a name, a URL in quotes, options in
braces. -/
def requestText (word url inside : Text) : Text :=
  receiver ++ (word ++ '(' :: '\'' :: (url ++ '\'' :: ',' :: ' ' :: '{' ::
    (inside ++ ['}', ')'])))

def fetchWord : Text := "fetch".toList

def methodField (m : Method) : Text :=
  "method".toList ++ ':' :: ' ' :: '\'' :: (m.name ++ ['\'', ',', ' '])

def arguments (url rest : Text) : Text := '\'' :: (url ++ '\'' :: ',' :: ' ' :: '{' :: rest)

theorem requestText_append (word url inside tail : Text) : requestText word url inside ++ tail =
    (receiver ++ word) ++ '(' :: arguments url (inside ++ '}' :: ')' :: tail) := by
  simp only [requestText, arguments, List.append_assoc, List.cons_append, List.nil_append]

example : requestText fetchWord "/a".toList (methodField .post ++ "data".toList) ++ [';'] =
    "request.fetch('/a', \x7bmethod: 'POST', data\x7d);".toList := by decide

def methodEntry (m : Method) : Entry where
  front := ⟨[], allBlank_nil⟩
  key := .bare "method".toList
  beforeColon := ⟨[], allBlank_nil⟩
  afterColon := ⟨[' '], allBlank_space⟩
  value := '\'' :: (m.name ++ ['\''])
  back := ⟨[], allBlank_nil⟩
  isKey := ⟨'m', "ethod".toList, rfl, by decide, by decide⟩
  isValue := .literal (by cases m <;> decide)

theorem methodField_append (m : Method) (rest : Text) :
    methodField m ++ rest = (methodEntry m).padded ++ ',' :: ' ' :: rest := by
  cases m <;> rfl

theorem scanFrom_methodField (m : Method) (rest : Text) : Key.scanFrom 1 (methodField m ++ rest) =
    [(methodEntry m).keyAt 1] ++ Key.scanFrom (1 + (methodField m).length) rest := by
  have hpassed : ∀ c ∈ [',', ' '], Key.IsPassed c := by unfold Key.IsPassed; decide
  have hlen : (methodField m).length = (methodEntry m).padded.length + [',', ' '].length := by
    cases m <;> rfl
  have hcloses : Literal.Closes (',' :: ' ' :: rest) := ⟨[], ',', _, allBlank_nil, .inl rfl, rfl⟩
  have hentry := Key.scanFrom_entry (e := methodEntry m) trivial hcloses 1
  have hpass := Key.scanFrom_passed hpassed (1 + (methodEntry m).padded.length) rest
  rw [List.cons_append, List.singleton_append] at hpass
  rw [methodField_append, hentry, hpass, hlen, Nat.add_assoc]
  rfl

theorem fields_methodField (m : Method) (rest : Text) :
    Options.fields ('{' :: (methodField m ++ rest)) = Options.fields ('{' :: rest) := by
  have hfrom (names : List Text)
      (h : (names.map lower).contains (lower "method".toList) = false) :
      Options.valueFrom? ('{' :: (methodField m ++ rest)) names =
        Options.valueFrom? ('{' :: rest) names := by
    refine Options.valueFrom?_front (scanFrom_methodField m rest) fun key hkey => ?_
    obtain rfl := List.mem_singleton.1 hkey
    exact h
  have hheaders := Options.headersBlock_congr (hfrom ["headers".toList] (by decide))
  have hbody := Options.body?_congr (hfrom ["data".toList, "body".toList] (by decide))
  simp only [Options.fields, hheaders, hbody]

theorem fetchMethod?_methodField (m : Method) (rest : Text) :
    fetchMethod? ('{' :: (methodField m ++ rest)) = some m := by
  have hmatch : methodFieldPattern none (methodField m ++ rest) =
      some (m.name, ',' :: ' ' :: rest) := by
    refine methodFieldPattern_eq_some.2 ⟨rfl, [], [' '], '\'', '\'', allBlank_nil,
      allBlank_space, rfl, rfl, ?_, ?_, ?_⟩
    · cases m <;> decide
    · cases m <;> decide
    · cases m <;> rfl
  have hmention : mention? (methodField m ++ rest) = some m.name :=
    first?_of_match (List.cons_ne_nil _ _) hmatch
  rw [fetchMethod?_eq, mention?_cons (by decide) (by decide), hmention]
  cases m <;> decide

theorem not_mem_methodField (m : Method) {c : Char} (h : c ∈ ['(', ')', '{', '}']) :
    c ∉ methodField m := by
  revert c
  cases m <;> decide

def atFront (t : Text) (m : Method) (url : Text) : Call :=
  ⟨0, m, url, (bound t 0).1, (bound t 0).2.1, (bound t 0).2.2⟩

def Quotable (url : Text) : Prop := url ≠ [] ∧ ∀ c ∈ url, isQuote c = false

section

variable {m : Method} {url rest : Text}

theorem Quotable.not_mem (h : Quotable url) : '\'' ∉ url := by
  intro hmem
  have hnot := h.2 _ hmem
  revert hnot
  decide

theorem plainLiteral?_arguments (hurl : Quotable url) :
    plainLiteral? (skipBlanks (arguments url rest)) = some (url, ',' :: ' ' :: '{' :: rest) := by
  rw [arguments, skipBlanks_cons (by decide)]
  exact plainLiteral?_eq_some.2 ⟨'\'', rfl, hurl.1, hurl.2, rfl⟩

/-- What stands before the parenthesis settles the call. -/
theorem located_atFront {head : Text} (hurl : Quotable url) (hparen : '(' ∉ head)
    (h : Head (bound (head ++ '(' :: arguments url rest) 0).2.2 m head) :
    Located (head ++ '(' :: arguments url rest)
      (atFront (head ++ '(' :: arguments url rest) m url) head (arguments url rest) where
  split := rfl
  no_paren := hparen
  literal := ⟨_, plainLiteral?_arguments hurl⟩
  bounds := rfl
  head := h

theorem head_verb (options : Text) (m : Method) : Head options m (receiver ++ m.verb) := by
  have hhead : receiver ++ m.verb = "request".toList ++ '.' :: ([] ++ (m.verb ++ [])) := by
    cases m <;> rfl
  rw [hhead]
  exact .verb (by decide) allBlank_nil (sameLetters_refl _) allBlank_nil

theorem head_fetch {options : Text} (h : fetchMethod? options = some m) :
    Head options m (receiver ++ fetchWord) := by
  rw [← List.append_nil fetchWord]
  exact .fetch (sameLetters_refl _) allBlank_nil h

theorem fetchPattern_arguments (hurl : Quotable url) :
    fetchPattern none ((receiver ++ fetchWord) ++ '(' :: arguments url rest) =
      some (url, ',' :: ' ' :: '{' :: rest) := by
  have hargument : urlArgument? ('(' :: arguments url rest) =
      some (url, ',' :: ' ' :: '{' :: rest) :=
    urlArgument?_eq_some.2 ⟨[], [], '\'', allBlank_nil, allBlank_nil, rfl, hurl.1, hurl.2, rfl⟩
  have hfetch : fetchCall? (fetchWord ++ '(' :: arguments url rest) =
      some (url, ',' :: ' ' :: '{' :: rest) := by
    have hword : afterAnyCase? "fetch".toList (fetchWord ++ '(' :: arguments url rest) =
        some ('(' :: arguments url rest) :=
      afterAnyCase?_eq_some.2 ⟨fetchWord, sameLetters_refl fetchWord, rfl⟩
    simp only [fetchCall?, hword, hargument, Option.bind_eq_bind, Option.bind_some]
  have hname : identifier? ((receiver ++ fetchWord) ++ '(' :: arguments url rest) =
      some ("request".toList, '.' :: (fetchWord ++ '(' :: arguments url rest)) := rfl
  have hpoint : afterMark? '.' ('.' :: (fetchWord ++ '(' :: arguments url rest)) =
      some (fetchWord ++ '(' :: arguments url rest) := rfl
  have hskip : skipBlanks (fetchWord ++ '(' :: arguments url rest) =
      fetchWord ++ '(' :: arguments url rest := rfl
  refine guard_bind_eq_some.2 ⟨rfl, orElse_eq_some.2 (.inl ?_)⟩
  simp only [hname, hpoint, hskip, hfetch, Option.bind_eq_bind, Option.bind_some]

theorem atFront_mem_findCalls {clients : List Text} (hurl : Quotable url)
    (h : fetchMethod? (bound ((receiver ++ fetchWord) ++ '(' :: arguments url rest) 0).2.2 =
      some m) :
    atFront ((receiver ++ fetchWord) ++ '(' :: arguments url rest) m url ∈
      findCalls ((receiver ++ fetchWord) ++ '(' :: arguments url rest) clients := by
  have hfound : find? fetchPattern ((receiver ++ fetchWord) ++ '(' :: arguments url rest) =
      some ⟨0, url⟩ :=
    find?_eq_some.2 ⟨[], _, _, by simp, rfl, rfl, fetchPattern_arguments hurl, quiet_nil _ _⟩
  rw [findCalls, List.mem_mergeSort, List.mem_append, fetchCalls, List.mem_filterMap]
  exact .inr ⟨_, List.mem_of_head? hfound, Option.map_eq_some_iff.2 ⟨m, h, rfl⟩⟩

end

/-- Closed arguments with options: what the braces hold, and what follows them. -/
structure Closed (url block back : Text) : Prop where
  quotable : Quotable url
  braces : Delimiter.Balanced '{' '}' block
  parens : Delimiter.Balanced '(' ')' (arguments url (block ++ '}' :: back))

def closedText (head url block back after : Text) : Text :=
  head ++ '(' :: arguments url (block ++ '}' :: (back ++ ')' :: after))

section

variable {head url block back : Text}

theorem closedText_eq (head url block back after : Text) : closedText head url block back after =
    head ++ '(' :: (arguments url (block ++ '}' :: back) ++ ')' :: after) := by
  simp only [closedText, arguments, List.append_assoc, List.cons_append]

theorem exists_closed {rest : Text} {call : Call} (hurl : Quotable url)
    (h : Located (head ++ '(' :: arguments url rest) call head (arguments url rest))
    (hclosed : call.isClosed = true) (hoptions : call.options ≠ []) :
    ∃ block back after, Closed url block back ∧ rest = block ++ '}' :: (back ++ ')' :: after) := by
  obtain ⟨close, hclose⟩ := Option.isSome_iff_exists.1 hclosed
  obtain ⟨inside, after, hsplit, _, hinside, hparens⟩ := h.closed hclose
  rw [hinside] at hoptions
  obtain ⟨block, back, hbraces, hrest, rfl⟩ :=
    exists_of_optionsOf rfl hurl.1 hurl.not_mem hsplit hoptions
  exact ⟨block, back, after, ⟨hurl, hbraces, hparens⟩, hrest⟩

theorem Closed.bound (h : Closed url block back) (hparen : '(' ∉ head) (after : Text) :
    Call.bound (closedText head url block back after) 0 =
      (head.length, some (head.length + 1 + (arguments url (block ++ '}' :: back)).length),
        '{' :: (block ++ ['}'])) := by
  have hblank : AllBlank [' '] := by decide
  have hoptions : optionsOf (arguments url (block ++ '}' :: back)) = '{' :: (block ++ ['}']) :=
    optionsOf_eq (q := '\'') rfl h.quotable.1 h.quotable.not_mem hblank h.braces back
  have hbound := bound_eq (u := []) hparen h.parens after
  rw [hoptions] at hbound
  simpa [closedText_eq] using hbound

theorem drop_closedText (head url block back after : Text) :
    (closedText head url block back after).drop
      (head.length + 1 + (arguments url (block ++ '}' :: back)).length + 1) = after := by
  rw [closedText_eq, drop_arguments]

/-- The field changes neither the brackets of the arguments nor the braces of the options. -/
theorem Closed.methodField (h : Closed url block back) (m : Method) :
    Closed url (methodField m ++ block) back where
  quotable := h.quotable
  braces := (Delimiter.balanced_of_not_mem (not_mem_methodField m (by decide))
    (not_mem_methodField m (by decide))).append h.braces
  parens := by
    have hsplit (rest : Text) :
        arguments url rest = '\'' :: (url ++ ['\'', ',', ' ', '{']) ++ rest := by
      simp [arguments]
    have hparens := h.parens
    rw [hsplit] at hparens
    rw [hsplit, List.append_assoc]
    exact hparens.insert (not_mem_methodField m (by decide)) (not_mem_methodField m (by decide))

end

end Call

namespace Spec

open Call

theorem unnamed_closed {head url block back : Text} (h : Closed url block back)
    (hparen : '(' ∉ head) (after : Text) (m : Method) (window : Nat) :
    unnamed (closedText head url block back after) window
        (atFront (closedText head url block back after) m url) =
      let fields := Options.fields ('{' :: (block ++ ['}']))
      let asserted := Asserted.ofWindow (after.take window)
      { name := []
        method := m
        url
        headers := headersFor m fields.contentType
        auth := if fields.bearer then some .bearer else none
        expectation := ⟨asserted.status, asserted.substring⟩
        body := fields.body } := by
  simp only [unnamed, expectationFor, atFront, h.bound hparen, drop_closedText]

/-- A call by the name of its method and a `fetch` with the method among its options give the same
endpoint, whatever else the options hold and whatever follows. -/
theorem endpointFor_fetch {clients : List Text} (hclients : Named clients) {m : Method}
    {url inside tail : Text} (hne : url ≠ []) (hurl : ∀ c ∈ url, isQuote c = false) {call : Call}
    (hcall : call ∈ findCalls (requestText m.verb url inside ++ tail) clients)
    (hoffset : call.offset = 0) (hclosed : call.isClosed = true) (hoptions : call.options ≠ []) :
    ∃ call' ∈ findCalls (requestText fetchWord url (methodField m ++ inside) ++ tail) clients,
      (call'.offset = 0 ∧ call'.isClosed = true ∧ call'.options ≠ []) ∧
      (∀ other ∈ findCalls (requestText fetchWord url (methodField m ++ inside) ++ tail) clients,
        other.offset = 0 → other = call') ∧
      ∀ labels window,
        endpointFor (requestText fetchWord url (methodField m ++ inside) ++ tail) labels window
            call' =
          endpointFor (requestText m.verb url inside ++ tail) labels window call := by
  have hquotable : Quotable url := ⟨hne, hurl⟩
  have hverb : '(' ∉ receiver ++ m.verb := by cases m <;> decide
  have hfetch : '(' ∉ receiver ++ fetchWord := by decide
  rw [requestText_append] at hcall
  -- the only call at the front, and the form of its arguments
  have hfront : Located _ (atFront _ m url) (receiver ++ m.verb)
      (arguments url (inside ++ '}' :: ')' :: tail)) :=
    located_atFront hquotable hverb (head_verb _ m)
  obtain ⟨_, _, hlocated⟩ := located_of_findCalls hclients hcall
  obtain rfl := hlocated.unique hfront hoffset
  obtain ⟨block, back, after, h, hrest⟩ := exists_closed hquotable hfront hclosed hoptions
  have h' := h.methodField m
  have hsource : requestText m.verb url inside ++ tail =
      closedText (receiver ++ m.verb) url block back after := by
    rw [requestText_append, hrest, closedText]
  have hsource' : requestText fetchWord url (methodField m ++ inside) ++ tail =
      closedText (receiver ++ fetchWord) url (methodField m ++ block) back after := by
    rw [requestText_append, List.append_assoc (methodField m), hrest,
      ← List.append_assoc (methodField m), closedText]
  have hmethod : fetchMethod? (bound (closedText (receiver ++ fetchWord) url
      (methodField m ++ block) back after) 0).2.2 = some m := by
    rw [h'.bound hfetch]
    simp only [List.append_assoc]
    exact fetchMethod?_methodField m _
  rw [← requestText_append, hsource, hsource']
  refine ⟨_, atFront_mem_findCalls hquotable hmethod, ⟨rfl, ?_, ?_⟩, fun other hother hzero => ?_,
    fun labels window => ?_⟩
  · show (bound (closedText _ _ _ _ _) 0).2.1.isSome = true
    rw [h'.bound hfetch]
    rfl
  · show (bound (closedText _ _ _ _ _) 0).2.2 ≠ []
    rw [h'.bound hfetch]
    exact List.cons_ne_nil _ _
  · obtain ⟨_, _, hother⟩ := located_of_findCalls hclients hother
    exact hother.unique (located_atFront hquotable hfetch (head_fetch hmethod)) hzero
  · have hfields : Options.fields ('{' :: ((methodField m ++ block) ++ ['}'])) =
        Options.fields ('{' :: (block ++ ['}'])) := by
      rw [List.append_assoc]
      exact fields_methodField m _
    have hunnamed := unnamed_closed h hverb after m window
    rw [← hfields, ← unnamed_closed h' hfetch after m window] at hunnamed
    rw [endpointFor_eq, endpointFor_eq, hunnamed]
    rfl

/-- A method among the payload, a parenthesis that only the text behind the call closes, and a
further call. -/
theorem endpointFor_fetch_nested :
    let payload := "data: \x7b method: 'DELETE', note: '(]' \x7d".toList
    let inside := payload ++ ", 'Headers': \x7b Authorization: `Bearer x` \x7d".toList
    let tail := " + f()).then(g); request.get('/b'); expect(r.status()).toBe(201)".toList
    let source := requestText Method.post.verb "/a".toList inside ++ tail
    let source' := requestText fetchWord "/a".toList (methodField .post ++ inside) ++ tail
    let call : Call := ⟨0, .post, "/a".toList, 12, some 108, '{' :: (inside ++ ['}'])⟩
    let call' : Call :=
      ⟨0, .post, "/a".toList, 13, some 125, '{' :: (methodField .post ++ inside ++ ['}'])⟩
    call ∈ findCalls source ["request".toList] ∧ call' ∈ findCalls source' ["request".toList] ∧
      ∀ labels window,
        endpointFor source' labels window call' = endpointFor source labels window call := by
  intro payload inside tail source source' call call'
  have hclients : Named ["request".toList] := by unfold Named; decide
  have hcall : call ∈ findCalls source ["request".toList] := by
    rw [findCalls, List.mem_mergeSort]
    decide +kernel
  have hcall' : call' ∈ findCalls source' ["request".toList] := by
    rw [findCalls, List.mem_mergeSort]
    decide +kernel
  obtain ⟨_, _, _, hunique, hsame⟩ := endpointFor_fetch hclients (by decide) (by decide) hcall rfl rfl
    (List.cons_ne_nil _ _)
  obtain rfl := hunique call' hcall' rfl
  exact ⟨hcall, hcall', hsame⟩

end Spec
end EndpointManifest
