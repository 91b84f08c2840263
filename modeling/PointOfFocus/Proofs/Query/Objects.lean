import PointOfFocus.Proofs.Query.Change
import PointOfFocus.Proofs.Query.Focus

/-!
# Objects after a verb

A variable is a verb as soon as it is met, while an IRI may be the start of a longer path, so that the parser looks at
the token after it. The objects of a block with one verb are read in the same way after both: what is read is a template
with a hole for the verb (`objects_after_verb`). The one exception is a plus sign. It starts a number, but after an IRI
it is taken for the repetition of a path, and the query is refused.
-/

namespace PointOfFocus.Query

open PointOfFocus.Rdf

/-! ### Queries with one block -/

/-- The token without its place in the text. -/
def Token.bare (t : Token) : Token := { t with start := 0, stop := 0 }

/-- The text consists of the tokens, which are given without their places. -/
def Spells (text : List Char) (ts : List Token) : Prop := ∃ found, tokens text = .ok found ∧ found.map Token.bare = ts

def withoutPlaces : Change where
  token := Token.bare
  term _ t := t
  kind _ := rfl
  text _ _ := rfl
  name _ _ _ := rfl
  focus _ _ := Iff.rfl
  own _ _ _ := rfl
  other _ _ _ _ := rfl

private theorem withoutPlaces_scope (s : Scope) : withoutPlaces.scope s = s := by
  simp only [Change.scope, Change.cursor, withoutPlaces, Option.map_id']
  exact congrArg (fun ps => { s with patterns := ps }) (List.map_id s.patterns)

/-- What a text is read as depends on its tokens only. -/
theorem Spells.toOption_parse {text : List Char} {ts : List Token} (h : Spells text ts) :
    (parse text).toOption = reading ts 0 := by
  obtain ⟨found, htokens, rfl⟩ := h
  have hmap : reading (found.map Token.bare) 0 = (reading found text.length).map withoutPlaces.scope :=
    withoutPlaces.reading_map found text.length rfl
  have hscope : withoutPlaces.scope = id := funext withoutPlaces_scope
  rw [hscope, Option.map_id, id_eq] at hmap
  exact (Query.toOption_parse htokens).trans hmap.symm

/-- The token of a variable. -/
def varToken (name : String) : Token := ⟨.var, "?" ++ name, 0, 0⟩

/-- The token of an IRI. -/
def iriToken (iri : String) : Token := ⟨.iri, "<" ++ iri ++ ">", 0, 0⟩

/-- The tokens of the query that selects everything from one block with the subject `?s`, one verb and its objects. -/
def block (verb : Token) (objects : List Token) : List Token :=
  [⟨.word, "SELECT", 0, 0⟩, ⟨.symbol .star, "*", 0, 0⟩, ⟨.symbol .openBrace, "\x7b", 0, 0⟩, varToken "s", verb]
    ++ objects ++ [⟨.symbol .closeBrace, "\x7d", 0, 0⟩]

/-! ### Up to the verb -/

private theorem bind_congr {α β : Type} {m m' : Parser α} {f : α → Parser β} {s s' : State} (h : m s = m' s') :
    (m >>= f) s = (m' >>= f) s' := by
  rw [bind_apply, bind_apply, h]

/-- What remains of a group after the subject of its first block, given how to read the rest of the block. -/
def groupAfter (n : Nat) (opening : Token) (rest : Parser Unit) : Parser Unit := do
  rest
  if !(← token).endsTriples then fail (.expected "'.' or '\x7d'" (← token))
  elements (group (n + 7)) opening (n + 6)

/-- What remains of a query after the subject of its first block, given how to read the rest of the block. -/
def queryAfter (n : Nat) (opening : Token) (rest : Parser Unit) : Parser Unit := do
  groupAfter n opening rest
  modifiers (n + 8)
  let _ ← expect .eof "end of query"

private theorem queryAfter_congr {n : Nat} {opening : Token} {m m' : Parser Unit} {s s' : State} (h : m s = m' s') :
    queryAfter n opening m s = queryAfter n opening m' s' :=
  bind_congr (bind_congr h)

private theorem queryAfter_error {n : Nat} {opening : Token} {rest : Parser Unit} {s after : State} {e : Error}
    (h : rest s = (.error e, after)) : queryAfter n opening rest s = (.error e, after) := by
  simp only [queryAfter, groupAfter, bind_apply, h]

/-- What remains of a block after its verb, if an object follows. -/
def objectsOfBlock (n : Nat) : Parser Unit := do
  objects (object (n + 6)) (n + 5)
  if ← atSymbol .semicolon then
    skipSemicolons
    if (← token).startsVerb then propertyList (object (n + 6)) (n + 5)

/-- The state in which the subject and perhaps the verb of the first block were read. -/
def inBlock (later : List Token) (last : Token) (predicate : Option Term) : State where
  ahead := later
  last := last
  scope := { current := { subject := some (.var "s"), predicate } }

/-- The triples of a block begin with its subject. -/
private theorem triples_subject {subject verb : Token} {later : List Token} {last : Token} (bound : Nat)
    (hsubject : subject.kind = .var ∧ subject.text = "?s") (hverb : verb.kind = .var ∨ verb.kind = .iri) :
    triples bound { ahead := subject :: verb :: later, last, scope := {} } =
      propertyList (object bound) bound (inBlock (verb :: later) last none) := by
  have hstarts : verb.startsVerb = true := by
    obtain h | h := hverb
    · simp [Token.startsVerb, h]
    · simp [Token.startsVerb, h]
  have hname : dropFirst 1 subject.text = "s" := by
    rw [hsubject.2]
    decide
  simp only [triples, bind_apply, atBlankNode_apply, atSymbol_apply, graphNode, simpleTerm, token_apply, advance_apply,
    pure_apply, collect_apply, State.token, List.headD_cons, List.tail_cons, hsubject.1, hname, hstarts, ↓reduceIte,
    reduceCtorEq, decide_false, Bool.false_and, Bool.false_eq_true, Scope.setSubject]
  rfl

private theorem query_block {select star opening subject verb : Token} (n : Nat) (later : List Token) (last : Token)
    (hselect : select.kind = .word ∧ select.text = "SELECT") (hstar : star.kind = .symbol .star)
    (hopening : opening.kind = .symbol .openBrace) (hsubject : subject.kind = .var ∧ subject.text = "?s")
    (hverb : verb.kind = .var ∨ verb.kind = .iri) :
    query (n + 8) { ahead := select :: star :: opening :: subject :: verb :: later, last, scope := {} } =
      queryAfter n opening (propertyList (object (n + 6)) (n + 6)) (inBlock (verb :: later) last none) := by
  have hwords : ∀ words, select.isKeyword words = words.contains "SELECT" := by
    intro words
    have hupper : Text.upper "SELECT" = "SELECT" := by decide
    simp [Token.isKeyword, hselect, hupper]
  have hbase : select.isKeyword ["BASE"] = false := by rw [hwords]; decide
  have hlabel : select.isKeyword ["PREFIX"] = false := by rw [hwords]; decide
  have hhere : select.isKeyword ["SELECT"] = true := by rw [hwords]; decide
  have hno : ∀ words, opening.isKeyword words = false := isKeyword_of_kind (by simp [hopening])
  have hno' : ∀ words, subject.isKeyword words = false := isKeyword_of_kind (by simp [hsubject.1])
  have hno'' : ∀ words, star.isKeyword words = false := isKeyword_of_kind (by simp [hstar])
  have hgroup : group (n + 8) { ahead := opening :: subject :: verb :: later, last, scope := {} } =
      groupAfter n opening (propertyList (object (n + 6)) (n + 6)) (inBlock (verb :: later) last none) := by
    have helements : elements (group (n + 7)) opening (n + 7) { ahead := subject :: verb :: later, last, scope := {} } =
        groupAfter n opening (triples (n + 6)) { ahead := subject :: verb :: later, last, scope := {} } := by
      simp only [elements, bind_apply, token_apply, State.token, List.headD_cons, hsubject.1, hno', Bool.false_eq_true,
        ↓reduceIte, groupAfter]
    -- up to the verb nothing depends on what follows it
    rw [groupAfter, ← bind_congr (triples_subject (n + 6) hsubject hverb), ← groupAfter, ← helements]
    simp only [group, expectSymbol, expect, bind_apply, token_apply, advance_apply, atKeyword_apply, State.token,
      List.headD_cons, List.tail_cons, hopening, hno', Bool.false_eq_true, ↓reduceIte]
  rw [queryAfter, ← bind_congr hgroup]
  simp only [query, prologue, selectClause, datasets, expectKeyword, skipKeyword, bind_apply, pure_apply, advance_apply,
    atKeyword_apply, atSymbol_apply, State.token, List.headD_cons, List.tail_cons, hbase, hlabel, hhere, hno, hno'',
    hstar, decide_true, Bool.false_eq_true, ↓reduceIte]

/-! ### The verb -/

/-- An IRI is a path of its own before a token that neither repeats nor continues it. -/
private theorem path_iri {s : State} {t : Token} {later : List Token} (bound : Nat) (hahead : s.ahead = t :: later)
    (hkind : t.kind = .iri) (hend : (later.headD s.last).EndsPath) :
    path (bound + 2) s = (.ok (.iri (unwrap 1 t.text)), { s with ahead := later }) := by
  obtain ⟨hrepetition, hslash, hbar⟩ := hend
  simp only [path, pathSequence, separated, pathStep, pathPrimary, bind_apply, pure_apply, token_apply, advance_apply,
    atSymbol_apply, State.token, hahead, List.headD_cons, List.tail_cons, hkind, hrepetition, hslash, hbar,
    reduceCtorEq, decide_false, Bool.false_eq_true, ↓reduceIte]

/-- Before a token that repeats a path, an IRI is refused. -/
private theorem path_repeated {s : State} {t : Token} {later : List Token} (bound : Nat) (hahead : s.ahead = t :: later)
    (hkind : t.kind = .iri) (hrepetition : (later.headD s.last).isRepetition = true) :
    path (bound + 1) s = (.error (.at (later.headD s.last).start .repetition), { s with ahead := later }) := by
  simp only [path, pathSequence, pathStep, pathPrimary, bind_apply, pure_apply, token_apply, advance_apply, fail_apply,
    atSymbol_apply, State.token, hahead, List.headD_cons, List.tail_cons, hkind, hrepetition, reduceCtorEq,
    decide_false, Bool.false_eq_true, ↓reduceIte]

/-- After the verb its objects are read, if there is one. -/
private theorem propertyList_block {verb : Token} {later : List Token} {last : Token} {p : Term} (n : Nat)
    (hverb : Query.verb (n + 5) (inBlock (verb :: later) last none) = (.ok p, inBlock later last none))
    (hobject : (later.headD last).startsObject = true) :
    propertyList (object (n + 6)) (n + 6) (inBlock (verb :: later) last none) =
      objectsOfBlock n (inBlock later last (some p)) := by
  have hlist : objectList (object (n + 6)) (n + 5) p (inBlock later last (some p)) =
      objects (object (n + 6)) (n + 5) (inBlock later last (some p)) := by
    simp only [objectList, bind_apply, token_apply, State.token, inBlock, hobject, ↓reduceIte]
  rw [propertyList, bind_apply, hverb]
  dsimp only
  rw [bind_apply, collect_apply]
  exact bind_congr hlist

/-! ### The hole -/

/-- A term that no verb is read as. -/
def hole : Term := .blank ""

def isHole : Term → Bool
  | .blank label => label = ""
  | _ => false

/-- Puts a verb into the holes. -/
def fill (v : Term) : Change where
  token := id
  term role t := if role = .predicate ∧ isHole t then v else t
  kind _ := rfl
  text _ _ := rfl
  name _ _ _ := if_neg fun h => by cases h.2
  focus _ _ := Iff.rfl
  own _ _ _ := if_neg fun h => by cases h.2
  other role t _ h := by
    refine if_neg fun ⟨hrole, hhole⟩ => ?_
    cases t with
    | blank label => exact h hrole label rfl
    | _ => cases hhole

private theorem fill_inBlock (v : Term) (later : List Token) (last : Token) :
    (fill v).state (inBlock later last (some hole)) = inBlock later last (some v) := by
  simp [Change.state, Change.scope, Change.cursor, inBlock, fill, hole, isHole]

private theorem objectsOfBlock_follows {c : Change} (n : Nat) (s : State) :
    Follows c s (objectsOfBlock n) (objectsOfBlock n) AnyPair := by
  have hobject := object_follows (c := c) (n + 6)
  refine (objects_follows hobject _ s).bind fun _ _ _ _ => .atSymbol (.ite Iff.rfl (fun _ => ?_) fun _ => .pure trivial)
  refine (skipSemicolons_follows _).bind fun _ _ _ _ => .token (.ite (by rw [c.startsVerb]) (fun _ => ?_) fun _ => ?_)
  · exact propertyList_follows hobject _ _
  · exact .pure trivial

private theorem queryAfter_follows {c : Change} (n : Nat) (opening : Token) {rest : Parser Unit}
    (h : ∀ s, Follows c s rest rest AnyPair) (s : State) :
    Follows c s (queryAfter n opening rest) (queryAfter n opening rest) AnyPair := by
  have hgroup : Follows c s (groupAfter n opening rest) (groupAfter n opening rest) AnyPair := by
    refine (h s).bind fun _ _ _ _ => .token (.ite (by rw [c.endsTriples]) (fun _ => .token (.fail_bind _ _))
      fun _ => ?_)
    exact elements_follows (group_follows _) opening opening _ _
  refine hgroup.bind fun _ _ _ _ => (modifiers_follows _ _).bind fun _ _ _ _ => ?_
  exact (expect_follows _ _ _).bind fun _ _ _ _ => .pure trivial

/-- What the objects are read as, with a hole for the verb. -/
def objectTemplate (objects : List Token) : Option Scope :=
  match queryAfter objects.length ⟨.symbol .openBrace, "\x7b", 0, 0⟩ (objectsOfBlock objects.length)
      (inBlock (objects ++ [⟨.symbol .closeBrace, "\x7d", 0, 0⟩]) (.eof 0) (some hole)) with
  | (.ok (), after) => some after.scope
  | (.error _, _) => none

/-- The scope with the verb in its holes. -/
def filled (v : Term) (s : Scope) : Scope := (fill v).scope s

private theorem reading_block {verb : Token} {objects : List Token} {p : Term}
    (hkind : verb.kind = .var ∨ verb.kind = .iri)
    (hverb : ∀ later, propertyList (object (objects.length + 6)) (objects.length + 6)
        (inBlock (verb :: (objects ++ later)) (.eof 0) none) =
      objectsOfBlock objects.length (inBlock (objects ++ later) (.eof 0) (some p))) :
    reading (block verb objects) 0 = (objectTemplate objects).map (filled p) := by
  have hlength : (block verb objects).length + 2 = objects.length + 8 := by simp [block]
  -- From the hole on, the reading of the template is followed by the one with the verb in the hole.
  have hfollows := (queryAfter_follows objects.length ⟨.symbol .openBrace, "\x7b", 0, 0⟩
    (objectsOfBlock_follows (c := fill p) objects.length)
    (inBlock (objects ++ [⟨.symbol .closeBrace, "\x7d", 0, 0⟩]) (.eof 0) (some hole))).run
  rw [fill_inBlock] at hfollows
  unfold reading parseTokens objectTemplate
  rw [hlength]
  simp only [block, List.cons_append, List.nil_append]
  rw [query_block objects.length _ _ ⟨rfl, rfl⟩ rfl rfl ⟨rfl, rfl⟩ hkind, queryAfter_congr (hverb _)]
  split at hfollows
  next a after hrun =>
    obtain ⟨b, hrun', -⟩ := hfollows
    rw [hrun, hrun']
    rfl
  next e after hrun =>
    obtain ⟨e', after', hrun'⟩ := hfollows
    rw [hrun, hrun']
    rfl

/-! ### Objects after a verb -/

private theorem Spells.block_tokens {text : List Char} {verb : Token} {objects : List Token}
    (h : Spells text (block verb objects)) :
    ∃ select star opening subject found later,
      tokens text = .ok (select :: star :: opening :: subject :: found :: later) ∧
      (select.kind = .word ∧ select.text = "SELECT") ∧ star.kind = .symbol .star ∧ opening.kind = .symbol .openBrace ∧
      (subject.kind = .var ∧ subject.text = "?s") ∧ found.bare = verb ∧
      later.map Token.bare = objects ++ [⟨.symbol .closeBrace, "\x7d", 0, 0⟩] := by
  obtain ⟨ts, htokens, hbare⟩ := h
  simp only [block, List.cons_append, List.nil_append, List.map_eq_cons_iff] at hbare
  obtain ⟨select, _, rfl, hselect, star, _, rfl, hstar, opening, _, rfl, hopening, subject, _, rfl, hsubject, found,
    later, rfl, hfound, hlater⟩ := hbare
  have hfields : ∀ {t : Token} {kind : Kind} {text : String}, t.bare = ⟨kind, text, 0, 0⟩ →
      t.kind = kind ∧ t.text = text := by
    rintro ⟨kind, text, start, stop⟩ _ _ ⟨⟩
    exact ⟨rfl, rfl⟩
  exact ⟨select, star, opening, subject, found, later, htokens, hfields hselect, (hfields hstar).1,
    (hfields hopening).1, hfields hsubject, hfound, hlater⟩

/-- An IRI before a plus sign is refused. -/
private theorem parse_repeated {text : List Char} {iri : String} {first : Token} {rest : List Token}
    (h : Spells text (block (iriToken iri) (first :: rest))) (hplus : first.kind = .symbol .plus) :
    ∃ offset, parse text = .error (.at offset .repetition) := by
  obtain ⟨select, star, opening, subject, verb, later, htokens, hselect, hstar, hopening, hsubject, hverb, hlater⟩ :=
    h.block_tokens
  rw [List.cons_append, List.map_eq_cons_iff] at hlater
  obtain ⟨plus, later, rfl, hfirst, -⟩ := hlater
  have hkind : verb.kind = .iri := congrArg Token.kind hverb
  have hrepetition : plus.isRepetition = true := by
    have hsame : plus.kind = .symbol .plus := (congrArg Token.kind hfirst).trans hplus
    simp [Token.isRepetition, hsame]
  refine ⟨plus.start, ?_⟩
  have hpath := path_repeated (later.length + 4)
    (s := inBlock (verb :: plus :: later) (.eof text.length) none) rfl hkind hrepetition
  have hlist : propertyList (object (later.length + 6)) (later.length + 6)
      (inBlock (verb :: plus :: later) (.eof text.length) none) =
      (.error (.at plus.start .repetition), inBlock (plus :: later) (.eof text.length) none) := by
    -- the sign is not the object of the verb but a mark behind its path
    have hread : Query.verb (later.length + 5) (inBlock (verb :: plus :: later) (.eof text.length) none) =
        path (later.length + 5) (inBlock (verb :: plus :: later) (.eof text.length) none) := by
      simp only [Query.verb, bind_apply, token_apply, State.token, inBlock, List.headD_cons, hkind]
    rw [propertyList, bind_apply, hread, hpath]
    rfl
  have hquery :=
    query_block later.length (plus :: later) (.eof text.length) hselect hstar hopening hsubject (.inr hkind)
  rw [queryAfter_error hlist] at hquery
  simp only [parse, parseInto, htokens, parseTokens, List.length_cons, hquery]
  rfl

/-- Tokens of which the first one starts an object are read as objects in the same way whatever the verb is: there is
one template for all variables and all IRIs. But after an IRI the first token must not be a plus sign. -/
theorem objects_after_verb (first : Token) (rest : List Token) (hfirst : first.startsObject = true) :
    ∃ template : Option Scope,
      (∀ name text, Spells text (block (varToken name) (first :: rest)) →
        (parse text).toOption = template.map (filled (.var name))) ∧
      ∀ iri text, Spells text (block (iriToken iri) (first :: rest)) →
        if first.kind = .symbol .plus then ∃ offset, parse text = .error (.at offset .repetition)
        else (parse text).toOption = template.map (filled (.iri iri)) := by
  refine ⟨objectTemplate (first :: rest), fun name text htext => ?_, fun iri text htext => ?_⟩
  · rw [htext.toOption_parse]
    refine reading_block (.inl rfl) fun later => propertyList_block _ ?_ hfirst
    have hname : dropFirst 1 ("?" ++ name) = name := dropFirst_mark '?' name
    simp only [Query.verb, varToken, inBlock, bind_apply, token_apply, advance_apply, pure_apply, State.token,
      List.headD_cons, List.tail_cons, hname]
  · split
    next hplus => exact parse_repeated htext hplus
    next hplus =>
      rw [htext.toOption_parse]
      refine reading_block (.inr rfl) fun later => propertyList_block _ ?_ hfirst
      have hpath := path_iri (s := inBlock (iriToken iri :: (first :: rest ++ later)) (.eof 0) none)
        ((first :: rest).length + 3) rfl rfl (Token.StartsNode.endsPath ⟨hfirst, hplus⟩)
      rw [show unwrap 1 (iriToken iri).text = iri from unwrap_brackets iri] at hpath
      exact hpath

private theorem spells_of_tokens {text : List Char} {ts : List Token}
    (h : (tokens text).toOption.map (·.map Token.bare) = some ts) : Spells text ts := exists_ok_of_map h

/-- The sign of a number may be a minus sign after both verbs, and a plus sign only after the variable. -/
theorem objects_after_verb_signed :
    (∃ template : Option Scope,
      (parse "SELECT * \x7b ?s ?p -5 \x7d".toList).toOption = template.map (filled (.var "p")) ∧
      (parse "SELECT * \x7b ?s <p> -5 \x7d".toList).toOption = template.map (filled (.iri "p"))) ∧
    (parse "SELECT * \x7b ?s ?p -5 \x7d".toList).toOption.isSome ∧
    (parse "SELECT * \x7b ?s ?p +5 \x7d".toList).toOption.isSome ∧
    ∃ offset, parse "SELECT * \x7b ?s <p> +5 \x7d".toList = .error (.at offset .repetition) := by
  refine ⟨?_, by decide +kernel, by decide +kernel, ?_⟩
  · obtain ⟨template, hvar, hiri⟩ := objects_after_verb ⟨.symbol .minus, "-", 0, 0⟩ [⟨.integer, "5", 0, 0⟩] rfl
    exact ⟨template, hvar "p" _ (spells_of_tokens (by decide +kernel)),
      hiri "p" _ (spells_of_tokens (by decide +kernel))⟩
  · obtain ⟨template, -, hiri⟩ := objects_after_verb ⟨.symbol .plus, "+", 0, 0⟩ [⟨.integer, "5", 0, 0⟩] rfl
    exact hiri "p" _ (spells_of_tokens (by decide +kernel))

end PointOfFocus.Query
