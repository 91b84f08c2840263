import PointOfFocus.Proofs.Query.StoppedText

/-!
# Lines of patterns that are not read

The line of a pattern of a query stands for some pattern, or the parser stops in it (`line_cases`). It stops where the
text of a literal leaves a quote over, and at an inverse right inside an inverse.
-/

namespace PointOfFocus.Query

open PointOfFocus.Rdf
open PointOfFocus.Text
open PointOfFocus.Template (patternLine render_parts)
open Phrase

/-! ### Groups whose first subject is read -/

section

variable {a : Atom} {qs : List Piece}

/-- The parser stops in a group where it stops after its first subject. -/
private theorem stopsGroup_of_afterSubject (hfits : a.Fits noLabels)
    (hfirst : StartsWith (fun t => a.IsPlainText → t.EndsText) qs)
    (h : ∀ bound, qs.length + 1 < bound → Refuses noLabels (afterSubject bound) qs) : StopsGroup (a.pieces ++ qs) := by
  refine stopsGroup_of_triples (fun bound hbound => ?_) ((Atom.startsNode a).append qs)
  rw [List.length_append] at hbound
  exact triples_refuses_afterSubject hfits hfirst (h bound (by omega))

/-- A group is not read if no predicate comes after its first subject. -/
theorem stopsGroup_of_noVerb (hfits : a.Fits noLabels)
    (hfirst : StartsWith (fun t => t.EndsText ∧ t.startsVerb = false) qs) : StopsGroup (a.pieces ++ qs) :=
  stopsGroup_of_afterSubject hfits (hfirst.mono fun _ h _ => h.1) fun _ _ =>
    afterSubject_refuses_noVerb (hfirst.mono fun _ h => h.2)

end

/-! ### Quotes that are left over -/

/-- A line that starts with a text which leaves a quote over is not read. -/
private theorem unreadable_of_subject {l : Literal} (h : LiteralShape l) (hleaves : LeavesQuote l.lexical)
    (more : String) : Unreadable (patternLine (l.render ++ more)) := by
  obtain ⟨word, hrender, rfl | ⟨⟨-, hgood⟩, -⟩⟩ := render_eq_quoted h
  · obtain ⟨cs, body, -, hwritten, hbody⟩ := quotedLexical_leftover hleaves
    have htext : patternLine (l.render ++ more) = "  " ++ String.ofList (longQuoted body) ++
        ("\"" ++ (suffixText l.qualifier ++ more ++ "\n")) := by
      simp [patternLine, hrender, hbody, String.ext_iff]
    have hfits : (Atom.text (String.ofList (longQuoted body)) (String.ofList cs) .none).Fits noLabels :=
      ⟨quotedText_longQuoted hwritten.unescape, trivial⟩
    have hwrites : Writes Anything ("  " ++ String.ofList (longQuoted body))
        (Atom.text (String.ofList (longQuoted body)) (String.ofList cs) .none).pieces := by
      refine writes_indent.before (writes_token (by simp [longQuoted]) (fun rest _ => ?_) (by simp) fun _ _ => ⟨rfl, rfl⟩)
      rw [String.toList_ofList]
      exact lexeme?_longQuoted hwritten rest
    rw [htext]
    refine unreadable_of_next hwrites (fun _ => trivial) (by simp) fun rest lexeme n hlexeme => ?_
    rw [String.toList_append, List.append_assoc, show "\"".toList = ['"'] from rfl, List.singleton_append, lexeme?_quote,
      Option.map_eq_some_iff] at hlexeme
    obtain ⟨_, -, hfound⟩ := hlexeme
    refine ⟨.string, (Prod.mk.inj hfound).1.symm, by decide, by simp, by simp, fun text => ?_⟩
    exact stopsGroup_of_noVerb hfits (startsWith_exact fun t ht => by simp [Token.EndsText, Token.startsVerb, ht])
  · exact absurd hleaves hgood

/-- A line that ends with a text which leaves a quote over is not read. -/
private theorem unreadable_of_object {l : Literal} (h : LiteralShape l) (hleaves : LeavesQuote l.lexical)
    {start : String}
    {ps : List Piece} (hstart : Writes Anything start ps) : Unreadable (start ++ (l.render ++ (" " ++ ("." ++ "\n")))) := by
  intro rest offset all hall
  obtain ⟨word, hrender, rfl | ⟨⟨-, hgood⟩, -⟩⟩ := render_eq_quoted h
  · obtain ⟨cs, body, -, hwritten, hbody⟩ := quotedLexical_leftover hleaves
    rw [String.toList_append, List.append_assoc] at hall
    obtain ⟨-, us, -, -, -, hlater⟩ := hstart.tokens_before trivial hall
    have htext : (l.render ++ (" " ++ ("." ++ "\n"))).toList ++ rest =
        longQuoted body ++ '"' :: (((suffixText l.qualifier).toList ++ [' ', '.']) ++ '\n' :: rest) := by
      simp [hrender, hbody]
    have hquote : '"' ∉ (suffixText l.qualifier).toList ++ [' ', '.'] := by
      simp [quote_notMem_suffix h]
    rw [htext, tokensFrom_cut (by simp [longQuoted]) (lexeme?_longQuoted hwritten _), tokensFrom,
      lexeme?_loneQuote hquote (.inr ⟨rest, rfl⟩)] at hlater
    cases hlater
  · exact absurd hleaves hgood

/-! ### The start of a path -/

section

variable {t : Term} {text : String}

/-- A part of a path starts with an IRI, a parenthesis or a caret. -/
private theorem PathShape.part_cases (h : PathShape t) (hrender : t.render = .ok text) :
    (∃ iri, IsIri iri ∧ t.parenthesize text = "<" ++ iri ++ ">") ∨ (∃ more, t.parenthesize text = "(" ++ more) ∨
    ∃ u inner, PathShape u ∧ u.render = .ok inner ∧ t.parenthesize text = "^" ++ u.parenthesize inner := by
  cases h with
  | @iri iri h =>
    rw [Term.render, h.renderIri] at hrender
    obtain rfl := Except.ok.inj hrender
    exact .inl ⟨iri, h, rfl⟩
  | @sequence ts hlength _ _ =>
    have hcompound : (Term.sequence ts).isCompound = true := decide_eq_true hlength
    exact .inr (.inl ⟨text ++ ")", by rw [Term.parenthesize, if_pos hcompound, String.append_assoc]⟩)
  | @alternative ts hlength _ _ =>
    have hcompound : (Term.alternative ts).isCompound = true := decide_eq_true hlength
    exact .inr (.inl ⟨text ++ ")", by rw [Term.parenthesize, if_pos hcompound, String.append_assoc]⟩)
  | @inverse u h =>
    obtain ⟨inner, hinner⟩ := h.writable
    rw [Term.render, hinner] at hrender
    obtain rfl := Except.ok.inj hrender
    exact .inr (.inr ⟨u, inner, h, hinner, rfl⟩)

private theorem PathShape.part_start (h : PathShape t) (hrender : t.render = .ok text) :
    ∃ c cs, (t.parenthesize text).toList = c :: cs ∧ c ∈ ['<', '(', '^'] := by
  rcases h.part_cases hrender with ⟨iri, -, hpart⟩ | ⟨more, hpart⟩ | ⟨u, inner, -, -, hpart⟩
  · exact ⟨'<', iri.toList ++ ['>'], by simp [hpart], by simp⟩
  · exact ⟨'(', more.toList, by simp [hpart], by simp⟩
  · exact ⟨'^', (u.parenthesize inner).toList, by simp [hpart], by simp⟩

/-- The written form of several parts starts with the first part and the sign between them. -/
private theorem parts_start {ts : List Term} (hlength : 2 ≤ ts.length) (hparts : ∀ u ∈ ts, PathShape u) {mark : String}
    (h : (do return mark.intercalate (← Term.renderParts ts)) = .ok text) : ∃ u part more, PathShape u ∧
      u.render = .ok part ∧ text = u.parenthesize part ++ (mark ++ more) ∧ ∃ c ∈ more.toList.head?, c ≠ '|' := by
  obtain ⟨u, v, us, rfl⟩ := exists_cons_cons hlength
  obtain ⟨hu, hrest⟩ := List.forall_mem_cons.1 hparts
  obtain ⟨hv, hus⟩ := List.forall_mem_cons.1 hrest
  obtain ⟨part, hpart⟩ := hu.writable
  obtain ⟨next, hnext⟩ := hv.writable
  obtain ⟨others, hothers⟩ := renderParts_of_forall fun w hw => (hus w hw).writable
  obtain ⟨c, cs, hstart, hc⟩ := hv.part_start hnext
  have hbar : ∀ d ∈ ['<', '(', '^'], d ≠ '|' := by decide
  rw [Term.renderParts, Term.renderParts, hpart, hnext, hothers] at h
  obtain rfl := Except.ok.inj h
  refine ⟨u, part, mark.intercalate (v.parenthesize next :: others), hu, hpart, ?_, ?_⟩
  · rw [String.intercalate_cons_of_ne_nil (by simp), String.append_assoc]
  · refine ⟨c, ?_, hbar c hc⟩
    rcases eq_or_ne others [] with rfl | hothers
    · rw [String.intercalate_singleton, hstart]
      rfl
    · rw [String.intercalate_cons_of_ne_nil hothers, String.append_assoc, String.toList_append, hstart]
      rfl

/-- A path is a part of its own, or it starts with a part and a sign. -/
private theorem PathShape.whole_cases (h : PathShape t) (hrender : t.render = .ok text) :
    text = t.parenthesize text ∨ ∃ x ∈ [Symbol.slash, .bar], ∃ u part more, PathShape u ∧ u.render = .ok part ∧
      text = u.parenthesize part ++ (x.text ++ more) ∧ ∃ c ∈ more.toList.head?, c ≠ '|' := by
  cases h with
  | iri | inverse => exact .inl rfl
  | sequence hlength hparts _ =>
    rw [Term.render] at hrender
    exact .inr ⟨.slash, by simp, parts_start hlength hparts hrender⟩
  | alternative hlength hparts _ =>
    rw [Term.render] at hrender
    exact .inr ⟨.bar, by simp, parts_start hlength hparts hrender⟩

/-- A path starts like a part of a path. -/
theorem PathShape.start (h : PathShape t) (hrender : t.render = .ok text) :
    ∃ c ∈ ['<', '(', '^'], text.toList.head? = some c := by
  rcases h.whole_cases hrender with hpart | ⟨x, -, u, part, more, hu, hupart, htext, -⟩
  · obtain ⟨c, cs, hstart, hc⟩ := h.part_start hrender
    rw [← hpart] at hstart
    exact ⟨c, hc, by rw [hstart]; rfl⟩
  · obtain ⟨c, cs, hstart, hc⟩ := hu.part_start hupart
    exact ⟨c, hc, by rw [htext, String.toList_append, hstart]; rfl⟩

/-- What comes after two carets at the start of a part of a path. -/
private theorem PathShape.part_marked (h : PathShape t) (hrender : t.render = .ok text) (more : String) :
    (∃ kind n, lexeme? (t.parenthesize text ++ more).toList = some (.token kind, n) ∧ kind ≠ .language ∧
      kind ≠ .datatypeMark) ∨
    (∃ c ∈ ['(', '^'], ∃ rest, t.parenthesize text = "^^" ++ (String.singleton c ++ rest)) ∨
    ∃ iri, IsIri iri ∧ t.parenthesize text = "^^" ++ ("<" ++ iri ++ ">") := by
  -- A single caret is a token of its own; two of them are the mark of a datatype.
  have hcaret (start : String) {c : Char} {cs : List Char} (hstart : start.toList = c :: cs) (hc : c ≠ '^') :
      ∃ kind n, lexeme? ("^" ++ start ++ more).toList = some (.token kind, n) ∧ kind ≠ .language ∧ kind ≠ .datatypeMark := by
    refine ⟨.symbol .caret, 1, ?_, by simp, by simp⟩
    rw [String.append_assoc, String.toList_append, String.toList_append, hstart]
    exact lexeme?_caret (by simpa using hc)
  have hmark : "^" ++ "^" = "^^" := by decide
  rcases h.part_cases hrender with ⟨iri, hiri, hpart⟩ | ⟨rest, hpart⟩ | ⟨u, inner, hu, hinner, hpart⟩
  · refine .inl ⟨.iri, ("<" ++ iri ++ ">").toList.length, ?_, by simp, by simp⟩
    rw [hpart, String.toList_append]
    exact lexeme?_iri hiri more.toList
  · refine .inl ⟨.symbol .openParen, 1, ?_, by simp, by simp⟩
    rw [hpart, String.append_assoc, String.toList_append]
    exact lexeme?_plain (x := .openParen) (by decide) _
  · rw [hpart]
    rcases hu.part_cases hinner with ⟨iri, hiri, hpart⟩ | ⟨rest, hpart⟩ | ⟨v, core, hv, hcore, hpart⟩
    · have hstart : ("<" ++ iri ++ ">").toList = '<' :: (iri.toList ++ ['>']) := by simp
      rw [hpart]
      exact .inl (hcaret _ hstart (by decide))
    · have hstart : ("(" ++ rest).toList = '(' :: rest.toList := by simp
      rw [hpart]
      exact .inl (hcaret _ hstart (by decide))
    · rw [hpart, ← String.append_assoc, hmark]
      rcases hv.part_cases hcore with ⟨iri, hiri, hpart⟩ | ⟨rest, hpart⟩ | ⟨w, last, -, -, hpart⟩
      · exact .inr (.inr ⟨iri, hiri, by rw [hpart]⟩)
      · exact .inr (.inl ⟨'(', by simp, rest, by rw [hpart]; rfl⟩)
      · exact .inr (.inl ⟨'^', by simp, w.parenthesize last, by rw [hpart]; rfl⟩)

/-- What comes after two carets at the start of a path. -/
private theorem PathShape.marked_cases (h : PathShape t) (hrender : t.render = .ok text) :
    (∃ kind n, lexeme? text.toList = some (.token kind, n) ∧ kind ≠ .language ∧ kind ≠ .datatypeMark) ∨
    (∃ c ∈ ['(', '^'], ∃ rest, text = "^^" ++ (String.singleton c ++ rest)) ∨
    ∃ iri, IsIri iri ∧ (text = "^^" ++ ("<" ++ iri ++ ">") ∨
      ∃ x ∈ [Symbol.slash, .bar], ∃ rest, text = "^^" ++ ("<" ++ iri ++ ">") ++ (x.text ++ rest) ∧
        ∃ c ∈ rest.toList.head?, c ≠ '|') := by
  rcases h.whole_cases hrender with hpart | ⟨x, hx, u, part, rest, hu, hpart, hwhole, hrest⟩
  · rcases h.part_marked hrender "" with ⟨kind, n, hlexeme, hkind⟩ | ⟨c, hc, rest, hstart⟩ | ⟨iri, hiri, hstart⟩
    · rw [String.append_empty, ← hpart] at hlexeme
      exact .inl ⟨kind, n, hlexeme, hkind⟩
    · exact .inr (.inl ⟨c, hc, rest, hpart.trans hstart⟩)
    · exact .inr (.inr ⟨iri, hiri, .inl (hpart.trans hstart)⟩)
  · rcases hu.part_marked hpart (x.text ++ rest) with ⟨kind, n, hlexeme, hkind⟩ | ⟨c, hc, more, hstart⟩ |
      ⟨iri, hiri, hstart⟩
    · rw [← hwhole] at hlexeme
      exact .inl ⟨kind, n, hlexeme, hkind⟩
    · exact .inr (.inl ⟨c, hc, more ++ (x.text ++ rest), by rw [hwhole, hstart]; simp only [String.append_assoc]⟩)
    · exact .inr (.inr ⟨iri, hiri, .inr ⟨x, hx, rest, by rw [hwhole, hstart], hrest⟩⟩)

end

/-! ### The first and the last token of a text -/

/-- All tokens of a piece are of one kind. -/
private theorem kind_eq_of_matches {p : Piece} {t u : Token} (ht : p.Matches t) (hu : p.Matches u) :
    t.kind = u.kind := by
  cases p <;> exact ht.1.trans hu.1.symm

/-- The first token of a piece of text shows what it starts with. -/
private theorem Writes.startsWith {text : String} {ps : List Piece} (h : Writes Anything text ps) {kind : Kind}
    {n : Nat} (hlexeme : lexeme? text.toList = some (.token kind, n)) {Start : Token → Prop}
    (hstart : ∀ t : Token, t.kind = kind → Start t) : StartsWith Start ps := by
  obtain ⟨ts, htokens, hts, -⟩ := h.yields 0
  obtain ⟨t, us, rfl, rfl, -⟩ := tokensFrom_head hlexeme htokens
  obtain ⟨p, qs, hp, -, rfl⟩ := List.forall₂_cons_right_iff.1 hts
  exact ⟨p, qs, rfl, fun u hu => hstart u (kind_eq_of_matches hu hp)⟩

private theorem isSettled_of_last {ps : List Piece} {kind : Kind} {text : String} {ts : List Token}
    (h : List.Forall₂ Piece.Matches (ps ++ [.exact kind text]) ts) (hkind : kind ∉ hintKinds)
    (hslash : kind ≠ .symbol .slash) : IsSettled ts.reverse := by
  have hreverse := List.rel_reverse h
  rw [List.reverse_append, List.reverse_singleton, List.singleton_append, List.forall₂_cons_left_iff] at hreverse
  obtain ⟨t, rest, ht, -, hts⟩ := hreverse
  refine ⟨t, rest, hts, ?_, fun h => absurd h ?_⟩
  · rwa [ht.1]
  · rwa [ht.1]

/-- A line is not read if the parser stops at its tokens. -/
private theorem unreadable_of_line {line : String} {ps : List Piece} (h : Writes Anything line (ps ++ [symbol .dot]))
    (hstops : StopsGroup (ps ++ [symbol .dot])) : Unreadable line := by
  have hunreadable : Unreadable (line ++ "") :=
    unreadable_of_writes h (fun _ => trivial) (fun ts hts => isSettled_of_last hts (by decide) (by simp)) hstops
  rwa [String.append_empty] at hunreadable

/-! ### Texts before two carets -/

private theorem datatypeIri_fails {s : State} (h : s.token.kind ≠ .iri ∧ s.token.kind ≠ .prefixedName) :
    datatypeIri s = (.error (.at s.token.start .missingDatatype), s) := by
  simp only [datatypeIri, bind_apply, token_apply]
  cases hkind : s.token.kind with
  | iri => exact absurd hkind h.1
  | prefixedName => exact absurd hkind h.2
  | _ => rfl

/-- After a text the mark of a datatype is followed by its name. -/
private theorem simpleTerm_refuses_mark {labels : Labels} (role : Role) (written text : String) {kind : Kind}
    (hkind : kind ≠ .iri ∧ kind ≠ .prefixedName) : Refuses labels (simpleTerm role)
      [.exact .string written, .exact .datatypeMark "^^", .exact kind text] := by
  intro s rest _ hahead
  obtain ⟨t, _, hts, ⟨ht, -⟩, u, _, rfl, ⟨hu, -⟩, v, later, rfl, ⟨hv, -⟩, -⟩ := hahead
  have hliteral : ∃ e after, textLiteral s = (.error e, after) := by
    simp only [textLiteral, bind_apply, advance_apply, token_of_ahead hts, hts, List.tail_cons]
    cases quotedText t.text with
    | error e => exact ⟨_, _, rfl⟩
    | ok lexical =>
      have hname := datatypeIri_fails (s := { s with ahead := v :: later }) (by rwa [State.token, List.headD_cons, hv])
      refine ⟨.at v.start .missingDatatype, { s with ahead := v :: later }, ?_⟩
      simp only [bind_apply, token_apply, State.token, List.headD_cons, hu, advance_apply, List.tail_cons, hname]
  obtain ⟨e, after, hliteral⟩ := hliteral
  refine ⟨e, after, ?_⟩
  simp only [simpleTerm, bind_apply, token_apply, token_of_ahead hts, ht, hliteral]

/-- A line is not read where a text stands before two carets and no name comes after them. -/
private theorem unreadable_of_mark {start written : String} (hstart : Writes Delimited start [.exact .string written])
    {c : Char} (hc : c ∈ ['(', '^']) (rest : String) :
    Unreadable ("  " ++ (start ++ (" " ++ "^^")) ++ (String.singleton c ++ rest)) := by
  have hlexeme (rest : List Char) : ∃ kind n, lexeme? (c :: rest) = some (.token kind, n) ∧
      kind ∈ [.symbol .openParen, .symbol .caret, .datatypeMark] := by
    simp only [List.mem_cons, List.not_mem_nil, or_false] at hc
    rcases hc with rfl | rfl
    · exact ⟨_, _, lexeme?_plain (x := .openParen) (by decide) rest, by decide⟩
    · by_cases hcaret : rest.head? = some '^'
      · obtain ⟨cs, rfl⟩ := List.head?_eq_some_iff.1 hcaret
        exact ⟨_, _, lexeme?_mark cs, by decide⟩
      · exact ⟨_, _, lexeme?_caret hcaret, by decide⟩
  have hwrites := writes_indent.before (hstart.beforeDelimiter (d := ' ') (writes_space.before writes_mark) rfl (by decide))
  refine unreadable_of_next hwrites (fun _ => trivial) (by simp) fun more lexeme n hfound => ?_
  obtain ⟨kind, m, hkind, hmem⟩ := hlexeme (rest.toList ++ more)
  have htext : (String.singleton c ++ rest).toList ++ more = c :: (rest.toList ++ more) := by simp
  rw [htext, hkind] at hfound
  obtain ⟨rfl, -⟩ := Prod.mk.inj (Option.some.inj hfound)
  have hother : ∀ kind ∈ [Kind.symbol .openParen, .symbol .caret, .datatypeMark], kind ∉ hintKinds ∧
      kind ≠ .symbol .slash ∧ (kind ≠ .iri ∧ kind ≠ .prefixedName) := by decide
  obtain ⟨hhint, hslash, hname⟩ := hother kind hmem
  refine ⟨kind, rfl, hhint, hslash, ?_, fun text => ?_⟩
  · rintro hint rfl
    simp at hmem
  · exact stopsGroup_of_triples (fun bound _ => triples_refuses_subject (simpleTerm_refuses_mark .subject _ _ hname)
      (startsWith_exact fun t ht => by simp [Token.OpensNothing, ht]))
      (startsWith_exact fun t ht => ⟨by simp [Token.startsObject, ht], by simp [ht]⟩)

/-- A single term is a predicate, or it is none. -/
private theorem Atom.verb_cases {labels : Labels} (c : Atom) (hfits : c.Fits labels) :
    (∃ v : Verb, v.Fits labels ∧ v.pieces = c.pieces) ∨
      StartsWith (fun t => t.EndsText ∧ t.startsVerb = false) c.pieces := by
  have hexact {kind : Kind} {text : String} {ps : List Piece} (hkind : ∀ t : Token, t.kind = kind →
      t.EndsText ∧ t.startsVerb = false) : StartsWith (fun t => t.EndsText ∧ t.startsVerb = false) (.exact kind text :: ps) :=
    startsWith_exact hkind
  cases c with
  | focus hint => exact .inl ⟨.focus hint, hfits.1, rfl⟩
  | var mark x => exact .inl ⟨.var mark x, trivial, rfl⟩
  | iri name =>
    refine .inl ⟨.along (.last (.last (.name false name))), ?_, ?_⟩
    · simp only [Verb.Fits, Path.Fits, Steps.Fits, Step.Fits]
      exact hfits
    · simp [Verb.pieces, Path.pieces, Steps.pieces, Step.pieces, caretPieces, Atom.pieces]
  | blank label => exact .inr (hexact fun t ht => by simp [Token.EndsText, Token.startsVerb, ht])
  | text written lexical suffix => exact .inr (hexact fun t ht => by simp [Token.EndsText, Token.startsVerb, ht])
  | number negative numeral digits =>
    cases negative with
    | true => exact .inr (hexact fun t ht => by simp [Token.EndsText, Token.startsVerb, ht])
    | false => cases numeral <;> exact .inr (hexact fun t ht => by simp [Token.EndsText, Token.startsVerb, ht, Numeral.kind])
  | truth value =>
    refine .inr ⟨_, _, rfl, fun t ht => ?_⟩
    -- the words for truth values are longer than the one that is a predicate
    have hword : t.text ≠ "a" := by
      intro htext
      have hsame := ht.2
      rw [htext] at hsame
      cases value <;> exact absurd hsame (by decide)
    simp [Token.EndsText, Token.startsVerb, ht.1, hword]

/-- A line of two terms is read only if the second one is the point of focus, which needs no object. -/
private theorem two_terms_cases {a c : Atom} (ha : a.Fits noLabels) (hc : c.Fits noLabels) {line : String}
    (hline : Writes Anything line (a.pieces ++ c.pieces ++ [symbol .dot])) :
    (∃ p, LineWritten line p) ∨ Unreadable line := by
  have hstops (h : StopsGroup (a.pieces ++ (c.pieces ++ [symbol .dot]))) : Unreadable line :=
    unreadable_of_line hline (by rwa [List.append_assoc])
  rcases Atom.verb_cases c hc with ⟨v, hfits, hpieces⟩ | hnoVerb
  · rw [← hpieces] at hline hstops
    cases hfocus : (v.term noLabels).isFocus with
    | true =>
      have hterm : v.term noLabels = .focus := by
        unfold Term.isFocus at hfocus
        split at hfocus
        next hvar => rw [hvar, of_decide_eq_true hfocus]; rfl
        · cases hfocus
      -- only the point of focus needs no object
      refine .inl ⟨{ subject := a.term noLabels, predicate := .focus, object := .filler },
        ⟨.atom a, some (.last v [] 0)⟩, fun n => ?_, ⟨?_, ?_, ?_⟩, ?_⟩
      · simp [Block.reading, Node.reading, Properties.reading, verbReading, hterm]
      · rwa [Node.Fits]
      · rintro _ ⟨rfl⟩
        rw [Properties.Fits]
        exact ⟨hfits, by rw [nodesFit]; trivial, fun _ => hterm⟩
      · simp
      · simpa [Block.pieces, Node.pieces, Properties.pieces, objectPieces, semicolonPieces] using hline
    | false =>
      refine .inr (hstops (stopsGroup_of_afterSubject ha ?_ fun bound hbound => ?_))
      · exact ((Verb.starts v).append _).mono fun t ht _ => endsText_of_startsVerb ht
      · rw [List.length_append] at hbound
        refine afterSubject_refuses_object hfits hfocus (by omega) (startsWith_exact fun t ht => ?_)
        exact ⟨by simp [Token.EndsPath, Token.isRepetition, ht], by simp [Token.startsObject, Token.isTruth, ht]⟩
  · exact .inr (hstops (stopsGroup_of_noVerb ha (hnoVerb.append _)))

/-- A text takes up the IRI after two carets as its datatype. -/
private theorem writes_typed {start written iri : String} (hstart : Writes Delimited start [.exact .string written])
    (hiri : IsIri iri) (lexical : String) : Writes Anything (start ++ (" " ++ ("^^" ++ ("<" ++ iri ++ ">"))))
      (Atom.text written lexical (.datatype (.full iri))).pieces := by
  exact hstart.beforeDelimiter (d := ' ') (writes_space.before (writes_mark.before (writes_iri hiri))) (by simp) (by decide)

/-- A line is not read where a text with a datatype stands before a sign between the parts of a path. -/
private theorem unreadable_of_sign {start written lexical iri : String} (hquoted : quotedText written = .ok lexical)
    (hstart : Writes Delimited start [.exact .string written]) (hiri : IsIri iri) {x : Symbol} (hx : x ∈ [Symbol.slash, .bar])
    {rest : String} (hrest : ∃ c ∈ rest.toList.head?, c ≠ '|') :
    Unreadable ("  " ++ (start ++ (" " ++ ("^^" ++ ("<" ++ iri ++ ">")))) ++ x.text ++ rest) := by
  have hfits : (Atom.text written lexical (.datatype (.full iri))).Fits noLabels := ⟨hquoted, trivial⟩
  have hnoVerb : ∀ x ∈ [Symbol.slash, .bar], x ≠ .caret ∧ x ≠ .openParen ∧ x ≠ .bang := by decide
  have hsign : Writes (fun rest => rest.head? ≠ some '|') x.text [symbol x] := by
    simp only [List.mem_cons, List.not_mem_nil, or_false] at hx
    rcases hx with rfl | rfl
    · exact writes_slash.mono fun _ _ => trivial
    · exact writes_bar
  have hwrites := (writes_indent.before (writes_typed hstart hiri lexical)).before hsign
  refine unreadable_of_writes hwrites (fun more => ?_) (fun ts hts => ?_) ?_
  · obtain ⟨c, hhead, hc⟩ := hrest
    obtain ⟨cs, hcs⟩ := List.head?_eq_some_iff.1 hhead
    simpa [hcs] using hc
  · obtain ⟨t, _, -, hmark, rfl⟩ := List.forall₂_cons_left_iff.1 hts
    obtain ⟨u, _, -, hname, rfl⟩ := List.forall₂_cons_left_iff.1 hmark
    obtain ⟨v, _, hv, hlast, rfl⟩ := List.forall₂_cons_left_iff.1 hname
    obtain ⟨w, _, hw, hnil, rfl⟩ := List.forall₂_cons_left_iff.1 hlast
    obtain rfl := List.forall₂_nil_left_iff.1 hnil
    refine ⟨w, [v, u, t], rfl, ?_, fun _ => ⟨v, rfl, ?_⟩⟩
    · simp [hw.1, hintKinds]
    · simp [hv.1]
  · -- the typed text is the subject, and neither sign starts a predicate
    exact stopsGroup_of_noVerb hfits (startsWith_exact fun t ht => by
      simp [Token.EndsText, Token.startsVerb, ht, hnoVerb x hx])

/-! ### All lines -/

/-- The parser stops after a subject where the path that comes next is not read. -/
private theorem stopsGroup_of_path {a : Atom} (hfits : a.Fits noLabels) {qs : List Piece} (os : List Piece)
    (hfirst : StartsWith (fun t => a.IsPlainText → t.EndsText) qs) (hnoTerm : StartsWith Token.NoTerm qs)
    (h : ∀ bound, qs.length < bound → Refuses noLabels (path bound) qs) : StopsGroup (a.pieces ++ (qs ++ os)) := by
  refine stopsGroup_of_afterSubject hfits (hfirst.append os) fun bound hbound => ?_
  rw [List.length_append] at hbound
  refine afterSubject_refuses_verb fun b hb => verb_refuses ((h b (by omega)).append os) (hnoTerm.append os)

/-- A line with an inverse right inside an inverse is not read, unless a text takes it up as its datatype and the point of
focus comes next. -/
private theorem path_line_cases {s q o : String} {a c : Atom} (ha : a.Fits noLabels) (hc : c.Fits noLabels)
    (hs : Writes Delimited s a.pieces) (ho : Writes Delimited o c.pieces) {t : Term} (ht : PathShape t)
    (hdouble : hasDoubleInverse t = true) (hq : t.render = .ok q) :
    (∃ p, LineWritten (patternLine (s ++ " " ++ q ++ " " ++ o ++ " .")) p) ∨
      Unreadable (patternLine (s ++ " " ++ q ++ " " ++ o ++ " .")) := by
  obtain ⟨text, hcut⟩ := ht.cut noLabels
  obtain rfl : text = q := Except.ok.inj (hcut.render.symm.trans hq)
  obtain ⟨qs, hwrites, hnoTerm, hrefuses⟩ := hcut.whole
  have hline : Writes Anything (patternLine (s ++ " " ++ text ++ " " ++ o ++ " ."))
      (a.pieces ++ (qs ++ c.pieces) ++ [symbol .dot]) := by
    simpa only [List.append_assoc] using writes_line hs (hwrites.mono fun _ _ => trivial) ho
  have hpath (hfirst : StartsWith (fun t => a.IsPlainText → t.EndsText) qs) :
      Unreadable (patternLine (s ++ " " ++ text ++ " " ++ o ++ " .")) := by
    refine unreadable_of_line hline ?_
    simpa only [List.append_assoc] using
      stopsGroup_of_path ha (c.pieces ++ [symbol .dot]) hfirst hnoTerm (hrefuses hdouble)
  by_cases hplain : a.IsPlainText
  · obtain ⟨written, lexical, rfl⟩ : ∃ written lexical, a = .text written lexical .none := by
      unfold Atom.IsPlainText at hplain
      split at hplain
      · exact ⟨_, _, rfl⟩
      · exact hplain.elim
    -- Only after a text without a suffix can the carets of the path be read as the mark of a datatype.
    rcases ht.marked_cases hq with ⟨kind, n, hlexeme, hkind⟩ | ⟨d, hd, rest, rfl⟩ | ⟨iri, hiri, rfl | ⟨x, hx, rest, rfl, hrest⟩⟩
    · exact .inr (hpath (hwrites.startsWith hlexeme fun t ht _ => by rwa [Token.EndsText, ht]))
    · have hunreadable := (unreadable_of_mark hs hd rest).append (" " ++ (o ++ (" ." ++ "\n")))
      exact .inr (by simpa only [patternLine, String.append_assoc] using hunreadable)
    · have htyped := writes_indent.before ((writes_typed hs hiri lexical).before (writes_lineEnd ho))
      have htext : patternLine (s ++ " " ++ ("^^" ++ ("<" ++ iri ++ ">")) ++ " " ++ o ++ " .") =
          "  " ++ (s ++ (" " ++ ("^^" ++ ("<" ++ iri ++ ">"))) ++ (" " ++ (o ++ (" " ++ ("." ++ "\n"))))) := by
        simp [patternLine, String.ext_iff]
      rw [htext]
      refine two_terms_cases (a := .text written lexical (.datatype (.full iri))) ⟨ha.1, trivial⟩ hc ?_
      rw [List.append_assoc]
      exact htyped
    · have hunreadable := (unreadable_of_sign ha.1 hs hiri hx hrest).append (" " ++ (o ++ (" ." ++ "\n")))
      exact .inr (by simpa only [patternLine, String.append_assoc] using hunreadable)
  · exact .inr (hpath (hnoTerm.mono fun t _ h => absurd h hplain))

/-- Only a path has an inverse right inside an inverse. -/
private theorem VerbShape.path {t : Term} (h : VerbShape t) (hdouble : hasDoubleInverse t = true) {q : String}
    (hq : t.renderPredicate = .ok q) : PathShape t ∧ t.render = .ok q := by
  have htype : t.isType = false := by
    cases t with
    | iri iri => simp [hasDoubleInverse] at hdouble
    | _ => rfl
  rw [Term.renderPredicate, htype, if_neg (by decide)] at hq
  rcases h with ⟨x, rfl, -⟩ | h
  · simp [hasDoubleInverse] at hdouble
  · exact ⟨h, hq⟩

/-- A predicate is cut into tokens, whether they are read or not. -/
private theorem VerbShape.written {t : Term} (h : VerbShape t) {q : String} (hq : t.renderPredicate = .ok q) :
    ∃ qs, Writes Delimited q qs := by
  cases hdouble : hasDoubleInverse t with
  | false =>
    obtain ⟨_, hq', v, -, -, hwrites⟩ := verb_written h hdouble noLabels
    obtain rfl := Except.ok.inj (hq.symm.trans hq')
    exact ⟨v.pieces, hwrites⟩
  | true =>
    obtain ⟨hpath, hrender⟩ := h.path hdouble hq
    obtain ⟨_, hcut⟩ := hpath.cut noLabels
    obtain rfl := Except.ok.inj (hrender.symm.trans hcut.render)
    obtain ⟨qs, hwrites, -⟩ := hcut.whole
    exact ⟨qs, hwrites.mono fun _ _ => trivial⟩

/-- The line of a pattern stands for some pattern, or the parser stops in it. -/
theorem line_cases {p : Pattern} (h : PatternShape p) {line : String} (hline : p.render = .ok line) :
    (∃ q, LineWritten (patternLine line) q) ∨ Unreadable (patternLine line) := by
  obtain ⟨s, q, o, hs, hq, ho, rfl⟩ := render_parts hline
  by_cases hsubject : ∃ l, p.subject = .literal l ∧ LeavesQuote l.lexical
  · obtain ⟨l, hl, hleaves⟩ := hsubject
    have hshape := h.subject
    rw [hl] at hs hshape
    rw [Term.render] at hs
    obtain rfl := Except.ok.inj hs
    have hunreadable := unreadable_of_subject hshape hleaves (" " ++ (q ++ (" " ++ (o ++ " ."))))
    exact .inr (by simpa only [String.append_assoc] using hunreadable)
  obtain ⟨_, hs', a, ha, hsWrites, -⟩ := node_written h.subject (fun l hl hleaves => hsubject ⟨l, hl, hleaves⟩) noLabels
  obtain rfl := Except.ok.inj (hs.symm.trans hs')
  by_cases hobject : ∃ l, p.object = .literal l ∧ LeavesQuote l.lexical
  · obtain ⟨l, hl, hleaves⟩ := hobject
    have hshape := h.object
    rw [hl] at ho hshape
    rw [Term.render] at ho
    obtain rfl := Except.ok.inj ho
    obtain ⟨qs, hqWrites⟩ := h.predicate.written hq
    have hpredicate := hqWrites.beforeDelimiter writes_space rfl (d := ' ') (by decide)
    have hsubject := hsWrites.beforeDelimiter (writes_space.before hpredicate) (d := ' ') (by simp) (by decide)
    have hunreadable := unreadable_of_object hshape hleaves (writes_indent.before hsubject)
    exact .inr (by simpa [patternLine, String.append_assoc] using hunreadable)
  obtain ⟨_, ho', c, hc, hoWrites, -⟩ := node_written h.object (fun l hl hleaves => hobject ⟨l, hl, hleaves⟩) noLabels
  obtain rfl := Except.ok.inj (ho.symm.trans ho')
  -- Both ends are read as they were written, so it depends on the path.
  cases hdouble : hasDoubleInverse p.predicate with
  | false =>
    obtain ⟨_, hq', v, -, hv, hqWrites⟩ := verb_written h.predicate hdouble noLabels
    obtain rfl := Except.ok.inj (hq.symm.trans hq')
    exact .inl ⟨_, lineWritten_of_terms ha hv hc hsWrites hqWrites hoWrites⟩
  | true =>
    obtain ⟨hpath, hrender⟩ := h.predicate.path hdouble hq
    exact path_line_cases ha hc hsWrites hoWrites hpath hdouble hrender

end PointOfFocus.Query
