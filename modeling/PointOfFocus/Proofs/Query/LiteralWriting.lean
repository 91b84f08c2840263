import PointOfFocus.Proofs.Query.Soundness
import PointOfFocus.Proofs.Query.Writing
import PointOfFocus.Proofs.Rdf.NumberWords

/-!
# Literals that are read back

A literal of a query is written as one text in quotes with its language or its datatype, and the parser reads it as the
literal, with two exceptions (`render_reread`): the written form of a text over several lines that ends with a backslash
and a quote has a quote too much at its end (`LeavesQuote`), and a datatype with an empty IRI is left out.
-/

namespace PointOfFocus.Query

open PointOfFocus.Rdf
open PointOfFocus.Text
open Phrase

/-! ### Texts between three quotes -/

private theorem longText?_escaped {e : Char} (he : e ≠ '\n') (cs : List Char) :
    longText? '"' ('\\' :: e :: cs) = (longText? '"' cs).map (· + 2) := by
  rw [longText?.eq_def]
  simp [List.isPrefixOf, he]

private theorem longText?_plain {c : Char} (hback : c ≠ '\\') {cs : List Char}
    (hquote : ['"', '"', '"'].isPrefixOf (c :: cs) = false) :
    longText? '"' (c :: cs) = (longText? '"' cs).map (· + 1) := by
  rw [longText?.eq_def]
  simp only [hquote, hback, Bool.false_eq_true, ↓reduceIte]

/-- The first three quotes in a row after the text are those that close it. -/
private theorem longText?_body {cs body : List Char} (h : LongWritten cs body) (rest : List Char) :
    longText? '"' (body ++ '"' :: '"' :: '"' :: rest) = some (body.length + 3) := by
  induction h with
  | nil =>
    rw [List.nil_append, longText?.eq_def]
    rfl
  | escaped he _ ih =>
    have hn : ∀ e ∈ ['\\', '"', 'r'], e ≠ '\n' := by decide
    rw [List.cons_append, List.cons_append, longText?_escaped (hn _ he), ih]
    rfl
  | plain hback hquote _ ih =>
    rw [List.cons_append, longText?_plain hback (by simp [List.isPrefixOf, hquote.symm]), ih]
    rfl
  | @quote d cs body hnext h ih =>
    -- a quote inside is followed by another character, so three quotes come only at the end
    have hfirst : ['"', '"', '"'].isPrefixOf ('"' :: (d :: body ++ '"' :: '"' :: '"' :: rest)) = false := by
      rw [← Bool.not_eq_true, List.isPrefixOf_iff_prefix]
      intro hprefix
      obtain ⟨-, hprefix⟩ := List.cons_prefix_cons.1 hprefix
      obtain ⟨hd, hprefix⟩ := List.cons_prefix_cons.1 hprefix
      subst hd
      cases body with
      | nil =>
        cases h
        contradiction
      | cons e body =>
        obtain ⟨-, hprefix⟩ := List.cons_prefix_cons.1 hprefix
        obtain ⟨he, -⟩ := List.cons_prefix_cons.1 hprefix
        exact hnext (by simp [← he])
    rw [List.cons_append, longText?_plain (by decide) hfirst, ih]
    rfl

private theorem length_longQuoted (body : List Char) : (longQuoted body).length = body.length + 6 := by
  simp [longQuoted]

/-- A text between three quotes is cut out as a whole before anything. -/
theorem lexeme?_longQuoted {cs body : List Char} (h : LongWritten cs body) (rest : List Char) :
    lexeme? (longQuoted body ++ rest) = some (.token .string, (longQuoted body).length) := by
  have htext : longQuoted body ++ rest = '"' :: '"' :: '"' :: (body ++ '"' :: '"' :: '"' :: rest) := by simp [longQuoted]
  have hstring : string? ('"' :: '"' :: '"' :: (body ++ '"' :: '"' :: '"' :: rest)) = some (body.length + 6) := by
    simp [string?, tripleQuoted?, List.isPrefixOf, longText?_body h rest]
  rw [htext, length_longQuoted, lexeme?, hstring, blanks?_none _ (isBlank_of_start _ (by decide)),
    comment?_none _ (by decide), iri?_none _ (by decide), marker?_none _ (by decide)]
  rfl

/-- A text between three quotes stands for what it is read as. -/
theorem quotedText_longQuoted {cs body : List Char} (h : unescape body = .ok cs) :
    quotedText (String.ofList (longQuoted body)) = .ok (String.ofList cs) := by
  have hwidth : quoteWidth (String.ofList (longQuoted body)) = 3 := by
    simp [quoteWidth, longQuoted, List.isPrefixOf]
  have hunwrap : (unwrap 3 (String.ofList (longQuoted body))).toList = body := by
    have hlength : (String.ofList (longQuoted body)).length - 2 * 3 = body.length := by
      rw [String.length_ofList, length_longQuoted]
      omega
    rw [unwrap, hlength, String.toList_ofList, String.toList_ofList]
    exact List.take_left
  rw [quotedText, hwidth, hunwrap, h]
  rfl

/-! ### Texts in quotes -/

/-- The text has a line end, and a backslash and a quote at its end. -/
def LeavesQuote (text : String) : Prop := '\n' ∈ text.toList ∧ ['\\', '"'] <:+ text.toList

instance (text : String) : Decidable (LeavesQuote text) :=
  inferInstanceAs (Decidable (_ ∧ _))

/-- The last quote of the others is left over. -/
theorem quotedLexical_leftover {text : String} (h : LeavesQuote text) : ∃ cs body, text.toList = cs ++ ['"'] ∧
    LongWritten cs body ∧ quotedLexical text.toList = longQuoted body ++ ['"'] := by
  obtain ⟨hline, cs, hcs⟩ := h
  obtain ⟨hwritten, hquoted⟩ := longBody_leftover cs
  refine ⟨_, _, by rw [← hcs, List.append_assoc]; rfl, hwritten, ?_⟩
  rw [quotedLexical_lines hline, ← hcs, hquoted]

/-- What is written for a text stands for it, also where a quote is left over: without a look at where the written text
ends, this quote is one of the text. -/
theorem quotedText_quotedLexical (text : String) :
    quotedText (String.ofList (quotedLexical text.toList)) = .ok text := by
  by_cases hleaves : LeavesQuote text
  · obtain ⟨cs, body, htext, hwritten, hbody⟩ := quotedLexical_leftover hleaves
    have hlonger : longQuoted body ++ ['"'] = longQuoted (body ++ ['"']) := by simp [longQuoted]
    have hread : unescape (body ++ ['"']) = .ok text.toList := by
      rw [hwritten.unescape_append, htext]
      rfl
    rw [hbody, hlonger, quotedText_longQuoted hread, String.ofList_toList]
  by_cases hline : '\n' ∈ text.toList
  · have hwritten := longBody_written fun hsuffix => hleaves ⟨hline, hsuffix⟩
    rw [quotedLexical_lines hline, quotedText_longQuoted hwritten.unescape, String.ofList_toList]
  · rw [quotedLexical_eq hline, quotedText_escape]

/-- A text in quotes is cut out as a whole and stands for the text. -/
private theorem quotedLexical_written {text : String} (h : ¬ LeavesQuote text) :
    (∀ rest, Unquoted rest → lexeme? (quotedLexical text.toList ++ rest) =
      some (.token .string, (quotedLexical text.toList).length)) ∧
      quotedText (String.ofList (quotedLexical text.toList)) = .ok text := by
  refine ⟨?_, quotedText_quotedLexical text⟩
  by_cases hline : '\n' ∈ text.toList
  · rw [quotedLexical_lines hline]
    exact fun rest _ => lexeme?_longQuoted (longBody_written fun hsuffix => h ⟨hline, hsuffix⟩) rest
  · rw [quotedLexical_eq hline]
    exact fun rest hrest => lexeme?_string text.toList hrest

/-! ### Literals -/

/-- What is written after the text of a literal. -/
def suffixOf : Qualifier → Suffix
  | .none => .none
  | .language tag => .language tag
  | .datatype iri => if iri = "" then .none else .datatype (.full iri)

/-- How it is written. -/
def suffixText : Qualifier → String
  | .none => ""
  | .language tag => "@" ++ tag
  | .datatype iri => if iri = "" then "" else "^^" ++ ("<" ++ iri ++ ">")

/-- The suffix of a written literal has no prefix that would have to be declared. -/
theorem declared_suffix (q : Qualifier) (labels : Labels) : (suffixOf q).Declared labels := by
  unfold suffixOf
  split
  · trivial
  · trivial
  · split <;> trivial

theorem writes_mark : Writes Anything "^^" [.exact .datatypeMark "^^"] :=
  writes_token (by decide) (fun rest _ => lexeme?_mark rest) (by simp) fun _ _ => ⟨rfl, rfl⟩

private theorem writes_suffix {l : Literal} (h : LiteralShape l) :
    Writes Delimited (suffixText l.qualifier) (suffixOf l.qualifier).pieces := by
  obtain ⟨lexical, qualifier⟩ := l
  cases qualifier with
  | none => exact (writes_blanks (by simp [suffixText])).mono fun _ _ => trivial
  | language tag =>
    exact writes_token (by simp [suffixText]) (fun _ hrest => lexeme?_language h hrest) (by simp) fun _ _ => ⟨rfl, rfl⟩
  | datatype iri =>
    by_cases hiri : iri = ""
    · simp only [suffixText, suffixOf, if_pos hiri]
      exact (writes_blanks (by simp)).mono fun _ _ => trivial
    · have hname : Writes Anything ("<" ++ iri ++ ">") [(Name.full iri).piece] :=
        writes_token (by simp) (fun rest _ => lexeme?_iri h.1 rest) (by simp) fun _ _ => ⟨rfl, rfl⟩
      simp only [suffixText, suffixOf, if_neg hiri]
      exact (writes_mark.before hname).mono fun _ _ => trivial

/-- No quote stands after the text. -/
theorem quote_notMem_suffix {l : Literal} (h : LiteralShape l) : '"' ∉ (suffixText l.qualifier).toList := by
  obtain ⟨lexical, qualifier⟩ := l
  cases qualifier with
  | none => simp [suffixText]
  | language tag =>
    obtain ⟨first, parts, htag, -, hfirst, hparts⟩ := h
    have hquote : ∀ c : Char, c.isAlpha = true ∨ c.isAlphanum = true → c ≠ '"' := by
      rintro c hc rfl
      revert hc
      decide
    simp only [suffixText, String.toList_append, htag, List.mem_append, List.mem_flatMap, List.mem_cons, not_or,
      not_exists, not_and]
    refine ⟨by decide, fun hc => hquote _ (.inl (hfirst _ hc)) rfl, fun part hpart => ⟨by decide, fun hc => ?_⟩⟩
    exact hquote _ (.inr ((hparts part hpart).2 _ hc)) rfl
  | datatype iri =>
    have hiri : '"' ∉ iri.toList := fun hc => absurd (h.1 _ hc) (by decide)
    rw [suffixText]
    split
    · decide
    · simp [hiri]

/-- A literal is written with its own text, or with a word that its datatype brings to it. -/
theorem render_eq_quoted {l : Literal} (h : LiteralShape l) :
    ∃ word, l.render = String.ofList (quotedLexical word.toList) ++ suffixText l.qualifier ∧
      (word = l.lexical ∨ (¬ LeavesQuote word ∧ ¬ LeavesQuote l.lexical) ∧ word ∈ words ∧
        ∃ iri, isFloatingType iri = true ∧ l.qualifier = .datatype iri ∧ Literal.typed word iri = l) := by
  obtain ⟨lexical, qualifier⟩ := l
  cases qualifier with
  | none => exact ⟨lexical, by simp [Literal.render, suffixText], .inl rfl⟩
  | language tag => exact ⟨lexical, by simp [Literal.render, suffixText, String.append_assoc], .inl rfl⟩
  | datatype iri =>
    have hrender : ∀ word : String, numberWords iri lexical (quotedLexical lexical.toList) = quotedLexical word.toList →
        Literal.render ⟨lexical, .datatype iri⟩ =
          String.ofList (quotedLexical word.toList) ++ suffixText (.datatype iri) := by
      intro word hword
      simp only [Literal.render, hword, suffixText]
      split
      · rw [String.append_empty]
      · rw [show "^^<" = "^^" ++ "<" from rfl]
        simp only [String.append_assoc]
    obtain ⟨-, text, htext⟩ := h
    rcases numberWords_normalized htext with hsame | ⟨hfloating, word, hmem, hword, hnormal, hline, hline'⟩
    · exact ⟨lexical, hrender lexical hsame, .inl rfl⟩
    · refine ⟨word, hrender word hword, .inr ⟨⟨fun hleaves => hline hleaves.1, fun hleaves => hline' hleaves.1⟩, hmem, iri,
        hfloating, rfl, ?_⟩⟩
      rw [Literal.typed, hnormal]

/-- A literal is written with a quotation mark first. -/
theorem LiteralShape.start {l : Literal} (h : LiteralShape l) : l.render.toList.head? = some '"' := by
  have hquoted (cs : List Char) : (quotedLexical cs).head? = some '"' := by
    unfold quotedLexical
    split <;> rfl
  obtain ⟨word, hrender, -⟩ := render_eq_quoted h
  rw [hrender, String.toList_append, String.toList_ofList, List.head?_append, hquoted]
  rfl

/-- A literal whose text leaves no quote over is written as a single term. What the parser makes of it is the literal
again, if building the literal from its parts gives it again and its datatype is not empty. -/
theorem literal_written {l : Literal} (h : LiteralShape l) (hleaves : ¬ LeavesQuote l.lexical) :
    ∃ written word, quotedText written = .ok word ∧
      Writes Delimited l.render (.exact .string written :: (suffixOf l.qualifier).pieces) ∧
      (l.qualifier ≠ .datatype "" → (∀ iri, l.qualifier = .datatype iri → Literal.typed l.lexical iri = l) →
        ∀ labels, (suffixOf l.qualifier).literal labels word = l) := by
  obtain ⟨word, hrender, hword⟩ := render_eq_quoted h
  have hgood : ¬ LeavesQuote word := by
    rcases hword with rfl | ⟨⟨hword, -⟩, -⟩
    · exact hleaves
    · exact hword
  obtain ⟨hlexeme, hquoted⟩ := quotedLexical_written hgood
  refine ⟨_, word, hquoted, ?_, fun hdatatype hrebuilt labels => ?_⟩
  · have htext : Writes Unquoted (String.ofList (quotedLexical word.toList))
        [.exact .string (String.ofList (quotedLexical word.toList))] := by
      refine writes_token ?_ (fun rest hrest => ?_) (by simp) fun _ _ => ⟨rfl, rfl⟩
      · rw [String.toList_ofList, quotedLexical]
        split <;> simp
      · rw [String.toList_ofList]
        exact hlexeme rest hrest
    rw [hrender]
    refine htext.append (writes_suffix h) fun rest hrest => ?_
    -- a quote behind the closing one would make it the start of a longer mark
    have hnot := quote_notMem_suffix h
    cases hsuffix : (suffixText l.qualifier).toList with
    | nil => exact hrest.unquoted
    | cons c cs =>
      rw [hsuffix] at hnot
      exact fun hc => hnot (Option.some.inj hc ▸ List.mem_cons_self)
  · obtain ⟨lexical, qualifier⟩ := l
    cases qualifier with
    | none =>
      obtain rfl := hword.resolve_right (by simp)
      rfl
    | language tag =>
      obtain rfl := hword.resolve_right (by simp)
      rfl
    | datatype iri =>
      have hiri : iri ≠ "" := fun hiri => hdatatype (by rw [hiri])
      rw [suffixOf, if_neg hiri]
      rcases hword with rfl | ⟨-, -, _, -, ⟨rfl⟩, htyped⟩
      · exact hrebuilt iri rfl
      · exact htyped

/-- The text ends, or its line ends. -/
def EndsLine (rest : List Char) : Prop := rest = [] ∨ ∃ more, rest = '\n' :: more

/-- The text between quotes does not go on after the end of a line. -/
private theorem shortText?_none {cs rest : List Char} (h : '"' ∉ cs) (hrest : EndsLine rest) :
    shortText? '"' (cs ++ rest) = none := by
  fun_induction shortText? '"' cs with
  | case1 =>
    rw [List.nil_append, shortText?.eq_def]
    rcases hrest with rfl | ⟨more, rfl⟩ <;> rfl
  | case2 => exact absurd List.mem_cons_self h
  | case3 => rcases hrest with rfl | ⟨more, rfl⟩ <;> simp [shortText?]
  | case4 => simp [shortText?]
  | case5 e cs _ he ih => simp [shortText?, he, ih fun hcs => h (by simp [hcs])]
  | case6 c cs hquote hback hline =>
    rw [List.cons_append, shortText?.eq_def]
    simp only [hquote, hback, hline, ↓reduceIte]
  | case7 c cs hquote hback hline ih =>
    rw [List.cons_append, shortText?.eq_def]
    simp only [hquote, hback, hline, ih fun hcs => h (by simp [hcs]), ↓reduceIte, Option.map_none]
    rfl

theorem lexeme?_quote (cs : List Char) : lexeme? ('"' :: cs) = (string? ('"' :: cs)).map (.token .string, ·) := by
  have hclass : isBlank '"' = false ∧ isLabelChar '"' = false ∧ isDigit '"' = false ∧ isWordStart '"' = false := by
    decide +kernel
  obtain ⟨hblank, hlabel, hdigit, hword⟩ := hclass
  have hmarks : '"' ≠ '#' ∧ '"' ≠ '<' ∧ '"' ≠ '?' ∧ '"' ≠ '$' ∧ '"' ≠ '_' ∧ '"' ≠ ':' ∧ '"' ≠ '@' ∧ '"' ≠ '.' := by decide
  obtain ⟨hhash, hangle, hvar, hdollar, hlow, hcolon, hat, hdot⟩ := hmarks
  have hsymbol : datatypeMark? ('"' :: cs) = none ∧ symbol? ('"' :: cs) = none := ⟨rfl, rfl⟩
  simp only [lexeme?, blanks?_none cs hblank, comment?_none cs hhash, iri?_none cs hangle, marker?_none cs hangle,
    var?_none cs hvar hdollar, blank?_none cs hlow, prefixedName?_none cs hlabel hcolon, language?_none cs hat,
    double?_none cs hdigit hdot, decimal?_none cs hdigit hdot, integer?_none cs hdigit, word?_none cs hword, hsymbol.1,
    hsymbol.2]
  cases string? ('"' :: cs) <;> rfl

/-- No token starts with the last quote of a line. -/
theorem lexeme?_loneQuote {cs rest : List Char} (h : '"' ∉ cs) (hrest : EndsLine rest) :
    lexeme? ('"' :: (cs ++ rest)) = none := by
  have hshort := shortText?_none h hrest
  have hfirst : ∀ c ∈ (cs ++ rest).head?, c ≠ '"' := by
    rintro c hc rfl
    cases cs with
    | nil => rcases hrest with rfl | ⟨more, rfl⟩ <;> simp at hc
    | cons d cs => exact h (by simpa using Or.inl (Option.some.inj hc).symm)
  have hstring : string? ('"' :: (cs ++ rest)) = none := by
    cases hcs : cs ++ rest with
    | nil => rfl
    | cons c more =>
      rw [hcs] at hshort hfirst
      simp [string?, tripleQuoted?, singleQuoted?, List.isPrefixOf, (hfirst c rfl).symm, hshort]
  rw [lexeme?_quote, hstring, Option.map_none]

/-- After a text that leaves a quote over there is no token. -/
private theorem tokens_leftover {l : Literal} (h : LiteralShape l) (hleaves : LeavesQuote l.lexical) :
    ∃ e, tokens l.render.toList = .error e := by
  obtain ⟨word, hrender, rfl | ⟨⟨-, hgood⟩, -⟩⟩ := render_eq_quoted h
  · obtain ⟨cs, body, -, hwritten, hbody⟩ := quotedLexical_leftover hleaves
    have htext : l.render.toList = longQuoted body ++ '"' :: (suffixText l.qualifier).toList := by
      rw [hrender, String.toList_append, String.toList_ofList, hbody, List.append_assoc]
      rfl
    have hcut := tokensFrom_cut (by simp [longQuoted]) (lexeme?_longQuoted hwritten ('"' :: (suffixText l.qualifier).toList)) 0
    have hlone : lexeme? ('"' :: (suffixText l.qualifier).toList) = none := by
      have hnone := lexeme?_loneQuote (quote_notMem_suffix h) (.inl rfl : EndsLine [])
      rwa [List.append_nil] at hnone
    have hrest (offset : Nat) : tokensFrom 0 offset ('"' :: (suffixText l.qualifier).toList) =
        .error (.unexpected '"' offset) := by
      rw [tokensFrom, hlone]
    rw [hrest] at hcut
    exact ⟨_, by rw [tokens, htext, hcut]; rfl⟩
  · exact absurd hleaves hgood

/-! ### Literals that are read back -/

/-- The kinds of the tokens of a literal with the qualifier. -/
def literalKinds : Qualifier → List Kind
  | .none => [.string]
  | .language _ => [.string, .language]
  | .datatype _ => [.string, .datatypeMark, .iri]

/-- The text is cut into the tokens of one literal, and the parser of literals takes all of them and gives the literal.
The prefixes are those of the scope. -/
def ReadsAsLiteral (scope : Scope) (text : String) (l : Literal) : Prop :=
  ∃ ts after, tokens text.toList = .ok ts ∧ ts.map Token.kind = literalKinds l.qualifier ∧
    textLiteral { ahead := ts, last := .eof text.length, scope } = (.ok l, after) ∧ after.ahead = []

private theorem kinds_of_forall₂ {q : Qualifier} (hq : q ≠ .datatype "") {written : String} {ts : List Token}
    (h : List.Forall₂ Piece.Matches (.exact .string written :: (suffixOf q).pieces) ts) :
    ts.map Token.kind = literalKinds q := by
  obtain ⟨t, us, ht, hus, rfl⟩ := List.forall₂_cons_left_iff.1 h
  cases q with
  | none =>
    obtain rfl := List.forall₂_nil_left_iff.1 hus
    rw [List.map_singleton, ht.1]
    rfl
  | language tag =>
    obtain ⟨u, vs, hu, hvs, rfl⟩ := List.forall₂_cons_left_iff.1 hus
    obtain rfl := List.forall₂_nil_left_iff.1 hvs
    rw [List.map_cons, List.map_singleton, ht.1, hu.1]
    rfl
  | datatype iri =>
    have hiri : iri ≠ "" := fun hiri => hq (by rw [hiri])
    rw [suffixOf, if_neg hiri] at hus
    obtain ⟨u, vs, hu, hvs, rfl⟩ := List.forall₂_cons_left_iff.1 hus
    obtain ⟨v, ws, hv, hws, rfl⟩ := List.forall₂_cons_left_iff.1 hvs
    obtain rfl := List.forall₂_nil_left_iff.1 hws
    rw [List.map_cons, List.map_cons, List.map_singleton, ht.1, hu.1, hv.1]
    rfl

/-- A literal of a query is written as the tokens of one literal, and the parser reads them as the literal. The only
exceptions are texts over several lines that end with a backslash and a quote, and datatypes with an empty IRI. Building
a literal with a datatype from its parts is to give the literal again. -/
theorem render_reread {text : List Char} {s : Scope} (hparse : parse text = .ok s) {p : Pattern} (hp : p ∈ s.patterns)
    {l : Literal} (hl : p.subject = .literal l ∨ p.object = .literal l)
    (hrebuilt : ∀ iri, l.qualifier = .datatype iri → Literal.typed l.lexical iri = l) (scope : Scope) :
    ReadsAsLiteral scope l.render l ↔ ¬ LeavesQuote l.lexical ∧ l.qualifier ≠ .datatype "" := by
  have hshape : LiteralShape l := by
    have hpattern := (parse_shaped hparse).patterns p hp
    rcases hl with hl | hl
    · have hsubject := hpattern.subject
      rwa [hl] at hsubject
    · have hobject := hpattern.object
      rwa [hl] at hobject
  constructor
  · rintro ⟨ts, after, htokens, hkinds, -, -⟩
    have hleaves : ¬ LeavesQuote l.lexical := by
      intro hleaves
      obtain ⟨e, he⟩ := tokens_leftover hshape hleaves
      rw [he] at htokens
      cases htokens
    refine ⟨hleaves, fun hdatatype => ?_⟩
    obtain ⟨written, word, -, hwrites, -⟩ := literal_written hshape hleaves
    obtain ⟨us, hus, hmatches⟩ := (hwrites.yields_end .nil).tokens
    obtain rfl : us = ts := Except.ok.inj (hus.symm.trans htokens)
    -- only the text is written
    have hlength := hmatches.length_eq
    have hthree := congrArg List.length hkinds
    simp [hdatatype, suffixOf, Suffix.pieces, literalKinds] at hlength hthree
    omega
  · rintro ⟨hleaves, hdatatype⟩
    obtain ⟨written, word, hquoted, hwrites, hliteral⟩ := literal_written hshape hleaves
    obtain ⟨ts, htokens, hmatches⟩ := (hwrites.yields_end .nil).tokens
    have hread : textLiteral { ahead := ts, last := .eof l.render.length, scope } =
        (.ok ((suffixOf l.qualifier).literal scope.prefixIri? word), { ahead := [], last := .eof l.render.length, scope }) :=
      textLiteral_apply hquoted (declared_suffix _ _) (fun _ => rfl) (ahead_of_forall₂ hmatches)
        fun _ => by simp [Token.EndsText, Token.eof]
    rw [hliteral hdatatype hrebuilt] at hread
    exact ⟨ts, _, htokens, kinds_of_forall₂ hdatatype hmatches, hread, rfl⟩

/-- The literal of a term. -/
def literalOf? : Term → Option Literal
  | .literal l => some l
  | _ => none

/-- The text is a line end, a backslash and a quote. It is written with a quote too much. -/
theorem render_reread_leftover : ∃ s, parse "SELECT * \x7b ?s < \"\\n\\\\\\\"\" \x7d".toList = .ok s ∧
    ∃ p ∈ s.patterns, p.object = .literal (.plain "\n\\\"") ∧
      (Literal.plain "\n\\\"").render = "\"\"\"\n\\\\\"\"\"\"" ∧
      ¬ ReadsAsLiteral {} (Literal.plain "\n\\\"").render (.plain "\n\\\"") := by
  have hread : ((parse "SELECT * \x7b ?s < \"\\n\\\\\\\"\" \x7d".toList).toOption.map fun s =>
      s.patterns.map fun p => literalOf? p.object) = some [some (.plain "\n\\\"")] := by decide +kernel
  cases hparse : parse "SELECT * \x7b ?s < \"\\n\\\\\\\"\" \x7d".toList with
  | error e =>
    rw [hparse] at hread
    cases hread
  | ok s =>
    simp only [hparse, Except.toOption, Option.map_some, Option.some.injEq] at hread
    obtain ⟨p, hpatterns, hp⟩ := List.map_eq_singleton_iff.1 hread
    have hmem : p ∈ s.patterns := by simp [hpatterns]
    have hobject : p.object = .literal (.plain "\n\\\"") := by
      unfold literalOf? at hp
      split at hp
      next l hl => rw [hl, Option.some.inj hp]
      · cases hp
    have hiff := render_reread hparse hmem (.inr hobject) (by rintro _ ⟨⟩) {}
    exact ⟨s, rfl, p, hmem, hobject, by decide +kernel, fun h => (hiff.1 h).1 (by decide)⟩

end PointOfFocus.Query
