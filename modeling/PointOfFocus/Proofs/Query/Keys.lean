import PointOfFocus.Proofs.Query.LineReading
import PointOfFocus.Proofs.Query.Occurrence
import PointOfFocus.Proofs.Query.PathText

/-!
# Terms are told apart by their keys

Two terms of queries have the same key if they are the same, and otherwise only if one is a plain text and the other is
that text with an empty IRI for its datatype (`key_eq_iff`): such a datatype is left out where the literal is written.

The first character of a term shows of which kind it is. The text of a literal is written in quotes, and the last quote
ends it, since neither a language nor a datatype has one; from what is in the quotes the text is read off again
(`LiteralShape.written`). Paths are told apart by `pathText_injective`.
-/

namespace PointOfFocus

open PointOfFocus.Rdf

/-! ### Datatypes that are not written -/

namespace Rdf

/-- The qualifier as it is written: a datatype with an empty IRI is left out. -/
def Qualifier.withoutEmptyType : Qualifier → Qualifier
  | .datatype iri => if iri = "" then .none else .datatype iri
  | q => q

/-- The literal as it is written: a datatype with an empty IRI is left out. -/
def Literal.withoutEmptyType (l : Literal) : Literal := ⟨l.lexical, l.qualifier.withoutEmptyType⟩

/-- The term as it is written: a datatype with an empty IRI is left out. -/
def Term.withoutEmptyType : Term → Term
  | .literal l => .literal l.withoutEmptyType
  | t => t

/-- The first term is a text with an empty IRI for its datatype, and the second one is the plain text. -/
def DiffersByEmptyType (t u : Term) : Prop :=
  ∃ text, t = .literal ⟨text, .datatype ""⟩ ∧ u = .literal (.plain text)

private theorem Term.withoutEmptyType_cases (t : Term) : t.withoutEmptyType = t ∨
    ∃ text, t = .literal ⟨text, .datatype ""⟩ ∧ t.withoutEmptyType = .literal (.plain text) := by
  cases t with
  | literal l =>
    obtain ⟨text, qualifier⟩ := l
    cases qualifier with
    | none | language => exact .inl rfl
    | datatype iri =>
      by_cases hiri : iri = ""
      · exact .inr ⟨text, by rw [hiri], by rw [hiri]; rfl⟩
      · exact .inl (by simp [withoutEmptyType, Literal.withoutEmptyType, Qualifier.withoutEmptyType, hiri])
  | var | blank | iri | sequence | alternative | inverse => exact .inl rfl

private theorem Term.withoutEmptyType_eq_iff {t u : Term} : t.withoutEmptyType = u.withoutEmptyType ↔
    t = u ∨ DiffersByEmptyType t u ∨ DiffersByEmptyType u t := by
  constructor
  · intro h
    rcases t.withoutEmptyType_cases with ht | ⟨text, ht, htext⟩ <;>
      rcases u.withoutEmptyType_cases with hu | ⟨text', hu, htext'⟩
    · exact .inl (by rw [← ht, h, hu])
    · exact .inr (.inr ⟨text', hu, by rw [← ht, h, htext']⟩)
    · exact .inr (.inl ⟨text, ht, by rw [← hu, ← h, htext]⟩)
    · rw [htext, htext'] at h
      cases h
      exact .inl (ht.trans hu.symm)
  · rintro (rfl | ⟨text, rfl, rfl⟩ | ⟨text, rfl, rfl⟩)
    all_goals rfl

private theorem Literal.render_withoutEmptyType (l : Literal) : l.withoutEmptyType.render = l.render := by
  obtain ⟨text, qualifier⟩ := l
  cases qualifier with
  | none | language => rfl
  | datatype iri =>
    by_cases hiri : iri = ""
    · have hwords (cs : List Char) : numberWords "" text cs = cs := if_neg (by decide)
      simp [withoutEmptyType, Qualifier.withoutEmptyType, render, hiri, hwords]
    · simp [withoutEmptyType, Qualifier.withoutEmptyType, hiri]

private theorem Term.key_withoutEmptyType (t : Term) : t.withoutEmptyType.key = t.key := by
  cases t with
  | literal l => exact congrArg Except.ok l.render_withoutEmptyType
  | var | blank | iri | sequence | alternative | inverse => rfl

end Rdf

namespace Query

open PointOfFocus.Text

/-! ### Literals -/

/-- The qualifier that is written with the characters. -/
def qualifierOf : List Char → Qualifier
  | '@' :: tag => .language (String.ofList tag)
  | '^' :: '^' :: '<' :: cs => .datatype (String.ofList cs.dropLast)
  | _ => .none

private theorem qualifierOf_suffixText (q : Qualifier) : qualifierOf (suffixText q).toList = q.withoutEmptyType := by
  cases q with
  | none => rfl
  | language tag => simp [suffixText, qualifierOf, Qualifier.withoutEmptyType]
  | datatype iri =>
    by_cases hiri : iri = ""
    · simp [suffixText, qualifierOf, Qualifier.withoutEmptyType, hiri]
    · simp [suffixText, qualifierOf, Qualifier.withoutEmptyType, hiri]

/-- The text of a literal that is written with the word: the words for numbers that are not finite are brought to the
form of the datatype. -/
def lexicalOf (q : Qualifier) (word : String) : String :=
  match q with
  | .datatype iri => if isFloatingType iri ∧ word ∈ words then normalized iri word else word
  | _ => word

private theorem lexicalOf_withoutEmptyType (q : Qualifier) (word : String) :
    lexicalOf q.withoutEmptyType word = lexicalOf q word := by
  cases q with
  | none | language => rfl
  | datatype iri =>
    by_cases hiri : iri = ""
    · have hempty : ¬ isFloatingType "" = true := by decide
      simp [Qualifier.withoutEmptyType, lexicalOf, hiri, hempty]
    · simp [Qualifier.withoutEmptyType, hiri]

/-- A literal is written with a word that its text is read off from. -/
theorem LiteralShape.written {l : Literal} (h : LiteralShape l) :
    ∃ word, l.render = String.ofList (quotedLexical word.toList) ++ suffixText l.qualifier ∧
      lexicalOf l.qualifier word = l.lexical := by
  obtain ⟨word, hrender, hword⟩ := render_eq_quoted h
  refine ⟨word, hrender, ?_⟩
  obtain ⟨lexical, qualifier⟩ := l
  rcases hword with rfl | ⟨-, hmem, iri, hfloating, rfl, htyped⟩
  · cases qualifier with
    | none | language => rfl
    | datatype iri =>
      obtain ⟨-, text, htext⟩ := h
      dsimp only [lexicalOf] at htext ⊢
      split
      next hspecial =>
        rw [htext] at hspecial ⊢
        exact normalized_word hspecial.1 hspecial.2
      next => rfl
  · rw [lexicalOf, if_pos ⟨hfloating, hmem⟩]
    exact congrArg Literal.lexical htyped

private theorem quotedLexical_concat (cs : List Char) : ∃ start, quotedLexical cs = start ++ ['"'] := by
  unfold quotedLexical
  split
  · exact ⟨"\"\"\"".toList ++ protectLast (longBody cs) ++ ['"', '"'], by simp⟩
  · exact ⟨'"' :: escape cs, rfl⟩

/-- The text that is quoted can be read off. -/
theorem quotedLexical_injective {word word' : String} (h : quotedLexical word.toList = quotedLexical word'.toList) :
    word = word' := by
  have hread := quotedText_quotedLexical word
  rw [h, quotedText_quotedLexical] at hread
  exact (Except.ok.inj hread).symm

/-- Literals that are written alike are the same, up to a datatype with an empty IRI. -/
private theorem LiteralShape.eq_of_render {l l' : Literal} (h : LiteralShape l) (h' : LiteralShape l')
    (heq : l.render = l'.render) : l.withoutEmptyType = l'.withoutEmptyType := by
  obtain ⟨word, hrender, hlexical⟩ := h.written
  obtain ⟨word', hrender', hlexical'⟩ := h'.written
  obtain ⟨start, hstart⟩ := quotedLexical_concat word.toList
  obtain ⟨start', hstart'⟩ := quotedLexical_concat word'.toList
  have hchars : start ++ '"' :: (suffixText l.qualifier).toList =
      start' ++ '"' :: (suffixText l'.qualifier).toList := by
    simpa [hrender, hrender', hstart, hstart'] using congrArg String.toList heq
  -- the last quote is the one after the text
  obtain ⟨hsame, hsuffix⟩ := append_cons_unique hchars (.inr ⟨quote_notMem_suffix h, quote_notMem_suffix h'⟩)
  obtain rfl := quotedLexical_injective (hstart.trans (hsame ▸ hstart'.symm))
  have hqualifier : l.qualifier.withoutEmptyType = l'.qualifier.withoutEmptyType := by
    rw [← qualifierOf_suffixText, ← qualifierOf_suffixText, hsuffix]
  rw [Literal.withoutEmptyType, Literal.withoutEmptyType, ← hlexical, ← hlexical', ← lexicalOf_withoutEmptyType,
    hqualifier, lexicalOf_withoutEmptyType]

/-! ### Kinds of terms -/

/-- The kinds of terms that are told apart by their first character. -/
inductive TermKind where
  /-- Variables. -/
  | var
  /-- Blank nodes. -/
  | blank
  /-- Literals. -/
  | literal
  /-- IRIs and paths. -/
  | path

/-- The term is of the kind, and a query can be written with it. -/
def OfKind : TermKind → Term → Prop
  | .var, t => ∃ x, t = .var x
  | .blank, t => ∃ label, t = .blank label
  | .literal, t => ∃ l, LiteralShape l ∧ t = .literal l
  | .path, t => PathShape t

/-- The kind of the terms that start with the character. -/
def kindOfStart? (c : Char) : Option TermKind :=
  if c = '?' then some .var
  else if c = '_' then some .blank
  else if c = '"' then some .literal
  else if c ∈ ['<', '(', '^'] then some .path
  else none

section

variable {t u : Term}

private theorem exists_ofKind (h : NodeShape t ∨ VerbShape t) : ∃ k, OfKind k t := by
  rcases h with h | ⟨x, rfl, -⟩ | h
  · cases t with
    | var x => exact ⟨.var, x, rfl⟩
    | blank label => exact ⟨.blank, label, rfl⟩
    | literal l => exact ⟨.literal, l, h, rfl⟩
    | iri iri => exact ⟨.path, .iri h⟩
    | sequence | alternative | inverse => exact h.elim
  · exact ⟨.var, x, rfl⟩
  · exact ⟨.path, h⟩

private theorem OfKind.start {k : TermKind} (h : OfKind k t) {text : String} (hrender : t.render = .ok text) :
    text.toList.head?.bind kindOfStart? = some k := by
  cases k with
  | var =>
    obtain ⟨x, rfl⟩ := h
    rw [Term.render] at hrender
    cases hrender
    simp [kindOfStart?]
  | blank =>
    obtain ⟨label, rfl⟩ := h
    rw [Term.render] at hrender
    cases hrender
    simp [kindOfStart?]
  | literal =>
    obtain ⟨l, hl, rfl⟩ := h
    rw [Term.render] at hrender
    cases hrender
    rw [hl.start]
    rfl
  | path =>
    have hpath : ∀ c ∈ ['<', '(', '^'], kindOfStart? c = some .path := by simp [kindOfStart?]
    obtain ⟨c, hc, hstart⟩ := PathShape.start h hrender
    rw [hstart]
    exact hpath c hc

/-- Terms that are written alike are the same, up to a datatype with an empty IRI. -/
private theorem OfKind.eq_of_render {k k' : TermKind} (h : OfKind k t) (h' : OfKind k' u) {text : String}
    (hrender : t.render = .ok text) (hrender' : u.render = .ok text) : t.withoutEmptyType = u.withoutEmptyType := by
  obtain rfl : k = k' := Option.some.inj ((h.start hrender).symm.trans (h'.start hrender'))
  have hsame : t.render = u.render := hrender.trans hrender'.symm
  cases k with
  | var =>
    obtain ⟨x, rfl⟩ := h
    obtain ⟨y, rfl⟩ := h'
    rw [Term.render, Term.render] at hsame
    rw [(String.append_right_inj "?").1 (Except.ok.inj hsame)]
  | blank =>
    obtain ⟨label, rfl⟩ := h
    obtain ⟨label', rfl⟩ := h'
    rw [Term.render, Term.render] at hsame
    rw [(String.append_right_inj "_:").1 (Except.ok.inj hsame)]
  | literal =>
    obtain ⟨l, hl, rfl⟩ := h
    obtain ⟨l', hl', rfl⟩ := h'
    rw [Term.render, Term.render] at hsame
    exact congrArg Term.literal (hl.eq_of_render hl' (Except.ok.inj hsame))
  | path =>
    rw [PathShape.render_eq h, PathShape.render_eq h'] at hsame
    rw [pathText_injective h h' (String.ofList_injective (Except.ok.inj hsame))]

/-! ### Keys -/

private theorem eq_type_of_isType (h : t.isType = true) : t = .type := by
  cases t with
  | iri iri => exact congrArg Term.iri (of_decide_eq_true h)
  | var | blank | literal | sequence | alternative | inverse => cases h

/-- The key of the type predicate is not the text of a term. -/
private theorem render_ne_type (h : NodeShape t ∨ VerbShape t) : t.render ≠ .ok "a" := by
  intro hrender
  obtain ⟨k, hk⟩ := exists_ofKind h
  have hstart := hk.start hrender
  cases hstart

private theorem eq_type_of_key (h : NodeShape t ∨ VerbShape t) (hkey : t.key = .ok "a") : t = .type := by
  unfold Term.key at hkey
  split at hkey
  next htype => exact eq_type_of_isType htype
  next => exact absurd hkey (render_ne_type h)

/-- Of the terms of a query only the variables have a key that starts with a question mark. -/
theorem eq_var_of_key (h : NodeShape t ∨ VerbShape t) {x : String} (hkey : t.key = .ok ("?" ++ x)) : t = .var x := by
  unfold Term.key at hkey
  split at hkey
  next =>
    have hstart := congrArg (fun text => text.toList.head?) (Except.ok.inj hkey)
    simp at hstart
  next =>
    have hvar : OfKind .var (.var x) := ⟨x, rfl⟩
    obtain ⟨k, hk⟩ := exists_ofKind h
    rcases Term.withoutEmptyType_eq_iff.1 (hk.eq_of_render hvar hkey (by rw [Term.render])) with
      rfl | ⟨_, -, hx⟩ | ⟨_, hx, -⟩
    · rfl
    · cases hx
    · cases hx

/-- Terms with the same key are the same, up to a datatype with an empty IRI. -/
private theorem eq_of_key (ht : NodeShape t ∨ VerbShape t) (hu : NodeShape u ∨ VerbShape u) {key : String}
    (hkey : t.key = .ok key) (hkey' : u.key = .ok key) : t.withoutEmptyType = u.withoutEmptyType := by
  by_cases htype : t.isType = true
  · obtain rfl := eq_type_of_isType htype
    rw [eq_type_of_key hu (hkey'.trans hkey.symm)]
  by_cases hutype : u.isType = true
  · obtain rfl := eq_type_of_isType hutype
    rw [eq_type_of_key ht (hkey.trans hkey'.symm)]
  obtain ⟨k, hk⟩ := exists_ofKind ht
  obtain ⟨k', hk'⟩ := exists_ofKind hu
  rw [Term.key, if_neg htype] at hkey
  rw [Term.key, if_neg hutype] at hkey'
  exact hk.eq_of_render hk' hkey hkey'

end

/-! ### Terms of queries -/

/-- A text can be read as a query with the term in one of its patterns, or in the pattern that was read last. -/
def StandsInQuery (t : Term) : Prop :=
  ∃ text s, parse text = .ok s ∧ ((∃ p ∈ s.patterns, ∃ role, p.term role = t) ∨
    s.current.subject = some t ∨ s.current.predicate = some t ∨ s.current.object = some t)

private theorem StandsInQuery.shape {t : Term} (h : StandsInQuery t) : NodeShape t ∨ VerbShape t := by
  obtain ⟨text, s, hparse, hplace⟩ := h
  have hshape := parse_shaped hparse
  rcases hplace with ⟨p, hp, role, rfl⟩ | hsubject | hpredicate | hobject
  · cases role with
    | subject => exact .inl (hshape.patterns p hp).subject
    | predicate => exact .inr (hshape.patterns p hp).predicate
    | object => exact .inl (hshape.patterns p hp).object
  · exact .inl (hshape.subject t hsubject)
  · exact .inr (hshape.predicate t hpredicate)
  · exact .inl (hshape.object t hobject)

private theorem StandsInQuery.exists_key {t : Term} (h : StandsInQuery t) : ∃ key, t.key = .ok key := by
  rcases h.shape with h | h
  · exact Pattern.key_of_render h.writable.choose_spec
  · exact Pattern.key_of_render h.writable.choose_spec

/-- Every term of a query has a key, and the terms of two queries have the same key if and only if they are the same, or
differ by a datatype with an empty IRI. Only the type predicate has the key of the type predicate, and only the point of
focus that of the point of focus. -/
theorem key_eq_iff {t u : Term} (ht : StandsInQuery t) (hu : StandsInQuery u) :
    ∃ key key', t.key = .ok key ∧ u.key = .ok key' ∧
      (key = key' ↔ t = u ∨ DiffersByEmptyType t u ∨ DiffersByEmptyType u t) ∧
      (key = "a" ↔ t = .type) ∧ (key = "?POF" ↔ t = .focus) := by
  obtain ⟨key, hkey⟩ := ht.exists_key
  obtain ⟨key', hkey'⟩ := hu.exists_key
  refine ⟨key, key', hkey, hkey', ?_, ⟨fun h => ?_, fun h => ?_⟩, ⟨fun h => ?_, fun h => ?_⟩⟩
  · rw [← Term.withoutEmptyType_eq_iff]
    constructor
    · rintro rfl
      exact eq_of_key ht.shape hu.shape hkey hkey'
    · intro h
      rw [← t.key_withoutEmptyType, h, u.key_withoutEmptyType, hkey'] at hkey
      exact (Except.ok.inj hkey).symm
  · exact eq_type_of_key ht.shape (h ▸ hkey)
  · subst h
    exact (Except.ok.inj hkey).symm
  · have hfocus : "?POF" = "?" ++ "POF" := rfl
    exact eq_var_of_key ht.shape (by rw [hkey, h, hfocus])
  · subst h
    exact (Except.ok.inj hkey).symm

/-- A text with an empty IRI for its datatype and the same text without one have the same key. -/
theorem key_eq_iff_empty_type : ∃ s, parse "SELECT * \x7b ?s < \"x\"^^<> . ?t ?q \"x\" \x7d".toList = .ok s ∧
    ∃ p ∈ s.patterns, ∃ q ∈ s.patterns, p.object ≠ q.object ∧
      ∃ key, p.object.key = .ok key ∧ q.object.key = .ok key := by
  have hread : ((parse "SELECT * \x7b ?s < \"x\"^^<> . ?t ?q \"x\" \x7d".toList).toOption.map fun s =>
      s.patterns.map fun p => literalOf? p.object) = some [some ⟨"x", .datatype ""⟩, some (.plain "x")] := by
    decide +kernel
  cases hparse : parse "SELECT * \x7b ?s < \"x\"^^<> . ?t ?q \"x\" \x7d".toList with
  | error e =>
    rw [hparse] at hread
    cases hread
  | ok s =>
    simp only [hparse, Except.toOption, Option.map_some, Option.some.injEq] at hread
    obtain ⟨p, ps, hpatterns, hp, hps⟩ := List.map_eq_cons_iff.1 hread
    obtain ⟨q, rfl, hq⟩ := List.map_eq_singleton_iff.1 hps
    have hliteral {t : Term} {l : Literal} (h : literalOf? t = some l) : t = .literal l := by
      unfold literalOf? at h
      split at h
      · rw [Option.some.inj h]
      · cases h
    have hpmem : p ∈ s.patterns := by simp [hpatterns]
    have hqmem : q ∈ s.patterns := by simp [hpatterns]
    have hdiffers : DiffersByEmptyType p.object q.object := ⟨"x", hliteral hp, hliteral hq⟩
    obtain ⟨key, key', hkey, hkey', hiff, -⟩ := key_eq_iff (t := p.object) (u := q.object)
      ⟨_, s, hparse, .inl ⟨p, hpmem, .object, rfl⟩⟩ ⟨_, s, hparse, .inl ⟨q, hqmem, .object, rfl⟩⟩
    obtain rfl := hiff.2 (.inr (.inl hdiffers))
    refine ⟨s, rfl, p, hpmem, q, hqmem, ?_, key, hkey, hkey'⟩
    rw [hliteral hp, hliteral hq]
    simp [Literal.plain]

end Query

end PointOfFocus
